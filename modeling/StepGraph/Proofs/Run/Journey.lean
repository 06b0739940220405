import StepGraph.Proofs.Run.Budget
import StepGraph.Proofs.Run.Dialogue

namespace StepGraph

namespace Event

def startedStep? : Event → Option String
  | .started _ step _ _ => some step
  | _ => none

end Event

def stepsIn (trace : List Event) : List String :=
  trace.filterMap (·.startedStep?)

@[simp] theorem stepsIn_append (earlier later : List Event) :
    stepsIn (earlier ++ later) = stepsIn earlier ++ stepsIn later :=
  List.filterMap_append ..

def Talk.ofDeeds (deeds : List (Exchange Deed.Reply)) : Talk :=
  deeds.map fun exchange => ⟨.act exchange.1, exchange.2⟩

theorem Talk.ofDeeds_concat (deeds : List (Exchange Deed.Reply)) (deed : Deed)
    (reply : deed.Reply) :
    Talk.ofDeeds (deeds ++ [⟨deed, reply⟩]) = Talk.ofDeeds deeds ++ [⟨.act deed, reply⟩] :=
  List.map_append ..

namespace State

def counted (state : State) : State :=
  { state with
    iterationCount := state.iterationCount + 1
    metadata := { state.metadata with totalSteps := state.metadata.totalSteps + 1 } }

def replacedBy (state other : State) : State :=
  { other with iterationCount := state.iterationCount, metadata := state.metadata }

def startOf (state : State) (step : String) (ceiling : Int) : Event :=
  .started state.metadata.instanceId step (state.iterationCount + 1) ceiling

@[simp] theorem data_counted (state : State) : state.counted.data = state.data := rfl

@[simp] theorem errors_counted (state : State) : state.counted.errors = state.errors := rfl

@[simp] theorem iterationCount_counted (state : State) :
    state.counted.iterationCount = state.iterationCount + 1 := rfl

inductive Shows (state : State) (step : String) (ceiling : Int) : List Event → Prop
  | started : Shows state step ceiling [state.startOf step ceiling]
  | adopted (other : State) : Shows state step ceiling [state.startOf step ceiling, .adopted other]

theorem Shows.stepsIn_eq {state : State} {step : String} {ceiling : Int} {events : List Event}
    (shows : state.Shows step ceiling events) : stepsIn events = [step] := by
  cases shows <;> rfl

end State

namespace StepSpec

inductive Leaves (spec : StepSpec) (state : State) : Fallible StepReturn → State → Prop
  | nothing : Leaves spec state (.ok .nothing) state
  | same : Leaves spec state (.ok .same) state
  | recorded {result : Fallible StepReturn} {failure : Failure} (now : Instant)
      (fails : Step.failure? (Program.lift result) = some failure)
      (goesOn : spec.stopsOn failure = false) :
      Leaves spec state result (state.addError now spec.name (recordedText failure))

end StepSpec

namespace Definition

inductive Takes (definition : Definition) (ceiling : Int) (step : String) (before : State) :
    Talk → List Event → State → Prop
  | settled {spec : StepSpec} {talk : Talk} {result : Fallible StepReturn} {state after : State}
      (below : before.iterationCount < ceiling) (found : definition.step? step = some spec)
      (gives : spec.action.Gives before.counted talk result state)
      (leaves : spec.Leaves state result after) :
      Takes definition ceiling step before talk [before.startOf step ceiling] after
  | adopted {spec : StepSpec} {talk : Talk} {state other : State}
      (below : before.iterationCount < ceiling) (found : definition.step? step = some spec)
      (gives : spec.action.Gives before.counted talk (.ok (.replacement other)) state) :
      Takes definition ceiling step before talk
        [before.startOf step ceiling, .adopted (state.replacedBy other)] (state.replacedBy other)

/-- A step of the graph that is started on a state, and the decision on what follows it. -/
inductive Decides (definition : Definition) (ceiling : Int) (step : String) (before : State) :
    Talk → List Event → State → List String → Prop
  | mk {talk : Talk} {events : List Event} {between after : State} {route : Route}
      {deeds : List (Exchange Deed.Reply)} {label : Label} {key : Key} {successors : List String}
      (takes : definition.Takes ceiling step before talk events between)
      (inner : definition.isTerminal step = false) (routed : definition.route? step = some route)
      (gives : route.decision.Gives between deeds (.ok label) after)
      (isKey : label.value.key? = some key) (mapped : route.successors? key = some successors) :
      Decides definition ceiling step before (talk ++ .ofDeeds deeds)
        (events ++ [.routed step label.value successors]) after successors

theorem Takes.shows {definition : Definition} {ceiling : Int} {step : String}
    {before after : State} {talk : Talk} {events : List Event}
    (takes : definition.Takes ceiling step before talk events after) :
    before.Shows step ceiling events := by
  cases takes with
  | settled => exact .started
  | adopted => exact .adopted _

theorem Takes.stepsIn_eq {definition : Definition} {ceiling : Int} {step : String}
    {before after : State} {talk : Talk} {events : List Event}
    (takes : definition.Takes ceiling step before talk events after) : stepsIn events = [step] :=
  takes.shows.stepsIn_eq

theorem Decides.stepsIn_eq {definition : Definition} {ceiling : Int} {step : String}
    {before after : State} {talk : Talk} {events : List Event} {successors : List String}
    (decides : definition.Decides ceiling step before talk events after successors) :
    stepsIn events = [step] := by
  cases decides with
  | mk takes =>
      rw [stepsIn_append, takes.stepsIn_eq]
      rfl

end Definition

namespace Run

/-- The states in which a run starts its steps, or has been routed to its end, with all that is
asked and can be seen up to there. -/
inductive Journey (first : Run) : Talk → List Event → State → Phase → Prop
  | start : Journey first [] [] first.state (.entering (first.definition.entry.getD "") [])
  | stage {talk words : Talk} {trace events : List Event} {state after : State}
      {step next : String} {rest : List String}
      (before : Journey first talk trace state (.entering step (next :: rest)))
      (takes : first.definition.Takes first.ceiling step state words events after) :
      Journey first (talk ++ words) (trace ++ events) after (.entering next rest)
  | decision {talk words : Talk} {trace events : List Event} {state after : State}
      {step next : String} {rest : List String}
      (before : Journey first talk trace state (.entering step []))
      (decides : first.definition.Decides first.ceiling step state words events after
        (next :: rest)) :
      Journey first (talk ++ words) (trace ++ events) after (.entering next rest)
  | conclusion {talk words : Talk} {trace events : List Event} {state after : State}
      {step : String} (before : Journey first talk trace state (.entering step []))
      (decides : first.definition.Decides first.ceiling step state words events after []) :
      Journey first (talk ++ words) (trace ++ events) after (.concluded step)

/-- Where a run stands with respect to the last place of its journey. -/
inductive Underway (first : Run) : Talk → List Event → State → Phase → Prop
  | fresh : Underway first [] [] first.state .fresh
  | between {talk : Talk} {trace : List Event} {state : State} {phase : Phase}
      (journey : first.Journey talk trace state phase) : Underway first talk trace state phase
  | inside {talk said : Talk} {trace : List Event} {before state : State} {step : String}
      {rest : List String} {spec : StepSpec} {program : Step}
      (journey : first.Journey talk trace before (.entering step rest))
      (below : before.iterationCount < first.ceiling)
      (found : first.definition.step? step = some spec)
      (left : spec.action.Left before.counted said program state) :
      Underway first (talk ++ said) (trace ++ [before.startOf step first.ceiling]) state
        (.inside spec rest program)
  | adopted {talk said : Talk} {trace : List Event} {before state other : State} {step : String}
      {rest : List String} {spec : StepSpec}
      (journey : first.Journey talk trace before (.entering step rest))
      (below : before.iterationCount < first.ceiling)
      (found : first.definition.step? step = some spec)
      (gives : spec.action.Gives before.counted said (.ok (.replacement other)) state) :
      Underway first (talk ++ said)
        (trace ++ [before.startOf step first.ceiling, .adopted (state.replacedBy other)])
        (state.replacedBy other) (.inside spec rest (.done .same))
  | routing {talk words : Talk} {trace events : List Event} {before between state : State}
      {step : String} {route : Route} {deeds : List (Exchange Deed.Reply)} {program : Router}
      (journey : first.Journey talk trace before (.entering step []))
      (takes : first.definition.Takes first.ceiling step before words events between)
      (inner : first.definition.isTerminal step = false)
      (routed : first.definition.route? step = some route)
      (left : route.decision.Left between deeds program state) :
      Underway first (talk ++ words ++ .ofDeeds deeds) (trace ++ events) state
        (.routing step route program)

variable {first run last : Run} {talk : Talk} {trace : List Event}

/-- A run has started at most one step more than the last place of its journey tells. -/
theorem Underway.place {state : State} {phase : Phase}
    (underway : first.Underway talk trace state phase) :
    ∃ sofar earlier events before place, first.Journey sofar earlier before place ∧
      trace = earlier ++ events ∧ (events = [] ∨
        ∃ step rest, place = .entering step rest ∧ before.Shows step first.ceiling events) := by
  cases underway with
  | fresh => exact ⟨_, _, [], _, _, .start, rfl, .inl rfl⟩
  | between journey => exact ⟨_, _, [], _, _, journey, (List.append_nil _).symm, .inl rfl⟩
  | inside journey => exact ⟨_, _, _, _, _, journey, rfl, .inr ⟨_, _, rfl, .started⟩⟩
  | adopted journey => exact ⟨_, _, _, _, _, journey, rfl, .inr ⟨_, _, rfl, .adopted _⟩⟩
  | routing journey takes => exact ⟨_, _, _, _, _, journey, rfl, .inr ⟨_, _, rfl, takes.shows⟩⟩

/-- A step that comes back has been taken from the last place of the journey on. -/
theorem Underway.takes {spec : StepSpec} {rest : List String} {program : Step}
    {result : Fallible StepReturn} {state after : State}
    (underway : first.Underway talk trace state (.inside spec rest program))
    (back : program = Program.lift result) (leaves : spec.Leaves state result after) :
    ∃ sofar words earlier events before,
      first.Journey sofar earlier before (.entering spec.name rest) ∧
      first.definition.Takes first.ceiling spec.name before words events after ∧
      talk = sofar ++ words ∧ trace = earlier ++ events := by
  cases underway with
  | between journey => cases journey
  | inside journey below found left =>
      subst back
      cases Definition.name_of_step? found
      exact ⟨_, _, _, _, _, journey, .settled below found left.gives leaves, rfl, rfl⟩
  | adopted journey below found gives =>
      cases Definition.name_of_step? found
      cases leaves with
      | same => exact ⟨_, _, _, _, _, journey, .adopted below found gives, rfl, rfl⟩
      | nothing => cases back
      | recorded now fails =>
          rw [← back] at fails
          cases fails

theorem exists_lift_of_failure? {program : Step} {failure : Failure}
    (fails : program.failure? = some failure) : ∃ result, program = Program.lift result := by
  cases program with
  | done value => exact ⟨.ok value, rfl⟩
  | fail failure => exact ⟨.error failure, rfl⟩
  | _ => cases fails

theorem Settles.leaves {settled : Run} {now : Instant} {spec : StepSpec} {program : Step}
    (settles : run.Settles now spec program settled) :
    ∃ result, program = Program.lift result ∧ spec.Leaves run.state result settled.state := by
  cases settles with
  | nothing => exact ⟨.ok .nothing, rfl, .nothing⟩
  | same => exact ⟨.ok .same, rfl, .same⟩
  | recorded fails goesOn =>
      obtain ⟨result, rfl⟩ := exists_lift_of_failure? fails
      exact ⟨result, rfl, .recorded now fails goesOn⟩

theorem Goes.underway {events : List Event} {next : Run} {circumstances : Circumstances}
    {state : State} {phase : Phase} (underway : first.Underway talk trace state phase)
    (sameDefinition : run.definition = first.definition) (sameCeiling : run.ceiling = first.ceiling)
    (sameState : run.state = state) (samePhase : run.phase = phase)
    (goes : run.Goes circumstances next events) :
    first.Underway talk (trace ++ events) next.state next.phase := by
  cases goes with
  | begin stands =>
      cases stands.symm.trans samePhase
      cases underway with
      | fresh =>
          rw [sameDefinition, sameState]
          exact .between .start
      | between journey => cases journey
  | enter stands below _ found =>
      cases stands.symm.trans samePhase
      rw [sameState, sameCeiling] at below
      rw [sameDefinition] at found
      cases underway with
      | between journey =>
          rw [← List.append_nil talk, sameCeiling, sameState]
          exact .inside journey below found (sameState ▸ .start _ _)
  | read stands =>
      cases stands.symm.trans samePhase
      rw [List.append_nil, sameState]
      cases underway with
      | between journey => cases journey
      | inside journey below found left => exact .inside journey below found left.read
  | write stands =>
      cases stands.symm.trans samePhase
      rw [List.append_nil]
      cases underway with
      | between journey => cases journey
      | inside journey below found left => exact .inside journey below found left.write
  | adopt stands =>
      cases stands.symm.trans samePhase
      cases underway with
      | between journey => cases journey
      | inside journey below found left =>
          subst sameState
          rw [List.append_assoc]
          exact .adopted journey below found left.done
  | onward stands settles =>
      cases stands.symm.trans samePhase
      obtain ⟨result, back, leaves⟩ := settles.leaves
      obtain ⟨_, _, _, _, _, journey, takes, rfl, rfl⟩ := underway.takes back (sameState ▸ leaves)
      rw [List.append_nil]
      exact .between (journey.stage takes)
  | route stands settles _ inner routed =>
      cases stands.symm.trans samePhase
      rw [sameDefinition] at inner routed
      obtain ⟨result, back, leaves⟩ := settles.leaves
      obtain ⟨_, _, _, _, _, journey, takes, rfl, rfl⟩ := underway.takes back (sameState ▸ leaves)
      rw [List.append_nil, ← List.append_nil (_ ++ _ : Talk)]
      exact .routing journey takes inner routed (.start _ _)
  | routerRead stands =>
      cases stands.symm.trans samePhase
      rw [List.append_nil, sameState]
      cases underway with
      | between journey => cases journey
      | routing journey takes inner routed left =>
          exact .routing journey takes inner routed left.read
  | routerWrite stands =>
      cases stands.symm.trans samePhase
      rw [List.append_nil]
      cases underway with
      | between journey => cases journey
      | routing journey takes inner routed left =>
          exact .routing journey takes inner routed left.write
  | @follow step route label key successors stands isKey mapped =>
      cases stands.symm.trans samePhase
      cases underway with
      | between journey => cases journey
      | routing journey takes inner routed left =>
          subst sameState
          have decides := Definition.Decides.mk takes inner routed
            left.done isKey mapped
          rw [List.append_assoc, List.append_assoc]
          cases successors with
          | nil => exact .between (journey.conclusion decides)
          | cons => exact .between (journey.decision decides)

theorem Asks.underway {effect : Effect} {onward : effect.Reply → Phase} {state : State}
    {phase : Phase} (underway : first.Underway talk trace state phase)
    (samePhase : run.phase = phase) (asks : run.Asks effect onward) (reply : effect.Reply) :
    first.Underway (talk ++ [⟨effect, reply⟩]) trace state (onward reply) := by
  cases asks with
  | step stands =>
      cases stands.symm.trans samePhase
      cases underway with
      | between journey => cases journey
      | inside journey below found left =>
          rw [List.append_assoc]
          exact .inside journey below found (left.ask reply)
  | router stands =>
      cases stands.symm.trans samePhase
      cases underway with
      | between journey => cases journey
      | routing journey takes inner routed left =>
          rw [List.append_assoc, ← Talk.ofDeeds_concat]
          exact .routing journey takes inner routed (left.ask reply)

theorem Dialogue.underway (fresh : first.phase = .fresh)
    (dialogue : first.Dialogue talk trace run) :
    first.Underway talk trace run.state run.phase := by
  induction dialogue with
  | start =>
      rw [fresh]
      exact .fresh
  | go before _ moved ih =>
      exact (goes_of_move moved).underway ih before.passage.course.definition_eq
        before.passage.ceiling_eq rfl rfl
  | ask _ _ asked reply ih => exact (asks_of_move asked).underway ih rfl reply

inductive Completes (first : Run) : Talk → List Event → State → String → Prop
  | terminal {talk words : Talk} {trace events : List Event} {before after : State} {step : String}
      (journey : first.Journey talk trace before (.entering step []))
      (takes : first.definition.Takes first.ceiling step before words events after)
      (isTerminal : first.definition.isTerminal step = true) :
      Completes first (talk ++ words) (trace ++ events) after step
  | concluded {talk : Talk} {trace : List Event} {state : State} {step : String}
      (journey : first.Journey talk trace state (.concluded step)) :
      Completes first talk trace state step

theorem Stops.completes {circumstances : Circumstances} {step : String} {state : State}
    {phase : Phase} (underway : first.Underway talk trace state phase)
    (sameDefinition : run.definition = first.definition) (sameState : run.state = state)
    (samePhase : run.phase = phase) (stops : run.Stops circumstances last (.completed step)) :
    first.Completes talk trace last.state step := by
  cases stops with
  | completed stands settles isTerminal =>
      cases stands.symm.trans samePhase
      rw [sameDefinition] at isTerminal
      obtain ⟨result, back, leaves⟩ := settles.leaves
      obtain ⟨_, _, _, _, _, journey, takes, rfl, rfl⟩ := underway.takes back (sameState ▸ leaves)
      exact .terminal journey takes isTerminal
  | concluded stands =>
      cases stands.symm.trans samePhase
      cases underway with
      | between journey =>
          subst sameState
          exact .concluded journey

theorem Dialogue.completes {circumstances : Circumstances} {step : String}
    (fresh : first.phase = .fresh) (dialogue : first.Dialogue talk trace run)
    (isOver : run.move circumstances = .over last (.completed step)) :
    first.Completes talk trace last.state step :=
  (stops_of_move isOver).completes (dialogue.underway fresh)
    dialogue.passage.course.definition_eq rfl rfl

end Run

end StepGraph
