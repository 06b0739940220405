import StepGraph.Proofs.Graph.Rehearsal
import StepGraph.Proofs.Run.Journey

namespace StepGraph

namespace Event

def answer? : Event → Option Value
  | .routed _ outcome _ => some outcome
  | _ => none

def Declared (definition : Definition) : Event → Prop
  | .routed step outcome _ =>
      ∃ route, definition.route? step = some route ∧ route.Declares (.plain outcome)
  | _ => True

end Event

def answersIn (trace : List Event) : List Value :=
  trace.filterMap (·.answer?)

@[simp] theorem answersIn_append (earlier later : List Event) :
    answersIn (earlier ++ later) = answersIn earlier ++ answersIn later :=
  List.filterMap_append ..

namespace Definition

def rehearse (definition : Definition) (ceiling : Int) (script : List Outcome) : Solo :=
  Executor.begin ⟨⟨[definition.rehearsal ceiling]⟩, defaultCeiling⟩ (definition.rehearsal ceiling)
    { data := .script script } none

/-- A trace of some steps that were started and some outcomes that were answered, all of them
declared. -/
structure Shows (definition : Definition) (trace : List Event) (steps : List String)
    (outcomes : List Outcome) : Prop where
  steps_eq : stepsIn trace = steps
  answers_eq : answersIn trace = outcomes.map (·.value)
  declared : ∀ event ∈ trace, event.Declared definition

variable {definition : Definition} {ceiling : Int}

theorem Shows.start : definition.Shows [] [] [] :=
  ⟨rfl, rfl, fun _ member => absurd member List.not_mem_nil⟩

theorem Shows.append {earlier later : List Event} {steps further : List String}
    {outcomes others : List Outcome} (shows : definition.Shows earlier steps outcomes)
    (more : definition.Shows later further others) :
    definition.Shows (earlier ++ later) (steps ++ further) (outcomes ++ others) where
  steps_eq := by rw [stepsIn_append, shows.steps_eq, more.steps_eq]
  answers_eq := by rw [answersIn_append, shows.answers_eq, more.answers_eq, List.map_append]
  declared event member :=
    (List.mem_append.mp member).elim (shows.declared event) (more.declared event)

theorem shows_of_step {state : State} {step : String} {events : List Event}
    (shows : state.Shows step ceiling events) : definition.Shows events [step] [] where
  steps_eq := shows.stepsIn_eq
  answers_eq := by cases shows <;> rfl
  declared event member := by
    cases shows <;> simp only [List.mem_cons, List.not_mem_nil, or_false] at member
    · subst member
      trivial
    · rcases member with rfl | rfl <;> trivial

theorem Offers.declares (structured : definition.Structured) {step : String} {outcome : Outcome}
    {successors : List String} (offers : definition.Offers step outcome successors) :
    definition.declares step ∧ ∀ name ∈ successors, definition.declares name := by
  obtain ⟨route, routed, -, mapped⟩ := offers
  have isRoute := List.mem_of_find?_eq_some routed
  have isSource : route.source = step := by simpa using List.find?_some routed
  obtain ⟨edge, member, rfl⟩ := Route.edge_of_successors? mapped
  exact ⟨isSource ▸ structured.source_declared route isRoute,
    structured.successor_declared route isRoute edge member⟩

theorem Offers.shows {step : String} {outcome : Outcome} {successors : List String}
    (offers : definition.Offers step outcome successors) :
    definition.Shows [.routed step outcome.value successors] [] [outcome] where
  steps_eq := rfl
  answers_eq := rfl
  declared event member := by
    obtain ⟨route, routed, ⟨declared, isOutcome, sameKey⟩, _⟩ := offers
    rw [List.mem_singleton.mp member]
    exact ⟨route, routed, declared, isOutcome, sameKey ▸ outcome.key_eq⟩

/-! ### From walks to rehearsals -/

def rehearsing (definition : Definition) (ceiling : Int) (phase : Phase) (state : State)
    (trace : List Event) : Solo where
  run := { definition := definition.rehearsal ceiling, ceiling, state, phase }
  admitted := true
  events := trace.reverse

theorem rehearse_eq (script : List Outcome) :
    definition.rehearse ceiling script =
      definition.rehearsing ceiling .fresh { data := .script script } [] := by
  simp [rehearse, rehearsing, Executor.begin, Run.create, Registry.isRegistered, Registry.find?,
    rehearsal]

theorem comes_go {script : List Outcome} {moves : Nat} {phase : Phase} {state : State}
    {trace : List Event} (next : Phase) (after : State) (events : List Event)
    (comes : (definition.rehearse ceiling script).Comes moves
      (definition.rehearsing ceiling phase state trace))
    (moved : (definition.rehearsing ceiling phase state trace).run.move ⟨0, true, false⟩ =
      .go (definition.rehearsing ceiling next after trace).run events) :
    (definition.rehearse ceiling script).Comes (moves + 1)
      (definition.rehearsing ceiling next after (trace ++ events)) := by
  refine comes.advance ?_
  rw [Solo.advance_of_moved moved]
  simp only [rehearsing, List.reverse_append]

theorem comes_inside {script : List Outcome} {moves : Nat} {state : State} {trace : List Event}
    {step : String} {rest : List String} (declared : definition.declares step)
    (below : state.iterationCount < ceiling)
    (comes : (definition.rehearse ceiling script).Comes moves
      (definition.rehearsing ceiling (.entering step rest) state trace)) :
    ∃ spec : StepSpec, spec.name = step ∧
      (definition.rehearse ceiling script).Comes (moves + 1)
        (definition.rehearsing ceiling (.inside spec rest (.done .nothing)) state.counted
          (trace ++ [state.startOf step ceiling])) := by
  obtain ⟨spec, member, isName⟩ := List.mem_map.mp (List.contains_iff_mem.mp declared)
  have isFound : (definition.step? step).isSome :=
    List.find?_isSome.mpr ⟨spec, member, by simp [isName]⟩
  obtain ⟨spec, found⟩ := Option.isSome_iff_exists.mp isFound
  have idle : (definition.rehearsal ceiling).step? step = some spec.idle := by
    rw [step?_rehearsal, found]
    rfl
  exact ⟨spec.idle, name_of_step? idle, comes_go _ _ _ comes (Run.move_entering rfl below rfl idle)⟩

/-- The rehearsal on a script comes to a phase by starting some steps and with some outcomes
answered, when others are left. -/
def Plays (definition : Definition) (ceiling : Int) (script : List Outcome) (steps : List String)
    (used unused : List Outcome) (phase : Phase) : Prop :=
  ∃ moves state trace,
    (definition.rehearse ceiling script).Comes moves
      (definition.rehearsing ceiling phase state trace) ∧
    state.data = .script unused ∧ state.iterationCount = steps.length ∧
    definition.Shows trace steps used

namespace Plays

variable {script used unused : List Outcome} {steps : List String} {step : String}

theorem start {entry : String} (isEntry : definition.entry = some entry) (script : List Outcome) :
    definition.Plays ceiling script [] [] script (.entering entry []) := by
  refine ⟨1, { data := .script script }, [], ?_, rfl, rfl, .start⟩
  have begun : (definition.rehearse ceiling script).Comes 0
      (definition.rehearsing ceiling .fresh { data := .script script } []) :=
    rehearse_eq script ▸ .start
  refine comes_go _ _ [] begun ?_
  simp [rehearsing, Run.move, rehearsal, isEntry]

theorem stage {next : String} {rest : List String} (declared : definition.declares step)
    (below : (steps.length : Int) < ceiling)
    (plays : definition.Plays ceiling script steps used unused (.entering step (next :: rest))) :
    definition.Plays ceiling script (steps ++ [step]) used unused (.entering next rest) := by
  obtain ⟨moves, state, trace, comes, hdata, hcount, shows⟩ := plays
  obtain ⟨spec, -, inside⟩ := comes_inside declared (hcount ▸ below) comes
  refine ⟨_, state.counted, _, comes_go _ _ [] inside rfl, hdata, ?_, ?_⟩
  · simp [hcount]
  · simpa using shows.append (shows_of_step .started)

theorem decision {outcome : Outcome} {successors : List String}
    (structured : definition.Structured) (below : (steps.length : Int) < ceiling)
    (offers : definition.Offers step outcome successors)
    (plays : definition.Plays ceiling script steps used (outcome :: unused) (.entering step [])) :
    definition.Plays ceiling script (steps ++ [step]) (used ++ [outcome]) unused
      (.after step successors) := by
  obtain ⟨moves, state, trace, comes, hdata, hcount, shows⟩ := plays
  obtain ⟨route, routed, -, mapped⟩ := id offers
  obtain ⟨spec, isName, inside⟩ :=
    comes_inside (offers.declares structured).1 (hcount ▸ below) comes
  subst isName
  have inner : (definition.rehearsal ceiling).isTerminal spec.name = false :=
    offers.not_isTerminal structured
  have recites : (definition.rehearsal ceiling).route? spec.name = some route.reciting := by
    rw [route?_rehearsal, routed]
    rfl
  have remapped : route.reciting.successors? outcome.key = some successors := mapped
  have routing := comes_go (.routing spec.name route.reciting .recite) state.counted [] inside <| by
    simp [rehearsing, Run.move, Run.moveStep, Run.leave, Run.proceed, inner, recites,
      Route.reciting]
  let popped : State := { state.counted with data := .script unused }
  have read := comes_go
    (.routing spec.name route.reciting (.write popped (.done (.plain outcome.value))))
    state.counted [] routing <| by
      simp [rehearsing, Run.move, Run.moveRouter, Router.recite, hdata, popped, Data.script]
  have written := comes_go (.routing spec.name route.reciting (.done (.plain outcome.value)))
    popped [] read rfl
  have followed := comes_go (.after spec.name successors) popped
    [.routed spec.name outcome.value successors] written <| by
      simp [rehearsing, Run.move, Run.moveRouter, Run.follow, Label.value, outcome.key_eq, remapped]
  refine ⟨_, _, _, followed, rfl, ?_, ?_⟩
  · change state.iterationCount + 1 = _
    simp [hcount]
  · simpa using (shows.append (shows_of_step .started)).append offers.shows

/-- The successors in front of the last are passed one after the other. -/
theorem stages {stages : List String} {next : String}
    (declared : ∀ stage ∈ stages, definition.declares stage)
    (below : ((steps ++ stages).length : Int) < ceiling)
    (plays : definition.Plays ceiling script steps used unused (.after step (stages ++ [next]))) :
    definition.Plays ceiling script (steps ++ stages) used unused (.entering next []) := by
  induction stages generalizing steps step with
  | nil =>
      rw [List.append_nil]
      exact plays
  | cons first stages ih =>
      have enough : (steps.length : Int) < ceiling := by
        simp only [List.length_append, List.length_cons] at below
        omega
      have more : stages ++ [next] ≠ [] := List.concat_ne_nil next stages
      obtain ⟨second, rest, heq⟩ := List.exists_cons_of_ne_nil more
      have plays : definition.Plays ceiling script steps used unused
          (.entering first (stages ++ [next])) := plays
      rw [heq] at plays
      have passed := plays.stage (declared first List.mem_cons_self) enough
      have passed : definition.Plays ceiling script (steps ++ [first]) used unused
          (.after first (stages ++ [next])) := by
        rw [heq]
        exact passed
      rw [List.append_cons] at below ⊢
      exact ih (fun stage member => declared stage (List.mem_cons_of_mem _ member)) below passed

theorem onward {outcome : Outcome} {stages : List String} {next : String}
    (structured : definition.Structured)
    (below : ((steps ++ step :: stages).length : Int) < ceiling)
    (offers : definition.Offers step outcome (stages ++ [next]))
    (plays : definition.Plays ceiling script steps used (outcome :: unused) (.entering step [])) :
    definition.Plays ceiling script (steps ++ step :: stages) (used ++ [outcome]) unused
      (.entering next []) := by
  have started : (steps.length : Int) < ceiling := by
    simp only [List.length_append, List.length_cons] at below
    omega
  have decided := plays.decision structured started offers
  rw [List.append_cons] at below ⊢
  exact decided.stages
    (fun stage member => (offers.declares structured).2 stage (List.mem_append_left _ member)) below

theorem walk {name last : String} {outcomes : List Outcome} {further : List String}
    (structured : definition.Structured)
    (below : ((steps ++ further).length : Int) < ceiling)
    (walk : definition.Walk name outcomes further last)
    (plays : definition.Plays ceiling script steps used (outcomes ++ unused)
      (.entering name [])) :
    ∃ passed, passed ++ [last] = steps ++ name :: further ∧
      definition.Plays ceiling script passed (used ++ outcomes) unused (.entering last []) := by
  induction walk generalizing steps used with
  | here => exact ⟨steps, rfl, by simpa using plays⟩
  | onward offers _ ih =>
      simp only [List.length_append, List.length_cons] at below
      have next := plays.onward structured
        (by simp only [List.length_append, List.length_cons]; omega) offers
      obtain ⟨passed, heq, plays⟩ := ih
        (by simp only [List.length_append, List.length_cons]; omega) next
      exact ⟨passed, by simpa using heq, by simpa using plays⟩

theorem terminal (structured : definition.Structured) (below : (steps.length : Int) < ceiling)
    (isTerminal : definition.isTerminal step = true)
    (plays : definition.Plays ceiling script steps used unused (.entering step [])) :
    ∃ moves after,
      (definition.rehearse ceiling script).finish moves = (after, some (.completed step)) ∧
        definition.Shows after.events.reverse (steps ++ [step]) used := by
  obtain ⟨moves, state, trace, comes, -, hcount, shows⟩ := plays
  have declared := structured.terminal_declared step (List.contains_iff_mem.mp isTerminal)
  obtain ⟨spec, rfl, inside⟩ := comes_inside declared (hcount ▸ below) comes
  have isTerminal : (definition.rehearsal ceiling).isTerminal spec.name = true := isTerminal
  refine ⟨moves + 1 + 1, definition.rehearsing ceiling (.inside spec [] (.done .nothing))
    state.counted (trace ++ [state.startOf spec.name ceiling]), inside.finish ?_, ?_⟩
  · simp [rehearsing, Solo.advance, Solo.cancelled, Run.move, Run.moveStep, Run.leave, Run.proceed,
      isTerminal]
  · simpa [rehearsing] using shows.append (shows_of_step .started)

theorem concluded {name : String}
    (plays : definition.Plays ceiling script steps used unused (.concluded name)) :
    ∃ moves after,
      (definition.rehearse ceiling script).finish moves = (after, some (.completed name)) ∧
        definition.Shows after.events.reverse steps used := by
  obtain ⟨moves, state, trace, comes, -, -, shows⟩ := plays
  exact ⟨_, _, comes.finish rfl, by simpa [rehearsing] using shows⟩

theorem completes {name : String} {outcomes : List Outcome} {further : List String}
    (structured : definition.Structured)
    (below : ((steps ++ further).length : Int) < ceiling)
    (leads : definition.Leads name outcomes further)
    (plays : definition.Plays ceiling script steps used outcomes (.entering name [])) :
    ∃ moves after last,
      (definition.rehearse ceiling script).finish moves = (after, some (.completed last)) ∧
        definition.Shows after.events.reverse (steps ++ name :: further) (used ++ outcomes) := by
  induction leads generalizing steps used with
  | @terminal name isTerminal =>
      rw [List.append_nil] at below
      obtain ⟨moves, after, finished, shows⟩ := plays.terminal structured below isTerminal
      exact ⟨moves, after, name, finished, by simpa using shows⟩
  | @concluded name _ offers =>
      rw [List.append_nil] at below
      have concluded := plays.decision structured below offers
      obtain ⟨moves, after, finished, shows⟩ := concluded.concluded
      exact ⟨moves, after, name, finished, shows⟩
  | onward offers _ ih =>
      simp only [List.length_append, List.length_cons] at below
      have next := plays.onward structured
        (by simp only [List.length_append, List.length_cons]; omega) offers
      obtain ⟨moves, after, last, finished, shows⟩ := ih
        (by simp only [List.length_append, List.length_cons]; omega) next
      exact ⟨moves, after, last, finished, by simpa using shows⟩

end Plays

theorem Takes.rehearsal {limit : Int} {step : String} {before after : State} {talk : Talk}
    {events : List Event}
    (takes : (definition.rehearsal ceiling).Takes limit step before talk events after) :
    after = before.counted := by
  have idle : ∀ spec, (definition.rehearsal ceiling).step? step = some spec →
      spec.action = .done .nothing := by
    intro spec found
    rw [step?_rehearsal] at found
    obtain ⟨original, -, rfl⟩ := Option.map_eq_some_iff.mp found
    rfl
  cases takes with
  | settled below found gives leaves =>
      rw [idle _ found] at gives
      obtain ⟨-, rfl, rfl⟩ := gives
      cases leaves with
      | nothing => rfl
      | recorded _ fails => cases fails
  | adopted below found gives =>
      rw [idle _ found] at gives
      obtain ⟨-, same, -⟩ := gives
      cases same

/-- A decision of a rehearsal takes the next outcome off the script. -/
theorem Decides.rehearsal (structured : definition.Structured) {limit : Int} {step : String}
    {before after : State} {talk : Talk} {events : List Event} {successors : List String}
    {unused : List Outcome} (hdata : before.data = .script unused)
    (decides : (definition.rehearsal ceiling).Decides limit step before talk events after
      successors) :
    ∃ outcome rest, unused = outcome :: rest ∧ after.data = .script rest ∧
      definition.Offers step outcome successors ∧ definition.Shows events [step] [outcome] := by
  cases decides with
  | @mk _ _ between _ _ _ label key _ takes inner routed gives isKey mapped =>
      have counted := takes.rehearsal
      rw [route?_rehearsal] at routed
      obtain ⟨route, isRoute, rfl⟩ := Option.map_eq_some_iff.mp routed
      have between_data : between.data = .script unused := by rw [counted]; exact hdata
      change (Router.recite).Gives between _ _ _ at gives
      simp only [Router.recite, Program.Gives, between_data, Data.script] at gives
      cases unused with
      | nil => cases gives.2.1
      | cons outcome rest =>
          obtain ⟨-, same, rfl⟩ := gives
          cases same
          cases isKey.symm.trans outcome.key_eq
          have offers : definition.Offers step outcome successors := by
            obtain ⟨edge, found, -⟩ := Option.map_eq_some_iff.mp mapped
            have sameKey : edge.outcome.key = outcome.key := by simpa using List.find?_some found
            exact ⟨route, isRoute,
              (structured.outcomes_eq_edges route (List.mem_of_find?_eq_some isRoute) _).mpr
                ⟨edge, List.mem_of_find?_eq_some found, sameKey⟩, mapped⟩
          exact ⟨outcome, rest, rfl, rfl, offers, (shows_of_step takes.shows).append offers.shows⟩

end Definition

end StepGraph
