import StepGraph.Run

/-! What one move of a run can do. `Goes` and `Stops` list the moves that leave the run under way
and those that end it; every property of runs is read off these two lists. -/

namespace StepGraph

def Step.failure? : Step → Option Failure
  | .fail .interrupted => none
  | .fail failure => some failure
  | .done (.other kindName) =>
      some (.fault .type s!"step returned {kindName}, expected WorkflowState or None")
  | _ => none

/-- A step or a router of the run has been told to stop. -/
inductive Phase.Interrupted : Phase → Prop
  | inside (spec : StepSpec) (rest : List String) :
      Interrupted (.inside spec rest (.fail .interrupted))
  | routing (step : String) (route : Route) : Interrupted (.routing step route (.fail .interrupted))

namespace StepSpec

def recordedText : Failure → String
  | .stepFailed _ text _ => text
  | failure => failure.recorded

def stopsOn (spec : StepSpec) : Failure → Bool
  | .stepFailed _ _ fatal => fatal || spec.fatal
  | _ => spec.fatal

end StepSpec

namespace Run

def started (run : Run) (spec : StepSpec) (rest : List String) : Run :=
  { run with
    state :=
      { run.state with
        iterationCount := run.state.iterationCount + 1
        metadata := { run.state.metadata with totalSteps := run.state.metadata.totalSteps + 1 } }
    phase := .inside spec rest spec.action }

def failed (run : Run) (now : Instant) (spec : StepSpec) (failure : Failure) : Run :=
  { run with state := run.state.addError now spec.name (StepSpec.recordedText failure) }

theorem failStep_eq (run : Run) (circumstances : Circumstances) (spec : StepSpec)
    (rest : List String) (failure : Failure) :
    run.failStep circumstances spec rest failure =
      if spec.stopsOn failure then
        .over (run.failed circumstances.now spec failure)
          (.raised (.stepFailed spec.name (StepSpec.recordedText failure) true) (some failure))
      else (run.failed circumstances.now spec failure).proceed circumstances spec.name rest [] := by
  cases failure <;> rfl

/-- How a step that has come back leaves the run, where it does not replace the state. -/
inductive Settles (run : Run) (now : Instant) (spec : StepSpec) : Step → Run → Prop
  | nothing : Settles run now spec (.done .nothing) run
  | same : Settles run now spec (.done .same) run
  | recorded {program : Step} {failure : Failure} (fails : program.failure? = some failure)
      (goesOn : spec.stopsOn failure = false) :
      Settles run now spec program (run.failed now spec failure)

inductive Goes (run : Run) (circumstances : Circumstances) : Run → List Event → Prop
  | begin (phase : run.phase = .fresh) (admitted : circumstances.admitted = true) :
      Goes run circumstances
        { run with phase := .entering (run.definition.entry.getD "") [] } []
  | enter {step : String} {rest : List String} {spec : StepSpec}
      (phase : run.phase = .entering step rest)
      (below : run.state.iterationCount < run.ceiling) (live : circumstances.cancelled = false)
      (found : run.definition.step? step = some spec) :
      Goes run circumstances (run.started spec rest)
        [.started run.state.metadata.instanceId step (run.state.iterationCount + 1) run.ceiling]
  | read {spec : StepSpec} {rest : List String} {next : State → Step}
      (phase : run.phase = .inside spec rest (.read next)) :
      Goes run circumstances { run with phase := .inside spec rest (next run.state) } []
  | write {spec : StepSpec} {rest : List String} {state : State} {next : Step}
      (phase : run.phase = .inside spec rest (.write state next)) :
      Goes run circumstances { run with state, phase := .inside spec rest next } []
  | adopt {spec : StepSpec} {rest : List String} {state : State}
      (phase : run.phase = .inside spec rest (.done (.replacement state))) :
      Goes run circumstances
        { run.adopt state with phase := .inside spec rest (.done .same) }
        [.adopted (run.adopt state).state]
  | onward {spec : StepSpec} {next : String} {rest : List String} {program : Step}
      {settled : Run} (phase : run.phase = .inside spec (next :: rest) program)
      (settles : run.Settles circumstances.now spec program settled)
      (live : circumstances.cancelled = false) :
      Goes run circumstances { settled with phase := .entering next rest } []
  | route {spec : StepSpec} {program : Step} {settled : Run} {route : Route}
      (phase : run.phase = .inside spec [] program)
      (settles : run.Settles circumstances.now spec program settled)
      (live : circumstances.cancelled = false)
      (inner : run.definition.isTerminal spec.name = false)
      (routed : run.definition.route? spec.name = some route) :
      Goes run circumstances
        { settled with
          phase := .routing spec.name route
            (route.router.getD (.done (.plain defaultOutcome.value))) } []
  | routerRead {step : String} {route : Route} {next : State → Router}
      (phase : run.phase = .routing step route (.read next)) :
      Goes run circumstances { run with phase := .routing step route (next run.state) } []
  | routerWrite {step : String} {route : Route} {state : State} {next : Router}
      (phase : run.phase = .routing step route (.write state next)) :
      Goes run circumstances { run with state, phase := .routing step route next } []
  | follow {step : String} {route : Route} {label : Label} {key : Key}
      {successors : List String} (phase : run.phase = .routing step route (.done label))
      (isKey : label.value.key? = some key) (mapped : route.successors? key = some successors) :
      Goes run circumstances { run with phase := .after step successors }
        [.routed step label.value successors]

inductive Stops (run : Run) (circumstances : Circumstances) : Run → Ending → Prop
  | refused (phase : run.phase = .fresh) (admitted : circumstances.admitted = false) :
      Stops run circumstances run (.raised (.unknownGraph run.definition.name) none)
  | ceiling {step : String} {rest : List String} (phase : run.phase = .entering step rest)
      (reached : run.ceiling ≤ run.state.iterationCount) :
      Stops run circumstances run
        (.raised (.ceilingReached run.definition.name run.ceiling step) none)
  | cancelledBefore {step : String} {rest : List String} (phase : run.phase = .entering step rest)
      (cancelled : circumstances.cancelled = true) :
      Stops run circumstances run (.raised run.cancelledFailure none)
  | undeclared {step : String} {rest : List String} (phase : run.phase = .entering step rest)
      (missing : run.definition.step? step = none) :
      Stops run circumstances run (.raised (.missingKey step) none)
  | interrupted {spec : StepSpec} {rest : List String}
      (phase : run.phase = .inside spec rest (.fail .interrupted)) :
      Stops run circumstances run (.raised .interrupted none)
  | fatal {spec : StepSpec} {rest : List String} {program : Step} {failure : Failure}
      (phase : run.phase = .inside spec rest program) (fails : program.failure? = some failure)
      (stops : spec.stopsOn failure = true) :
      Stops run circumstances (run.failed circumstances.now spec failure)
        (.raised (.stepFailed spec.name (StepSpec.recordedText failure) true) (some failure))
  | cancelledAfter {spec : StepSpec} {rest : List String} {program : Step} {settled : Run}
      (phase : run.phase = .inside spec rest program)
      (settles : run.Settles circumstances.now spec program settled)
      (cancelled : circumstances.cancelled = true) :
      Stops run circumstances settled (.raised settled.cancelledFailure none)
  | completed {spec : StepSpec} {program : Step} {settled : Run}
      (phase : run.phase = .inside spec [] program)
      (settles : run.Settles circumstances.now spec program settled)
      (isTerminal : run.definition.isTerminal spec.name = true) :
      Stops run circumstances settled (.completed spec.name)
  | deadEnd {spec : StepSpec} {program : Step} {settled : Run}
      (phase : run.phase = .inside spec [] program)
      (settles : run.Settles circumstances.now spec program settled)
      (inner : run.definition.isTerminal spec.name = false)
      (unrouted : run.definition.route? spec.name = none) :
      Stops run circumstances settled
        (.raised (.unroutable spec.name .null
          (some s!"Step '{spec.name}' is not terminal and has no outgoing edges")) none)
  | routerInterrupted {step : String} {route : Route}
      (phase : run.phase = .routing step route (.fail .interrupted)) :
      Stops run circumstances run (.raised .interrupted none)
  | routerFailed {step : String} {route : Route} {failure : Failure}
      (phase : run.phase = .routing step route (.fail failure))
      (raised : failure ≠ .interrupted) :
      Stops run circumstances run
        (.raised (.unroutable step .null
          (some s!"Routing function for step '{step}' raised: {failure.message}"))
          (some failure))
  | noKey {step : String} {route : Route} {label : Label}
      (phase : run.phase = .routing step route (.done label)) (noKey : label.value.key? = none) :
      Stops run circumstances run
        (.raised (.unroutable step label.value none) (some (.notAKey label.value)))
  | unmapped {step : String} {route : Route} {label : Label} {key : Key}
      (phase : run.phase = .routing step route (.done label))
      (isKey : label.value.key? = some key) (unmapped : route.successors? key = none) :
      Stops run circumstances run
        (.raised (.unroutable step label.value none) (some (.fault .lookup label.value.shown)))
  | concluded {step : String} (phase : run.phase = .concluded step) :
      Stops run circumstances run (.completed step)

/-- The questions that a run can ask, with the phases that follow the replies. -/
inductive Asks (run : Run) : (effect : Effect) → (effect.Reply → Phase) → Prop
  | step {spec : StepSpec} {rest : List String} {effect : Effect} {next : effect.Reply → Step}
      (phase : run.phase = .inside spec rest (.ask effect next)) :
      Asks run effect fun reply => .inside spec rest (next reply)
  | router {step : String} {route : Route} {deed : Deed} {next : deed.Reply → Router}
      (phase : run.phase = .routing step route (.ask deed next)) :
      Asks run (.act deed) fun reply => .routing step route (next reply)

def Allows (run : Run) (circumstances : Circumstances) : Move → Prop
  | .go next events => run.Goes circumstances next events
  | .ask effect next => run.Asks effect next
  | .over last ending => run.Stops circumstances last ending

theorem allows_enter {run : Run} {circumstances : Circumstances} {step : String}
    {rest : List String} (phase : run.phase = .entering step rest) :
    run.Allows circumstances (run.enter circumstances step rest) := by
  unfold enter
  split
  · next reached => exact Stops.ceiling phase reached
  · next below =>
      split
      · next cancelled => exact Stops.cancelledBefore phase cancelled
      · next live =>
          cases found : run.definition.step? step with
          | none => exact Stops.undeclared phase found
          | some spec =>
              exact Goes.enter phase (Int.not_le.mp below) (by simpa using live) found

theorem Settles.definition_eq {run settled : Run} {now : Instant} {spec : StepSpec}
    {program : Step} (settles : run.Settles now spec program settled) :
    settled.definition = run.definition := by
  cases settles <;> rfl

theorem allows_proceed {run settled : Run} {circumstances : Circumstances} {spec : StepSpec}
    {rest : List String} {program : Step} (phase : run.phase = .inside spec rest program)
    (settles : run.Settles circumstances.now spec program settled) :
    run.Allows circumstances (settled.proceed circumstances spec.name rest []) := by
  unfold proceed
  split
  · next cancelled => exact Stops.cancelledAfter phase settles cancelled
  · next live =>
      have live : circumstances.cancelled = false := by simpa using live
      cases rest with
      | cons next rest => exact Goes.onward phase settles live
      | nil =>
          have same := settles.definition_eq
          dsimp only
          split
          · next isTerminal => exact Stops.completed phase settles (same ▸ isTerminal)
          · next inner =>
              have inner : run.definition.isTerminal spec.name = false := by
                simpa [same] using inner
              cases routed : settled.definition.route? spec.name with
              | none => exact Stops.deadEnd phase settles inner (same ▸ routed)
              | some route => exact Goes.route phase settles live inner (same ▸ routed)

theorem allows_failStep {run : Run} {circumstances : Circumstances} {spec : StepSpec}
    {rest : List String} {program : Step} {failure : Failure}
    (phase : run.phase = .inside spec rest program) (fails : program.failure? = some failure) :
    run.Allows circumstances (run.failStep circumstances spec rest failure) := by
  rw [failStep_eq]
  split
  · next stops => exact Stops.fatal phase fails stops
  · next goesOn => exact allows_proceed phase (.recorded fails (by simpa using goesOn))

theorem allows_moveStep {run : Run} {circumstances : Circumstances} {spec : StepSpec}
    {rest : List String} {program : Step} (phase : run.phase = .inside spec rest program) :
    run.Allows circumstances (run.moveStep circumstances spec rest program) := by
  cases program with
  | done result =>
      cases result with
      | nothing => exact allows_proceed phase .nothing
      | same => exact allows_proceed phase .same
      | other kindName => exact allows_failStep phase rfl
      | replacement state => exact Goes.adopt phase
  | fail failure =>
      cases failure with
      | interrupted => exact Stops.interrupted phase
      | _ => exact allows_failStep phase rfl
  | read next => exact Goes.read phase
  | write state next => exact Goes.write phase
  | ask effect next => exact Asks.step phase

theorem allows_moveRouter {run : Run} {circumstances : Circumstances} {step : String}
    {route : Route} {program : Router} (phase : run.phase = .routing step route program) :
    run.Allows circumstances (run.moveRouter step route program) := by
  cases program with
  | done label =>
      simp only [moveRouter, follow]
      cases isKey : label.value.key? with
      | none => exact Stops.noKey phase isKey
      | some key =>
          dsimp only
          cases mapped : route.successors? key with
          | none => exact Stops.unmapped phase isKey mapped
          | some successors => exact Goes.follow phase isKey mapped
  | fail failure =>
      cases failure with
      | interrupted => exact Stops.routerInterrupted phase
      | _ => exact Stops.routerFailed phase (by simp)
  | read next => exact Goes.routerRead phase
  | write state next => exact Goes.routerWrite phase
  | ask deed next => exact Asks.router phase

theorem allows_move (run : Run) (circumstances : Circumstances) :
    run.Allows circumstances (run.move circumstances) := by
  unfold move
  cases phase : run.phase with
  | fresh =>
      dsimp only
      split
      · next refused => exact Stops.refused phase (by simpa using refused)
      · next admitted => exact Goes.begin phase (by simpa using admitted)
  | entering step rest => exact allows_enter phase
  | inside spec rest program => exact allows_moveStep phase
  | routing step route program => exact allows_moveRouter phase
  | concluded step => exact Stops.concluded phase

theorem goes_of_move {run next : Run} {circumstances : Circumstances} {events : List Event}
    (moved : run.move circumstances = .go next events) : run.Goes circumstances next events := by
  have allowed := allows_move run circumstances
  rwa [moved] at allowed

theorem asks_of_move {run : Run} {circumstances : Circumstances} {effect : Effect}
    {next : effect.Reply → Phase} (asked : run.move circumstances = .ask effect next) :
    run.Asks effect next := by
  have allowed := allows_move run circumstances
  rwa [asked] at allowed

theorem stops_of_move {run last : Run} {circumstances : Circumstances} {ending : Ending}
    (isOver : run.move circumstances = .over last ending) :
    run.Stops circumstances last ending := by
  have allowed := allows_move run circumstances
  rwa [isOver] at allowed

theorem Asks.move_eq {run : Run} {effect : Effect} {next : effect.Reply → Phase}
    (asks : run.Asks effect next) (circumstances : Circumstances) :
    run.move circumstances = .ask effect next := by
  cases asks with
  | step phase => simp only [move, phase, moveStep]
  | router phase => simp only [move, phase, moveRouter]

theorem Stops.phase_of_interrupted {run last : Run} {circumstances : Circumstances}
    {cause : Option Failure} (stops : run.Stops circumstances last (.raised .interrupted cause)) :
    run.phase.Interrupted := by
  cases stops with
  | interrupted phase => exact phase ▸ .inside _ _
  | routerInterrupted phase => exact phase ▸ .routing _ _

end Run

end StepGraph
