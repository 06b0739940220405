import StepGraph.Registry

/-! A single run of a graph, as a machine that makes one move at a time. A move works on the run
alone, asks the surroundings something, or ends the run. Steps of a run follow strictly one after
another; when an outcome names several successors they work on the same state in turn, and the last
of them decides where the run goes on. -/

namespace StepGraph

def defaultCeiling : Int := 5

/-- Where a run stands. -/
inductive Phase where
  /-- Nothing has been done yet. -/
  | fresh
  /-- About to start a step; `rest` are the successors to follow it before any routing. -/
  | entering (step : String) (rest : List String)
  | inside (spec : StepSpec) (rest : List String) (program : Step)
  | routing (step : String) (route : Route) (program : Router)
  | concluded (step : String)

def Phase.after (step : String) : List String → Phase
  | [] => .concluded step
  | next :: rest => .entering next rest

/-- A run of a definition. `origin` is the state it was handed, once another has taken its place;
all states of a run share the metadata of the current one. -/
structure Run where
  definition : Definition
  ceiling : Int
  state : State
  origin : Option State := none
  phase : Phase := .fresh

/-- What can be seen of a run from outside. -/
inductive Event where
  | started (instanceId step : String) (iteration ceiling : Int)
  | routed (step : String) (outcome : Value) (successors : List String)
  | adopted (state : State)

/-- How a run ends: at a step, or by a failure, which may stem from another one. -/
inductive Ending where
  | completed (terminalStep : String)
  | raised (failure : Failure) (cause : Option Failure)
deriving Repr

/-- What the surroundings tell a run before each move: the time, whether its graph is admitted, and
whether it has been cancelled. -/
structure Circumstances where
  now : Instant
  admitted : Bool
  cancelled : Bool

/-- One move of a run. A question leaves the run where it is until the reply says how it goes on. -/
inductive Move where
  | go (run : Run) (events : List Event)
  | ask (effect : Effect) (next : effect.Reply → Phase)
  | over (run : Run) (ending : Ending)

namespace Run

def create (definition : Definition) (ceiling : Int) (state : State) : Run where
  definition := definition
  ceiling := definition.ceiling.getD ceiling
  state := state

def cancelledFailure (run : Run) : Failure :=
  .instanceCancelled (some run.state.metadata.instanceId)

/-- Starts a step, unless the ceiling is reached or the run has been cancelled. -/
def enter (run : Run) (circumstances : Circumstances) (step : String) (rest : List String) : Move :=
  if run.ceiling ≤ run.state.iterationCount then
    .over run (.raised (.ceilingReached run.definition.name run.ceiling step) none)
  else if circumstances.cancelled then .over run (.raised run.cancelledFailure none)
  else
    match run.definition.step? step with
    | none => .over run (.raised (.missingKey step) none)
    | some spec =>
        let metadata := run.state.metadata
        let iteration := run.state.iterationCount + 1
        let state :=
          { run.state with
            iterationCount := iteration
            metadata := { metadata with totalSteps := metadata.totalSteps + 1 } }
        .go { run with state, phase := .inside spec rest spec.action }
          [.started metadata.instanceId step iteration run.ceiling]

/-- Goes on after a step: to the next successor, to the end, or to the router. -/
def proceed (run : Run) (circumstances : Circumstances) (step : String) (rest : List String)
    (events : List Event) : Move :=
  if circumstances.cancelled then .over run (.raised run.cancelledFailure none)
  else
    match rest with
    | next :: rest => .go { run with phase := .entering next rest } events
    | [] =>
        if run.definition.isTerminal step then .over run (.completed step)
        else
          match run.definition.route? step with
          | none =>
              let text := s!"Step '{step}' is not terminal and has no outgoing edges"
              .over run (.raised (.unroutable step .null (some text)) none)
          | some route =>
              let program := route.router.getD (.done (.plain defaultOutcome.value))
              .go { run with phase := .routing step route program } events

/-- Records the failure of a step. A failure that says it is fatal, or that of a fatal step, ends
the run under the step's own name. -/
def failStep (run : Run) (circumstances : Circumstances) (spec : StepSpec) (rest : List String)
    (failure : Failure) : Move :=
  let (message, fatal) :=
    match failure with
    | .stepFailed _ text fatal => (text, fatal || spec.fatal)
    | failure => (failure.recorded, spec.fatal)
  let run := { run with state := run.state.addError circumstances.now spec.name message }
  if fatal then .over run (.raised (.stepFailed spec.name message true) (some failure))
  else run.proceed circumstances spec.name rest []

def adopt (run : Run) (state : State) : Run :=
  let state :=
    { state with iterationCount := run.state.iterationCount, metadata := run.state.metadata }
  { run with state, origin := some (run.origin.getD run.state) }

@[simp] theorem iterationCount_adopt (run : Run) (state : State) :
    (run.adopt state).state.iterationCount = run.state.iterationCount := rfl

@[simp] theorem metadata_adopt (run : Run) (state : State) :
    (run.adopt state).state.metadata = run.state.metadata := rfl

@[simp] theorem data_adopt (run : Run) (state : State) :
    (run.adopt state).state.data = state.data := rfl

@[simp] theorem errors_adopt (run : Run) (state : State) :
    (run.adopt state).state.errors = state.errors := rfl

def leave (run : Run) (circumstances : Circumstances) (spec : StepSpec) (rest : List String)
    (result : StepReturn) : Move :=
  match result with
  | .nothing => run.proceed circumstances spec.name rest []
  | .same => run.proceed circumstances spec.name rest []
  | .other kindName =>
      let text := s!"step returned {kindName}, expected WorkflowState or None"
      run.failStep circumstances spec rest (.fault .type text)
  | .replacement state =>
      let run := run.adopt state
      .go { run with phase := .inside spec rest (.done .same) } [.adopted run.state]

def follow (run : Run) (step : String) (route : Route) (label : Label) : Move :=
  let value := label.value
  match value.key? with
  | none => .over run (.raised (.unroutable step value none) (some (.notAKey value)))
  | some key =>
      match route.successors? key with
      | none =>
          .over run (.raised (.unroutable step value none) (some (.fault .lookup value.shown)))
      | some successors =>
          .go { run with phase := .after step successors } [.routed step value successors]

def failRouter (run : Run) (step : String) (failure : Failure) : Move :=
  match failure with
  | .interrupted => .over run (.raised .interrupted none)
  | failure =>
      let message := failure.message
      let text := s!"Routing function for step '{step}' raised: {message}"
      .over run (.raised (.unroutable step .null (some text)) (some failure))

def moveStep (run : Run) (circumstances : Circumstances) (spec : StepSpec) (rest : List String) :
    Step → Move
  | .done result => run.leave circumstances spec rest result
  | .fail .interrupted => .over run (.raised .interrupted none)
  | .fail failure => run.failStep circumstances spec rest failure
  | .read next => .go { run with phase := .inside spec rest (next run.state) } []
  | .write state next => .go { run with state, phase := .inside spec rest next } []
  | .ask effect next => .ask effect fun reply => .inside spec rest (next reply)

def moveRouter (run : Run) (step : String) (route : Route) : Router → Move
  | .done label => run.follow step route label
  | .fail failure => run.failRouter step failure
  | .read next => .go { run with phase := .routing step route (next run.state) } []
  | .write state next => .go { run with state, phase := .routing step route next } []
  | .ask deed next => .ask (.act deed) fun reply => .routing step route (next reply)

def move (run : Run) (circumstances : Circumstances) : Move :=
  match run.phase with
  | .fresh =>
      if !circumstances.admitted then
        .over run (.raised (.unknownGraph run.definition.name) none)
      else .go { run with phase := .entering (run.definition.entry.getD "") [] } []
  | .entering step rest => run.enter circumstances step rest
  | .inside spec rest program => run.moveStep circumstances spec rest program
  | .routing step route program => run.moveRouter step route program
  | .concluded step => .over run (.completed step)

def given (run : Run) : State :=
  match run.origin with
  | none => run.state
  | some origin => { origin with metadata := run.state.metadata }

end Run

end StepGraph
