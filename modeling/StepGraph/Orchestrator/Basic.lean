import StepGraph.Run.Solo
import StepGraph.History

namespace StepGraph

/-- An execution of a graph. `parted` is the state the orchestrator last followed, where the run has
gone on to another one since the instance ended. -/
structure Instance where
  id : String
  graph : String
  startedAt : Instant
  run : Run
  status : Status := .running
  endedAt : Option Instant := none
  terminalStep : Option String := none
  error : Option String := none
  parted : Option State := none

namespace Instance

def isActive (inst : Instance) : Bool :=
  inst.status == .running

def isCancelled (inst : Instance) : Bool :=
  inst.status == .cancelled

def state (inst : Instance) : State :=
  match inst.parted with
  | none => inst.run.state
  | some state => { state with metadata := inst.run.state.metadata }

def withData (inst : Instance) (data : Data) : Instance :=
  match inst.parted with
  | none => { inst with run := { inst.run with state := { inst.run.state with data } } }
  | some state => { inst with parted := some { state with data } }

def summary (inst : Instance) (now : Instant) : Summary where
  instanceId := inst.id
  graph := inst.graph
  status := inst.status
  startedAt := inst.startedAt
  endedAt := inst.endedAt
  durationMs := durationMs inst.startedAt (inst.endedAt.getD now)
  totalSteps := inst.state.metadata.totalSteps
  error := inst.error

/-- The frozen copy of an instance. One without an end is taken to end now. -/
def record (inst : Instance) (now : Instant) : Record where
  instanceId := inst.id
  graph := inst.graph
  status := inst.status
  startedAt := inst.startedAt
  endedAt := inst.endedAt.getD now
  terminalStep := inst.terminalStep
  error := inst.error
  state := inst.state

/-- Goes on with a run. An instance that has ended parts with it once the run takes up another
state. -/
def follow (inst : Instance) (run : Run) (events : List Event) : Instance :=
  let adopted := events.any fun event => match event with | .adopted _ => true | _ => false
  let parted :=
    if adopted && !inst.isActive then some (inst.parted.getD inst.run.state) else inst.parted
  { inst with run, parted }

/-- Ends an instance, noting the time on its state too. -/
def close (inst : Instance) (now : Instant) (status : Status) (terminalStep error : Option String) :
    Instance :=
  let state := inst.run.state
  let metadata := { state.metadata with endTime := some (.ofInstant now) }
  { inst with
    run := { inst.run with state := { state with metadata } }
    status := status
    endedAt := some now
    terminalStep := terminalStep
    error := error }

end Instance

/-- Where the executor looks graphs up: in the orchestrator's own registry, or in one apart. -/
inductive Lookup where
  | own
  | apart (registry : Registry)

structure Orchestrator where
  now : Instant := 0
  registry : Registry := {}
  lookup : Lookup := .own
  ceiling : Int := defaultCeiling
  instances : List Instance := []
  history : History
  services : Services := {}
  /-- What has happened, latest first. -/
  events : List Event := []

/-- How many records the history keeps unless said otherwise. -/
def defaultHistoryLimit : Int := 1000

/-- How many records a listing shows unless said otherwise. -/
def historyPage : Int := 50

namespace Orchestrator

def create (historyLimit ceiling : Int) : Fallible Orchestrator := do
  let ceiling ← checkCeiling ceiling
  let history ← History.create historyLimit
  return { ceiling, history }

def register (orchestrator : Orchestrator) (definition : Definition) : Fallible Orchestrator := do
  let registry ← orchestrator.registry.register definition
  return { orchestrator with registry }

def admits (orchestrator : Orchestrator) (definition : Definition) : Bool :=
  match orchestrator.lookup with
  | .own => orchestrator.registry.isRegistered definition
  | .apart registry => registry.isRegistered definition

def instance? (orchestrator : Orchestrator) (id : String) : Option Instance :=
  orchestrator.instances.find? (·.id == id)

def active (orchestrator : Orchestrator) : List Instance :=
  orchestrator.instances.filter (·.isActive)

def active? (orchestrator : Orchestrator) (id : String) : Option Instance :=
  orchestrator.active.find? (·.id == id)

def put (orchestrator : Orchestrator) (inst : Instance) : Orchestrator :=
  { orchestrator with
    instances :=
      orchestrator.instances.map fun other => if other.id = inst.id then inst else other }

@[simp] theorem length_put (orchestrator : Orchestrator) (inst : Instance) :
    (orchestrator.put inst).instances.length = orchestrator.instances.length := by
  simp [put]

theorem ids_put (orchestrator : Orchestrator) (inst : Instance) :
    (orchestrator.put inst).instances.map (·.id) = orchestrator.instances.map (·.id) := by
  simp only [put, List.map_map]
  apply List.map_congr_left
  intro other _
  by_cases h : other.id = inst.id <;> simp [h]

theorem active?_isActive {orchestrator : Orchestrator} {id : String} {inst : Instance}
    (h : orchestrator.active? id = some inst) : inst.id = id ∧ inst.isActive = true := by
  unfold active? active at h
  refine ⟨by simpa using List.find?_some h, ?_⟩
  have := List.mem_of_find?_eq_some h
  simpa using (List.mem_filter.mp this).2

def nextId (orchestrator : Orchestrator) : String :=
  "i" ++ toString (orchestrator.instances.length + 1)

/-- A state for a new instance. One that belongs to an instance already is taken over as a fresh
copy. -/
def takeOver (given : State) : State :=
  if given.metadata.instanceId.isEmpty then given else given.renewed

def initialState (orchestrator : Orchestrator) : Initial → State
  | .data carried => { data := carried }
  | .state given => takeOver given
  | .shared id =>
      match orchestrator.instance? id with
      | some inst => takeOver inst.run.given
      | none => {}

def openInstance (orchestrator : Orchestrator) (definition : Definition) (initial : Initial) :
    Orchestrator × String :=
  let id := orchestrator.nextId
  let given := orchestrator.initialState initial
  let metadata :=
    { given.metadata with instanceId := id, startTime := some (.ofInstant orchestrator.now) }
  let run := Run.create definition orchestrator.ceiling { given with metadata }
  let inst : Instance :=
    { id, graph := definition.name, startedAt := orchestrator.now, run }
  ({ orchestrator with instances := orchestrator.instances ++ [inst] }, id)

theorem length_openInstance (orchestrator : Orchestrator) (definition : Definition)
    (initial : Initial) :
    (orchestrator.openInstance definition initial).1.instances.length =
      orchestrator.instances.length + 1 := by
  simp [openInstance]

/-- Moves an active instance to the history; nothing happens to any other. -/
def finalize? (orchestrator : Orchestrator) (id : String) (status : Status)
    (terminalStep error : Option String) : Option Orchestrator :=
  match orchestrator.active? id with
  | none => none
  | some inst =>
      let closed := inst.close orchestrator.now status terminalStep error
      let orchestrator := orchestrator.put closed
      some { orchestrator with
        history := orchestrator.history.append (closed.record orchestrator.now) }

def cancel (orchestrator : Orchestrator) (id : String) : Orchestrator × Bool :=
  match orchestrator.finalize? id .cancelled none none with
  | some orchestrator => (orchestrator, true)
  | none => (orchestrator, false)

theorem finalize?_eq_none_iff {orchestrator : Orchestrator} {id : String} {status : Status}
    {terminalStep error : Option String} :
    orchestrator.finalize? id status terminalStep error = none ↔
      orchestrator.active? id = none := by
  unfold finalize?
  cases orchestrator.active? id <;> simp

theorem cancel_of_active?_eq_none {orchestrator : Orchestrator} {id : String}
    (h : orchestrator.active? id = none) : orchestrator.cancel id = (orchestrator, false) := by
  simp [cancel, finalize?, h]

/-- What is handed out for an instance that has ended. For a cancelled one the state is that of its
record, as long as there is one. -/
def result (orchestrator : Orchestrator) (inst : Instance) : Result :=
  let kept := if inst.isCancelled then orchestrator.history.find? inst.id else none
  { instanceId := inst.id
    graph := inst.graph
    status := inst.status
    state := (kept.map (·.state)).getD inst.state
    isCopy := kept.isSome
    terminalStep := inst.terminalStep
    durationMs := durationMs inst.startedAt (inst.endedAt.getD orchestrator.now)
    error := inst.error }

def resultOf (orchestrator : Orchestrator) (id : String) : Fallible Result :=
  match orchestrator.instance? id with
  | some inst => .ok (orchestrator.result inst)
  | none => .error (.missingKey id)

/-- Settles the ending of a run: the instance is finalised unless it was already, and a failure goes
on to whoever drives it unless the instance had been cancelled before. -/
def conclude (orchestrator : Orchestrator) (id : String) (ending : Ending) :
    Orchestrator × Fallible Result :=
  match ending with
  | .completed terminalStep =>
      let after := (orchestrator.finalize? id .completed (some terminalStep) none).getD orchestrator
      (after, after.resultOf id)
  | .raised (.instanceCancelled _) _ =>
      let after := (orchestrator.finalize? id .cancelled none none).getD orchestrator
      (after, after.resultOf id)
  | .raised .interrupted _ =>
      let after :=
        (orchestrator.finalize? id .cancelled none (some "task cancelled")).getD orchestrator
      (after, .error .interrupted)
  | .raised failure _ =>
      match orchestrator.finalize? id .failed none (some failure.message) with
      | some after => (after, .error failure)
      | none =>
          if (orchestrator.instance? id).any (·.isCancelled) then
            (orchestrator, orchestrator.resultOf id)
          else (orchestrator, .error failure)

def statistics (orchestrator : Orchestrator) : Statistics :=
  orchestrator.history.statistics (orchestrator.active.map (·.graph))

def summaries (orchestrator : Orchestrator) : List Summary :=
  orchestrator.active.map (·.summary orchestrator.now)

def recent (orchestrator : Orchestrator) (limit : Option Int) : List Record :=
  orchestrator.history.recent limit

/-- What is known about an id: a summary while the instance is active, a record while one is kept.
-/
inductive Known where
  | active (summary : Summary)
  | ended (record : Record)

def find? (orchestrator : Orchestrator) (id : String) : Option Known :=
  match orchestrator.active? id with
  | some inst => some (.active (inst.summary orchestrator.now))
  | none => (orchestrator.history.find? id).map .ended

/-- Does what a program asked for at once. -/
def perform (orchestrator : Orchestrator) : (deed : Deed) → Orchestrator × deed.Reply
  | .now => (orchestrator, orchestrator.now)
  | .moveClock micros => ({ orchestrator with now := orchestrator.now + micros }, ())
  | .setToken => (orchestrator, ())
  | .cancel id => orchestrator.cancel id
  | .statistics => (orchestrator, orchestrator.statistics, orchestrator.active.length)

def note (orchestrator : Orchestrator) (events : List Event) : Orchestrator :=
  { orchestrator with events := events.reverse ++ orchestrator.events }

def circumstances (orchestrator : Orchestrator) (inst : Instance) : Circumstances where
  now := orchestrator.now
  admitted := orchestrator.admits inst.run.definition
  cancelled := inst.isCancelled

end Orchestrator

end StepGraph
