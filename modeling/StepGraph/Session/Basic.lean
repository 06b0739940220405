import StepGraph.Settings
import StepGraph.Report
import StepGraph.Plan.Graph
import StepGraph.Plan.Services

/-! Sessions: a workplace together with names for its tasks and for states that are used more than
once. A result that was handed out live shares its state with the instance; a copy belongs to the
task that received it. -/

namespace StepGraph

/-- A named state: not used so far, or handed to an instance, whose state it then is. -/
inductive NamedState where
  | unused (state : State)
  | handedTo (instanceId : String)

structure Session where
  place : Workplace
  outer : Option Registry := none
  labels : List (String × TaskId) := []
  states : List (String × NamedState) := []
  nextTag : Nat := 0

/-- What a new instance of a session starts from. -/
inductive Source where
  | result (label : String)
  | named (name : String) (plan : Value)
  | state (plan : Value)
  | kind (kind : String) (data : Value)
  | payload (plan : Value)
  | data (value : Value)

inductive TaskOutcome where
  | pending
  | failed (failure : Failure)
  | finished
  | result (result : Result)

namespace Session

def orchestrator (session : Session) : Orchestrator :=
  session.place.orchestrator

def withPlace (session : Session) (place : Workplace) : Session :=
  { session with place }

def withOrchestrator (session : Session) (orchestrator : Orchestrator) : Session :=
  session.withPlace (session.place.withOrchestrator orchestrator)

/-! ### Results and states by name -/

def task? (session : Session) (label : String) : Fallible TaskId :=
  match session.labels.lookup label with
  | some id => .ok id
  | none => .error (.missingKey label)

def owner (session : Session) (id : TaskId) : TaskId :=
  match session.place.task? id with
  | none => id
  | some task =>
      match task.activity with
      | .await other => other
      | _ => id

def refresh (session : Session) (result : Result) : Result :=
  if result.isCopy then result
  else
    match session.orchestrator.instance? result.instanceId with
    | some inst => { result with state := inst.state }
    | none => result

def resultOf? (session : Session) (id : TaskId) : Option Result :=
  match (session.place.task? (session.owner id)).bind (·.conclusion?) with
  | some (.result result) => some (session.refresh result)
  | _ => none

def outcome (session : Session) (id : TaskId) : TaskOutcome :=
  match (session.place.task? id).bind (·.conclusion?) with
  | none => .pending
  | some (.failed failure) => .failed failure
  | some .finished => .finished
  | some (.result result) => .result ((session.resultOf? id).getD result)

def result (session : Session) (label : String) : Fallible Result := do
  let id ← session.task? label
  match session.resultOf? id with
  | some result => .ok result
  | none => .error (.missingKey label)

def putData (session : Session) (label : String) (data : Data) : Session :=
  match session.task? label, session.result label with
  | .ok id, .ok result =>
      if result.isCopy then
        let changed := { result with state := { result.state with data } }
        session.withPlace (session.place.updateTask (session.owner id) fun task =>
          { task with standing := .ended (.result changed) })
      else
        match session.orchestrator.instance? result.instanceId with
        | some inst => session.withOrchestrator (session.orchestrator.put (inst.withData data))
        | none => session
  | _, _ => session

def namedState (session : Session) (name : String) : Fallible State :=
  match session.states.lookup name with
  | some (.unused state) => .ok state
  | some (.handedTo id) =>
      match session.orchestrator.instance? id with
      | some inst => .ok inst.run.given
      | none => .error (.missingKey name)
  | none => .error (.missingKey name)

/-! ### Starting instances -/

/-- What an instance starts from; a name that is used for the first time is noted. -/
def initial (session : Session) : Source → Fallible (Session × Initial)
  | .result label => return (session, .state (← session.result label).state)
  | .named name plan =>
      match session.states.lookup name with
      | some (.unused state) => .ok (session, .state state)
      | some (.handedTo id) => .ok (session, .shared id)
      | none => do
          let state ← Plan.readState session.orchestrator.now plan.entries
          return ({ session with states := (name, .unused state) :: session.states },
            .state state)
  | .state plan =>
      return (session, .state (← Plan.readState session.orchestrator.now plan.entries))
  | .kind kind data => return (session, .state (← WorkflowKind.initialState kind data))
  | .payload plan => return (session, .data (← Plan.readPayload plan))
  | .data value => .ok (session, .data (.plain value))

/-- Notes that a named state has been handed to an instance. A state that belonged to another one
was copied and stays as it is. -/
def bind (session : Session) (source : Source) (instanceId : Option String) : Session :=
  match source, instanceId with
  | .named name _, some id =>
      let states := session.states.map fun (other, kept) =>
        match kept with
        | .unused state =>
            if other = name && state.metadata.instanceId.isEmpty then (other, .handedTo id)
            else (other, kept)
        | kept => (other, kept)
      { session with states }
  | _, _ => session

def launch (session : Session) (label : String) (activity : Activity) : Session × TaskId :=
  let (place, id) := session.place.spawn activity []
  ({ session with place := place.settled, labels := (label, id) :: session.labels }, id)

def start (session : Session) (graph label : String) (source : Source) :
    Fallible (Session × TaskOutcome) := do
  let (session, initial) ← session.initial source
  let (session, id) := session.launch label (.start graph initial)
  let opened := (session.place.task? id).bind (·.opened)
  let session := session.bind source opened
  return (session, session.outcome id)

/-- Opens an instance and leaves it to a task of its own. A named state that was used for the first
time is noted even if the graph is unknown. -/
def submit (session : Session) (graph : String) (source : Source) : Session × Fallible String :=
  match session.initial source with
  | .error failure => (session, .error failure)
  | .ok (session, initial) =>
      match session.place.submit graph initial with
      | .error failure => (session, .error failure)
      | .ok (place, id) => ((session.withPlace place).bind source (some id), .ok id)

def wait (session : Session) (instanceId label : String) : Session × TaskOutcome :=
  let (session, id) := session.launch label (.wait instanceId)
  (session, session.outcome id)

def shutdown (session : Session) (label : String) : Session × TaskOutcome :=
  let (session, id) := session.launch label .shutdown
  (session, session.outcome id)

def settle (session : Session) : Session :=
  session.withPlace session.place.settled

/-- Tells a task to stop and lets everything that is ready run; says whether the task had not ended
before. -/
def abort (session : Session) (id : TaskId) : Session × Bool :=
  let (place, running) := session.place.abort id
  ((session.withPlace place).settle, running)

/-! ### Registering graphs -/

def register (session : Session) (plan : Value) : Fallible (Session × Definition) := do
  let definition ← Plan.readGraph plan session.nextTag
  let orchestrator ← session.orchestrator.register definition
  return ({ session with nextTag := session.nextTag + 1 }.withOrchestrator orchestrator, definition)

/-- Goes on with a second registry. An executor that looks graphs up apart looks there. -/
def withOuter (session : Session) (registry : Registry) : Session :=
  let session := { session with outer := some registry }
  match session.orchestrator.lookup with
  | .own => session
  | .apart _ => session.withOrchestrator { session.orchestrator with lookup := .apart registry }

def registerOuter (session : Session) (plan : Value) : Fallible (Session × Definition) :=
  match session.outer with
  | none => session.register plan
  | some registry => do
      let definition ← Plan.readGraph plan session.nextTag
      let registry ← registry.register definition
      return ({ session with nextTag := session.nextTag + 1 }.withOuter registry, definition)

def registerBuiltin (session : Session) (services : Services) : Session × Option Failure :=
  let (orchestrator, failure) :=
    session.orchestrator.registerBuiltin services session.nextTag
  ({ session with nextTag := session.nextTag + WorkflowKind.all.length }.withOrchestrator
    orchestrator, failure)

def knowsForeign (session : Session) (plan : Value) : Fallible (Session × Bool) := do
  let definition ← Plan.readGraph plan session.nextTag
  return ({ session with nextTag := session.nextTag + 1 },
    session.orchestrator.registry.isRegistered definition)

/-! ### Opening a session -/

def readRegistry (plans : List Value) : Fallible (Registry × Nat) :=
  plans.foldlM
    (fun (registry, tag) plan => do
      return (← registry.register (← Plan.readGraph plan tag), tag + 1))
    (({} : Registry), 0)

/-- A session whose orchestrator is put together from its parts. A registry without graphs is not
shared; an executor with a ceiling of its own looks graphs up in the second registry. -/
def assemble (historyLimit ceiling : Int) (outer : Option (List Value)) (executor : Option Int) :
    Fallible Session := do
  let (registry, nextTag) ← readRegistry (outer.getD [])
  let shared := registry.size != 0
  let ceiling ← checkCeiling (executor.getD ceiling)
  let history ← History.create historyLimit
  let lookup := if executor.isSome && !shared then Lookup.apart registry else .own
  let orchestrator : Orchestrator := { registry, lookup, ceiling, history }
  return {
    place := { orchestrator }
    outer := if shared || (outer.isNone && executor.isNone) then none else some registry
    nextTag }

def ofOrchestrator (orchestrator : Orchestrator) : Session where
  place := { orchestrator }
  nextTag := orchestrator.registry.size

end Session

end StepGraph
