import StepGraph.Orchestrator.Basic

namespace StepGraph

abbrev TaskId := Nat

/-- What a task is about. -/
inductive Activity where
  /-- Open an instance and drive it. -/
  | start (graph : String) (initial : Initial)
  | drive (innermost : String) (outer : List String)
  /-- Find out what became of a submitted instance. -/
  | wait (id : String)
  | await (task : TaskId)
  /-- Cancel everything active and let the submitted tasks end. -/
  | shutdown
  /-- Wait for the end of several tasks, of which `left` have not been counted yet. `stopped` says
  that they were told to stop on behalf of this one. -/
  | gather (tasks : List TaskId) (left : Nat) (stopped : Bool)

/-- How a task ended. -/
inductive Conclusion where
  | result (result : Result)
  | failed (failure : Failure)
  | finished

inductive Standing where
  | ready
  /-- Waiting for something that puts it into the queue. -/
  | parked
  | ended (conclusion : Conclusion)

/-- What is to be done when a task ends. -/
inductive Watcher where
  | release (id : String)
  | wake (task : TaskId)
  | count (task : TaskId)

/-- `begun` says that the task has run before, `stopRequested` that it is to stop when it runs next.
The watchers are told in order. `opened` is the instance that the task itself has opened. -/
structure Task where
  activity : Activity
  opened : Option String := none
  standing : Standing := .ready
  begun : Bool := false
  stopRequested : Bool := false
  watchers : List Watcher := []

namespace Task

def conclusion? (task : Task) : Option Conclusion :=
  match task.standing with
  | .ended conclusion => some conclusion
  | _ => none

def hasEnded (task : Task) : Bool :=
  task.conclusion?.isSome

end Task

/-- An entry of the queue. -/
inductive Job where
  | turn (task : TaskId)
  | release (id : String) (task : TaskId)
  | count (task : TaskId)

/-- An orchestrator with its tasks. `running` is the task whose turn is under way. -/
structure Workplace where
  orchestrator : Orchestrator
  tasks : List Task := []
  submitted : List (String × TaskId) := []
  queue : List Job := []
  openGates : List String := []
  atGates : List (String × TaskId) := []
  running : Option TaskId := none

namespace Workplace

def task? (place : Workplace) (id : TaskId) : Option Task :=
  place.tasks[id]?

def updateTask (place : Workplace) (id : TaskId) (change : Task → Task) : Workplace :=
  { place with tasks := place.tasks.modify id change }

def enqueue (place : Workplace) (job : Job) : Workplace :=
  { place with queue := place.queue ++ [job] }

def wake (place : Workplace) (id : TaskId) : Workplace :=
  (place.updateTask id fun task => { task with standing := .ready }).enqueue (.turn id)

def spawn (place : Workplace) (activity : Activity) (watchers : List Watcher) :
    Workplace × TaskId :=
  let id := place.tasks.length
  let task : Task := { activity, watchers }
  ({ place with tasks := place.tasks ++ [task] }.enqueue (.turn id), id)

def withOrchestrator (place : Workplace) (orchestrator : Orchestrator) : Workplace :=
  { place with orchestrator }

/-- Opens an instance and leaves driving it to a task of its own. -/
def submit (place : Workplace) (graph : String) (initial : Initial) :
    Fallible (Workplace × String) :=
  match place.orchestrator.registry.get graph with
  | .error failure => .error failure
  | .ok definition =>
      let (orchestrator, id) := place.orchestrator.openInstance definition initial
      let (place, task) :=
        (place.withOrchestrator orchestrator).spawn (.drive id []) [.release id]
      .ok ({ place with submitted := place.submitted ++ [(id, task)] }, id)

def openGate (place : Workplace) (gate : String) : Workplace :=
  let (here, elsewhere) := place.atGates.partition (·.1 == gate)
  let place := { place with openGates := gate :: place.openGates, atGates := elsewhere }
  here.foldl (fun place entry => place.wake entry.2) place

def closeGate (place : Workplace) (gate : String) : Workplace :=
  { place with openGates := place.openGates.filter (· != gate) }

/-- Marks a task to be stopped when it runs next, and makes sure that it will run. -/
def requestStop (place : Workplace) (id : TaskId) : Workplace :=
  let place := place.updateTask id fun task => { task with stopRequested := true }
  if place.atGates.any (·.2 == id) then
    { place with atGates := place.atGates.filter (·.2 != id) }.wake id
  else place

/-- Tells a task to stop; says whether it had not ended yet. A task that waits for others passes the
demand on to them as long as one of them can still take it. The depth bounds how far. -/
def stop : Nat → Workplace → TaskId → Workplace × Bool
  | 0, place, _ => (place, false)
  | depth + 1, place, id =>
      match place.task? id with
      | none => (place, false)
      | some task =>
          if task.hasEnded then (place, false)
          else
            match task.activity with
            | .await other =>
                let (place, taken) := stop depth place other
                if taken then (place, true) else (place.requestStop id, true)
            | .gather tasks left _ =>
                let (place, taken) := tasks.foldl
                  (fun (place, taken) other =>
                    let (place, here) := stop depth place other
                    (place, taken || here)) (place, false)
                if taken then
                  (place.updateTask id fun task =>
                    { task with activity := .gather tasks left true }, true)
                else (place.requestStop id, true)
            | _ => (place.requestStop id, true)

/-- Tells a task to stop; says whether it had not ended yet. -/
def abort (place : Workplace) (id : TaskId) : Workplace × Bool :=
  stop (place.tasks.length + 1) place id

end Workplace

end StepGraph
