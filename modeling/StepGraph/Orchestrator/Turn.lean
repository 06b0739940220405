import StepGraph.Orchestrator.Task

namespace StepGraph

namespace Run

def resume (run : Run) (interrupted : Bool) : Run :=
  match run.phase with
  | .inside spec rest (.ask .pause next) =>
      { run with phase := .inside spec rest (next interrupted) }
  | .inside spec rest (.ask (.gate _) next) =>
      { run with phase := .inside spec rest (next interrupted) }
  | _ => run

def receive (run : Run) (result : Fallible Result) : Run :=
  match run.phase with
  | .inside spec rest (.ask (.start _ _) next) =>
      { run with phase := .inside spec rest (next result) }
  | _ => run

end Run

namespace Workplace

def updateRun (place : Workplace) (id : String) (change : Run → Run) : Workplace :=
  match place.orchestrator.instance? id with
  | none => place
  | some inst =>
      place.withOrchestrator (place.orchestrator.put { inst with run := change inst.run })

def setPhase (place : Workplace) (id : String) (phase : Phase) : Workplace :=
  place.updateRun id fun run => { run with phase }

def endTask (place : Workplace) (id : TaskId) (conclusion : Conclusion) : Workplace :=
  let watchers := ((place.task? id).map (·.watchers)).getD []
  let place := place.updateTask id fun task =>
    { task with standing := .ended conclusion, watchers := [] }
  let jobs := watchers.map fun watcher =>
    match watcher with
    | .release instanceId => Job.release instanceId id
    | .wake task => .turn task
    | .count task => .count task
  { place with queue := place.queue ++ jobs, running := none }

def conclusionOf : Fallible Result → Conclusion
  | .ok result => .result result
  | .error failure => .failed failure

/-- Stops the turn of a task without ending it. -/
def park (place : Workplace) (id : TaskId) : Workplace :=
  { place.updateTask id fun task => { task with standing := .parked } with running := none }

def deliver (place : Workplace) (id : TaskId) (outer : List String) (result : Fallible Result) :
    Workplace :=
  match outer with
  | [] => place.endTask id (conclusionOf result)
  | next :: outer =>
      (place.updateTask id fun task => { task with activity := .drive next outer }).updateRun next
        (·.receive result)

def answer (place : Workplace) (id : TaskId) (inst : Instance) (outer : List String) :
    (effect : Effect) → (effect.Reply → Phase) → Workplace
  | .act deed, next =>
      let (orchestrator, reply) := place.orchestrator.perform deed
      (place.withOrchestrator orchestrator).setPhase inst.id (next reply)
  | .pause, _ => { place with running := none }.wake id
  | .gate name, next =>
      if place.openGates.contains name then place.setPhase inst.id (next false)
      else { place with atGates := place.atGates ++ [(name, id)] }.park id
  | .start graph initial, next =>
      match place.orchestrator.registry.get graph with
      | .error failure => place.setPhase inst.id (next (.error failure))
      | .ok definition =>
          let (orchestrator, inner) := place.orchestrator.openInstance definition initial
          (place.withOrchestrator orchestrator).updateTask id fun task =>
            { task with activity := .drive inner (inst.id :: outer) }
  | .consult inquiry, next =>
      let (reply, services) := place.orchestrator.services.answer inquiry
      (place.withOrchestrator { place.orchestrator with services }).setPhase inst.id (next reply)

def drive (place : Workplace) (id : TaskId) (innermost : String) (outer : List String) :
    Workplace :=
  match place.orchestrator.instance? innermost with
  | none => place.endTask id (.failed (.missingKey innermost))
  | some inst =>
      match inst.run.move (place.orchestrator.circumstances inst) with
      | .go run events =>
          place.withOrchestrator
            ((place.orchestrator.put (inst.follow run events)).note events)
      | .ask effect next => place.answer id inst outer effect next
      | .over run ending =>
          let orchestrator := place.orchestrator.put { inst with run }
          let (orchestrator, result) := orchestrator.conclude innermost ending
          (place.withOrchestrator orchestrator).deliver id outer result

/-- Starts to watch a task, or goes on at once if it has ended. -/
def awaitTask (place : Workplace) (id other : TaskId) : Workplace :=
  let place := place.updateTask id fun task => { task with activity := .await other }
  match (place.task? other).bind (·.conclusion?) with
  | some conclusion => place.endTask id conclusion
  | none =>
      (place.updateTask other fun task =>
        { task with watchers := task.watchers ++ [.wake id] }).park id

def lookBack (orchestrator : Orchestrator) (id : String) : Fallible Result :=
  match orchestrator.history.find? id with
  | none => .error (.missingKey s!"No submitted workflow instance {id}")
  | some record =>
      if record.status = .failed then .error (.workflow (record.error.getD "None"))
      else .ok record.result

def wait (place : Workplace) (id : TaskId) (instanceId : String) : Workplace :=
  match place.submitted.lookup instanceId with
  | some other => place.awaitTask id other
  | none => place.endTask id (conclusionOf (lookBack place.orchestrator instanceId))

/-- Lets a task count the end of another one, at once or when it comes. -/
def watchEnd (id : TaskId) (place : Workplace) (other : TaskId) : Workplace :=
  if (place.task? other).any (·.hasEnded) then place.enqueue (.count id)
  else place.updateTask other fun task => { task with watchers := task.watchers ++ [.count id] }

def shutdown (place : Workplace) (id : TaskId) : Workplace :=
  let ids := place.orchestrator.active.map (·.id)
  let orchestrator :=
    ids.foldl (fun orchestrator id => (orchestrator.cancel id).1) place.orchestrator
  let place := place.withOrchestrator orchestrator
  let tasks := place.submitted.map (·.2)
  if tasks.isEmpty then place.endTask id .finished
  else
    let place := tasks.foldl (watchEnd id) place
    (place.updateTask id fun task =>
      { task with activity := .gather tasks tasks.length false }).park id

def interrupt (place : Workplace) (id : TaskId) (task : Task) : Workplace :=
  match task.activity, task.begun with
  | .drive innermost _, true => place.updateRun innermost (·.resume true)
  | _, _ => place.endTask id (.failed .interrupted)

def proceed (place : Workplace) (id : TaskId) (task : Task) : Workplace :=
  match task.activity with
  | .start _ _ => place
  | .drive innermost _ =>
      if task.begun then place.updateRun innermost (·.resume false) else place
  | .wait _ => place
  | .await other => place.awaitTask id other
  | .shutdown => place
  | .gather _ _ stopped =>
      if stopped then place.endTask id (.failed .interrupted)
      else { place with submitted := [] }.endTask id .finished

def beginTurn (place : Workplace) (id : TaskId) : Workplace :=
  match place.task? id with
  | none => place
  | some task =>
      if task.hasEnded then place
      else
        let place := place.updateTask id fun task =>
          { task with standing := .ready, begun := true, stopRequested := false }
        let place := { place with running := some id }
        if task.stopRequested then place.interrupt id task else place.proceed id task

def advance (place : Workplace) (id : TaskId) (task : Task) : Workplace :=
  match task.activity with
  | .start graph initial =>
      match place.orchestrator.registry.get graph with
      | .error failure => place.endTask id (.failed failure)
      | .ok definition =>
          let (orchestrator, instanceId) := place.orchestrator.openInstance definition initial
          (place.withOrchestrator orchestrator).updateTask id fun task =>
            { task with activity := .drive instanceId [], opened := some instanceId }
  | .drive innermost outer => place.drive id innermost outer
  | .wait instanceId => place.wait id instanceId
  | .await other => place.awaitTask id other
  | .shutdown => place.shutdown id
  | .gather _ _ _ => place.park id

def countEnd (place : Workplace) (id : TaskId) : Workplace :=
  match place.task? id with
  | none => place
  | some task =>
      match task.activity with
      | .gather tasks left stopped =>
          let place := place.updateTask id fun task =>
            { task with activity := .gather tasks (left - 1) stopped }
          if left = 1 then place.enqueue (.turn id) else place
      | _ => place

def release (place : Workplace) (instanceId : String) (task : TaskId) : Workplace :=
  { place with
    submitted := place.submitted.filter fun entry => !(entry.1 == instanceId && entry.2 == task) }

def perform (place : Workplace) : Job → Workplace
  | .turn id => place.beginTurn id
  | .release instanceId task => place.release instanceId task
  | .count id => place.countEnd id

/-- The next thing that happens by itself, if anything is left to do. -/
def tick? (place : Workplace) : Option Workplace :=
  match place.running with
  | some id =>
      match place.task? id with
      | none => some { place with running := none }
      | some task => some (place.advance id task)
  | none =>
      match place.queue with
      | [] => none
      | job :: queue => some ({ place with queue }.perform job)

/-- Works off the queue, as far as the number of moves allows. -/
def settle : Nat → Workplace → Workplace
  | 0, place => place
  | moves + 1, place =>
      match place.tick? with
      | none => place
      | some place => settle moves place

end Workplace

end StepGraph
