import StepGraph.Proofs.Orchestrator.Crowd

namespace StepGraph

/-- What a task that does not drive any run still brings about: its first turn, and a job for each
watcher. -/
def Task.pending (task : Task) : Nat :=
  (if task.begun then 0 else 3) + task.watchers.length

namespace Workplace

variable {place : Workplace} {id : TaskId}

theorem sum_modify (weight : Task → Nat) (change : Task → Task) {tasks : List Task} {id : Nat}
    {task : Task} (found : tasks[id]? = some task) :
    ((tasks.modify id change).map weight).sum + weight task =
      (tasks.map weight).sum + weight (change task) := by
  induction tasks generalizing id with
  | nil => cases found
  | cons head tasks ih =>
      cases id with
      | zero =>
          cases found
          simp only [List.modify_zero_cons, List.map_cons, List.sum_cons]
          omega
      | succ id =>
          have later := ih found
          simp only [List.modify_succ_cons, List.map_cons, List.sum_cons]
          omega

/-- What is left to do until no run can be moved on. A turn weighs more than to wait at a gate, and
that weighs more than a place in the queue. -/
def pending (place : Workplace) : Nat :=
  (place.tasks.map (·.pending)).sum + place.queue.length + 2 * place.atGates.length +
    3 * place.running.toList.length

theorem pending_updateTask {task : Task} (found : place.task? id = some task)
    (change : Task → Task) :
    (place.updateTask id change).pending + task.pending =
      place.pending + (change task).pending := by
  have sum := sum_modify (·.pending) change found
  simp only [pending, updateTask]
  omega

theorem pending_restanding (place : Workplace) (id : TaskId) (standing : Standing) :
    (place.updateTask id fun task => { task with standing }).pending = place.pending := by
  cases found : place.task? id with
  | some task =>
      have weight := pending_updateTask found fun task => { task with standing }
      simp only [Task.pending] at weight
      omega
  | none =>
      have tasks : place.tasks.modify id (fun task => { task with standing }) = place.tasks :=
        List.modify_eq_self (List.getElem?_eq_none_iff.mp found)
      simp only [pending, updateTask, tasks]

theorem pending_enqueue (place : Workplace) (job : Job) :
    (place.enqueue job).pending = place.pending + 1 := by
  simp only [pending, enqueue, List.length_append, List.length_singleton]
  omega

theorem pending_wake (place : Workplace) (id : TaskId) :
    (place.wake id).pending = place.pending + 1 := by
  rw [wake, pending_enqueue, pending_restanding]

theorem pending_leaveTurn (running : place.running = some id) :
    ({ place with running := none } : Workplace).pending + 3 = place.pending := by
  simp only [pending, running, Option.toList_none, Option.toList_some, List.length_nil,
    List.length_singleton]

theorem pending_park (running : place.running = some id) :
    (place.park id).pending + 3 = place.pending := by
  have running : (place.updateTask id fun task =>
      { task with standing := .parked }).running = some id := running
  exact (pending_leaveTurn running).trans (pending_restanding place id .parked)

theorem pending_endTask {task : Task} (found : place.task? id = some task)
    (running : place.running = some id) (conclusion : Conclusion) :
    (place.endTask id conclusion).pending + 3 = place.pending := by
  have same := pending_updateTask found fun task =>
    { task with standing := .ended conclusion, watchers := [] }
  simp only [pending, Task.pending, updateTask, running, Option.toList_some, List.length_nil,
    List.length_singleton, queue_endTask, found, Option.map_some, Option.getD_some,
    List.length_append, List.length_map] at same ⊢
  simp only [endTask, updateTask, Option.toList_none, List.length_nil]
  omega

end Workplace

end StepGraph
