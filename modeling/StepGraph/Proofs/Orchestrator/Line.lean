import StepGraph.Proofs.Orchestrator.Reach

namespace StepGraph

def Activity.isDriver : Activity → Bool
  | .start .. => true
  | .drive .. => true
  | _ => false

def Task.isDriver (task : Task) : Bool :=
  task.activity.isDriver

def Job.turn? : Job → Option TaskId
  | .turn id => some id
  | _ => none

def Watcher.job (watcher : Watcher) (id : TaskId) : Job :=
  match watcher with
  | .release instanceId => .release instanceId id
  | .wake task => .turn task
  | .count task => .count task

namespace Workplace

theorem queue_endTask (place : Workplace) (id : TaskId) (conclusion : Conclusion) :
    (place.endTask id conclusion).queue =
      place.queue ++ (((place.task? id).map (·.watchers)).getD []).map (·.job id) := rfl

def stands (place : Workplace) (id : TaskId) : Nat :=
  place.running.toList.count id + (place.queue.filterMap Job.turn?).count id +
    (place.atGates.map (·.2)).count id

def Waiter (place : Workplace) (id : TaskId) : Prop :=
  ∃ task, place.task? id = some task ∧ task.isDriver = false

/-- Every driver that has not ended stands in one place, and no other one stands anywhere. Those of
`held` have been taken from their places and are about to be put into others. -/
structure InLine (held : List TaskId) (place : Workplace) : Prop where
  known : ∀ id, place.task? id = none → place.stands id + held.count id = 0
  once : ∀ id task, place.task? id = some task → task.isDriver = true →
    place.stands id + held.count id = if task.hasEnded then 0 else 1
  gates : ∀ entry ∈ place.atGates, ∀ task, place.task? entry.2 = some task → task.isDriver = true
  wakes : ∀ id task, place.task? id = some task → ∀ watcher, .wake watcher ∈ task.watchers →
    place.Waiter watcher

/-- How a task may change where it stands: it stays what it is, and is told to wake waiters only. -/
structure Steady (place : Workplace) (before after : Task) : Prop where
  isDriver : after.isDriver = before.isDriver
  hasEnded : before.isDriver = true → after.hasEnded = before.hasEnded
  wakes : ∀ watcher, .wake watcher ∈ after.watchers →
    .wake watcher ∈ before.watchers ∨ place.Waiter watcher

theorem stands_enqueue (place : Workplace) (job : Job) (id : TaskId) :
    (place.enqueue job).stands id = place.stands id + if job.turn? = some id then 1 else 0 := by
  simp only [stands, enqueue, List.filterMap_append, List.count_append, List.filterMap_cons,
    List.filterMap_nil]
  cases job.turn? with
  | none => simp
  | some other =>
      simp only [List.count_singleton, beq_iff_eq, Option.some.injEq]
      omega

theorem stands_of_running {place : Workplace} {current : TaskId}
    (running : place.running = some current) (id : TaskId) :
    place.stands id =
      { place with running := none }.stands id + if current = id then 1 else 0 := by
  simp only [stands, running, Option.toList_some, Option.toList_none, List.count_nil,
    List.count_singleton, beq_iff_eq]
  omega

theorem stands_of_queue {place : Workplace} {job : Job} {queue : List Job}
    (hqueue : place.queue = job :: queue) (id : TaskId) :
    place.stands id =
      { place with queue }.stands id + if job.turn? = some id then 1 else 0 := by
  simp only [stands, hqueue, List.filterMap_cons]
  cases job.turn? with
  | none => simp
  | some other =>
      simp only [List.count_cons, beq_iff_eq, Option.some.injEq]
      omega

theorem Waiter.updateTask {place : Workplace} {id watcher : TaskId} {change : Task → Task}
    (same : ∀ task, place.task? id = some task → (change task).isDriver = task.isDriver)
    (waiter : place.Waiter watcher) : (place.updateTask id change).Waiter watcher := by
  obtain ⟨task, found, waits⟩ := waiter
  by_cases h : watcher = id
  · subst h
    exact ⟨change task, task?_updateTask_self found change,
      (same task found).trans waits⟩
  · exact ⟨task, by rw [task?_updateTask, if_neg h, found], waits⟩

theorem Waiter.retold {place : Workplace} {id : TaskId} {change : Task → Task}
    (waiter : place.Waiter id) (waits : ∀ task, (change task).isDriver = false) :
    (place.updateTask id change).Waiter id := by
  obtain ⟨task, found, _⟩ := waiter
  exact ⟨change task, task?_updateTask_self found change, waits task⟩

namespace InLine

variable {place next : Workplace} {held : List TaskId} {id : TaskId}

/-- A driver that stands somewhere has not ended. -/
theorem live (inLine : place.InLine held) {task : Task} (found : place.task? id = some task)
    (isDriver : task.isDriver = true) (inPlace : place.stands id + held.count id ≠ 0) :
    task.hasEnded = false := by
  have once := inLine.once id task found isDriver
  by_contra ended
  rw [Bool.not_eq_false] at ended
  rw [ended, if_pos rfl] at once
  exact inPlace once

/-- The tasks stay as they are, and only waiters change the number of their places. -/
theorem relined {after : List TaskId} (inLine : place.InLine held)
    (tasks : next.tasks = place.tasks)
    (gates : ∀ entry ∈ next.atGates, entry ∈ place.atGates ∨
      ∀ task, place.task? entry.2 = some task → task.isDriver = true)
    (places : ∀ id, next.stands id + after.count id = place.stands id + held.count id ∨
      place.Waiter id) : next.InLine after := by
  have htask : next.task? = place.task? := by
    funext id
    rw [task?, tasks, task?]
  constructor
  · intro id missing
    rw [htask] at missing
    rcases places id with same | ⟨task, found, _⟩
    · exact same.trans (inLine.known id missing)
    · rw [missing] at found
      contradiction
  · intro id task found isDriver
    rw [htask] at found
    rcases places id with same | ⟨other, hother, waits⟩
    · exact same.trans (inLine.once id task found isDriver)
    · cases found.symm.trans hother
      rw [isDriver] at waits
      contradiction
  · intro entry member
    rw [htask]
    rcases gates entry member with member | isDriver
    · exact inLine.gates entry member
    · exact isDriver
  · unfold Waiter
    rw [htask]
    exact inLine.wakes

theorem retold {change : Task → Task} (inLine : place.InLine held)
    (steady : ∀ task, place.task? id = some task → place.Steady task (change task)) :
    (place.updateTask id change).InLine held := by
  have same := fun task found => (steady task found).isDriver
  constructor
  · intro other missing
    apply inLine.known other
    rw [task?_updateTask] at missing
    split at missing
    · exact Option.map_eq_none_iff.mp missing
    · exact missing
  · intro other task found isDriver
    rcases of_task?_updateTask found with ⟨rfl, before, hbefore, rfl⟩ | found
    · have steady := steady before hbefore
      have wasDriver := steady.isDriver.symm.trans isDriver
      rw [steady.hasEnded wasDriver]
      exact inLine.once other before hbefore wasDriver
    · exact inLine.once other task found isDriver
  · intro entry member task found
    rcases of_task?_updateTask found with ⟨hid, before, hbefore, rfl⟩ | found
    · rw [(steady before hbefore).isDriver]
      exact inLine.gates entry member before (hid ▸ hbefore)
    · exact inLine.gates entry member task found
  · intro other task found watcher member
    apply Waiter.updateTask same
    rcases of_task?_updateTask found with ⟨rfl, before, hbefore, rfl⟩ | found
    · rcases (steady before hbefore).wakes watcher member with member | waiter
      · exact inLine.wakes other before hbefore watcher member
      · exact waiter
    · exact inLine.wakes other task found watcher member

theorem ended {conclusion : Conclusion} (inLine : place.InLine (id :: held)) :
    (place.updateTask id fun task =>
      { task with standing := .ended conclusion, watchers := [] }).InLine held := by
  constructor
  · intro other missing
    rw [task?_updateTask] at missing
    have missing : place.task? other = none := by
      split at missing
      · exact Option.map_eq_none_iff.mp missing
      · exact missing
    have known := inLine.known other missing
    rw [List.count_cons] at known
    change place.stands other + held.count other = 0
    omega
  · intro other task found isDriver
    change place.stands other + held.count other = _
    rw [task?_updateTask] at found
    by_cases h : other = id
    · subst h
      rw [if_pos rfl] at found
      obtain ⟨before, hbefore, rfl⟩ := Option.map_eq_some_iff.mp found
      have once := inLine.once other before hbefore isDriver
      rw [List.count_cons_self] at once
      change _ = 0
      split at once <;> omega
    · rw [if_neg h] at found
      have once := inLine.once other task found isDriver
      rwa [List.count_cons_of_ne (Ne.symm h)] at once
  · intro entry member task found
    rcases of_task?_updateTask found with ⟨hid, before, hbefore, rfl⟩ | found
    · exact inLine.gates entry member before (hid ▸ hbefore)
    · exact inLine.gates entry member task found
  · intro other task found watcher member
    refine Waiter.updateTask ?_ ?_
    · exact fun _ _ => rfl
    · rcases of_task?_updateTask found with ⟨_, _, _, rfl⟩ | found
      · cases member
      · exact inLine.wakes other task found watcher member

/-- A new task stands at the end of the queue. -/
theorem spawn {activity : Activity} {watchers : List Watcher} (inLine : place.InLine held)
    (quiet : ∀ watcher, .wake watcher ∉ watchers) :
    (place.spawn activity watchers).1.InLine held := by
  have hstands : ∀ other, (place.spawn activity watchers).1.stands other =
      place.stands other + if place.tasks.length = other then 1 else 0 := by
    intro other
    have enqueued := stands_enqueue
      { place with tasks := place.tasks ++ [{ activity, watchers }] }
        (.turn place.tasks.length) other
    simp only [Job.turn?, Option.some.injEq] at enqueued
    exact enqueued
  have beyond := inLine.known place.tasks.length (List.getElem?_eq_none (Nat.le_refl _))
  have waiter : ∀ watcher, place.Waiter watcher →
      (place.spawn activity watchers).1.Waiter watcher := by
    rintro watcher ⟨task, found, waits⟩
    exact ⟨task, task?_spawn_of_some found activity watchers, waits⟩
  constructor
  · intro other missing
    rw [task?_spawn] at missing
    split at missing
    · contradiction
    · next distinct =>
        rw [hstands, if_neg (Ne.symm distinct)]
        exact inLine.known other missing
  · intro other task found isDriver
    rw [task?_spawn] at found
    rw [hstands]
    split at found
    · next h =>
        subst h
        cases found
        rw [if_pos rfl]
        change _ = 1
        omega
    · next distinct =>
        rw [if_neg (Ne.symm distinct)]
        exact inLine.once other task found isDriver
  · intro entry member task found
    rw [task?_spawn] at found
    split at found
    · next h =>
        have inPlace : 0 < (place.atGates.map (·.2)).count entry.2 :=
          List.count_pos_iff.mpr (List.mem_map.mpr ⟨entry, member, rfl⟩)
        rw [h] at inPlace
        simp only [stands] at beyond
        omega
    · exact inLine.gates entry member task found
  · intro other task found watcher member
    apply waiter
    rw [task?_spawn] at found
    split at found
    · cases found
      exact absurd member (quiet watcher)
    · exact inLine.wakes other task found watcher member

/-! ### Taking from a place and putting into one -/

theorem withOrchestrator (inLine : place.InLine held) (orchestrator : Orchestrator) :
    (place.withOrchestrator orchestrator).InLine held :=
  inLine.relined rfl (fun _ member => .inl member) fun _ => .inl rfl

theorem leaveTurn (inLine : place.InLine held) (running : place.running = some id) :
    { place with running := none }.InLine (id :: held) := by
  refine inLine.relined rfl (fun _ member => .inl member) fun other => .inl ?_
  rw [stands_of_running running other, List.count_cons]
  simp only [beq_iff_eq]
  omega

theorem takeTurn (inLine : place.InLine (id :: held)) (idle : place.running = none) :
    { place with running := some id }.InLine held := by
  refine inLine.relined rfl (fun _ member => .inl member) fun other => .inl ?_
  simp only [stands, idle, Option.toList_some, Option.toList_none, List.count_nil, List.count_cons]
  omega

theorem leaveQueue {queue : List Job} (inLine : place.InLine held)
    (hqueue : place.queue = .turn id :: queue) : { place with queue }.InLine (id :: held) := by
  refine inLine.relined rfl (fun _ member => .inl member) fun other => .inl ?_
  rw [stands_of_queue hqueue other, List.count_cons]
  simp only [Job.turn?, Option.some.injEq, beq_iff_eq]
  omega

theorem dropJob {queue : List Job} {job : Job} (inLine : place.InLine held)
    (hqueue : place.queue = job :: queue) (aside : job.turn? = none) :
    { place with queue }.InLine held := by
  refine inLine.relined rfl (fun _ member => .inl member) fun other => .inl ?_
  rw [stands_of_queue hqueue other, aside, if_neg nofun, Nat.add_zero]

theorem enqueue (inLine : place.InLine (id :: held)) : (place.enqueue (.turn id)).InLine held := by
  refine inLine.relined rfl (fun _ member => .inl member) fun other => .inl ?_
  rw [stands_enqueue, List.count_cons]
  simp only [Job.turn?, Option.some.injEq, beq_iff_eq]
  omega

theorem enqueueAside {job : Job} (inLine : place.InLine held) (aside : job.turn? = none) :
    (place.enqueue job).InLine held := by
  refine inLine.relined rfl (fun _ member => .inl member) fun other => .inl ?_
  rw [stands_enqueue, aside, if_neg nofun, Nat.add_zero]

theorem enterGate (inLine : place.InLine (id :: held)) (name : String)
    (isDriver : ∀ task, place.task? id = some task → task.isDriver = true) :
    { place with atGates := place.atGates ++ [(name, id)] }.InLine held := by
  refine inLine.relined rfl ?_ fun other => .inl ?_
  · intro entry member
    rcases List.mem_append.mp member with member | member
    · exact .inl member
    · rw [List.mem_singleton.mp member]
      exact .inr isDriver
  · simp only [stands, List.map_append, List.count_append, List.map_cons, List.map_nil,
      List.count_nil, List.count_cons]
    omega

theorem drop (inLine : place.InLine (id :: held)) (waiter : place.Waiter id) :
    place.InLine held := by
  refine inLine.relined rfl (fun _ member => .inl member) fun other => ?_
  by_cases h : other = id
  · exact .inr (h ▸ waiter)
  · rw [List.count_cons_of_ne (Ne.symm h)]
    exact .inl rfl

theorem enqueueWaiter (inLine : place.InLine held) (waiter : place.Waiter id) :
    (place.enqueue (.turn id)).InLine held := by
  refine inLine.relined rfl (fun _ member => .inl member) fun other => ?_
  by_cases h : other = id
  · exact .inr (h ▸ waiter)
  · rw [stands_enqueue, Job.turn?, if_neg (by simpa using Ne.symm h), Nat.add_zero]
    exact .inl rfl

/-! ### Tasks -/

/-- Whether a task is ready or parked makes no difference as long as it has not ended. -/
theorem restanding {standing : Standing} (inLine : place.InLine held)
    (inPlace : place.stands id + held.count id ≠ 0)
    (live : ∀ conclusion, standing ≠ .ended conclusion) :
    (place.updateTask id fun task => { task with standing }).InLine held := by
  apply inLine.retold
  intro task found
  refine ⟨rfl, fun isDriver => ?_, fun _ member => .inl member⟩
  rw [inLine.live found isDriver inPlace]
  cases standing with
  | ended conclusion => exact absurd rfl (live conclusion)
  | _ => rfl

theorem wake (inLine : place.InLine (id :: held)) : (place.wake id).InLine held := by
  apply enqueue
  apply inLine.restanding
  · rw [List.count_cons_self]
    omega
  · intro _ h
    cases h

/-- A waiter may be told whatever keeps it one. -/
theorem retoldWaiter {change : Task → Task} (inLine : place.InLine held)
    (waiter : place.Waiter id) (waits : ∀ task, (change task).isDriver = false)
    (watchers : ∀ task, (change task).watchers = task.watchers) :
    (place.updateTask id change).InLine held := by
  obtain ⟨known, hknown, isWaiter⟩ := waiter
  apply inLine.retold
  intro task found
  cases hknown.symm.trans found
  refine ⟨(waits known).trans isWaiter.symm, fun isDriver => ?_, fun watcher member => ?_⟩
  · rw [isDriver] at isWaiter
    contradiction
  · rw [watchers known] at member
    exact .inl member

private theorem waiter_of_watched (inLine : place.InLine held) {id other : TaskId}
    (member : other ∈
      ((((place.task? id).map (·.watchers)).getD []).map (·.job id)).filterMap Job.turn?) :
    place.Waiter other := by
  obtain ⟨job, hjob, isTurn⟩ := List.mem_filterMap.mp member
  obtain ⟨watcher, hwatcher, rfl⟩ := List.mem_map.mp hjob
  cases found : place.task? id with
  | none =>
      rw [found] at hwatcher
      cases hwatcher
  | some task =>
      rw [found, Option.map_some, Option.getD_some] at hwatcher
      cases watcher with
      | wake watcher =>
          cases isTurn
          exact inLine.wakes id task found other hwatcher
      | release => cases isTurn
      | count => cases isTurn

theorem endTask {conclusion : Conclusion} (inLine : place.InLine held)
    (running : place.running = some id) : (place.endTask id conclusion).InLine held := by
  have ended : InLine held ({ place with running := none }.updateTask id fun task =>
      { task with standing := .ended conclusion, watchers := [] }) :=
    (inLine.leaveTurn running).ended
  refine ended.relined rfl (fun _ member => .inl member) fun other => ?_
  by_cases watched : other ∈
      ((((place.task? id).map (·.watchers)).getD []).map (·.job id)).filterMap Job.turn?
  · refine .inr (Waiter.updateTask ?_ (inLine.waiter_of_watched watched))
    exact fun _ _ => rfl
  · refine .inl ?_
    simp only [stands, queue_endTask, List.filterMap_append, List.count_append,
      List.count_eq_zero.mpr watched, Nat.add_zero]
    rfl

/-- A task that waits for others gives up its turn. -/
theorem parkWaiter (inLine : place.InLine held) (running : place.running = some id)
    (waiter : place.Waiter id) : (place.park id).InLine held := by
  have left := (inLine.leaveTurn running).drop waiter
  apply left.retold
  intro task found
  refine ⟨rfl, fun isDriver => ?_, fun _ member => .inl member⟩
  obtain ⟨known, hknown, waits⟩ := waiter
  cases hknown.symm.trans found
  rw [isDriver] at waits
  contradiction

theorem parkAtGate (inLine : place.InLine held) (running : place.running = some id)
    (name : String) (isDriver : ∀ task, place.task? id = some task → task.isDriver = true) :
    ({ place with atGates := place.atGates ++ [(name, id)] }.park id).InLine held := by
  have entered := (inLine.leaveTurn running).enterGate name isDriver
  apply entered.restanding
  · have here : 0 < ((place.atGates ++ [(name, id)]).map (·.2)).count id :=
      List.count_pos_iff.mpr (List.mem_map.mpr ⟨(name, id), by simp, rfl⟩)
    simp only [stands]
    omega
  · intro _ h
    cases h

theorem pause (inLine : place.InLine held) (running : place.running = some id) :
    ({ place with running := none }.wake id).InLine held :=
  (inLine.leaveTurn running).wake

theorem awaitTask {other : TaskId} (inLine : place.InLine held)
    (running : place.running = some id) (waiter : place.Waiter id) :
    (place.awaitTask id other).InLine held := by
  have told :
      (place.updateTask id fun task => { task with activity := .await other }).InLine held :=
    inLine.retoldWaiter waiter (fun _ => rfl) fun _ => rfl
  have waits : (place.updateTask id fun task => { task with activity := .await other }).Waiter id :=
    waiter.retold fun _ => rfl
  unfold Workplace.awaitTask
  dsimp only
  split
  · exact told.endTask running
  · refine parkWaiter ?_ running (waits.updateTask fun _ _ => rfl)
    apply told.retold
    refine fun task _ => ⟨rfl, fun _ => rfl, fun watcher member => ?_⟩
    rcases List.mem_append.mp member with member | member
    · exact .inl member
    · cases List.mem_singleton.mp member
      exact .inr waits

theorem wait {instanceId : String} (inLine : place.InLine held)
    (running : place.running = some id) (waiter : place.Waiter id) :
    (place.wait id instanceId).InLine held := by
  unfold Workplace.wait
  split
  · exact inLine.awaitTask running waiter
  · exact inLine.endTask running

theorem watchEnd {other : TaskId} (inLine : place.InLine held) :
    (Workplace.watchEnd id place other).InLine held := by
  unfold Workplace.watchEnd
  split
  · exact inLine.enqueueAside rfl
  · apply inLine.retold
    refine fun task _ => ⟨rfl, fun _ => rfl, fun watcher member => ?_⟩
    rcases List.mem_append.mp member with member | member
    · exact .inl member
    · cases List.mem_singleton.mp member

private theorem count_others (atGates : List (String × TaskId)) (id other : TaskId) :
    ((atGates.filter (·.2 != id)).map (·.2)).count other =
      if other = id then 0 else (atGates.map (·.2)).count other := by
  have hmap : (atGates.filter (·.2 != id)).map (·.2) = (atGates.map (·.2)).filter (· != id) := by
    rw [List.filter_map]
    rfl
  rw [hmap]
  split
  · next h =>
      subst h
      simp [List.count_eq_zero]
  · next h => exact List.count_filter (by simpa using h)

theorem requestStop (inLine : place.InLine held) : (place.requestStop id).InLine held := by
  have told :
      (place.updateTask id fun task => { task with stopRequested := true }).InLine held := by
    apply inLine.retold
    exact fun task _ => ⟨rfl, fun _ => rfl, fun _ member => .inl member⟩
  unfold Workplace.requestStop
  dsimp only
  split
  · next atGate =>
      apply wake
      refine told.relined rfl (fun _ member => .inl (List.mem_filter.mp member).1) fun other => ?_
      refine .inl ?_
      obtain ⟨entry, member, hentry⟩ := List.any_eq_true.mp atGate
      have hentry : entry.2 = id := by simpa using hentry
      have member : entry ∈ place.atGates := member
      -- Who stands at a gate stands nowhere else, so that all there is of it is taken away.
      have single :
          place.stands id + held.count id = 1 ∧ 0 < (place.atGates.map (·.2)).count id := by
        have here : 0 < (place.atGates.map (·.2)).count id :=
          List.count_pos_iff.mpr (List.mem_map.mpr ⟨entry, member, hentry⟩)
        refine ⟨?_, here⟩
        have inPlace : place.stands id + held.count id ≠ 0 := by
          simp only [stands]
          omega
        cases found : place.task? id with
        | none => exact absurd (inLine.known id found) inPlace
        | some task =>
            have isDriver := inLine.gates entry member task (hentry ▸ found)
            rw [inLine.once id task found isDriver, inLine.live found isDriver inPlace]
            rfl
      simp only [stands, count_others, List.count_cons, beq_iff_eq] at single ⊢
      change place.running.toList.count other + (place.queue.filterMap Job.turn?).count other + _ +
        _ = place.running.toList.count other + (place.queue.filterMap Job.turn?).count other +
          (place.atGates.map (·.2)).count other + _
      by_cases h : other = id
      · subst h
        rw [if_pos rfl, if_pos rfl]
        omega
      · rw [if_neg h, if_neg (Ne.symm h)]
        rfl
  · exact told

/-- Whoever waits for others still does. -/
private theorem waiter_requestStop {watcher : TaskId} (waiter : place.Waiter watcher) :
    (place.requestStop id).Waiter watcher := by
  have told :
      (place.updateTask id fun task => { task with stopRequested := true }).Waiter watcher :=
    waiter.updateTask fun _ _ => rfl
  unfold Workplace.requestStop
  dsimp only
  split
  · exact Waiter.updateTask (fun _ _ => rfl) told
  · exact told

/-- Something is told to tasks, which keeps everybody in line, waiters what they are, and the turn
with the task that has it. -/
private structure Told (held : List TaskId) (place next : Workplace) : Prop where
  inLine : place.InLine held → next.InLine held
  waiter : ∀ watcher, place.Waiter watcher → next.Waiter watcher
  running : next.running = place.running

private theorem Told.refl (held : List TaskId) (place : Workplace) : Told held place place :=
  ⟨fun inLine => inLine, fun _ waiter => waiter, rfl⟩

private theorem Told.trans {first second third : Workplace} (before : Told held first second)
    (after : Told held second third) : Told held first third :=
  ⟨fun inLine => after.inLine (before.inLine inLine),
    fun watcher waiter => after.waiter watcher (before.waiter watcher waiter),
    after.running.trans before.running⟩

private theorem told_watchEnd (held : List TaskId) (id : TaskId) (place : Workplace)
    (other : TaskId) : Told held place (Workplace.watchEnd id place other) := by
  refine ⟨fun inLine => inLine.watchEnd, fun watcher waiter => ?_, ?_⟩
  · unfold Workplace.watchEnd
    split
    · exact waiter
    · exact waiter.updateTask fun _ _ => rfl
  · unfold Workplace.watchEnd
    split <;> rfl

private theorem told_watchAll (held : List TaskId) (id : TaskId) (tasks : List TaskId)
    (place : Workplace) : Told held place (tasks.foldl (Workplace.watchEnd id) place) := by
  induction tasks generalizing place with
  | nil => exact .refl held place
  | cons other rest ih => exact (told_watchEnd held id place other).trans (ih _)

private theorem told_requestStop (held : List TaskId) (place : Workplace) (id : TaskId) :
    Told held place (place.requestStop id) := by
  refine ⟨fun inLine => inLine.requestStop, fun _ => waiter_requestStop, ?_⟩
  unfold Workplace.requestStop
  dsimp only
  split <;> rfl

private theorem told_stop (depth : Nat) (place : Workplace) (id : TaskId) :
    Told held place (stop depth place id).1 := by
  induction depth generalizing place id with
  | zero => exact .refl held place
  | succ depth ih =>
      unfold stop
      cases found : place.task? id with
      | none => exact .refl held place
      | some task =>
          dsimp only
          split
          · exact .refl held place
          · split
            · next other _ =>
                split
                · exact ih place other
                · exact (ih place other).trans (told_requestStop held _ _)
            · next tasks left _ isGather =>
                have passed := stopAll_of_stop (.refl held) (fun _ _ _ => .trans) ih tasks
                  (place, false)
                have waiter : place.Waiter id :=
                  ⟨task, found, by rw [Task.isDriver, isGather]; rfl⟩
                split
                · refine ⟨fun inLine => ?_, fun watcher isWaiter => ?_, passed.running⟩
                  · exact (passed.inLine inLine).retoldWaiter (passed.waiter id waiter)
                      (fun _ => rfl) fun _ => rfl
                  · refine Waiter.updateTask ?_ (passed.waiter watcher isWaiter)
                    obtain ⟨known, hknown, waits⟩ := passed.waiter id waiter
                    intro other hother
                    cases hknown.symm.trans hother
                    exact waits.symm
                · exact passed.trans (told_requestStop held _ _)
            · exact told_requestStop held place id

theorem stop {depth : Nat} (inLine : place.InLine held) :
    (Workplace.stop depth place id).1.InLine held :=
  (told_stop depth place id).inLine inLine

/-- Those who are let through a gate go to the end of the queue. -/
private theorem wakeAll (entries : List (String × TaskId))
    (inLine : place.InLine (entries.map (·.2) ++ held)) :
    (entries.foldl (fun place entry => place.wake entry.2) place).InLine held := by
  induction entries generalizing place with
  | nil => exact inLine
  | cons entry rest ih => exact ih (wake inLine)

theorem openGate (inLine : place.InLine held) (gate : String) :
    (place.openGate gate).InLine held := by
  unfold Workplace.openGate
  simp only [List.partition_eq_filter_filter]
  apply wakeAll
  refine inLine.relined rfl ?_ fun other => .inl ?_
  · exact fun _ member => .inl (List.mem_filter.mp member).1
  · have parted := ((List.filter_append_perm (·.1 == gate) place.atGates).map (·.2)).count_eq other
    rw [List.map_append, List.count_append] at parted
    have hnot : (fun entry : String × TaskId => !(entry.1 == gate)) =
        (not ∘ fun entry => entry.1 == gate) := rfl
    simp only [stands, List.count_append, ← parted, hnot]
    omega

theorem shutdown (inLine : place.InLine held) (running : place.running = some id)
    (waiter : place.Waiter id) : (place.shutdown id).InLine held := by
  unfold Workplace.shutdown
  dsimp only
  generalize (place.orchestrator.active.map (·.id)).foldl
    (fun orchestrator id => (orchestrator.cancel id).1) place.orchestrator = orchestrator
  split
  · exact (inLine.withOrchestrator _).endTask running
  · have watched := told_watchAll held id (place.submitted.map (·.2))
      (place.withOrchestrator orchestrator)
    have stillRunning : (((place.withOrchestrator orchestrator).submitted.map (·.2)).foldl
        (Workplace.watchEnd id) (place.withOrchestrator orchestrator)).running = some id := by
      rw [← running]
      exact watched.running
    have waits := watched.waiter id waiter
    refine parkWaiter ?_ stillRunning ?_
    · exact (watched.inLine (inLine.withOrchestrator _)).retoldWaiter waits (fun _ => rfl)
        fun _ => rfl
    · exact waits.retold fun _ => rfl

theorem countEnd (inLine : place.InLine held) : (place.countEnd id).InLine held := by
  unfold Workplace.countEnd
  split
  · exact inLine
  · next task found =>
      split
      · next tasks left stopped isGather =>
          have waiter : place.Waiter id :=
            ⟨task, found, by rw [Task.isDriver, isGather]; rfl⟩
          have told : (place.updateTask id fun task =>
              { task with activity := .gather tasks (left - 1) stopped }).InLine held :=
            inLine.retoldWaiter waiter (fun _ => rfl) fun _ => rfl
          dsimp only
          split
          · exact told.enqueueWaiter (waiter.retold fun _ => rfl)
          · exact told
      · exact inLine

theorem release (inLine : place.InLine held) (instanceId : String) (task : TaskId) :
    (place.release instanceId task).InLine held :=
  inLine.relined rfl (fun _ member => .inl member) fun _ => .inl rfl

/-! ### Turns -/

theorem updateRun (inLine : place.InLine held) (instanceId : String) (change : Run → Run) :
    (place.updateRun instanceId change).InLine held := by
  unfold Workplace.updateRun
  split
  · exact inLine
  · exact inLine.withOrchestrator _

/-- A driver goes on to drive something else. -/
theorem driving {change : Task → Task} {task : Task} (inLine : place.InLine held)
    (found : place.task? id = some task) (isDriver : task.isDriver = true)
    (drives : (change task).isDriver = true) (standing : (change task).standing = task.standing)
    (watchers : (change task).watchers = task.watchers) :
    (place.updateTask id change).InLine held := by
  apply inLine.retold
  intro other hother
  cases found.symm.trans hother
  refine ⟨drives.trans isDriver.symm, fun _ => ?_, fun watcher member => ?_⟩
  · rw [Task.hasEnded, Task.conclusion?, standing]
    rfl
  · rw [watchers] at member
    exact .inl member

theorem deliver {task : Task} {innermost : String} {outer : List String} {result : Fallible Result}
    (inLine : place.InLine held) (running : place.running = some id)
    (found : place.task? id = some task) (isDrive : task.activity = .drive innermost outer) :
    (place.deliver id outer result).InLine held := by
  cases outer with
  | nil => exact inLine.endTask running
  | cons next outer =>
      simp only [Workplace.deliver]
      have onward : (place.updateTask id fun task =>
          { task with activity := .drive next outer }).InLine held :=
        inLine.driving found (by rw [Task.isDriver, isDrive]; rfl) rfl rfl rfl
      exact onward.updateRun _ _

theorem answer {task : Task} {inst : Instance} {outer : List String} {effect : Effect}
    {next : effect.Reply → Phase} (inLine : place.InLine held)
    (running : place.running = some id) (found : place.task? id = some task)
    (isDrive : task.activity = .drive inst.id outer) :
    (place.answer id inst outer effect next).InLine held := by
  have isDriver : task.isDriver = true := by rw [Task.isDriver, isDrive]; rfl
  cases effect with
  | act deed =>
      simp only [Workplace.answer, setPhase]
      exact (inLine.withOrchestrator _).updateRun _ _
  | pause => exact inLine.pause running
  | gate name =>
      simp only [Workplace.answer]
      split
      · exact inLine.updateRun _ _
      · apply inLine.parkAtGate running
        intro other hother
        cases found.symm.trans hother
        exact isDriver
  | start graph initial =>
      simp only [Workplace.answer]
      split
      · exact inLine.updateRun _ _
      · exact (inLine.withOrchestrator _).driving found isDriver rfl rfl rfl
  | consult inquiry =>
      simp only [Workplace.answer, setPhase]
      exact (inLine.withOrchestrator _).updateRun _ _

theorem drive {task : Task} {innermost : String} {outer : List String} (inLine : place.InLine held)
    (running : place.running = some id) (found : place.task? id = some task)
    (isDrive : task.activity = .drive innermost outer) :
    (place.drive id innermost outer).InLine held := by
  unfold Workplace.drive
  split
  · exact inLine.endTask running
  · next inst hinst =>
      have hid := Orchestrator.id_of_instance? hinst
      split
      · exact inLine.withOrchestrator _
      · exact inLine.answer running found (hid ▸ isDrive)
      · exact (inLine.withOrchestrator _).deliver running found isDrive

theorem advance {task : Task} (inLine : place.InLine held) (running : place.running = some id)
    (found : place.task? id = some task) : (place.advance id task).InLine held := by
  have waiter : task.isDriver = false → place.Waiter id := fun waits => ⟨task, found, waits⟩
  unfold Workplace.advance
  split
  · next graph initial isStart =>
      split
      · exact inLine.endTask running
      · have isDriver : task.isDriver = true := by
          rw [Task.isDriver, isStart]
          rfl
        exact (inLine.withOrchestrator _).driving found isDriver rfl rfl rfl
  · next isDrive => exact inLine.drive running found isDrive
  · next isWait => exact inLine.wait running (waiter (by rw [Task.isDriver, isWait]; rfl))
  · next isAwait => exact inLine.awaitTask running (waiter (by rw [Task.isDriver, isAwait]; rfl))
  · next isShutdown =>
      exact inLine.shutdown running (waiter (by rw [Task.isDriver, isShutdown]; rfl))
  · next isGather => exact inLine.parkWaiter running (waiter (by rw [Task.isDriver, isGather]; rfl))

theorem interrupt {task : Task} (inLine : place.InLine held) (running : place.running = some id) :
    (place.interrupt id task).InLine held := by
  unfold Workplace.interrupt
  split
  · exact inLine.updateRun _ _
  · exact inLine.endTask running

theorem proceed {task : Task} (inLine : place.InLine held) (running : place.running = some id)
    (waiter : task.isDriver = false → place.Waiter id) : (place.proceed id task).InLine held := by
  unfold Workplace.proceed
  split
  · exact inLine
  · split
    · exact inLine.updateRun _ _
    · exact inLine
  · exact inLine
  · next isAwait => exact inLine.awaitTask running (waiter (by rw [Task.isDriver, isAwait]; rfl))
  · exact inLine
  · split
    · exact inLine.endTask running
    · have released : InLine held { place with submitted := [] } :=
        inLine.relined rfl (fun _ member => .inl member) fun _ => .inl rfl
      exact released.endTask running

theorem beginTurn (inLine : place.InLine (id :: held)) (idle : place.running = none) :
    (place.beginTurn id).InLine held := by
  have inPlace : place.stands id + (id :: held).count id ≠ 0 := by
    rw [List.count_cons_self]
    omega
  unfold Workplace.beginTurn
  split
  · next missing => exact absurd (inLine.known id missing) inPlace
  · next task found =>
      split
      · next ended =>
          -- A driver that has ended is not taken from anywhere.
          apply inLine.drop
          refine ⟨task, found, ?_⟩
          by_contra isDriver
          have live := inLine.live found (by simpa using isDriver) inPlace
          rw [ended] at live
          contradiction
      · next live =>
          have told : InLine (id :: held) (place.updateTask id fun task =>
              { task with standing := .ready, begun := true, stopRequested := false }) := by
            apply inLine.retold
            intro other hother
            cases found.symm.trans hother
            refine ⟨rfl, fun _ => ?_, fun _ member => .inl member⟩
            rw [Bool.not_eq_true] at live
            rw [live]
            rfl
          have taken := told.takeTurn idle
          dsimp only
          split
          · exact taken.interrupt rfl
          · apply taken.proceed rfl
            intro waits
            exact Waiter.updateTask (fun _ _ => rfl) ⟨task, found, waits⟩

theorem tick? (inLine : place.InLine []) (h : place.tick? = some next) : next.InLine [] := by
  unfold Workplace.tick? at h
  split at h
  · next id running =>
      split at h
      · next missing =>
          have known := inLine.known id missing
          rw [stands_of_running running id, if_pos rfl] at known
          omega
      · next task found =>
          cases h
          exact inLine.advance running found
  · next idle =>
      split at h
      · cases h
      · next job queue hqueue =>
          cases h
          cases job with
          | turn id => exact (inLine.leaveQueue hqueue).beginTurn idle
          | release instanceId task => exact (inLine.dropJob hqueue rfl).release instanceId task
          | count id => exact (inLine.dropJob hqueue rfl).countEnd

end InLine

theorem Next.inLine {place next : Workplace} (inLine : place.InLine [])
    (happens : Next place next) :
    next.InLine [] := by
  cases happens with
  | tick h => exact inLine.tick? h
  | start => exact inLine.spawn nofun
  | @submit graph initial _ _ h =>
      unfold Workplace.submit at h
      split at h
      · cases h
      · next definition _ =>
          cases h
          have spawned : ((place.withOrchestrator
              (place.orchestrator.openInstance definition initial).1).spawn
                (.drive (place.orchestrator.openInstance definition initial).2 [])
                [.release (place.orchestrator.openInstance definition initial).2]).1.InLine [] :=
            (inLine.withOrchestrator _).spawn (by simp)
          exact spawned.relined rfl (fun _ member => .inl member) fun _ => .inl rfl
  | wait => exact inLine.spawn nofun
  | shutdown => exact inLine.spawn nofun
  | cancel => exact inLine.withOrchestrator _
  | abort => exact inLine.stop
  | register => exact inLine.withOrchestrator _
  | registerApart => exact inLine.withOrchestrator _
  | clock => exact inLine.withOrchestrator _
  | services => exact inLine.withOrchestrator _
  | openGate gate => exact inLine.openGate gate
  | closeGate => exact inLine.relined rfl (fun _ member => .inl member) fun _ => .inl rfl
  | touch => exact inLine.withOrchestrator _

theorem IsNew.inLine {place : Workplace} (isNew : place.IsNew) : place.InLine [] where
  known := by simp [stands, isNew.running, isNew.queue, isNew.atGates]
  once := by simp [task?, isNew.tasks]
  gates := by simp [isNew.atGates]
  wakes := by simp [task?, isNew.tasks]

theorem Reachable.inLine {place : Workplace} (reachable : place.Reachable) : place.InLine [] := by
  obtain ⟨first, isNew, later⟩ := reachable
  induction later with
  | refl => exact isNew.inLine
  | tail _ next ih => exact next.inLine ih

end Workplace

end StepGraph
