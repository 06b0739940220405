import StepGraph.Orchestrator.Turn
import StepGraph.Proofs.Orchestrator.Change

/-! What can happen at a workplace, cut into small shifts, and the invariant that all of them keep:
what a task drives has been opened, and a task that has ended says what became of the instance it
drove. -/

namespace StepGraph

namespace Task

def drives (task : Task) : List String :=
  match task.activity with
  | .drive innermost outer => innermost :: outer
  | _ => []

/-- How a task changes while what it drives is left alone. It does not end. -/
structure Waits (before after : Task) : Prop where
  drives : after.drives = before.drives ∨ after.drives = []
  conclusion : after.conclusion? = before.conclusion? ∨ after.conclusion? = none

end Task

namespace Orchestrator

/-- What a driver may say in the end about the instance it drove. One that was told to stop does not
say anything about it. -/
def Bears (orchestrator : Orchestrator) (id : String) : Conclusion → Prop
  | .failed .interrupted => True
  | .failed _ =>
      ∃ inst, orchestrator.instance? id = some inst ∧ inst.isActive = false ∧
        inst.isCancelled = false
  | .result result =>
      result.instanceId = id ∧ result.status ≠ .running ∧
        ∃ inst, orchestrator.instance? id = some inst ∧ inst.status = result.status
  | .finished => False

theorem bears_failed_iff {orchestrator : Orchestrator} {id : String} {failure : Failure}
    (raised : failure ≠ .interrupted) :
    orchestrator.Bears id (.failed failure) ↔
      ∃ inst, orchestrator.instance? id = some inst ∧ inst.isActive = false ∧
        inst.isCancelled = false := by
  cases failure with
  | interrupted => contradiction
  | _ => rfl

theorem LeadsTo.bears {before after : Orchestrator} (leads : before.LeadsTo after) {id : String}
    {conclusion : Conclusion} (bears : before.Bears id conclusion) :
    after.Bears id conclusion := by
  cases conclusion with
  | finished => exact bears
  | result result =>
      obtain ⟨hid, hstatus, inst, found, hsame⟩ := bears
      obtain ⟨later, hlater, leads⟩ := leads.instances id inst found
      refine ⟨hid, hstatus, later, hlater, ?_⟩
      have ended : inst.isActive = false := by simpa [Instance.isActive, hsame] using hstatus
      rw [leads.status ended, hsame]
  | failed failure =>
      by_cases raised : failure = .interrupted
      · rw [raised]
        exact trivial
      · rw [bears_failed_iff raised] at bears ⊢
        obtain ⟨inst, found, ended, kept⟩ := bears
        obtain ⟨later, hlater, leads⟩ := leads.instances id inst found
        refine ⟨later, hlater, leads.isActive ended, ?_⟩
        have := leads.status ended
        simp only [Instance.isCancelled] at kept ⊢
        rw [this, kept]

theorem instance?_of_finalize? {before after : Orchestrator} (numbered : before.Numbered)
    {id : String} {status : Status} {terminalStep error : Option String}
    (finalized : before.finalize? id status terminalStep error = some after) :
    ∃ inst, before.instance? id = some inst ∧ inst.isActive = true ∧
      after.instance? id = some (inst.close before.now status terminalStep error) := by
  obtain ⟨inst, isActive, rfl⟩ := finalize?_eq_some_iff.mp finalized
  obtain ⟨found, active⟩ := (active?_eq_some_iff numbered).mp isActive
  have hid : inst.id = id := id_of_instance? found
  exact ⟨inst, found, active, instance?_put_of_some found hid⟩

/-- A cancellation leaves every run where it stands. -/
theorem phase_cancel {orchestrator : Orchestrator} (numbered : orchestrator.Numbered) {id : String}
    {inst : Instance} (found : orchestrator.instance? id = some inst) (target : String) :
    ∃ after, (orchestrator.cancel target).1.instance? id = some after ∧
      after.run.phase = inst.run.phase := by
  unfold cancel
  cases finalized : orchestrator.finalize? target .cancelled none none with
  | none => exact ⟨inst, found, rfl⟩
  | some ended =>
      obtain ⟨closed, isActive, rfl⟩ := finalize?_eq_some_iff.mp finalized
      obtain ⟨hclosed, _⟩ := (active?_eq_some_iff numbered).mp isActive
      have hid : closed.id = target := id_of_instance? hclosed
      by_cases h : id = target
      · subst h
        cases found.symm.trans hclosed
        exact ⟨_, instance?_put_of_some found hid, rfl⟩
      · have hput := instance?_put orchestrator
          (closed.close orchestrator.now .cancelled none none) id
        have hne : id ≠ closed.id := fun heq => h (heq.trans hid)
        exact ⟨inst, (hput.trans (if_neg hne)).trans found, rfl⟩

theorem isActive_of_finalize?_eq_none {orchestrator : Orchestrator}
    (numbered : orchestrator.Numbered) {id : String} {inst : Instance} {status : Status}
    {terminalStep error : Option String} (found : orchestrator.instance? id = some inst)
    (idle : orchestrator.finalize? id status terminalStep error = none) :
    inst.isActive = false := by
  rw [finalize?_eq_none_iff] at idle
  by_contra active
  have := (active?_eq_some_iff numbered).mpr ⟨found, by simpa using active⟩
  rw [idle] at this
  contradiction

private theorem bears_resultOf {orchestrator : Orchestrator} {id : String} {inst : Instance}
    (found : orchestrator.instance? id = some inst) (ended : inst.isActive = false) :
    orchestrator.Bears id (Workplace.conclusionOf (orchestrator.resultOf id)) := by
  rw [resultOf, found]
  exact ⟨id_of_instance? found, by simpa [Instance.isActive, result] using ended, inst, found, rfl⟩

private theorem bears_after_finalize {orchestrator : Orchestrator}
    (numbered : orchestrator.Numbered) {id : String} {inst : Instance} {status : Status}
    {terminalStep error : Option String} (found : orchestrator.instance? id = some inst)
    (isTerminal : status ≠ .running) {after : Orchestrator}
    (hafter : after = (orchestrator.finalize? id status terminalStep error).getD orchestrator) :
    after.Bears id (Workplace.conclusionOf (after.resultOf id)) := by
  cases finalized : orchestrator.finalize? id status terminalStep error with
  | none =>
      rw [finalized, Option.getD_none] at hafter
      subst hafter
      exact bears_resultOf found (isActive_of_finalize?_eq_none numbered found finalized)
  | some ended =>
      rw [finalized, Option.getD_some] at hafter
      subst hafter
      obtain ⟨_, _, _, hclosed⟩ := instance?_of_finalize? numbered finalized
      exact bears_resultOf hclosed (by simpa [Instance.isActive, Instance.close] using isTerminal)

/-- Whoever drove an instance to the end of its run is told what became of it. -/
theorem bears_conclude {orchestrator : Orchestrator} (numbered : orchestrator.Numbered)
    {id : String} {inst : Instance} (found : orchestrator.instance? id = some inst)
    (ending : Ending) :
    (orchestrator.conclude id ending).1.Bears id
      (Workplace.conclusionOf (orchestrator.conclude id ending).2) := by
  unfold conclude
  split
  · exact bears_after_finalize numbered found (by simp) rfl
  · exact bears_after_finalize numbered found (by simp) rfl
  · exact trivial
  · next failure _ _ raised =>
      have raised : failure ≠ .interrupted := fun h => raised h
      split
      · next finalized =>
          obtain ⟨closed, _, _, hclosed⟩ := instance?_of_finalize? numbered finalized
          exact (bears_failed_iff raised).mpr ⟨_, hclosed, rfl, rfl⟩
      · next idle =>
          have ended := isActive_of_finalize?_eq_none numbered found idle
          rw [found]
          cases cancelled : inst.isCancelled with
          | true =>
              rw [Option.any_some, cancelled, if_pos rfl]
              exact bears_resultOf found ended
          | false =>
              rw [Option.any_some, cancelled, if_neg (by simp)]
              exact (bears_failed_iff raised).mpr ⟨inst, found, ended, cancelled⟩

/-- The end of the run of an instance that has been cancelled changes nothing. -/
theorem conclude_of_cancelled {orchestrator : Orchestrator} (numbered : orchestrator.Numbered)
    {id : String} {inst : Instance} (found : orchestrator.instance? id = some inst)
    (cancelled : inst.isCancelled = true) (ending : Ending) :
    orchestrator.conclude id ending = (orchestrator, .ok (orchestrator.result inst)) ∨
      (∃ cause, ending = .raised .interrupted cause) ∧
        orchestrator.conclude id ending = (orchestrator, .error .interrupted) := by
  have idle : ∀ status terminalStep error,
      orchestrator.finalize? id status terminalStep error = none := by
    intro status terminalStep error
    rw [finalize?_eq_none_iff]
    exact active?_eq_none_of_ended numbered found (Instance.isActive_of_isCancelled cancelled)
  unfold conclude
  split
  · exact .inl (by simp [idle, resultOf, found])
  · exact .inl (by simp [idle, resultOf, found])
  · exact .inr ⟨⟨_, rfl⟩, by simp [idle]⟩
  · exact .inl (by simp [idle, found, cancelled, resultOf])

end Orchestrator

namespace Workplace

theorem task?_updateTask (place : Workplace) (id : TaskId) (change : Task → Task) (other : TaskId) :
    (place.updateTask id change).task? other =
      if other = id then (place.task? other).map change else place.task? other := by
  simp only [updateTask, task?, List.getElem?_modify]
  by_cases h : other = id
  · subst other
    simp
  · simp [h, Ne.symm h]

theorem task?_updateTask_self {place : Workplace} {id : TaskId} {task : Task}
    (found : place.task? id = some task) (change : Task → Task) :
    (place.updateTask id change).task? id = some (change task) := by
  rw [task?_updateTask, if_pos rfl, found]
  rfl

theorem task?_endTask {place : Workplace} {id : TaskId} {task : Task}
    (found : place.task? id = some task) (conclusion : Conclusion) :
    (place.endTask id conclusion).task? id =
      some { task with standing := .ended conclusion, watchers := [] } :=
  task?_updateTask_self found _

theorem of_task?_updateTask {place : Workplace} {id other : TaskId} {change : Task → Task}
    {task : Task} (found : (place.updateTask id change).task? other = some task) :
    (other = id ∧ ∃ before, place.task? id = some before ∧ change before = task) ∨
      place.task? other = some task := by
  rw [task?_updateTask] at found
  split at found
  · next h =>
      subst h
      exact .inl ⟨rfl, Option.map_eq_some_iff.mp found⟩
  · exact .inr found

theorem task?_spawn (place : Workplace) (activity : Activity) (watchers : List Watcher)
    (id : TaskId) :
    (place.spawn activity watchers).1.task? id =
      if id = place.tasks.length then some { activity, watchers } else place.task? id := by
  simp only [spawn, task?, enqueue, List.getElem?_append]
  rcases Nat.lt_trichotomy id place.tasks.length with within | rfl | beyond
  · rw [if_pos within, if_neg (Nat.ne_of_lt within)]
  · simp
  · rw [if_neg (Nat.lt_asymm beyond), if_neg (Nat.ne_of_gt beyond),
      List.getElem?_eq_none (Nat.le_of_lt beyond), List.getElem?_eq_none]
    rw [List.length_singleton]
    omega

theorem task?_spawn_of_some {place : Workplace} {id : TaskId} {task : Task}
    (found : place.task? id = some task) (activity : Activity) (watchers : List Watcher) :
    (place.spawn activity watchers).1.task? id = some task := by
  rw [task?_spawn, if_neg (Nat.ne_of_lt (List.getElem?_eq_some_iff.mp found).1), found]

inductive Shift (place : Workplace) : Workplace → Prop
  | arranged {next : Workplace} (orchestrator : next.orchestrator = place.orchestrator)
      (tasks : next.tasks = place.tasks)
      (running : next.running = place.running ∨ next.running = none) : Shift place next
  | retold {id : TaskId} {change : Task → Task}
      (waits : ∀ task, place.task? id = some task → task.Waits (change task)) :
      Shift place (place.updateTask id change)
  | taken {id : TaskId} (live : ∀ task, place.task? id = some task → task.conclusion? = none) :
      Shift place { place with running := some id }
  | driving {id : TaskId} {change : Task → Task}
      (live : ∀ task, place.task? id = some task → (change task).conclusion? = none)
      (opened : ∀ task, place.task? id = some task → ∀ driven ∈ (change task).drives,
        ∃ inst, place.orchestrator.instance? driven = some inst) :
      Shift place (place.updateTask id change)
  | spawned {task : Task} (live : task.conclusion? = none)
      (opened : ∀ driven ∈ task.drives,
        ∃ inst, place.orchestrator.instance? driven = some inst) :
      Shift place { place with tasks := place.tasks ++ [task] }
  | ended {id : TaskId} {conclusion : Conclusion} (left : place.running = none)
      (bears : ∀ task, place.task? id = some task → ∀ root, task.drives.getLast? = some root →
        place.orchestrator.Bears root conclusion) :
      Shift place (place.updateTask id fun task =>
        { task with standing := .ended conclusion, watchers := [] })
  | changed {after : Orchestrator} (change : Orchestrator.Change place.orchestrator after) :
      Shift place (place.withOrchestrator after)

abbrev Shifts : Workplace → Workplace → Prop :=
  Relation.ReflTransGen Shift

/-- The ids are in order, all that is driven has been opened, what a task has said in the end about
the instance it drove holds, and the task whose turn is under way has not ended. -/
structure Sound (place : Workplace) : Prop where
  numbered : place.orchestrator.Numbered
  opened : ∀ id task, place.task? id = some task → ∀ driven ∈ task.drives,
    ∃ inst, place.orchestrator.instance? driven = some inst
  bears : ∀ id task, place.task? id = some task → ∀ conclusion,
    task.conclusion? = some conclusion → ∀ root, task.drives.getLast? = some root →
      place.orchestrator.Bears root conclusion
  live : ∀ id, place.running = some id → ∀ task, place.task? id = some task →
    task.conclusion? = none

namespace Sound

variable {place next : Workplace} {id : TaskId}

theorem updateTask (sound : place.Sound) {change : Task → Task}
    (opened : ∀ task, place.task? id = some task → ∀ driven ∈ (change task).drives,
      ∃ inst, place.orchestrator.instance? driven = some inst)
    (bears : ∀ task, place.task? id = some task → ∀ conclusion,
      (change task).conclusion? = some conclusion → ∀ root,
        (change task).drives.getLast? = some root → place.orchestrator.Bears root conclusion)
    (live : place.running = some id → ∀ task, place.task? id = some task →
      (change task).conclusion? = none) : (place.updateTask id change).Sound where
  numbered := sound.numbered
  opened := by
    intro other task found
    rcases of_task?_updateTask found with ⟨_, before, hbefore, rfl⟩ | found
    · exact opened before hbefore
    · exact sound.opened other task found
  bears := by
    intro other task found
    rcases of_task?_updateTask found with ⟨_, before, hbefore, rfl⟩ | found
    · exact bears before hbefore
    · exact sound.bears other task found
  live := by
    intro other running task found
    rcases of_task?_updateTask found with ⟨rfl, before, hbefore, rfl⟩ | found
    · exact live running before hbefore
    · exact sound.live other running task found

theorem arranged (sound : place.Sound) (orchestrator : next.orchestrator = place.orchestrator)
    (tasks : next.tasks = place.tasks)
    (running : next.running = place.running ∨ next.running = none) : next.Sound := by
  have htask : next.task? = place.task? := by
    funext id
    rw [task?, tasks, task?]
  constructor
  · rw [orchestrator]
    exact sound.numbered
  · rw [htask, orchestrator]
    exact sound.opened
  · rw [htask, orchestrator]
    exact sound.bears
  · rw [htask]
    intro id h
    rcases running with same | none
    · exact sound.live id (same ▸ h)
    · rw [none] at h
      contradiction

theorem retold (sound : place.Sound) {change : Task → Task}
    (waits : ∀ task, place.task? id = some task → task.Waits (change task)) :
    (place.updateTask id change).Sound := by
  apply sound.updateTask
  · intro task found driven member
    rcases (waits task found).drives with same | idle
    · exact sound.opened id task found driven (same ▸ member)
    · rw [idle] at member
      contradiction
  · intro task found conclusion hconclusion root hroot
    rcases (waits task found).conclusion with same | none
    · rw [same] at hconclusion
      rcases (waits task found).drives with same | idle
      · exact sound.bears id task found conclusion hconclusion root (same ▸ hroot)
      · rw [idle] at hroot
        contradiction
    · rw [none] at hconclusion
      contradiction
  · intro running task found
    rcases (waits task found).conclusion with same | none
    · rw [same]
      exact sound.live id running task found
    · exact none

theorem driving (sound : place.Sound) {change : Task → Task}
    (live : ∀ task, place.task? id = some task → (change task).conclusion? = none)
    (opened : ∀ task, place.task? id = some task → ∀ driven ∈ (change task).drives,
      ∃ inst, place.orchestrator.instance? driven = some inst) :
    (place.updateTask id change).Sound := by
  refine sound.updateTask opened ?_ fun _ => live
  intro task found conclusion hconclusion
  rw [live task found] at hconclusion
  contradiction

theorem spawned (sound : place.Sound) {added : Task} (idle : added.conclusion? = none)
    (opened : ∀ driven ∈ added.drives, ∃ inst, place.orchestrator.instance? driven = some inst) :
    ({ place with tasks := place.tasks ++ [added] } : Workplace).Sound := by
  have hold : ∀ id task, (place.tasks ++ [added])[id]? = some task →
      place.task? id = some task ∨ task = added := by
    intro id task found
    rw [List.getElem?_append] at found
    split at found
    · exact .inl found
    · exact .inr (List.mem_singleton.mp (List.mem_of_getElem? found))
  constructor
  · exact sound.numbered
  · intro id task found
    rcases hold id task found with hold | rfl
    · exact sound.opened id task hold
    · exact opened
  · intro id task found conclusion hconclusion
    rcases hold id task found with hold | rfl
    · exact sound.bears id task hold conclusion hconclusion
    · rw [idle] at hconclusion
      contradiction
  · intro id running task found
    rcases hold id task found with hold | rfl
    · exact sound.live id running task hold
    · exact idle

theorem ended (sound : place.Sound) {conclusion : Conclusion} (left : place.running = none)
    (bears : ∀ task, place.task? id = some task → ∀ root, task.drives.getLast? = some root →
      place.orchestrator.Bears root conclusion) :
    (place.updateTask id fun task =>
      { task with standing := .ended conclusion, watchers := [] }).Sound := by
  apply sound.updateTask
  · exact fun task found => sound.opened _ task found
  · intro task found conclusion hconclusion
    cases hconclusion
    exact bears task found
  · intro running
    rw [left] at running
    contradiction

/-- What a task has said of an instance still holds, since the end of an instance is final. -/
theorem changed (sound : place.Sound) {after : Orchestrator}
    (change : Orchestrator.Change place.orchestrator after) :
    (place.withOrchestrator after).Sound := by
  have leads := change.leadsTo sound.numbered
  constructor
  · exact change.numbered sound.numbered
  · intro id task found driven member
    obtain ⟨inst, hinst⟩ := sound.opened id task found driven member
    obtain ⟨later, hlater, _⟩ := leads.instances driven inst hinst
    exact ⟨later, hlater⟩
  · intro id task found conclusion hconclusion root hroot
    exact leads.bears (sound.bears id task found conclusion hconclusion root hroot)
  · exact sound.live

theorem shift (sound : place.Sound) (shift : Shift place next) : next.Sound := by
  cases shift with
  | arranged orchestrator tasks running => exact sound.arranged orchestrator tasks running
  | retold waits => exact sound.retold waits
  | taken live =>
      refine ⟨sound.numbered, sound.opened, sound.bears, ?_⟩
      intro id running
      cases running
      exact live
  | driving live opened => exact sound.driving live opened
  | spawned idle opened => exact sound.spawned idle opened
  | ended left bears => exact sound.ended left bears
  | changed change => exact sound.changed change

end Sound

end Workplace

end StepGraph
