import StepGraph.Proofs.Orchestrator.Reach

namespace StepGraph

namespace Workplace

theorem submitted_updateRun (place : Workplace) (id : String) (change : Run → Run) :
    (place.updateRun id change).submitted = place.submitted := by
  unfold updateRun
  split <;> rfl

theorem submitted_deliver (place : Workplace) (id : TaskId) (outer : List String)
    (result : Fallible Result) : (place.deliver id outer result).submitted = place.submitted := by
  cases outer with
  | nil => rfl
  | cons next outer => exact submitted_updateRun _ _ _

theorem submitted_answer (place : Workplace) (id : TaskId) (inst : Instance) (outer : List String)
    (effect : Effect) (next : effect.Reply → Phase) :
    (place.answer id inst outer effect next).submitted = place.submitted := by
  cases effect with
  | act => exact submitted_updateRun _ _ _
  | pause => rfl
  | gate name =>
      simp only [answer]
      split
      · exact submitted_updateRun _ _ _
      · rfl
  | start graph initial =>
      simp only [answer]
      split
      · exact submitted_updateRun _ _ _
      · rfl
  | consult => exact submitted_updateRun _ _ _

theorem submitted_drive (place : Workplace) (id : TaskId) (innermost : String)
    (outer : List String) : (place.drive id innermost outer).submitted = place.submitted := by
  unfold drive
  split
  · rfl
  · split
    · rfl
    · exact submitted_answer _ _ _ _ _ _
    · exact submitted_deliver _ _ _ _

theorem submitted_awaitTask (place : Workplace) (id other : TaskId) :
    (place.awaitTask id other).submitted = place.submitted := by
  unfold awaitTask
  dsimp only
  split <;> rfl

theorem submitted_wait (place : Workplace) (id : TaskId) (instanceId : String) :
    (place.wait id instanceId).submitted = place.submitted := by
  unfold wait
  split
  · exact submitted_awaitTask _ _ _
  · rfl

theorem part_foldl {α β : Type} {part : Workplace → β} {step : Workplace → α → Workplace}
    (same : ∀ place item, part (step place item) = part place) (items : List α)
    (place : Workplace) : part (items.foldl step place) = part place := by
  induction items generalizing place with
  | nil => rfl
  | cons item rest ih => exact (ih _).trans (same place item)

theorem submitted_shutdown (place : Workplace) (id : TaskId) :
    (place.shutdown id).submitted = place.submitted := by
  have watched (place : Workplace) (other : TaskId) :
      (watchEnd id place other).submitted = place.submitted := by
    unfold watchEnd
    split <;> rfl
  unfold shutdown
  dsimp only
  split
  · rfl
  · exact part_foldl watched _ _

theorem submitted_advance (place : Workplace) (id : TaskId) (task : Task) :
    (place.advance id task).submitted = place.submitted := by
  unfold advance
  split
  · split <;> rfl
  · exact submitted_drive _ _ _ _
  · exact submitted_wait _ _ _
  · exact submitted_awaitTask _ _ _
  · exact submitted_shutdown _ _
  · rfl

theorem submitted_interrupt (place : Workplace) (id : TaskId) (task : Task) :
    (place.interrupt id task).submitted = place.submitted := by
  unfold interrupt
  split
  · exact submitted_updateRun _ _ _
  · rfl

theorem submitted_proceed (place : Workplace) (id : TaskId) (task : Task) :
    (place.proceed id task).submitted = place.submitted ∨
      (place.proceed id task).submitted = [] := by
  unfold proceed
  split
  · exact .inl rfl
  · split
    · exact .inl (submitted_updateRun _ _ _)
    · exact .inl rfl
  · exact .inl rfl
  · exact .inl (submitted_awaitTask _ _ _)
  · exact .inl rfl
  · split
    · exact .inl rfl
    · exact .inr rfl

theorem submitted_beginTurn (place : Workplace) (id : TaskId) :
    (place.beginTurn id).submitted = place.submitted ∨ (place.beginTurn id).submitted = [] := by
  unfold beginTurn
  split
  · exact .inl rfl
  · split
    · exact .inl rfl
    · dsimp only
      split
      · exact .inl (submitted_interrupt _ _ _)
      · exact submitted_proceed _ _ _

theorem submitted_countEnd (place : Workplace) (id : TaskId) :
    (place.countEnd id).submitted = place.submitted := by
  unfold countEnd
  split
  · rfl
  · split
    · dsimp only
      split <;> rfl
    · rfl

theorem submitted_tick? {place next : Workplace} (h : place.tick? = some next) :
    next.submitted ⊆ place.submitted := by
  unfold tick? at h
  split at h
  · split at h <;> cases h
    · exact List.Subset.refl _
    · rw [submitted_advance]
      exact List.Subset.refl _
  · split at h
    · cases h
    · next job queue _ =>
        cases h
        cases job with
        | turn id =>
            rcases submitted_beginTurn { place with queue } id with same | none
            · simp only [perform, same, List.Subset.refl]
            · simp only [perform, none, List.nil_subset]
        | release instanceId task => exact List.filter_sublist.subset
        | count id => simp only [perform, submitted_countEnd, List.Subset.refl]

theorem submitted_openGate (place : Workplace) (gate : String) :
    (place.openGate gate).submitted = place.submitted := by
  have woken (place : Workplace) (entry : String × TaskId) :
      (place.wake entry.2).submitted = place.submitted := rfl
  simp only [openGate, List.partition_eq_filter_filter]
  exact part_foldl woken _ _

theorem submitted_stop (depth : Nat) (place : Workplace) (id : TaskId) :
    (stop depth place id).1.submitted = place.submitted := by
  have requested (place : Workplace) (id : TaskId) :
      (place.requestStop id).submitted = place.submitted := by
    unfold requestStop
    dsimp only
    split <;> rfl
  induction depth generalizing place id with
  | zero => rfl
  | succ depth ih =>
      unfold stop
      cases place.task? id with
      | none => rfl
      | some task =>
          dsimp only
          split
          · rfl
          · split
            · next other _ =>
                split
                · exact ih place other
                · exact (requested _ _).trans (ih place other)
            · next tasks left _ _ =>
                have passed := @stopAll_of_stop depth
                  (fun place next => next.submitted = place.submitted) (fun _ => rfl)
                  (fun _ _ _ first second => second.trans first) ih tasks (place, false)
                split
                · exact passed
                · exact (requested _ _).trans passed
            · exact requested place id

structure Submits (id : String) (place next : Workplace) : Prop where
  isNew : id = place.orchestrator.nextId
  orchestrator : ∃ definition initial,
    next.orchestrator = (place.orchestrator.openInstance definition initial).1
  submitted : next.submitted = place.submitted ++ [(id, place.tasks.length)]
  task : next.task? place.tasks.length =
    some { activity := .drive id [], watchers := [.release id] }

theorem submits_of_submit {place next : Workplace} {graph id : String} {initial : Initial}
    (h : place.submit graph initial = .ok (next, id)) : Submits id place next := by
  unfold submit at h
  split at h
  · cases h
  · next definition _ =>
      cases h
      refine ⟨rfl, ⟨definition, initial, rfl⟩, rfl, ?_⟩
      exact (task?_spawn _ _ _ _).trans (if_pos rfl)

/-- Nothing but a submission adds to the submitted tasks. -/
theorem Next.submits {place next : Workplace} (happening : Next place next) :
    next.submitted ⊆ place.submitted ∨ ∃ id, Submits id place next := by
  have same (heq : next.submitted = place.submitted) :
      next.submitted ⊆ place.submitted ∨ ∃ id, Submits id place next :=
    .inl (heq ▸ List.Subset.refl _)
  cases happening with
  | tick h => exact .inl (submitted_tick? h)
  | submit h => exact .inr ⟨_, submits_of_submit h⟩
  | abort id => exact same (submitted_stop _ _ _)
  | openGate gate => exact same (submitted_openGate _ _)
  | _ => exact same rfl

section

variable {place next after : Workplace} {id : String}

/-- What is kept under the id of an instance has been kept since. -/
theorem Later.submitted_of_opened (reachable : place.Reachable) (later : Later place after)
    {inst : Instance} (opened : place.orchestrator.instance? id = some inst)
    {entry : String × TaskId} (member : entry ∈ after.submitted) (own : entry.1 = id) :
    entry ∈ place.submitted := by
  induction later with
  | refl => exact member
  | tail before happening ih =>
      rcases happening.submits with less | ⟨other, submits⟩
      · exact ih (less member)
      · rw [submits.submitted] at member
        rcases List.mem_append.mp member with member | new
        · exact ih member
        · cases List.mem_singleton.mp new
          -- The id of a new instance is not that of one that is open.
          have sound := (reachable.later before).sound
          obtain ⟨still, hstill, _⟩ :=
            (Later.leadsTo reachable.sound before).instances id inst opened
          obtain ⟨hinst, hid⟩ := (Orchestrator.instance?_eq_some_iff sound.numbered).mp hstill
          refine absurd (List.mem_map.mpr ⟨still, hinst, hid⟩) ?_
          rw [← own, submits.isNew]
          exact Orchestrator.nextId_notMem sound.numbered

theorem Submits.opened (reachable : place.Reachable) (submits : Submits id place next) :
    ∃ inst, next.orchestrator.instance? id = some inst := by
  obtain ⟨definition, initial, orchestrator⟩ := submits.orchestrator
  rw [orchestrator, submits.isNew]
  exact Orchestrator.instance?_openInstance_self reachable.sound.numbered definition initial

theorem Reachable.submitted_opened (reachable : place.Reachable) {entry : String × TaskId}
    (member : entry ∈ place.submitted) :
    ∃ inst, place.orchestrator.instance? entry.1 = some inst := by
  obtain ⟨first, isNew, later⟩ := reachable
  induction later with
  | refl =>
      rw [isNew.submitted] at member
      cases member
  | @tail place next before happening ih =>
      have reached : Reachable place := ⟨first, isNew, before⟩
      have onward : Later place next := .single happening
      have still : entry ∈ place.submitted →
          ∃ inst, next.orchestrator.instance? entry.1 = some inst := by
        intro member
        obtain ⟨inst, found⟩ := ih member
        obtain ⟨later, hlater, _⟩ := (Later.leadsTo reached.sound onward).instances _ inst found
        exact ⟨later, hlater⟩
      rcases happening.submits with less | ⟨other, submits⟩
      · exact still (less member)
      · rw [submits.submitted] at member
        rcases List.mem_append.mp member with member | new
        · exact still member
        · cases List.mem_singleton.mp new
          exact submits.opened reached

/-- The task that is kept under the id of a submitted instance is the one that was made for it. -/
theorem Submits.own (reachable : place.Reachable) (submits : Submits id place next)
    (happening : Next place next) (later : Later next after) {entry : String × TaskId}
    (member : entry ∈ after.submitted) (own : entry.1 = id) : entry.2 = place.tasks.length := by
  obtain ⟨inst, opened⟩ := submits.opened reachable
  have member := later.submitted_of_opened (reachable.later (.single happening)) opened member own
  rw [submits.submitted] at member
  rcases List.mem_append.mp member with older | new
  · obtain ⟨other, found⟩ := reachable.submitted_opened older
    obtain ⟨hother, hid⟩ :=
      (Orchestrator.instance?_eq_some_iff reachable.sound.numbered).mp found
    refine absurd (List.mem_map.mpr ⟨other, hother, hid⟩) ?_
    rw [own, submits.isNew]
    exact Orchestrator.nextId_notMem reachable.sound.numbered
  · rw [List.mem_singleton.mp new]

end

end Workplace

end StepGraph
