import StepGraph.Proofs.Orchestrator.Charge
import StepGraph.Proofs.Orchestrator.Store

namespace StepGraph

namespace Workplace

/-! ### Turns leave the duties of others alone -/

def SparesOthers (id : TaskId) (place next : Workplace) : Prop :=
  ∀ other, other ≠ id → next.duty? other = place.duty? other

section

variable {place next : Workplace} {id : TaskId}

theorem sparesOthers_of_duty (duty : next.duty? = place.duty?) : SparesOthers id place next :=
  fun other _ => congrFun duty other

theorem sparesOthers_of_tasks (tasks : next.tasks = place.tasks) : SparesOthers id place next := by
  intro other _
  rw [duty?, task?, tasks]
  rfl

theorem SparesOthers.trans {last : Workplace} (before : SparesOthers id place next)
    (after : SparesOthers id next last) : SparesOthers id place last :=
  fun other distinct => (after other distinct).trans (before other distinct)

theorem sparesOthers_updateTask (place : Workplace) (id : TaskId) (change : Task → Task) :
    SparesOthers id place (place.updateTask id change) := by
  intro other distinct
  rw [duty?_updateTask, Function.update_of_ne distinct]

theorem sparesOthers_updateRun (place : Workplace) (id : TaskId) (instanceId : String)
    (change : Run → Run) : SparesOthers id place (place.updateRun instanceId change) :=
  sparesOthers_of_duty (duty?_updateRun place instanceId change)

theorem sparesOthers_endTask (place : Workplace) (id : TaskId) (conclusion : Conclusion) :
    SparesOthers id place (place.endTask id conclusion) :=
  (sparesOthers_updateTask place id _).trans (sparesOthers_of_tasks rfl)

theorem sparesOthers_park (place : Workplace) (id : TaskId) :
    SparesOthers id place (place.park id) :=
  (sparesOthers_updateTask place id _).trans (sparesOthers_of_tasks rfl)

theorem sparesOthers_wake (place : Workplace) (id : TaskId) :
    SparesOthers id place (place.wake id) :=
  (sparesOthers_updateTask place id _).trans (sparesOthers_of_tasks rfl)

theorem sparesOthers_awaitTask (place : Workplace) (id other : TaskId) :
    SparesOthers id place (place.awaitTask id other) := by
  let told : Workplace := place.updateTask id fun task => { task with activity := .await other }
  have watched : Aside told (told.updateTask other fun task =>
      { task with watchers := task.watchers ++ [.wake id] }) := aside_updateTask fun _ _ => rfl
  have told : SparesOthers id place told := sparesOthers_updateTask _ _ _
  unfold awaitTask
  dsimp only
  split
  · exact told.trans (sparesOthers_endTask _ _ _)
  · exact (told.trans (sparesOthers_of_duty watched.duty)).trans (sparesOthers_park _ _)

theorem sparesOthers_wait (place : Workplace) (id : TaskId) (instanceId : String) :
    SparesOthers id place (place.wait id instanceId) := by
  unfold wait
  split
  · exact sparesOthers_awaitTask _ _ _
  · exact sparesOthers_endTask _ _ _

theorem sparesOthers_shutdown (place : Workplace) (id : TaskId) :
    SparesOthers id place (place.shutdown id) := by
  unfold shutdown
  dsimp only
  split
  · exact (sparesOthers_of_tasks rfl).trans (sparesOthers_endTask _ _ _)
  · refine (SparesOthers.trans ?_ (sparesOthers_updateTask _ _ _)).trans (sparesOthers_park _ _)
    exact (sparesOthers_of_tasks rfl).trans (sparesOthers_of_duty (aside_watchAll id _ _).duty)

theorem sparesOthers_deliver (place : Workplace) (id : TaskId) (outer : List String)
    (result : Fallible Result) : SparesOthers id place (place.deliver id outer result) := by
  cases outer with
  | nil => exact sparesOthers_endTask _ _ _
  | cons waiting outer =>
      exact (sparesOthers_updateTask _ _ _).trans (sparesOthers_updateRun _ _ _ _)

theorem sparesOthers_answer (place : Workplace) (id : TaskId) (inst : Instance)
    (outer : List String) (effect : Effect) (onward : effect.Reply → Phase) :
    SparesOthers id place (place.answer id inst outer effect onward) := by
  have replied (after : Orchestrator) (phase : Phase) :
      SparesOthers id place ((place.withOrchestrator after).setPhase inst.id phase) :=
    (sparesOthers_of_tasks rfl).trans (sparesOthers_updateRun _ _ _ _)
  cases effect with
  | act deed => exact replied _ _
  | pause => exact (sparesOthers_of_tasks rfl).trans (sparesOthers_wake _ _)
  | gate name =>
      simp only [answer]
      split
      · exact sparesOthers_updateRun _ _ _ _
      · exact (sparesOthers_of_tasks rfl).trans (sparesOthers_park _ _)
  | start graph initial =>
      simp only [answer]
      split
      · exact sparesOthers_updateRun _ _ _ _
      · exact (sparesOthers_of_tasks rfl).trans (sparesOthers_updateTask _ _ _)
  | consult inquiry => exact replied _ _

theorem sparesOthers_drive (place : Workplace) (id : TaskId) (innermost : String)
    (outer : List String) : SparesOthers id place (place.drive id innermost outer) := by
  unfold drive
  split
  · exact sparesOthers_endTask _ _ _
  · split
    · exact sparesOthers_of_tasks rfl
    · exact sparesOthers_answer _ _ _ _ _ _
    · exact (sparesOthers_of_tasks rfl).trans (sparesOthers_deliver _ _ _ _)

theorem sparesOthers_advance (place : Workplace) (id : TaskId) (task : Task) :
    SparesOthers id place (place.advance id task) := by
  unfold advance
  split
  · split
    · exact sparesOthers_endTask _ _ _
    · exact (sparesOthers_of_tasks rfl).trans (sparesOthers_updateTask _ _ _)
  · exact sparesOthers_drive _ _ _ _
  · exact sparesOthers_wait _ _ _
  · exact sparesOthers_awaitTask _ _ _
  · exact sparesOthers_shutdown _ _
  · exact sparesOthers_park _ _

theorem sparesOthers_interrupt (place : Workplace) (id : TaskId) (task : Task) :
    SparesOthers id place (place.interrupt id task) := by
  unfold interrupt
  split
  · exact sparesOthers_updateRun _ _ _ _
  · exact sparesOthers_endTask _ _ _

theorem sparesOthers_proceed (place : Workplace) (id : TaskId) (task : Task) :
    SparesOthers id place (place.proceed id task) := by
  have same : SparesOthers id place place := sparesOthers_of_duty rfl
  unfold proceed
  split
  · exact same
  · split
    · exact sparesOthers_updateRun _ _ _ _
    · exact same
  · exact same
  · exact sparesOthers_awaitTask _ _ _
  · exact same
  · split
    · exact sparesOthers_endTask _ _ _
    · exact (sparesOthers_of_tasks rfl).trans (sparesOthers_endTask _ _ _)

theorem sparesOthers_beginTurn (place : Workplace) (id : TaskId) :
    SparesOthers id place (place.beginTurn id) := by
  have same : SparesOthers id place place := sparesOthers_of_duty rfl
  unfold beginTurn
  split
  · exact same
  · split
    · exact same
    · have begun : SparesOthers id place
          { place.updateTask id fun task =>
              { task with standing := .ready, begun := true, stopRequested := false } with
            running := some id } :=
        (sparesOthers_updateTask _ _ _).trans (sparesOthers_of_tasks rfl)
      dsimp only
      split
      · exact begun.trans (sparesOthers_interrupt _ _ _)
      · exact begun.trans (sparesOthers_proceed _ _ _)

end

/-! ### How a driver ends that has charge of instances -/

section

variable {place next : Workplace} {task : TaskId} {driver : Task} {innermost : String}
  {outer : List String}

theorem duty?_beginTurn (found : place.task? task = some driver)
    (isDrive : driver.activity = .drive innermost outer) (live : driver.conclusion? = none)
    (going : driver.begun = true ∨ driver.stopRequested = false) :
    (place.beginTurn task).duty? task = place.duty? task := by
  let begun : Workplace :=
    { place.updateTask task fun task =>
        { task with standing := .ready, begun := true, stopRequested := false } with
      running := some task }
  have told : begun.duty? task = place.duty? task := by
    refine (congrFun (duty?_updateTask place task _) task).trans ?_
    rw [Function.update_self, duty?_of_task? found, found, Task.duty?, live]
    rfl
  have resumed (interrupted : Bool) :
      (begun.updateRun innermost (·.resume interrupted)).duty? task = place.duty? task :=
    (congrFun (duty?_updateRun _ _ _) task).trans told
  have hasEnded : driver.hasEnded = false := by rw [Task.hasEnded, live]; rfl
  simp only [beginTurn, found, hasEnded, Bool.false_eq_true, if_false]
  split
  · next stopped =>
      have isBegun : driver.begun = true := by
        refine going.resolve_right fun unstopped => ?_
        rw [unstopped] at stopped
        contradiction
      simp only [interrupt, isDrive, isBegun]
      exact resumed true
  · simp only [proceed, isDrive]
    split
    · exact resumed false
    · exact told

section

variable {errand : Errand} {conclusion : Conclusion}

private theorem not_ended_of_live (found : place.task? task = some driver)
    (live : driver.conclusion? = none) : place.duty? task ≠ some ⟨errand, some conclusion⟩ := by
  rw [duty?_of_task? found, Task.duty?, live]
  intro ended
  obtain ⟨_, _, heq⟩ := Option.map_eq_some_iff.mp ended
  cases heq

private theorem not_ended_updateTask (found : place.task? task = some driver)
    {change : Task → Task} (live : (change driver).conclusion? = none) :
    (place.updateTask task change).duty? task ≠ some ⟨errand, some conclusion⟩ := by
  exact not_ended_of_live (task?_updateTask_self found change) live

private theorem not_ended_answer {inst : Instance} {effect : Effect}
    {onward : effect.Reply → Phase} (found : place.task? task = some driver)
    (live : driver.conclusion? = none) :
    (place.answer task inst outer effect onward).duty? task ≠ some ⟨errand, some conclusion⟩ := by
  have replied (after : Orchestrator) (phase : Phase) :
      ((place.withOrchestrator after).setPhase inst.id phase).duty? task ≠
        some ⟨errand, some conclusion⟩ := by
    rw [setPhase, duty?_updateRun]
    exact not_ended_of_live found live
  cases effect with
  | act deed => exact replied _ _
  | pause =>
      have left : ({ place with running := none } : Workplace).task? task = some driver := found
      exact not_ended_updateTask left rfl
  | gate name =>
      simp only [answer]
      split
      · exact replied place.orchestrator _
      · have entered : ({ place with atGates := place.atGates ++ [(name, task)] } :
            Workplace).task? task = some driver := found
        exact not_ended_updateTask entered rfl
  | start graph initial =>
      simp only [answer]
      split
      · exact replied place.orchestrator _
      · next definition _ =>
          have opened : (place.withOrchestrator
              (place.orchestrator.openInstance definition initial).1).task? task = some driver :=
            found
          exact not_ended_updateTask opened live
  | consult inquiry => exact replied _ _

/-- A driver that ends in its turn leaves nothing active. -/
theorem idle_of_drive (sound : place.Sound) (found : place.task? task = some driver)
    (isDrive : driver.activity = .drive innermost outer) (live : driver.conclusion? = none)
    (ended : (place.drive task innermost outer).duty? task = some ⟨errand, some conclusion⟩) :
    outer = [] ∧ ∀ inst,
      (place.drive task innermost outer).orchestrator.instance? innermost = some inst →
        inst.isActive = false := by
  obtain ⟨inst, hinst⟩ := sound.opened task driver found innermost (by simp [Task.drives, isDrive])
  unfold drive at ended ⊢
  simp only [hinst] at ended ⊢
  cases moved : inst.run.move (place.orchestrator.circumstances inst) with
  | go run events =>
      simp only [moved] at ended
      exact absurd ended (not_ended_of_live found live)
  | ask effect onward =>
      simp only [moved] at ended
      exact absurd ended (not_ended_answer found live)
  | «over» last ending =>
      simp only [moved] at ended ⊢
      let orchestrator := ((place.orchestrator.put { inst with run := last }).conclude innermost
        ending).1
      have found : (place.withOrchestrator orchestrator).task? task = some driver := found
      cases outer with
      | nil =>
          exact ⟨rfl, fun _ closed => Orchestrator.idle_conclude (sound.numbered.put _) closed⟩
      | cons waiting outer =>
          simp only [deliver, duty?_updateRun] at ended
          exact absurd ended (not_ended_updateTask found live)

end

/-- A tick that ends a driver ends the instance it has charge of, unless the driver was told to stop
before its first turn. -/
theorem ends_of_tick? (sound : place.Sound) (h : place.tick? = some next)
    (found : place.task? task = some driver) (isDrive : driver.activity = .drive innermost outer)
    (live : driver.conclusion? = none) {errand : Errand} {conclusion : Conclusion}
    (ended : next.duty? task = some ⟨errand, some conclusion⟩) :
    (driver.begun = false ∧ driver.stopRequested = true) ∨
      (outer = [] ∧ ∀ inst, next.orchestrator.instance? innermost = some inst →
        inst.isActive = false) := by
  have changed : next.duty? task ≠ place.duty? task :=
    fun same => not_ended_of_live found live (same.symm.trans ended)
  have own {id : TaskId} (spares : SparesOthers id place next) : task = id :=
    Decidable.byContradiction fun distinct => changed (spares task distinct)
  unfold tick? at h
  split at h
  · next id _ =>
      split at h
      · cases h
        exact absurd rfl changed
      · next other hother =>
          cases h
          obtain rfl := own (sparesOthers_advance place id other)
          cases found.symm.trans hother
          simp only [advance, isDrive] at ended ⊢
          exact .inr (idle_of_drive sound found isDrive live ended)
  · split at h
    · cases h
    · next job queue _ =>
        cases h
        have taken (id : TaskId) : SparesOthers id place { place with queue } :=
          sparesOthers_of_tasks rfl
        cases job with
        | turn id =>
            obtain rfl := own ((taken id).trans (sparesOthers_beginTurn _ id))
            have same : driver.begun = true ∨ driver.stopRequested = false →
                ({ place with queue }.beginTurn task).duty? task = place.duty? task :=
              fun going => duty?_beginTurn found isDrive live going
            refine .inl ⟨?_, ?_⟩
            · by_contra begun
              exact changed (same (.inl (by simpa using begun)))
            · by_contra unstopped
              exact changed (same (.inr (by simpa using unstopped)))
        | release => exact absurd rfl changed
        | count id =>
            exact absurd (congrFun (aside_countEnd { place with queue } id).duty task) changed

end

/-! ### Instances that are left behind -/

/-- A driver is told to stop before its first turn; its instance is not touched. -/
structure Dismisses (task : TaskId) (id : String) (place next : Workplace) : Prop where
  driver : ∃ driver, place.task? task = some driver ∧ id ∈ driver.drives ∧
    driver.begun = false ∧ driver.stopRequested = true
  orchestrator : next.orchestrator = place.orchestrator
  ended : ∃ errand, next.duty? task = some ⟨errand, some (.failed .interrupted)⟩

section

variable {place next after : Workplace} {task : TaskId} {id : String}

private theorem mem_charge_iff : id ∈ place.charge task ↔
    ∃ driver innermost outer, place.task? task = some driver ∧
      driver.activity = .drive innermost outer ∧ driver.conclusion? = none ∧
      id ∈ innermost :: outer := by
  rw [charge, duty?]
  cases place.task? task with
  | none => simp
  | some driver =>
      simp only [Option.bind_some, Task.duty?, Option.map_map, Option.some.injEq, exists_and_left,
        exists_eq_left']
      cases driver.activity with
      | drive innermost outer =>
          cases conclusion : driver.conclusion? with
          | none => simp [Activity.errand?, Duty.charge]
          | some => simp [Activity.errand?, Duty.charge]
      | _ => simp [Activity.errand?, Duty.charge]

private theorem mem_charge_of_grown (member : id ∈ place.charge task) {other : TaskId} {duty : Duty}
    (grows : place.charge other ⊆ duty.charge)
    (updated : next.duty? = Function.update place.duty? other (some duty)) :
    id ∈ next.charge task := by
  rw [charge_update updated, Function.update_apply]
  split
  · next own => exact grows (own ▸ member)
  · exact member

/-- A driver that has left an instance keeps the others. -/
private theorem mem_charge_of_left (member : id ∈ place.charge task) {other : TaskId}
    {first : String} {rest : List String} {duty : Duty}
    (before : place.duty? other = some ⟨.drive first rest, none⟩)
    (updated : next.duty? = Function.update place.duty? other (some duty))
    (remains : rest ⊆ duty.charge) (distinct : id ≠ first) : id ∈ next.charge task := by
  rw [charge_update updated, Function.update_apply]
  split
  · next own =>
      rw [own, charge_of_duty? before] at member
      exact remains (List.mem_of_ne_of_mem distinct member)
  · exact member

private theorem charge_subset_of_call {graph : String} {initial : Initial} {charged : List String}
    (call : place.duty? task = some ⟨.call graph initial, none⟩) :
    place.charge task ⊆ charged := by
  rw [charge, call]
  exact List.nil_subset _

private theorem charge_subset_of_unknown {charged : List String} (new : place.task? task = none) :
    place.charge task ⊆ charged := by
  rw [charge, duty?, new]
  exact List.nil_subset _

private theorem exists_idle_of_idle (reachable : place.Reachable) (happening : Next place next)
    (member : id ∈ place.charge task)
    (idle : ∀ inst, next.orchestrator.instance? id = some inst → inst.isActive = false) :
    ∃ inst, next.orchestrator.instance? id = some inst ∧ inst.isActive = false := by
  obtain ⟨inst, found, _⟩ := reachable.inCharge.stands task id member
  obtain ⟨later, hlater, _⟩ :=
    (Later.leadsTo reachable.sound (.single happening)).instances id inst found
  exact ⟨later, hlater, idle later hlater⟩

private theorem dismissed_or_idle (reachable : place.Reachable) (h : place.tick? = some next)
    (member : id ∈ place.charge task) {errand : Errand}
    (orchestrator : next.orchestrator = place.orchestrator)
    (ended : next.duty? task = some ⟨errand, some (.failed .interrupted)⟩) :
    (∃ inst, next.orchestrator.instance? id = some inst ∧ inst.isActive = false) ∨
      Dismisses task id place next := by
  obtain ⟨driver, innermost, outer, found, isDrive, live, drives⟩ := mem_charge_iff.mp member
  rcases ends_of_tick? reachable.sound h found isDrive live ended with
    ⟨begun, stopped⟩ | ⟨rfl, idle⟩
  · have drives : id ∈ driver.drives := by rwa [Task.drives, isDrive]
    exact .inr ⟨⟨driver, found, drives, begun, stopped⟩, orchestrator, _, ended⟩
  · cases List.mem_singleton.mp drives
    exact .inl (exists_idle_of_idle reachable (.tick h) member idle)

/-- A driver keeps charge of an instance until this one has ended, or until the driver is dismissed.
-/
theorem Next.keepsCharge (reachable : place.Reachable) (happening : Next place next)
    (member : id ∈ place.charge task) :
    id ∈ next.charge task ∨
      (∃ inst, next.orchestrator.instance? id = some inst ∧ inst.isActive = false) ∨
      Dismisses task id place next := by
  have sound := reachable.sound
  have kept (duty : next.duty? = place.duty?) : id ∈ next.charge task := charge_congr duty ▸ member
  cases happening.happens sound reachable.inLine with
  | beside _ duty => exact .inl (kept duty)
  | cancelled _ _ duty => exact .inl (kept duty)
  | touched _ _ _ duty => exact .inl (kept duty)
  | called _ _ _ new duty =>
      exact .inl (mem_charge_of_grown member (charge_subset_of_unknown new) duty)
  | submitted _ _ new duty =>
      exact .inl (mem_charge_of_grown member (charge_subset_of_unknown new) duty)
  | ticked h ticks =>
      cases ticks with
      | aside same => exact .inl (kept same.duty)
      | shutdown _ _ _ _ duty => exact .inl (kept duty)
      | moved _ _ _ _ duty => exact .inl (kept duty)
      | answered _ _ _ _ _ _ duty => exact .inl (kept duty)
      | refused before _ _ duty =>
          exact .inl (mem_charge_of_grown member (charge_subset_of_call before) duty)
      | begun before _ _ duty =>
          exact .inl (mem_charge_of_grown member (charge_subset_of_call before) duty)
      | nested before _ _ _ _ duty =>
          refine .inl (mem_charge_of_grown member ?_ duty)
          rw [charge_of_duty? before]
          exact List.subset_cons_self _ _
      | @dismissed other _ errand _ _ before orchestrator duty =>
          by_cases own : task = other
          · subst own
            have ended : next.duty? task = some ⟨errand, some (.failed .interrupted)⟩ := by
              rw [duty, Function.update_self]
            exact .inr (dismissed_or_idle reachable h member orchestrator ended)
          · left
            rw [charge_update duty, Function.update_of_ne own]
            exact member
      | @ended _ inst _ _ _ before _ _ orchestrator duty =>
          by_cases own : id = inst.id
          · subst own
            refine .inr (.inl (exists_idle_of_idle reachable happening member ?_))
            rw [orchestrator]
            exact fun later hlater => Orchestrator.idle_conclude (sound.numbered.put _) hlater
          · exact .inl (mem_charge_of_left member before duty (List.Subset.refl _) own)
      | @returned _ inst waiting _ last ending _ before _ _ orchestrator duty =>
          by_cases own : id = inst.id
          · subst own
            refine .inr (.inl (exists_idle_of_idle reachable happening member ?_))
            intro later hlater
            rw [orchestrator] at hlater
            have received := @Orchestrator.fares_receive []
              (place.orchestrator.concluded inst last ending).1 waiting
              (place.orchestrator.concluded inst last ending).2
            exact received.idle (fun _ => Orchestrator.idle_conclude (sound.numbered.put _)) hlater
          · exact .inl (mem_charge_of_left member before duty (List.Subset.refl _) own)

theorem Later.keepsCharge (reachable : place.Reachable) (later : Later place after)
    (member : id ∈ place.charge task) :
    id ∈ after.charge task ∨
      (∃ inst, after.orchestrator.instance? id = some inst ∧ inst.isActive = false) ∨
      ∃ before next, Later place before ∧ Next before next ∧ Dismisses task id before next ∧
        Later next after := by
  induction later with
  | refl => exact .inl member
  | @tail between after earlier happening ih =>
      have reached := reachable.later earlier
      rcases ih with
        charged | ⟨inst, found, idle⟩ | ⟨before, next, hbefore, hnext, dismisses, hafter⟩
      · rcases Next.keepsCharge reached happening charged with charged | idle | dismisses
        · exact .inl charged
        · exact .inr (.inl idle)
        · exact .inr (.inr ⟨between, after, earlier, happening, dismisses, .refl⟩)
      · obtain ⟨last, hlast, leads⟩ :=
          (Later.leadsTo reached.sound (.single happening)).instances id inst found
        exact .inr (.inl ⟨last, hlast, leads.isActive idle⟩)
      · exact .inr (.inr ⟨before, next, hbefore, hnext, dismisses, hafter.tail happening⟩)

/-- What a driver has had charge of has ended by the time the driver has, is recorded once and is
counted with the others that have ended. The only exception is a driver that was told to stop before
its first turn. -/
theorem Later.leaves_none_active {first : Workplace} {driver : Task} {conclusion : Conclusion}
    (isNew : first.IsNew) (earlier : Later first place) (member : id ∈ place.charge task)
    (later : Later place after) (found : after.task? task = some driver)
    (ended : driver.conclusion? = some conclusion) :
    (∃ inst, after.orchestrator.instance? id = some inst ∧ inst.isActive = false ∧
      (∀ ended, Finishing first ended after → ended.count id = 1) ∧
      after.orchestrator.statistics.overall.Counts after.orchestrator.instances) ∨
    (conclusion = .failed .interrupted ∧ ∃ before next, Later place before ∧ Next before next ∧
      Dismisses task id before next ∧ Later next after) := by
  have reachable : place.Reachable := ⟨first, isNew, earlier⟩
  have reached := reachable.later later
  rcases Later.keepsCharge reachable later member with
    charged | ⟨inst, hinst, idle⟩ | ⟨before, next, hbefore, happening, dismisses, hafter⟩
  · obtain ⟨other, _, _, hother, _, live, _⟩ := mem_charge_iff.mp charged
    cases hother.symm.trans found
    rw [live] at ended
    contradiction
  · refine .inl ⟨inst, hinst, idle, fun ended finishing => ?_,
      Orchestrator.counts_overall reached.balanced⟩
    obtain ⟨limit, created⟩ := isNew.history
    have stored := finishing.stored isNew created
    obtain ⟨known, hid⟩ :=
      (Orchestrator.instance?_eq_some_iff reached.sound.numbered).mp hinst
    refine List.count_eq_one_of_mem stored.nodup (Decidable.byContradiction fun absent => ?_)
    have fresh : inst.card.id ∉ ended := fun member => absent (hid ▸ member)
    have status := (stored.active_iff inst.card (List.mem_map.mpr ⟨inst, known, rfl⟩)).mpr fresh
    rw [Instance.isActive_iff.mpr status] at idle
    contradiction
  · obtain ⟨errand, dismissed⟩ := dismisses.ended
    have still := hafter.keepsEnded ((reachable.later hbefore).later (.single happening)) dismissed
    rw [duty?_of_task? found] at still
    obtain ⟨_, _, heq⟩ := Option.map_eq_some_iff.mp still
    have same : driver.conclusion? = some (.failed .interrupted) := (Duty.mk.inj heq).2
    exact .inr ⟨Option.some.inj (ended.symm.trans same), before, next, hbefore, happening,
      dismisses, hafter⟩

theorem Later.leaves_none_active_released :
    ∃ driver told inst, Later inGate released ∧ released.task? 0 = some driver ∧
      driver.conclusion? = some (.result told) ∧
      released.orchestrator.instance? "i1" = some inst ∧ inst.isActive = false ∧
      ∀ ended, Finishing gated ended released → ended.count "i1" = 1 := by
  have earlier : Later gated inGate :=
    (Relation.ReflTransGen.single (.start "gated" (.state {}))).trans (later_settle 20 _)
  have later : Later inGate released :=
    (Relation.ReflTransGen.single (.cancel "i1")).trans
      ((Relation.ReflTransGen.single (.openGate "exit")).trans (later_settle 20 _))
  have member : "i1" ∈ inGate.charge 0 := by decide +kernel
  obtain ⟨driver, told, found, ended⟩ : ∃ driver told, released.task? 0 = some driver ∧
      driver.conclusion? = some (.result told) := ⟨_, _, rfl, rfl⟩
  rcases Later.leaves_none_active isNew_gated earlier member later found ended with
    ⟨inst, hinst, idle, once, _⟩ | ⟨interrupted, _⟩
  · exact ⟨driver, told, inst, later, found, ended, hinst, idle, once⟩
  · cases interrupted

/-- A submitted instance whose driver has been told to stop before its first turn. -/
def unbegun : Workplace :=
  settle 20 ((((gated.submit "gated" (.state {})).map (·.1)).toOption.getD gated).abort 0).1

theorem Later.leaves_active_unbegun :
    ∃ submitted driver inst, gated.submit "gated" (.state {}) = .ok (submitted, "i1") ∧
      Later submitted unbegun ∧ unbegun.task? 0 = some driver ∧ driver.drives = ["i1"] ∧
      driver.conclusion? = some (.failed .interrupted) ∧
      unbegun.orchestrator.instance? "i1" = some inst ∧ inst.isActive = true ∧
      unbegun.orchestrator.history.records.length = 0 ∧ unbegun.tick? = none := by
  obtain ⟨submitted, submits⟩ : ∃ next, gated.submit "gated" (.state {}) = .ok (next, "i1") :=
    ⟨_, rfl⟩
  have later : Later submitted unbegun := by
    rw [unbegun, submits]
    exact (Relation.ReflTransGen.single (.abort 0)).trans (later_settle 20 _)
  exact ⟨submitted, _, _, submits, later, rfl, rfl, rfl, rfl, rfl, rfl, rfl⟩

end

end Workplace

end StepGraph
