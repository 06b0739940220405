import StepGraph.Proofs.Orchestrator.Dismissal
import StepGraph.Proofs.Orchestrator.Recall
import StepGraph.Proofs.Orchestrator.Release

namespace StepGraph

namespace Workplace

/-! ### Drivers do not miss keys -/

/-- Graphs of a registry declare all that their runs look up, so no driver ends for the lack of a
key. -/
theorem Later.conclusion_ne_lookup {first place : Workplace} (isNew : first.IsNew)
    (built : first.orchestrator.registry.Built) (later : Later first place) {task : TaskId}
    {errand : Errand} {conclusion : Conclusion}
    (ended : place.duty? task = some ⟨errand, some conclusion⟩) (text : String) :
    conclusion ≠ .failed (.fault .lookup text) := by
  rintro rfl
  obtain ⟨before, after, hbefore, _, concludes, -⟩ := later.concludes isNew ended
  generalize isLookup : Conclusion.failed (.fault .lookup text) = conclusion at concludes
  cases concludes with
  | dismissed => cases isLookup
  | refused missing =>
      cases isLookup
      unfold Registry.get at missing
      split at missing <;> cases missing
  | @ended inst last ending running duty found isOver orchestrator happened =>
      have reachable : before.Reachable := ⟨first, isNew, hbefore⟩
      have raises : Raises task [] inst last (.fault .lookup text) before after :=
        ⟨running, duty, found, ⟨ending, isOver, conclusionOf_eq_failed isLookup.symm⟩, nofun,
          happened⟩
      obtain ⟨cause, raised, _⟩ := raises.settles reachable
      obtain ⟨_, definition, _, _, known, fares⟩ := hbefore.origin isNew found
      obtain ⟨trace, course⟩ := fares.course .start
      have same : inst.run.definition = definition := course.definition_eq
      have structured : definition.Structured :=
        ((hbefore.built ⟨first, isNew, .refl⟩ built).wellFormed definition
          (List.mem_of_find?_eq_some known)).toStructured
      have onTrack := course.onTrack structured
      generalize isRaised : Ending.raised (.fault .lookup text) cause = ended at raised
      cases Run.stops_of_move raised with
      | @undeclared step rest phase absent =>
          rw [phase] at onTrack
          cases onTrack with
          | entering leg =>
              obtain ⟨spec, declared⟩ := leg.declared structured
              rw [same, declared] at absent
              cases absent
      | _ => cases isRaised

/-- Whatever is kept under an id is the task that was made when it was submitted. -/
theorem Later.submission_of_kept {first place : Workplace} (isNew : first.IsNew)
    (later : Later first place) {entry : String × TaskId} (member : entry ∈ place.submitted) :
    ∃ before next, Later first before ∧ Next before next ∧ Submits entry.1 before next ∧
      Later next place ∧ entry.2 = before.tasks.length := by
  induction later with
  | refl =>
      rw [isNew.submitted] at member
      cases member
  | @tail place next earlier happening ih =>
      have older (member : entry ∈ place.submitted) : ∃ before after, Later first before ∧
          Next before after ∧ Submits entry.1 before after ∧ Later after next ∧
          entry.2 = before.tasks.length := by
        obtain ⟨before, after, hbefore, happened, submits, hafter, own⟩ := ih member
        exact ⟨before, after, hbefore, happened, submits, hafter.tail happening, own⟩
      rcases happening.submits with less | ⟨id, submits⟩
      · exact older (less member)
      · rw [submits.submitted] at member
        rcases List.mem_append.mp member with member | new
        · exact older member
        · cases List.mem_singleton.mp new
          exact ⟨place, next, earlier, happening, submits, .refl, rfl⟩

/-! ### The turn of a waiter -/

def unknownInstance (id : String) : Failure :=
  .missingKey s!"No submitted workflow instance {id}"

def Refuses (place : Workplace) (waiter : TaskId) (id : String) : Prop :=
  place.Hears waiter (.failed (unknownInstance id))

def TurnsTo (place : Workplace) (waiter other : TaskId) : Prop :=
  ∃ next task, place.tick? = some next ∧ next.task? waiter = some task ∧
    task.activity = .await other

theorem Hears.unique {place : Workplace} {waiter : TaskId} {answer other : Conclusion}
    (hears : place.Hears waiter answer) (also : place.Hears waiter other) : answer = other := by
  obtain ⟨next, task, happened, found, told⟩ := hears
  obtain ⟨next', task', happened', found', told'⟩ := also
  cases happened.symm.trans happened'
  cases found.symm.trans found'
  exact Option.some.inj (told.symm.trans told')

theorem task?_park {place : Workplace} {id : TaskId} {task : Task}
    (found : place.task? id = some task) :
    (place.park id).task? id = some { task with standing := .parked } :=
  task?_updateTask_self found _

theorem mem_of_lookup {entries : List (String × TaskId)} {id : String} {task : TaskId}
    (kept : entries.lookup id = some task) : (id, task) ∈ entries := by
  obtain ⟨earlier, later, rfl, _⟩ := List.lookup_eq_some_iff.mp kept
  simp

theorem task?_awaitTask {place : Workplace} {id : TaskId} {task : Task}
    (found : place.task? id = some task) (other : TaskId) :
    ∃ after, (place.awaitTask id other).task? id = some after ∧ after.activity = .await other ∧
      ∀ conclusion, after.conclusion? = some conclusion →
        ∃ driver, place.task? other = some driver ∧ driver.conclusion? = some conclusion := by
  have told : (place.updateTask id fun task => { task with activity := .await other }).task? id =
      some { task with activity := .await other } := task?_updateTask_self found _
  unfold awaitTask
  dsimp only
  split
  · next answer ended =>
      refine ⟨_, task?_endTask told answer, rfl, fun conclusion same => ?_⟩
      cases same
      obtain ⟨driver, awaited, ended⟩ := Option.bind_eq_some_iff.mp ended
      rcases of_task?_updateTask awaited with ⟨rfl, before, hbefore, rfl⟩ | awaited
      · exact ⟨before, hbefore, ended⟩
      · exact ⟨driver, awaited, ended⟩
  · obtain ⟨watched, hwatched, isAwait⟩ : ∃ watched,
        ((place.updateTask id fun task => { task with activity := .await other }).updateTask other
          fun task => { task with watchers := task.watchers ++ [.wake id] }).task? id =
            some watched ∧ watched.activity = .await other := by
      rw [task?_updateTask, told]
      split <;> exact ⟨_, rfl, rfl⟩
    refine ⟨{ watched with standing := .parked }, task?_park hwatched, isAwait, ?_⟩
    intro conclusion ended
    cases ended

section

variable {first place : Workplace} {waiter : TaskId} {task : Task} {id : String}

theorem turnsTo_of_kept (found : place.task? waiter = some task) (isWait : task.activity = .wait id)
    (running : place.running = some waiter) {other : TaskId}
    (kept : place.submitted.lookup id = some other) : place.TurnsTo waiter other := by
  obtain ⟨after, hafter, isAwait, _⟩ := task?_awaitTask found other
  refine ⟨_, after, tick?_of_running running found, ?_, isAwait⟩
  simpa only [advance, isWait, wait, kept] using hafter

theorem refuses_of_unknown (found : place.task? waiter = some task)
    (isWait : task.activity = .wait id) (running : place.running = some waiter)
    (unkept : place.submitted.lookup id = none)
    (unrecorded : place.orchestrator.history.find? id = none) : place.Refuses waiter id := by
  have heard := hears_of_lookBack found isWait running unkept
  rw [lookBack, unrecorded] at heard
  exact heard

theorem Later.not_refuses_of_kept (isNew : first.IsNew)
    (built : first.orchestrator.registry.Built) (later : Later first place)
    (found : place.task? waiter = some task) (isWait : task.activity = .wait id)
    (running : place.running = some waiter) {other : TaskId}
    (kept : place.submitted.lookup id = some other) : ¬ place.Refuses waiter id := by
  rintro ⟨next, heard, happened, hheard, told⟩
  obtain ⟨after, hafter, _, passes⟩ := task?_awaitTask found other
  have turns := tick?_of_running running found
  simp only [advance, isWait, wait, kept] at turns
  cases turns.symm.trans happened
  cases hafter.symm.trans hheard
  obtain ⟨driver, awaited, ended⟩ := passes _ told
  obtain ⟨before, opened, hbefore, happening, submits, hopened, own⟩ :=
    later.submission_of_kept isNew (mem_of_lookup kept)
  have reached : opened.Reachable := ⟨first, isNew, hbefore.tail happening⟩
  obtain ⟨duty, hduty, _⟩ := Option.bind_eq_some_iff.mp (submits.root? reached hopened)
  have same := duty?_of_task? awaited
  dsimp only at own
  rw [own, hduty, Task.duty?, ended] at same
  obtain ⟨errand, _, rfl⟩ := Option.map_eq_some_iff.mp same.symm
  exact later.conclusion_ne_lookup isNew built hduty _ rfl

theorem Later.refuses_iff (isNew : first.IsNew) (built : first.orchestrator.registry.Built)
    (later : Later first place) (found : place.task? waiter = some task)
    (isWait : task.activity = .wait id) (running : place.running = some waiter) :
    place.Refuses waiter id ↔
      place.submitted.lookup id = none ∧ place.orchestrator.history.find? id = none := by
  constructor
  · intro refuses
    cases kept : place.submitted.lookup id with
    | some other =>
        exact absurd refuses (later.not_refuses_of_kept isNew built found isWait running kept)
    | none =>
        refine ⟨rfl, ?_⟩
        cases recorded : place.orchestrator.history.find? id with
        | none => rfl
        | some record =>
            have heard := refuses.unique (hears_of_lookBack found isWait running kept)
            rw [lookBack_of_find? recorded] at heard
            have told := conclusionOf_eq_failed heard.symm
            unfold Record.outcome at told
            split at told <;> cases told
  · rintro ⟨unkept, unrecorded⟩
    exact refuses_of_unknown found isWait running unkept unrecorded

theorem Reachable.unrecorded_of_active (reachable : place.Reachable) {inst : Instance}
    (active : place.orchestrator.active? id = some inst) :
    place.orchestrator.history.find? id = none := by
  cases recorded : place.orchestrator.history.find? id with
  | none => rfl
  | some record =>
      obtain ⟨member, own⟩ := reachable.mem_of_find? recorded
      obtain ⟨found, isActive⟩ :=
        (Orchestrator.active?_eq_some_iff reachable.sound.numbered).mp active
      obtain ⟨other, hother, idle⟩ := reachable.balanced.recorded record member
      rw [own] at hother
      cases found.symm.trans hother
      rw [isActive] at idle
      contradiction

/-- How a waiter in its turn is received, after all that has happened since `first`. An active
instance is refused if it was not submitted, or if a shutdown has come to its end since it was
opened; a submitted one only if there was such a shutdown, or if its driver was told to stop before
its first turn. -/
structure Receives (first place : Workplace) (waiter : TaskId) (id : String) : Prop where
  refused : place.Refuses waiter id ↔
    place.submitted.lookup id = none ∧ place.orchestrator.history.find? id = none
  awaits : ∀ other, place.submitted.lookup id = some other → place.TurnsTo waiter other ∧
    ∃ before next, Later first before ∧ Next before next ∧ Submits id before next ∧
      Later next place ∧ other = before.tasks.length
  unsubmitted : ∀ inst, place.orchestrator.active? id = some inst →
    (∀ before next, Later first before → Next before next → Later next place →
      ¬ Submits id before next) → place.Refuses waiter id
  forgotten : ∀ inst, place.orchestrator.active? id = some inst →
    ∀ last forgot, Later first last → Next last forgot → EndsShutdown last forgot →
      Later forgot place → (last.orchestrator.instance? id).isSome = true →
      place.Refuses waiter id
  submitted : ∀ inst, place.orchestrator.active? id = some inst →
    ∀ before next, Later first before → Next before next → Submits id before next →
      Later next place → place.Refuses waiter id →
      (∃ last forgot, Later next last ∧ Next last forgot ∧ EndsShutdown last forgot ∧
        Later forgot place) ∨
      ∃ last left, Later next last ∧ Next last left ∧
        Dismisses before.tasks.length id last left ∧ Later left place

/-- Whoever waits for an instance is refused where neither its submitted task nor a record of it is
kept, whether it is active or not. -/
theorem Later.receives (isNew : first.IsNew) (built : first.orchestrator.registry.Built)
    (later : Later first place) (found : place.task? waiter = some task)
    (isWait : task.activity = .wait id) (running : place.running = some waiter) :
    Receives first place waiter id := by
  have reachable : place.Reachable := ⟨first, isNew, later⟩
  have refused := later.refuses_iff isNew built found isWait running
  exact {
    refused := refused
    awaits := by
      intro other kept
      obtain ⟨before, next, hbefore, happening, submits, hnext, own⟩ :=
        later.submission_of_kept isNew (mem_of_lookup kept)
      exact ⟨turnsTo_of_kept found isWait running kept, before, next, hbefore, happening, submits,
        hnext, own⟩
    unsubmitted := by
      intro inst active unsubmitted
      refine refused.mpr ⟨lookup_eq_none_iff.mpr ?_, reachable.unrecorded_of_active active⟩
      rintro entry member rfl
      obtain ⟨before, next, hbefore, happening, submits, hnext, _⟩ :=
        later.submission_of_kept isNew member
      exact unsubmitted before next hbefore happening hnext submits
    forgotten := by
      intro inst active last forgot hlast happening ends hforgot opened
      refine refused.mpr ⟨lookup_eq_none_iff.mpr ?_, reachable.unrecorded_of_active active⟩
      intro entry member own
      have reachedLast : last.Reachable := ⟨first, isNew, hlast⟩
      have reached := reachedLast.later (.single happening)
      obtain ⟨old, hold⟩ := Option.isSome_iff_exists.mp opened
      obtain ⟨still, hstill, _⟩ :=
        (Later.leadsTo reachedLast.sound (.single happening)).instances id old hold
      have member := hforgot.submitted_of_opened reached hstill member own
      rw [ends.forgets] at member
      cases member
    submitted := by
      intro inst active before next hbefore happening submits hnext refuses
      have reachedBefore : before.Reachable := ⟨first, isNew, hbefore⟩
      rcases submits.kept reachedBefore happening hnext with
        kept | ⟨errand, conclusion, ended⟩ | ends
      · exact absurd rfl (lookup_eq_none_iff.mp (refused.mp refuses).1 _ kept)
      · obtain ⟨driver, hdriver, duty⟩ := Option.bind_eq_some_iff.mp ended
        obtain ⟨_, _, heq⟩ := Option.map_eq_some_iff.mp duty
        have charged : id ∈ next.charge before.tasks.length :=
          charge_of_duty? submits.duty? ▸ List.mem_cons_self
        rcases Later.leaves_none_active isNew (hbefore.tail happening) charged hnext hdriver
          (Duty.mk.inj heq).2 with ⟨other, hother, idle, _⟩ | ⟨_, dismissed⟩
        · obtain ⟨hinst, isActive⟩ :=
            (Orchestrator.active?_eq_some_iff reachable.sound.numbered).mp active
          cases hinst.symm.trans hother
          rw [isActive] at idle
          contradiction
        · exact .inr dismissed
      · exact .inl ends }

end

def askedAfterSubmission : Workplace :=
  settle 1 ((settle 20
    (((gated.submit "gated" (.state {})).map (·.1)).toOption.getD gated)).spawn (.wait "i1") []).1

theorem built_gated : gated.orchestrator.registry.Built := by
  refine .singleton (Definition.Structured.wellFormed ?_ ?_ ?_ ?_)
  · exact Definition.structured_of_checks rfl (List.cons_ne_nil _ _) rfl
  all_goals decide +kernel

theorem Later.receives_askedAfterSubmission :
    Later gated askedAfterSubmission ∧ askedAfterSubmission.TurnsTo 1 0 ∧
      ¬ askedAfterSubmission.Refuses 1 "i1" := by
  obtain ⟨submitted, submits⟩ : ∃ next, gated.submit "gated" (.state {}) = .ok (next, "i1") :=
    ⟨_, rfl⟩
  have later : Later gated askedAfterSubmission := by
    rw [askedAfterSubmission, submits]
    exact (((Relation.ReflTransGen.single (.submit submits)).trans (later_settle 20 _)).tail
      (.wait "i1")).trans (later_settle 1 _)
  have kept : askedAfterSubmission.submitted.lookup "i1" = some 0 := rfl
  have receives : Receives gated askedAfterSubmission 1 "i1" :=
    Later.receives isNew_gated built_gated later rfl rfl rfl
  refine ⟨later, (receives.awaits 0 kept).1, fun refuses => ?_⟩
  rw [receives.refused, kept] at refuses
  cases refuses.1

def askedAfterStart : Workplace :=
  settle 1 (inGate.spawn (.wait "i1") []).1

def closing : Workplace :=
  settle 20 ((settle 20
    (((gated.submit "gated" (.state {})).map (·.1)).toOption.getD gated)).spawn .shutdown []).1

/-- The cancelled instance is let go on while another one is submitted, which the shutdown does not
know. A waiter for that one has its turn when the shutdown has come to its end. -/
def askedAfterShutdown : Workplace :=
  let leaving := (closing.openGate "exit").closeGate "exit"
  settle 1 ((settle 20
    (((leaving.submit "gated" (.state {})).map (·.1)).toOption.getD leaving)).spawn
      (.wait "i2") []).1

/-- Both are refused, though the instance they ask for is active. -/
theorem Reachable.refuses_active :
    (∃ inst, askedAfterStart.Reachable ∧ askedAfterStart.orchestrator.active? "i1" = some inst ∧
      (askedAfterStart.task? 1).map (·.activity) = some (.wait "i1") ∧
      askedAfterStart.Refuses 1 "i1") ∧
    ∃ inst, askedAfterShutdown.Reachable ∧
      askedAfterShutdown.orchestrator.active? "i2" = some inst ∧
      (askedAfterShutdown.task? 3).map (·.activity) = some (.wait "i2") ∧
      askedAfterShutdown.Refuses 3 "i2" := by
  constructor
  · have later : Later gated askedAfterStart :=
      (((Relation.ReflTransGen.single (.start "gated" (.state {}))).trans (later_settle 20 _)).tail
        (.wait "i1")).trans (later_settle 1 _)
    exact ⟨_, ⟨gated, isNew_gated, later⟩, rfl, rfl, refuses_of_unknown rfl rfl rfl rfl rfl⟩
  · obtain ⟨submitted, submits⟩ : ∃ next, gated.submit "gated" (.state {}) = .ok (next, "i1") :=
      ⟨_, rfl⟩
    have closes : Later gated closing := by
      rw [closing, submits]
      exact (((Relation.ReflTransGen.single (.submit submits)).trans (later_settle 20 _)).tail
        .shutdown).trans (later_settle 20 _)
    have leaves := (closes.tail (.openGate "exit")).tail (.closeGate "exit")
    obtain ⟨another, submitsAnother⟩ : ∃ next,
        ((closing.openGate "exit").closeGate "exit").submit "gated" (.state {}) =
          .ok (next, "i2") := ⟨_, rfl⟩
    have later : Later gated askedAfterShutdown := by
      simp only [askedAfterShutdown, submitsAnother]
      exact (((leaves.tail (.submit submitsAnother)).trans (later_settle 20 _)).tail
        (.wait "i2")).trans (later_settle 1 _)
    exact ⟨_, ⟨gated, isNew_gated, later⟩, rfl, rfl, refuses_of_unknown rfl rfl rfl rfl rfl⟩

end Workplace

end StepGraph
