import StepGraph.Proofs.Orchestrator.Failure
import StepGraph.Proofs.Orchestrator.Keeping
import StepGraph.Proofs.Orchestrator.Submission

namespace StepGraph

def Record.outcome (record : Record) : Fallible Result :=
  if record.status = .failed then .error (.workflow (record.error.getD "None"))
  else .ok record.result

/-- The same told again: a result with the same in every field, or a failure with the same message.
Only whether the state is a copy may differ. -/
inductive Conclusion.Again : Conclusion → Conclusion → Prop
  | result (told : Result) (isCopy : Bool) : Again (.result told) (.result { told with isCopy })
  | failed {failure other : Failure} (message : other.message = failure.message) :
      Again (.failed failure) (.failed other)

namespace Orchestrator

/-- What is handed out at the end of a run is what is told of the instance from then on. The
instance has ended before, or it has been ended just now and has not failed. -/
theorem conclude_eq_ok {orchestrator : Orchestrator} {id : String} {ending : Ending} {told : Result}
    (ended : (orchestrator.conclude id ending).2 = .ok told) :
    (orchestrator.conclude id ending).1.resultOf id = .ok told ∧
      ((orchestrator.conclude id ending).1 = orchestrator ∧ orchestrator.active? id = none ∨
        ∃ status terminalStep error, status ≠ .failed ∧
          orchestrator.finalize? id status terminalStep error =
            some (orchestrator.conclude id ending).1) := by
  have settled {status : Status} {terminalStep error : Option String}
      (unfailed : status ≠ .failed) :
      let after := (orchestrator.finalize? id status terminalStep error).getD orchestrator
      after = orchestrator ∧ orchestrator.active? id = none ∨
        ∃ status terminalStep error, status ≠ .failed ∧
          orchestrator.finalize? id status terminalStep error = some after := by
    cases finalized : orchestrator.finalize? id status terminalStep error with
    | none => exact .inl ⟨rfl, finalize?_eq_none_iff.mp finalized⟩
    | some after => exact .inr ⟨status, terminalStep, error, unfailed, finalized⟩
  unfold conclude at ended ⊢
  split at ended
  · exact ⟨ended, settled (by simp)⟩
  · exact ⟨ended, settled (by simp)⟩
  · cases ended
  · next failure _ _ _ =>
      cases finalized : orchestrator.finalize? id .failed none (some failure.message) with
      | some after =>
          rw [finalized] at ended
          cases ended
      | none =>
          rw [finalized] at ended
          dsimp only at ended ⊢
          split at ended
          · next isCancelled =>
              rw [if_pos isCancelled]
              exact ⟨ended, .inl ⟨rfl, finalize?_eq_none_iff.mp finalized⟩⟩
          · cases ended

/-- As long as there is a record, the state that is handed out at the end of a run is the one in it.
-/
theorem state_of_conclude {orchestrator : Orchestrator} (numbered : orchestrator.Numbered)
    {id : String} {inst : Instance} (found : orchestrator.instance? id = some inst)
    (going : inst.isActive = true ∨ inst.isCancelled = true) {ending : Ending} {told : Result}
    (ended : (orchestrator.conclude id ending).2 = .ok told) {record : Record}
    (kept : (orchestrator.conclude id ending).1.history.find? id = some record) :
    ∃ later, (orchestrator.conclude id ending).1.instance? id = some later ∧
      told = (orchestrator.conclude id ending).1.result later ∧ later.status ≠ .failed ∧
      told.state = record.state := by
  obtain ⟨shown, ⟨same, idle⟩ | ⟨status, terminalStep, error, unfailed, finalized⟩⟩ :=
    conclude_eq_ok ended
  · have isCancelled : inst.isCancelled = true := by
      refine going.resolve_left fun active => ?_
      rw [(active?_eq_some_iff numbered).mpr ⟨found, active⟩] at idle
      contradiction
    rw [same] at shown kept ⊢
    rw [resultOf, found] at shown
    cases shown
    refine ⟨inst, found, rfl, ?_, ?_⟩
    · intro failed
      rw [Instance.isCancelled, failed] at isCancelled
      contradiction
    · refine state_result ((id_of_instance? found).symm ▸ kept) fun spared => ?_
      rw [isCancelled] at spared
      contradiction
  · obtain ⟨active, isActive, _, closed⟩ := instance?_of_finalize? numbered finalized
    obtain ⟨other, hother, recorded⟩ := record_of_finalize? finalized kept
    cases isActive.symm.trans ((active?_eq_some_iff numbered).mp hother).1
    have state : (active.close orchestrator.now status terminalStep error).state = record.state :=
      recorded ▸ rfl
    rw [resultOf, closed] at shown
    cases shown
    exact ⟨_, closed, rfl, unfailed,
      state_result ((id_of_instance? closed).symm ▸ kept) fun _ => state⟩

end Orchestrator

namespace Workplace

theorem lookBack_of_find? {orchestrator : Orchestrator} {id : String} {record : Record}
    (kept : orchestrator.history.find? id = some record) :
    lookBack orchestrator id = record.outcome := by
  rw [lookBack, kept]
  rfl

/-- What a driver came to is what the record says, if there is one. -/
theorem Later.again {first place : Workplace} (isNew : first.IsNew) (later : Later first place)
    {task : TaskId} {id : String} {errand : Errand} {conclusion : Conclusion}
    (root : place.root? task = some id)
    (ended : place.duty? task = some ⟨errand, some conclusion⟩)
    (uninterrupted : conclusion ≠ .failed .interrupted) {record : Record}
    (kept : place.orchestrator.history.find? id = some record) :
    conclusion.Again (conclusionOf record.outcome) := by
  obtain ⟨before, after, hbefore, happening, concludes, hafter⟩ := later.concludes isNew ended
  have reachable : before.Reachable := ⟨first, isNew, hbefore⟩
  have reached : after.Reachable := ⟨first, isNew, hbefore.tail happening⟩
  rw [Workplace.root?, ended] at root
  cases concludes with
  | dismissed => contradiction
  | refused => cases root
  | @ended inst last ending running duty found isOver orchestrator happened =>
      obtain rfl : inst.id = id := Option.some.inj root
      have charged : inst.id ∈ before.charge task :=
        charge_of_duty? duty ▸ List.mem_cons_self
      obtain ⟨other, isCharge, going⟩ := reachable.inCharge.stands task inst.id charged
      cases found.symm.trans isCharge
      have stopped := Orchestrator.instance?_put_of_some found
        (show ({ inst with run := last } : Instance).id = inst.id from rfl)
      have numbered := reachable.sound.numbered.put { inst with run := last }
      -- The instance has ended by then, so that its record is still the one made until then.
      obtain ⟨closed, hclosed, idle⟩ : ∃ closed,
          after.orchestrator.instance? inst.id = some closed ∧ closed.isActive = false := by
        rw [orchestrator]
        obtain ⟨closed, hclosed, _⟩ :=
          (Orchestrator.fares_concluded reachable.sound.numbered found isOver).goes _ _ found
        exact ⟨closed, hclosed, Orchestrator.idle_conclude numbered hclosed⟩
      have kept := hafter.find?_of_ended reached hclosed idle kept
      have agrees := reached.agrees kept hclosed
      rw [orchestrator] at kept hclosed
      cases outcome : (before.orchestrator.concluded inst last ending).2 with
      | ok told =>
          obtain ⟨shown, hshown, told_eq, unfailed, state⟩ :=
            Orchestrator.state_of_conclude numbered stopped going outcome kept
          cases hshown.symm.trans hclosed
          have status : record.status ≠ .failed := agrees.status ▸ unfailed
          have endedAt : closed.endedAt = some record.endedAt := agrees.endedAt.symm
          have same : record.result = { told with isCopy := true } := by
            subst told_eq
            simp only [Orchestrator.result] at state
            simp only [Record.result, Record.durationMs, Orchestrator.result, state, endedAt,
              Option.getD_some, agrees.id, agrees.graph, agrees.status, agrees.startedAt,
              agrees.terminalStep, agrees.error, Instance.card]
          rw [Record.outcome, if_neg status, same]
          exact .result told true
      | error failure =>
          have raised : failure ≠ .interrupted := by
            rintro rfl
            exact uninterrupted (congrArg conclusionOf outcome)
          obtain ⟨_, _, finalized⟩ :=
            Orchestrator.conclude_eq_error numbered stopped going raised outcome
          obtain ⟨_, _, rfl⟩ := Orchestrator.record_of_finalize? finalized kept
          exact .failed rfl

/-! ### What those who wait hear -/

/-- The next move ends a task with an answer. -/
def Hears (place : Workplace) (id : TaskId) (answer : Conclusion) : Prop :=
  ∃ next task, place.tick? = some next ∧ next.task? id = some task ∧ task.conclusion? = some answer

/-- The next move is one of this task, which has not been told to stop. -/
inductive HasTurn (place : Workplace) (id : TaskId) (task : Task) : Prop
  | now (running : place.running = some id) : HasTurn place id task
  | next {queue : List Job} (idle : place.running = none) (queue : place.queue = .turn id :: queue)
      (live : task.hasEnded = false) (going : task.stopRequested = false) : HasTurn place id task

theorem heard_endTask {place : Workplace} {id : TaskId} {task : Task}
    (found : place.task? id = some task) (answer : Conclusion) :
    ∃ heard, (place.endTask id answer).task? id = some heard ∧ heard.conclusion? = some answer :=
  ⟨_, task?_endTask found answer, rfl⟩

theorem heard_awaitTask {place : Workplace} {id other : TaskId} {task driver : Task}
    {answer : Conclusion} (found : place.task? id = some task)
    (awaited : place.task? other = some driver) (ended : driver.conclusion? = some answer) :
    ∃ heard, (place.awaitTask id other).task? id = some heard ∧
      heard.conclusion? = some answer := by
  obtain ⟨still, hstill, same⟩ : ∃ still,
      (place.updateTask id fun task => { task with activity := .await other }).task? other =
        some still ∧ still.conclusion? = some answer := by
    rw [task?_updateTask, awaited]
    split
    · exact ⟨_, rfl, ended⟩
    · exact ⟨driver, rfl, ended⟩
  have told : (place.updateTask id fun task => { task with activity := .await other }).task? id =
      some { task with activity := .await other } := task?_updateTask_self found _
  unfold awaitTask
  simp only [hstill, Option.bind_some, same]
  exact heard_endTask told answer

section

variable {place : Workplace} {id other : TaskId} {task driver : Task} {answer : Conclusion}

theorem hears_of_await (found : place.task? id = some task) (isAwait : task.activity = .await other)
    (awaited : place.task? other = some driver) (ended : driver.conclusion? = some answer)
    (turn : place.HasTurn id task) : place.Hears id answer := by
  cases turn with
  | now running =>
      obtain ⟨heard, hheard, same⟩ := heard_awaitTask found awaited ended
      refine ⟨_, heard, tick?_of_running running found, ?_, same⟩
      simpa only [advance, isAwait] using hheard
  | @next queue idle isNext live going =>
      have distinct : other ≠ id := by
        rintro rfl
        cases found.symm.trans awaited
        rw [Task.hasEnded, ended] at live
        cases live
      let queued : Workplace := { place with queue, running := none }
      let begun : Workplace :=
        { queued.updateTask id fun task =>
            { task with standing := .ready, begun := true, stopRequested := false } with
          running := some id }
      have here : queued.task? id = some task := found
      have taken : place.tick? = some (begun.awaitTask id other) := by
        have begins : queued.beginTurn id = begun.awaitTask id other := by
          simp only [beginTurn, here, live, going, proceed, isAwait, Bool.false_eq_true, if_false,
            begun]
        rw [← begins, tick?, idle, isNext]
        exact congrArg some (congrArg (beginTurn · id) (by simp only [queued]))
      have told : begun.task? id =
          some { task with standing := .ready, begun := true, stopRequested := false } :=
        task?_updateTask_self here _
      have still : begun.task? other = some driver :=
        (task?_updateTask _ _ _ _).trans ((if_neg distinct).trans awaited)
      obtain ⟨heard, hheard, same⟩ := heard_awaitTask told still ended
      exact ⟨_, heard, taken, hheard, same⟩

theorem hears_of_wait {instanceId : String} (found : place.task? id = some task)
    (isWait : task.activity = .wait instanceId) (running : place.running = some id)
    (awaited : place.task? other = some driver) (ended : driver.conclusion? = some answer)
    (kept : place.submitted.lookup instanceId = some other) : place.Hears id answer := by
  obtain ⟨heard, hheard, same⟩ := heard_awaitTask found awaited ended
  refine ⟨_, heard, tick?_of_running running found, ?_, same⟩
  simpa only [advance, isWait, wait, kept] using hheard

theorem hears_of_lookBack {instanceId : String} (found : place.task? id = some task)
    (isWait : task.activity = .wait instanceId) (running : place.running = some id)
    (released : place.submitted.lookup instanceId = none) :
    place.Hears id (conclusionOf (lookBack place.orchestrator instanceId)) := by
  obtain ⟨heard, hheard, same⟩ := heard_endTask found
    (conclusionOf (lookBack place.orchestrator instanceId))
  refine ⟨_, heard, tick?_of_running running found, ?_, same⟩
  simpa only [advance, isWait, wait, released] using hheard

end

theorem lookup_eq_none_iff {entries : List (String × TaskId)} {id : String} :
    entries.lookup id = none ↔ ∀ entry ∈ entries, entry.1 ≠ id := by
  simp only [List.lookup_eq_none_iff, bne_iff_ne, ne_comm]

/-- Once the driver of a submitted instance has ended, all who wait hear the same of it as long as
the record is kept: whoever awaits the task, and whoever asks for the instance, before its task has
been forgotten and ever after. -/
theorem Later.answers_again {first place next after : Workplace} {graph id : String}
    {initial : Initial} {driver : Task} {conclusion : Conclusion} {record : Record}
    (isNew : first.IsNew) (later : Later first place)
    (submitted : place.submit graph initial = .ok (next, id)) (onward : Later next after)
    (found : after.task? place.tasks.length = some driver)
    (ended : driver.conclusion? = some conclusion)
    (uninterrupted : conclusion ≠ .failed .interrupted)
    (kept : after.orchestrator.history.find? id = some record) :
    ∃ answer, conclusion.Again answer ∧
      ∀ last, Later after last → last.orchestrator.history.contains id = true →
        (∀ waiter task, last.task? waiter = some task →
          task.activity = .await place.tasks.length → last.HasTurn waiter task →
          last.Hears waiter conclusion) ∧
        (∀ waiter task, last.task? waiter = some task → task.activity = .wait id →
          last.running = some waiter →
          (last.submitted.lookup id = none → last.Hears waiter answer) ∧
          ∀ other, last.submitted.lookup id = some other →
            other = place.tasks.length ∧ last.Hears waiter conclusion) ∧
        (last.submitted.lookup id = none →
          ∀ further, Later last further → further.submitted.lookup id = none) := by
  have happening : Next place next := .submit submitted
  have submits := submits_of_submit submitted
  have reachable : place.Reachable := ⟨first, isNew, later⟩
  have reachedNext : next.Reachable := reachable.later (.single happening)
  have reached : after.Reachable := reachedNext.later onward
  have root : after.root? place.tasks.length = some id := by
    have first : next.duty? place.tasks.length = some ⟨.drive id [], none⟩ :=
      duty?_of_task? submits.task
    refine Later.root? reachedNext onward ?_
    rw [Workplace.root?, first]
    rfl
  obtain ⟨errand, duty⟩ : ∃ errand,
      after.duty? place.tasks.length = some ⟨errand, some conclusion⟩ := by
    obtain ⟨duty, isDuty, _⟩ := Option.bind_eq_some_iff.mp root
    rw [isDuty]
    rw [duty?_of_task? found] at isDuty
    obtain ⟨errand, _, rfl⟩ := Option.map_eq_some_iff.mp isDuty
    exact ⟨errand, by rw [ended]⟩
  have begun : Later first after := (later.tail happening).trans onward
  have recalled : ∀ last, Later after last → last.orchestrator.history.contains id = true →
      last.orchestrator.history.find? id = some record := by
    intro last onwardLast contained
    obtain ⟨member, hid⟩ := reached.mem_of_find? kept
    obtain ⟨closed, hclosed, idle⟩ := reached.balanced.recorded record member
    obtain ⟨other, still⟩ := Option.isSome_iff_exists.mp contained
    have same := onwardLast.find?_of_ended reached (hid ▸ hclosed) idle still
    exact still.trans (same.symm.trans kept)
  refine ⟨conclusionOf record.outcome, begun.again isNew root duty uninterrupted kept, ?_⟩
  intro last onwardLast contained
  have reachedLast := reached.later onwardLast
  have still := onwardLast.keepsEnded reached duty
  obtain ⟨other, awaited, hduty⟩ := Option.bind_eq_some_iff.mp still
  have hended : other.conclusion? = some conclusion := by
    obtain ⟨_, _, heq⟩ := Option.map_eq_some_iff.mp hduty
    exact (Duty.mk.inj heq).2
  obtain ⟨inst, opened⟩ := submits.opened reachable
  obtain ⟨later, hlater, _⟩ :=
    (Later.leadsTo reachedNext.sound (onward.trans onwardLast)).instances id inst opened
  refine ⟨?_, ?_, ?_⟩
  · exact fun waiter task hwaiter isAwait => hears_of_await hwaiter isAwait awaited hended
  · intro waiter task hwaiter isWait running
    refine ⟨fun released => ?_, fun kept isKept => ?_⟩
    · rw [← lookBack_of_find? (recalled last onwardLast contained)]
      exact hears_of_lookBack hwaiter isWait running released
    · obtain ⟨earlier, further, entries, _⟩ := List.lookup_eq_some_iff.mp isKept
      have member : (id, kept) ∈ last.submitted := entries ▸ List.mem_append_cons_self
      have own : kept = place.tasks.length :=
        submits.own reachable happening (onward.trans onwardLast) member rfl
      subst own
      exact ⟨rfl, hears_of_wait hwaiter isWait running awaited hended isKept⟩
  · intro released further onwardFurther
    rw [lookup_eq_none_iff] at released ⊢
    intro entry member own
    exact released entry (onwardFurther.submitted_of_opened reachedLast hlater member own) own

/-- A submitted instance that has been cancelled at its gate, once it has been let out. -/
def letOut : Workplace :=
  let waiting := settle 20 (((gated.submit "gated" (.state {})).map (·.1)).toOption.getD gated)
  settle 20 ((waiting.withOrchestrator (waiting.orchestrator.cancel "i1").1).openGate "exit")

def asked : Workplace :=
  settle 1 (letOut.spawn (.wait "i1") []).1

theorem Later.answers_again_asked :
    ∃ next driver told isCopy, gated.submit "gated" (.state {}) = .ok (next, "i1") ∧
      Later next letOut ∧ letOut.task? 0 = some driver ∧
      driver.conclusion? = some (.result told) ∧ Later letOut asked ∧
      asked.submitted.lookup "i1" = none ∧ asked.Hears 1 (.result { told with isCopy }) := by
  obtain ⟨next, submitted⟩ : ∃ next, gated.submit "gated" (.state {}) = .ok (next, "i1") :=
    ⟨_, rfl⟩
  have onward : Later next letOut := by
    rw [letOut, submitted]
    exact (later_settle 20 next).trans
      ((Relation.ReflTransGen.single (.cancel "i1")).trans
        ((Relation.ReflTransGen.single (.openGate "exit")).trans (later_settle 20 _)))
  have further : Later letOut asked :=
    (Relation.ReflTransGen.single (.wait "i1")).trans (later_settle 1 _)
  obtain ⟨driver, told, found, ended⟩ : ∃ driver told, letOut.task? 0 = some driver ∧
      driver.conclusion? = some (.result told) := ⟨_, _, rfl, rfl⟩
  obtain ⟨record, kept⟩ := Option.isSome_iff_exists.mp
    (show (letOut.orchestrator.history.find? "i1").isSome = true by decide +kernel)
  obtain ⟨answer, again, hears⟩ := Later.answers_again isNew_gated .refl submitted onward found
    ended (by simp) kept
  obtain ⟨_, hears, _⟩ := hears asked further (by decide +kernel)
  obtain ⟨task, hwaiter, isWait⟩ : ∃ task, asked.task? 1 = some task ∧
      task.activity = .wait "i1" := ⟨_, rfl, rfl⟩
  have released : asked.submitted.lookup "i1" = none := by decide +kernel
  have heard := (hears 1 task hwaiter isWait (by decide +kernel)).1 released
  cases again with
  | result _ isCopy =>
      exact ⟨next, driver, told, isCopy, submitted, onward, found, ended, further, released, heard⟩

end Workplace

end StepGraph
