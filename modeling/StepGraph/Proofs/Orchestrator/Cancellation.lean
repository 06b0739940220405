import StepGraph.Proofs.Orchestrator.Happening
import StepGraph.Proofs.Orchestrator.Statistics

namespace StepGraph

theorem History.mem_records_foldl {added : List Record} {history : History} {record : Record}
    (member : record ∈ (added.foldl append history).records) :
    record ∈ history.records ∨ record ∈ added := by
  induction added generalizing history with
  | nil => exact .inl member
  | cons first rest ih =>
      rcases ih member with hold | hnew
      · rcases mem_records_append hold with holder | rfl
        · exact .inl holder
        · exact .inr List.mem_cons_self
      · exact .inr (List.mem_cons_of_mem first hnew)

namespace Workplace

/-- An instance is cancelled as something happens at a workplace: from outside, by a step or a
router, or as the orchestrator shuts down. The cancellation itself makes `after` of `before`. -/
inductive Cancels (id : String) (place : Workplace) :
    (before after : Orchestrator) → Workplace → Prop
  | command {after : Orchestrator} (cancelled : place.orchestrator.cancel id = (after, true)) :
      Cancels id place place.orchestrator after (place.withOrchestrator after)
  | deed {task : TaskId} {driver : Task} {innermost : String} {outer : List String}
      {inst : Instance} {reply : Bool → Phase} {after : Orchestrator} {next : Workplace}
      (running : place.running = some task) (found : place.task? task = some driver)
      (isDrive : driver.activity = .drive innermost outer)
      (hinst : place.orchestrator.instance? innermost = some inst)
      (asked : inst.run.move (place.orchestrator.circumstances inst) =
        .ask (.act (.cancel id)) reply)
      (cancelled : place.orchestrator.cancel id = (after, true)) (h : place.tick? = some next) :
      Cancels id place place.orchestrator after next
  | shutdown {task : TaskId} {driver : Task} {earlier rest : List String}
      {before after : Orchestrator} {next : Workplace} (running : place.running = some task)
      (found : place.task? task = some driver) (isShutdown : driver.activity = .shutdown)
      (ids : place.orchestrator.active.map (·.id) = earlier ++ id :: rest)
      (hbefore : before = earlier.foldl
        (fun orchestrator id => (orchestrator.cancel id).1) place.orchestrator)
      (cancelled : before.cancel id = (after, true)) (h : place.tick? = some next) :
      Cancels id place before after next

namespace Cancels

variable {id : String} {place last : Workplace} {before after : Orchestrator}

theorem next (cancels : Cancels id place before after last) : Next place last := by
  cases cancels with
  | command cancelled =>
      have happened : Next place _ := .cancel id
      rw [cancelled] at happened
      exact happened
  | deed _ _ _ _ _ _ h => exact .tick h
  | shutdown _ _ _ _ _ _ h => exact .tick h

theorem cancelled (cancels : Cancels id place before after last) :
    before.cancel id = (after, true) := by
  cases cancels with
  | command cancelled => exact cancelled
  | deed _ _ _ _ _ cancelled _ => exact cancelled
  | shutdown _ _ _ _ _ cancelled _ => exact cancelled

theorem changes_before (cancels : Cancels id place before after last) :
    Orchestrator.Changes place.orchestrator before := by
  cases cancels with
  | command => exact .refl
  | deed => exact .refl
  | shutdown _ _ _ _ hbefore =>
      rw [hbefore]
      exact Orchestrator.changes_cancelAll _ _

theorem changes_after (sound : place.Sound) (cancels : Cancels id place before after last) :
    Orchestrator.Changes after last.orchestrator := by
  cases cancels with
  | command => exact .refl
  | @deed task driver innermost outer inst reply _ _ running found isDrive hinst asked
      cancelled h =>
      have asks := Run.asks_of_move asked
      have hid := Orchestrator.id_of_instance? hinst
      subst hid
      rw [tick?_of_running running found] at h
      simp only [advance, isDrive, drive, hinst, asked, answer, Orchestrator.perform, cancelled,
        Option.some.injEq] at h
      subst h
      have quiet : ∀ other, after.instance? inst.id = some other →
          other.run.phase.StartsNothing (reply true) := by
        intro other hother
        obtain ⟨same, hsame, phase⟩ := Orchestrator.phase_cancel sound.numbered hinst id
        rw [cancelled] at hsame
        cases hsame.symm.trans hother
        rw [phase]
        exact asks.startsNothing true
      have shifts : Shifts (place.withOrchestrator after) _ := shifts_setPhase quiet
      exact shifts.changes
  | @shutdown task driver earlier rest _ _ _ running found isShutdown ids hbefore cancelled h =>
      rw [tick?_of_running running found] at h
      simp only [advance, isShutdown, Option.some.injEq] at h
      subst h
      rw [orchestrator_shutdown, ids, List.foldl_append, List.foldl_cons, ← hbefore, cancelled]
      exact Orchestrator.changes_cancelAll rest after

end Cancels

/-- How an instance that has been cancelled stands at any later time, `after` being the orchestrator
at that moment and `record` what was noted then. Who drives it is told that it was cancelled,
whatever ends its run, unless a step or a router has been told to stop. -/
structure CancelledForGood (id : String) (record : Record) (after : Orchestrator)
    (later : Workplace) : Prop where
  history : ∃ added : List Record,
    later.orchestrator.history = added.foldl History.append after.history ∧
      ∀ other ∈ added, other.instanceId ≠ id
  recorded : ∀ other ∈ later.orchestrator.history.records, other.instanceId = id → other = record
  status : ∃ inst, later.orchestrator.instance? id = some inst ∧ inst.status = .cancelled ∧
    inst.graph = record.graph
  counted : later.orchestrator.statistics.overall.Counts later.orchestrator.instances ∧
    ∀ graph, (later.orchestrator.statistics.ofGraph graph).Counts
      (later.orchestrator.instances.filter (·.graph == graph))
  inside : ∀ closed inst, after.instance? id = some closed →
    later.orchestrator.instance? id = some inst → closed.run.phase.StartsNothing inst.run.phase
  startsNothing : ∀ last, Next later last → ∀ inst next,
    later.orchestrator.instance? id = some inst → last.orchestrator.instance? id = some next →
      inst.run.phase.StartsNothing next.run.phase
  delivered : ∀ task driver outer inst last ending, later.running = some task →
    later.task? task = some driver → driver.activity = .drive id outer →
    later.orchestrator.instance? id = some inst →
    inst.run.move (later.orchestrator.circumstances inst) = .over last ending →
      ∃ result, later.tick? = some ((later.withOrchestrator
          (later.orchestrator.put { inst with run := last })).deliver task outer result) ∧
        ((∃ told, result = .ok told ∧ told.instanceId = id ∧ told.status = .cancelled) ∨
          (result = .error .interrupted ∧ inst.run.phase.Interrupted))
  concluded : ∀ task driver conclusion, later.task? task = some driver →
    driver.drives.getLast? = some id → driver.conclusion? = some conclusion →
      (∃ told, conclusion = .result told ∧ told.instanceId = id ∧ told.status = .cancelled) ∨
        conclusion = .failed .interrupted
  again : later.orchestrator.cancel id = (later.orchestrator, false)

section Afterwards

variable {id : String} {later : Workplace} {inst : Instance}

theorem concluded_of_cancelled (sound : later.Sound)
    (found : later.orchestrator.instance? id = some inst) (cancelled : inst.isCancelled = true)
    {task : TaskId} {driver : Task} {conclusion : Conclusion}
    (hdriver : later.task? task = some driver) (root : driver.drives.getLast? = some id)
    (ended : driver.conclusion? = some conclusion) :
    (∃ told, conclusion = .result told ∧ told.instanceId = id ∧ told.status = .cancelled) ∨
      conclusion = .failed .interrupted := by
  have bears := sound.bears task driver hdriver conclusion ended id root
  cases conclusion with
  | finished => exact bears.elim
  | result told =>
      obtain ⟨hid, _, other, hother, hstatus⟩ := bears
      cases found.symm.trans hother
      refine .inl ⟨told, rfl, hid, ?_⟩
      rw [← hstatus]
      simpa [Instance.isCancelled] using cancelled
  | failed failure =>
      by_cases raised : failure = .interrupted
      · exact .inr (by rw [raised])
      · obtain ⟨other, hother, _, kept⟩ := (Orchestrator.bears_failed_iff raised).mp bears
        cases found.symm.trans hother
        rw [cancelled] at kept
        contradiction

theorem delivered_of_cancelled (sound : later.Sound)
    (found : later.orchestrator.instance? id = some inst) (cancelled : inst.isCancelled = true)
    {task : TaskId} {driver : Task} {outer : List String} {last : Run} {ending : Ending}
    (running : later.running = some task) (hdriver : later.task? task = some driver)
    (isDrive : driver.activity = .drive id outer)
    (isOver : inst.run.move (later.orchestrator.circumstances inst) = .over last ending) :
    ∃ result, later.tick? = some ((later.withOrchestrator
        (later.orchestrator.put { inst with run := last })).deliver task outer result) ∧
      ((∃ told, result = .ok told ∧ told.instanceId = id ∧ told.status = .cancelled) ∨
        (result = .error .interrupted ∧ inst.run.phase.Interrupted)) := by
  have hid : inst.id = id := Orchestrator.id_of_instance? found
  have stopped : (later.orchestrator.put { inst with run := last }).instance? id =
      some { inst with run := last } := Orchestrator.instance?_put_of_some found hid
  rw [tick?_of_running running hdriver]
  simp only [advance, isDrive, drive, found, isOver]
  rcases Orchestrator.conclude_of_cancelled (sound.numbered.put _) stopped cancelled ending with
    told | ⟨⟨cause, rfl⟩, told⟩
  · rw [told]
    refine ⟨_, rfl, .inl ⟨_, rfl, hid, ?_⟩⟩
    simpa [Instance.isCancelled, Orchestrator.result] using cancelled
  · rw [told]
    exact ⟨_, rfl, .inr ⟨rfl, (Run.stops_of_move isOver).phase_of_interrupted⟩⟩

theorem cancel_of_cancelled (sound : later.Sound)
    (found : later.orchestrator.instance? id = some inst) (cancelled : inst.isCancelled = true) :
    later.orchestrator.cancel id = (later.orchestrator, false) := by
  apply Orchestrator.cancel_of_active?_eq_none
  exact Orchestrator.active?_eq_none_of_ended sound.numbered found
    (Instance.isActive_of_isCancelled cancelled)

end Afterwards

theorem record_of_cancel {before after : Orchestrator} {id : String} (numbered : before.Numbered)
    (balanced : before.Balanced) (cancelled : before.cancel id = (after, true)) :
    ∃ record inst, record.instanceId = id ∧ record.status = .cancelled ∧
      after.history.records.getLast? = some record ∧
      (∀ other ∈ after.history.records, other.instanceId = id → other = record) ∧
      after.instance? id = some inst ∧ inst.isCancelled = true ∧ inst.graph = record.graph := by
  have finalized := Orchestrator.cancel_eq_true_iff.mp cancelled
  obtain ⟨inst, found, active, hclosed⟩ := Orchestrator.instance?_of_finalize? numbered finalized
  obtain ⟨other, isActive, rfl⟩ := Orchestrator.finalize?_eq_some_iff.mp finalized
  obtain ⟨hfound, _⟩ := (Orchestrator.active?_eq_some_iff numbered).mp isActive
  cases found.symm.trans hfound
  have hid : inst.id = id := Orchestrator.id_of_instance? found
  refine ⟨(inst.close before.now .cancelled none none).record before.now, _, hid, rfl,
    History.getLast?_append _ _, ?_, hclosed, rfl, rfl⟩
  intro other member same
  rcases History.mem_records_append member with hold | hnew
  -- Older records are of instances that had ended, and this one was still active.
  · obtain ⟨ended, hended, idle⟩ := balanced.recorded other hold
    rw [same] at hended
    cases found.symm.trans hended
    rw [active] at idle
    contradiction
  · exact hnew

/-- Once an instance has been cancelled, the latest record is its own and stays its only one, it is
counted as cancelled, none of its steps is started any more, whoever drives it is told that it was
cancelled, and it cannot be cancelled again. -/
theorem Reachable.cancelled_for_good {place next : Workplace} {before after : Orchestrator}
    {id : String} (reachable : place.Reachable) (cancels : Cancels id place before after next) :
    ∃ record, record.instanceId = id ∧ record.status = .cancelled ∧
      after.history.records.getLast? = some record ∧
      ∀ later, Later next later → CancelledForGood id record after later := by
  have sound := reachable.sound
  have numbered := cancels.changes_before.numbered sound.numbered
  have balanced := reachable.balanced.changes sound.numbered cancels.changes_before
  obtain ⟨record, closed, hid, hstatus, hlast, honly, hclosed, hcancelled, hgraph⟩ :=
    record_of_cancel numbered balanced cancels.cancelled
  refine ⟨record, hid, hstatus, hlast, fun later happened => ?_⟩
  have reached : later.Reachable :=
    (reachable.later (.single cancels.next)).later happened
  have numberedAfter : after.Numbered := by
    have changes := Orchestrator.changes_cancel before id
    rw [cancels.cancelled] at changes
    exact changes.numbered numbered
  have leads : after.LeadsTo later.orchestrator :=
    ((cancels.changes_after sound).leadsTo numberedAfter).trans
      (happened.leadsTo (reachable.later (.single cancels.next)).sound)
  obtain ⟨inst, found, cancelled, startsNothing⟩ := leads.cancelled hclosed hcancelled
  obtain ⟨added, history, hadded⟩ := leads.history
  have fresh : ∀ other ∈ added, other.instanceId ≠ id := by
    intro other member same
    have active := hadded other member closed (same ▸ hclosed)
    rw [Instance.isActive_of_isCancelled hcancelled] at active
    contradiction
  exact {
    history := ⟨added, history, fresh⟩
    recorded := by
      intro other member same
      rw [history] at member
      rcases History.mem_records_foldl member with hold | hnew
      · exact honly other hold same
      · exact absurd same (fresh other hnew)
    status := by
      obtain ⟨again, hagain, further⟩ := leads.instances id closed hclosed
      cases found.symm.trans hagain
      refine ⟨inst, found, ?_, further.graph.trans hgraph⟩
      simpa [Instance.isCancelled] using cancelled
    counted := ⟨Orchestrator.counts_overall reached.balanced,
      Orchestrator.counts_ofGraph reached.balanced⟩
    inside := by
      intro closed' inst' hclosed' hinst
      cases hclosed.symm.trans hclosed'
      cases found.symm.trans hinst
      exact startsNothing
    startsNothing := by
      intro last happening inst' next' hinst hnext
      cases found.symm.trans hinst
      have leads := Later.leadsTo reached.sound (.single happening)
      obtain ⟨other, hother, _, startsNothing⟩ := leads.cancelled found cancelled
      cases hother.symm.trans hnext
      exact startsNothing
    delivered := by
      intro task driver outer inst' last ending running hdriver isDrive hinst isOver
      cases found.symm.trans hinst
      exact delivered_of_cancelled reached.sound found cancelled running hdriver isDrive isOver
    concluded := by
      intro task driver conclusion hdriver root ended
      exact concluded_of_cancelled reached.sound found cancelled hdriver root ended
    again := cancel_of_cancelled reached.sound found cancelled }

def inGate : Workplace :=
  settle 20 (gated.spawn (.start "gated" (.state {})) []).1

/-- The same, once the instance has been cancelled and the gate has been opened. -/
def released : Workplace :=
  settle 20 ((inGate.withOrchestrator (inGate.orchestrator.cancel "i1").1).openGate "exit")

theorem Reachable.cancelled_for_good_released :
    ∃ next after driver told, inGate.Reachable ∧
      Cancels "i1" inGate inGate.orchestrator after next ∧ Later next released ∧
      released.task? 0 = some driver ∧ driver.conclusion? = some (.result told) ∧
      told.instanceId = "i1" ∧ told.status = .cancelled ∧
      released.orchestrator.cancel "i1" = (released.orchestrator, false) := by
  have started : Later gated _ := .single (.start "gated" (.state {}))
  have reachable : inGate.Reachable := ⟨gated, isNew_gated, started.trans (later_settle 20 _)⟩
  have active : (inGate.orchestrator.cancel "i1").2 = true := by decide +kernel
  have cancels : Cancels "i1" inGate inGate.orchestrator (inGate.orchestrator.cancel "i1").1
      (inGate.withOrchestrator (inGate.orchestrator.cancel "i1").1) :=
    .command (Prod.ext rfl active)
  have opened : Later (inGate.withOrchestrator (inGate.orchestrator.cancel "i1").1) _ :=
    .single (.openGate "exit")
  have ended : Later _ released := opened.trans (later_settle 20 _)
  obtain ⟨record, _, _, _, final⟩ := Reachable.cancelled_for_good reachable cancels
  have final := final released ended
  obtain ⟨driver, answer, found, root, isAnswer⟩ : ∃ driver answer,
      released.task? 0 = some driver ∧ driver.drives.getLast? = some "i1" ∧
      driver.conclusion? = some (.result answer) := ⟨_, _, rfl, rfl, rfl⟩
  rcases final.concluded 0 driver _ found root isAnswer with ⟨told, same, hid, hstatus⟩ | wrong
  · cases same
    exact ⟨_, _, driver, answer, reachable, cancels, ended, found, isAnswer, hid, hstatus,
      final.again⟩
  · cases wrong

end Workplace

end StepGraph
