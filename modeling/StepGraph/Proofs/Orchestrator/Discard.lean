import StepGraph.Proofs.Orchestrator.Keeping

namespace StepGraph

def Instance.stateAtEnd (inst : Instance) (now : Instant) : State :=
  { inst.state with metadata := { inst.state.metadata with endTime := some (.ofInstant now) } }

theorem Instance.state_close (inst : Instance) (now : Instant) (status : Status)
    (terminalStep error : Option String) :
    (inst.close now status terminalStep error).state = inst.stateAtEnd now := by
  unfold state stateAtEnd close state
  cases inst.parted <;> rfl

theorem Orchestrator.state_result_of_cancelled {orchestrator : Orchestrator} {inst : Instance}
    {state : State} {few : Prop} [Decidable few] (cancelled : inst.isCancelled = true)
    (contains_iff : orchestrator.history.contains inst.id = true ↔ few)
    (same : ∀ record, orchestrator.history.find? inst.id = some record → record.state = state) :
    (orchestrator.result inst).state = if few then state else inst.state := by
  simp only [result, cancelled, if_true]
  cases kept : orchestrator.history.find? inst.id with
  | none =>
      rw [History.contains, kept] at contains_iff
      have many : ¬few := fun few => Bool.false_ne_true (contains_iff.mpr few)
      rw [if_neg many]
      rfl
  | some record =>
      rw [History.contains, kept] at contains_iff
      rw [if_pos (contains_iff.mp rfl), ← same record kept]
      rfl

namespace Workplace

namespace Cancels

variable {id : String} {place next : Workplace} {before after : Orchestrator}

theorem finalized (cancels : Cancels id place before after next) :
    before.finalize? id .cancelled none none = some after :=
  Orchestrator.cancel_eq_true_iff.mp cancels.cancelled

theorem numbered_before (sound : place.Sound) (cancels : Cancels id place before after next) :
    before.Numbered :=
  cancels.changes_before.numbered sound.numbered

theorem changes_self (cancels : Cancels id place before after next) :
    Orchestrator.Changes before after :=
  .single (.ended (by simp) cancels.finalized)

theorem changes_later (sound : place.Sound) (cancels : Cancels id place before after next)
    {later : Workplace} (happened : Later next later) :
    Orchestrator.Changes after later.orchestrator :=
  (cancels.changes_after sound).trans
    (happened.changes (sound.later (.single cancels.next)))

/-- The instance is among those that have ended, with those that have ended after it. -/
theorem stored_later (reachable : place.Reachable) (cancels : Cancels id place before after next)
    {later : Workplace} (happened : Later next later) :
    ∃ limit ended ids, 0 < limit ∧ after.history.limit = limit ∧ after.history.Indexed ∧
      Orchestrator.Finishes after ids later.orchestrator ∧
      later.orchestrator.Stored limit (ended ++ id :: ids) := by
  obtain ⟨limit, ended, positive, stored⟩ := reachable.stored
  have numbered := cancels.numbered_before reachable.sound
  obtain ⟨earlier, finishes⟩ := cancels.changes_before.finishes reachable.sound.numbered
  have storedBefore := stored.finishes reachable.sound.numbered finishes
  have cancelled : Orchestrator.Finishes before [id] after :=
    Orchestrator.Finishes.refl.ended (by simp) cancels.finalized
  have storedAfter := storedBefore.finishes numbered cancelled
  have numberedAfter := cancels.changes_self.numbered numbered
  obtain ⟨ids, further⟩ :=
    (cancels.changes_later reachable.sound happened).finishes numberedAfter
  refine ⟨limit, ended ++ earlier, ids, positive, storedAfter.limit_eq positive,
    storedAfter.indexed positive, further, ?_⟩
  have storedLater := storedAfter.finishes numberedAfter further
  rwa [List.append_assoc, List.singleton_append] at storedLater

theorem state_kept (reachable : place.Reachable) (cancels : Cancels id place before after next)
    {inst : Instance} (found : before.instance? id = some inst) {later : Workplace}
    (happened : Later next later) {record : Record}
    (kept : later.orchestrator.history.find? id = some record) :
    record.state = inst.stateAtEnd before.now := by
  have numbered := cancels.numbered_before reachable.sound
  obtain ⟨_, _, _, positive, _, indexed, _, stored⟩ := cancels.stored_later reachable happened
  obtain ⟨other, hother, active, closed⟩ :=
    Orchestrator.instance?_of_finalize? numbered cancels.finalized
  have leads := (cancels.changes_later reachable.sound happened).leadsTo
    (cancels.changes_self.numbered numbered)
  have kept := leads.find?_of_ended indexed (stored.indexed positive) closed rfl kept
  obtain ⟨same, isActive, rfl⟩ := Orchestrator.record_of_finalize? cancels.finalized kept
  cases found.symm.trans ((Orchestrator.active?_eq_some_iff numbered).mp isActive).1
  exact inst.state_close _ _ _ _

end Cancels

/-- Whoever drives a cancelled instance is told that it was cancelled once its run is over, whatever
ends it, unless by an interruption. The state that is handed over is the one that the cancellation
left as long as fewer others have ended since than the history can hold; after that it is the one
that the run itself has gone on with. -/
theorem Reachable.discards_while_kept {place next : Workplace} {before after : Orchestrator}
    {id : String} (reachable : place.Reachable) (cancels : Cancels id place before after next) :
    ∃ inst, before.instance? id = some inst ∧ inst.isActive = true ∧
      ∀ later, Later next later →
        ∃ ids, Orchestrator.Finishes after ids later.orchestrator ∧
          (later.orchestrator.history.contains id = true ↔ ids.length < after.history.limit) ∧
          ∀ task driver outer still last ending, later.running = some task →
            later.task? task = some driver → driver.activity = .drive id outer →
            later.orchestrator.instance? id = some still →
            still.run.move (later.orchestrator.circumstances still) = .over last ending →
            (∀ cause, ending ≠ .raised .interrupted cause) →
              ∃ told, later.tick? = some ((later.withOrchestrator
                  (later.orchestrator.put { still with run := last })).deliver task outer
                    (.ok told)) ∧
                told.instanceId = id ∧ told.status = .cancelled ∧
                told.state = if ids.length < after.history.limit then inst.stateAtEnd before.now
                  else ({ still with run := last } : Instance).state := by
  have numbered := cancels.numbered_before reachable.sound
  obtain ⟨inst, found, active, closed⟩ :=
    Orchestrator.instance?_of_finalize? numbered cancels.finalized
  refine ⟨inst, found, active, fun later happened => ?_⟩
  obtain ⟨limit, ended, ids, positive, hlimit, _, finishes, stored⟩ :=
    cancels.stored_later reachable happened
  have contains_iff := stored.contains_iff positive
  rw [← hlimit] at contains_iff
  refine ⟨ids, finishes, contains_iff, ?_⟩
  intro task driver outer still last ending running hdriver isDrive hstill isOver uninterrupted
  have sound := (reachable.later ((Relation.ReflTransGen.single cancels.next).trans happened)).sound
  have leads := (cancels.changes_later reachable.sound happened).leadsTo
    (cancels.changes_self.numbered numbered)
  obtain ⟨other, hother, cancelled, _⟩ := leads.cancelled closed rfl
  cases hstill.symm.trans hother
  have hid : still.id = id := Orchestrator.id_of_instance? hstill
  let gone : Instance := { still with run := last }
  have cancelled : gone.isCancelled = true := cancelled
  have stopped : (later.orchestrator.put gone).instance? id = some gone :=
    Orchestrator.instance?_put_of_some hstill hid
  have told : (later.orchestrator.put gone).conclude id ending =
      (later.orchestrator.put gone, .ok ((later.orchestrator.put gone).result gone)) :=
    (Orchestrator.conclude_of_cancelled (sound.numbered.put _) stopped cancelled
      ending).resolve_right fun ⟨⟨cause, raised⟩, _⟩ => uninterrupted cause raised
  refine ⟨(later.orchestrator.put gone).result gone, ?_, hid, ?_, ?_⟩
  · rw [tick?_of_running running hdriver]
    simp only [advance, isDrive, drive, hstill, isOver]
    exact congrArg some (congrArg (fun concluded : Orchestrator × Fallible Result =>
      (later.withOrchestrator concluded.1).deliver task outer concluded.2) told)
  · simpa [Instance.isCancelled, Orchestrator.result] using cancelled
  · refine Orchestrator.state_result_of_cancelled cancelled ?_ fun record kept => ?_
    · rw [← hid] at contains_iff
      exact contains_iff
    · exact cancels.state_kept reachable found happened (hid ▸ kept)

/-- A workplace that keeps one record and knows a graph of one step, which waits at a gate and then
puts something into the data. -/
def noting : Workplace where
  orchestrator :=
    { registry := ⟨[{
        name := "noting"
        steps := [{
          name := "note"
          action := .ask (.gate "exit") fun _ => .read fun state =>
            .write { state with data := .plain (.bool true) } (.done .nothing) }]
        routes := []
        entry := some "note"
        terminals := ["note"]
        ceiling := none
        description := none }]⟩
      history := { limit := 1 } }

theorem isNew_noting : noting.IsNew :=
  ⟨rfl, ⟨1, rfl⟩, rfl, rfl, rfl, rfl, rfl⟩

def bothWait : Workplace :=
  settle 20 ((noting.spawn (.start "noting" (.state {})) []).1.spawn
    (.start "noting" (.state {})) []).1

theorem reachable_bothWait : bothWait.Reachable := by
  have started : Later noting _ := .single (.start "noting" (.state {}))
  have started := started.tail (.start "noting" (.state {}))
  exact ⟨noting, isNew_noting, started.trans (later_settle 20 _)⟩

def firstCancelled : Workplace :=
  bothWait.withOrchestrator (bothWait.orchestrator.cancel "i1").1

theorem cancels_firstCancelled :
    Cancels "i1" bothWait bothWait.orchestrator (bothWait.orchestrator.cancel "i1").1
      firstCancelled :=
  .command (Prod.ext rfl (by decide +kernel))

def firstLeaves : Workplace :=
  settle 3 (firstCancelled.openGate "exit")

def firstLeavesLast : Workplace :=
  settle 4 ((firstCancelled.withOrchestrator (firstCancelled.orchestrator.cancel "i2").1).openGate
    "exit")

theorem Reachable.discards_while_kept_firstLeaves :
    ∃ (inst : Instance) (next : Workplace) (told : Result),
      bothWait.orchestrator.instance? "i1" = some inst ∧ Later firstCancelled firstLeaves ∧
      firstLeaves.tick? = some (next.endTask 0 (.result told)) ∧ told.status = .cancelled ∧
      told.state = inst.stateAtEnd bothWait.orchestrator.now := by
  have later : Later firstCancelled firstLeaves :=
    (Relation.ReflTransGen.single (.openGate "exit")).trans (later_settle 3 _)
  obtain ⟨still, last, instanceId, hstill, isOver⟩ : ∃ still last instanceId,
      firstLeaves.orchestrator.instance? "i1" = some still ∧
      still.run.move (firstLeaves.orchestrator.circumstances still) =
        .over last (.raised (.instanceCancelled instanceId) none) := ⟨_, _, _, rfl, rfl⟩
  obtain ⟨driver, hdriver, isDrive⟩ : ∃ driver, firstLeaves.task? 0 = some driver ∧
      driver.activity = .drive "i1" [] := ⟨_, rfl, rfl⟩
  obtain ⟨inst, found, _, final⟩ :=
    Reachable.discards_while_kept reachable_bothWait cancels_firstCancelled
  obtain ⟨ids, _, contains_iff, final⟩ := final firstLeaves later
  have few := contains_iff.mp (by decide +kernel)
  obtain ⟨told, ticks, _, status, state⟩ :=
    final 0 driver [] still last _ rfl hdriver isDrive hstill isOver nofun
  exact ⟨inst, _, told, found, later, ticks, status, state.trans (if_pos few)⟩

/-- Where the record has been dropped, what the step has done since shows. -/
theorem Reachable.shows_discarded_step :
    ∃ (inst : Instance) (driver : Task) (told : Result), bothWait.Reachable ∧
      Cancels "i1" bothWait bothWait.orchestrator (bothWait.orchestrator.cancel "i1").1
        firstCancelled ∧
      bothWait.orchestrator.instance? "i1" = some inst ∧ Later firstCancelled firstLeavesLast ∧
      firstLeavesLast.task? 0 = some driver ∧ driver.drives = ["i1"] ∧
      driver.conclusion? = some (.result told) ∧ told.status = .cancelled ∧
      told.state ≠ inst.stateAtEnd bothWait.orchestrator.now := by
  have later : Later firstCancelled firstLeavesLast :=
    (Relation.ReflTransGen.single (.cancel "i2")).trans
      ((Relation.ReflTransGen.single (.openGate "exit")).trans (later_settle 4 _))
  obtain ⟨inst, found, unset⟩ : ∃ inst, bothWait.orchestrator.instance? "i1" = some inst ∧
      inst.state.data = .plain .null := ⟨_, rfl, rfl⟩
  obtain ⟨driver, told, hdriver, drives, ended, status, set⟩ : ∃ driver told,
      firstLeavesLast.task? 0 = some driver ∧ driver.drives = ["i1"] ∧
      driver.conclusion? = some (.result told) ∧ told.status = .cancelled ∧
      told.state.data = .plain (.bool true) := ⟨_, _, rfl, rfl, rfl, rfl, rfl⟩
  refine ⟨inst, driver, told, reachable_bothWait, cancels_firstCancelled, found, later, hdriver,
    drives, ended, status, fun same => ?_⟩
  rw [same] at set
  cases unset.symm.trans set

end Workplace

end StepGraph
