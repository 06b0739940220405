import StepGraph.Proofs.Orchestrator.Store

namespace StepGraph

theorem History.Indexed.contains_iff {history : History} (indexed : history.Indexed) {id : String} :
    history.contains id = true ↔ id ∈ history.records.map (·.instanceId) := by
  constructor
  · intro contained
    by_contra absent
    rw [contains, indexed.find?_of_notMem absent] at contained
    contradiction
  · intro member
    obtain ⟨record, hrecord, rfl⟩ := List.mem_map.mp member
    rw [contains, indexed.find?_of_mem hrecord]
    rfl

theorem Instance.Continues.card_eq {before after : Instance} (continues : before.Continues after) :
    after.card = before.card := by
  simp only [card, continues.id, continues.graph, continues.startedAt, continues.status,
    continues.endedAt, continues.terminalStep, continues.error]

namespace Orchestrator

theorem record_of_finalize? {before after : Orchestrator} {id : String} {status : Status}
    {terminalStep error : Option String}
    (finalized : before.finalize? id status terminalStep error = some after) {record : Record}
    (kept : after.history.find? id = some record) :
    ∃ inst, before.active? id = some inst ∧
      record = (inst.close before.now status terminalStep error).record before.now := by
  obtain ⟨inst, isActive, rfl⟩ := finalize?_eq_some_iff.mp finalized
  have last := History.find?_append_self before.history
    ((inst.close before.now status terminalStep error).record before.now)
  have hid : inst.id = id := (active?_isActive isActive).1
  exact ⟨inst, isActive, Option.some.inj (kept.symm.trans (hid ▸ last))⟩

theorem state_result {orchestrator : Orchestrator} {inst : Instance} {record : Record}
    (kept : orchestrator.history.find? inst.id = some record)
    (same : inst.isCancelled = false → inst.state = record.state) :
    (orchestrator.result inst).state = record.state := by
  cases isCancelled : inst.isCancelled with
  | true => simp only [result, isCancelled, if_true, kept, Option.map_some, Option.getD_some]
  | false =>
      simp only [result, isCancelled, Bool.false_eq_true, if_false, Option.map_none,
        Option.getD_none, same isCancelled]

section

variable {before after : Orchestrator}

theorem Change.finishes (numbered : before.Numbered) (change : Change before after) :
    ∃ ids, Finishes before ids after := by
  cases change with
  | aside instances history =>
      exact ⟨[], Finishes.refl.quiet (by rw [cards, cards, instances]) history⟩
  | driven found continues =>
      exact ⟨[], Finishes.refl.quiet (cards_put numbered found continues.card_eq) rfl⟩
  | opened definition initial => exact ⟨[], Finishes.refl.opened definition initial⟩
  | @ended id _ _ _ _ isTerminal finalized =>
      exact ⟨[id], Finishes.refl.ended isTerminal finalized⟩

theorem Changes.finishes (numbered : before.Numbered) (changes : Changes before after) :
    ∃ ids, Finishes before ids after := by
  induction changes with
  | refl => exact ⟨[], .refl⟩
  | tail earlier change ih =>
      obtain ⟨ids, finishes⟩ := ih
      obtain ⟨more, further⟩ := change.finishes (Changes.numbered earlier numbered)
      exact ⟨ids ++ more, finishes.trans further⟩

/-- Once an instance has ended its record is not replaced, whatever is dropped. -/
theorem LeadsTo.find?_of_ended (leads : before.LeadsTo after) (indexed : before.history.Indexed)
    (indexedAfter : after.history.Indexed) {id : String} {inst : Instance}
    (found : before.instance? id = some inst) (ended : inst.isActive = false) {record : Record}
    (kept : after.history.find? id = some record) : before.history.find? id = some record := by
  rw [indexedAfter.find?_eq] at kept
  have member := List.mem_of_find?_eq_some kept
  have hid : record.instanceId = id := by simpa using List.find?_some kept
  obtain ⟨added, history, wereActive⟩ := leads.history
  rw [history] at member
  rcases History.mem_records_foldl member with old | new
  · rw [← hid]
    exact indexed.find?_of_mem old
  · have active := wereActive record new inst (hid ▸ found)
    rw [ended] at active
    contradiction

end

section

variable {orchestrator : Orchestrator} {limit : Nat} {ended : List String}

theorem Stored.limit_eq (positive : 0 < limit) (stored : orchestrator.Stored limit ended) :
    orchestrator.history.limit = limit := by
  obtain ⟨finished, hids, history, _⟩ := stored.recorded
  rw [history]
  exact (History.foldl_append positive finished (hids ▸ stored.nodup)).1

theorem Stored.indexed (positive : 0 < limit) (stored : orchestrator.Stored limit ended) :
    orchestrator.history.Indexed := by
  obtain ⟨finished, hids, history, _⟩ := stored.recorded
  rw [history]
  exact (History.foldl_append positive finished (hids ▸ stored.nodup)).2.2

theorem Stored.ids_kept (positive : 0 < limit) (stored : orchestrator.Stored limit ended) :
    orchestrator.history.records.map (·.instanceId) = ended.drop (ended.length - limit) := by
  obtain ⟨finished, hids, history, _⟩ := stored.recorded
  rw [history, (History.foldl_append positive finished (hids ▸ stored.nodup)).2.1, History.keptOf,
    List.map_drop, hids, ← hids, List.length_map]

private theorem mem_drop_iff {id : String} {later : List String}
    (nodup : (ended ++ id :: later).Nodup) (count : Nat) :
    id ∈ (ended ++ id :: later).drop count ↔ count ≤ ended.length := by
  have apart : id ∉ later := (List.nodup_cons.mp (List.nodup_append.mp nodup).2.1).1
  constructor
  · intro member
    by_contra beyond
    obtain ⟨more, rfl⟩ := Nat.exists_eq_add_of_lt (not_le.mp beyond)
    rw [Nat.add_assoc, List.drop_length_add_append, List.drop_succ_cons] at member
    exact apart (List.mem_of_mem_drop member)
  · intro within
    rw [List.drop_append_of_le_length within]
    exact List.mem_append_right _ List.mem_cons_self

/-- A record is kept until so many others have followed it as the history can hold. -/
theorem Stored.contains_iff {id : String} {later : List String} (positive : 0 < limit)
    (stored : orchestrator.Stored limit (ended ++ id :: later)) :
    orchestrator.history.contains id = true ↔ later.length < limit := by
  rw [(stored.indexed positive).contains_iff, stored.ids_kept positive, mem_drop_iff stored.nodup,
    List.length_append, List.length_cons]
  omega

end

end Orchestrator

namespace Workplace

theorem Reachable.stored {place : Workplace} (reachable : place.Reachable) :
    ∃ limit ended, 0 < limit ∧ place.orchestrator.Stored limit ended := by
  obtain ⟨first, isNew, later⟩ := reachable
  obtain ⟨limit, created⟩ := isNew.history
  obtain ⟨ended, finishing⟩ := later.exists_finishing
  refine ⟨limit.toNat, ended, ?_, finishing.stored isNew created⟩
  unfold History.create at created
  split at created
  · cases created
  · omega

theorem Reachable.indexed {place : Workplace} (reachable : place.Reachable) :
    place.orchestrator.history.Indexed := by
  obtain ⟨limit, ended, positive, stored⟩ := reachable.stored
  exact stored.indexed positive

theorem Reachable.mem_of_find? {place : Workplace} (reachable : place.Reachable) {id : String}
    {record : Record} (kept : place.orchestrator.history.find? id = some record) :
    record ∈ place.orchestrator.history.records ∧ record.instanceId = id := by
  rw [reachable.indexed.find?_eq] at kept
  exact ⟨List.mem_of_find?_eq_some kept, by simpa using List.find?_some kept⟩

/-- A record says what is noted of the instance. -/
theorem Reachable.agrees {place : Workplace} (reachable : place.Reachable) {id : String}
    {record : Record} (kept : place.orchestrator.history.find? id = some record) {inst : Instance}
    (found : place.orchestrator.instance? id = some inst) : inst.card.Agrees record := by
  obtain ⟨member, hid⟩ := reachable.mem_of_find? kept
  obtain ⟨limit, ended, positive, stored⟩ := reachable.stored
  obtain ⟨finished, hids, history, agree⟩ := stored.recorded
  have kept := (History.foldl_append positive finished (hids ▸ stored.nodup)).2.1
  rw [← history] at kept
  rw [kept] at member
  obtain ⟨card, hcard, agrees⟩ := agree record (List.mem_of_mem_drop member)
  obtain ⟨other, hother, rfl⟩ := List.mem_map.mp hcard
  have same := (Orchestrator.instance?_eq_some_iff reachable.sound.numbered).mpr
    ⟨hother, agrees.id.symm.trans hid⟩
  cases same.symm.trans found
  exact agrees

theorem Later.find?_of_ended {place after : Workplace} (reachable : place.Reachable)
    (later : Later place after) {id : String} {inst : Instance}
    (found : place.orchestrator.instance? id = some inst) (ended : inst.isActive = false)
    {record : Record} (kept : after.orchestrator.history.find? id = some record) :
    place.orchestrator.history.find? id = some record :=
  (later.leadsTo reachable.sound).find?_of_ended reachable.indexed
    (reachable.later later).indexed found ended kept

end Workplace

end StepGraph
