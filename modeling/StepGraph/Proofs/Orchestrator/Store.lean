import Mathlib.Data.List.Induction
import StepGraph.Proofs.Orchestrator.Cancellation

namespace StepGraph

namespace History

/-- The index finds the record that carries an id, whichever records are kept. -/
structure Indexed (history : History) : Prop where
  nodup : (history.records.map (·.instanceId)).Nodup
  find?_eq : ∀ id, history.find? id = history.records.find? (·.instanceId == id)

private theorem lookup_filter_ne (entries : List (String × Record)) (key id : String) :
    (entries.filter (·.1 != key)).lookup id = if id = key then none else entries.lookup id := by
  induction entries with
  | nil => simp
  | cons entry rest ih =>
      obtain ⟨k, record⟩ := entry
      by_cases hk : k = key
      · subst hk
        by_cases hid : id = k
        · subst hid
          simpa using ih
        · simpa [List.lookup_cons, hid, beq_false_of_ne hid] using ih
      · by_cases hid : id = k
        · subst hid
          simp [hk]
        · simp [List.lookup_cons, hk, beq_false_of_ne hid, ih]

private theorem Indexed.evict {history : History} (indexed : history.Indexed) :
    history.evict.Indexed := by
  unfold History.evict
  cases hrecords : history.records with
  | nil => exact indexed
  | cons oldest rest =>
      dsimp only
      split
      · have nodup := indexed.nodup
        rw [hrecords, List.map_cons, List.nodup_cons] at nodup
        refine ⟨nodup.2, fun id => ?_⟩
        have found := indexed.find?_eq id
        rw [find?, hrecords, List.find?_cons] at found
        rw [find?, lookup_filter_ne]
        by_cases h : id = oldest.instanceId
        · rw [if_pos h, eq_comm, List.find?_eq_none]
          intro record member same
          have same : record.instanceId = oldest.instanceId := (beq_iff_eq.mp same).trans h
          exact nodup.1 (List.mem_map.mpr ⟨record, member, same⟩)
        · rw [if_neg h, found, beq_false_of_ne (Ne.symm h)]
      · exact indexed

theorem evict_subset (history : History) : history.evict.records ⊆ history.records := by
  unfold evict
  split
  · next oldest rest hrecords =>
      split
      · exact hrecords ▸ List.subset_cons_self _ _
      · exact List.Subset.refl _
  · exact List.Subset.refl _

theorem Indexed.append {history : History} (indexed : history.Indexed) {record : Record}
    (new : ∀ other ∈ history.records, other.instanceId ≠ record.instanceId) :
    (history.append record).Indexed := by
  have evicted := indexed.evict
  have new : ∀ other ∈ history.evict.records, other.instanceId ≠ record.instanceId :=
    fun other member => new other (history.evict_subset member)
  constructor
  · simp only [History.append, List.map_append, List.map_cons, List.map_nil, List.nodup_append]
    refine ⟨evicted.nodup, List.nodup_singleton _, ?_⟩
    intro id member other same
    obtain ⟨old, hold, rfl⟩ := List.mem_map.mp member
    exact (List.mem_singleton.mp same) ▸ new old hold
  · intro id
    have found := evicted.find?_eq id
    rw [find?] at found
    simp only [History.append, find?, lookup_updateKey, List.find?_append, found]
    by_cases h : id = record.instanceId
    · subst h
      have none : history.evict.records.find? (·.instanceId == record.instanceId) = none := by
        rw [List.find?_eq_none]
        exact fun other member same => new other member (beq_iff_eq.mp same)
      simp [none]
    · simp [h, Ne.symm h]

def keptOf (limit : Nat) (finished : List Record) : List Record :=
  finished.drop (finished.length - limit)

theorem records_append {history : History} {finished : List Record} {limit : Nat}
    (hlimit : history.limit = limit) (positive : 0 < limit)
    (kept : history.records = keptOf limit finished) (record : Record) :
    (history.append record).records = keptOf limit (finished ++ [record]) := by
  subst hlimit
  have hlength : history.records.length = min history.limit finished.length := by
    rw [kept, keptOf, List.length_drop]
    omega
  have evicted : history.evict.records = finished.drop (finished.length + 1 - history.limit) := by
    unfold evict
    split
    · next oldest rest hrecords =>
        split
        · next full =>
            have hrest : rest = history.records.drop 1 := by rw [hrecords]; rfl
            dsimp only
            rw [hrest, kept, keptOf, List.drop_drop]
            congr 1
            omega
        · next room =>
            rw [kept, keptOf]
            congr 1
            omega
    · next hrecords =>
        rw [hrecords, List.length_nil] at hlength
        have empty : finished.length = 0 := by omega
        rw [hrecords, List.length_eq_zero_iff.mp empty, List.drop_nil]
  simp only [append, evicted, keptOf, List.length_append, List.length_singleton]
  rw [List.drop_append_of_le_length (by omega)]

theorem foldl_append {limit : Nat} (positive : 0 < limit) (finished : List Record)
    (nodup : (finished.map (·.instanceId)).Nodup) :
    (finished.foldl append { limit := limit }).limit = limit ∧
      (finished.foldl append { limit := limit }).records = keptOf limit finished ∧
      (finished.foldl append { limit := limit }).Indexed := by
  induction finished using List.reverseRecOn with
  | nil => exact ⟨rfl, List.drop_nil.symm, List.nodup_nil, fun _ => rfl⟩
  | append_singleton finished record ih =>
      rw [List.map_append, List.nodup_append] at nodup
      obtain ⟨nodup, _, new⟩ := nodup
      obtain ⟨hlimit, kept, indexed⟩ := ih nodup
      rw [List.foldl_append, List.foldl_cons, List.foldl_nil]
      refine ⟨by rw [limit_append, hlimit], records_append hlimit positive kept record,
        indexed.append ?_⟩
      · intro other member
        rw [kept] at member
        exact new other.instanceId (List.mem_map.mpr ⟨other, List.mem_of_mem_drop member, rfl⟩)
          record.instanceId (List.mem_singleton_self _)

theorem reverse_keptOf (limit : Nat) (finished : List Record) :
    (keptOf limit finished).reverse = finished.reverse.take limit := by
  rw [keptOf, List.reverse_drop]
  rcases Nat.le_total limit finished.length with within | beyond
  · rw [Nat.sub_sub_self within]
  · rw [Nat.sub_eq_zero_of_le beyond, Nat.sub_zero, List.take_of_length_le (by simp),
      List.take_of_length_le (by simpa using beyond)]

variable {history : History}

theorem Indexed.find?_of_mem (indexed : history.Indexed) {record : Record}
    (member : record ∈ history.records) : history.find? record.instanceId = some record := by
  rw [indexed.find?_eq]
  cases found : history.records.find? (·.instanceId == record.instanceId) with
  | none => simpa using List.find?_eq_none.mp found record member
  | some other =>
      have same : other.instanceId = record.instanceId := by simpa using List.find?_some found
      have hother := List.mem_of_find?_eq_some found
      rw [List.inj_on_of_nodup_map indexed.nodup hother member same]

theorem Indexed.find?_of_notMem (indexed : history.Indexed) {id : String}
    (absent : id ∉ history.records.map (·.instanceId)) : history.find? id = none := by
  rw [indexed.find?_eq, List.find?_eq_none]
  intro record member same
  exact absent (List.mem_map.mpr ⟨record, member, beq_iff_eq.mp same⟩)

end History

structure Card where
  id : String
  graph : String
  startedAt : Instant
  status : Status
  endedAt : Option Instant
  terminalStep : Option String
  error : Option String

namespace Card

structure Agrees (card : Card) (record : Record) : Prop where
  id : record.instanceId = card.id
  graph : record.graph = card.graph
  status : record.status = card.status
  startedAt : record.startedAt = card.startedAt
  endedAt : some record.endedAt = card.endedAt
  terminalStep : record.terminalStep = card.terminalStep
  error : record.error = card.error

def close (card : Card) (now : Instant) (status : Status) (terminalStep error : Option String) :
    Card where
  id := card.id
  graph := card.graph
  startedAt := card.startedAt
  status := status
  endedAt := some now
  terminalStep := terminalStep
  error := error

end Card

namespace Instance

def card (inst : Instance) : Card where
  id := inst.id
  graph := inst.graph
  startedAt := inst.startedAt
  status := inst.status
  endedAt := inst.endedAt
  terminalStep := inst.terminalStep
  error := inst.error

theorem isActive_iff {inst : Instance} : inst.isActive = true ↔ inst.card.status = .running :=
  beq_iff_eq

theorem card_withData (inst : Instance) (data : Data) : (inst.withData data).card = inst.card := by
  unfold withData
  cases inst.parted <;> rfl

end Instance

namespace Orchestrator

def cards (orchestrator : Orchestrator) : List Card :=
  orchestrator.instances.map (·.card)

theorem ids_cards (orchestrator : Orchestrator) :
    orchestrator.cards.map (·.id) = orchestrator.instances.map (·.id) :=
  List.map_map ..

theorem Numbered.of_cards {before after : Orchestrator} (numbered : before.Numbered)
    (same : after.cards = before.cards) : after.Numbered := by
  have ids : after.instances.map (·.id) = before.instances.map (·.id) := by
    rw [← ids_cards, same, ids_cards]
  have length : after.instances.length = before.instances.length := by
    simpa using congrArg List.length ids
  unfold Numbered at *
  rw [ids, length, numbered]

theorem cards_put {orchestrator : Orchestrator} (numbered : orchestrator.Numbered)
    {inst after : Instance} (found : orchestrator.instance? inst.id = some inst)
    (same : after.card = inst.card) : (orchestrator.put after).cards = orchestrator.cards := by
  have hid : after.id = inst.id := congrArg Card.id same
  simp only [cards, put, List.map_map]
  apply List.map_congr_left
  intro other member
  simp only [Function.comp]
  split
  · next h =>
      have hother := (instance?_eq_some_iff numbered).mpr ⟨member, h.trans hid⟩
      rw [same, Option.some.inj (found.symm.trans hother)]
  · rfl

theorem cards_changeRun {orchestrator : Orchestrator} (numbered : orchestrator.Numbered)
    (id : String) (change : Run → Run) :
    (orchestrator.changeRun id change).cards = orchestrator.cards := by
  unfold changeRun
  split
  · rfl
  · next inst found =>
      have hid := id_of_instance? found
      subst hid
      exact cards_put numbered found rfl

theorem cards_openInstance (orchestrator : Orchestrator) (definition : Definition)
    (initial : Initial) :
    (orchestrator.openInstance definition initial).1.cards = orchestrator.cards ++
      [⟨orchestrator.nextId, definition.name, orchestrator.now, .running, none, none, none⟩] := by
  simp only [cards, openInstance, List.map_append, List.map_cons, List.map_nil]
  rfl

theorem cards_finalize {before after : Orchestrator} (numbered : before.Numbered) {id : String}
    {status : Status} {terminalStep error : Option String}
    (finalized : before.finalize? id status terminalStep error = some after) :
    ∃ inst, before.instance? id = some inst ∧ inst.isActive = true ∧
      after.cards = before.cards.map (fun card =>
        if card.id = id then card.close before.now status terminalStep error else card) ∧
      after.history = before.history.append
        ((inst.close before.now status terminalStep error).record before.now) := by
  obtain ⟨inst, isActive, rfl⟩ := finalize?_eq_some_iff.mp finalized
  obtain ⟨found, active⟩ := (active?_eq_some_iff numbered).mp isActive
  have hid := id_of_instance? found
  refine ⟨inst, found, active, ?_, rfl⟩
  simp only [cards, put, List.map_map]
  apply List.map_congr_left
  intro other member
  simp only [Function.comp]
  change (if other.id = inst.id then _ else other).card = if other.id = id then _ else other.card
  rw [hid]
  split
  · next h =>
      have hother := (instance?_eq_some_iff numbered).mpr ⟨member, h⟩
      rw [Option.some.inj (hother.symm.trans found)]
      rfl
  · rfl

/-- What can happen between two moments, with the ids of the instances that are ended meanwhile, in
the order of their ends. -/
inductive Finishes (before : Orchestrator) : List String → Orchestrator → Prop
  | refl : Finishes before [] before
  | quiet {ids : List String} {between after : Orchestrator} (earlier : Finishes before ids between)
      (cards : after.cards = between.cards) (history : after.history = between.history) :
      Finishes before ids after
  | opened {ids : List String} {between : Orchestrator} (earlier : Finishes before ids between)
      (definition : Definition) (initial : Initial) :
      Finishes before ids (between.openInstance definition initial).1
  | ended {ids : List String} {between after : Orchestrator} {id : String} {status : Status}
      {terminalStep error : Option String} (earlier : Finishes before ids between)
      (isTerminal : status ≠ .running)
      (finalized : between.finalize? id status terminalStep error = some after) :
      Finishes before (ids ++ [id]) after

namespace Finishes

variable {before after : Orchestrator} {ids : List String}

theorem trans {last : Orchestrator} {later : List String} (earlier : Finishes before ids after)
    (further : Finishes after later last) : Finishes before (ids ++ later) last := by
  induction further with
  | refl => simpa using earlier
  | quiet _ cards history ih => exact ih.quiet cards history
  | opened _ definition initial ih => exact ih.opened definition initial
  | ended _ isTerminal finalized ih =>
      rw [← List.append_assoc]
      exact ih.ended isTerminal finalized

theorem numbered (finishes : Finishes before ids after) (numbered : before.Numbered) :
    after.Numbered := by
  induction finishes with
  | refl => exact numbered
  | quiet _ cards _ ih => exact ih.of_cards cards
  | opened _ definition initial ih => exact ih.openInstance definition initial
  | ended _ _ finalized ih =>
      obtain ⟨inst, _, rfl⟩ := finalize?_eq_some_iff.mp finalized
      exact ih.put _

end Finishes

/-- Every instance is active or among those that have ended, which have been recorded one by one. -/
structure Stored (limit : Nat) (ended : List String) (orchestrator : Orchestrator) : Prop where
  nodup : ended.Nodup
  active_iff : ∀ card ∈ orchestrator.cards, card.status = .running ↔ card.id ∉ ended
  recorded : ∃ finished : List Record, finished.map (·.instanceId) = ended ∧
    orchestrator.history = finished.foldl History.append { limit := limit } ∧
    ∀ record ∈ finished, ∃ card ∈ orchestrator.cards, card.Agrees record

theorem Stored.mem_ids {limit : Nat} {ended : List String} {orchestrator : Orchestrator}
    (stored : orchestrator.Stored limit ended) {id : String} (member : id ∈ ended) :
    id ∈ orchestrator.instances.map (·.id) := by
  obtain ⟨finished, rfl, _, agree⟩ := stored.recorded
  obtain ⟨record, hrecord, rfl⟩ := List.mem_map.mp member
  obtain ⟨card, hcard, agrees⟩ := agree record hrecord
  rw [← ids_cards, agrees.id]
  exact List.mem_map.mpr ⟨card, hcard, rfl⟩

theorem Stored.openInstance {limit : Nat} {ended : List String} {orchestrator : Orchestrator}
    (stored : orchestrator.Stored limit ended) (numbered : orchestrator.Numbered)
    (definition : Definition) (initial : Initial) :
    (orchestrator.openInstance definition initial).1.Stored limit ended := by
  obtain ⟨finished, hids, history, agree⟩ := stored.recorded
  refine ⟨stored.nodup, ?_, finished, hids, history, ?_⟩
  · intro card member
    rw [cards_openInstance, List.mem_append] at member
    rcases member with member | member
    · exact stored.active_iff card member
    · rw [List.mem_singleton.mp member]
      have new := nextId_notMem numbered
      exact ⟨fun _ old => new (stored.mem_ids old), fun _ => rfl⟩
  · intro record member
    obtain ⟨card, hcard, agrees⟩ := agree record member
    exact ⟨card, by rw [cards_openInstance]; exact List.mem_append_left _ hcard, agrees⟩

theorem Stored.finalize {limit : Nat} {ended : List String} {before after : Orchestrator}
    {id : String} {status : Status} {terminalStep error : Option String}
    (stored : before.Stored limit ended) (numbered : before.Numbered)
    (isTerminal : status ≠ .running)
    (finalized : before.finalize? id status terminalStep error = some after) :
    after.Stored limit (ended ++ [id]) := by
  obtain ⟨inst, found, active, cards, appended⟩ := cards_finalize numbered finalized
  obtain ⟨finished, hids, history, agree⟩ := stored.recorded
  have hid := id_of_instance? found
  have member : inst.card ∈ before.cards :=
    List.mem_map.mpr ⟨inst, ((instance?_eq_some_iff numbered).mp found).1, rfl⟩
  have new : id ∉ ended := by
    have := (stored.active_iff inst.card member).mp (Instance.isActive_iff.mp active)
    exact hid ▸ this
  refine ⟨?_, ?_, finished ++ [(inst.close before.now status terminalStep error).record
    before.now], ?_, ?_, ?_⟩
  · exact List.nodup_append.mpr ⟨stored.nodup, List.nodup_singleton _,
      fun other hother _ hid same => new (List.mem_singleton.mp hid ▸ same ▸ hother)⟩
  · intro card hcard
    rw [cards] at hcard
    obtain ⟨old, hold, rfl⟩ := List.mem_map.mp hcard
    split
    · next h =>
        have : old.id ∈ ended ++ [id] := List.mem_append_right _ (by simp [h])
        exact ⟨fun running => absurd running isTerminal, fun absent => absurd this absent⟩
    · next h =>
        rw [stored.active_iff old hold, List.mem_append]
        simp [h]
  · rw [List.map_append, hids]
    exact congrArg _ (congrArg (fun id => [id]) hid)
  · rw [List.foldl_append, ← history, appended]
    rfl
  · intro record hrecord
    rw [cards]
    rcases List.mem_append.mp hrecord with hold | hnew
    · obtain ⟨card, hcard, agrees⟩ := agree record hold
      refine ⟨_, List.mem_map.mpr ⟨card, hcard, rfl⟩, ?_⟩
      rw [if_neg]
      · exact agrees
      · intro same
        apply new
        rw [← hids, ← same, ← agrees.id]
        exact List.mem_map.mpr ⟨record, hold, rfl⟩
    · refine ⟨_, List.mem_map.mpr ⟨inst.card, member, rfl⟩, ?_⟩
      have hid : inst.card.id = id := hid
      rw [List.mem_singleton.mp hnew, if_pos hid]
      exact ⟨rfl, rfl, rfl, rfl, rfl, rfl, rfl⟩

theorem Stored.finishes {limit : Nat} {ended ids : List String} {before after : Orchestrator}
    (stored : before.Stored limit ended) (numbered : before.Numbered)
    (finishes : Finishes before ids after) : after.Stored limit (ended ++ ids) := by
  induction finishes with
  | refl => simpa using stored
  | quiet _ cards history ih =>
      obtain ⟨nodup, active_iff, recorded⟩ := ih
      exact ⟨nodup, cards ▸ active_iff, cards ▸ history ▸ recorded⟩
  | opened earlier definition initial ih =>
      exact ih.openInstance (earlier.numbered numbered) definition initial
  | ended earlier isTerminal finalized ih =>
      rw [← List.append_assoc]
      exact ih.finalize (earlier.numbered numbered) isTerminal finalized

/-! ### What ends as something happens -/

def endedIds (orchestrator : Orchestrator) : List String :=
  (orchestrator.instances.filter (!·.isActive)).map (·.id)

/-- The ids of the instances that have ended between two moments, in the order in which they were
opened. -/
def endedSince (before after : Orchestrator) : List String :=
  after.endedIds.filter (!before.endedIds.contains ·)

theorem mem_endedIds_iff {orchestrator : Orchestrator} {limit : Nat} {ended : List String}
    (stored : orchestrator.Stored limit ended) {id : String} :
    id ∈ orchestrator.endedIds ↔ id ∈ ended := by
  have status_iff : ∀ inst ∈ orchestrator.instances, inst.isActive = true ↔ inst.id ∉ ended :=
    fun inst member =>
      Instance.isActive_iff.trans
        (stored.active_iff inst.card (List.mem_map.mpr ⟨inst, member, rfl⟩))
  simp only [endedIds, List.mem_map, List.mem_filter, Bool.not_eq_true']
  constructor
  · rintro ⟨inst, ⟨member, idle⟩, rfl⟩
    by_contra absent
    rw [(status_iff inst member).mpr absent] at idle
    contradiction
  · intro member
    obtain ⟨inst, hinst, rfl⟩ := List.mem_map.mp (stored.mem_ids member)
    refine ⟨inst, ⟨hinst, ?_⟩, rfl⟩
    by_contra active
    exact (status_iff inst hinst).mp (by simpa using active) member

theorem endedSince_eq_filter {limit : Nat} {ended ids : List String} {before after : Orchestrator}
    (stored : before.Stored limit ended) (later : after.Stored limit (ended ++ ids)) :
    before.endedSince after = (after.instances.map (·.id)).filter (ids.contains ·) := by
  change List.filter _ ((after.instances.filter (!·.isActive)).map (·.id)) = _
  rw [List.filter_map, List.filter_filter, List.filter_map]
  congr 1
  apply List.filter_congr
  intro inst member
  have now_iff : inst.isActive = true ↔ inst.id ∉ ended ++ ids :=
    Instance.isActive_iff.trans (later.active_iff inst.card (List.mem_map.mpr ⟨inst, member, rfl⟩))
  have then_iff := @mem_endedIds_iff _ _ _ stored inst.id
  have apart := (List.nodup_append.mp later.nodup).2.2
  rw [Bool.eq_iff_iff]
  simp only [Function.comp, Bool.and_eq_true, Bool.not_eq_true', List.contains_iff_mem,
    ← Bool.not_eq_true, then_iff, now_iff, List.mem_append, not_or, not_and, not_not]
  constructor
  · rintro ⟨absent, present⟩
    exact present absent
  · exact fun present => ⟨fun old => apart _ old _ present rfl, fun _ => present⟩

theorem endedSince_eq_of_length {limit : Nat} {ended ids : List String}
    {before after : Orchestrator} (numbered : after.Numbered) (stored : before.Stored limit ended)
    (later : after.Stored limit (ended ++ ids)) (few : ids.length ≤ 1) :
    before.endedSince after = ids := by
  rw [endedSince_eq_filter stored later]
  match ids, few with
  | [], _ => simp
  | [id], _ =>
      have member : id ∈ after.instances.map (·.id) := later.mem_ids (by simp)
      have once := List.count_eq_one_of_mem numbered.nodup member
      simp only [List.contains_cons, List.contains_nil, Bool.or_false, List.filter_beq, once,
        List.replicate_one]

/-- Instances that end together do so in the order in which they were opened. -/
theorem endedSince_eq_of_active {limit : Nat} {ended : List String} {before after : Orchestrator}
    (numbered : before.Numbered) (stored : before.Stored limit ended)
    (later : after.Stored limit (ended ++ before.active.map (·.id)))
    (ids : after.instances.map (·.id) = before.instances.map (·.id)) :
    before.endedSince after = before.active.map (·.id) := by
  rw [endedSince_eq_filter stored later, ids, List.filter_map, active]
  congr 1
  apply List.filter_congr
  intro inst member
  rw [Bool.eq_iff_iff]
  simp only [Function.comp, List.contains_iff_mem, List.mem_map, List.mem_filter]
  constructor
  · rintro ⟨other, ⟨hother, isActive⟩, same⟩
    exact List.inj_on_of_nodup_map numbered.nodup hother member same ▸ isActive
  · exact fun isActive => ⟨inst, ⟨member, isActive⟩, rfl⟩

def EndsOne (before after : Orchestrator) : Prop :=
  ∃ ids, ids.length ≤ 1 ∧ Finishes before ids after

theorem Finishes.endsOne {before after : Orchestrator} (finishes : Finishes before [] after) :
    before.EndsOne after :=
  ⟨[], Nat.zero_le _, finishes⟩

theorem EndsOne.quiet {before between after : Orchestrator} (ends : before.EndsOne between)
    (cards : after.cards = between.cards) (history : after.history = between.history) :
    before.EndsOne after := by
  obtain ⟨ids, few, finishes⟩ := ends
  exact ⟨ids, few, finishes.quiet cards history⟩

theorem history_changeRun (orchestrator : Orchestrator) (id : String) (change : Run → Run) :
    (orchestrator.changeRun id change).history = orchestrator.history := by
  unfold changeRun
  split <;> rfl

theorem EndsOne.changeRun {before between : Orchestrator} (numbered : before.Numbered)
    (ends : before.EndsOne between) (id : String) (change : Run → Run) :
    before.EndsOne (between.changeRun id change) := by
  obtain ⟨ids, few, finishes⟩ := ends
  exact ⟨ids, few, finishes.quiet (cards_changeRun (finishes.numbered numbered) id change)
    (history_changeRun between id change)⟩

theorem endsOne_finalize (orchestrator : Orchestrator) (id : String) {status : Status}
    {terminalStep error : Option String} (isTerminal : status ≠ .running) :
    orchestrator.EndsOne
      ((orchestrator.finalize? id status terminalStep error).getD orchestrator) := by
  cases finalized : orchestrator.finalize? id status terminalStep error with
  | none => exact Finishes.refl.endsOne
  | some after => exact ⟨[id], Nat.le_refl _, Finishes.refl.ended isTerminal finalized⟩

theorem endsOne_cancel (orchestrator : Orchestrator) (id : String) :
    orchestrator.EndsOne (orchestrator.cancel id).1 := by
  rw [cancel_fst]
  exact endsOne_finalize orchestrator id (by simp)

theorem endsOne_perform (orchestrator : Orchestrator) (deed : Deed) :
    orchestrator.EndsOne (orchestrator.perform deed).1 := by
  cases deed with
  | cancel id => exact endsOne_cancel orchestrator id
  | moveClock => exact Finishes.refl.endsOne.quiet rfl rfl
  | _ => exact Finishes.refl.endsOne

theorem Replies.endsOne {before after : Orchestrator} {stopped : Bool} {effect : Effect}
    {reply : effect.Reply} (replies : before.Replies stopped effect after reply) :
    before.EndsOne after := by
  cases replies with
  | act deed => exact endsOne_perform before deed
  | consult => exact Finishes.refl.endsOne.quiet rfl rfl
  | _ => exact Finishes.refl.endsOne

theorem endsOne_conclude (orchestrator : Orchestrator) (id : String) (ending : Ending) :
    orchestrator.EndsOne (orchestrator.conclude id ending).1 := by
  unfold conclude
  split
  · exact endsOne_finalize _ _ (by simp)
  · exact endsOne_finalize _ _ (by simp)
  · exact endsOne_finalize _ _ (by simp)
  · split
    · next after finalized =>
        exact ⟨[id], Nat.le_refl _, Finishes.refl.ended (by simp) finalized⟩
    · split <;> exact Finishes.refl.endsOne

theorem endsOne_concluded {orchestrator : Orchestrator} (numbered : orchestrator.Numbered)
    {inst : Instance} (found : orchestrator.instance? inst.id = some inst) (last : Run)
    (ending : Ending) : orchestrator.EndsOne (orchestrator.concluded inst last ending).1 := by
  have stopped : Finishes orchestrator [] (orchestrator.put { inst with run := last }) :=
    Finishes.refl.quiet (cards_put numbered found rfl) rfl
  obtain ⟨ids, few, finishes⟩ := endsOne_conclude (orchestrator.put { inst with run := last })
    inst.id ending
  exact ⟨ids, few, stopped.trans finishes⟩

theorem ids_cancelAll (ids : List String) (orchestrator : Orchestrator) :
    (ids.foldl (fun orchestrator id => (orchestrator.cancel id).1) orchestrator).instances.map
      (·.id) = orchestrator.instances.map (·.id) := by
  induction ids generalizing orchestrator with
  | nil => rfl
  | cons id rest ih =>
      rw [List.foldl_cons, ih, cancel_fst]
      cases finalized : orchestrator.finalize? id .cancelled none none with
      | none => rfl
      | some after =>
          obtain ⟨inst, _, rfl⟩ := finalize?_eq_some_iff.mp finalized
          exact ids_put _ _

theorem finishes_cancelAll {ids : List String} {orchestrator : Orchestrator}
    (numbered : orchestrator.Numbered) (nodup : ids.Nodup)
    (active : ∀ id ∈ ids, ∃ inst, orchestrator.active? id = some inst) :
    Finishes orchestrator ids
      (ids.foldl (fun orchestrator id => (orchestrator.cancel id).1) orchestrator) := by
  induction ids generalizing orchestrator with
  | nil => exact .refl
  | cons id rest ih =>
      obtain ⟨new, nodup⟩ := List.nodup_cons.mp nodup
      obtain ⟨inst, isActive⟩ := active id List.mem_cons_self
      have finalized : orchestrator.finalize? id .cancelled none none =
          some (orchestrator.cancel id).1 := by
        rw [cancel_fst, finalize?, isActive]
        rfl
      have first : Finishes orchestrator [id] (orchestrator.cancel id).1 :=
        Finishes.refl.ended (by simp) finalized
      have numberedAfter := first.numbered numbered
      refine first.trans (ih numberedAfter nodup fun other member => ?_)
      -- The others stay active.
      obtain ⟨still, hstill⟩ := active other (List.mem_cons_of_mem id member)
      obtain ⟨found, live⟩ := (active?_eq_some_iff numbered).mp hstill
      obtain ⟨_, hinst, heq⟩ := finalize?_eq_some_iff.mp finalized
      cases isActive.symm.trans hinst
      have hid := (active?_isActive isActive).1
      refine ⟨still, (active?_eq_some_iff numberedAfter).mpr ⟨?_, live⟩⟩
      rw [heq]
      change (orchestrator.put _).instance? other = some still
      rw [instance?_put, if_neg]
      · exact found
      · intro same
        exact new ((same.trans hid) ▸ member)

end Orchestrator

namespace Workplace

open Orchestrator

def ShutsDown (place : Workplace) : Prop :=
  ∃ id task, place.running = some id ∧ place.task? id = some task ∧ task.activity = .shutdown

theorem Happens.finishes {place next : Workplace} (sound : place.Sound)
    (happens : Happens place next) :
    place.orchestrator.EndsOne next.orchestrator ∨
      (place.ShutsDown ∧ Finishes place.orchestrator (place.orchestrator.active.map (·.id))
        next.orchestrator ∧
        next.orchestrator.instances.map (·.id) = place.orchestrator.instances.map (·.id)) := by
  have numbered := sound.numbered
  have same : place.orchestrator.EndsOne place.orchestrator := Finishes.refl.endsOne
  have opened (definition initial) : place.orchestrator.EndsOne
      (place.orchestrator.openInstance definition initial).1 :=
    (Finishes.refl.opened definition initial).endsOne
  cases happens with
  | ticked _ ticks =>
      cases ticks with
      | aside aside => exact .inl (aside.orchestrator ▸ same)
      | shutdown running found isShutdown orchestrator =>
          refine .inr ⟨⟨_, _, running, found, isShutdown⟩, ?_, ?_⟩
          · rw [orchestrator]
            refine finishes_cancelAll numbered ?_ fun id member => ?_
            · exact numbered.nodup.sublist (List.filter_sublist.map _)
            · obtain ⟨inst, isActive, rfl⟩ := List.mem_map.mp member
              obtain ⟨member, active⟩ := List.mem_filter.mp isActive
              have found := (instance?_eq_some_iff numbered).mpr ⟨member, rfl⟩
              exact ⟨inst, (active?_eq_some_iff numbered).mpr ⟨found, active⟩⟩
          · rw [orchestrator]
            exact ids_cancelAll _ _
      | dismissed _ _ _ orchestrator => exact .inl (orchestrator ▸ same)
      | refused _ _ orchestrator => exact .inl (orchestrator ▸ same)
      | begun _ _ orchestrator => exact .inl (orchestrator ▸ opened _ _)
      | moved _ found _ orchestrator =>
          exact .inl (orchestrator ▸ same.quiet (cards_put numbered found rfl) rfl)
      | answered _ _ _ _ replies orchestrator =>
          exact .inl (orchestrator ▸ replies.endsOne.changeRun numbered _ _)
      | nested _ _ _ _ orchestrator => exact .inl (orchestrator ▸ opened _ _)
      | ended _ _ found _ orchestrator =>
          exact .inl (orchestrator ▸ endsOne_concluded numbered found _ _)
      | returned _ _ found _ orchestrator =>
          exact .inl (orchestrator ▸ (endsOne_concluded numbered found _ _).changeRun numbered _ _)
  | beside beside =>
      refine .inl (same.quiet ?_ beside.history)
      rw [Orchestrator.cards, beside.instances]
      rfl
  | cancelled id orchestrator => exact .inl (orchestrator ▸ endsOne_cancel _ id)
  | touched found data orchestrator =>
      exact .inl (orchestrator ▸
        same.quiet (cards_put numbered found (Instance.card_withData _ data)) rfl)
  | called _ _ orchestrator => exact .inl (orchestrator ▸ same)
  | submitted _ orchestrator => exact .inl (orchestrator ▸ opened _ _)

theorem Happens.stored {limit : Nat} {ended : List String} {place next : Workplace}
    (sound : place.Sound) (stored : place.orchestrator.Stored limit ended)
    (happens : Happens place next) :
    next.orchestrator.Stored limit
        (ended ++ place.orchestrator.endedSince next.orchestrator) ∧
      ((place.orchestrator.endedSince next.orchestrator).length ≤ 1 ∨ place.ShutsDown) := by
  have numbered := sound.numbered
  rcases happens.finishes sound with ⟨ids, few, finishes⟩ | ⟨shutsDown, finishes, ids⟩
  · have later := stored.finishes numbered finishes
    rw [endedSince_eq_of_length (finishes.numbered numbered) stored later few]
    exact ⟨later, .inl few⟩
  · have later := stored.finishes numbered finishes
    rw [endedSince_eq_of_active numbered stored later ids]
    exact ⟨later, .inr shutsDown⟩

/-- The instances that have ended so far, in the order of their ends. -/
inductive Finishing (first : Workplace) : List String → Workplace → Prop
  | start : Finishing first [] first
  | next {ended : List String} {place next : Workplace} (before : Finishing first ended place)
      (happening : Next place next) :
      Finishing first (ended ++ place.orchestrator.endedSince next.orchestrator) next

theorem Finishing.later {first place : Workplace} {ended : List String}
    (finishing : Finishing first ended place) : Later first place := by
  induction finishing with
  | start => exact .refl
  | next _ happening ih => exact ih.tail happening

theorem Later.exists_finishing {first place : Workplace} (later : Later first place) :
    ∃ ended, Finishing first ended place := by
  induction later with
  | refl => exact ⟨[], .start⟩
  | tail _ happening ih =>
      obtain ⟨ended, finishing⟩ := ih
      exact ⟨_, finishing.next happening⟩

theorem IsNew.stored {limit : Int} {first : Workplace} (isNew : first.IsNew)
    (created : History.create limit = .ok first.orchestrator.history) :
    first.orchestrator.Stored limit.toNat [] := by
  have history : first.orchestrator.history = { limit := limit.toNat } := by
    unfold History.create at created
    split at created
    · cases created
    · exact (Except.ok.inj created).symm
  refine ⟨List.nodup_nil, ?_, [], rfl, history, ?_⟩
  · simp [Orchestrator.cards, isNew.instances]
  · simp

theorem Finishing.stored {limit : Int} {first place : Workplace} {ended : List String}
    (isNew : first.IsNew) (created : History.create limit = .ok first.orchestrator.history)
    (finishing : Finishing first ended place) :
    place.orchestrator.Stored limit.toNat ended := by
  induction finishing with
  | start => exact isNew.stored created
  | next before happening ih =>
      have reachable : Reachable _ := ⟨first, isNew, before.later⟩
      exact ((happening.happens reachable.sound reachable.inLine).stored reachable.sound ih).1

end Workplace

namespace Orchestrator

/-- All that the orchestrator keeps of its instances is in step, where those of some ids have ended
one after another. -/
structure InStep (limit : Nat) (ended : List String) (orchestrator : Orchestrator) : Prop where
  ids : (orchestrator.instances.map (·.id)).Nodup
  nodup : ended.Nodup
  isActive_iff : ∀ inst ∈ orchestrator.instances, inst.isActive = true ↔ inst.id ∉ ended
  recorded : ∃ finished : List Record, finished.map (·.instanceId) = ended ∧
    orchestrator.history = finished.foldl History.append { limit := limit } ∧
    (∀ record ∈ finished, ∃ inst ∈ orchestrator.instances, inst.card.Agrees record) ∧
    orchestrator.history.records = finished.drop (finished.length - limit) ∧
    orchestrator.recent none = finished.reverse.take limit ∧
    ∀ count, orchestrator.recent (some count) = (finished.reverse.take limit).take count.toNat
  disjoint : ∀ inst ∈ orchestrator.active,
    inst.id ∉ orchestrator.history.records.map (·.instanceId) ∧
      orchestrator.history.contains inst.id = false
  find_active : ∀ inst ∈ orchestrator.active,
    orchestrator.find? inst.id = some (.active (inst.summary orchestrator.now)) ∧
      (inst.summary orchestrator.now).status = .running
  find_kept : ∀ record ∈ orchestrator.history.records,
    orchestrator.find? record.instanceId = some (.ended record)
  find_none : ∀ id, id ∉ orchestrator.active.map (·.id) →
    id ∉ orchestrator.history.records.map (·.instanceId) → orchestrator.find? id = none

theorem active?_of_mem {orchestrator : Orchestrator} (numbered : orchestrator.Numbered)
    {inst : Instance} (isActive : inst ∈ orchestrator.active) :
    orchestrator.active? inst.id = some inst := by
  obtain ⟨member, active⟩ := List.mem_filter.mp isActive
  exact (active?_eq_some_iff numbered).mpr
    ⟨(instance?_eq_some_iff numbered).mpr ⟨member, rfl⟩, active⟩

theorem active?_of_notMem {orchestrator : Orchestrator} {id : String}
    (idle : id ∉ orchestrator.active.map (·.id)) : orchestrator.active? id = none := by
  rw [active?, List.find?_eq_none]
  intro inst isActive same
  exact idle (List.mem_map.mpr ⟨inst, isActive, beq_iff_eq.mp same⟩)

theorem Stored.inStep {limit : Nat} {ended : List String} {orchestrator : Orchestrator}
    (positive : 0 < limit) (numbered : orchestrator.Numbered)
    (stored : orchestrator.Stored limit ended) : orchestrator.InStep limit ended := by
  obtain ⟨finished, hids, history, agree⟩ := stored.recorded
  obtain ⟨-, kept, indexed⟩ := History.foldl_append positive finished (hids ▸ stored.nodup)
  rw [← history] at kept indexed
  have isActive_iff : ∀ inst ∈ orchestrator.instances, inst.isActive = true ↔ inst.id ∉ ended :=
    fun inst member =>
      Instance.isActive_iff.trans
        (stored.active_iff inst.card (List.mem_map.mpr ⟨inst, member, rfl⟩))
  have newest := History.reverse_keptOf limit finished
  -- What is kept has ended.
  have hasEnded : ∀ record ∈ orchestrator.history.records, record.instanceId ∈ ended := by
    intro record member
    rw [kept] at member
    exact hids ▸ List.mem_map.mpr ⟨record, List.mem_of_mem_drop member, rfl⟩
  have disjoint : ∀ inst ∈ orchestrator.active,
      inst.id ∉ orchestrator.history.records.map (·.instanceId) := by
    intro inst isActive present
    obtain ⟨member, active⟩ := List.mem_filter.mp isActive
    obtain ⟨record, hrecord, same⟩ := List.mem_map.mp present
    exact (isActive_iff inst member).mp active (same ▸ hasEnded record hrecord)
  exact {
    ids := numbered.nodup
    nodup := stored.nodup
    isActive_iff := isActive_iff
    recorded := by
      refine ⟨finished, hids, history, ?_, kept, (congrArg List.reverse kept).trans newest,
        fun count => ?_⟩
      · intro record member
        obtain ⟨card, hcard, agrees⟩ := agree record member
        obtain ⟨inst, hinst, rfl⟩ := List.mem_map.mp hcard
        exact ⟨inst, hinst, agrees⟩
      · rw [recent, History.recent, kept, newest]
    disjoint := by
      intro inst isActive
      refine ⟨disjoint inst isActive, ?_⟩
      rw [History.contains, indexed.find?_of_notMem (disjoint inst isActive)]
      rfl
    find_active := by
      intro inst isActive
      have active := (List.mem_filter.mp isActive).2
      refine ⟨?_, Instance.isActive_iff.mp active⟩
      rw [find?, active?_of_mem numbered isActive]
    find_kept := by
      intro record member
      have idle : record.instanceId ∉ orchestrator.active.map (·.id) := by
        intro present
        obtain ⟨inst, isActive, same⟩ := List.mem_map.mp present
        exact disjoint inst isActive (List.mem_map.mpr ⟨record, member, same.symm⟩)
      rw [find?, active?_of_notMem idle, indexed.find?_of_mem member]
      rfl
    find_none := by
      intro id idle absent
      rw [find?, active?_of_notMem idle, indexed.find?_of_notMem absent]
      rfl }

end Orchestrator

namespace Workplace

/-- At any time it is settled which instances have ended and in which order; they have been recorded
in that order, one by one, and everything that the orchestrator tells of any id agrees with it. More
than one can end at once only in a shutdown. -/
theorem Later.store_in_step {limit : Int} {first place : Workplace} (isNew : first.IsNew)
    (created : History.create limit = .ok first.orchestrator.history) (later : Later first place) :
    (∃ ended, Finishing first ended place) ∧
      (∀ ended, Finishing first ended place → place.orchestrator.InStep limit.toNat ended) ∧
      ∀ next, Next place next →
        (place.orchestrator.endedSince next.orchestrator).length ≤ 1 ∨ place.ShutsDown := by
  have reachable : place.Reachable := ⟨first, isNew, later⟩
  have sound := reachable.sound
  have positive : 0 < limit.toNat := by
    unfold History.create at created
    split at created
    · cases created
    · omega
  have stored : ∀ ended, Finishing first ended place →
      place.orchestrator.Stored limit.toNat ended :=
    fun ended finishing => finishing.stored isNew created
  refine ⟨later.exists_finishing, ?_, ?_⟩
  · exact fun ended finishing => (stored ended finishing).inStep positive sound.numbered
  · intro next happening
    obtain ⟨ended, finishing⟩ := later.exists_finishing
    exact ((happening.happens sound reachable.inLine).stored sound (stored ended finishing)).2

def crowded : Workplace :=
  settle 20 (((gated.spawn (.start "gated" (.state {})) []).1.spawn
    (.start "gated" (.state {})) []).1.spawn (.start "gated" (.state {})) []).1

/-- The same, once the first and the last of them have been cancelled. -/
def thinned : Workplace :=
  let left := crowded.withOrchestrator (crowded.orchestrator.cancel "i1").1
  left.withOrchestrator (left.orchestrator.cancel "i3").1

theorem Later.store_in_step_thinned :
    ∃ ended, gated.IsNew ∧ History.create 1 = .ok gated.orchestrator.history ∧
      Later gated thinned ∧ Finishing gated ended thinned ∧ "i1" ∈ ended ∧ "i2" ∉ ended ∧
      thinned.orchestrator.find? "i1" = none ∧
      (∃ summary, thinned.orchestrator.find? "i2" = some (.active summary)) ∧
      ∃ record, thinned.orchestrator.find? "i3" = some (.ended record) ∧
        thinned.orchestrator.history.records = [record] := by
  have started : Later gated _ := .single (.start "gated" (.state {}))
  have started := started.tail (.start "gated" (.state {}))
  have started := started.tail (.start "gated" (.state {}))
  have waiting : Later gated crowded := started.trans (later_settle 20 _)
  have later : Later gated thinned := (waiting.tail (.cancel "i1")).tail (.cancel "i3")
  have created : History.create 1 = .ok gated.orchestrator.history := rfl
  obtain ⟨⟨ended, finishing⟩, inStep, -⟩ := Later.store_in_step isNew_gated created later
  have inStep := inStep ended finishing
  have idle : "i1" ∉ thinned.orchestrator.active.map (·.id) := by decide +kernel
  have opened : "i1" ∈ thinned.orchestrator.instances.map (·.id) := by decide +kernel
  have waits : "i2" ∈ thinned.orchestrator.active.map (·.id) := by decide +kernel
  have kept : thinned.orchestrator.history.records.map (·.instanceId) = ["i3"] := by decide +kernel
  obtain ⟨first, hfirst, hid⟩ := List.mem_map.mp opened
  obtain ⟨second, isActive, hsecond⟩ := List.mem_map.mp waits
  obtain ⟨record, hrecord, hthird⟩ := List.map_eq_singleton_iff.mp kept
  refine ⟨ended, isNew_gated, created, later, finishing, ?_, ?_, ?_, ?_, record, ?_, hrecord⟩
  · by_contra absent
    have active := (inStep.isActive_iff first hfirst).mpr (hid.symm ▸ absent)
    exact idle (hid ▸ List.mem_map.mpr ⟨first, List.mem_filter.mpr ⟨hfirst, active⟩, rfl⟩)
  · obtain ⟨member, active⟩ := List.mem_filter.mp isActive
    exact hsecond ▸ (inStep.isActive_iff second member).mp active
  · exact inStep.find_none "i1" idle (by simp [kept])
  · exact ⟨_, hsecond ▸ (inStep.find_active second isActive).1⟩
  · exact hthird ▸ inStep.find_kept record (by simp [hrecord])

end Workplace

end StepGraph
