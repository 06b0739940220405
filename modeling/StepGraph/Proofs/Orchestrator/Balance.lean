import Mathlib.Algebra.BigOperators.Group.List.Basic
import Mathlib.Algebra.Ring.Nat
import StepGraph.Proofs.Orchestrator.Reach

namespace StepGraph

namespace Tally

def count (tally : Tally) : Status → Nat
  | .running => 0
  | .completed => tally.completed
  | .failed => tally.failed
  | .cancelled => tally.cancelled

theorem count_add (tally : Tally) (record : Record) {status : Status}
    (isTerminal : status ≠ .running) :
    (tally.add record).count status =
      tally.count status + if record.status == status then 1 else 0 := by
  unfold add
  cases record.status <;> cases status <;> simp [count] at isTerminal ⊢

end Tally

namespace History

theorem perGraph_append (history : History) (record : Record) :
    (history.append record).perGraph =
      updateKey record.graph {} (·.add record) history.perGraph := by
  unfold append evict
  cases history.records with
  | nil => rfl
  | cons oldest rest =>
      dsimp only
      split <;> rfl

theorem mem_records_append {history : History} {record other : Record}
    (member : other ∈ (history.append record).records) :
    other ∈ history.records ∨ other = record := by
  unfold append evict at member
  cases hrecords : history.records with
  | nil =>
      simp only [hrecords, List.mem_append, List.mem_singleton] at member
      exact member
  | cons oldest rest =>
      simp only [hrecords] at member
      split at member
      · rcases List.mem_append.mp member with hold | hnew
        · exact .inl (List.mem_cons_of_mem oldest hold)
        · exact .inr (List.mem_singleton.mp hnew)
      · rcases List.mem_append.mp member with hold | hnew
        · exact .inl (hrecords ▸ hold)
        · exact .inr (List.mem_singleton.mp hnew)

def tallyOf (history : History) (graph : String) : Tally :=
  (history.perGraph.lookup graph).getD {}

theorem tallyOf_append (history : History) (record : Record) (graph : String) :
    (history.append record).tallyOf graph =
      if graph = record.graph then (history.tallyOf graph).add record
      else history.tallyOf graph := by
  unfold tallyOf
  rw [perGraph_append, lookup_updateKey]
  by_cases h : graph = record.graph
  · rw [if_pos h, if_pos h, h, Option.getD_some]
  · rw [if_neg h, if_neg h]

theorem pairwise_insertName (name : String) {names : List String}
    (sorted : names.Pairwise (· < ·)) : (insertName name names).Pairwise (· < ·) := by
  induction names with
  | nil => exact List.pairwise_singleton _ _
  | cons first rest ih =>
      obtain ⟨hfirst, hrest⟩ := List.pairwise_cons.mp sorted
      unfold insertName
      split
      · next before =>
          refine List.pairwise_cons.mpr ⟨?_, sorted⟩
          intro other member
          rcases List.mem_cons.mp member with rfl | member
          · exact before
          · exact String.lt_trans before (hfirst other member)
      · next notBefore =>
          split
          · exact sorted
          · next distinct =>
              refine List.pairwise_cons.mpr ⟨?_, ih hrest⟩
              intro other member
              rcases (mem_insertName name other rest).mp member with rfl | member
              · rcases Std.lt_trichotomy other first with h | h | h
                · exact absurd h notBefore
                · exact absurd h distinct
                · exact h
              · exact hfirst other member

theorem nodup_sortNames (names : List String) : (sortNames names).Nodup := by
  have sorted : (sortNames names).Pairwise (· < ·) := by
    induction names with
    | nil => exact List.Pairwise.nil
    | cons name rest ih => exact pairwise_insertName name ih
  refine sorted.imp ?_
  rintro first _ before rfl
  exact String.lt_irrefl first before

end History

namespace Orchestrator

/-- The tallies of the history agree with the instances that have ended, and its records are of such
instances. -/
structure Balanced (orchestrator : Orchestrator) : Prop where
  overall : ∀ status, status ≠ .running →
    orchestrator.history.overall.count status =
      orchestrator.instances.countP (·.status == status)
  perGraph : ∀ graph status, status ≠ .running →
    (orchestrator.history.tallyOf graph).count status =
      orchestrator.instances.countP fun inst => inst.status == status && inst.graph == graph
  recorded : ∀ record ∈ orchestrator.history.records,
    ∃ inst, orchestrator.instance? record.instanceId = some inst ∧ inst.isActive = false

private theorem countP_replace {instances : List Instance}
    (nodup : (instances.map (·.id)).Nodup) {inst after : Instance} (member : inst ∈ instances)
    (hid : after.id = inst.id) (p : Instance → Bool) :
    (instances.map fun other => if other.id = after.id then after else other).countP p +
        (if p inst then 1 else 0) =
      instances.countP p + if p after then 1 else 0 := by
  induction instances with
  | nil => contradiction
  | cons first rest ih =>
      obtain ⟨fresh, nodup⟩ := List.nodup_cons.mp nodup
      rcases List.mem_cons.mp member with rfl | member
      · have same :
            (rest.map fun other => if other.id = after.id then after else other) = rest := by
          refine (List.map_congr_left fun other hother => if_neg fun h => ?_).trans (List.map_id _)
          exact fresh (List.mem_map.mpr ⟨other, hother, h.trans hid⟩)
        rw [List.map_cons, if_pos hid.symm, same, List.countP_cons, List.countP_cons]
        omega
      · have distinct : first.id ≠ after.id := by
          intro h
          exact fresh (List.mem_map.mpr ⟨inst, member, (h.trans hid).symm⟩)
        rw [List.map_cons, if_neg distinct, List.countP_cons, List.countP_cons]
        have := ih nodup member
        omega

theorem countP_put {orchestrator : Orchestrator} (numbered : orchestrator.Numbered)
    {inst after : Instance} (found : orchestrator.instance? inst.id = some inst)
    (hid : after.id = inst.id) (p : Instance → Bool) :
    (orchestrator.put after).instances.countP p + (if p inst then 1 else 0) =
      orchestrator.instances.countP p + if p after then 1 else 0 :=
  countP_replace numbered.nodup ((instance?_eq_some_iff numbered).mp found).1 hid p

/-- An end moves an instance from the running ones to one tally, and leaves a record. -/
private theorem Balanced.ended {orchestrator : Orchestrator} (numbered : orchestrator.Numbered)
    (balanced : orchestrator.Balanced) {inst closed : Instance}
    (found : orchestrator.instance? inst.id = some inst) (running : inst.status = .running)
    (isTerminal : closed.status ≠ .running) (hid : closed.id = inst.id)
    (hgraph : closed.graph = inst.graph)
    (kept : ∀ record ∈ orchestrator.history.records, ∃ other,
      (orchestrator.put closed).instance? record.instanceId = some other ∧
        other.isActive = false) :
    Balanced { orchestrator.put closed with
      history := orchestrator.history.append (closed.record orchestrator.now) } := by
  have moved := countP_put numbered found hid
  constructor
  · intro status hstatus
    have hcount := moved fun inst => inst.status == status
    simp only [running, beq_false_of_ne hstatus.symm, Bool.false_eq_true, if_false,
      Nat.add_zero] at hcount
    rw [History.overall_append, Tally.count_add _ _ hstatus, balanced.overall status hstatus]
    exact hcount.symm
  · intro graph status hstatus
    have hcount := moved fun inst => inst.status == status && inst.graph == graph
    simp only [running, hgraph, beq_false_of_ne hstatus.symm, Bool.false_and, Bool.false_eq_true,
      if_false, Nat.add_zero] at hcount
    have hrecord : (closed.record orchestrator.now).graph = inst.graph := hgraph
    rw [History.tallyOf_append, hrecord]
    by_cases h : graph = inst.graph
    · subst h
      simp only [beq_self_eq_true, Bool.and_true] at hcount
      rw [if_pos rfl, Tally.count_add _ _ hstatus, balanced.perGraph _ status hstatus]
      exact hcount.symm
    · simp only [beq_false_of_ne (Ne.symm h), Bool.and_false, Bool.false_eq_true, if_false,
        Nat.add_zero] at hcount
      rw [if_neg h, balanced.perGraph graph status hstatus]
      exact hcount.symm
  · intro record member
    rcases History.mem_records_append member with hold | rfl
    · exact kept record hold
    · have before : orchestrator.instance? closed.id = some inst := by
        rw [hid]
        exact found
      refine ⟨closed, instance?_put_of_some before rfl, ?_⟩
      simpa [Instance.isActive] using isTerminal

theorem Balanced.change {before after : Orchestrator} (numbered : before.Numbered)
    (balanced : before.Balanced) (change : Change before after) : after.Balanced := by
  have leads := change.leadsTo numbered
  have kept : ∀ record ∈ before.history.records,
      ∃ inst, after.instance? record.instanceId = some inst ∧ inst.isActive = false := by
    intro record member
    obtain ⟨inst, found, ended⟩ := balanced.recorded record member
    obtain ⟨later, hlater, leads⟩ := leads.instances _ inst found
    exact ⟨later, hlater, leads.isActive ended⟩
  cases change with
  | aside instances history =>
      constructor
      · rw [instances, history]
        exact balanced.overall
      · rw [instances, history]
        exact balanced.perGraph
      · rw [history]
        exact kept
  | @driven inst after found continues =>
      have same : ∀ p : Instance → Bool, p after = p inst →
          (before.put after).instances.countP p = before.instances.countP p := by
        intro p h
        have hcount := countP_put numbered found continues.id p
        rw [h] at hcount
        omega
      constructor
      · intro status isTerminal
        rw [same _ (by rw [continues.status])]
        exact balanced.overall status isTerminal
      · intro graph status isTerminal
        rw [same _ (by rw [continues.status, continues.graph])]
        exact balanced.perGraph graph status isTerminal
      · exact kept
  | opened definition initial =>
      have fresh : ∀ status, status ≠ .running → (Status.running == status) = false :=
        fun status h => beq_false_of_ne h.symm
      constructor
      · intro status isTerminal
        simp only [openInstance, List.countP_append, List.countP_singleton, fresh status isTerminal]
        exact balanced.overall status isTerminal
      · intro graph status isTerminal
        simp only [openInstance, List.countP_append, List.countP_singleton, fresh status isTerminal,
          Bool.false_and]
        exact balanced.perGraph graph status isTerminal
      · exact kept
  | ended isTerminal finalized =>
      obtain ⟨inst, isActive, rfl⟩ := finalize?_eq_some_iff.mp finalized
      obtain ⟨found, active⟩ := (active?_eq_some_iff numbered).mp isActive
      have running : inst.status = .running := by simpa [Instance.isActive] using active
      have found : before.instance? inst.id = some inst := (id_of_instance? found).symm ▸ found
      exact balanced.ended numbered found running isTerminal rfl rfl kept

theorem Balanced.changes {before after : Orchestrator} (numbered : before.Numbered)
    (balanced : before.Balanced) (changes : Changes before after) : after.Balanced := by
  induction changes with
  | refl => exact balanced
  | tail earlier change ih => exact ih.change (Changes.numbered earlier numbered) change

end Orchestrator

end StepGraph
