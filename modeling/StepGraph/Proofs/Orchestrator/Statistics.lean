import StepGraph.Proofs.Orchestrator.Balance

namespace StepGraph

namespace GraphStatistics

structure Counts (statistics : GraphStatistics) (instances : List Instance) : Prop where
  total : statistics.total = instances.length
  running : statistics.running = instances.countP (·.status == .running)
  completed : statistics.completed = instances.countP (·.status == .completed)
  failed : statistics.failed = instances.countP (·.status == .failed)
  cancelled : statistics.cancelled = instances.countP (·.status == .cancelled)

def lasting : List (GraphStatistics → Nat) :=
  [total, completed, failed, cancelled]

/-- A count that never goes down is that of all instances or of those that ended in one way. -/
theorem eq_of_mem_lasting {number : GraphStatistics → Nat} (member : number ∈ lasting) :
    (∀ statistics instances, Counts statistics instances →
      number statistics = instances.length) ∨
    ∃ status, status ≠ .running ∧ ∀ statistics instances, Counts statistics instances →
      number statistics = instances.countP (·.status == status) := by
  simp only [lasting, List.mem_cons, List.not_mem_nil, or_false] at member
  rcases member with rfl | rfl | rfl | rfl
  · exact .inl fun _ _ counts => counts.total
  · exact .inr ⟨.completed, by simp, fun _ _ counts => counts.completed⟩
  · exact .inr ⟨.failed, by simp, fun _ _ counts => counts.failed⟩
  · exact .inr ⟨.cancelled, by simp, fun _ _ counts => counts.cancelled⟩

theorem eq_countP_of_mem {number : GraphStatistics → Nat} (member : number ∈ running :: lasting) :
    ∃ p : Instance → Bool, ∀ statistics instances, Counts statistics instances →
      number statistics = instances.countP p := by
  rcases List.mem_cons.mp member with rfl | member
  · exact ⟨_, fun _ _ counts => counts.running⟩
  · rcases eq_of_mem_lasting member with all | ⟨status, _, ended⟩
    · refine ⟨fun _ => true, fun statistics instances counts => ?_⟩
      rw [all statistics instances counts, List.countP_true]
    · exact ⟨_, ended⟩

theorem length_eq_countP (instances : List Instance) :
    instances.length =
      instances.countP (·.status == .completed) + instances.countP (·.status == .failed) +
        instances.countP (·.status == .cancelled) + instances.countP (·.status == .running) := by
  induction instances with
  | nil => rfl
  | cons inst rest ih =>
      simp only [List.length_cons, List.countP_cons, ih]
      cases inst.status <;> simp <;> omega

end GraphStatistics

theorem Tally.counts_statistics {tally : Tally} {instances : List Instance} {running : Nat}
    (tallied : ∀ status, status ≠ .running →
      tally.count status = instances.countP (·.status == status))
    (hrunning : running = instances.countP (·.status == .running)) :
    (tally.statistics running).Counts instances where
  total := by
    have completed := tallied .completed (by simp)
    have failed := tallied .failed (by simp)
    have cancelled := tallied .cancelled (by simp)
    simp only [count] at completed failed cancelled
    rw [GraphStatistics.length_eq_countP]
    simp only [statistics, finished, completed, failed, cancelled, hrunning]
  running := hrunning
  completed := tallied .completed (by simp)
  failed := tallied .failed (by simp)
  cancelled := tallied .cancelled (by simp)

def Statistics.ofGraph (statistics : Statistics) (graph : String) : GraphStatistics :=
  (statistics.perGraph.lookup graph).getD {}

theorem sum_countP_names {names : List String} (nodup : names.Nodup) {instances : List Instance}
    (covered : ∀ inst ∈ instances, inst.graph ∈ names) (p : Instance → Bool) :
    (names.map fun name => (instances.filter (·.graph == name)).countP p).sum =
      instances.countP p := by
  simp only [List.countP_filter]
  induction instances with
  | nil => simp
  | cons inst rest ih =>
      -- The graph of the instance is exactly one of the names.
      have single : (names.map fun name => if p inst && inst.graph == name then 1 else 0).sum =
          if p inst then 1 else 0 := by
        have hcount : names.count inst.graph = 1 :=
          List.count_eq_one_of_mem nodup (covered inst List.mem_cons_self)
        rw [List.sum_map_eq_nsmul_single inst.graph, hcount]
        · simp
        · intro name distinct _
          simp [Ne.symm distinct]
      simp only [List.countP_cons, List.sum_map_add, single]
      rw [ih fun other member => covered other (List.mem_cons_of_mem inst member)]

namespace Orchestrator

private def graphNames (orchestrator : Orchestrator) : List String :=
  History.sortNames (orchestrator.history.perGraph.map (·.1) ++ orchestrator.active.map (·.graph))

private theorem lookup_perGraph (orchestrator : Orchestrator) (graph : String) :
    orchestrator.statistics.perGraph.lookup graph =
      if graph ∈ orchestrator.graphNames then
        some ((orchestrator.history.tallyOf graph).statistics
          ((orchestrator.active.map (·.graph)).count graph))
      else none := by
  simp only [statistics, History.statistics]
  change List.lookup graph (orchestrator.graphNames.map _) = _
  induction orchestrator.graphNames with
  | nil => simp
  | cons name rest ih =>
      rw [List.map_cons, List.lookup_cons, ih]
      by_cases h : graph = name
      · subst h
        simp [History.tallyOf]
      · simp [h, beq_false_of_ne h]

private theorem graph_mem_graphNames {orchestrator : Orchestrator}
    (balanced : orchestrator.Balanced) {inst : Instance} (member : inst ∈ orchestrator.instances) :
    inst.graph ∈ orchestrator.graphNames := by
  rw [graphNames, History.mem_sortNames, List.mem_append]
  by_cases running : inst.status = .running
  · right
    have active : inst ∈ orchestrator.active :=
      List.mem_filter.mpr ⟨member, by simp [Instance.isActive, running]⟩
    exact List.mem_map.mpr ⟨inst, active, rfl⟩
  · left
    by_contra unknown
    have none : orchestrator.history.perGraph.lookup inst.graph = none := by
      rw [List.lookup_eq_none_iff]
      intro entry hentry
      apply bne_iff_ne.mpr
      exact fun h => unknown (List.mem_map.mpr ⟨entry, hentry, h.symm⟩)
    have tallied := balanced.perGraph inst.graph inst.status running
    rw [History.tallyOf, none, Option.getD_none] at tallied
    have positive : 0 < orchestrator.instances.countP fun other =>
        other.status == inst.status && other.graph == inst.graph :=
      List.countP_pos_iff.mpr ⟨inst, member, by simp⟩
    have zero : ({} : Tally).count inst.status = 0 := by cases inst.status <;> rfl
    omega

theorem counts_overall {orchestrator : Orchestrator} (balanced : orchestrator.Balanced) :
    orchestrator.statistics.overall.Counts orchestrator.instances := by
  apply Tally.counts_statistics balanced.overall
  rw [List.length_map, active, ← List.countP_eq_length_filter]
  rfl

theorem counts_ofGraph {orchestrator : Orchestrator} (balanced : orchestrator.Balanced)
    (graph : String) :
    (orchestrator.statistics.ofGraph graph).Counts
      (orchestrator.instances.filter (·.graph == graph)) := by
  rw [Statistics.ofGraph, lookup_perGraph]
  split
  · apply Tally.counts_statistics
    · intro status isTerminal
      rw [List.countP_filter]
      exact balanced.perGraph graph status isTerminal
    · rw [List.count, List.countP_map, active, List.countP_filter, List.countP_filter]
      apply List.countP_congr
      intro inst _
      simp [Instance.isActive, and_comm]
  · next unknown =>
      have none : orchestrator.instances.filter (·.graph == graph) = [] := by
        rw [List.filter_eq_nil_iff]
        intro inst member h
        exact unknown (beq_iff_eq.mp h ▸ graph_mem_graphNames balanced member)
      rw [none]
      exact ⟨rfl, rfl, rfl, rfl, rfl⟩

private theorem perGraph_eq (orchestrator : Orchestrator) :
    orchestrator.statistics.perGraph =
      orchestrator.graphNames.map fun name => (name, orchestrator.statistics.ofGraph name) := by
  apply List.map_congr_left
  intro name member
  have member : name ∈ orchestrator.graphNames := member
  rw [Statistics.ofGraph, lookup_perGraph, if_pos member]
  rfl

theorem nodup_perGraph (orchestrator : Orchestrator) :
    (orchestrator.statistics.perGraph.map (·.1)).Nodup := by
  rw [perGraph_eq, List.map_map]
  exact (History.nodup_sortNames _).map Function.injective_id

theorem sum_perGraph {orchestrator : Orchestrator} (balanced : orchestrator.Balanced)
    {number : GraphStatistics → Nat}
    (member : number ∈ GraphStatistics.running :: GraphStatistics.lasting) :
    number orchestrator.statistics.overall =
      (orchestrator.statistics.perGraph.map fun entry => number entry.2).sum := by
  obtain ⟨p, hp⟩ := GraphStatistics.eq_countP_of_mem member
  have names := sum_countP_names (History.nodup_sortNames _)
    (fun _ member => graph_mem_graphNames balanced member) p
  rw [hp _ _ (counts_overall balanced), ← names, perGraph_eq, List.map_map]
  congr 1
  apply List.map_congr_left
  intro name _
  exact (hp _ _ (counts_ofGraph balanced name)).symm

end Orchestrator

namespace History

theorem count_overall_foldl_le (records : List Record) (history : History) {status : Status}
    (isTerminal : status ≠ .running) :
    history.overall.count status ≤ (records.foldl append history).overall.count status := by
  induction records generalizing history with
  | nil => exact Nat.le_refl _
  | cons record rest ih =>
      refine Nat.le_trans ?_ (ih (history.append record))
      rw [overall_append, Tally.count_add _ _ isTerminal]
      exact Nat.le_add_right _ _

theorem count_tallyOf_foldl_le (records : List Record) (history : History) (graph : String)
    {status : Status} (isTerminal : status ≠ .running) :
    (history.tallyOf graph).count status ≤
      ((records.foldl append history).tallyOf graph).count status := by
  induction records generalizing history with
  | nil => exact Nat.le_refl _
  | cons record rest ih =>
      refine Nat.le_trans ?_ (ih (history.append record))
      rw [tallyOf_append]
      split
      · rw [Tally.count_add _ _ isTerminal]
        exact Nat.le_add_right _ _
      · exact Nat.le_refl _

end History

namespace Orchestrator

private theorem LeadsTo.countP_graph_le {before after : Orchestrator} (leads : before.LeadsTo after)
    (p : String → Bool) :
    before.instances.countP (fun inst => p inst.graph) ≤
      after.instances.countP fun inst => p inst.graph := by
  have general : ∀ instances : List Instance, instances.countP (fun inst => p inst.graph) =
      (instances.map fun inst => (inst.id, inst.graph)).countP fun place => p place.2 := by
    intro instances
    rw [List.countP_map]
    rfl
  rw [general, general]
  exact leads.places.sublist.countP_le

/-- No count of those that last goes down, neither of the whole nor of a graph. -/
theorem LeadsTo.lasting_le {before after : Orchestrator} (leads : before.LeadsTo after)
    (balanced : before.Balanced) (balancedAfter : after.Balanced)
    {number : GraphStatistics → Nat} (member : number ∈ GraphStatistics.lasting) :
    number before.statistics.overall ≤ number after.statistics.overall ∧
      ∀ graph, number (before.statistics.ofGraph graph) ≤
        number (after.statistics.ofGraph graph) := by
  obtain ⟨added, history, _⟩ := leads.history
  have whole := counts_overall balanced
  have wholeAfter := counts_overall balancedAfter
  have part := counts_ofGraph balanced
  have partAfter := counts_ofGraph balancedAfter
  rcases GraphStatistics.eq_of_mem_lasting member with all | ⟨status, isTerminal, ended⟩
  · constructor
    · rw [all _ _ whole, all _ _ wholeAfter]
      simpa using leads.countP_graph_le fun _ => true
    · intro graph
      rw [all _ _ (part graph), all _ _ (partAfter graph), ← List.countP_eq_length_filter,
        ← List.countP_eq_length_filter]
      exact leads.countP_graph_le (· == graph)
  -- Those that ended are in the tallies, to which the records since then have been added.
  · constructor
    · rw [ended _ _ whole, ended _ _ wholeAfter, ← balanced.overall status isTerminal,
        ← balancedAfter.overall status isTerminal, history]
      exact History.count_overall_foldl_le added before.history isTerminal
    · intro graph
      rw [ended _ _ (part graph), ended _ _ (partAfter graph), List.countP_filter,
        List.countP_filter, ← balanced.perGraph graph status isTerminal,
        ← balancedAfter.perGraph graph status isTerminal, history]
      exact History.count_tallyOf_foldl_le added before.history graph isTerminal

end Orchestrator

namespace Workplace

theorem IsNew.balanced {place : Workplace} (isNew : place.IsNew) : place.orchestrator.Balanced := by
  obtain ⟨limit, created⟩ := isNew.history
  have history : place.orchestrator.history = { limit := limit.toNat } := by
    unfold History.create at created
    split at created
    · cases created
    · exact (Except.ok.inj created).symm
  constructor
  · intro status _
    rw [history, isNew.instances]
    cases status <;> rfl
  · intro graph status _
    rw [history, isNew.instances]
    cases status <;> rfl
  · rw [history]
    simp

theorem Reachable.balanced {place : Workplace} (reachable : place.Reachable) :
    place.orchestrator.Balanced := by
  obtain ⟨first, isNew, later⟩ := reachable
  exact isNew.balanced.changes isNew.sound.numbered (later.changes isNew.sound)

/-- Whatever has happened, the statistics count every instance that has ever been opened once, as a
whole and graph by graph; and whatever happens then, no instance is lost, none that has ended
changes its status, and of the counts only that of the running ones can go down. -/
theorem Reachable.counts_every_instance {place : Workplace} (reachable : place.Reachable) :
    (place.orchestrator.instances.map (·.id)).Nodup ∧
    place.orchestrator.statistics.overall.Counts place.orchestrator.instances ∧
    (∀ graph, (place.orchestrator.statistics.ofGraph graph).Counts
      (place.orchestrator.instances.filter (·.graph == graph))) ∧
    (place.orchestrator.statistics.perGraph.map (·.1)).Nodup ∧
    (∀ number ∈ GraphStatistics.running :: GraphStatistics.lasting,
      number place.orchestrator.statistics.overall =
        (place.orchestrator.statistics.perGraph.map fun entry => number entry.2).sum) ∧
    ∀ later, Later place later →
      place.orchestrator.instances.map (fun inst => (inst.id, inst.graph)) <+:
        later.orchestrator.instances.map (fun inst => (inst.id, inst.graph)) ∧
      (∀ inst ∈ place.orchestrator.instances, inst.status ≠ .running →
        ∃ after, later.orchestrator.instance? inst.id = some after ∧
          after.status = inst.status) ∧
      ∀ number ∈ GraphStatistics.lasting,
        number place.orchestrator.statistics.overall ≤
            number later.orchestrator.statistics.overall ∧
          ∀ graph, number (place.orchestrator.statistics.ofGraph graph) ≤
            number (later.orchestrator.statistics.ofGraph graph) := by
  have sound := reachable.sound
  have balanced := reachable.balanced
  refine ⟨sound.numbered.nodup, Orchestrator.counts_overall balanced,
    Orchestrator.counts_ofGraph balanced, Orchestrator.nodup_perGraph _,
    fun number member => Orchestrator.sum_perGraph balanced member, ?_⟩
  intro later happened
  have leads := happened.leadsTo sound
  refine ⟨leads.places, ?_, ?_⟩
  · intro inst member ended
    have found := (Orchestrator.instance?_eq_some_iff sound.numbered).mpr ⟨member, rfl⟩
    obtain ⟨after, hafter, leads⟩ := leads.instances inst.id inst found
    exact ⟨after, hafter, leads.status (by simpa [Instance.isActive] using ended)⟩
  · intro number member
    exact leads.lasting_le balanced (reachable.later happened).balanced member

def gated : Workplace where
  orchestrator :=
    { registry := ⟨[{
        name := "gated"
        steps := [{ name := "wait", action := .ask (.gate "exit") fun _ => .done .nothing }]
        routes := []
        entry := some "wait"
        terminals := ["wait"]
        ceiling := none
        description := none }]⟩
      history := { limit := 1 } }

theorem isNew_gated : gated.IsNew :=
  ⟨rfl, ⟨1, rfl⟩, rfl, rfl, rfl, rfl, rfl⟩

theorem Reachable.counts_every_instance_gated :
    ∃ place : Workplace, place.Reachable ∧ place.orchestrator.history.records.length = 1 ∧
      place.orchestrator.statistics.overall.total = 3 ∧
      place.orchestrator.statistics.overall.running = 1 ∧
      (place.orchestrator.statistics.ofGraph "gated").cancelled = 2 := by
  have started : Later gated _ := .single (.start "gated" (.state {}))
  have started := started.tail (.start "gated" (.state {}))
  have started := started.tail (.start "gated" (.state {}))
  have waiting := started.trans (later_settle 20 _)
  have cancelled := (waiting.tail (.cancel "i1")).tail (.cancel "i3")
  have reachable : Reachable _ := ⟨gated, isNew_gated, cancelled⟩
  obtain ⟨_, whole, part, _⟩ := Reachable.counts_every_instance reachable
  refine ⟨_, reachable, rfl, whole.total.trans ?_, whole.running.trans ?_,
    (part "gated").cancelled.trans ?_⟩
  · rfl
  · rfl
  · rfl

end Workplace

end StepGraph
