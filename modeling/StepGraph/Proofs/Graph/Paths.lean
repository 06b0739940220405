import Mathlib.Data.Finset.Card
import StepGraph.Graph.Validation
import StepGraph.Proofs.Order

namespace StepGraph.Definition

/-- The steps whose own routes are consulted: the entry point, and the last successor of any outcome
of such a step. -/
inductive Continuation (definition : Definition) : String → Prop
  | entry {name : String} (isEntry : definition.entry = some name) : Continuation definition name
  | last {name next : String} {route : Route} {edge : Edge}
      (before : Continuation definition name) (routed : definition.route? name = some route)
      (member : edge ∈ route.edges) (isLast : edge.successors.getLast? = some next) :
      Continuation definition next

/-- The steps that some run may start: the entry point, and all successors of continuation steps. -/
inductive Reachable (definition : Definition) : String → Prop
  | entry {name : String} (isEntry : definition.entry = some name) : Reachable definition name
  | successor {name next : String} {route : Route} {edge : Edge}
      (before : definition.Continuation name) (routed : definition.route? name = some route)
      (member : edge ∈ route.edges) (isSuccessor : next ∈ edge.successors) :
      Reachable definition next

theorem mem_successorLists {definition : Definition} {name : String} {successors : List String} :
    successors ∈ definition.successorLists name ↔
      ∃ route, definition.route? name = some route ∧
        ∃ edge ∈ route.edges, edge.successors = successors := by
  unfold successorLists
  cases definition.route? name with
  | none => simp
  | some route => simp

theorem mem_nextSteps {definition : Definition} {name next : String} :
    next ∈ definition.nextSteps name ↔
      ∃ route, definition.route? name = some route ∧
        ∃ edge ∈ route.edges, edge.successors.getLast? = some next := by
  simp only [nextSteps, List.mem_filterMap, mem_successorLists]
  constructor
  · rintro ⟨_, ⟨route, routed, edge, member, rfl⟩, isLast⟩
    exact ⟨route, routed, edge, member, isLast⟩
  · rintro ⟨route, routed, edge, member, isLast⟩
    exact ⟨edge.successors, ⟨route, routed, edge, member, rfl⟩, isLast⟩

theorem Continuation.nextSteps {definition : Definition} {name next : String}
    (continuation : definition.Continuation name) (hnext : next ∈ definition.nextSteps name) :
    definition.Continuation next := by
  obtain ⟨route, routed, edge, member, isLast⟩ := mem_nextSteps.mp hnext
  exact .last continuation routed member isLast

/-! The search. What is found but no longer queued has had its next steps looked at. -/

private def fresh (definition : Definition) (found : List String) (name : String) : List String :=
  (definition.nextSteps name).eraseDups.filter fun next => !found.contains next

private theorem mem_fresh {definition : Definition} {found : List String} {name next : String} :
    next ∈ definition.fresh found name ↔ next ∈ definition.nextSteps name ∧ next ∉ found := by
  simp [fresh]

private theorem nodup_fresh (definition : Definition) (found : List String) (name : String) :
    (definition.fresh found name).Nodup :=
  (nodup_eraseDups _).filter _

theorem walk_cons (definition : Definition) (fuel : Nat) (name : String)
    (queue found : List String) :
    definition.walk (fuel + 1) (name :: queue) found =
      definition.walk fuel (queue ++ definition.fresh found name)
        (found ++ definition.fresh found name) := rfl

theorem subset_walk (definition : Definition) (fuel : Nat) (queue found : List String) :
    found ⊆ definition.walk fuel queue found := by
  induction fuel generalizing queue found with
  | zero => exact List.Subset.refl found
  | succ fuel ih =>
      cases queue with
      | nil => exact List.Subset.refl found
      | cons name queue =>
          rw [walk_cons]
          exact List.Subset.trans (List.subset_append_left _ _) (ih _ _)

theorem nodup_walk (definition : Definition) (fuel : Nat) (queue found : List String)
    (hfound : found.Nodup) : (definition.walk fuel queue found).Nodup := by
  induction fuel generalizing queue found with
  | zero => exact hfound
  | succ fuel ih =>
      cases queue with
      | nil => exact hfound
      | cons name queue =>
          rw [walk_cons]
          apply ih
          rw [List.nodup_append]
          refine ⟨hfound, nodup_fresh definition found name, ?_⟩
          rintro next hold _ hnew rfl
          exact (mem_fresh.mp hnew).2 hold

theorem walk_sound {definition : Definition} (fuel : Nat) {queue found : List String}
    (hqueue : queue ⊆ found) (hfound : ∀ name ∈ found, definition.Continuation name) :
    ∀ name ∈ definition.walk fuel queue found, definition.Continuation name := by
  induction fuel generalizing queue found with
  | zero => exact hfound
  | succ fuel ih =>
      cases queue with
      | nil => exact hfound
      | cons name queue =>
          rw [walk_cons]
          have hname : definition.Continuation name := hfound name (hqueue (by simp))
          apply ih
          · intro other hother
            rcases List.mem_append.mp hother with hold | hnew
            · exact List.mem_append_left _ (hqueue (List.mem_cons_of_mem name hold))
            · exact List.mem_append_right _ hnew
          · intro other hother
            rcases List.mem_append.mp hother with hold | hnew
            · exact hfound other hold
            · exact hname.nextSteps (mem_fresh.mp hnew).1

private def lastSteps (definition : Definition) : List String :=
  definition.routes.flatMap fun route => route.edges.filterMap (·.successors.getLast?)

private theorem nextSteps_subset_lastSteps (definition : Definition) (name : String) :
    definition.nextSteps name ⊆ definition.lastSteps := by
  intro next hnext
  obtain ⟨route, routed, edge, member, isLast⟩ := mem_nextSteps.mp hnext
  have hroute : route ∈ definition.routes := List.mem_of_find?_eq_some routed
  simp only [lastSteps, List.mem_flatMap, List.mem_filterMap]
  exact ⟨route, hroute, edge, member, isLast⟩

private theorem length_lastSteps_le (definition : Definition) :
    definition.lastSteps.length ≤ definition.edgeCount := by
  have general : ∀ (routes : List Route) (count : Nat),
      count + (routes.flatMap fun route =>
          route.edges.filterMap (·.successors.getLast?)).length ≤
        routes.foldl (fun count route => count + route.edges.length) count := by
    intro routes
    induction routes with
    | nil => intro count; simp
    | cons route routes ih =>
        intro count
        have hroute : (route.edges.filterMap (·.successors.getLast?)).length ≤
            route.edges.length := List.length_filterMap_le _ _
        have := ih (count + route.edges.length)
        simp only [List.flatMap_cons, List.length_append, List.foldl_cons]
        omega
  simpa [lastSteps, edgeCount] using general definition.routes 0

private def missing (definition : Definition) (found : List String) : Finset String :=
  definition.lastSteps.toFinset \ found.toFinset

private theorem card_missing_append_fresh (definition : Definition) (found : List String)
    (name : String) :
    (definition.missing (found ++ definition.fresh found name)).card +
        (definition.fresh found name).length =
      (definition.missing found).card := by
  have hsubset : (definition.fresh found name).toFinset ⊆ definition.missing found := by
    intro next hnext
    obtain ⟨hnext, hnew⟩ := mem_fresh.mp (List.mem_toFinset.mp hnext)
    simp only [missing, Finset.mem_sdiff, List.mem_toFinset]
    exact ⟨nextSteps_subset_lastSteps definition name hnext, hnew⟩
  have hmissing : definition.missing (found ++ definition.fresh found name) =
      definition.missing found \ (definition.fresh found name).toFinset := by
    simp only [missing, List.toFinset_append, sdiff_sdiff_left, Finset.sup_eq_union]
  have hcard := Finset.card_sdiff_add_card_eq_card hsubset
  rw [List.toFinset_card_of_nodup (nodup_fresh definition found name)] at hcard
  rw [hmissing]
  exact hcard

/-- With fuel for the queue and for all that may still be found, a search ends with a set that no
next step leaves. -/
theorem walk_closed {definition : Definition} {fuel : Nat} {queue found : List String}
    (hfuel : queue.length + (definition.missing found).card ≤ fuel)
    (hdone : ∀ name ∈ found, name ∉ queue → definition.nextSteps name ⊆ found) :
    ∀ name ∈ definition.walk fuel queue found,
      definition.nextSteps name ⊆ definition.walk fuel queue found := by
  induction fuel generalizing queue found with
  | zero =>
      have hqueue : queue = [] := List.eq_nil_of_length_eq_zero (by omega)
      subst queue
      exact fun name hname => hdone name hname List.not_mem_nil
  | succ fuel ih =>
      cases queue with
      | nil => exact fun name hname => hdone name hname List.not_mem_nil
      | cons name queue =>
          rw [walk_cons]
          apply ih
          -- The fuel for a fresh step is what it costs no longer to be missing.
          · have := card_missing_append_fresh definition found name
            simp only [List.length_append, List.length_cons] at hfuel ⊢
            omega
          · intro other hother hunqueued next hnext
            simp only [List.mem_append, not_or] at hother hunqueued ⊢
            have hfound : other ∈ found := hother.resolve_right hunqueued.2
            by_cases hname : other = name
            · subst other
              by_cases hold : next ∈ found
              · exact .inl hold
              · exact .inr (mem_fresh.mpr ⟨hnext, hold⟩)
            · exact .inl (hdone other hfound (by simp [hname, hunqueued.1]) hnext)

theorem nodup_continuations (definition : Definition) : definition.continuations.Nodup := by
  unfold continuations
  cases definition.entry with
  | none => simp
  | some entry => exact nodup_walk definition _ _ _ (by simp)

theorem mem_continuations {definition : Definition} {name : String} :
    name ∈ definition.continuations ↔ definition.Continuation name := by
  constructor
  · intro hname
    unfold continuations at hname
    cases hentry : definition.entry with
    | none => simp [hentry] at hname
    | some entry =>
        rw [hentry] at hname
        refine walk_sound _ (List.Subset.refl _) ?_ name hname
        intro other hother
        rw [List.mem_singleton.mp hother]
        exact .entry hentry
  · intro continuation
    obtain ⟨entry, hentry⟩ : ∃ entry, definition.entry = some entry := by
      induction continuation with
      | entry isEntry => exact ⟨_, isEntry⟩
      | last _ _ _ _ ih => exact ih
    have hfuel : [entry].length + (definition.missing [entry]).card ≤ definition.edgeCount + 1 := by
      have hcard : (definition.missing [entry]).card ≤ definition.lastSteps.length :=
        (Finset.card_le_card Finset.sdiff_subset).trans (List.toFinset_card_le _)
      have := length_lastSteps_le definition
      simp only [List.length_singleton]
      omega
    have hclosed := walk_closed hfuel (fun name hname hunqueued => absurd hname hunqueued)
    simp only [continuations, hentry]
    induction continuation with
    | entry isEntry =>
        cases hentry.symm.trans isEntry
        exact subset_walk definition _ _ _ (by simp)
    | last _ routed member isLast ih =>
        exact hclosed _ ih (mem_nextSteps.mpr ⟨_, routed, _, member, isLast⟩)

theorem mem_reachable {definition : Definition} {name : String} :
    name ∈ definition.reachable ↔ definition.Reachable name := by
  simp only [reachable, List.mem_append, Option.mem_toList, List.mem_flatMap, List.mem_flatten,
    mem_continuations, mem_successorLists]
  constructor
  · rintro (isEntry | ⟨before, continuation, _, ⟨route, routed, edge, member, rfl⟩, isSuccessor⟩)
    · exact .entry isEntry
    · exact .successor continuation routed member isSuccessor
  · intro hreachable
    cases hreachable with
    | entry isEntry => exact .inl isEntry
    | successor before routed member isSuccessor =>
        exact .inr ⟨_, before, _, ⟨_, routed, _, member, rfl⟩, isSuccessor⟩

end StepGraph.Definition
