import StepGraph.Proofs.Graph.Paths

namespace StepGraph.Definition

/-- A successor list that leads to an ending: an empty one, or one whose last step is terminal or
has some outcome that leads to an ending. -/
inductive Ends (definition : Definition) : List String → Prop
  | empty : Ends definition []
  | terminal {successors : List String} {last : String} (isLast : successors.getLast? = some last)
      (isTerminal : definition.isTerminal last) : Ends definition successors
  | onward {successors : List String} {last : String} {route : Route} {edge : Edge}
      (isLast : successors.getLast? = some last) (routed : definition.route? last = some route)
      (member : edge ∈ route.edges) (ends : Ends definition edge.successors) :
      Ends definition successors

def EndsFrom (definition : Definition) (name : String) : Prop :=
  definition.isTerminal name ∨
    ∃ successors ∈ definition.successorLists name, definition.Ends successors

theorem ends_iff_of_getLast? {definition : Definition} {successors : List String} {last : String}
    (isLast : successors.getLast? = some last) :
    definition.Ends successors ↔ definition.EndsFrom last := by
  constructor
  · intro ends
    cases ends with
    | empty => simp at isLast
    | terminal isLast' isTerminal =>
        cases isLast.symm.trans isLast'
        exact .inl isTerminal
    | onward isLast' routed member ends =>
        cases isLast.symm.trans isLast'
        exact .inr ⟨_, mem_successorLists.mpr ⟨_, routed, _, member, rfl⟩, ends⟩
  · rintro (isTerminal | ⟨_, hlist, ends⟩)
    · exact .terminal isLast isTerminal
    · obtain ⟨route, routed, edge, member, rfl⟩ := mem_successorLists.mp hlist
      exact .onward isLast routed member ends

theorem endsThrough_of_getLast? {good successors : List String} {last : String}
    (isLast : successors.getLast? = some last) :
    endsThrough good successors = true ↔ last ∈ good := by
  simp [endsThrough, isLast]

/-! The rounds. Each adds the candidates with a successor list that leads to what is there. -/

private def round (definition : Definition) (candidates good : List String) : List String :=
  candidates.filter fun name =>
    !good.contains name && (definition.successorLists name).any (endsThrough good)

private theorem mem_round {definition : Definition} {candidates good : List String}
    {name : String} :
    name ∈ definition.round candidates good ↔
      name ∈ candidates ∧ name ∉ good ∧
        ∃ successors ∈ definition.successorLists name, endsThrough good successors = true := by
  simp [round]

theorem grow_succ (definition : Definition) (candidates : List String) (fuel : Nat)
    (good : List String) :
    definition.grow candidates (fuel + 1) good =
      definition.grow candidates fuel (good ++ definition.round candidates good) := rfl

theorem grow_of_round_eq_nil {definition : Definition} {candidates good : List String}
    (hround : definition.round candidates good = []) (fuel : Nat) :
    definition.grow candidates fuel good = good := by
  induction fuel with
  | zero => rfl
  | succ fuel ih => rw [grow_succ, hround, List.append_nil, ih]

theorem subset_grow (definition : Definition) (candidates : List String) (fuel : Nat)
    (good : List String) : good ⊆ definition.grow candidates fuel good := by
  induction fuel generalizing good with
  | zero => exact List.Subset.refl good
  | succ fuel ih =>
      rw [grow_succ]
      exact List.Subset.trans (List.subset_append_left _ _) (ih _)

theorem grow_sound {definition : Definition} {candidates : List String} (fuel : Nat)
    {good : List String} (hgood : ∀ name ∈ good, name ∈ candidates ∧ definition.EndsFrom name) :
    ∀ name ∈ definition.grow candidates fuel good,
      name ∈ candidates ∧ definition.EndsFrom name := by
  induction fuel generalizing good with
  | zero => exact hgood
  | succ fuel ih =>
      rw [grow_succ]
      apply ih
      intro name hname
      rcases List.mem_append.mp hname with hold | hnew
      · exact hgood name hold
      · obtain ⟨hcandidate, _, successors, hlist, hthrough⟩ := mem_round.mp hnew
        refine ⟨hcandidate, .inr ⟨successors, hlist, ?_⟩⟩
        cases hlast : successors.getLast? with
        | none =>
            rw [List.getLast?_eq_none_iff.mp hlast]
            exact .empty
        | some last =>
            exact (ends_iff_of_getLast? hlast).mpr
              (hgood last ((endsThrough_of_getLast? hlast).mp hthrough)).2

/-- A round without effect is reached in time, since every other one adds a candidate. -/
theorem grow_closed {definition : Definition} {candidates : List String}
    (hcandidates : candidates.Nodup) {fuel : Nat} {good : List String} (hnodup : good.Nodup)
    (hsubset : good ⊆ candidates) (hfuel : candidates.length ≤ fuel + good.length) :
    definition.round candidates (definition.grow candidates fuel good) = [] := by
  induction fuel generalizing good with
  | zero =>
      have hall : candidates ⊆ good :=
        (hnodup.subperm hsubset).perm_of_length_le (by simpa using hfuel) |>.symm.subset
      apply List.eq_nil_iff_forall_not_mem.mpr
      intro name hname
      obtain ⟨hcandidate, hnew, _⟩ := mem_round.mp hname
      exact hnew (hall hcandidate)
  | succ fuel ih =>
      cases hround : definition.round candidates good with
      | nil => rw [grow_of_round_eq_nil hround, hround]
      | cons first rest =>
          rw [grow_succ]
          apply ih
          · rw [List.nodup_append]
            refine ⟨hnodup, hcandidates.filter _, ?_⟩
            rintro name hold _ hnew rfl
            exact (mem_round.mp hnew).2.1 hold
          · intro name hname
            rcases List.mem_append.mp hname with hold | hnew
            · exact hsubset hold
            · exact (mem_round.mp hnew).1
          · simp only [hround, List.length_append, List.length_cons]
            omega

theorem terminating_sound {definition : Definition} :
    ∀ name ∈ definition.terminating,
      name ∈ definition.continuations ∧ definition.EndsFrom name := by
  apply grow_sound
  intro name hname
  obtain ⟨hcandidate, isTerminal⟩ := List.mem_filter.mp hname
  exact ⟨hcandidate, .inl isTerminal⟩

theorem mem_terminating_of_isTerminal {definition : Definition} {name : String}
    (continuation : definition.Continuation name) (isTerminal : definition.isTerminal name) :
    name ∈ definition.terminating := by
  apply subset_grow
  exact List.mem_filter.mpr ⟨mem_continuations.mpr continuation, isTerminal⟩

theorem mem_terminating_of_endsThrough {definition : Definition} {name : String}
    {successors : List String} (continuation : definition.Continuation name)
    (hlist : successors ∈ definition.successorLists name)
    (hthrough : endsThrough definition.terminating successors = true) :
    name ∈ definition.terminating := by
  have hclosed : definition.round definition.continuations definition.terminating = [] :=
    grow_closed (nodup_continuations definition) ((nodup_continuations definition).filter _)
      (List.filter_subset_self _) (Nat.le_add_right _ _)
  by_contra hnew
  have hround : name ∈ definition.round definition.continuations definition.terminating :=
    mem_round.mpr ⟨mem_continuations.mpr continuation, hnew, successors, hlist, hthrough⟩
  rw [hclosed] at hround
  exact List.not_mem_nil hround

theorem endsThrough_terminating_of_ends {definition : Definition} {successors : List String}
    (ends : definition.Ends successors)
    (hlast : ∀ last, successors.getLast? = some last → definition.Continuation last) :
    endsThrough definition.terminating successors = true := by
  -- Along the way to an ending every last step is a continuation step in its turn.
  induction ends with
  | empty => rfl
  | terminal isLast isTerminal =>
      apply (endsThrough_of_getLast? isLast).mpr
      exact mem_terminating_of_isTerminal (hlast _ isLast) isTerminal
  | onward isLast routed member _ ih =>
      have continuation := hlast _ isLast
      apply (endsThrough_of_getLast? isLast).mpr
      apply mem_terminating_of_endsThrough continuation
      · exact mem_successorLists.mpr ⟨_, routed, _, member, rfl⟩
      · exact ih fun next isNext => .last continuation routed member isNext

/-- The rounds add exactly the continuation steps from which a run may end. -/
theorem mem_terminating {definition : Definition} {name : String} :
    name ∈ definition.terminating ↔ definition.Continuation name ∧ definition.EndsFrom name := by
  constructor
  · intro hname
    obtain ⟨hcandidate, ends⟩ := terminating_sound name hname
    exact ⟨mem_continuations.mp hcandidate, ends⟩
  · rintro ⟨continuation, isTerminal | ⟨successors, hlist, ends⟩⟩
    · exact mem_terminating_of_isTerminal continuation isTerminal
    · apply mem_terminating_of_endsThrough continuation hlist
      apply endsThrough_terminating_of_ends ends
      obtain ⟨route, routed, edge, member, rfl⟩ := mem_successorLists.mp hlist
      exact fun last isLast => .last continuation routed member isLast

theorem endsThrough_terminating_iff {definition : Definition} {name : String} {route : Route}
    {edge : Edge} (continuation : definition.Continuation name)
    (routed : definition.route? name = some route) (member : edge ∈ route.edges) :
    endsThrough definition.terminating edge.successors = true ↔
      definition.Ends edge.successors := by
  cases hlast : edge.successors.getLast? with
  | none =>
      rw [List.getLast?_eq_none_iff.mp hlast]
      exact ⟨fun _ => .empty, fun _ => rfl⟩
  | some last =>
      rw [endsThrough_of_getLast? hlast, mem_terminating, ends_iff_of_getLast? hlast]
      exact ⟨And.right, fun ends => ⟨.last continuation routed member hlast, ends⟩⟩

end StepGraph.Definition
