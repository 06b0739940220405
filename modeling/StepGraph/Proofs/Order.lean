import Mathlib.Data.List.Basic

namespace StepGraph

variable {α : Type}

/-- What is left without repetitions stands in the order in which it came up first. -/
theorem pairwise_eraseDups [BEq α] [LawfulBEq α] : (items : List α) →
    items.eraseDups.Pairwise fun first second =>
      ∀ before after, items = before ++ second :: after → first ∈ before
  | [] => .nil
  | item :: rest => by
      have other {second : α}
          (member : second ∈ (rest.filter fun other => !other == item).eraseDups) :
          second ≠ item := by
        simpa using (List.mem_filter.mp (List.mem_eraseDups.mp member)).2
      rw [List.eraseDups_cons, List.pairwise_cons]
      refine ⟨fun second member before after same => ?_, ?_⟩
      · cases before with
        | nil => exact absurd (List.cons.inj same).1.symm (other member)
        | cons head before => exact (List.cons.inj same).1 ▸ List.mem_cons_self
      · have kept := pairwise_eraseDups (rest.filter fun other => !other == item)
        refine kept.imp_of_mem fun {_ second} _ member earlier before after same => ?_
        cases before with
        | nil => exact absurd (List.cons.inj same).1.symm (other member)
        | cons head before =>
            have split : rest.filter (fun other => !other == item) =
                before.filter (fun other => !other == item) ++
                  second :: after.filter fun other => !other == item := by
              rw [(List.cons.inj same).2]
              simp [other member]
            exact List.mem_cons_of_mem head (List.mem_of_mem_filter (earlier _ _ split))
termination_by items => items.length
decreasing_by exact Nat.lt_succ_of_le (List.length_filter_le _ _)

theorem nodup_eraseDups [BEq α] [LawfulBEq α] (items : List α) : items.eraseDups.Nodup := by
  refine (pairwise_eraseDups items).imp_of_mem fun {_ second} _ member earlier same => ?_
  obtain ⟨before, after, split, fresh⟩ :=
    List.eq_append_cons_of_mem (List.mem_eraseDups.mp member)
  exact fresh (same ▸ earlier before after split)

/-- Items with their positions, sorted by descending rank: ties stay in the order of positions. -/
theorem pairwise_ranked (rank : α → Nat) {items : List (α × Nat)}
    (ordered : items.Pairwise fun first second => first.2 < second.2) :
    (items.mergeSort fun first second => decide (rank second.1 ≤ rank first.1)).Pairwise
      fun first second => rank second.1 < rank first.1 ∨
        rank first.1 = rank second.1 ∧ first.2 < second.2 := by
  generalize hle : (fun first second : α × Nat => decide (rank second.1 ≤ rank first.1)) = le
  have trans : ∀ a b c, le a b = true → le b c = true → le a c = true := by
    subst hle
    simp only [decide_eq_true_eq]
    omega
  have total : ∀ a b, (le a b || le b a) = true := by
    subst hle
    simp only [Bool.or_eq_true, decide_eq_true_eq]
    omega
  have sorted := List.pairwise_mergeSort trans total items
  -- Items of one rank are left as they stand, so they are the same before and after.
  have ties (common : Nat) : (items.mergeSort le).filter (fun item => rank item.1 == common) =
      items.filter fun item => rank item.1 == common := by
    have level : (items.filter fun item => rank item.1 == common).Pairwise
        fun first second => le first second = true := by
      refine List.pairwise_of_forall_mem_list fun first here second there => ?_
      have first_eq := eq_of_beq (List.mem_filter.mp here).2
      have second_eq := eq_of_beq (List.mem_filter.mp there).2
      subst hle
      simp only [first_eq, second_eq, Nat.le_refl, decide_true]
    have kept := (List.sublist_mergeSort trans total level List.filter_sublist).filter
      fun item => rank item.1 == common
    simp only [List.filter_filter, Bool.and_self] at kept
    exact (kept.eq_of_length ((List.mergeSort_perm items le).filter _).length_eq.symm).symm
  rw [List.pairwise_iff_forall_sublist] at sorted ordered ⊢
  intro first second within
  have notAbove : rank second.1 ≤ rank first.1 := by
    have ranked := sorted within
    subst hle
    exact of_decide_eq_true ranked
  rcases Nat.lt_or_eq_of_le notAbove with below | tie
  · exact .inl below
  · have before := within.filter fun item => rank item.1 == rank second.1
    rw [ties] at before
    have both : [first, second].filter (fun item => rank item.1 == rank second.1) =
        [first, second] := by
      simp [tie]
    rw [both] at before
    exact .inr ⟨tie.symm, ordered (before.trans List.filter_sublist)⟩

end StepGraph
