import StepGraph.Service.Review

namespace StepGraph

/-! ### Small letters -/

namespace Text

/-- A character without case that case conversion does not look past. -/
structure Neutral (c : Char) : Prop where
  uncased : inRanges casedRanges c.toNat = false
  regarded : inRanges caseIgnorableRanges c.toNat = false
  not_sigma : c ≠ capitalSigma

theorem neutral_blank : Neutral ' ' :=
  ⟨by decide +kernel, by decide +kernel, by decide⟩

theorem neutral_break : Neutral '\n' :=
  ⟨by decide +kernel, by decide +kernel, by decide⟩

theorem casedAhead_append {c : Char} (neutral : Neutral c) (text rest : List Char) :
    casedAhead (text ++ c :: rest) = casedAhead text := by
  induction text with
  | nil => simp [casedAhead, neutral.uncased, neutral.regarded]
  | cons first text ih => simp only [List.cons_append, casedAhead, ih]

/-- A text is lowered alike whatever follows a neutral character. -/
theorem lowerFrom_append {c : Char} (neutral : Neutral c) (cased : Bool) (text rest : List Char) :
    lowerFrom cased (text ++ c :: rest) =
      lowerFrom cased text ++ (lowerChar c ++ lowerFrom false rest) := by
  induction text generalizing cased with
  | nil =>
      simp [lowerFrom, neutral.uncased, neutral.regarded, neutral.not_sigma]
  | cons first text ih =>
      simp only [List.cons_append, lowerFrom, ih, casedAhead_append neutral, List.append_assoc]

theorem lower_infix {before after : Char} (leading : Neutral before) (trailing : Neutral after)
    (first text rest : List Char) :
    lower text <:+: lower (first ++ before :: (text ++ after :: rest)) := by
  refine ⟨lower first ++ lowerChar before, lowerChar after ++ lower rest, ?_⟩
  simp only [lower, lowerFrom_append leading, lowerFrom_append trailing, List.append_assoc]

theorem mem_dropWhile {skip : Char → Bool} {c : Char} (kept : skip c = false) {text : List Char}
    (member : c ∈ text) : c ∈ text.dropWhile skip := by
  induction text with
  | nil => exact member
  | cons first text ih =>
      rw [List.dropWhile_cons]
      split
      · next skipped =>
          rcases List.mem_cons.mp member with rfl | later
          · exact absurd (kept.symm.trans skipped) Bool.false_ne_true
          · exact ih later
      · exact member

theorem mem_trimBy {skip : Char → Bool} {c : Char} (kept : skip c = false) {text : List Char}
    (member : c ∈ text) : c ∈ trimBy skip text :=
  List.mem_reverse.mpr
    (mem_dropWhile kept (List.mem_reverse.mpr (mem_dropWhile kept member)))

end Text

/-! ### Lines of a document -/

/-- The document that an outline makes, with the additional requirements as texts among its
controls. -/
def Outline.document (outline : Outline) (extra : List Value) : String :=
  "\n".intercalate (outline.lines extra) ++ "\n"

theorem draftFromTemplate_eq {state : State} {outline : Outline} {extra : List Value}
    (isOutline : Outline.ofData state.data = .ok outline)
    (listed : additionalRequirements outline.requirements = .ok extra) :
    draftFromTemplate state = .ok (outline.document extra) := by
  rw [draftFromTemplate, isOutline]
  change (additionalRequirements outline.requirements >>= _) = _
  rw [listed]
  rfl

theorem toList_of_line {line : String} {lines : List String} (member : line ∈ lines) :
    ∃ first rest,
      ("\n".intercalate lines ++ "\n").toList = first ++ line.toList ++ '\n' :: rest := by
  obtain ⟨before, after, rfl⟩ := List.append_of_mem member
  have tail : ∃ rest, ("\n".intercalate (line :: after) ++ "\n").toList =
      line.toList ++ '\n' :: rest := by
    by_cases last : after = []
    · exact ⟨[], by simp [last]⟩
    · refine ⟨("\n".intercalate after).toList ++ ['\n'], ?_⟩
      rw [String.intercalate_cons_of_ne_nil last]
      simp only [String.toList_append, List.append_assoc]
      rfl
  obtain ⟨rest, tail⟩ := tail
  by_cases leading : before = []
  · exact ⟨[], rest, by rw [leading]; simpa using tail⟩
  · refine ⟨("\n".intercalate before).toList ++ ['\n'], rest, ?_⟩
    rw [String.intercalate_append_of_ne_nil leading (by simp), String.append_assoc,
      String.toList_append, tail, String.toList_append]
    simp only [List.append_assoc]
    rfl

namespace Outline

variable {outline : Outline} {extra : List Value}

theorem mentions_of_line {line : String} (member : line ∈ outline.lines extra) {part : String}
    (within : part.toList <:+: line.toList) : mentions (outline.document extra) part = true := by
  obtain ⟨first, rest, split⟩ := toList_of_line member
  refine (Text.occursIn_iff_infix _ _).mpr (within.trans ?_)
  rw [document, split]
  exact ⟨first, '\n' :: rest, rfl⟩

theorem mentions_section (outline : Outline) (extra : List Value) {name : String}
    (required : name ∈ standardSections) : mentions (outline.document extra) name = true := by
  have isLine : name ∈ outline.lines extra := by
    simp only [standardSections, List.mem_cons, List.not_mem_nil, or_false] at required
    rcases required with rfl | rfl | rfl <;> simp [lines]
  exact mentions_of_line isLine (List.infix_refl _)

theorem mentions_framework {name : String}
    (named : outline.requirements.get? "compliance" = some (.text name)) :
    mentions (outline.document extra) name = true := by
  have member : s!"Framework: {name}" ∈ outline.lines extra := by
    simp [lines, named, Value.plain]
  refine mentions_of_line member ⟨"Framework: ".toList, [], ?_⟩
  rw [List.append_nil]
  exact String.toList_append.symm

theorem mem_bullets {items : List String} {item : String} (member : item ∈ items) :
    "- " ++ item ∈ bullets items := by
  have some : items.isEmpty = false := List.isEmpty_eq_false_iff_exists_mem.mpr ⟨item, member⟩
  simp [bullets, some, member]

/-- Each additional requirement has a line of its own, with a blank before it. -/
theorem mentions_requirement {item : Value} (member : item ∈ extra) :
    mentions (outline.document extra).lowered item.plain.lowered = true := by
  have isLine : "- " ++ item.plain ∈ outline.lines extra := by
    have listed : item.plain ∈ outline.bestPractices ++ extra.map (·.plain) :=
      List.mem_append_right _ (List.mem_map_of_mem member)
    simp [lines, mem_bullets listed]
  obtain ⟨first, rest, split⟩ := toList_of_line isLine
  have around : (outline.document extra).toList =
      (first ++ ['-']) ++ ' ' :: (item.plain.toList ++ '\n' :: rest) := by
    rw [document, split, String.toList_append]
    simp only [List.append_assoc]
    rfl
  refine (Text.occursIn_iff_infix _ _).mpr ?_
  simp only [String.lowered, String.toList_ofList, around]
  exact Text.lower_infix Text.neutral_blank Text.neutral_break _ _ _

theorem mentions_review (noted : outline.notes ≠ []) :
    mentions (outline.document extra) reviewSection = true := by
  have isLine : reviewSection ∈ outline.lines extra := by simp [lines, noted, reviewSection]
  exact mentions_of_line isLine (List.infix_refl _)

end Outline

/-! ### The verdict -/

/-- Requirements that the services at hand can read: a framework is given as a text if at all, and
additional requirements as a text or in a collection. -/
structure Readable (requirements : Entries) : Prop where
  framework : ((requirements.get? "compliance").getD .null).holds = false ∨
    ∃ name, requirements.get? "compliance" = some (.text name)
  additional : ((requirements.get? "additional_requirements").getD .null).holds = false ∨
    (∃ text, requirements.get? "additional_requirements" = some (.text text)) ∨
    (∃ items, requirements.get? "additional_requirements" = some (.list items)) ∨
    ∃ entries, requirements.get? "additional_requirements" = some (.record entries)

theorem Readable.exists_extra {requirements : Entries} (readable : Readable requirements) :
    ∃ extra, additionalRequirements requirements = .ok extra := by
  unfold additionalRequirements
  rcases readable.additional with absent | ⟨text, given⟩ | ⟨items, given⟩ | ⟨entries, given⟩
  · generalize (requirements.get? "additional_requirements").getD .null = value at absent
    cases value <;> simp_all [Value.holds]
  · rw [given]
    exact ⟨_, rfl⟩
  · rw [given]
    cases items <;> exact ⟨_, rfl⟩
  · rw [given]
    cases entries <;> exact ⟨_, rfl⟩

def Outline.Lenient (outline : Outline) : Prop :=
  outline.notes ≠ [] ∨ ((outline.requirements.get? "require_review").getD .null).holds = false

namespace Outline

variable {outline : Outline} {extra : List Value}

theorem frameworkIssues_document (readable : Readable outline.requirements) :
    frameworkIssues outline.requirements (outline.document extra) = .ok [] := by
  unfold frameworkIssues
  rcases readable.framework with absent | ⟨name, named⟩
  · generalize (outline.requirements.get? "compliance").getD .null = value at absent
    cases value <;> simp_all [Value.holds]
  · rw [named]
    exact if_pos (by rw [mentions_framework named, Bool.or_true])

theorem not_blank (outline : Outline) (extra : List Value) :
    (Text.strip (outline.document extra).toList).isEmpty = false := by
  have title : "## Scope" ∈ outline.lines extra := by simp [lines]
  obtain ⟨first, rest, split⟩ := toList_of_line title
  have member : '#' ∈ (outline.document extra).toList := by
    rw [document, split]
    simp
  have visible : Text.isBlank '#' = false := by decide
  exact List.isEmpty_eq_false_iff_exists_mem.mpr ⟨'#', Text.mem_trimBy visible member⟩

theorem reviewByRules_document (readable : Readable outline.requirements)
    (listed : additionalRequirements outline.requirements = .ok extra) :
    reviewByRules standardSections (outline.document extra) outline.requirements =
      .ok (verdictOn (outline.document extra) outline.requirements []) := by
  have sections : sectionIssues standardSections (outline.document extra) = [] := by
    rw [sectionIssues, List.map_eq_nil_iff, List.filter_eq_nil_iff]
    intro name required
    simp [mentions_section outline extra required]
  have requirements : requirementIssues extra (outline.document extra) = [] := by
    rw [requirementIssues, List.map_eq_nil_iff, List.filter_eq_nil_iff]
    intro item member
    simp [mentions_requirement member]
  rw [reviewByRules, not_blank, frameworkIssues_document readable, listed]
  change Except.ok (verdictOn _ _ (_ ++ [] ++ _)) = _
  rw [sections, requirements]
  rfl

theorem passed_verdictOn (lenient : outline.Lenient) :
    (verdictOn (outline.document extra) outline.requirements []).passed = true := by
  rcases lenient with noted | unasked
  · simp [verdictOn, mentions_review noted]
  · simp [verdictOn, unasked]

end Outline

theorem passed_eq_not_needsReview (content : String) (requirements : Entries) :
    (verdictOn content requirements []).passed =
      !(verdictOn content requirements []).needsReview :=
  rfl

theorem needsReview_verdictOn {content : String} {requirements : Entries}
    (failed : (verdictOn content requirements []).passed = false) :
    (verdictOn content requirements []).needsReview = true := by
  rw [passed_eq_not_needsReview] at failed
  simpa using failed

/-- The writer and the rules agree on every request that they can read: what is drafted for it is
passed, unless it asks for a review that has left no notes yet. -/
theorem draftFromTemplate_accepted {state : State} {request : PolicyRequest}
    (carries : state.data = .payload (.policy request)) (readable : Readable request.requirements)
    (reviewed : ((request.requirements.get? "require_review").getD .null).holds = false ∨
      request.reviewNotes ≠ [] ∨ request.refinementNotes ≠ []) :
    ∃ content review, draftFromTemplate state = .ok content ∧
      reviewByRules standardSections content request.requirements = .ok review ∧
      review.passed = true ∧ review.issues = [] ∧ review.needsReview = false := by
  obtain ⟨outline, isOutline, sameRequirements, sameNotes⟩ :
      ∃ outline, Outline.ofData state.data = .ok outline ∧
        outline.requirements = request.requirements ∧
        outline.notes = request.reviewNotes ++ request.refinementNotes := by
    rw [carries]
    exact ⟨_, rfl, rfl, rfl⟩
  have lenient : outline.Lenient := by
    rw [Outline.Lenient, sameNotes, sameRequirements]
    rcases reviewed with unasked | noted | noted
    · exact .inr unasked
    · exact .inl (List.append_ne_nil_of_left_ne_nil noted _)
    · exact .inl (List.append_ne_nil_of_right_ne_nil _ noted)
  rw [← sameRequirements] at readable ⊢
  obtain ⟨extra, listed⟩ := readable.exists_extra
  have passed : (verdictOn (outline.document extra) outline.requirements []).passed = true :=
    Outline.passed_verdictOn lenient
  refine ⟨_, _, draftFromTemplate_eq isOutline listed,
    Outline.reviewByRules_document readable listed, passed, rfl, ?_⟩
  rw [passed_eq_not_needsReview] at passed
  simpa using passed

/-- A request whose texts end in a letter that has a small form of its own there, with one
requirement of each kind. -/
theorem draftFromTemplate_accepted_demanding :
    let request : PolicyRequest :=
      { service := "ΝΑΟΣ"
        requirements :=
          [("compliance", .text "ISO 27001\n"),
            ("additional_requirements",
              .list [.text "ΟΔΟΣ", .null, .bool true, .int (-7), .text "",
                .list [.text "a", .list []], .record [("ΣΟΦΟΣ", .text "İ")]]),
            ("require_review", .text "yes")]
        refinementNotes := [""] }
    ∃ content review, draftFromTemplate { data := .payload (.policy request) } = .ok content ∧
      reviewByRules standardSections content request.requirements = .ok review ∧
      review.passed = true ∧ review.issues = [] ∧ review.needsReview = false := by
  intro request
  exact draftFromTemplate_accepted rfl
    { framework := .inr ⟨_, rfl⟩, additional := .inr (.inr (.inl ⟨_, rfl⟩)) }
    (.inr (.inr (by simp [request])))

end StepGraph
