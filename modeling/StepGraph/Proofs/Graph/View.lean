import StepGraph.Graph.View
import StepGraph.Proofs.Graph.Closing
import StepGraph.Proofs.Json.Token
import StepGraph.Proofs.Order

namespace StepGraph

/-! ### Entries under their texts -/

section

variable {α : Type} {key : String} {initial : α} {change : α → α} {entries : List (String × α)}

theorem keys_updateKey : (updateKey key initial change entries).map (·.1) =
    if key ∈ entries.map (·.1) then entries.map (·.1) else entries.map (·.1) ++ [key] := by
  induction entries with
  | nil => rfl
  | cons entry rest ih =>
      obtain ⟨k, a⟩ := entry
      by_cases same : k = key
      · simp [updateKey, same]
      · by_cases member : key ∈ rest.map (·.1) <;>
          simp only [updateKey, if_neg same, List.map_cons, List.mem_cons, Ne.symm same, member, ih,
            if_true, if_false, or_true, or_self, List.cons_append]

theorem updateKey_of_notMem (fresh : key ∉ entries.map (·.1)) :
    updateKey key initial change entries = entries ++ [(key, change initial)] := by
  induction entries with
  | nil => rfl
  | cons entry rest ih =>
      obtain ⟨other, apart⟩ := not_or.mp (List.mem_cons.not.mp fresh)
      rw [updateKey, if_neg (Ne.symm other), ih apart, List.cons_append]

end

namespace Edge

def text (edge : Edge) : String :=
  edge.outcome.value.plain

def entry (edge : Edge) : String × List String :=
  (edge.text, edge.successors)

end Edge

namespace Route

variable {route : Route}

def texts (route : Route) : List String :=
  route.edges.map (·.text)

def entries (edges : List Edge) : List (String × List String) :=
  edges.foldl
    (fun entries edge =>
      updateKey edge.text edge.successors (fun _ => edge.successors) entries) []

theorem entries_concat (edges : List Edge) (edge : Edge) :
    entries (edges ++ [edge]) =
      updateKey edge.text edge.successors (fun _ => edge.successors) (entries edges) :=
  List.foldl_append ..

/-- Each text has one entry, in the place where it came up first. -/
theorem keys_entries (edges : List Edge) :
    (entries edges).map (·.1) = (edges.map (·.text)).eraseDups := by
  induction edges using List.reverseRecOn with
  | nil => rfl
  | append_singleton edges edge ih =>
      rw [entries_concat, keys_updateKey, ih, List.map_append, List.eraseDups_append,
        List.map_singleton, List.removeAll, List.filter_singleton]
      by_cases member : edge.text ∈ edges.map (·.text)
      · simp [member]
      · simp [member, List.eraseDups_cons]

theorem lookup_entries (edges : List Edge) (text : String) :
    (entries edges).lookup text =
      (edges.reverse.find? (·.text == text)).map (·.successors) := by
  induction edges using List.reverseRecOn with
  | nil => rfl
  | append_singleton edges edge ih =>
      rw [entries_concat, lookup_updateKey, ih, List.reverse_concat, List.find?_cons]
      by_cases same : text = edge.text
      · simp [same]
      · simp [same, beq_false_of_ne (Ne.symm same)]

theorem entries_of_nodup {edges : List Edge} (distinct : (edges.map (·.text)).Nodup) :
    entries edges = edges.map (·.entry) := by
  induction edges using List.reverseRecOn with
  | nil => rfl
  | append_singleton edges edge ih =>
      rw [List.map_append, List.map_singleton, List.nodup_append] at distinct
      obtain ⟨earlier, -, apart⟩ := distinct
      have fresh : edge.text ∉ (entries edges).map (·.1) := by
        rw [keys_entries, List.mem_eraseDups]
        exact fun member => apart _ member _ List.mem_cons_self rfl
      rw [entries_concat, updateKey_of_notMem fresh, ih earlier, List.map_append]
      rfl

theorem entries_eq_iff {edges : List Edge} :
    entries edges = edges.map (·.entry) ↔ (edges.map (·.text)).Nodup := by
  refine ⟨fun kept => ?_, entries_of_nodup⟩
  have keys := congrArg (List.map (·.1)) kept
  rw [keys_entries, List.map_map] at keys
  have texts : (edges.map (·.text)).eraseDups = edges.map (·.text) := keys
  exact texts ▸ nodup_eraseDups _

end Route

/-! ### Outcomes of one kind -/

namespace Decimal

theorem repr_injective : Function.Injective Nat.repr := fun m n same => by
  rw [← natOf_digitsOf m, ← natOf_digitsOf n]
  exact congrArg natOf (String.ofList_injective same)

/-- A whole number begins with its sign or a digit, so it reads like no word. -/
theorem intRepr_ne (n : Int) {c : Char} {word : List Char} (sign : c ≠ '-')
    (digit : isDigit c = false) : Int.repr n ≠ String.ofList (c :: word) := fun same => by
  have chars := congrArg String.toList same
  rw [String.toList_ofList] at chars
  cases n with
  | ofNat n =>
      obtain ⟨first, tail, digits, isDigit⟩ := digitsOf_head n
      rw [Int.repr, Nat.repr, String.toList_ofList] at chars
      exact ne_of_isDigit isDigit digit (List.cons.inj (digits.symm.trans chars)).1
  | negSucc n =>
      rw [Int.repr, String.toList_append] at chars
      exact sign (List.cons.inj chars).1.symm

theorem intRepr_injective : Function.Injective Int.repr := by
  have signed (m n : Nat) : Nat.repr m ≠ "-" ++ Nat.repr n := fun same => by
    obtain ⟨c, tail, digits, digit⟩ := digitsOf_head m
    have chars := congrArg String.toList same
    rw [String.toList_append, Nat.repr, String.toList_ofList] at chars
    exact ne_of_isDigit digit rfl (List.cons.inj (digits.symm.trans chars)).1
  intro m n same
  cases m with
  | ofNat m =>
      cases n with
      | ofNat n => exact congrArg Int.ofNat (repr_injective same)
      | negSucc n => exact absurd same (signed m _)
  | negSucc m =>
      cases n with
      | ofNat n => exact absurd same.symm (signed n _)
      | negSucc n =>
          have digits := repr_injective ((String.append_right_inj _).mp same)
          rw [Nat.succ.inj digits]

end Decimal

namespace Value

inductive Discrete : Value → Prop
  | null : Discrete .null
  | bool (b : Bool) : Discrete (.bool b)
  | int (n : Int) : Discrete (.int n)

def words : List Value :=
  [.null, .bool true, .bool false]

theorem Discrete.number_or_word {value : Value} (discrete : value.Discrete) :
    (∃ n, value = .int n) ∨ value ∈ words := by
  cases discrete with
  | null => exact .inr (by simp [words])
  | bool b => exact .inr (by cases b <;> simp [words])
  | int n => exact .inl ⟨n, rfl⟩

theorem intRepr_ne_word (n : Int) : ∀ value ∈ words, Int.repr n ≠ value.plain := by
  simp only [words, List.forall_mem_cons]
  exact ⟨Decimal.intRepr_ne n (c := 'N') (by decide) rfl,
    Decimal.intRepr_ne n (c := 'T') (by decide) rfl,
    Decimal.intRepr_ne n (c := 'F') (by decide) rfl, by simp⟩

theorem Discrete.plain_injective {first second : Value} (left : first.Discrete)
    (right : second.Discrete) (same : first.plain = second.plain) : first = second := by
  rcases left.number_or_word with ⟨m, rfl⟩ | left
  · rcases right.number_or_word with ⟨n, rfl⟩ | right
    · exact congrArg Value.int (Decimal.intRepr_injective same)
    · exact absurd same (intRepr_ne_word m _ right)
  · rcases right.number_or_word with ⟨n, rfl⟩ | right
    · exact absurd same.symm (intRepr_ne_word n _ left)
    · simp only [words, List.mem_cons, List.not_mem_nil, or_false] at left right
      rcases left with rfl | rfl | rfl <;> rcases right with rfl | rfl | rfl <;>
        first | rfl | exact absurd same (by decide)

end Value

namespace Route

/-- All outcomes are texts, or none is and each is one of the discrete values. -/
def Uniform (route : Route) : Prop :=
  (∀ edge ∈ route.edges, ∃ s, edge.outcome.value = .text s) ∨
    ∀ edge ∈ route.edges, edge.outcome.value.Discrete

theorem Uniform.nodup_texts {route : Route} (uniform : route.Uniform)
    (keys : (route.edges.map (·.outcome.key)).Nodup) : route.texts.Nodup := by
  have injective : ∀ first ∈ route.edges, ∀ second ∈ route.edges, first.text = second.text →
      first.outcome.value = second.outcome.value := by
    rcases uniform with texts | discrete
    · intro first here second there same
      obtain ⟨s, left⟩ := texts first here
      obtain ⟨t, right⟩ := texts second there
      simp only [Edge.text, left, right, Value.plain] at same
      rw [left, right, same]
    · exact fun first here second there same =>
        (discrete first here).plain_injective (discrete second there) same
  rw [List.Nodup, List.pairwise_map] at keys
  rw [texts, List.Nodup, List.pairwise_map]
  refine keys.imp_of_mem fun {first second} here there apart same => apart ?_
  have value := injective first here second there same
  have known := first.outcome.key_eq
  rw [value, second.outcome.key_eq] at known
  exact (Option.some.inj known).symm

end Route

/-! ### Views -/

/-- What the view of a step shows of the route out of it. -/
structure Route.Shown (route : Route) (view : StepView) : Prop where
  /-- Each text once, in the order in which the texts come up. -/
  texts : view.edges.map (·.1) = route.texts.eraseDups
  successors : ∀ text, view.edges.lookup text =
    (route.edges.reverse.find? (·.text == text)).map (·.successors)
  faithful : view.edges = route.edges.map (·.entry) ↔ route.texts.Nodup
  lines_length : view.lines.length = route.texts.eraseDups.length + 1
  /-- Without repeated texts there is one line for each outcome, with the successors of its edge. -/
  lines : route.texts.Nodup →
    view.lines.tail = route.edges.map fun edge => StepView.edgeLine edge.entry

namespace Definition

variable {definition : Definition}

def view (definition : Definition) (step : StepSpec) : StepView :=
  ⟨step.name, step.fatal, definition.edgeTexts step.name⟩

theorem steps_describe : definition.describe.steps = definition.steps.map definition.view := rfl

theorem heads_describe : definition.describe.steps.map (fun view => (view.name, view.fatal)) =
    definition.steps.map fun step => (step.name, step.fatal) := by
  rw [steps_describe, List.map_map]
  rfl

theorem shown_view {step : StepSpec} {route : Route}
    (routed : definition.route? step.name = some route) : route.Shown (definition.view step) := by
  have edges : (definition.view step).edges = Route.entries route.edges := by
    rw [view, edgeTexts, routed]
    rfl
  have texts : (definition.view step).edges.map (·.1) = route.texts.eraseDups :=
    edges ▸ Route.keys_entries _
  have lines : (definition.view step).lines.tail =
      (definition.view step).edges.map StepView.edgeLine := rfl
  refine ⟨texts, fun text => edges ▸ Route.lookup_entries _ text, edges ▸ Route.entries_eq_iff,
    ?_, fun distinct => ?_⟩
  · rw [← texts, List.length_map, StepView.lines, List.length_cons, List.length_map]
  · rw [lines, edges, Route.entries_of_nodup distinct, List.map_map]
    rfl

theorem lines_infix {view : StepView} (member : view ∈ definition.describe.steps) :
    view.lines <:+: definition.describe.lines := by
  have within : view.lines <:+: definition.describe.steps.flatMap (·.lines) :=
    List.infix_of_mem_flatten (List.mem_map_of_mem member)
  exact within.trans (List.suffix_append _ _).isInfix

theorem edges_view {step : StepSpec}
    (unrouted : ∀ route ∈ definition.routes, route.source ≠ step.name) :
    (definition.view step).edges = [] := by
  have none : definition.route? step.name = none :=
    List.find?_eq_none.mpr fun route member => by simpa using unrouted route member
  rw [view, edgeTexts, none]

theorem existsUnique_view {name : String} (declared : definition.declares name)
    (names : definition.stepNames.Nodup) :
    ∃! view, view ∈ definition.describe.steps ∧ view.name = name := by
  obtain ⟨step, member, isName⟩ := List.mem_map.mp (List.contains_iff_mem.mp declared)
  refine ⟨definition.view step, ⟨List.mem_map_of_mem member, isName⟩, ?_⟩
  rintro _ ⟨shown, same⟩
  obtain ⟨other, declared, rfl⟩ := List.mem_map.mp shown
  exact congrArg definition.view
    (List.inj_on_of_nodup_map names declared member (same.trans isName.symm))

theorem route?_source {route : Route} (sources : (definition.routes.map (·.source)).Nodup)
    (member : route ∈ definition.routes) : definition.route? route.source = some route := by
  obtain ⟨other, found⟩ := Option.isSome_iff_exists.mp
    (List.find?_isSome (p := fun other => other.source == route.source).mpr
      ⟨route, member, beq_self_eq_true _⟩)
  have same : other.source = route.source := by simpa using List.find?_some found
  have isRoute := List.inj_on_of_nodup_map sources (List.mem_of_find?_eq_some found) member same
  exact isRoute ▸ found

end Definition

namespace Draft

/-- The view of a compiled definition has every step in the order of declaration. The edges out of a
step come to one entry for each text of an outcome; none is lost just where no two outcomes of the
step have one text, as is the case for outcomes of one kind. -/
theorem Drawn.describe {draft : Draft} (drawn : draft.Drawn) {tag : Nat} {definition : Definition}
    (compiled : draft.compile tag = .ok definition) :
    definition.describe.steps.map (fun view => (view.name, view.fatal)) =
        definition.steps.map (fun step => (step.name, step.fatal)) ∧
      (∀ view ∈ definition.describe.steps, view.lines <:+: definition.describe.lines ∧
        ((∀ route ∈ definition.routes, route.source ≠ view.name) → view.edges = [])) ∧
      ∀ route ∈ definition.routes,
        (∃! view, view ∈ definition.describe.steps ∧ view.name = route.source) ∧
        (∀ view ∈ definition.describe.steps, view.name = route.source → route.Shown view) ∧
        (route.Uniform → route.texts.Nodup) := by
  obtain ⟨built, wellFormed⟩ := compile_eq_ok_iff.mp compiled
  have distinct := drawn.distinct
  cases eq_assembled_of_build built
  refine ⟨Definition.heads_describe,
    fun view shown => ⟨Definition.lines_infix shown, fun unrouted => ?_⟩,
    fun route member => ⟨?_, fun view shown isSource => ?_, fun uniform => ?_⟩⟩
  · obtain ⟨step, -, rfl⟩ := List.mem_map.mp shown
    exact Definition.edges_view unrouted
  · exact Definition.existsUnique_view (wellFormed.source_declared route member)
      distinct.steps
  · obtain ⟨step, -, rfl⟩ := List.mem_map.mp shown
    have isName : step.name = route.source := isSource
    exact Definition.shown_view (isName ▸ Definition.route?_source distinct.sources member)
  · exact uniform.nodup_texts (distinct.keys route member)

def idle (name : String) : StepSpec :=
  { name, action := .done .nothing }

def tally : Draft where
  name := "tally"
  steps := [idle "check", idle "publish"]
  entry := some "check"
  terminals := ["publish"]

def spelled : Mapping :=
  [(.plain (.int 1), ["publish"]), (.plain (.text "1"), ["check"])]

theorem drawn_tally : tally.Drawn := by
  have blank := Drawn.blank "tally" none none
  have first := blank.step (show Draft.addStep _ (idle "check") = .ok _ from rfl)
  have second := first.step (show Draft.addStep _ (idle "publish") = .ok _ from rfl)
  exact (second.entry "check").terminals ["publish"]

theorem compiles_tally : ∃ wired, wired.Drawn ∧
    tally.addConditional "check" (.done (.plain (.int 1))) spelled none = .ok wired ∧
    wired.compile 0 = .ok (wired.assembled 0) := by
  obtain ⟨wired, wires⟩ : ∃ wired, tally.addConditional "check" (.done (.plain (.int 1))) spelled
      none = .ok wired := ⟨_, rfl⟩
  refine ⟨wired, drawn_tally.conditional wires, wires, ?_⟩
  have structured : (wired.assembled 0).Structured := by
    cases wires
    exact Definition.structured_of_checks rfl (List.cons_ne_nil _ _) rfl
  have wellFormed : (wired.assembled 0).WellFormed := by
    cases wires
    refine structured.wellFormed ?_ ?_ ?_ <;> decide +kernel
  exact compile_eq_ok (by cases wires; rfl) wellFormed

theorem Drawn.describe_tally : ∃ (wired : Draft) (definition : Definition),
    wired.Drawn ∧ wired.compile 0 = .ok definition ∧ ∃ route ∈ definition.routes,
      ∃ view ∈ definition.describe.steps, view.name = route.source ∧ ¬ route.texts.Nodup ∧
      view.edges ≠ route.edges.map (·.entry) ∧ view.edges.lookup "1" = some ["check"] ∧
      view.lines.length = 2 := by
  obtain ⟨wired, drawn, wires, compiled⟩ := compiles_tally
  obtain ⟨-, -, routes⟩ := drawn.describe compiled
  refine ⟨wired, wired.assembled 0, drawn, compiled, ?_⟩
  cases wires
  obtain ⟨⟨view, ⟨shown, isSource⟩, -⟩, views, -⟩ := routes _ List.mem_cons_self
  have isShown := views view shown isSource
  refine ⟨_, List.mem_cons_self, view, shown, isSource, by decide, ?_,
    isShown.successors "1", isShown.lines_length⟩
  exact fun kept => absurd (isShown.faithful.mp kept) (by decide)

/-- The successors for the number are nowhere in the view: the text that spells it took their
place. -/
theorem describe_loses_edge : ∃ (wired : Draft) (definition : Definition) (route : Route)
    (first second : Edge), wired.Drawn ∧ wired.compile 0 = .ok definition ∧
      definition.routes = [route] ∧ route.edges = [first, second] ∧
      first.outcome.key ≠ second.outcome.key ∧ first.successors = ["publish"] ∧
      second.successors = ["check"] ∧
      definition.describe.steps =
        [⟨"check", false, [("1", ["check"])]⟩, ⟨"publish", false, []⟩] := by
  obtain ⟨wired, drawn, wires, compiled⟩ := compiles_tally
  refine ⟨wired, wired.assembled 0, ?_⟩
  cases wires
  exact ⟨_, _, _, drawn, compiled, rfl, rfl, by decide, rfl, rfl, rfl⟩

end Draft

end StepGraph
