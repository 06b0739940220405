import StepGraph.Payload.Fields

namespace StepGraph

namespace Checked

variable {α β : Type}

@[simp] theorem map_ok (f : α → β) (value : α) : f <$> ok value = .ok (f value) := rfl

@[simp] theorem seq_ok (f : α → β) (value : α) : ok f <*> ok value = .ok (f value) := rfl

@[simp] theorem under_ok (step : PathStep) (value : α) : (ok value).under step = .ok value := rfl

def Ensures (P : α → Prop) (first : Checked α) : Prop :=
  ∀ value, first = .ok value → P value

theorem Ensures.of_forall {P : α → Prop} (all : ∀ value, P value) (first : Checked α) :
    first.Ensures P :=
  fun value _ => all value

theorem Ensures.map {P : β → Prop} {f : α → β} {first : Checked α}
    (builds : first.Ensures fun value => P (f value)) : (f <$> first).Ensures P := by
  intro result accepted
  cases first with
  | ok value =>
      cases accepted
      exact builds value rfl
  | bad issues => cases accepted

theorem Ensures.seq {P : β → Prop} {Q : α → Prop} {function : Checked (α → β)}
    {argument : Checked α} (reads : argument.Ensures Q)
    (builds : function.Ensures fun f => ∀ value, Q value → P (f value)) :
    (function <*> argument).Ensures P := by
  intro result accepted
  cases function with
  | ok f =>
      cases argument with
      | ok value =>
          cases accepted
          exact builds f rfl value (reads value rfl)
      | bad issues => cases accepted
  | bad issues => cases argument <;> cases accepted

theorem Ensures.seq_any {P : β → Prop} {function : Checked (α → β)} {argument : Checked α}
    (builds : function.Ensures fun f => ∀ value, P (f value)) :
    (function <*> argument).Ensures P :=
  .seq (Q := fun _ => True) (.of_forall (fun _ => trivial) argument)
    fun f made value _ => builds f made value

theorem under_eq_ok_iff {step : PathStep} {first : Checked α} {value : α} :
    first.under step = .ok value ↔ first = .ok value := by
  cases first <;> simp [under]

theorem toFallible_eq_ok_iff {first : Checked α} {value : α} :
    first.toFallible = .ok value ↔ first = .ok value := by
  cases first <;> simp [toFallible]

theorem all_map {read : α → Checked β} {put : β → α}
    (restores : ∀ value, read (put value) = .ok value) (position : Nat) (values : List β) :
    all read position (values.map put) = .ok values := by
  induction values generalizing position with
  | nil => rfl
  | cons value rest ih =>
      rw [List.map_cons, all, restores, ih]
      rfl

end Checked

namespace Form

@[simp] theorem text_text (s : String) : text (.text s) = .ok s := rfl

@[simp] theorem bool_bool (b : Bool) : bool (.bool b) = .ok b := rfl

@[simp] theorem int_int (n : Int) : int (.int n) = .ok n := rfl

@[simp] theorem float_float (x : Float) : float (.float x) = .ok x := rfl

@[simp] theorem record_record (entries : Entries) : record (.record entries) = .ok entries := rfl

@[simp] theorem texts_ofTexts (items : List String) : texts (.ofTexts items) = .ok items :=
  Checked.all_map text_text 0 items

@[simp] theorem list_records (records : List Entries) :
    list record (.list (records.map .record)) = .ok records :=
  Checked.all_map record_record 0 records

@[simp] theorem optional_ofText? (s : Option String) :
    optional text (.ofText? s) = .ok s := by
  cases s <;> rfl

theorem intAtLeast_int {bound n : Int} (within : bound ≤ n) :
    intAtLeast bound (.int n) = .ok n := by
  rw [intAtLeast, int_int]
  exact if_neg (Int.not_lt.mpr within)

theorem le_of_intAtLeast {bound n : Int} {value : Value}
    (accepted : intAtLeast bound value = .ok n) : bound ≤ n := by
  unfold intAtLeast at accepted
  split at accepted
  · split at accepted
    · cases accepted
    · next notBelow =>
        cases accepted
        exact Int.not_lt.mp notBelow
  · cases accepted

theorem field_eq_ok {α β : Type} {entries : List (String × α)} {name : String}
    {read : α → Checked β} {default : Option β} {result : β}
    (accepted : field entries name read default = .ok result) :
    (∃ value, read value = .ok result) ∨ default = some result := by
  unfold field at accepted
  split at accepted
  · next value _ => exact .inl ⟨value, Checked.under_eq_ok_iff.mp accepted⟩
  · split at accepted
    · cases accepted
      exact .inr rfl
    · cases accepted

end Form

/-! ### Payloads -/

theorem Review.ofEntries_entries (review : Review) : ofEntries review.entries = .ok review := by
  simp [ofEntries, entries, Form.field, List.lookup_cons]

@[simp] theorem Form.optional_review (review : Option Review) :
    optional (nested Review.ofEntries) (Review.value? review) = .ok review := by
  cases review with
  | none => rfl
  | some review =>
      change Checked.map some (Review.ofEntries review.entries) = _
      rw [Review.ofEntries_entries]
      rfl

theorem PolicyRequest.ofEntries_entries {request : PolicyRequest}
    (within : 0 ≤ request.maxRefinements) : ofEntries request.entries = .ok request := by
  simp [ofEntries, entries, Form.field, List.lookup_cons, Form.intAtLeast_int within]

theorem ThreatReport.ofEntries_entries (report : ThreatReport) :
    ofEntries report.entries = .ok report := by
  simp [ofEntries, entries, Form.field, List.lookup_cons]

theorem ComplianceCase.ofEntries_entries (examined : ComplianceCase) :
    ofEntries examined.entries = .ok examined := by
  simp [ofEntries, entries, Form.field, List.lookup_cons]

theorem PolicyRequest.bound_of_ofEntries (entries : Entries) :
    (ofEntries entries).Ensures fun request => 0 ≤ request.maxRefinements := by
  have read : (Form.field entries "max_refinements" (Form.intAtLeast 0) (some 2)).Ensures
      fun bound => 0 ≤ bound := by
    intro bound accepted
    obtain ⟨value, accepted⟩ | default := Form.field_eq_ok accepted
    · exact Form.le_of_intAtLeast accepted
    · cases default
      decide
  refine .seq_any (.seq read ?_)
  -- The fields in front of the bound.
  repeat refine .seq_any ?_
  refine .map (.of_forall ?_ _)
  intros
  assumption

@[simp] theorem WorkflowKind.ofName?_name (kind : WorkflowKind) :
    ofName? kind.name = some kind := by
  cases kind <;> rfl

namespace Payload

/-- The one bound that a field of a payload has. -/
def WithinBounds : Payload → Prop
  | .policy request => 0 ≤ request.maxRefinements
  | .threat _ => True
  | .compliance _ => True

theorem ofEntries_entries {payload : Payload} (within : payload.WithinBounds) :
    ofEntries payload.kind payload.entries = .ok payload := by
  cases payload with
  | policy request =>
      change Checked.map Payload.policy (PolicyRequest.ofEntries request.entries) = _
      rw [PolicyRequest.ofEntries_entries within]
      rfl
  | threat report =>
      change Checked.map Payload.threat (ThreatReport.ofEntries report.entries) = _
      rw [ThreatReport.ofEntries_entries]
      rfl
  | compliance examined =>
      change Checked.map Payload.compliance (ComplianceCase.ofEntries examined.entries) = _
      rw [ComplianceCase.ofEntries_entries]
      rfl

theorem ofEntries_ensures (kind : WorkflowKind) (entries : Entries) :
    (ofEntries kind entries).Ensures fun payload =>
      payload.kind = kind ∧ payload.WithinBounds := by
  cases kind with
  | policyGeneration =>
      exact .map fun request accepted =>
        ⟨rfl, PolicyRequest.bound_of_ofEntries entries request accepted⟩
  | threatResponse => exact .map (.of_forall (fun _ => ⟨rfl, trivial⟩) _)
  | complianceValidation => exact .map (.of_forall (fun _ => ⟨rfl, trivial⟩) _)

theorem lookup_kind_entries (payload : Payload) :
    payload.entries.lookup "kind" = some (.text payload.kind.name) := by
  cases payload <;> rfl

theorem parse_record (kind : WorkflowKind) (entries : Entries) :
    parse kind.name (.record entries) =
      ((ofEntries kind entries).under (.field kind.name)).toFallible := by
  cases entries <;> simp [parse, Value.holds]

theorem parse_eq_ok {kind : WorkflowKind} {data : Value} {payload : Payload}
    (accepted : parse kind.name data = .ok payload) :
    ∃ entries, ofEntries kind entries = .ok payload := by
  unfold parse at accepted
  split at accepted
  · next entries _ =>
      rw [WorkflowKind.ofName?_name] at accepted
      exact ⟨entries, Checked.under_eq_ok_iff.mp (Checked.toFallible_eq_ok_iff.mp accepted)⟩
  · cases accepted

theorem parse_entries {payload : Payload} (within : payload.WithinBounds) :
    parse payload.kind.name (.record payload.entries) = .ok payload := by
  rw [parse_record, ofEntries_entries within]
  rfl

/-- Reading settles a payload for good: whatever was read as a kind is a payload of that kind, keeps
its bounds and names the kind among its fields, and its fields are read as the same payload
again. -/
theorem parse_settled {kind : WorkflowKind} {data : Value} {payload : Payload}
    (accepted : parse kind.name data = .ok payload) :
    payload.kind = kind ∧ payload.WithinBounds ∧
      payload.entries.lookup "kind" = some (.text kind.name) ∧
      parse kind.name (.record payload.entries) = .ok payload := by
  obtain ⟨entries, made⟩ := parse_eq_ok accepted
  obtain ⟨rfl, within⟩ := ofEntries_ensures kind entries payload made
  exact ⟨rfl, within, payload.lookup_kind_entries, parse_entries within⟩

def loose : Value :=
  .record [("kind", .text "threat_response"),
    ("service", .text "gateway"),
    ("colour", .null),
    ("validation", .record [("passed", .text "YES"), ("needs_review", .int 0), ("seen", .list [])]),
    ("confidence_score", .bool true),
    ("refinement_count", .bool true),
    ("max_refinements", .text " +0_3.0 ")]

def tidy : PolicyRequest :=
  { service := "gateway",
    validation := some { passed := true },
    confidenceScore := 1,
    refinementCount := 1,
    maxRefinements := 3 }

theorem parse_settled_loose :
    parse WorkflowKind.policyGeneration.name loose = .ok (.policy tidy) ∧
      parse WorkflowKind.policyGeneration.name (.record tidy.entries) = .ok (.policy tidy) := by
  have accepted : parse WorkflowKind.policyGeneration.name loose = .ok (.policy tidy) := by
    have isYes : Form.yesWords.contains ("YES".map Char.toLower) = true := by decide +kernel
    have confirmed : Form.bool (.text "YES") = .ok true := if_pos isYes
    simp only [parse_record, loose, ofEntries, PolicyRequest.ofEntries, Review.ofEntries,
      Form.field, Form.optional, Form.nested, List.lookup_cons, List.lookup_nil,
      String.reduceBEq, confirmed]
    rfl
  obtain ⟨-, -, -, again⟩ := parse_settled accepted
  exact ⟨accepted, again⟩

end Payload

end StepGraph
