import StepGraph.CommandLine
import StepGraph.Proofs.Json.RoundTrip
import StepGraph.Proofs.Payload.Settled

namespace StepGraph

@[simp] theorem Value.exact_ofTexts (texts : List String) : (ofTexts texts).Exact := by
  simp [ofTexts]

@[simp] theorem Review.exact_value? (review : Option Review) : (value? review).Exact := by
  cases review with
  | none => exact .null
  | some review => simp [value?, entries, Entries.keys]

theorem ThreatReport.exact_entries {report : ThreatReport}
    (threat : (Value.record report.threatData).Exact)
    (impact : (Value.record report.impactAnalysis).Exact) :
    (Value.record report.entries).Exact := by
  refine .record ?_ ?_
  · simp [Entries.keys, entries]
  · simp only [entries, List.forall_mem_cons]
    simp [threat, impact]

theorem ComplianceCase.exact_entries {examined : ComplianceCase}
    (trail : ∀ entries ∈ examined.auditTrail, (Value.record entries).Exact) :
    (Value.record examined.entries).Exact := by
  have audit : (Value.list (examined.auditTrail.map .record)).Exact := by
    refine .list ?_
    intro item mem
    obtain ⟨entries, held, rfl⟩ := List.mem_map.mp mem
    exact trail entries held
  refine .record ?_ ?_
  · simp [Entries.keys, entries]
  · simp [entries, -Value.Exact.list_iff, audit]

theorem Payload.document_nil (payload : Payload) :
    payload.document [] = Json.Format.payload.print (.record payload.entries) := by
  have all : payload.entries.filter (fun entry => !([] : List String).contains entry.1) =
      payload.entries := List.filter_eq_self.mpr fun entry mem => rfl
  rw [document, all]

namespace CommandLine

theorem readInput_print (format : Json.Format) {entries : Entries}
    (exact : (Value.record entries).Exact) :
    readInput (some (format.print (.record entries))) = .ok (.record entries) := by
  have kept : (some (format.print (.record entries))).filter (!·.isEmpty) =
      some (format.print (.record entries)) := by
    simp [Json.print_isEmpty format exact]
  unfold readInput
  rw [kept]
  simp only [Json.parse_print format exact]
  rfl

theorem parse_readInput_document (payload : Payload) (within : payload.WithinBounds)
    (exact : (Value.record payload.entries).Exact) :
    (readInput (some (Data.payload payload).document) >>= Payload.parse payload.kind.name) =
      .ok payload := by
  rw [Data.document, Payload.document_nil, readInput_print _ exact]
  exact Payload.parse_entries within

/-- What is printed can be given as an input: plain data comes back as it was, and so does a threat
report or a policy under examination once it is read as the kind it is of. -/
theorem readInput_document :
    (∀ entries : Entries, (Value.record entries).Exact →
      readInput (some (Data.plain (.record entries)).document) = .ok (.record entries)) ∧
    (∀ report : ThreatReport, (Value.record report.threatData).Exact →
      (Value.record report.impactAnalysis).Exact →
      (readInput (some (Data.payload (.threat report)).document) >>=
        Payload.parse WorkflowKind.threatResponse.name) = .ok (.threat report)) ∧
    (∀ examined : ComplianceCase,
      (∀ entries ∈ examined.auditTrail, (Value.record entries).Exact) →
      (readInput (some (Data.payload (.compliance examined)).document) >>=
        Payload.parse WorkflowKind.complianceValidation.name) = .ok (.compliance examined)) := by
  refine ⟨?plain, ?threat, ?compliance⟩
  case plain =>
    intro entries exact
    exact readInput_print .data exact
  case threat =>
    intro report threat impact
    exact parse_readInput_document (.threat report) trivial
      (ThreatReport.exact_entries threat impact)
  case compliance =>
    intro examined trail
    exact parse_readInput_document (.compliance examined) trivial
      (ComplianceCase.exact_entries trail)

/-- Nested entries with escapes of every kind, a character beyond the basic plane, and containers
without anything in them. -/
def assorted : Entries :=
  [("a \"b\" \\", .text "\t\n\r\x08\x0c\x00\x7f é 𝄞"),
    ("", .list [.int (-120), .int 0, .null, .list [], .record [], .list [.bool true]]),
    ("𝄞", .record [("k", .record [("k", .text "")])])]

def reported : ThreatReport :=
  { threatId := "𝄞", impactAnalysis := assorted, actions := ["\n", ""] }

def audited : ComplianceCase :=
  { validation := some { passed := false, issues := ["é", "\x00"] },
    auditTrail := [assorted, []] }

theorem exact_assorted : (Value.record assorted).Exact := by
  simp only [assorted, Value.Exact.record_iff, Entries.keys]
  simp [Entries.keys]
  decide

theorem readInput_document_assorted :
    readInput (some (Data.plain (.record assorted)).document) = .ok (.record assorted) ∧
    (readInput (some (Data.payload (.threat reported)).document) >>=
      Payload.parse WorkflowKind.threatResponse.name) = .ok (.threat reported) ∧
    (readInput (some (Data.payload (.compliance audited)).document) >>=
      Payload.parse WorkflowKind.complianceValidation.name) = .ok (.compliance audited) := by
  have empty : (Value.record []).Exact := .record .nil nofun
  obtain ⟨plain, threat, compliance⟩ := readInput_document
  refine ⟨plain assorted exact_assorted, threat reported empty exact_assorted,
    compliance audited ?_⟩
  intro entries mem
  obtain rfl | rfl : entries = assorted ∨ entries = [] := by simpa [audited] using mem
  · exact exact_assorted
  · exact empty

end CommandLine

end StepGraph
