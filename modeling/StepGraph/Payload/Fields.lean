import StepGraph.Payload.Basic
import StepGraph.Form
import StepGraph.Json.Printer

namespace StepGraph

def Value.ofTexts (texts : List String) : Value :=
  .list (texts.map .text)

def Value.ofText? (text : Option String) : Value :=
  (text.map Value.text).getD .null

namespace Review

def entries (review : Review) : Entries :=
  [("passed", .bool review.passed),
    ("issues", .ofTexts review.issues),
    ("warnings", .ofTexts review.warnings),
    ("recommendations", .ofTexts review.recommendations),
    ("needs_review", .bool review.needsReview)]

def ofEntries (entries : Entries) : Checked Review :=
  Review.mk
    <$> Form.field entries "passed" Form.bool none
    <*> Form.field entries "issues" Form.texts (some [])
    <*> Form.field entries "warnings" Form.texts (some [])
    <*> Form.field entries "recommendations" Form.texts (some [])
    <*> Form.field entries "needs_review" Form.bool (some false)

def value? (review : Option Review) : Value :=
  match review with
  | some review => .record review.entries
  | none => .null

end Review

namespace PolicyRequest

def entries (request : PolicyRequest) : Entries :=
  [("kind", .text WorkflowKind.policyGeneration.name),
    ("service", .text request.service),
    ("requirements", .record request.requirements),
    ("complexity", .text request.complexity),
    ("risk_level", .text request.riskLevel),
    ("threat_context", .ofTexts request.threatContext),
    ("compliance_context", .ofTexts request.complianceContext),
    ("similar_policies", .ofTexts request.similarPolicies),
    ("best_practices", .ofTexts request.bestPractices),
    ("review_notes", .ofTexts request.reviewNotes),
    ("refinement_notes", .ofTexts request.refinementNotes),
    ("policy_draft", .text request.policyDraft),
    ("validation", Review.value? request.validation),
    ("validated_draft", .ofText? request.validatedDraft),
    ("confidence_score", .float request.confidenceScore),
    ("refinement_count", .int request.refinementCount),
    ("max_refinements", .int request.maxRefinements),
    ("status", .text request.status)]

def ofEntries (entries : Entries) : Checked PolicyRequest :=
  PolicyRequest.mk
    <$> Form.field entries "service" Form.text (some "")
    <*> Form.field entries "requirements" Form.record (some [])
    <*> Form.field entries "complexity" Form.text (some "simple")
    <*> Form.field entries "risk_level" Form.text (some "low")
    <*> Form.field entries "threat_context" Form.texts (some [])
    <*> Form.field entries "compliance_context" Form.texts (some [])
    <*> Form.field entries "similar_policies" Form.texts (some [])
    <*> Form.field entries "best_practices" Form.texts (some [])
    <*> Form.field entries "review_notes" Form.texts (some [])
    <*> Form.field entries "refinement_notes" Form.texts (some [])
    <*> Form.field entries "policy_draft" Form.text (some "")
    <*> Form.field entries "validation" (Form.optional (Form.nested Review.ofEntries)) (some none)
    <*> Form.field entries "validated_draft" (Form.optional Form.text) (some none)
    <*> Form.field entries "confidence_score" Form.float (some 0)
    <*> Form.field entries "refinement_count" Form.int (some 0)
    <*> Form.field entries "max_refinements" (Form.intAtLeast 0) (some 2)
    <*> Form.field entries "status" Form.text (some "draft")

end PolicyRequest

namespace ThreatReport

def entries (report : ThreatReport) : Entries :=
  [("kind", .text WorkflowKind.threatResponse.name),
    ("threat_id", .text report.threatId),
    ("threat_data", .record report.threatData),
    ("severity", .text report.severity),
    ("similar_threats", .ofTexts report.similarThreats),
    ("mitigation_strategies", .ofTexts report.mitigationStrategies),
    ("affected_policies", .ofTexts report.affectedPolicies),
    ("impact_analysis", .record report.impactAnalysis),
    ("recommendations", .ofTexts report.recommendations),
    ("actions", .ofTexts report.actions),
    ("notifications", .ofTexts report.notifications),
    ("status", .text report.status)]

def ofEntries (entries : Entries) : Checked ThreatReport :=
  ThreatReport.mk
    <$> Form.field entries "threat_id" Form.text (some "")
    <*> Form.field entries "threat_data" Form.record (some [])
    <*> Form.field entries "severity" Form.text (some "low")
    <*> Form.field entries "similar_threats" Form.texts (some [])
    <*> Form.field entries "mitigation_strategies" Form.texts (some [])
    <*> Form.field entries "affected_policies" Form.texts (some [])
    <*> Form.field entries "impact_analysis" Form.record (some [])
    <*> Form.field entries "recommendations" Form.texts (some [])
    <*> Form.field entries "actions" Form.texts (some [])
    <*> Form.field entries "notifications" Form.texts (some [])
    <*> Form.field entries "status" Form.text (some "analyzing")

end ThreatReport

namespace ComplianceCase

def entries (examined : ComplianceCase) : Entries :=
  [("kind", .text WorkflowKind.complianceValidation.name),
    ("policy_id", .text examined.policyId),
    ("policy", .text examined.policy),
    ("framework", .text examined.framework),
    ("requirements", .ofTexts examined.requirements),
    ("validation", Review.value? examined.validation),
    ("verdict", .text examined.verdict),
    ("gaps", .ofTexts examined.gaps),
    ("recommendations", .ofTexts examined.recommendations),
    ("audit_trail", .list (examined.auditTrail.map .record)),
    ("status", .text examined.status)]

def ofEntries (entries : Entries) : Checked ComplianceCase :=
  ComplianceCase.mk
    <$> Form.field entries "policy_id" Form.text (some "")
    <*> Form.field entries "policy" Form.text (some "")
    <*> Form.field entries "framework" Form.text (some "")
    <*> Form.field entries "requirements" Form.texts (some [])
    <*> Form.field entries "validation" (Form.optional (Form.nested Review.ofEntries)) (some none)
    <*> Form.field entries "verdict" Form.text (some "pending")
    <*> Form.field entries "gaps" Form.texts (some [])
    <*> Form.field entries "recommendations" Form.texts (some [])
    <*> Form.field entries "audit_trail" (Form.list Form.record) (some [])
    <*> Form.field entries "status" Form.text (some "validating")

end ComplianceCase

namespace Payload

def entries : Payload → Entries
  | .policy request => request.entries
  | .threat report => report.entries
  | .compliance examined => examined.entries

def ofEntries (kind : WorkflowKind) (entries : Entries) : Checked Payload :=
  match kind with
  | .policyGeneration => Payload.policy <$> PolicyRequest.ofEntries entries
  | .threatResponse => Payload.threat <$> ThreatReport.ofEntries entries
  | .complianceValidation => Payload.compliance <$> ComplianceCase.ofEntries entries

/-- Builds a payload of a kind from plain data, an entry for the kind being overridden. Issues are
placed under the kind. -/
def parse (kind : String) (data : Value) : Fallible Payload :=
  match if data.holds then data else .record [] with
  | .record entries =>
      match WorkflowKind.ofName? kind with
      | none => .error (.refused [⟨.unknownTag, []⟩])
      | some kind => ((ofEntries kind entries).under (.field kind.name)).toFallible
  | data => .error (.fault .type s!"'{data.kindName}' object is not a mapping")

def document (payload : Payload) (without : List String) : String :=
  Json.Format.payload.print
    (.record (payload.entries.filter fun entry => !without.contains entry.1))

end Payload

def Data.document : Data → String
  | .payload carried => carried.document []
  | .plain value => Json.Format.data.print value

end StepGraph
