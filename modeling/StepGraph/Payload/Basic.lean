import StepGraph.Value.Rendering

namespace StepGraph

/-- The verdict of a reviewer on a text. -/
structure Review where
  passed : Bool
  issues : List String := []
  warnings : List String := []
  recommendations : List String := []
  needsReview : Bool := false
deriving Repr, BEq, DecidableEq, Inhabited

/-- A policy on its way from a request to a finished draft. -/
structure PolicyRequest where
  service : String := ""
  requirements : Entries := []
  complexity : String := "simple"
  riskLevel : String := "low"
  threatContext : List String := []
  complianceContext : List String := []
  similarPolicies : List String := []
  bestPractices : List String := []
  reviewNotes : List String := []
  refinementNotes : List String := []
  policyDraft : String := ""
  validation : Option Review := none
  validatedDraft : Option String := none
  confidenceScore : Float := 0
  refinementCount : Int := 0
  maxRefinements : Int := 2
  status : String := "draft"
deriving Repr, BEq, Inhabited

/-- A threat on its way from a report to a response. -/
structure ThreatReport where
  threatId : String := ""
  threatData : Entries := []
  severity : String := "low"
  similarThreats : List String := []
  mitigationStrategies : List String := []
  affectedPolicies : List String := []
  impactAnalysis : Entries := []
  recommendations : List String := []
  actions : List String := []
  notifications : List String := []
  status : String := "analyzing"
deriving Repr, BEq, Inhabited

/-- A policy examined against a compliance framework. -/
structure ComplianceCase where
  policyId : String := ""
  policy : String := ""
  framework : String := ""
  requirements : List String := []
  validation : Option Review := none
  verdict : String := "pending"
  gaps : List String := []
  recommendations : List String := []
  auditTrail : List Entries := []
  status : String := "validating"
deriving Repr, BEq, Inhabited

inductive WorkflowKind where
  | policyGeneration
  | threatResponse
  | complianceValidation
deriving Repr, DecidableEq, Inhabited

namespace WorkflowKind

def all : List WorkflowKind :=
  [.policyGeneration, .threatResponse, .complianceValidation]

def name : WorkflowKind → String
  | .policyGeneration => "policy_generation"
  | .threatResponse => "threat_response"
  | .complianceValidation => "compliance_validation"

def ofName? (name : String) : Option WorkflowKind :=
  all.find? (·.name == name)

end WorkflowKind

inductive Payload where
  | policy (request : PolicyRequest)
  | threat (report : ThreatReport)
  | compliance (examined : ComplianceCase)
deriving Repr, BEq, Inhabited

namespace Payload

def kind : Payload → WorkflowKind
  | .policy _ => .policyGeneration
  | .threat _ => .threatResponse
  | .compliance _ => .complianceValidation

def formName : Payload → String
  | .policy _ => "PolicyGenerationData"
  | .threat _ => "ThreatResponseData"
  | .compliance _ => "ComplianceValidationData"

end Payload

/-- What a state carries. -/
inductive Data where
  | plain (value : Value)
  | payload (carried : Payload)
deriving Repr, BEq, Inhabited

namespace Data

def kindName : Data → String
  | .plain value => value.kindName
  | .payload carried => carried.formName

def policy? : Data → Option PolicyRequest
  | .payload (.policy request) => some request
  | _ => none

def threat? : Data → Option ThreatReport
  | .payload (.threat report) => some report
  | _ => none

def compliance? : Data → Option ComplianceCase
  | .payload (.compliance examined) => some examined
  | _ => none

end Data

end StepGraph
