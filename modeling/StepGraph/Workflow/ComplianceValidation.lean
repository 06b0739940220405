import StepGraph.Workflow.Basic

namespace StepGraph.ComplianceValidation

inductive Framework where
  | soc2
  | iso27001
  | nist
  | cis
deriving Repr, DecidableEq

instance : OutcomeFamily Framework where
  familyName := "Framework"
  members := [.soc2, .iso27001, .nist, .cis]
  memberName
    | .soc2 => "SOC2"
    | .iso27001 => "ISO27001"
    | .nist => "NIST"
    | .cis => "CIS"
  outcomeText
    | .soc2 => "SOC2"
    | .iso27001 => "ISO27001"
    | .nist => "NIST"
    | .cis => "CIS"

inductive Verdict where
  | compliant
  | partly
  | nonCompliant
deriving Repr, DecidableEq

instance : OutcomeFamily Verdict where
  familyName := "Verdict"
  members := [.compliant, .partly, .nonCompliant]
  memberName
    | .compliant => "COMPLIANT"
    | .partly => "PARTIAL"
    | .nonCompliant => "NON_COMPLIANT"
  outcomeText
    | .compliant => "compliant"
    | .partly => "partial"
    | .nonCompliant => "non_compliant"

def Framework.text (framework : Framework) : String :=
  OutcomeFamily.outcomeText framework

def Verdict.text (verdict : Verdict) : String :=
  OutcomeFamily.outcomeText verdict

/-- The framework a name means, whatever its case and the blanks around it. -/
def normaliseFramework (name : String) : Framework :=
  let candidate := String.ofList (Text.upper (Text.strip name.toList))
  (OutcomeFamily.ofText? Framework candidate).getD .cis

def significantWords (requirement : String) : List (List Char) :=
  (Text.words (Text.lower requirement.toList)).filter (3 < ·.length)

/-- Whether at least half of the words that count appear in the policy. -/
def requirementCovered (requirement policy : String) : Bool :=
  let words := significantWords requirement
  let lowered := Text.lower policy.toList
  words.length ≤ (words.filter fun word => Text.occursIn word lowered).length * 2

/-- Whether `num / den` is at most one half. The quotient is that of doubles: one that exceeds a
half by no more than `2 ^ -54` rounds to it. -/
def atMostHalf (num den : Int) : Bool :=
  if 0 < den then (Nat.pow 2 54 : Nat) * num ≤ (Nat.pow 2 53 + 1 : Nat) * den
  else (Nat.pow 2 53 + 1 : Nat) * den ≤ (Nat.pow 2 54 : Nat) * num

def quotientOverflows (num den : Int) : Bool :=
  (Nat.pow 2 1024 - Nat.pow 2 970) * den.natAbs ≤ num.natAbs

/-- Partly compliant means at most one issue for every two requirements, counting one more
requirement than there are. -/
def complianceVerdict (passed : Bool) (issues requirements : Int) : Fallible Verdict :=
  let weight := requirements + 1
  if passed then .ok .compliant
  else if weight = 0 then .error (.fault .zeroDivision "division by zero")
  else if quotientOverflows issues weight then
    .error (.fault .overflow "integer division result too large for a float")
  else .ok (if atMostHalf issues weight then .partly else .nonCompliant)

/-! Routers -/

def routeOnFramework (state : State) : Framework :=
  match state.data.compliance? with
  | some examined => normaliseFramework examined.framework
  | none => .cis

def routeOnVerdict (state : State) : Verdict :=
  match state.data.compliance? with
  | some examined => (OutcomeFamily.ofText? Verdict examined.verdict).getD .nonCompliant
  | none => .nonCompliant

/-! Steps -/

def audit (examined : ComplianceCase) (now : Instant) (event : String) (details : Entries) :
    ComplianceCase :=
  let entry :=
    [("event", Value.text event), ("timestamp", .text (Moment.ofInstant now).text)] ++ details
  { examined with auditTrail := examined.auditTrail ++ [entry] }

def identifyFramework : Step :=
  PayloadLens.compliance.change fun examined =>
    { examined with framework := (normaliseFramework examined.framework).text }

def retrieveRequirements : Step :=
  PayloadLens.compliance.step fun examined => do
    let params := [("framework", .text examined.framework)]
    let facts ← StepProgram.consult (.facts "compliance" params)
    return { examined with requirements := facts.of "requirements" }

def combinedReview (examined : ComplianceCase) (review : Review) : Review :=
  let uncovered := examined.requirements.filter fun requirement =>
    !requirementCovered requirement examined.policy
  { review with
    passed := review.passed && uncovered.isEmpty
    issues := review.issues ++ uncovered.map ("requirement not covered: " ++ ·) }

def validatePolicy : Step :=
  PayloadLens.compliance.step fun examined => do
    let review ← StepProgram.consult
      (.review examined.policy [("compliance", .text examined.framework)])
    let combined := combinedReview examined review
    let verdict ← Program.lift
      (complianceVerdict combined.passed combined.issues.length examined.requirements.length)
    let now ← StepProgram.act .now
    let examined := { examined with validation := some combined, verdict := verdict.text }
    return audit examined now "validated"
      [("verdict", .text verdict.text), ("issues", .int combined.issues.length)]

def identifyGaps : Step :=
  PayloadLens.compliance.change fun examined =>
    let gaps := (examined.validation.map (·.issues)).getD []
    let framework := examined.framework
    { examined with
      gaps := if gaps.isEmpty then [s!"policy does not satisfy {framework}"] else gaps }

def suggestImprovements : Step :=
  PayloadLens.compliance.change fun examined =>
    { examined with
      recommendations :=
        examined.gaps.map ("Resolve: " ++ ·) ++
          (examined.validation.map (·.recommendations)).getD [] }

def generateAuditTrail : Step :=
  PayloadLens.compliance.step fun examined => do
    let now ← StepProgram.act .now
    let examined := audit examined now "completed"
      [("framework", .text examined.framework), ("verdict", .text examined.verdict),
        ("gaps", .int examined.gaps.length)]
    return { examined with status := "validated" }

/-! Graph -/

def name : String := WorkflowKind.complianceValidation.name

def steps : List (String × Step) :=
  [("identify_framework", identifyFramework),
    ("retrieve_requirements", retrieveRequirements),
    ("validate_policy", validatePolicy),
    ("identify_gaps", identifyGaps),
    ("suggest_improvements", suggestImprovements),
    ("generate_audit_trail", generateAuditTrail)]

def draft : Fallible Draft := do
  let draft : Draft :=
    { name := name
      description := some "Validate a policy against a compliance framework"
      ceiling := some 10 }
  let draft ← draft.addSteps steps
  let draft ← (draft.setEntry "identify_framework").addConditional "identify_framework"
    (Router.decide routeOnFramework)
    [leadsTo Framework.soc2 ["retrieve_requirements", "validate_policy"],
      leadsTo Framework.iso27001 ["retrieve_requirements", "validate_policy"],
      leadsTo Framework.nist ["retrieve_requirements", "validate_policy"],
      leadsTo Framework.cis ["validate_policy"]] none
  let draft ← draft.addConditional "validate_policy" (Router.decide routeOnVerdict)
    [leadsTo Verdict.compliant ["generate_audit_trail"],
      leadsTo Verdict.partly ["identify_gaps", "suggest_improvements", "generate_audit_trail"],
      leadsTo Verdict.nonCompliant
        ["identify_gaps", "suggest_improvements", "generate_audit_trail"]] none
  return draft.addTerminals ["generate_audit_trail"]

def graph (tag : Nat) : Fallible Definition := do
  (← draft).compile tag

def initial (policyId policy framework : String) : State :=
  { data := .payload (.compliance { policyId, policy, framework }) }

def initialFrom (policyId policy framework : Value) : Fallible State := do
  let examined ← (ComplianceCase.ofEntries [("policy_id", policyId), ("policy", policy),
    ("framework", framework)]).toFallible
  return { data := .payload (.compliance examined) }

end StepGraph.ComplianceValidation
