import StepGraph.Workflow.Basic

namespace StepGraph.PolicyGeneration

def complexServices : List String := ["IAM", "KMS", "Lambda", "ECS", "EKS"]

def highRiskServices : List String := ["IAM", "KMS", "Secrets Manager"]

def mediumRiskServices : List String := ["Lambda", "Functions", "EC2", "S3"]

def frameworkComplexity : List (String × Int) :=
  [("CIS", 1), ("NIST", 2), ("ISO27001", 3), ("SOC2", 3)]

def frameworkRisk : List (String × Int) :=
  [("CIS", 1), ("NIST", 2), ("ISO27001", 2), ("SOC2", 3)]

def toleratedErrors : Nat := 3

inductive ComplexityRoute where
  | simple
  | complex
deriving Repr, DecidableEq

instance : OutcomeFamily ComplexityRoute where
  familyName := "ComplexityRoute"
  members := [.simple, .complex]
  memberName
    | .simple => "SIMPLE"
    | .complex => "COMPLEX"
  outcomeText
    | .simple => "simple"
    | .complex => "complex"

inductive RiskRoute where
  | high
  | medium
  | low
deriving Repr, DecidableEq

instance : OutcomeFamily RiskRoute where
  familyName := "RiskRoute"
  members := [.high, .medium, .low]
  memberName
    | .high => "HIGH"
    | .medium => "MEDIUM"
    | .low => "LOW"
  outcomeText
    | .high => "high_risk"
    | .medium => "medium_risk"
    | .low => "low_risk"

inductive DraftRoute where
  | needsValidation
  | needsRefinement
  | complete
deriving Repr, DecidableEq

instance : OutcomeFamily DraftRoute where
  familyName := "DraftRoute"
  members := [.needsValidation, .needsRefinement, .complete]
  memberName
    | .needsValidation => "NEEDS_VALIDATION"
    | .needsRefinement => "NEEDS_REFINEMENT"
    | .complete => "COMPLETE"
  outcomeText
    | .needsValidation => "needs_validation"
    | .needsRefinement => "needs_refinement"
    | .complete => "complete"

inductive ValidationRoute where
  | pass
  | fail
  | needsReview
  | maxIterations
deriving Repr, DecidableEq

instance : OutcomeFamily ValidationRoute where
  familyName := "ValidationRoute"
  members := [.pass, .fail, .needsReview, .maxIterations]
  memberName
    | .pass => "PASS"
    | .fail => "FAIL"
    | .needsReview => "NEEDS_REVIEW"
    | .maxIterations => "MAX_ITERATIONS"
  outcomeText
    | .pass => "pass"
    | .fail => "fail"
    | .needsReview => "needs_review"
    | .maxIterations => "max_iterations"

inductive RefinementRoute where
  | retry
  | maxIterations
  | error
deriving Repr, DecidableEq

instance : OutcomeFamily RefinementRoute where
  familyName := "RefinementRoute"
  members := [.retry, .maxIterations, .error]
  memberName
    | .retry => "RETRY"
    | .maxIterations => "MAX_ITERATIONS"
    | .error => "ERROR"
  outcomeText
    | .retry => "retry"
    | .maxIterations => "max_iterations"
    | .error => "error"

/-! Scores -/

def mentionsAny (service : String) (names : List String) : Bool :=
  names.any (mentions service)

def serviceComplexity (service : String) : Int :=
  if mentionsAny service complexServices then 3 else 1

def entryIs (requirements : Entries) (key text : String) : Bool :=
  match requirements.get? key with
  | some (.text s) => s == text
  | _ => false

def requirementComplexity (requirements : Entries) : Int :=
  1 + (if ((requirements.get? "additional_requirements").getD .null).holds then 2 else 0) +
    (if entryIs requirements "compliance" "SOC2" then 2 else 0) +
    (if entryIs requirements "environment" "production" then 1 else 0)

/-- The score of a framework in a table; whatever is no listed name scores one. A value that cannot
serve as a key cannot be looked up. -/
def frameworkScore (table : List (String × Int)) (framework : Value) : Fallible Int :=
  if !framework.holds then .ok 1
  else
    match framework with
    | .text name => .ok ((table.lookup name).getD 1)
    | .list items => .error (.notAKey (.list items))
    | .record entries => .error (.notAKey (.record entries))
    | _ => .ok 1

def complianceComplexity (framework : Value) : Fallible Int :=
  frameworkScore frameworkComplexity framework

def serviceRisk (service : String) : Int :=
  if mentionsAny service highRiskServices then 3
  else if mentionsAny service mediumRiskServices then 2
  else 1

def compliance (requirements : Entries) : Value :=
  (requirements.get? "compliance").getD .null

def riskLevel (service : String) (requirements : Entries) : Fallible String := do
  let framework ← frameworkScore frameworkRisk (compliance requirements)
  let total :=
    (if entryIs requirements "environment" "production" then 3 else 1) +
      (if entryIs requirements "business_unit" "trading" then 3 else 1) +
      serviceRisk service + framework
  return if 8 ≤ total then "high" else if 5 ≤ total then "medium" else "low"

def clampScore (score : Float) : Float :=
  let capped := if score < 1 then score else 1
  if capped > 0 then capped else 0

end StepGraph.PolicyGeneration

namespace StepGraph.PolicyRequest

def updateConfidence (request : PolicyRequest) (score : Float) : PolicyRequest :=
  { request with confidenceScore := PolicyGeneration.clampScore score }

end StepGraph.PolicyRequest

namespace StepGraph.PolicyGeneration

/-! Routers -/

def routeOnComplexity (state : State) : ComplexityRoute :=
  match state.data.policy? with
  | some request => if request.complexity = "complex" then .complex else .simple
  | none => .simple

def routeOnRisk (state : State) : RiskRoute :=
  match state.data.policy? with
  | some request =>
      if request.riskLevel = "high" then .high
      else if request.riskLevel = "medium" then .medium
      else .low
  | none => .low

/-- A draft is complete once the stored verdict on this very draft was positive. -/
def routeAfterGeneration (state : State) : DraftRoute :=
  match state.data.policy? with
  | none => .needsRefinement
  | some request =>
      if request.policyDraft.isEmpty then .needsRefinement
      else
        match request.validation with
        | none => .needsValidation
        | some review =>
            if review.passed && request.validatedDraft == some request.policyDraft then .complete
            else .needsValidation

def routeAfterValidation (state : State) : ValidationRoute :=
  match state.data.policy? with
  | none => .fail
  | some request =>
      match request.validation with
      | none => .fail
      | some review =>
          if review.passed then .pass
          else if request.maxRefinements ≤ request.refinementCount then .maxIterations
          else if review.needsReview then .needsReview
          else .fail

def routeAfterRefinement (state : State) : RefinementRoute :=
  if toleratedErrors < state.errors.length then .error
  else
    match state.data.policy? with
    | none => .maxIterations
    | some request =>
        if request.maxRefinements < request.refinementCount then .maxIterations else .retry

/-! Steps -/

def analyzeRequirements : Step :=
  PayloadLens.policy.step fun request => do
    let framework ← Program.lift (complianceComplexity (compliance request.requirements))
    let score :=
      serviceComplexity request.service + requirementComplexity request.requirements + framework
    return { request with complexity := if 7 < score then "complex" else "simple" }

def assessRisk : Step :=
  PayloadLens.policy.step fun request => do
    let level ← Program.lift (riskLevel request.service request.requirements)
    return { request with riskLevel := level }.updateConfidence 0.8

def retrieveContext : Step :=
  PayloadLens.policy.step fun request => do
    let params := Entries.merge [("service", .text request.service)] request.requirements
    let facts ← StepProgram.consult (.facts "policy" params)
    let request :=
      { request with
        threatContext := facts.of "threat_context"
        complianceContext := facts.of "compliance_requirements"
        similarPolicies := facts.of "similar_policies"
        bestPractices := facts.of "best_practices" }
    return request.updateConfidence 0.9

def threatAnalysis : Step :=
  PayloadLens.policy.step fun request => do
    let params := [("service", .text request.service), ("risk", .text request.riskLevel)]
    let facts ← StepProgram.consult (.facts "threat" params)
    let threats := facts.of "similar_threats"
    let found :=
      if threats.isEmpty then "no similar threats found" else ", ".intercalate threats
    return { request with
        threatContext :=
          mergeNew request.threatContext (threats ++ facts.of "mitigation_strategies")
        reviewNotes := request.reviewNotes ++ [s!"Threat analysis: {found}"] }

def complianceCheck : Step :=
  PayloadLens.policy.step fun request => do
    let framework := (request.requirements.get? "compliance").getD (.text "CIS")
    let facts ← StepProgram.consult (.facts "compliance" [("framework", framework)])
    let requirements := facts.of "requirements"
    let shown := framework.plain
    let count := requirements.length
    return { request with
        complianceContext := mergeNew request.complianceContext requirements
        reviewNotes :=
          request.reviewNotes ++ [s!"Compliance check against {shown}: {count} requirements"] }

def securityValidation : Step :=
  PayloadLens.policy.step fun request => do
    let facts ← StepProgram.consult (.facts "policy" [("service", .text request.service)])
    let level := request.riskLevel
    let note :=
      s!"Security validation: {level} risk service requires least privilege and audit logging"
    return { request with
        bestPractices := mergeNew request.bestPractices (facts.of "best_practices")
        reviewNotes := request.reviewNotes ++ [note] }

def generatePolicy : Step :=
  PayloadLens.policy.step fun request => do
    let state ← Program.state
    let draft ← StepProgram.consult (.draft state)
    return { request with policyDraft := draft }.updateConfidence 0.7

def validatePolicy : Step :=
  PayloadLens.policy.step fun request => do
    let review ← StepProgram.consult (.review request.policyDraft request.requirements)
    let request :=
      { request with validation := some review, validatedDraft := some request.policyDraft }
    return request.updateConfidence (if review.passed then 0.9 else 0.5)

def issueNotes (review : Option Review) : List String :=
  match review with
  | some review => review.issues.map ("Address: " ++ ·)
  | none => []

def refinePolicy : Step :=
  PayloadLens.policy.change fun request =>
    { request with
      refinementCount := request.refinementCount + 1
      refinementNotes := mergeNew request.refinementNotes (issueNotes request.validation) }

def finalizePolicy : Step :=
  PayloadLens.policy.change fun request =>
    if request.validation.any (·.passed) then { request with status := "finalized" }
    else
      let score := if 0.5 < request.confidenceScore then 0.5 else request.confidenceScore
      { request with status := "needs_attention" }.updateConfidence score

/-! Graph -/

def name : String := WorkflowKind.policyGeneration.name

def steps : List (String × Step) :=
  [("analyze_requirements", analyzeRequirements),
    ("assess_risk", assessRisk),
    ("retrieve_context", retrieveContext),
    ("threat_analysis", threatAnalysis),
    ("compliance_check", complianceCheck),
    ("security_validation", securityValidation),
    ("generate_policy", generatePolicy),
    ("validate_policy", validatePolicy),
    ("refine_policy", refinePolicy),
    ("finalize_policy", finalizePolicy)]

def draft : Fallible Draft := do
  let draft : Draft :=
    { name := name
      description := some "Generate a security policy with risk-based routing and refinement"
      ceiling := some 25 }
  let draft ← draft.addSteps steps
  let draft ← (draft.setEntry "analyze_requirements").addConditional "analyze_requirements"
    (Router.decide routeOnComplexity)
    [leadsTo ComplexityRoute.simple ["assess_risk"],
      leadsTo ComplexityRoute.complex ["retrieve_context", "assess_risk"]] none
  let draft ← draft.addConditional "assess_risk" (Router.decide routeOnRisk)
    [leadsTo RiskRoute.high ["threat_analysis", "security_validation", "generate_policy"],
      leadsTo RiskRoute.medium ["compliance_check", "generate_policy"],
      leadsTo RiskRoute.low ["generate_policy"]] none
  let draft ← draft.addConditional "generate_policy" (Router.decide routeAfterGeneration)
    [leadsTo DraftRoute.needsValidation ["validate_policy"],
      leadsTo DraftRoute.needsRefinement ["refine_policy"],
      leadsTo DraftRoute.complete ["finalize_policy"]] none
  let draft ← draft.addConditional "validate_policy" (Router.decide routeAfterValidation)
    [leadsTo ValidationRoute.pass ["finalize_policy"],
      leadsTo ValidationRoute.fail ["refine_policy"],
      leadsTo ValidationRoute.needsReview ["threat_analysis", "compliance_check", "refine_policy"],
      leadsTo ValidationRoute.maxIterations ["finalize_policy"]] none
  let draft ← draft.addConditional "refine_policy" (Router.decide routeAfterRefinement)
    [leadsTo RefinementRoute.retry ["generate_policy"],
      leadsTo RefinementRoute.maxIterations ["finalize_policy"],
      leadsTo RefinementRoute.error [endMarker]] none
  return draft.addTerminals ["finalize_policy"]

def graph (tag : Nat) : Fallible Definition := do
  (← draft).compile tag

def initial (service : String) (requirements : Entries) (maxRefinements : Int) : State :=
  { data := .payload (.policy { service, requirements, maxRefinements }) }

def initialFrom (service requirements maxRefinements : Value) : Fallible State := do
  let requirements := if requirements.holds then requirements else .record []
  let request ← (PolicyRequest.ofEntries [("service", service), ("requirements", requirements),
    ("max_refinements", maxRefinements)]).toFallible
  return { data := .payload (.policy request) }

end StepGraph.PolicyGeneration
