import StepGraph.Proofs.Policy.Graph
import StepGraph.Proofs.Workflow.Completion

namespace StepGraph

namespace PolicyGeneration

/-! ### What the steps make of a request -/

def analyzed (request : PolicyRequest) : Fallible PolicyRequest := do
  let framework ← complianceComplexity (compliance request.requirements)
  let score :=
    serviceComplexity request.service + requirementComplexity request.requirements + framework
  return { request with complexity := if 7 < score then "complex" else "simple" }

def assessed (request : PolicyRequest) : Fallible PolicyRequest := do
  let level ← riskLevel request.service request.requirements
  return { request with riskLevel := level }.updateConfidence 0.8

theorem analyzeRequirements_eq :
    analyzeRequirements = PayloadLens.policy.step fun request => .lift (analyzed request) := by
  unfold analyzeRequirements analyzed
  congr 1
  funext request
  cases complianceComplexity (compliance request.requirements) <;> rfl

theorem assessRisk_eq :
    assessRisk = PayloadLens.policy.step fun request => .lift (assessed request) := by
  unfold assessRisk assessed
  congr 1
  funext request
  cases riskLevel request.service request.requirements <;> rfl

theorem eq_of_analyzed {request updated : PolicyRequest}
    (succeeds : analyzed request = .ok updated) :
    ∃ complexity, updated = { request with complexity } := by
  unfold analyzed at succeeds
  obtain ⟨_, -, same⟩ := Fallible.bind_eq_ok_iff.mp succeeds
  cases same
  exact ⟨_, rfl⟩

theorem eq_of_assessed {request updated : PolicyRequest}
    (succeeds : assessed request = .ok updated) :
    ∃ level, updated = { request with riskLevel := level }.updateConfidence 0.8 := by
  unfold assessed at succeeds
  obtain ⟨level, -, same⟩ := Fallible.bind_eq_ok_iff.mp succeeds
  cases same
  exact ⟨level, rfl⟩

def withContext (request : PolicyRequest) (facts : Facts) : PolicyRequest :=
  { request with
    threatContext := facts.of "threat_context"
    complianceContext := facts.of "compliance_requirements"
    similarPolicies := facts.of "similar_policies"
    bestPractices := facts.of "best_practices" }.updateConfidence 0.9

def contextInquiry (request : PolicyRequest) : Inquiry :=
  .facts "policy" (Entries.merge [("service", .text request.service)] request.requirements)

def threatNote (facts : Facts) : String :=
  let threats := facts.of "similar_threats"
  let found :=
    if threats.isEmpty then "no similar threats found" else ", ".intercalate threats
  s!"Threat analysis: {found}"

def withThreats (request : PolicyRequest) (facts : Facts) : PolicyRequest :=
  { request with
    threatContext :=
      mergeNew request.threatContext
        (facts.of "similar_threats" ++ facts.of "mitigation_strategies")
    reviewNotes := request.reviewNotes ++ [threatNote facts] }

def threatInquiry (request : PolicyRequest) : Inquiry :=
  .facts "threat" [("service", .text request.service), ("risk", .text request.riskLevel)]

def complianceNote (request : PolicyRequest) (facts : Facts) : String :=
  let shown := ((request.requirements.get? "compliance").getD (.text "CIS")).plain
  let count := (facts.of "requirements").length
  s!"Compliance check against {shown}: {count} requirements"

def withCompliance (request : PolicyRequest) (facts : Facts) : PolicyRequest :=
  { request with
    complianceContext := mergeNew request.complianceContext (facts.of "requirements")
    reviewNotes := request.reviewNotes ++ [complianceNote request facts] }

def complianceInquiry (request : PolicyRequest) : Inquiry :=
  .facts "compliance"
    [("framework", (request.requirements.get? "compliance").getD (.text "CIS"))]

def securityNote (request : PolicyRequest) : String :=
  let level := request.riskLevel
  s!"Security validation: {level} risk service requires least privilege and audit logging"

def withSecurity (request : PolicyRequest) (facts : Facts) : PolicyRequest :=
  { request with
    bestPractices := mergeNew request.bestPractices (facts.of "best_practices")
    reviewNotes := request.reviewNotes ++ [securityNote request] }

def securityInquiry (request : PolicyRequest) : Inquiry :=
  .facts "policy" [("service", .text request.service)]

def withDraft (request : PolicyRequest) (draft : String) : PolicyRequest :=
  { request with policyDraft := draft }.updateConfidence 0.7

def withReview (request : PolicyRequest) (review : Review) : PolicyRequest :=
  { request with
    validation := some review
    validatedDraft := some request.policyDraft }.updateConfidence
      (if review.passed then 0.9 else 0.5)

def reviewInquiry (request : PolicyRequest) : Inquiry :=
  .review request.policyDraft request.requirements

def refined (request : PolicyRequest) : PolicyRequest :=
  { request with
    refinementCount := request.refinementCount + 1
    refinementNotes := mergeNew request.refinementNotes (issueNotes request.validation) }

def finalized (request : PolicyRequest) : PolicyRequest :=
  if request.validation.any (·.passed) then { request with status := "finalized" }
  else
    let score := if 0.5 < request.confidenceScore then 0.5 else request.confidenceScore
    { request with status := "needs_attention" }.updateConfidence score

theorem ordinary_of_frameworkScore {table : List (String × Int)} {framework : Value}
    {failure : Failure} (fails : frameworkScore table framework = .error failure) :
    Ordinary failure := by
  unfold frameworkScore at fails
  split at fails
  · cases fails
  · split at fails <;> cases fails <;> exact ordinary_fault _ _

theorem ordinary_of_analyzed {request : PolicyRequest} {failure : Failure}
    (fails : analyzed request = .error failure) : Ordinary failure := by
  unfold analyzed complianceComplexity at fails
  rcases Fallible.bind_eq_error_iff.mp fails with fails | ⟨_, -, fails⟩
  · exact ordinary_of_frameworkScore fails
  · cases fails

theorem ordinary_of_assessed {request : PolicyRequest} {failure : Failure}
    (fails : assessed request = .error failure) : Ordinary failure := by
  unfold assessed riskLevel at fails
  rcases Fallible.bind_eq_error_iff.mp fails with fails | ⟨_, -, fails⟩
  · rcases Fallible.bind_eq_error_iff.mp fails with fails | ⟨_, -, fails⟩
    · exact ordinary_of_frameworkScore fails
    · cases fails
  · cases fails

/-! ### The steps -/

inductive Stage where
  | analyze
  | assess
  | retrieve
  | threats
  | compliance
  | security
  | generate
  | validate
  | refine
  | finalize
deriving DecidableEq

namespace Stage

def name : Stage → String
  | analyze => "analyze_requirements"
  | assess => "assess_risk"
  | retrieve => "retrieve_context"
  | threats => "threat_analysis"
  | compliance => "compliance_check"
  | security => "security_validation"
  | generate => "generate_policy"
  | validate => "validate_policy"
  | refine => "refine_policy"
  | finalize => "finalize_policy"

def action : Stage → Step
  | analyze => analyzeRequirements
  | assess => assessRisk
  | retrieve => retrieveContext
  | threats => threatAnalysis
  | compliance => complianceCheck
  | security => securityValidation
  | generate => generatePolicy
  | validate => validatePolicy
  | refine => refinePolicy
  | finalize => finalizePolicy

theorem step?_name (tag : Nat) (stage : Stage) :
    (definition tag).step? stage.name = some { name := stage.name, action := stage.action } := by
  cases stage <;> rfl

inductive Yields (state : State) (request : PolicyRequest) :
    Stage → Talk → Fallible PolicyRequest → Prop
  | analyze : Yields state request .analyze [] (analyzed request)
  | assess : Yields state request .assess [] (assessed request)
  | retrieve (reply : Fallible Facts) :
      Yields state request .retrieve [⟨.consult (contextInquiry request), reply⟩]
        (reply.map (withContext request))
  | threats (reply : Fallible Facts) :
      Yields state request .threats [⟨.consult (threatInquiry request), reply⟩]
        (reply.map (withThreats request))
  | compliance (reply : Fallible Facts) :
      Yields state request .compliance [⟨.consult (complianceInquiry request), reply⟩]
        (reply.map (withCompliance request))
  | security (reply : Fallible Facts) :
      Yields state request .security [⟨.consult (securityInquiry request), reply⟩]
        (reply.map (withSecurity request))
  | generate (reply : Fallible String) :
      Yields state request .generate [⟨.consult (.draft state), reply⟩]
        (reply.map (withDraft request))
  | validate (reply : Fallible Review) :
      Yields state request .validate [⟨.consult (reviewInquiry request), reply⟩]
        (reply.map (withReview request))
  | refine : Yields state request .refine [] (.ok (refined request))
  | finalize : Yields state request .finalize [] (.ok (finalized request))

theorem yields {stage : Stage} {state after : State} {request : PolicyRequest} {talk : Talk}
    {result : Fallible StepReturn} (hdata : state.data = .payload (.policy request))
    (gives : stage.action.Gives state talk result after) :
    ∃ outcome, Yields state request stage talk outcome ∧
      PayloadLens.policy.Lands state outcome result after := by
  have found : PayloadLens.policy.find? state.data = some request := by
    rw [hdata]
    rfl
  cases stage with
  | analyze =>
      rw [action, analyzeRequirements_eq] at gives
      obtain ⟨rfl, lands⟩ := PayloadLens.gives_computing analyzed found gives
      exact ⟨_, .analyze, lands⟩
  | assess =>
      rw [action, assessRisk_eq] at gives
      obtain ⟨rfl, lands⟩ := PayloadLens.gives_computing assessed found gives
      exact ⟨_, .assess, lands⟩
  | retrieve =>
      obtain ⟨reply, rfl, lands⟩ :=
        PayloadLens.gives_consulting contextInquiry withContext found gives
      exact ⟨_, .retrieve reply, lands⟩
  | threats =>
      obtain ⟨reply, rfl, lands⟩ :=
        PayloadLens.gives_consulting threatInquiry withThreats found gives
      exact ⟨_, .threats reply, lands⟩
  | compliance =>
      obtain ⟨reply, rfl, lands⟩ :=
        PayloadLens.gives_consulting complianceInquiry withCompliance found gives
      exact ⟨_, .compliance reply, lands⟩
  | security =>
      obtain ⟨reply, rfl, lands⟩ :=
        PayloadLens.gives_consulting securityInquiry withSecurity found gives
      exact ⟨_, .security reply, lands⟩
  | generate =>
      -- The writer is shown the state as the step finds it.
      have works : ∀ talk outcome between,
          (StepProgram.consult (.draft state) >>= fun draft =>
            pure (withDraft request draft)).Gives state talk outcome between →
          (∃ reply, talk = [⟨.consult (.draft state), reply⟩] ∧
            outcome = reply.map (withDraft request)) ∧ between = state :=
        fun _ _ _ gives => StepProgram.gives_consult (.draft state) (withDraft request) gives
      obtain ⟨_, ⟨reply, rfl, rfl⟩, lands⟩ := PayloadLens.gives_step works found gives
      exact ⟨_, .generate reply, lands⟩
  | validate =>
      obtain ⟨reply, rfl, lands⟩ :=
        PayloadLens.gives_consulting reviewInquiry withReview found gives
      exact ⟨_, .validate reply, lands⟩
  | refine =>
      obtain ⟨rfl, lands⟩ :=
        PayloadLens.gives_computing (fun request => .ok (refined request)) found gives
      exact ⟨_, .refine, lands⟩
  | finalize =>
      obtain ⟨rfl, lands⟩ :=
        PayloadLens.gives_computing (fun request => .ok (finalized request)) found gives
      exact ⟨_, .finalize, lands⟩

theorem modest (stage : Stage) : stage.action.Modest := by
  cases stage with
  | analyze =>
      rw [action, analyzeRequirements_eq]
      exact PayloadLens.modest_computing fun _ _ => ordinary_of_analyzed
  | assess =>
      rw [action, assessRisk_eq]
      exact PayloadLens.modest_computing fun _ _ => ordinary_of_assessed
  | retrieve => exact PayloadLens.modest_consulting contextInquiry withContext
  | threats => exact PayloadLens.modest_consulting threatInquiry withThreats
  | compliance => exact PayloadLens.modest_consulting complianceInquiry withCompliance
  | security => exact PayloadLens.modest_consulting securityInquiry withSecurity
  | generate =>
      refine PayloadLens.modest_step (fun _ => ?_) fun _ _ reply => ?_
      · exact .read fun _ => (StepProgram.Mild.consult _).bind fun _ => .done _
      · exact (Program.silent_lift reply).bind fun _ => trivial
  | validate => exact PayloadLens.modest_consulting reviewInquiry withReview
  | refine => exact PayloadLens.modest_change _
  | finalize => exact PayloadLens.modest_change _

end Stage

theorem modest_definition (tag : Nat) : (definition tag).Modest where
  steps := by
    intro spec member
    have isStage : ∃ stage : Stage, spec = { name := stage.name, action := stage.action } := by
      simp only [definition, drawn, steps, List.map_cons, List.map_nil, List.mem_cons,
        List.not_mem_nil, or_false] at member
      rcases member with rfl | rfl | rfl | rfl | rfl | rfl | rfl | rfl | rfl | rfl
      · exact ⟨.analyze, rfl⟩
      · exact ⟨.assess, rfl⟩
      · exact ⟨.retrieve, rfl⟩
      · exact ⟨.threats, rfl⟩
      · exact ⟨.compliance, rfl⟩
      · exact ⟨.security, rfl⟩
      · exact ⟨.generate, rfl⟩
      · exact ⟨.validate, rfl⟩
      · exact ⟨.refine, rfl⟩
      · exact ⟨.finalize, rfl⟩
    obtain ⟨stage, rfl⟩ := isStage
    exact ⟨stage.modest, rfl⟩
  routers := by
    intro route member router routed
    simp only [definition, drawn, List.mem_cons, List.not_mem_nil, or_false] at member
    rcases member with rfl | rfl | rfl | rfl | rfl <;> cases routed <;>
      exact Router.leavesAlone_decide _ _

theorem frugal_definition (tag : Nat) : (definition tag).Frugal :=
  (modest_definition tag).frugal

end PolicyGeneration

end StepGraph
