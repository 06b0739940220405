import StepGraph.Proofs.Compliance.Graph
import StepGraph.Proofs.Workflow.Completion

namespace StepGraph.ComplianceValidation

/-! ### What the steps make of a case -/

def named (examined : ComplianceCase) : ComplianceCase :=
  { examined with framework := (normaliseFramework examined.framework).text }

def factsInquiry (examined : ComplianceCase) : Inquiry :=
  .facts "compliance" [("framework", .text examined.framework)]

def withRequirements (examined : ComplianceCase) (facts : Facts) : ComplianceCase :=
  { examined with requirements := facts.of "requirements" }

def reviewInquiry (examined : ComplianceCase) : Inquiry :=
  .review examined.policy [("compliance", .text examined.framework)]

def decided (examined : ComplianceCase) (review : Review) : Fallible Verdict :=
  let combined := combinedReview examined review
  complianceVerdict combined.passed combined.issues.length examined.requirements.length

def withVerdict (examined : ComplianceCase) (review : Review) (verdict : Verdict) (now : Instant) :
    ComplianceCase :=
  let combined := combinedReview examined review
  audit { examined with validation := some combined, verdict := verdict.text } now "validated"
    [("verdict", .text verdict.text), ("issues", .int combined.issues.length)]

def withGaps (examined : ComplianceCase) : ComplianceCase :=
  let gaps := (examined.validation.map (·.issues)).getD []
  let framework := examined.framework
  { examined with
    gaps := if gaps.isEmpty then [s!"policy does not satisfy {framework}"] else gaps }

def withRecommendations (examined : ComplianceCase) : ComplianceCase :=
  { examined with
    recommendations :=
      examined.gaps.map ("Resolve: " ++ ·) ++
        (examined.validation.map (·.recommendations)).getD [] }

def closed (examined : ComplianceCase) (now : Instant) : ComplianceCase :=
  { audit examined now "completed"
      [("framework", .text examined.framework), ("verdict", .text examined.verdict),
        ("gaps", .int examined.gaps.length)] with
    status := "validated" }

/-! ### The steps -/

inductive Stage where
  | identify
  | retrieve
  | validate
  | gaps
  | suggest
  | close
deriving DecidableEq

namespace Stage

def name : Stage → String
  | identify => "identify_framework"
  | retrieve => "retrieve_requirements"
  | validate => "validate_policy"
  | gaps => "identify_gaps"
  | suggest => "suggest_improvements"
  | close => "generate_audit_trail"

def action : Stage → Step
  | identify => identifyFramework
  | retrieve => retrieveRequirements
  | validate => validatePolicy
  | gaps => identifyGaps
  | suggest => suggestImprovements
  | close => generateAuditTrail

theorem step?_name (tag : Nat) (stage : Stage) :
    (definition tag).step? stage.name = some { name := stage.name, action := stage.action } := by
  cases stage <;> rfl

def rest : Stage → List String
  | retrieve => ["validate_policy"]
  | gaps => ["suggest_improvements", "generate_audit_trail"]
  | suggest => ["generate_audit_trail"]
  | _ => []

def next (stage : Stage) (state : State) : Option Stage :=
  match stage with
  | identify => if routeOnFramework state = .cis then some validate else some retrieve
  | retrieve => some validate
  | validate => if routeOnVerdict state = .compliant then some close else some gaps
  | gaps => some suggest
  | suggest => some close
  | close => none

def toGo : Stage → Nat
  | identify => 5
  | retrieve => 4
  | validate => 3
  | gaps => 2
  | suggest => 1
  | close => 0

/-- What a step asks and is answered on a case, and what it makes of it. -/
inductive Yields (examined : ComplianceCase) : Stage → Talk → Fallible ComplianceCase → Prop
  | identify : Yields examined .identify [] (.ok (named examined))
  | retrieve (reply : Fallible Facts) :
      Yields examined .retrieve [⟨.consult (factsInquiry examined), reply⟩]
        (reply.map (withRequirements examined))
  | unreviewed (failure : Failure) :
      Yields examined .validate [⟨.consult (reviewInquiry examined), .error failure⟩]
        (.error failure)
  | undecided (review : Review) (failure : Failure)
      (fails : decided examined review = .error failure) :
      Yields examined .validate [⟨.consult (reviewInquiry examined), .ok review⟩] (.error failure)
  | reviewed (review : Review) (verdict : Verdict) (now : Instant)
      (decides : decided examined review = .ok verdict) :
      Yields examined .validate
        [⟨.consult (reviewInquiry examined), .ok review⟩, ⟨.act .now, now⟩]
        (.ok (withVerdict examined review verdict now))
  | gaps : Yields examined .gaps [] (.ok (withGaps examined))
  | suggest : Yields examined .suggest [] (.ok (withRecommendations examined))
  | close (now : Instant) : Yields examined .close [⟨.act .now, now⟩] (.ok (closed examined now))

theorem yields {stage : Stage} {state after : State} {examined : ComplianceCase} {talk : Talk}
    {result : Fallible StepReturn} (carries : state.data = .payload (.compliance examined))
    (gives : stage.action.Gives state talk result after) :
    ∃ outcome, Yields examined stage talk outcome ∧
      PayloadLens.compliance.Lands state outcome result after := by
  have found : PayloadLens.compliance.find? state.data = some examined := by
    rw [carries]
    rfl
  cases stage with
  | identify =>
      obtain ⟨rfl, lands⟩ :=
        PayloadLens.gives_computing (fun examined => .ok (named examined)) found gives
      exact ⟨_, .identify, lands⟩
  | retrieve =>
      obtain ⟨reply, rfl, lands⟩ :=
        PayloadLens.gives_consulting factsInquiry withRequirements found gives
      exact ⟨_, .retrieve reply, lands⟩
  | validate =>
      refine PayloadLens.gives_step (fun talk outcome between gives => ?_) found gives
      obtain ⟨reply, rest, rfl, gives⟩ := gives
      cases reply with
      | error failure =>
          obtain ⟨rfl, rfl, rfl⟩ := gives
          exact ⟨.unreviewed failure, rfl⟩
      | ok review =>
          have gives : ((Program.lift (decided examined review)).bind fun verdict =>
              (StepProgram.act .now).bind fun now =>
                .done (withVerdict examined review verdict now)).Gives state rest outcome between :=
            gives
          cases decides : decided examined review with
          | error failure =>
              rw [decides] at gives
              obtain ⟨rfl, rfl, rfl⟩ := gives
              exact ⟨.undecided review failure decides, rfl⟩
          | ok verdict =>
              rw [decides] at gives
              obtain ⟨now, _, rfl, rfl, rfl, rfl⟩ := gives
              exact ⟨.reviewed review verdict now decides, rfl⟩
  | gaps =>
      obtain ⟨rfl, lands⟩ :=
        PayloadLens.gives_computing (fun examined => .ok (withGaps examined)) found gives
      exact ⟨_, .gaps, lands⟩
  | suggest =>
      obtain ⟨rfl, lands⟩ :=
        PayloadLens.gives_computing (fun examined => .ok (withRecommendations examined)) found gives
      exact ⟨_, .suggest, lands⟩
  | close =>
      refine PayloadLens.gives_step (fun talk outcome between gives => ?_) found gives
      obtain ⟨now, rest, rfl, rfl, rfl, rfl⟩ := gives
      exact ⟨.close now, rfl⟩

theorem ordinary_of_decided {examined : ComplianceCase} {review : Review} {failure : Failure}
    (fails : decided examined review = .error failure) : PolicyGeneration.Ordinary failure := by
  simp only [decided, complianceVerdict] at fails
  split at fails
  · cases fails
  · split at fails
    · cases fails
      exact PolicyGeneration.ordinary_fault _ _
    · split at fails
      · cases fails
        exact PolicyGeneration.ordinary_fault _ _
      · cases fails

theorem modest (stage : Stage) : stage.action.Modest := by
  cases stage with
  | identify => exact PayloadLens.modest_change _
  | retrieve => exact PayloadLens.modest_consulting factsInquiry withRequirements
  | validate =>
      refine PayloadLens.modest_step (fun examined => ?_) fun examined reply => ?_
      · exact (StepProgram.Mild.consult _).bind fun review =>
          (StepProgram.Mild.lift fun _ => ordinary_of_decided).bind fun _ =>
            (StepProgram.Mild.act _).bind fun _ => .done _
      · exact (Program.silent_lift reply).bind fun _ =>
          (Program.silent_lift _).bind fun _ _ => trivial
  | gaps => exact PayloadLens.modest_change _
  | suggest => exact PayloadLens.modest_change _
  | close =>
      exact PayloadLens.modest_step
        (fun _ => (StepProgram.Mild.act _).bind fun _ => .done _) fun _ _ => trivial

end Stage

theorem modest_definition (tag : Nat) : (definition tag).Modest where
  steps := by
    intro spec member
    have isStage : ∃ stage : Stage, spec = { name := stage.name, action := stage.action } := by
      simp only [definition, drawn, steps, List.map_cons, List.map_nil, List.mem_cons,
        List.not_mem_nil, or_false] at member
      rcases member with rfl | rfl | rfl | rfl | rfl | rfl
      · exact ⟨.identify, rfl⟩
      · exact ⟨.retrieve, rfl⟩
      · exact ⟨.validate, rfl⟩
      · exact ⟨.gaps, rfl⟩
      · exact ⟨.suggest, rfl⟩
      · exact ⟨.close, rfl⟩
    obtain ⟨stage, rfl⟩ := isStage
    exact ⟨stage.modest, rfl⟩
  routers := by
    intro route member router routed
    simp only [definition, drawn, List.mem_cons, List.not_mem_nil, or_false] at member
    rcases member with rfl | rfl <;> cases routed <;> exact Router.leavesAlone_decide _ _

/-! ### The places between the steps -/

def chart : Chart ComplianceCase Stage where
  lens := PayloadLens.compliance
  first := .identify
  step := Stage.name
  rest := Stage.rest
  next := Stage.next
  Yields stage _ examined := Stage.Yields examined stage

theorem successors_identify (state : State) :
    chart.successors .identify state = afterFramework (routeOnFramework state) := by
  simp only [Chart.successors, chart, Stage.next]
  cases routeOnFramework state <;> rfl

theorem successors_validate (state : State) :
    chart.successors .validate state = afterVerdict (routeOnVerdict state) := by
  simp only [Chart.successors, chart, Stage.next]
  cases routeOnVerdict state <;> rfl

theorem maps_definition (tag : Nat) : chart.Maps (definition tag) where
  finds _ := rfl
  entry := rfl
  alone := rfl
  follows := by
    intro stage step rest follows state
    cases stage with
    | retrieve => cases follows; exact ⟨.validate, rfl, rfl, rfl⟩
    | gaps => cases follows; exact ⟨.suggest, rfl, rfl, rfl⟩
    | suggest => cases follows; exact ⟨.close, rfl, rfl, rfl⟩
    | _ => cases follows
  yields := by
    intro stage spec found state examined carries talk result after gives
    cases (Stage.step?_name tag stage).symm.trans found
    exact Stage.yields carries gives
  decides := by
    intro stage route last routed state examined _ deeds label after gives
    cases stage with
    | identify =>
        cases routed
        obtain ⟨rfl, same, rfl⟩ := gives
        cases same
        rw [successors_identify]
        exact ⟨rfl, rfl, (Route.spans_deciding _ _ _).successors?_label lawful_framework _⟩
    | validate =>
        cases routed
        obtain ⟨rfl, same, rfl⟩ := gives
        cases same
        rw [successors_validate]
        exact ⟨rfl, rfl, (Route.spans_deciding _ _ _).successors?_label lawful_verdict _⟩
    | close => cases routed
    | _ => cases last
  terminal := by
    intro stage isTerminal state
    cases stage with
    | close => rfl
    | _ => cases isTerminal

theorem descends_chart : chart.Descends Stage.toGo := by
  intro stage state onward goes
  cases stage with
  | identify =>
      simp only [chart, Stage.next] at goes
      split at goes <;> cases goes <;> decide
  | validate =>
      simp only [chart, Stage.next] at goes
      split at goes <;> cases goes <;> decide
  | retrieve => cases goes; decide
  | gaps => cases goes; decide
  | suggest => cases goes; decide
  | close => cases goes

end StepGraph.ComplianceValidation
