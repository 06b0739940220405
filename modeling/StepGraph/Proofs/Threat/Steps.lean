import StepGraph.Proofs.Threat.Graph
import StepGraph.Proofs.Workflow.Completion

namespace StepGraph.ThreatResponse

/-! ### What the steps make of a report -/

def assessed (report : ThreatReport) : Fallible ThreatReport := do
  let severity ← threatSeverity report.threatData
  return { report with severity := severity.text }

def contextInquiry (report : ThreatReport) : Inquiry :=
  .facts "threat" (Entries.merge [("threat_id", .text report.threatId)] report.threatData)

def withContext (report : ThreatReport) (facts : Facts) : ThreatReport :=
  { report with
    similarThreats := facts.of "similar_threats"
    mitigationStrategies := facts.of "mitigation_strategies"
    affectedPolicies := facts.of "policy_impact" }

def withImpact (report : ThreatReport) (services : List String) : ThreatReport :=
  { report with
    impactAnalysis :=
      [("level", .text (impactLevel report.affectedPolicies.length services.length)),
        ("affected_policies", .ofTexts report.affectedPolicies),
        ("affected_services", .ofTexts services)] }

def analyzed (report : ThreatReport) : Fallible ThreatReport := do
  let services ← affectedServices report.threatData
  return withImpact report services

def mitigated (report : ThreatReport) : ThreatReport :=
  { report with actions := report.actions ++ countermeasures report, status := "mitigating" }

def advised (report : ThreatReport) : ThreatReport :=
  { report with recommendations := recommendationsFor report }

def notified (report : ThreatReport) : ThreatReport :=
  { report with
    notifications := report.notifications ++ [notification report]
    status := "responded" }

def logged (report : ThreatReport) : ThreatReport :=
  { report with
    actions := report.actions ++ ["logged incident for threat " ++ report.threatId]
    status := "logged" }

theorem assessThreat_eq :
    assessThreat = PayloadLens.threat.step fun report => .lift (assessed report) := by
  unfold assessThreat assessed
  congr 1
  funext report
  cases threatSeverity report.threatData <;> rfl

theorem analyzeImpact_eq :
    analyzeImpact = PayloadLens.threat.step fun report => .lift (analyzed report) := by
  unfold analyzeImpact analyzed
  congr 1
  funext report
  cases affectedServices report.threatData <;> rfl

theorem eq_of_assessed {report updated : ThreatReport} (succeeds : assessed report = .ok updated) :
    ∃ severity : Severity, updated = { report with severity := severity.text } := by
  obtain ⟨severity, -, same⟩ := Fallible.bind_eq_ok_iff.mp succeeds
  cases same
  exact ⟨severity, rfl⟩

theorem eq_of_analyzed {report updated : ThreatReport} (succeeds : analyzed report = .ok updated) :
    ∃ services, updated = withImpact report services := by
  obtain ⟨services, -, same⟩ := Fallible.bind_eq_ok_iff.mp succeeds
  cases same
  exact ⟨services, rfl⟩

theorem ordinary_of_itemsOf {value : Value} {failure : Failure}
    (fails : value.itemsOf = .error failure) : PolicyGeneration.Ordinary failure := by
  cases value <;> cases fails <;> exact PolicyGeneration.ordinary_fault _ _

theorem ordinary_of_affectedServices {details : Entries} {failure : Failure}
    (fails : affectedServices details = .error failure) : PolicyGeneration.Ordinary failure := by
  simp only [affectedServices] at fails
  generalize (details.get? "affected_services").getD .null = services at fails
  split at fails
  · cases fails
  · split at fails
    · cases fails
    · cases listed : services.itemsOf with
      | ok items => rw [listed] at fails; cases fails
      | error other => rw [listed] at fails; cases fails; exact ordinary_of_itemsOf listed

theorem ordinary_of_assessed {report : ThreatReport} {failure : Failure}
    (fails : assessed report = .error failure) : PolicyGeneration.Ordinary failure := by
  unfold assessed threatSeverity at fails
  rcases Fallible.bind_eq_error_iff.mp fails with fails | ⟨_, -, fails⟩
  · rcases Fallible.bind_eq_error_iff.mp fails with fails | ⟨_, -, fails⟩
    · exact ordinary_of_affectedServices fails
    · cases fails
  · cases fails

theorem ordinary_of_analyzed {report : ThreatReport} {failure : Failure}
    (fails : analyzed report = .error failure) : PolicyGeneration.Ordinary failure := by
  rcases Fallible.bind_eq_error_iff.mp fails with fails | ⟨_, -, fails⟩
  · exact ordinary_of_affectedServices fails
  · cases fails

/-! ### The steps -/

inductive Stage where
  | assess
  | retrieve
  | analyze
  | update
  | recommend
  | notify
  | log
deriving DecidableEq

namespace Stage

def name : Stage → String
  | assess => "assess_threat"
  | retrieve => "retrieve_context"
  | analyze => "analyze_impact"
  | update => "update_policies"
  | recommend => "generate_recommendations"
  | notify => "notify_stakeholders"
  | log => "log_incident"

def action : Stage → Step
  | assess => assessThreat
  | retrieve => retrieveContext
  | analyze => analyzeImpact
  | update => updatePolicies
  | recommend => generateRecommendations
  | notify => notifyStakeholders
  | log => logIncident

theorem step?_name (tag : Nat) (stage : Stage) :
    (definition tag).step? stage.name = some { name := stage.name, action := stage.action } := by
  cases stage <;> rfl

inductive Yields (report : ThreatReport) : Stage → Talk → Fallible ThreatReport → Prop
  | assess : Yields report .assess [] (assessed report)
  | retrieve (reply : Fallible Facts) :
      Yields report .retrieve [⟨.consult (contextInquiry report), reply⟩]
        (reply.map (withContext report))
  | analyze : Yields report .analyze [] (analyzed report)
  | update : Yields report .update [] (.ok (mitigated report))
  | recommend : Yields report .recommend [] (.ok (advised report))
  | notify : Yields report .notify [] (.ok (notified report))
  | log : Yields report .log [] (.ok (logged report))

theorem yields {stage : Stage} {state after : State} {report : ThreatReport} {talk : Talk}
    {result : Fallible StepReturn} (carries : state.data = .payload (.threat report))
    (gives : stage.action.Gives state talk result after) :
    ∃ outcome, Yields report stage talk outcome ∧
      PayloadLens.threat.Lands state outcome result after := by
  have found : PayloadLens.threat.find? state.data = some report := by
    rw [carries]
    rfl
  have changes (f : ThreatReport → ThreatReport)
      (gives : (PayloadLens.threat.change f).Gives state talk result after) :
      talk = [] ∧ PayloadLens.threat.Lands state (.ok (f report)) result after :=
    PayloadLens.gives_computing (fun report => .ok (f report)) found gives
  cases stage with
  | assess =>
      rw [action, assessThreat_eq] at gives
      obtain ⟨rfl, lands⟩ := PayloadLens.gives_computing assessed found gives
      exact ⟨_, .assess, lands⟩
  | retrieve =>
      obtain ⟨reply, rfl, lands⟩ :=
        PayloadLens.gives_consulting contextInquiry withContext found gives
      exact ⟨_, .retrieve reply, lands⟩
  | analyze =>
      rw [action, analyzeImpact_eq] at gives
      obtain ⟨rfl, lands⟩ := PayloadLens.gives_computing analyzed found gives
      exact ⟨_, .analyze, lands⟩
  | update =>
      obtain ⟨rfl, lands⟩ := changes mitigated gives
      exact ⟨_, .update, lands⟩
  | recommend =>
      obtain ⟨rfl, lands⟩ := changes advised gives
      exact ⟨_, .recommend, lands⟩
  | notify =>
      obtain ⟨rfl, lands⟩ := changes notified gives
      exact ⟨_, .notify, lands⟩
  | log =>
      obtain ⟨rfl, lands⟩ := changes logged gives
      exact ⟨_, .log, lands⟩

theorem modest (stage : Stage) : stage.action.Modest := by
  cases stage with
  | assess =>
      rw [action, assessThreat_eq]
      exact PayloadLens.modest_computing fun _ _ => ordinary_of_assessed
  | retrieve => exact PayloadLens.modest_consulting contextInquiry withContext
  | analyze =>
      rw [action, analyzeImpact_eq]
      exact PayloadLens.modest_computing fun _ _ => ordinary_of_analyzed
  | update => exact PayloadLens.modest_change _
  | recommend => exact PayloadLens.modest_change _
  | notify => exact PayloadLens.modest_change _
  | log => exact PayloadLens.modest_change _

end Stage

theorem modest_definition (tag : Nat) : (definition tag).Modest where
  steps := by
    intro spec member
    have isStage : ∃ stage : Stage, spec = { name := stage.name, action := stage.action } := by
      simp only [definition, drawn, steps, List.map_cons, List.map_nil, List.mem_cons,
        List.not_mem_nil, or_false] at member
      rcases member with rfl | rfl | rfl | rfl | rfl | rfl | rfl
      · exact ⟨.assess, rfl⟩
      · exact ⟨.retrieve, rfl⟩
      · exact ⟨.analyze, rfl⟩
      · exact ⟨.update, rfl⟩
      · exact ⟨.recommend, rfl⟩
      · exact ⟨.notify, rfl⟩
      · exact ⟨.log, rfl⟩
    obtain ⟨stage, rfl⟩ := isStage
    exact ⟨stage.modest, rfl⟩
  routers := by
    intro route member router routed
    simp only [definition, drawn, List.mem_cons, List.not_mem_nil, or_false] at member
    rcases member with rfl | rfl | rfl
    · cases routed
      exact Router.leavesAlone_decide _ _
    · cases routed
      exact Router.leavesAlone_tryDecide _ _
    · cases routed

/-! ### The places between the steps -/

/-- Where a run can stand. A critical threat is responded to at once; of a high one the impact is
weighed first, and a medium one gets recommendations before it is logged. -/
inductive Place where
  | assessment
  | promptContext
  | promptAnalysis
  | context
  | analysis
  | update
  | notification
  | promptAdvice
  | advice
  | incident
deriving DecidableEq

namespace Place

def stage : Place → Stage
  | assessment => .assess
  | promptContext => .retrieve
  | promptAnalysis => .analyze
  | context => .retrieve
  | analysis => .analyze
  | update => .update
  | notification => .notify
  | promptAdvice => .recommend
  | advice => .recommend
  | incident => .log

def rest : Place → List String
  | promptContext => ["analyze_impact", "update_policies", "notify_stakeholders"]
  | promptAnalysis => ["update_policies", "notify_stakeholders"]
  | context => ["analyze_impact"]
  | update => ["notify_stakeholders"]
  | promptAdvice => ["log_incident"]
  | _ => []

/-- Where a run goes on once the step has left its state. An impact that cannot be told apart leads
nowhere. -/
def next (place : Place) (state : State) : Option Place :=
  match place with
  | assessment =>
      match routeOnSeverity state with
      | .critical => some promptContext
      | .high => some context
      | .medium => some promptAdvice
      | .low => some incident
  | promptContext => some promptAnalysis
  | promptAnalysis => some update
  | context => some analysis
  | analysis =>
      match routeOnImpact state with
      | .ok .high => some update
      | .ok .medium => some advice
      | .ok .low => some incident
      | .error _ => none
  | update => some notification
  | notification => none
  | promptAdvice => some incident
  | advice => some incident
  | incident => none

def toGo : Place → Nat
  | assessment => 4
  | promptContext => 3
  | promptAnalysis => 2
  | context => 3
  | analysis => 2
  | update => 1
  | notification => 0
  | promptAdvice => 1
  | advice => 1
  | incident => 0

/-- The ways from one place to another, each with the decision that takes a run there. -/
inductive Goes (state : State) : Place → Place → Prop
  | critical (decided : routeOnSeverity state = .critical) : Goes state assessment promptContext
  | high (decided : routeOnSeverity state = .high) : Goes state assessment context
  | medium (decided : routeOnSeverity state = .medium) : Goes state assessment promptAdvice
  | low (decided : routeOnSeverity state = .low) : Goes state assessment incident
  | promptlyInformed : Goes state promptContext promptAnalysis
  | promptlyAnalyzed : Goes state promptAnalysis update
  | informed : Goes state context analysis
  | severe (decided : routeOnImpact state = .ok .high) : Goes state analysis update
  | moderate (decided : routeOnImpact state = .ok .medium) : Goes state analysis advice
  | slight (decided : routeOnImpact state = .ok .low) : Goes state analysis incident
  | updated : Goes state update notification
  | promptlyAdvised : Goes state promptAdvice incident
  | advised : Goes state advice incident

theorem goes_of_next {place onward : Place} {state : State}
    (leads : place.next state = some onward) : place.Goes state onward := by
  cases place with
  | assessment =>
      simp only [next] at leads
      split at leads <;> cases leads
      · next decided => exact .critical decided
      · next decided => exact .high decided
      · next decided => exact .medium decided
      · next decided => exact .low decided
  | promptContext => cases leads; exact .promptlyInformed
  | promptAnalysis => cases leads; exact .promptlyAnalyzed
  | context => cases leads; exact .informed
  | analysis =>
      simp only [next] at leads
      split at leads <;> cases leads
      · next decided => exact .severe decided
      · next decided => exact .moderate decided
      · next decided => exact .slight decided
  | update => cases leads; exact .updated
  | notification => cases leads
  | promptAdvice => cases leads; exact .promptlyAdvised
  | advice => cases leads; exact .advised
  | incident => cases leads

/-- A run stops after its last step, or where its impact cannot be told. -/
theorem of_next_eq_none {place : Place} {state : State} (stops : place.next state = none) :
    place = notification ∨ place = incident ∨
      place = analysis ∧ ∃ failure, routeOnImpact state = .error failure := by
  cases place with
  | assessment =>
      simp only [next] at stops
      split at stops <;> cases stops
  | analysis =>
      simp only [next] at stops
      split at stops <;> cases stops
      · next failure fails => exact .inr (.inr ⟨rfl, failure, fails⟩)
  | notification => exact .inl rfl
  | incident => exact .inr (.inl rfl)
  | _ => cases stops

end Place

def chart : Chart ThreatReport Place where
  lens := PayloadLens.threat
  first := .assessment
  step place := place.stage.name
  rest := Place.rest
  next := Place.next
  Yields place _ report := Stage.Yields report place.stage

theorem successors_assessment (state : State) :
    chart.successors .assessment state = afterSeverity (routeOnSeverity state) := by
  simp only [Chart.successors, chart, Place.next]
  cases routeOnSeverity state <;> rfl

theorem successors_analysis {state : State} {route : ImpactRoute}
    (decided : routeOnImpact state = .ok route) :
    chart.successors .analysis state = afterImpact route := by
  simp only [Chart.successors, chart, Place.next, decided]
  cases route <;> rfl

theorem maps_definition (tag : Nat) : chart.Maps (definition tag) where
  finds _ := rfl
  entry := rfl
  alone := rfl
  follows := by
    intro place step rest follows state
    cases place with
    | promptContext => cases follows; exact ⟨.promptAnalysis, rfl, rfl, rfl⟩
    | promptAnalysis => cases follows; exact ⟨.update, rfl, rfl, rfl⟩
    | context => cases follows; exact ⟨.analysis, rfl, rfl, rfl⟩
    | update => cases follows; exact ⟨.notification, rfl, rfl, rfl⟩
    | promptAdvice => cases follows; exact ⟨.incident, rfl, rfl, rfl⟩
    | _ => cases follows
  yields := by
    intro place spec found state report carries talk result after gives
    cases (Stage.step?_name tag place.stage).symm.trans found
    exact Stage.yields carries gives
  decides := by
    intro place route last routed state report _ deeds label after gives
    cases place with
    | assessment =>
        cases routed
        obtain ⟨rfl, same, rfl⟩ := gives
        cases same
        rw [successors_assessment]
        exact ⟨rfl, rfl, (Route.spans_deciding _ _ _).successors?_label lawful_severity _⟩
    | analysis =>
        cases routed
        obtain ⟨rfl, answered, rfl⟩ := Router.gives_tryDecide_iff.mp gives
        cases decided : routeOnImpact after with
        | error failure => rw [decided] at answered; cases answered
        | ok route =>
            rw [decided] at answered
            cases answered
            rw [successors_analysis decided]
            exact ⟨rfl, rfl, (Route.spans_venturing _ _ _).successors?_label lawful_impactRoute _⟩
    | advice =>
        cases routed
        obtain ⟨rfl, same, rfl⟩ := gives
        cases same
        exact ⟨rfl, rfl, _, rfl, rfl⟩
    | notification => cases routed
    | incident => cases routed
    | _ => cases last
  terminal := by
    intro place isTerminal state
    cases place with
    | notification => rfl
    | incident => rfl
    | _ => cases isTerminal

theorem descends_chart : chart.Descends Place.toGo := by
  intro place state onward goes
  cases Place.goes_of_next goes <;> decide

end StepGraph.ThreatResponse
