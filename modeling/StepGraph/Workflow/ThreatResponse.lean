import StepGraph.Workflow.Basic

namespace StepGraph.ThreatResponse

def severityScores : List (String × Int) :=
  [("critical", 4), ("high", 3), ("medium", 2), ("low", 1)]

inductive Severity where
  | critical
  | high
  | medium
  | low
deriving Repr, DecidableEq

instance : OutcomeFamily Severity where
  familyName := "Severity"
  members := [.critical, .high, .medium, .low]
  memberName
    | .critical => "CRITICAL"
    | .high => "HIGH"
    | .medium => "MEDIUM"
    | .low => "LOW"
  outcomeText
    | .critical => "critical"
    | .high => "high"
    | .medium => "medium"
    | .low => "low"

inductive ImpactRoute where
  | high
  | medium
  | low
deriving Repr, DecidableEq

instance : OutcomeFamily ImpactRoute where
  familyName := "ImpactRoute"
  members := [.high, .medium, .low]
  memberName
    | .high => "HIGH"
    | .medium => "MEDIUM"
    | .low => "LOW"
  outcomeText
    | .high => "high_impact"
    | .medium => "medium_impact"
    | .low => "low_impact"

def Severity.text (severity : Severity) : String :=
  OutcomeFamily.outcomeText severity

def affectedServices (report : Entries) : Fallible (List String) :=
  let services := (report.get? "affected_services").getD .null
  if !services.holds then .ok []
  else
    match services with
    | .text service => .ok [service]
    | services => (·.map (·.plain)) <$> services.itemsOf

def threatSeverity (report : Entries) : Fallible Severity := do
  let services ← affectedServices report
  let reported := ((report.get? "severity").getD (.text "")).plain.lowered
  let score :=
    (severityScores.lookup reported).getD 1 +
      (if ((report.get? "exploited").getD .null).holds then 1 else 0) +
      (if services.isEmpty then 0 else 1)
  return if 6 ≤ score then .critical
    else if 4 ≤ score then .high
    else if 2 ≤ score then .medium
    else .low

def impactLevel (policies services : Nat) : String :=
  let exposure := policies + services
  if 4 ≤ exposure then "high" else if 2 ≤ exposure then "medium" else "low"

/-! Routers -/

def routeOnSeverity (state : State) : Severity :=
  match state.data.threat? with
  | some report => (OutcomeFamily.ofText? Severity report.severity).getD .low
  | none => .low

def routeOfLevel (level : Value) : Fallible ImpactRoute :=
  match level with
  | .text s => .ok (if s = "high" then .high else if s = "medium" then .medium else .low)
  | .list items => .error (.notAKey (.list items))
  | .record entries => .error (.notAKey (.record entries))
  | _ => .ok .low

def routeOnImpact (state : State) : Fallible ImpactRoute :=
  match state.data.threat? with
  | some report => routeOfLevel ((report.impactAnalysis.get? "level").getD (.text "low"))
  | none => .ok .low

/-! Steps -/

def assessThreat : Step :=
  PayloadLens.threat.step fun report => do
    let severity ← Program.lift (threatSeverity report.threatData)
    return { report with severity := severity.text }

def retrieveContext : Step :=
  PayloadLens.threat.step fun report => do
    let params := Entries.merge [("threat_id", .text report.threatId)] report.threatData
    let facts ← StepProgram.consult (.facts "threat" params)
    return { report with
      similarThreats := facts.of "similar_threats"
      mitigationStrategies := facts.of "mitigation_strategies"
      affectedPolicies := facts.of "policy_impact" }

def analyzeImpact : Step :=
  PayloadLens.threat.step fun report => do
    let services ← Program.lift (affectedServices report.threatData)
    let level := impactLevel report.affectedPolicies.length services.length
    return { report with
      impactAnalysis :=
        [("level", .text level),
          ("affected_policies", .ofTexts report.affectedPolicies),
          ("affected_services", .ofTexts services)] }

def countermeasures (report : ThreatReport) : List String :=
  report.affectedPolicies.map ("update policy " ++ ·) ++
    report.mitigationStrategies.map ("apply mitigation: " ++ ·)

def updatePolicies : Step :=
  PayloadLens.threat.change fun report =>
    { report with actions := report.actions ++ countermeasures report, status := "mitigating" }

def recommendationsFor (report : ThreatReport) : List String :=
  let known :=
    report.mitigationStrategies ++
      if report.affectedPolicies.isEmpty then []
      else ["Review affected policies against the reported threat"]
  if known.isEmpty then ["Monitor for recurrence"] else known

def generateRecommendations : Step :=
  PayloadLens.threat.change fun report =>
    { report with recommendations := recommendationsFor report }

def notification (report : ThreatReport) : String :=
  let severity := report.severity
  let threat := report.threatId
  let count := report.actions.length
  s!"{severity} threat {threat}: {count} actions taken"

def notifyStakeholders : Step :=
  PayloadLens.threat.change fun report =>
    { report with
      notifications := report.notifications ++ [notification report]
      status := "responded" }

def logIncident : Step :=
  PayloadLens.threat.change fun report =>
    { report with
      actions := report.actions ++ ["logged incident for threat " ++ report.threatId]
      status := "logged" }

/-! Graph -/

def name : String := WorkflowKind.threatResponse.name

def steps : List (String × Step) :=
  [("assess_threat", assessThreat),
    ("retrieve_context", retrieveContext),
    ("analyze_impact", analyzeImpact),
    ("update_policies", updatePolicies),
    ("generate_recommendations", generateRecommendations),
    ("notify_stakeholders", notifyStakeholders),
    ("log_incident", logIncident)]

def draft : Fallible Draft := do
  let draft : Draft :=
    { name := name
      description := some "Triage a threat and respond by severity and impact"
      ceiling := some 10 }
  let draft ← draft.addSteps steps
  let draft ← (draft.setEntry "assess_threat").addConditional "assess_threat"
    (Router.decide routeOnSeverity)
    [leadsTo Severity.critical
        ["retrieve_context", "analyze_impact", "update_policies", "notify_stakeholders"],
      leadsTo Severity.high ["retrieve_context", "analyze_impact"],
      leadsTo Severity.medium ["generate_recommendations", "log_incident"],
      leadsTo Severity.low ["log_incident"]] none
  let draft ← draft.addConditional "analyze_impact" (Router.tryDecide routeOnImpact)
    [leadsTo ImpactRoute.high ["update_policies", "notify_stakeholders"],
      leadsTo ImpactRoute.medium ["generate_recommendations"],
      leadsTo ImpactRoute.low ["log_incident"]] none
  let draft ← draft.addEdge "generate_recommendations" ["log_incident"]
  return draft.addTerminals ["notify_stakeholders", "log_incident"]

def graph (tag : Nat) : Fallible Definition := do
  (← draft).compile tag

def initial (threatId : String) (threatData : Entries) : State :=
  { data := .payload (.threat { threatId, threatData }) }

def initialFrom (threatId threatData : Value) : Fallible State := do
  let threatData := if threatData.holds then threatData else .record []
  let report ←
    (ThreatReport.ofEntries [("threat_id", threatId), ("threat_data", threatData)]).toFallible
  return { data := .payload (.threat report) }

end StepGraph.ThreatResponse
