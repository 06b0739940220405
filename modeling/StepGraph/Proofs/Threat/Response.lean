import StepGraph.Proofs.Threat.Steps

namespace StepGraph

open PolicyGeneration (Harmless)

namespace ThreatResponse

def Severe (report : ThreatReport) : Prop :=
  report.severity = "critical" ∨
    report.severity = "high" ∧ report.impactAnalysis.get? "level" = some (.text "high")

/-! ### Decisions -/

section

variable {state : State} {report : ThreatReport}

theorem routeOnSeverity_eq (carries : chart.Carries state report) :
    routeOnSeverity state = (OutcomeFamily.ofText? Severity report.severity).getD .low := by
  have found : state.data.threat? = some report := by
    rw [show state.data = .payload (.threat report) from carries]
    rfl
  rw [routeOnSeverity, found]

theorem severity_of_route {severity : Severity} (carries : chart.Carries state report)
    (decided : routeOnSeverity state = severity) (notLow : severity ≠ .low) :
    report.severity = severity.text := by
  rw [routeOnSeverity_eq carries] at decided
  cases given : OutcomeFamily.ofText? Severity report.severity with
  | none =>
      rw [given] at decided
      exact absurd decided.symm notLow
  | some found =>
      rw [given] at decided
      cases decided
      exact (OutcomeFamily.outcomeText_of_ofText? given).symm

theorem not_severe_of_low (carries : chart.Carries state report)
    (decided : routeOnSeverity state = .low) : ¬ Severe report := by
  rw [routeOnSeverity_eq carries] at decided
  rintro (isCritical | ⟨isHigh, -⟩)
  · rw [isCritical] at decided
    cases decided
  · rw [isHigh] at decided
    cases decided

theorem routeOnImpact_eq (carries : chart.Carries state report) :
    routeOnImpact state =
      routeOfLevel ((report.impactAnalysis.get? "level").getD (.text "low")) := by
  have found : state.data.threat? = some report := by
    rw [show state.data = .payload (.threat report) from carries]
    rfl
  rw [routeOnImpact, found]

theorem routeOfLevel_eq_high_iff {level : Value} :
    routeOfLevel level = .ok .high ↔ level = .text "high" := by
  cases level with
  | text s =>
      simp only [routeOfLevel, Except.ok.injEq, Value.text.injEq]
      split
      · next isHigh => exact iff_of_true rfl isHigh
      · next notHigh => split <;> simp [notHigh]
  | _ => simp [routeOfLevel]

theorem routeOnImpact_eq_high_iff (carries : chart.Carries state report) :
    routeOnImpact state = .ok .high ↔
      report.impactAnalysis.get? "level" = some (.text "high") := by
  rw [routeOnImpact_eq carries, routeOfLevel_eq_high_iff]
  cases report.impactAnalysis.get? "level" <;> simp

theorem not_severe_of_impact {route : ImpactRoute} (carries : chart.Carries state report)
    (isHigh : report.severity = "high") (decided : routeOnImpact state = .ok route)
    (notHigh : route ≠ .high) : ¬ Severe report := by
  rintro (isCritical | ⟨-, level⟩)
  · exact absurd (isHigh.symm.trans isCritical) (by decide)
  · have high := (routeOnImpact_eq_high_iff carries).mpr level
    exact notHigh (Except.ok.inj (decided.symm.trans high))

end

/-! ### The report at each place -/

section

variable {report : ThreatReport}

theorem exists_assessed (report : ThreatReport) :
    ∃ severity, (assessed report).toOption.getD report = { report with severity } := by
  cases given : assessed report with
  | error failure => exact ⟨report.severity, rfl⟩
  | ok updated =>
      obtain ⟨severity, rfl⟩ := eq_of_assessed given
      exact ⟨severity.text, rfl⟩

theorem exists_analyzed (report : ThreatReport) :
    ∃ impactAnalysis, (analyzed report).toOption.getD report = { report with impactAnalysis } := by
  cases given : analyzed report with
  | error failure => exact ⟨report.impactAnalysis, rfl⟩
  | ok updated =>
      obtain ⟨services, rfl⟩ := eq_of_analyzed given
      exact ⟨_, rfl⟩

/-- What each step but the last ones leaves as it was, and what it does about the threat. -/
theorem Stage.Yields.frame {stage : Stage} {words : Talk} {outcome : Fallible ThreatReport}
    (yields : Stage.Yields report stage words outcome) (notNotify : stage ≠ .notify)
    (notLog : stage ≠ .log) :
    (outcome.toOption.getD report).threatId = report.threatId ∧
      (outcome.toOption.getD report).threatData = report.threatData ∧
      (outcome.toOption.getD report).notifications = report.notifications ∧
      (outcome.toOption.getD report).actions =
        report.actions ++ if stage = .update then countermeasures report else [] := by
  have unchanged : report.actions = report.actions ++ [] := (List.append_nil _).symm
  cases yields with
  | assess =>
      obtain ⟨severity, same⟩ := exists_assessed report
      rw [same]
      exact ⟨rfl, rfl, rfl, unchanged⟩
  | retrieve reply => cases reply <;> exact ⟨rfl, rfl, rfl, unchanged⟩
  | analyze =>
      obtain ⟨impactAnalysis, same⟩ := exists_analyzed report
      rw [same]
      exact ⟨rfl, rfl, rfl, unchanged⟩
  | update => exact ⟨rfl, rfl, rfl, rfl⟩
  | recommend => exact ⟨rfl, rfl, rfl, unchanged⟩
  | notify => contradiction
  | log => contradiction

end

def Known (report : ThreatReport) : Place → Prop
  | .assessment => report.severity = "low" ∧ report.impactAnalysis = []
  | .promptContext => report.severity = "critical"
  | .promptAnalysis => report.severity = "critical"
  | .context => report.severity = "high" ∧ report.impactAnalysis = []
  | .analysis => report.severity = "high" ∧ report.impactAnalysis = []
  | .update => Severe report
  | .notification => Severe report
  | .promptAdvice => ¬ Severe report
  | .advice => ¬ Severe report
  | .incident => ¬ Severe report

/-- Nobody has been notified yet, and only where that is next anything has been done. -/
structure Sound (threatId : String) (threatData : Entries) (place : Place) (report : ThreatReport) :
    Prop where
  threatId_eq : report.threatId = threatId
  threatData_eq : report.threatData = threatData
  notifications : report.notifications = []
  actions : report.actions = if place = .notification then countermeasures report else []
  known : Known report place

section

variable {threatId : String} {threatData : Entries} {place onward : Place} {report : ThreatReport}
  {words : Talk} {outcome : Fallible ThreatReport} {state after : State}

theorem Known.step (known : Known report place)
    (yields : Stage.Yields report place.stage words outcome)
    (carries : chart.Carries after (outcome.toOption.getD report))
    (goes : place.Goes after onward) :
    Known (outcome.toOption.getD report) onward := by
  have sameSeverity : ((analyzed report).toOption.getD report).severity = report.severity := by
    obtain ⟨_, same⟩ := exists_analyzed report
    rw [same]
  cases goes with
  | critical decided => exact severity_of_route carries decided nofun
  | high decided =>
      cases yields
      obtain ⟨severity, same⟩ := exists_assessed report
      rw [same] at carries ⊢
      exact ⟨severity_of_route carries decided nofun, known.2⟩
  | medium decided =>
      have isMedium := severity_of_route carries decided nofun
      rintro (isCritical | ⟨isHigh, -⟩)
      · exact absurd (isMedium.symm.trans isCritical) (by decide)
      · exact absurd (isMedium.symm.trans isHigh) (by decide)
  | low decided => exact not_severe_of_low carries decided
  | promptlyInformed =>
      cases yields with
      | retrieve reply => cases reply <;> exact known
  | promptlyAnalyzed =>
      cases yields
      exact .inl (sameSeverity.trans known)
  | informed =>
      cases yields with
      | retrieve reply => cases reply <;> exact known
  | severe decided =>
      cases yields
      exact .inr ⟨sameSeverity.trans known.1, (routeOnImpact_eq_high_iff carries).mp decided⟩
  | moderate decided =>
      cases yields
      exact not_severe_of_impact carries (sameSeverity.trans known.1) decided nofun
  | slight decided =>
      cases yields
      exact not_severe_of_impact carries (sameSeverity.trans known.1) decided nofun
  | updated => cases yields; exact known
  | promptlyAdvised => cases yields; exact known
  | advised => cases yields; exact known

theorem Sound.step (sound : Sound threatId threatData place report)
    (yields : Stage.Yields report place.stage words outcome)
    (carries : chart.Carries after (outcome.toOption.getD report))
    (goes : place.next after = some onward) :
    Sound threatId threatData onward (outcome.toOption.getD report) := by
  have goes := Place.goes_of_next goes
  have notNotify : place.stage ≠ .notify := by cases goes <;> exact nofun
  have notLog : place.stage ≠ .log := by cases goes <;> exact nofun
  obtain ⟨sameId, sameData, sameNotifications, actions⟩ := yields.frame notNotify notLog
  have idle : report.actions = [] := by
    rw [sound.actions]
    cases goes <;> rfl
  rw [idle, List.nil_append] at actions
  refine ⟨sameId.trans sound.threatId_eq, sameData.trans sound.threatData_eq,
    sameNotifications.trans sound.notifications, ?_, sound.known.step yields carries goes⟩
  rw [actions]
  cases goes with
  | updated => cases yields; rfl
  | _ => rfl

theorem sound_of_way {talk : Talk} {steps : List String}
    (way : chart.Way (initial threatId threatData) talk steps state place) :
    ∃ report, chart.Carries state report ∧ Sound threatId threatData place report := by
  induction way with
  | start => exact ⟨{ threatId, threatData }, rfl, rfl, rfl, rfl, rfl, rfl, rfl⟩
  | onward _ takes goes ih =>
      obtain ⟨report, carries, sound⟩ := ih
      obtain ⟨outcome, yields, carried⟩ := (maps_definition 0).left carries takes
      exact ⟨_, carried, sound.step yields carried goes⟩

/-- An impact on which a run has to decide has been analyzed by the run itself, if at all. -/
theorem routeOnImpact_ne_error {talk : Talk} {steps : List String} {failure : Failure}
    (way : chart.Way (initial threatId threatData) talk steps state .analysis)
    (takes : chart.Takes .analysis state words after) : routeOnImpact after ≠ .error failure := by
  obtain ⟨report, carries, sound⟩ := sound_of_way way
  obtain ⟨outcome, yields, carried⟩ := (maps_definition 0).left carries takes
  cases yields
  have unanalyzed : report.impactAnalysis = [] := sound.known.2
  rw [routeOnImpact_eq carried]
  cases given : analyzed report with
  | error other =>
      have same : report.impactAnalysis.get? "level" = none := by rw [unanalyzed]; rfl
      change routeOfLevel ((report.impactAnalysis.get? "level").getD _) ≠ _
      rw [same]
      exact nofun
  | ok updated =>
      obtain ⟨services, rfl⟩ := eq_of_analyzed given
      exact nofun

theorem routeOnImpact_ne_error_of_last {talk : Talk} {steps : List String} {failure : Failure}
    (way : chart.Way (initial threatId threatData) talk steps state place)
    (last : chart.rest place = []) (isImpact : chart.step place = "analyze_impact")
    (takes : chart.Takes place state words after) : routeOnImpact after ≠ .error failure := by
  cases place with
  | analysis => exact routeOnImpact_ne_error way takes
  | promptAnalysis => cases last
  | _ => exact absurd isImpact (by decide)

/-! ### The result -/

structure Responded (final : ThreatReport) : Prop where
  status : final.status = "responded"
  severe : Severe final
  actions : final.actions = final.affectedPolicies.map ("update policy " ++ ·) ++
    final.mitigationStrategies.map ("apply mitigation: " ++ ·)
  notifications : final.notifications =
    [final.severity ++ " threat " ++ final.threatId ++ ": " ++ toString final.actions.length ++
      " actions taken"]

structure Logged (final : ThreatReport) : Prop where
  status : final.status = "logged"
  slight : ¬ Severe final
  actions : final.actions = ["logged incident for threat " ++ final.threatId]
  notifications : final.notifications = []

theorem Sound.responded (sound : Sound threatId threatData .notification report) :
    Responded (notified report) where
  status := rfl
  severe := sound.known
  actions := sound.actions
  notifications := congrArg (· ++ [notification report]) sound.notifications

theorem Sound.logged (sound : Sound threatId threatData .incident report) :
    Logged (ThreatResponse.logged report) where
  status := rfl
  slight := sound.known
  actions := congrArg (· ++ ["logged incident for threat " ++ report.threatId]) sound.actions
  notifications := sound.notifications

theorem initialFrom_record (threatId : String) (threatData : Entries) :
    initialFrom (.text threatId) (.record threatData) = .ok (initial threatId threatData) := by
  cases threatData <;> rfl

end

/-- Every threat that is reported ends, after five steps at most, in one response. Unless the run is
cancelled, or a lookup fails in a way that ends its step, a severe threat has been met with all
countermeasures and one notification that counts them, and any other has been logged and nothing
else. -/
theorem one_response {tag : Nat} {graph : Definition}
    (isGraph : ThreatResponse.graph tag = .ok graph) (threatId : String) (threatData : Entries)
    (ceiling : Int) :
    ∃ first, initialFrom (.text threatId) (.record threatData) = .ok first ∧
      let start := Run.create graph ceiling first
      (∀ talk trace run, start.Dialogue talk trace run → (stepsIn trace).length ≤ 5) ∧
      (¬ ∃ runs : Nat → Run, runs 0 = start ∧
        ∀ k, ∃ events, (runs k).Advances events (runs (k + 1))) ∧
      (∀ solo : Solo, solo.run = start →
        ∃ moves after ending, solo.finish moves = (after, some ending)) ∧
      ∀ talk trace run circumstances last ending, start.Dialogue talk trace run →
        Harmless talk → circumstances.admitted = true → circumstances.cancelled = false →
        run.move circumstances = .over last ending →
          ∃ final, last.state.data = .payload (.threat final) ∧ final.threatId = threatId ∧
            final.threatData = threatData ∧
            (ending = .completed "notify_stakeholders" ∧ Responded final ∨
              ending = .completed "log_incident" ∧ Logged final) := by
  cases (graph_eq tag).symm.trans isGraph
  refine ⟨_, initialFrom_record threatId threatData, ?_⟩
  intro start
  have carries : chart.Carries (initial threatId threatData) { threatId, threatData } := rfl
  obtain ⟨endless, finishes⟩ := (modest_definition tag).comes_to_end ceiling
    (initial threatId threatData)
  refine ⟨fun talk trace run dialogue =>
    (maps_definition tag).bounded descends_chart carries dialogue, endless, finishes, ?_⟩
  intro talk trace run circumstances last ending dialogue harmless admitted live isOver
  obtain ⟨step, rfl, ends⟩ := (maps_definition tag).ends_of_decided descends_chart
    (wellFormed_definition tag) (modest_definition tag)
    (fun step state failure => step = "analyze_impact" ∧ routeOnImpact state = .error failure)
    (ponders_definition tag) carries (by decide : (0 : Int) + (4 + 1 : Nat) < 10) dialogue harmless
    (fun _ _ _ _ _ _ way last takes ⟨isImpact, fails⟩ =>
      routeOnImpact_ne_error_of_last way last isImpact takes fails)
    admitted live isOver
  generalize stepsIn trace = steps at ends
  generalize last.state = after at ends ⊢
  cases ends with
  | @mk talk words _ _ _ place way takes stops =>
      obtain ⟨report, carries, sound⟩ := sound_of_way way
      rcases Place.of_next_eq_none stops with rfl | rfl | ⟨rfl, failure, fails⟩
      · obtain ⟨_, yields, carried⟩ := (maps_definition tag).left carries takes
        cases yields
        exact ⟨_, carried, sound.threatId_eq, sound.threatData_eq, .inl ⟨rfl, sound.responded⟩⟩
      · obtain ⟨_, yields, carried⟩ := (maps_definition tag).left carries takes
        cases yields
        exact ⟨_, carried, sound.threatId_eq, sound.threatData_eq, .inr ⟨rfl, sound.logged⟩⟩
      · exact absurd fails (routeOnImpact_ne_error way takes)

def spreading : Solo where
  run := .create (definition 0) defaultCeiling
    (initial "T1"
      [("severity", .text "High"), ("affected_services", .list [.text "api", .text "web"])])
  admitted := true
  services := .knowing "threat"
    (.ok [("policy_impact", ["iam", "s3"]), ("mitigation_strategies", ["rotate keys"])])

theorem one_response_spreading :
    ∃ talk trace run last circumstances,
      spreading.run.Dialogue talk trace run ∧ Harmless talk ∧ (stepsIn trace).length ≤ 5 ∧
      run.move circumstances = .over last (.completed "notify_stakeholders") ∧
      ∃ final, last.state.data = .payload (.threat final) ∧ Responded final ∧
        final.severity = "high" ∧
        final.actions =
          ["update policy iam", "update policy s3", "apply mitigation: rotate keys"] ∧
        final.notifications = ["high threat T1: 3 actions taken"] := by
  have ending : (spreading.finish 60).2 = some (.completed "notify_stakeholders") := rfl
  have result : (spreading.finish 60).1.run.state.data.threat?.map
      (fun final => (final.severity, final.actions, final.notifications)) =
        some ("high", ["update policy iam", "update policy s3", "apply mitigation: rotate keys"],
          ["high threat T1: 3 actions taken"]) := rfl
  obtain ⟨_, solo, comes, isOver⟩ := Solo.comes_of_finish (Prod.ext rfl ending)
  obtain ⟨-, admitted, free⟩ := comes.keeps rfl
  obtain ⟨talk, trace, dialogue, -, -, answers⟩ := comes.dialogue
  have known (inquiry : Inquiry) : (spreading.services.answer inquiry).2 = spreading.services ∧
      ∀ failure, (spreading.services.answer inquiry).1 = .error failure →
        PolicyGeneration.Ordinary failure :=
    Services.answer_knowing (fun _ fails => by cases fails) inquiry
  obtain ⟨-, answer⟩ := answers fun inquiry => (known inquiry).1
  have isOver := (Solo.over_of_advance isOver).1
  have harmless : Harmless talk := fun inquiry failure member =>
    (known inquiry).2 failure (answer _ _ member).symm
  obtain ⟨_, accepted, bounded, -, -, responds⟩ := one_response (graph_eq 0) "T1"
    [("severity", .text "High"), ("affected_services", .list [.text "api", .text "web"])]
    defaultCeiling
  cases (initialFrom_record _ _).symm.trans accepted
  obtain ⟨final, carries, -, -, ⟨-, responded⟩ | ⟨wrong, -⟩⟩ := responds talk trace _ _ _ _ dialogue
    harmless admitted (by rw [Solo.cancelled, free]; rfl) isOver
  · rw [carries] at result
    obtain ⟨severity, shown⟩ := Prod.mk.inj (Option.some.inj result)
    obtain ⟨actions, notifications⟩ := Prod.mk.inj shown
    exact ⟨talk, trace, _, _, _, dialogue, harmless, bounded talk trace _ dialogue, isOver, final,
      carries, responded, severity, actions, notifications⟩
  · exact absurd (Ending.completed.inj wrong) (by decide)

end ThreatResponse

end StepGraph
