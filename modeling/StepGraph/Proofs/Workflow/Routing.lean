import StepGraph.Proofs.Compliance.Graph
import StepGraph.Proofs.Policy.Graph
import StepGraph.Proofs.Threat.Graph
import StepGraph.Workflow.Builtin

namespace StepGraph

open OutcomeFamily

/-- A report whose impact has been given a level that is no key. -/
def ThreatResponse.Unfit (state : State) (level : Value) : Prop :=
  ∃ report, state.data = .payload (.threat report) ∧
    report.impactAnalysis.get? "level" = some level ∧ level.key? = none

/-- A router of a built-in graph with the name it is called by, the step that it decides for, and
the family that it decides within. -/
structure BuiltinRouter where
  function : String
  kind : WorkflowKind
  source : String
  choices : Family

def builtinRouters : List BuiltinRouter :=
  [⟨"route_on_complexity", .policyGeneration, "analyze_requirements",
      family PolicyGeneration.ComplexityRoute⟩,
    ⟨"route_on_risk", .policyGeneration, "assess_risk", family PolicyGeneration.RiskRoute⟩,
    ⟨"route_after_generation", .policyGeneration, "generate_policy",
      family PolicyGeneration.DraftRoute⟩,
    ⟨"route_after_validation", .policyGeneration, "validate_policy",
      family PolicyGeneration.ValidationRoute⟩,
    ⟨"route_after_refinement", .policyGeneration, "refine_policy",
      family PolicyGeneration.RefinementRoute⟩,
    ⟨"route_on_severity", .threatResponse, "assess_threat", family ThreatResponse.Severity⟩,
    ⟨"route_on_impact", .threatResponse, "analyze_impact", family ThreatResponse.ImpactRoute⟩,
    ⟨"route_on_framework", .complianceValidation, "identify_framework",
      family ComplianceValidation.Framework⟩,
    ⟨"route_on_verdict", .complianceValidation, "validate_policy",
      family ComplianceValidation.Verdict⟩]

namespace BuiltinRouter

def Answers (router : BuiltinRouter) (route : Route) (state : State) (text : Fallible String) :
    Prop :=
  builtinRoute? router.function state = some text ∧
    ∀ deeds result after, route.decision.Gives state deeds result after ↔
      deeds = [] ∧ result = text.map (fun text => .member router.choices (.text text)) ∧
        after = state

def Decides (router : BuiltinRouter) (route : Route) (state : State) : Prop :=
  ∃ name text, (name, .text text) ∈ router.choices.members ∧
    route.Declares (.member router.choices (.text text)) ∧ router.Answers route state (.ok text)

variable {α : Type} [OutcomeFamily α] {router : BuiltinRouter} {successors : α → List String}

theorem decides_of_member (lawful : Lawful α) {route : Route} (spans : route.Spans successors)
    (within : router.choices = family α) {state : State} {a : α}
    (answers : router.Answers route state (.ok (outcomeText a))) : router.Decides route state := by
  refine ⟨memberName a, outcomeText a, ?_, ?_, answers⟩
  · rw [within]
    exact List.mem_map_of_mem (lawful.listed a)
  · rw [within]
    exact spans.declares lawful a

theorem decides_deciding (lawful : Lawful α) (choose : State → α)
    (within : router.choices = family α)
    (named : ∀ state, builtinRoute? router.function state = some (.ok (outcomeText (choose state))))
    (state : State) : router.Decides (.deciding router.source choose successors) state := by
  refine decides_of_member lawful (Route.spans_deciding _ _ _) within (a := choose state)
    ⟨named state, fun deeds result after => ?_⟩
  rw [within]
  exact Iff.rfl

theorem answers_venturing (choose : State → Fallible α) (within : router.choices = family α)
    {state : State} (named : builtinRoute? router.function state =
      some ((choose state).map outcomeText)) :
    router.Answers (.venturing router.source choose successors) state
      ((choose state).map outcomeText) := by
  refine ⟨named, fun deeds result after => ?_⟩
  rw [within]
  refine Router.gives_tryDecide_iff.trans ?_
  cases choose state <;> exact Iff.rfl

end BuiltinRouter

namespace ThreatResponse

theorem routeOfLevel_eq_error_iff {level : Value} {failure : Failure} :
    routeOfLevel level = .error failure ↔ level.key? = none ∧ failure = .notAKey level := by
  cases level with
  | float x =>
      simp only [routeOfLevel, Value.key?]
      split <;> simp
  | _ => simp [routeOfLevel, Value.key?, eq_comm]

theorem routeOnImpact_eq_error_iff {state : State} {failure : Failure} :
    routeOnImpact state = .error failure ↔
      ∃ level, Unfit state level ∧ failure = .notAKey level := by
  have carries : ∀ report, state.data.threat? = some report →
      state.data = .payload (.threat report) := by
    intro report
    cases state.data with
    | plain => nofun
    | payload carried =>
        cases carried with
        | threat => exact fun same => Option.some.inj same ▸ rfl
        | _ => nofun
  unfold routeOnImpact
  cases found : state.data.threat? with
  | none =>
      refine iff_of_false nofun ?_
      rintro ⟨level, ⟨report, same, -⟩, -⟩
      rw [same] at found
      cases found
  | some report =>
      have unfit : ∀ level, Unfit state level ↔
          report.impactAnalysis.get? "level" = some level ∧ level.key? = none := by
        intro level
        refine ⟨?_, fun given => ⟨report, carries report found, given⟩⟩
        rintro ⟨other, same, given⟩
        cases (carries report found).symm.trans same
        exact given
      simp only [unfit]
      cases given : report.impactAnalysis.get? "level" with
      | none => exact iff_of_false nofun (by simp)
      | some level => simp [routeOfLevel_eq_error_iff, and_assoc]

end ThreatResponse

namespace WorkflowKind

def definition (kind : WorkflowKind) (tag : Nat) : Definition :=
  match kind with
  | .policyGeneration => PolicyGeneration.definition tag
  | .threatResponse => ThreatResponse.definition tag
  | .complianceValidation => ComplianceValidation.definition tag

theorem graph_eq (kind : WorkflowKind) (tag : Nat) :
    kind.graph tag = .ok (kind.definition tag) := by
  cases kind with
  | policyGeneration => exact PolicyGeneration.graph_eq tag
  | threatResponse => exact ThreatResponse.graph_eq tag
  | complianceValidation => exact ComplianceValidation.graph_eq tag

theorem wellFormed_definition (kind : WorkflowKind) (tag : Nat) :
    (kind.definition tag).WellFormed := by
  cases kind with
  | policyGeneration => exact PolicyGeneration.wellFormed_definition tag
  | threatResponse => exact ThreatResponse.wellFormed_definition tag
  | complianceValidation => exact ComplianceValidation.wellFormed_definition tag

def Bewildered (kind : WorkflowKind) (step : String) (state : State) (failure : Failure) : Prop :=
  kind = .threatResponse ∧ step = "analyze_impact" ∧
    ∃ level, ThreatResponse.Unfit state level ∧ failure = .notAKey level

theorem ponders_definition (kind : WorkflowKind) (tag : Nat) :
    ∀ route ∈ (kind.definition tag).routes, route.Ponders (kind.Bewildered route.source) := by
  intro route member
  cases kind with
  | policyGeneration =>
      exact (PolicyGeneration.ponders_definition tag route member).mono fun _ _ => False.elim
  | threatResponse =>
      refine (ThreatResponse.ponders_definition tag route member).mono ?_
      rintro state failure ⟨isImpact, fails⟩
      exact ⟨rfl, isImpact, ThreatResponse.routeOnImpact_eq_error_iff.mp fails⟩
  | complianceValidation =>
      exact (ComplianceValidation.ponders_definition tag route member).mono fun _ _ => False.elim

end WorkflowKind

namespace ThreatResponse

/-- The router on impact decides, or the level it finds is no key. -/
theorem decides_or_unfit (state : State) :
    let router : BuiltinRouter :=
      ⟨"route_on_impact", .threatResponse, "analyze_impact", family ImpactRoute⟩
    let route := Route.venturing "analyze_impact" routeOnImpact afterImpact
    ((∀ level, ¬ Unfit state level) → router.Decides route state) ∧
      ∀ level, Unfit state level → router.Answers route state (.error (.notAKey level)) := by
  intro router route
  have answers : router.Answers route state ((routeOnImpact state).map outcomeText) :=
    BuiltinRouter.answers_venturing routeOnImpact rfl rfl
  refine ⟨fun fit => ?_, fun level unfit => ?_⟩
  · cases chosen : routeOnImpact state with
    | ok a =>
        rw [chosen] at answers
        exact BuiltinRouter.decides_of_member lawful_impactRoute
          (Route.spans_venturing _ _ _) rfl answers
    | error failure =>
        obtain ⟨level, unfit, -⟩ := routeOnImpact_eq_error_iff.mp chosen
        exact absurd unfit (fit level)
  · rw [routeOnImpact_eq_error_iff.mpr ⟨level, unfit, rfl⟩] at answers
    exact answers

end ThreatResponse

/-- Each router of a built-in graph decides on every state for a member of its family, except that
the one on impact cannot look up a level that is no key; and nothing else ever keeps a run of such a
graph from being routed. -/
theorem WorkflowKind.unroutable_only_unfit {kind : WorkflowKind} {tag : Nat} {graph : Definition}
    (made : kind.graph tag = .ok graph) :
    (∀ router ∈ builtinRouters, router.kind = kind →
      ∃ route, graph.route? router.source = some route ∧ ∀ state,
        ((router.function = "route_on_impact" → ∀ level, ¬ ThreatResponse.Unfit state level) →
          router.Decides route state) ∧
        (router.function = "route_on_impact" → ∀ level, ThreatResponse.Unfit state level →
          router.Answers route state (.error (.notAKey level)))) ∧
    ∀ ceiling first talk trace run circumstances last step value text cause,
      (Run.create graph ceiling first).Dialogue talk trace run →
      run.move circumstances = .over last (.raised (.unroutable step value text) cause) →
        kind = .threatResponse ∧ step = "analyze_impact" ∧
          ∃ level, ThreatResponse.Unfit run.state level ∧ cause = some (.notAKey level) := by
  cases (graph_eq kind tag).symm.trans made
  constructor
  · intro router member same
    have decides {α : Type} [OutcomeFamily α] (lawful : Lawful α) (choose : State → α)
        (successors : α → List String) (within : router.choices = family α)
        (other : router.function ≠ "route_on_impact")
        (named : ∀ state,
          builtinRoute? router.function state = some (.ok (outcomeText (choose state))))
        (routed : (kind.definition tag).route? router.source =
          some (.deciding router.source choose successors)) :
        ∃ route, (kind.definition tag).route? router.source = some route ∧ ∀ state,
          ((router.function = "route_on_impact" → ∀ level, ¬ ThreatResponse.Unfit state level) →
            router.Decides route state) ∧
          (router.function = "route_on_impact" → ∀ level, ThreatResponse.Unfit state level →
            router.Answers route state (.error (.notAKey level))) :=
      ⟨_, routed, fun state =>
        ⟨fun _ => BuiltinRouter.decides_deciding lawful choose within named state,
          fun isImpact => absurd isImpact other⟩⟩
    simp only [builtinRouters, List.mem_cons, List.not_mem_nil, or_false] at member
    rcases member with rfl | rfl | rfl | rfl | rfl | rfl | rfl | rfl | rfl <;> subst same
    · exact decides PolicyGeneration.lawful_complexityRoute _ _ rfl (by decide) (fun _ => rfl) rfl
    · exact decides PolicyGeneration.lawful_riskRoute _ _ rfl (by decide) (fun _ => rfl) rfl
    · exact decides PolicyGeneration.lawful_draftRoute _ _ rfl (by decide) (fun _ => rfl) rfl
    · exact decides PolicyGeneration.lawful_validationRoute _ _ rfl (by decide) (fun _ => rfl) rfl
    · exact decides PolicyGeneration.lawful_refinementRoute _ _ rfl (by decide) (fun _ => rfl) rfl
    · exact decides ThreatResponse.lawful_severity _ _ rfl (by decide) (fun _ => rfl) rfl
    · refine ⟨_, rfl, fun state => ?_⟩
      obtain ⟨decides, fails⟩ := ThreatResponse.decides_or_unfit state
      exact ⟨fun fit => decides (fit rfl), fun _ => fails⟩
    · exact decides ComplianceValidation.lawful_framework _ _ rfl (by decide) (fun _ => rfl) rfl
    · exact decides ComplianceValidation.lawful_verdict _ _ rfl (by decide) (fun _ => rfl) rfl
  · intro ceiling first talk trace run circumstances last step value text cause dialogue isOver
    obtain ⟨failure, isCause, isThreat, isImpact, level, unfit, rfl⟩ :=
      dialogue.cause_of_unroutable (wellFormed_definition kind tag) (ponders_definition kind tag)
        isOver
    exact ⟨isThreat, isImpact, level, unfit, isCause⟩

/-- A payload may arrive with an impact whose level is a list, and the router on impact fails. -/
theorem ThreatResponse.routeOnImpact_fails_on_list :
    ∃ payload,
      Payload.parse "threat_response"
        (.record [("impact_analysis", .record [("level", .list [])])]) = .ok payload ∧
      builtinRoute? "route_on_impact" { data := .payload payload } =
        some (.error (.notAKey (.list []))) ∧
      ¬ ∃ text, builtinRoute? "route_on_impact" { data := .payload payload } = some (.ok text) :=
  ⟨_, rfl, rfl, nofun⟩

/-- A run on such a payload. The steps that would have assessed it anew both fail on services that
are given as a number. -/
def ThreatResponse.stale : Solo where
  run := .create (definition 0) defaultCeiling
    { data := .payload (.threat
        { severity := "high"
          threatData := [("affected_services", .int 5)]
          impactAnalysis := [("level", .list [])] }) }
  admitted := true

theorem WorkflowKind.unroutable_only_unfit_stale :
    ∃ talk trace run circumstances last value text cause level,
      ThreatResponse.stale.run.Dialogue talk trace run ∧
      run.move circumstances =
        .over last (.raised (.unroutable "analyze_impact" value text) (some cause)) ∧
      ThreatResponse.Unfit run.state level ∧ cause = .notAKey level := by
  have ending : (ThreatResponse.stale.finish 60).2 =
      some (.raised (.unroutable "analyze_impact" .null
          (some "Routing function for step 'analyze_impact' raised: unhashable type: 'list'"))
        (some (.notAKey (.list [])))) := rfl
  obtain ⟨_, solo, comes, isOver⟩ := Solo.comes_of_finish (Prod.ext rfl ending)
  obtain ⟨talk, trace, dialogue, -⟩ := comes.dialogue
  have isOver := (Solo.over_of_advance isOver).1
  obtain ⟨-, onlyUnfit⟩ :=
    WorkflowKind.unroutable_only_unfit (WorkflowKind.graph_eq .threatResponse 0)
  obtain ⟨-, -, level, unfit, isCause⟩ := onlyUnfit _ _ _ _ _ _ _ _ _ _ _ dialogue isOver
  exact ⟨talk, trace, _, _, _, _, _, _, level, dialogue, isOver, unfit, Option.some.inj isCause⟩

end StepGraph
