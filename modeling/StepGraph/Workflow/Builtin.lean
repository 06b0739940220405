import StepGraph.Workflow.PolicyGeneration
import StepGraph.Workflow.ThreatResponse
import StepGraph.Workflow.ComplianceValidation

namespace StepGraph.WorkflowKind

def graph (kind : WorkflowKind) (tag : Nat) : Fallible Definition :=
  match kind with
  | .policyGeneration => PolicyGeneration.graph tag
  | .threatResponse => ThreatResponse.graph tag
  | .complianceValidation => ComplianceValidation.graph tag

def initialState (name : String) (data : Value) : Fallible State :=
  if (ofName? name).isNone then .error (.fault .value s!"Unknown workflow kind: {name}")
  else do
    let payload ← Payload.parse name data
    return { data := .payload payload }

end StepGraph.WorkflowKind

namespace StepGraph

/-- The text of the outcome that a built-in router, called by its name, answers with. -/
def builtinRoute? (router : String) (state : State) : Option (Fallible String) :=
  let pick {α : Type} [OutcomeFamily α] (choose : State → α) : Option (Fallible String) :=
    some (.ok (OutcomeFamily.outcomeText (choose state)))
  match router with
  | "route_on_complexity" => pick PolicyGeneration.routeOnComplexity
  | "route_on_risk" => pick PolicyGeneration.routeOnRisk
  | "route_after_generation" => pick PolicyGeneration.routeAfterGeneration
  | "route_after_validation" => pick PolicyGeneration.routeAfterValidation
  | "route_after_refinement" => pick PolicyGeneration.routeAfterRefinement
  | "route_on_severity" => pick ThreatResponse.routeOnSeverity
  | "route_on_impact" =>
      some (OutcomeFamily.outcomeText <$> ThreatResponse.routeOnImpact state)
  | "route_on_framework" => pick ComplianceValidation.routeOnFramework
  | "route_on_verdict" => pick ComplianceValidation.routeOnVerdict
  | _ => none

end StepGraph
