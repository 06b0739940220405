import StepGraph.Proofs.Workflow.Families
import StepGraph.Workflow.ThreatResponse

namespace StepGraph.ThreatResponse

def afterSeverity : Severity → List String
  | .critical => ["retrieve_context", "analyze_impact", "update_policies", "notify_stakeholders"]
  | .high => ["retrieve_context", "analyze_impact"]
  | .medium => ["generate_recommendations", "log_incident"]
  | .low => ["log_incident"]

def afterImpact : ImpactRoute → List String
  | .high => ["update_policies", "notify_stakeholders"]
  | .medium => ["generate_recommendations"]
  | .low => ["log_incident"]

def drawn : Draft where
  name := name
  description := some "Triage a threat and respond by severity and impact"
  ceiling := some 10
  steps := steps.map fun (name, action) => { name, action }
  routes :=
    [.deciding "assess_threat" routeOnSeverity afterSeverity,
      .venturing "analyze_impact" routeOnImpact afterImpact,
      .unconditional "generate_recommendations" ["log_incident"]]
  entry := some "assess_threat"
  terminals := ["notify_stakeholders", "log_incident"]

theorem draft_eq : draft = .ok drawn := by
  rfl

def definition (tag : Nat) : Definition :=
  { drawn with tag }

theorem wellFormed_definition (tag : Nat) : (definition tag).WellFormed := by
  have structured : (definition tag).Structured :=
    Definition.structured_of_checks rfl (List.cons_ne_nil _ _) rfl
  refine structured.wellFormed ?_ ?_ ?_ <;> cbv

theorem graph_eq (tag : Nat) : graph tag = .ok (definition tag) := by
  have built : drawn.build tag = .ok (definition tag) := rfl
  rw [graph, draft_eq]
  exact Draft.compile_eq_ok built (wellFormed_definition tag)

theorem lawful_severity : OutcomeFamily.Lawful Severity where
  listed a := by cases a <;> decide
  apart a b same := by cases a <;> cases b <;> first | rfl | exact absurd same (by decide)

theorem lawful_impactRoute : OutcomeFamily.Lawful ImpactRoute where
  listed a := by cases a <;> decide
  apart a b same := by cases a <;> cases b <;> first | rfl | exact absurd same (by decide)

theorem ponders_definition (tag : Nat) :
    ∀ route ∈ (definition tag).routes, route.Ponders fun state failure =>
      route.source = "analyze_impact" ∧ routeOnImpact state = .error failure := by
  intro route member
  simp only [definition, drawn, List.mem_cons, List.not_mem_nil, or_false] at member
  rcases member with rfl | rfl | rfl
  · exact Route.ponders_deciding lawful_severity _ _ _
  · exact (Route.ponders_venturing lawful_impactRoute _ _).mono fun _ _ fails => ⟨rfl, fails⟩
  · exact Route.ponders_unconditional _ _ _

end StepGraph.ThreatResponse
