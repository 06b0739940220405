import StepGraph.Proofs.Workflow.Families
import StepGraph.Workflow.PolicyGeneration

namespace StepGraph

namespace PolicyGeneration

def afterAnalysis : ComplexityRoute → List String
  | .simple => ["assess_risk"]
  | .complex => ["retrieve_context", "assess_risk"]

def afterAssessment : RiskRoute → List String
  | .high => ["threat_analysis", "security_validation", "generate_policy"]
  | .medium => ["compliance_check", "generate_policy"]
  | .low => ["generate_policy"]

def afterGeneration : DraftRoute → List String
  | .needsValidation => ["validate_policy"]
  | .needsRefinement => ["refine_policy"]
  | .complete => ["finalize_policy"]

def afterValidation : ValidationRoute → List String
  | .pass => ["finalize_policy"]
  | .fail => ["refine_policy"]
  | .needsReview => ["threat_analysis", "compliance_check", "refine_policy"]
  | .maxIterations => ["finalize_policy"]

def afterRefinement : RefinementRoute → List String
  | .retry => ["generate_policy"]
  | .maxIterations => ["finalize_policy"]
  | .error => []

def drawn : Draft where
  name := name
  description := some "Generate a security policy with risk-based routing and refinement"
  ceiling := some 25
  steps := steps.map fun (name, action) => { name, action }
  routes :=
    [.deciding "analyze_requirements" routeOnComplexity afterAnalysis,
      .deciding "assess_risk" routeOnRisk afterAssessment,
      .deciding "generate_policy" routeAfterGeneration afterGeneration,
      .deciding "validate_policy" routeAfterValidation afterValidation,
      .deciding "refine_policy" routeAfterRefinement afterRefinement]
  entry := some "analyze_requirements"
  terminals := ["finalize_policy"]

theorem draft_eq : draft = .ok drawn := by
  rfl

def definition (tag : Nat) : Definition :=
  { drawn with tag }

theorem wellFormed_definition (tag : Nat) : (definition tag).WellFormed := by
  have structured : (definition tag).Structured :=
    Definition.structured_of_checks rfl (List.cons_ne_nil _ _) rfl
  refine structured.wellFormed ?_ ?_ ?_ <;> cbv

theorem graph_eq (tag : Nat) : graph tag = .ok (definition tag) := by
  have built : drawn.build tag = .ok (definition tag) := rfl
  rw [graph, draft_eq]
  exact Draft.compile_eq_ok built (wellFormed_definition tag)

theorem lawful_complexityRoute : OutcomeFamily.Lawful ComplexityRoute where
  listed a := by cases a <;> decide
  apart a b same := by cases a <;> cases b <;> first | rfl | exact absurd same (by decide)

theorem lawful_riskRoute : OutcomeFamily.Lawful RiskRoute where
  listed a := by cases a <;> decide
  apart a b same := by cases a <;> cases b <;> first | rfl | exact absurd same (by decide)

theorem lawful_draftRoute : OutcomeFamily.Lawful DraftRoute where
  listed a := by cases a <;> decide
  apart a b same := by cases a <;> cases b <;> first | rfl | exact absurd same (by decide)

theorem lawful_validationRoute : OutcomeFamily.Lawful ValidationRoute where
  listed a := by cases a <;> decide
  apart a b same := by cases a <;> cases b <;> first | rfl | exact absurd same (by decide)

theorem lawful_refinementRoute : OutcomeFamily.Lawful RefinementRoute where
  listed a := by cases a <;> decide
  apart a b same := by cases a <;> cases b <;> first | rfl | exact absurd same (by decide)

theorem ponders_definition (tag : Nat) :
    ∀ route ∈ (definition tag).routes, route.Ponders fun _ _ => False := by
  intro route member
  simp only [definition, drawn, List.mem_cons, List.not_mem_nil, or_false] at member
  rcases member with rfl | rfl | rfl | rfl | rfl
  · exact Route.ponders_deciding lawful_complexityRoute _ _ _
  · exact Route.ponders_deciding lawful_riskRoute _ _ _
  · exact Route.ponders_deciding lawful_draftRoute _ _ _
  · exact Route.ponders_deciding lawful_validationRoute _ _ _
  · exact Route.ponders_deciding lawful_refinementRoute _ _ _

end PolicyGeneration

end StepGraph
