import StepGraph.Proofs.Workflow.Families
import StepGraph.Workflow.ComplianceValidation

namespace StepGraph.ComplianceValidation

def afterFramework : Framework → List String
  | .cis => ["validate_policy"]
  | _ => ["retrieve_requirements", "validate_policy"]

def afterVerdict : Verdict → List String
  | .compliant => ["generate_audit_trail"]
  | _ => ["identify_gaps", "suggest_improvements", "generate_audit_trail"]

def drawn : Draft where
  name := name
  description := some "Validate a policy against a compliance framework"
  ceiling := some 10
  steps := steps.map fun (name, action) => { name, action }
  routes :=
    [.deciding "identify_framework" routeOnFramework afterFramework,
      .deciding "validate_policy" routeOnVerdict afterVerdict]
  entry := some "identify_framework"
  terminals := ["generate_audit_trail"]

theorem draft_eq : draft = .ok drawn := by
  rfl

def definition (tag : Nat) : Definition :=
  { drawn with tag }

theorem wellFormed_definition (tag : Nat) : (definition tag).WellFormed := by
  have structured : (definition tag).Structured :=
    Definition.structured_of_checks rfl (List.cons_ne_nil _ _) rfl
  refine structured.wellFormed ?_ ?_ ?_ <;> cbv

theorem graph_eq (tag : Nat) : graph tag = .ok (definition tag) := by
  have built : drawn.build tag = .ok (definition tag) := rfl
  rw [graph, draft_eq]
  exact Draft.compile_eq_ok built (wellFormed_definition tag)

theorem lawful_framework : OutcomeFamily.Lawful Framework where
  listed a := by cases a <;> decide
  apart a b same := by cases a <;> cases b <;> first | rfl | exact absurd same (by decide)

theorem lawful_verdict : OutcomeFamily.Lawful Verdict where
  listed a := by cases a <;> decide
  apart a b same := by cases a <;> cases b <;> first | rfl | exact absurd same (by decide)

theorem ponders_definition (tag : Nat) :
    ∀ route ∈ (definition tag).routes, route.Ponders fun _ _ => False := by
  intro route member
  simp only [definition, drawn, List.mem_cons, List.not_mem_nil, or_false] at member
  rcases member with rfl | rfl
  · exact Route.ponders_deciding lawful_framework _ _ _
  · exact Route.ponders_deciding lawful_verdict _ _ _

end StepGraph.ComplianceValidation
