import StepGraph.State

namespace StepGraph

structure Outline where
  service : String
  requirements : Entries := []
  bestPractices : List String := []
  complianceContext : List String := []
  threatContext : List String := []
  notes : List String := []

def noneIdentified : String := "None identified"

def bullets (items : List String) : List String :=
  if items.isEmpty then ["- " ++ noneIdentified] else items.map ("- " ++ ·)

def additionalRequirements (requirements : Entries) : Fallible (List Value) :=
  match (requirements.get? "additional_requirements").getD .null with
  | .text s => .ok (if s.isEmpty then [] else [.text s])
  | value => if value.holds then value.itemsOf else .ok []

namespace Outline

/-- What a state has to offer. Only a policy request fills in more than the defaults; requirements
in another shape are no use here. -/
def ofData : Data → Fallible Outline
  | .payload (.policy request) =>
      .ok
        { service := if request.service.isEmpty then "service" else request.service
          requirements := request.requirements
          bestPractices := request.bestPractices
          complianceContext := request.complianceContext
          threatContext := request.threatContext
          notes := request.reviewNotes ++ request.refinementNotes }
  | .payload (.compliance examined) =>
      if examined.requirements.isEmpty then .ok { service := "service" }
      else .error (.noAttribute (.list []) "get")
  | _ => .ok { service := "service" }

def lines (outline : Outline) (extra : List Value) : List String :=
  let service := outline.service
  let framework := ((outline.requirements.get? "compliance").getD (.text "CIS")).plain
  let environment := ((outline.requirements.get? "environment").getD (.text "production")).plain
  [s!"# Security Policy for {service}",
    "",
    "## Scope",
    s!"Applies to {service} resources in the {environment} environment.",
    "",
    "## Controls"] ++
  bullets (outline.bestPractices ++ extra.map (·.plain)) ++
  ["", "## Compliance", s!"Framework: {framework}"] ++
  bullets outline.complianceContext ++
  ["", "## Threat Mitigations"] ++
  bullets outline.threatContext ++
  if outline.notes.isEmpty then [] else ["", "## Review Notes"] ++ bullets outline.notes

end Outline

def draftFromTemplate (state : State) : Fallible String := do
  let outline ← Outline.ofData state.data
  let extra ← additionalRequirements outline.requirements
  return "\n".intercalate (outline.lines extra) ++ "\n"

end StepGraph
