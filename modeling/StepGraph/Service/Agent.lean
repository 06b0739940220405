import StepGraph.State

namespace StepGraph

def draftField : String := "policy_draft"

def promptDetails : Data → String
  | .payload carried => carried.document [draftField]
  | .plain value => value.shown

def generationPrompt (state : State) : String :=
  let details := promptDetails state.data
  let prompt := s!"Draft a security policy from this context:\n{details}"
  if state.errors.isEmpty then prompt
  else
    let recent := "; ".intercalate ((state.errors.drop (state.errors.length - 3)).map (·.message))
    prompt ++ s!"\nEarlier steps reported problems: {recent}"

/-- A model that always gives the same answer. -/
structure Agent where
  answer : Fallible Value

namespace Agent

def offline : Agent :=
  ⟨.ok (.text "success (no tool calls)")⟩

def offlineName : String := "test"

/-- The agent for the name of a model, in front of which the name of its provider may stand behind a
colon. Only the offline model is at hand. -/
def ofModel (model : String) : Fallible Agent :=
  if model = offlineName then .ok offline
  else
    let provider := model.toList.takeWhile (· != ':')
    if provider.length = model.length then .error (.fault .usage ("Unknown model: " ++ model))
    else .error (.fault .value ("Unknown provider: " ++ String.ofList provider))

def draft (agent : Agent) : Fallible String :=
  agent.answer.map (·.plain)

end Agent

end StepGraph
