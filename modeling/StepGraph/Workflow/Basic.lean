import StepGraph.Graph.Builder
import StepGraph.Service.Review

namespace StepGraph

class OutcomeFamily (α : Type) where
  familyName : String
  members : List α
  memberName : α → String
  outcomeText : α → String

namespace OutcomeFamily

def family (α : Type) [OutcomeFamily α] : Family where
  name := familyName α
  members := (members (α := α)).map fun a => (memberName a, .text (outcomeText a))

def label [OutcomeFamily α] (a : α) : Label :=
  .member (family α) (.text (outcomeText a))

def ofText? (α : Type) [OutcomeFamily α] (text : String) : Option α :=
  (members (α := α)).find? fun a => outcomeText a == text

end OutcomeFamily

def Router.decide [OutcomeFamily α] (choose : State → α) : Router :=
  .read fun state => .done (OutcomeFamily.label (choose state))

def Router.tryDecide [OutcomeFamily α] (choose : State → Fallible α) : Router :=
  .read fun state =>
    match choose state with
    | .ok a => .done (OutcomeFamily.label a)
    | .error failure => .fail failure

def State.withPayload (state : State) (payload : Payload) : State :=
  { state with data := .payload payload }

def unexpectedData (form : String) (data : Data) : Failure :=
  let found := data.kindName
  .fault .type s!"expected {form} payload, got {found}"

/-- How to find the payload of one kind in some data, and how to put it back. -/
structure PayloadLens (α : Type) where
  form : String
  find? : Data → Option α
  wrap : α → Payload

namespace PayloadLens

def policy : PayloadLens PolicyRequest :=
  ⟨"PolicyGenerationData", Data.policy?, .policy⟩

def threat : PayloadLens ThreatReport :=
  ⟨"ThreatResponseData", Data.threat?, .threat⟩

def compliance : PayloadLens ComplianceCase :=
  ⟨"ComplianceValidationData", Data.compliance?, .compliance⟩

/-- A step that computes a new payload from the one it finds. Nothing is written unless the
computation succeeds. -/
def step (lens : PayloadLens α) (work : α → StepProgram α) : Step :=
  .read fun state =>
    match lens.find? state.data with
    | none => .fail (unexpectedData lens.form state.data)
    | some payload =>
        (work payload).bind fun payload =>
          .read fun state => .write (state.withPayload (lens.wrap payload)) (.done .nothing)

def change (lens : PayloadLens α) (f : α → α) : Step :=
  lens.step fun payload => .done (f payload)

end PayloadLens

namespace Facts

def of (facts : Facts) (category : String) : List String :=
  (facts.lookup category).getD []

end Facts

/-- Adds the items that are not there yet, each once, at the end. -/
def mergeNew (known items : List String) : List String :=
  items.foldl (fun known item => if known.contains item then known else known ++ [item]) known

def leadsTo [OutcomeFamily α] (a : α) (successors : List String) : Label × List String :=
  (OutcomeFamily.label a, successors)

def Draft.addSteps (draft : Draft) (steps : List (String × Step)) : Fallible Draft :=
  steps.foldlM (fun draft step => draft.addStep { name := step.1, action := step.2 }) draft

end StepGraph
