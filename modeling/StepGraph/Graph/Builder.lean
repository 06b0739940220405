import StepGraph.Graph.Validation

namespace StepGraph

def endMarker : String := "__end__"

/-- The successors a run has to go through, without the marks of its end. -/
def dropEndMarkers (names : List String) : List String :=
  names.filter (· != endMarker)

theorem endMarker_notMem_dropEndMarkers (names : List String) :
    endMarker ∉ dropEndMarkers names := by
  simp [dropEndMarkers]

/-- What closes the set of outcomes, where it is said explicitly. -/
inductive Closing where
  | listed (labels : List Label)
  | family (family : Family)

/-- Outcomes without repetition; the first of several equal ones stays. -/
def dropRepeated (outcomes : List Outcome) : List Outcome :=
  outcomes.foldl
    (fun kept outcome => if kept.any (·.key == outcome.key) then kept else kept ++ [outcome]) []

def readOutcomes (values : List Value) : Fallible (List Outcome) :=
  dropRepeated <$> values.mapM Outcome.read

abbrev Mapping := List (Label × List String)

/-- The closed set of outcomes of a mapping: what is said explicitly, else the whole family of the
first member among the labels, else the labels themselves. -/
def closedOutcomes (mapping : Mapping) : Option Closing → Fallible (List Outcome)
  | some (.listed labels) => readOutcomes (labels.map (·.value))
  | some (.family family) => readOutcomes (family.members.map (·.2))
  | none =>
      match mapping.findSome? (·.1.family?) with
      | some family => readOutcomes (family.members.map (·.2))
      | none => readOutcomes (mapping.map (·.1.value))

def setEdge (outcome : Outcome) (successors : List String) : List Edge → List Edge
  | [] => [⟨outcome, successors⟩]
  | edge :: rest =>
      if edge.outcome.key = outcome.key then { edge with successors } :: rest
      else edge :: setEdge outcome successors rest

theorem keys_setEdge (outcome : Outcome) (successors : List String) (edges : List Edge) :
    (setEdge outcome successors edges).map (·.outcome.key) =
      if outcome.key ∈ edges.map (·.outcome.key) then edges.map (·.outcome.key)
      else edges.map (·.outcome.key) ++ [outcome.key] := by
  induction edges with
  | nil => simp [setEdge]
  | cons edge rest ih =>
      by_cases h : edge.outcome.key = outcome.key
      · simp [setEdge, h]
      · by_cases hm : outcome.key ∈ rest.map (·.outcome.key) <;>
          simp only [setEdge, h, if_false, List.map_cons, List.mem_cons, Ne.symm h, hm, ih, if_true,
            false_or, List.cons_append]

/-- The edges of a mapping. Of several entries with one key the first gives the place and the last
the successors. -/
def edgesOf (mapping : Mapping) : Fallible (List Edge) :=
  mapping.foldlM
    (fun edges entry => do
      let outcome ← Outcome.read entry.1.value
      return setEdge outcome (dropEndMarkers entry.2) edges) []

/-- A definition in the making. -/
structure Draft where
  name : String
  description : Option String := none
  ceiling : Option Int := none
  steps : List StepSpec := []
  routes : List Route := []
  entry : Option String := none
  terminals : List String := []

namespace Draft

def reject (draft : Draft) (problem : String) : Fallible α :=
  .error (.invalidGraph draft.name [problem] [])

def checkStep (draft : Draft) (name : String) : Fallible Unit :=
  if name = endMarker then
    draft.reject s!"'{endMarker}' is reserved and cannot be used as a step name"
  else if draft.steps.any (·.name == name) then draft.reject s!"step '{name}' declared twice"
  else .ok ()

def addStep (draft : Draft) (spec : StepSpec) : Fallible Draft := do
  draft.checkStep spec.name
  return { draft with steps := draft.steps ++ [spec] }

def checkSource (draft : Draft) (source : String) : Fallible Unit :=
  if draft.routes.any (·.source == source) then
    draft.reject s!"step '{source}' already has outgoing edges"
  else .ok ()

def addEdge (draft : Draft) (source : String) (targets : List String) : Fallible Draft := do
  draft.checkSource source
  let route := Route.unconditional source (dropEndMarkers targets)
  return { draft with routes := draft.routes ++ [route] }

def addConditional (draft : Draft) (source : String) (router : Router) (mapping : Mapping)
    (closing : Option Closing) : Fallible Draft := do
  draft.checkSource source
  let edges ← edgesOf mapping
  let outcomes ← closedOutcomes mapping closing
  return { draft with routes := draft.routes ++ [⟨source, some router, edges, outcomes⟩] }

def setEntry (draft : Draft) (name : String) : Draft :=
  { draft with entry := some name }

def addTerminals (draft : Draft) (names : List String) : Draft :=
  { draft with
    terminals := names.foldl
      (fun kept name => if kept.contains name then kept else kept ++ [name]) draft.terminals }

def build (draft : Draft) (tag : Nat) : Fallible Definition :=
  if draft.ceiling.any (· < 1) then
    .error (.refused [⟨.belowBound, [.field "max_iterations"]⟩])
  else .ok { draft with tag }

def compile (draft : Draft) (tag : Nat) : Fallible Definition := do
  let definition ← draft.build tag
  definition.validate
  return definition

end Draft

end StepGraph
