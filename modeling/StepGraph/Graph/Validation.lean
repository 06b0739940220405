import StepGraph.Graph.Basic

namespace StepGraph

def sortTexts (texts : List String) : List String :=
  texts.mergeSort fun a b => decide (a ≤ b)

def outcomesText (outcomes : List Outcome) : String :=
  (Value.list ((sortTexts (outcomes.map (·.value.plain))).map .text)).shown

namespace Route

def unmapped (route : Route) : List Outcome :=
  route.outcomes.filter fun outcome => !route.edges.any (·.outcome.key == outcome.key)

/-- Outcomes of edges that the router never answers with. -/
def surplus (route : Route) : List Outcome :=
  (route.edges.map (·.outcome)).filter fun outcome =>
    !route.outcomes.any (·.key == outcome.key)

end Route

namespace Definition

def stepProblems (definition : Definition) : List String :=
  if definition.steps.isEmpty then ["no steps declared"] else []

def entryProblems (definition : Definition) : List String :=
  match definition.entry with
  | none => ["no entry point set"]
  | some entry =>
      if definition.declares entry then [] else [s!"entry point '{entry}' is not a declared step"]

def terminalProblem? (definition : Definition) (terminal : String) : Option String :=
  if !definition.declares terminal then
    some s!"terminal '{terminal}' is not a declared step"
  else if (definition.route? terminal).isSome then
    some s!"terminal step '{terminal}' must not have outgoing edges"
  else none

def terminalProblems (definition : Definition) : List String :=
  (if definition.terminals.isEmpty then ["no terminal step declared"] else []) ++
    (sortTexts definition.terminals).filterMap definition.terminalProblem?

def successorProblems (definition : Definition) (source : String) (outcome : Outcome) :
    List String → List String
  | [] => []
  | name :: rest =>
      let shown := outcome.value.shown
      (if !definition.declares name then
        [s!"step '{source}' outcome {shown} references unknown step '{name}'"]
      else if definition.isTerminal name && !rest.isEmpty then
        [s!"terminal step '{name}' must be last in the successors of '{source}' outcome {shown}"]
      else []) ++ definition.successorProblems source outcome rest

def routeProblems (definition : Definition) (route : Route) : List String :=
  let source := route.source
  let unmapped := outcomesText route.unmapped
  let surplus := outcomesText route.surplus
  (if definition.declares source then [] else [s!"edges declared for unknown step '{source}'"]) ++
    (if route.unmapped.isEmpty then []
      else [s!"step '{source}' has no edge for outcomes {unmapped}"]) ++
    (if route.surplus.isEmpty then []
      else [s!"step '{source}' maps outcomes its router never returns {surplus}"]) ++
    route.edges.flatMap fun edge => definition.successorProblems source edge.outcome edge.successors

def structuralProblems (definition : Definition) : List String :=
  definition.stepProblems ++ definition.entryProblems ++ definition.terminalProblems ++
    definition.routes.flatMap definition.routeProblems

def successorLists (definition : Definition) (name : String) : List (List String) :=
  match definition.route? name with
  | some route => route.edges.map (·.successors)
  | none => []

def nextSteps (definition : Definition) (name : String) : List String :=
  (definition.successorLists name).filterMap (·.getLast?)

def walk (definition : Definition) : Nat → List String → List String → List String
  | 0, _, found => found
  | _ + 1, [], found => found
  | fuel + 1, name :: queue, found =>
      let fresh := (definition.nextSteps name).eraseDups.filter fun next => !found.contains next
      definition.walk fuel (queue ++ fresh) (found ++ fresh)

def edgeCount (definition : Definition) : Nat :=
  definition.routes.foldl (fun count route => count + route.edges.length) 0

/-- The steps whose own routes are consulted: the entry point, and the last successor of every
outcome of such a step. Each is visited once, so that an edge at most adds one visit. -/
def continuations (definition : Definition) : List String :=
  match definition.entry with
  | none => []
  | some entry => definition.walk (definition.edgeCount + 1) [entry] [entry]

def reachable (definition : Definition) : List String :=
  definition.entry.toList ++
    definition.continuations.flatMap fun name => (definition.successorLists name).flatten

def endsThrough (good : List String) (successors : List String) : Bool :=
  match successors.getLast? with
  | none => true
  | some last => good.contains last

def grow (definition : Definition) (candidates : List String) : Nat → List String → List String
  | 0, good => good
  | fuel + 1, good =>
      let fresh := candidates.filter fun name =>
        !good.contains name && (definition.successorLists name).any (endsThrough good)
      definition.grow candidates fuel (good ++ fresh)

/-- The continuation steps from which some path ends the run. Each round adds one at least or is the
last. -/
def terminating (definition : Definition) : List String :=
  let candidates := definition.continuations
  definition.grow candidates candidates.length (candidates.filter definition.isTerminal)

def unreachable (definition : Definition) : List String :=
  definition.stepNames.filter fun name => !definition.reachable.contains name

def unreachableProblems (definition : Definition) : List String :=
  if definition.unreachable.isEmpty then []
  else
    let names := ", ".intercalate definition.unreachable
    [s!"steps unreachable from entry point: {names}"]

def deadEndProblems (definition : Definition) : List String :=
  (sortTexts definition.continuations).filterMap fun name =>
    if !definition.isTerminal name && (definition.route? name).isNone then
      some s!"step '{name}' has no outgoing edges and is not terminal"
    else none

def endlessProblems (definition : Definition) : List String :=
  let good := definition.terminating
  (sortTexts definition.continuations).flatMap fun name =>
    match definition.route? name with
    | none => []
    | some route =>
        route.edges.filterMap fun edge =>
          if endsThrough good edge.successors then none
          else
            let shown := edge.outcome.value.shown
            some s!"outcome {shown} of step '{name}' never reaches a terminal step"

def pathProblems (definition : Definition) : List String :=
  definition.unreachableProblems ++ definition.deadEndProblems ++ definition.endlessProblems

def validate (definition : Definition) : Fallible Unit :=
  let structural := definition.structuralProblems
  if !structural.isEmpty then .error (.invalidGraph definition.name structural [])
  else
    let problems := definition.pathProblems
    if problems.isEmpty then .ok ()
    else .error (.invalidGraph definition.name problems (sortTexts definition.unreachable))

end Definition

end StepGraph
