import StepGraph.Graph.Validation
import StepGraph.History

namespace StepGraph

/-- A step with its edges by the text of their outcomes. -/
structure StepView where
  name : String
  fatal : Bool
  edges : List (String × List String)
deriving Repr

structure GraphView where
  name : String
  description : Option String
  entry : Option String
  terminals : List String
  ceiling : Option Int
  steps : List StepView
deriving Repr

namespace Definition

def edgeTexts (definition : Definition) (name : String) : List (String × List String) :=
  match definition.route? name with
  | none => []
  | some route =>
      route.edges.foldl
        (fun texts edge =>
          updateKey edge.outcome.value.plain edge.successors (fun _ => edge.successors) texts) []

def describe (definition : Definition) : GraphView where
  name := definition.name
  description := definition.description
  entry := definition.entry
  terminals := sortTexts definition.terminals
  ceiling := definition.ceiling
  steps := definition.steps.map fun step =>
    ⟨step.name, step.fatal, definition.edgeTexts step.name⟩

end Definition

namespace StepView

def edgeLine (edge : String × List String) : String :=
  let targets := ", ".intercalate edge.2
  "    " ++ edge.1 ++ " -> " ++ if targets.isEmpty then "END" else targets

def lines (step : StepView) : List String :=
  let mark := if step.fatal then " (fatal)" else ""
  ("- " ++ step.name ++ mark) :: step.edges.map edgeLine

end StepView

namespace GraphView

def lines (view : GraphView) : List String :=
  let name := view.name
  let entry := view.entry.getD "None"
  let terminals := ", ".intercalate view.terminals
  [s!"Graph {name}"] ++
    (view.description.filter (!·.isEmpty)).toList.map ("  " ++ ·) ++
    [s!"Entry point: {entry}", s!"Terminals: {terminals}"] ++
    (view.ceiling.filter (· != 0)).toList.map (fun ceiling => s!"Max iterations: {ceiling}") ++
    ["Steps:"] ++ view.steps.flatMap (·.lines)

end GraphView

end StepGraph
