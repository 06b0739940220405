import StepGraph.Program
import StepGraph.Graph.Outcome

namespace StepGraph

/-- A router answers with a label and may act on its surroundings, but never waits. -/
abbrev Router := Program Deed Deed.Reply Label

/-- A named unit of work. The failure of a `fatal` step ends the run. -/
structure StepSpec where
  name : String
  action : Step
  fatal : Bool := false
  description : Option String := none

/-- The ordered successors for one outcome; none of them means that the run ends. -/
structure Edge where
  outcome : Outcome
  successors : List String

/-- The way out of one step. Without a router the outcome is the default one. `outcomes` is the
closed set of what the router may answer. -/
structure Route where
  source : String
  router : Option Router
  edges : List Edge
  outcomes : List Outcome

namespace Route

def successors? (route : Route) (key : Key) : Option (List String) :=
  (route.edges.find? (·.outcome.key == key)).map (·.successors)

/-- Every successor once, in the order in which they are declared. -/
def targets (route : Route) : List String :=
  (route.edges.flatMap (·.successors)).eraseDups

def unconditional (source : String) (successors : List String) : Route where
  source := source
  router := none
  edges := [⟨defaultOutcome, successors⟩]
  outcomes := [defaultOutcome]

end Route

/-- The static description of one kind of workflow. The tag tells apart definitions that read
alike. -/
structure Definition where
  name : String
  steps : List StepSpec
  routes : List Route
  entry : Option String
  terminals : List String
  ceiling : Option Int
  description : Option String
  tag : Nat := 0

namespace Definition

def stepNames (definition : Definition) : List String :=
  definition.steps.map (·.name)

def declares (definition : Definition) (name : String) : Bool :=
  definition.stepNames.contains name

def step? (definition : Definition) (name : String) : Option StepSpec :=
  definition.steps.find? (·.name == name)

def isTerminal (definition : Definition) (name : String) : Bool :=
  definition.terminals.contains name

def route? (definition : Definition) (name : String) : Option Route :=
  definition.routes.find? (·.source == name)

end Definition

end StepGraph
