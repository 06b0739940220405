import StepGraph.Proofs.Graph.Walks

namespace StepGraph

def Data.script (outcomes : List Outcome) : Data :=
  .plain (.list (outcomes.map (·.value)))

def Router.recite : Router :=
  .read fun state =>
    match state.data with
    | .plain (.list (value :: rest)) =>
        .write { state with data := .plain (.list rest) } (.done (.plain value))
    | _ => .fail (.fault .runtime "no outcomes are left")

def StepSpec.idle (spec : StepSpec) : StepSpec :=
  { spec with action := .done .nothing }

def Route.reciting (route : Route) : Route :=
  { route with router := some .recite }

namespace Definition

/-- The graph with steps that do nothing and routers that recite, under a ceiling of its own. -/
def rehearsal (definition : Definition) (ceiling : Int) : Definition :=
  { definition with
    steps := definition.steps.map StepSpec.idle
    routes := definition.routes.map Route.reciting
    ceiling := some ceiling }

variable {definition : Definition} {ceiling : Int}

theorem step?_rehearsal (name : String) :
    (definition.rehearsal ceiling).step? name = (definition.step? name).map StepSpec.idle := by
  simp only [step?, rehearsal, List.find?_map]
  rfl

theorem route?_rehearsal (name : String) :
    (definition.rehearsal ceiling).route? name = (definition.route? name).map Route.reciting := by
  simp only [route?, rehearsal, List.find?_map]
  rfl

end Definition

end StepGraph
