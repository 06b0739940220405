import StepGraph.Proofs.Run.Budget

namespace StepGraph

/-- A graph that passes the checks although its only decision has neither a router nor an edge for
the outcome it comes to. -/
def silent : Definition where
  name := "silent"
  steps := [{ name := "first", action := .done .nothing },
    { name := "last", action := .done .same }]
  routes :=
    [{ source := "first"
       router := none
       edges := [⟨.ofText "x", ["last"]⟩]
       outcomes := [.ofText "x"] }]
  entry := some "first"
  terminals := ["last"]
  ceiling := none
  description := none

def waiting : Definition where
  name := "waiting"
  steps := [{ name := "wait", action := .ask (.gate "door") fun _ => .done .nothing }]
  routes := []
  entry := some "wait"
  terminals := ["wait"]
  ceiling := none
  description := none

end StepGraph
