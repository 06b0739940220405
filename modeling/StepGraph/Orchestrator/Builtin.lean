import StepGraph.Orchestrator.Turn
import StepGraph.Workflow.Builtin

namespace StepGraph

/-- Registers some definitions one after another, up to the first that is refused. -/
def Orchestrator.registerAll (orchestrator : Orchestrator) :
    List (Fallible Definition) → Orchestrator × Option Failure
  | [] => (orchestrator, none)
  | definition :: rest =>
      match definition.bind orchestrator.register with
      | .ok orchestrator => registerAll orchestrator rest
      | .error failure => (orchestrator, some failure)

def WorkflowKind.graphs (tag : Nat) : List (Fallible Definition) :=
  WorkflowKind.all.zipIdx.map fun (kind, index) => kind.graph (tag + index)

def Orchestrator.registerBuiltin (orchestrator : Orchestrator) (services : Services) (tag : Nat) :
    Orchestrator × Option Failure :=
  let (after, failure) := orchestrator.registerAll (WorkflowKind.graphs tag)
  if after.registry.size = orchestrator.registry.size then (after, failure)
  else ({ after with services }, failure)

namespace Workplace

/-- How many moves are made before a queue is given up. -/
def patience : Nat := 10000000

def settled (place : Workplace) : Workplace :=
  settle patience place

/-- Runs an instance as a task, together with everything that is ready; the result is that of the
task, if it has ended. -/
def runNow (place : Workplace) (graph : String) (initial : Initial) :
    Workplace × Option Conclusion :=
  let (place, task) := place.spawn (.start graph initial) []
  let place := place.settled
  (place, (place.task? task).bind (·.conclusion?))

end Workplace

end StepGraph
