import StepGraph.Plan.Label
import StepGraph.Workflow.Builtin

namespace StepGraph

def Data.toValue : Data → Value
  | .plain value => value
  | .payload carried => .record carried.entries

namespace Plan

def readPayload (payload : Value) : Fallible Data :=
  match payload.get? "raw" with
  | some value => .ok (.plain value)
  | none => do
      let kind ← textOf "kind" (payload.getD "kind" .null)
      return .payload (← Payload.parse kind (payload.getD "data" .null))

def readState (now : Instant) (fields : Entries) : Fallible State := do
  let data ←
    match fields.get? "payload" with
    | some payload => readPayload payload
    | none => .ok (.plain ((fields.get? "data").getD .null))
  (State.ofEntries now data fields).toFallible

end Plan

end StepGraph
