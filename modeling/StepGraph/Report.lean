import StepGraph.Record

namespace StepGraph

/-- The outcome of an instance line by line; the payload comes last and may take several lines. -/
def Result.lines (result : Result) : List String :=
  let id := result.instanceId
  let status := result.status.name
  let step := (result.terminalStep.filter (!·.isEmpty)).getD "-"
  let steps := result.state.metadata.totalSteps
  let duration := Decimal.fixed 1 result.durationMs
  [s!"Instance {id}: {status}", s!"Terminal step: {step}", s!"Steps: {steps}",
    s!"Duration: {duration} ms"] ++
  (result.error.filter (!·.isEmpty)).toList.map ("Error: " ++ ·) ++
  (if result.state.hasErrors then
    "Step errors:" :: result.state.errors.map fun error =>
      "- " ++ error.step ++ ": " ++ error.message
  else []) ++
  ["Payload: " ++ result.state.data.document]

def Statistics.document (statistics : Statistics) : String :=
  Json.Format.data.print (.record statistics.entries)

end StepGraph
