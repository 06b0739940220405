import StepGraph.CommandLine

namespace StepGraph

def variablePrefixText : String := "POLICYFLOW_"

def variableNames : List String :=
  ["CONFIG", "LOG_LEVEL", "MAX_ITERATIONS", "HISTORY_LIMIT", "GENERATION_BACKEND"]

def readEnvironment : IO Environment :=
  variableNames.filterMapM fun name => do
    return (← IO.getEnv (variablePrefixText ++ name)).map fun value => (name, value)

def readDocument (name : String) : IO (Option String) := do
  try
    return some (← IO.FS.readFile name)
  catch _ => return none

def report : CommandLine.Exit → IO UInt32
  | .usage => do
      IO.eprintln "usage: stepgraph [--config FILE] graph (list | show NAME)"
      IO.eprintln "       stepgraph [--config FILE] workflow run NAME [--input JSON]"
      IO.eprintln "       stepgraph [--config FILE] workflow stats NAME [--count N] [--input JSON]"
      return 2
  | .code code lines => do
      for line in lines do
        IO.println line
      return code.toUInt32
  | .failed failure => do
      IO.eprintln (failure.kindName ++ ": " ++ failure.message)
      return 1

end StepGraph

open StepGraph in
def main (arguments : List String) : IO UInt32 := do
  match CommandLine.Invocation.read? arguments with
  | none => report .usage
  | some invocation =>
      let environment ← readEnvironment
      let document ← readDocument (Settings.sourceName invocation.settings environment)
      report (invocation.perform document environment)
