import StepGraph.Yaml.Content
import StepGraph.Json.Reader
import StepGraph.Settings
import StepGraph.Graph.View
import StepGraph.Report

namespace StepGraph.CommandLine

/-! ### Arguments -/

/-- Options with their values, and the other arguments. -/
structure Arguments where
  options : List (String × String) := []
  others : List String := []
deriving Repr

def joinedValue? (argument : String) : Option (String × String) :=
  let chars := argument.toList
  match chars.dropWhile (· != '=') with
  | [] => none
  | _ :: value => some (String.ofList (chars.takeWhile (· != '=')), String.ofList value)

def isOption (argument : String) : Bool :=
  argument.startsWith "-" && argument.length > 1

/-- Tells options from other arguments. Two dashes end the options; so does the first other argument
unless options may stand anywhere. An unknown option, or one without a value, is an error. -/
def split? (known : List String) (anywhere : Bool) : List String → Option Arguments
  | [] => some {}
  | argument :: rest =>
      if argument = "--" then some { others := rest }
      else if isOption argument then
        match joinedValue? argument with
        | some (name, value) =>
            if known.contains name then
              (split? known anywhere rest).map fun arguments =>
                { arguments with options := (name, value) :: arguments.options }
            else none
        | none =>
            match rest with
            | [] => none
            | value :: rest =>
                if known.contains argument then
                  (split? known anywhere rest).map fun arguments =>
                    { arguments with options := (argument, value) :: arguments.options }
                else none
      else if anywhere then
        (split? known anywhere rest).map fun arguments =>
          { arguments with others := argument :: arguments.others }
      else some { others := argument :: rest }

def Arguments.value? (arguments : Arguments) (name : String) : Option String :=
  arguments.options.reverse.lookup name

/-! ### Commands -/

inductive Group where
  | graph
  | workflow

def Group.ofName? : String → Option Group
  | "graph" => some .graph
  | "workflow" => some .workflow
  | _ => none

/-- A command line whose group is known, with what the group has to make of the rest. -/
structure Invocation where
  settings : Option String
  group : Group
  rest : List String

inductive Command where
  | listGraphs
  | showGraph (name : String)
  | runWorkflow (name : String) (input : Option String)
  | runMany (name : String) (count : Nat) (input : Option String)

def Invocation.read? (arguments : List String) : Option Invocation := do
  let arguments ← split? ["--config"] false arguments
  match arguments.others with
  | [] => none
  | name :: rest => return ⟨arguments.value? "--config", ← Group.ofName? name, rest⟩

/-- How many instances are run unless said otherwise. -/
def defaultCount : String := "10"

def readCount? (text : String) : Option Nat := do
  let count ← (Numeral.read 10 text.toList).toOption
  if count < 1 then none else return count.toNat

def onlyName? : List String → Option String
  | [name] => some name
  | _ => none

def Command.read? (group : Group) (arguments : List String) : Option Command := do
  let outer ← split? [] false arguments
  match group, outer.others with
  | .graph, "list" :: rest =>
      let inner ← split? [] true rest
      if inner.others.isEmpty then return .listGraphs else none
  | .graph, "show" :: rest =>
      let inner ← split? [] true rest
      return .showGraph (← onlyName? inner.others)
  | .workflow, "run" :: rest =>
      let inner ← split? ["--input"] true rest
      return .runWorkflow (← onlyName? inner.others) (inner.value? "--input")
  | .workflow, "stats" :: rest =>
      let inner ← split? ["--count", "--input"] true rest
      let count ← readCount? ((inner.value? "--count").getD defaultCount)
      return .runMany (← onlyName? inner.others) count (inner.value? "--input")
  | _, _ => none

/-! ### Performing -/

/-- How a command line ends: with a complaint about its use, with an exit code and some lines, or by
a failure nobody handled. -/
inductive Exit where
  | usage
  | code (code : Nat) (lines : List String)
  | failed (failure : Failure)

def readInput (input : Option String) : Fallible Value :=
  match input.filter (!·.isEmpty) with
  | none => .ok (.record [])
  | some text => do
      match ← Json.parse text with
      | .record entries => return .record entries
      | _ => .error (.fault .value "input must be a JSON object")

def initialState (name : String) (input : Option String) : Fallible State := do
  WorkflowKind.initialState name (← readInput input)

def graphNotFound (name : String) : Exit :=
  .code 1 ["Graph not found: " ++ name]

def listGraphs (orchestrator : Orchestrator) : Exit :=
  .code 0 (orchestrator.registry.definitions.map fun definition =>
    definition.name ++ "\t" ++ toString definition.steps.length ++ " steps")

def showGraph (orchestrator : Orchestrator) (name : String) : Exit :=
  match orchestrator.registry.find? name with
  | some definition => .code 0 definition.describe.lines
  | none => graphNotFound name

/-- Goes on with the initial state of a workflow that is registered. Failures of values are reported
as a problem with the input. -/
def withState (orchestrator : Orchestrator) (name : String) (input : Option String)
    (next : State → Exit) : Exit :=
  if !orchestrator.registry.contains name then graphNotFound name
  else
    match initialState name input with
    | .ok state => next state
    | .error failure =>
        if failure.isValueFault then
          .code 1 ["Invalid input for " ++ name ++ ": " ++ failure.message]
        else .failed failure

def runWorkflow (orchestrator : Orchestrator) (name : String) (state : State) : Exit :=
  let place : Workplace := { orchestrator }
  match (place.runNow name (.state state)).2 with
  | some (.result result) => .code 0 result.lines
  | some (.failed failure) =>
      if failure.isWorkflow then .code 1 ["Workflow failed: " ++ failure.message]
      else .failed failure
  | _ => .code 0 []

def startMany (name : String) (state : State) : Nat → Workplace → Workplace
  | 0, place => place
  | count + 1, place => startMany name state count (place.spawn (.start name (.state state)) []).1

def failuresOf (place : Workplace) : List Failure :=
  place.tasks.filterMap fun task =>
    match task.conclusion? with
    | some (.failed failure) => some failure
    | _ => none

def runMany (orchestrator : Orchestrator) (name : String) (count : Nat) (state : State) : Exit :=
  let place := (startMany name state count { orchestrator }).settled
  let failures := failuresOf place
  let complaint := failures.head?.toList.map fun first =>
    toString failures.length ++ " of " ++ toString count ++ " instances failed: " ++ first.message
  .code 0 (complaint ++ [place.orchestrator.statistics.document])

def Command.perform (orchestrator : Orchestrator) : Command → Exit
  | .listGraphs => CommandLine.listGraphs orchestrator
  | .showGraph name => CommandLine.showGraph orchestrator name
  | .runWorkflow name input =>
      withState orchestrator name input (CommandLine.runWorkflow orchestrator name)
  | .runMany name count input =>
      withState orchestrator name input (CommandLine.runMany orchestrator name count)

/-- The settings in the text of a document, if there is one, and in the environment. The level of
the log is checked here too. -/
def loadSettings (document : Option String) (environment : Environment) : Fallible Settings := do
  let value ← document.mapM Yaml.read
  let settings ← Settings.load value environment
  let _ ← settings.logThreshold
  return settings

def Invocation.perform (invocation : Invocation) (document : Option String)
    (environment : Environment) : Exit :=
  match loadSettings document environment with
  | .error failure => .failed failure
  | .ok settings =>
      match Command.read? invocation.group invocation.rest with
      | none => .usage
      | some command =>
          match settings.orchestrator none environment with
          | .error failure => .failed failure
          | .ok orchestrator => command.perform orchestrator

end StepGraph.CommandLine
