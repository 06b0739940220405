import StepGraph.Plan.Action

namespace StepGraph.Plan

inductive Choice where
  | always (label : Label)
  | entry (key : String) (default : Label)
  | hasErrors (yes no : Label)
  /-- Whether a step has at least so many errors. -/
  | errorsFor (step : String) (count : Int) (yes no : Label)
  | less (key : String) (bound : Value) (yes no : Label)
  /-- Takes the first item off a list of the data. -/
  | pop (key : String)
  | iteration (labels : List (String × Label)) (default : Label)
  | fail (failure : Failure)

/-- A choice, and whether the own instance is cancelled before it is made. -/
structure RouterPlan where
  choice : Choice
  cancels : Bool

/-- The keys by which choices are told apart, in order of precedence. -/
def choiceKeys : List String :=
  ["const", "key", "has_errors", "errors_for", "less", "pop", "iteration", "raise"]

def readChoice (families : List NamedFamily) (plan : Value) : Fallible Choice :=
  let label := readLabel families
  let default := plan.getD "default" .null
  match choiceKeys.findSome? fun key => (plan.get? key).map fun value => (key, value) with
  | some ("const", value) => .always <$> label value
  | some ("key", .text key) => .entry key <$> label default
  | some ("has_errors", .list [yes, no]) => .hasErrors <$> label yes <*> label no
  | some ("errors_for", .list [.text step, .int count, yes, no]) =>
      .errorsFor step count <$> label yes <*> label no
  | some ("less", .list [.text key, bound, yes, no]) =>
      .less key bound <$> label yes <*> label no
  | some ("pop", .text key) => .ok (.pop key)
  | some ("iteration", .record labels) => do
      let labels ← labels.mapM fun entry => do return (entry.1, ← label entry.2)
      .iteration labels <$> label default
  | some ("raise", .list [.text kind, message]) => .fail <$> readFailure kind message
  | _ => .error (malformed "router")

def RouterPlan.read (families : List NamedFamily) (plan : Value) : Fallible RouterPlan := do
  return ⟨← readChoice families plan, (plan.getD "cancel" .null).holds⟩

def dataRecord (state : State) : Entries :=
  match state.data with
  | .plain value => value.entries
  | .payload _ => []

def Choice.program : Choice → Router
  | .always label => .done label
  | .entry key default => .read fun state =>
      match (dataRecord state).get? key with
      | some value => .done (.plain value)
      | none => .done default
  | .hasErrors yes no => .read fun state => .done (if state.hasErrors then yes else no)
  | .errorsFor step count yes no => .read fun state =>
      .done (if count ≤ (state.errorsFor step).length then yes else no)
  | .less key bound yes no => .read fun state =>
      let value := ((dataRecord state).get? key).getD (.int 0)
      if value.isNumber then .done (if value.isBelow bound then yes else no)
      else .fail (.fault .runtime "not a number")
  | .pop key => .read fun state =>
      match (dataRecord state).get? key with
      | some (.list (first :: rest)) =>
          .write { state with data := .plain (.record ((dataRecord state).set key (.list rest))) }
            (.done (.plain first))
      | _ => .fail (.fault .runtime "sequence exhausted")
  | .iteration labels default => .read fun state =>
      .done ((labels.lookup (toString state.iterationCount)).getD default)
  | .fail failure => .fail failure

def RouterPlan.router (plan : RouterPlan) : Router :=
  if plan.cancels then
    .read fun state =>
      .ask (.cancel state.metadata.instanceId) fun _ => plan.choice.program
  else plan.choice.program

end StepGraph.Plan
