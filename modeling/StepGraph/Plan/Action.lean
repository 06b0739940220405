import StepGraph.Plan.Label
import StepGraph.Plan.State

namespace StepGraph

namespace Value

def isNumber : Value → Bool
  | .int _ => true
  | .float _ => true
  | _ => false

def toFloat : Value → Float
  | .int n => Decimal.ofInt n
  | .float x => x
  | .bool b => if b then 1 else 0
  | _ => 0

def plus : Value → Value → Value
  | .int m, .int n => .int (m + n)
  | a, b => .float (a.toFloat + b.toFloat)

def isBelow : Value → Value → Bool
  | .int m, .int n => m < n
  | .int m, .float y => Decimal.intLtFloat m y
  | .float x, .int n => Decimal.floatLtInt x n
  | a, b => a.toFloat < b.toFloat

end Value

namespace Plan

inductive Action where
  | set (key : String) (value : Value)
  | increase (key : String) (amount : Value)
  | append (key : String) (value : Value)
  | delete (key : String)
  | putData (value : Value)
  | clearErrors
  | addError (step message : String)
  | setIteration (count : Int)
  | fail (failure : Failure)
  | failIf (key : String) (value : Value) (failure : Failure)
  | give (value : Value)
  /-- Ends the step with the state itself. -/
  | giveSelf
  /-- Ends the step with a new state around some data. -/
  | giveData (value : Value)
  /-- Ends the step with a new state built from a form. -/
  | giveState (fields : Entries)
  | giveCopy
  | moveClock (micros : Int)
  | setToken
  | cancel (instanceId : Option String)
  /-- Appends the counts of the present statistics to a list. -/
  | observe (key : String)
  | pause (times : Nat)
  | gate (name : String)
  /-- Runs another instance and keeps what became of it under a key. -/
  | nest (key graph : String) (data : Value)

/-! ### Reading -/

def readFailure (kind : String) (message : Value) : Fallible Failure :=
  match kind with
  | "RuntimeError" => .ok (.fault .runtime message.plain)
  | "ValueError" => .ok (.fault .value message.plain)
  | "KeyError" => .ok (.fault .lookup message.shown)
  | "TypeError" => .ok (.fault .type message.plain)
  | "WorkflowError" => .ok (.workflow message.plain)
  | "WorkflowCancelledError" => .ok (.instanceCancelled message.text?)
  | "UnknownGraphError" => .ok (.unknownGraph message.plain)
  | "CancelledError" => .ok .interrupted
  | _ => .error (malformed "kind of failure")

def Action.read : Value → Fallible Action
  | .list (.text name :: args) =>
      match name, args with
      | "set", [.text key, value] => .ok (.set key value)
      | "inc", [.text key, amount] => .ok (.increase key amount)
      | "append", [.text key, value] => .ok (.append key value)
      | "del", [.text key] => .ok (.delete key)
      | "data", [value] => .ok (.putData value)
      | "clear_errors", [] => .ok .clearErrors
      | "add_error", [.text step, message] => .ok (.addError step message.plain)
      | "iteration", [.int count] => .ok (.setIteration count)
      | "raise", [.text kind, message] => .fail <$> readFailure kind message
      | "raise_step", [.text step, message, fatal] =>
          .ok (.fail (.stepFailed step message.plain fatal.holds))
      | "raise_if", [.text key, value, .text kind, message] =>
          .failIf key value <$> readFailure kind message
      | "return", [value] => .ok (.give value)
      | "return_self", [] => .ok .giveSelf
      | "replace", [value] => .ok (.giveData value)
      | "replace_state", [fields] => .ok (.giveState fields.entries)
      | "return_copy", [] => .ok .giveCopy
      | "clock", [.int micros] => .ok (.moveClock micros)
      | "cancel_token", [] => .ok .setToken
      | "cancel", args => .ok (.cancel ((args.head?.bind (·.text?)).filter (!·.isEmpty)))
      | "observe", [.text key] => .ok (.observe key)
      | "yield", [.int times] => .ok (.pause times.toNat)
      | "gate", [.text place] => .ok (.gate place)
      | "nested", [.text key, .text graph, data] => .ok (.nest key graph data)
      | _, _ => .error (malformed "action")
  | _ => .error (malformed "action")

/-! ### Performing -/

def recordData (state : State) : Fallible Entries :=
  match state.data with
  | .plain (.record entries) => .ok entries
  | _ => .error (.fault .runtime "data is not an object")

def entriesOf : StepProgram Entries :=
  .read fun state => Program.lift (recordData state)

def putEntries (entries : Entries) : StepProgram Unit :=
  Program.modify fun state => { state with data := .plain (.record entries) }

def changeEntries (change : Entries → Fallible Entries) : StepProgram Unit := do
  let entries ← entriesOf
  putEntries (← Program.lift (change entries))

def increased (key : String) (amount : Value) (entries : Entries) : Fallible Entries :=
  let before := (entries.get? key).getD (.int 0)
  if before.isNumber then .ok (entries.set key (before.plus amount))
  else .error (.fault .runtime "not a number")

def appended (key : String) (value : Value) (entries : Entries) : Fallible Entries :=
  match (entries.get? key).getD (.list []) with
  | .list items => .ok (entries.set key (.list (items ++ [value])))
  | _ => .error (.fault .runtime "not a list")

def observation (statistics : Statistics) (active : Nat) : Value :=
  let counts := statistics.overall
  .list ([counts.total, counts.running, counts.completed, counts.failed, counts.cancelled,
    active].map fun (n : Nat) => .int n)

def nestedOutcome (result : Result) : Value :=
  .list [.text result.instanceId, .text result.status.name, result.state.data.toValue]

def pauses : Nat → StepProgram Unit
  | 0 => .done ()
  | times + 1 => StepProgram.pause.bind fun _ => pauses times

def proceedAfter (program : StepProgram Unit) : StepProgram (Option StepReturn) :=
  program.bind fun _ => .done none

/-- Performs an action; a step is over once one of them gives something. -/
def Action.perform : Action → StepProgram (Option StepReturn)
  | .set key value => proceedAfter <| changeEntries fun entries => .ok (entries.set key value)
  | .increase key amount => proceedAfter <| changeEntries (increased key amount)
  | .append key value => proceedAfter <| changeEntries (appended key value)
  | .delete key => proceedAfter <| changeEntries fun entries => .ok (entries.erase key)
  | .putData value =>
      proceedAfter <| Program.modify fun state => { state with data := .plain value }
  | .clearErrors => proceedAfter <| Program.modify fun state => { state with errors := [] }
  | .addError step message => do
      let now ← StepProgram.act .now
      Program.modify (·.addError now step message)
      return none
  | .setIteration count =>
      proceedAfter <| Program.modify fun state => { state with iterationCount := count }
  | .fail failure => .fail failure
  | .failIf key value failure => do
      let entries ← entriesOf
      if ((entries.get? key).getD .null).alike value then .fail failure else return none
  | .give value =>
      return some (if value == .null then .nothing else .other value.kindName)
  | .giveSelf => return some .same
  | .giveData value => return some (.replacement { data := .plain value })
  | .giveState fields => do
      let now ← StepProgram.act .now
      let state ← Program.lift (readState now fields)
      return some (.replacement state)
  | .giveCopy => return some (.replacement (← Program.state))
  | .moveClock micros => proceedAfter <| StepProgram.act (.moveClock micros)
  | .setToken => proceedAfter <| StepProgram.act .setToken
  | .cancel instanceId => do
      let state ← Program.state
      let done ← StepProgram.act (.cancel (instanceId.getD state.metadata.instanceId))
      changeEntries fun entries => .ok (entries.set "cancelled" (.bool done))
      return none
  | .observe key => do
      let (statistics, active) ← StepProgram.act .statistics
      changeEntries (appended key (observation statistics active))
      return none
  | .pause times => proceedAfter <| pauses times
  | .gate name => proceedAfter <| StepProgram.gate name
  | .nest key graph data => do
      let result ← StepProgram.start graph (.data (.plain data))
      changeEntries fun entries => .ok (entries.set key (nestedOutcome result))
      return none

def stepOf : List Action → Step
  | [] => .done .nothing
  | action :: rest =>
      action.perform.bind fun given =>
        match given with
        | some result => .done result
        | none => stepOf rest

end Plan

end StepGraph
