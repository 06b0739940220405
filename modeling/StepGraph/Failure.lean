import StepGraph.Value.Rendering

namespace StepGraph

/-- One step on the way from a form to the field at fault. -/
inductive PathStep where
  | field (name : String)
  | index (position : Int)
deriving Repr, DecidableEq

/-- Why a field was refused. -/
inductive IssueKind where
  | missing
  | textType
  | textBytes
  | listType
  | recordType
  | modelType
  | intType
  | intParsing
  | intParsingSize
  | intFromFloat
  | finiteNumber
  | floatType
  | floatParsing
  | boolType
  | boolParsing
  | momentType
  | momentParsing
  | momentRange
  | belowBound
  | notListed
  | unknownTag
deriving Repr, DecidableEq

def IssueKind.label : IssueKind → String
  | .missing => "missing"
  | .textType => "string_type"
  | .textBytes => "string_unicode"
  | .listType => "list_type"
  | .recordType => "dict_type"
  | .modelType => "model_type"
  | .intType => "int_type"
  | .intParsing => "int_parsing"
  | .intParsingSize => "int_parsing_size"
  | .intFromFloat => "int_from_float"
  | .finiteNumber => "finite_number"
  | .floatType => "float_type"
  | .floatParsing => "float_parsing"
  | .boolType => "bool_type"
  | .boolParsing => "bool_parsing"
  | .momentType => "datetime_type"
  | .momentParsing => "datetime_from_date_parsing"
  | .momentRange => "datetime_parsing"
  | .belowBound => "greater_than_equal"
  | .notListed => "literal_error"
  | .unknownTag => "union_tag_invalid"

structure Issue where
  kind : IssueKind
  path : List PathStep
deriving Repr, DecidableEq

def Issue.under (step : PathStep) (issue : Issue) : Issue :=
  { issue with path := step :: issue.path }

/-- Failures that any code may raise. -/
inductive FaultKind where
  | runtime
  | value
  | lookup
  | index
  | type
  | attribute
  | zeroDivision
  | overflow
  | recursion
  | usage
deriving Repr, DecidableEq

def FaultKind.label : FaultKind → String
  | .runtime => "RuntimeError"
  | .value => "ValueError"
  | .lookup => "KeyError"
  | .index => "IndexError"
  | .type => "TypeError"
  | .attribute => "AttributeError"
  | .zeroDivision => "ZeroDivisionError"
  | .overflow => "OverflowError"
  | .recursion => "RecursionError"
  | .usage => "UserError"

inductive Failure where
  | invalidGraph (graph : String) (problems unreachable : List String)
  | unknownGraph (graph : String)
  /-- No edge belongs to an outcome; a text of its own replaces the usual one unless it is empty. -/
  | unroutable (step : String) (outcome : Value) (text : Option String)
  | stepFailed (step text : String) (fatal : Bool)
  | ceilingReached (graph : String) (ceiling : Int) (step : String)
  | instanceCancelled (instanceId : Option String)
  | workflow (text : String)
  | fault (kind : FaultKind) (text : String)
  | malformedDocument (text : String)
  | malformedSettings
  | refused (issues : List Issue)
  /-- The task was told to stop. Alone among the failures it is never recorded against a step. -/
  | interrupted
deriving Repr

namespace Failure

def kindName : Failure → String
  | .invalidGraph .. => "InvalidGraphError"
  | .unknownGraph _ => "UnknownGraphError"
  | .unroutable .. => "UnroutableStateError"
  | .stepFailed .. => "StepExecutionError"
  | .ceilingReached .. => "MaxIterationsExceededError"
  | .instanceCancelled _ => "WorkflowCancelledError"
  | .workflow _ => "WorkflowError"
  | .fault kind _ => kind.label
  | .malformedDocument _ => "JSONDecodeError"
  | .malformedSettings => "YAMLError"
  | .refused _ => "ValidationError"
  | .interrupted => "CancelledError"

def message : Failure → String
  | .invalidGraph graph problems _ =>
      let details := "; ".intercalate problems
      let details := if details.isEmpty then "invalid graph" else details
      s!"Graph '{graph}' is invalid: {details}"
  | .unknownGraph graph => s!"Workflow graph not registered: {graph}"
  | .unroutable step outcome text =>
      match text with
      | some text =>
          if text.isEmpty then s!"Step '{step}' routed to unmapped outcome {outcome.shown}"
          else text
      | none => s!"Step '{step}' routed to unmapped outcome {outcome.shown}"
  | .stepFailed step text _ => s!"Step '{step}' failed: {text}"
  | .ceilingReached graph ceiling step =>
      s!"Workflow '{graph}' exceeded {ceiling} iterations before step '{step}'"
  | .instanceCancelled instanceId =>
      let shown := instanceId.getD "None"
      s!"Workflow instance cancelled: {shown}"
  | .workflow text => text
  | .fault _ text => text
  | .malformedDocument text => text
  | .malformedSettings => ""
  | .refused issues =>
      let count := issues.length
      if count = 1 then s!"{count} validation error" else s!"{count} validation errors"
  | .interrupted => ""

def isWorkflow : Failure → Bool
  | .invalidGraph .. | .unknownGraph _ | .unroutable .. | .stepFailed .. | .ceilingReached ..
  | .instanceCancelled _ | .workflow _ => true
  | _ => false

/-- Whether the failure is that of a value, so that a caller who repairs values repairs it. -/
def isValueFault : Failure → Bool
  | .fault .value _ | .malformedDocument _ | .refused _ => true
  | _ => false

def recorded (failure : Failure) : String :=
  if failure.message.isEmpty then failure.kindName else failure.message

def missingKey (key : String) : Failure :=
  .fault .lookup key.quoted

def notAKey (value : Value) : Failure :=
  .fault .type s!"unhashable type: '{value.kindName}'"

def notIterable (value : Value) : Failure :=
  .fault .type s!"'{value.kindName}' object is not iterable"

def notAText (value : Value) : Failure :=
  .fault .type s!"'in <string>' requires string as left operand, not {value.kindName}"

/-- A value that was asked for something only other kinds have. -/
def noAttribute (value : Value) (name : String) : Failure :=
  .fault .attribute s!"'{value.kindName}' object has no attribute '{name}'"

end Failure

abbrev Fallible (α : Type) := Except Failure α

theorem Fallible.bind_eq_ok_iff {α β : Type} {first : Fallible α} {next : α → Fallible β}
    {result : β} :
    (first >>= next) = .ok result ↔ ∃ value, first = .ok value ∧ next value = .ok result := by
  cases first with
  | error failure => simp [bind, Except.bind]
  | ok value => simp [bind, Except.bind]

theorem Fallible.bind_eq_error_iff {α β : Type} {first : Fallible α} {next : α → Fallible β}
    {failure : Failure} :
    (first >>= next) = .error failure ↔
      first = .error failure ∨ ∃ value, first = .ok value ∧ next value = .error failure := by
  cases first with
  | error other => simp [bind, Except.bind]
  | ok value => simp [bind, Except.bind]

/-- The items a value has when it is gone through: those of a list, the keys of a record, the
characters of a text. -/
def Value.itemsOf : Value → Fallible (List Value)
  | .list items => .ok items
  | .record entries => .ok (entries.map fun entry => .text entry.1)
  | .text s => .ok (s.toList.map fun c => .text (String.singleton c))
  | value => .error (.notIterable value)

end StepGraph
