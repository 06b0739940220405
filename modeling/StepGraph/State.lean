import StepGraph.Payload.Fields

namespace StepGraph

/-- An error recorded against the step that produced it. -/
structure StepError where
  step : String
  message : String
  time : Moment
deriving Repr, DecidableEq, Inhabited

/-- What a run notes about itself on the state. -/
structure Metadata where
  instanceId : String := ""
  startTime : Option Moment := none
  endTime : Option Moment := none
  totalSteps : Int := 0
deriving Repr, DecidableEq, Inhabited

structure State where
  data : Data := .plain .null
  errors : List StepError := []
  iterationCount : Int := 0
  metadata : Metadata := {}
deriving Repr, Inhabited

namespace State

def addError (state : State) (now : Instant) (step message : String) : State :=
  { state with errors := state.errors ++ [⟨step, message, .ofInstant now⟩] }

@[simp] theorem errors_addError (state : State) (now : Instant) (step message : String) :
    (state.addError now step message).errors =
      state.errors ++ [⟨step, message, .ofInstant now⟩] := rfl

@[simp] theorem data_addError (state : State) (now : Instant) (step message : String) :
    (state.addError now step message).data = state.data := rfl

@[simp] theorem iterationCount_addError (state : State) (now : Instant) (step message : String) :
    (state.addError now step message).iterationCount = state.iterationCount := rfl

@[simp] theorem metadata_addError (state : State) (now : Instant) (step message : String) :
    (state.addError now step message).metadata = state.metadata := rfl

def errorsFor (state : State) (step : String) : List StepError :=
  state.errors.filter (·.step == step)

def hasErrors (state : State) : Bool :=
  !state.errors.isEmpty

def renewed (state : State) : State :=
  { state with errors := [], iterationCount := 0, metadata := {} }

end State

namespace StepError

def ofEntries (now : Instant) (entries : Entries) : Checked StepError :=
  StepError.mk
    <$> Form.field entries "step" Form.text none
    <*> Form.field entries "message" Form.text none
    <*> Form.field entries "timestamp" Form.moment (some (.ofInstant now))

end StepError

namespace Metadata

def ofEntries (entries : Entries) : Checked Metadata :=
  Metadata.mk
    <$> Form.field entries "instance_id" Form.text (some "")
    <*> Form.field entries "start_time" (Form.optional Form.moment) (some none)
    <*> Form.field entries "end_time" (Form.optional Form.moment) (some none)
    <*> Form.field entries "total_steps" Form.int (some 0)

end Metadata

namespace State

/-- Builds a state around some data from the other fields of a form. Errors without a time are dated
now. -/
def ofEntries (now : Instant) (data : Data) (entries : Entries) : Checked State :=
  State.mk data
    <$> Form.field entries "errors" (Form.list (Form.nested (StepError.ofEntries now))) (some [])
    <*> Form.field entries "iteration_count" (Form.intAtLeast 0) (some 0)
    <*> Form.field entries "metadata" (Form.nested Metadata.ofEntries) (some {})

end State

end StepGraph
