import StepGraph.Failure

namespace StepGraph

/-- The identity of a key. Two values are the same key just when they have the same one. -/
inductive Key where
  | null
  | text (s : String)
  | whole (n : Int)
  | fraction (bits : UInt64)
deriving Repr, DecidableEq

def Value.key? : Value → Option Key
  | .null => some .null
  | .text s => some (.text s)
  | .bool b => some (.whole (if b then 1 else 0))
  | .int n => some (.whole n)
  | .float x =>
      match Decimal.toWhole? x with
      | some n => some (.whole n)
      | none => some (.fraction x.toBits)
  | .list _ => none
  | .record _ => none

/-- A value that can serve as a key, together with its identity. -/
structure Outcome where
  value : Value
  key : Key
  key_eq : value.key? = some key

namespace Outcome

def ofValue? (value : Value) : Option Outcome :=
  match h : value.key? with
  | some key => some ⟨value, key, h⟩
  | none => none

def read (value : Value) : Fallible Outcome :=
  match ofValue? value with
  | some outcome => .ok outcome
  | none => .error (.notAKey value)

def ofText (s : String) : Outcome :=
  ⟨.text s, .text s, rfl⟩

end Outcome

def defaultOutcome : Outcome :=
  .ofText "default"

/-- A closed family of outcomes, each with a name and a value. -/
structure Family where
  name : String
  members : List (String × Value)
deriving Repr

/-- A label is a plain value or a member of a closed family. -/
inductive Label where
  | plain (value : Value)
  | member (family : Family) (value : Value)
deriving Repr

namespace Label

def value : Label → Value
  | .plain value => value
  | .member _ value => value

def family? : Label → Option Family
  | .plain _ => none
  | .member family _ => some family

end Label

end StepGraph
