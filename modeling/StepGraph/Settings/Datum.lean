import StepGraph.Form

namespace StepGraph

inductive Datum where
  | plain (value : Value)
  | bytes (content : List UInt8)
  | date
  /-- A list, a set or a list of pairs, with so many members. -/
  | items (count : Nat)
  /-- A mapping: the entries whose keys are texts, and whether those are all. -/
  | record (entries : List (String × Datum)) (complete : Bool)
deriving Inhabited

namespace Datum

def reach : Nat := 3

def ofValueWithin : Nat → Value → Datum
  | 0, .record _ => .record [] true
  | depth + 1, .record fields =>
      .record (fields.map fun (key, value) => (key, ofValueWithin depth value)) true
  | _, .list members => .items members.length
  | _, value => .plain value

def ofValue (value : Value) : Datum :=
  ofValueWithin reach value

/-- Whether there is anything: nothing, zero and whatever is empty count as no. -/
def holds : Datum → Bool
  | .plain value => value.holds
  | .bytes content => !content.isEmpty
  | .date => true
  | .items count => count != 0
  | .record entries complete => !entries.isEmpty || !complete

def decoded? (content : List UInt8) : Option String :=
  String.fromUTF8? ⟨content.toArray⟩

def text : Datum → Checked String
  | .plain value => Form.text value
  | .bytes content =>
      match decoded? content with
      | some s => .ok s
      | none => .refuse .textBytes
  | _ => .refuse .textType

def intAtLeast (bound : Int) : Datum → Checked Int
  | .plain value => Form.intAtLeast bound value
  | .bytes content =>
      match decoded? content with
      | some s => Form.intAtLeast bound (.text s)
      | none => .refuse .intParsing
  | _ => .refuse .intType

def optional (read : Datum → Checked α) : Datum → Checked (Option α)
  | .plain .null => .ok none
  | datum => (read datum).map some

def nested (read : List (String × Datum) → Checked α) : Datum → Checked α
  | .record entries _ => read entries
  | _ => .refuse .modelType

end Datum

end StepGraph
