import StepGraph.Value.Basic
import StepGraph.Decimal.Style
import StepGraph.Text.Quoted

namespace StepGraph

mutual

def Value.shown : Value → String
  | .null => "None"
  | .bool b => if b then "True" else "False"
  | .int n => toString n
  | .float x => Decimal.Style.plain.write x
  | .text s => s.quoted
  | .list items => "[" ++ ", ".intercalate (shownItems items) ++ "]"
  | .record entries => "\x7b" ++ ", ".intercalate (shownEntries entries) ++ "\x7d"

def shownItems : List Value → List String
  | [] => []
  | item :: rest => item.shown :: shownItems rest

def shownEntries : List (String × Value) → List String
  | [] => []
  | (key, value) :: rest => (key.quoted ++ ": " ++ value.shown) :: shownEntries rest

end

def Value.plain : Value → String
  | .text s => s
  | value => value.shown

end StepGraph
