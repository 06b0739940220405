import StepGraph.Text.CaseTable
import StepGraph.Text.Printable

namespace StepGraph.Text

def CaseRun.image? (run : CaseRun) (n : Nat) : Option Nat :=
  if run.first ≤ n && n ≤ run.last && (n - run.first) % run.step == 0 then
    some (Int.toNat (n + run.shift))
  else none

def mapCase (runs : List CaseRun) (expansions : List (Nat × List Nat)) (c : Char) : List Char :=
  match expansions.lookup c.toNat with
  | some points => points.map Char.ofNat
  | none =>
      match runs.findSome? (·.image? c.toNat) with
      | some point => [Char.ofNat point]
      | none => [c]

def casedAhead : List Char → Bool
  | [] => false
  | c :: rest =>
      if inRanges caseIgnorableRanges c.toNat then casedAhead rest
      else inRanges casedRanges c.toNat

def capitalSigma : Char := 'Σ'

def lowerChar (c : Char) : List Char :=
  if c.toNat < 0x80 then [c.toLower] else mapCase lowerRuns lowerExpansions c

def lowerFrom (cased : Bool) : List Char → List Char
  | [] => []
  | c :: rest =>
      let here :=
        if c = capitalSigma then [if cased && !casedAhead rest then 'ς' else 'σ'] else lowerChar c
      let cased' :=
        if inRanges caseIgnorableRanges c.toNat then cased else inRanges casedRanges c.toNat
      here ++ lowerFrom cased' rest

def lower (text : List Char) : List Char :=
  lowerFrom false text

def upperChar (c : Char) : List Char :=
  if c.toNat < 0x80 then [c.toUpper] else mapCase upperRuns upperExpansions c

def upper (text : List Char) : List Char :=
  text.flatMap upperChar

end StepGraph.Text

namespace String

def lowered (s : String) : String :=
  String.ofList (StepGraph.Text.lower s.toList)

def raised (s : String) : String :=
  String.ofList (StepGraph.Text.upper s.toList)

end String
