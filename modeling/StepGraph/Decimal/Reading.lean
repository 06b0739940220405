import StepGraph.Decimal.Binary
import StepGraph.Text.Blank
import StepGraph.Text.Case

namespace StepGraph.Decimal

def isDigit (c : Char) : Bool :=
  '0' ≤ c && c ≤ '9'

def natOf (digits : List Char) : Nat :=
  digits.foldl (fun value c => value * 10 + (c.toNat - 48)) 0

def takeSign : List Char → Bool × List Char
  | '-' :: rest => (true, rest)
  | '+' :: rest => (false, rest)
  | rest => (false, rest)

/-- The power of ten at the end of a number; nothing else may follow. -/
def readExponent? : List Char → Option Int
  | [] => some 0
  | c :: rest =>
      if c = 'e' || c = 'E' then
        let (negative, digits) := takeSign rest
        if digits.isEmpty || !digits.all isDigit then none
        else some (if negative then -(natOf digits : Int) else natOf digits)
      else none

def readMagnitude? (negative : Bool) (text : List Char) : Option Float :=
  let whole := text.takeWhile isDigit
  let rest := text.dropWhile isDigit
  let (fraction, rest) :=
    match rest with
    | '.' :: rest => (rest.takeWhile isDigit, rest.dropWhile isDigit)
    | rest => ([], rest)
  if whole.isEmpty && fraction.isEmpty then none
  else
    (readExponent? rest).map fun exponent =>
      ofScientific negative (natOf (whole ++ fraction)) (exponent - fraction.length)

def infinity : Float :=
  ofFields false (2047 * Nat.pow 2 52)

def notANumber : Float :=
  ofFields false (2047 * Nat.pow 2 52 + Nat.pow 2 51)

/-- A number without blanks around it. -/
def readBare? (text : List Char) : Option Float :=
  let (negative, rest) := takeSign text
  let name := Text.lower rest
  if name = "inf".toList || name = "infinity".toList then
    some (ofFields negative (2047 * Nat.pow 2 52))
  else if name = "nan".toList then some notANumber
  else readMagnitude? negative rest

def dropUnderscores? (text : List Char) : Option (List Char) :=
  if text.head? = some '_' || text.getLast? = some '_' || Text.occursIn ['_', '_'] text ||
      !text.contains '_' then none
  else some (text.filter (· != '_'))

/-- A number with padding around it, or one with single underscores inside. -/
def read? (text : String) : Option Float :=
  let chars := text.toList
  match readBare? (Text.trimBy Text.isPadding chars) with
  | some x => some x
  | none => (dropUnderscores? chars).bind readBare?

end StepGraph.Decimal
