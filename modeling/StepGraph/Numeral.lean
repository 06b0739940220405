import StepGraph.Failure
import StepGraph.Text.Digit
import StepGraph.Decimal.Reading

namespace StepGraph.Numeral

def maxDigits : Nat := 4300

def tooLongText (digits : Nat) : String :=
  s!"Exceeds the limit ({maxDigits} digits) for integer string conversion: "
    ++ s!"value has {digits} digits"
    ++ "; use sys.set_int_max_str_digits() to increase the limit"

def shownLength : Nat := 200

/-- Why a text is no whole number. -/
inductive Unreadable where
  | notWhole
  | tooLong (digits : Nat)
deriving Repr, DecidableEq

def dropBaseMark (base : Nat) (text : List Char) : List Char :=
  let marks : List Char :=
    if base = 16 then ['x', 'X'] else if base = 8 then ['o', 'O'] else if base = 2 then ['b', 'B']
    else []
  match text with
  | '0' :: mark :: rest =>
      if marks.contains mark then
        match rest with
        | '_' :: rest => rest
        | rest => rest
      else text
  | text => text

def natOf (base : Nat) (digits : List Char) : Nat :=
  digits.foldl (fun value c => value * base + (Text.digitIn? base c).getD 0) 0

/-- An optional sign and digits, with spaces around them. Too many digits are noticed before what
follows them is. -/
def read (base : Nat) (text : List Char) : Except Unreadable Int :=
  let (negative, rest) := Decimal.takeSign (Text.trimBy Text.isSpace (Text.plainForm text))
  let rest := dropBaseMark base rest
  let run := rest.takeWhile fun c => c = '_' || (Text.digitIn? base c).isSome
  let digits := run.filter (· != '_')
  if run.isEmpty || !Text.gapsFit (· != '_') false run then .error .notWhole
  else if base = 10 && maxDigits < digits.length then .error (.tooLong digits.length)
  else if run.length < rest.length then .error .notWhole
  else
    let n : Int := natOf base digits
    .ok (if negative then -n else n)

def whole (base : Nat) (text : String) : Fallible Int :=
  match read base text.toList with
  | .ok n => .ok n
  | .error .notWhole =>
      let shown := String.ofList ((Text.quote text.toList).take shownLength)
      .error (.fault .value s!"invalid literal for int() with base {base}: {shown}")
  | .error (.tooLong digits) => .error (.fault .value (tooLongText digits))

def double (text : String) : Fallible Float :=
  let chars := Text.trimBy Text.isSpace (Text.plainForm text.toList)
  let number :=
    if Text.gapsFit Decimal.isDigit false chars then
      Decimal.readBare? (chars.filter (· != '_'))
    else none
  match number with
  | some x => .ok x
  | none => .error (.fault .value ("could not convert string to float: " ++ text.quoted))

end StepGraph.Numeral
