import StepGraph.Numeral
import StepGraph.Moment
import StepGraph.Text.Case

namespace StepGraph

/-- A value, or all the issues found on the way to it. -/
inductive Checked (α : Type) where
  | ok (value : α)
  | bad (issues : List Issue)
deriving Repr

namespace Checked

def map (f : α → β) : Checked α → Checked β
  | .ok a => .ok (f a)
  | .bad issues => .bad issues

/-- Applies a function to a value, putting the issues of both together. -/
def apply : Checked (α → β) → Checked α → Checked β
  | .ok f, .ok a => .ok (f a)
  | .ok _, .bad issues => .bad issues
  | .bad issues, .ok _ => .bad issues
  | .bad first, .bad second => .bad (first ++ second)

instance : Functor Checked := ⟨map, fun a c => map (fun _ => a) c⟩

instance : Applicative Checked where
  pure := .ok
  seq f a := f.apply (a ())

def under (step : PathStep) : Checked α → Checked α
  | .ok a => .ok a
  | .bad issues => .bad (issues.map (·.under step))

def refuse (kind : IssueKind) : Checked α :=
  .bad [⟨kind, []⟩]

def toFallible : Checked α → Fallible α
  | .ok a => .ok a
  | .bad issues => .error (.refused issues)

def all (read : α → Checked β) (position : Nat) : List α → Checked (List β)
  | [] => .ok []
  | item :: rest =>
      (List.cons <$> (read item).under (.index position)).apply (all read (position + 1) rest)

end Checked

namespace Form

def text : Value → Checked String
  | .text s => .ok s
  | _ => .refuse .textType

/-- Why a text is no plain whole number, which has a minus sign at most and no zero in front of
other digits. -/
inductive Unfit where
  | malformed
  | tooLong
deriving Repr, DecidableEq

/-- A plain whole number. Too many digits are noticed before what follows them is. -/
def plainInt (text : List Char) : Except Unfit Int :=
  let (negative, rest) :=
    match text with
    | '-' :: rest => (true, rest)
    | rest => (false, rest)
  let digits := rest.takeWhile Decimal.isDigit
  if digits.isEmpty || (digits.length > 1 && digits.head? = some '0') then .error .malformed
  else if digits.length > Numeral.maxDigits then .error .tooLong
  else if digits.length < rest.length then .error .malformed
  else
    let n : Int := Decimal.natOf digits
    .ok (if negative then -n else n)

/-- Drops zeros in front, keeping the last one before a point or the end. -/
def dropZeros? : List Char → Option (List Char)
  | [] => none
  | '0' :: rest =>
      let zeros := '0' :: rest.takeWhile (fun c => c = '0' || c = '_')
      let last := (zeros.getLast?).getD '0'
      match rest.dropWhile (fun c => c = '0' || c = '_') with
      | [] => some [last]
      | '.' :: fraction => some (last :: '.' :: fraction)
      | c :: tail => if Decimal.isDigit c || c = '-' then some (c :: tail) else none
  | c :: rest => if Decimal.isDigit c then some (c :: rest) else none

def dropZeroFraction (text : List Char) : List Char :=
  match text.dropWhile (· != '.') with
  | _ :: fraction =>
      if !fraction.isEmpty && fraction.all (· = '0') then text.takeWhile (· != '.') else text
  | [] => text

/-- The looser spellings of a whole number, brought into the plain one: padding around it, a plus
sign, zeros in front, a fraction of zeros, single underscores between the digits. -/
def cleanInt? (text : List Char) : Option (List Char) := do
  let unpadded := Text.trimBy Text.isPadding text
  let bare ←
    match unpadded with
    | '+' :: rest => dropZeros? rest
    | '-' :: rest => (dropZeros? rest).map ('-' :: ·)
    | rest => dropZeros? rest
  let digits := dropZeroFraction bare
  return (Decimal.dropUnderscores? digits).getD digits

def readInt (text : List Char) : Checked Int :=
  match plainInt text with
  | .ok n => .ok n
  | .error .tooLong => .refuse .intParsingSize
  | .error .malformed =>
      match (cleanInt? text).map plainInt with
      | some (.ok n) => .ok n
      | some (.error .tooLong) => .refuse .intParsingSize
      | _ => .refuse .intParsing

def fitsWord (n : Int) : Bool :=
  n.natAbs < Nat.pow 2 63 || n = -(Nat.pow 2 63 : Nat)

/-- A double without a fraction whose magnitude is below two to the sixty-third. -/
def wholeFloat (x : Float) : Checked Int :=
  if (Decimal.magnitude? x).isNone then .refuse .finiteNumber
  else
    match Decimal.toWhole? x with
    | none => .refuse .intFromFloat
    | some n => if n.natAbs < Nat.pow 2 63 then .ok n else .refuse .intParsingSize

def int : Value → Checked Int
  | .int n => .ok n
  | .bool b => .ok (if b then 1 else 0)
  | .float x => wholeFloat x
  | .text s => readInt s.toList
  | _ => .refuse .intType

def intAtLeast (bound : Int) (value : Value) : Checked Int :=
  match int value with
  | .ok n => if n < bound then .refuse .belowBound else .ok n
  | .bad issues => .bad issues

def float : Value → Checked Float
  | .float x => .ok x
  | .int n =>
      let x := Decimal.ofInt n
      if (Decimal.magnitude? x).isNone then .refuse .floatType else .ok x
  | .bool b => .ok (if b then 1 else 0)
  | .text s =>
      match Decimal.read? s with
      | some x => .ok x
      | none => .refuse .floatParsing
  | _ => .refuse .floatType

def yesWords : List String := ["1", "on", "t", "true", "y", "yes"]

def noWords : List String := ["0", "off", "f", "false", "n", "no"]

def boolOfInt (n : Int) : Checked Bool :=
  if n = 0 then .ok false else if n = 1 then .ok true else .refuse .boolParsing

def bool : Value → Checked Bool
  | .bool b => .ok b
  | .int n => if fitsWord n then boolOfInt n else .refuse .boolType
  | .float x =>
      match wholeFloat x with
      | .ok n => boolOfInt n
      | .bad _ => .refuse .boolType
  | .text s =>
      let word := s.map Char.toLower
      if yesWords.contains word then .ok true
      else if noWords.contains word then .ok false
      else .refuse .boolParsing
  | _ => .refuse .boolType

def record : Value → Checked Entries
  | .record entries => .ok entries
  | _ => .refuse .recordType

def list (read : Value → Checked α) : Value → Checked (List α)
  | .list items => .all read 0 items
  | _ => .refuse .listType

def texts : Value → Checked (List String) :=
  list text

def optional (read : Value → Checked α) : Value → Checked (Option α)
  | .null => .ok none
  | value => (read value).map some

def nested (read : Entries → Checked α) : Value → Checked α
  | .record entries => read entries
  | _ => .refuse .modelType

def moment : Value → Checked Moment
  | .text s =>
      match Moment.read? s with
      | some m => .ok m
      | none => .refuse .momentParsing
  | .int n =>
      if fitsWord n then inRange (Moment.ofUnix? n 0)
      else if (Decimal.magnitude? (Decimal.ofInt n)).isNone then .refuse .momentType
      else .refuse .momentRange
  | .float x => inRange (Moment.ofSeconds? x)
  | _ => .refuse .momentType
where
  inRange : Option Moment → Checked Moment
    | some m => .ok m
    | none => .refuse .momentRange

def word (allowed : List String) : Value → Checked String
  | .text s => if allowed.contains s then .ok s else .refuse .notListed
  | _ => .refuse .notListed

/-- A field of a form; a missing one takes the default, and is an issue where there is none. -/
def field (entries : List (String × α)) (name : String) (read : α → Checked β)
    (default : Option β) : Checked β :=
  match entries.lookup name with
  | some value => (read value).under (.field name)
  | none =>
      match default with
      | some value => .ok value
      | none => .bad [⟨.missing, [.field name]⟩]

end Form

end StepGraph
