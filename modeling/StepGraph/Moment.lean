import StepGraph.Decimal.Reading
import StepGraph.Decimal.Style

namespace StepGraph

abbrev Instant := Int

/-- A wall-clock reading in microseconds since the start of 1970, and its offset from universal time
in seconds where one is known. -/
structure Moment where
  micros : Int
  offset : Option Int
deriving Repr, DecidableEq, Inhabited

namespace Moment

def epochDays : Int := 19723

def ofInstant (instant : Instant) : Moment :=
  ⟨epochDays * 86400000000 + instant, some 0⟩

/-- Year, month and day of a day counted from the start of 1970. Years are taken to begin in March,
so that the leap day comes last. -/
def dateOfDays (days : Int) : Int × Int × Int :=
  let shifted := days + 719468
  let era := Int.fdiv shifted 146097
  let dayOfEra := shifted - era * 146097
  let yearOfEra :=
    (dayOfEra - dayOfEra / 1460 + dayOfEra / 36524 - dayOfEra / 146096) / 365
  let dayOfYear := dayOfEra - (365 * yearOfEra + yearOfEra / 4 - yearOfEra / 100)
  let index := (5 * dayOfYear + 2) / 153
  let day := dayOfYear - (153 * index + 2) / 5 + 1
  let month := if index < 10 then index + 3 else index - 9
  let year := yearOfEra + era * 400 + if month ≤ 2 then 1 else 0
  (year, month, day)

def daysOfDate (year month day : Int) : Int :=
  let year := if month ≤ 2 then year - 1 else year
  let era := Int.fdiv year 400
  let yearOfEra := year - era * 400
  let index := if month > 2 then month - 3 else month + 9
  let dayOfYear := (153 * index + 2) / 5 + day - 1
  era * 146097 + (yearOfEra * 365 + yearOfEra / 4 - yearOfEra / 100 + dayOfYear) - 719468

def digits (width : Nat) (n : Int) : String :=
  String.ofList (Decimal.padded width n.toNat)

/-- The offset as sign, hours and minutes, with seconds only where there are some. -/
def offsetText (offset : Int) : String :=
  let sign := if offset < 0 then "-" else "+"
  let size : Int := offset.natAbs
  let text := sign ++ digits 2 (size / 3600) ++ ":" ++ digits 2 (size / 60 % 60)
  if size % 60 = 0 then text else text ++ ":" ++ digits 2 (size % 60)

/-- Date and time with the offset; the fraction has six digits and is left out when it is zero. -/
def text (moment : Moment) : String :=
  let days := Int.fdiv moment.micros 86400000000
  let rest := moment.micros - days * 86400000000
  let (year, month, day) := dateOfDays days
  let seconds := rest / 1000000
  let fraction := rest % 1000000
  digits 4 year ++ "-" ++ digits 2 month ++ "-" ++ digits 2 day ++ "T" ++
    digits 2 (seconds / 3600) ++ ":" ++ digits 2 (seconds / 60 % 60) ++ ":" ++
    digits 2 (seconds % 60) ++
    (if fraction = 0 then "" else "." ++ digits 6 fraction) ++
    (moment.offset.map offsetText).getD ""

def takeNumber? (width : Nat) (text : List Char) : Option (Int × List Char) :=
  let front := text.take width
  if front.length = width && front.all Decimal.isDigit then
    some (Decimal.natOf front, text.drop width)
  else none

def takeMark? (marks : List Char) : List Char → Option (List Char)
  | c :: rest => if marks.contains c then some rest else none
  | [] => none

def isLeap (year : Int) : Bool :=
  year % 4 = 0 && (year % 100 != 0 || year % 400 = 0)

def monthLength (year month : Int) : Int :=
  if month = 2 then if isLeap year then 29 else 28
  else if month = 4 || month = 6 || month = 9 || month = 11 then 30 else 31

def readDate? (text : List Char) : Option (Int × List Char) := do
  let (year, rest) ← takeNumber? 4 text
  let (month, rest) ← takeNumber? 2 (← takeMark? ['-'] rest)
  let (day, rest) ← takeNumber? 2 (← takeMark? ['-'] rest)
  guard (1 ≤ year && 1 ≤ month && month ≤ 12 && 1 ≤ day && day ≤ monthLength year month)
  return (daysOfDate year month day, rest)

/-- Seconds and a fraction behind a point or a comma, of which six digits count; both may be
absent. -/
def readSeconds? (text : List Char) : Option (Int × List Char) :=
  match text with
  | ':' :: rest => do
      let (seconds, rest) ← takeNumber? 2 rest
      guard (seconds ≤ 59)
      match takeMark? ['.', ','] rest with
      | some rest =>
          let fraction := rest.takeWhile Decimal.isDigit
          guard !fraction.isEmpty
          let micros := Decimal.natOf ((fraction ++ List.replicate 6 '0').take 6)
          return (seconds * 1000000 + micros, rest.dropWhile Decimal.isDigit)
      | none => return (seconds * 1000000, rest)
  | rest => some (0, rest)

def offsetSign? (c : Char) : Option Int :=
  if c = '+' then some 1 else if c = '-' || c.toNat = 0x2212 then some (-1) else none

def readOffset? (text : List Char) : Option (Option Int) :=
  match text with
  | [] => some none
  | ['Z'] | ['z'] => some (some 0)
  | c :: rest => do
      let sign ← offsetSign? c
      let (hours, rest) ← takeNumber? 2 rest
      let rest := match rest with | ':' :: rest => rest | rest => rest
      let (minutes, rest) ← takeNumber? 2 rest
      guard (rest.isEmpty && hours ≤ 23 && minutes ≤ 59)
      return some (sign * (hours * 3600 + minutes * 60))

/-- A date, alone or with a time of day and an offset. -/
def readDated? (text : List Char) : Option Moment := do
  let (days, rest) ← readDate? text
  match rest with
  | [] => return ⟨days * 86400000000, none⟩
  | rest =>
      let (hours, rest) ← takeNumber? 2 (← takeMark? ['T', 't', ' ', '_'] rest)
      let (minutes, rest) ← takeNumber? 2 (← takeMark? [':'] rest)
      guard (hours ≤ 23 && minutes ≤ 59)
      let (micros, rest) ← readSeconds? rest
      let offset ← readOffset? rest
      return ⟨days * 86400000000 + (hours * 3600 + minutes * 60) * 1000000 + micros, offset⟩

/-! ### Counted from the start of 1970 -/

def watershed : Nat := 20000000000

def firstSecond : Int := -11676096000

def lastSecond : Int := 253402300799

def ofUnix? (count : Int) (micros : Int) : Option Moment :=
  let whole := if count.natAbs > watershed then count * 1000 else count * 1000000
  let total := whole + micros
  let second := Int.fdiv total 1000000
  if firstSecond ≤ second && second ≤ lastSecond then some ⟨total, some 0⟩ else none

/-- The whole number below a finite double, and what is above it in microseconds. -/
def splitSeconds? (x : Float) : Option (Int × Int) :=
  (Decimal.toWhole? x.floor).map fun whole =>
    (whole, (Decimal.toWhole? ((x - x.floor) * 1000000).round).getD 0)

def ofSeconds? (x : Float) : Option Moment := do
  let (whole, micros) ← splitSeconds? x
  ofUnix? whole micros

/-- A number written with digits only, and a point if there is a fraction. The fraction of a large
number is one of milliseconds as well. -/
def readCount? (text : List Char) : Option Moment := do
  let (negative, digits) := Decimal.takeSign text
  let whole := digits.takeWhile Decimal.isDigit
  let size : Int := Decimal.natOf whole
  guard (!digits.isEmpty && size < (Nat.pow 2 63 : Nat))
  match digits.dropWhile Decimal.isDigit with
  | [] => ofUnix? (if negative then -size else size) 0
  | '.' :: fraction =>
      guard (fraction.all Decimal.isDigit)
      let magnitude := addFraction (Decimal.ofInt size) 10 fraction
      let seconds := if Decimal.ofInt watershed < magnitude then magnitude / 1000 else magnitude
      ofSeconds? (if negative then -seconds else seconds)
  | _ => none
where
  addFraction (value divisor : Float) : List Char → Float
    | [] => value
    | c :: rest =>
        let digit := Decimal.ofInt (c.toNat - 48 : Nat)
        addFraction (value + digit / divisor) (divisor * 10) rest

def read? (text : String) : Option Moment :=
  (readDated? text.toList).orElse fun _ => readCount? text.toList

end Moment

/-- Milliseconds between two instants, never below zero. -/
def durationMs (started ended : Instant) : Float :=
  let elapsed := ended - started
  let seconds := Decimal.ofScientific (elapsed < 0) elapsed.natAbs (-6)
  let millis := seconds * 1000.0
  if millis > 0 then millis else 0

end StepGraph
