import StepGraph.Decimal.Shortest

namespace StepGraph.Decimal

/-- Which decimal exponents are written positionally, how many digits an exponent has at least, and
what stands for the values that are no numbers. -/
structure Style where
  positionalFrom : Int
  positionalBelow : Int
  exponentWidth : Nat
  notANumber : String
  infinite : String
  minusInfinite : String

/-- Running text: positional from a ten-thousandth to below ten to the sixteenth. -/
def Style.plain : Style :=
  ⟨-4, 16, 2, "nan", "inf", "-inf"⟩

/-- Plain data documents: as running text, with names for the values that are no numbers. -/
def Style.document : Style :=
  ⟨-4, 16, 2, "NaN", "Infinity", "-Infinity"⟩

/-- Payload documents: positional from a hundred-thousandth, and no number is written as null. -/
def Style.payload : Style :=
  ⟨-5, 16, 1, "null", "null", "null"⟩

def digitsOf (n : Nat) : List Char :=
  Nat.toDigits 10 n

/-- A point with at least one digit after it. -/
def positional (digits : List Char) (exponent : Int) : List Char :=
  if exponent < 0 then
    '0' :: '.' :: (List.replicate (-exponent - 1).toNat '0' ++ digits)
  else
    let whole := exponent.toNat + 1
    if digits.length ≤ whole then
      digits ++ List.replicate (whole - digits.length) '0' ++ ['.', '0']
    else digits.take whole ++ '.' :: digits.drop whole

def padded (width n : Nat) : List Char :=
  let digits := digitsOf n
  List.replicate (width - digits.length) '0' ++ digits

def exponential (width : Nat) (digits : List Char) (exponent : Int) : List Char :=
  let fraction := if digits.length ≤ 1 then [] else '.' :: digits.drop 1
  let sign := if exponent < 0 then '-' else '+'
  digits.take 1 ++ fraction ++ 'e' :: sign :: padded width exponent.natAbs

def Style.magnitude (style : Style) (d : Dyadic) : List Char :=
  if d.mantissa = 0 then ['0', '.', '0']
  else
    let s := shortest d
    let digits := digitsOf s.digits
    let exponent := s.exponent + digits.length - 1
    if style.positionalFrom ≤ exponent && exponent < style.positionalBelow then
      positional digits exponent
    else exponential style.exponentWidth digits exponent

/-- The fewest digits that read back, in the given style. -/
def Style.write (style : Style) (x : Float) : String :=
  match magnitude? x with
  | none =>
      if x.isNaN then style.notANumber
      else if isNegative x then style.minusInfinite else style.infinite
  | some d =>
      let text := style.magnitude d
      String.ofList (if isNegative x then '-' :: text else text)

/-- A fixed count of digits after the point, a half going to the even neighbour. -/
def fixed (places : Nat) (x : Float) : String :=
  match magnitude? x with
  | none => Style.plain.write x
  | some d =>
      let (num, den) := scale 2 d.exponent (d.mantissa * Nat.pow 10 places) 1
      let digits := padded (places + 1) (roundHalfEven num den)
      let cut := digits.length - places
      let text :=
        if places = 0 then digits else digits.take cut ++ '.' :: digits.drop cut
      String.ofList (if isNegative x then '-' :: text else text)

end StepGraph.Decimal
