import StepGraph.Decimal.Binary

/-! The shortest decimal that reads back as a given double, and among the shortest the nearest. The
reals that round to the double form an interval; on each decimal grid only the two neighbours of the
double itself need a test. -/

namespace StepGraph.Decimal

/-- A positive decimal `digits * 10 ^ exponent`. -/
structure Scientific where
  digits : Nat
  exponent : Int
deriving Repr, DecidableEq

def climb (num den : Nat) : Nat → Int → Int
  | 0, guess => guess
  | fuel + 1, guess =>
      let (low, high) := scale 10 (guess + 1) den num
      if low ≤ high then climb num den fuel (guess + 1) else guess

def decimalExponent (num den : Nat) : Int :=
  climb num den 4 (Int.fdiv (binaryExponent num den * 30103) 100000 - 1)

def roundingEnds (d : Dyadic) : Nat × Nat :=
  let below := if d.mantissa = Nat.pow 2 52 && d.exponent > -1074 then 1 else 2
  (4 * d.mantissa - below, 4 * d.mantissa + 2)

/-- Whether `digits * 10 ^ exponent` rounds to `d`. The ends belong to an even mantissa. -/
def roundsTo (d : Dyadic) (s : Scientific) : Bool :=
  let (low, high) := roundingEnds d
  let (up, down) := scale 2 (d.exponent - 2) 1 1
  let (ten, tenth) := scale 10 s.exponent 1 1
  let here := s.digits * ten * down
  let low := low * up * tenth
  let high := high * up * tenth
  if d.mantissa % 2 = 0 then low ≤ here && here ≤ high else low < here && here < high

def onGrid? (d : Dyadic) (exponent : Int) : Option Scientific :=
  let (up, down) := scale 2 d.exponent d.mantissa 1
  let (num, den) := scale 10 (-exponent) up down
  let floor : Scientific := ⟨num / den, exponent⟩
  let ceiling : Scientific := ⟨num / den + 1, exponent⟩
  let (first, second) :=
    if roundHalfEven num den = floor.digits then (floor, ceiling) else (ceiling, floor)
  if roundsTo d first then some first else if roundsTo d second then some second else none

/-- Moves the zeros at the end of the digits into the exponent. -/
def Scientific.trim : Nat → Scientific → Scientific
  | 0, s => s
  | fuel + 1, s =>
      if s.digits % 10 = 0 && s.digits != 0 then
        Scientific.trim fuel ⟨s.digits / 10, s.exponent + 1⟩
      else s

/-- Tries the grids for ever more digits; seventeen always suffice. -/
def shortestFrom (d : Dyadic) (top : Int) : Nat → Nat → Scientific
  | 0, _ => ⟨0, 0⟩
  | fuel + 1, count =>
      match onGrid? d (top - count) with
      | some s => s
      | none => shortestFrom d top fuel (count + 1)

def shortest (d : Dyadic) : Scientific :=
  let (num, den) := scale 2 d.exponent d.mantissa 1
  (shortestFrom d (decimalExponent num den) 18 0).trim 20

end StepGraph.Decimal
