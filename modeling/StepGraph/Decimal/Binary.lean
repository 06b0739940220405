namespace StepGraph.Decimal

/-- A non-negative finite number `mantissa * 2 ^ exponent`. -/
structure Dyadic where
  mantissa : Nat
  exponent : Int
deriving Repr, DecidableEq

def isNegative (x : Float) : Bool :=
  x.toBits.toNat ≥ Nat.pow 2 63

def magnitude? (x : Float) : Option Dyadic :=
  let bits := x.toBits.toNat % Nat.pow 2 63
  let field : Nat := bits / Nat.pow 2 52
  let fraction : Nat := bits % Nat.pow 2 52
  if field = 2047 then none
  else if field = 0 then some ⟨fraction, -1074⟩
  else some ⟨fraction + Nat.pow 2 52, (field : Int) - 1075⟩

def roundHalfEven (num den : Nat) : Nat :=
  let low := num / den
  let excess := 2 * (num % den)
  if excess < den then low
  else if excess > den then low + 1
  else low + low % 2

/-- The rounded quotient is off by half a unit at most. -/
theorem roundHalfEven_bounds (num den : Nat) (hden : 0 < den) :
    2 * num ≤ (2 * roundHalfEven num den + 1) * den ∧
      2 * roundHalfEven num den * den ≤ 2 * num + den := by
  have hdiv := Nat.div_add_mod num den
  have hmod := Nat.mod_lt num hden
  unfold roundHalfEven
  generalize num / den = q at *
  generalize num % den = r at *
  have hexp : num = den * q + r := hdiv.symm
  subst hexp
  have h1 : (2 * q + 1) * den = 2 * (den * q) + den := by
    rw [Nat.add_mul, Nat.mul_assoc, Nat.mul_comm q den, Nat.one_mul]
  have h2 : (2 * (q + 1) + 1) * den = 2 * (den * q) + 3 * den := by
    rw [Nat.add_mul, Nat.mul_add, Nat.add_mul, Nat.mul_assoc, Nat.mul_comm q den,
      Nat.one_mul]; omega
  have h3 : 2 * q * den = 2 * (den * q) := by rw [Nat.mul_assoc, Nat.mul_comm q den]
  have h4 : 2 * (q + 1) * den = 2 * (den * q) + 2 * den := by
    rw [Nat.mul_add, Nat.add_mul, Nat.mul_assoc, Nat.mul_comm q den]
  dsimp only
  split
  · rw [h1, h3]; omega
  · split
    · rw [h2, h4]; omega
    · rcases Nat.mod_two_eq_zero_or_one q with h | h <;> rw [h]
      · simp only [Nat.add_zero, h1, h3]; omega
      · rw [h2, h4]; omega

def scale (base : Nat) (exponent : Int) (num den : Nat) : Nat × Nat :=
  (num * Nat.pow base exponent.toNat, den * Nat.pow base (-exponent).toNat)

def binaryExponent (num den : Nat) : Int :=
  let guess : Int := (num.log2 : Int) - den.log2
  let (low, high) := scale 2 guess den num
  if low ≤ high then guess else guess - 1

def ofFields (negative : Bool) (bits : Nat) : Float :=
  Float.ofBits (UInt64.ofNat (bits + if negative then Nat.pow 2 63 else 0))

/-- The double nearest to `num / den`, infinite from half a unit above the greatest finite one. -/
def nearest (negative : Bool) (num den : Nat) : Float :=
  if num = 0 then ofFields negative 0
  else
    let exponent := max (binaryExponent num den - 52) (-1074)
    let (high, low) := scale 2 (-exponent) num den
    let mantissa := roundHalfEven high low
    let (mantissa, exponent) :=
      if mantissa = Nat.pow 2 53 then (Nat.pow 2 52, exponent + 1) else (mantissa, exponent)
    if exponent > 971 then ofFields negative (2047 * Nat.pow 2 52)
    else if mantissa < Nat.pow 2 52 then ofFields negative mantissa
    else ofFields negative ((exponent + 1074).toNat * Nat.pow 2 52 + mantissa)

def ofInt (n : Int) : Float :=
  nearest (n < 0) n.natAbs 1

/-- The double nearest to `digits * 10 ^ exponent`. Magnitudes that are out of range by far are
answered without writing the power out. -/
def ofScientific (negative : Bool) (digits : Nat) (exponent : Int) : Float :=
  let size : Int := digits.log2 * 30103 / 100000 + exponent
  if digits = 0 || size < -400 then ofFields negative 0
  else if size > 400 then ofFields negative (2047 * Nat.pow 2 52)
  else
    let (num, den) := scale 10 exponent digits 1
    nearest negative num den

/-- The whole number a finite double without a fraction stands for. -/
def toWhole? (x : Float) : Option Int :=
  match magnitude? x with
  | none => none
  | some d =>
      let (num, den) := scale 2 d.exponent d.mantissa 1
      if num % den = 0 then
        some (if isNegative x then -((num / den : Nat) : Int) else (num / den : Nat))
      else none

/-- Whether `a < b` holds between a whole number and a double, exactly. -/
def intLtFloat (a : Int) (b : Float) : Bool :=
  match magnitude? b with
  | none => !b.isNaN && !isNegative b
  | some d =>
      let (num, den) := scale 2 d.exponent d.mantissa 1
      a * den < if isNegative b then -(num : Int) else num

/-- Whether `a < b` holds between a double and a whole number, exactly. -/
def floatLtInt (a : Float) (b : Int) : Bool :=
  match magnitude? a with
  | none => !a.isNaN && isNegative a
  | some d =>
      let (num, den) := scale 2 d.exponent d.mantissa 1
      (if isNegative a then -(num : Int) else num) < b * den

end StepGraph.Decimal
