import StepGraph.Numeral
import StepGraph.Text.Case
import StepGraph.Yaml.Scalar.Meaning

namespace StepGraph.Yaml.Number

def beyondEnd : Failure :=
  .fault .index "string index out of range"

/-- Whether there is a minus sign in front, and what follows the sign. There has to be something. -/
def split (text : String) : Fallible (Bool × List Char) :=
  match text.toList.filter (· != '_') with
  | [] => .error beyondEnd
  | chars => .ok (Decimal.takeSign chars)

def whole (text : String) : Fallible Int := do
  let (negative, digits) ← split text
  let n ←
    match digits with
    | [] => throw beyondEnd
    | ['0'] => pure 0
    | '0' :: 'b' :: rest => Numeral.whole 2 (String.ofList rest)
    | '0' :: 'x' :: rest => Numeral.whole 16 (String.ofList rest)
    | '0' :: _ => Numeral.whole 8 (String.ofList digits)
    | digits => do
        let parts ← (Meaning.colonParts digits).mapM fun part =>
          Numeral.whole 10 (String.ofList part)
        pure (parts.foldl (fun value part => value * 60 + part) 0)
  return if negative then -n else n

def addSixtieths (total : Float) (base : Int) : List Float → Fallible Float
  | [] => .ok total
  | part :: rest =>
      let weight := Decimal.ofInt base
      if (Decimal.magnitude? weight).isNone then
        .error (.fault .overflow "int too large to convert to float")
      else addSixtieths (total + part * weight) (base * 60) rest

def double (text : String) : Fallible Float := do
  let (negative, digits) ← split text.lowered
  let x ←
    if digits = ".inf".toList then pure Decimal.infinity
    else if digits = ".nan".toList then return Decimal.notANumber
    else if digits.contains ':' then do
      let parts ← (Meaning.colonParts digits).mapM fun part => Numeral.double (String.ofList part)
      addSixtieths 0 1 parts.reverse
    else Numeral.double (String.ofList digits)
  return if negative then -x else x

end StepGraph.Yaml.Number
