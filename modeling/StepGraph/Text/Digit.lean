import StepGraph.Text.DigitTable
import StepGraph.Text.Blank

namespace StepGraph.Text

def digitValue? (c : Char) : Option Nat :=
  (digitZeros.find? fun first => first ≤ c.toNat && c.toNat ≤ first + 9).map (c.toNat - ·)

def digitIn? (base : Nat) (c : Char) : Option Nat :=
  let value :=
    if '0' ≤ c && c ≤ '9' then c.toNat - 48
    else if 'a' ≤ c && c ≤ 'f' then c.toNat - 87
    else if 'A' ≤ c && c ≤ 'F' then c.toNat - 55
    else base
  if value < base then some value else none

/-- The blanks among the first characters of the code, separators aside. -/
def isSpace (c : Char) : Bool :=
  c = ' ' || ('\t' ≤ c && c ≤ '\r')

/-- Outside the first characters of the code, digits of any script become plain ones and blanks
become spaces. -/
def plainForm (text : List Char) : List Char :=
  text.map fun c =>
    if c.toNat < 128 then c
    else if isBlank c then ' '
    else ((digitValue? c).map fun d => Char.ofNat (48 + d)).getD c

/-- Whether every underscore stands between two digits; `joined` says that a digit came just
before. -/
def gapsFit (isDigit : Char → Bool) (joined : Bool) : List Char → Bool
  | [] => true
  | c :: rest =>
      if c = '_' then joined && rest.head?.any isDigit && gapsFit isDigit false rest
      else gapsFit isDigit (isDigit c) rest

end StepGraph.Text
