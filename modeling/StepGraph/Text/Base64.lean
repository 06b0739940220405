namespace StepGraph.Text.Base64

def digit? (c : Char) : Option Nat :=
  if 'A' ≤ c && c ≤ 'Z' then some (c.toNat - 65)
  else if 'a' ≤ c && c ≤ 'z' then some (c.toNat - 71)
  else if '0' ≤ c && c ≤ '9' then some (c.toNat + 4)
  else if c = '+' then some 62
  else if c = '/' then some 63
  else none

/-- The bytes of a group of characters that is not filled up; a single character makes no byte. -/
def partialBytes : List Nat → List UInt8
  | [a, b] => [UInt8.ofNat (a * 4 + b / 16)]
  | [a, b, c] => [UInt8.ofNat (a * 4 + b / 16), UInt8.ofNat (b % 16 * 16 + c / 4)]
  | _ => []

/-- Goes on with the characters of the present group and the padding that came after the last of
them. -/
def decodeFrom (group : List Nat) (padding : Nat) : List Char → Option (List UInt8)
  | [] => if group.isEmpty then some [] else none
  | c :: rest =>
      if c = '=' then
        if 2 ≤ group.length && 4 ≤ group.length + padding + 1 then some (partialBytes group)
        else decodeFrom group (if 2 ≤ group.length then padding + 1 else padding) rest
      else
        match digit? c with
        | none => decodeFrom group padding rest
        | some digit =>
            match group with
            | [a, b, c] =>
                (decodeFrom [] 0 rest).map fun more =>
                  partialBytes [a, b, c] ++ UInt8.ofNat (c % 4 * 64 + digit) :: more
            | group => decodeFrom (group ++ [digit]) 0 rest

def decode? (text : List Char) : Option (List UInt8) :=
  decodeFrom [] 0 text

end StepGraph.Text.Base64
