import StepGraph.Numeral

namespace StepGraph.Json

inductive Complaint where
  | value
  | propertyName
  | colon
  | comma
  | extraData
  | unterminated
  | controlCharacter
  | escape
  | unicodeEscape
  | byteOrderMark
  | longNumber (digits : Nat)
deriving Repr, DecidableEq

def Complaint.text : Complaint → String
  | .value => "Expecting value"
  | .propertyName => "Expecting property name enclosed in double quotes"
  | .colon => "Expecting ':' delimiter"
  | .comma => "Expecting ',' delimiter"
  | .extraData => "Extra data"
  | .unterminated => "Unterminated string starting at"
  | .controlCharacter => "Invalid control character at"
  | .escape => "Invalid \\escape"
  | .unicodeEscape => "Invalid \\uXXXX escape"
  | .byteOrderMark => "Unexpected UTF-8 BOM (decode using utf-8-sig)"
  | .longNumber digits => Numeral.tooLongText digits

/-- A complaint and the number of characters left where it arose. -/
structure Fault where
  complaint : Complaint
  left : Nat
deriving Repr, DecidableEq

abbrev Parsed (α : Type) := Except Fault (α × List Char)

def complain (complaint : Complaint) (rest : List Char) : Except Fault α :=
  .error ⟨complaint, rest.length⟩

def isSpace (c : Char) : Bool :=
  c = ' ' || c = '\t' || c = '\n' || c = '\r'

def skipSpace (text : List Char) : List Char :=
  text.dropWhile isSpace

/-- Four hexadecimal digits with something after them. -/
def unit? : List Char → Option (Nat × List Char)
  | a :: b :: c :: d :: next :: rest => do
      let a ← Text.digitIn? 16 a
      let b ← Text.digitIn? 16 b
      let c ← Text.digitIn? 16 c
      let d ← Text.digitIn? 16 d
      return (((a * 16 + b) * 16 + c) * 16 + d, next :: rest)
  | _ => none

def isHighSurrogate (unit : Nat) : Bool :=
  0xd800 ≤ unit && unit ≤ 0xdbff

def isLowSurrogate (unit : Nat) : Bool :=
  0xdc00 ≤ unit && unit ≤ 0xdfff

/-- The character of a code unit; half a pair stands for no character and is replaced. -/
def unitChar (unit : Nat) : Char :=
  if 0xd800 ≤ unit && unit ≤ 0xdfff then Char.ofNat 0xfffd else Char.ofNat unit

def shortEscape? (c : Char) : Option Char :=
  if c = '"' || c = '\\' || c = '/' then some c
  else if c = 'b' then some (Char.ofNat 8)
  else if c = 'f' then some (Char.ofNat 12)
  else if c = 'n' then some '\n'
  else if c = 'r' then some '\r'
  else if c = 't' then some '\t'
  else none

/-- The character after an escape `\u`; a high surrogate takes a low one that follows with it. The
argument starts at the `u`. -/
def unicodeEscape (text : List Char) : Parsed Char :=
  match unit? (text.drop 1) with
  | none => complain .unicodeEscape text
  | some (high, rest) =>
      match isHighSurrogate high, rest with
      | true, '\\' :: 'u' :: tail =>
          if tail.length ≤ 4 then .ok (unitChar high, rest)
          else
            match unit? tail with
            | none => complain .unicodeEscape ('u' :: tail)
            | some (low, after) =>
                if isLowSurrogate low then
                  .ok (Char.ofNat (0x10000 + (high - 0xd800) * 0x400 + (low - 0xdc00)), after)
                else .ok (unitChar high, rest)
      | _, _ => .ok (unitChar high, rest)

/-- The characters up to the closing quote; `start` is what was left at the opening one. -/
def string (start : Nat) : Nat → List Char → List Char → Parsed String
  | 0, _, _ => .error ⟨.unterminated, start⟩
  | fuel + 1, read, text =>
      match text with
      | [] => .error ⟨.unterminated, start⟩
      | '"' :: rest => .ok (String.ofList read.reverse, rest)
      | '\\' :: rest =>
          match rest with
          | [] => .error ⟨.unterminated, start⟩
          | 'u' :: _ =>
              match unicodeEscape rest with
              | .error fault => .error fault
              | .ok (c, rest) => string start fuel (c :: read) rest
          | e :: after =>
              match shortEscape? e with
              | none => complain .escape text
              | some c => string start fuel (c :: read) after
      | c :: rest =>
          if c.toNat < 0x20 then complain .controlCharacter text
          else string start fuel (c :: read) rest

def takeFraction : List Char → List Char × List Char
  | '.' :: rest =>
      let digits := rest.takeWhile Decimal.isDigit
      if digits.isEmpty then ([], '.' :: rest) else (digits, rest.dropWhile Decimal.isDigit)
  | rest => ([], rest)

/-- A power of ten, if there is one. -/
def takeExponent (text : List Char) : Option Int × List Char :=
  match text with
  | c :: rest =>
      if c = 'e' || c = 'E' then
        let (negative, after) := Decimal.takeSign rest
        let digits := after.takeWhile Decimal.isDigit
        if digits.isEmpty then (none, text)
        else
          let power : Int := Decimal.natOf digits
          (some (if negative then -power else power), after.dropWhile Decimal.isDigit)
      else (none, text)
  | [] => (none, [])

def takeWhole : List Char → List Char × List Char
  | '0' :: rest => (['0'], rest)
  | text => (text.takeWhile Decimal.isDigit, text.dropWhile Decimal.isDigit)

def number (negative : Bool) (text body : List Char) : Parsed Value :=
  let (whole, rest) := takeWhole body
  if whole.isEmpty then complain .value text
  else
    let (fraction, rest) := takeFraction rest
    let (power, rest) := takeExponent rest
    if fraction.isEmpty && power.isNone then
      if whole.length > Numeral.maxDigits then complain (.longNumber whole.length) text
      else
        let n : Int := Decimal.natOf whole
        .ok (.int (if negative then -n else n), rest)
    else
      let digits := Decimal.natOf (whole ++ fraction)
      .ok (.float (Decimal.ofScientific negative digits (power.getD 0 - fraction.length)), rest)

def word? (text : List Char) : Option (Value × List Char) :=
  [("null", Value.null), ("true", .bool true), ("false", .bool false),
    ("NaN", .float Decimal.notANumber), ("Infinity", .float Decimal.infinity),
    ("-Infinity", .float (-Decimal.infinity))].findSome? fun (name, value) =>
      if name.toList.isPrefixOf text then some (value, text.drop name.length) else none

mutual

def value : Nat → List Char → Parsed Value
  | 0, text => complain .value text
  | fuel + 1, text =>
      match text with
      | '"' :: rest =>
          match string text.length text.length [] rest with
          | .error fault => .error fault
          | .ok (s, rest) => .ok (.text s, rest)
      | '\x7b' :: rest =>
          match skipSpace rest with
          | '\x7d' :: after => .ok (.record [], after)
          | start => members fuel [] start
      | '[' :: rest =>
          match skipSpace rest with
          | ']' :: after => .ok (.list [], after)
          | start => elements fuel [] start
      | text =>
          match word? text with
          | some parsed => .ok parsed
          | none =>
              match text with
              | '-' :: body => number true text body
              | body => number false text body

def members : Nat → Entries → List Char → Parsed Value
  | 0, _, text => complain .propertyName text
  | fuel + 1, entries, text =>
      match text with
      | '"' :: rest =>
          match string text.length text.length [] rest with
          | .error fault => .error fault
          | .ok (key, rest) =>
              match skipSpace rest with
              | ':' :: rest =>
                  match value fuel (skipSpace rest) with
                  | .error fault => .error fault
                  | .ok (item, rest) =>
                      let entries := entries.set key item
                      match skipSpace rest with
                      | '\x7d' :: after => .ok (.record entries, after)
                      | ',' :: rest => members fuel entries (skipSpace rest)
                      | rest => complain .comma rest
              | rest => complain .colon rest
      | rest => complain .propertyName rest

/-- The items of a list from the next one on; those read so far are given last first. -/
def elements : Nat → List Value → List Char → Parsed Value
  | 0, _, text => complain .value text
  | fuel + 1, items, text =>
      match value fuel text with
      | .error fault => .error fault
      | .ok (item, rest) =>
          match skipSpace rest with
          | ']' :: after => .ok (.list (item :: items).reverse, after)
          | ',' :: rest => elements fuel (item :: items) (skipSpace rest)
          | rest => complain .comma rest

end

/-- Reads a whole text. Each call of the readers consumes a character or hands on what the next one
consumes, so twice the length bounds their nesting. -/
def read (text : List Char) : Except Fault Value :=
  if text.head? = some (Char.ofNat 0xfeff) then complain .byteOrderMark text
  else
    match value (2 * text.length + 2) (skipSpace text) with
    | .error fault => .error fault
    | .ok (item, rest) =>
        match skipSpace rest with
        | [] => .ok item
        | rest => complain .extraData rest

def Fault.message (text : List Char) (fault : Fault) : String :=
  match fault.complaint with
  | .longNumber _ => fault.complaint.text
  | complaint =>
      let offset := text.length - fault.left
      let before := text.take offset
      let line := before.count '\n' + 1
      let column := (before.reverse.takeWhile (· != '\n')).length + 1
      s!"{complaint.text}: line {line} column {column} (char {offset})"

def Fault.failure (text : List Char) (fault : Fault) : Failure :=
  match fault.complaint with
  | .longNumber _ => .fault .value (fault.message text)
  | _ => .malformedDocument (fault.message text)

def parse (text : String) : Fallible Value :=
  (read text.toList).mapError (Fault.failure text.toList)

end StepGraph.Json
