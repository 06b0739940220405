import StepGraph.Value.Basic
import StepGraph.Decimal.Style
import StepGraph.Text.Quoted

namespace StepGraph.Json

structure Format where
  /-- Whether characters outside printable ASCII are written as escapes. -/
  asciiOnly : Bool
  style : Decimal.Style

def Format.data : Format :=
  ⟨true, .document⟩

def Format.payload : Format :=
  ⟨false, .payload⟩

def unitEscape (unit : Nat) : List Char :=
  '\\' :: 'u' :: Text.hexDigits 4 unit

def pointEscape (n : Nat) : List Char :=
  if n < 0x10000 then unitEscape n
  else unitEscape (0xd800 + (n - 0x10000) / 0x400) ++ unitEscape (0xdc00 + (n - 0x10000) % 0x400)

def Format.char (format : Format) (c : Char) : List Char :=
  if c = '"' || c = '\\' then ['\\', c]
  else if c = '\n' then ['\\', 'n']
  else if c = '\r' then ['\\', 'r']
  else if c = '\t' then ['\\', 't']
  else if c.toNat = 8 then ['\\', 'b']
  else if c.toNat = 12 then ['\\', 'f']
  else if c.toNat < 0x20 || (format.asciiOnly && 0x7f ≤ c.toNat) then pointEscape c.toNat
  else [c]

def Format.string (format : Format) (s : String) : List Char :=
  '"' :: s.toList.flatMap format.char ++ ['"']

def intText (n : Int) : List Char :=
  let digits := Decimal.digitsOf n.natAbs
  if n < 0 then '-' :: digits else digits

def lineBreak (depth : Nat) : List Char :=
  '\n' :: List.replicate (2 * depth) ' '

mutual

/-- A value inside `depth` others, each level two blanks further in. -/
def Format.write (format : Format) (depth : Nat) : Value → List Char
  | .null => "null".toList
  | .bool b => if b then "true".toList else "false".toList
  | .int n => intText n
  | .float x => (format.style.write x).toList
  | .text s => format.string s
  | .list items =>
      if items.isEmpty then ['[', ']']
      else '[' :: writeItems format (depth + 1) true items ++ lineBreak depth ++ [']']
  | .record entries =>
      if entries.isEmpty then ['\x7b', '\x7d']
      else '\x7b' :: writeEntries format (depth + 1) true entries ++ lineBreak depth ++ ['\x7d']

def writeItems (format : Format) (depth : Nat) (first : Bool) : List Value → List Char
  | [] => []
  | item :: rest =>
      (if first then [] else [',']) ++ lineBreak depth ++ format.write depth item ++
        writeItems format depth false rest

def writeEntries (format : Format) (depth : Nat) (first : Bool) :
    List (String × Value) → List Char
  | [] => []
  | (key, item) :: rest =>
      (if first then [] else [',']) ++ lineBreak depth ++ format.string key ++ [':', ' '] ++
        format.write depth item ++ writeEntries format depth false rest

end

/-- A whole document, items on lines of their own. -/
def Format.print (format : Format) (value : Value) : String :=
  String.ofList (format.write 0 value)

mutual

def compactOnto (value : Value) (rest : List Char) : List Char :=
  match value with
  | .null => "null".toList ++ rest
  | .bool b => (if b then "true".toList else "false".toList) ++ rest
  | .int n => intText n ++ rest
  | .float x => (Decimal.Style.document.write x).toList ++ rest
  | .text s => Format.data.string s ++ rest
  | .list items => '[' :: compactItemsOnto true items (']' :: rest)
  | .record entries => '\x7b' :: compactEntriesOnto true entries ('\x7d' :: rest)

def compactItemsOnto (first : Bool) (items : List Value) (rest : List Char) : List Char :=
  match items with
  | [] => rest
  | item :: items =>
      (if first then [] else [',']) ++ compactOnto item (compactItemsOnto false items rest)

def compactEntriesOnto (first : Bool) (entries : List (String × Value)) (rest : List Char) :
    List Char :=
  match entries with
  | [] => rest
  | (key, item) :: entries =>
      (if first then [] else [',']) ++ Format.data.string key ++
        ':' :: compactOnto item (compactEntriesOnto false entries rest)

end

def compact (value : Value) : String :=
  String.ofList (compactOnto value [])

end StepGraph.Json
