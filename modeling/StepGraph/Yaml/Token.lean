import StepGraph.Yaml.Tag
import StepGraph.Yaml.Scalar.Quoted
import StepGraph.Yaml.Scalar.Block
import StepGraph.Numeral

namespace StepGraph.Yaml

/-- What is said in front of a document. -/
inductive Directive where
  | version (major : Int)
  | handle (name replacement : String)
  | other
deriving Repr, DecidableEq

inductive Token where
  | textEnd
  | directive (directive : Directive)
  | documentStart
  | documentEnd
  | blockSequence
  | blockMapping
  | blockEnd
  | flowSequence
  | flowSequenceEnd
  | flowMapping
  | flowMappingEnd
  | flowEntry
  | item
  | key
  | value
  | alias (name : String)
  | anchor (name : String)
  | tag (shorthand : Tag.Shorthand)
  | scalar (text : String) (isWord : Bool)
deriving Repr, DecidableEq

namespace Directive

def readNumber (cursor : Cursor) : Fallible (Int × Cursor) := do
  let (digits, after) := cursor.span Decimal.isDigit
  if digits.isEmpty then throw malformed
  else return (← Numeral.whole 10 (String.ofList digits), after)

def readVersion (cursor : Cursor) : Fallible (Directive × Cursor) := do
  let (major, later) ← readNumber (cursor.skip (· = ' '))
  if later.peek != some '.' then throw malformed
  let (_, after) ← readNumber later.next
  if endsName after.peek then return (.version major, after) else throw malformed

def readReplacement (cursor : Cursor) : Fallible (Directive × Cursor) := do
  let (name, later) ← Tag.readHandle (cursor.skip (· = ' '))
  if later.peek != some ' ' then throw malformed
  let (replacement, after) ← Tag.readUri (later.skip (· = ' '))
  if endsName after.peek then return (.handle name replacement, after) else throw malformed

/-- A directive, up to the next line; the cursor stands at its percent sign. -/
def read (cursor : Cursor) : Fallible (Directive × Cursor) := do
  let (name, later) := cursor.next.span isNameChar
  if name.isEmpty || !endsName later.peek then throw malformed
  let (directive, after) ←
    if name = "YAML".toList then readVersion later
    else if name = "TAG".toList then readReplacement later
    else pure (.other, later.skip (!isBreak ·))
  return (directive, ← after.nextLine)

end Directive

def readName (cursor : Cursor) : Fallible (String × Cursor) :=
  let (name, after) := cursor.next.span isNameChar
  let ends := endsWord after.peek || after.peek.any
    fun c => ['?', ':', ',', ']', '\x7d', '%', '@', Char.ofNat 96].contains c
  if name.isEmpty || !ends then .error malformed else .ok (String.ofList name, after)

namespace Token

def readAlias (cursor : Cursor) : Fallible (Token × Cursor) := do
  let (name, after) ← readName cursor
  return (.alias name, after)

def readAnchor (cursor : Cursor) : Fallible (Token × Cursor) := do
  let (name, after) ← readName cursor
  return (.anchor name, after)

def readTag (cursor : Cursor) : Fallible (Token × Cursor) := do
  let (shorthand, after) ← Tag.read cursor
  return (.tag shorthand, after)

def readQuoted (cursor : Cursor) : Fallible (Token × Cursor) := do
  let (text, after) ← Quoted.read cursor
  return (.scalar (String.ofList text) false, after)

end Token

end StepGraph.Yaml
