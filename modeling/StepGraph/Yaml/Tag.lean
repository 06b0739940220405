import StepGraph.Yaml.Cursor
import StepGraph.Text.Digit

namespace StepGraph.Yaml

/-- What the tag of a node says about it. -/
inductive Tag where
  | null
  | bool
  | int
  | float
  | text
  | bytes
  | timestamp
  | sequence
  | mapping
  | set
  /-- A sequence of mappings of one entry each. -/
  | entries
  /-- The key whose mapping is taken into the one around it. -/
  | merge
  | value
  /-- A tag without a meaning here. -/
  | unknown
deriving Repr, DecidableEq, Inhabited

namespace Tag

def coreStart : String := "tag:yaml.org,2002:"

def coreNames : List (String × Tag) :=
  [("null", .null), ("bool", .bool), ("int", .int), ("float", .float), ("str", .text),
    ("binary", .bytes), ("timestamp", .timestamp), ("seq", .sequence), ("map", .mapping),
    ("set", .set), ("omap", .entries), ("pairs", .entries), ("merge", .merge), ("value", .value)]

def ofUri (uri : String) : Tag :=
  ((coreNames.find? fun (name, _) => coreStart ++ name == uri).map (·.2)).getD .unknown

/-- The tag that says nothing, so that a node is taken for what it looks like. -/
def unspecific : String := "!"

/-- What handles stand for unless a directive says otherwise. -/
def usualHandles : List (String × String) :=
  [("!", "!"), ("!!", coreStart)]

/-! ### Written tags -/

structure Shorthand where
  handle : Option String
  suffix : String
deriving Repr, DecidableEq

def Shorthand.uri? (shorthand : Shorthand) (handles : List (String × String)) : Option String :=
  match shorthand.handle with
  | none => some shorthand.suffix
  | some handle => (handles.lookup handle).map (· ++ shorthand.suffix)

def isUriChar (c : Char) : Bool :=
  c.isAlphanum || "-;/?:@&=+$,_.!~*'()[]".toList.contains c

/-- Escaped bytes: two hexadecimal digits behind each percent sign. -/
def takeBytes : Nat → List Char → Fallible (List UInt8 × Nat)
  | 0, _ => .ok ([], 0)
  | fuel + 1, '%' :: a :: b :: rest => do
      match Text.digitIn? 16 a, Text.digitIn? 16 b with
      | some high, some low =>
          let (more, length) ← takeBytes fuel rest
          return (UInt8.ofNat (high * 16 + low) :: more, length + 3)
      | _, _ => throw malformed
  | _ + 1, '%' :: _ => .error malformed
  | _ + 1, _ => .ok ([], 0)

def readUriFrom (cursor : Cursor) : Nat → Fallible (List Char × Cursor)
  | 0 => .ok ([], cursor)
  | fuel + 1 =>
      match cursor.peek with
      | none => .ok ([], cursor)
      | some c =>
          if c = '%' then do
            let (octets, length) ← takeBytes cursor.rest.length cursor.rest
            match String.fromUTF8? ⟨octets.toArray⟩ with
            | some decoded =>
                let (more, after) ← readUriFrom (cursor.drop length) fuel
                return (decoded.toList ++ more, after)
            | none => throw malformed
          else if isUriChar c then do
            let (more, after) ← readUriFrom cursor.next fuel
            return (c :: more, after)
          else .ok ([], cursor)

def readUri (cursor : Cursor) : Fallible (String × Cursor) := do
  let (chars, after) ← readUriFrom cursor cursor.rest.length
  if after.place = cursor.place then throw malformed else return (String.ofList chars, after)

/-- A handle: an exclamation mark, or a name between two of them. -/
def readHandle (cursor : Cursor) : Fallible (String × Cursor) := do
  if cursor.peek != some '!' then throw malformed
  else if cursor.peekSecond = some ' ' then return ("!", cursor.next)
  else
    let (name, later) := cursor.next.span isNameChar
    if later.peek = some '!' then
      return (String.ofList ('!' :: name ++ ['!']), later.next)
    else throw malformed

def read (cursor : Cursor) : Fallible (Shorthand × Cursor) := do
  let (shorthand, after) ←
    if cursor.peekSecond = some '<' then do
      let (uri, later) ← readUri (cursor.drop 2)
      if later.peek = some '>' then pure (Shorthand.mk none uri, later.next) else throw malformed
    else if endsWord cursor.peekSecond then pure (Shorthand.mk none unspecific, cursor.next)
    else do
      let word := cursor.next.rest.takeWhile fun c => !endsName (some c)
      let (handle, later) ←
        if word.contains '!' then readHandle cursor else pure ("!", cursor.next)
      let (suffix, later) ← readUri later
      pure (Shorthand.mk (some handle) suffix, later)
  if endsName after.peek then return (shorthand, after) else throw malformed

end Tag

end StepGraph.Yaml
