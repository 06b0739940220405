import StepGraph.Yaml.Token

/-! From the text of a settings document to its tokens, one after another. How far a line is set in
tells which collections it belongs to. Whatever stands in front of a colon was a key, which is known
only when the colon is reached; until then its place among the tokens is kept in mind. A key stands
on one line and takes up no more than 1024 characters. -/

namespace StepGraph.Yaml

/-- A place where a key may have begun. A token there that has to be a key, because of the column it
stands in, may not turn out to be something else. -/
structure PossibleKey where
  position : Nat
  place : Place
  required : Bool
deriving Repr, DecidableEq

/-- How far reading has come. -/
structure Layout where
  /-- The length of the whole text, which bounds how often there is anything to read. -/
  length : Nat
  cursor : Cursor
  found : List Token := []
  taken : Nat := 0
  finished : Bool := false
  /-- The flow collections around this place. -/
  depth : Int := 0
  /-- The column of the collection around this place, and those of the ones further out. -/
  indent : Int := -1
  outer : List Int := []
  keyAllowed : Bool := true
  /-- Where a key may have begun, by the depth of flow collections. -/
  keys : List (Int × PossibleKey) := []
deriving Inhabited

namespace Layout

def longestKey : Nat := 1024

def ofText (text : List Char) : Layout :=
  { length := text.length, cursor := .start text }

def inFlow (layout : Layout) : Bool :=
  layout.depth != 0

def put (layout : Layout) (token : Token) : Layout :=
  { layout with found := layout.found ++ [token] }

def putAt (layout : Layout) (position : Nat) (token : Token) : Layout :=
  { layout with found := layout.found.insertIdx (position - layout.taken) token }

def goTo (layout : Layout) (cursor : Cursor) : Layout :=
  { layout with cursor }

/-! ### Possible keys -/

/-- Gives up the keys that reading has gone too far beyond. -/
def dropStale (layout : Layout) : Fallible Layout :=
  let here := layout.cursor.place
  let isStale (key : PossibleKey) : Bool :=
    key.place.line != here.line || here.index - key.place.index > longestKey
  if layout.keys.any fun (_, key) => isStale key && key.required then .error malformed
  else .ok { layout with keys := layout.keys.filter fun (_, key) => !isStale key }

def dropKey (layout : Layout) : Fallible Layout :=
  match layout.keys.lookup layout.depth with
  | some key =>
      if key.required then .error malformed
      else .ok { layout with keys := layout.keys.filter (·.1 != layout.depth) }
  | none => .ok layout

/-- Keeps in mind that a key may begin here. -/
def noteKey (layout : Layout) : Fallible Layout :=
  if !layout.keyAllowed then .ok layout
  else do
    let layout ← layout.dropKey
    let key : PossibleKey :=
      { position := layout.taken + layout.found.length
        place := layout.cursor.place
        required := !layout.inFlow && layout.indent = layout.cursor.column }
    return { layout with keys := (layout.depth, key) :: layout.keys }

/-! ### Columns -/

def unwind (layout : Layout) (column : Int) : Layout :=
  if layout.inFlow then layout else go layout.outer layout
where
  go : List Int → Layout → Layout
    | [], layout => layout
    | indent :: outer, layout =>
        if layout.indent > column then go outer ({ layout with indent, outer }.put .blockEnd)
        else layout

def begin? (layout : Layout) (column : Int) : Option Layout :=
  if layout.indent < column then
    some { layout with outer := layout.indent :: layout.outer, indent := column }
  else none

/-- Begins a collection here by a mark of its own, unless it has begun already. -/
def beginBlock (layout : Layout) (start : Token) : Fallible Layout :=
  if layout.inFlow then .ok layout
  else if !layout.keyAllowed then .error malformed
  else .ok (((layout.begin? layout.cursor.column).map (·.put start)).getD layout)

/-! ### Single tokens -/

def addNode (layout : Layout) (read : Cursor → Fallible (Token × Cursor)) : Fallible Layout := do
  let layout ← layout.noteKey
  let (token, after) ← read layout.cursor
  return { (layout.goTo after).put token with keyAllowed := false }

/-- Behind a word a key may begin if its last line ended. -/
def addWord (layout : Layout) : Fallible Layout := do
  let layout ← layout.noteKey
  let word := Word.read layout.inFlow (layout.indent + 1) layout.cursor
  return { (layout.goTo word.after).put (.scalar (String.ofList word.text) true) with
    keyAllowed := word.crossed }

def addEnd (layout : Layout) : Fallible Layout := do
  let layout ← (layout.unwind (-1)).dropKey
  return { layout.put .textEnd with keyAllowed := false, keys := [], finished := true }

def addBoundary (layout : Layout) (token : Token) (after : Cursor) : Fallible Layout := do
  let layout ← (layout.unwind (-1)).dropKey
  return { (layout.goTo after).put token with keyAllowed := false }

def addDirective (layout : Layout) : Fallible Layout := do
  let layout ← (layout.unwind (-1)).dropKey
  let (directive, after) ← Directive.read layout.cursor
  return { (layout.goTo after).put (.directive directive) with keyAllowed := false }

def openFlow (layout : Layout) (token : Token) : Fallible Layout := do
  let layout ← layout.noteKey
  return { (layout.goTo layout.cursor.next).put token with
    depth := layout.depth + 1, keyAllowed := true }

def closeFlow (layout : Layout) (token : Token) : Fallible Layout := do
  let layout ← layout.dropKey
  return { (layout.goTo layout.cursor.next).put token with
    depth := layout.depth - 1, keyAllowed := false }

def addFlowEntry (layout : Layout) : Fallible Layout := do
  let layout ← { layout with keyAllowed := true }.dropKey
  return (layout.goTo layout.cursor.next).put .flowEntry

def addItem (layout : Layout) : Fallible Layout := do
  let layout ← layout.beginBlock .blockSequence
  let layout ← { layout with keyAllowed := true }.dropKey
  return (layout.goTo layout.cursor.next).put .item

def addKey (layout : Layout) : Fallible Layout := do
  let layout ← layout.beginBlock .blockMapping
  let layout ← { layout with keyAllowed := !layout.inFlow }.dropKey
  return (layout.goTo layout.cursor.next).put .key

/-- A colon. The key in front of it is known now. -/
def addValue (layout : Layout) : Fallible Layout := do
  let layout ←
    match layout.keys.lookup layout.depth with
    | some key =>
        let keys := layout.keys.filter (·.1 != layout.depth)
        let layout := { layout with keys, keyAllowed := false }.putAt key.position .key
        if layout.inFlow then pure layout
        else
          let begun := layout.begin? key.place.column
          pure ((begun.map (·.putAt key.position .blockMapping)).getD layout)
    | none => do
        let layout ← layout.beginBlock .blockMapping
        { layout with keyAllowed := !layout.inFlow }.dropKey
  return (layout.goTo layout.cursor.next).put .value

def addBlock (layout : Layout) : Fallible Layout := do
  let layout ← { layout with keyAllowed := true }.dropKey
  let (text, after) ← Block.read layout.indent layout.cursor
  return (layout.goTo after).put (.scalar (String.ofList text) false)

/-! ### Going on -/

/-- The next tokens; at least one is found. -/
def advance (layout : Layout) : Fallible Layout := do
  let (crossed, cursor) := layout.cursor.skipBetween
  let layout := { layout with
    cursor, keyAllowed := layout.keyAllowed || (crossed && !layout.inFlow) }
  let layout := (← layout.dropStale).unwind cursor.column
  let flow := layout.inFlow
  let blankBehind := endsWord cursor.peekSecond
  match cursor.peek with
  | none => layout.addEnd
  | some c =>
      if c = '%' && cursor.column = 0 then layout.addDirective
      else if cursor.column = 0 && cursor.atMarks '-' then
        layout.addBoundary .documentStart (cursor.drop 3)
      else if cursor.column = 0 && cursor.atMarks '.' then
        layout.addBoundary .documentEnd (cursor.drop 3)
      else if c = '[' then layout.openFlow .flowSequence
      else if c = '\x7b' then layout.openFlow .flowMapping
      else if c = ']' then layout.closeFlow .flowSequenceEnd
      else if c = '\x7d' then layout.closeFlow .flowMappingEnd
      else if c = ',' then layout.addFlowEntry
      else if c = '-' && blankBehind then layout.addItem
      else if c = '?' && (flow || blankBehind) then layout.addKey
      else if c = ':' && (flow || blankBehind) then layout.addValue
      else if c = '*' then layout.addNode Token.readAlias
      else if c = '&' then layout.addNode Token.readAnchor
      else if c = '!' then layout.addNode Token.readTag
      else if (c = '|' || c = '>') && !flow then layout.addBlock
      else if c = '\'' || c = '"' then layout.addNode Token.readQuoted
      else if Word.begins flow cursor then layout.addWord
      else throw malformed

def needsMore (layout : Layout) : Bool :=
  layout.found.isEmpty || layout.keys.any fun (_, key) => key.position = layout.taken

/-- Reads on until the next token is certain. -/
def settle (layout : Layout) : Nat → Fallible Layout
  | 0 => .ok layout
  | fuel + 1 => do
      if layout.finished then return layout
      else if layout.found.isEmpty then (← layout.advance).settle fuel
      else
        let layout ← layout.dropStale
        if layout.needsMore then (← layout.advance).settle fuel else return layout

def peek (layout : Layout) : Fallible (Token × Layout) := do
  let layout ← layout.settle (layout.length + 2)
  return (layout.found.headD .textEnd, layout)

def drop (layout : Layout) : Layout :=
  { layout with found := layout.found.drop 1, taken := layout.taken + 1 }

end Layout

end StepGraph.Yaml
