import StepGraph.Yaml.Cursor

namespace StepGraph.Yaml.Block

/-- What becomes of the line breaks at the end of a block: none, one or all of them are kept. -/
inductive Chomping where
  | strip
  | clip
  | keep
deriving DecidableEq

/-- The marks behind the sign of a block: how breaks are kept, and how far it is set in. -/
structure Header where
  chomping : Chomping := .clip
  depth : Option Nat := none

def takeChomping (cursor : Cursor) : Chomping × Cursor :=
  match cursor.peek with
  | some '+' => (.keep, cursor.next)
  | some '-' => (.strip, cursor.next)
  | _ => (.clip, cursor)

def takeDepth (cursor : Cursor) : Fallible (Option Nat × Cursor) :=
  match cursor.peek with
  | some c =>
      if c = '0' then .error malformed
      else if '1' ≤ c && c ≤ '9' then .ok (some (c.toNat - 48), cursor.next)
      else .ok (none, cursor)
  | none => .ok (none, cursor)

def readHeader (cursor : Cursor) : Fallible (Header × Cursor) := do
  let (chomping, later) := takeChomping cursor
  let (depth, later) ← takeDepth later
  let (chomping, later) :=
    if chomping = .clip && depth.isSome then takeChomping later else (chomping, later)
  if endsName later.peek then return (⟨chomping, depth⟩, ← later.nextLine) else throw malformed

/-- Empty lines in front of a block whose depth is not given, and the depth they and the first line
show. -/
def leading (most : Nat) (place : Place) : List Char → List Char × Nat × Cursor
  | [] => ([], most, ⟨place, []⟩)
  | c :: rest =>
      let after := place.after c
      if isBreak c then
        let (breaks, most, cursor) := leading most after rest
        (keptBreak c :: breaks, most, cursor)
      else if c = ' ' then leading (max most after.column) after rest
      else ([], most, ⟨place, c :: rest⟩)

/-- The breaks of empty lines; the cursor comes to stand at the depth, or before it where a line is
not set in as far. -/
def emptyLines (depth : Nat) (place : Place) : List Char → List Char × Cursor
  | [] => ([], ⟨place, []⟩)
  | c :: rest =>
      if isBreak c then
        let (breaks, cursor) := emptyLines depth (place.after c) rest
        (keptBreak c :: breaks, cursor)
      else if c = ' ' && place.column < depth then emptyLines depth (place.after c) rest
      else ([], ⟨place, c :: rest⟩)

/-- The lines of a block, the break behind its last line, and those of the empty lines after it. -/
structure Body where
  text : List Char
  lastBreak : List Char
  trailing : List Char
  after : Cursor

def startsBlank (cursor : Cursor) : Bool :=
  cursor.peek = some ' ' || cursor.peek = some '\t'

/-- Lines at the depth. A single break between two lines that do not begin with a blank is folded
into a space, where breaks are folded at all. -/
def lines (fold : Bool) (depth : Nat) (breaks : List Char) (cursor : Cursor) : Nat → Body
  | 0 => ⟨[], [], breaks, cursor⟩
  | fuel + 1 =>
      if cursor.column != depth || cursor.rest.isEmpty then ⟨[], [], breaks, cursor⟩
      else
        let (line, ended) := cursor.span (!isBreak ·)
        let (lastBreak, begun) := ended.takeBreak
        let (trailing, after) := emptyLines depth begun.place begun.rest
        if after.column != depth || after.rest.isEmpty then
          ⟨breaks ++ line, lastBreak, trailing, after⟩
        else
          let glue :=
            if fold && lastBreak = ['\n'] && !startsBlank cursor && !startsBlank after then
              if trailing.isEmpty then [' '] else []
            else lastBreak
          let more := lines fold depth trailing after fuel
          { more with text := breaks ++ line ++ glue ++ more.text }

def read (outer : Int) (cursor : Cursor) : Fallible (List Char × Cursor) := do
  let fold := cursor.peek = some '>'
  let (header, begun) ← readHeader cursor.next
  let least := (max (outer + 1) 1).toNat
  let (breaks, depth, first) :=
    match header.depth with
    | some depth =>
        let depth := least + depth - 1
        let (breaks, first) := emptyLines depth begun.place begun.rest
        (breaks, depth, first)
    | none =>
        let (breaks, most, first) := leading 0 begun.place begun.rest
        (breaks, max least most, first)
  let body := lines fold depth breaks first (first.rest.length + 1)
  let ending :=
    match header.chomping with
    | .strip => []
    | .clip => body.lastBreak
    | .keep => body.lastBreak ++ body.trailing
  return (body.text ++ ending, body.after)

end StepGraph.Yaml.Block
