import StepGraph.Failure

namespace StepGraph.Yaml

def malformed : Failure :=
  .malformedSettings

/-! ### Characters -/

def isBreak (c : Char) : Bool :=
  c = '\n' || c.toNat = 0x85 || c.toNat = 0x2028 || c.toNat = 0x2029

def keptBreak (c : Char) : Char :=
  if c.toNat = 0x85 then '\n' else c

/-- Whether a space, a line break or nothing follows. -/
def endsName (next : Option Char) : Bool :=
  next.all fun c => c = ' ' || isBreak c

/-- Whether a blank, a line break or nothing follows. -/
def endsWord (next : Option Char) : Bool :=
  endsName next || next = some '\t'

def isFlowMark (c : Char) : Bool :=
  c = ',' || c = '[' || c = ']' || c = '\x7b' || c = '\x7d'

def isNameChar (c : Char) : Bool :=
  c.isAlphanum || c = '-' || c = '_'

def isAllowed (c : Char) : Bool :=
  let n := c.toNat
  n = 9 || n = 10 || (0x20 ≤ n && n ≤ 0x7e) || n = 0x85 || (0xa0 ≤ n && n ≤ 0xfffd) ||
    0x10000 ≤ n

/-- A carriage return, alone or with a line feed, is a line feed. -/
def unified : List Char → List Char
  | '\r' :: '\n' :: rest => '\n' :: unified rest
  | '\r' :: rest => '\n' :: unified rest
  | c :: rest => c :: unified rest
  | [] => []

/-! ### Places -/

/-- A place in the text. Marks of the byte order take up no column. -/
structure Place where
  index : Nat := 0
  line : Nat := 0
  column : Nat := 0
deriving Repr, DecidableEq, Inhabited

def Place.after (place : Place) (c : Char) : Place :=
  if isBreak c then ⟨place.index + 1, place.line + 1, 0⟩
  else ⟨place.index + 1, place.line, place.column + if c.toNat = 0xfeff then 0 else 1⟩

/-- A place and what follows it. -/
structure Cursor where
  place : Place
  rest : List Char
deriving Repr, Inhabited

namespace Cursor

def start (text : List Char) : Cursor :=
  match text with
  | [] => ⟨{}, []⟩
  | c :: rest => if c.toNat = 0xfeff then ⟨Place.after {} c, rest⟩ else ⟨{}, c :: rest⟩

def column (cursor : Cursor) : Nat :=
  cursor.place.column

def peek (cursor : Cursor) : Option Char :=
  cursor.rest.head?

def peekSecond (cursor : Cursor) : Option Char :=
  cursor.rest[1]?

def next (cursor : Cursor) : Cursor :=
  match cursor.rest with
  | [] => cursor
  | c :: rest => ⟨cursor.place.after c, rest⟩

def drop (cursor : Cursor) : Nat → Cursor
  | 0 => cursor
  | count + 1 => cursor.next.drop count

def span (cursor : Cursor) (belongs : Char → Bool) : List Char × Cursor :=
  let front := cursor.rest.takeWhile belongs
  (front, cursor.drop front.length)

def skip (cursor : Cursor) (belongs : Char → Bool) : Cursor :=
  (cursor.span belongs).2

def takeBreak (cursor : Cursor) : List Char × Cursor :=
  match cursor.rest with
  | c :: _ => if isBreak c then ([keptBreak c], cursor.next) else ([], cursor)
  | [] => ([], cursor)

/-- Goes over spaces, comments and line breaks; says whether there was a break. -/
def skipBetween (cursor : Cursor) : Bool × Cursor :=
  go false false cursor.place cursor.rest
where
  go (crossed comment : Bool) (place : Place) : List Char → Bool × Cursor
    | [] => (crossed, ⟨place, []⟩)
    | c :: rest =>
        if isBreak c then go true false (place.after c) rest
        else if comment || c = ' ' then go crossed comment (place.after c) rest
        else if c = '#' then go crossed true (place.after c) rest
        else (crossed, ⟨place, c :: rest⟩)

/-- Goes to the next line; nothing but spaces and a comment may be left of this one. -/
def nextLine (cursor : Cursor) : Fallible Cursor :=
  let blank := cursor.skip (· = ' ')
  let blank := if blank.peek = some '#' then blank.skip (!isBreak ·) else blank
  match blank.peek with
  | none => .ok blank
  | some c => if isBreak c then .ok blank.next else .error malformed

/-- Whether three such marks stand here, as between documents. -/
def atMarks (cursor : Cursor) (mark : Char) : Bool :=
  match cursor.rest with
  | a :: b :: c :: rest => a = mark && b = mark && c = mark && endsWord rest.head?
  | _ => false

def betweenDocuments (cursor : Cursor) : Bool :=
  cursor.atMarks '-' || cursor.atMarks '.'

end Cursor

end StepGraph.Yaml
