import StepGraph.Yaml.Cursor

namespace StepGraph.Yaml

/-- What line breaks inside a text become: a single one is a space, and of several the first is
dropped unless it is one of the breaks that stand for themselves. -/
def folded (first : List Char) (others : List Char) : List Char :=
  if first != ['\n'] then first ++ others else if others.isEmpty then [' '] else others

/-- A text, whether a line ended behind its last word, and the cursor behind it. -/
structure Written where
  text : List Char
  crossed : Bool := false
  after : Cursor

namespace Word

def begins (flow : Bool) (cursor : Cursor) : Bool :=
  match cursor.rest with
  | [] => false
  | c :: rest =>
      let special := ['-', '?', ':', '#', '&', '*', '!', '|', '>', '\'', '"', '%', '@',
        Char.ofNat 96]
      if endsWord (some c) || isFlowMark c || special.contains c then
        !endsWord rest.head? && (c = '-' || (!flow && (c = '?' || c = ':')))
      else true

def part (flow : Bool) : List Char → List Char
  | [] => []
  | c :: rest =>
      let colonEnds := endsWord rest.head? || (flow && rest.head?.any isFlowMark)
      if endsWord (some c) || (c = ':' && colonEnds) || (flow && (isFlowMark c || c = '?')) then []
      else c :: part flow rest

/-- The further breaks between two lines of a word; nothing where the document ends there. -/
def emptyLines (found : List Char) (place : Place) : List Char → Option (List Char) × Cursor
  | [] => (some found, ⟨place, []⟩)
  | c :: rest =>
      if c = ' ' then emptyLines found (place.after c) rest
      else if isBreak c then
        let after : Cursor := ⟨place.after c, rest⟩
        if after.betweenDocuments then (none, after)
        else emptyLines (found ++ [keptBreak c]) (place.after c) rest
      else (some found, ⟨place, c :: rest⟩)

/-- What stands between two parts of a word, which is nothing if the word cannot go on. -/
def gap (cursor : Cursor) : Written :=
  let (blanks, later) := cursor.span (· = ' ')
  let (first, begun) := later.takeBreak
  if first.isEmpty then ⟨blanks, false, later⟩
  else if begun.betweenDocuments then ⟨[], true, begun⟩
  else
    match emptyLines [] begun.place begun.rest with
    | (some others, after) => ⟨folded first others, true, after⟩
    | (none, after) => ⟨[], true, after⟩

/-- The rest of a word behind a gap. Lines that are not set in by `least` do not belong to it. -/
def readFrom (flow : Bool) (least : Int) (before : Written) : Nat → Written
  | 0 => { before with text := [] }
  | fuel + 1 =>
      let cursor := before.after
      let front := if cursor.peek = some '#' then [] else part flow cursor.rest
      if front.isEmpty then { before with text := [] }
      else
        let between := gap (cursor.drop front.length)
        let next := between.after
        if between.text.isEmpty || next.peek = some '#' || (!flow && (next.column : Int) < least)
        then { between with text := before.text ++ front }
        else
          let more := readFrom flow least between fuel
          { more with text := before.text ++ front ++ more.text }

def read (flow : Bool) (least : Int) (cursor : Cursor) : Written :=
  readFrom flow least ⟨[], false, cursor⟩ cursor.rest.length

end Word

end StepGraph.Yaml
