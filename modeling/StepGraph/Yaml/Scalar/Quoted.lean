import StepGraph.Yaml.Scalar.Word
import StepGraph.Text.Digit

namespace StepGraph.Yaml.Quoted

def shortEscape? (c : Char) : Option Char :=
  match c with
  | '0' => some (Char.ofNat 0)
  | 'a' => some (Char.ofNat 7)
  | 'b' => some (Char.ofNat 8)
  | 't' => some '\t'
  | '\t' => some '\t'
  | 'n' => some '\n'
  | 'v' => some (Char.ofNat 11)
  | 'f' => some (Char.ofNat 12)
  | 'r' => some '\r'
  | 'e' => some (Char.ofNat 27)
  | ' ' => some ' '
  | '"' => some '"'
  | '\\' => some '\\'
  | '/' => some '/'
  | 'N' => some (Char.ofNat 0x85)
  | '_' => some (Char.ofNat 0xa0)
  | 'L' => some (Char.ofNat 0x2028)
  | 'P' => some (Char.ofNat 0x2029)
  | _ => none

def hexWidth? (c : Char) : Option Nat :=
  match c with
  | 'x' => some 2
  | 'u' => some 4
  | 'U' => some 8
  | _ => none

def hexNumber? (width : Nat) (text : List Char) : Option Nat :=
  let digits := text.take width
  if digits.length < width then none
  else digits.foldlM (fun value c => (Text.digitIn? 16 c).map (value * 16 + ·)) 0

/-- The character with a number. A half of a pair of code units is shown as a character that could
not be read. -/
def charOf (n : Nat) : Fallible Char :=
  if h : n.isValidChar then .ok (Char.ofNatAux n h)
  else if n < 0x110000 then .ok (Char.ofNat 0xfffd)
  else if n < Nat.pow 2 31 then .error (.fault .value "chr() arg not in range(0x110000)")
  else .error (.fault .overflow "Python int too large to convert to C int")

/-- The breaks at the begin of lines, with the blanks around them left out. The document may not end
there. -/
def breaks (found : List Char) (fresh : Bool) (place : Place) :
    List Char → Fallible (List Char × Cursor)
  | [] => .ok (found, ⟨place, []⟩)
  | c :: rest =>
      let cursor : Cursor := ⟨place, c :: rest⟩
      if fresh && cursor.betweenDocuments then .error malformed
      else if c = ' ' || c = '\t' then breaks found false (place.after c) rest
      else if isBreak c then breaks (found ++ [keptBreak c]) true (place.after c) rest
      else .ok (found, cursor)

def piece? (mark : Char) (cursor : Cursor) : Fallible (Option (List Char) × Cursor) :=
  let lineEnd (cursor : Cursor) : Fallible (List Char × List Char × Cursor) := do
    let (first, begun) := cursor.takeBreak
    let (others, after) ← breaks [] true begun.place begun.rest
    return (first, others, after)
  match cursor.rest with
  | [] => .error malformed
  | c :: rest =>
      if c = mark then
        if mark = '\'' && rest.head? = some '\'' then .ok (some [c], cursor.drop 2)
        else .ok (none, cursor.next)
      else if mark = '"' && c = '\\' then
        match rest with
        | [] => .error malformed
        | e :: later =>
            match shortEscape? e, hexWidth? e with
            | some escaped, _ => .ok (some [escaped], cursor.drop 2)
            | none, some width =>
                match hexNumber? width later with
                | some n => do return (some [← charOf n], cursor.drop (2 + width))
                | none => .error malformed
            | none, none =>
                if isBreak e then do
                  let (_, others, after) ← lineEnd cursor.next
                  return (some others, after)
                else .error malformed
      else if endsWord (some c) then do
        let (blanks, later) := cursor.span fun c => c = ' ' || c = '\t'
        match later.peek with
        | none => throw malformed
        | some c =>
            if isBreak c then
              let (first, others, after) ← lineEnd later
              return (some (folded first others), after)
            else return (some blanks, later)
      else .ok (some [c], cursor.next)

def readFrom (mark : Char) (cursor : Cursor) : Nat → Fallible (List Char × Cursor)
  | 0 => .error malformed
  | fuel + 1 => do
      match ← piece? mark cursor with
      | (none, after) => return ([], after)
      | (some front, after) =>
          let (more, after) ← readFrom mark after fuel
          return (front ++ more, after)

def read (cursor : Cursor) : Fallible (List Char × Cursor) :=
  match cursor.rest with
  | mark :: _ => readFrom mark cursor.next cursor.rest.length
  | [] => .error malformed

end StepGraph.Yaml.Quoted
