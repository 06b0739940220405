import StepGraph.Graph.Builder

namespace StepGraph.Plan

def malformed (piece : String) : Failure :=
  .fault .value s!"not a {piece}"

def textOf (piece : String) : Value → Fallible String
  | .text s => .ok s
  | _ => .error (malformed piece)

/-- A family with all its names. A name whose value came up before stands for the earlier member. -/
structure NamedFamily where
  family : Family
  names : List (String × Value)

namespace NamedFamily

def add (named : NamedFamily) (name : String) (value : Value) : NamedFamily :=
  match named.family.members.find? fun member => member.2.alike value with
  | some member => { named with names := named.names ++ [(name, member.2)] }
  | none =>
      let family := { named.family with members := named.family.members ++ [(name, value)] }
      { family, names := named.names ++ [(name, value)] }

end NamedFamily

def memberValue (base : String) (value : Value) : Value :=
  match base with
  | "str" => .text value.plain
  | "int" => (value.whole?.map .int).getD value
  | _ => value

def readMembers (base : String) (named : NamedFamily) : List Value → Fallible NamedFamily
  | [] => .ok named
  | .list [.text name, value] :: rest =>
      readMembers base (named.add name (memberValue base value)) rest
  | _ => .error (malformed "member")

def readFamily (entry : String × Value) : Fallible NamedFamily := do
  let base ← textOf "base" (entry.2.getD "base" (.text "str"))
  readMembers base ⟨⟨entry.1, []⟩, []⟩ (entry.2.getD "members" .null).items

def readFamilies (families : Value) : Fallible (List NamedFamily) :=
  families.entries.mapM readFamily

def family? (families : List NamedFamily) (name : String) : Option NamedFamily :=
  families.find? (·.family.name == name)

def readLabel (families : List NamedFamily) (value : Value) : Fallible Label :=
  match value.get? "$enum" with
  | some (.list [.text name, .text member]) =>
      match family? families name with
      | none => .error (.missingKey name)
      | some named =>
          match named.names.lookup member with
          | some value => .ok (.member named.family value)
          | none => .error (.missingKey member)
  | _ => .ok (.plain value)

def readClosing (families : List NamedFamily) (value : Value) : Fallible (Option Closing) :=
  match value with
  | .null => .ok none
  | value =>
      match value.get? "$enum_type" with
      | some (.text name) =>
          match family? families name with
          | some named => .ok (some (.family named.family))
          | none => .error (.missingKey name)
      | _ => do
          let items ← value.itemsOf
          return some (.listed (← items.mapM (readLabel families)))

end StepGraph.Plan
