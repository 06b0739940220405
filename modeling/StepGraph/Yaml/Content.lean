import StepGraph.Yaml.Document
import StepGraph.Yaml.Merge
import StepGraph.Yaml.Scalar.Number
import StepGraph.Text.Base64
import StepGraph.Settings.Datum

namespace StepGraph.Yaml

/-- What a node stands for. -/
inductive Part where
  | plain (value : Value)
  | bytes (content : List UInt8)
  | date
  | items (count : Nat)
  /-- The entries whose keys are texts, the latest first, and whether those are all. -/
  | record (entries : List (String × NodeId)) (complete : Bool)
deriving Inhabited

def Part.isKey : Part → Bool
  | .items _ => false
  | .record _ _ => false
  | _ => true

/-- What is known of a document so far, and the collections whose members were not looked at yet,
the latest first. -/
structure Survey where
  graph : Graph
  parts : Array (Option Part)
  waiting : List NodeId := []

abbrev Surveying := StateT Survey Fallible

namespace Surveying

/-! ### Scalars -/

def textWithin (graph : Graph) : Nat → NodeId → Fallible String
  | 0, _ => .error Reading.tooDeep
  | fuel + 1, id =>
      match graph.content? id with
      | some (.scalar text) => .ok text
      | some (.mapping pairs) =>
          match pairs.find? fun pair => graph.tagOf pair.1 = .value with
          | some (_, value) => textWithin graph fuel value
          | none => .error malformed
      | _ => .error malformed

def textOf (graph : Graph) (id : NodeId) : Fallible String :=
  textWithin graph (graph.size + 1) id

def truthWords : List (String × Bool) :=
  [("yes", true), ("no", false), ("true", true), ("false", false), ("on", true), ("off", false)]

def truth (text : String) : Fallible Bool :=
  match truthWords.lookup text.lowered with
  | some b => .ok b
  | none => .error (.missingKey text.lowered)

/-- A point in time; only the node's own text counts. -/
def timestamp (graph : Graph) (id : NodeId) : Fallible Part := do
  let _ ← textOf graph id
  match graph.content? id with
  | some (.scalar text) =>
      match Timestamp.read? (Meaning.withoutLineFeed text.toList) with
      | none => throw (.fault .attribute "not a timestamp")
      | some stamp =>
          match stamp.fault? with
          | some fault => throw (.fault .value fault)
          | none => return .date
  | _ => throw (.fault .type "not a text")

def bytes (text : String) : Fallible (List UInt8) :=
  if !text.toList.all (·.toNat < 128) then .error malformed
  else
    match Text.Base64.decode? text.toList with
    | some content => .ok content
    | none => .error malformed

/-- What a node stands for; of a collection, only that it is one. -/
def partOf (graph : Graph) (id : NodeId) : Fallible Part := do
  match graph.tagOf id with
  | .null =>
      let _ ← textOf graph id
      return .plain .null
  | .bool => return .plain (.bool (← truth (← textOf graph id)))
  | .int => return .plain (.int (← Number.whole (← textOf graph id)))
  | .float => return .plain (.float (← Number.double (← textOf graph id)))
  | .text => return .plain (.text (← textOf graph id))
  | .bytes => return .bytes (← bytes (← textOf graph id))
  | .timestamp => timestamp graph id
  | .sequence | .set | .entries => return .items 0
  | .mapping => return .record [] true
  | .merge | .value | .unknown => throw malformed

/-! ### Collections -/

/-- Looks at a node unless that was done. -/
def visit (id : NodeId) : Surveying Part := do
  let survey ← get
  match survey.parts[id]?.join with
  | some part => return part
  | none =>
      let part ← partOf survey.graph id
      let waiting := if part.isKey then survey.waiting else id :: survey.waiting
      set { survey with parts := survey.parts.setIfInBounds id (some part), waiting }
      return part

/-- Looks at the keys and values of a mapping; collections are no keys. -/
def visitPairs (entries : List (String × NodeId)) (complete : Bool) : List Pair → Surveying Part
  | [] => return .record entries complete
  | (key, value) :: rest => do
      let name ← visit key
      if !name.isKey then throw malformed
      let _ ← visit value
      match name with
      | .plain (.text name) => visitPairs ((name, value) :: entries) complete rest
      | _ => visitPairs entries false rest

def visitItems (items : List NodeId) : Surveying Part := do
  items.forM fun item => discard (visit item)
  return .items items.length

/-- Looks at mappings of one entry each. -/
def visitEntries (items : List NodeId) : Surveying Part := do
  items.forM fun item => do
    match (← get).graph.pairs? item with
    | some [(key, value)] =>
        let _ ← visit key
        discard (visit value)
    | _ => throw malformed
  return .items items.length

/-- The entries of a mapping, those taken in from others among them. -/
def pairsOf (id : NodeId) : Surveying (List Pair) := do
  let survey ← get
  if (survey.graph.pairs? id).isNone then throw malformed
  let graph ← survey.graph.flatten id
  set { survey with graph }
  return (graph.pairs? id).getD []

def itemsOf (id : NodeId) : Surveying (List NodeId) := do
  match (← get).graph.items? id with
  | some items => return items
  | none => throw malformed

def visitMembers (id : NodeId) : Surveying Unit := do
  let part ←
    match (← get).graph.tagOf id with
    | .mapping => visitPairs [] true (← pairsOf id)
    | .set => do
        let pairs ← pairsOf id
        let _ ← visitPairs [] true pairs
        pure (Part.items pairs.length)
    | .entries => visitEntries (← itemsOf id)
    | _ => visitItems (← itemsOf id)
  modify fun survey => { survey with parts := survey.parts.setIfInBounds id (some part) }

/-- Looks at the members of the collections given, then of those that are waiting. -/
def visitAll : Nat → List NodeId → Surveying Unit
  | 0, _ => return ()
  | fuel + 1, id :: rest => do
      visitMembers id
      visitAll fuel rest
  | fuel + 1, [] => do
      let survey ← get
      if !survey.waiting.isEmpty then
        set { survey with waiting := [] }
        visitAll fuel survey.waiting.reverse

end Surveying

/-- What stands at a node, as far as settings look into it. -/
def datumWithin (parts : Array (Option Part)) : Nat → NodeId → Datum
  | depth, id =>
      match parts[id]?.join, depth with
      | some (.plain value), _ => .plain value
      | some (.bytes content), _ => .bytes content
      | some .date, _ => .date
      | some (.items count), _ => .items count
      | some (.record _ _), 0 => .record [] true
      | some (.record entries complete), depth + 1 =>
          .record (entries.map fun (key, value) => (key, datumWithin parts depth value)) complete
      | none, _ => .plain .null

def read (text : String) : Fallible Datum := do
  match ← Graph.ofText text with
  | (_, none) => return .plain .null
  | (graph, some root) =>
      let survey : Survey := { graph, parts := Array.replicate graph.size none }
      let (_, survey) ← (do
        let _ ← Surveying.visit root
        Surveying.visitAll (2 * graph.size + 2) []).run survey
      return datumWithin survey.parts Datum.reach root

end StepGraph.Yaml
