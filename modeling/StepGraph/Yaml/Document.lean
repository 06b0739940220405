import StepGraph.Yaml.Layout
import StepGraph.Yaml.Graph
import StepGraph.Yaml.Scalar.Meaning
import StepGraph.Yaml.Scalar.Timestamp

namespace StepGraph.Yaml

/-- How far reading has come, what was found, and the names given to nodes. -/
structure Progress where
  layout : Layout
  graph : Graph := {}
  anchors : List (String × NodeId) := []
  handles : List (String × String) := Tag.usualHandles
deriving Inhabited

abbrev Reading := StateT Progress Fallible

namespace Reading

def peek : Reading Token := do
  let progress ← get
  let (token, layout) ← progress.layout.peek
  set { progress with layout }
  return token

def drop : Reading Unit :=
  modify fun progress => { progress with layout := progress.layout.drop }

def take? (token : Token) : Reading Bool := do
  if (← peek) = token then
    drop
    return true
  else return false

def expect (token : Token) : Reading Unit := do
  if !(← take? token) then throw malformed

def add (node : Node) : Reading NodeId := do
  let progress ← get
  let (id, graph) := progress.graph.add node
  set { progress with graph }
  return id

def setContent (id : NodeId) (content : Content) : Reading Unit :=
  modify fun progress => { progress with graph := progress.graph.setContent id content }

def nothing : Reading NodeId :=
  add ⟨.null, .scalar ""⟩

/-! ### Names -/

/-- The anchor and the tag in front of a node. -/
structure Properties where
  anchor : Option String := none
  tag : Option Tag.Shorthand := none

/-- An anchor and a tag, in either order. -/
def properties : Reading Properties := do
  match ← peek with
  | .anchor name =>
      drop
      match ← peek with
      | .tag shorthand =>
          drop
          return ⟨some name, some shorthand⟩
      | _ => return ⟨some name, none⟩
  | .tag shorthand =>
      drop
      match ← peek with
      | .anchor name =>
          drop
          return ⟨some name, some shorthand⟩
      | _ => return ⟨none, some shorthand⟩
  | _ => return {}

def resolve (shorthand : Tag.Shorthand) : Reading String := do
  match shorthand.uri? (← get).handles with
  | some uri => return uri
  | none => throw malformed

def name (anchor : Option String) (node : Node) : Reading NodeId := do
  match anchor with
  | none => add node
  | some name =>
      if ((← get).anchors.lookup name).isSome then throw malformed
      let id ← add node
      modify fun progress => { progress with anchors := (name, id) :: progress.anchors }
      return id

def named (name : String) : Reading NodeId := do
  match (← get).anchors.lookup name with
  | some id => return id
  | none => throw malformed

/-- The tag that was written, unless that says nothing. -/
def specific (uri : Option String) : Option Tag :=
  (uri.filter (· != Tag.unspecific)).map Tag.ofUri

def scalarTag (uri : Option String) (text : String) (isWord : Bool) : Tag :=
  match specific uri with
  | some tag => tag
  | none => if isWord || uri.isSome then Meaning.tagOf Timestamp.isWord text else .text

/-! ### Nodes -/

def deepest : Nat := 480

def tooDeep : Failure :=
  .fault .recursion "maximum recursion depth exceeded"

/-- Which collections may begin at a place: any but those told by columns only; also those; and, for
the value of a key, also a sequence at the column of the key. -/
inductive Room where
  | flow
  | block
  | entry
deriving DecidableEq

/-- Whether a token can be no node behind the mark of an item, of a key or of a value, so that the
node is left out. -/
def endsItem (token : Token) : Bool :=
  token = .item || token = .blockEnd

def endsLevelItem (token : Token) : Bool :=
  token = .item || token = .key || token = .value || token = .blockEnd

def endsEntry (token : Token) : Bool :=
  token = .key || token = .value || token = .blockEnd

def endsFlowKey (close token : Token) : Bool :=
  token = .value || token = .flowEntry || token = close

def endsFlowValue (close token : Token) : Bool :=
  token = .flowEntry || token = close

mutual

def node : Nat → Nat → Room → Reading NodeId
  | 0, _, _ => throw malformed
  | fuel + 1, level, room => do
      match ← peek with
      | .alias name =>
          drop
          named name
      | _ =>
          let properties ← properties
          let uri ← properties.tag.mapM resolve
          let start (tag : Tag) (content : Content) : Reading NodeId := do
            if deepest < level then throw tooDeep
            name properties.anchor ⟨(specific uri).getD tag, content⟩
          let token ← peek
          match token, room with
          | .item, .entry =>
              let id ← start .sequence (.sequence [])
              setContent id (.sequence (← blockItems fuel (level + 1) endsLevelItem))
              return id
          | .scalar text isWord, _ =>
              drop
              name properties.anchor ⟨scalarTag uri text isWord, .scalar text⟩
          | .flowSequence, _ =>
              let id ← start .sequence (.sequence [])
              drop
              setContent id (.sequence (← flowItems fuel (level + 1) true))
              return id
          | .flowMapping, _ =>
              let id ← start .mapping (.mapping [])
              drop
              setContent id (.mapping (← flowPairs fuel (level + 1) true))
              return id
          | token, room =>
              if token = .blockSequence && room != .flow then
                let id ← start .sequence (.sequence [])
                drop
                let items ← blockItems fuel (level + 1) endsItem
                expect .blockEnd
                setContent id (.sequence items)
                return id
              else if token = .blockMapping && room != .flow then
                let id ← start .mapping (.mapping [])
                drop
                setContent id (.mapping (← blockPairs fuel (level + 1)))
                return id
              else if properties.anchor.isSome || uri.isSome then
                name properties.anchor ⟨scalarTag uri "" true, .scalar ""⟩
              else throw malformed

def nodeOr (ends : Token → Bool) : Nat → Nat → Room → Reading NodeId
  | 0, _, _ => throw malformed
  | fuel + 1, level, room => do
      if ends (← peek) then nothing else node fuel level room

def valueOr (ends : Token → Bool) : Nat → Nat → Room → Reading NodeId
  | 0, _, _ => throw malformed
  | fuel + 1, level, room => do
      if ← take? .value then nodeOr ends fuel level room else nothing

def blockItems : Nat → Nat → (Token → Bool) → Reading (List NodeId)
  | 0, _, _ => throw malformed
  | fuel + 1, level, ends => do
      if ← take? .item then
        let item ← nodeOr ends fuel level .block
        return item :: (← blockItems fuel level ends)
      else return []

def blockPairs : Nat → Nat → Reading (List Pair)
  | 0, _ => throw malformed
  | fuel + 1, level => do
      if ← take? .key then
        let key ← nodeOr endsEntry fuel level .entry
        let value ← valueOr endsEntry fuel level .entry
        return (key, value) :: (← blockPairs fuel level)
      else
        expect .blockEnd
        return []

def flowItems : Nat → Nat → Bool → Reading (List NodeId)
  | 0, _, _ => throw malformed
  | fuel + 1, level, first => do
      if ← take? .flowSequenceEnd then return []
      if !first then expect .flowEntry
      if ← take? .flowSequenceEnd then return []
      let item ←
        if ← take? .key then do
          let key ← nodeOr (endsFlowKey .flowSequenceEnd) fuel (level + 1) .flow
          let value ← valueOr (endsFlowValue .flowSequenceEnd) fuel (level + 1) .flow
          add ⟨.mapping, .mapping [(key, value)]⟩
        else node fuel level .flow
      return item :: (← flowItems fuel level false)

/-- Entries between braces; a key without a colon has no value. -/
def flowPairs : Nat → Nat → Bool → Reading (List Pair)
  | 0, _, _ => throw malformed
  | fuel + 1, level, first => do
      if ← take? .flowMappingEnd then return []
      if !first then expect .flowEntry
      if ← take? .flowMappingEnd then return []
      let pair ←
        if ← take? .key then do
          let key ← nodeOr (endsFlowKey .flowMappingEnd) fuel level .flow
          pure (key, ← valueOr (endsFlowValue .flowMappingEnd) fuel level .flow)
        else do
          let key ← node fuel level .flow
          pure (key, ← nothing)
      return pair :: (← flowPairs fuel level false)

end

/-! ### Documents -/

def directives (versioned : Bool) (handles : List (String × String)) :
    Nat → Reading (List (String × String))
  | 0 => throw malformed
  | fuel + 1 => do
      match ← peek with
      | .directive (.version major) =>
          drop
          if versioned || major != 1 then throw malformed
          directives true handles fuel
      | .directive (.handle handle replacement) =>
          drop
          if (handles.lookup handle).isSome then throw malformed
          directives versioned ((handle, replacement) :: handles) fuel
      | .directive .other =>
          drop
          directives versioned handles fuel
      | _ => return handles ++ Tag.usualHandles

def skipEnds : Nat → Reading Unit
  | 0 => return ()
  | fuel + 1 => do
      if ← take? .documentEnd then skipEnds fuel

def isDirective : Token → Bool
  | .directive _ => true
  | _ => false

def content (budget : Nat) : Reading NodeId := do
  let token ← peek
  if isDirective token || token = .documentStart || token = .documentEnd || token = .textEnd then
    nothing
  else node budget 0 .block

def single (budget : Nat) : Reading (Option NodeId) := do
  let token ← peek
  if token = .textEnd then return none
  let root ←
    if isDirective token || token = .documentStart then do
      let handles ← directives false [] budget
      modify fun progress => { progress with handles }
      expect .documentStart
      content budget
    else node budget 0 .block
  skipEnds budget
  if (← peek) = .textEnd then return some root
  else
    let _ ← directives false [] budget
    let _ ← peek
    throw malformed

end Reading

def Graph.ofText (text : String) : Fallible (Graph × Option NodeId) := do
  let chars := unified text.toList
  if !chars.all isAllowed then throw malformed
  let budget := 8 * chars.length + 64
  let (root, progress) ← (Reading.single budget).run { layout := .ofText chars }
  return (progress.graph, root)

end StepGraph.Yaml
