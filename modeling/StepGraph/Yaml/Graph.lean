import StepGraph.Yaml.Tag

namespace StepGraph.Yaml

abbrev NodeId := Nat

abbrev Pair := NodeId × NodeId

inductive Content where
  | scalar (text : String)
  | sequence (items : List NodeId)
  | mapping (pairs : List Pair)
deriving Repr, DecidableEq, Inhabited

structure Node where
  tag : Tag
  content : Content
deriving Repr, DecidableEq, Inhabited

structure Graph where
  nodes : Array Node := #[]
deriving Repr, Inhabited

namespace Graph

def size (graph : Graph) : Nat :=
  graph.nodes.size

def add (graph : Graph) (node : Node) : NodeId × Graph :=
  (graph.nodes.size, ⟨graph.nodes.push node⟩)

def node? (graph : Graph) (id : NodeId) : Option Node :=
  graph.nodes[id]?

def tagOf (graph : Graph) (id : NodeId) : Tag :=
  ((graph.node? id).map (·.tag)).getD .unknown

def content? (graph : Graph) (id : NodeId) : Option Content :=
  (graph.node? id).map fun node => node.content

def pairs? (graph : Graph) (id : NodeId) : Option (List Pair) :=
  match graph.node? id with
  | some ⟨_, .mapping pairs⟩ => some pairs
  | _ => none

def items? (graph : Graph) (id : NodeId) : Option (List NodeId) :=
  match graph.node? id with
  | some ⟨_, .sequence items⟩ => some items
  | _ => none

def setContent (graph : Graph) (id : NodeId) (content : Content) : Graph :=
  ⟨graph.nodes.modify id fun node => { node with content }⟩

def setTag (graph : Graph) (id : NodeId) (tag : Tag) : Graph :=
  ⟨graph.nodes.modify id fun node => { node with tag }⟩

def pairCount (graph : Graph) : Nat :=
  graph.nodes.foldl (fun count node =>
    match node.content with
    | .mapping pairs => count + pairs.length
    | _ => count) 0

end Graph

end StepGraph.Yaml
