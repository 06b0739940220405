import StepGraph.Yaml.Graph

namespace StepGraph.Yaml.Graph

/-- The entries of the mapping or the mappings that are taken in. Of several the first goes before
the others, so its entries stand last. -/
def takenIn (flatten : NodeId → Graph → Fallible Graph) (value : NodeId) (graph : Graph) :
    Fallible (List Pair × Graph) := do
  match graph.content? value with
  | some (.mapping _) =>
      let graph ← flatten value graph
      return ((graph.pairs? value).getD [], graph)
  | some (.sequence items) => fromAll items graph
  | _ => throw malformed
where
  fromAll : List NodeId → Graph → Fallible (List Pair × Graph)
    | [], graph => .ok ([], graph)
    | item :: rest, graph => do
        if (graph.pairs? item).isNone then throw malformed
        let graph ← flatten item graph
        let own := (graph.pairs? item).getD []
        let (others, graph) ← fromAll rest graph
        return (others ++ own, graph)

/-- Goes over the entries of a mapping. Those that take in others are removed; their entries are
collected. If the mapping has changed on the way, then because it takes in itself, and all of it has
been gone over. -/
def collect (flatten : NodeId → Graph → Fallible Graph) (id : NodeId) (before merged : List Pair) :
    List Pair → Graph → Fallible (List Pair × Graph)
  | [], graph => .ok (merged, graph)
  | (key, value) :: rest, graph => do
      match graph.tagOf key with
      | .merge =>
          let left := before ++ rest
          let (taken, graph) ← takenIn flatten value (graph.setContent id (.mapping left))
          if graph.pairs? id = some left then
            collect flatten id before (merged ++ taken) rest graph
          else return (merged ++ taken, graph)
      | .value =>
          collect flatten id (before ++ [(key, value)]) merged rest (graph.setTag key .text)
      | _ => collect flatten id (before ++ [(key, value)]) merged rest graph

/-- Takes the entries of other mappings into a mapping. -/
def flattenFrom : Nat → NodeId → Graph → Fallible Graph
  | 0, _, _ => .error malformed
  | fuel + 1, id, graph => do
      match graph.pairs? id with
      | none => return graph
      | some pairs =>
          let (merged, graph) ← collect (flattenFrom fuel) id [] [] pairs graph
          if merged.isEmpty then return graph
          else return graph.setContent id (.mapping (merged ++ (graph.pairs? id).getD []))

def flatten (id : NodeId) (graph : Graph) : Fallible Graph :=
  flattenFrom (graph.pairCount + 1) id graph

end StepGraph.Yaml.Graph
