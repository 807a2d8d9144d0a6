import DealWatch.Yaml.Tag

/-!
# Nodes of YAML

A node can be given a name and stand in several places, also inside of itself. So nodes are kept in
a table and refer to each other by number.

* `Yaml.Node` is a node with its kind, `Yaml.NodeTable` a table of nodes;
* `NodeTable.flatten` puts the entries that are merged into a mapping before its own ones.
-/

namespace DealWatch

namespace Yaml

/-- The number of a node. -/
abbrev NodeId := Nat

/-- The key and the value of an entry of a mapping. -/
abbrev NodePair := NodeId × NodeId

/-- A node. -/
inductive Node where
  | scalar (tag : Tag) (text : Text)
  | sequence (tag : Tag) (items : List NodeId)
  | mapping (tag : Tag) (entries : List NodePair)
  deriving DecidableEq, Repr, Inhabited

namespace Node

/-- The scalar that is left out. -/
def absent : Node := .scalar .null (.whole "")

/-- The kind of a node. -/
def tag : Node → Tag
  | .scalar t _ => t
  | .sequence t _ => t
  | .mapping t _ => t

/-- A node with another kind. -/
def withTag (t : Tag) : Node → Node
  | .scalar _ text => .scalar t text
  | .sequence _ items => .sequence t items
  | .mapping _ entries => .mapping t entries

/-- The entries of a mapping; no other node has any. -/
def entries : Node → List NodePair
  | .mapping _ es => es
  | _ => []

/-- The number of parts of a node. -/
def size : Node → Nat
  | .scalar _ _ => 0
  | .sequence _ items => items.length
  | .mapping _ entries => entries.length

end Node

/-- Nodes by their numbers. -/
abbrev NodeTable := Array Node

namespace NodeTable

/-- The node with a number. -/
def node (t : NodeTable) (id : NodeId) : Node := t.getD id .absent

/-- The kind of the node with a number. -/
def tag (t : NodeTable) (id : NodeId) : Tag := (t.node id).tag

/-- A table with another node for a number. -/
def put (t : NodeTable) (id : NodeId) (n : Node) : NodeTable := t.setIfInBounds id n

/-! ### Merged mappings -/

/-- A step that changes a table. -/
abbrev Change := StateT NodeTable Outcome

/-- The entries before the first one with the key for merging, the value of that one, and the
entries after it. -/
def firstMerge? (t : NodeTable) :
    List NodePair → Option (List NodePair × NodeId × List NodePair)
  | [] => none
  | (k, v) :: rest =>
    if t.tag k == .merge then some ([], v, rest)
    else (t.firstMerge? rest).map fun (before, value, after) => ((k, v) :: before, value, after)

/-- A table in which the keys of some entries that stand for a default value are texts. -/
def plainKeys (t : NodeTable) (es : List NodePair) : NodeTable :=
  es.foldl (fun t (k, _) =>
    if t.tag k == .value then t.put k ((t.node k).withTag .text) else t) t

/-- Puts some entries before those of a mapping, and before them the entries of the mappings that
are merged into it. Of a sequence of mappings the first one comes last. -/
def flattenBelow : Nat → NodeId → List NodePair → Change Unit
  | 0, _, _ => throw .endless
  | fuel + 1, id, merged => do
    let t ← get
    match t.node id with
    | .mapping tag es =>
      match t.firstMerge? es with
      | none => set ((t.put id (.mapping tag (merged ++ es))).plainKeys es)
      | some (before, value, after) =>
        set (t.put id (.mapping tag (before ++ after)))
        match t.node value with
        | .mapping _ _ =>
          flattenBelow fuel value []
          flattenBelow fuel id (merged ++ ((← get).node value).entries)
        | .sequence _ items =>
          let lists ← items.mapM fun item => do
            flattenBelow fuel item []
            return ((← get).node item).entries
          flattenBelow fuel id (merged ++ lists.reverse.flatten)
        | .scalar _ _ => throw .badYaml
    | _ => throw .badYaml

/-- Puts the entries that are merged into a mapping before its own ones. Each step takes one entry
with the key for merging away, so their number bounds the steps that follow from each other. -/
def flatten (id : NodeId) : Change Unit := do
  flattenBelow ((← get).foldl (fun n node => n + node.entries.length) 1) id []

end NodeTable

end Yaml

end DealWatch
