import DealWatch.Yaml.Graph
import DealWatch.Yaml.Scalar

/-!
# Values of YAML documents

The value of a node is built from those of its parts. A collection is built after all that are named
before it, so that it can stand inside of itself; the values of scalars are known at once.

* `Yaml.Part` is the value of a node, which refers to the nodes of its own parts;
* `Graph.parts` are the values of all nodes of a document, `Graph.toDatum` is the value of its root;
* `Yaml.read` is the value of a text.
-/

namespace DealWatch

namespace Yaml

/-- The value of a node. -/
inductive Part where
  | scalar (s : Scalar)
  | list (items : List NodeId)
  | dict (entries : List (Scalar × NodeId))
  | set (members : List Scalar)
  | pairs (entries : List NodePair)
  deriving DecidableEq, Repr, Inhabited

/-- The values so far. -/
structure Builder where
  nodes : NodeTable
  parts : Array (Option Part)
  /-- The collections that are still to be built, the latest first. -/
  waiting : List NodeId
  deriving Inhabited

/-- A step of building values. -/
abbrev Build := StateT Builder Outcome

namespace Builder

/-- The value of a node, if it is known. -/
def part? (s : Builder) (id : NodeId) : Option Part := s.parts.getD id none

/-- The node with a number. -/
def node (id : NodeId) : Build Node := do return (← get).nodes.node id

/-- Sets the value of a node. -/
def put (id : NodeId) (part : Part) : Build Unit :=
  modify fun s => { s with parts := s.parts.setIfInBounds id (some part) }

/-- The text of a scalar, or of the default value of a mapping. -/
def textOf (t : NodeTable) : Nat → NodeId → Outcome Text
  | 0, _ => .error .endless
  | fuel + 1, id =>
    match t.node id with
    | .scalar _ text => .ok text
    | .sequence _ _ => .error .badYaml
    | .mapping _ entries =>
      match entries.find? fun (k, _) => t.tag k == .value with
      | some (_, v) => textOf t fuel v
      | none => .error .badYaml

/-- The value of a node that is read as a scalar. A point in time is written by a scalar only. -/
def scalarOf (t : NodeTable) (id : NodeId) : Outcome Scalar := do
  let tag := t.tag id
  if tag == .merge || tag == .value || tag == .unknown then .error .badYaml
  else
    let text ← textOf t (t.size + 1) id
    match t.node id, tag with
    | .mapping _ _, .time => .error (.wrongKind "a point in time is no text")
    | _, _ => scalarValue tag text

/-- Makes sure that a node has a value; that of a collection is empty as yet. -/
def start (id : NodeId) : Build Unit := do
  let s ← get
  if (s.part? id).isNone then
    if (s.nodes.tag id).isCollection then
      put id (.list [])
      modify fun s => { s with waiting := id :: s.waiting }
    else put id (.scalar (← (scalarOf s.nodes id : Outcome Scalar)))

/-- The key that a node writes, which must be a scalar. -/
def keyOf (id : NodeId) : Build Scalar := do
  start id
  match (← get).part? id with
  | some (.scalar s) => return s
  | _ => throw .badYaml

/-- The items of a sequence. -/
def itemsOf (id : NodeId) : Build (List NodeId) := do
  match ← node id with
  | .sequence _ items => return items
  | _ => throw .badYaml

/-- The entries of a mapping with those that are merged into it. -/
def entriesOf (id : NodeId) : Build (List (Scalar × NodeId)) := do
  let ((), nodes) ← (NodeTable.flatten id).run (← get).nodes
  modify fun s => { s with nodes }
  let entries ← (← node id).entries.mapM fun (k, v) => do
    let key ← keyOf k
    start v
    return (key, v)
  return entries.foldl (fun out (k, v) => Entries.put k v out) []

/-- The single entry of a mapping. -/
def pairOf (id : NodeId) : Build NodePair := do
  match ← node id with
  | .mapping _ [(k, v)] =>
    start k
    start v
    return (k, v)
  | _ => throw .badYaml

/-- Builds a collection. -/
def finish (id : NodeId) : Build Unit := do
  match (← node id).tag with
  | .mapping => put id (.dict (← entriesOf id))
  | .set => put id (.set ((← entriesOf id).map (·.1)))
  | .sequence =>
    let items ← itemsOf id
    items.forM start
    put id (.list items)
  | _ => put id (.pairs (← (← itemsOf id).mapM pairOf))

/-- Builds the collections that wait, and then those that came to wait meanwhile. Each waits
once. -/
def finishAll : Nat → Build Unit
  | 0 => return
  | fuel + 1 => do
    let ids := (← get).waiting.reverse
    unless ids.isEmpty do
      modify fun s => { s with waiting := [] }
      ids.forM finish
      finishAll fuel

end Builder

/-- The value of a node with those of its parts. A way through more parts than there are nodes goes
on forever. -/
def Part.toDatum (parts : Array (Option Part)) : Nat → NodeId → Outcome Datum
  | 0, _ => .error .endless
  | fuel + 1, id => do
    match (parts.getD id none).getD (.list []) with
    | .scalar s => return .scalar s
    | .list items => return .list (← items.mapM fun i => toDatum parts fuel i)
    | .dict entries =>
      return .dict (← entries.mapM fun (k, i) => do return (k, ← toDatum parts fuel i))
    | .set members => return .set members
    | .pairs entries =>
      return .list (← entries.mapM fun (k, v) => do
        return .pair (← toDatum parts fuel k) (← toDatum parts fuel v))

namespace Graph

/-- The values of the nodes of a document. -/
def parts (g : Graph) : Outcome (Array (Option Part)) := do
  let size := g.nodes.size
  let step : Build Unit := do
    Builder.start g.root
    Builder.finishAll (size + 1)
  let ((), s) ← step.run ⟨g.nodes, Array.replicate size none, []⟩
  return s.parts

/-- The value of the root of a document. -/
def toDatum (g : Graph) : Outcome Datum := do
  Part.toDatum (← g.parts) (g.nodes.size + 1) g.root

end Graph

/-- The value of the document that a text holds, in which all lines end in a line feed. A text
without a document holds null. -/
def read (cs : List Char) : Outcome Datum := do
  match ← Graph.ofTokens (← tokens cs) with
  | none => return .null
  | some g => g.toDatum

end Yaml

end DealWatch
