import DealWatch.Yaml.Layout
import DealWatch.Yaml.Node

/-!
# Documents of YAML

The tokens of a text form nodes that refer to each other.

* `Yaml.Graph` is a document: its nodes and which of them is its root;
* `Graph.ofTokens` is the one document that tokens hold, or nothing if they hold none.
-/

namespace DealWatch

namespace Yaml

/-- The nodes of a document. -/
structure Graph where
  nodes : NodeTable
  root : NodeId
  deriving Repr, Inhabited

/-- What is left of the tokens, the abbreviations for tags, the named nodes, and all nodes so far.
A collection is in the table before its parts are. -/
structure Composer where
  tokens : Tokens
  handles : List (String × String)
  anchors : List (String × NodeId)
  nodes : NodeTable
  deriving Inhabited

/-- A step of composing nodes. -/
abbrev Compose := StateT Composer Outcome

namespace Composer

/-- The abbreviations that are always there. -/
def standardHandles : List (String × String) := [("!", "!"), ("!!", tagStart)]

/-! ### Tokens -/

/-- The next token, or nothing at the end of the text. -/
def peek : Compose (Option Token) := do
  let s ← get
  match s.tokens.known, s.tokens.fault with
  | t :: _, _ => return some t
  | [], some f => throw f
  | [], none => return none

/-- Takes some tokens. -/
def skip (count : Nat) : Compose Unit :=
  modify fun s => { s with tokens := { s.tokens with known := s.tokens.known.drop count } }

/-- Whether the next token is one of some, which is false at the end. -/
def nextIs (ts : List Token) : Compose Bool := do
  return ((← peek).map ts.contains).getD false

/-- Takes a token that must come next. -/
def expect (t : Token) : Compose Unit := do
  if ← nextIs [t] then skip 1 else throw .badYaml

/-! ### Properties of nodes -/

/-- The name before a node. -/
def takeAnchor : Compose (Option String) := do
  match ← peek with
  | some (.anchor name) =>
    skip 1
    return some name
  | _ => return none

/-- The tag before a node, as it is written. -/
def takeTag : Compose (Option (Option String × String)) := do
  match ← peek with
  | some (.tag handle suffix) =>
    skip 1
    return some (handle, suffix)
  | _ => return none

/-- A tag in full. -/
def fullTag : Option String × String → Compose String
  | (none, suffix) => return suffix
  | (some handle, suffix) => do
    match (← get).handles.lookup handle with
    | some start => return start ++ suffix
    | none => throw .badYaml

/-- The name and the tag before a node, in either order. -/
def takeProperties : Compose (Option String × Option String) := do
  let before ← takeTag
  let name ← takeAnchor
  let tag ← if before.isNone && name.isSome then takeTag else pure before
  match tag with
  | some tag => return (name, some (← fullTag tag))
  | none => return (name, none)

/-- The kind of a collection. -/
def collectionTag (tag : Option String) (standard : Tag) : Tag :=
  match tag with
  | none => standard
  | some "!" => standard
  | some s => .ofText s

/-- The kind of a scalar. -/
def scalarTag (tag : Option String) (plain : Bool) (text : Text) : Tag :=
  match tag, text with
  | some "!", .whole s => spelledTag s
  | some "!", .halved _ => .text
  | some s, _ => .ofText s
  | none, .whole s => if plain then plainTag s else .text
  | none, .halved _ => .text

/-! ### Nodes in the table -/

/-- Adds a node without a name. -/
def add (n : Node) : Compose NodeId := do
  let id := (← get).nodes.size
  modify fun s => { s with nodes := s.nodes.push n }
  return id

/-- Adds a node that may have a name, which must be new. -/
def define (name : Option String) (n : Node) : Compose NodeId := do
  match name with
  | none => add n
  | some name =>
    if ((← get).anchors.lookup name).isSome then throw .badYaml
    let id ← add n
    modify fun s => { s with anchors := (name, id) :: s.anchors }
    return id

/-- Puts a node into the place of another one. -/
def fill (id : NodeId) (n : Node) : Compose NodeId := do
  modify fun s => { s with nodes := s.nodes.put id n }
  return id

/-- The node with a name. -/
def aliased (name : String) : Compose NodeId := do
  match (← get).anchors.lookup name with
  | some id => return id
  | none => throw .badYaml

/-! ### Composition

Each function has a bound on the depth of its calls, and on the number of collections that may
still stand inside of each other. -/

/-- The most collections inside of each other. -/
def maxLevels : Nat := 485

/-- Where a node stands. -/
inductive Place where
  /-- Inside brackets. -/
  | flow
  | block
  /-- In a block mapping, where a sequence needs no further indentation. -/
  | blockEntry
  deriving DecidableEq, Repr, Inhabited

/-- Takes one level of collections away. -/
def below : Nat → Compose Nat
  | 0 => throw .endless
  | levels + 1 => return levels

mutual

/-- A node. -/
def node (place : Place) (levels : Nat) : Nat → Compose NodeId
  | 0 => throw .badYaml
  | fuel + 1 => do
    match ← peek with
    | some (.alias name) =>
      skip 1
      aliased name
    | _ =>
      let (name, tag) ← takeProperties
      content place levels name tag fuel
termination_by structural fuel => fuel

/-- A node with its properties, which may be left out after some. -/
def content (place : Place) (levels : Nat) (name tag : Option String) : Nat → Compose NodeId
  | 0 => throw .badYaml
  | fuel + 1 => do
    let list := Node.sequence (collectionTag tag .sequence)
    let dict := Node.mapping (collectionTag tag .mapping)
    match ← peek, place with
    | some .blockEntry, .blockEntry =>
      let id ← define name (list [])
      fill id (list (← looseItems (← below levels) fuel))
    | some (.scalar text plain), _ =>
      skip 1
      define name (.scalar (scalarTag tag plain text) text)
    | some .flowSequenceStart, _ =>
      skip 1
      let id ← define name (list [])
      fill id (list (← flowItems true (← below levels) fuel))
    | some .flowMappingStart, _ =>
      skip 1
      let id ← define name (dict [])
      fill id (dict (← flowEntries true (← below levels) fuel))
    | some .blockSequenceStart, .block | some .blockSequenceStart, .blockEntry =>
      skip 1
      let id ← define name (list [])
      fill id (list (← blockItems (← below levels) fuel))
    | some .blockMappingStart, .block | some .blockMappingStart, .blockEntry =>
      skip 1
      let id ← define name (dict [])
      fill id (dict (← blockEntries (← below levels) fuel))
    | _, _ =>
      if name.isSome || tag.isSome then
        define name (.scalar (scalarTag tag true (.whole "")) (.whole ""))
      else throw .badYaml
termination_by structural fuel => fuel

/-- A node that is left out before one of some tokens. -/
def optionalNode (place : Place) (ends : List Token) (levels : Nat) : Nat → Compose NodeId
  | 0 => throw .badYaml
  | fuel + 1 => do
    if ← nextIs ends then add .absent else node place levels fuel
termination_by structural fuel => fuel

/-- The items of a block sequence. -/
def blockItems (levels : Nat) : Nat → Compose (List NodeId)
  | 0 => throw .badYaml
  | fuel + 1 => do
    if ← nextIs [.blockEntry] then
      skip 1
      let item ← optionalNode .block [.blockEntry, .blockEnd] levels fuel
      return item :: (← blockItems levels fuel)
    else
      expect .blockEnd
      return []
termination_by structural fuel => fuel

/-- The items of a sequence without further indentation. -/
def looseItems (levels : Nat) : Nat → Compose (List NodeId)
  | 0 => throw .badYaml
  | fuel + 1 => do
    if ← nextIs [.blockEntry] then
      skip 1
      let item ← optionalNode .block [.blockEntry, .key, .value, .blockEnd] levels fuel
      return item :: (← looseItems levels fuel)
    else return []
termination_by structural fuel => fuel

/-- The value after a key, which may be left out. -/
def optionalValue (place : Place) (ends : List Token) (levels : Nat) : Nat → Compose NodeId
  | 0 => throw .badYaml
  | fuel + 1 => do
    if ← nextIs [.value] then
      skip 1
      optionalNode place ends levels fuel
    else add .absent
termination_by structural fuel => fuel

/-- The entries of a block mapping. -/
def blockEntries (levels : Nat) : Nat → Compose (List NodePair)
  | 0 => throw .badYaml
  | fuel + 1 => do
    if ← nextIs [.key] then
      skip 1
      let key ← optionalNode .blockEntry [.key, .value, .blockEnd] levels fuel
      let value ← optionalValue .blockEntry [.key, .value, .blockEnd] levels fuel
      return (key, value) :: (← blockEntries levels fuel)
    else
      expect .blockEnd
      return []
termination_by structural fuel => fuel

/-- The items of a sequence in brackets. An entry of a mapping may stand for a mapping of it. -/
def flowItems (first : Bool) (levels : Nat) : Nat → Compose (List NodeId)
  | 0 => throw .badYaml
  | fuel + 1 => do
    if ← nextIs [.flowSequenceEnd] then
      skip 1
      return []
    else
      unless first do expect .flowEntry
      if ← nextIs [.flowSequenceEnd] then
        skip 1
        return []
      else if ← nextIs [.key] then
        skip 1
        let inner ← below levels
        let key ← optionalNode .flow [.value, .flowEntry, .flowSequenceEnd] inner fuel
        let value ← optionalValue .flow [.flowEntry, .flowSequenceEnd] inner fuel
        let item ← add (.mapping .mapping [(key, value)])
        return item :: (← flowItems false levels fuel)
      else
        let item ← node .flow levels fuel
        return item :: (← flowItems false levels fuel)
termination_by structural fuel => fuel

/-- The entries of a mapping in brackets. -/
def flowEntries (first : Bool) (levels : Nat) : Nat → Compose (List NodePair)
  | 0 => throw .badYaml
  | fuel + 1 => do
    if ← nextIs [.flowMappingEnd] then
      skip 1
      return []
    else
      unless first do expect .flowEntry
      if ← nextIs [.flowMappingEnd] then
        skip 1
        return []
      else if ← nextIs [.key] then
        skip 1
        let key ← optionalNode .flow [.value, .flowEntry, .flowMappingEnd] levels fuel
        let value ← optionalValue .flow [.flowEntry, .flowMappingEnd] levels fuel
        return (key, value) :: (← flowEntries false levels fuel)
      else
        let key ← node .flow levels fuel
        let value ← add .absent
        return (key, value) :: (← flowEntries false levels fuel)
termination_by structural fuel => fuel

end

/-! ### Documents -/

/-- The abbreviations of directives. Each may be given once, and so may the version, which must be
a known one. -/
def handlesOf (hasVersion : Bool) (handles : List (String × String)) :
    List Directive → Outcome (List (String × String))
  | [] => .ok handles
  | .version major :: rest =>
    if hasVersion || major != 1 then .error .badYaml else handlesOf true handles rest
  | .tag handle start :: rest =>
    if (handles.lookup handle).isSome then .error .badYaml
    else handlesOf hasVersion (handles ++ [(handle, start)]) rest
  | .other :: rest => handlesOf hasVersion handles rest

/-- The directives at the start of some tokens. -/
def directives : List Token → List Directive
  | .directive d :: rest => d :: directives rest
  | _ => []

/-- Takes directives and the mark of the start of a document behind them. -/
def takeStart : Compose Unit := do
  let ds := directives (← get).tokens.known
  let handles ← (handlesOf false [] ds : Outcome _)
  skip ds.length
  modify fun s => { s with handles := handles ++ standardHandles }
  expect .documentStart

/-- Whether a document is over. -/
def isDocumentEnd : Option Token → Bool
  | none => true
  | some .documentStart => true
  | some .documentEnd => true
  | some (.directive _) => true
  | some _ => false

/-- The root of a document that may start with directives and a mark; nothing at the end of the
text. -/
def document : Compose (Option NodeId) := do
  let fuel := 4 * (← get).tokens.known.length + 4
  match ← peek with
  | none => return none
  | some .documentStart | some (.directive _) =>
    takeStart
    if isDocumentEnd (← peek) then return some (← add .absent)
    else return some (← node .block maxLevels fuel)
  | some _ => return some (← node .block maxLevels fuel)

/-- Fails unless only marks of the end of a document are left. -/
def finish : Compose Unit := do
  skip ((← get).tokens.known.takeWhile (· == .documentEnd)).length
  if (← peek).isSome then
    takeStart
    throw .badYaml

end Composer

/-- The document that some tokens hold. -/
def Graph.ofTokens (ts : Tokens) : Outcome (Option Graph) := do
  let step : Compose (Option NodeId) := do
    let root ← Composer.document
    if root.isSome then Composer.finish
    return root
  let (root, s) ← step.run ⟨ts, Composer.standardHandles, [], #[]⟩
  return root.map fun id => ⟨s.nodes, id⟩

end Yaml

end DealWatch
