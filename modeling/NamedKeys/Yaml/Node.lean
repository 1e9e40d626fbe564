import NamedKeys.Table
import NamedKeys.Yaml.Tag
import NamedKeys.Yaml.Token

/-!
# Nodes

A document as a graph of numbered nodes, so that an alias may name a node again, also one that is not
finished.  The graph is built from the tokens by one pass along the grammar; a node without a tag
gets its type from its form.
-/

namespace NamedKeys.Yaml

/-- A node; collections give their parts by number. -/
inductive Node where
  | scalar (tag : Tag) (text : List Char)
  | sequence (tag : Tag) (items : List Nat)
  | mapping (tag : Tag) (entries : List (Nat × Nat))
  deriving DecidableEq, Repr

def Node.tag : Node → Tag
  | scalar tag _ | sequence tag _ | mapping tag _ => tag

/-- Nodes by number. -/
structure Graph where
  nodes : Table Nat Node
  deriving DecidableEq, Repr

namespace Graph

def node? (graph : Graph) (id : Nat) : Option Node :=
  graph.nodes.lookup id

def set (graph : Graph) (id : Nat) (node : Node) : Graph :=
  ⟨graph.nodes.put id node⟩

theorem node?_set (graph : Graph) (id other : Nat) (node : Node) :
    (graph.set id node).node? other = if other = id then some node else graph.node? other := by
  simp [node?, set]

def hasTag (graph : Graph) (tag : Tag) (id : Nat) : Bool :=
  (graph.node? id).any (·.tag = tag)

end Graph

/-- A graph with the node that is the whole document. -/
structure Document where
  graph : Graph
  root : Nat
  deriving DecidableEq, Repr

/-- The state in which a graph is built. -/
structure Draft where
  /-- The tokens that are still to be read. -/
  tokens : List Token
  /-- What the handles of tags stand for. -/
  handles : List (String × String)
  anchors : List (String × Nat)
  graph : Graph
  /-- The number of the next node. -/
  next : Nat
  deriving DecidableEq, Repr

/-- A step of building a graph. -/
abbrev Building := StateT Draft (Except Fault)

namespace Building

/-- The next token, if the text can be read so far. -/
def peek : Building (Option Token) := do
  match (← get).tokens with
  | .fault fault :: _ => throw fault
  | tokens => return tokens.head?

def skip : Building Unit :=
  modify fun draft => { draft with tokens := draft.tokens.drop 1 }

/-- A new number for a node, bound to an anchor if there is one, which must be new. -/
def declare (anchor : Option String) : Building Nat := do
  let draft ← get
  let id := draft.next
  match anchor with
  | none => set { draft with next := id + 1 }
  | some name =>
    if (draft.anchors.lookup name).isSome then throw .malformed
    set { draft with next := id + 1, anchors := (name, id) :: draft.anchors }
  return id

/-- Puts a node under its number. -/
def define (id : Nat) (node : Node) : Building Nat := do
  modify fun draft => { draft with graph := draft.graph.set id node }
  return id

/-- A scalar of no characters, for a part that is left out. -/
def emptyScalar : Building Nat := do
  define (← declare none) (.scalar .null [])

/-! ## Properties of nodes -/

/-- The name of a tag, which is an exclamation mark when the tag names no type. -/
def tagName (handle : Option String) (suffix : String) : Building String := do
  match handle with
  | none => return suffix
  | some handle =>
    match (← get).handles.lookup handle with
    | some start => return start ++ suffix
    | none => throw .malformed

/-- The anchor, if the next token is one. -/
def anchor? : Building (Option String) := do
  match ← peek with
  | some (.anchor name) => skip; return some name
  | _ => return none

/-- The handle and the rest of a tag, if the next token is one. -/
def tag? : Building (Option (Option String × String)) := do
  match ← peek with
  | some (.tag handle suffix) => skip; return some (handle, suffix)
  | _ => return none

/-- The anchor of a node and the name of its tag, which may stand in either order. -/
def properties : Building (Option String × Option String) := do
  let anchor ← anchor?
  let tag ← tag?
  let anchor ← match anchor, tag with
    | none, some _ => anchor?
    | _, _ => pure anchor
  match tag with
  | none => return (anchor, none)
  | some (handle, suffix) => return (anchor, some (← tagName handle suffix))

/-- Whether the name of a tag leaves the type open. -/
def isOpen (tag : Option String) : Bool :=
  tag.all (· = "!")

/-- The type of a node with a tag, or the given one if its tag leaves the type open. -/
def tagOr (default : Tag) (tag : Option String) : Tag :=
  if isOpen tag then default else Tag.ofName (tag.getD "")

/-- The type of a scalar: the one its tag names, or the one of its form when it is plain or its tag
leaves the type open, or else a text. -/
def scalarTag (text : List Char) (isPlain : Bool) (tag : Option String) : Tag :=
  tagOr (if isPlain || tag.isSome then Tag.ofPlain text else .text) tag

/-! ## Nodes -/

/-- Passes over the comma between the parts of a flow collection. -/
def flowComma : Building Unit := do
  if (← peek) ≠ some .flowEntry then throw .malformed
  skip

mutual

/-- Reads a node.  Block collections may stand in blocks only, and a sequence without indentation
only after a key or a colon of a mapping. -/
def node (isBlock mayHang : Bool) : (fuel : Nat) → Building Nat
  | 0 => throw .malformed
  | fuel + 1 => do
    if let some (.alias name) ← peek then
      skip
      match (← get).anchors.lookup name with
      | some id => return id
      | none => throw .malformed
    let (anchor, tag) ← properties
    match ← peek with
    | some (.scalar text isPlain) =>
      skip
      define (← declare anchor) (.scalar (scalarTag text isPlain tag) text)
    | some .flowSequenceStart =>
      skip
      let id ← declare anchor
      define id (.sequence (tagOr .sequence tag) (← flowItems true fuel))
    | some .flowMappingStart =>
      skip
      let id ← declare anchor
      define id (.mapping (tagOr .mapping tag) (← flowEntries true fuel))
    | token =>
      if mayHang ∧ token = some .blockEntry then
        let id ← declare anchor
        define id (.sequence (tagOr .sequence tag) (← hangingItems fuel))
      else if isBlock ∧ token = some .blockSequenceStart then
        skip
        let id ← declare anchor
        define id (.sequence (tagOr .sequence tag) (← blockItems fuel))
      else if isBlock ∧ token = some .blockMappingStart then
        skip
        let id ← declare anchor
        define id (.mapping (tagOr .mapping tag) (← blockEntries fuel))
      else if anchor.isSome ∨ tag.isSome then
        define (← declare anchor) (.scalar (tagOr .null tag) [])
      else throw .malformed

/-- Reads a node, which is left out when one of the given tokens follows. -/
def nodeBefore (stops : List Token) (isBlock mayHang : Bool) : (fuel : Nat) → Building Nat
  | 0 => throw .malformed
  | fuel + 1 => do
    if (← peek).any stops.contains then emptyScalar else node isBlock mayHang fuel

/-- Reads what may follow a key: a colon and a node, either of which may be left out. -/
def valueBefore (stops : List Token) (isBlock : Bool) : (fuel : Nat) → Building Nat
  | 0 => throw .malformed
  | fuel + 1 => do
    if (← peek) = some .value then
      skip
      nodeBefore stops isBlock isBlock fuel
    else emptyScalar

def blockItems : (fuel : Nat) → Building (List Nat)
  | 0 => throw .malformed
  | fuel + 1 => do
    match ← peek with
    | some .blockEntry =>
      skip
      let item ← nodeBefore [.blockEntry, .blockEnd] true false fuel
      return item :: (← blockItems fuel)
    | some .blockEnd => skip; return []
    | _ => throw .malformed

/-- Reads the items of a sequence without indentation. -/
def hangingItems : (fuel : Nat) → Building (List Nat)
  | 0 => throw .malformed
  | fuel + 1 => do
    match ← peek with
    | some .blockEntry =>
      skip
      let item ← nodeBefore [.blockEntry, .key, .value, .blockEnd] true false fuel
      return item :: (← hangingItems fuel)
    | _ => return []

def blockEntries : (fuel : Nat) → Building (List (Nat × Nat))
  | 0 => throw .malformed
  | fuel + 1 => do
    match ← peek with
    | some .key =>
      skip
      let key ← nodeBefore [.key, .value, .blockEnd] true true fuel
      let value ← valueBefore [.key, .value, .blockEnd] true fuel
      return (key, value) :: (← blockEntries fuel)
    | some .blockEnd => skip; return []
    | _ => throw .malformed

/-- Reads the items of a flow sequence after the first character, or after an item.  An item may
be a mapping of one entry without braces. -/
def flowItems (isFirst : Bool) : (fuel : Nat) → Building (List Nat)
  | 0 => throw .malformed
  | fuel + 1 => do
    unless isFirst ∨ (← peek) = some .flowSequenceEnd do flowComma
    match ← peek with
    | some .flowSequenceEnd => skip; return []
    | some .key =>
      skip
      let id ← declare none
      let key ← nodeBefore [.value, .flowEntry, .flowSequenceEnd] false false fuel
      let value ← valueBefore [.flowEntry, .flowSequenceEnd] false fuel
      let item ← define id (.mapping .mapping [(key, value)])
      return item :: (← flowItems false fuel)
    | _ =>
      let item ← node false false fuel
      return item :: (← flowItems false fuel)

/-- Reads the entries of a flow mapping after the first character, or after an entry. -/
def flowEntries (isFirst : Bool) : (fuel : Nat) → Building (List (Nat × Nat))
  | 0 => throw .malformed
  | fuel + 1 => do
    unless isFirst ∨ (← peek) = some .flowMappingEnd do flowComma
    match ← peek with
    | some .flowMappingEnd => skip; return []
    | some .key =>
      skip
      let key ← nodeBefore [.value, .flowEntry, .flowMappingEnd] false false fuel
      let value ← valueBefore [.flowEntry, .flowMappingEnd] false fuel
      return (key, value) :: (← flowEntries false fuel)
    | _ =>
      let key ← node false false fuel
      let value ← emptyScalar
      return (key, value) :: (← flowEntries false fuel)

end

/-! ## Documents -/

/-- The handles of tags that need not be declared. -/
def standardHandles : List (String × String) :=
  [("!", "!"), ("!!", Tag.namePrefix)]

/-- Reads directives: at most one for the version, whose first number must be 1, and at most one
for each handle. -/
def directives (hasVersion : Bool) (handles : List (String × String)) : (fuel : Nat) → Building Unit
  | 0 => throw .malformed
  | fuel + 1 => do
    match ← peek with
    | some (.directive (.version major _)) =>
      if hasVersion ∨ major ≠ 1 then throw .malformed
      skip
      directives true handles fuel
    | some (.directive (.tag handle start)) =>
      if (handles.lookup handle).isSome then throw .malformed
      skip
      directives hasVersion ((handle, start) :: handles) fuel
    | some (.directive .other) =>
      skip
      directives hasVersion handles fuel
    | _ => modify fun draft => { draft with handles := handles ++ standardHandles }

/-- Passes over marks at the end of a document. -/
def documentEnds : (fuel : Nat) → Building Unit
  | 0 => throw .malformed
  | fuel + 1 => do
    if (← peek) = some .documentEnd then
      skip
      documentEnds fuel

/-- Reads a document after its first mark. -/
def explicitDocument (fuel : Nat) : Building Nat := do
  directives false [] fuel
  if (← peek) ≠ some .documentStart then throw .malformed
  skip
  match ← peek with
  | none | some (.directive _) | some .documentStart | some .documentEnd => emptyScalar
  | _ => node true false fuel

/-- Reads all tokens: one document, or none. -/
def document? (fuel : Nat) : Building (Option Nat) := do
  match ← peek with
  | none => return none
  | some (.directive _) | some .documentStart =>
    let root ← explicitDocument fuel
    finish
    return some root
  | _ =>
    let root ← node true false fuel
    finish
    return some root
where
  /-- Nothing may follow the document. -/
  finish : Building Unit := do
    documentEnds fuel
    if (← peek).isSome then
      directives false [] fuel
      throw .malformed

end Building

/-- The document that tokens write; there is none when they are none. -/
def Document.ofTokens (tokens : List Token) : Except Fault (Option Document) := do
  let fuel := 4 * tokens.length + 4
  let start : Draft := ⟨tokens, Building.standardHandles, [], ⟨[]⟩, 0⟩
  let (root, draft) ← (Building.document? fuel).run start
  return root.map fun root => ⟨draft.graph, root⟩

end NamedKeys.Yaml
