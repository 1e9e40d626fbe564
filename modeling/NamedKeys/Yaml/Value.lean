import NamedKeys.Yaml.Atom
import NamedKeys.Yaml.Node

/-!
# Values

What a document holds: the value of its root.  Merge keys are replaced by the entries they stand for,
each node is tested once, the nearest to the root first, and equal keys of a mapping become one entry,
which has the key of the first and the value of the last.
-/

namespace NamedKeys.Yaml

/-- A value.  A collection inside itself is not shown again. -/
inductive Value where
  | atom (atom : Atom)
  | list (items : List Value)
  | pairs (items : List (Value × Value))
  | map (entries : List (Atom × Value))
  | set (keys : List Atom)
  | listInside
  | mapInside
  deriving Repr

namespace Value

/-! ## Texts -/

def enclosed (first last : String) (parts : List String) : String :=
  first ++ ", ".intercalate parts ++ last

mutual

/-- The form in which messages show a value; there is none when it holds a number of too many
digits. -/
def literal? : Value → Option String
  | atom a => a.literal?
  | list items => (literals? items).map (enclosed "[" "]")
  | pairs items => (pairLiterals? items).map (enclosed "[" "]")
  | map entries => (entryLiterals? entries).map (enclosed "\x7b" "\x7d")
  | set [] => some "set()"
  | set keys => (keys.mapM Atom.literal?).map (enclosed "\x7b" "\x7d")
  | listInside => some "[...]"
  | mapInside => some "\x7b...\x7d"

def literals? : List Value → Option (List String)
  | [] => some []
  | v :: vs => do return (← literal? v) :: (← literals? vs)

def pairLiterals? : List (Value × Value) → Option (List String)
  | [] => some []
  | (v, w) :: rest => do
    return enclosed "(" ")" [← literal? v, ← literal? w] :: (← pairLiterals? rest)

def entryLiterals? : List (Atom × Value) → Option (List String)
  | [] => some []
  | (k, v) :: rest => do
    return (((← k.literal?) ++ ": ") ++ (← literal? v)) :: (← entryLiterals? rest)

end

def text? : Value → Option String
  | atom a => a.show?
  | v => v.literal?

end Value

namespace Graph

/-! ## Merge keys -/

/-- The entries that a mapping takes over, given the node that stands after its merge key: those of
a mapping, or those of several, of which the first has the last word. -/
def mergedEntries (flatten : Nat → Graph → Except Fault Graph) (graph : Graph) (id : Nat) :
    Except Fault (Graph × List (Nat × Nat)) :=
  match graph.node? id with
  | some (.mapping _ _) => do
    let graph ← flatten id graph
    return (graph, entriesOf graph id)
  | some (.sequence _ items) => do
    let (graph, groups) ← items.foldlM (fun (graph, groups) item => do
      if !(isMapping graph item) then throw .malformed
      let graph ← flatten item graph
      return (graph, entriesOf graph item :: groups)) (graph, [])
    return (graph, groups.flatten)
  | _ => .error .malformed
where
  /-- The entries of a mapping. -/
  entriesOf (graph : Graph) (id : Nat) : List (Nat × Nat) :=
    match graph.node? id with
    | some (.mapping _ entries) => entries
    | _ => []
  /-- Whether a node is a mapping. -/
  isMapping (graph : Graph) (id : Nat) : Bool :=
    match graph.node? id with
    | some (.mapping _ _) => true
    | _ => false

/-- The graph with a node of another type. -/
def retag (graph : Graph) (tag : Tag) (id : Nat) : Graph :=
  match graph.node? id with
  | some (.scalar _ text) => graph.set id (.scalar tag text)
  | some (.sequence _ items) => graph.set id (.sequence tag items)
  | some (.mapping _ entries) => graph.set id (.mapping tag entries)
  | none => graph

/-- Puts before the entries of a mapping those that its merge keys stand for, and makes texts of its
keys that are mere signs of equality. -/
def flatten : (fuel : Nat) → Nat → Graph → Except Fault Graph
  | 0, _, graph => .ok graph
  | fuel + 1, id, graph =>
    match graph.node? id with
    | some (.mapping tag entries) => do
      let (merges, own) := entries.partition fun entry => graph.hasTag .merge entry.1
      let signs := (own.map (·.1)).filter (graph.hasTag .value)
      let graph := signs.foldl (·.retag .text) (graph.set id (.mapping tag own))
      let (graph, merged) ← merges.foldlM (fun (graph, merged) entry => do
        let (graph, more) ← mergedEntries (flatten fuel) graph entry.2
        return (graph, merged ++ more)) (graph, [])
      match graph.node? id with
      | some (.mapping tag own) => return graph.set id (.mapping tag (merged ++ own))
      | _ => return graph
    | _ => .ok graph

/-! ## Testing the nodes -/

/-- The value of the first entry of a mapping whose key is a mere sign of equality. -/
def signValue? (graph : Graph) (id : Nat) : Option Nat :=
  ((mergedEntries.entriesOf graph id).find? fun entry => graph.hasTag .value entry.1).map (·.2)

/-- The text that a node is read from: its own, or that of the value of a mapping whose key is a mere
sign of equality. -/
def textOf (graph : Graph) : (fuel : Nat) → Nat → Except Fault (List Char)
  | 0, _ => .error (.value .endless)
  | fuel + 1, id =>
    match graph.node? id with
    | some (.scalar _ text) => .ok text
    | _ =>
      match graph.signValue? id with
      | some value => textOf graph fuel value
      | none => .error .malformed

/-- The greatest number of steps along different nodes. -/
def size (graph : Graph) : Nat := graph.nodes.length + 1

def isCollection (tag : Tag) : Bool :=
  [Tag.sequence, .mapping, .set, .orderedMap, .pairs].contains tag

/-- The atom of a node whose type has atoms.  The form of a date is looked for in the node itself, and
so only in a scalar. -/
def atom (graph : Graph) (id : Nat) : Except Fault Atom :=
  match graph.node? id with
  | none => .error .malformed
  | some node =>
    match Atom.reader? node.tag with
    | none => .error .malformed
    | some read => do
      let text ← graph.textOf graph.size id
      match node with
      | .mapping .timestamp _ => .error (.value .noText)
      | _ => read text

/-- The nodes that have been tested, with the atoms of those that are no collections.  An atom stays as
it was read when the graph changes. -/
abbrev Built := Table Nat (Option Atom)

/-- The parts of a collection in order, each with whether it is a key, up to one of a wrong form,
in whose place there is none; and the graph in which they are to be found. -/
def parts (graph : Graph) (id : Nat) : Except Fault (Graph × List (Option (Nat × Bool))) :=
  match graph.node? id with
  | some (.sequence .sequence items) => .ok (graph, items.map fun item => some (item, false))
  | some (.sequence .orderedMap items) | some (.sequence .pairs items) =>
    .ok (graph, items.flatMap fun item =>
      match graph.node? item with
      | some (.mapping _ [(key, value)]) => [some (key, false), some (value, false)]
      | _ => [none])
  | some (.mapping .mapping _) | some (.mapping .set _) => do
    let graph ← graph.flatten graph.size id
    let entries := mergedEntries.entriesOf graph id
    return (graph, entries.flatMap fun (key, value) => [some (key, true), some (value, false)])
  | _ => .error .malformed

/-- Tests the parts of a collection.  `waiting` are the collections among the tested nodes whose parts
are not tested yet; a collection is no key. -/
def testParts (graph : Graph) (built : Built) (waiting : List Nat) :
    List (Option (Nat × Bool)) → Except Fault (Built × List Nat)
  | [] => .ok (built, waiting)
  | none :: _ => .error .malformed
  | some (id, isKey) :: rest =>
    let isCollection := (graph.node? id).any fun node => isCollection node.tag
    if isCollection && isKey then .error .malformed
    else if (built.lookup id).isSome then testParts graph built waiting rest
    else if isCollection then testParts graph (built.put id none) (waiting ++ [id]) rest
    else
      match graph.atom id with
      | .ok a => testParts graph (built.put id (some a)) waiting rest
      | .error fault => .error fault

/-- Tests the collections that are waiting, the first first, and those found in them after them; gives
the graph without merge keys. -/
def test : (fuel : Nat) → Built → (waiting : List Nat) → Graph → Except Fault (Graph × Built)
  | _, built, [], graph => .ok (graph, built)
  | 0, built, _, graph => .ok (graph, built)
  | fuel + 1, built, id :: waiting, graph => do
    let (graph, parts) ← graph.parts id
    let (built, waiting) ← testParts graph built waiting parts
    graph.test fuel built waiting

/-! ## Values -/

def Built.atomOf (built : Built) (id : Nat) : Atom :=
  (built.lookup id).join.getD .null

/-- Puts an entry into a mapping, in the stead of the value of an equal key. -/
def insertEntry (entries : List (Atom × Value)) (key : Atom) (value : Value) :
    List (Atom × Value) :=
  if entries.any fun entry => entry.1.key = key.key then
    entries.map fun entry => if entry.1.key = key.key then (entry.1, value) else entry
  else entries ++ [(key, value)]

/-- The value of a tested node inside some collections that are not finished. -/
def value (graph : Graph) (built : Built) : (fuel : Nat) → (around : List Nat) → Nat → Value
  | 0, _, _ => .listInside
  | fuel + 1, around, id =>
    let inside := graph.value built fuel (id :: around)
    match graph.node? id with
    | some (.sequence .sequence items) =>
      if around.contains id then .listInside else .list (items.map inside)
    | some (.sequence .orderedMap items) | some (.sequence .pairs items) =>
      if around.contains id then .listInside
      else .pairs (items.flatMap fun item =>
        (mergedEntries.entriesOf graph item).map fun (key, value) => (inside key, inside value))
    | some (.mapping .mapping entries) =>
      if around.contains id then .mapInside
      else .map (entries.foldl (fun map (key, value) =>
        insertEntry map (built.atomOf key) (inside value)) [])
    | some (.mapping .set entries) =>
      .set ((entries.foldl (fun map (key, _) =>
        insertEntry map (built.atomOf key) .listInside) []).map (·.1))
    | _ => .atom (built.atomOf id)

end Graph

def Document.value (document : Document) : Except Fault Value := do
  let graph := document.graph
  let (built, waiting) ← graph.testParts [] [] [some (document.root, false)]
  let (graph, built) ← graph.test graph.size built waiting
  return graph.value built graph.size [] document.root

/-- The value that a text writes; an empty text writes nothing. -/
def load (cs : List Char) : Except Fault Value := do
  match ← Document.ofTokens (tokens cs) with
  | none => return .atom .null
  | some document => document.value

end NamedKeys.Yaml
