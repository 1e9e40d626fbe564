import NamedKeys.Yaml.Value

/-!
# Documents that are sound

A token is sound if it cannot make a value that does not exist: it is no tag, it is no number or code
point out of range, and if it is a plain scalar, then its text writes a value of the type of its form, one
that can be shown.  The graph that is built from sound tokens is sound in turn, so that nothing is wrong
with the document except its form:

    tokens.all Token.isSound → Document.ofTokens tokens yields no fault but `malformed`, and a graph
      all of whose nodes are sound                                            (ofTokens_sound)

Every part of the grammar keeps this (`Building.soundAt`), since all of them read tokens by `peek` and put
nodes into the graph by `define`.
-/

namespace NamedKeys.Yaml

/-! ## Results without faults of values -/

/-- A result has a property, or the text is malformed. -/
def Yields {α : Type} (P : α → Prop) : Except Fault α → Prop
  | .ok a => P a
  | .error fault => fault = .malformed

section

variable {α β : Type} {P : α → Prop} {Q : β → Prop}

theorem Yields.bind {result : Except Fault α} {next : α → Except Fault β} (h : Yields P result)
    (hnext : ∀ a, P a → Yields Q (next a)) : Yields Q (result >>= next) := by
  cases result with
  | error fault => exact h
  | ok a => exact hnext a h

/-- What every step keeps, a run of steps keeps. -/
theorem yields_foldlM {f : α → β → Except Fault α} (hstep : ∀ a b, P a → Yields P (f a b))
    (items : List β) {start : α} (hstart : P start) : Yields P (items.foldlM f start) := by
  induction items generalizing start with
  | nil => exact hstart
  | cons b items ih =>
    rw [List.foldlM_cons]
    exact (hstep start b hstart).bind fun a ha => ih ha

end

/-! ## Sound tokens and nodes -/

/-- Whether a text writes a value of a type that can be shown, if the type has values that texts write. -/
def Tag.admits (tag : Tag) (text : List Char) : Bool :=
  match Atom.reader? tag with
  | none => true
  | some read =>
    match read text with
    | .ok a => a.show?.isSome
    | .error _ => false

/-- Whether a token can only make values that there are. -/
def Token.isSound : Token → Bool
  | tag _ _ => false
  | scalar text true => (Tag.ofPlain text).admits text
  | fault (.value _) => false
  | _ => true

/-- The text of a scalar writes a value of its type, and a mapping is none of a type that texts write. -/
def Node.IsSound : Node → Prop
  | scalar tag text => tag.admits text = true
  | sequence _ _ => True
  | mapping tag _ => tag = .mapping

def Graph.IsSound (graph : Graph) : Prop :=
  ∀ id node, graph.node? id = some node → node.IsSound

theorem Graph.IsSound.set {graph : Graph} (h : graph.IsSound) (id : Nat) {node : Node}
    (hnode : node.IsSound) : (graph.set id node).IsSound := by
  intro other found hfound
  rw [node?_set] at hfound
  split at hfound
  · rw [← Option.some.inj hfound]
    exact hnode
  · exact h other found hfound

/-- The tokens that are still to be read are sound, and so are all nodes that have been built. -/
structure Draft.IsSound (draft : Draft) : Prop where
  tokens : ∀ token ∈ draft.tokens, token.isSound = true
  graph : draft.graph.IsSound

theorem Draft.IsSound.congr {draft other : Draft} (h : draft.IsSound)
    (htokens : other.tokens = draft.tokens) (hgraph : other.graph = draft.graph) : other.IsSound :=
  ⟨htokens ▸ h.tokens, hgraph ▸ h.graph⟩

namespace Building

/-! ## Steps that keep a draft sound -/

/-- From a sound draft, a step leads to a sound draft and a result with a property, or the text is
malformed. -/
def Ensures {α : Type} (Q : α → Prop) (step : Building α) : Prop :=
  ∀ draft, draft.IsSound → Yields (fun (a, after) => Q a ∧ after.IsSound) (step.run draft)

/-- A step ensures a property of its result that always holds. -/
abbrev IsSound {α : Type} (step : Building α) : Prop :=
  Ensures (fun _ => True) step

section

variable {α β : Type} {P Q : α → Prop} {R : β → Prop}

theorem ensures_pure {a : α} (h : Q a) : Ensures Q (pure a) :=
  fun _ hdraft => ⟨h, hdraft⟩

theorem isSound_pure (a : α) : IsSound (pure a) :=
  ensures_pure trivial

theorem ensures_malformed : Ensures Q (throw .malformed : Building α) :=
  fun _ _ => rfl

/-- A malformed text is not read on. -/
theorem ensures_malformed_bind {next : α → Building β} : Ensures R (throw .malformed >>= next) :=
  fun _ _ => rfl

theorem Ensures.bind {step : Building α} {next : α → Building β} (h : Ensures P step)
    (hnext : ∀ a, P a → Ensures R (next a)) : Ensures R (step >>= next) := by
  intro draft hdraft
  rw [StateT.run_bind]
  exact (h draft hdraft).bind fun result hresult => hnext result.1 hresult.1 result.2 hresult.2

theorem ensures_get : Ensures Draft.IsSound (get : Building Draft) :=
  fun _ hdraft => ⟨hdraft, hdraft⟩

theorem isSound_set {draft : Draft} (h : draft.IsSound) : IsSound (set draft : Building PUnit) :=
  fun _ _ => ⟨trivial, h⟩

theorem isSound_modify {f : Draft → Draft} (h : ∀ draft, draft.IsSound → (f draft).IsSound) :
    IsSound (modify f : Building PUnit) :=
  fun draft hdraft => ⟨trivial, h draft hdraft⟩

end

/-- The next token is sound. -/
theorem ensures_peek : Ensures (fun token => ∀ t ∈ token, t.isSound = true) peek := by
  refine ensures_get.bind fun draft hdraft => ?_
  split
  · next fault rest htokens =>
    have hfault := hdraft.tokens (.fault fault) (by rw [htokens]; exact List.mem_cons_self)
    cases fault with
    | malformed => exact ensures_malformed
    | value fault => cases hfault
  · exact ensures_pure fun token htoken => hdraft.tokens token (List.mem_of_mem_head? htoken)

theorem isSound_skip : IsSound skip :=
  isSound_modify fun _ hdraft =>
    ⟨fun token htoken => hdraft.tokens token (List.mem_of_mem_drop htoken), hdraft.graph⟩

theorem isSound_declare (anchor : Option String) : IsSound (declare anchor) := by
  refine ensures_get.bind fun draft hdraft => ?_
  have hset : ∀ {other : Draft}, other.tokens = draft.tokens → other.graph = draft.graph →
      IsSound (do set other; return draft.next : Building Nat) := fun htokens hgraph =>
    (isSound_set (hdraft.congr htokens hgraph)).bind fun _ _ => isSound_pure _
  cases anchor with
  | none => exact hset rfl rfl
  | some name =>
    dsimp only
    split
    · exact ensures_malformed_bind
    · exact hset rfl rfl

theorem isSound_define (id : Nat) {node : Node} (h : node.IsSound) : IsSound (define id node) :=
  Ensures.bind (isSound_modify fun _ hdraft => ⟨hdraft.tokens, hdraft.graph.set id h⟩) fun _ _ =>
    isSound_pure _

theorem isSound_emptyScalar : IsSound emptyScalar :=
  (isSound_declare none).bind fun id _ => isSound_define id rfl

theorem isSound_anchor? : IsSound anchor? := by
  refine ensures_peek.bind fun token _ => ?_
  split
  · exact isSound_skip.bind fun _ _ => isSound_pure _
  · exact isSound_pure _

/-- There are no tags. -/
theorem ensures_tag? : Ensures (· = none) tag? := by
  refine ensures_peek.bind fun token htoken => ?_
  split
  · cases htoken _ rfl
  · exact ensures_pure rfl

theorem ensures_properties : Ensures (·.2 = none) properties := by
  refine isSound_anchor?.bind fun anchor _ => ensures_tag?.bind fun tag htag => ?_
  subst htag
  cases anchor <;> exact ensures_pure rfl

theorem isSound_flowComma : IsSound flowComma := by
  refine ensures_peek.bind fun token _ => ?_
  split
  · exact ensures_malformed_bind
  · exact isSound_skip

theorem isSound_comma {α : Type} {P : Prop} [Decidable P] {rest : Building α} (h : IsSound rest) :
    IsSound (if P then rest else do flowComma; rest) := by
  split
  · exact h
  · exact isSound_flowComma.bind fun _ _ => h

/-! ## Nodes -/

/-- A scalar without a tag is sound if its token is. -/
theorem isSound_scalar {text : List Char} {isPlain : Bool}
    (h : (Token.scalar text isPlain).isSound = true) :
    (Node.scalar (scalarTag text isPlain none) text).IsSound := by
  cases isPlain with
  | false => rfl
  | true => exact h

/-- A collection without a tag is declared before its parts are read, and defined after them. -/
theorem isSound_collection {α : Type} {parts : Building α} (h : IsSound parts) (anchor : Option String)
    {ofParts : α → Node} (hnode : ∀ a, (ofParts a).IsSound) :
    IsSound (do
      let id ← declare anchor
      define id (ofParts (← parts))) :=
  (isSound_declare anchor).bind fun id _ => h.bind fun a _ => isSound_define id (hnode a)

/-- All parts of the grammar, with some fuel, keep a draft sound. -/
structure SoundAt (fuel : Nat) : Prop where
  node : ∀ isBlock mayHang, IsSound (node isBlock mayHang fuel)
  nodeBefore : ∀ stops isBlock mayHang, IsSound (nodeBefore stops isBlock mayHang fuel)
  valueBefore : ∀ stops isBlock, IsSound (valueBefore stops isBlock fuel)
  blockItems : IsSound (blockItems fuel)
  hangingItems : IsSound (hangingItems fuel)
  blockEntries : IsSound (blockEntries fuel)
  flowItems : ∀ isFirst, IsSound (flowItems isFirst fuel)
  flowEntries : ∀ isFirst, IsSound (flowEntries isFirst fuel)

section

variable {fuel : Nat} (h : SoundAt fuel)

include h

theorem SoundAt.node_succ (isBlock mayHang : Bool) :
    IsSound (Building.node isBlock mayHang (fuel + 1)) := by
  unfold Building.node
  refine ensures_peek.bind fun token _ => ?_
  split
  · refine isSound_skip.bind fun _ _ => ensures_get.bind fun draft _ => ?_
    split
    · exact isSound_pure _
    · exact ensures_malformed
  · refine ensures_properties.bind fun properties hproperties => ?_
    obtain ⟨anchor, tag⟩ := properties
    obtain rfl : tag = none := hproperties
    dsimp only
    refine ensures_peek.bind fun token htoken => ?_
    split
    · exact isSound_skip.bind fun _ _ => (isSound_declare anchor).bind fun id _ =>
        isSound_define id (isSound_scalar (htoken _ rfl))
    · exact isSound_skip.bind fun _ _ =>
        isSound_collection (h.flowItems true) anchor fun _ => trivial
    · exact isSound_skip.bind fun _ _ =>
        isSound_collection (h.flowEntries true) anchor fun _ => rfl
    · split
      · exact isSound_collection h.hangingItems anchor fun _ => trivial
      · split
        · exact isSound_skip.bind fun _ _ => isSound_collection h.blockItems anchor fun _ => trivial
        · split
          · exact isSound_skip.bind fun _ _ =>
              isSound_collection h.blockEntries anchor fun _ => rfl
          · split
            · exact (isSound_declare anchor).bind fun id _ => isSound_define id rfl
            · exact ensures_malformed

theorem SoundAt.nodeBefore_succ (stops : List Token) (isBlock mayHang : Bool) :
    IsSound (Building.nodeBefore stops isBlock mayHang (fuel + 1)) := by
  unfold Building.nodeBefore
  refine ensures_peek.bind fun token _ => ?_
  split
  · exact isSound_emptyScalar
  · exact h.node isBlock mayHang

theorem SoundAt.valueBefore_succ (stops : List Token) (isBlock : Bool) :
    IsSound (Building.valueBefore stops isBlock (fuel + 1)) := by
  unfold Building.valueBefore
  refine ensures_peek.bind fun token _ => ?_
  split
  · exact isSound_skip.bind fun _ _ => h.nodeBefore stops isBlock isBlock
  · exact isSound_emptyScalar

theorem SoundAt.blockItems_succ : IsSound (Building.blockItems (fuel + 1)) := by
  unfold Building.blockItems
  refine ensures_peek.bind fun token _ => ?_
  split
  · exact isSound_skip.bind fun _ _ => (h.nodeBefore _ true false).bind fun item _ =>
      h.blockItems.bind fun items _ => isSound_pure _
  · exact isSound_skip.bind fun _ _ => isSound_pure _
  · exact ensures_malformed

theorem SoundAt.hangingItems_succ : IsSound (Building.hangingItems (fuel + 1)) := by
  unfold Building.hangingItems
  refine ensures_peek.bind fun token _ => ?_
  split
  · exact isSound_skip.bind fun _ _ => (h.nodeBefore _ true false).bind fun item _ =>
      h.hangingItems.bind fun items _ => isSound_pure _
  · exact isSound_pure _

theorem SoundAt.blockEntries_succ : IsSound (Building.blockEntries (fuel + 1)) := by
  unfold Building.blockEntries
  refine ensures_peek.bind fun token _ => ?_
  split
  · exact isSound_skip.bind fun _ _ => (h.nodeBefore _ true true).bind fun key _ =>
      (h.valueBefore _ true).bind fun value _ => h.blockEntries.bind fun entries _ => isSound_pure _
  · exact isSound_skip.bind fun _ _ => isSound_pure _
  · exact ensures_malformed

theorem SoundAt.flowItems_succ (isFirst : Bool) :
    IsSound (Building.flowItems isFirst (fuel + 1)) := by
  unfold Building.flowItems
  refine ensures_peek.bind fun token _ => isSound_comma (ensures_peek.bind fun token _ => ?_)
  split
  · exact isSound_skip.bind fun _ _ => isSound_pure _
  · exact isSound_skip.bind fun _ _ => (isSound_declare none).bind fun id _ =>
      (h.nodeBefore _ false false).bind fun key _ => (h.valueBefore _ false).bind fun value _ =>
      Ensures.bind (isSound_define id rfl) fun item _ =>
      (h.flowItems false).bind fun items _ => isSound_pure _
  · exact (h.node false false).bind fun item _ => (h.flowItems false).bind fun items _ =>
      isSound_pure _

theorem SoundAt.flowEntries_succ (isFirst : Bool) :
    IsSound (Building.flowEntries isFirst (fuel + 1)) := by
  unfold Building.flowEntries
  refine ensures_peek.bind fun token _ => isSound_comma (ensures_peek.bind fun token _ => ?_)
  split
  · exact isSound_skip.bind fun _ _ => isSound_pure _
  · exact isSound_skip.bind fun _ _ => (h.nodeBefore _ false false).bind fun key _ =>
      (h.valueBefore _ false).bind fun value _ => (h.flowEntries false).bind fun entries _ =>
      isSound_pure _
  · exact (h.node false false).bind fun key _ => isSound_emptyScalar.bind fun value _ =>
      (h.flowEntries false).bind fun entries _ => isSound_pure _

end

theorem soundAt (fuel : Nat) : SoundAt fuel := by
  induction fuel with
  | zero =>
    constructor <;> intros <;> exact ensures_malformed
  | succ fuel ih =>
    exact ⟨ih.node_succ, ih.nodeBefore_succ, ih.valueBefore_succ, ih.blockItems_succ,
      ih.hangingItems_succ, ih.blockEntries_succ, ih.flowItems_succ, ih.flowEntries_succ⟩

/-! ## Documents -/

theorem isSound_directives (fuel : Nat) (hasVersion : Bool) (handles : List (String × String)) :
    IsSound (directives hasVersion handles fuel) := by
  induction fuel generalizing hasVersion handles with
  | zero => exact ensures_malformed
  | succ fuel ih =>
    unfold directives
    refine ensures_peek.bind fun token _ => ?_
    split
    · split
      · exact ensures_malformed_bind
      · exact isSound_skip.bind fun _ _ => ih _ _
    · split
      · exact ensures_malformed_bind
      · exact isSound_skip.bind fun _ _ => ih _ _
    · exact isSound_skip.bind fun _ _ => ih _ _
    · exact isSound_modify fun _ hdraft => ⟨hdraft.tokens, hdraft.graph⟩

theorem isSound_documentEnds (fuel : Nat) : IsSound (documentEnds fuel) := by
  induction fuel with
  | zero => exact ensures_malformed
  | succ fuel ih =>
    unfold documentEnds
    refine ensures_peek.bind fun token _ => ?_
    split
    · exact isSound_skip.bind fun _ _ => ih
    · exact isSound_pure _

theorem isSound_explicitDocument (fuel : Nat) : IsSound (explicitDocument fuel) := by
  refine (isSound_directives fuel false []).bind fun _ _ => ensures_peek.bind fun token _ => ?_
  dsimp only
  split
  · exact ensures_malformed_bind
  · refine isSound_skip.bind fun _ _ => ensures_peek.bind fun token _ => ?_
    split
    · exact isSound_emptyScalar
    · exact isSound_emptyScalar
    · exact isSound_emptyScalar
    · exact isSound_emptyScalar
    · exact (soundAt fuel).node true false

theorem isSound_finish (fuel : Nat) : IsSound (document?.finish fuel) := by
  refine (isSound_documentEnds fuel).bind fun _ _ => ensures_peek.bind fun token _ => ?_
  split
  · exact (isSound_directives fuel false []).bind fun _ _ => ensures_malformed
  · exact isSound_pure _

theorem isSound_document? (fuel : Nat) : IsSound (document? fuel) := by
  refine ensures_peek.bind fun token _ => ?_
  split
  · exact isSound_pure _
  · exact (isSound_explicitDocument fuel).bind fun root _ => (isSound_finish fuel).bind fun _ _ =>
      isSound_pure _
  · exact (isSound_explicitDocument fuel).bind fun root _ => (isSound_finish fuel).bind fun _ _ =>
      isSound_pure _
  · exact ((soundAt fuel).node true false).bind fun root _ => (isSound_finish fuel).bind fun _ _ =>
      isSound_pure _

end Building

/-- Sound tokens write no document, or one whose nodes are sound, or a malformed one. -/
theorem ofTokens_sound {tokens : List Token} (h : ∀ token ∈ tokens, token.isSound = true) :
    Yields (fun document => ∀ d ∈ document, d.graph.IsSound) (Document.ofTokens tokens) := by
  have hstart : Draft.IsSound ⟨tokens, Building.standardHandles, [], ⟨[]⟩, 0⟩ :=
    ⟨h, fun id node hnode => by cases hnode⟩
  refine (Building.isSound_document? _ _ hstart).bind fun result hresult => ?_
  rintro document hdocument
  obtain ⟨root, -, rfl⟩ := Option.map_eq_some_iff.1 hdocument
  exact hresult.2.graph

end NamedKeys.Yaml
