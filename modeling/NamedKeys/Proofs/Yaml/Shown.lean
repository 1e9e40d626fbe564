import NamedKeys.Proofs.Yaml.Sound

/-!
# What sound documents hold

The graph of a sound document stays sound when merge keys are replaced and nodes are tested, and every node
of a sound graph has a value that can be shown.  So a text of sound tokens either is malformed or has a
value that can be shown and used:

    (tokens cs).all Token.isSound → Yields Value.IsShown (load cs)                       (load_sound)
-/

namespace NamedKeys.Yaml

/-! ## Values that can be shown -/

theorem Atom.isSome_literal? (a : Atom) : a.literal?.isSome = a.show?.isSome := by
  cases a with
  | text | date | time => simp only [literal?, show?, Option.isSome_some]
  | _ => rfl

namespace Value

/-- A value that can be shown: it holds no number of too many digits. -/
def IsShown (v : Value) : Prop :=
  v.literal?.isSome = true

theorem isShown_atom_iff {a : Atom} : (atom a).IsShown ↔ a.show?.isSome = true := by
  rw [IsShown, literal?, Atom.isSome_literal?]

theorem isShown_list_iff {items : List Value} : (list items).IsShown ↔ ∀ v ∈ items, v.IsShown := by
  have hitems : (literals? items).isSome = true ↔ ∀ v ∈ items, v.IsShown := by
    induction items with
    | nil => simp [literals?]
    | cons v vs ih =>
      rw [List.forall_mem_cons, ← ih, IsShown, literals?]
      cases v.literal? <;> cases literals? vs <;> simp
  rw [IsShown, literal?, Option.isSome_map, hitems]

theorem isShown_pairs_iff {items : List (Value × Value)} :
    (pairs items).IsShown ↔ ∀ p ∈ items, p.1.IsShown ∧ p.2.IsShown := by
  have hitems : (pairLiterals? items).isSome = true ↔ ∀ p ∈ items, p.1.IsShown ∧ p.2.IsShown := by
    induction items with
    | nil => simp [pairLiterals?]
    | cons p rest ih =>
      obtain ⟨v, w⟩ := p
      rw [List.forall_mem_cons, ← ih, IsShown, IsShown, pairLiterals?]
      cases v.literal? <;> cases w.literal? <;> cases pairLiterals? rest <;> simp
  rw [IsShown, literal?, Option.isSome_map, hitems]

def IsShownEntry (entry : Atom × Value) : Prop :=
  entry.1.show?.isSome = true ∧ entry.2.IsShown

theorem isShown_map_iff {entries : List (Atom × Value)} :
    (map entries).IsShown ↔ ∀ entry ∈ entries, IsShownEntry entry := by
  have hentries : (entryLiterals? entries).isSome = true ↔ ∀ entry ∈ entries, IsShownEntry entry := by
    induction entries with
    | nil => simp [entryLiterals?]
    | cons entry rest ih =>
      obtain ⟨k, v⟩ := entry
      rw [List.forall_mem_cons, ← ih, IsShownEntry, ← Atom.isSome_literal?, IsShown, entryLiterals?]
      cases k.literal? <;> cases v.literal? <;> cases entryLiterals? rest <;> simp
  rw [IsShown, literal?, Option.isSome_map, hentries]

theorem isShown_set_iff {keys : List Atom} :
    (set keys).IsShown ↔ ∀ k ∈ keys, k.show?.isSome = true := by
  have hkeys : (keys.mapM Atom.literal?).isSome = true ↔ ∀ k ∈ keys, k.show?.isSome = true := by
    induction keys with
    | nil => simp
    | cons k rest ih =>
      rw [List.forall_mem_cons, ← ih, ← Atom.isSome_literal?, List.mapM_cons]
      cases k.literal? <;> cases rest.mapM Atom.literal? <;> simp
  cases keys with
  | nil => simp [IsShown, literal?]
  | cons k rest =>
    rw [IsShown, literal?, Option.isSome_map, hkeys]
    simp

/-- What can be shown can be used as a text, and nothing else can. -/
theorem isSome_text?_iff {v : Value} : v.text?.isSome = true ↔ v.IsShown := by
  cases v with
  | atom a => rw [text?, isShown_atom_iff]
  | _ => rfl

end Value

/-! ## Sound graphs -/

namespace Graph

variable {graph : Graph}

/-- The atom of a node can be shown: it is the one that a scalar writes. -/
theorem IsSound.atom (h : graph.IsSound) (id : Nat) :
    Yields (fun a => a.show?.isSome = true) (graph.atom id) := by
  unfold Graph.atom
  split
  · rfl
  · next node hnode =>
    split
    · rfl
    · next read hread =>
      have hsound := h id node hnode
      cases node with
      | scalar tag text =>
        have hadmits : tag.admits text = true := hsound
        have htext : graph.textOf graph.size id = .ok text := by rw [size, textOf, hnode]
        rw [Node.tag] at hread
        rw [Tag.admits, hread] at hadmits
        rw [htext]
        change Yields _ (read text)
        revert hadmits
        dsimp only
        cases read text with
        | error fault => rintro ⟨⟩
        | ok a => exact fun hshown => hshown
      | sequence tag items =>
        have htext : graph.textOf graph.size id = .error .malformed := by
          rw [size, textOf, hnode, signValue?, mergedEntries.entriesOf, hnode]
          rfl
        rw [htext]
        rfl
      | mapping tag entries =>
        obtain rfl : tag = .mapping := hsound
        cases hread

/-- All atoms that have been read can be shown. -/
def Built.IsShown (built : Built) : Prop :=
  ∀ id a, built.lookup id = some (some a) → a.show?.isSome = true

theorem Built.isShown_nil : IsShown [] := by
  rintro id a ⟨⟩

theorem Built.IsShown.put {built : Built} (h : built.IsShown) (id : Nat) {atom : Option Atom}
    (hatom : ∀ a ∈ atom, a.show?.isSome = true) : IsShown (built.put id atom) := by
  intro other a ha
  rw [Table.lookup_put] at ha
  split at ha
  · exact hatom a (Option.some.inj ha)
  · exact h other a ha

theorem Built.IsShown.atomOf {built : Built} (h : built.IsShown) (id : Nat) :
    (built.atomOf id).show?.isSome = true := by
  unfold Built.atomOf
  cases hid : built.lookup id with
  | none => rfl
  | some atom =>
    cases atom with
    | none => rfl
    | some a => exact h id a hid

/-! ## Merge keys -/

/-- A mapping stays sound with other entries. -/
theorem IsSound.mapping (h : graph.IsSound) {id : Nat} {tag : Tag} {entries : List (Nat × Nat)}
    (hnode : graph.node? id = some (.mapping tag entries)) (other : List (Nat × Nat)) :
    (Node.mapping tag other).IsSound :=
  h id (.mapping tag entries) hnode

/-- A number belongs to no mapping. -/
def NoMapping (graph : Graph) (id : Nat) : Prop :=
  ∀ tag entries, graph.node? id ≠ some (.mapping tag entries)

/-- A sign of equality in a sound graph is no mapping. -/
theorem IsSound.noMapping_of_value (h : graph.IsSound) {id : Nat} (hsign : graph.hasTag .value id = true) :
    graph.NoMapping id := by
  intro tag entries hnode
  obtain rfl : tag = .mapping := h id _ hnode
  rw [hasTag, hnode] at hsign
  cases hsign

theorem NoMapping.set {id other : Nat} (h : graph.NoMapping other) {node : Node}
    (hnode : other = id → ∀ tag entries, node ≠ .mapping tag entries) :
    (graph.set id node).NoMapping other := by
  intro tag entries
  rw [node?_set]
  split
  · next hid => exact fun hmapping => hnode hid tag entries (Option.some.inj hmapping)
  · exact h tag entries

theorem NoMapping.retag {other : Nat} (h : graph.NoMapping other) (id : Nat) :
    (graph.retag .text id).NoMapping other := by
  unfold Graph.retag
  split
  · exact h.set fun _ _ _ => by rintro ⟨⟩
  · exact h.set fun _ _ _ => by rintro ⟨⟩
  · next hnode => exact h.set fun hid => absurd hnode (hid ▸ h _ _)
  · exact h

/-- What is no mapping may become a text. -/
theorem IsSound.retag (h : graph.IsSound) {id : Nat} (hid : graph.NoMapping id) :
    (graph.retag .text id).IsSound := by
  unfold Graph.retag
  split
  · exact h.set id rfl
  · exact h.set id trivial
  · next hnode => exact absurd hnode (hid _ _)
  · exact h

theorem IsSound.foldl_retag (h : graph.IsSound) {ids : List Nat} (hids : ∀ id ∈ ids, graph.NoMapping id) :
    (ids.foldl (·.retag .text) graph).IsSound := by
  induction ids generalizing graph with
  | nil => exact h
  | cons id ids ih =>
    obtain ⟨hid, hids⟩ := List.forall_mem_cons.1 hids
    exact ih (h.retag hid) fun other hother => (hids other hother).retag id

theorem IsSound.mergedEntries (h : graph.IsSound) {flatten : Nat → Graph → Except Fault Graph}
    (hflatten : ∀ id graph, graph.IsSound → Yields IsSound (flatten id graph)) (id : Nat) :
    Yields (fun result => result.1.IsSound) (mergedEntries flatten graph id) := by
  unfold Graph.mergedEntries
  split
  · exact (hflatten id graph h).bind fun after hafter => hafter
  · next items hnode =>
    refine Yields.bind (yields_foldlM (P := fun state => state.1.IsSound) ?_ items h)
      fun result hresult => hresult
    rintro ⟨graph, groups⟩ item hgraph
    dsimp only
    split
    · rfl
    · exact (hflatten item graph hgraph).bind fun after hafter => hafter
  · rfl

/-- Replacing merge keys leaves a sound graph. -/
theorem IsSound.flatten (h : graph.IsSound) (fuel id : Nat) : Yields IsSound (flatten fuel id graph) := by
  -- each merge key changes the graph in which the next one is replaced
  induction fuel generalizing graph id with
  | zero => exact h
  | succ fuel ih =>
    unfold Graph.flatten
    split
    · next tag entries hnode =>
      -- the signs among the keys are no mappings, and none of them is the mapping itself
      have hsigns : ∀ (own : List (Nat × Nat)),
          ∀ key ∈ (own.map (·.1)).filter (graph.hasTag .value),
            (graph.set id (.mapping tag own)).NoMapping key := by
        intro own key hkey
        have hnone := h.noMapping_of_value (List.mem_filter.1 hkey).2
        exact hnone.set fun hid => absurd hnode (hid ▸ hnone _ _)
      refine Yields.bind (yields_foldlM (P := fun state => state.1.IsSound) ?_ _
        ((h.set id (h.mapping hnode _)).foldl_retag (hsigns _))) fun result hresult => ?_
      · rintro ⟨graph, merged⟩ entry hgraph
        exact (hgraph.mergedEntries (fun id graph hgraph => ih hgraph id) entry.2).bind
          fun after hafter => hafter
      · obtain ⟨graph, merged⟩ := result
        dsimp only
        split
        · next tag own hnode => exact IsSound.set hresult id (IsSound.mapping hresult hnode _)
        · exact hresult
    · exact h

/-! ## Testing the nodes -/

theorem IsSound.parts (h : graph.IsSound) (id : Nat) :
    Yields (fun result => result.1.IsSound) (graph.parts id) := by
  unfold Graph.parts
  split
  · exact h
  · exact h
  · exact h
  · exact (h.flatten graph.size id).bind fun after hafter => hafter
  · exact (h.flatten graph.size id).bind fun after hafter => hafter
  · rfl

theorem IsSound.testParts (h : graph.IsSound) {built : Built} (hbuilt : built.IsShown)
    (waiting : List Nat) (parts : List (Option (Nat × Bool))) :
    Yields (fun result => result.1.IsShown) (graph.testParts built waiting parts) := by
  induction parts generalizing built waiting with
  | nil => exact hbuilt
  | cons part rest ih =>
    cases part with
    | none => rfl
    | some part =>
      obtain ⟨id, isKey⟩ := part
      have hatom := h.atom id
      unfold Graph.testParts
      dsimp only
      split
      · rfl
      · split
        · exact ih hbuilt _
        · split
          · exact ih (hbuilt.put id (by rintro a ⟨⟩)) _
          · split
            · next a ha =>
              rw [ha] at hatom
              refine ih (hbuilt.put id ?_) _
              rintro found ⟨⟩
              exact hatom
            · next fault hfault =>
              rw [hfault] at hatom
              exact hatom

/-- Testing fails for a malformed document only, and leaves a sound graph and atoms that can be shown. -/
theorem IsSound.test (h : graph.IsSound) (fuel : Nat) {built : Built} (hbuilt : built.IsShown)
    (waiting : List Nat) :
    Yields (fun result => result.1.IsSound ∧ result.2.IsShown) (graph.test fuel built waiting) := by
  induction fuel generalizing graph built waiting with
  | zero => cases waiting <;> exact ⟨h, hbuilt⟩
  | succ fuel ih =>
    cases waiting with
    | nil => exact ⟨h, hbuilt⟩
    | cons id waiting =>
      unfold Graph.test
      refine (h.parts id).bind fun result hresult => ?_
      exact (hresult.testParts hbuilt _ _).bind fun tested htested => ih hresult htested _

/-! ## Values -/

theorem isShown_insertEntry {entries : List (Atom × Value)} {key : Atom} {value : Value}
    (h : ∀ entry ∈ entries, Value.IsShownEntry entry) (hkey : key.show?.isSome = true)
    (hvalue : value.IsShown) : ∀ entry ∈ insertEntry entries key value, Value.IsShownEntry entry := by
  unfold insertEntry
  split
  · rw [List.forall_mem_map]
    intro entry hentry
    split
    · exact ⟨(h entry hentry).1, hvalue⟩
    · exact h entry hentry
  · rw [List.forall_mem_append]
    exact ⟨h, List.forall_mem_singleton.2 ⟨hkey, hvalue⟩⟩

theorem isShown_foldl_insertEntry {α : Type} {key : α → Atom} {value : α → Value}
    (hkey : ∀ item, (key item).show?.isSome = true) (hvalue : ∀ item, (value item).IsShown)
    (items : List α) {start : List (Atom × Value)} (h : ∀ entry ∈ start, Value.IsShownEntry entry) :
    ∀ entry ∈ items.foldl (fun map item => insertEntry map (key item) (value item)) start,
      Value.IsShownEntry entry := by
  induction items generalizing start with
  | nil => exact h
  | cons item items ih => exact ih (isShown_insertEntry h (hkey item) (hvalue item))

theorem isShown_pairsOf {α : Type} {inside : Nat → Value} (hinside : ∀ id, (inside id).IsShown)
    (entriesOf : α → List (Nat × Nat)) (items : List α) :
    (Value.pairs (items.flatMap fun item =>
      (entriesOf item).map fun entry => (inside entry.1, inside entry.2))).IsShown := by
  refine Value.isShown_pairs_iff.2 (List.forall_mem_flatMap.2 fun item _ => ?_)
  exact List.forall_mem_map.2 fun entry _ => ⟨hinside entry.1, hinside entry.2⟩

/-- A value that is put together from atoms that can be shown can be shown. -/
theorem Built.IsShown.value {built : Built} (h : built.IsShown) (fuel : Nat) (around : List Nat)
    (id : Nat) : (graph.value built fuel around id).IsShown := by
  induction fuel generalizing around id with
  | zero => rfl
  | succ fuel ih =>
    unfold Graph.value
    dsimp only
    split
    · split
      · rfl
      · exact Value.isShown_list_iff.2 (List.forall_mem_map.2 fun item _ => ih _ item)
    · split
      · rfl
      · exact isShown_pairsOf (ih _) _ _
    · split
      · rfl
      · exact isShown_pairsOf (ih _) _ _
    · split
      · rfl
      · exact Value.isShown_map_iff.2 (isShown_foldl_insertEntry
          (fun entry : Nat × Nat => h.atomOf entry.1) (fun entry => ih _ entry.2) _
          (List.forall_mem_nil _))
    · refine Value.isShown_set_iff.2 (List.forall_mem_map.2 fun entry hentry => ?_)
      exact (isShown_foldl_insertEntry (fun entry : Nat × Nat => h.atomOf entry.1)
        (fun _ => (rfl : Value.listInside.IsShown)) _ (List.forall_mem_nil _) entry hentry).1
    · exact Value.isShown_atom_iff.2 (h.atomOf id)

end Graph

/-! ## Documents -/

theorem Document.value_sound {document : Document} (h : document.graph.IsSound) :
    Yields Value.IsShown document.value := by
  unfold Document.value
  refine (h.testParts Graph.Built.isShown_nil _ _).bind fun tested htested => ?_
  exact (h.test _ htested _).bind fun result hresult => hresult.2.value _ _ _

/-- A text of sound tokens is malformed or has a value that can be shown. -/
theorem load_sound {cs : List Char} (h : (tokens cs).all Token.isSound = true) :
    Yields Value.IsShown (load cs) := by
  refine (ofTokens_sound (List.all_eq_true.1 h)).bind fun document hdocument => ?_
  cases document with
  | none => rfl
  | some document => exact Document.value_sound (hdocument document rfl)

end NamedKeys.Yaml
