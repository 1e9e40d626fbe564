import NamedKeys.Proofs.Yaml.Merge

/-!
# Mappings of one entry

A mapping whose value has one entry may list several: equal keys become one entry, with the value of the last.
So if a document has a value of one entry, from a text to a text, then all keys that its root lists write the
first text, and one of the listed values, the last of its own entries if it has any, writes the second
(`Document.lists_of_value`).  And however often the root has the same key, the document has such a value
(`Document.value_of_texts`).
-/

namespace NamedKeys.Yaml

namespace Atom

/-- Only the type of texts reads a text as one, and as its own. -/
theorem eq_of_read_eq_text {tag : Tag} {read : List Char → Except Fault Atom} {cs text : List Char}
    (hread : reader? tag = some read) (h : read cs = .ok (.text text)) : cs = text := by
  unfold reader? at hread
  split at hread <;> cases hread
  · cases h
  · unfold ofWord at h
    dsimp only at h
    split at h
    · cases h
    · split at h <;> cases h
  · obtain ⟨i, -, hi⟩ := exists_of_map_ok h
    cases hi
  · obtain ⟨x, -, hx⟩ := exists_of_map_ok h
    cases hx
  · unfold ofBase64 at h
    split at h
    · split at h <;> cases h
    · cases h
  · unfold ofDateText at h
    dsimp only at h
    split at h
    · cases h
    · split at h <;> split at h <;> cases h
  · cases h
    rfl

/-- A text is no other key. -/
theorem eq_of_key_eq_text {a : Atom} {text : List Char} (h : a.key = key (.text text)) : a = .text text := by
  cases a with
  | float bits =>
    simp only [key] at h
    split at h
    · cases h
    · cases h
  | time t =>
    simp only [key] at h
    split at h
    · cases h
    · cases h
  | _ => cases h <;> rfl

end Atom

namespace Graph

open mergedEntries (entriesOf)

variable {graph after : Graph} {id : Nat}

/-! ## Written texts -/

/-- The text that a node is written as: its own, or that of the value of an entry it lists whose key is a mere
sign of equality. -/
inductive Writes (graph : Graph) : Nat → List Char → Prop
  | scalar {id : Nat} {tag : Tag} {text : List Char} (h : graph.node? id = some (.scalar tag text)) :
    Writes graph id text
  | sign {id : Nat} {entry : Nat × Nat} {text : List Char} (h : graph.Lists id entry)
    (hkey : graph.hasTag .value entry.1 = true) (htext : Writes graph entry.2 text) :
    Writes graph id text

theorem Later.exists_node (h : Later graph after) {node : Node} (hnode : after.node? id = some node) :
    ∃ before, graph.node? id = some before ∧ graph.NodeLater id before node := by
  have hid := h id
  rw [hnode] at hid
  generalize graph.node? id = before? at hid
  cases hid with
  | some hid => exact ⟨_, rfl, hid⟩

/-- A key that is a sign of equality is no merge key. -/
theorem isMerge_of_value {entry : Nat × Nat} (h : graph.hasTag .value entry.1 = true) :
    graph.isMerge entry = false := by
  unfold isMerge hasTag at *
  cases hnode : graph.node? entry.1 with
  | none => rfl
  | some node =>
    rw [hnode, Option.any_some, decide_eq_true_eq] at h
    rw [Option.any_some, h]
    rfl

/-- What a node is read from after merge keys are replaced it was written as before. -/
theorem Later.writes (h : Later graph after) {fuel : Nat} {text : List Char}
    (htext : after.textOf fuel id = .ok text) : graph.Writes id text := by
  induction fuel generalizing id with
  | zero => cases htext
  | succ fuel ih =>
    unfold textOf at htext
    split at htext
    · next tag own hnode =>
      cases htext
      obtain ⟨before, hbefore, hlater⟩ := h.exists_node hnode
      cases hlater with
      | scalar htag text => exact .scalar hbefore
    · split at htext
      · next value hvalue =>
        obtain ⟨entry, hfind, rfl⟩ := Option.map_eq_some_iff.1 hvalue
        have hkey := List.find?_some hfind
        have hlists : after.Lists id entry :=
          .own (mem_own_iff.2 ⟨List.mem_of_find?_eq_some hfind, isMerge_of_value hkey⟩)
        exact .sign (h.lists hlists) (h.hasTag_value hkey) (ih htext)
      · cases htext

/-- A node that is read as a text was written as it. -/
theorem Later.writes_of_atom (h : Later graph after) {text : List Char}
    (hatom : after.atom id = .ok (.text text)) : graph.Writes id text := by
  unfold Graph.atom at hatom
  split at hatom
  · cases hatom
  · split at hatom
    · cases hatom
    · next read hread =>
      obtain ⟨found, hfound, hatom⟩ := exists_of_bind_ok hatom
      split at hatom
      · cases hatom
      · rw [← Atom.eq_of_read_eq_text hread hatom]
        exact h.writes hfound

/-- All nodes that have been read as texts are written as them. -/
def Built.IsWritten (built : Built) (graph : Graph) : Prop :=
  ∀ id text, built.lookup id = some (some (.text text)) → graph.Writes id text

theorem Built.IsWritten.put {built : Built} (h : built.IsWritten graph) (id : Nat) {atom : Option Atom}
    (hatom : ∀ text, atom = some (.text text) → graph.Writes id text) :
    IsWritten (built.put id atom) graph := by
  intro other text hother
  rw [Table.lookup_put] at hother
  split at hother
  · next hid =>
    rw [eq_of_beq hid]
    exact hatom text (Option.some.inj hother)
  · exact h other text hother

/-- A collection that is found first is not read. -/
theorem Built.isWritten_root (graph : Graph) (root : Nat) : IsWritten [(root, none)] graph := by
  intro id text hid
  rw [List.lookup_cons, List.lookup_nil] at hid
  split at hid <;> cases hid

/-- What a tested node has as its text it is written as. -/
theorem Built.IsWritten.writes {built : Built} (h : built.IsWritten graph) {text : List Char}
    (hatom : built.atomOf id = .text text) : graph.Writes id text := by
  refine h id text ?_
  unfold Built.atomOf at hatom
  cases hid : built.lookup id with
  | none =>
    rw [hid] at hatom
    cases hatom
  | some atom =>
    cases atom with
    | none =>
      rw [hid] at hatom
      cases hatom
    | some a =>
      rw [hid] at hatom
      exact congrArg (fun a => some (some a)) hatom

/-! ## Testing the nodes -/

theorem later_parts {result : Graph × List (Option (Nat × Bool))} (h : graph.parts id = .ok result) :
    Later graph result.1 := by
  unfold parts at h
  split at h
  · rw [← Except.ok.inj h]
    exact .refl graph
  · rw [← Except.ok.inj h]
    exact .refl graph
  · rw [← Except.ok.inj h]
    exact .refl graph
  · obtain ⟨after, hafter, hresult⟩ := exists_of_bind_ok h
    rw [← Except.ok.inj hresult]
    exact (flattened_size hafter).later
  · obtain ⟨after, hafter, hresult⟩ := exists_of_bind_ok h
    rw [← Except.ok.inj hresult]
    exact (flattened_size hafter).later
  · cases h

theorem Built.IsWritten.testParts {built : Built} (h : built.IsWritten graph) (hlater : Later graph after)
    {waiting : List Nat} {parts : List (Option (Nat × Bool))} {result : Built × List Nat}
    (htest : after.testParts built waiting parts = .ok result) : result.1.IsWritten graph := by
  induction parts generalizing built waiting with
  | nil =>
    cases htest
    exact h
  | cons part rest ih =>
    cases part with
    | none => cases htest
    | some part =>
      obtain ⟨id, isKey⟩ := part
      unfold Graph.testParts at htest
      dsimp only at htest
      split at htest
      · cases htest
      · split at htest
        · exact ih h htest
        · split at htest
          · exact ih (h.put id (by rintro text ⟨⟩)) htest
          · split at htest
            · next a ha =>
              refine ih (h.put id ?_) htest
              rintro text ⟨⟩
              exact hlater.writes_of_atom ha
            · cases htest

section

variable {fuel : Nat} {built : Built} {waiting : List Nat} {result : Graph × Built}

theorem later_test (h : graph.test fuel built waiting = .ok result) : Later graph result.1 := by
  induction fuel generalizing graph built waiting with
  | zero =>
    cases waiting <;>
    · cases h
      exact .refl graph
  | succ fuel ih =>
    cases waiting with
    | nil =>
      cases h
      exact .refl graph
    | cons id waiting =>
      unfold test at h
      obtain ⟨⟨next, parts⟩, hparts, h⟩ := exists_of_bind_ok h
      obtain ⟨tested, -, h⟩ := exists_of_bind_ok h
      exact (later_parts hparts).trans (ih h)

/-- What is read while merge keys are replaced was written before. -/
theorem Built.IsWritten.test {first : Graph} (h : built.IsWritten first) (hlater : Later first graph)
    (htest : graph.test fuel built waiting = .ok result) : result.2.IsWritten first := by
  induction fuel generalizing graph built waiting with
  | zero =>
    cases waiting <;>
    · cases htest
      exact h
  | succ fuel ih =>
    cases waiting with
    | nil =>
      cases htest
      exact h
    | cons id waiting =>
      unfold Graph.test at htest
      obtain ⟨⟨next, parts⟩, hparts, htest⟩ := exists_of_bind_ok htest
      obtain ⟨tested, htested, htest⟩ := exists_of_bind_ok htest
      have hnext := hlater.trans (later_parts hparts)
      exact ih (h.testParts hnext htested) hnext htest

end

/-- The mapping that is tested first has all entries that it lists, its own at the end. -/
theorem entriesOf_test {fuel : Nat} {built last : Built} {waiting : List Nat}
    {entries : List (Nat × Nat)} (hnode : graph.node? id = some (.mapping .mapping entries))
    (h : graph.test (fuel + 1) built (id :: waiting) = .ok (after, last)) :
    (∀ entry, entry ∈ entriesOf after id ↔ graph.Lists id entry) ∧
      ∃ taken, entriesOf after id = taken ++ graph.own id := by
  unfold test at h
  obtain ⟨⟨middle, parts⟩, hparts, h⟩ := exists_of_bind_ok h
  obtain ⟨⟨built, waiting⟩, -, hrest⟩ := exists_of_bind_ok h
  have hflat : Flattened graph id middle := by
    unfold Graph.parts at hparts
    rw [hnode] at hparts
    obtain ⟨next, hnext, hresult⟩ := exists_of_bind_ok hparts
    cases Except.ok.inj hresult
    exact flattened_size hnext
  have hlater : Later middle after := later_test hrest
  have hown : middle.own id = entriesOf middle id := by
    rw [own, List.filter_eq_self]
    intro entry hentry
    rw [hflat.later.isMerge, hflat.flat entry hentry]
    rfl
  obtain ⟨more, hmore, hafter⟩ : ∃ more, (∀ entry ∈ more, middle.Lists id entry) ∧
      entriesOf after id = more ++ entriesOf middle id := by
    rcases hlater.entriesOf_cases id with hsame | ⟨more, hmore, hentries⟩
    · exact ⟨[], List.forall_mem_nil _, hsame⟩
    · exact ⟨more, hmore, by rw [hentries, hown]⟩
  obtain ⟨taken, htaken⟩ : ∃ taken, entriesOf middle id = taken ++ graph.own id := by
    rcases hflat.later.entriesOf_cases id with hsame | ⟨taken, -, hentries⟩
    · refine ⟨[], ?_⟩
      rw [List.nil_append, ← hown, own, own, hflat.later.isMerge, hsame]
    · exact ⟨taken, hentries⟩
  refine ⟨fun entry => ⟨fun hentry => ?_, fun hlists => ?_⟩, more ++ taken, ?_⟩
  · rw [hafter, List.mem_append] at hentry
    rcases hentry with hentry | hentry
    · exact hflat.later.lists (hmore entry hentry)
    · exact hflat.later.lists (.own (hown ▸ hentry))
  · rw [hafter]
    exact List.mem_append_right _ (hflat.covers entry hlists)
  · rw [hafter, htaken, List.append_assoc]

/-! ## Equal keys -/

/-- The keys of the entries. -/
theorem mem_keys_insertEntry {map : List (Atom × Value)} {key : Atom} {value : Value} {k : Atom.Key}
    (h : k = key.key ∨ k ∈ map.map (·.1.key)) : k ∈ (insertEntry map key value).map (·.1.key) := by
  unfold insertEntry
  split
  · next hany =>
    obtain ⟨entry, hentry, hkey⟩ := List.any_eq_true.1 hany
    have hsame : (fun entry : Atom × Value => entry.1.key) ∘
        (fun entry => if entry.1.key = key.key then (entry.1, value) else entry) =
          fun entry => entry.1.key := by
      funext other
      rw [Function.comp_apply]
      split <;> rfl
    rw [List.map_map, hsame]
    rcases h with rfl | h
    · exact List.mem_map.2 ⟨entry, hentry, of_decide_eq_true hkey⟩
    · exact h
  · rw [List.map_append, List.mem_append]
    rcases h with rfl | h
    · exact .inr (List.mem_singleton_self _)
    · exact .inl h

theorem eq_of_insertEntry_eq_singleton {map : List (Atom × Value)} {key k : Atom} {value v : Value}
    (h : insertEntry map key value = [(k, v)]) : value = v := by
  unfold insertEntry at h
  split at h
  · next hany =>
    obtain ⟨entry, rfl, hentry⟩ := List.map_eq_singleton_iff.1 h
    have hkey : entry.1.key = key.key := by simpa using hany
    rw [if_pos hkey] at hentry
    exact (Prod.mk.inj hentry).2
  · cases map with
    | nil => exact (Prod.mk.inj (List.cons.inj h).1).2
    | cons entry map => simp at h

section

variable {α : Type} {key : α → Atom} {value : α → Value} {items : List α}

theorem mem_keys_foldl {item : α} (hitem : item ∈ items) : (key item).key ∈
    (items.foldl (fun map item => insertEntry map (key item) (value item)) []).map (·.1.key) := by
  induction items using List.reverseRecOn with
  | nil => cases hitem
  | append_singleton items last ih =>
    rw [List.foldl_append]
    refine mem_keys_insertEntry ?_
    rcases List.mem_append.1 hitem with hitem | hitem
    · exact .inr (ih hitem)
    · exact .inl (by rw [List.mem_singleton.1 hitem])

/-- If entries become one, then they have one key, and the one has the value of the last. -/
theorem keys_eq_of_foldl_eq_singleton {k : Atom} {v : Value}
    (h : items.foldl (fun map item => insertEntry map (key item) (value item)) [] = [(k, v)]) :
    (∀ item ∈ items, (key item).key = k.key) ∧ ∃ last ∈ items.getLast?, value last = v := by
  constructor
  · intro item hitem
    have hkey : (key item).key ∈
        (items.foldl (fun map item => insertEntry map (key item) (value item)) []).map (·.1.key) :=
      mem_keys_foldl hitem
    rw [h] at hkey
    exact List.mem_singleton.1 hkey
  · induction items using List.reverseRecOn with
    | nil => cases h
    | append_singleton items last _ =>
      rw [List.foldl_append] at h
      exact ⟨last, by simp, eq_of_insertEntry_eq_singleton h⟩

/-- Entries with one key become one, with the value of the last. -/
theorem foldl_insertEntry_of_keys {k : Atom} {last : α} (hkeys : ∀ item ∈ items, key item = k)
    (hlast : last ∈ items.getLast?) :
    items.foldl (fun map item => insertEntry map (key item) (value item)) [] = [(k, value last)] := by
  induction items using List.reverseRecOn generalizing last with
  | nil => cases hlast
  | append_singleton items final ih =>
    obtain ⟨hitems, hfinal⟩ := List.forall_mem_append.1 hkeys
    rw [List.getLast?_append, List.getLast?_singleton, Option.some_or, Option.mem_some_iff] at hlast
    rw [List.foldl_append, List.foldl_cons, List.foldl_nil, List.forall_mem_singleton.1 hfinal, ← hlast]
    cases hbefore : items.getLast? with
    | none =>
      rw [List.getLast?_eq_none_iff.1 hbefore]
      rfl
    | some before =>
      rw [ih hitems hbefore]
      simp [insertEntry]

end

/-! ## Documents of one entry -/

/-- A text is the value of a node that is read as it. -/
theorem atomOf_of_value {built : Built} {fuel : Nat} {around : List Nat} {text : List Char}
    (h : graph.value built fuel around id = .atom (.text text)) : built.atomOf id = .text text := by
  cases fuel with
  | zero => cases h
  | succ fuel =>
    unfold value at h
    dsimp only at h
    split at h
    · split at h <;> cases h
    · split at h <;> cases h
    · split at h <;> cases h
    · split at h <;> cases h
    · cases h
    · exact Value.atom.inj h

theorem mapping_of_value {built : Built} {fuel : Nat} {entries : List (Atom × Value)}
    (h : graph.value built (fuel + 1) [] id = .map entries) :
    ∃ listed, graph.node? id = some (.mapping .mapping listed) ∧
      entries = listed.foldl (fun map entry =>
        insertEntry map (built.atomOf entry.1) (graph.value built fuel [id] entry.2)) [] := by
  unfold value at h
  dsimp only at h
  split at h
  · split at h <;> cases h
  · split at h <;> cases h
  · split at h <;> cases h
  · next listed hnode => exact ⟨listed, hnode, (Value.map.inj h).symm⟩
  · cases h
  · cases h

theorem Later.mapping (h : Later graph after) {entries : List (Nat × Nat)}
    (hnode : after.node? id = some (.mapping .mapping entries)) :
    ∃ before, graph.node? id = some (.mapping .mapping before) := by
  obtain ⟨node, hbefore, hlater⟩ := h.exists_node hnode
  cases hlater with
  | same htag entries =>
    rcases htag with rfl | ⟨-, htext⟩
    · exact ⟨entries, hbefore⟩
    · cases htext
  | flat htag entries _ =>
    rcases htag with rfl | ⟨-, htext⟩
    · exact ⟨entries, hbefore⟩
    · cases htext

/-! ## Documents of texts -/

theorem testParts_mapping {entries : List (Nat × Nat)}
    (hnode : graph.node? id = some (.mapping .mapping entries)) :
    graph.testParts [] [] [some (id, false)] = .ok ([(id, none)], [id]) := by
  unfold testParts
  rw [hnode]
  rfl

theorem atom_of_text {text : List Char} (hnode : graph.node? id = some (.scalar .text text)) :
    graph.atom id = .ok (.text text) := by
  have htext : graph.textOf graph.size id = .ok text := by rw [size, textOf, hnode]
  rw [atom, hnode]
  dsimp only [Node.tag, Atom.reader?]
  rw [htext]
  rfl

/-- The texts among the tested nodes have been read as themselves. -/
def Built.HasTexts (built : Built) (graph : Graph) : Prop :=
  ∀ id text, graph.node? id = some (.scalar .text text) →
    ∀ atom ∈ built.lookup id, atom = some (.text text)

theorem Built.HasTexts.put {built : Built} (h : built.HasTexts graph) {text : List Char}
    (hnode : graph.node? id = some (.scalar .text text)) :
    HasTexts (built.put id (some (.text text))) graph := by
  intro other found hfound atom hatom
  rw [Option.mem_def, Table.lookup_put] at hatom
  split at hatom
  · next hid =>
    rw [eq_of_beq hid, hnode] at hfound
    cases hfound
    exact (Option.some.inj hatom).symm
  · exact h other found hfound atom hatom

theorem Built.HasTexts.atomOf {built : Built} (h : built.HasTexts graph) {text : List Char}
    (hnode : graph.node? id = some (.scalar .text text)) (htested : (built.lookup id).isSome) :
    built.atomOf id = .text text := by
  obtain ⟨atom, hatom⟩ := Option.isSome_iff_exists.1 htested
  rw [Built.atomOf, hatom, h id text hnode atom hatom]
  rfl

theorem value_of_text {built : Built} {text : List Char}
    (hnode : graph.node? id = some (.scalar .text text)) (hatom : built.atomOf id = .text text)
    (fuel : Nat) (around : List Nat) :
    graph.value built (fuel + 1) around id = .atom (.text text) := by
  rw [value, hnode]
  dsimp only
  rw [hatom]

/-- Texts are tested without a fault, and nothing more waits. -/
theorem testParts_of_texts {parts : List (Option (Nat × Bool))}
    (h : ∀ part ∈ parts, ∃ id isKey text, part = some (id, isKey) ∧
      graph.node? id = some (.scalar .text text)) {built : Built} (hbuilt : built.HasTexts graph)
    (waiting : List Nat) :
    ∃ tested, graph.testParts built waiting parts = .ok (tested, waiting) ∧ tested.HasTexts graph ∧
      (∀ id, (built.lookup id).isSome → (tested.lookup id).isSome) ∧
      ∀ id isKey, some (id, isKey) ∈ parts → (tested.lookup id).isSome := by
  induction parts generalizing built with
  | nil => exact ⟨built, rfl, hbuilt, fun _ h => h, fun _ _ h => absurd h (List.not_mem_nil)⟩
  | cons part parts ih =>
    obtain ⟨⟨id, isKey, text, rfl, hnode⟩, hparts⟩ := List.forall_mem_cons.1 h
    have hscalar : ((graph.node? id).any fun node => isCollection node.tag) = false := by
      rw [hnode]
      rfl
    -- the atom of the first part is there, and stays so
    obtain ⟨next, hnext, hthere, hkept, hstep⟩ : ∃ next : Built, next.HasTexts graph ∧
        (next.lookup id).isSome ∧ (∀ other, (built.lookup other).isSome → (next.lookup other).isSome) ∧
        graph.testParts built waiting (some (id, isKey) :: parts) =
          graph.testParts next waiting parts := by
      rw [testParts, hscalar, Bool.false_and, if_neg Bool.false_ne_true]
      split
      · next hthere => exact ⟨built, hbuilt, hthere, fun _ h => h, rfl⟩
      · rw [if_neg Bool.false_ne_true, atom_of_text hnode]
        refine ⟨_, hbuilt.put hnode, by rw [Table.lookup_put, if_pos (beq_self_eq_true id)]; rfl, ?_, rfl⟩
        intro other hother
        rw [Table.lookup_put]
        split
        · rfl
        · exact hother
    obtain ⟨tested, htested, htexts, hkeeps, hall⟩ := ih hparts hnext
    refine ⟨tested, hstep.trans htested, htexts, fun other hother => hkeeps other (hkept other hother), ?_⟩
    intro other isKey' hother
    rcases List.mem_cons.1 hother with heq | hother
    · cases heq
      exact hkeeps id hthere
    · exact hall other isKey' hother

/-- A mapping without merge keys and signs of equality stays as it is. -/
theorem flatten_of_plain {tag : Tag} {entries : List (Nat × Nat)}
    (hnode : graph.node? id = some (.mapping tag entries))
    (hplain : ∀ entry ∈ entries, graph.isMerge entry = false ∧ graph.hasTag .value entry.1 = false)
    (fuel : Nat) : ∃ after, flatten (fuel + 1) id graph = .ok after ∧
      (∀ n, after.node? n = graph.node? n) ∧ after.nodes ≠ [] := by
  have hmerges : (entries.filter fun entry => graph.hasTag .merge entry.1) = [] :=
    List.filter_eq_nil_iff.2 fun entry hentry => Bool.not_eq_true _ ▸ (hplain entry hentry).1
  have hown : entries.filter (not ∘ fun entry => graph.hasTag .merge entry.1) = entries := by
    rw [List.filter_eq_self]
    intro entry hentry
    rw [Function.comp_apply, Bool.not_eq_true']
    exact (hplain entry hentry).1
  have hsigns : (entries.map (·.1)).filter (graph.hasTag .value) = [] := by
    rw [List.filter_eq_nil_iff, List.forall_mem_map]
    exact fun entry hentry => Bool.not_eq_true _ ▸ (hplain entry hentry).2
  have hset : (graph.set id (.mapping tag entries)).node? id = some (.mapping tag entries) := by
    rw [node?_set, if_pos rfl]
  refine ⟨(graph.set id (.mapping tag entries)).set id (.mapping tag entries), ?_, ?_, List.cons_ne_nil _ _⟩
  · unfold flatten
    rw [hnode]
    dsimp only
    rw [List.partition_eq_filter_filter, hmerges, hown]
    dsimp only
    rw [hsigns]
    simp only [List.foldl_nil, List.foldlM_nil, pure_bind, hset, List.nil_append]
    rfl
  · intro n
    rw [node?_set, node?_set]
    split
    · next hn => rw [hn, hnode]
    · rfl

/-- A mapping of texts stays as it is when it is tested, and all of them are read. -/
theorem test_of_texts {entries : List (Nat × Nat)} (hnode : graph.node? id = some (.mapping .mapping entries))
    (htexts : ∀ entry ∈ entries, (∃ text, graph.node? entry.1 = some (.scalar .text text)) ∧
      ∃ text, graph.node? entry.2 = some (.scalar .text text)) (fuel : Nat) :
    ∃ after tested, graph.test (fuel + 1) [(id, none)] [id] = .ok (after, tested) ∧
      (∀ n, after.node? n = graph.node? n) ∧ after.nodes ≠ [] ∧
      ∀ entry ∈ entries, ∀ text, (graph.node? entry.1 = some (.scalar .text text) →
        tested.atomOf entry.1 = .text text) ∧ (graph.node? entry.2 = some (.scalar .text text) →
        tested.atomOf entry.2 = .text text) := by
  have hplain : ∀ entry ∈ entries, graph.isMerge entry = false ∧ graph.hasTag .value entry.1 = false := by
    intro entry hentry
    obtain ⟨⟨text, hkey⟩, -⟩ := htexts entry hentry
    rw [isMerge, hasTag, hasTag, hkey]
    exact ⟨rfl, rfl⟩
  obtain ⟨after, hafter, hsame, hne⟩ := flatten_of_plain hnode hplain graph.nodes.length
  have hparts : graph.parts id = .ok (after, entries.flatMap fun entry =>
      [some (entry.1, true), some (entry.2, false)]) := by
    have hentries : entriesOf after id = entries := by rw [entriesOf, hsame, hnode]
    rw [Graph.parts, hnode]
    dsimp only
    rw [size, hafter, ← hentries]
    rfl
  have hstart : Built.HasTexts [(id, none)] after := by
    intro other text hother atom hatom
    rw [Option.mem_def, List.lookup_cons, List.lookup_nil] at hatom
    split at hatom
    · next hid =>
      rw [hsame, eq_of_beq hid, hnode] at hother
      cases hother
    · cases hatom
  obtain ⟨tested, htested, hread, -, hall⟩ : ∃ tested, after.testParts [(id, none)] []
      (entries.flatMap fun entry => [some (entry.1, true), some (entry.2, false)]) =
        .ok (tested, []) ∧ tested.HasTexts after ∧ _ ∧ _ := by
    refine testParts_of_texts ?_ hstart []
    rw [List.forall_mem_flatMap]
    intro entry hentry
    obtain ⟨⟨key, hkey⟩, text, htext⟩ := htexts entry hentry
    rw [← hsame] at hkey htext
    simp only [List.mem_cons, List.not_mem_nil, or_false]
    rintro part (rfl | rfl)
    · exact ⟨entry.1, true, key, rfl, hkey⟩
    · exact ⟨entry.2, false, text, rfl, htext⟩
  refine ⟨after, tested, ?_, hsame, hne, fun entry hentry text => ⟨fun hkey => ?_, fun htext => ?_⟩⟩
  · unfold test
    rw [hparts]
    change (after.testParts [(id, none)] [] _ >>= fun found => after.test fuel found.1 found.2) = _
    rw [htested]
    cases fuel <;> rfl
  · exact hread.atomOf (hsame _ ▸ hkey)
      (hall _ _ (List.mem_flatMap.2 ⟨entry, hentry, List.mem_cons_self⟩))
  · exact hread.atomOf (hsame _ ▸ htext)
      (hall _ _ (List.mem_flatMap.2 ⟨entry, hentry, List.mem_cons_of_mem _ List.mem_cons_self⟩))

end Graph

namespace Document

variable {document : Document} {word text : List Char}

/-- In a document whose value is an entry from a text to a text, all listed keys write the one text, and the
last of the listed values writes the other. -/
theorem lists_of_value (h : document.value = .ok (.map [(.text word, .atom (.text text))])) :
    (∃ entries, document.graph.node? document.root = some (.mapping .mapping entries)) ∧
    (∀ entry, document.graph.Lists document.root entry → document.graph.Writes entry.1 word) ∧
    ∃ entry, document.graph.Lists document.root entry ∧ document.graph.Writes entry.2 text ∧
      ∀ last ∈ (document.graph.own document.root).getLast?, entry = last := by
  unfold value at h
  obtain ⟨⟨built, waiting⟩, hstart, h⟩ := exists_of_bind_ok h
  obtain ⟨⟨after, tested⟩, hafter, hvalue⟩ := exists_of_bind_ok h
  have hlater := Graph.later_test hafter
  obtain ⟨listed, hlisted, hentries⟩ := Graph.mapping_of_value (Except.ok.inj hvalue)
  obtain ⟨entries, hnode⟩ := hlater.mapping hlisted
  rw [Graph.testParts_mapping hnode] at hstart
  cases Except.ok.inj hstart
  have hwritten : tested.IsWritten document.graph :=
    Graph.Built.IsWritten.test (Graph.Built.isWritten_root _ _) (.refl _) hafter
  obtain ⟨hlists, taken, htaken⟩ := Graph.entriesOf_test hnode hafter
  rw [Graph.entriesOf_mapping hlisted] at hlists htaken
  obtain ⟨hkeys, last, hlast, hvalue⟩ := Graph.keys_eq_of_foldl_eq_singleton hentries.symm
  refine ⟨⟨entries, hnode⟩, fun entry hentry => ?_, last, ?_, ?_, ?_⟩
  · exact hwritten.writes (Atom.eq_of_key_eq_text (hkeys entry ((hlists entry).2 hentry)))
  · exact (hlists last).1 (List.mem_of_mem_getLast? hlast)
  · exact hwritten.writes (Graph.atomOf_of_value hvalue)
  · intro other hother
    rw [htaken, Option.mem_def, List.getLast?_append, hother] at hlast
    exact (Option.some.inj hlast).symm

/-- A document of texts whose root has one key, however often, is an entry with the last value. -/
theorem value_of_texts {entries : List (Nat × Nat)} {last : Nat × Nat}
    (hroot : document.graph.node? document.root = some (.mapping .mapping entries))
    (hkeys : ∀ entry ∈ entries, document.graph.node? entry.1 = some (.scalar .text word))
    (hvalues : ∀ entry ∈ entries, ∃ text, document.graph.node? entry.2 = some (.scalar .text text))
    (hlast : last ∈ entries.getLast?) (htext : document.graph.node? last.2 = some (.scalar .text text)) :
    document.value = .ok (.map [(.text word, .atom (.text text))]) := by
  obtain ⟨after, tested, hafter, hsame, hne, hread⟩ := Graph.test_of_texts hroot
    (fun entry hentry => ⟨⟨word, hkeys entry hentry⟩, hvalues entry hentry⟩)
    document.graph.nodes.length
  obtain ⟨node, nodes, hnodes⟩ := List.exists_cons_of_ne_nil hne
  have hvalue : after.value tested after.size [] document.root =
      .map (entries.foldl (fun map entry => Graph.insertEntry map (tested.atomOf entry.1)
        (after.value tested (nodes.length + 1) [document.root] entry.2)) []) := by
    rw [Graph.size, hnodes, List.length_cons, Graph.value, hsame, hroot]
    rfl
  have hdocument : document.value = .ok (after.value tested after.size [] document.root) := by
    unfold value
    dsimp only
    rw [Graph.testParts_mapping hroot]
    change (document.graph.test document.graph.size [(document.root, none)] [document.root] >>=
      fun found => return found.1.value found.2 found.1.size [] document.root) = _
    rw [Graph.size, hafter]
    rfl
  rw [hdocument, hvalue, Graph.foldl_insertEntry_of_keys (fun entry hentry =>
      (hread entry hentry word).1 (hkeys entry hentry)) hlast,
    Graph.value_of_text (hsame _ ▸ htext)
      ((hread last (List.mem_of_mem_getLast? hlast) text).2 htext)]

end Document

end NamedKeys.Yaml
