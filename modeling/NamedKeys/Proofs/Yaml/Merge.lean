import Mathlib.Data.Finset.Card
import Mathlib.Logic.Relation
import NamedKeys.Proofs.Results
import NamedKeys.Yaml.Value

/-!
# The entries that a mapping lists

A mapping lists its own entries, and those that the mappings after its merge keys list (`Graph.Lists`),
through any number of merge keys and also where these lead back to where they come from.  Replacing merge
keys puts exactly these entries into the mapping:

    flatten fuel id graph = .ok after → Flattened graph id after        (flattened)

The fuel is enough as soon as there are fewer mappings with merge keys than it, since one of them has none
left with each step down.
-/

namespace NamedKeys.Yaml.Graph

open mergedEntries (entriesOf)

/-! ## Listed entries -/

def itemsOf (graph : Graph) (id : Nat) : List Nat :=
  match graph.node? id with
  | some (.sequence _ items) => items
  | _ => []

def isMerge (graph : Graph) (entry : Nat × Nat) : Bool :=
  graph.hasTag .merge entry.1

def own (graph : Graph) (id : Nat) : List (Nat × Nat) :=
  (entriesOf graph id).filter (!graph.isMerge ·)

/-- The nodes whose entries the value of a merge key stands for: itself, or the items of a sequence. -/
def merged (graph : Graph) (value : Nat) : List Nat :=
  value :: graph.itemsOf value

/-- A node stands after a merge key of a mapping, alone or in a sequence. -/
def Merges (graph : Graph) (id part : Nat) : Prop :=
  ∃ entry ∈ entriesOf graph id, graph.isMerge entry = true ∧ part ∈ graph.merged entry.2

/-- A mapping lists an entry as its own or through a merge key. -/
inductive Lists (graph : Graph) : Nat → Nat × Nat → Prop
  | own {id : Nat} {entry : Nat × Nat} (h : entry ∈ graph.own id) : Lists graph id entry
  | merged {id part : Nat} {entry : Nat × Nat} (hpart : graph.Merges id part)
    (h : Lists graph part entry) : Lists graph id entry

variable {graph after last : Graph} {id : Nat}

theorem entriesOf_mapping {tag : Tag} {entries : List (Nat × Nat)}
    (h : graph.node? id = some (.mapping tag entries)) : entriesOf graph id = entries := by
  rw [entriesOf, h]

theorem exists_node_of_isMapping (h : mergedEntries.isMapping graph id = true) :
    ∃ tag entries, graph.node? id = some (.mapping tag entries) := by
  unfold mergedEntries.isMapping at h
  split at h
  · next tag entries hnode => exact ⟨tag, entries, hnode⟩
  · cases h

theorem isMapping_of_mem {entry : Nat × Nat} (h : entry ∈ entriesOf graph id) :
    mergedEntries.isMapping graph id = true := by
  unfold entriesOf at h
  split at h
  · next hnode => rw [mergedEntries.isMapping, hnode]
  · cases h

theorem mem_own_iff {entry : Nat × Nat} :
    entry ∈ graph.own id ↔ entry ∈ entriesOf graph id ∧ graph.isMerge entry = false := by
  rw [own, List.mem_filter, Bool.not_eq_true']

theorem own_mapping {tag : Tag} {entries : List (Nat × Nat)}
    (h : graph.node? id = some (.mapping tag entries)) :
    graph.own id = entries.filter (!graph.isMerge ·) := by
  rw [own, entriesOf_mapping h]

/-- What is listed is no merge key. -/
theorem Lists.isMerge {entry : Nat × Nat} (h : graph.Lists id entry) : graph.isMerge entry = false := by
  induction h with
  | own h => exact (mem_own_iff.1 h).2
  | merged _ _ ih => exact ih

/-- Only mappings list entries. -/
theorem Lists.isMapping {entry : Nat × Nat} (h : graph.Lists id entry) :
    mergedEntries.isMapping graph id = true := by
  cases h with
  | own h => exact isMapping_of_mem (mem_own_iff.1 h).1
  | merged hpart _ =>
    obtain ⟨entry, hentry, -⟩ := hpart
    exact isMapping_of_mem hentry

/-- A mapping lists what the mappings list that its merge keys lead to. -/
theorem Lists.of_reaches {other : Nat} {entry : Nat × Nat} (h : graph.Lists other entry)
    (hreach : Relation.ReflTransGen graph.Merges id other) : graph.Lists id entry := by
  induction hreach using Relation.ReflTransGen.head_induction_on with
  | refl => exact h
  | head hpart _ ih => exact .merged hpart ih

/-! ## Graphs with fewer merge keys -/

/-- A type that may take the stead of another: the type of a mere sign of equality becomes that of texts. -/
def TagLater (tag later : Tag) : Prop :=
  later = tag ∨ tag = .value ∧ later = .text

/-- A node that may take the stead of another: a mapping may have entries that it lists before its own, which
stay in order, and no merge keys any more. -/
inductive NodeLater (graph : Graph) (id : Nat) : Node → Node → Prop
  | scalar {tag later : Tag} (htag : TagLater tag later) (text : List Char) :
    NodeLater graph id (.scalar tag text) (.scalar later text)
  | sequence {tag later : Tag} (htag : TagLater tag later) (items : List Nat) :
    NodeLater graph id (.sequence tag items) (.sequence later items)
  | same {tag later : Tag} (htag : TagLater tag later) (entries : List (Nat × Nat)) :
    NodeLater graph id (.mapping tag entries) (.mapping later entries)
  | flat {tag later : Tag} (htag : TagLater tag later) (entries : List (Nat × Nat))
    {taken : List (Nat × Nat)} (htaken : ∀ entry ∈ taken, graph.Lists id entry) :
    NodeLater graph id (.mapping tag entries)
      (.mapping later (taken ++ entries.filter (!graph.isMerge ·)))

/-- A graph in which some merge keys are replaced. -/
def Later (graph after : Graph) : Prop :=
  ∀ id, Option.Rel (graph.NodeLater id) (graph.node? id) (after.node? id)

theorem TagLater.trans {tag later last : Tag} (h : TagLater tag later) (h' : TagLater later last) :
    TagLater tag last := by
  rcases h with rfl | ⟨rfl, rfl⟩
  · exact h'
  · rcases h' with rfl | ⟨h, -⟩
    · exact .inr ⟨rfl, rfl⟩
    · cases h

theorem TagLater.eq_iff {tag later : Tag} (h : TagLater tag later) {wanted : Tag}
    (hvalue : wanted ≠ .value) (htext : wanted ≠ .text) : later = wanted ↔ tag = wanted := by
  rcases h with rfl | ⟨rfl, rfl⟩
  · rfl
  · exact iff_of_false htext.symm hvalue.symm

theorem NodeLater.tag {node other : Node} (h : graph.NodeLater id node other) :
    TagLater node.tag other.tag := by
  cases h with
  | scalar htag | sequence htag | same htag | flat htag => exact htag

theorem NodeLater.refl (node : Node) : graph.NodeLater id node node := by
  cases node with
  | scalar tag text => exact .scalar (.inl rfl) text
  | sequence tag items => exact .sequence (.inl rfl) items
  | mapping tag entries => exact .same (.inl rfl) entries

theorem Later.refl (graph : Graph) : Later graph graph := by
  intro id
  cases graph.node? id with
  | none => exact .none
  | some node => exact .some (.refl node)

/-! What such a graph has in common with the one before. -/

theorem Later.tag (h : Later graph after) {node later : Node} (hnode : graph.node? id = some node)
    (hafter : after.node? id = some later) : TagLater node.tag later.tag := by
  have hid := h id
  rw [hnode, hafter] at hid
  cases hid with
  | some hid => exact hid.tag

theorem Later.itemsOf (h : Later graph after) (id : Nat) : after.itemsOf id = graph.itemsOf id := by
  have hid := h id
  unfold Graph.itemsOf
  generalize graph.node? id = node?, after.node? id = later? at hid
  cases hid with
  | none => rfl
  | some hnode => cases hnode <;> rfl

theorem Later.isMapping (h : Later graph after) (id : Nat) :
    mergedEntries.isMapping after id = mergedEntries.isMapping graph id := by
  have hid := h id
  unfold mergedEntries.isMapping
  generalize graph.node? id = node?, after.node? id = later? at hid
  cases hid with
  | none => rfl
  | some hnode => cases hnode <;> rfl

theorem Later.hasTag_merge (h : Later graph after) (id : Nat) :
    after.hasTag .merge id = graph.hasTag .merge id := by
  have hid := h id
  unfold hasTag
  generalize graph.node? id = node?, after.node? id = later? at hid
  cases hid with
  | none => rfl
  | some hnode => exact decide_eq_decide.2 (hnode.tag.eq_iff (by decide) (by decide))

theorem Later.hasTag_value (h : Later graph after) (htag : after.hasTag .value id = true) :
    graph.hasTag .value id = true := by
  have hid := h id
  unfold hasTag at htag ⊢
  generalize graph.node? id = node?, after.node? id = later? at hid htag
  cases hid with
  | none => exact htag
  | some hnode =>
    rw [Option.any_some, decide_eq_true_eq] at htag ⊢
    rcases hnode.tag with heq | ⟨-, heq⟩
    · rw [← heq, htag]
    · rw [htag] at heq
      cases heq

theorem Later.isMerge (h : Later graph after) : after.isMerge = graph.isMerge :=
  funext fun entry => h.hasTag_merge entry.1

theorem Later.merged (h : Later graph after) (value : Nat) : after.merged value = graph.merged value := by
  rw [Graph.merged, h.itemsOf, Graph.merged]

/-- The entries of a mapping are the same, or its merge keys are replaced. -/
theorem Later.entriesOf_cases (h : Later graph after) (id : Nat) :
    entriesOf after id = entriesOf graph id ∨
      ∃ taken, (∀ entry ∈ taken, graph.Lists id entry) ∧
        entriesOf after id = taken ++ graph.own id := by
  have hid := h id
  unfold own entriesOf
  generalize hnode : graph.node? id = node?, after.node? id = later? at hid
  cases hid with
  | none => exact .inl rfl
  | some hlater =>
    cases hlater with
    | scalar | sequence | same => exact .inl rfl
    | flat htag entries htaken => exact .inr ⟨_, htaken, rfl⟩

theorem Later.merges (h : Later graph after) {part : Nat} (hmerges : after.Merges id part) :
    graph.Merges id part := by
  obtain ⟨entry, hentry, hkey, hpart⟩ := hmerges
  rw [h.isMerge] at hkey
  rw [h.merged] at hpart
  rcases h.entriesOf_cases id with hsame | ⟨taken, htaken, hflat⟩
  · exact ⟨entry, hsame ▸ hentry, hkey, hpart⟩
  · rw [hflat, List.mem_append] at hentry
    rcases hentry with hentry | hentry
    · rw [(htaken entry hentry).isMerge] at hkey
      cases hkey
    · rw [(mem_own_iff.1 hentry).2] at hkey
      cases hkey

/-- Nothing more is listed. -/
theorem Later.lists (h : Later graph after) {entry : Nat × Nat} (hlists : after.Lists id entry) :
    graph.Lists id entry := by
  induction hlists with
  | @own id entry hentry =>
    rw [mem_own_iff, h.isMerge] at hentry
    rcases h.entriesOf_cases id with hsame | ⟨taken, htaken, hflat⟩
    · exact .own (mem_own_iff.2 ⟨hsame ▸ hentry.1, hentry.2⟩)
    · rw [hflat, List.mem_append] at hentry
      rcases hentry.1 with hentry | hentry
      · exact htaken entry hentry
      · exact .own hentry
  | merged hpart _ ih => exact .merged (h.merges hpart) ih

theorem Later.reaches (h : Later graph after) {other : Nat}
    (hreach : Relation.ReflTransGen after.Merges id other) :
    Relation.ReflTransGen graph.Merges id other :=
  Relation.ReflTransGen.mono (fun _ _ => h.merges) _ _ hreach

theorem NodeLater.trans (h : Later graph after) {node middle final : Node}
    (hnode : graph.NodeLater id node middle) (hmiddle : after.NodeLater id middle final) :
    graph.NodeLater id node final := by
  cases hnode with
  | scalar htag text =>
    cases hmiddle with
    | scalar htag' => exact .scalar (htag.trans htag') text
  | sequence htag items =>
    cases hmiddle with
    | sequence htag' => exact .sequence (htag.trans htag') items
  | same htag entries =>
    cases hmiddle with
    | same htag' => exact .same (htag.trans htag') entries
    | flat htag' _ htaken =>
      rw [h.isMerge]
      exact .flat (htag.trans htag') entries fun entry hentry => h.lists (htaken entry hentry)
  | @flat _ _ htag entries taken htaken =>
    cases hmiddle with
    | same htag' => exact .flat (htag.trans htag') entries htaken
    | @flat _ _ htag' _ more hmore =>
      -- none of the entries was a merge key any more
      have hkept : (taken ++ entries.filter (!graph.isMerge ·)).filter (!after.isMerge ·) =
          taken ++ entries.filter (!graph.isMerge ·) := by
        rw [h.isMerge, List.filter_eq_self]
        intro entry hentry
        rcases List.mem_append.1 hentry with hentry | hentry
        · rw [(htaken entry hentry).isMerge]
          rfl
        · exact (List.mem_filter.1 hentry).2
      rw [hkept, ← List.append_assoc]
      refine .flat (htag.trans htag') entries (List.forall_mem_append.2 ⟨?_, htaken⟩)
      exact fun entry hentry => h.lists (hmore entry hentry)

theorem Later.trans (h : Later graph after) (h' : Later after last) : Later graph last := by
  intro id
  have hid := h id
  have hid' := h' id
  generalize graph.node? id = node?, after.node? id = middle?, last.node? id = final? at hid hid'
  cases hid with
  | none =>
    cases hid'
    exact .none
  | some hnode =>
    cases hid' with
    | some hmiddle => exact .some (hnode.trans h hmiddle)

/-- Another node may be put into the graph under a number. -/
theorem Later.set (h : Later graph after) {node other : Node} (hnode : graph.node? id = some node)
    (hother : graph.NodeLater id node other) : Later graph (after.set id other) := by
  intro n
  rw [node?_set]
  split
  · next heq =>
    rw [heq, hnode]
    exact .some hother
  · exact h n

theorem NodeLater.retag {node later : Node} (h : graph.NodeLater id node later)
    (hsign : node.tag = .value) : ∃ other, (∀ g : Graph, g.node? id = some later →
      g.retag .text id = g.set id other) ∧ graph.NodeLater id node other := by
  cases h with
  | scalar htag text =>
    exact ⟨.scalar .text text, fun g hg => by rw [Graph.retag, hg], .scalar (.inr ⟨hsign, rfl⟩) text⟩
  | sequence htag items =>
    exact ⟨.sequence .text items, fun g hg => by rw [Graph.retag, hg],
      .sequence (.inr ⟨hsign, rfl⟩) items⟩
  | same htag entries =>
    exact ⟨.mapping .text entries, fun g hg => by rw [Graph.retag, hg], .same (.inr ⟨hsign, rfl⟩) entries⟩
  | flat htag entries htaken =>
    exact ⟨_, fun g hg => by rw [Graph.retag, hg], .flat (.inr ⟨hsign, rfl⟩) entries htaken⟩

/-- A sign of equality may be made a text. -/
theorem Later.retag (h : Later graph after) (hsign : graph.hasTag .value id = true) :
    Later graph (after.retag .text id) := by
  have hid := h id
  unfold hasTag at hsign
  cases hnode : graph.node? id with
  | none =>
    rw [hnode] at hsign
    cases hsign
  | some node =>
    rw [hnode] at hid hsign
    cases hlater : after.node? id with
    | none =>
      rw [hlater] at hid
      cases hid
    | some later =>
      rw [hlater] at hid
      cases hid with
      | some hid =>
        obtain ⟨other, hretag, hother⟩ := hid.retag (of_decide_eq_true hsign)
        rw [hretag after hlater]
        exact h.set hnode hother

theorem Later.foldl_retag (h : Later graph after) {ids : List Nat}
    (hsigns : ∀ id ∈ ids, graph.hasTag .value id = true) :
    Later graph (ids.foldl (·.retag .text) after) := by
  induction ids generalizing after with
  | nil => exact h
  | cons id ids ih =>
    obtain ⟨hid, hids⟩ := List.forall_mem_cons.1 hsigns
    exact ih (h.retag hid) hids

/-! ## Visiting the nodes after merge keys -/

/-- The merge keys of a mapping are replaced: it has all entries that it lists, and only mappings to which its
merge keys lead are changed. -/
structure Flattened (graph : Graph) (id : Nat) (after : Graph) : Prop where
  later : Later graph after
  flat : ∀ entry ∈ entriesOf after id, graph.isMerge entry = false
  covers : ∀ entry, graph.Lists id entry → entry ∈ entriesOf after id
  frame : ∀ n, entriesOf after n = entriesOf graph n ∨ Relation.ReflTransGen graph.Merges id n

/-- Some nodes have been visited, and the entries that they list are taken. -/
structure Merging (graph : Graph) (visited : List Nat) (after : Graph) (taken : List (Nat × Nat)) :
    Prop where
  later : Later graph after
  lists : ∀ entry ∈ taken, ∃ part ∈ visited, graph.Lists part entry
  covers : ∀ part ∈ visited, ∀ entry, graph.Lists part entry → entry ∈ taken
  frame : ∀ n, entriesOf after n = entriesOf graph n ∨
    ∃ part ∈ visited, Relation.ReflTransGen graph.Merges part n

theorem Merging.start (graph : Graph) : Merging graph [] graph [] :=
  ⟨.refl graph, fun _ h => absurd h List.not_mem_nil, fun _ h => absurd h List.not_mem_nil,
    fun _ => .inl rfl⟩

section

variable {visited : List Nat} {taken : List (Nat × Nat)}

/-- What a mapping lists is taken, or the mapping lists it still: where it leads through a mapping that has
been changed, a visited node lists it too. -/
theorem Merging.taken_or_lists (h : Merging graph visited after taken) {entry : Nat × Nat}
    (hlists : graph.Lists id entry) : entry ∈ taken ∨ after.Lists id entry := by
  induction hlists with
  | @own id entry hentry =>
    rcases h.frame id with hsame | ⟨part, hpart, hreach⟩
    · right
      rw [mem_own_iff, ← hsame, ← h.later.isMerge] at hentry
      exact .own (mem_own_iff.2 hentry)
    · exact .inl (h.covers part hpart entry ((Lists.own hentry).of_reaches hreach))
  | @merged id next entry hnext hlists ih =>
    rcases h.frame id with hsame | ⟨part, hpart, hreach⟩
    · obtain ⟨merge, hmerge, hkey, hitem⟩ := hnext
      have hafter : after.Merges id next :=
        ⟨merge, hsame ▸ hmerge, h.later.isMerge ▸ hkey, h.later.merged _ ▸ hitem⟩
      exact ih.imp_right (.merged hafter)
    · exact .inl (h.covers part hpart entry ((Lists.merged hnext hlists).of_reaches hreach))

/-- One more node is visited. -/
theorem Merging.visit (h : Merging graph visited after taken) {part : Nat}
    (hpart : Flattened after part last) {more : List (Nat × Nat)}
    (hmore : ∀ entry, entry ∈ more ↔ entry ∈ taken ∨ entry ∈ entriesOf last part) :
    Merging graph (visited ++ [part]) last more := by
  have hlater := h.later.trans hpart.later
  constructor
  · exact hlater
  · intro entry hentry
    rcases (hmore entry).1 hentry with htaken | hentries
    · obtain ⟨other, hother, hlists⟩ := h.lists entry htaken
      exact ⟨other, List.mem_append_left _ hother, hlists⟩
    · have hkey := hpart.flat entry hentries
      rw [← hpart.later.isMerge] at hkey
      exact ⟨part, List.mem_append_right _ (List.mem_singleton_self part),
        hlater.lists (.own (mem_own_iff.2 ⟨hentries, hkey⟩))⟩
  · intro other hother entry hlists
    rw [hmore]
    rcases List.mem_append.1 hother with hother | hother
    · exact .inl (h.covers other hother entry hlists)
    · rw [List.mem_singleton.1 hother] at hlists
      exact (h.taken_or_lists hlists).imp_right (hpart.covers entry)
  · intro n
    rcases hpart.frame n with hsame | hreach
    · rw [hsame]
      refine (h.frame n).imp_right fun ⟨other, hother, hreach⟩ => ?_
      exact ⟨other, List.mem_append_left _ hother, hreach⟩
    · exact .inr ⟨part, List.mem_append_right _ (List.mem_singleton_self part), h.later.reaches hreach⟩

/-- A node that is no mapping lists nothing. -/
theorem Merging.idle (h : Merging graph visited after taken) {part : Nat}
    (hpart : mergedEntries.isMapping graph part = false) :
    Merging graph (visited ++ [part]) after taken := by
  constructor
  · exact h.later
  · intro entry hentry
    obtain ⟨other, hother, hlists⟩ := h.lists entry hentry
    exact ⟨other, List.mem_append_left _ hother, hlists⟩
  · intro other hother entry hlists
    rcases List.mem_append.1 hother with hother | hother
    · exact h.covers other hother entry hlists
    · have hmapping := hlists.isMapping
      rw [List.mem_singleton.1 hother, hpart] at hmapping
      cases hmapping
  · intro n
    refine (h.frame n).imp_right fun ⟨other, hother, hreach⟩ => ?_
    exact ⟨other, List.mem_append_left _ hother, hreach⟩

/-- The nodes that a merge key stands for are visited, and their entries are given back. -/
theorem Merging.mergedEntries (h : Merging graph visited after taken)
    {flatten : Nat → Graph → Except Fault Graph}
    (hflatten : ∀ part middle last, Later graph middle → flatten part middle = .ok last →
      Flattened middle part last)
    {value : Nat} {result : Graph × List (Nat × Nat)}
    (hok : mergedEntries flatten after value = .ok result) :
    Merging graph (visited ++ graph.merged value) result.1 (taken ++ result.2) := by
  have hitems := h.later.itemsOf value
  have hmapping := h.later.isMapping value
  unfold Graph.mergedEntries at hok
  unfold Graph.itemsOf at hitems
  unfold mergedEntries.isMapping at hmapping
  unfold Graph.merged
  unfold Graph.itemsOf
  split at hok
  · next hnode =>
    rw [hnode] at hitems
    obtain ⟨last, hlast, hresult⟩ := exists_of_bind_ok hok
    obtain rfl := Except.ok.inj hresult
    dsimp only at hitems
    rw [← hitems]
    exact h.visit (hflatten value after last h.later hlast) fun entry => List.mem_append
  · next tag items hnode =>
    rw [hnode] at hitems hmapping
    obtain ⟨⟨last, groups⟩, hfold, hresult⟩ := exists_of_bind_ok hok
    obtain rfl := Except.ok.inj hresult
    dsimp only at hitems hmapping ⊢
    rw [← hitems, ← List.singleton_append, ← List.append_assoc]
    refine foldlM_invariant (P := fun seen state =>
      Merging graph ((visited ++ [value]) ++ seen) state.1 (taken ++ state.2.flatten)) ?_ ?_ hfold
    · rintro seen ⟨middle, groups⟩ item - state hmiddle hstep
      dsimp only at hmiddle hstep
      split at hstep
      · cases hstep
      · obtain ⟨next, hnext, hstate⟩ := exists_of_bind_ok hstep
        obtain rfl := Except.ok.inj hstate
        rw [← List.append_assoc]
        refine hmiddle.visit (hflatten item middle next hmiddle.later hnext) fun entry => ?_
        simp only [List.flatten_cons, List.mem_append]
        tauto
    · rw [List.append_nil, List.flatten_nil, List.append_nil]
      exact h.idle hmapping.symm
  · cases hok

/-- The nodes that some merge keys stand for are visited one after the other. -/
theorem Merging.foldlM {flatten : Nat → Graph → Except Fault Graph} {merges : List (Nat × Nat)}
    (hflatten : ∀ entry ∈ merges, ∀ part middle last, Later graph middle →
      flatten part middle = .ok last → Flattened middle part last)
    (hfold : merges.foldlM (fun (graph, merged) entry => do
      let (graph, more) ← Graph.mergedEntries flatten graph entry.2
      return (graph, merged ++ more)) (graph, []) = .ok (after, taken)) :
    Merging graph (merges.flatMap fun entry => graph.merged entry.2) after taken := by
  refine foldlM_invariant (P := fun (seen : List (Nat × Nat)) (state : Graph × List (Nat × Nat)) =>
    Merging graph (seen.flatMap fun entry => graph.merged entry.2) state.1 state.2) ?_ ?_ hfold
  · rintro seen ⟨before, taken⟩ entry hentry state hbefore hstep
    obtain ⟨result, hresult, hstate⟩ := exists_of_bind_ok hstep
    obtain rfl := Except.ok.inj hstate
    rw [List.flatMap_append, List.flatMap_singleton]
    exact hbefore.mergedEntries (hflatten entry hentry) hresult
  · exact .start graph

end

/-! ## Replacing merge keys -/

/-- Whether a mapping has merge keys. -/
def isOpen (graph : Graph) (id : Nat) : Bool :=
  (entriesOf graph id).any graph.isMerge

theorem Later.isOpen (h : Later graph after) (hopen : after.isOpen id = true) : graph.isOpen id = true := by
  obtain ⟨entry, hentry, hkey⟩ := List.any_eq_true.1 hopen
  obtain ⟨entry, hentry, hkey, -⟩ := h.merges ⟨entry, hentry, hkey, List.mem_cons_self⟩
  exact List.any_eq_true.2 ⟨entry, hentry, hkey⟩

/-- A graph in which a mapping has its merge keys no more and no entries in their stead. -/
structure Stripped (graph : Graph) (id : Nat) (bare : Graph) : Prop where
  later : Later graph bare
  own : entriesOf bare id = graph.own id
  other : ∀ n, n ≠ id → entriesOf bare n = entriesOf graph n

theorem entriesOf_set_of_ne (graph : Graph) {n : Nat} (hn : n ≠ id) (node : Node) :
    entriesOf (graph.set id node) n = entriesOf graph n := by
  rw [entriesOf, node?_set, if_neg hn, entriesOf]

theorem entriesOf_retag (graph : Graph) (tag : Tag) (id n : Nat) :
    entriesOf (graph.retag tag id) n = entriesOf graph n := by
  cases hnode : graph.node? id with
  | none => rw [retag, hnode]
  | some node =>
    by_cases hn : n = id
    · rw [hn]
      cases node <;> simp [retag, entriesOf, hnode, node?_set]
    · cases node <;> simp only [retag, hnode, entriesOf_set_of_ne graph hn]

theorem entriesOf_foldl_retag (graph : Graph) (ids : List Nat) (n : Nat) :
    entriesOf (ids.foldl (·.retag .text) graph) n = entriesOf graph n := by
  induction ids generalizing graph with
  | nil => rfl
  | cons id ids ih => rw [List.foldl_cons, ih, entriesOf_retag]

/-- The graph in which the nodes after merge keys are visited. -/
theorem stripped {tag : Tag} {entries : List (Nat × Nat)} (hnode : graph.node? id = some (.mapping tag entries))
    {signs : List Nat} (hsigns : ∀ n ∈ signs, graph.hasTag .value n = true) :
    Stripped graph id
      (signs.foldl (·.retag .text) (graph.set id (.mapping tag (graph.own id)))) := by
  constructor
  · refine Later.foldl_retag ((Later.refl graph).set hnode ?_) hsigns
    rw [own_mapping hnode, ← List.nil_append (entries.filter _)]
    exact .flat (.inl rfl) entries (List.forall_mem_nil _)
  · rw [entriesOf_foldl_retag]
    exact entriesOf_mapping (by rw [node?_set, if_pos rfl])
  · intro n hn
    rw [entriesOf_foldl_retag, entriesOf_set_of_ne graph hn]

namespace Stripped

variable {bare : Graph} {entry : Nat × Nat}

theorem own_eq (h : Stripped graph id bare) : bare.own id = graph.own id := by
  rw [Graph.own, h.own, h.later.isMerge, List.filter_eq_self]
  exact fun entry hentry => (List.mem_filter.1 hentry).2

/-- The mapping has no merge keys. -/
theorem not_merges (h : Stripped graph id bare) (part : Nat) : ¬ bare.Merges id part := by
  rintro ⟨entry, hentry, hkey, -⟩
  rw [h.own, mem_own_iff] at hentry
  rw [h.later.isMerge, hentry.2] at hkey
  cases hkey

/-- Where a way to an entry does not come back to the mapping, it is a way still. -/
theorem lists_cases (h : Stripped graph id bare) {n : Nat} (hlists : graph.Lists n entry) :
    bare.Lists n entry ∨ entry ∈ graph.own id ∨ ∃ part, graph.Merges id part ∧ bare.Lists part entry := by
  induction hlists with
  | @own n entry hentry =>
    by_cases hn : n = id
    · rw [hn] at hentry
      exact .inr (.inl hentry)
    · rw [mem_own_iff, ← h.other n hn, ← h.later.isMerge] at hentry
      exact .inl (.own (mem_own_iff.2 hentry))
  | @merged n part entry hpart _ ih =>
    rcases ih with hbare | hlists
    · by_cases hn : n = id
      · rw [hn] at hpart
        exact .inr (.inr ⟨part, hpart, hbare⟩)
      · obtain ⟨merge, hmerge, hkey, hitem⟩ := hpart
        refine .inl (.merged ⟨merge, ?_, ?_, ?_⟩ hbare)
        · rwa [h.other n hn]
        · rwa [h.later.isMerge]
        · rwa [h.later.merged]
    · exact .inr hlists

theorem own_or_merged (h : Stripped graph id bare) (hlists : graph.Lists id entry) :
    entry ∈ graph.own id ∨ ∃ part, graph.Merges id part ∧ bare.Lists part entry := by
  rcases h.lists_cases hlists with hbare | hcases
  · cases hbare with
    | own hentry => exact .inl (h.own ▸ (mem_own_iff.1 hentry).1)
    | merged hpart _ => exact absurd hpart (h.not_merges _)
  · exact hcases

/-- There are fewer mappings with merge keys. -/
theorem card_lt (h : Stripped graph id bare) {S : Finset Nat} (hid : graph.isOpen id = true)
    (hopen : ∀ n, graph.isOpen n = true → n ∈ S) (hlater : Later bare after) :
    (S.filter (after.isOpen ·)).card < (S.filter (graph.isOpen ·)).card := by
  refine Finset.card_lt_card (Finset.ssubset_iff_of_subset ?_ |>.2 ⟨id, ?_, ?_⟩)
  · exact Finset.monotone_filter_right S fun n _ hn => h.later.isOpen (hlater.isOpen hn)
  · exact Finset.mem_filter.2 ⟨hopen id hid, hid⟩
  · rintro hmem
    obtain ⟨merge, hmerge, hkey⟩ := List.any_eq_true.1 (hlater.isOpen (Finset.mem_filter.1 hmem).2)
    exact h.not_merges _ ⟨merge, hmerge, hkey, List.mem_cons_self⟩

/-- The mapping may be visited again on the way, and then entries that it lists come before its own. -/
theorem exists_again (h : Stripped graph id bare) (hlater : Later bare after) {later : Tag}
    {front : List (Nat × Nat)} (hafter : after.node? id = some (.mapping later front)) :
    ∃ again, (∀ entry ∈ again, graph.Lists id entry) ∧ front = again ++ graph.own id := by
  have hfront : entriesOf after id = front := entriesOf_mapping hafter
  rcases hlater.entriesOf_cases id with hsame | ⟨again, hagain, hflat⟩
  · exact ⟨[], List.forall_mem_nil _, by rw [← hfront, hsame, h.own, List.nil_append]⟩
  · refine ⟨again, fun entry hentry => h.later.lists (hagain entry hentry), ?_⟩
    rw [← hfront, hflat, h.own_eq]

/-- With the entries of all nodes after its merge keys, the mapping has all that it lists. -/
theorem flattened (h : Stripped graph id bare) {tag later : Tag} {entries front : List (Nat × Nat)}
    (hnode : graph.node? id = some (.mapping tag entries)) {visited : List Nat}
    {taken : List (Nat × Nat)} (hmerging : Merging bare visited after taken)
    (hvisited : ∀ part, part ∈ visited ↔ graph.Merges id part)
    (hafter : after.node? id = some (.mapping later front)) :
    Flattened graph id (after.set id (.mapping later (taken ++ front))) := by
  have hlater := h.later.trans hmerging.later
  have htaken : ∀ entry ∈ taken, graph.Lists id entry := by
    intro entry hentry
    obtain ⟨part, hpart, hlists⟩ := hmerging.lists entry hentry
    exact .merged ((hvisited part).1 hpart) (h.later.lists hlists)
  obtain ⟨again, hagain, rfl⟩ := h.exists_again hmerging.later hafter
  have hlisted : ∀ entry ∈ taken ++ again, graph.Lists id entry :=
    List.forall_mem_append.2 ⟨htaken, hagain⟩
  rw [← List.append_assoc]
  have hentries : entriesOf (after.set id (.mapping later (taken ++ again ++ graph.own id))) id =
      taken ++ again ++ graph.own id :=
    entriesOf_mapping (by rw [node?_set, if_pos rfl])
  constructor
  · refine hlater.set hnode ?_
    rw [own_mapping hnode]
    exact .flat (hlater.tag hnode hafter) entries hlisted
  · rw [hentries]
    intro entry hentry
    rcases List.mem_append.1 hentry with hentry | hentry
    · exact (hlisted entry hentry).isMerge
    · exact (Lists.own hentry).isMerge
  · intro entry hentry
    rw [hentries]
    rcases h.own_or_merged hentry with hown | ⟨part, hpart, hbare⟩
    · exact List.mem_append_right _ hown
    · exact List.mem_append_left _ (List.mem_append_left _
        (hmerging.covers part ((hvisited part).2 hpart) entry hbare))
  · intro n
    by_cases hn : n = id
    · rw [hn]
      exact .inr .refl
    · rw [entriesOf_set_of_ne after hn, ← h.other n hn]
      refine (hmerging.frame n).imp_right fun ⟨part, hpart, hreach⟩ => ?_
      exact .head ((hvisited part).1 hpart) (h.later.reaches hreach)

end Stripped

theorem flattened_of_mapping {tag : Tag} {entries : List (Nat × Nat)} {fuel : Nat}
    (hnode : graph.node? id = some (.mapping tag entries))
    (hfewer : graph.isOpen id = true → ∀ bare, Stripped graph id bare → ∀ part middle last,
      Later bare middle → flatten fuel part middle = .ok last → Flattened middle part last)
    (h : flatten (fuel + 1) id graph = .ok after) : Flattened graph id after := by
  unfold flatten at h
  rw [hnode] at h
  dsimp only at h
  rw [List.partition_eq_filter_filter] at h
  dsimp only at h
  have hown : entries.filter (not ∘ fun entry => graph.hasTag .merge entry.1) = graph.own id :=
    (own_mapping hnode).symm
  rw [hown] at h
  have hsigns : ∀ n ∈ ((graph.own id).map (·.1)).filter (graph.hasTag .value),
      graph.hasTag .value n = true := fun n hn => (List.mem_filter.1 hn).2
  have hbare := stripped hnode hsigns
  generalize (((graph.own id).map (·.1)).filter (graph.hasTag .value)).foldl (·.retag .text)
    (graph.set id (.mapping tag (graph.own id))) = bare at h hbare
  obtain ⟨⟨middle, taken⟩, hfold, hfinal⟩ := exists_of_bind_ok h
  -- one mapping fewer has merge keys wherever they lead
  have hmerging := Merging.foldlM (fun merge hmerge part before last hlater hlast => by
    have hid : graph.isOpen id = true := by
      rw [isOpen, entriesOf_mapping hnode]
      exact List.any_eq_true.2 ⟨merge, List.mem_filter.1 hmerge⟩
    exact hfewer hid bare hbare part before last hlater hlast) hfold
  have hvisited : ∀ part, part ∈ (entries.filter fun entry => graph.hasTag .merge entry.1).flatMap
      (fun entry => bare.merged entry.2) ↔ graph.Merges id part := by
    intro part
    rw [List.mem_flatMap, Merges, entriesOf_mapping hnode]
    simp only [List.mem_filter, hbare.later.merged, and_assoc]
    rfl
  have hmapping : mergedEntries.isMapping middle id = true := by
    rw [hmerging.later.isMapping, hbare.later.isMapping, mergedEntries.isMapping, hnode]
  obtain ⟨later, front, hmiddle⟩ := exists_node_of_isMapping hmapping
  dsimp only at hfinal
  rw [hmiddle] at hfinal
  obtain rfl := Except.ok.inj hfinal
  exact hbare.flattened hnode hmerging hvisited hmiddle

/-- With enough fuel, the merge keys of a mapping are replaced. -/
theorem flattened {S : Finset Nat} {fuel : Nat} (hopen : ∀ n, graph.isOpen n = true → n ∈ S)
    (hfuel : (S.filter (graph.isOpen ·)).card < fuel) (h : flatten fuel id graph = .ok after) :
    Flattened graph id after := by
  induction fuel generalizing graph id after with
  | zero => omega
  | succ fuel ih =>
    by_cases hmapping : mergedEntries.isMapping graph id = true
    · obtain ⟨tag, entries, hnode⟩ := exists_node_of_isMapping hmapping
      refine flattened_of_mapping hnode (fun hid bare hbare part middle last hlater hlast => ?_) h
      refine ih (fun n hn => hopen n (hbare.later.isOpen (hlater.isOpen hn))) ?_ hlast
      have := hbare.card_lt hid hopen hlater
      omega
    · -- a node that is no mapping lists nothing
      have hsame : after = graph := by
        unfold flatten at h
        split at h
        · next hnode =>
          rw [mergedEntries.isMapping, hnode] at hmapping
          exact absurd rfl hmapping
        · exact (Except.ok.inj h).symm
      rw [hsame]
      exact ⟨.refl graph, fun _ hentry => absurd (isMapping_of_mem hentry) hmapping,
        fun _ hlists => absurd hlists.isMapping hmapping, fun _ => .inl rfl⟩

theorem mem_keys_of_isOpen (h : graph.isOpen id = true) : id ∈ graph.nodes.map (·.1) := by
  obtain ⟨entry, hentry, -⟩ := List.any_eq_true.1 h
  obtain ⟨tag, entries, hnode⟩ := exists_node_of_isMapping (isMapping_of_mem hentry)
  obtain ⟨front, back, hnodes, -⟩ := List.lookup_eq_some_iff.1 hnode
  rw [hnodes]
  simp

/-- A graph has fuel enough for its mappings. -/
theorem flattened_size (h : flatten graph.size id graph = .ok after) : Flattened graph id after := by
  refine flattened (fun n hn => List.mem_toFinset.2 (mem_keys_of_isOpen hn)) ?_ h
  have hfilter := Finset.card_filter_le (graph.nodes.map (·.1)).toFinset (graph.isOpen · = true)
  have hkeys := List.toFinset_card_le (graph.nodes.map (·.1))
  rw [List.length_map] at hkeys
  rw [size]
  omega

end NamedKeys.Yaml.Graph
