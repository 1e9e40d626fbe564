import NamedKeys.Proofs.Files.Tree

/-!
# Folders that were not there

In a tree where everything stands in a folder, a path without `..` leads to the place that its names
spell, and making its folder makes that place and those above it, and nothing else (`ensureFolders_adds`).
So a folder that was not there is empty when it has been made:

    entryAt folder path = none → (ensureFolders folder path).namesIn place = []     (namesIn_made)
-/

namespace NamedKeys.FileTree

/-- What stands at a place stands in a folder. -/
def IsClosed (tree : FileTree) : Prop :=
  ∀ place name, tree.get? (place ++ [name]) ≠ none → tree.get? place = some .folder

theorem isClosed_empty : empty.IsClosed := by
  intro place name h
  exact absurd (if_neg (by simp)) h

/-- Above anything that stands at a place there are folders. -/
theorem IsClosed.above {tree : FileTree} (h : tree.IsClosed) {place : Place} {name : String}
    {names : List String} (hplace : tree.get? (place ++ name :: names) ≠ none) :
    tree.get? place = some .folder := by
  induction names generalizing place name with
  | nil => exact h place name hplace
  | cons next names ih =>
    have hnext : tree.get? (place ++ [name]) = some .folder := by
      apply @ih _ next
      rwa [List.append_assoc, List.singleton_append]
    exact h place name (by rw [hnext]; simp)

/-! ## Following names without `..` -/

theorem follow_eq {tree : FileTree} {place target : Place} {names : List String}
    (hnames : ".." ∉ names) (h : tree.follow place names = .ok target) : target = place ++ names := by
  induction names generalizing place with
  | nil =>
    rw [List.append_nil]
    exact (Except.ok.inj h).symm
  | cons name names ih =>
    rw [List.mem_cons, not_or] at hnames
    rw [follow] at h
    split at h
    · cases h
    · cases h
    · rw [if_neg (Ne.symm hnames.1)] at h
      split at h
      · cases h
      · rw [ih hnames.2 h, List.append_assoc, List.singleton_append]

/-- Names that can be followed in one tree lead to what stands there in another. -/
theorem IsClosed.follow {tree other : FileTree} (htree : tree.IsClosed) {place target : Place}
    {names : List String} (hnames : ".." ∉ names) (h : other.follow place names = .ok target)
    (hstands : tree.get? (place ++ names) ≠ none) : tree.follow place names = .ok (place ++ names) := by
  induction names generalizing place with
  | nil => rw [FileTree.follow, List.append_nil]
  | cons name names ih =>
    rw [List.mem_cons, not_or] at hnames
    rw [FileTree.follow] at h
    rw [FileTree.follow, htree.above hstands]
    dsimp only
    rw [if_neg (Ne.symm hnames.1)]
    split at h
    · cases h
    · cases h
    · rw [if_neg (Ne.symm hnames.1)] at h
      split at h
      · cases h
      · next hshort =>
        have hsplit : place ++ name :: names = place ++ [name] ++ names := by simp
        rw [if_neg hshort, hsplit]
        rw [hsplit] at hstands
        exact ih hnames.2 h hstands

/-! ## Making folders -/

/-- Another tree has entries besides at the places above another place only. -/
def Adds (tree after : FileTree) (target : Place) : Prop :=
  ∀ place, after.get? place ≠ tree.get? place → place <+: target

theorem Adds.trans {tree middle after : FileTree} {target : Place} (h : tree.Adds middle target)
    (h' : middle.Adds after target) : tree.Adds after target := by
  intro place hplace
  by_cases hmiddle : middle.get? place = tree.get? place
  · exact h' place (by rwa [hmiddle])
  · exact h place hmiddle

theorem Adds.mono {tree after : FileTree} {target lower : Place} (h : tree.Adds after target)
    (hlower : target <+: lower) : tree.Adds after lower :=
  fun place hplace => (h place hplace).trans hlower

/-- The place at which the names of a path begin. -/
def startOf (folder : Place) (path : Path) : Place :=
  if path.isAbsolute then [] else folder

theorem ensureFolder_adds {tree after : FileTree} {folder : Place} {path : Path}
    (hnames : ".." ∉ path.names) (h : tree.ensureFolder folder path = .ok after) :
    tree.Adds after (startOf folder path ++ path.names) := by
  intro other hother
  rcases ensureFolder_cases h with ⟨rfl, -⟩ | ⟨place, hlocate, -, rfl⟩
  · exact absurd rfl hother
  · obtain rfl : place = startOf folder path ++ path.names := follow_eq hnames hlocate
    by_cases hsame : other = startOf folder path ++ path.names
    · subst hsame
      exact List.prefix_refl _
    · rw [get?_set_of_ne _ hsame] at hother
      exact absurd rfl hother

/-- Making a folder makes its place and those above it only. -/
theorem ensureFoldersAt_adds (tree : FileTree) (folder : Place) (anchor : String)
    {names : List String} (hnames : ".." ∉ names) :
    tree.Adds (tree.ensureFoldersAt folder anchor names).1
      (startOf folder ⟨anchor, []⟩ ++ names.reverse) := by
  have settled : ∀ {start : FileTree} {path : Path}, ".." ∉ path.names →
      start.Adds (ensureFoldersAt.settle start (start.ensureFolder folder path)).1
        (startOf folder path ++ path.names) := by
    intro start path hpath
    cases hensure : start.ensureFolder folder path with
    | error fault => exact fun place hplace => absurd rfl hplace
    | ok made => exact ensureFolder_adds hpath hensure
  induction names with
  | nil =>
    rw [ensureFoldersAt]
    exact settled (by simp)
  | cons name above ih =>
    have hpath : ".." ∉ (name :: above).reverse := by rwa [List.mem_reverse]
    have habove := ih fun h => hnames (List.mem_cons_of_mem _ h)
    have hlower : startOf folder ⟨anchor, []⟩ ++ above.reverse <+:
        startOf folder ⟨anchor, []⟩ ++ (name :: above).reverse := by
      rw [List.reverse_cons, ← List.append_assoc]
      exact List.prefix_append _ _
    rw [ensureFoldersAt]
    split
    · split
      · next hmade =>
        rw [hmade] at habove
        exact (habove.mono hlower).trans (settled hpath)
      · exact habove.mono hlower
    · exact settled hpath

theorem ensureFolders_adds (tree : FileTree) (folder : Place) {path : Path}
    (hnames : ".." ∉ path.names) :
    tree.Adds (tree.ensureFolders folder path).1 (startOf folder path ++ path.names) := by
  have hreverse : ".." ∉ path.names.reverse := by rwa [List.mem_reverse]
  have := tree.ensureFoldersAt_adds folder path.anchor hreverse
  rwa [List.reverse_reverse] at this

/-- A folder that was not there is empty when it has been made. -/
theorem namesIn_made {tree after : FileTree} (hclosed : tree.IsClosed) {folder place : Place}
    {path : Path} (hnames : ".." ∉ path.names) (habsent : tree.entryAt folder path = .ok none)
    (hmade : tree.ensureFolders folder path = (after, .ok ()))
    (hlocate : after.locate folder path = .ok place) : after.namesIn place = [] := by
  have hadds := tree.ensureFolders_adds folder hnames
  rw [hmade] at hadds
  obtain rfl : place = startOf folder path ++ path.names := follow_eq hnames hlocate
  rw [List.eq_nil_iff_forall_not_mem]
  intro name hname
  rw [mem_namesIn] at hname
  by_cases hsame : after.get? (startOf folder path ++ path.names ++ [name]) =
      tree.get? (startOf folder path ++ path.names ++ [name])
  · -- what is in the folder now was in it before
    rw [hsame] at hname
    have hfolder := hclosed _ _ hname
    have hstands : tree.get? (startOf folder path ++ path.names) ≠ none := by
      rw [hfolder]
      simp
    have hbefore : tree.locate folder path = .ok (startOf folder path ++ path.names) :=
      hclosed.follow hnames hlocate hstands
    rw [entryAt_of_locate hbefore, hfolder] at habsent
    cases habsent
  · have hlength := (hadds _ hsame).length_le
    rw [List.length_append, List.length_singleton] at hlength
    omega

end NamedKeys.FileTree
