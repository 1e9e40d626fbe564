import Mathlib.Data.List.Basic
import Mathlib.Data.List.Nodup
import NamedKeys.FileTree

/-!
# Following paths, and the entries of a folder

Whether a path can be followed depends on the folders of a tree alone, so that a path that leads
somewhere still does when folders are added and files come and go (`follow_mono`).  The names in a
folder are those of the places at which something stands (`mem_namesIn`), each once if no place has two
entries (`IsDistinct.nodup_namesIn`), and each of the two changes of a tree does one thing to them
(`namesIn_set`, `namesIn_erase`).  A folder that has been made is there (`ensureFolders_ok`), and making
it again changes nothing (`ensureFolders_of_folder`).  The file system refuses to look only where a name is
too long (`entryAt_error`).
-/

namespace NamedKeys.FileTree

/-! ## Places and entries -/

@[simp] theorem get?_root (tree : FileTree) : tree.get? [] = some .folder := rfl

theorem get?_set_self {tree : FileTree} {place : Place} (entry : Entry) (h : place ≠ []) :
    (tree.set place entry).get? place = some entry := by
  rw [get?_set, if_neg h, if_pos rfl]

theorem get?_set_of_ne {tree : FileTree} {place other : Place} (entry : Entry) (h : other ≠ place) :
    (tree.set place entry).get? other = tree.get? other := by
  rw [get?_set, if_neg h]
  split
  · next hroot => rw [hroot, get?_root]
  · rfl

theorem get?_erase_of_ne {tree : FileTree} {place other : Place} (h : other ≠ place) :
    (tree.erase place).get? other = tree.get? other := by
  rw [get?_erase, if_neg h]
  split
  · next hroot => rw [hroot, get?_root]
  · rfl

theorem get?_erase_self {tree : FileTree} {place : Place} (h : place ≠ []) :
    (tree.erase place).get? place = none := by
  rw [get?_erase, if_neg h, if_pos rfl]

theorem ne_root_of_none {tree : FileTree} {place : Place} (h : tree.get? place = none) :
    place ≠ [] := by
  rintro rfl
  cases h

theorem get?_eq_none_iff {tree : FileTree} {place : Place} (hplace : place ≠ []) :
    tree.get? place = none ↔ place ∉ tree.entries.map Prod.fst := by
  rw [get?, if_neg hplace, Table.lookup_eq_none_iff]

/-- A new entry that is taken away again leaves no trace. -/
theorem erase_set_of_none {tree : FileTree} {place : Place} (entry : Entry)
    (h : tree.get? place = none) : (tree.set place entry).erase place = tree := by
  have hkeys := (get?_eq_none_iff (ne_root_of_none h)).1 h
  have hfilter : tree.entries.filter (·.1 != place) = tree.entries := by
    rw [List.filter_eq_self]
    intro other hother
    rw [bne_iff_ne]
    rintro rfl
    exact hkeys (List.mem_map_of_mem hother)
  simp only [erase, set, Table.put, Table.remove, List.filter_cons, bne_self_eq_false,
    Bool.false_eq_true, if_false, hfilter]

/-! ## The names in a folder -/

theorem eq_append_of_parts {place other : Place} {name : String} (h : other.dropLast = place)
    (hlast : other.getLast? = some name) : other = place ++ [name] := by
  obtain ⟨front, rfl⟩ := List.getLast?_eq_some_iff.1 hlast
  rw [List.dropLast_concat] at h
  rw [h]

theorem mem_namesIn {tree : FileTree} {place : Place} {name : String} :
    name ∈ tree.namesIn place ↔ tree.get? (place ++ [name]) ≠ none := by
  rw [ne_eq, get?_eq_none_iff (by simp), not_not, namesIn, List.mem_filterMap, List.mem_map]
  constructor
  · rintro ⟨⟨other, entry⟩, hmem, h⟩
    dsimp only at h
    split at h
    · next hplace => exact ⟨_, hmem, eq_append_of_parts hplace h⟩
    · cases h
  · rintro ⟨⟨other, entry⟩, hmem, rfl⟩
    exact ⟨_, hmem, by simp⟩

theorem namesIn_erase (tree : FileTree) (place : Place) (name : String) :
    (tree.erase (place ++ [name])).namesIn place = (tree.namesIn place).filter (· ≠ name) := by
  simp only [erase, namesIn, Table.remove]
  induction tree.entries with
  | nil => rfl
  | cons first entries ih =>
    obtain ⟨other, entry⟩ := first
    by_cases h : other = place ++ [name]
    · simp [h, ih]
    · rw [List.filter_cons_of_pos (by simpa using h), List.filterMap_cons, List.filterMap_cons]
      split
      · exact ih
      · next last hsome =>
        have hlast : last ≠ name := by
          rintro rfl
          dsimp only at hsome
          split at hsome
          · next hplace => exact h (eq_append_of_parts hplace hsome)
          · cases hsome
        rw [List.filter_cons_of_pos (by simpa using hlast), ih]

theorem namesIn_set (tree : FileTree) (place : Place) (name : String) (entry : Entry) :
    (tree.set (place ++ [name]) entry).namesIn place =
      name :: (tree.namesIn place).filter (· ≠ name) := by
  rw [← namesIn_erase, set, namesIn, Table.put, List.filterMap_cons]
  simp only [List.dropLast_concat, if_true, List.getLast?_append, List.getLast?_singleton,
    Option.some_or]
  rfl

/-- No place has two entries. -/
def IsDistinct (tree : FileTree) : Prop :=
  (tree.entries.map Prod.fst).Nodup

theorem isDistinct_empty : empty.IsDistinct :=
  List.nodup_nil

theorem IsDistinct.erase {tree : FileTree} (h : tree.IsDistinct) (place : Place) :
    (tree.erase place).IsDistinct :=
  h.sublist (List.filter_sublist.map Prod.fst)

theorem IsDistinct.set {tree : FileTree} (h : tree.IsDistinct) (place : Place) (entry : Entry) :
    (tree.set place entry).IsDistinct :=
  Table.nodup_keys_put h place entry

/-- The names of the entries of a folder are different. -/
theorem IsDistinct.nodup_namesIn {tree : FileTree} (h : tree.IsDistinct) (place : Place) :
    (tree.namesIn place).Nodup := by
  have hnames : tree.namesIn place = (tree.entries.map Prod.fst).filterMap fun other =>
      if other.dropLast = place then other.getLast? else none := by
    rw [namesIn, List.filterMap_map]
    rfl
  rw [hnames]
  refine h.filterMap fun first second name hfirst hsecond => ?_
  simp only [Option.mem_def, Option.ite_none_right_eq_some] at hfirst hsecond
  rw [eq_append_of_parts hfirst.1 hfirst.2, eq_append_of_parts hsecond.1 hsecond.2]

theorem nodup_candidates (n : Nat) : ((List.range n).map fun k => s!"tmp{k}").Nodup := by
  refine List.nodup_range.map fun i j h => ?_
  have hdigits : Nat.toDigits 10 i = Nat.toDigits 10 j := by
    simpa using congrArg String.toList h
  rw [← Nat.ofDigitChars_toDigits (b := 10) (n := i) (by decide) (by decide), hdigits,
    Nat.ofDigitChars_toDigits (by decide) (by decide)]

/-- A fresh name is new. -/
theorem freshName_not_mem (tree : FileTree) (place : Place) :
    tree.freshName place ∉ tree.namesIn place := by
  unfold freshName
  dsimp only
  generalize tree.namesIn place = names
  cases hfind : ((List.range (names.length + 1)).map fun k => s!"tmp{k}").find?
      fun name => !names.contains name with
  | some name =>
    have := List.find?_some hfind
    simpa using this
  | none =>
    -- more candidates than names
    rw [List.find?_eq_none] at hfind
    have hsubset : ((List.range (names.length + 1)).map fun k => s!"tmp{k}") ⊆ names := by
      intro name hname
      simpa using hfind name hname
    have hlength := (nodup_candidates (names.length + 1)).length_le_of_subset hsubset
    rw [List.length_map, List.length_range] at hlength
    omega

/-! ## Following names -/

/-- Every folder of a tree is one of another. -/
def KeepsFolders (tree after : FileTree) : Prop :=
  ∀ place, tree.get? place = some .folder → after.get? place = some .folder

theorem follow_mono {tree after : FileTree} (h : tree.KeepsFolders after) {names : List String}
    {place target : Place} (hfollow : tree.follow place names = .ok target) :
    after.follow place names = .ok target := by
  induction names generalizing place with
  | nil => exact hfollow
  | cons name names ih =>
    rw [follow] at hfollow
    split at hfollow
    · cases hfollow
    · cases hfollow
    · next hplace =>
      rw [follow, h place hplace]
      dsimp only
      split at hfollow
      · next hparent =>
        rw [if_pos hparent]
        exact ih hfollow
      · next hparent =>
        rw [if_neg hparent]
        split at hfollow
        · cases hfollow
        · next hshort =>
          rw [if_neg hshort]
          exact ih hfollow

theorem locate_mono {tree after : FileTree} (h : tree.KeepsFolders after) {folder : Place}
    {path : Path} {place : Place} (hlocate : tree.locate folder path = .ok place) :
    after.locate folder path = .ok place :=
  follow_mono h hlocate

/-- A new folder where nothing stood, and a file where no folder stood, keep all folders. -/
theorem keepsFolders_set {tree : FileTree} {place : Place} (entry : Entry)
    (h : tree.get? place ≠ some .folder) : tree.KeepsFolders (tree.set place entry) := by
  intro other hother
  rw [get?_set_of_ne _ (by rintro rfl; exact h hother), hother]

theorem keepsFolders_erase {tree : FileTree} {place : Place} (h : tree.get? place ≠ some .folder) :
    tree.KeepsFolders (tree.erase place) := by
  intro other hother
  rw [get?_erase_of_ne (by rintro rfl; exact h hother), hother]

theorem follow_append (tree : FileTree) (place : Place) (names : List String) (name : String) :
    tree.follow place (names ++ [name]) =
      match tree.follow place names with
      | .ok folder => tree.follow folder [name]
      | .error fault => .error fault := by
  induction names generalizing place with
  | nil => rfl
  | cons first names ih =>
    rw [List.cons_append, follow, follow]
    split
    · rfl
    · rfl
    · split
      · exact ih _
      · split
        · rfl
        · exact ih _

theorem locate_child (tree : FileTree) (folder : Place) (path : Path) (name : String) :
    tree.locate folder (path.child name) =
      match tree.locate folder path with
      | .ok place => tree.follow place [name]
      | .error fault => .error fault :=
  follow_append tree _ path.names name

/-- A name that leads to an entry of a folder. -/
structure IsEntryName (name : String) : Prop where
  ne_parent : name ≠ ".."
  short : name.utf8ByteSize ≤ longestName

theorem follow_entry {tree : FileTree} {place : Place} {name : String}
    (hplace : tree.get? place = some .folder) (hname : IsEntryName name) :
    tree.follow place [name] = .ok (place ++ [name]) := by
  have hshort := hname.short
  rw [follow, hplace]
  dsimp only
  rw [if_neg hname.ne_parent, if_neg (by omega), follow]

theorem locate_entry {tree : FileTree} {folder place : Place} {path : Path} {name : String}
    (hlocate : tree.locate folder path = .ok place) (hplace : tree.get? place = some .folder)
    (hname : IsEntryName name) : tree.locate folder (path.child name) = .ok (place ++ [name]) := by
  rw [locate_child, hlocate]
  exact follow_entry hplace hname

theorem entryAt_of_locate {tree : FileTree} {folder place : Place} {path : Path}
    (h : tree.locate folder path = .ok place) : tree.entryAt folder path = .ok (tree.get? place) := by
  rw [entryAt, h]

/-- There is nothing below what is no folder. -/
theorem entryAt_child_of_noFolder {tree : FileTree} {folder : Place} {path : Path} {found? : Option Entry}
    (name : String) (h : tree.entryAt folder path = .ok found?) (hentry : found? ≠ some .folder) :
    tree.entryAt folder (path.child name) = .ok none := by
  rw [entryAt] at h
  rw [entryAt, locate_child]
  split at h
  · next place hplace =>
    rw [hplace]
    dsimp only
    rw [← Except.ok.inj h] at hentry
    rw [follow]
    cases hget : tree.get? place with
    | none => rfl
    | some entry =>
      cases entry with
      | folder => exact absurd hget hentry
      | file octets => rfl
  · next hplace => rw [hplace]
  · next hplace => rw [hplace]
  · cases h

/-- A way that is refused is refused to what is below its end. -/
theorem entryAt_child_of_error {tree : FileTree} {folder : Place} {path : Path} {fault : FileFault}
    (name : String) (h : tree.entryAt folder path = .error fault) :
    tree.entryAt folder (path.child name) = .error fault := by
  rw [entryAt] at h
  rw [entryAt, locate_child]
  cases hplace : tree.locate folder path with
  | ok place =>
    rw [hplace] at h
    cases h
  | error other =>
    rw [hplace] at h
    cases other <;> exact h

/-! ## Making folders -/

theorem ensureFolder_of_folder {tree : FileTree} {folder place : Place} {path : Path}
    (hlocate : tree.locate folder path = .ok place) (hplace : tree.get? place = some .folder) :
    tree.ensureFolder folder path = .ok tree := by
  have hmake : tree.makeFolder folder path = .error .exists := by
    rw [makeFolder, hlocate]
    simp only [bind, Except.bind, hplace]
  have hisFolder : tree.isFolder folder path = .ok true := by
    rw [isFolder, entryAt_of_locate hlocate, hplace]
    rfl
  rw [ensureFolder, hmake]
  simp only [hisFolder, bind, Except.bind, if_true]

/-- Making a folder that is there changes nothing. -/
theorem ensureFolders_of_folder {tree : FileTree} {folder place : Place} {path : Path}
    (hlocate : tree.locate folder path = .ok place) (hplace : tree.get? place = some .folder) :
    tree.ensureFolders folder path = (tree, .ok ()) := by
  have hensure := ensureFolder_of_folder hlocate hplace
  obtain ⟨anchor, names⟩ := path
  rw [ensureFolders]
  dsimp only
  cases hreverse : names.reverse with
  | nil =>
    obtain rfl : names = [] := List.reverse_eq_nil_iff.1 hreverse
    rw [ensureFoldersAt, hensure]
    rfl
  | cons name above =>
    have hnames : (name :: above).reverse = names := by rw [← hreverse, List.reverse_reverse]
    rw [ensureFoldersAt]
    simp only [hnames, hensure]
    rfl

def HasFolder (tree : FileTree) (folder : Place) (path : Path) : Prop :=
  ∃ place, tree.locate folder path = .ok place ∧ tree.get? place = some .folder

theorem hasFolder_of_isFolder {tree : FileTree} {folder : Place} {path : Path}
    (h : tree.isFolder folder path = .ok true) : tree.HasFolder folder path := by
  rw [isFolder, entryAt] at h
  split at h
  · next place hlocate =>
    refine ⟨place, hlocate, ?_⟩
    have := Except.ok.inj h
    simpa using this
  · cases h
  · cases h
  · cases h

/-- Making one folder finds it there, or puts it where nothing is. -/
theorem ensureFolder_cases {tree after : FileTree} {folder : Place} {path : Path}
    (h : tree.ensureFolder folder path = .ok after) :
    (tree = after ∧ tree.HasFolder folder path) ∨
      ∃ place, tree.locate folder path = .ok place ∧ tree.get? place = none ∧
        tree.set place .folder = after := by
  unfold ensureFolder at h
  split at h
  · cases h
  · cases hisFolder : tree.isFolder folder path with
    | error other =>
      rw [hisFolder] at h
      cases h
    | ok found =>
      rw [hisFolder] at h
      cases found with
      | false => cases h
      | true => exact .inl ⟨Except.ok.inj h, hasFolder_of_isFolder hisFolder⟩
  · unfold makeFolder at h
    cases hlocate : tree.locate folder path with
    | error fault =>
      rw [hlocate] at h
      cases h
    | ok place =>
      rw [hlocate] at h
      simp only [bind, Except.bind] at h
      split at h
      · cases h
      · next hfree => exact .inr ⟨place, rfl, hfree, Except.ok.inj h⟩

theorem ensureFolder_ok {tree after : FileTree} {folder : Place} {path : Path}
    (h : tree.ensureFolder folder path = .ok after) : after.HasFolder folder path := by
  rcases ensureFolder_cases h with ⟨rfl, hfolder⟩ | ⟨place, hlocate, hfree, rfl⟩
  · exact hfolder
  · have hkeeps : tree.KeepsFolders (tree.set place .folder) :=
      keepsFolders_set _ (by simp [hfree])
    exact ⟨place, locate_mono hkeeps hlocate, get?_set_self _ (ne_root_of_none hfree)⟩

theorem ensureFoldersAt_ok {tree after : FileTree} {folder : Place} {anchor : String}
    {names : List String} (h : tree.ensureFoldersAt folder anchor names = (after, .ok ())) :
    after.HasFolder folder ⟨anchor, names.reverse⟩ := by
  have settled : ∀ {tree : FileTree} {path : Path},
      ensureFoldersAt.settle tree (tree.ensureFolder folder path) = (after, .ok ()) →
      after.HasFolder folder path := by
    intro tree path hsettle
    cases hensure : tree.ensureFolder folder path with
    | error fault =>
      rw [hensure, ensureFoldersAt.settle] at hsettle
      cases hsettle
    | ok made =>
      rw [hensure, ensureFoldersAt.settle] at hsettle
      obtain rfl : made = after := (Prod.mk.inj hsettle).1
      exact ensureFolder_ok hensure
  cases names with
  | nil =>
    rw [ensureFoldersAt] at h
    exact settled h
  | cons name above =>
    rw [ensureFoldersAt] at h
    split at h
    · split at h
      · exact settled h
      · next hfailed =>
        exact absurd h (hfailed after)
    · exact settled h

/-- A folder that has been made is there. -/
theorem ensureFolders_ok {tree after : FileTree} {folder : Place} {path : Path}
    (h : tree.ensureFolders folder path = (after, .ok ())) : after.HasFolder folder path := by
  have := ensureFoldersAt_ok h
  rwa [List.reverse_reverse] at this

/-! ## Refused ways -/

/-- The way along names ends at a missing entry or at what is no folder, or it is refused for a name that is
too long. -/
theorem follow_error {tree : FileTree} {names : List String} {place : Place} {fault : FileFault}
    (h : tree.follow place names = .error fault) :
    fault = .missing ∨ fault = .notFolder ∨
      (fault = .nameTooLong ∧ ∃ name ∈ names, longestName < name.utf8ByteSize) := by
  induction names generalizing place with
  | nil => cases h
  | cons name names ih =>
    have hlater : ∀ {place}, tree.follow place names = .error fault →
        fault = .missing ∨ fault = .notFolder ∨
          (fault = .nameTooLong ∧ ∃ other ∈ name :: names, longestName < other.utf8ByteSize) := by
      intro place hrest
      refine (ih hrest).imp_right (.imp_right ?_)
      rintro ⟨hfault, other, hother, hlong⟩
      exact ⟨hfault, other, List.mem_cons_of_mem name hother, hlong⟩
    rw [follow] at h
    split at h
    · exact .inl (Except.error.inj h).symm
    · exact .inr (.inl (Except.error.inj h).symm)
    · split at h
      · exact hlater h
      · split at h
        · next hlong =>
          exact .inr (.inr ⟨(Except.error.inj h).symm, name, List.mem_cons_self, hlong⟩)
        · exact hlater h

/-- What cannot be looked at has a name that is too long. -/
theorem entryAt_error {tree : FileTree} {folder : Place} {path : Path} {fault : FileFault}
    (h : tree.entryAt folder path = .error fault) :
    fault = .nameTooLong ∧ ∃ name ∈ path.names, longestName < name.utf8ByteSize := by
  rw [entryAt] at h
  cases hlocate : tree.locate folder path with
  | ok place =>
    rw [hlocate] at h
    cases h
  | error other =>
    rw [hlocate] at h
    rcases follow_error hlocate with rfl | rfl | ⟨rfl, hlong⟩
    · cases h
    · cases h
    · exact ⟨(Except.error.inj h).symm, hlong⟩

theorem isFolder_error {tree : FileTree} {folder : Place} {path : Path} {fault : FileFault}
    (h : tree.isFolder folder path = .error fault) : tree.entryAt folder path = .error fault := by
  rw [isFolder] at h
  cases hentry : tree.entryAt folder path with
  | ok found? =>
    rw [hentry] at h
    cases h
  | error other =>
    rw [hentry] at h
    obtain rfl : other = fault := Except.error.inj h
    rfl

theorem HasFolder.isFolder {tree : FileTree} {folder : Place} {path : Path}
    (h : tree.HasFolder folder path) : tree.isFolder folder path = .ok true := by
  obtain ⟨place, hlocate, hplace⟩ := h
  rw [FileTree.isFolder, entryAt_of_locate hlocate, hplace]
  rfl

/-- What is above an entry that can be found is a folder. -/
theorem hasFolder_of_child {tree : FileTree} {folder place : Place} {path : Path} {name : String}
    (h : tree.locate folder (path.child name) = .ok place) : tree.HasFolder folder path := by
  rw [locate_child] at h
  cases hlocate : tree.locate folder path with
  | error fault =>
    rw [hlocate] at h
    cases h
  | ok above =>
    rw [hlocate] at h
    dsimp only at h
    rw [follow] at h
    split at h
    · cases h
    · cases h
    · next hfolder => exact ⟨above, hlocate, hfolder⟩

end NamedKeys.FileTree
