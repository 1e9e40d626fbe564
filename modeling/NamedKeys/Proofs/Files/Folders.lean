import NamedKeys.Proofs.Files.Replace

/-!
# Writes that fail

Making the folders of a path puts folders where nothing stood, on the way of the path, and does nothing
else, whether all of them can be made or not (`ensureFolders_makesFolders`).  A write that fails has done
no more than that: it leaves all files as they were, and no temporary file (`writeAtOnce_error`).
-/

namespace NamedKeys

namespace FileTree

/-- Two trees with the same files, where every folder of the first is one of the second. -/
structure AddsFolders (tree after : FileTree) : Prop where
  files : ∀ place octets,
    after.get? place = some (.file octets) ↔ tree.get? place = some (.file octets)
  folders : tree.KeepsFolders after

theorem AddsFolders.refl (tree : FileTree) : tree.AddsFolders tree :=
  ⟨fun _ _ => Iff.rfl, fun _ h => h⟩

theorem AddsFolders.trans {tree middle after : FileTree} (h : tree.AddsFolders middle)
    (h' : middle.AddsFolders after) : tree.AddsFolders after :=
  ⟨fun place octets => (h'.files place octets).trans (h.files place octets),
    fun place hplace => h'.folders place (h.folders place hplace)⟩

/-- Folders are made for a path: no file changes, and a new folder stands where the path leads, or a
path above it. -/
structure MakesFolders (tree after : FileTree) (folder : Place) (path : Path) : Prop
    extends AddsFolders tree after where
  parents : ∀ place, after.get? place = some .folder → tree.get? place ≠ some .folder →
    ∃ names, names <+: path.names ∧ after.locate folder ⟨path.anchor, names⟩ = .ok place

theorem MakesFolders.refl (tree : FileTree) (folder : Place) (path : Path) :
    tree.MakesFolders tree folder path :=
  ⟨.refl tree, fun _ h hnew => absurd h hnew⟩

/-- Folders are made for a path above another, and then for that one. -/
theorem MakesFolders.trans {tree middle after : FileTree} {folder : Place} {above path : Path}
    (h : tree.MakesFolders middle folder above) (hanchor : above.anchor = path.anchor)
    (hnames : above.names <+: path.names) (h' : middle.MakesFolders after folder path) :
    tree.MakesFolders after folder path := by
  refine ⟨h.toAddsFolders.trans h'.toAddsFolders, fun place hplace hnew => ?_⟩
  by_cases hmiddle : middle.get? place = some .folder
  · obtain ⟨names, hpart, hlocate⟩ := h.parents place hmiddle hnew
    rw [hanchor] at hlocate
    exact ⟨names, hpart.trans hnames, locate_mono h'.folders hlocate⟩
  · exact h'.parents place hplace hmiddle

theorem makesFolders_set {tree : FileTree} {folder place : Place} {path : Path}
    (h : tree.get? place = none) (hlocate : tree.locate folder path = .ok place) :
    tree.MakesFolders (tree.set place .folder) folder path := by
  have hkeeps : tree.KeepsFolders (tree.set place .folder) := keepsFolders_set _ (by simp [h])
  refine ⟨⟨fun other octets => ?_, hkeeps⟩, fun other hother hnew => ?_⟩
  · by_cases hother : other = place
    · subst hother
      rw [get?_set_self _ (ne_root_of_none h), h]
      simp
    · rw [get?_set_of_ne _ hother]
  · by_cases heq : other = place
    · subst heq
      exact ⟨path.names, List.prefix_rfl, locate_mono hkeeps hlocate⟩
    · rw [get?_set_of_ne _ heq] at hother
      exact absurd hother hnew

theorem ensureFolder_makesFolders {tree after : FileTree} {folder : Place} {path : Path}
    (h : tree.ensureFolder folder path = .ok after) : tree.MakesFolders after folder path := by
  rcases ensureFolder_cases h with ⟨rfl, -⟩ | ⟨place, hlocate, hfree, rfl⟩
  · exact .refl tree folder path
  · exact makesFolders_set hfree hlocate

theorem ensureFoldersAt_makesFolders (tree : FileTree) (folder : Place) (anchor : String)
    (names : List String) :
    tree.MakesFolders (tree.ensureFoldersAt folder anchor names).1 folder ⟨anchor, names.reverse⟩ := by
  have settled : ∀ (start : FileTree) (path : Path), start.MakesFolders
      (ensureFoldersAt.settle start (start.ensureFolder folder path)).1 folder path := by
    intro start path
    cases hensure : start.ensureFolder folder path with
    | error fault => exact .refl start folder path
    | ok made => exact ensureFolder_makesFolders hensure
  induction names with
  | nil =>
    rw [ensureFoldersAt]
    exact settled tree _
  | cons name above ih =>
    have habove : above.reverse <+: (name :: above).reverse := by
      rw [List.reverse_cons]
      exact List.prefix_append _ _
    rw [ensureFoldersAt]
    split
    · split
      · next hmade =>
        rw [hmade] at ih
        exact ih.trans rfl habove (settled _ _)
      · exact ih.trans rfl habove (.refl _ folder _)
    · exact settled tree _

/-- Making folders, with or without success, adds the folders that a path needs and nothing else. -/
theorem ensureFolders_makesFolders (tree : FileTree) (folder : Place) (path : Path) :
    tree.MakesFolders (tree.ensureFolders folder path).1 folder path := by
  have h := tree.ensureFoldersAt_makesFolders folder path.anchor path.names.reverse
  rwa [List.reverse_reverse] at h

end FileTree

/-- A write that fails has made folders at most. -/
theorem Action.writeAtOnce_error {world after : World} {path : Path} {name : String}
    {text : List Char} {failure : Failure} (hparent : name ≠ "..") (hdot : '.' ∈ name.toList)
    (h : (writeAtOnce (path.child name) text).runOn world = (.error failure, after)) :
    world.files.MakesFolders after.files world.folder path := by
  have hadds := world.files.ensureFolders_makesFolders world.folder path
  rcases hmade : world.files.ensureFolders world.folder path with ⟨tree, fault | ⟨⟩⟩
  · rw [hmade] at hadds
    rw [writeAtOnce, Path.parent_child, runOn_bind_error (runOn_ensureFolders hmade)] at h
    rw [← (Prod.mk.inj h).2]
    exact hadds
  · rw [hmade] at hadds
    obtain ⟨place, hlocate, hplace⟩ := FileTree.ensureFolders_ok hmade
    by_cases hfails : world.replaceRefusal ≠ none ∨ ¬ FileTree.IsEntryName name ∨
        tree.get? (place ++ [name]) = some .folder
    · obtain ⟨other, hrun⟩ := runOn_writeAtOnce_error hmade hlocate hplace hparent hfails text
      rw [hrun] at h
      rw [← (Prod.mk.inj h).2]
      exact hadds
    · simp only [not_or, not_not] at hfails
      obtain ⟨hreplace, hname, htarget⟩ := hfails
      rw [runOn_writeAtOnce hmade hlocate hplace hreplace hname hdot htarget] at h
      cases (Prod.mk.inj h).1

end NamedKeys
