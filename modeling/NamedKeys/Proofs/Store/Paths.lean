import NamedKeys.Proofs.Store.FileName
import NamedKeys.Proofs.Store.Lookup

/-!
# The paths of identities

The name of the file of an identity is one name, whatever stands in the name of the identity: it has no slash
and is no step to another folder (`isEntryOf_file`).  So the path of the file leads to an entry of the folder of
the store and to nothing else, in any file tree (`locate_file`), each identity has one of its own
(`eq_of_locate_file`), and what stands there is listed under the name of the identity (`mem_list_of_entry`):

    identity_paths_confined
-/

namespace NamedKeys

/-- A path leads to an entry of the folder at another: it has one name more, which is no step elsewhere. -/
structure Path.IsEntryOf (path folder : Path) (name : String) : Prop where
  eq_child : path = folder.child name
  parent : path.parent = folder
  isName : IsName name
  ne_parent : name ≠ ".."

/-- What is found at a name is an entry of the folder that the path leads to. -/
theorem FileTree.locate_child_ok {tree : FileTree} {folder place : Place} {path : Path} {name : String}
    (hname : name ≠ "..") (h : tree.locate folder (path.child name) = .ok place) :
    ∃ above, tree.locate folder path = .ok above ∧ tree.get? above = some .folder ∧
      place = above ++ [name] := by
  obtain ⟨above, hlocate, hfolder⟩ := hasFolder_of_child h
  refine ⟨above, hlocate, hfolder, ?_⟩
  rw [locate_child, hlocate] at h
  dsimp only at h
  rw [follow, hfolder] at h
  dsimp only at h
  rw [if_neg hname] at h
  split at h
  · cases h
  · exact (Except.ok.inj h).symm

namespace Store

theorem isName_fileName (name : IdentityName) : Path.IsName (fileName name.text) where
  ne_empty h := by
    have hdot := dot_mem_fileName name.text
    rw [h] at hdot
    cases hdot
  ne_dot h := by
    have hlength := congrArg List.length (congrArg String.toList h)
    rw [toList_fileName, List.length_append] at hlength
    exact absurd hlength (by simp)
  noSlash h := by
    rw [toList_fileName, List.mem_append] at h
    rcases h with h | h
    · have hbody := isNameForm_iff.1 name.hasForm
      have hmem : '/' ∈ bodyOf name.text.toList := by
        rcases bodyOf_cases name.text.toList with htext | htext
        · rwa [← htext]
        · rw [htext] at h
          rcases List.mem_append.1 h with h | h
          · exact h
          · exact absurd h (by decide)
      exact absurd (hbody.chars _ hmem) (by decide)
    · exact absurd h (by decide)

/-- The path of an identity leads to an entry of the folder of the store. -/
theorem isEntryOf_file (store : Store) (name : IdentityName) :
    (store.file name).IsEntryOf store.folder (fileName name.text) where
  eq_child := rfl
  parent := store.folder.parent_child _
  isName := isName_fileName name
  ne_parent := fileName_ne_parent name.text

theorem eq_of_fileName {m n : IdentityName} (h : fileName m.text = fileName n.text) : m = n := by
  obtain ⟨text, hform⟩ := m
  obtain rfl : text = n.text := fileName_injective h
  rfl

section

variable {store : Store} {name : IdentityName} {tree : FileTree} {folder place : Place}

theorem locate_file (h : tree.locate folder (store.file name) = .ok place) :
    ∃ above, tree.locate folder store.folder = .ok above ∧ tree.get? above = some .folder ∧
      place = above ++ [fileName name.text] :=
  FileTree.locate_child_ok (fileName_ne_parent name.text) h

/-- Two identities are not found at one place. -/
theorem eq_of_locate_file {other : IdentityName} (h : tree.locate folder (store.file name) = .ok place)
    (hother : tree.locate folder (store.file other) = .ok place) : name = other := by
  obtain ⟨above, -, -, rfl⟩ := locate_file h
  obtain ⟨above', -, -, hplace⟩ := locate_file hother
  obtain ⟨-, hnames⟩ := List.append_inj' hplace rfl
  exact eq_of_fileName (List.cons.inj hnames).1

/-- An entry at the path of an identity is listed under the name of the identity. -/
theorem mem_list_of_entry {world : World} {entry : Entry}
    (h : world.files.entryAt world.folder (store.file name) = .ok (some entry)) :
    ∃ names, store.list.runOn world = (.ok names, world) ∧ name.text ∈ names := by
  obtain ⟨place, hlocate, hplace⟩ := FileTree.exists_locate_of_entryAt h
  obtain ⟨above, habove, hfolder, rfl⟩ := locate_file hlocate
  refine ⟨_, runOn_list_folder habove hfolder, ?_⟩
  rw [List.mem_mergeSort, List.mem_filterMap]
  refine ⟨fileName name.text, FileTree.mem_namesIn.2 ?_, nameOfFile?_fileName name.hasForm⟩
  rw [hplace]
  exact Option.some_ne_none entry

end

/-- The path of the file of an identity is the path of the root of the store joined with the name of the folder
and with that of the file, of which the name of the identity is the stem and the ending of files the suffix.  It
leads to an entry of the folder and nowhere else, in any file tree, and if a text names the root, then its own
text names it.  What stands there is listed under the name of the identity.  Two identities have different
paths, and are not found at one place. -/
theorem identity_paths_confined (store : Store) (n : IdentityName) :
    store.folder = store.root.join "identity" ∧
    store.file n = store.folder.join (n.text ++ ".yaml") ∧
    (store.file n).IsEntryOf store.folder (n.text ++ ".yaml") ∧
    Path.stem (n.text ++ ".yaml") = n.text ∧ Path.suffix (n.text ++ ".yaml") = ".yaml" ∧
    nameOfFile? (n.text ++ ".yaml") = some n.text ∧
    (∀ rootText, store.root = Path.ofText rootText →
      Path.ofText (store.file n).text = store.file n) ∧
    (∀ m : IdentityName, store.file m = store.file n → m = n) ∧
    ∀ world : World,
      (∀ place, world.files.locate world.folder (store.file n) = .ok place →
        ∃ above, world.files.locate world.folder store.folder = .ok above ∧
          world.files.get? above = some .folder ∧ place = above ++ [n.text ++ ".yaml"]) ∧
      (∀ (m : IdentityName) (place : Place),
        world.files.locate world.folder (store.file m) = .ok place →
        world.files.locate world.folder (store.file n) = .ok place → m = n) ∧
      ∀ entry, world.files.entryAt world.folder (store.file n) = .ok (some entry) →
        ∃ names, store.list.runOn world = (.ok names, world) ∧ n.text ∈ names := by
  have hfolder : Path.IsName "identity" := ⟨by decide, by decide, by decide⟩
  have htext := ne_nil_of_isNameForm n.hasForm
  refine ⟨(Path.join_name _ hfolder).symm, (Path.join_name _ (isName_fileName n)).symm,
    isEntryOf_file store n, stem_fileName htext, suffix_fileName htext, nameOfFile?_fileName n.hasForm,
    ?named, ?different, fun world => ⟨fun place => locate_file, fun m place => eq_of_locate_file,
      fun entry => mem_list_of_entry⟩⟩
  case named =>
    intro rootText hroot
    have hnamed : store.root.IsNamed := hroot ▸ Path.isNamed_ofText rootText
    exact ((hnamed.child hfolder).child (isName_fileName n)).ofText_text
  case different =>
    intro m hpaths
    have hnames := congrArg Path.names hpaths
    obtain ⟨-, hlast⟩ := List.append_inj' hnames rfl
    exact eq_of_fileName (List.cons.inj hlast).1

/-- The identity of a name with a line feed has a file of its own, whose path is read again from its text, and
which is listed under that name. -/
theorem identity_paths_confined_feed :
    let store : Store := ⟨Path.ofText "./store/"⟩
    let world : World := { World.bare with
      files := (((FileTree.empty.set ["store"] .folder).set ["store", "identity"] .folder).set
        ["store", "identity", "a\n.yaml"] (.file [])) }
    Path.ofText (store.file ⟨"a\n", by decide⟩).text = ⟨"", ["store", "identity", "a\n.yaml"]⟩ ∧
      store.file ⟨"a", by decide⟩ ≠ store.file ⟨"a\n", by decide⟩ ∧
      ∃ names, store.list.runOn world = (.ok names, world) ∧ "a\n" ∈ names := by
  intro store world
  obtain ⟨-, -, -, -, -, -, hnamed, hdifferent, hworld⟩ := identity_paths_confined store ⟨"a\n", by decide⟩
  obtain ⟨-, -, hlisted⟩ := hworld world
  refine ⟨(hnamed "./store/" rfl).trans (by decide), fun hpaths => ?_, hlisted (.file []) rfl⟩
  have hname := congrArg IdentityName.text (hdifferent ⟨"a", by decide⟩ hpaths)
  exact absurd hname (by decide)

end Store

end NamedKeys
