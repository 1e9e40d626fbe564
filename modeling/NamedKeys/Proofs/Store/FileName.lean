import NamedKeys.Proofs.Files.Tree
import NamedKeys.Proofs.Path
import NamedKeys.Proofs.Secret
import NamedKeys.Proofs.Text.Ascii
import NamedKeys.Store

/-!
# The names of identity files

A file of the folder belongs to an identity exactly if its name is that of the identity with the
ending, and no two identities have one file:

    nameOfFile? file = some name ↔ file = fileName name ∧ isNameForm name.toList = true
                                                                     (nameOfFile?_eq_some_iff)

The name of the file fits the file system unless the name has its full length and a line feed.
-/

namespace NamedKeys.Store

def fileName (name : String) : String :=
  name ++ fileEnding

theorem file_eq (store : Store) (name : IdentityName) :
    store.file name = store.folder.child (fileName name.text) := rfl

theorem toList_fileName (name : String) :
    (fileName name).toList = name.toList ++ ['.', 'y', 'a', 'm', 'l'] :=
  String.toList_append

theorem fileName_injective {name other : String} (h : fileName name = fileName other) :
    name = other := by
  have hlist := congrArg String.toList h
  rw [toList_fileName, toList_fileName, List.append_cancel_right_eq] at hlist
  exact String.toList_inj.1 hlist

theorem dot_mem_fileName (name : String) : '.' ∈ (fileName name).toList := by
  rw [toList_fileName]
  simp

theorem fileName_eq_ofList (name : String) :
    fileName name = String.ofList (name.toList ++ '.' :: ['y', 'a', 'm', 'l']) := by
  rw [← String.toList_inj, toList_fileName, String.toList_ofList]

theorem stem_fileName {name : String} (h : name.toList ≠ []) : Path.stem (fileName name) = name := by
  rw [fileName_eq_ofList, Path.stem_append h (by decide) (by decide), String.ofList_toList]

theorem suffix_fileName {name : String} (h : name.toList ≠ []) :
    Path.suffix (fileName name) = fileEnding := by
  rw [fileName_eq_ofList, Path.suffix_append h (by decide) (by decide)]
  rfl

theorem ne_nil_of_isNameForm {cs : List Char} (h : isNameForm cs = true) : cs ≠ [] := by
  rintro rfl
  cases h

/-- The files of identities and their names. -/
theorem nameOfFile?_eq_some_iff {file name : String} :
    nameOfFile? file = some name ↔ file = fileName name ∧ isNameForm name.toList = true := by
  constructor
  · intro h
    unfold nameOfFile? at h
    dsimp only at h
    split at h
    · next hfile =>
      obtain ⟨hsuffix, hform⟩ := hfile
      rw [List.isSuffixOf_iff_suffix] at hsuffix
      obtain ⟨front, hfront⟩ := hsuffix
      have heq : file = fileName (String.ofList front) := by
        rw [← String.toList_inj, toList_fileName, String.toList_ofList, ← hfront]
        rfl
      obtain rfl := Option.some.inj h
      by_cases hempty : front = []
      · have hending : isNameForm (Path.stem (fileName (String.ofList []))).toList = false := by decide
        rw [heq, hempty, hending] at hform
        cases hform
      · rw [heq, stem_fileName (by rwa [String.toList_ofList])] at hform ⊢
        exact ⟨rfl, hform⟩
    · cases h
  · rintro ⟨rfl, hform⟩
    unfold nameOfFile?
    dsimp only
    have hsuffix : fileEnding.toList.isSuffixOf (fileName name).toList = true := by
      rw [List.isSuffixOf_iff_suffix, toList_fileName]
      exact ⟨name.toList, rfl⟩
    rw [stem_fileName (ne_nil_of_isNameForm hform), if_pos ⟨hsuffix, hform⟩]

theorem nameOfFile?_fileName {name : String} (h : isNameForm name.toList = true) :
    nameOfFile? (fileName name) = some name :=
  nameOfFile?_eq_some_iff.2 ⟨rfl, h⟩

theorem isAscii_of_isNameForm {name : String} (h : isNameForm name.toList = true) :
    Text.IsAscii name.toList := by
  have hbody := isNameForm_iff.1 h
  intro c hc
  have hmem : c ∈ bodyOf name.toList ∨ c = '\n' := by
    rcases bodyOf_cases name.toList with hname | hname
    · exact .inl (by rwa [← hname])
    · rw [hname, List.mem_append, List.mem_singleton] at hc
      exact hc
  rcases hmem with hmem | rfl
  · have := isNameChar_toNat (hbody.chars c hmem)
    omega
  · decide

theorem utf8ByteSize_fileName {name : String} (h : isNameForm name.toList = true) :
    (fileName name).utf8ByteSize = name.toList.length + 5 := by
  rw [Text.utf8ByteSize_of_isAscii, toList_fileName, List.length_append]
  · rfl
  · rw [toList_fileName]
    intro c hc
    rcases List.mem_append.1 hc with hc | hc
    · exact isAscii_of_isNameForm h c hc
    · have hending : ∀ c ∈ ['.', 'y', 'a', 'm', 'l'], c.toNat < 128 :=
        List.all_iff_forall_prop.1 (by decide)
      exact hending c hc

theorem fileName_ne_parent (name : String) : fileName name ≠ ".." := by
  intro h
  have hlast := congrArg (fun text : String => text.toList.getLast?) h
  simp only [toList_fileName, List.getLast?_append] at hlast
  cases hlast

/-- Only a name of full length with a line feed is too long for the name of its file. -/
theorem isEntryName_fileName_iff {name : String} (h : isNameForm name.toList = true) :
    FileTree.IsEntryName (fileName name) ↔ name.toList.length ≤ 250 := by
  constructor
  · intro hentry
    have := hentry.short
    rw [utf8ByteSize_fileName h, FileTree.longestName] at this
    omega
  · intro hshort
    refine ⟨fileName_ne_parent name, ?_⟩
    rw [utf8ByteSize_fileName h, FileTree.longestName]
    omega

end NamedKeys.Store
