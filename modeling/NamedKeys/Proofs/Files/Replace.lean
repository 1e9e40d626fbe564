import NamedKeys.Proofs.Files.Temporary

/-!
# Writing a file in one stroke

What a run of `writeAtOnce` leaves behind once the folder is there: with no refusal, the file with the
new content and nothing else (`runOn_writeAtOnce`); otherwise the tree as it was, without the temporary
file (`runOn_writeAtOnce_error`).
-/

namespace NamedKeys

namespace FileTree

theorem freshName_char (tree : FileTree) (place : Place) :
    '.' ∉ (tree.freshName place).toList := by
  have candidate : ∀ k : Nat, '.' ∉ (s!"tmp{k}").toList := by
    intro k hdot
    have hdigit : '.' ∈ (toString "tmp").toList ∨ '.' ∈ Nat.toDigits 10 k := by
      rw [← Nat.toList_repr, ← List.mem_append, ← String.toList_append]
      exact hdot
    rcases hdigit with hdigit | hdigit
    · revert hdigit
      decide
    · have := Nat.isDigit_of_mem_toDigits (by decide) (by decide) hdigit
      cases this
  unfold freshName
  dsimp only
  generalize tree.namesIn place = names
  cases hfind : ((List.range (names.length + 1)).map fun k => s!"tmp{k}").find?
      fun name => !names.contains name with
  | none => simp
  | some name =>
    obtain ⟨k, -, rfl⟩ := List.mem_map.1 (List.mem_of_find?_eq_some hfind)
    exact candidate k

section Temp

variable {tree : FileTree} {folder place : Place} {path : Path} {name : String}

theorem temp_ne (tree : FileTree) (place : Place) (hdot : '.' ∈ name.toList) :
    place ++ [tree.freshName place] ≠ place ++ [name] := by
  rw [ne_eq, List.append_cancel_left_eq, List.singleton_inj]
  rintro rfl
  exact tree.freshName_char place hdot

theorem keepsFolders_temp (tree : FileTree) (place : Place) (octets : List UInt8) :
    tree.KeepsFolders (tree.set (place ++ [tree.freshName place]) (.file octets)) :=
  keepsFolders_set _ (by simp [tree.freshName_free place])

variable (hlocate : tree.locate folder path = .ok place) (hplace : tree.get? place = some .folder)

include hlocate hplace

/-- Moving the temporary file of a folder to a name in it. -/
theorem moveFile_temp (hname : IsEntryName name) (hdot : '.' ∈ name.toList)
    (htarget : tree.get? (place ++ [name]) ≠ some .folder) (octets : List UInt8) :
    (tree.set (place ++ [tree.freshName place]) (.file octets)).moveFile
      (place ++ [tree.freshName place]) folder (path.child name) =
      .ok (tree.set (place ++ [name]) (.file octets)) := by
  have hfree := tree.freshName_free place
  have hkeeps := tree.keepsFolders_temp place octets
  rw [moveFile, locate_entry (locate_mono hkeeps hlocate) (hkeeps place hplace) hname]
  simp only [bind, Except.bind]
  rw [get?_set_self _ (ne_root_of_none hfree), get?_set_of_ne _ (Ne.symm (temp_ne tree place hdot)),
    erase_set_of_none _ hfree]
  cases hother : tree.get? (place ++ [name]) with
  | none => rfl
  | some other =>
    cases other with
    | folder => exact absurd hother htarget
    | file octets => rfl

theorem moveFile_folder (hname : IsEntryName name)
    (htarget : tree.get? (place ++ [name]) = some .folder) (octets : List UInt8) :
    (tree.set (place ++ [tree.freshName place]) (.file octets)).moveFile
      (place ++ [tree.freshName place]) folder (path.child name) = .error .isFolder := by
  have hfree := tree.freshName_free place
  have hkeeps := tree.keepsFolders_temp place octets
  rw [moveFile, locate_entry (locate_mono hkeeps hlocate) (hkeeps place hplace) hname]
  simp only [bind, Except.bind]
  rw [get?_set_self _ (ne_root_of_none hfree), hkeeps _ htarget]

theorem moveFile_long (hparent : name ≠ "..") (hlong : name.utf8ByteSize > longestName)
    (octets : List UInt8) :
    (tree.set (place ++ [tree.freshName place]) (.file octets)).moveFile
      (place ++ [tree.freshName place]) folder (path.child name) = .error .nameTooLong := by
  have hkeeps := tree.keepsFolders_temp place octets
  rw [moveFile, locate_child, locate_mono hkeeps hlocate]
  dsimp only
  rw [follow, hkeeps place hplace]
  dsimp only
  rw [if_neg hparent, if_pos hlong]
  rfl

end Temp

end FileTree

namespace Action

/-! ## Steps -/

theorem runOn_log (level : LogLevel) (message : String) (world : World) :
    (log level message).runOn world =
      (.ok (), { world with log := world.log ++ [⟨level, message⟩] }) := rfl

theorem runOn_ensureFolders {path : Path} {world : World} {tree : FileTree} {result : Except FileFault Unit}
    (h : world.files.ensureFolders world.folder path = (tree, result)) :
    (ensureFolders path).runOn world =
      (result.mapError Failure.file, { world with files := tree }) := by
  rw [ensureFolders, runOn_bind, runOn_get]
  dsimp only
  rw [h]
  dsimp only
  rw [runOn_bind, runOn_setFiles]
  cases result <;> rfl

/-! ## The temporary file -/

section

variable {α : Type} {folder : Place} {content : TempContent} {body : Place → Action α} {world : World}
  {place : Place} (hplace : place = folder ++ [world.files.freshName folder])

include hplace

/-- A failure that leaves the temporary file as it was leaves nothing of it. -/
theorem runOn_withTempFile_error {failure : Failure}
    (hbody : (body place).runOn { world with files := world.files.set place (.file content.written) } =
      (.error failure, { world with files := world.files.set place (.file content.written) })) :
    (withTempFile folder content body).runOn world = (.error failure, world) := by
  subst hplace
  have hfree := world.files.freshName_free folder
  rw [runOn_withTempFile folder content body world rfl, withNewFile, hbody, runOn_discard]
  dsimp only
  rw [FileTree.get?_set_self _ (FileTree.ne_root_of_none hfree)]
  dsimp only
  rw [FileTree.erase_set_of_none _ hfree]

/-- When the body has moved the temporary file away, nothing is left to remove. -/
theorem runOn_withTempFile_ok {a : α} {after : World}
    (hbody : (body place).runOn { world with files := world.files.set place (.file content.written) } =
      (.ok a, after)) (hgone : after.files.get? place = none) :
    (withTempFile folder content body).runOn world = (.ok a, after) := by
  subst hplace
  rw [runOn_withTempFile folder content body world rfl, withNewFile, hbody, runOn_discard, hgone]

end

/-! ## Writing -/

section Writing

variable {world : World} {tree : FileTree} {place : Place} {path : Path} {name : String}
  (hmade : world.files.ensureFolders world.folder path = (tree, .ok ()))
  (hlocate : tree.locate world.folder path = .ok place)

include hmade hlocate

/-- Writing a file is writing it through a temporary one where its folder is. -/
theorem runOn_writeAtOnce_eq (text : List Char) :
    (writeAtOnce (path.child name) text).runOn world =
      (withTempFile place (.text text) fun temp => replace temp (path.child name)).runOn
        { world with files := tree } := by
  rw [writeAtOnce, Path.parent_child, runOn_bind, runOn_ensureFolders hmade]
  dsimp only [Except.mapError]
  rw [runOn_bind, runOn_get]
  dsimp only
  rw [runOn_bind, hlocate, runOn_ofFiles_ok]

variable (hplace : tree.get? place = some .folder)

include hplace

theorem runOn_writeAtOnce (hreplace : world.replaceRefusal = none)
    (hname : FileTree.IsEntryName name) (hdot : '.' ∈ name.toList)
    (htarget : tree.get? (place ++ [name]) ≠ some .folder) (text : List Char) :
    (writeAtOnce (path.child name) text).runOn world =
      (.ok (), { world with
        files := tree.set (place ++ [name]) (.file (Text.Utf8.encode text)) }) := by
  have hmove := FileTree.moveFile_temp hlocate hplace hname hdot htarget (Text.Utf8.encode text)
  have hne := tree.temp_ne place hdot
  have hfree := tree.freshName_free place
  rw [runOn_writeAtOnce_eq hmade hlocate]
  refine runOn_withTempFile_ok rfl ?_ ?_
  · rw [runOn_replace (by exact hreplace)]
    dsimp only [TempContent.written]
    rw [hmove]
  · dsimp only
    rw [FileTree.get?_set_of_ne _ hne, hfree]

omit hplace in
theorem runOn_writeAtOnce_fault (hreplace : world.replaceRefusal = none) (text : List Char)
    {fault : FileFault}
    (hmove : (tree.set (place ++ [tree.freshName place]) (.file (Text.Utf8.encode text))).moveFile
      (place ++ [tree.freshName place]) world.folder (path.child name) = .error fault) :
    (writeAtOnce (path.child name) text).runOn world =
      (.error (.file fault), { world with files := tree }) := by
  rw [runOn_writeAtOnce_eq hmade hlocate]
  refine runOn_withTempFile_error rfl ?_
  rw [runOn_replace (by exact hreplace)]
  dsimp only [TempContent.written]
  rw [hmove]

/-- A write that fails after its folder is there leaves the tree as it was. -/
theorem runOn_writeAtOnce_error (hparent : name ≠ "..")
    (hfails : world.replaceRefusal ≠ none ∨ ¬ FileTree.IsEntryName name ∨
      tree.get? (place ++ [name]) = some .folder) (text : List Char) :
    ∃ failure, (writeAtOnce (path.child name) text).runOn world =
      (.error failure, { world with files := tree }) := by
  by_cases hreplace : world.replaceRefusal = none
  · by_cases hname : FileTree.IsEntryName name
    · have htarget : tree.get? (place ++ [name]) = some .folder := by
        rcases hfails with h | h | h
        · exact absurd hreplace h
        · exact absurd hname h
        · exact h
      exact ⟨_, runOn_writeAtOnce_fault hmade hlocate hreplace text
        (FileTree.moveFile_folder hlocate hplace hname htarget _)⟩
    · have hlong : name.utf8ByteSize > FileTree.longestName := by
        by_contra hshort
        exact hname ⟨hparent, by omega⟩
      exact ⟨_, runOn_writeAtOnce_fault hmade hlocate hreplace text
        (FileTree.moveFile_long hlocate hplace hparent hlong _)⟩
  · obtain ⟨reason, hreason⟩ := Option.ne_none_iff_exists'.1 hreplace
    rw [runOn_writeAtOnce_eq hmade hlocate]
    refine ⟨.file (.refused reason), runOn_withTempFile_error rfl ?_⟩
    exact runOn_replace_refused hreason

end Writing

/-- A write that succeeds has made the folder, and has put the file there and done nothing else. -/
theorem writeAtOnce_ok {world after : World} {path : Path} {name : String} {text : List Char}
    (hparent : name ≠ "..") (hdot : '.' ∈ name.toList)
    (h : (writeAtOnce (path.child name) text).runOn world = (.ok (), after)) :
    ∃ tree place, world.files.ensureFolders world.folder path = (tree, .ok ()) ∧
      tree.locate world.folder path = .ok place ∧ tree.get? place = some .folder ∧
      FileTree.IsEntryName name ∧ tree.get? (place ++ [name]) ≠ some .folder ∧
      world.replaceRefusal = none ∧ after = { world with
        files := tree.set (place ++ [name]) (.file (Text.Utf8.encode text)) } := by
  match hmade : world.files.ensureFolders world.folder path with
  | (tree, .error fault) =>
    rw [writeAtOnce, Path.parent_child, runOn_bind_error (runOn_ensureFolders hmade)] at h
    cases h
  | (tree, .ok ()) =>
    obtain ⟨place, hlocate, hplace⟩ := FileTree.ensureFolders_ok hmade
    by_cases hfails : world.replaceRefusal ≠ none ∨ ¬ FileTree.IsEntryName name ∨
        tree.get? (place ++ [name]) = some .folder
    · obtain ⟨failure, hrun⟩ :=
        runOn_writeAtOnce_error hmade hlocate hplace hparent hfails text
      rw [hrun] at h
      cases h
    · simp only [not_or, not_not] at hfails
      obtain ⟨hreplace, hname, htarget⟩ := hfails
      rw [runOn_writeAtOnce hmade hlocate hplace hreplace hname hdot htarget] at h
      exact ⟨tree, place, rfl, hlocate, hplace, hname, htarget, hreplace, (Prod.mk.inj h).2.symm⟩

end Action

end NamedKeys
