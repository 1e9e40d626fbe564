import NamedKeys.Proofs.Files.Replace
import NamedKeys.Proofs.Store.FileName

/-!
# Looking for an identity in any file tree

To read or to remove an identity is to look for its file first, and to list all of them is to look for the
folder.  What stands at the end of the path decides what all three come to, whatever else there is in the
tree:

    a file of the name      its octets are read as a secret          (runOn_read_file)
                            it is removed, whatever its octets       (runOn_remove_file)
    a folder, or nothing    the identity is not found                (runOn_read_noFile, runOn_remove_noFile)
    the folder              its identity files are listed            (runOn_list_folder)
    a file, or nothing      nothing is listed                        (runOn_list_noFolder)

A way that is refused makes all three fail as it does.
-/

namespace NamedKeys

def Entry.octets? : Entry → Option (List UInt8)
  | folder => none
  | file octets => some octets

theorem FileTree.exists_locate_of_entryAt {tree : FileTree} {folder : Place} {path : Path} {entry : Entry}
    (h : tree.entryAt folder path = .ok (some entry)) :
    ∃ place, tree.locate folder path = .ok place ∧ tree.get? place = some entry := by
  unfold entryAt at h
  split at h
  · next place hplace => exact ⟨place, hplace, Except.ok.inj h⟩
  · cases h
  · cases h
  · cases h

theorem Action.runOn_readFile? (path : Path) (world : World) :
    (readFile? path).runOn world =
      (match world.files.entryAt world.folder path with
        | .ok found? => .ok (found?.bind Entry.octets?)
        | .error fault => .error (.file fault), world) := by
  rw [readFile?, runOn_bind, runOn_get]
  dsimp only
  rw [runOn_bind]
  cases world.files.entryAt world.folder path with
  | error fault => rfl
  | ok found? => rcases found? with _ | _ | octets <;> rfl

namespace Store

section

variable {store : Store} {name : IdentityName} {world : World}

section

variable {octets : List UInt8}
  (h : world.files.entryAt world.folder (store.file name) = .ok (some (.file octets)))

include h

/-- A file is read as its octets are, and nothing is changed. -/
theorem runOn_read_file :
    (store.read name).runOn world = (secretOfOctets (store.file name).text octets, world) := by
  rw [read]
  simp only [Action.runOn_bind, Action.runOn_readFile?, h, Option.bind_some, Entry.octets?,
    Action.runOn_ofExcept]

/-- A file is removed, whatever its octets. -/
theorem runOn_remove_file :
    ∃ place log, world.files.locate world.folder (store.file name) = .ok place ∧
      (store.remove name).runOn world =
        (.ok (), { world with files := world.files.erase place, log }) := by
  obtain ⟨place, hlocate, hplace⟩ := FileTree.exists_locate_of_entryAt h
  have hremove : world.files.removeFile place = .ok (world.files.erase place) := by
    rw [FileTree.removeFile, hplace]
  refine ⟨place, world.log ++ [⟨.info, "Identity " ++ Text.quoted name.text ++ " removed"⟩], hlocate,
    ?_⟩
  rw [remove]
  simp only [Action.runOn_bind, Action.runOn_readFile?, h, Option.bind_some, Entry.octets?,
    Action.runOn_get, hlocate, Action.runOn_ofFiles_ok, hremove, Action.runOn_setFiles,
    Action.runOn_log]

end

section

variable {found? : Option Entry} (h : world.files.entryAt world.folder (store.file name) = .ok found?)
  (hnone : found?.bind Entry.octets? = none)

include h hnone

theorem runOn_read_noFile :
    (store.read name).runOn world = (.error (.identityNotFound name.text), world) := by
  rw [read]
  simp only [Action.runOn_bind, Action.runOn_readFile?, h, hnone, Action.runOn_throw]

theorem runOn_remove_noFile :
    (store.remove name).runOn world = (.error (.identityNotFound name.text), world) := by
  rw [remove]
  simp only [Action.runOn_bind, Action.runOn_readFile?, h, hnone, Action.runOn_throw]

end

section

variable {fault : FileFault}
  (h : world.files.entryAt world.folder (store.file name) = .error fault)

include h

theorem runOn_read_fault : (store.read name).runOn world = (.error (.file fault), world) := by
  rw [read]
  simp only [Action.runOn_bind, Action.runOn_readFile?, h]

theorem runOn_remove_fault : (store.remove name).runOn world = (.error (.file fault), world) := by
  rw [remove]
  simp only [Action.runOn_bind, Action.runOn_readFile?, h]

end

end

section

variable {store : Store} {world : World}

/-- The names of identity files in the folder are listed, in order. -/
theorem runOn_list_folder {place : Place}
    (hlocate : world.files.locate world.folder store.folder = .ok place)
    (hplace : world.files.get? place = some .folder) :
    store.list.runOn world = (.ok (((world.files.namesIn place).filterMap nameOfFile?).mergeSort
      fun a b => decide (a ≤ b)), world) := by
  have hisFolder : world.files.isFolder world.folder store.folder = .ok true := by
    rw [FileTree.isFolder, FileTree.entryAt_of_locate hlocate, hplace]
    rfl
  rw [list]
  simp only [Action.runOn_bind, Action.runOn_get, hisFolder, Action.runOn_ofFiles_ok, if_true,
    hlocate]
  rfl

/-- Nothing is listed where there is no folder. -/
theorem runOn_list_noFolder {found? : Option Entry}
    (h : world.files.entryAt world.folder store.folder = .ok found?)
    (hfolder : found? ≠ some .folder) : store.list.runOn world = (.ok [], world) := by
  have hisFolder : world.files.isFolder world.folder store.folder = .ok false := by
    rw [FileTree.isFolder, h]
    exact congrArg Except.ok (decide_eq_false hfolder)
  rw [list]
  simp only [Action.runOn_bind, Action.runOn_get, hisFolder, Action.runOn_ofFiles_ok]
  rfl

theorem runOn_list_fault {fault : FileFault}
    (h : world.files.entryAt world.folder store.folder = .error fault) :
    store.list.runOn world = (.error (.file fault), world) := by
  rw [list, Action.runOn_bind, Action.runOn_get]
  dsimp only
  rw [Action.runOn_bind, FileTree.isFolder, h]
  rfl

end

end Store

end NamedKeys
