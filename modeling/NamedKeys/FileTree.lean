import NamedKeys.Failure
import NamedKeys.Path
import NamedKeys.Table

/-!
# File trees

Folders and files by the names that lead to them from the root, and what the file system does with a
path: it follows the names one by one, so that a path may fail because a folder is missing, because
a file stands where a folder should, or because a name is too long.  An operation that fails midway
keeps what it has done.
-/

namespace NamedKeys

/-- The names that lead to a place from the root. -/
abbrev Place := List String

/-- What stands at a place. -/
inductive Entry where
  | folder
  | file (octets : List UInt8)
  deriving DecidableEq, Repr

/-- The entries of a file system by place; the root is a folder without an entry. -/
structure FileTree where
  entries : Table Place Entry
  deriving DecidableEq, Repr

namespace FileTree

def empty : FileTree := ⟨[]⟩

/-- What stands at a place. -/
def get? (tree : FileTree) (place : Place) : Option Entry :=
  if place = [] then some .folder else tree.entries.lookup place

/-- The tree with an entry at a place, in the stead of any other. -/
def set (tree : FileTree) (place : Place) (entry : Entry) : FileTree :=
  ⟨tree.entries.put place entry⟩

def erase (tree : FileTree) (place : Place) : FileTree :=
  ⟨tree.entries.remove place⟩

theorem get?_set (tree : FileTree) (place other : Place) (entry : Entry) :
    (tree.set place entry).get? other =
      if other = [] then some .folder
      else if other = place then some entry
      else tree.get? other := by
  by_cases h : other = [] <;> simp [get?, set, h]

theorem get?_erase (tree : FileTree) (place other : Place) :
    (tree.erase place).get? other =
      if other = [] then some .folder
      else if other = place then none
      else tree.get? other := by
  by_cases h : other = [] <;> simp [get?, erase, h]

def namesIn (tree : FileTree) (place : Place) : List String :=
  tree.entries.filterMap fun (other, _) =>
    if other.dropLast = place then other.getLast? else none

/-- The most octets that a name may have. -/
def longestName : Nat := 255

/-- Follows names from a place; the last of them need not exist. -/
def follow (tree : FileTree) (place : Place) : List String → Except FileFault Place
  | [] => .ok place
  | name :: names =>
    match tree.get? place with
    | none => .error .missing
    | some (.file _) => .error .notFolder
    | some .folder =>
      if name = ".." then follow tree place.dropLast names
      else if name.utf8ByteSize > longestName then .error .nameTooLong
      else follow tree (place ++ [name]) names

/-- The place that a path leads to, relative to a folder. -/
def locate (tree : FileTree) (folder : Place) (path : Path) : Except FileFault Place :=
  tree.follow (if path.isAbsolute then [] else folder) path.names

/-- What stands at the end of a path, nothing also when the way to it is missing. -/
def entryAt (tree : FileTree) (folder : Place) (path : Path) : Except FileFault (Option Entry) :=
  match tree.locate folder path with
  | .ok place => .ok (tree.get? place)
  | .error .missing | .error .notFolder => .ok none
  | .error fault => .error fault

def isFolder (tree : FileTree) (folder : Place) (path : Path) : Except FileFault Bool :=
  (tree.entryAt folder path).map (· = some .folder)

/-- Makes one folder, whose place must be free. -/
def makeFolder (tree : FileTree) (folder : Place) (path : Path) : Except FileFault FileTree := do
  let place ← tree.locate folder path
  match tree.get? place with
  | some _ => .error .exists
  | none => .ok (tree.set place .folder)

/-- Makes one folder unless there is one already. -/
def ensureFolder (tree : FileTree) (folder : Place) (path : Path) : Except FileFault FileTree :=
  match tree.makeFolder folder path with
  | .error .missing => .error .missing
  | .error fault => do if ← tree.isFolder folder path then .ok tree else .error fault
  | made => made

/-- Makes a folder and the folders above it that are missing, where the names of the path are given
from the last to the first.  The folders made before a failure stay. -/
def ensureFoldersAt (tree : FileTree) (folder : Place) (anchor : String) :
    List String → FileTree × Except FileFault Unit
  | [] => settle tree (tree.ensureFolder folder ⟨anchor, []⟩)
  | name :: above =>
    let path : Path := ⟨anchor, (name :: above).reverse⟩
    match tree.ensureFolder folder path with
    | .error .missing =>
      match ensureFoldersAt tree folder anchor above with
      | (tree, .ok ()) => settle tree (tree.ensureFolder folder path)
      | failed => failed
    | made => settle tree made
where
  /-- The tree that is left, and whether the folder is there. -/
  settle (tree : FileTree) : Except FileFault FileTree → FileTree × Except FileFault Unit
    | .ok made => (made, .ok ())
    | .error fault => (tree, .error fault)

/-- Makes a folder and the folders above it that are missing. -/
def ensureFolders (tree : FileTree) (folder : Place) (path : Path) :
    FileTree × Except FileFault Unit :=
  tree.ensureFoldersAt folder path.anchor path.names.reverse

/-- A name that no entry of a folder has: `tmp` and the least number that makes it new. -/
def freshName (tree : FileTree) (place : Place) : String :=
  let names := tree.namesIn place
  let candidates := (List.range (names.length + 1)).map fun k => s!"tmp{k}"
  (candidates.find? fun name => !names.contains name).getD ""

/-- Removes a file. -/
def removeFile (tree : FileTree) (place : Place) : Except FileFault FileTree :=
  match tree.get? place with
  | none => .error .missing
  | some .folder => .error .isFolder
  | some (.file _) => .ok (tree.erase place)

/-- Moves a file to the end of a path, in the stead of any other file. -/
def moveFile (tree : FileTree) (source : Place) (folder : Place) (path : Path) :
    Except FileFault FileTree := do
  let target ← tree.locate folder path
  match tree.get? source, tree.get? target with
  | none, _ => .error .missing
  | some _, some .folder => .error .isFolder
  | some entry, _ => .ok ((tree.erase source).set target entry)

end FileTree

end NamedKeys
