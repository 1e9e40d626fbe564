import NamedKeys.Text.Utf8
import NamedKeys.World

/-!
# Temporary files

A file that exists while an action runs, and the writing of a file in one stroke: the new content
goes to a temporary file in the same folder, which then takes the place of the old one.
-/

namespace NamedKeys

/-- What a temporary file is made with. -/
inductive TempContent where
  | nothing
  | text (text : List Char)
  | octets (octets : List UInt8)
  deriving DecidableEq, Repr

namespace TempContent

instance : Coe (List UInt8) TempContent := ⟨octets⟩

def written : TempContent → List UInt8
  | .nothing => []
  | .text chars => Text.Utf8.encode chars
  | .octets given => given

end TempContent

namespace Action

def files : Action FileTree := do
  return (← get).files

def setFiles (files : FileTree) : Action Unit :=
  modify fun world => { world with files }

/-- Makes a folder and the folders above it that are missing. -/
def ensureFolders (path : Path) : Action Unit := do
  let world ← get
  let (files, result) := world.files.ensureFolders world.folder path
  setFiles files
  ofFiles result

/-- Makes a new file in a folder and gives its place. -/
def makeTempFile (folder : Place) (content : TempContent) : Action Place := do
  let files ← files
  let place := folder ++ [files.freshName folder]
  setFiles (files.set place (.file content.written))
  return place

/-- Removes a file unless it is gone already. -/
def discard (place : Place) : Action Unit := do
  match (← files).removeFile place with
  | .ok files => setFiles files
  | .error .missing => return
  | .error fault => throw (.file fault)

/-- Runs an action with a new file in a folder that holds the given content.  The file is removed
when the action ends, in whatever way it ends. -/
def withTempFile {α : Type} (folder : Place) (content : TempContent) (body : Place → Action α) :
    Action α := do
  let place ← makeTempFile folder content
  thenAlways (body place) (discard place)

/-- Puts a file in the stead of what is at the end of a path, unless the system refuses it. -/
def replace (source : Place) (path : Path) : Action Unit := do
  let world ← get
  match world.replaceRefusal with
  | some text => throw (.file (.refused text))
  | none => setFiles (← ofFiles (world.files.moveFile source world.folder path))

/-- Writes a text to a file in one stroke; missing folders are made before. -/
def writeAtOnce (path : Path) (text : List Char) : Action Unit := do
  ensureFolders path.parent
  let world ← get
  let folder ← ofFiles (world.files.locate world.folder path.parent)
  withTempFile folder (.text text) fun place => replace place path

/-- The octets of the file at the end of a path; nothing if there is none. -/
def readFile? (path : Path) : Action (Option (List UInt8)) := do
  let world ← get
  match ← ofFiles (world.files.entryAt world.folder path) with
  | some (.file octets) => return some octets
  | _ => return none

end Action

end NamedKeys
