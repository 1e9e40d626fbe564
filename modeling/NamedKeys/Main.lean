import NamedKeys.CommandLine

/-!
# The program

Runs a command line on the machine it is started on.  It reads those files that a command can look
at, runs the command on them, prints what the command prints and then makes the changes that the
command has made.  It opens no connection: every request counts as one that reaches nobody, and the
platform's keychain as one that refuses.
-/

namespace NamedKeys.Program

/-- The environment variables that a command can look at. -/
def variableNames : List String :=
  ["LOGNAME", "USER", "LNAME", "USERNAME", "HOME", "XDG_CONFIG_HOME", "IDENTITIES_CONFIG_HOME",
    "IDENTITIES_KEYCHAIN_BACKEND", "IDENTITIES_NETWORK"]

/-- What a request and the platform's keychain answer. -/
def refusal : String := "not available to this program"

def placeOf (folder : Place) (path : Path) : Place :=
  path.names.foldl (fun place name => if name = ".." then place.dropLast else place ++ [name])
    (if path.isAbsolute then [] else folder)

/-- The stores that a command line can choose. -/
def stores (world : World) (words : List String) : List Path :=
  let given := match readStore with
    | some folder => [Path.ofText folder]
    | none => []
  let projects := (StoreLocation.upwards (StoreLocation.currentFolder world)).map
    (·.child StoreLocation.localName)
  given ++ projects ++ [StoreLocation.ofUser world]
where
  /-- The store that the words of the command line name. -/
  readStore : Option String :=
    match CommandLine.readLine world words with
    | .ok (some (general, _)) => general.storeFolder
    | _ => none

/-- The folders and files that a command can look at, apart from those of identities. -/
def lookedAt (world : World) (words : List String) : List Path :=
  let current := StoreLocation.upwards (StoreLocation.currentFolder world)
  current.map (·.child StoreLocation.repositoryMark) ++
    (stores world words).flatMap fun store => StoreLocation.upwards (Store.mk store).folder

/-! ## The machine -/

/-- Adds what stands at a path of the machine to a file tree. -/
def load (folder : Place) (files : FileTree) (path : Path) : IO FileTree := do
  let found := (← IO.currentDir) / path.text
  if ← found.isDir then return files.set (placeOf folder path) .folder
  else if ← found.pathExists then
    return files.set (placeOf folder path) (.file (← IO.FS.readBinFile found).toList)
  else return files

/-- Adds the entries of a folder of the machine to a file tree. -/
def loadFolder (folder : Place) (files : FileTree) (path : Path) : IO FileTree := do
  let found := (← IO.currentDir) / path.text
  if ← found.isDir then
    (← found.readDir).foldlM (fun files entry => load folder files (path.child entry.fileName)) files
  else return files

/-- The world in which a command line is run. -/
def worldFor (words : List String) : IO World := do
  let environment ← variableNames.filterMapM fun name => do
    return (← IO.getEnv name).map fun value => (name, value)
  let world : World := {
    files := .empty
    folder := (Path.ofText (← IO.currentDir).toString).names
    environment
    accountName := "root"
    accountHome := "/root"
    memory := []
    keyring := ⟨[], some refusal, some refusal⟩
    asked := []
    randomness := [(← IO.getRandomBytes 32).toList]
    replaceRefusal := none
    log := []
    requests := [] }
  let files ← (lookedAt world words).foldlM (load world.folder) world.files
  let folders := (stores world words).map fun store => (Store.mk store).folder
  return { world with files := ← folders.foldlM (loadFolder world.folder) files }

/-- Makes the changes that lead from one file tree to another; a file is written beside the one that
it replaces. -/
def save (before after : FileTree) : IO Unit := do
  let entries := after.entries.mergeSort fun a b => a.1.length ≤ b.1.length
  for (place, entry) in entries do
    if before.get? place ≠ some entry then
      let path := "/" ++ "/".intercalate place
      match entry with
      | .folder => IO.FS.createDirAll path
      | .file octets =>
        IO.FS.writeBinFile (path ++ "~") ⟨octets.toArray⟩
        IO.FS.rename (path ++ "~") path
  for (place, _) in before.entries do
    if (after.get? place).isNone then IO.FS.removeFile ("/" ++ "/".intercalate place)

/-- Runs a command line and gives the code with which it ends. -/
def run (words : List String) : IO Nat := do
  let world ← worldFor words
  let (outcome, after) := CommandLine.run words (.unreachable refusal) world
  save world.files after.files
  for record in after.log do
    IO.eprintln record.message
  IO.print outcome.output
  IO.eprint outcome.errors
  if let some failure := outcome.escaped then IO.eprintln failure.message
  return outcome.code

end NamedKeys.Program

def main (words : List String) : IO UInt32 := do
  return (← NamedKeys.Program.run words).toUInt32
