import NamedKeys.Store

/-!
# Where the store is

The store of a project is a folder beside its files: it is looked for from the current folder upwards,
but not above the root of a repository.  If there is none, the store of the user is taken, whose place
depends on the environment.
-/

namespace NamedKeys.StoreLocation

def localName : String := ".identities"

def repositoryMark : String := ".git"

/-- The folder itself, its parent, the parent of that and so on, up to one that is its own parent. -/
def upwards (path : Path) : List Path :=
  (List.range (path.names.length + 1)).map fun n =>
    { path with names := path.names.take (path.names.length - n) }

/-- Looks for the first of some folders that holds a store, and stops after one that is the root of a
repository. -/
def findAmong : List Path → Action (Option Path)
  | [] => return none
  | path :: above => do
    let world ← get
    let candidate := path.child localName
    if ← Action.ofFiles (world.files.isFolder world.folder candidate) then return some candidate
    else if (← Action.ofFiles (world.files.entryAt world.folder (path.child repositoryMark))).isSome then
      Action.log .debug
        ("Reached the git root folder without finding a " ++ Text.quoted localName ++ " folder.")
      return none
    else findAmong above

def currentFolder (world : World) : Path := ⟨"/", world.folder⟩

/-- Looks for the store of a project from a folder, the current one if none is given. -/
def find? (start : Option Path) : Action (Option Path) := do
  findAmong (upwards (start.getD (currentFolder (← get))))

/-- The folder of a user's settings: the one the environment names, or one in the home folder. -/
def settingsFolder (world : World) : String :=
  match world.value? "XDG_CONFIG_HOME" with
  | some folder => folder
  | none =>
    let home := (world.value? "HOME").getD world.accountHome
    String.ofList (home.toList.reverse.dropWhile (· = '/')).reverse ++ "/.config"

/-- The store of the user. -/
def ofUser (world : World) : Path :=
  match world.value? "IDENTITIES_CONFIG_HOME" with
  | some folder => .ofText folder
  | none =>
    let settings := settingsFolder world
    let name := "radium226-identities"
    .ofText (if settings = "" ∨ settings.toList.getLast? = some '/' then settings ++ name
      else settings ++ "/" ++ name)

/-- The store to use: the given one, or that of the project unless the user's is wanted, or the
user's. -/
def resolve (useGlobal : Bool) (given : Option Path) : Action Path := do
  match given with
  | some path => return path
  | none =>
    let project ← if useGlobal then pure none else find? none
    return project.getD (ofUser (← get))

end NamedKeys.StoreLocation
