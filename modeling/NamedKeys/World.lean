import NamedKeys.FileTree

/-!
# The world of the program

Everything that an action of the program reads or changes, as one value: the files, the current
folder, the environment, what keychains hold, the random octets still to come, the log and the
requests sent.  An action either succeeds or fails, and what it has changed before a failure stays
changed: `runOn_bind` says how two actions are run one after the other, `runOn_tryCatch` how a failure
is handled, and `runOn_thenAlways` how an action ends that cleans up after itself.
-/

namespace NamedKeys

inductive LogLevel where
  | debug
  | info
  | warning
  deriving DecidableEq, Repr

structure LogRecord where
  level : LogLevel
  message : String
  deriving DecidableEq, Repr

/-- The table of the platform's keychain: a text for each service and user name, with the reasons
for which it refuses to be read or written, if it does. -/
structure Keyring where
  passwords : Table (String × String) String
  readRefusal : Option String
  writeRefusal : Option String
  deriving DecidableEq, Repr

/-- What the program reads and changes. -/
structure World where
  files : FileTree
  folder : Place
  environment : Table String String
  /-- The name and the home folder that the system knows for the user. -/
  accountName : String
  accountHome : String
  /-- What a keychain in memory holds. -/
  memory : Table String (List UInt8)
  keyring : Keyring
  /-- The names of the entries that keychains have been asked to read or to write, in order. -/
  asked : List String
  /-- The outcomes of the next draws of random octets. -/
  randomness : List (List UInt8)
  /-- The reason for which the file system refuses to put one file in the stead of another. -/
  replaceRefusal : Option String
  log : List LogRecord
  requests : List String
  deriving DecidableEq, Repr

/-- A computation on the world that may fail. -/
abbrev Action := ExceptT Failure (StateM World)

namespace Action

def runOn {α : Type} (action : Action α) (world : World) : Except Failure α × World :=
  (ExceptT.run action).run world

def log (level : LogLevel) (message : String) : Action Unit :=
  modify fun world => { world with log := world.log ++ [⟨level, message⟩] }

def ofExcept {α : Type} : Except Failure α → Action α
  | .ok a => pure a
  | .error failure => throw failure

def ofFiles {α : Type} : Except FileFault α → Action α
  | .ok a => pure a
  | .error fault => throw (.file fault)

/-- Runs an action and gives its result, also when it is a failure. -/
def attempt {α : Type} (action : Action α) : Action (Except Failure α) :=
  tryCatch (Except.ok <$> action) fun failure => pure (.error failure)

/-- Runs an action and then another, whether the first fails or not; the result is that of the
first, unless the other fails. -/
def thenAlways {α : Type} (action : Action α) (last : Action Unit) : Action α := do
  let result ← attempt action
  last
  ofExcept result

/-- The next random octets. -/
def draw : Action (List UInt8) := do
  match (← get).randomness with
  | [] => throw .noRandomness
  | octets :: rest =>
    modify fun world => { world with randomness := rest }
    return octets

/-! ## Runs of composed actions -/

@[simp] theorem runOn_pure {α : Type} (a : α) (world : World) :
    (pure a : Action α).runOn world = (.ok a, world) := rfl

@[simp] theorem runOn_throw {α : Type} (failure : Failure) (world : World) :
    (throw failure : Action α).runOn world = (.error failure, world) := rfl

@[simp] theorem runOn_get (world : World) :
    (get : Action World).runOn world = (.ok world, world) := rfl

@[simp] theorem runOn_set (after world : World) :
    (set after : Action PUnit).runOn world = (.ok ⟨⟩, after) := rfl

@[simp] theorem runOn_modify (f : World → World) (world : World) :
    (modify f : Action PUnit).runOn world = (.ok ⟨⟩, f world) := rfl

/-- An action goes on with another from where it ends, unless it fails. -/
theorem runOn_bind {α β : Type} (action : Action α) (next : α → Action β) (world : World) :
    (action >>= next).runOn world =
      match action.runOn world with
      | (.ok a, after) => (next a).runOn after
      | (.error failure, after) => (.error failure, after) := by
  simp only [runOn, ExceptT.run_bind, StateT.run_bind]
  cases h : (ExceptT.run action).run world with
  | mk result after => cases result <;> rfl

theorem runOn_map {α β : Type} (f : α → β) (action : Action α) (world : World) :
    (f <$> action).runOn world =
      match action.runOn world with
      | (.ok a, after) => (.ok (f a), after)
      | (.error failure, after) => (.error failure, after) := by
  simp only [map_eq_pure_bind, runOn_bind, runOn_pure]

@[simp] theorem runOn_ofExcept {α : Type} (result : Except Failure α) (world : World) :
    (ofExcept result).runOn world = (result, world) := by
  cases result <;> rfl

theorem runOn_tryCatch {α : Type} (action : Action α) (handler : Failure → Action α) (world : World) :
    (tryCatch action handler).runOn world =
      match action.runOn world with
      | (.ok a, after) => (.ok a, after)
      | (.error failure, after) => (handler failure).runOn after := by
  simp only [runOn, tryCatch, tryCatchThe, MonadExceptOf.tryCatch, ExceptT.tryCatch, ExceptT.run,
    ExceptT.mk, StateT.run_bind]
  match StateT.run action world with
  | (.ok _, _) => rfl
  | (.error _, _) => rfl

/-- An attempt never fails, and changes what the action changes. -/
@[simp] theorem runOn_attempt {α : Type} (action : Action α) (world : World) :
    (attempt action).runOn world = (.ok (action.runOn world).1, (action.runOn world).2) := by
  simp only [attempt, runOn_tryCatch, map_eq_pure_bind, runOn_bind]
  match action.runOn world with
  | (.ok _, _) => rfl
  | (.error _, _) => rfl

/-- What is always done last is done from where the action ends. -/
theorem runOn_thenAlways {α : Type} (action : Action α) (last : Action Unit) (world : World) :
    (thenAlways action last).runOn world =
      match last.runOn (action.runOn world).2 with
      | (.ok _, after) => ((action.runOn world).1, after)
      | (.error failure, after) => (.error failure, after) := by
  simp only [thenAlways, runOn_bind, runOn_attempt, runOn_ofExcept]
  match last.runOn (action.runOn world).2 with
  | (.ok _, _) => rfl
  | (.error _, _) => rfl

end Action

def World.value? (world : World) (name : String) : Option String :=
  world.environment.lookup name

def World.nonemptyValue? (world : World) (name : String) : Option String :=
  (world.value? name).filter (· ≠ "")

end NamedKeys
