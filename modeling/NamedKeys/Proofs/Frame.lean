import NamedKeys.Derivation
import NamedKeys.Network
import NamedKeys.Proofs.Results
import NamedKeys.Store

/-!
# What actions leave as it is

An action keeps a relation if the world before it and the world after it are related, however it ends;
this composes (`Keeps.bind`), so that it is seen from the parts of an action.  Making a phrase and
deriving a key pair keep every relation that does not look at the log and the random octets; funding
an address keeps those that do not look at requests either, and writing and removing a file of a store
those that do not look at files; and reading an entry keeps those that allow to ask for it.
-/

namespace NamedKeys

/-- A world with no files, no entries of keychains and no random octets. -/
def World.bare : World :=
  ⟨.empty, [], [], "", "", [], ⟨[], none, none⟩, [], [], none, [], []⟩

/-- Two worlds with the same files and keychains, in which the file system refuses the same. -/
structure World.SameStores (world after : World) : Prop where
  files : after.files = world.files
  folder : after.folder = world.folder
  memory : after.memory = world.memory
  keyring : after.keyring = world.keyring
  replaceRefusal : after.replaceRefusal = world.replaceRefusal

/-- Two worlds with the same keychains and current folder, in which the file system refuses the
same. -/
structure World.SameKeychains (world after : World) : Prop where
  folder : after.folder = world.folder
  memory : after.memory = world.memory
  keyring : after.keyring = world.keyring
  replaceRefusal : after.replaceRefusal = world.replaceRefusal

/-- A relation that holds of a world and itself, and from step to step. -/
class World.IsFrame (R : World → World → Prop) : Prop where
  refl : ∀ world, R world world
  trans : ∀ {world middle after}, R world middle → R middle after → R world after

/-- A frame that does not look at the log and the random octets to come. -/
class World.IsQuietFrame (R : World → World → Prop) : Prop extends IsFrame R where
  quiet : ∀ world log randomness, R world { world with log, randomness }

/-- A quiet frame that does not look at requests. -/
class World.IsRequestFrame (R : World → World → Prop) : Prop extends IsQuietFrame R where
  requests : ∀ world log requests, R world { world with log, requests }

/-- A frame that does not look at files. -/
class World.IsTreeFrame (R : World → World → Prop) : Prop extends IsFrame R where
  files : ∀ world files, R world { world with files }

/-- A quiet frame that does not look at files. -/
class World.IsFileFrame (R : World → World → Prop) : Prop extends IsQuietFrame R where
  files : ∀ world files, R world { world with files }

instance {R : World → World → Prop} [World.IsFileFrame R] : World.IsTreeFrame R :=
  ⟨World.IsFileFrame.files⟩

/-- A relation allows keychains to be asked for an entry. -/
def World.AllowsAsking (R : World → World → Prop) (entry : String) : Prop :=
  ∀ world, R world { world with asked := world.asked ++ [entry] }

theorem World.SameStores.refl (world : World) : SameStores world world := ⟨rfl, rfl, rfl, rfl, rfl⟩

theorem World.SameStores.trans {world middle after : World} (h : SameStores world middle)
    (h' : SameStores middle after) : SameStores world after :=
  ⟨h'.files.trans h.files, h'.folder.trans h.folder, h'.memory.trans h.memory,
    h'.keyring.trans h.keyring, h'.replaceRefusal.trans h.replaceRefusal⟩

theorem World.SameStores.symm {world after : World} (h : SameStores world after) :
    SameStores after world :=
  ⟨h.files.symm, h.folder.symm, h.memory.symm, h.keyring.symm, h.replaceRefusal.symm⟩

theorem World.SameKeychains.trans {world middle after : World} (h : SameKeychains world middle)
    (h' : SameKeychains middle after) : SameKeychains world after :=
  ⟨h'.folder.trans h.folder, h'.memory.trans h.memory, h'.keyring.trans h.keyring,
    h'.replaceRefusal.trans h.replaceRefusal⟩

theorem World.SameKeychains.symm {world after : World} (h : SameKeychains world after) :
    SameKeychains after world :=
  ⟨h.folder.symm, h.memory.symm, h.keyring.symm, h.replaceRefusal.symm⟩

instance : World.IsRequestFrame World.SameStores where
  refl := World.SameStores.refl
  trans := World.SameStores.trans
  quiet _ _ _ := ⟨rfl, rfl, rfl, rfl, rfl⟩
  requests _ _ _ := ⟨rfl, rfl, rfl, rfl, rfl⟩

instance : World.IsFileFrame World.SameKeychains where
  refl _ := ⟨rfl, rfl, rfl, rfl⟩
  trans := World.SameKeychains.trans
  quiet _ _ _ := ⟨rfl, rfl, rfl, rfl⟩
  files _ _ := ⟨rfl, rfl, rfl, rfl⟩

theorem World.SameStores.allowsAsking (entry : String) : AllowsAsking SameStores entry :=
  fun _ => ⟨rfl, rfl, rfl, rfl, rfl⟩

theorem World.SameStores.sameKeychains {world after : World} (h : SameStores world after) :
    World.SameKeychains world after :=
  ⟨h.folder, h.memory, h.keyring, h.replaceRefusal⟩

namespace Action

/-- The results of two actions one after the other. -/
theorem runOn_bind_ok {α β : Type} {action : Action α} {next : α → Action β} {world after : World}
    {a : α} (h : action.runOn world = (.ok a, after)) :
    (action >>= next).runOn world = (next a).runOn after := by
  rw [runOn_bind, h]

theorem runOn_bind_error {α β : Type} {action : Action α} {next : α → Action β}
    {world after : World} {failure : Failure} (h : action.runOn world = (.error failure, after)) :
    (action >>= next).runOn world = (.error failure, after) := by
  rw [runOn_bind, h]

theorem exists_of_runOn_fst {α : Type} {action : Action α} {world : World}
    {result : Except Failure α} (h : (action.runOn world).1 = result) :
    ∃ after, action.runOn world = (result, after) :=
  ⟨_, Prod.ext h rfl⟩

@[simp] theorem runOn_map_fst {α β : Type} (f : α → β) (action : Action α) (world : World) :
    ((f <$> action).runOn world).1 = (action.runOn world).1.map f := by
  rw [runOn_map]
  match action.runOn world with
  | (.ok a, after) => rfl
  | (.error failure, after) => rfl

@[simp] theorem runOn_map_snd {α β : Type} (f : α → β) (action : Action α) (world : World) :
    ((f <$> action).runOn world).2 = (action.runOn world).2 := by
  rw [runOn_map]
  match action.runOn world with
  | (.ok a, after) => rfl
  | (.error failure, after) => rfl

/-- Of two actions that succeed together each one does. -/
theorem exists_of_runOn_bind {α β : Type} {action : Action α} {next : α → Action β}
    {world after : World} {b : β} (h : (action >>= next).runOn world = (.ok b, after)) :
    ∃ a middle, action.runOn world = (.ok a, middle) ∧ (next a).runOn middle = (.ok b, after) := by
  match hrun : action.runOn world with
  | (.ok a, middle) => exact ⟨a, middle, rfl, by rwa [runOn_bind_ok hrun] at h⟩
  | (.error failure, middle) =>
    rw [runOn_bind_error hrun] at h
    cases h

/-- After a record of the log the world is the same but for the log. -/
theorem runOn_log_bind {β : Type} (level : LogLevel) (message : String) (next : Unit → Action β)
    (world : World) :
    (log level message >>= next).runOn world = (next ()).runOn ((log level message).runOn world).2 :=
  runOn_bind_ok rfl

/-- The world after an action is related to the world before it. -/
def Keeps (R : World → World → Prop) {α : Type} (action : Action α) : Prop :=
  ∀ world, R world (action.runOn world).2

/-- What an action gives, if it does not fail, has a property. -/
def Returns {α : Type} (P : α → Prop) (action : Action α) : Prop :=
  ∀ {world after a}, action.runOn world = (.ok a, after) → P a

variable {α β : Type}

section Composed

variable {R : World → World → Prop} [World.IsFrame R]

theorem keeps_pure (a : α) : Keeps R (pure a : Action α) :=
  fun world => World.IsFrame.refl world

theorem keeps_throw (failure : Failure) : Keeps R (throw failure : Action α) :=
  fun world => World.IsFrame.refl world

theorem keeps_get : Keeps R (get : Action World) :=
  fun world => World.IsFrame.refl world

theorem keeps_ofExcept (result : Except Failure α) : Keeps R (ofExcept result) := by
  cases result with
  | ok a => exact keeps_pure a
  | error failure => exact keeps_throw failure

theorem keeps_ofFiles (result : Except FileFault α) : Keeps R (ofFiles result) := by
  cases result with
  | ok a => exact keeps_pure a
  | error fault => exact keeps_throw _

/-- Of the action that follows only what it does with what the first can give counts. -/
theorem Keeps.bind_returns {P : α → Prop} {action : Action α} {next : α → Action β}
    (h : Keeps R action) (hreturns : Returns P action) (hnext : ∀ a, P a → Keeps R (next a)) :
    Keeps R (action >>= next) := by
  intro world
  have hfirst := h world
  rw [runOn_bind]
  match hrun : action.runOn world with
  | (.ok a, after) =>
    rw [hrun] at hfirst
    exact World.IsFrame.trans hfirst (hnext a (hreturns hrun) after)
  | (.error failure, after) =>
    rw [hrun] at hfirst
    exact hfirst

theorem Keeps.bind {action : Action α} {next : α → Action β} (h : Keeps R action)
    (hnext : ∀ a, Keeps R (next a)) : Keeps R (action >>= next) :=
  h.bind_returns (fun _ => trivial) fun a _ => hnext a

omit [World.IsFrame R] in
theorem Keeps.attempt {action : Action α} (h : Keeps R action) : Keeps R (attempt action) := by
  intro world
  rw [runOn_attempt]
  exact h world

theorem Keeps.thenAlways {action : Action α} {last : Action Unit} (h : Keeps R action)
    (hlast : Keeps R last) : Keeps R (thenAlways action last) :=
  h.attempt.bind fun _ => hlast.bind fun _ => keeps_ofExcept _

theorem keeps_files : Keeps R files :=
  keeps_get.bind fun _ => keeps_pure _

theorem keeps_readFile? (path : Path) : Keeps R (readFile? path) := by
  refine keeps_get.bind fun world => (keeps_ofFiles _).bind fun entry => ?_
  split <;> exact keeps_pure _

end Composed

/-! ## Actions that leave files and keychains as they are -/

section Quiet

variable {R : World → World → Prop} [World.IsQuietFrame R]

theorem keeps_log (level : LogLevel) (message : String) : Keeps R (log level message) :=
  fun world => World.IsQuietFrame.quiet world _ world.randomness

theorem keeps_draw : Keeps R draw := by
  refine keeps_get.bind fun world => ?_
  match world.randomness with
  | [] => exact keeps_throw _
  | octets :: rest =>
    refine Keeps.bind ?_ fun _ => keeps_pure _
    exact fun world => World.IsQuietFrame.quiet world world.log _

theorem keeps_fund {R : World → World → Prop} [World.IsRequestFrame R] (funder : Funder)
    (address : String) : Keeps R (fund funder address) := by
  refine Keeps.bind ?_ fun _ => keeps_ofExcept _
  exact fun world => World.IsRequestFrame.requests world _ _

end Quiet

/-! ## Actions that change files only -/

section Files

variable {R : World → World → Prop} [World.IsTreeFrame R]

theorem keeps_setFiles (files : FileTree) : Keeps R (setFiles files) :=
  fun world => World.IsTreeFrame.files world files

theorem keeps_ensureFolders (path : Path) : Keeps R (ensureFolders path) :=
  keeps_get.bind fun _ => (keeps_setFiles _).bind fun _ => keeps_ofFiles _

theorem keeps_discard (place : Place) : Keeps R (discard place) := by
  refine keeps_files.bind fun files => ?_
  split
  · exact keeps_setFiles _
  · exact keeps_pure _
  · exact keeps_throw _

theorem keeps_withTempFile {folder : Place} {content : TempContent} {body : Place → Action α}
    (h : ∀ place, Keeps R (body place)) : Keeps R (withTempFile folder content body) :=
  Keeps.bind (keeps_files.bind fun _ => (keeps_setFiles _).bind fun _ => keeps_pure _)
    fun place => (h place).thenAlways (keeps_discard place)

theorem keeps_replace (source : Place) (path : Path) : Keeps R (replace source path) := by
  refine keeps_get.bind fun world => ?_
  split
  · exact keeps_throw _
  · exact (keeps_ofFiles _).bind fun _ => keeps_setFiles _

theorem keeps_writeAtOnce (path : Path) (text : List Char) : Keeps R (writeAtOnce path text) :=
  (keeps_ensureFolders _).bind fun _ => keeps_get.bind fun _ => (keeps_ofFiles _).bind fun _ =>
    keeps_withTempFile fun place => keeps_replace place path

end Files

end Action

open NamedKeys.Action

theorem Store.keeps_write {R : World → World → Prop} [World.IsFileFrame R] (store : Store)
    (name : IdentityName) (secret : Secret) : Keeps R (store.write name secret) :=
  (keeps_writeAtOnce _ _).bind fun _ => keeps_log _ _

theorem Store.keeps_remove {R : World → World → Prop} [World.IsFileFrame R] (store : Store)
    (name : IdentityName) : Keeps R (store.remove name) := by
  refine (keeps_readFile? _).bind fun octets => ?_
  cases octets with
  | none => exact keeps_throw _
  | some octets =>
    exact keeps_get.bind fun world => (keeps_ofFiles _).bind fun _ => (keeps_ofFiles _).bind fun _ =>
      (keeps_setFiles _).bind fun _ => keeps_log _ _

/-- A quiet frame that holds of what stores write and remove. -/
class World.IsStoreFrame (R : World → World → Prop) : Prop extends IsQuietFrame R where
  write : ∀ (store : Store) (name : IdentityName) (secret : Secret), Keeps R (store.write name secret)
  remove : ∀ (store : Store) (name : IdentityName), Keeps R (store.remove name)

instance {R : World → World → Prop} [World.IsFileFrame R] : World.IsStoreFrame R :=
  ⟨Store.keeps_write, Store.keeps_remove⟩

/-! ## Keychains and derivation -/

variable {R : World → World → Prop} [World.IsQuietFrame R]

theorem Keychain.keeps_readSystem (user entry : String) : Keeps R (readSystem user entry) := by
  refine (keeps_log _ _).bind fun _ => keeps_get.bind fun world => ?_
  dsimp only
  split
  · exact keeps_throw _
  · split
    · exact keeps_pure _
    · split
      · exact keeps_pure _
      · exact keeps_throw _

theorem Keychain.keeps_read (keychain : Keychain) {entry : String}
    (hask : World.AllowsAsking R entry) : Keeps R (keychain.read entry) := by
  refine Keeps.bind hask fun _ => ?_
  cases keychain with
  | memory => exact keeps_get.bind fun world => keeps_pure _
  | refusing cause => exact keeps_get.bind fun world => keeps_pure _
  | system user => exact keeps_readSystem user entry

theorem Keychain.keeps_keyPair (keychain : Keychain) {entry : String}
    (hask : World.AllowsAsking R entry) : Keeps R (keychain.keyPair entry) := by
  refine (keeps_read keychain hask).bind fun held => ?_
  cases held with
  | none => exact keeps_throw _
  | some octets => exact keeps_ofExcept _

theorem keeps_makePhrase (seed : Option String) : Keeps R (makePhrase seed) := by
  cases seed with
  | none => exact (keeps_log _ _).bind fun _ => keeps_draw.bind fun _ => keeps_ofExcept _
  | some seed => exact (keeps_log _ _).bind fun _ => keeps_ofExcept _

theorem keeps_keyPairOfPhrase (phrase : String) (path : Option Int) :
    Keeps R (keyPairOfPhrase phrase path) := by
  refine (keeps_ofExcept _).bind fun index => ?_
  dsimp only
  split
  · exact (keeps_throw _).bind fun _ => (keeps_log _ _).bind fun _ => keeps_pure _
  · exact (keeps_log _ _).bind fun _ => keeps_pure _

theorem keeps_ignorePath (path : Option Int) (secret : String) : Keeps R (ignorePath path secret) := by
  cases path with
  | none => exact keeps_pure _
  | some path => exact keeps_log _ _

theorem keeps_keyPairOfSecret (secret : Secret) (path : Option Int) (keychain : Option Keychain)
    (hask : ∀ entry, secret = .keychain entry → World.AllowsAsking R entry) :
    Keeps R (keyPairOfSecret secret path keychain) := by
  cases secret with
  | seedPhrase phrase => exact keeps_keyPairOfPhrase _ _
  | secretKey text => exact (keeps_ignorePath _ _).bind fun _ => keeps_ofExcept _
  | keychain entry =>
    cases keychain with
    | none => exact keeps_throw _
    | some keychain => exact (keeps_ignorePath _ _).bind fun _ => keychain.keeps_keyPair (hask entry rfl)

end NamedKeys
