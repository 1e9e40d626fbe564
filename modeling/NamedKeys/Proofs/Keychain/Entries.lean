import NamedKeys.Proofs.Code.Base64
import NamedKeys.Proofs.Frame
import NamedKeys.Proofs.KeyPair

/-!
# Entries of keychains

What a keychain finds under the name of an entry (`find`), and what storing a key pair there does: it
puts the octets of the pair into an entry that was not there, or gives the address of the pair that
was there, or fails and changes nothing (`store_cases`).  No entry that is there is ever changed, in
whatever keychain and whatever it holds (`keepsEntries_store`).
-/

namespace NamedKeys

/-- Every entry of every keychain is still there, with what it held. -/
structure World.KeepsEntries (world after : World) : Prop where
  memory : ∀ entry octets, world.memory.lookup entry = some octets →
    after.memory.lookup entry = some octets
  passwords : ∀ entry text, world.keyring.passwords.lookup entry = some text →
    after.keyring.passwords.lookup entry = some text

theorem World.KeepsEntries.refl (world : World) : KeepsEntries world world :=
  ⟨fun _ _ h => h, fun _ _ h => h⟩

theorem World.KeepsEntries.trans {world middle after : World} (h : KeepsEntries world middle)
    (h' : KeepsEntries middle after) : KeepsEntries world after :=
  ⟨fun entry octets hentry => h'.memory entry octets (h.memory entry octets hentry),
    fun entry text hentry => h'.passwords entry text (h.passwords entry text hentry)⟩

theorem World.SameKeychains.keepsEntries {world after : World} (h : SameKeychains world after) :
    World.KeepsEntries world after := by
  refine ⟨fun entry octets hentry => ?_, fun entry text hentry => ?_⟩
  · rwa [h.memory]
  · rwa [h.keyring]

theorem World.SameStores.keepsEntries {world after : World} (h : SameStores world after) :
    World.KeepsEntries world after :=
  h.sameKeychains.keepsEntries

/-- Two worlds with the same files, in which files are refused in the same way. -/
structure World.SameTree (world after : World) : Prop where
  files : after.files = world.files
  folder : after.folder = world.folder
  replaceRefusal : after.replaceRefusal = world.replaceRefusal

theorem World.SameTree.trans {world middle after : World} (h : SameTree world middle)
    (h' : SameTree middle after) : SameTree world after :=
  ⟨h'.files.trans h.files, h'.folder.trans h.folder, h'.replaceRefusal.trans h.replaceRefusal⟩

theorem World.SameTree.symm {world after : World} (h : SameTree world after) : SameTree after world :=
  ⟨h.files.symm, h.folder.symm, h.replaceRefusal.symm⟩

theorem World.SameStores.sameTree {world after : World} (h : SameStores world after) :
    World.SameTree world after :=
  ⟨h.files, h.folder, h.replaceRefusal⟩

/-- Two worlds with the same files, in which files and entries are refused in the same way. -/
structure World.SameFiles (world after : World) : Prop where
  files : after.files = world.files
  folder : after.folder = world.folder
  replaceRefusal : after.replaceRefusal = world.replaceRefusal
  readRefusal : after.keyring.readRefusal = world.keyring.readRefusal

theorem World.SameStores.sameFiles {world after : World} (h : SameStores world after) :
    World.SameFiles world after :=
  ⟨h.files, h.folder, h.replaceRefusal, by rw [h.keyring]⟩

theorem World.SameFiles.sameTree {world after : World} (h : SameFiles world after) :
    World.SameTree world after :=
  ⟨h.files, h.folder, h.replaceRefusal⟩

theorem World.SameFiles.trans {world middle after : World} (h : SameFiles world middle)
    (h' : SameFiles middle after) : SameFiles world after :=
  ⟨h'.files.trans h.files, h'.folder.trans h.folder, h'.replaceRefusal.trans h.replaceRefusal,
    h'.readRefusal.trans h.readRefusal⟩

namespace Keychain

/-! ## What is found -/

/-- The user whose entries of the platform's keychain a keychain uses; the others are in memory. -/
def user? : Keychain → Option String
  | memory | refusing _ => none
  | system user => some user

/-- What an entry of a keychain is read as: nothing, some octets, or a failure when the keychain
refuses to be read or holds a text that stands for no octets. -/
def reading (keychain : Keychain) (world : World) (entry : String) :
    Except Failure (Option (List UInt8)) :=
  match keychain.user? with
  | none => .ok (world.memory.lookup entry)
  | some user =>
    match world.keyring.readRefusal with
    | some cause => .error (.keychainRead entry cause)
    | none =>
      match world.keyring.passwords.lookup (entry, user) with
      | none => .ok none
      | some text =>
        match Code.Base64.decode? .strict text.toList with
        | some octets => .ok (some octets)
        | none => .error (.notBase64 entry)

theorem reading_congr {world after : World} (h : World.SameKeychains world after)
    (keychain : Keychain) (entry : String) :
    keychain.reading after entry = keychain.reading world entry := by
  rw [reading, reading, h.memory, h.keyring]

/-- Keychains with one user read the same. -/
theorem reading_of_user {keychain other : Keychain} (h : keychain.user? = other.user?) (world : World)
    (entry : String) : keychain.reading world entry = other.reading world entry := by
  rw [reading, reading, h]

/-- Octets that are read are still read when entries have come, unless reading is refused. -/
theorem reading_of_keepsEntries {keychain : Keychain} {world after : World}
    (h : World.KeepsEntries world after) (hread : after.keyring.readRefusal = none) {entry : String}
    {octets : List UInt8} (hreading : keychain.reading world entry = .ok (some octets)) :
    keychain.reading after entry = .ok (some octets) := by
  unfold reading at hreading ⊢
  generalize keychain.user? = owner at hreading ⊢
  cases owner with
  | none =>
    dsimp only at hreading ⊢
    rw [h.memory entry octets (Except.ok.inj hreading)]
  | some user =>
    dsimp only at hreading ⊢
    split at hreading
    · cases hreading
    · split at hreading
      · cases hreading
      · next _ text htext =>
        rw [hread, h.passwords (entry, user) text htext]
        exact hreading

theorem runOn_readSystem (user entry : String) (world : World) :
    ((readSystem user entry).runOn world).1 = (system user).reading world entry := by
  unfold readSystem reading
  simp only [Action.runOn_bind, Action.log, Action.runOn_modify, Action.runOn_get, user?]
  cases world.keyring.readRefusal with
  | some cause => rfl
  | none =>
    dsimp only
    cases world.keyring.passwords.lookup (entry, user) with
    | none => rfl
    | some text =>
      dsimp only
      cases Code.Base64.decode? .strict text.toList <;> rfl

/-- Reading an entry gives what it is read as, and changes no entry. -/
theorem runOn_read (keychain : Keychain) (entry : String) (world : World) :
    ∃ after, (keychain.read entry).runOn world = (keychain.reading world entry, after) ∧
      World.SameStores world after := by
  refine ⟨_, Prod.ext ?_ rfl, keychain.keeps_read (World.SameStores.allowsAsking entry) world⟩
  cases keychain with
  | memory => rfl
  | refusing cause => rfl
  | system user =>
    have hasked := World.SameStores.allowsAsking entry world
    have hrun : ((system user).read entry).runOn world =
        (readSystem user entry).runOn ((ask entry).runOn world).2 := rfl
    rw [← reading_congr hasked.sameKeychains]
    exact hrun ▸ runOn_readSystem user entry _

/-! ## Writing -/

def putEntry (keychain : Keychain) (world : World) (entry : String) (octets : List UInt8) : World :=
  match keychain.user? with
  | none => { world with memory := world.memory.put entry octets }
  | some user =>
    let text := String.ofList (Code.Base64.encode octets)
    { world with keyring := { world.keyring with
        passwords := world.keyring.passwords.put (entry, user) text } }

theorem reading_putEntry (keychain : Keychain) {world : World} (entry : String)
    (octets : List UInt8) (hread : keychain.reading world entry = .ok none) :
    keychain.reading (keychain.putEntry world entry octets) entry = .ok (some octets) := by
  unfold reading at hread ⊢
  unfold putEntry
  generalize keychain.user? = owner at hread ⊢
  cases owner with
  | none => simp
  | some user =>
    dsimp only at hread ⊢
    split at hread
    · cases hread
    · simp only [Table.lookup_put, beq_self_eq_true, if_true, String.toList_ofList,
        Code.Base64.decode?_encode]

/-- A new entry changes no other. -/
theorem keepsEntries_putEntry (keychain : Keychain) {world : World} {entry : String}
    (octets : List UInt8) (hread : keychain.reading world entry = .ok none) :
    World.KeepsEntries world (keychain.putEntry world entry octets) := by
  unfold reading at hread
  unfold putEntry
  generalize keychain.user? = owner at hread ⊢
  cases owner with
  | none =>
    dsimp only at hread ⊢
    refine ⟨fun other held hheld => ?_, fun _ _ h => h⟩
    rw [Table.lookup_put, if_neg, hheld]
    rw [beq_iff_eq]
    rintro rfl
    rw [Except.ok.inj hread] at hheld
    cases hheld
  | some user =>
    dsimp only at hread ⊢
    refine ⟨fun _ _ h => h, fun other held hheld => ?_⟩
    split at hread
    · cases hread
    · split at hread
      · next hnone =>
        rw [Table.lookup_put, if_neg, hheld]
        rw [beq_iff_eq]
        rintro rfl
        rw [hnone] at hheld
        cases hheld
      · split at hread <;> cases hread

theorem sameFiles_putEntry (keychain : Keychain) (world : World) (entry : String)
    (octets : List UInt8) : World.SameFiles world (keychain.putEntry world entry octets) := by
  unfold putEntry
  split <;> exact ⟨rfl, rfl, rfl, rfl⟩

theorem sameKeychains_putEntry (keychain : Keychain) {world after : World}
    (h : World.SameKeychains world after) (entry : String) (octets : List UInt8) :
    World.SameKeychains (keychain.putEntry world entry octets)
      (keychain.putEntry after entry octets) := by
  unfold putEntry
  split
  · exact ⟨h.folder, by rw [h.memory], h.keyring, h.replaceRefusal⟩
  · exact ⟨h.folder, h.memory, by rw [h.keyring], h.replaceRefusal⟩

/-- A relation allows keychains to fill an entry. -/
def AllowsFilling (R : World → World → Prop) (entry : String) : Prop :=
  ∀ (keychain : Keychain) (world : World) (octets : List UInt8),
    R world (keychain.putEntry world entry octets)

section Keeps

variable {R : World → World → Prop} [World.IsQuietFrame R] {entry : String}

theorem keeps_writeSystem (hfill : AllowsFilling R entry) (user : String) (octets : List UInt8) :
    Action.Keeps R (writeSystem user entry octets) := by
  refine (Action.keeps_log _ _).bind fun _ world => ?_
  rw [Action.runOn_bind, Action.runOn_get]
  dsimp only
  split
  · exact World.IsFrame.refl world
  · exact hfill (system user) world octets

theorem keeps_write (hask : World.AllowsAsking R entry) (hfill : AllowsFilling R entry)
    (keychain : Keychain) (octets : List UInt8) :
    Action.Keeps R (keychain.write entry octets) := by
  refine Action.Keeps.bind hask fun _ => ?_
  cases keychain with
  | memory => exact fun world => hfill memory world octets
  | refusing cause => exact Action.keeps_throw _
  | system user => exact keeps_writeSystem hfill user octets

theorem keeps_store (hask : World.AllowsAsking R entry) (hfill : AllowsFilling R entry)
    (keychain : Keychain) (pair : KeyPair) : Action.Keeps R (keychain.store entry pair) := by
  refine (keychain.keeps_read hask).bind fun held => ?_
  cases held with
  | none =>
    exact (Action.keeps_log _ _).bind fun _ => (keeps_write hask hfill keychain _).bind fun _ =>
      Action.keeps_pure _
  | some octets =>
    exact (Action.keeps_ofExcept _).bind fun _ => (Action.keeps_log _ _).bind fun _ =>
      Action.keeps_pure _

end Keeps

/-- A keychain accepts new entries. -/
def AcceptsWrites (keychain : Keychain) (world : World) : Prop :=
  match keychain with
  | memory => True
  | system _ => world.keyring.writeRefusal = none
  | refusing _ => False

theorem AcceptsWrites.congr {keychain : Keychain} {world after : World}
    (h : keychain.AcceptsWrites world) (hsame : World.SameKeychains world after) :
    keychain.AcceptsWrites after := by
  cases keychain with
  | memory => trivial
  | system user =>
    rw [AcceptsWrites, hsame.keyring]
    exact h
  | refusing cause => exact h.elim

def askedToWrite (world : World) (entry : String) : World :=
  { world with
    asked := world.asked ++ [entry]
    log := world.log ++
      [⟨.debug, "Writing " ++ Text.quoted entry ++ " to the system keychain... "⟩] }

theorem runOn_write_system (user entry : String) (octets : List UInt8) (world : World) :
    ((system user).write entry octets).runOn world =
      match world.keyring.writeRefusal with
      | some cause => (.error (.keychainWrite entry cause), askedToWrite world entry)
      | none => (.ok (), (system user).putEntry (askedToWrite world entry) entry octets) := by
  have hwrite : ((system user).write entry octets).runOn world =
      (match world.keyring.writeRefusal with
        | some cause => throw (.keychainWrite entry cause)
        | none => set ((system user).putEntry (askedToWrite world entry) entry octets) :
          Action Unit).runOn (askedToWrite world entry) := rfl
  rw [hwrite]
  cases world.keyring.writeRefusal <;> rfl

/-- Writing puts the octets into the entry, or fails and changes no entry. -/
theorem write_cases (keychain : Keychain) (entry : String) (octets : List UInt8) (world : World) :
    ∃ after, World.SameStores world after ∧
      ((keychain.write entry octets).runOn world = (.ok (), keychain.putEntry after entry octets) ∨
        ¬ keychain.AcceptsWrites world ∧
          ∃ failure, (keychain.write entry octets).runOn world = (.error failure, after)) := by
  cases keychain with
  | memory => exact ⟨_, World.SameStores.allowsAsking entry world, .inl rfl⟩
  | refusing cause => exact ⟨_, World.SameStores.allowsAsking entry world, .inr ⟨id, _, rfl⟩⟩
  | system user =>
    refine ⟨askedToWrite world entry, ⟨rfl, rfl, rfl, rfl, rfl⟩, ?_⟩
    rw [runOn_write_system, AcceptsWrites]
    cases world.keyring.writeRefusal with
    | none => exact .inl rfl
    | some cause => exact .inr ⟨by simp, _, rfl⟩

/-! ## Storing -/

/-- An entry holds a pair: it is read as the octets of a consistent one. -/
def HoldsPair (keychain : Keychain) (world : World) (entry : String) (pair : KeyPair) : Prop :=
  ∃ octets, keychain.reading world entry = .ok (some octets) ∧ KeyPair.ofOctets octets = .ok pair

theorem HoldsPair.unique {keychain : Keychain} {world : World} {entry : String} {pair other : KeyPair}
    (h : keychain.HoldsPair world entry pair) (h' : keychain.HoldsPair world entry other) :
    pair = other := by
  obtain ⟨octets, hread, hpair⟩ := h
  obtain ⟨octets', hread', hother⟩ := h'
  rw [hread] at hread'
  rw [Option.some.inj (Except.ok.inj hread'), hother] at hpair
  exact (Except.ok.inj hpair).symm

theorem HoldsPair.of_keepsEntries {keychain : Keychain} {world after : World} {entry : String}
    {pair : KeyPair} (h : keychain.HoldsPair world entry pair) (hkeeps : World.KeepsEntries world after)
    (hread : after.keyring.readRefusal = none) : keychain.HoldsPair after entry pair := by
  obtain ⟨octets, hreading, hpair⟩ := h
  exact ⟨octets, reading_of_keepsEntries hkeeps hread hreading, hpair⟩

theorem HoldsPair.congr {keychain : Keychain} {world after : World} {entry : String}
    {pair : KeyPair} (h : keychain.HoldsPair world entry pair)
    (hsame : World.SameKeychains world after) : keychain.HoldsPair after entry pair := by
  obtain ⟨octets, hreading, hpair⟩ := h
  exact ⟨octets, by rw [reading_congr hsame, hreading], hpair⟩

theorem HoldsPair.of_user {keychain other : Keychain} {world : World} {entry : String}
    {pair : KeyPair} (h : keychain.HoldsPair world entry pair) (huser : keychain.user? = other.user?) :
    other.HoldsPair world entry pair := by
  obtain ⟨octets, hreading, hpair⟩ := h
  exact ⟨octets, by rw [← reading_of_user huser, hreading], hpair⟩

/-- An entry that is filled with a pair holds it. -/
theorem holdsPair_putEntry {keychain : Keychain} {world : World} {entry : String} {key : List UInt8}
    (hkey : key.length = 32) (hread : keychain.reading world entry = .ok none) :
    keychain.HoldsPair (keychain.putEntry world entry (KeyPair.ofSecretKey key).octets) entry
      (.ofSecretKey key) :=
  ⟨_, reading_putEntry keychain entry _ hread, KeyPair.ofOctets_octets hkey⟩

/-- What storing a pair in an entry comes to. -/
inductive Stored (keychain : Keychain) (entry : String) (pair : KeyPair) (world : World) :
    Except Failure (Option String) → World → Prop
  /-- There was no entry, and now it holds the pair. -/
  | created {middle : World} (habsent : keychain.reading world entry = .ok none)
      (hsame : World.SameStores world middle) :
    Stored keychain entry pair world (.ok none) (keychain.putEntry middle entry pair.octets)
  /-- The entry was there with a pair, whose address is given. -/
  | present {other : KeyPair} {address : String} {after : World}
      (hother : keychain.HoldsPair world entry other) (haddress : other.address = address)
      (hsame : World.SameStores world after) :
    Stored keychain entry pair world (.ok (some address)) after
  /-- There was no entry and it could not be written. -/
  | refused {failure : Failure} {after : World} (habsent : keychain.reading world entry = .ok none)
      (hsame : World.SameStores world after) :
    Stored keychain entry pair world (.error failure) after
  /-- The entry could not be read, or holds no consistent pair. -/
  | corrupt {failure : Failure} {after : World} (hthere : keychain.reading world entry ≠ .ok none)
      (hnone : ∀ other, ¬ keychain.HoldsPair world entry other)
      (hsame : World.SameStores world after) :
    Stored keychain entry pair world (.error failure) after

theorem stored (keychain : Keychain) (entry : String) (pair : KeyPair) (world : World) :
    Stored keychain entry pair world ((keychain.store entry pair).runOn world).1
      ((keychain.store entry pair).runOn world).2 := by
  obtain ⟨middle, hrun, hsame⟩ := runOn_read keychain entry world
  match hread : keychain.reading world entry with
  | .error failure =>
    rw [hread] at hrun
    rw [store, Action.runOn_bind_error hrun]
    refine .corrupt (by simp [hread]) ?_ hsame
    rintro other ⟨octets, hoctets, -⟩
    rw [hread] at hoctets
    cases hoctets
  | .ok none =>
    rw [hread] at hrun
    rw [store, Action.runOn_bind_ok hrun]
    dsimp only
    rw [Action.runOn_log_bind]
    obtain ⟨after, hafter, hwrite | ⟨-, failure, hwrite⟩⟩ := write_cases keychain entry pair.octets
      ((Action.log .info ("Saving a new key to the keychain: " ++ entry)).runOn middle).2
    · rw [Action.runOn_bind_ok hwrite]
      exact .created hread (hsame.trans (World.SameStores.trans (Action.keeps_log _ _ middle) hafter))
    · rw [Action.runOn_bind_error hwrite]
      exact .refused hread (hsame.trans (World.SameStores.trans (Action.keeps_log _ _ middle) hafter))
  | .ok (some octets) =>
    rw [hread] at hrun
    rw [store, Action.runOn_bind_ok hrun]
    dsimp only
    cases hpair : KeyPair.ofOctets octets with
    | error failure =>
      refine .corrupt (by simp [hread]) ?_ hsame
      rintro other ⟨octets', hoctets, hother⟩
      rw [hread] at hoctets
      rw [← Option.some.inj (Except.ok.inj hoctets), hpair] at hother
      cases hother
    | ok other =>
      exact .present ⟨octets, hread, hpair⟩ rfl (hsame.trans (Action.keeps_log _ _ middle))

/-- A pair is stored in an entry that is not there, if the keychain accepts new entries. -/
theorem store_created {keychain : Keychain} {entry : String} {world : World}
    (habsent : keychain.reading world entry = .ok none) (haccepts : keychain.AcceptsWrites world)
    (pair : KeyPair) : ((keychain.store entry pair).runOn world).1 = .ok none := by
  obtain ⟨middle, hrun, hsame⟩ := runOn_read keychain entry world
  rw [habsent] at hrun
  rw [store, Action.runOn_bind_ok hrun]
  dsimp only
  rw [Action.runOn_log_bind]
  have hlog : World.SameStores middle _ :=
    Action.keeps_log .info ("Saving a new key to the keychain: " ++ entry) middle
  obtain ⟨after, -, hwrite | ⟨hrefuses, -⟩⟩ := write_cases keychain entry pair.octets
    ((Action.log .info ("Saving a new key to the keychain: " ++ entry)).runOn middle).2
  · rw [Action.runOn_bind_ok hwrite]
    rfl
  · exact absurd (haccepts.congr (hsame.trans hlog).sameKeychains) hrefuses

theorem Stored.keepsEntries {keychain : Keychain} {entry : String} {pair : KeyPair}
    {world after : World} {result : Except Failure (Option String)}
    (h : Stored keychain entry pair world result after) : World.KeepsEntries world after := by
  cases h with
  | created habsent hsame =>
    refine hsame.keepsEntries.trans (keepsEntries_putEntry keychain pair.octets ?_)
    rw [reading_congr hsame.sameKeychains, habsent]
  | present hother haddress hsame => exact hsame.keepsEntries
  | refused habsent hsame => exact hsame.keepsEntries
  | corrupt hthere hnone hsame => exact hsame.keepsEntries

theorem Stored.sameFiles {keychain : Keychain} {entry : String} {pair : KeyPair}
    {world after : World} {result : Except Failure (Option String)}
    (h : Stored keychain entry pair world result after) : World.SameFiles world after := by
  cases h with
  | created habsent hsame => exact hsame.sameFiles.trans (sameFiles_putEntry _ _ _ _)
  | present hother haddress hsame => exact hsame.sameFiles
  | refused habsent hsame => exact hsame.sameFiles
  | corrupt hthere hnone hsame => exact hsame.sameFiles

/-- After a pair has been stored without failure, the entry holds a pair: the one that was to be
stored if the entry is new, and else one with the address that is given. -/
theorem Stored.holdsPair {keychain : Keychain} {entry : String} {key : List UInt8}
    (hkey : key.length = 32) {world after : World} {existing : Option String}
    (h : Stored keychain entry (.ofSecretKey key) world (.ok existing) after) :
    ∃ pair, keychain.HoldsPair after entry pair ∧
      pair.address = existing.getD (KeyPair.ofSecretKey key).address := by
  cases h with
  | created habsent hsame =>
    refine ⟨.ofSecretKey key, holdsPair_putEntry hkey ?_, rfl⟩
    rw [reading_congr hsame.sameKeychains, habsent]
  | present hother haddress hsame =>
    exact ⟨_, hother.congr hsame.sameKeychains, haddress⟩

/-- Storing where a pair is held gives its address and changes nothing. -/
theorem Stored.of_holdsPair {keychain : Keychain} {entry : String} {pair other : KeyPair}
    {world after : World} {result : Except Failure (Option String)}
    (h : Stored keychain entry pair world result after)
    (hholds : keychain.HoldsPair world entry other) :
    result = .ok (some other.address) ∧ World.SameStores world after := by
  have hthere : keychain.reading world entry ≠ .ok none := by
    obtain ⟨octets, hread, -⟩ := hholds
    simp [hread]
  cases h with
  | created habsent hsame => exact absurd habsent hthere
  | present hother haddress hsame => exact ⟨by rw [← haddress, hother.unique hholds], hsame⟩
  | refused habsent hsame => exact absurd habsent hthere
  | corrupt _ hnone hsame => exact absurd hholds (hnone other)

end Keychain

end NamedKeys
