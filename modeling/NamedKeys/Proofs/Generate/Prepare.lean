import NamedKeys.Generate
import NamedKeys.Proofs.Keychain.Entries
import NamedKeys.Proofs.Secret

/-!
# What a generation stores

A generation makes a phrase, brings it into the form that is asked for, where it may fill an entry of a
keychain, and then writes the file: `storeNew` is `prepare` and a write (`storeNew_eq`).  What is
prepared depends on the options, the next random octets and the entry alone (`prepared`), and its
secret is read again from its text (`Prepared.readable`).
-/

namespace NamedKeys

open NamedKeys.Action

/-! ## Phrases and pairs -/

theorem phraseOfEntropy_eq_ok_iff {entropy : List UInt8} {phrase : String} :
    phraseOfEntropy entropy = .ok phrase ↔
      Mnemonic.entropyLengths.contains entropy.length = true ∧
        phrase = Mnemonic.phraseOfEntropy entropy := by
  unfold phraseOfEntropy
  constructor
  · intro h
    split at h
    · next hlength => exact ⟨hlength, (Except.ok.inj h).symm⟩
    · cases h
  · rintro ⟨hlength, rfl⟩
    exact if_pos hlength

theorem phraseOfEntropy_eq_error_iff {entropy : List UInt8} {failure : Failure} :
    phraseOfEntropy entropy = .error failure ↔
      ¬ Mnemonic.entropyLengths.contains entropy.length = true ∧
        failure = .seedLength entropy.length := by
  unfold phraseOfEntropy
  constructor
  · intro h
    split at h
    · cases h
    · next hlength => exact ⟨hlength, (Except.error.inj h).symm⟩
  · rintro ⟨hlength, rfl⟩
    exact if_neg hlength

/-- The phrase of a seed or of the next random octets. -/
def newPhrase (seed : Option String) (world : World) : Except Failure String :=
  match seed, world.randomness with
  | some seed, _ => phraseOfEntropy (Text.Utf8.encode seed.toList)
  | none, octets :: _ => phraseOfEntropy octets
  | none, [] => .error .noRandomness

theorem runOn_makePhrase (seed : Option String) (world : World) :
    ((makePhrase seed).runOn world).1 = newPhrase seed world := by
  unfold makePhrase newPhrase
  cases seed with
  | some seed =>
    dsimp only
    rw [runOn_log_bind, runOn_ofExcept]
  | none =>
    dsimp only
    rw [runOn_log_bind, runOn_bind, draw, runOn_bind, runOn_get]
    have hrandomness : ((log .debug "Generating seed phrase from random entropy... ").runOn
        world).2.randomness = world.randomness := rfl
    dsimp only
    rw [hrandomness]
    cases world.randomness with
    | nil => rfl
    | cons octets rest =>
      dsimp only
      rw [runOn_bind_ok (runOn_modify _ _), runOn_pure]
      dsimp only
      rw [runOn_ofExcept]

/-- A new phrase is the phrase of entropy of a suitable length. -/
theorem newPhrase_ok {seed : Option String} {world : World} {phrase : String}
    (h : newPhrase seed world = .ok phrase) :
    ∃ entropy, Mnemonic.entropyLengths.contains entropy.length = true ∧
      phrase = Mnemonic.phraseOfEntropy entropy := by
  unfold newPhrase at h
  split at h
  · exact ⟨_, phraseOfEntropy_eq_ok_iff.1 h⟩
  · exact ⟨_, phraseOfEntropy_eq_ok_iff.1 h⟩
  · cases h

theorem le_greatestIndex_iff {index : Int} : index ≤ (greatestIndex : Nat) ↔ index < 2 ^ 31 := by
  have : (greatestIndex : Int) = 2 ^ 31 - 1 := by decide
  omega

theorem checkIndex_eq_ok_iff {path : Option Int} {index : Nat} :
    checkIndex path = .ok index ↔
      (∀ given ∈ path, 0 ≤ given ∧ given < 2 ^ 31) ∧ index = (path.getD 0).toNat := by
  cases path with
  | none =>
    constructor
    · intro h
      exact ⟨by rintro given ⟨⟩, (Except.ok.inj h).symm⟩
    · rintro ⟨-, rfl⟩
      rfl
  | some given =>
    unfold checkIndex
    simp only [le_greatestIndex_iff, Option.mem_some_iff, forall_eq', Option.getD_some]
    constructor
    · intro h
      split at h
      · next hrange => exact ⟨hrange, (Except.ok.inj h).symm⟩
      · cases h
    · rintro ⟨hrange, rfl⟩
      exact if_pos hrange

theorem checkIndex_eq_error_iff {path : Option Int} {failure : Failure} :
    checkIndex path = .error failure ↔
      ∃ given, path = some given ∧ ¬ (0 ≤ given ∧ given < 2 ^ 31) ∧ failure = .pathRange given := by
  cases path with
  | none =>
    constructor
    · rintro ⟨⟩
    · rintro ⟨given, ⟨⟩, -⟩
  | some given =>
    unfold checkIndex
    simp only [le_greatestIndex_iff, Option.some.injEq, exists_eq_left']
    constructor
    · intro h
      split at h
      · cases h
      · next hrange => exact ⟨hrange, (Except.error.inj h).symm⟩
    · rintro ⟨hrange, rfl⟩
      exact if_neg hrange

def pairOfPhrase (phrase : String) (path : Option Int) : Except Failure KeyPair := do
  let index ← checkIndex path
  if Mnemonic.isPhrase phrase then .ok (.ofPhrase (Text.squeeze phrase) index)
  else .error .invalidPhrase

theorem runOn_keyPairOfPhrase (phrase : String) (path : Option Int) (world : World) :
    ((keyPairOfPhrase phrase path).runOn world).1 = pairOfPhrase phrase path := by
  unfold keyPairOfPhrase pairOfPhrase
  rw [runOn_bind, runOn_ofExcept]
  cases checkIndex path with
  | error failure => rfl
  | ok index =>
    simp only [bind, Except.bind, Mnemonic.isPhrase_squeeze]
    cases Mnemonic.isPhrase phrase <;> rfl

/-- A phrase gives a pair at any path in range. -/
theorem pairOfPhrase_of_isPhrase {phrase : String} (hphrase : Mnemonic.isPhrase phrase = true)
    {path : Option Int} (hpath : ∀ index ∈ path, 0 ≤ index ∧ index < 2 ^ 31) :
    ∃ pair, pairOfPhrase phrase path = .ok pair := by
  have hindex : checkIndex path = .ok (path.getD 0).toNat := checkIndex_eq_ok_iff.2 ⟨hpath, rfl⟩
  refine ⟨.ofPhrase (Text.squeeze phrase) (path.getD 0).toNat, ?_⟩
  simp only [bind, Except.bind, pairOfPhrase, hindex, hphrase, if_true]

theorem pairOfPhrase_phraseOfEntropy {entropy : List UInt8}
    (hlength : Mnemonic.entropyLengths.contains entropy.length = true) {path : Option Int}
    (hpath : ∀ index ∈ path, 0 ≤ index ∧ index < 2 ^ 31) :
    ∃ pair, pairOfPhrase (Mnemonic.phraseOfEntropy entropy) path = .ok pair :=
  pairOfPhrase_of_isPhrase (Mnemonic.isPhrase_phraseOfEntropy hlength) hpath

theorem ofPhrase_eq (phrase : String) (index : Nat) :
    ∃ key, key.length = 32 ∧ KeyPair.ofPhrase phrase index = .ofSecretKey key := by
  refine ⟨_, ?_, rfl⟩
  rw [ExtendedKey.child, ExtendedKey.ofDigest, List.length_take, Hash.length_hmac]
  rfl

theorem pairOfPhrase_ok {phrase : String} {path : Option Int} {pair : KeyPair}
    (h : pairOfPhrase phrase path = .ok pair) :
    ∃ key, key.length = 32 ∧ pair = .ofSecretKey key := by
  unfold pairOfPhrase at h
  cases hindex : checkIndex path with
  | error failure =>
    rw [hindex] at h
    cases h
  | ok index =>
    rw [hindex] at h
    simp only [bind, Except.bind] at h
    split at h
    · rw [← Except.ok.inj h]
      exact ofPhrase_eq _ _
    · cases h

theorem isPhrase_of_pairOfPhrase {phrase : String} {path : Option Int} {pair : KeyPair}
    (h : pairOfPhrase phrase path = .ok pair) : Mnemonic.isPhrase phrase = true := by
  obtain ⟨index, -, hpair⟩ := exists_of_bind_ok h
  by_contra hnot
  rw [if_neg hnot] at hpair
  cases hpair

namespace Generate

def newPair (options : Options) (world : World) : Except Failure KeyPair := do
  pairOfPhrase (← newPhrase options.seed world) options.path

theorem newPair_eq {options : Options} {world : World} {phrase : String}
    (h : newPhrase options.seed world = .ok phrase) :
    newPair options world = pairOfPhrase phrase options.path := by
  rw [newPair, h]
  rfl

theorem newPair_ok {options : Options} {world : World} {pair : KeyPair}
    (h : newPair options world = .ok pair) :
    ∃ phrase, newPhrase options.seed world = .ok phrase ∧
      pairOfPhrase phrase options.path = .ok pair := by
  unfold newPair at h
  cases hphrase : newPhrase options.seed world with
  | error failure =>
    rw [hphrase] at h
    cases h
  | ok phrase =>
    rw [hphrase] at h
    exact ⟨phrase, rfl, h⟩

/-- A generation derives a pair from its phrase at any path in range. -/
theorem newPair_of_newPhrase {options : Options} {world : World} {phrase : String}
    (hphrase : newPhrase options.seed world = .ok phrase)
    (hpath : ∀ index ∈ options.path, 0 ≤ index ∧ index < 2 ^ 31) :
    ∃ pair, newPair options world = .ok pair := by
  obtain ⟨entropy, hlength, rfl⟩ := newPhrase_ok hphrase
  rw [newPair_eq hphrase]
  exact pairOfPhrase_phraseOfEntropy hlength hpath

/-- At a path in range only the phrase decides whether a pair is derived. -/
theorem newPair_map_const {α : Type} {options : Options} {world : World}
    (hpath : ∀ index ∈ options.path, 0 ≤ index ∧ index < 2 ^ 31) (a : α) :
    (newPair options world).map (fun _ => a) = (newPhrase options.seed world).map fun _ => a := by
  cases hphrase : newPhrase options.seed world with
  | error failure =>
    rw [newPair, hphrase]
    rfl
  | ok phrase =>
    obtain ⟨pair, hpair⟩ := newPair_of_newPhrase hphrase hpath
    rw [hpair]
    rfl

def entryOf (name : IdentityName) : String :=
  Secret.entryName (String.ofList (bodyOf name.text.toList))

/-! ## Preparing -/

/-- Makes the secret of a new identity, and fills the entry of the keychain if there is to be one. -/
def prepare (options : Options) (keychain : Option Keychain) : Action (Secret × Option String) := do
  let phrase ← makePhrase options.seed
  let secret ← secretOf options phrase
  let existing ← fillEntry options phrase keychain secret
  return (secret, existing)

/-- A generation prepares the secret and writes it. -/
theorem storeNew_eq (options : Options) (store : Store) (keychain : Option Keychain) :
    storeNew options store keychain = do
      let prepared ← prepare options keychain
      store.write options.name prepared.1
      return prepared := by
  unfold storeNew prepare
  simp only [bind_assoc, pure_bind]

/-- What preparing a generation comes to. -/
inductive Prepared (options : Options) (keychain : Option Keychain) (world : World) :
    Except Failure (Secret × Option String) → World → Prop
  /-- Nothing is stored. -/
  | failed {failure : Failure} {after : World} (hsame : World.SameStores world after) :
    Prepared options keychain world (.error failure) after
  | phrase {phrase : String} {after : World} (hform : options.form = .phrase)
      (hphrase : newPhrase options.seed world = .ok phrase) (hsame : World.SameStores world after) :
    Prepared options keychain world (.ok (.seedPhrase (.ofText phrase), none)) after
  | secretKey {pair : KeyPair} {after : World} (hform : options.form = .secretKey)
      (hpair : newPair options world = .ok pair) (hsame : World.SameStores world after) :
    Prepared options keychain world (.ok (.secretKey pair.secret, none)) after
  | keychain {chosen : Keychain} {pair : KeyPair} {existing : Option String} {middle after : World}
      (hform : options.form = .keychain) (hkeychain : keychain = some chosen)
      (hpair : newPair options world = .ok pair) (hsame : World.SameStores world middle)
      (hstored : chosen.Stored (entryOf options.name) pair middle (.ok existing) after) :
    Prepared options keychain world (.ok (.keychain (entryOf options.name), existing)) after

/-- In a keychain, the secret is the entry of the name, whatever the phrase. -/
theorem secretOf_keychain {options : Options} (hform : options.form = .keychain) (phrase : String) :
    secretOf options phrase = pure (.keychain (entryOf options.name)) := by
  unfold secretOf
  rw [hform]
  dsimp only
  rw [Secret.parse_entryName options.name.hasForm]
  rfl

theorem keeps_fillEntry {R : World → World → Prop} [World.IsQuietFrame R] {entry : String}
    (options : Options) (phrase : String) (keychain : Option Keychain)
    (hask : World.AllowsAsking R entry) (hfill : Keychain.AllowsFilling R entry) :
    Keeps R (fillEntry options phrase keychain (.keychain entry)) := by
  cases keychain with
  | none => exact keeps_throw _
  | some chosen =>
    exact (keeps_log _ _).bind fun _ => (keeps_keyPairOfPhrase _ _).bind fun pair =>
      Keychain.keeps_store hask hfill chosen pair

/-- Filling an entry derives the pair and stores it. -/
theorem runOn_fillEntry (options : Options) (phrase : String) (keychain : Keychain) (entry : String)
    (world : World) :
    ∃ middle, World.SameStores world middle ∧
      (fillEntry options phrase (some keychain) (.keychain entry)).runOn world =
        match pairOfPhrase phrase options.path with
        | .ok pair => (keychain.store entry pair).runOn middle
        | .error failure => (.error failure, middle) := by
  refine ⟨((keyPairOfPhrase phrase options.path).runOn
    ((log .info ("Writing to keychain: " ++ entry)).runOn world).2).2, ?_, ?_⟩
  · exact World.SameStores.trans (keeps_log _ _ world) (keeps_keyPairOfPhrase _ _ _)
  · have hrun := runOn_keyPairOfPhrase phrase options.path
      ((log .info ("Writing to keychain: " ++ entry)).runOn world).2
    rw [fillEntry, runOn_log_bind]
    cases hpair : pairOfPhrase phrase options.path with
    | ok pair =>
      rw [hpair] at hrun
      rw [runOn_bind_ok (Prod.ext hrun rfl)]
    | error failure =>
      rw [hpair] at hrun
      rw [runOn_bind_error (Prod.ext hrun rfl)]

/-- In a keychain, preparing is storing the new pair in the entry of the name. -/
theorem runOn_prepare_keychain {options : Options} {world : World} {pair : KeyPair}
    (hform : options.form = .keychain) (hpair : newPair options world = .ok pair)
    (keychain : Keychain) :
    ∃ middle, World.SameStores world middle ∧
      (prepare options (some keychain)).runOn world =
        match (keychain.store (entryOf options.name) pair).runOn middle with
        | (.ok existing, after) => (.ok (.keychain (entryOf options.name), existing), after)
        | (.error failure, after) => (.error failure, after) := by
  obtain ⟨phrase, hphrase, hderived⟩ := newPair_ok hpair
  have hmake := runOn_makePhrase options.seed world
  rw [hphrase] at hmake
  obtain ⟨middle, hsame, hfill⟩ := runOn_fillEntry options phrase keychain (entryOf options.name)
    ((makePhrase options.seed).runOn world).2
  simp only [hderived] at hfill
  refine ⟨middle, World.SameStores.trans (keeps_makePhrase _ world) hsame, ?_⟩
  rw [prepare, runOn_bind_ok (Prod.ext hmake rfl),
    secretOf_keychain hform, pure_bind, runOn_bind, hfill]
  match (keychain.store (entryOf options.name) pair).runOn middle with
  | (.ok existing, after) => rfl
  | (.error failure, after) => rfl

/-- A generation that derives no pair fails before it asks the keychain for anything. -/
theorem runOn_prepare_keychain_error {options : Options} {world : World} {failure : Failure}
    (hform : options.form = .keychain) (hpair : newPair options world = .error failure)
    (keychain : Keychain) :
    ∃ after, World.SameStores world after ∧
      (prepare options (some keychain)).runOn world = (.error failure, after) := by
  have hmake := runOn_makePhrase options.seed world
  have hquiet : World.SameStores world ((makePhrase options.seed).runOn world).2 :=
    keeps_makePhrase options.seed world
  unfold newPair at hpair
  cases hphrase : newPhrase options.seed world with
  | error other =>
    rw [hphrase] at hmake hpair
    obtain rfl : other = failure := Except.error.inj hpair
    exact ⟨_, hquiet, by rw [prepare, runOn_bind_error (Prod.ext hmake rfl)]⟩
  | ok phrase =>
    rw [hphrase] at hmake hpair
    have hderived : pairOfPhrase phrase options.path = .error failure := hpair
    obtain ⟨after, hsame, hfill⟩ := runOn_fillEntry options phrase keychain (entryOf options.name)
      ((makePhrase options.seed).runOn world).2
    simp only [hderived] at hfill
    refine ⟨after, hquiet.trans hsame, ?_⟩
    rw [prepare, runOn_bind_ok (Prod.ext hmake rfl),
      secretOf_keychain hform, pure_bind, runOn_bind_error hfill]

theorem prepared_keychain {options : Options} (hform : options.form = .keychain)
    (keychain : Option Keychain) (world : World) {phrase : String}
    (hphrase : newPhrase options.seed world = .ok phrase) :
    Prepared options keychain world ((prepare options keychain).runOn world).1
      ((prepare options keychain).runOn world).2 := by
  have hmake := runOn_makePhrase options.seed world
  have hquiet : World.SameStores world ((makePhrase options.seed).runOn world).2 :=
    keeps_makePhrase options.seed world
  rw [hphrase] at hmake
  cases keychain with
  | none =>
    rw [prepare, runOn_bind_ok (Prod.ext hmake rfl),
      secretOf_keychain hform, pure_bind]
    exact .failed hquiet
  | some chosen =>
    cases hpair : pairOfPhrase phrase options.path with
    | error failure =>
      obtain ⟨after, hsame, hrun⟩ :=
        runOn_prepare_keychain_error hform ((newPair_eq hphrase).trans hpair) chosen
      rw [hrun]
      exact .failed hsame
    | ok pair =>
      have hnew : newPair options world = .ok pair := (newPair_eq hphrase).trans hpair
      obtain ⟨middle, hsame, hrun⟩ := runOn_prepare_keychain hform hnew chosen
      have hstored := chosen.stored (entryOf options.name) pair middle
      rw [hrun]
      match hstore : (chosen.store (entryOf options.name) pair).runOn middle with
      | (.ok existing, after) =>
        rw [hstore] at hstored
        exact .keychain hform rfl hnew hsame hstored
      | (.error failure, after) =>
        rw [hstore] at hstored
        cases hstored with
        | refused habsent hafter => exact .failed (hsame.trans hafter)
        | corrupt hthere hnone hafter => exact .failed (hsame.trans hafter)

/-- A phrase is the secret itself. -/
theorem runOn_prepare_phrase {options : Options} {world : World} {phrase : String}
    (hform : options.form = .phrase) (hphrase : newPhrase options.seed world = .ok phrase)
    (keychain : Option Keychain) :
    ∃ after, World.SameStores world after ∧
      (prepare options keychain).runOn world = (.ok (.seedPhrase (.ofText phrase), none), after) := by
  have hmake := runOn_makePhrase options.seed world
  rw [hphrase] at hmake
  refine ⟨_, keeps_makePhrase options.seed world, ?_⟩
  have hsecret : secretOf options phrase = pure (.seedPhrase (.ofText phrase)) := by
    rw [secretOf, hform]
  rw [prepare, runOn_bind_ok (Prod.ext hmake rfl), hsecret]
  rfl

/-- As a secret key, the secret is that of the new pair, or there is no pair. -/
theorem runOn_prepare_secretKey {options : Options} {world : World} {phrase : String}
    (hform : options.form = .secretKey) (hphrase : newPhrase options.seed world = .ok phrase)
    (keychain : Option Keychain) :
    ∃ after, World.SameStores world after ∧
      (prepare options keychain).runOn world =
        ((newPair options world).map fun pair => (.secretKey pair.secret, none), after) := by
  have hmake := runOn_makePhrase options.seed world
  rw [hphrase] at hmake
  have hquiet : World.SameStores world ((makePhrase options.seed).runOn world).2 :=
    keeps_makePhrase options.seed world
  have hsecret : secretOf options phrase =
      (do return .secretKey (← keyPairOfPhrase phrase options.path).secret) := by
    rw [secretOf, hform]
  have hderive := runOn_keyPairOfPhrase phrase options.path ((makePhrase options.seed).runOn world).2
  refine ⟨_, hquiet.trans (keeps_keyPairOfPhrase phrase options.path _), ?_⟩
  rw [prepare, runOn_bind_ok (Prod.ext hmake rfl), hsecret, bind_assoc, newPair_eq hphrase]
  cases hpair : pairOfPhrase phrase options.path with
  | error failure =>
    rw [hpair] at hderive
    rw [runOn_bind_error (Prod.ext hderive rfl)]
    rfl
  | ok pair =>
    rw [hpair] at hderive
    rw [runOn_bind_ok (Prod.ext hderive rfl)]
    rfl

theorem prepared (options : Options) (keychain : Option Keychain) (world : World) :
    Prepared options keychain world ((prepare options keychain).runOn world).1
      ((prepare options keychain).runOn world).2 := by
  have hmake := runOn_makePhrase options.seed world
  have hquiet : World.SameStores world ((makePhrase options.seed).runOn world).2 :=
    keeps_makePhrase options.seed world
  cases hphrase : newPhrase options.seed world with
  | error failure =>
    rw [hphrase] at hmake
    rw [prepare, runOn_bind_error (Prod.ext hmake rfl)]
    exact .failed hquiet
  | ok phrase =>
    cases hform : options.form with
    | keychain => exact prepared_keychain hform keychain world hphrase
    | phrase =>
      obtain ⟨after, hsame, hrun⟩ := runOn_prepare_phrase hform hphrase keychain
      rw [hrun]
      exact .phrase hform hphrase hsame
    | secretKey =>
      obtain ⟨after, hsame, hrun⟩ := runOn_prepare_secretKey hform hphrase keychain
      rw [hrun]
      cases hpair : newPair options world with
      | error failure => exact .failed hsame
      | ok pair => exact .secretKey hform hpair hsame

theorem prepared_of_run {options : Options} {keychain : Option Keychain} {world after : World}
    {result : Except Failure (Secret × Option String)}
    (h : (prepare options keychain).runOn world = (result, after)) :
    Prepared options keychain world result after := by
  have hprepared := prepared options keychain world
  rwa [h] at hprepared

/-- An identity that has been stored has been prepared, and then written. -/
theorem storeNew_ok {options : Options} {store : Store} {keychain : Option Keychain}
    {world after : World} {stored : Secret × Option String}
    (h : (storeNew options store keychain).runOn world = (.ok stored, after)) :
    ∃ middle, Prepared options keychain world (.ok stored) middle ∧
      (store.write options.name stored.1).runOn middle = (.ok (), after) := by
  rw [storeNew_eq] at h
  obtain ⟨prepared, middle, hrun, hrest⟩ := exists_of_runOn_bind h
  obtain ⟨⟨⟩, last, hwrite, hresult⟩ := exists_of_runOn_bind hrest
  obtain ⟨hstored, rfl⟩ := Prod.mk.inj hresult
  obtain rfl : prepared = stored := Except.ok.inj hstored
  exact ⟨middle, prepared_of_run hrun, hwrite⟩

/-- What has been prepared in a keychain is the entry of the name, where the new pair is stored. -/
theorem Prepared.keychain_ok {options : Options} {keychain : Option Keychain} {world after : World}
    {secret : Secret} {existing : Option String}
    (h : Prepared options keychain world (.ok (secret, existing)) after)
    (hform : options.form = .keychain) :
    secret = .keychain (entryOf options.name) ∧ ∃ chosen pair middle, keychain = some chosen ∧
      newPair options world = .ok pair ∧ World.SameStores world middle ∧
      chosen.Stored (entryOf options.name) pair middle (.ok existing) after := by
  cases h with
  | phrase hother =>
    rw [hform] at hother
    cases hother
  | secretKey hother =>
    rw [hform] at hother
    cases hother
  | keychain _ hkeychain hpair hsame hstored =>
    exact ⟨rfl, _, _, _, hkeychain, hpair, hsame, hstored⟩

/-- The secret that is prepared is read again from its text. -/
theorem Prepared.readable {options : Options} {keychain : Option Keychain} {world after : World}
    {secret : Secret} {existing : Option String}
    (h : Prepared options keychain world (.ok (secret, existing)) after) :
    Secret.parse secret.text = .ok secret := by
  cases h with
  | phrase hform hphrase hsame =>
    obtain ⟨entropy, hlength, rfl⟩ := newPhrase_ok hphrase
    have hread := Secret.parse_phraseOfEntropy hlength
    exact Secret.parse_text hread
  | secretKey hform hpair hsame =>
    obtain ⟨phrase, -, hderived⟩ := newPair_ok hpair
    obtain ⟨key, hkey, rfl⟩ := pairOfPhrase_ok hderived
    exact Secret.parse_encode hkey
  | keychain hform hkeychain hpair hsame hstored =>
    exact Secret.parse_text (Secret.parse_entryName options.name.hasForm)

/-- Preparing changes no file and no entry that is there. -/
theorem Prepared.keeps {options : Options} {keychain : Option Keychain} {world after : World}
    {result : Except Failure (Secret × Option String)}
    (h : Prepared options keychain world result after) :
    World.SameFiles world after ∧ World.KeepsEntries world after := by
  cases h with
  | failed hsame => exact ⟨hsame.sameFiles, hsame.keepsEntries⟩
  | phrase hform hphrase hsame => exact ⟨hsame.sameFiles, hsame.keepsEntries⟩
  | secretKey hform hpair hsame => exact ⟨hsame.sameFiles, hsame.keepsEntries⟩
  | keychain hform hkeychain hpair hsame hstored =>
    exact ⟨hsame.sameFiles.trans hstored.sameFiles, hsame.keepsEntries.trans hstored.keepsEntries⟩

end Generate

end NamedKeys
