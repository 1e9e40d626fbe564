import NamedKeys.Proofs.Generate.Prepare

/-!
# The pair of a secret

The pair that a secret gives depends on the secret, the entries of the keychain and, for a phrase only,
on the path:

    ((keyPairOfSecret secret path keychain).runOn world).1 = pairOfSecret world secret path keychain
                                                                            (runOn_keyPairOfSecret)

For a secret that a generation has prepared it is the pair that the generation derives, unless an
entry of the keychain held another one (`Prepared.pairOfSecret`).
-/

namespace NamedKeys

open NamedKeys.Action

def Keychain.pairIn (keychain : Keychain) (world : World) (entry : String) : Except Failure KeyPair :=
  match keychain.reading world entry with
  | .error failure => .error failure
  | .ok none => .error (.entryNotFound entry)
  | .ok (some octets) => KeyPair.ofOctets octets

theorem Keychain.runOn_keyPair_fst (keychain : Keychain) (entry : String) (world : World) :
    ((keychain.keyPair entry).runOn world).1 = keychain.pairIn world entry := by
  obtain ⟨after, hrun, -⟩ := runOn_read keychain entry world
  unfold pairIn
  cases hread : keychain.reading world entry with
  | error failure =>
    rw [hread] at hrun
    rw [keyPair, runOn_bind_error hrun]
  | ok held =>
    rw [hread] at hrun
    rw [keyPair, runOn_bind_ok hrun]
    cases held with
    | none => rfl
    | some octets => exact congrArg Prod.fst (runOn_ofExcept _ _)

theorem Keychain.pairIn_congr {world after : World} (h : World.SameKeychains world after)
    (keychain : Keychain) (entry : String) :
    keychain.pairIn after entry = keychain.pairIn world entry := by
  rw [pairIn, pairIn, reading_congr h]

/-- An entry gives a pair if it holds one. -/
theorem Keychain.pairIn_eq_ok_iff {keychain : Keychain} {world : World} {entry : String}
    {pair : KeyPair} :
    keychain.pairIn world entry = .ok pair ↔ keychain.HoldsPair world entry pair := by
  unfold pairIn
  constructor
  · intro h
    split at h
    · cases h
    · cases h
    · next octets hread => exact ⟨octets, hread, h⟩
  · rintro ⟨octets, hread, hpair⟩
    rw [hread]
    exact hpair

/-- The pair of a secret at a path. -/
def pairOfSecret (world : World) (secret : Secret) (path : Option Int) (keychain : Option Keychain) :
    Except Failure KeyPair :=
  match secret, keychain with
  | .seedPhrase phrase, _ => pairOfPhrase phrase.text path
  | .secretKey text, _ => KeyPair.ofKeyText text
  | .keychain entry, none => .error (.noKeychain entry)
  | .keychain entry, some keychain => keychain.pairIn world entry

@[simp] theorem pairOfSecret_seedPhrase (world : World) (phrase : SeedPhrase) (path : Option Int)
    (keychain : Option Keychain) :
    pairOfSecret world (.seedPhrase phrase) path keychain = pairOfPhrase phrase.text path := rfl

@[simp] theorem pairOfSecret_secretKey (world : World) (text : String) (path : Option Int)
    (keychain : Option Keychain) :
    pairOfSecret world (.secretKey text) path keychain = KeyPair.ofKeyText text := rfl

@[simp] theorem pairOfSecret_keychain (world : World) (entry : String) (path : Option Int)
    (keychain : Keychain) :
    pairOfSecret world (.keychain entry) path (some keychain) = keychain.pairIn world entry := rfl

theorem runOn_ignorePath (path : Option Int) (secret : String) (world : World) :
    ∃ after, World.SameStores world after ∧
      (ignorePath path secret).runOn world = (.ok (), after) := by
  refine ⟨((ignorePath path secret).runOn world).2, keeps_ignorePath _ _ world, ?_⟩
  cases path <;> rfl

/-- The pair of an entry is asked of the keychain, whatever the path. -/
theorem runOn_keyPairOfSecret_keychain (entry : String) (path : Option Int) (keychain : Keychain)
    (world : World) :
    ∃ middle, World.SameStores world middle ∧
      (keyPairOfSecret (.keychain entry) path (some keychain)).runOn world =
        (keychain.keyPair entry).runOn middle := by
  obtain ⟨middle, hsame, hignore⟩ := runOn_ignorePath path ("keychain entry " ++ entry) world
  exact ⟨middle, hsame, by rw [keyPairOfSecret, runOn_bind_ok hignore]⟩

theorem runOn_keyPairOfSecret (secret : Secret) (path : Option Int) (keychain : Option Keychain)
    (world : World) :
    ((keyPairOfSecret secret path keychain).runOn world).1 =
      pairOfSecret world secret path keychain := by
  cases secret with
  | seedPhrase phrase => exact runOn_keyPairOfPhrase phrase.text path world
  | secretKey text =>
    obtain ⟨after, -, hignore⟩ := runOn_ignorePath path "a secret key" world
    rw [keyPairOfSecret, runOn_bind_ok hignore, runOn_ofExcept]
    rfl
  | keychain entry =>
    cases keychain with
    | none => rfl
    | some chosen =>
      obtain ⟨middle, hsame, hask⟩ := runOn_keyPairOfSecret_keychain entry path chosen world
      rw [hask, chosen.runOn_keyPair_fst, Keychain.pairIn_congr hsame.sameKeychains]
      rfl

/-- The pair of a secret, if it has one, is that of a secret key, wherever it comes from. -/
theorem pairOfSecret_ok {world : World} {secret : Secret} {path : Option Int}
    {keychain : Option Keychain} {pair : KeyPair}
    (h : pairOfSecret world secret path keychain = .ok pair) :
    ∃ key, key.length = 32 ∧ pair = .ofSecretKey key := by
  cases secret with
  | seedPhrase phrase => exact pairOfPhrase_ok h
  | secretKey text => exact KeyPair.ofKeyText_ok h
  | keychain entry =>
    cases keychain with
    | none => cases h
    | some chosen =>
      obtain ⟨octets, -, hpair⟩ := Keychain.pairIn_eq_ok_iff.1 h
      exact KeyPair.ofOctets_ok hpair

/-- What is read as a phrase or as a secret key gives a pair at every path in range. -/
theorem pairOfSecret_of_parse {text : String} {secret : Secret}
    (hparse : Secret.parse text = .ok secret) (hkind : secret.kind ≠ .keychain) {path : Option Int}
    (hpath : ∀ index ∈ path, 0 ≤ index ∧ index < 2 ^ 31) (world : World)
    (keychain : Option Keychain) : ∃ pair, pairOfSecret world secret path keychain = .ok pair := by
  cases secret with
  | seedPhrase phrase => exact pairOfPhrase_of_isPhrase (Secret.isPhrase_of_parse hparse) hpath
  | secretKey text =>
    obtain ⟨key, hdecode⟩ := Option.isSome_iff_exists.1 (Secret.isSecretKey_of_parse hparse)
    refine ⟨.ofSecretKey key, ?_⟩
    rw [pairOfSecret_secretKey, KeyPair.ofKeyText, hdecode]
  | keychain entry => exact absurd rfl hkind

/-- Files do not count for the pair of a secret. -/
theorem pairOfSecret_congr {world after : World} (h : World.SameKeychains world after)
    (secret : Secret) (path : Option Int) (keychain : Option Keychain) :
    pairOfSecret after secret path keychain = pairOfSecret world secret path keychain := by
  cases secret with
  | seedPhrase phrase => rfl
  | secretKey text => rfl
  | keychain entry =>
    cases keychain with
    | none => rfl
    | some chosen => exact Keychain.pairIn_congr h chosen entry

/-- The path counts for a phrase only. -/
theorem pairOfSecret_path {secret : Secret} (h : secret.kind ≠ .seedPhrase) (world : World)
    (path other : Option Int) (keychain : Option Keychain) :
    pairOfSecret world secret path keychain = pairOfSecret world secret other keychain := by
  cases secret with
  | seedPhrase phrase => exact absurd rfl h
  | secretKey text => rfl
  | keychain entry => cases keychain <;> rfl

theorem pairOfPhrase_squeeze (phrase : String) (path : Option Int) :
    pairOfPhrase (Text.squeeze phrase) path = pairOfPhrase phrase path := by
  rw [pairOfPhrase, pairOfPhrase, Mnemonic.isPhrase_squeeze, Text.squeeze_squeeze]

namespace Generate

variable {options : Options} {keychain : Option Keychain} {world after : World} {secret : Secret}
  {existing : Option String}

/-- A secret that has been prepared gives the pair of the generation, or the pair whose address is
given because the entry of the keychain held it before. -/
theorem Prepared.pairOfSecret (h : Prepared options keychain world (.ok (secret, existing)) after) :
    (existing = none ∧ pairOfSecret after secret options.path keychain = newPair options world) ∨
      ∃ pair, existing = some pair.address ∧
        pairOfSecret after secret options.path keychain = .ok pair := by
  cases h with
  | phrase hform hphrase hsame =>
    refine .inl ⟨rfl, ?_⟩
    rw [newPair_eq hphrase, pairOfSecret_seedPhrase]
    exact pairOfPhrase_squeeze _ options.path
  | secretKey hform hpair hsame =>
    refine .inl ⟨rfl, ?_⟩
    obtain ⟨phrase, -, hderived⟩ := newPair_ok hpair
    obtain ⟨key, hkey, rfl⟩ := pairOfPhrase_ok hderived
    rw [hpair, pairOfSecret_secretKey, KeyPair.ofKeyText_secret hkey]
  | keychain hform hkeychain hpair hsame hstored =>
    obtain ⟨phrase, -, hderived⟩ := newPair_ok hpair
    obtain ⟨key, hkey, rfl⟩ := pairOfPhrase_ok hderived
    obtain rfl := hkeychain
    cases hstored with
    | created habsent hsame =>
      refine .inl ⟨rfl, ?_⟩
      rw [hpair, pairOfSecret_keychain]
      refine Keychain.pairIn_eq_ok_iff.2 (Keychain.holdsPair_putEntry hkey ?_)
      rw [Keychain.reading_congr hsame.sameKeychains, habsent]
    | present hother haddress hsame =>
      obtain rfl := haddress
      exact .inr ⟨_, rfl, Keychain.pairIn_eq_ok_iff.2 (hother.congr hsame.sameKeychains)⟩

end Generate

end NamedKeys
