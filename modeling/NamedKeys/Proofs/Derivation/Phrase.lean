import NamedKeys.Proofs.Derivation
import NamedKeys.Proofs.Generate.Requests
import NamedKeys.Proofs.Secret.Forms

/-!
# Which phrases give a pair

The range of a path is tested first, then the phrase, and nothing else is in the way of a pair (`Derives`).
In particular the derivation, which tests the phrase a second time for itself and writes the path in four
octets, refuses nothing that has come so far (`derive?_squeeze`).  So the test for phrases and the
derivation accept the same texts, and what is read as a phrase or as a secret key gives a pair:

    derivation_follows_validation
-/

namespace NamedKeys

open NamedKeys.Action

/-- A path that can be derived at: none, or a number below `2 ^ 31`. -/
def IsPath (path : Option Int) : Prop :=
  ∀ index ∈ path, 0 ≤ index ∧ index < 2 ^ 31

/-! ## The outcome for a phrase -/

/-- What comes of a phrase at a path. -/
inductive Derives (phrase : String) (path : Option Int) : Except Failure KeyPair → Prop
  | range {index : Int} (hpath : path = some index) (hrange : ¬ (0 ≤ index ∧ index < 2 ^ 31)) :
    Derives phrase path (.error (.pathRange index))
  | invalid (hpath : IsPath path) (hphrase : Mnemonic.isPhrase phrase = false) :
    Derives phrase path (.error .invalidPhrase)
  | pair (hpath : IsPath path) (hphrase : Mnemonic.isPhrase phrase = true) :
    Derives phrase path (.ok (.ofPhrase (Text.squeeze phrase) (path.getD 0).toNat))

theorem derives_pairOfPhrase (phrase : String) (path : Option Int) :
    Derives phrase path (pairOfPhrase phrase path) := by
  unfold pairOfPhrase
  cases hindex : checkIndex path with
  | error failure =>
    obtain ⟨index, hsome, hrange, rfl⟩ := checkIndex_eq_error_iff.1 hindex
    exact .range hsome hrange
  | ok index =>
    obtain ⟨hpath, rfl⟩ := checkIndex_eq_ok_iff.1 hindex
    cases hphrase : Mnemonic.isPhrase phrase with
    | false => exact .invalid hpath hphrase
    | true => exact .pair hpath hphrase

variable {phrase : String} {path : Option Int} {result : Except Failure KeyPair}

theorem Derives.unsupportedPath_iff (h : Derives phrase path result) :
    (∃ failure, result = .error failure ∧ failure.family = .unsupportedPath) ↔
      ∃ index, path = some index ∧ ¬ (0 ≤ index ∧ index < 2 ^ 31) := by
  constructor
  · rintro ⟨failure, rfl, hfamily⟩
    cases h with
    | range hpath hrange => exact ⟨_, hpath, hrange⟩
    | invalid => cases hfamily
  · rintro ⟨index, rfl, hrange⟩
    cases h with
    | range hpath => exact ⟨_, rfl, rfl⟩
    | invalid hpath => exact absurd (hpath index rfl) hrange
    | pair hpath => exact absurd (hpath index rfl) hrange

theorem Derives.derivation_iff (h : Derives phrase path result) (hpath : IsPath path) :
    (∃ failure, result = .error failure ∧ failure.family = .derivation) ↔
      Mnemonic.isPhrase phrase = false := by
  cases h with
  | range hsome hrange => exact absurd (hpath _ hsome) hrange
  | invalid _ hphrase => exact ⟨fun _ => hphrase, fun _ => ⟨_, rfl, rfl⟩⟩
  | pair _ hphrase =>
    rw [hphrase]
    constructor
    · rintro ⟨failure, herror, -⟩
      cases herror
    · rintro ⟨⟩

theorem Derives.of_isPhrase (h : Derives phrase path result) (hpath : IsPath path)
    (hphrase : Mnemonic.isPhrase phrase = true) :
    result = .ok (.ofPhrase (Text.squeeze phrase) (path.getD 0).toNat) := by
  cases h with
  | range hsome hrange => exact absurd (hpath _ hsome) hrange
  | invalid _ hnot =>
    rw [hphrase] at hnot
    cases hnot
  | pair => rfl

/-! ## The second test -/

/-- The number that octets write, the highest first. -/
def numberOfOctets (octets : List UInt8) : Nat :=
  octets.foldl (fun n b => 256 * n + b.toNat) 0

theorem numberOfOctets_indexOctets {n : Nat} (h : n < 2 ^ 32) :
    numberOfOctets (ExtendedKey.indexOctets n) = n := by
  simp only [numberOfOctets, ExtendedKey.indexOctets, List.map_cons, List.map_nil, List.foldl_cons,
    List.foldl_nil, UInt8.toNat_ofNat', Nat.pow_eq]
  omega

/-- The pair that a derivation makes by itself: it tests the phrase as it stands, without regard to
blanks, and the number of the last key must fit its four octets. -/
def KeyPair.derive? (phrase : String) (index : Nat) : Option KeyPair :=
  let number := 2 ^ 31 + index
  if (Mnemonic.entropyOf? phrase).isSome ∧
      numberOfOctets (ExtendedKey.indexOctets number) = number then
    some (.ofPhrase phrase index)
  else none

/-- A derivation refuses no phrase that has passed the test for phrases, at no path in range. -/
theorem KeyPair.derive?_squeeze (hpath : IsPath path) (hphrase : Mnemonic.isPhrase phrase = true) :
    derive? (Text.squeeze phrase) (path.getD 0).toNat =
      some (.ofPhrase (Text.squeeze phrase) (path.getD 0).toNat) := by
  have hindex : (path.getD 0).toNat < 2 ^ 31 := by
    cases path with
    | none => decide
    | some index =>
      have := hpath index rfl
      rw [Option.getD_some]
      omega
  have hread : (Mnemonic.entropyOf? (Text.squeeze phrase)).isSome = true := hphrase
  have hnumber := numberOfOctets_indexOctets (n := 2 ^ 31 + (path.getD 0).toNat) (by omega)
  rw [derive?, if_pos ⟨hread, hnumber⟩]

/-- The pair of a phrase by a derivation that may fail for a cause of its own. -/
def keyPairOfPhraseTwice (cause phrase : String) (path : Option Int) : Action KeyPair := do
  let index ← Action.ofExcept (checkIndex path)
  let phrase := Text.squeeze phrase
  if !Mnemonic.isPhrase phrase then throw .invalidPhrase
  Action.log .debug ("Deriving key pair at m/44'/148'/" ++ toString index ++ "'... ")
  match KeyPair.derive? phrase index with
  | some pair => return pair
  | none => throw (.derivation cause)

theorem keyPairOfPhraseTwice_eq (cause phrase : String) (path : Option Int) :
    keyPairOfPhraseTwice cause phrase path = keyPairOfPhrase phrase path := by
  unfold keyPairOfPhraseTwice keyPairOfPhrase
  cases hindex : checkIndex path with
  | error failure =>
    have hfails : ∀ next : Nat → Action KeyPair, ofExcept (.error failure) >>= next = throw failure :=
      fun _ => rfl
    rw [hfails, hfails]
  | ok index =>
    have hgoes : ∀ next : Nat → Action KeyPair, ofExcept (.ok index) >>= next = next index :=
      fun _ => rfl
    rw [hgoes, hgoes]
    obtain ⟨hpath, rfl⟩ := checkIndex_eq_ok_iff.1 hindex
    dsimp only
    by_cases hphrase : Mnemonic.isPhrase phrase = true
    · rw [KeyPair.derive?_squeeze hpath hphrase]
    · have hrefused : (!Mnemonic.isPhrase (Text.squeeze phrase)) = true := by
        rw [Mnemonic.isPhrase_squeeze, Bool.not_eq_true', ← Bool.not_eq_true]
        exact hphrase
      have hfails : ∀ next : PUnit → Action KeyPair,
          (throw .invalidPhrase : Action PUnit) >>= next = throw .invalidPhrase := fun _ => rfl
      rw [if_pos hrefused, if_pos hrefused, hfails, hfails]

/-! ## Paths of secrets -/

theorem pairOfPhrase_none (phrase : String) : pairOfPhrase phrase none = pairOfPhrase phrase (some 0) :=
  rfl

/-- A phrase is refused for its path exactly if that is out of range, and else exactly if it does not
pass the test for phrases; a phrase that is not refused gives a secret of 32 octets with its public key,
at no path the same as at 0, and a derivation that tests it twice does no other.  So what is read as a
phrase or as a secret key gives a pair at every path in range; and for secret keys and entries of
keychains the path makes no difference at all. -/
theorem derivation_follows_validation :
    (∀ (phrase : String) (path : Option Int) (world : World),
      ((∃ failure, ((keyPairOfPhrase phrase path).runOn world).1 = .error failure ∧
        failure.family = .unsupportedPath) ↔
          ∃ index, path = some index ∧ ¬ (0 ≤ index ∧ index < 2 ^ 31)) ∧
      (IsPath path →
        ((∃ failure, ((keyPairOfPhrase phrase path).runOn world).1 = .error failure ∧
          failure.family = .derivation) ↔ Mnemonic.isPhrase phrase = false)) ∧
      (IsPath path → Mnemonic.isPhrase phrase = true →
        ∃ pair, ((keyPairOfPhrase phrase path).runOn world).1 = .ok pair ∧
          pair.secretKey.length = 32 ∧
          pair.publicKey = Curve.Ed25519.publicKey pair.secretKey)) ∧
    (∀ (phrase : String) (world world' : World),
      ((keyPairOfPhrase phrase none).runOn world).1 =
        ((keyPairOfPhrase phrase (some 0)).runOn world').1) ∧
    (∀ (cause phrase : String) (path : Option Int),
      keyPairOfPhraseTwice cause phrase path = keyPairOfPhrase phrase path) ∧
    (∀ (text : String) (secret : Secret) (path : Option Int) (keychain : Option Keychain)
      (world : World), Secret.parse text = .ok secret → secret.kind ≠ .keychain → IsPath path →
      ∃ pair, ((keyPairOfSecret secret path keychain).runOn world).1 = .ok pair) ∧
    ∀ (secret : Secret) (path other : Option Int) (keychain : Option Keychain) (world : World),
      secret.kind ≠ .seedPhrase →
      ((keyPairOfSecret secret path keychain).runOn world).1 =
        ((keyPairOfSecret secret other keychain).runOn world).1 := by
  refine ⟨fun phrase path world => ?_, fun phrase world world' => ?_, keyPairOfPhraseTwice_eq,
    fun text secret path keychain world hparse hkind hpath => ?_,
    fun secret path other keychain world hkind => ?_⟩
  · rw [runOn_keyPairOfPhrase]
    have houtcome := derives_pairOfPhrase phrase path
    refine ⟨houtcome.unsupportedPath_iff, houtcome.derivation_iff, fun hpath hphrase => ?_⟩
    have hpair := houtcome.of_isPhrase hpath hphrase
    obtain ⟨key, hkey, heq⟩ := pairOfPhrase_ok hpair
    exact ⟨_, hpair, heq ▸ hkey, heq ▸ rfl⟩
  · rw [runOn_keyPairOfPhrase, runOn_keyPairOfPhrase, pairOfPhrase_none]
  · rw [runOn_keyPairOfSecret]
    exact pairOfSecret_of_parse hparse hkind hpath world keychain
  · rw [runOn_keyPairOfSecret, runOn_keyPairOfSecret]
    exact pairOfSecret_path hkind world path other keychain

/-- A phrase of twelve words between odd blanks is read, and gives its pair at the last path in range; the
next path is refused. -/
theorem derivation_follows_validation_blanks :
    let text := " abandon abandon abandon  abandon abandon abandon abandon abandon abandon
      abandon abandon\u00A0about"
    (∃ pair, ((keyPairOfPhrase text (some 2147483647)).runOn .bare).1 = .ok pair ∧
      pair.secretKey.length = 32) ∧
    (∃ secret pair, Secret.parse text = .ok secret ∧
      ((keyPairOfSecret secret none none).runOn .bare).1 = .ok pair) ∧
    ∃ failure, ((keyPairOfPhrase text (some 2147483648)).runOn .bare).1 = .error failure ∧
      failure.family = .unsupportedPath := by
  intro text
  have hphrase : Mnemonic.isPhrase text = true := by decide +kernel
  have hlast : IsPath (some 2147483647) := by
    rintro index ⟨⟩
    decide
  obtain ⟨houtcome, -, -, hparsed, -⟩ := derivation_follows_validation
  refine ⟨?_, ?_, ?_⟩
  · obtain ⟨pair, hpair, hlength, -⟩ := (houtcome text (some 2147483647) .bare).2.2 hlast hphrase
    exact ⟨pair, hpair, hlength⟩
  · have hparse : Secret.parse text = .ok (.seedPhrase (.ofText text)) :=
      Secret.parse_eq_ok_iff.2 (.seedPhrase (Mnemonic.isPhrase_iff.1 hphrase))
    obtain ⟨pair, hpair⟩ := hparsed text _ none none .bare hparse (by decide) (by rintro index ⟨⟩)
    exact ⟨_, pair, hparse, hpair⟩
  · exact (houtcome text (some 2147483648) .bare).1.2 ⟨_, rfl, by decide⟩

end NamedKeys
