import NamedKeys.Proofs.Generate.Prepare
import NamedKeys.Proofs.Text.Utf8

/-!
# Phrases that are made

A phrase is made of a seed, whose octets are the entropy, or of the next random octets.  It is made of
entropy of five lengths and of no other, and then it stands for that entropy (`IsPhraseOf`): it is in its
normal form, it is read as a phrase by every reader, and the entropy is read back from it, so that no
other entropy gives the same phrase:

    makePhrase_faithful
-/

namespace NamedKeys

open NamedKeys.Action

/-! ## Phrases of entropy -/

/-- A phrase stands for entropy: three words for each four octets, separated by single spaces, which
the test for phrases and the reader of secrets take as they are and from which the entropy is read. -/
structure IsPhraseOf (phrase : String) (entropy : List UInt8) : Prop where
  words : 4 * (Text.words phrase.toList).length = 3 * entropy.length
  squeezed : Text.squeeze phrase = phrase
  valid : Mnemonic.isPhrase phrase = true
  parsed : ∃ secret : SeedPhrase, Secret.parse phrase = .ok (.seedPhrase secret) ∧ secret.text = phrase
  entropy : Mnemonic.entropyOf? phrase = some entropy

theorem IsPhraseOf.unique {phrase : String} {entropy other : List UInt8}
    (h : IsPhraseOf phrase entropy) (h' : IsPhraseOf phrase other) : entropy = other :=
  Option.some.inj (h.entropy.symm.trans h'.entropy)

theorem Mnemonic.words_phraseOfEntropy (entropy : List UInt8) :
    Text.words (phraseOfEntropy entropy).toList = (wordsOfEntropy entropy).map String.toList := by
  rw [toList_phraseOfEntropy]
  exact Text.words_unwords fun w hw => (isLowerWord_of_mem_words w hw).isWord

theorem isPhraseOf_phraseOfEntropy {entropy : List UInt8}
    (h : Mnemonic.entropyLengths.contains entropy.length = true) :
    IsPhraseOf (Mnemonic.phraseOfEntropy entropy) entropy where
  words := by
    obtain ⟨k, hk, -, hgreatest⟩ := Mnemonic.length_of_mem h
    rw [Mnemonic.words_phraseOfEntropy, List.length_map, Mnemonic.length_wordsOfEntropy hk hgreatest]
    omega
  squeezed := Mnemonic.squeeze_phraseOfEntropy entropy
  valid := Mnemonic.isPhrase_phraseOfEntropy h
  parsed := ⟨_, Secret.parse_phraseOfEntropy h, Mnemonic.squeeze_phraseOfEntropy entropy⟩
  entropy := Mnemonic.entropyOf?_phraseOfEntropy h

/-! ## Making phrases -/

/-- The entropy of the phrase that is made next: the octets of a seed, or the next random ones. -/
def nextEntropy (seed : Option String) (world : World) : Option (List UInt8) :=
  match seed with
  | some seed => some seed.toUTF8.data.toList
  | none => world.randomness.head?

/-- A phrase is made of the next entropy, if there is any. -/
theorem newPhrase_eq (seed : Option String) (world : World) :
    newPhrase seed world =
      match nextEntropy seed world with
      | some entropy => phraseOfEntropy entropy
      | none => .error .noRandomness := by
  unfold newPhrase nextEntropy
  cases seed with
  | some seed =>
    dsimp only
    rw [Text.Utf8.encode_toList]
  | none => cases world.randomness <;> rfl

theorem makePhrase_of_length {seed : Option String} {world : World} {entropy : List UInt8}
    (hentropy : nextEntropy seed world = some entropy)
    (hlength : Mnemonic.entropyLengths.contains entropy.length = true) :
    ∃ phrase, ((makePhrase seed).runOn world).1 = .ok phrase ∧ IsPhraseOf phrase entropy := by
  refine ⟨_, ?_, isPhraseOf_phraseOfEntropy hlength⟩
  rw [runOn_makePhrase, newPhrase_eq, hentropy]
  exact phraseOfEntropy_eq_ok_iff.2 ⟨hlength, rfl⟩

theorem makePhrase_of_not_length {seed : Option String} {world : World} {entropy : List UInt8}
    (hentropy : nextEntropy seed world = some entropy)
    (hlength : ¬ Mnemonic.entropyLengths.contains entropy.length = true) :
    ((makePhrase seed).runOn world).1 = .error (.seedLength entropy.length) := by
  rw [runOn_makePhrase, newPhrase_eq, hentropy]
  exact phraseOfEntropy_eq_error_iff.2 ⟨hlength, rfl⟩

/-- A phrase that is made stands for the next entropy. -/
theorem isPhraseOf_of_makePhrase {seed : Option String} {world : World} {phrase : String}
    (h : ((makePhrase seed).runOn world).1 = .ok phrase) :
    ∃ entropy, nextEntropy seed world = some entropy ∧ IsPhraseOf phrase entropy := by
  cases hentropy : nextEntropy seed world with
  | none =>
    rw [runOn_makePhrase, newPhrase_eq, hentropy] at h
    cases h
  | some entropy =>
    refine ⟨entropy, rfl, ?_⟩
    by_cases hlength : Mnemonic.entropyLengths.contains entropy.length = true
    · obtain ⟨made, hmade, hphrase⟩ := makePhrase_of_length hentropy hlength
      rw [hmade] at h
      rwa [← Except.ok.inj h]
    · rw [makePhrase_of_not_length hentropy hlength] at h
      cases h

theorem contains_length_toUTF8 (seed : String) :
    Mnemonic.entropyLengths.contains seed.toUTF8.data.toList.length = true ↔
      seed.utf8ByteSize ∈ [16, 20, 24, 28, 32] := by
  rw [List.contains_iff_mem, ← Text.Utf8.encode_toList, Text.Utf8.length_encode,
    Mnemonic.entropyLengths]

/-- A seed is refused exactly if it has none of the five sizes; from every other seed, and from all
random octets, comes a phrase that stands for them; and from two entropies, be they seeds or random
octets, never comes the same phrase. -/
theorem makePhrase_faithful :
    (∀ (seed : String) (world : World),
      (∃ failure, ((makePhrase (some seed)).runOn world).1 = .error failure ∧
        failure.family = .invalidSeed) ↔ seed.utf8ByteSize ∉ [16, 20, 24, 28, 32]) ∧
    (∀ (seed : String) (world : World), seed.utf8ByteSize ∈ [16, 20, 24, 28, 32] →
      ∃ phrase, ((makePhrase (some seed)).runOn world).1 = .ok phrase ∧
        IsPhraseOf phrase seed.toUTF8.data.toList) ∧
    (∀ (world : World) (octets : List UInt8), world.randomness.head? = some octets →
      octets.length = 32 →
      ∃ phrase, ((makePhrase none).runOn world).1 = .ok phrase ∧ IsPhraseOf phrase octets) ∧
    (∀ (seed other : Option String) (world world' : World) (phrase : String),
      ((makePhrase seed).runOn world).1 = .ok phrase →
      ((makePhrase other).runOn world').1 = .ok phrase →
      nextEntropy seed world = nextEntropy other world') ∧
    ∀ (seed other : String) (world world' : World) (phrase : String),
      ((makePhrase (some seed)).runOn world).1 = .ok phrase →
      ((makePhrase (some other)).runOn world').1 = .ok phrase → seed = other := by
  have hdistinct : ∀ (seed other : Option String) (world world' : World) (phrase : String),
      ((makePhrase seed).runOn world).1 = .ok phrase →
      ((makePhrase other).runOn world').1 = .ok phrase →
      nextEntropy seed world = nextEntropy other world' := by
    intro seed other world world' phrase h h'
    obtain ⟨entropy, hentropy, hphrase⟩ := isPhraseOf_of_makePhrase h
    obtain ⟨entropy', hentropy', hphrase'⟩ := isPhraseOf_of_makePhrase h'
    rw [hentropy, hentropy', hphrase.unique hphrase']
  refine ⟨fun seed world => ⟨?_, fun hsize => ?_⟩, fun seed world hsize => ?_,
    fun world octets hnext hlength => ?_, hdistinct, fun seed other world world' phrase h h' => ?_⟩
  · rintro ⟨failure, hfailure, -⟩ hsize
    have hentropy : nextEntropy (some seed) world = some seed.toUTF8.data.toList := rfl
    obtain ⟨phrase, hphrase, -⟩ :=
      makePhrase_of_length hentropy ((contains_length_toUTF8 seed).2 hsize)
    rw [hphrase] at hfailure
    cases hfailure
  · have hlength := mt (contains_length_toUTF8 seed).1 hsize
    exact ⟨_, makePhrase_of_not_length rfl hlength, rfl⟩
  · exact makePhrase_of_length rfl ((contains_length_toUTF8 seed).2 hsize)
  · refine makePhrase_of_length hnext ?_
    rw [hlength]
    rfl
  · have hoctets := Option.some.inj (hdistinct (some seed) (some other) world world' phrase h h')
    rw [← Text.Utf8.encode_toList, ← Text.Utf8.encode_toList] at hoctets
    exact Text.Utf8.encode_toList_inj hoctets

/-- Eight letters of two octets each are a seed of 16, which gives a phrase of twelve words; 32 zeros give
one of 24. -/
theorem makePhrase_faithful_zeros :
    let seed := "éééééééé"
    let zeros := List.replicate 32 (0 : UInt8)
    let world := { World.bare with randomness := [zeros] }
    ∃ phrase random, ((makePhrase (some seed)).runOn world).1 = .ok phrase ∧
      ((makePhrase none).runOn world).1 = .ok random ∧ phrase ≠ random ∧
      (Text.words phrase.toList).length = 12 ∧ (Text.words random.toList).length = 24 := by
  intro seed zeros world
  obtain ⟨-, hseed, hrandom, hdistinct, -⟩ := makePhrase_faithful
  obtain ⟨phrase, hmade, hphrase⟩ := hseed seed world (by decide)
  obtain ⟨random, hmade', hphrase'⟩ := hrandom world zeros rfl rfl
  have hwords : seed.toUTF8.data.toList.length = 16 := by decide
  have hwords' : zeros.length = 32 := rfl
  refine ⟨phrase, random, hmade, hmade', ?_, ?_, ?_⟩
  · rintro rfl
    have hsame := hdistinct (some seed) none world world phrase hmade hmade'
    have hlengths := congrArg (Option.map List.length) hsame
    revert hlengths
    decide
  · have := hphrase.words
    omega
  · have := hphrase'.words
    omega

end NamedKeys
