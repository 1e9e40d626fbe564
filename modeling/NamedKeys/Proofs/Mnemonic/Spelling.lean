import NamedKeys.Proofs.Mnemonic.Phrase

/-!
# Phrases are the spellings of entropy

The test for phrases accepts exactly the texts whose decomposed form is the phrase of some entropy:

    entropyOf? phrase = some entropy ↔ Spells phrase entropy        (entropyOf?_eq_some_iff)

All characters of the decomposed form are small letters and spaces, so that a phrase begins with no other
text of ASCII (`Spells.chars_of_isPrefix`, `small_of_isPhrase`).
-/

namespace NamedKeys.Mnemonic

open NamedKeys.Code

/-- A text spells the phrase of entropy, in any variant of its letters. -/
structure Spells (phrase : String) (entropy : List UInt8) : Prop where
  length : entropyLengths.contains entropy.length = true
  canonical_eq : canonical phrase = (phraseOfEntropy entropy).toList

/-! ## Reading entropy -/

/-- Words from which entropy is read stand at `3 * k` places of the list, whose bits are cut into the
entropy and its check sum. -/
theorem exists_indices_of_entropyOfWords? {words : List String} {entropy : List UInt8}
    (h : entropyOfWords? words = some entropy) :
    ∃ (k : Nat) (indices : List Nat), 4 ≤ k ∧ k ≤ 8 ∧ indices.length = 3 * k ∧
      (∀ n ∈ indices, n < 2048) ∧
      indices.map wordAt = words ∧
      octetsOfBits ((indices.flatMap (bitsOf 11)).take (32 * k)) = entropy ∧
      (indices.flatMap (bitsOf 11)).drop (32 * k) = checksumBits entropy := by
  unfold entropyOfWords? at h
  dsimp only at h
  split at h
  · cases h
  · next hcount =>
    rw [Option.bind_eq_bind, Option.bind_eq_some_iff] at h
    obtain ⟨indices, hindices, h⟩ := h
    split at h
    · next hchecksum =>
      obtain rfl := Option.some.inj h
      obtain ⟨hlt, hwords⟩ := map_of_mapM (fun _ _ => wordAt_of_wordIndex?) hindices
      have hlength : indices.length = words.length := by rw [← hwords, List.length_map]
      obtain ⟨k, hk, hleast, hgreatest⟩ : ∃ k, words.length = 3 * k ∧ 4 ≤ k ∧ k ≤ 8 := by
        simp only [List.contains_eq_mem, List.mem_cons, List.not_mem_nil, or_false,
          decide_eq_true_eq, not_not] at hcount
        exact ⟨words.length / 3, by omega⟩
      have hcut : words.length / 3 * 32 = 32 * k := by omega
      rw [hcut] at hchecksum ⊢
      exact ⟨k, indices, hleast, hgreatest, hlength.trans hk, hlt, hwords, rfl, hchecksum⟩
    · cases h

/-- Words from which entropy is read are the words of that entropy. -/
theorem wordsOfEntropy_of_entropyOfWords? {words : List String} {entropy : List UInt8}
    (h : entropyOfWords? words = some entropy) :
    entropyLengths.contains entropy.length = true ∧ wordsOfEntropy entropy = words := by
  obtain ⟨k, indices, hleast, hgreatest, hlength, hlt, hwords, hoctets, hchecksum⟩ :=
    exists_indices_of_entropyOfWords? h
  generalize hbits : indices.flatMap (bitsOf 11) = bits at hoctets hchecksum
  have htake : (bits.take (32 * k)).length = 8 * (4 * k) := by
    rw [List.length_take, ← hbits, length_flatMap_bitsOf]
    omega
  -- the bits before the check sum fill whole octets
  have hentropy : bitsOfOctets entropy = bits.take (32 * k) := by
    rw [← hoctets]
    exact bitsOfOctets_octetsOfBits (htake ▸ Nat.dvd_mul_right 8 (4 * k))
  constructor
  · have := length_bitsOfOctets entropy
    rw [hentropy, htake] at this
    simp only [entropyLengths, List.contains_eq_mem, List.mem_cons, List.not_mem_nil, or_false,
      decide_eq_true_eq]
    omega
  · rw [wordsOfEntropy, hentropy, ← hchecksum, List.take_append_drop, ← hbits, regroup_flatMap hlt,
      hwords]

/-- Entropy is read from exactly the texts that spell its phrase. -/
theorem entropyOf?_eq_some_iff {phrase : String} {entropy : List UInt8} :
    entropyOf? phrase = some entropy ↔ Spells phrase entropy := by
  constructor
  · intro h
    obtain ⟨hlength, hwords⟩ := wordsOfEntropy_of_entropyOfWords? h
    refine ⟨hlength, ?_⟩
    rw [toList_phraseOfEntropy, hwords, wordsOf, List.map_map]
    simp [Function.comp_def, Text.unwords_splitOn]
  · rintro ⟨hlength, hcanonical⟩
    have hcanonical' : canonical phrase = canonical (phraseOfEntropy entropy) := by
      rw [canonical_phraseOfEntropy, hcanonical, toList_phraseOfEntropy]
    rw [entropyOf?, hcanonical']
    exact entropyOf?_phraseOfEntropy hlength

theorem isPhrase_iff {text : String} :
    isPhrase text = true ↔ ∃ entropy, Spells (Text.squeeze text) entropy := by
  rw [isPhrase, Option.isSome_iff_exists]
  exact exists_congr fun _ => entropyOf?_eq_some_iff

/-! ## Characters of phrases -/

/-- Text of ASCII that begins a spelling is of small letters and spaces. -/
theorem Spells.chars_of_isPrefix {phrase : String} {entropy : List UInt8}
    (h : Spells phrase entropy) {front : List Char} (hascii : Text.IsAscii front)
    (hfront : front <+: phrase.toList) : ∀ c ∈ front, c = ' ' ∨ 'a' ≤ c ∧ c ≤ 'z' := by
  obtain ⟨rest, hrest⟩ := hfront
  intro c hc
  refine char_of_phraseOfEntropy c (?_ : c ∈ (phraseOfEntropy entropy).toList)
  rw [← h.canonical_eq, canonical, ← hrest, Text.Compatibility.decompose_append hascii]
  exact List.mem_append_left _ hc

/-- What stands without blanks at the beginning of a phrase is of small letters. -/
theorem small_of_isPhrase {text : String} (h : isPhrase text = true) {front : List Char}
    (hword : Text.IsWord front) (hascii : Text.IsAscii front) (hfront : front <+: text.toList) :
    ∀ c ∈ front, 'a' ≤ c ∧ c ≤ 'z' := by
  obtain ⟨entropy, hspells⟩ := isPhrase_iff.1 h
  have hsqueezed : front <+: (Text.squeeze text).toList := by
    rw [Text.squeeze, String.toList_ofList]
    exact Text.isPrefix_squeezed hword.1 hword.2 hfront
  intro c hc
  rcases hspells.chars_of_isPrefix hascii hsqueezed c hc with rfl | hsmall
  · have := hword.2 ' ' hc
    cases this
  · exact hsmall

end NamedKeys.Mnemonic
