import NamedKeys.Mnemonic
import NamedKeys.Proofs.Mnemonic.WordList
import NamedKeys.Proofs.Text.Ascii
import NamedKeys.Proofs.Text.Words

/-!
# Phrases of entropy are phrases

The words of entropy are words of the list, and the entropy is read back from them:

    entropyLengths.contains entropy.length → entropyOf? (phraseOfEntropy entropy) = some entropy
                                                                     (entropyOf?_phraseOfEntropy)

So such a phrase passes the test for phrases, and squeezing it changes nothing.
-/

namespace NamedKeys.Mnemonic

open NamedKeys.Code

/-! ## The words of entropy -/

theorem IsLowerWord.isWord {w : List Char} (h : IsLowerWord w) : Text.IsWord w := by
  refine ⟨h.1, fun c hc => ?_⟩
  have ha : 97 ≤ c.toNat := UInt32.le_iff_toNat_le.1 (h.2 c hc).1
  have hz : c.toNat ≤ 122 := UInt32.le_iff_toNat_le.1 (h.2 c hc).2
  simp only [Text.isBlank, Bool.or_eq_false_iff, Bool.and_eq_false_iff, decide_eq_false_iff_not,
    beq_eq_false_iff_ne]
  omega

theorem toList_intercalate (ws : List String) :
    (" ".intercalate ws).toList = Text.unwords (ws.map String.toList) := by
  match ws with
  | [] => rfl
  | [w] => rw [String.intercalate_singleton]; rfl
  | w :: v :: ws =>
    rw [String.intercalate_cons_cons, String.toList_append, String.toList_append,
      toList_intercalate (v :: ws), List.append_assoc]
    rfl

/-- The bits that the words of entropy write. -/
def bitsOfEntropy (entropy : List UInt8) : List Bool :=
  bitsOfOctets entropy ++ checksumBits entropy

theorem length_of_mem {n : Nat} (h : entropyLengths.contains n = true) :
    ∃ k, n = 4 * k ∧ 4 ≤ k ∧ k ≤ 8 := by
  simp only [entropyLengths, List.contains_eq_mem, List.mem_cons, List.not_mem_nil, or_false,
    decide_eq_true_eq] at h
  exact ⟨n / 4, by omega⟩

theorem length_checksumBits {entropy : List UInt8} (h : entropy.length ≤ 32) :
    (checksumBits entropy).length = entropy.length / 4 := by
  rw [checksumBits, List.length_take, length_bitsOfOctets, Hash.Sha256.length_digest]
  omega

theorem length_wordsOfEntropy {entropy : List UInt8} {k : Nat} (hlength : entropy.length = 4 * k)
    (hk : k ≤ 8) : (wordsOfEntropy entropy).length = 3 * k := by
  obtain ⟨rest, hrest, heq⟩ := length_regroup 10 (bitsOfEntropy entropy)
  rw [bitsOfEntropy, List.length_append, length_bitsOfOctets, length_checksumBits (by omega),
    hlength] at heq
  rw [wordsOfEntropy, List.length_map]
  simp only [Nat.reduceAdd] at heq
  omega

theorem lt_of_mem_indices {entropy : List UInt8} :
    ∀ n ∈ regroup 11 (bitsOfEntropy entropy), n < 2048 :=
  lt_of_mem_regroup

theorem isLowerWord_of_mem_words {entropy : List UInt8} :
    ∀ w ∈ (wordsOfEntropy entropy).map String.toList, IsLowerWord w := by
  intro w hw
  simp only [wordsOfEntropy, List.map_map, List.mem_map, Function.comp_apply] at hw
  obtain ⟨n, hn, rfl⟩ := hw
  exact isLowerWord_wordAt (lt_of_mem_indices n hn)

/-! ## Phrases -/

theorem toList_phraseOfEntropy (entropy : List UInt8) :
    (phraseOfEntropy entropy).toList =
      Text.unwords ((wordsOfEntropy entropy).map String.toList) :=
  toList_intercalate _

theorem squeeze_phraseOfEntropy (entropy : List UInt8) :
    Text.squeeze (phraseOfEntropy entropy) = phraseOfEntropy entropy := by
  rw [Text.squeeze, toList_phraseOfEntropy,
    Text.words_unwords fun w hw => (isLowerWord_of_mem_words w hw).isWord, ← toList_phraseOfEntropy,
    String.ofList_toList]

theorem char_of_phraseOfEntropy {entropy : List UInt8} :
    ∀ c ∈ (phraseOfEntropy entropy).toList, c = ' ' ∨ 'a' ≤ c ∧ c ≤ 'z' := by
  intro c hc
  rw [toList_phraseOfEntropy] at hc
  rcases Text.mem_unwords hc with rfl | ⟨w, hw, hc⟩
  · exact .inl rfl
  · exact .inr ((isLowerWord_of_mem_words w hw).2 c hc)

theorem isAscii_phraseOfEntropy (entropy : List UInt8) :
    Text.IsAscii (phraseOfEntropy entropy).toList := by
  intro c hc
  rcases char_of_phraseOfEntropy c hc with rfl | ⟨-, hz⟩
  · decide
  · have : c.toNat ≤ 122 := UInt32.le_iff_toNat_le.1 hz
    omega

theorem canonical_phraseOfEntropy (entropy : List UInt8) :
    canonical (phraseOfEntropy entropy) =
      Text.unwords ((wordsOfEntropy entropy).map String.toList) := by
  rw [canonical, Text.Compatibility.decompose_eq_self (isAscii_phraseOfEntropy entropy),
    toList_phraseOfEntropy]

theorem wordsOf_phraseOfEntropy {entropy : List UInt8} (hne : wordsOfEntropy entropy ≠ []) :
    wordsOf (canonical (phraseOfEntropy entropy)) = wordsOfEntropy entropy := by
  have hspace : ∀ w ∈ (wordsOfEntropy entropy).map String.toList, ' ' ∉ w := by
    intro w hw hmem
    have := (isLowerWord_of_mem_words w hw).isWord.2 ' ' hmem
    cases this
  rw [wordsOf, canonical_phraseOfEntropy, Text.splitOn_unwords (by simpa using hne) hspace,
    List.map_map]
  simp [Function.comp_def, String.ofList_toList]

/-- The entropy is read back from its words. -/
theorem entropyOfWords?_wordsOfEntropy {entropy : List UInt8}
    (h : entropyLengths.contains entropy.length = true) :
    entropyOfWords? (wordsOfEntropy entropy) = some entropy := by
  obtain ⟨k, hk, hleast, hgreatest⟩ := length_of_mem h
  have hcount := length_wordsOfEntropy hk hgreatest
  have hsuitable : [12, 15, 18, 21, 24].contains (3 * k) = true := by
    simp only [List.contains_eq_mem, List.mem_cons, List.not_mem_nil, or_false, decide_eq_true_eq]
    omega
  have hindices : (wordsOfEntropy entropy).mapM wordIndex? =
      some (regroup 11 (bitsOfEntropy entropy)) := by
    rw [wordsOfEntropy]
    exact mapM_map_some fun n hn => wordIndex?_wordAt (lt_of_mem_indices n hn)
  -- eleven bits for each word leave no zeros to fill the last one
  obtain ⟨rest, hrest, hdvd, heq⟩ := flatMap_regroup 10 (bitsOfEntropy entropy)
  have hlength : (bitsOfEntropy entropy).length = 33 * k := by
    rw [bitsOfEntropy, List.length_append, length_bitsOfOctets, length_checksumBits (by omega)]
    omega
  obtain rfl : rest = 0 := by
    rw [hlength] at hdvd
    omega
  rw [List.replicate_zero, List.append_nil] at heq
  have hcut : 3 * k / 3 * 32 = (bitsOfOctets entropy).length := by
    rw [length_bitsOfOctets]
    omega
  unfold entropyOfWords?
  simp only [hcount, hsuitable, hindices, not_true_eq_false, if_false, Option.bind_eq_bind,
    Option.bind_some, heq, hcut]
  rw [bitsOfEntropy, List.take_left, List.drop_left, octetsOfBits_bitsOfOctets, if_pos rfl]

theorem entropyOf?_phraseOfEntropy {entropy : List UInt8}
    (h : entropyLengths.contains entropy.length = true) :
    entropyOf? (phraseOfEntropy entropy) = some entropy := by
  obtain ⟨k, hk, hleast, hgreatest⟩ := length_of_mem h
  have hne : wordsOfEntropy entropy ≠ [] := by
    have := length_wordsOfEntropy hk hgreatest
    exact List.ne_nil_of_length_pos (by omega)
  rw [entropyOf?, wordsOf_phraseOfEntropy hne, entropyOfWords?_wordsOfEntropy h]

theorem isPhrase_phraseOfEntropy {entropy : List UInt8}
    (h : entropyLengths.contains entropy.length = true) :
    isPhrase (phraseOfEntropy entropy) = true := by
  rw [isPhrase, squeeze_phraseOfEntropy, entropyOf?_phraseOfEntropy h]
  rfl

theorem isPhrase_squeeze (text : String) : isPhrase (Text.squeeze text) = isPhrase text := by
  rw [isPhrase, Text.squeeze_squeeze, isPhrase]

end NamedKeys.Mnemonic
