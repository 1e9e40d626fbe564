import Mathlib.Data.List.Nodup
import NamedKeys.Mnemonic.WordList

/-!
# The words of the list

There are 2048 of them, all of small letters (`isLowerWord_wordAt`), and no two places hold the same word,
so that a place is found again by its word (`wordIndex?_wordAt`) and a word by its place
(`wordAt_of_wordIndex?`).  The list is read once, word by word as octets.
-/

namespace NamedKeys.Mnemonic

def letters (word : String) : List Char :=
  word.toByteArray.data.toList.map fun b => Char.ofNat b.toNat

/-- A word as a number in base 256; shorter words are filled up, so that numbers are in the order of
the words. -/
def rank (word : String) : Nat :=
  let octets := word.toByteArray.data.toList
  (octets ++ List.replicate (8 - octets.length) 0).foldl (fun n (b : UInt8) => 256 * n + b.toNat) 0

/-- Whether a word is written in small letters of one octet each. -/
def isPlainWord (word : String) : Bool :=
  String.ofList (letters word) == word && letters word ≠ [] &&
    (letters word).all fun c => 'a' ≤ c && c ≤ 'z'

def ascend (least : Nat) : List Nat → Bool
  | [] => true
  | n :: ns => least < n && ascend n ns

set_option maxRecDepth 8192 in
theorem length_wordList : wordList.length = 2048 := by
  decide +kernel

set_option maxRecDepth 8192 in
theorem isPlainWord_wordList : wordList.all isPlainWord = true := by
  decide +kernel

set_option maxRecDepth 8192 in
theorem ascend_wordList : ascend 0 (wordList.map rank) = true := by
  decide +kernel

theorem pairwise_of_ascend {least : Nat} {ns : List Nat} (h : ascend least ns = true) :
    (least :: ns).Pairwise (· < ·) := by
  induction ns generalizing least with
  | nil => exact List.pairwise_singleton _ _
  | cons n ns ih =>
    rw [ascend, Bool.and_eq_true, decide_eq_true_eq] at h
    have htail := ih h.2
    refine List.pairwise_cons.2 ⟨fun m hm => ?_, htail⟩
    rcases List.mem_cons.1 hm with rfl | hm
    · exact h.1
    · exact Nat.lt_trans h.1 (List.rel_of_pairwise_cons htail hm)

theorem nodup_wordList : wordList.Nodup := by
  have hpairwise := (List.pairwise_cons.1 (pairwise_of_ascend ascend_wordList)).2
  have hnodup : (wordList.map rank).Nodup := hpairwise.imp fun h => Nat.ne_of_lt h
  exact hnodup.of_map

def IsLowerWord (w : List Char) : Prop :=
  w ≠ [] ∧ ∀ c ∈ w, 'a' ≤ c ∧ c ≤ 'z'

theorem isLowerWord_of_mem {word : String} (h : word ∈ wordList) : IsLowerWord word.toList := by
  have hplain := List.all_eq_true.1 isPlainWord_wordList word h
  simp only [isPlainWord, Bool.and_eq_true, beq_iff_eq, ne_eq, decide_not, Bool.not_eq_true',
    decide_eq_false_iff_not, List.all_eq_true, decide_eq_true_eq] at hplain
  obtain ⟨⟨heq, hne⟩, hchars⟩ := hplain
  have hletters : word.toList = letters word := by
    rw [← congrArg String.toList heq, String.toList_ofList]
  rw [hletters]
  exact ⟨hne, hchars⟩

theorem wordAt_eq {n : Nat} (h : n < wordList.length) : wordAt n = wordList[n] := by
  unfold wordAt
  rw [List.getD_eq_getElem?_getD, List.getElem?_eq_getElem h, Option.getD_some]

theorem isLowerWord_wordAt {n : Nat} (h : n < 2048) : IsLowerWord (wordAt n).toList := by
  have hlength : n < wordList.length := by
    rw [length_wordList]
    exact h
  rw [wordAt_eq hlength]
  exact isLowerWord_of_mem (List.getElem_mem hlength)

/-- The place of the word of a place. -/
theorem wordIndex?_wordAt {n : Nat} (h : n < 2048) : wordIndex? (wordAt n) = some n := by
  have hlength : n < wordList.length := by
    rw [length_wordList]
    exact h
  unfold wordIndex? List.idxOf?
  rw [wordAt_eq hlength, List.findIdx?_eq_some_iff_getElem]
  refine ⟨hlength, by simp, fun j hj => ?_⟩
  rw [beq_iff_eq, nodup_wordList.getElem_inj_iff]
  omega

/-- The word at the place of a word. -/
theorem wordAt_of_wordIndex? {word : String} {n : Nat} (h : wordIndex? word = some n) :
    n < 2048 ∧ wordAt n = word := by
  unfold wordIndex? List.idxOf? at h
  rw [List.findIdx?_eq_some_iff_getElem] at h
  obtain ⟨hlength, heq, -⟩ := h
  rw [wordAt_eq hlength]
  exact ⟨length_wordList ▸ hlength, beq_iff_eq.1 heq⟩

end NamedKeys.Mnemonic
