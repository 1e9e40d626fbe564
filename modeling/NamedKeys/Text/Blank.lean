/-!
# White space, words and lines

Which characters are blank, the words of a text, a text without its outer blanks, and the words
joined again by single spaces; and one way of ending lines for all.  Main statements: a word is not
empty and holds no blank (`isWord_of_mem_words`), so splitting joined words gives them back
(`words_unwords`) and squeezing a text twice is squeezing it once (`squeeze_squeeze`).
-/

namespace NamedKeys.Text

/-- The white-space characters: the separators of Unicode and the controls that act as such. -/
def isBlank (c : Char) : Bool :=
  let n := c.toNat
  (0x09 ≤ n && n ≤ 0x0D) || (0x1C ≤ n && n ≤ 0x20) || n == 0x85 || n == 0xA0 || n == 0x1680 ||
    (0x2000 ≤ n && n ≤ 0x200A) || n == 0x2028 || n == 0x2029 || n == 0x202F || n == 0x205F ||
    n == 0x3000

/-- A letter before a text joins its first word, unless the text begins with a blank. -/
def consWord (c : Char) : List Char → List (List Char) → List (List Char)
  | d :: _, w :: ws => if isBlank d then [c] :: w :: ws else (c :: w) :: ws
  | _, ws => [c] :: ws

/-- The longest runs of characters that are not blank, in order. -/
def words : List Char → List (List Char)
  | [] => []
  | c :: cs => if isBlank c then words cs else consWord c cs (words cs)

def unwords : List (List Char) → List Char
  | [] => []
  | [w] => w
  | w :: ws => w ++ ' ' :: unwords ws

/-- The text without the blanks at its two ends. -/
def trim (cs : List Char) : List Char :=
  ((cs.dropWhile isBlank).reverse.dropWhile isBlank).reverse

def squeeze (text : String) : String :=
  String.ofList (unwords (words text.toList))

def strip (text : String) : String :=
  String.ofList (trim text.toList)

/-- Each carriage return, with a line feed after it or alone, ends a line as a line feed does. -/
def unifyLineEnds : List Char → List Char
  | [] => []
  | '\r' :: '\n' :: cs => '\n' :: unifyLineEnds cs
  | c :: cs => (if c = '\r' then '\n' else c) :: unifyLineEnds cs

/-! ## Words -/

def IsWord (w : List Char) : Prop :=
  w ≠ [] ∧ ∀ c ∈ w, isBlank c = false

theorem isWord_consWord {c : Char} (hc : isBlank c = false) (cs : List Char)
    {ws : List (List Char)} (hws : ∀ w ∈ ws, IsWord w) : ∀ w ∈ consWord c cs ws, IsWord w := by
  have single : IsWord [c] := ⟨by simp, by simpa using hc⟩
  intro w hw
  unfold consWord at hw
  split at hw
  · next v vs =>
    split at hw
    · rcases List.mem_cons.1 hw with rfl | hw
      · exact single
      · exact hws w hw
    · rcases List.mem_cons.1 hw with rfl | hw
      · exact ⟨by simp, by simpa [hc] using (hws v List.mem_cons_self).2⟩
      · exact hws w (List.mem_cons_of_mem _ hw)
  · rcases List.mem_cons.1 hw with rfl | hw
    · exact single
    · exact hws w hw

theorem isWord_of_mem_words {cs : List Char} : ∀ w ∈ words cs, IsWord w := by
  induction cs with
  | nil => simp [words]
  | cons c cs ih =>
    unfold words
    split
    · exact ih
    · next h => exact isWord_consWord (by simpa using h) cs ih

/-- A word that the end of the text or a blank follows is the first word. -/
theorem words_append {w t : List Char} (hw : IsWord w) (ht : ∀ d ∈ t.head?, isBlank d = true) :
    words (w ++ t) = w :: words t := by
  obtain ⟨hne, hw⟩ := hw
  induction w with
  | nil => exact absurd rfl hne
  | cons c w ih =>
    have hc : isBlank c = false := hw c List.mem_cons_self
    rw [List.cons_append, words, if_neg (by simp [hc])]
    cases w with
    | nil =>
      cases t with
      | nil => rfl
      | cons d t =>
        have hd : isBlank d = true := ht d rfl
        cases h : words (d :: t) <;> simp [consWord, h, hd]
    | cons d w =>
      rw [ih (by simp) fun x hx => hw x (List.mem_cons_of_mem _ hx)]
      have hd : isBlank d = false := hw d (by simp)
      simp [consWord, hd]

theorem words_unwords {ws : List (List Char)} (h : ∀ w ∈ ws, IsWord w) :
    words (unwords ws) = ws := by
  induction ws with
  | nil => rfl
  | cons w ws ih =>
    have hw := h w List.mem_cons_self
    cases ws with
    | nil => simpa [unwords, words] using words_append (t := []) hw (by simp)
    | cons v ws =>
      rw [unwords, words_append hw (by simp [isBlank]), words, if_pos (by decide),
        ih fun x hx => h x (List.mem_cons_of_mem _ hx)]
      simp

theorem squeeze_squeeze (text : String) : squeeze (squeeze text) = squeeze text := by
  simp [squeeze, words_unwords isWord_of_mem_words]

end NamedKeys.Text
