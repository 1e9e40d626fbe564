import Mathlib.Data.List.TakeWhile
import Mathlib.Tactic.ByContra
import NamedKeys.Text.Blank
import NamedKeys.Text.Split

/-!
# Trimmed texts and their words

A text with no blank at its ends is one that trimming does not change (`IsTrimmed`, `trim_eq_self`),
and joined words are such a text.  Trimming leaves the one such text that blanks stand around
(`trims_iff`).  The blanks at the ends of a text do not count for its words
(`words_trim`), and what it begins with before the first blank begins its joined words too
(`isPrefix_squeezed`).  Cutting a text at a character undoes joining by it (`splitOn_unwords`,
`cut_append`).
-/

namespace NamedKeys.Text

/-! ## Trimming -/

structure IsTrimmed (cs : List Char) : Prop where
  head : ∀ c ∈ cs.head?, isBlank c = false
  last : ∀ c ∈ cs.getLast?, isBlank c = false

theorem dropWhile_eq_self {p : Char → Bool} {cs : List Char} (h : ∀ c ∈ cs.head?, p c = false) :
    cs.dropWhile p = cs := by
  cases cs with
  | nil => rfl
  | cons c cs => rw [List.dropWhile_cons_of_neg (by simpa using h c rfl)]

/-- A text is another one with blanks around, which has none at its ends. -/
structure Trims (cs core : List Char) : Prop where
  isTrimmed : IsTrimmed core
  around : ∃ front back, cs = front ++ core ++ back ∧ (∀ c ∈ front, isBlank c = true) ∧
    ∀ c ∈ back, isBlank c = true

theorem trim_append {front core back : List Char} (h : IsTrimmed core)
    (hfront : ∀ c ∈ front, isBlank c = true) (hback : ∀ c ∈ back, isBlank c = true) :
    trim (front ++ core ++ back) = core := by
  have hreverse : ∀ c ∈ back.reverse, isBlank c = true := fun c hc => hback c (List.mem_reverse.1 hc)
  rw [trim, List.append_assoc, List.dropWhile_append_of_pos hfront]
  cases core with
  | nil => rw [List.nil_append, List.dropWhile_eq_nil_iff.2 hback, List.reverse_nil, List.dropWhile_nil,
      List.reverse_nil]
  | cons c core =>
    have hlast : ∀ d ∈ (c :: core).reverse.head?, isBlank d = false := by
      rw [List.head?_reverse]
      exact h.last
    rw [List.cons_append, List.dropWhile_cons_of_neg (by simp [h.head c rfl]), ← List.cons_append,
      List.reverse_append, List.dropWhile_append_of_pos hreverse, dropWhile_eq_self hlast,
      List.reverse_reverse]

theorem trim_eq_self {cs : List Char} (h : IsTrimmed cs) : trim cs = cs := by
  simpa using trim_append h (List.forall_mem_nil _) (List.forall_mem_nil _)

theorem head?_dropWhile_not {p : Char → Bool} (cs : List Char) :
    ∀ c ∈ (cs.dropWhile p).head?, p c = false := by
  induction cs with
  | nil => simp
  | cons c cs ih =>
    cases hc : p c with
    | true => rwa [List.dropWhile_cons_of_pos hc]
    | false =>
      rw [List.dropWhile_cons_of_neg (by simp [hc])]
      intro d hd
      obtain rfl : c = d := Option.some.inj hd
      exact hc

theorem isTrimmed_trim (cs : List Char) : IsTrimmed (trim cs) := by
  constructor
  · -- the reversed text is a beginning of the one whose head is no blank
    unfold trim
    have hsuffix := (List.dropWhile_suffix isBlank (l := (cs.dropWhile isBlank).reverse)).reverse
    rw [List.reverse_reverse] at hsuffix
    obtain ⟨rest, hrest⟩ := hsuffix
    intro c hc
    apply head?_dropWhile_not cs
    rw [← hrest, Option.mem_def, List.head?_append, Option.mem_def.1 hc]
    rfl
  · unfold trim
    intro c hc
    rw [List.getLast?_reverse] at hc
    exact head?_dropWhile_not _ c hc

/-- Trimming leaves the one text that blanks stand around. -/
theorem trims_iff {cs core : List Char} : Trims cs core ↔ trim cs = core := by
  constructor
  · rintro ⟨hcore, front, back, rfl, hfront, hback⟩
    exact trim_append hcore hfront hback
  · rintro rfl
    refine ⟨isTrimmed_trim cs, cs.takeWhile isBlank,
      ((cs.dropWhile isBlank).reverse.takeWhile isBlank).reverse, ?_,
      fun c hc => List.mem_takeWhile_imp hc,
      fun c hc => List.mem_takeWhile_imp (List.mem_reverse.1 hc)⟩
    rw [trim, List.append_assoc, ← List.reverse_append, List.takeWhile_append_dropWhile,
      List.reverse_reverse, List.takeWhile_append_dropWhile]

theorem trim_append_blank {cs : List Char} {c : Char} (h : IsTrimmed cs) (hc : isBlank c = true) :
    trim (cs ++ [c]) = trim cs := by
  have hback : ∀ d ∈ [c], isBlank d = true := by simpa using hc
  rw [trim_eq_self h]
  exact trim_append h (List.forall_mem_nil _) hback

theorem isTrimmed_of_no_blank {cs : List Char} (h : ∀ c ∈ cs, isBlank c = false) : IsTrimmed cs :=
  ⟨fun c hc => h c (List.mem_of_mem_head? hc), fun c hc => h c (List.mem_of_mem_getLast? hc)⟩

theorem strip_of_isTrimmed {text : String} (h : IsTrimmed text.toList) : strip text = text := by
  rw [strip, trim_eq_self h, String.ofList_toList]

theorem isTrimmed_strip (text : String) : IsTrimmed (strip text).toList := by
  rw [strip, String.toList_ofList]
  exact isTrimmed_trim _

/-! ## Joined words -/

theorem unwords_cons_cons (w v : List Char) (ws : List (List Char)) :
    unwords (w :: v :: ws) = w ++ ' ' :: unwords (v :: ws) := rfl

theorem exists_unwords_cons (w : List Char) (ws : List (List Char)) :
    ∃ rest, unwords (w :: ws) = w ++ rest ∧ ∀ c ∈ rest.head?, c = ' ' := by
  cases ws with
  | nil => exact ⟨[], by simp [unwords], by simp⟩
  | cons v ws => exact ⟨' ' :: unwords (v :: ws), rfl, by simp⟩

theorem mem_unwords {ws : List (List Char)} {c : Char} (h : c ∈ unwords ws) :
    c = ' ' ∨ ∃ w ∈ ws, c ∈ w := by
  induction ws with
  | nil => cases h
  | cons w ws ih =>
    cases ws with
    | nil => exact .inr ⟨w, List.mem_cons_self, h⟩
    | cons v ws =>
      rw [unwords_cons_cons, List.mem_append, List.mem_cons] at h
      rcases h with h | rfl | h
      · exact .inr ⟨w, List.mem_cons_self, h⟩
      · exact .inl rfl
      · rcases ih h with rfl | ⟨x, hx, hc⟩
        · exact .inl rfl
        · exact .inr ⟨x, List.mem_cons_of_mem _ hx, hc⟩

theorem getLast?_unwords (ws : List (List Char)) (h : ∀ w ∈ ws, w ≠ []) :
    (unwords ws).getLast? = ws.getLast?.bind List.getLast? := by
  induction ws with
  | nil => rfl
  | cons w ws ih =>
    cases ws with
    | nil => rfl
    | cons v ws =>
      have htail := ih fun x hx => h x (List.mem_cons_of_mem _ hx)
      have hne : unwords (v :: ws) ≠ [] := by
        obtain ⟨rest, hrest, -⟩ := exists_unwords_cons v ws
        rw [hrest]
        exact fun h0 => h v (by simp) (List.append_eq_nil_iff.1 h0).1
      rw [unwords_cons_cons, List.getLast?_append, List.getLast?_cons_of_ne_nil hne, htail,
        List.getLast?_cons_cons, ← htail, List.getLast?_eq_some_getLast hne, Option.some_or]

theorem isTrimmed_unwords {ws : List (List Char)} (h : ∀ w ∈ ws, IsWord w) :
    IsTrimmed (unwords ws) := by
  cases ws with
  | nil => exact ⟨by simp [unwords], by simp [unwords]⟩
  | cons w ws =>
    obtain ⟨rest, hrest, -⟩ := exists_unwords_cons w ws
    have hw := h w List.mem_cons_self
    constructor
    · intro c hc
      obtain ⟨d, w', rfl⟩ := List.exists_cons_of_ne_nil hw.1
      rw [hrest] at hc
      obtain rfl : d = c := Option.some.inj hc
      exact hw.2 d List.mem_cons_self
    · intro c hc
      rw [getLast?_unwords _ fun x hx => (h x hx).1, Option.mem_def, Option.bind_eq_some_iff] at hc
      obtain ⟨v, hv, hc⟩ := hc
      exact (h v (List.mem_of_getLast? hv)).2 c (List.mem_of_getLast? hc)

theorem isTrimmed_squeeze (text : String) : IsTrimmed (squeeze text).toList := by
  rw [squeeze, String.toList_ofList]
  exact isTrimmed_unwords isWord_of_mem_words

theorem words_eq_nil_iff {cs : List Char} : words cs = [] ↔ ∀ c ∈ cs, isBlank c = true := by
  induction cs with
  | nil => simp [words]
  | cons c cs ih =>
    rw [words]
    cases hc : isBlank c with
    | true => simp [hc, ih]
    | false =>
      simp only [Bool.false_eq_true, if_false, List.forall_mem_cons, hc, false_and, iff_false]
      unfold consWord
      split
      · split <;> simp
      · simp

/-- A text that begins with no blank begins with its first word. -/
theorem words_of_head {cs : List Char} (hne : cs ≠ []) (h : ∀ c ∈ cs.head?, isBlank c = false) :
    words cs = cs.takeWhile (!isBlank ·) :: words (cs.dropWhile (!isBlank ·)) := by
  have hword : IsWord (cs.takeWhile (!isBlank ·)) := by
    refine ⟨?_, fun c hc => by simpa using List.mem_takeWhile_imp hc⟩
    obtain ⟨c, cs, rfl⟩ := List.exists_cons_of_ne_nil hne
    rw [List.takeWhile_cons_of_pos (by simpa using h c rfl)]
    exact List.cons_ne_nil _ _
  have hrest : ∀ d ∈ (cs.dropWhile (!isBlank ·)).head?, isBlank d = true :=
    fun d hd => by simpa using head?_dropWhile_not cs d hd
  rw [← words_append hword hrest, List.takeWhile_append_dropWhile]

/-- A beginning without blanks of a text begins its joined words. -/
theorem isPrefix_squeezed {mark cs : List Char} (hne : mark ≠ [])
    (hmark : ∀ c ∈ mark, isBlank c = false) (h : mark <+: cs) : mark <+: unwords (words cs) := by
  obtain ⟨c, mark', rfl⟩ := List.exists_cons_of_ne_nil hne
  obtain ⟨tail, rfl⟩ := h
  have hhead : ∀ d ∈ ((c :: mark') ++ tail).head?, isBlank d = false := by
    rintro d ⟨⟩
    exact hmark c List.mem_cons_self
  obtain ⟨rest, hrest, -⟩ := exists_unwords_cons
    (((c :: mark') ++ tail).takeWhile (!isBlank ·)) (words (((c :: mark') ++ tail).dropWhile (!isBlank ·)))
  rw [words_of_head (by simp) hhead, hrest,
    List.takeWhile_append_of_pos fun d hd => by simp [hmark d hd], List.append_assoc]
  exact List.prefix_append _ _

/-! ## Words of trimmed texts -/

theorem words_dropWhile_isBlank (cs : List Char) : words (cs.dropWhile isBlank) = words cs := by
  induction cs with
  | nil => rfl
  | cons c cs ih =>
    cases hc : isBlank c with
    | true => rw [List.dropWhile_cons_of_pos hc, ih, words, if_pos hc]
    | false => rw [List.dropWhile_cons_of_neg (by simp [hc])]

/-- Blanks at the end add no word. -/
theorem words_append_blanks (cs : List Char) {blanks : List Char}
    (h : ∀ c ∈ blanks, isBlank c = true) : words (cs ++ blanks) = words cs := by
  induction cs with
  | nil => exact words_eq_nil_iff.2 h
  | cons c cs ih =>
    rw [List.cons_append, words, words, ih]
    -- what is joined to the words depends on the next character alone
    have hjoin : consWord c (cs ++ blanks) (words cs) = consWord c cs (words cs) := by
      cases cs with
      | nil => cases blanks <;> rfl
      | cons d cs => cases words (d :: cs) <;> rfl
    rw [hjoin]

theorem words_trim (cs : List Char) : words (trim cs) = words cs := by
  obtain ⟨-, front, back, hcs, hfront, hback⟩ := trims_iff.2 (rfl : trim cs = trim cs)
  have hdrop : (trim cs ++ back).dropWhile isBlank = cs.dropWhile isBlank := by
    conv_rhs => rw [hcs, List.append_assoc, List.dropWhile_append_of_pos hfront]
  rw [← words_append_blanks _ hback, ← words_dropWhile_isBlank, hdrop, words_dropWhile_isBlank]

/-- The words of a text are those of the text without the blanks at its ends. -/
theorem squeeze_strip (text : String) : squeeze (strip text) = squeeze text := by
  rw [squeeze, strip, String.toList_ofList, words_trim, squeeze]

/-! ## Splitting at a character -/

theorem splitOn_of_not_mem {separator : Char} {cs : List Char} (h : separator ∉ cs) :
    splitOn separator cs = [cs] := by
  induction cs with
  | nil => rfl
  | cons c cs ih =>
    rw [List.mem_cons, not_or] at h
    rw [splitOn, if_neg (Ne.symm h.1), ih h.2]

theorem splitOn_ne_nil (separator : Char) (cs : List Char) : splitOn separator cs ≠ [] := by
  cases cs with
  | nil => exact List.cons_ne_nil _ _
  | cons c cs =>
    rw [splitOn]
    split
    · exact List.cons_ne_nil _ _
    · split <;> exact List.cons_ne_nil _ _

/-- The parts between the spaces, joined by spaces, are the text again. -/
theorem unwords_splitOn (cs : List Char) : unwords (splitOn ' ' cs) = cs := by
  induction cs with
  | nil => rfl
  | cons c cs ih =>
    obtain ⟨part, parts, hparts⟩ := List.exists_cons_of_ne_nil (splitOn_ne_nil ' ' cs)
    rw [splitOn]
    split
    · next hc => rw [hparts, unwords_cons_cons, ← hparts, ih, hc, List.nil_append]
    · rw [hparts]
      rw [hparts] at ih
      rw [← ih]
      cases parts <;> rfl

theorem splitOn_append {separator : Char} {w cs : List Char} (h : separator ∉ w) :
    splitOn separator (w ++ separator :: cs) = w :: splitOn separator cs := by
  induction w with
  | nil => rw [List.nil_append, splitOn, if_pos rfl]
  | cons c w ih =>
    rw [List.mem_cons, not_or] at h
    rw [List.cons_append, splitOn, if_neg (Ne.symm h.1), ih h.2]

theorem cut_append {separator : Char} {front : List Char} (h : separator ∉ front) (rest : List Char) :
    cut separator (front ++ separator :: rest) = (front, some rest) := by
  have hne : ∀ c ∈ front, decide (c ≠ separator) = true := by
    intro c hc
    rw [decide_eq_true_eq]
    rintro rfl
    exact h hc
  unfold cut
  rw [List.dropWhile_append_of_pos hne, List.takeWhile_append_of_pos hne, List.dropWhile_cons_of_neg,
    List.takeWhile_cons_of_neg]
  · rw [List.append_nil]
  · simp
  · simp

theorem cut_of_not_mem {separator : Char} {cs : List Char} (h : separator ∉ cs) :
    cut separator cs = (cs, none) := by
  have hnone : cs.dropWhile (· ≠ separator) = [] := by
    rw [List.dropWhile_eq_nil_iff]
    intro c hc
    rw [decide_eq_true_eq]
    rintro rfl
    exact h hc
  rw [cut, hnone]

/-- Words joined by single spaces are found between the spaces. -/
theorem splitOn_unwords {ws : List (List Char)} (hne : ws ≠ []) (h : ∀ w ∈ ws, ' ' ∉ w) :
    splitOn ' ' (unwords ws) = ws := by
  induction ws with
  | nil => exact absurd rfl hne
  | cons w ws ih =>
    have hw := h w List.mem_cons_self
    cases ws with
    | nil => exact splitOn_of_not_mem hw
    | cons v ws =>
      rw [unwords_cons_cons, splitOn_append hw,
        ih (List.cons_ne_nil _ _) fun x hx => h x (List.mem_cons_of_mem _ hx)]

end NamedKeys.Text
