import Mathlib.Data.List.Basic
import Mathlib.Data.List.TakeWhile
import NamedKeys.Proofs.Yaml.Quoted

/-!
# Plain scalars are read back

A text that may be written plain is read to its last character, however it is folded, and the reader
then stands at the end of the document:

    isPlainText cs → here.rest = writeFolded false column none cs ++ ['\n'] →
      ∃ last, plainScalar false 1 fuel here = (cs, last, true) ∧ last.rest = []    (plainScalar_writeFolded)

The text is taken word by word, as the reader takes it; the writer leaves words as they are and
changes a single space between two of them at most to the end of a line.
-/

namespace NamedKeys.Yaml

/-! ## Columns -/

namespace Cursor

theorem column_advance {here : Cursor} {c : Char} {cs : List Char} (hrest : here.rest = c :: cs)
    (hb : isBreak c = false) (hm : c ≠ '\uFEFF') : here.advance.column = here.column + 1 := by
  unfold advance
  rw [hrest]
  simp [hb, hm]

theorem column_advance_feed {here : Cursor} {cs : List Char} (hrest : here.rest = '\n' :: cs) :
    here.advance.column = 0 := by
  unfold advance
  rw [hrest]
  rfl

theorem column_skip_spaces {here : Cursor} {n : Nat} {cs : List Char}
    (hrest : here.rest = List.replicate n ' ' ++ cs) : (here.skip n).column = here.column + n := by
  induction n generalizing here with
  | zero => rfl
  | succ n ih =>
    rw [List.replicate_succ, List.cons_append] at hrest
    rw [skip, ih (rest_advance_of hrest), column_advance hrest rfl (by decide)]
    omega

end Cursor

/-! ## Words and spaces as they are written -/

theorem writeFolded_word {w : List Char} (hw : ∀ c ∈ w, c ≠ ' ' ∧ c ≠ '\n') (t : List Char)
    (column : Nat) (before : Option Char) :
    ∃ column' before', writeFolded false column before (w ++ t) =
      w ++ writeFolded false column' before' t := by
  induction w generalizing column before with
  | nil => exact ⟨column, before, rfl⟩
  | cons c w ih =>
    obtain ⟨hs, hf⟩ := hw c List.mem_cons_self
    obtain ⟨column', before', h⟩ :=
      ih (fun d hd => hw d (List.mem_cons_of_mem _ hd)) (column + 1) (some c)
    refine ⟨column', before', ?_⟩
    rw [List.cons_append, writeFolded, if_neg hf, if_neg (by simp [hs]), if_neg (by simp), h]
    rfl

theorem writeFolded_spaces_after (n : Nat) (t : List Char) (column : Nat) :
    writeFolded false column (some ' ') (List.replicate n ' ' ++ t) =
      List.replicate n ' ' ++ writeFolded false (column + n) (some ' ') t := by
  induction n generalizing column with
  | zero => rfl
  | succ n ih =>
    rw [List.replicate_succ, List.cons_append, writeFolded, if_neg (by decide), if_neg (by simp),
      if_neg (by simp), ih, Nat.add_assoc, Nat.add_comm 1 n]
    rfl

/-- Spaces before a word are written as they are, but a single one may become the end of a line. -/
theorem writeFolded_spaces (n : Nat) (t : List Char) (column : Nat) (before : Option Char) :
    ∃ gap column', writeFolded false column before (List.replicate (n + 1) ' ' ++ t) =
        gap ++ writeFolded false column' (some ' ') t ∧
      (gap = List.replicate (n + 1) ' ' ∨ (n = 0 ∧ gap = '\n' :: continuation)) := by
  rw [List.replicate_succ, List.cons_append, writeFolded, if_neg (by decide)]
  split
  · next hfold =>
    cases n with
    | zero => exact ⟨'\n' :: continuation, 2, rfl, .inr ⟨rfl, rfl⟩⟩
    | succ n => simp [List.replicate_succ] at hfold
  · refine ⟨' ' :: List.replicate n ' ', column + 1 + n, ?_, .inl rfl⟩
    rw [if_neg (by simp), writeFolded_spaces_after]
    rfl

/-! ## Words and spaces as they are read -/

theorem plainRun_separated {tail : List Char} (h : isSeparated tail = true) :
    plainRun false tail = 0 := by
  cases tail with
  | nil => rfl
  | cons d tail =>
    have hd : isSeparator d = true := by simpa [isSeparated] using h
    simp [plainRun, hd]

/-- A word is read as a whole, up to where nothing is read. -/
theorem plainRun_word {w tail : List Char} (hw : ∀ c ∈ w, isSeparator c = false)
    (hcolon : isSeparated tail = true → w.getLast? ≠ some ':') (htail : plainRun false tail = 0) :
    plainRun false (w ++ tail) = w.length := by
  induction w with
  | nil => exact htail
  | cons c w ih =>
    have hc := hw c List.mem_cons_self
    have hw' : ∀ d ∈ w, isSeparator d = false := fun d hd => hw d (List.mem_cons_of_mem _ hd)
    have hstop : ¬ (c = ':' ∧ isSeparated (w ++ tail) = true) := by
      rintro ⟨rfl, hsep⟩
      cases w with
      | nil => exact hcolon hsep rfl
      | cons d w => simp [isSeparated, hw' d List.mem_cons_self] at hsep
    have hlast : isSeparated tail = true → w.getLast? ≠ some ':' := by
      intro h
      cases w with
      | nil => simp
      | cons d w =>
        have := hcolon h
        rwa [List.getLast?_cons_cons] at this
    rw [List.cons_append, plainRun, if_neg (by simp [hc]), if_neg (by simpa using hstop),
      if_neg (by simp), ih hw' hlast, List.length_cons]

theorem plainRun_ne_zero {d : Char} {tail : List Char} (hd : isSeparator d = false)
    (hcolon : d = ':' → isSeparated tail = false) : plainRun false (d :: tail) ≠ 0 := by
  rw [plainRun, if_neg (by simp [hd])]
  by_cases h : d = ':'
  · simp [h, hcolon h]
  · simp [h]

theorem ne_feed_of_not_separator {c : Char} (h : isSeparator c = false) : c ≠ '\n' := by
  rintro rfl
  exact absurd h (by decide)

theorem plainSpaces_spaces {here : Cursor} {n : Nat} {d : Char} {tail : List Char}
    (hrest : here.rest = List.replicate n ' ' ++ d :: tail) (hd : isSeparator d = false) :
    plainSpaces here = (List.replicate n ' ', here.skip n, false) := by
  simp only [isSeparator, Bool.or_eq_false_iff, decide_eq_false_iff_not] at hd
  have htake : here.rest.takeWhile (· = ' ') = List.replicate n ' ' := by
    rw [hrest, List.takeWhile_append_of_pos (by simp)]
    simp [hd.1.1]
  have hspan : here.span (· = ' ') = (List.replicate n ' ', here.skip n) := by
    rw [Cursor.span, htake, List.length_replicate]
  have hnone : (here.skip n).lineBreak? = none := by
    refine Cursor.lineBreak?_none ?_
    rw [Cursor.rest_skip, hrest, List.drop_left' List.length_replicate]
    simpa using hd.2
  unfold plainSpaces
  rw [hspan]
  simp only [hnone]

theorem plainSpaces_feed {here : Cursor} {cs : List Char} (hrest : here.rest = '\n' :: cs)
    (hmark : startsMarker cs = false) :
    plainSpaces here = match plainBreaks cs.length here.advance with
      | (none, last) => ([], last, true)
      | (some breaks, last) => (foldBreaks '\n' breaks, last, true) := by
  have hspan : here.span (· = ' ') = ([], here) := by
    unfold Cursor.span
    rw [hrest]
    rfl
  unfold plainSpaces
  rw [hspan]
  simp only [Cursor.lineBreak?_feed hrest, Cursor.rest_advance_of hrest, hmark]
  rfl

/-- The end of a line between two words reads as a space. -/
theorem plainSpaces_folded {here : Cursor} {d : Char} {tail : List Char}
    (hrest : here.rest = '\n' :: continuation ++ d :: tail) (hd : isSeparator d = false) :
    ∃ next, plainSpaces here = ([' '], next, true) ∧ next.rest = d :: tail ∧ next.column = 2 := by
  simp only [isSeparator, Bool.or_eq_false_iff, decide_eq_false_iff_not] at hd
  have h1 : here.advance.rest = ' ' :: ' ' :: d :: tail := Cursor.rest_advance_of hrest
  have h2 := Cursor.rest_advance_of h1
  have h3 := Cursor.rest_advance_of h2
  refine ⟨here.advance.advance.advance, ?_, h3, ?_⟩
  · have hstop : ∀ fuel, plainBreaks fuel here.advance.advance.advance =
        (some [], here.advance.advance.advance) := by
      intro fuel
      cases fuel with
      | zero => rfl
      | succ fuel =>
        have hat : here.advance.advance.advance.at? ' ' = false := by
          simp [Cursor.at?, h3, hd.1.1]
        rw [plainBreaks, hat, Cursor.lineBreak?_none (by rw [h3]; simpa using hd.2)]
        rfl
    have hat1 : here.advance.at? ' ' = true := by simp [Cursor.at?, h1]
    have hat2 : here.advance.advance.at? ' ' = true := by simp [Cursor.at?, h2]
    rw [plainSpaces_feed hrest rfl]
    change (match plainBreaks (tail.length + 1 + 2) here.advance with
      | (none, last) => ([], last, true)
      | (some breaks, last) => (foldBreaks '\n' breaks, last, true)) = _
    rw [plainBreaks, if_pos hat1, plainBreaks, if_pos hat2, hstop]
    rfl
  · rw [Cursor.column_advance h2 rfl (by decide), Cursor.column_advance h1 rfl (by decide),
      Cursor.column_advance_feed hrest]

/-! ## Texts -/

theorem hasNoMark_drop {a b : List Char} (h : hasNoMark (a ++ b) = true) : hasNoMark b = true := by
  induction a with
  | nil => exact h
  | cons c a ih =>
    rw [List.cons_append, hasNoMark, Bool.and_eq_true] at h
    exact ih h.2

theorem getLast?_ne_colon {w t : List Char} (h : hasNoMark (w ++ t) = true)
    (ht : isSeparated t = true) : w.getLast? ≠ some ':' := by
  intro hlast
  obtain ⟨w', rfl⟩ := List.getLast?_eq_some_iff.1 hlast
  rw [List.append_assoc] at h
  have := hasNoMark_drop h
  simp [hasNoMark, ht] at this

theorem hasNoMark_colon {cs : List Char} (h : hasNoMark (':' :: cs) = true) :
    isSeparated cs = false := by
  rw [hasNoMark] at h
  simp_all

theorem head_ne_hash {n : Nat} {d : Char} {u : List Char}
    (h : hasNoMark (List.replicate (n + 1) ' ' ++ d :: u) = true) : d ≠ '#' := by
  rintro rfl
  rw [List.replicate_succ', List.append_assoc] at h
  have := hasNoMark_drop h
  simp [hasNoMark] at this

/-- What is not separated in the text is not separated where it is written. -/
theorem isSeparated_writeFolded {cs : List Char} (h : isSeparated cs = false) (column : Nat)
    (before : Option Char) (tail : List Char) :
    isSeparated (writeFolded false column before cs ++ tail) = false := by
  cases cs with
  | nil => simp [isSeparated] at h
  | cons c cs =>
    have hc : isSeparator c = false := by simpa [isSeparated] using h
    have hs : c ≠ ' ' := by
      rintro rfl
      exact absurd hc (by decide)
    obtain ⟨rest, hrest⟩ := writeFolded_head hs (ne_feed_of_not_separator hc) false column before cs
    rw [hrest]
    simpa [isSeparated] using hc

/-- A text of spaces and words after a word: nothing, or spaces and a text that begins with a word. -/
theorem spaces_cases {t : List Char} (hhead : t = [] ∨ t.head? = some ' ')
    (hlast : t.getLast? ≠ some ' ') :
    t = [] ∨ ∃ n d u, t = List.replicate (n + 1) ' ' ++ d :: u ∧ d ≠ ' ' := by
  rcases hhead with h | h
  · exact .inl h
  · right
    obtain ⟨u, rfl⟩ : ∃ u, t = ' ' :: u := by
      cases t with
      | nil => simp at h
      | cons c u => exact ⟨u, by simpa using h⟩
    induction u with
    | nil => simp at hlast
    | cons d u ih =>
      by_cases hd : d = ' '
      · subst hd
        obtain ⟨n, e, v, hv, he⟩ := ih (by simpa using hlast) rfl
        exact ⟨n + 1, e, v, by rw [hv]; rfl, he⟩
      · exact ⟨0, d, u, rfl, hd⟩

/-- What the writer puts between two words: their spaces, or the end of a line for a single one. -/
def IsGapOf (n : Nat) (gap : List Char) : Prop :=
  gap = List.replicate (n + 1) ' ' ∨ (n = 0 ∧ gap = '\n' :: continuation)

theorem IsGapOf.isSeparated {n : Nat} {gap : List Char} (h : IsGapOf n gap) (tail : List Char) :
    isSeparated (gap ++ tail) = true := by
  rcases h with rfl | ⟨-, rfl⟩ <;> rfl

theorem IsGapOf.length_pos {n : Nat} {gap : List Char} (h : IsGapOf n gap) : 0 < gap.length := by
  rcases h with rfl | ⟨-, rfl⟩ <;> simp

theorem IsGapOf.plainSpaces {n : Nat} {gap : List Char} (h : IsGapOf n gap) {here : Cursor} {d : Char}
    {tail : List Char} (hrest : here.rest = gap ++ d :: tail) (hd : isSeparator d = false) :
    ∃ next broken, plainSpaces here = (List.replicate (n + 1) ' ', next, broken) ∧
      next.rest = d :: tail ∧ 1 ≤ next.column := by
  rcases h with rfl | ⟨rfl, rfl⟩
  · refine ⟨_, _, plainSpaces_spaces hrest hd, ?_, ?_⟩
    · rw [Cursor.rest_skip, hrest, List.drop_left' List.length_replicate]
    · rw [Cursor.column_skip_spaces hrest]
      omega
  · obtain ⟨next, hread, hnext, hcolumn⟩ := plainSpaces_folded hrest hd
    exact ⟨next, true, hread, hnext, by omega⟩

/-- The last word: the end of its line ends the document. -/
theorem plainScalar_last {here : Cursor} {w : List Char} (hw : ∀ c ∈ w, isSeparator c = false)
    (hcolon : w.getLast? ≠ some ':') (hrest : here.rest = w ++ ['\n']) (fuel : Nat) :
    ∃ last, plainScalar false 1 (fuel + 1) here = (w, last, true) ∧ last.rest = [] := by
  have hrun : plainRun false here.rest = w.length := by
    rw [hrest]
    exact plainRun_word hw (fun _ => hcolon) rfl
  have htake : here.rest.take w.length = w := by rw [hrest, List.take_left]
  have hend : (here.skip w.length).rest = ['\n'] := by rw [Cursor.rest_skip, hrest, List.drop_left]
  refine ⟨(here.skip w.length).advance, ?_, Cursor.rest_advance_of hend⟩
  rw [plainScalar, hrun]
  simp only [plainSpaces_feed hend rfl, htake, List.length_nil, plainBreaks,
    Cursor.column_advance_feed hend]
  simp

/-- A word before another: the reader goes on with the other. -/
theorem plainScalar_word (d : Char) (tail : List Char) {here : Cursor} {w gap more : List Char}
    {n fuel : Nat}
    (hw : ∀ c ∈ w, isSeparator c = false) (hcolon : w.getLast? ≠ some ':') (hgap : IsGapOf n gap)
    (hd : isSeparator d = false) (hhash : d ≠ '#') (hrun : plainRun false (d :: tail) ≠ 0)
    (hrest : here.rest = w ++ (gap ++ d :: tail))
    (hmore : ∀ next : Cursor, next.rest = d :: tail →
      ∃ last, plainScalar false 1 fuel next = (more, last, true) ∧ last.rest = []) :
    ∃ last, plainScalar false 1 (fuel + 1) here =
      (w ++ (List.replicate (n + 1) ' ' ++ more), last, true) ∧ last.rest = [] := by
  have hfirst : plainRun false here.rest = w.length := by
    rw [hrest]
    exact plainRun_word hw (fun _ => hcolon) (plainRun_separated (hgap.isSeparated _))
  have htake : here.rest.take w.length = w := by rw [hrest, List.take_left]
  have hskip : (here.skip w.length).rest = gap ++ d :: tail := by
    rw [Cursor.rest_skip, hrest, List.drop_left]
  obtain ⟨next, broken, hspaces, hnext, hcolumn⟩ := hgap.plainSpaces hskip hd
  obtain ⟨last, hlast, hlastrest⟩ := hmore next hnext
  have hat : next.at? '#' = false := by
    rw [Cursor.at?, hnext]
    simpa using hhash
  refine ⟨last, ?_, hlastrest⟩
  rw [plainScalar, hfirst]
  simp only [hspaces, htake, hat, hlast, hnext]
  rw [if_neg]
  · simp
  · simp [hrun]
    omega

/-- What a plain scalar's text is from any of its words on. -/
structure IsPlainBody (cs : List Char) : Prop where
  ne_nil : cs ≠ []
  chars : ∀ c ∈ cs, isPrintableAscii c = true
  head : cs.head? ≠ some ' '
  last : cs.getLast? ≠ some ' '
  mark : hasNoMark cs = true

/-- A text that begins with a word, cut after the word. -/
theorem IsPlainBody.word_cases {cs : List Char} (h : IsPlainBody cs) :
    ∃ w t, cs = w ++ t ∧ w ≠ [] ∧ (∀ c ∈ w, c ≠ ' ') ∧
      (t = [] ∨ ∃ n d u, t = List.replicate (n + 1) ' ' ++ d :: u ∧ d ≠ ' ') := by
  refine ⟨cs.takeWhile (· ≠ ' '), cs.dropWhile (· ≠ ' '), by simp, ?_, ?_, ?_⟩
  · cases cs with
    | nil => exact absurd rfl h.ne_nil
    | cons c cs => simpa using h.head
  · intro c hc
    simpa using List.mem_takeWhile_imp hc
  · refine spaces_cases ?_ ?_
    · cases hd : cs.dropWhile (· ≠ ' ') with
      | nil => exact .inl rfl
      | cons c u =>
        right
        have hstop := List.head?_dropWhile_not (fun c => decide (c ≠ ' ')) cs
        rw [hd] at hstop
        simpa using hstop
    · intro hlast
      have hne : cs.dropWhile (· ≠ ' ') ≠ [] := by
        intro hnil
        rw [hnil] at hlast
        simp at hlast
      have hall := h.last
      rw [← List.takeWhile_append_dropWhile (p := fun c => decide (c ≠ ' ')) (l := cs),
        List.getLast?_append_of_ne_nil _ hne] at hall
      exact hall hlast

theorem IsPlainBody.next {w : List Char} {n : Nat} {d : Char} {u : List Char}
    (h : IsPlainBody (w ++ (List.replicate (n + 1) ' ' ++ d :: u))) (hd : d ≠ ' ') :
    IsPlainBody (d :: u) where
  ne_nil := by simp
  chars := fun c hc => h.chars c (List.mem_append_right _ (List.mem_append_right _ hc))
  head := by simpa using hd
  last := by
    have hlast := h.last
    rwa [List.getLast?_append_of_ne_nil _ (by simp),
      List.getLast?_append_of_ne_nil _ (by simp)] at hlast
  mark := hasNoMark_drop (hasNoMark_drop h.mark)

/-- What the writer puts after a word: the gap, and the next word's first character. -/
theorem writeFolded_gap (n : Nat) {d : Char} (u : List Char) (hd : d ≠ ' ') (hd' : d ≠ '\n')
    (column : Nat) (before : Option Char) :
    ∃ gap column₂ column₃ before₃, IsGapOf n gap ∧
      writeFolded false column before (List.replicate (n + 1) ' ' ++ d :: u) =
        gap ++ writeFolded false column₂ (some ' ') (d :: u) ∧
      writeFolded false column₂ (some ' ') (d :: u) = d :: writeFolded false column₃ before₃ u := by
  obtain ⟨gap, column₂, hgap, hcases⟩ := writeFolded_spaces n (d :: u) column before
  obtain ⟨column₃, before₃, htail⟩ := writeFolded_word (w := [d]) (by simpa using ⟨hd, hd'⟩) u
    column₂ (some ' ')
  exact ⟨gap, column₂, column₃, before₃, hcases, hgap, htail⟩

theorem plainScalar_words (size : Nat) : ∀ cs : List Char, cs.length ≤ size → IsPlainBody cs →
    ∀ (here : Cursor) (fuel column : Nat) (before : Option Char),
      here.rest = writeFolded false column before cs ++ ['\n'] → here.rest.length ≤ fuel →
      ∃ last, plainScalar false 1 fuel here = (cs, last, true) ∧ last.rest = [] := by
  -- on the length, since a step takes a word and the spaces after it
  induction size with
  | zero =>
    intro cs hsize hcs
    exact absurd (List.eq_nil_of_length_eq_zero (by omega)) hcs.ne_nil
  | succ size ih =>
    intro cs hsize hcs here fuel column before hrest hfuel
    obtain ⟨w, t, rfl, hwne, hw, ht⟩ := hcs.word_cases
    have hwsep : ∀ c ∈ w, isSeparator c = false := fun c hc =>
      isSeparator_of_printable (hcs.chars c (List.mem_append_left _ hc)) (hw c hc)
    obtain ⟨column', before', hwrite⟩ := writeFolded_word
      (fun c hc => ⟨hw c hc, ne_feed_of_not_separator (hwsep c hc)⟩) t column before
    have hwlen : 0 < w.length := List.length_pos_iff.2 hwne
    rw [hwrite, List.append_assoc] at hrest
    rw [hrest] at hfuel
    simp only [List.length_append] at hfuel hsize
    obtain ⟨fuel, rfl⟩ : ∃ f, fuel = f + 1 := ⟨fuel - 1, by omega⟩
    rcases ht with rfl | ⟨n, d, u, rfl, hd⟩
    · rw [List.append_nil]
      exact plainScalar_last hwsep (getLast?_ne_colon hcs.mark rfl) hrest fuel
    · have hdsep : isSeparator d = false :=
        isSeparator_of_printable (hcs.chars d (by simp)) hd
      obtain ⟨gap, column₂, column₃, before₃, hgap, hwritten, htail⟩ :=
        writeFolded_gap n u hd (ne_feed_of_not_separator hdsep) column' before'
      rw [hwritten, List.append_assoc] at hrest
      rw [hwritten, List.length_append] at hfuel
      refine plainScalar_word d (writeFolded false column₃ before₃ u ++ ['\n']) hwsep
        (getLast?_ne_colon hcs.mark rfl) hgap hdsep (head_ne_hash (hasNoMark_drop hcs.mark)) ?_ ?_
        fun next hnext => ?_
      · refine plainRun_ne_zero hdsep fun hcolon => ?_
        subst hcolon
        exact isSeparated_writeFolded (hasNoMark_colon (hcs.next hd).mark) _ _ _
      · rw [hrest, htail]
        rfl
      · have hnext' : next.rest = writeFolded false column₂ (some ' ') (d :: u) ++ ['\n'] := by
          rw [hnext, htail]
          rfl
        have hgaplen := hgap.length_pos
        refine ih (d :: u) ?_ (hcs.next hd) next fuel column₂ (some ' ') hnext' ?_
        · rw [List.length_append, List.length_replicate] at hsize
          omega
        · rw [hnext', List.length_append]
          omega

/-- What a text that may be written plain is like. -/
theorem isPlainText_cases {cs : List Char} (h : isPlainText cs = true) :
    ∃ c rest, cs = c :: rest ∧ (∀ d ∈ cs, isPrintableAscii d = true) ∧ c ≠ ' ' ∧
      cs.getLast? ≠ some ' ' ∧ mayBegin c rest = true ∧ hasNoMark cs = true ∧
      Tag.ofPlain cs = .text := by
  cases cs with
  | nil => simp [isPlainText] at h
  | cons c rest =>
    simp only [isPlainText, Bool.and_eq_true, decide_eq_true_eq, List.all_eq_true] at h
    obtain ⟨⟨⟨⟨⟨⟨⟨hchars, hspace⟩, hlast⟩, -⟩, -⟩, hbegin⟩, hmark⟩, htag⟩ := h
    exact ⟨c, rest, rfl, hchars, hspace, hlast, hbegin, hmark, htag⟩

theorem plainScalar_writeFolded {cs : List Char} (h : isPlainText cs = true) {here : Cursor}
    {column : Nat} (hrest : here.rest = writeFolded false column none cs ++ ['\n']) :
    ∃ last, plainScalar false 1 here.rest.length here = (cs, last, true) ∧ last.rest = [] := by
  obtain ⟨c, rest, rfl, hchars, hspace, hlast, -, hmark, -⟩ := isPlainText_cases h
  have hbody : IsPlainBody (c :: rest) := ⟨by simp, hchars, by simpa using hspace, hlast, hmark⟩
  exact plainScalar_words _ _ (Nat.le_refl _) hbody here _ column none hrest (Nat.le_refl _)

end NamedKeys.Yaml
