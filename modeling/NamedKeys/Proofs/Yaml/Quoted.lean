import NamedKeys.Proofs.Text.Digits
import NamedKeys.Yaml.Printer
import NamedKeys.Yaml.Scalar

/-!
# Quoted scalars are read back

Whatever style and folding the writer chooses between quotes, the reader gives the text again:

    isSingleText cs →
      Quoted false (writeFolded true column none cs ++ '\'' :: rest) cs rest    (quoted_writeFolded)
      Quoted true (writeEscaped isFirst isFresh column cs ++ '"' :: rest) cs rest
                                                                             (quoted_writeEscaped)

`Quoted` speaks of the rest of a document only: lines and columns do not matter between quotes.
-/

namespace NamedKeys.Yaml

/-! ## The rest of a document -/

namespace Cursor

theorem rest_advance (here : Cursor) : here.advance.rest = here.rest.drop 1 := by
  unfold advance
  split
  · next h => simp [h]
  · next c cs h =>
    rw [h]
    split
    · rfl
    · split <;> rfl

@[simp] theorem rest_skip (n : Nat) (here : Cursor) : (here.skip n).rest = here.rest.drop n := by
  induction n generalizing here with
  | zero => rfl
  | succ n ih => rw [skip, ih, rest_advance, List.drop_drop, Nat.add_comm]

theorem drop_takeWhile {α : Type} (p : α → Bool) (l : List α) :
    l.drop (l.takeWhile p).length = l.dropWhile p := by
  induction l with
  | nil => rfl
  | cons a l ih =>
    by_cases h : p a = true
    · simp [h, ih]
    · simp [h]

@[simp] theorem rest_skipWhile (p : Char → Bool) (here : Cursor) :
    (here.skipWhile p).rest = here.rest.dropWhile p := by
  simp [skipWhile, span, drop_takeWhile]

theorem rest_advance_of {here : Cursor} {c : Char} {cs : List Char} (h : here.rest = c :: cs) :
    here.advance.rest = cs := by
  rw [rest_advance, h]
  rfl

theorem lineBreak?_feed {here : Cursor} {cs : List Char} (h : here.rest = '\n' :: cs) :
    here.lineBreak? = some ('\n', here.advance) := by
  unfold lineBreak?
  rw [h]
  rfl

theorem lineBreak?_none {here : Cursor} (h : ∀ c ∈ here.rest.head?, isBreak c = false) :
    here.lineBreak? = none := by
  unfold lineBreak?
  split
  · next h' => simp [h', isBreak] at h
  · next c cs _ h' =>
    have hc : isBreak c = false := h c (by simp [h'])
    have hc' := hc
    simp only [isBreak, Bool.or_eq_false_iff, decide_eq_false_iff_not] at hc'
    simp [hc, hc']
  · rfl

end Cursor

/-! ## Readings between quotes -/

/-- The characters that are passed over between quotes at the beginning of a line. -/
def isGap (c : Char) : Bool :=
  c = ' ' || c = '\t'

/-- Whatever stands before it in the document, a text between quotes is read from `input`, after
which `rest` is left. -/
def Quoted (isDouble : Bool) (input text rest : List Char) : Prop :=
  ∀ (here : Cursor) (fuel : Nat), here.rest = input → input.length < fuel →
    ∃ last, quotedScalar isDouble fuel here = .ok (text, last) ∧ last.rest = rest

/-- The next piece is read from `input`, after which `middle` is left. -/
def Piece (isDouble : Bool) (input piece middle : List Char) : Prop :=
  ∀ here : Cursor, here.rest = input →
    ∃ next, quotedPiece isDouble here = .ok (some piece, next) ∧ next.rest = middle

theorem quotedScalar_succ (isDouble : Bool) (fuel : Nat) (here : Cursor)
    {result : List Char × Cursor} (h : quotedScalar isDouble fuel here = .ok result) :
    quotedScalar isDouble (fuel + 1) here = .ok result := by
  induction fuel generalizing here result with
  | zero => simp [quotedScalar] at h
  | succ fuel ih =>
    rw [quotedScalar] at h ⊢
    cases hp : quotedPiece isDouble here with
    | error fault => rw [hp] at h; exact h
    | ok read =>
      rw [hp] at h
      obtain ⟨_ | piece, next⟩ := read
      · exact h
      · simp only [bind, Except.bind] at h ⊢
        cases hm : quotedScalar isDouble fuel next with
        | error fault => rw [hm] at h; cases h
        | ok more => rw [hm] at h; rw [ih next hm]; exact h

theorem Quoted.cons {isDouble : Bool} {input piece middle text rest : List Char}
    (hpiece : Piece isDouble input piece middle) (hlen : middle.length < input.length)
    (h : Quoted isDouble middle text rest) : Quoted isDouble input (piece ++ text) rest := by
  intro here fuel hrest hfuel
  obtain ⟨next, hp, hnext⟩ := hpiece here hrest
  obtain ⟨fuel, rfl⟩ : ∃ f, fuel = f + 1 := ⟨fuel - 1, by omega⟩
  obtain ⟨last, hl, hlast⟩ := h next fuel hnext (by omega)
  refine ⟨last, ?_, hlast⟩
  rw [quotedScalar, hp]
  simp [bind, Except.bind, hl, pure, Except.pure]

/-- A character that stands for itself. -/
theorem Quoted.char {isDouble : Bool} {c : Char} {middle text rest : List Char}
    (hsep : isSeparator c = false) (hquote : c ≠ '\'' ∨ isDouble = true)
    (hescape : (c ≠ '"' ∧ c ≠ '\\') ∨ isDouble = false)
    (h : Quoted isDouble middle text rest) :
    Quoted isDouble (c :: middle) (c :: text) rest := by
  show Quoted isDouble (c :: middle) ([c] ++ text) rest
  refine Quoted.cons ?_ (by simp) h
  intro here hrest
  refine ⟨here.advance, ?_, Cursor.rest_advance_of hrest⟩
  unfold quotedPiece
  rw [hrest]
  cases isDouble with
  | true =>
    obtain ⟨h1, h2⟩ : c ≠ '"' ∧ c ≠ '\\' := by simpa using hescape
    simp [hsep, h1, h2]
  | false =>
    have h1 : c ≠ '\'' := by simpa using hquote
    simp [hsep, h1]

theorem quoted_close_single {rest : List Char} (h : rest.head? ≠ some '\'') :
    Quoted false ('\'' :: rest) [] rest := by
  intro here fuel hrest hfuel
  obtain ⟨fuel, rfl⟩ : ∃ f, fuel = f + 1 := ⟨fuel - 1, by omega⟩
  refine ⟨here.advance, ?_, Cursor.rest_advance_of hrest⟩
  rw [quotedScalar, quotedPiece, hrest]
  simp [isSeparator, isBreak, h, bind, Except.bind, pure, Except.pure]

theorem quoted_close_double (rest : List Char) : Quoted true ('"' :: rest) [] rest := by
  intro here fuel hrest hfuel
  obtain ⟨fuel, rfl⟩ : ∃ f, fuel = f + 1 := ⟨fuel - 1, by omega⟩
  refine ⟨here.advance, ?_, Cursor.rest_advance_of hrest⟩
  rw [quotedScalar, quotedPiece, hrest]
  simp [isSeparator, isBreak, bind, Except.bind, pure, Except.pure]

/-- Whether what follows the gaps at the front of a text is there and ends no line. -/
def StaysOnLine (cs : List Char) : Prop :=
  ∃ c tail, cs.dropWhile isGap = c :: tail ∧ isBreak c = false

/-- Blanks that end no line are read as they are. -/
theorem quotedSpaces_line {here : Cursor} (h : StaysOnLine here.rest) :
    quotedSpaces here = .ok (here.rest.takeWhile isGap, here.skipWhile isGap) := by
  obtain ⟨c, tail, hc, hbreak⟩ := h
  have hrest : (here.skipWhile isGap).rest = c :: tail := by rw [Cursor.rest_skipWhile, hc]
  have hnone : (here.skipWhile isGap).lineBreak? = none :=
    Cursor.lineBreak?_none (by rw [hrest]; simpa using hbreak)
  have hspan : here.span (fun c => decide (c = ' ') || decide (c = '\t')) =
      (here.rest.takeWhile isGap, here.skipWhile isGap) := rfl
  unfold quotedSpaces
  simp only [hspan, hnone, hrest, reduceCtorEq, if_false]

theorem quotedPiece_gap {isDouble : Bool} {here : Cursor} {c : Char} {cs : List Char}
    (hrest : here.rest = c :: cs) (hc : isGap c = true) (hline : StaysOnLine cs) :
    quotedPiece isDouble here = .ok (some (here.rest.takeWhile isGap), here.skipWhile isGap) := by
  have hsep : isSeparator c = true := by
    simp only [isGap, Bool.or_eq_true, decide_eq_true_eq] at hc
    rcases hc with rfl | rfl <;> rfl
  have hline' : StaysOnLine here.rest := by
    rw [hrest]
    simpa [StaysOnLine, hc] using hline
  unfold quotedPiece
  rw [quotedSpaces_line hline', hrest]
  simp [hsep, Except.map]

/-- A space whose run of spaces ends no line stands for itself: it joins the spaces after it. -/
theorem Quoted.space {isDouble : Bool} {middle text rest : List Char} (hline : StaysOnLine middle)
    (h : Quoted isDouble middle text rest) :
    Quoted isDouble (' ' :: middle) (' ' :: text) rest := by
  intro here fuel hrest hfuel
  have hadv : here.advance.rest = middle := Cursor.rest_advance_of hrest
  have hskip : here.skipWhile isGap = here.advance.skipWhile isGap := by
    unfold Cursor.skipWhile Cursor.span
    rw [hadv, hrest]
    rfl
  obtain ⟨fuel, rfl⟩ : ∃ f, fuel = f + 1 := ⟨fuel - 1, by omega⟩
  have hlen : middle.length < fuel := by simpa using hfuel
  obtain ⟨last, hl, hlast⟩ := h here.advance fuel hadv hlen
  refine ⟨last, ?_, hlast⟩
  rw [quotedScalar, quotedPiece_gap hrest rfl hline, hskip, hrest]
  cases middle with
  | nil => exact absurd hline (by simp [StaysOnLine])
  | cons d cs =>
    by_cases hd : isGap d = true
    · -- the reader takes the run at once, so what it reads from `d` on begins with the other spaces
      obtain ⟨fuel, rfl⟩ : ∃ f, fuel = f + 1 := ⟨fuel - 1, by omega⟩
      have hline' : StaysOnLine cs := by simpa [StaysOnLine, hd] using hline
      rw [quotedScalar, quotedPiece_gap hadv hd hline', hadv] at hl
      simp only [bind, Except.bind] at hl ⊢
      cases hq : quotedScalar isDouble fuel (here.advance.skipWhile isGap) with
      | error fault => rw [hq] at hl; cases hl
      | ok more =>
        rw [hq] at hl
        rw [quotedScalar_succ _ _ _ hq]
        simp only [pure, Except.pure, Except.ok.injEq, Prod.mk.injEq] at hl ⊢
        exact ⟨by rw [← hl.1]; rfl, hl.2⟩
    · have hsame : here.advance.skipWhile isGap = here.advance := by
        unfold Cursor.skipWhile Cursor.span
        rw [hadv]
        simp [hd, Cursor.skip]
      rw [hsame, List.takeWhile_cons_of_pos (by rfl), List.takeWhile_cons_of_neg hd]
      simp [bind, Except.bind, hl, pure, Except.pure]

/-! ## Ends of lines -/

/-- The ends of lines at the front of `input` are read as `breaks`, after which `middle` is left. -/
def Broken (input breaks middle : List Char) : Prop :=
  middle.length ≤ input.length ∧ ∀ (here : Cursor) (fuel : Nat), here.rest = input →
    input.length < fuel → ∃ last, quotedBreaks fuel here = .ok (breaks, last) ∧ last.rest = middle

theorem broken_continuation {c : Char} {tail : List Char} (hc : isSeparator c = false) :
    Broken (continuation ++ c :: tail) [] (c :: tail) := by
  refine ⟨by simp, fun here fuel hrest hfuel => ?_⟩
  obtain ⟨fuel, rfl⟩ : ∃ f, fuel = f + 1 := ⟨fuel - 1, by omega⟩
  simp only [isSeparator, Bool.or_eq_false_iff, decide_eq_false_iff_not] at hc
  have hdrop : here.rest.dropWhile isGap = c :: tail := by
    rw [hrest]
    simp [continuation, isGap, hc.1.1, hc.1.2]
  have hnext : (here.skipWhile isGap).rest = c :: tail := by rw [Cursor.rest_skipWhile, hdrop]
  refine ⟨here.skipWhile isGap, ?_, hnext⟩
  have hmark : startsMarker here.rest = false := by
    rw [hrest]
    rfl
  have hnone : (here.skipWhile isGap).lineBreak? = none := by
    apply Cursor.lineBreak?_none
    rw [hnext]
    simpa using hc.2
  have hskip : here.skipWhile (fun c => decide (c = ' ') || decide (c = '\t')) =
      here.skipWhile isGap := rfl
  rw [quotedBreaks, hmark]
  simp only [hskip, hnone, Bool.false_eq_true, if_false]

theorem Broken.feed {input breaks middle : List Char} (h : Broken input breaks middle) :
    Broken ('\n' :: input) ('\n' :: breaks) middle := by
  obtain ⟨hlen, h⟩ := h
  refine ⟨by rw [List.length_cons]; omega, fun here fuel hrest hfuel => ?_⟩
  obtain ⟨fuel, rfl⟩ : ∃ f, fuel = f + 1 := ⟨fuel - 1, by omega⟩
  obtain ⟨last, hl, hlast⟩ := h here.advance fuel (Cursor.rest_advance_of hrest)
    (by rw [List.length_cons] at hfuel; omega)
  refine ⟨last, ?_, hlast⟩
  have hmark : startsMarker here.rest = false := by
    rw [hrest]
    rfl
  have hskip : here.skipWhile (fun c => c = ' ' || c = '\t') = here := by
    unfold Cursor.skipWhile Cursor.span
    rw [hrest]
    rfl
  rw [quotedBreaks, hmark]
  simp only [hskip, Cursor.lineBreak?_feed hrest, hl, Bool.false_eq_true, if_false, Except.map]

/-- Between single quotes an end of a line and the empty lines after it are folded. -/
theorem Broken.piece {isDouble : Bool} {input breaks middle : List Char}
    (h : Broken input breaks middle) :
    Piece isDouble ('\n' :: input) (foldBreaks '\n' breaks) middle := by
  intro here hrest
  have hadv : here.advance.rest = input := Cursor.rest_advance_of hrest
  obtain ⟨last, hl, hlast⟩ := h.2 here.advance (here.advance.rest.length + 1) hadv (by rw [hadv]; omega)
  refine ⟨last, ?_, hlast⟩
  have hspan : here.span (fun c => c = ' ' || c = '\t') = ([], here) := by
    unfold Cursor.span
    rw [hrest]
    rfl
  unfold quotedPiece quotedSpaces
  rw [hspan]
  simp only [Cursor.lineBreak?_feed hrest, hl]
  rw [hrest]
  rfl

/-- Between double quotes an end of a line after a backslash is nothing but the lines after it. -/
theorem Broken.escape {input breaks middle : List Char} (h : Broken input breaks middle) :
    Piece true ('\\' :: '\n' :: input) breaks middle := by
  intro here hrest
  have hadv : here.advance.rest = '\n' :: input := Cursor.rest_advance_of hrest
  have hadv' : here.advance.advance.rest = input := Cursor.rest_advance_of hadv
  obtain ⟨last, hl, hlast⟩ := h.2 here.advance.advance (here.advance.advance.rest.length + 1) hadv'
    (by rw [hadv']; omega)
  refine ⟨last, ?_, hlast⟩
  have hescape : Yaml.escape here.advance = .ok (breaks, last) := by
    unfold Yaml.escape Cursor.peek?
    rw [Cursor.lineBreak?_feed hadv, hadv]
    exact hl
  unfold quotedPiece
  rw [hrest]
  simp [isSeparator, isBreak, hescape, Except.map]

/-! ## Texts between single quotes -/

theorem isSeparator_of_printable {c : Char} (h : isPrintableAscii c = true) (hc : c ≠ ' ') :
    isSeparator c = false := by
  have hn : c.toNat ≠ 32 := fun h => hc (Char.toNat_inj.1 h)
  simp only [isPrintableAscii, Bool.and_eq_true, decide_eq_true_eq] at h
  simp only [isSeparator, isBreak, Bool.or_eq_false_iff, decide_eq_false_iff_not]
  refine ⟨⟨hc, ?_⟩, ⟨⟨⟨?_, ?_⟩, ?_⟩, ?_⟩, ?_⟩ <;> rintro rfl <;> revert h <;> decide

/-- The characters of texts between single quotes. -/
def IsSingleChar (c : Char) : Prop :=
  c = '\n' ∨ isPrintableAscii c = true

theorem isSeparator_of_single {c : Char} (h : IsSingleChar c) (hs : c ≠ ' ') (hf : c ≠ '\n') :
    isSeparator c = false := by
  rcases h with h | h
  · exact absurd h hf
  · exact isSeparator_of_printable h hs

theorem hasNoBlankAtBreak_tail {c : Char} {cs : List Char} (h : hasNoBlankAtBreak (c :: cs) = true) :
    hasNoBlankAtBreak cs = true := by
  cases cs with
  | nil => rfl
  | cons d cs =>
    rw [hasNoBlankAtBreak, Bool.and_eq_true] at h
    exact h.2

theorem head_ne_feed {cs : List Char} (h : hasNoBlankAtBreak (' ' :: cs) = true) :
    cs.head? ≠ some '\n' := by
  cases cs with
  | nil => simp
  | cons d cs =>
    rw [hasNoBlankAtBreak] at h
    intro hd
    simp_all

theorem head_ne_space {cs : List Char} (h : hasNoBlankAtBreak ('\n' :: cs) = true) :
    cs.head? ≠ some ' ' := by
  cases cs with
  | nil => simp
  | cons d cs =>
    rw [hasNoBlankAtBreak] at h
    intro hd
    simp_all

/-- A character that is no blank is written at once. -/
theorem writeFolded_head {c : Char} (hs : c ≠ ' ') (hf : c ≠ '\n') (isQuoted : Bool) (column : Nat)
    (before : Option Char) (cs : List Char) :
    ∃ tail, writeFolded isQuoted column before (c :: cs) = c :: tail := by
  rw [writeFolded, if_neg hf]
  by_cases hq : isQuoted = true ∧ c = '\''
  · obtain ⟨rfl, rfl⟩ := hq
    exact ⟨_, rfl⟩
  · rw [if_neg (by simp [hs]), if_neg (by simpa using hq)]
    exact ⟨_, rfl⟩

/-- The first character written after an end of a line is no blank. -/
theorem writeFolded_start {cs : List Char} (hc : ∀ c ∈ cs, IsSingleChar c)
    (hs : cs.head? ≠ some ' ') (hf : cs.head? ≠ some '\n') (column : Nat) (before : Option Char)
    (rest : List Char) :
    ∃ d tail, writeFolded true column before cs ++ '\'' :: rest = d :: tail ∧
      isSeparator d = false := by
  cases cs with
  | nil => exact ⟨'\'', rest, rfl, rfl⟩
  | cons c cs =>
    have hs' : c ≠ ' ' := by simpa using hs
    have hf' : c ≠ '\n' := by simpa using hf
    obtain ⟨tail, ht⟩ := writeFolded_head hs' hf' true column before cs
    exact ⟨c, tail ++ '\'' :: rest, by rw [ht]; rfl,
      isSeparator_of_single (hc c List.mem_cons_self) hs' hf'⟩

theorem staysOnLine_writeFolded {cs : List Char} (hc : ∀ c ∈ cs, IsSingleChar c)
    (hb : hasNoBlankAtBreak (' ' :: cs) = true) (column : Nat) (rest : List Char) :
    StaysOnLine (writeFolded true column (some ' ') cs ++ '\'' :: rest) := by
  induction cs generalizing column with
  | nil => exact ⟨'\'', rest, rfl, rfl⟩
  | cons c cs ih =>
    have hf : c ≠ '\n' := by simpa using head_ne_feed hb
    by_cases hs : c = ' '
    · subst hs
      have hw : writeFolded true column (some ' ') (' ' :: cs) =
          ' ' :: writeFolded true (column + 1) (some ' ') cs := by
        rw [writeFolded]
        simp
      rw [hw]
      simpa [StaysOnLine, isGap] using
        ih (fun d hd => hc d (List.mem_cons_of_mem _ hd)) (hasNoBlankAtBreak_tail hb) (column + 1)
    · obtain ⟨d, tail, ht, hd⟩ := writeFolded_start hc (by simpa using hs) (by simpa using hf) column
        (some ' ') rest
      simp only [isSeparator, Bool.or_eq_false_iff, decide_eq_false_iff_not] at hd
      refine ⟨d, tail, ?_, by simpa using hd.2⟩
      rw [ht, List.dropWhile_cons_of_neg (by simp [isGap, hd.1.1, hd.1.2])]

/-- A quote in the text is written twice. -/
theorem piece_quote (more : List Char) : Piece false ('\'' :: '\'' :: more) ['\''] more := by
  intro here hhere
  refine ⟨here.skip 2, ?_, by rw [Cursor.rest_skip, hhere]; rfl⟩
  unfold quotedPiece
  rw [hhere]
  rfl

/-- A text between single quotes is read back from its beginning, and after an end of a line from the
lines that follow. -/
structure ReadsFolded (cs rest : List Char) : Prop where
  text : ∀ column before, (before = some '\n' → cs.head? ≠ some '\n') →
    Quoted false (writeFolded true column before cs ++ '\'' :: rest) cs rest
  lines : cs.head? ≠ some ' ' → ∃ breaks middle text, cs = breaks ++ text ∧
    Quoted false middle text rest ∧
    Broken ((if cs.head? = some '\n' then [] else continuation) ++
      writeFolded true 2 (some '\n') cs ++ '\'' :: rest) breaks middle

section

variable {rest cs : List Char} (h : ReadsFolded cs rest)

include h

/-- The first of several ends of lines is written twice. -/
theorem ReadsFolded.feed (hspace : cs.head? ≠ some ' ') (column : Nat) {before : Option Char}
    (hbefore : before ≠ some '\n') :
    Quoted false (writeFolded true column before ('\n' :: cs) ++ '\'' :: rest) ('\n' :: cs) rest := by
  obtain ⟨breaks, middle, more, rfl, hq, hbroken⟩ := h.lines hspace
  rw [writeFolded, if_pos rfl, if_neg hbefore]
  have := Quoted.cons hbroken.feed.piece (by
    have := hbroken.1
    simp only [List.length_cons] at this ⊢
    omega) hq
  simpa [foldBreaks] using this

/-- A space is written as it is, or as a line that is folded. -/
theorem ReadsFolded.space (hc : ∀ c ∈ cs, IsSingleChar c) (hb : hasNoBlankAtBreak (' ' :: cs) = true)
    (column : Nat) (before : Option Char) :
    Quoted false (writeFolded true column before (' ' :: cs) ++ '\'' :: rest) (' ' :: cs) rest := by
  rw [writeFolded, if_neg (by decide)]
  split
  · next hfold =>
    simp only [Bool.and_eq_true] at hfold
    have hspace : cs.head? ≠ some ' ' := by
      intro h
      simp [h] at hfold
    obtain ⟨d, tail, ht, hd⟩ := writeFolded_start hc hspace (head_ne_feed hb) 2 (some ' ') rest
    have hq := h.text 2 (some ' ') (by simp)
    rw [ht] at hq
    have := Quoted.cons (broken_continuation hd).piece
      (by simp only [continuation, List.length_cons, List.length_append]; omega) hq
    simpa [foldBreaks, ← ht] using this
  · rw [if_neg (by simp)]
    exact Quoted.space (staysOnLine_writeFolded hc hb (column + 1) rest)
      (h.text (column + 1) (some ' ') (by simp))

theorem ReadsFolded.char {c : Char} (hc : IsSingleChar c) (hs : c ≠ ' ') (hf : c ≠ '\n')
    (column : Nat) (before : Option Char) :
    Quoted false (writeFolded true column before (c :: cs) ++ '\'' :: rest) (c :: cs) rest := by
  rw [writeFolded, if_neg hf, if_neg (by simp [hs])]
  by_cases hq : c = '\''
  · subst hq
    rw [if_pos (by simp)]
    refine Quoted.cons (piece_quote _) ?_ (h.text (column + 2) (some '\'') (by simp))
    simp only [List.length_cons]
    omega
  · rw [if_neg (by simp [hq])]
    exact Quoted.char (isSeparator_of_single hc hs hf) (.inl hq) (.inr rfl)
      (h.text (column + 1) (some c) (by simp [hf]))

end

theorem readsFolded {rest : List Char} (hrest : rest.head? ≠ some '\'') (cs : List Char)
    (hc : ∀ c ∈ cs, IsSingleChar c) (hb : hasNoBlankAtBreak cs = true) : ReadsFolded cs rest := by
  induction cs with
  | nil =>
    refine ⟨fun column before _ => quoted_close_single hrest, fun _ => ?_⟩
    exact ⟨[], '\'' :: rest, [], rfl, quoted_close_single hrest, broken_continuation rfl⟩
  | cons c cs ih =>
    have hcs : ∀ d ∈ cs, IsSingleChar d := fun d hd => hc d (List.mem_cons_of_mem _ hd)
    have hmore := ih hcs (hasNoBlankAtBreak_tail hb)
    have htext : ∀ column before, (before = some '\n' → c ≠ '\n') →
        Quoted false (writeFolded true column before (c :: cs) ++ '\'' :: rest) (c :: cs) rest := by
      intro column before hbefore
      by_cases hf : c = '\n'
      · subst hf
        exact hmore.feed (head_ne_space hb) column fun h => hbefore h rfl
      · by_cases hs : c = ' '
        · subst hs
          exact hmore.space hcs hb column before
        · exact hmore.char (hc c List.mem_cons_self) hs hf column before
    refine ⟨fun column before h => htext column before (by simpa using h), fun hspace => ?_⟩
    by_cases hf : c = '\n'
    · subst hf
      obtain ⟨breaks, middle, more, rfl, hq, hbroken⟩ := hmore.lines (head_ne_space hb)
      refine ⟨'\n' :: breaks, middle, more, rfl, hq, ?_⟩
      rw [writeFolded]
      simpa using hbroken.feed
    · obtain ⟨d, tail, ht, hd⟩ := writeFolded_start hc hspace (by simpa using hf) 2 (some '\n') rest
      refine ⟨[], d :: tail, c :: cs, rfl, ?_, ?_⟩
      · rw [← ht]
        exact htext 2 (some '\n') fun _ => hf
      · rw [if_neg (by simpa using hf), List.append_assoc, ht]
        exact broken_continuation hd

theorem quoted_writeFolded {rest : List Char} (hrest : rest.head? ≠ some '\'') {cs : List Char}
    (h : isSingleText cs = true) (column : Nat) :
    Quoted false (writeFolded true column none cs ++ '\'' :: rest) cs rest := by
  simp only [isSingleText, Bool.and_eq_true, List.all_eq_true, Bool.or_eq_true,
    decide_eq_true_eq] at h
  exact (readsFolded hrest cs h.1 h.2).text column none (by simp)

/-! ## Escapes -/

theorem charOfNumber_toNat (c : Char) : charOfNumber c.toNat = .ok c := by
  rw [charOfNumber, if_pos (show c.toNat.isValidChar from c.valid), Char.ofNat_toNat]

theorem lookup_letterEscapes : ∀ p ∈ escapeLetters, letterEscapes.lookup p.2 = some p.1 := by
  decide

/-- An escape by number is read back. -/
theorem escape_number {here : Cursor} {letter : Char} {width : Nat} {c : Char} {more : List Char}
    (hletter : letterEscapes.lookup letter = none) (hwidth : numberEscapes.lookup letter = some width)
    (hc : c.toNat < 16 ^ width)
    (hrest : here.rest = letter :: Text.hexDigits Text.upperHexDigit width c.toNat ++ more) :
    ∃ next, Yaml.escape here = .ok ([c], next) ∧ next.rest = more := by
  have hadv : here.advance.rest = Text.hexDigits Text.upperHexDigit width c.toNat ++ more :=
    Cursor.rest_advance_of hrest
  have hdigits : here.advance.rest.take width =
      Text.hexDigits Text.upperHexDigit width c.toNat := by
    rw [hadv, List.take_left' (Text.length_hexDigits _ _ _)]
  refine ⟨here.advance.skip width, ?_, ?_⟩
  · unfold Yaml.escape
    rw [Cursor.peek?, hrest]
    simp only [List.cons_append, List.head?_cons, hletter, hwidth, hdigits,
      Text.ofHexDigits?_hexDigits hc, Text.length_hexDigits, if_true, charOfNumber_toNat]
    rfl
  · rw [Cursor.rest_skip, hadv]
    exact List.drop_left' (Text.length_hexDigits _ _ _)

/-- Every escape is read back, by its letter or by the number of the character. -/
theorem escape_escapeOf {here : Cursor} {c : Char} {more : List Char}
    (hrest : here.rest = escapeOf c ++ more) :
    ∃ next, Yaml.escape here = .ok ([c], next) ∧ next.rest = more := by
  unfold escapeOf at hrest
  cases hletter : escapeLetters.lookup c with
  | some letter =>
    rw [hletter] at hrest
    have hmem : (c, letter) ∈ escapeLetters := by
      obtain ⟨before, after, heq, -⟩ := List.lookup_eq_some_iff.1 hletter
      simp [heq]
    have hback : letterEscapes.lookup letter = some c := lookup_letterEscapes _ hmem
    refine ⟨here.advance, ?_, Cursor.rest_advance_of hrest⟩
    unfold Yaml.escape
    rw [Cursor.peek?, hrest]
    simp [hback]
  | none =>
    rw [hletter] at hrest
    have hvalid : c.toNat < 16 ^ 8 := by
      have := c.valid
      simp only [UInt32.isValidChar, Nat.isValidChar] at this
      have : c.toNat = c.val.toNat := rfl
      omega
    simp only at hrest
    split at hrest
    · exact escape_number rfl rfl (by omega) hrest
    · split at hrest
      · exact escape_number rfl rfl (by omega) hrest
      · exact escape_number rfl rfl hvalid hrest

theorem piece_escapeOf (c : Char) (more : List Char) :
    Piece true ('\\' :: escapeOf c ++ more) [c] more := by
  intro here hrest
  obtain ⟨next, hescape, hnext⟩ := escape_escapeOf (c := c) (Cursor.rest_advance_of hrest)
  refine ⟨next, ?_, hnext⟩
  unfold quotedPiece
  rw [hrest]
  simp [isSeparator, isBreak, hescape, Except.map]

/-! ## Texts between double quotes -/

theorem isSeparator_of_not_escaped {c : Char} (h : isEscaped c = false) (hs : c ≠ ' ') :
    isSeparator c = false := by
  simp only [isEscaped, Bool.or_eq_false_iff, Bool.not_eq_false'] at h
  exact isSeparator_of_printable h.2 hs

/-- A line between double quotes begins with what is not broken off: nothing blank, a backslash
before a space that comes first. -/
theorem writeEscaped_line (cs rest : List Char) (isFirst isFresh : Bool) (column : Nat) :
    StaysOnLine (writeEscaped isFirst isFresh column cs ++ '"' :: rest) := by
  induction cs generalizing isFirst isFresh column with
  | nil => exact ⟨'"', rest, rfl, rfl⟩
  | cons c cs ih =>
    have hback : ∀ tail : List Char, StaysOnLine ('\\' :: tail) := fun tail => ⟨'\\', tail, rfl, rfl⟩
    rw [writeEscaped]
    split
    · dsimp only
      split
      · exact hback _
      · exact hback _
    · next hescape =>
      have hescape : isEscaped c = false := by simpa using hescape
      split
      · exact hback _
      · by_cases hs : c = ' '
        · subst hs
          simpa [StaysOnLine, isGap] using ih false false (column + 1)
        · have hsep := isSeparator_of_not_escaped hescape hs
          simp only [isSeparator, Bool.or_eq_false_iff, decide_eq_false_iff_not] at hsep
          have hgap : ¬ isGap c = true := by simp [isGap, hsep.1.1, hsep.1.2]
          exact ⟨c, _, List.dropWhile_cons_of_neg hgap, hsep.2⟩

/-- What a joined line begins with is not broken off again. -/
theorem writeEscaped_joined {c : Char} (hc : isEscaped c = false) (cs : List Char) :
    writeEscaped false true (jointColumn (c :: cs)) (c :: cs) =
      c :: writeEscaped false false (jointColumn (c :: cs) + 1) cs := by
  have hlow : ¬ jointColumn (c :: cs) > greatestColumn := by
    unfold jointColumn greatestColumn
    split <;> omega
  rw [writeEscaped, if_neg (by simp [hc]), if_neg (by simp [hlow])]

/-- A space at the beginning of a joined line is kept by a backslash of its own. -/
theorem piece_escaped_space (more : List Char) : Piece true ('\\' :: ' ' :: more) [' '] more := by
  intro here hrest
  have hadv := Cursor.rest_advance_of hrest
  have hescape : Yaml.escape here.advance = .ok ([' '], here.advance.advance) := by
    unfold Yaml.escape
    rw [Cursor.peek?, hadv]
    rfl
  refine ⟨here.advance.advance, ?_, Cursor.rest_advance_of hadv⟩
  unfold quotedPiece
  rw [hrest]
  simp [isSeparator, isBreak, hescape, Except.map]

/-- A text between double quotes is read back from its beginning and from a line that is joined to
the one before. -/
structure ReadsEscaped (cs rest : List Char) : Prop where
  text : ∀ isFirst isFresh column,
    Quoted true (writeEscaped isFirst isFresh column cs ++ '"' :: rest) cs rest
  joined : Quoted true (joint cs ++ writeEscaped false true (jointColumn cs) cs ++ '"' :: rest) cs rest

section

variable {rest cs : List Char} (h : ReadsEscaped cs rest) {c : Char}

include h

theorem ReadsEscaped.escaped (hc : isEscaped c = true) (isFirst isFresh : Bool) (column : Nat) :
    Quoted true (writeEscaped isFirst isFresh column (c :: cs) ++ '"' :: rest) (c :: cs) rest := by
  rw [writeEscaped, if_pos hc]
  dsimp only
  split
  · rw [List.append_assoc, List.append_assoc]
    refine Quoted.cons (piece_escapeOf c _) ?_ (by rw [← List.append_assoc]; exact h.joined)
    simp only [List.cons_append, List.length_cons, List.length_append]
    omega
  · rw [List.append_assoc]
    refine Quoted.cons (piece_escapeOf c _) ?_ (h.text _ _ _)
    simp only [List.cons_append, List.length_cons, List.length_append]
    omega

theorem ReadsEscaped.plain (hc : isEscaped c = false) (column : Nat) :
    Quoted true (c :: writeEscaped false false column cs ++ '"' :: rest) (c :: cs) rest := by
  by_cases hs : c = ' '
  · subst hs
    exact Quoted.space (writeEscaped_line cs rest false false column) (h.text _ _ _)
  · have hc' := hc
    simp only [isEscaped, Bool.or_eq_false_iff, decide_eq_false_iff_not] at hc'
    exact Quoted.char (isSeparator_of_not_escaped hc hs) (.inr rfl) (.inl hc'.1) (h.text _ _ _)

/-- A joined line that does not begin with a space begins with what is no separator. -/
theorem ReadsEscaped.start (hs : c ≠ ' ') :
    ∃ d tail, writeEscaped false true (jointColumn (c :: cs)) (c :: cs) ++ '"' :: rest = d :: tail ∧
      isSeparator d = false ∧ Quoted true (d :: tail) (c :: cs) rest := by
  cases hc : isEscaped c with
  | true =>
    have hq := h.escaped hc false true (jointColumn (c :: cs))
    have hback : ∃ tail, writeEscaped false true (jointColumn (c :: cs)) (c :: cs) = '\\' :: tail := by
      rw [writeEscaped, if_pos hc]
      dsimp only
      split <;> exact ⟨_, rfl⟩
    obtain ⟨tail, ht⟩ := hback
    rw [ht] at hq ⊢
    exact ⟨'\\', _, rfl, rfl, hq⟩
  | false =>
    rw [writeEscaped_joined hc]
    exact ⟨c, _, rfl, isSeparator_of_not_escaped hc hs, h.plain hc _⟩

theorem ReadsEscaped.joined_cons (c : Char) :
    Quoted true
      (joint (c :: cs) ++ writeEscaped false true (jointColumn (c :: cs)) (c :: cs) ++ '"' :: rest)
      (c :: cs) rest := by
  by_cases hs : c = ' '
  · subst hs
    rw [writeEscaped_joined rfl]
    have hq := Quoted.cons (piece_escaped_space _) (by simp only [List.length_cons]; omega)
      (h.text false false (jointColumn (' ' :: cs) + 1))
    exact Quoted.cons (broken_continuation (c := '\\') rfl).escape (by simp [continuation]) hq
  · have hjoint : joint (c :: cs) = '\\' :: '\n' :: continuation := by simp [joint, hs]
    obtain ⟨d, tail, ht, hd, hq⟩ := h.start hs
    rw [hjoint, List.append_assoc, ht]
    exact Quoted.cons (broken_continuation hd).escape
      (by simp only [continuation, List.length_cons, List.length_append]; omega) hq

end

theorem readsEscaped (rest cs : List Char) : ReadsEscaped cs rest := by
  induction cs with
  | nil =>
    refine ⟨fun _ _ _ => quoted_close_double rest, ?_⟩
    have hbroken : Broken (continuation ++ '"' :: rest) [] ('"' :: rest) := broken_continuation rfl
    exact Quoted.cons hbroken.escape (by simp [continuation]) (quoted_close_double rest)
  | cons c cs ih =>
    have hjoined := ih.joined_cons c
    refine ⟨fun isFirst isFresh column => ?_, hjoined⟩
    cases hc : isEscaped c with
    | true => exact ih.escaped hc isFirst isFresh column
    | false =>
      rw [writeEscaped, if_neg (by simp [hc])]
      split
      · rw [writeEscaped_joined hc] at hjoined
        exact hjoined
      · exact ih.plain hc _

theorem quoted_writeEscaped (rest cs : List Char) (isFirst isFresh : Bool) (column : Nat) :
    Quoted true (writeEscaped isFirst isFresh column cs ++ '"' :: rest) cs rest :=
  (readsEscaped rest cs).text isFirst isFresh column

end NamedKeys.Yaml
