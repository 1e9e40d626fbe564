import Mathlib.Data.Bool.AllAny
import NamedKeys.Proofs.Yaml.Plain
import NamedKeys.Yaml.Value

/-!
# A written entry is read back

The document of one entry is cut into seven tokens whatever its text is, and loading it gives the
mapping of that one entry, with the text as a text:

    IsKeyWord key → load (writeEntry key text) = .ok (.map [(.text key, .atom (.text text))])
                                                                             (load_writeEntry)

The steps of the lexer are followed one by one from the first mark to the end of the text.
-/

namespace NamedKeys.Yaml

/-- The characters of the words for kinds. -/
def isKeyChar (c : Char) : Bool :=
  c.isLower || c = '_'

/-- A word that may be the key of an entry. -/
structure IsKeyWord (key : List Char) : Prop where
  ne_nil : key ≠ []
  chars : ∀ c ∈ key, isKeyChar c = true
  short : key.length ≤ longestKey
  tag : Tag.ofPlain key = .text

namespace Lexer

/-! ## Steps of the lexer -/

theorem skipBlanks_stay {lexer : Lexer} (h : ∀ c ∈ lexer.here.rest.head?, c ≠ ' ' ∧ c ≠ '#' ∧
    isBreak c = false) (fuel : Nat) : skipBlanks fuel lexer = lexer := by
  cases fuel with
  | zero => rfl
  | succ fuel =>
    have hskip : lexer.here.skipWhile (· = ' ') = lexer.here := by
      unfold Cursor.skipWhile Cursor.span
      cases hrest : lexer.here.rest with
      | nil => rfl
      | cons c cs =>
        have hc := (h c (by rw [hrest]; rfl)).1
        simp [hc, Cursor.skip]
    have hhash : lexer.here.at? '#' = false := by
      unfold Cursor.at?
      cases hrest : lexer.here.rest with
      | nil => rfl
      | cons c cs =>
        have hc := (h c (by rw [hrest]; rfl)).2.1
        simp [hc]
    rw [skipBlanks, hskip]
    simp only [hhash, Bool.false_eq_true, if_false,
      Cursor.lineBreak?_none fun c hc => (h c hc).2.2]

theorem skipBlanks_feed {lexer : Lexer} {cs : List Char} (hrest : lexer.here.rest = '\n' :: cs)
    (fuel : Nat) :
    skipBlanks (fuel + 1) lexer = skipBlanks fuel
      { lexer with here := lexer.here.advance, allowsKey := lexer.allowsKey || lexer.flow = 0 } := by
  have hskip : lexer.here.skipWhile (· = ' ') = lexer.here := by
    unfold Cursor.skipWhile Cursor.span
    rw [hrest]
    rfl
  have hhash : lexer.here.at? '#' = false := by
    unfold Cursor.at?
    rw [hrest]
    rfl
  rw [skipBlanks, hskip]
  simp only [hhash, Bool.false_eq_true, if_false, Cursor.lineBreak?_feed hrest]

theorem skipBlanks_space {lexer : Lexer} {c : Char} {cs : List Char}
    (hrest : lexer.here.rest = ' ' :: c :: cs) (hc : c ≠ ' ' ∧ c ≠ '#' ∧ isBreak c = false)
    (fuel : Nat) :
    skipBlanks (fuel + 1) lexer = { lexer with here := lexer.here.advance } := by
  have hadv : lexer.here.advance.rest = c :: cs := Cursor.rest_advance_of hrest
  have hskip : lexer.here.skipWhile (· = ' ') = lexer.here.advance := by
    unfold Cursor.skipWhile Cursor.span
    rw [hrest]
    simp [hc.1, Cursor.skip]
  have hhash : lexer.here.advance.at? '#' = false := by
    unfold Cursor.at?
    rw [hadv]
    simp [hc.2.1]
  have hbreak : lexer.here.advance.lineBreak? = none := by
    apply Cursor.lineBreak?_none
    rw [hadv]
    simpa using hc.2.2
  rw [skipBlanks, hskip]
  simp only [hhash, Bool.false_eq_true, if_false, hbreak]

/-- One token is read: nothing is forgotten or closed before it. -/
theorem run_step (ahead : Lexer) {lexer next : Lexer} {c : Char} {cs : List Char}
    (hahead : lexer.toNext = ahead)
    (hkeys : ahead.forgetStale = .ok ahead) (hclose : ahead.closeTo ahead.here.column = ahead)
    (hrest : ahead.here.rest = c :: cs) (htoken : ahead.token c cs = .ok next) (fuel : Nat) :
    run (fuel + 1) lexer = run fuel next := by
  rw [run]
  simp only [hahead, hkeys, bind, Except.bind, hclose, hrest, htoken, Except.map]

/-- The end of the text is reached. -/
theorem run_end {lexer ahead last : Lexer} (hahead : lexer.toNext = ahead)
    (hkeys : ahead.forgetStale = .ok ahead) (hclose : ahead.closeTo ahead.here.column = ahead)
    (hrest : ahead.here.rest = []) (hlast : (ahead.closeTo (-1)).forgetKey = .ok last) (fuel : Nat) :
    run (fuel + 1) lexer = last.tokens.reverse := by
  rw [run]
  simp only [hahead, hkeys, bind, Except.bind, hclose, hrest, hlast, Except.map]

theorem toNext_eq {lexer : Lexer} (h : lexer.here.index = 0 → lexer.here.at? '\uFEFF' = false) :
    lexer.toNext = skipBlanks (lexer.here.rest.length + 1) lexer := by
  unfold toNext
  rw [if_neg]
  simpa using h

/-! ## Scalars as tokens -/

/-- The characters that begin no plain scalar. -/
def barred : List Char :=
  ['#', ',', '[', ']', '{', '}', '&', '*', '!', '|', '>', '\'', '"', '%', '@', '`']

theorem mayBegin_cases {c : Char} {cs : List Char} (h : mayBegin c cs = true) :
    c ∉ barred ∧ (c ∈ ['-', '?', ':'] → isSeparated cs = false) := by
  have hcases : c ∉ barred ∧ ((¬c = '?' ∧ ¬c = ':' ∧ ¬c = '-') ∨ isSeparated cs = false) := by
    simpa [mayBegin, barred] using h
  refine ⟨hcases.1, fun hmark => ?_⟩
  simp only [List.mem_cons, List.not_mem_nil, or_false] at hmark
  rcases hcases.2 with ⟨h1, h2, h3⟩ | hseparated
  · rcases hmark with hdash | hquestion | hcolon
    · exact absurd hdash h3
    · exact absurd hquestion h1
    · exact absurd hcolon h2
  · exact hseparated

theorem startsPlain_of {c : Char} {cs : List Char} (hsep : isSeparator c = false) (hc : c ∉ barred)
    (hnext : c ∈ ['-', '?', ':'] → isSeparated cs = false) : startsPlain false (c :: cs) = true := by
  simp only [barred, List.mem_cons, List.not_mem_nil, or_false, not_or] at hc hnext
  by_cases h : c = '-' ∨ c = '?' ∨ c = ':'
  · simp [startsPlain, hnext h, h]
  · rw [not_or, not_or] at h
    obtain ⟨h1, h2, h3, h4, h5, h6, h7, h8, h9, h10, h11, h12, h13, h14, h15, h16⟩ := hc
    simp [startsPlain, *]

/-- A plain scalar begins where none of the other tokens can. -/
theorem token_plain {lexer : Lexer} {c : Char} {cs : List Char} (hflow : lexer.flow = 0)
    (hrest : lexer.here.rest = c :: cs) (hfirst : lexer.here.column = 0 → c ≠ '-' ∧ c ≠ '.')
    (hsep : isSeparator c = false) (hc : c ∉ barred)
    (hnext : c ∈ ['-', '?', ':'] → isSeparated cs = false) {text : List Char} {last : Cursor}
    {broken : Bool} (hscalar : plainScalar false (lexer.indent + 1).toNat lexer.here.rest.length
      lexer.here = (text, last, broken)) :
    lexer.token c cs = (lexer.keyToken (.scalar text true) last).map
      fun lexer => { lexer with allowsKey := broken } := by
  have hstart := startsPlain_of hsep hc hnext
  simp only [barred, List.mem_cons, List.not_mem_nil, or_false, not_or] at hc hnext
  obtain ⟨h1, h2, h3, h4, h5, h6, h7, h8, h9, h10, h11, h12, h13, h14, -, -⟩ := hc
  have hdash : ¬ (c = '-' ∧ isSeparated cs = true) := fun h => by simp [hnext (.inl h.1)] at h
  have hmark : ¬ (c = '?' ∧ isSeparated cs = true) := fun h => by
    simp [hnext (.inr (.inl h.1))] at h
  have hcolon : ¬ (c = ':' ∧ isSeparated cs = true) := fun h => by
    simp [hnext (.inr (.inr h.1))] at h
  have hrow : ¬ ((c = '-' ∧ lexer.here.column = 0) ∧ startsMarker lexer.here.rest = true) :=
    fun h => (hfirst h.1.2).1 h.1.1
  have hdot : ¬ ((c = '.' ∧ lexer.here.column = 0) ∧ startsMarker lexer.here.rest = true) :=
    fun h => (hfirst h.1.2).2 h.1.1
  unfold token
  rw [if_neg (by simp [h14]), if_neg (by simpa using hrow), if_neg (by simpa using hdot), if_neg h3,
    if_neg h5, if_neg h4, if_neg h6, if_neg h2, if_neg (by simpa using hdash),
    if_neg (by simpa [hflow] using hmark), if_neg (by simpa [hflow] using hcolon), if_neg h8,
    if_neg h7, if_neg h9, if_neg (by simp [h10]), if_neg (by simp [h11]), if_neg (by simp [h12, h13]),
    if_pos (by simpa [hflow, hrest] using hstart)]
  simp only [hflow, ne_eq, not_true_eq_false, decide_false, hscalar]
  rfl

theorem token_quoted {lexer : Lexer} {c : Char} {cs : List Char}
    (hrest : lexer.here.rest = c :: cs) (hc : c = '\'' ∨ c = '"') {text rest : List Char}
    (hquoted : Quoted (c = '"') cs text rest) :
    ∃ last, lexer.token c cs = lexer.keyToken (.scalar text false) last ∧ last.rest = rest := by
  obtain ⟨last, hread, hlast⟩ := hquoted lexer.here.advance (cs.length + 1)
    (Cursor.rest_advance_of hrest) (Nat.lt_succ_self _)
  refine ⟨last, ?_, hlast⟩
  rcases hc with rfl | rfl
  · have hread' : quotedScalar false (cs.length + 1) lexer.here.advance = .ok (text, last) := hread
    simp [token, hread', bind, Except.bind]
  · have hread' : quotedScalar true (cs.length + 1) lexer.here.advance = .ok (text, last) := hread
    simp [token, hread', bind, Except.bind]

theorem keyToken_value {lexer : Lexer} (hkey : lexer.allowsKey = false) (token : Token)
    (next : Cursor) :
    lexer.keyToken token next = .ok { lexer.push token with here := next, allowsKey := false } := by
  unfold keyToken rememberKey
  rw [hkey]
  rfl

/-- The scalar that comes next is the text, and nothing but the end of its line follows. -/
def ReadsText (lexer : Lexer) (text : List Char) : Prop :=
  ∃ c cs last allowsKey, lexer.here.rest = c :: cs ∧ (c ≠ ' ' ∧ c ≠ '#' ∧ isBreak c = false) ∧
    lexer.token c cs = .ok { lexer.push (.scalar text (isPlainText text)) with
      here := last, allowsKey := allowsKey } ∧ (last.rest = [] ∨ last.rest = ['\n'])

theorem readsText_plain {lexer : Lexer} {column : Nat} {text : List Char} (hflow : lexer.flow = 0)
    (hindent : lexer.indent = 0) (hkey : lexer.allowsKey = false) (hcolumn : lexer.here.column ≠ 0)
    (hplain : isPlainText text = true)
    (hrest : lexer.here.rest = writeFolded false column none text ++ ['\n']) :
    lexer.ReadsText text := by
  obtain ⟨c, cs, rfl, hchars, hspace, -, hbegin, hmark, -⟩ := isPlainText_cases hplain
  have hsep : isSeparator c = false :=
    isSeparator_of_printable (hchars c List.mem_cons_self) hspace
  obtain ⟨column', before', hwrite⟩ := writeFolded_word (w := [c])
    (by simpa using ⟨hspace, ne_feed_of_not_separator hsep⟩) cs column none
  obtain ⟨last, hscalar, hlast⟩ := plainScalar_writeFolded hplain hrest
  rw [List.singleton_append, List.singleton_append] at hwrite
  rw [hwrite, List.cons_append] at hrest
  obtain ⟨hbarred, hnext⟩ := mayBegin_cases hbegin
  have hnext' : c ∈ ['-', '?', ':'] →
      isSeparated (writeFolded false column' before' cs ++ ['\n']) = false :=
    fun hc => isSeparated_writeFolded (hnext hc) _ _ _
  have hscalar' : plainScalar false (lexer.indent + 1).toNat lexer.here.rest.length lexer.here =
      (c :: cs, last, true) := by
    rw [hindent]
    exact hscalar
  have htoken := token_plain hflow hrest (fun h => absurd h hcolumn) hsep hbarred hnext' hscalar'
  have hbreak : isBreak c = false := by
    simp only [isSeparator, Bool.or_eq_false_iff] at hsep
    exact hsep.2
  refine ⟨c, _, last, true, hrest, ⟨hspace, ?_, hbreak⟩, ?_, .inl hlast⟩
  · rintro rfl
    exact hbarred (by decide)
  · rw [htoken, keyToken_value hkey, hplain]
    rfl

theorem readsText_quoted {lexer : Lexer} {text : List Char} (hkey : lexer.allowsKey = false)
    (hplain : isPlainText text = false) {c : Char} {cs : List Char}
    (hrest : lexer.here.rest = c :: cs) (hc : c = '\'' ∨ c = '"')
    (hquoted : Quoted (c = '"') cs text ['\n']) : lexer.ReadsText text := by
  obtain ⟨last, htoken, hlast⟩ := token_quoted hrest hc hquoted
  refine ⟨c, cs, last, false, hrest, ?_, ?_, .inr hlast⟩
  · rcases hc with rfl | rfl <;> exact ⟨by decide, by decide, rfl⟩
  · rw [htoken, keyToken_value hkey, hplain]

/-- The scalar after a colon is read to the end of its text, in each of the three styles. -/
theorem readsText_writeScalar (lexer : Lexer) (column : Nat) (text : List Char)
    (hflow : lexer.flow = 0) (hindent : lexer.indent = 0) (hkey : lexer.allowsKey = false)
    (hcolumn : lexer.here.column ≠ 0)
    (hrest : lexer.here.rest = writeScalar column text ++ ['\n']) : lexer.ReadsText text := by
  unfold writeScalar at hrest
  split at hrest
  · next hplain => exact readsText_plain hflow hindent hkey hcolumn hplain hrest
  · next hplain =>
    have hplain : isPlainText text = false := by simpa using hplain
    split at hrest
    · next hsingle =>
      simp only [List.cons_append, List.append_assoc, List.nil_append] at hrest
      exact readsText_quoted hkey hplain hrest (.inl rfl)
        (quoted_writeFolded (by simp) hsingle (column + 1))
    · simp only [List.cons_append, List.append_assoc, List.nil_append] at hrest
      exact readsText_quoted hkey hplain hrest (.inr rfl) (quoted_writeEscaped _ _ _ _ _)

/-! ## Keys as tokens -/

theorem isSeparator_of_keyChar {c : Char} (h : isKeyChar c = true) : isSeparator c = false := by
  by_contra hsep
  simp only [Bool.not_eq_false, isSeparator, isBreak, Bool.or_eq_true, decide_eq_true_eq] at hsep
  rcases hsep with (rfl | rfl) | (((rfl | rfl) | rfl) | rfl) | rfl <;> revert h <;> decide

theorem ne_of_keyChar {c d : Char} (h : isKeyChar c = true) (hd : isKeyChar d = false) : c ≠ d := by
  rintro rfl
  rw [h] at hd
  cases hd

theorem not_keyChar_of_barred : ∀ c ∈ barred, isKeyChar c = false :=
  List.all_iff_forall_prop.1 (by decide)

theorem skip_keyWord {w cs : List Char} (hw : ∀ c ∈ w, isKeyChar c = true) (index line column : Nat) :
    Cursor.skip w.length ⟨w ++ cs, index, line, column⟩ =
      ⟨cs, index + w.length, line, column + w.length⟩ := by
  induction w generalizing index column with
  | nil => rfl
  | cons c w ih =>
    have hc := hw c List.mem_cons_self
    have hsep := isSeparator_of_keyChar hc
    simp only [isSeparator, Bool.or_eq_false_iff] at hsep
    have hstep : Cursor.advance ⟨c :: w ++ cs, index, line, column⟩ =
        ⟨w ++ cs, index + 1, line, column + 1⟩ := by
      simp [Cursor.advance, hsep.2, ne_of_keyChar hc (d := '\uFEFF') rfl]
    rw [List.length_cons, Cursor.skip, hstep, ih fun d hd => hw d (List.mem_cons_of_mem _ hd)]
    simp only [Cursor.mk.injEq, true_and]
    omega

/-- The key before a colon is one word. -/
theorem plainScalar_keyWord {key cs : List Char} (hkey : IsKeyWord key) (least index line column : Nat)
    (fuel : Nat) :
    plainScalar false least (fuel + 1) ⟨key ++ ':' :: ' ' :: cs, index, line, column⟩ =
      (key, ⟨':' :: ' ' :: cs, index + key.length, line, column + key.length⟩, false) := by
  have hrun : plainRun false (key ++ ':' :: ' ' :: cs) = key.length := by
    refine plainRun_word (fun c hc => isSeparator_of_keyChar (hkey.chars c hc)) ?_ rfl
    intro h
    cases h
  have hspaces : plainSpaces ⟨':' :: ' ' :: cs, index + key.length, line, column + key.length⟩ =
      ([], ⟨':' :: ' ' :: cs, index + key.length, line, column + key.length⟩, false) := by
    have hcolon : isSeparator ':' = false := rfl
    exact plainSpaces_spaces (n := 0) rfl hcolon
  rw [plainScalar]
  simp only [hrun, skip_keyWord hkey.chars, hspaces, List.take_left]
  rfl

/-! ## The tokens of an entry -/

/-- The lexer after the mark of a document. -/
def afterMark (cs : List Char) : Lexer :=
  ⟨⟨cs, 3, 0, 3⟩, 0, -1, [], false, [], [.documentStart]⟩

/-- The lexer after the key of the first entry. -/
def afterKey (key cs : List Char) : Lexer :=
  ⟨⟨cs, 4 + key.length, 1, key.length⟩, 0, -1, [], false, [(0, ⟨1, false, 4, 1, 0⟩)],
    [.scalar key true, .documentStart]⟩

/-- The lexer after the colon of the first entry. -/
def afterColon (key cs : List Char) : Lexer :=
  ⟨⟨cs, 4 + key.length + 1, 1, key.length + 1⟩, 0, 0, [-1], false, [],
    [.value, .scalar key true, .key, .blockMappingStart, .documentStart]⟩

theorem run_mark (cs : List Char) (fuel : Nat) :
    run (fuel + 1) (.start ("---\n".toList ++ cs)) = run fuel (afterMark ('\n' :: cs)) :=
  run_step _ rfl rfl rfl rfl rfl fuel

theorem run_key {key : List Char} (hkey : IsKeyWord key) (cs : List Char) (fuel : Nat) :
    run (fuel + 1) (afterMark ('\n' :: key ++ ':' :: ' ' :: cs)) =
      run fuel (afterKey key (':' :: ' ' :: cs)) := by
  obtain ⟨c, w, rfl⟩ := List.exists_cons_of_ne_nil hkey.ne_nil
  have hc := hkey.chars c List.mem_cons_self
  have hsep := isSeparator_of_keyChar hc
  have hbreak : isBreak c = false := by
    simp only [isSeparator, Bool.or_eq_false_iff] at hsep
    exact hsep.2
  refine run_step ⟨⟨c :: w ++ ':' :: ' ' :: cs, 4, 1, 0⟩, 0, -1, [], true, [], [.documentStart]⟩
    ?_ rfl rfl rfl ?_ fuel
  · rw [toNext_eq (fun h => by cases h), skipBlanks_feed rfl, skipBlanks_stay]
    · rfl
    · intro d hd
      obtain rfl : c = d := Option.some.inj hd
      exact ⟨ne_of_keyChar hc rfl, ne_of_keyChar hc rfl, hbreak⟩
  · have hbarred : c ∉ barred := fun h => ne_of_keyChar hc (not_keyChar_of_barred c h) rfl
    rw [token_plain rfl rfl (fun _ => ⟨ne_of_keyChar hc rfl, ne_of_keyChar hc rfl⟩) hsep hbarred ?_
      (plainScalar_keyWord hkey _ _ _ _ _), Nat.zero_add]
    · rfl
    · intro h
      simp only [List.mem_cons, List.not_mem_nil, or_false] at h
      rcases h with rfl | rfl | rfl <;> cases hc

theorem run_colon {key : List Char} (hkey : IsKeyWord key) (cs : List Char) (fuel : Nat) :
    run (fuel + 1) (afterKey key (':' :: ' ' :: cs)) = run fuel (afterColon key (' ' :: cs)) := by
  have hfresh : (afterKey key (':' :: ' ' :: cs)).isStale ⟨1, false, 4, 1, 0⟩ = false := by
    have := hkey.short
    simp [isStale, afterKey]
    omega
  refine run_step (afterKey key (':' :: ' ' :: cs)) ?_ ?_ rfl rfl rfl fuel
  · rw [toNext_eq (fun _ => rfl), skipBlanks_stay]
    simp [afterKey, isBreak]
  · unfold forgetStale
    have hkeys : (afterKey key (':' :: ' ' :: cs)).keys = [(0, ⟨1, false, 4, 1, 0⟩)] := rfl
    rw [hkeys]
    simp only [List.any_cons, hfresh, List.any_nil, List.filter_cons, List.filter_nil]
    rfl

theorem run_value (key text : List Char) (fuel : Nat) :
    run (fuel + 2) (afterColon key (' ' :: writeScalar (key.length + 2) text ++ ['\n'])) =
      [.documentStart, .blockMappingStart, .key, .scalar key true, .value,
        .scalar text (isPlainText text), .blockEnd] := by
  let ahead : Lexer := { afterColon key (' ' :: writeScalar (key.length + 2) text ++ ['\n']) with
    here := ⟨writeScalar (key.length + 2) text ++ ['\n'], 4 + key.length + 2, 1, key.length + 2⟩ }
  obtain ⟨c, cs, last, allowsKey, hrest, hc, htoken, hlast⟩ :=
    readsText_writeScalar ahead (key.length + 2) text rfl rfl rfl (by simp [ahead]) rfl
  have hahead : (afterColon key (' ' :: writeScalar (key.length + 2) text ++ ['\n'])).toNext = ahead := by
    have hspace : (afterColon key (' ' :: writeScalar (key.length + 2) text ++ ['\n'])).here.rest =
        ' ' :: c :: cs := congrArg (' ' :: ·) hrest
    rw [toNext_eq (fun _ => rfl), skipBlanks_space hspace hc]
    rfl
  rw [run_step ahead hahead rfl rfl hrest htoken]
  -- the text ends here or with the line that ends here
  obtain ⟨place, allows, hplace, hend⟩ : ∃ place allows, place.rest = [] ∧
      Lexer.toNext { ahead.push (.scalar text (isPlainText text)) with here := last, allowsKey } =
        { ahead.push (.scalar text (isPlainText text)) with here := place, allowsKey := allows } := by
    rcases hlast with hlast | hlast
    · refine ⟨last, allowsKey, hlast, ?_⟩
      rw [toNext_eq (fun _ => by simp [Cursor.at?, hlast]), skipBlanks_stay (by simp [hlast])]
    · refine ⟨last.advance, allowsKey || true, Cursor.rest_advance_of hlast, ?_⟩
      rw [toNext_eq (fun _ => by simp [Cursor.at?, hlast]), skipBlanks_feed hlast,
        skipBlanks_stay (by simp [Cursor.rest_advance_of hlast])]
      rfl
  have hclose : Lexer.closeTo { ahead.push (.scalar text (isPlainText text)) with
      here := place, allowsKey := allows } place.column =
      { ahead.push (.scalar text (isPlainText text)) with here := place, allowsKey := allows } := by
    have hcolumn : ¬ (0 : Int) > place.column := by omega
    simp [closeTo, unindent, ahead, push, afterColon, hcolumn]
  exact run_end hend rfl hclose hplace rfl fuel

end Lexer

/-! ## The characters of a document -/

theorem writeFolded_chars {isQuoted : Bool} {cs : List Char} (h : ∀ c ∈ cs, IsSingleChar c)
    (column : Nat) (before : Option Char) :
    ∀ c ∈ writeFolded isQuoted column before cs, IsSingleChar c := by
  induction cs generalizing column before with
  | nil => simp [writeFolded]
  | cons c cs ih =>
    have hc := h c List.mem_cons_self
    have ih := ih fun d hd => h d (List.mem_cons_of_mem _ hd)
    have hfeed : IsSingleChar '\n' := .inl rfl
    have hspace : IsSingleChar ' ' := .inr rfl
    intro d hd
    rw [writeFolded] at hd
    split at hd
    · rcases List.mem_append.1 hd with hd | hd
      · rcases List.mem_append.1 hd with hd | hd
        · split at hd
          · cases hd
          · rw [List.mem_singleton.1 hd]
            exact hfeed
        · rcases List.mem_cons.1 hd with rfl | hd
          · exact hfeed
          · split at hd
            · cases hd
            · simp only [continuation, List.mem_cons, List.not_mem_nil, or_false, or_self] at hd
              rw [hd]
              exact hspace
      · exact ih _ _ d hd
    · split at hd
      · simp only [continuation, List.cons_append, List.nil_append, List.mem_cons] at hd
        rcases hd with rfl | rfl | rfl | hd
        · exact hfeed
        · exact hspace
        · exact hspace
        · exact ih _ _ d hd
      · split at hd
        · simp only [List.mem_cons] at hd
          rcases hd with rfl | rfl | hd
          · exact .inr rfl
          · exact .inr rfl
          · exact ih _ _ d hd
        · rcases List.mem_cons.1 hd with rfl | hd
          · exact hc
          · exact ih _ _ d hd

theorem isPrintableAscii_upperHexDigit : ∀ n < 16, isPrintableAscii (Text.upperHexDigit n) = true := by
  decide

theorem hexDigits_chars (width n : Nat) :
    ∀ c ∈ Text.hexDigits Text.upperHexDigit width n, isPrintableAscii c = true := by
  induction width with
  | zero => simp [Text.hexDigits]
  | succ width ih =>
    intro c hc
    rcases List.mem_cons.1 hc with rfl | hc
    · exact isPrintableAscii_upperHexDigit _ (Nat.mod_lt _ (by omega))
    · exact ih c hc

theorem escapeLetters_chars : ∀ p ∈ escapeLetters, isPrintableAscii p.2 = true := by
  decide

theorem escapeOf_chars (c : Char) : ∀ d ∈ escapeOf c, isPrintableAscii d = true := by
  intro d hd
  unfold escapeOf at hd
  split at hd
  · next letter h =>
    obtain ⟨before, after, heq, -⟩ := List.lookup_eq_some_iff.1 h
    rw [List.mem_singleton.1 hd]
    exact escapeLetters_chars (c, letter) (by simp [heq])
  · dsimp only at hd
    have number : ∀ {letter : Char} {width : Nat}, isPrintableAscii letter = true →
        d ∈ letter :: Text.hexDigits Text.upperHexDigit width c.toNat → isPrintableAscii d = true := by
      intro letter width hletter hmem
      rcases List.mem_cons.1 hmem with rfl | hmem
      · exact hletter
      · exact hexDigits_chars _ _ d hmem
    split at hd
    · exact number rfl hd
    · split at hd
      · exact number rfl hd
      · exact number rfl hd

theorem joint_chars (cs : List Char) : ∀ c ∈ joint cs, IsSingleChar c := by
  intro c hc
  simp only [joint, continuation, List.cons_append, List.nil_append, List.mem_cons] at hc
  rcases hc with rfl | rfl | rfl | rfl | hc
  · exact .inr rfl
  · exact .inl rfl
  · exact .inr rfl
  · exact .inr rfl
  · split at hc
    · rw [List.mem_singleton.1 hc]
      exact .inr rfl
    · cases hc

theorem writeEscaped_chars (cs : List Char) (isFirst isFresh : Bool) (column : Nat) :
    ∀ c ∈ writeEscaped isFirst isFresh column cs, IsSingleChar c := by
  induction cs generalizing isFirst isFresh column with
  | nil => simp [writeEscaped]
  | cons c cs ih =>
    intro d hd
    have hescape : ∀ e ∈ '\\' :: escapeOf c, IsSingleChar e := by
      intro e he
      rcases List.mem_cons.1 he with rfl | he
      · exact .inr rfl
      · exact .inr (escapeOf_chars c e he)
    rw [writeEscaped] at hd
    split at hd
    · dsimp only at hd
      split at hd
      · rcases List.mem_append.1 hd with hd | hd
        · rcases List.mem_append.1 hd with hd | hd
          · exact hescape d hd
          · exact joint_chars cs d hd
        · exact ih _ _ _ d hd
      · rcases List.mem_append.1 hd with hd | hd
        · exact hescape d hd
        · exact ih _ _ _ d hd
    · next hc =>
      have hprintable : isPrintableAscii c = true := by
        simp only [isEscaped, Bool.or_eq_true, Bool.not_eq_true', not_or] at hc
        simpa using hc.2
      split at hd
      · rcases List.mem_append.1 hd with hd | hd
        · exact joint_chars _ d hd
        · rcases List.mem_cons.1 hd with rfl | hd
          · exact .inr hprintable
          · exact ih _ _ _ d hd
      · rcases List.mem_cons.1 hd with rfl | hd
        · exact .inr hprintable
        · exact ih _ _ _ d hd

theorem writeScalar_chars (column : Nat) (cs : List Char) :
    ∀ c ∈ writeScalar column cs, IsSingleChar c := by
  intro c hc
  unfold writeScalar at hc
  split at hc
  · next h =>
    obtain ⟨d, rest, rfl, hchars, -⟩ := isPlainText_cases h
    exact writeFolded_chars (fun e he => .inr (hchars e he)) _ _ c hc
  · split at hc
    · next h =>
      have hchars : ∀ d ∈ cs, IsSingleChar d := by
        simp only [isSingleText, Bool.and_eq_true, List.all_eq_true, Bool.or_eq_true,
          decide_eq_true_eq] at h
        exact h.1
      simp only [List.mem_cons, List.mem_append, List.not_mem_nil, or_false] at hc
      rcases hc with (rfl | hc) | rfl
      · exact .inr rfl
      · exact writeFolded_chars hchars _ _ c hc
      · exact .inr rfl
    · simp only [List.mem_cons, List.mem_append, List.not_mem_nil, or_false] at hc
      rcases hc with (rfl | hc) | rfl
      · exact .inr rfl
      · exact writeEscaped_chars _ _ _ _ c hc
      · exact .inr rfl

theorem isSingleChar_of_keyChar {c : Char} (h : isKeyChar c = true) : IsSingleChar c := by
  have hrange : ((c.val ≥ 97 && c.val ≤ 122) || c = '_') = true := h
  simp only [Bool.or_eq_true, Bool.and_eq_true, decide_eq_true_eq] at hrange
  right
  rcases hrange with h | rfl
  · simp only [isPrintableAscii, Bool.and_eq_true, decide_eq_true_eq]
    have h1 : (97 : Nat) ≤ c.toNat := UInt32.le_iff_toNat_le.1 h.1
    have h2 : c.toNat ≤ 122 := UInt32.le_iff_toNat_le.1 h.2
    omega
  · rfl

/-- A written document holds printable characters of ASCII and line feeds. -/
theorem writeEntry_chars {key : List Char} (hkey : IsKeyWord key) (text : List Char) :
    ∀ c ∈ writeEntry key text, IsSingleChar c := by
  intro c hc
  simp only [writeEntry, List.mem_append, List.mem_cons, List.not_mem_nil, or_false] at hc
  rcases hc with ((hc | hc) | rfl | rfl | hc) | rfl
  · have : ∀ d ∈ "---\n".toList, d = '\n' ∨ isPrintableAscii d = true :=
      List.all_iff_forall_prop.1 (by decide)
    exact this c hc
  · exact isSingleChar_of_keyChar (hkey.chars c hc)
  · exact .inr rfl
  · exact .inr rfl
  · exact writeScalar_chars _ _ c hc
  · exact .inl rfl

/-! ## Loading an entry -/

theorem tokens_writeEntry {key : List Char} (hkey : IsKeyWord key) (text : List Char) :
    tokens (writeEntry key text) =
      [.documentStart, .blockMappingStart, .key, .scalar key true, .value,
        .scalar text (isPlainText text), .blockEnd] := by
  have hreadable : (writeEntry key text).all isReadable = true := by
    rw [List.all_eq_true]
    intro c hc
    rcases writeEntry_chars hkey text c hc with rfl | h
    · rfl
    · simp only [isPrintableAscii, Bool.and_eq_true, decide_eq_true_eq] at h
      simp [isReadable, h]
  rw [tokens, if_pos hreadable]
  have hlength : 4 ≤ (writeEntry key text).length := by
    simp [writeEntry]
  obtain ⟨fuel, hfuel⟩ : ∃ fuel, (writeEntry key text).length + 1 = fuel + 5 :=
    ⟨(writeEntry key text).length - 4, by omega⟩
  have htext : writeEntry key text = "---\n".toList ++
      (key ++ ':' :: ' ' :: (writeScalar (key.length + 2) text ++ ['\n'])) := by
    simp [writeEntry]
  have hread := Lexer.run_key hkey (writeScalar (key.length + 2) text ++ ['\n']) (fuel + 3)
  have hcolon := Lexer.run_colon hkey (writeScalar (key.length + 2) text ++ ['\n']) (fuel + 2)
  rw [hfuel, htext, Lexer.run_mark]
  exact hread.trans (hcolon.trans (Lexer.run_value key text fuel))

theorem load_writeEntry {key : List Char} (hkey : IsKeyWord key) (text : List Char) :
    load (writeEntry key text) = .ok (.map [(.text key, .atom (.text text))]) := by
  have hkeyTag : Building.scalarTag key true none = .text := hkey.tag
  have htextTag : Building.scalarTag text (isPlainText text) none = .text := by
    unfold Building.scalarTag
    split
    · next h =>
      have hplain : isPlainText text = true := by simpa using h
      obtain ⟨_, _, _, _, _, _, _, _, htag⟩ := isPlainText_cases hplain
      exact htag
    · rfl
  have hdocument : Document.ofTokens (tokens (writeEntry key text)) = .ok (some
      ⟨⟨[(0, .mapping .mapping [(1, 2)]), (2, .scalar .text text), (1, .scalar .text key)]⟩, 0⟩) := by
    rw [tokens_writeEntry hkey]
    have : Document.ofTokens [.documentStart, .blockMappingStart, .key, .scalar key true, .value,
        .scalar text (isPlainText text), .blockEnd] = .ok (some ⟨⟨[(0, .mapping .mapping [(1, 2)]),
          (2, .scalar (Building.scalarTag text (isPlainText text) none) text),
          (1, .scalar (Building.scalarTag key true none) key)]⟩, 0⟩) := rfl
    rw [this, hkeyTag, htextTag]
  unfold load
  rw [hdocument]
  rfl

end NamedKeys.Yaml
