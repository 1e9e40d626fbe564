import NamedKeys.Proofs.Code.Bits
import NamedKeys.Proofs.Text.Split
import NamedKeys.Proofs.Url.Escape

/-!
# The ASCII forms of international hosts stand in a URL

A label of a host is admitted by its characters, of which those of ASCII are small letters, digits and hyphens
(`isLabelChar_of_mayStand`).  The numbers that stand for the others are written in letters and digits
(`mem_of_mem_encode`), and a label that is written so already is read to the end
(`mem_of_putIn`).  So all characters of the ASCII form of a host are safe in a host
(`isSafeInHost_of_encode?`).
-/

namespace NamedKeys.Url

open NamedKeys.Text

/-! ## Punycode -/

namespace Punycode

variable {c : Char}

theorem isAlphanum_digit : ∀ n < 36, (digit n).isAlphanum = true := by
  decide

theorem threshold_bounds (bias place : Nat) :
    1 ≤ threshold bias place ∧ threshold bias place ≤ 26 := by
  rw [threshold]
  split <;> omega

theorem isAlphanum_of_mem_writeDistance {bias fuel place n : Nat}
    (h : c ∈ writeDistance bias fuel place n) : c.isAlphanum = true := by
  induction fuel generalizing place n with
  | zero => cases h
  | succ fuel ih =>
    have hbounds := threshold_bounds bias place
    rw [writeDistance] at h
    split at h
    · next hn =>
      rw [List.mem_singleton.1 h]
      exact isAlphanum_digit n (by omega)
    · rcases List.mem_cons.1 h with rfl | h
      · have hmod := Nat.mod_lt (n - threshold bias place)
          (by omega : 0 < 36 - threshold bias place)
        exact isAlphanum_digit _ (by omega)
      · exact ih h

/-- What has been written so far is in letters and digits. -/
def Writing.IsAlphanum (writing : Writing) : Prop :=
  ∀ c ∈ writing.text, c.isAlphanum = true

theorem Writing.IsAlphanum.pass {writing : Writing} (h : writing.IsAlphanum) (n : Nat) (c : Char) :
    (writing.pass n c).IsAlphanum := by
  rw [Writing.pass]
  split
  · exact h
  · split
    · intro d hd
      rcases List.mem_append.1 hd with hd | hd
      · exact h d hd
      · exact isAlphanum_of_mem_writeDistance hd
    · exact h

theorem Writing.IsAlphanum.putIn {writing : Writing} (h : writing.IsAlphanum) (label : List Char)
    (previous n : Nat) : (Writing.putIn label (writing, previous) n).1.IsAlphanum := by
  have hpass : ∀ (cs : List Char) (writing : Writing), writing.IsAlphanum →
      (cs.foldl (Writing.pass n) writing).IsAlphanum := by
    intro cs
    induction cs with
    | nil => exact fun _ h => h
    | cons c cs ih => exact fun _ h => ih _ (h.pass n c)
  exact hpass label _ h

/-- The ASCII form of a label holds its characters of ASCII, hyphens, and letters and digits. -/
theorem mem_of_mem_encode {label : List Char} (h : c ∈ encode label) :
    (c ∈ label ∧ c.toNat < 0x80) ∨ c = '-' ∨ c.isAlphanum = true := by
  have hputIn : ∀ (numbers : List Nat) (state : Writing × Nat), state.1.IsAlphanum →
      (numbers.foldl (Writing.putIn label) state).1.IsAlphanum := by
    intro numbers
    induction numbers with
    | nil => exact fun _ h => h
    | cons n numbers ih => exact fun state h => ih _ (h.putIn label state.2 n)
  rw [encode] at h
  dsimp only at h
  rcases List.mem_append.1 h with h | h
  · rcases List.mem_append.1 h with h | h
    · exact .inl ⟨List.mem_of_mem_filter h, of_decide_eq_true (List.mem_filter.1 h).2⟩
    · split at h
      · cases h
      · exact .inr (.inl (List.mem_singleton.1 h))
  · exact .inr (.inr (hputIn _ _ (fun _ hnone => absurd hnone List.not_mem_nil) c h))

/-! ### Reading -/

theorem isSome_of_readDistance? {bias place weight n : Nat} {cs rest : List Char}
    (h : readDistance? bias place weight cs = some (n, rest)) :
    ∀ c ∈ cs, (digitValue? c).isSome = true ∨ c ∈ rest := by
  induction cs generalizing place weight n with
  | nil => simp
  | cons d cs ih =>
    rw [readDistance?] at h
    obtain ⟨value, hvalue, h⟩ := Option.bind_eq_some_iff.1 h
    have hd : (digitValue? d).isSome = true := by rw [hvalue]; rfl
    dsimp only at h
    split at h
    · obtain ⟨-, rfl⟩ := Prod.mk.inj (Option.some.inj h)
      intro c hc
      rcases List.mem_cons.1 hc with rfl | hc
      · exact .inl hd
      · exact .inr hc
    · obtain ⟨⟨further, left⟩, hread, h⟩ := Option.bind_eq_some_iff.1 h
      obtain ⟨-, rfl⟩ := Prod.mk.inj (Option.some.inj h)
      intro c hc
      rcases List.mem_cons.1 hc with rfl | hc
      · exact .inl hd
      · exact ih hread c hc

/-- Reading puts characters into the label, and leaves no digit out. -/
theorem mem_of_putIn {label result cs : List Char} {n place bias fuel : Nat} {isFirst : Bool}
    (h : putIn label n place bias isFirst fuel cs = some result) :
    (∀ c ∈ label, c ∈ result) ∧ ∀ c ∈ cs, (digitValue? c).isSome = true := by
  induction fuel generalizing label n place bias isFirst cs with
  | zero =>
    cases cs with
    | nil =>
      obtain rfl : label = result := by simpa [putIn] using h
      exact ⟨fun _ hc => hc, by simp⟩
    | cons d cs => simp [putIn] at h
  | succ fuel ih =>
    cases cs with
    | nil =>
      obtain rfl : label = result := by simpa [putIn] using h
      exact ⟨fun _ hc => hc, by simp⟩
    | cons d cs =>
      rw [putIn] at h
      · obtain ⟨⟨delta, rest⟩, hread, h⟩ := Option.bind_eq_some_iff.1 h
        dsimp only at h
        split at h
        · cases h
        · obtain ⟨hlabel, hrest⟩ := ih h
          refine ⟨fun c hc => hlabel c ?_, fun c hc => ?_⟩
          · rw [← List.take_append_drop ((place + delta) % (label.length + 1)) label,
              List.mem_append] at hc
            exact List.mem_append.2 (hc.imp id (List.mem_cons_of_mem _))
          · exact (isSome_of_readDistance? hread c hc).elim id (hrest c)
      · exact List.cons_ne_nil _ _

/-- A label that an ASCII form stands for has the characters of the form that are no digits. -/
theorem mem_of_decode? {cs label : List Char} (h : decode? cs = some label) {c : Char} (hc : c ∈ cs) :
    c ∈ label ∨ c = '-' ∨ (digitValue? c).isSome = true := by
  rw [decode?] at h
  rcases not_mem_or_exists_last '-' cs with hnone | ⟨front, back, rfl, hback⟩
  · rw [takeWhile_reverse_of_not_mem hnone] at h
    exact .inr (.inr ((mem_of_putIn h).2 c hc))
  · rw [takeWhile_reverse_append hback, take_append_cons] at h
    obtain ⟨hfront, hdigits⟩ := mem_of_putIn h
    rcases List.mem_append.1 hc with hc | hc
    · exact .inl (hfront c hc)
    · rcases List.mem_cons.1 hc with rfl | hc
      · exact .inr (.inl rfl)
      · exact .inr (.inr (hdigits c hc))

end Punycode

/-! ## Labels and hosts -/

namespace International

variable {c : Char} {label ascii : List Char}

/-- The characters of labels in ASCII. -/
def IsLabelChar (c : Char) : Prop :=
  c.isAlphanum = true ∨ c = '-'

theorem isLabelChar_of_mayStand {before after : List Char} (hc : c.toNat < 0x80)
    (h : mayStand label before c after = true) : IsLabelChar c := by
  by_cases hadmitted : (admitted? c).isSome = true
  · rw [admitted?, if_pos hc, admittedAscii?] at hadmitted
    split at hadmitted
    · next hlower => exact .inl (isAlphanum_of_isLower hlower)
    · split at hadmitted
      · next hdigit => exact .inl (isAlphanum_of_isDigit hdigit)
      · split at hadmitted
        · next hhyphen => exact .inr hhyphen
        · cases hadmitted
  · -- the other characters that some places admit are beyond ASCII
    unfold mayStand at h
    dsimp only at h
    rw [if_neg hadmitted, if_neg (by omega), if_neg (by omega), if_neg (by omega),
      if_neg (by omega), if_neg (by omega), if_neg (by omega), if_neg (by omega),
      if_neg (by omega)] at h
    cases h

theorem isLabelChar_of_isLabel (h : isLabel label = true) (hc : c.toNat < 0x80) (hmem : c ∈ label) :
    IsLabelChar c := by
  have hstand : ∀ (before cs : List Char), allMayStand label before cs = true →
      ∀ c ∈ cs, c.toNat < 0x80 → IsLabelChar c := by
    intro before cs
    induction cs generalizing before with
    | nil => simp
    | cons d cs ih =>
      intro h c hc hlt
      rw [allMayStand, Bool.and_eq_true] at h
      rcases List.mem_cons.1 hc with rfl | hc
      · exact isLabelChar_of_mayStand hlt h.1
      · exact ih _ h.2 c hc hlt
  rw [isLabel] at h
  simp only [Bool.and_eq_true] at h
  exact hstand [] label h.1.1.2 c hmem hc

theorem isLabelChar_of_digitValue? (h : (Punycode.digitValue? c).isSome = true)
    (hc : c.toNat < 0x80) : IsLabelChar c := by
  have hall : ∀ n < 0x80, (Punycode.digitValue? (Char.ofNat n)).isSome = true →
      (Char.ofNat n).isAlphanum = true := by decide
  have := hall c.toNat hc
  rw [Char.ofNat_toNat] at this
  exact .inl (this h)

/-- The code of a label that can be read is made of characters of labels. -/
theorem isLabelChar_of_decode? {code : List Char} (h : (Punycode.decode? code).any isLabel = true)
    (hlt : ∀ c ∈ code, c.toNat < 0x80) : ∀ c ∈ code, IsLabelChar c := by
  obtain ⟨decoded, hdecoded, hlabel⟩ := (Option.any_eq_true _ _).1 h
  intro c hc
  rcases Punycode.mem_of_decode? hdecoded hc with hmem | hmem | hdigit
  · exact isLabelChar_of_isLabel hlabel (hlt c hc) hmem
  · exact .inr hmem
  · exact isLabelChar_of_digitValue? hdigit (hlt c hc)

/-- And so is the code of a label that is written. -/
theorem isLabelChar_of_mem_encode (h : isLabel label = true) :
    ∀ c ∈ Punycode.encode label, IsLabelChar c := by
  intro c hc
  rcases Punycode.mem_of_mem_encode hc with ⟨hmem, hlt⟩ | hmem | halphanum
  · exact isLabelChar_of_isLabel h hlt hmem
  · exact .inr hmem
  · exact .inl halphanum

theorem isLabelChar_of_encodeLabel? (h : encodeLabel? label = some ascii) :
    ∀ c ∈ ascii, IsLabelChar c := by
  have hmark : ∀ {code : List Char}, (∀ c ∈ code, IsLabelChar c) → ∀ c ∈ mark ++ code, IsLabelChar c :=
    fun hcode => List.forall_mem_append.2 ⟨by simp [mark, IsLabelChar], hcode⟩
  have hwritten : ∀ {written : List Char},
      (some written >>= fun ascii => if ascii.length ≤ 63 then some ascii else none) = some ascii →
        written = ascii := fun h => Option.some.inj (Option.ite_none_right_eq_some.1 h).2
  rw [encodeLabel?] at h
  split at h
  · next hascii =>
    have hlt : ∀ c ∈ label, c.toNat < 0x80 := by simpa using hascii
    split at h
    · next hprefix =>
      obtain ⟨code, rfl⟩ := List.isPrefixOf_iff_prefix.1 hprefix
      rw [List.drop_left] at h
      dsimp only at h
      split at h
      · cases h
      · split at h
        · next hdecode =>
          obtain rfl := hwritten h
          exact hmark (isLabelChar_of_decode? hdecode fun c hc => hlt c (List.mem_append_right _ hc))
        · cases h
    · split at h
      · next hlabel =>
        obtain rfl := hwritten h
        exact fun c hc => isLabelChar_of_isLabel hlabel (hlt c hc) hc
      · cases h
  · split at h
    · next hlabel =>
      obtain rfl := hwritten h
      exact hmark (isLabelChar_of_mem_encode hlabel)
    · cases h

/-- The characters of a host in its ASCII form are safe in a host. -/
theorem isSafeInHost_of_encode? {host : List Char} (h : encode? host = some ascii) :
    ∀ c ∈ ascii, isSafeInHost c = true := by
  have hsafe : ∀ {c : Char}, IsLabelChar c → isSafeInHost c = true := by
    rintro c (hc | rfl)
    · simp [isSafeInHost, isSignBut, isUnreserved, hc]
    · simp [isSafeInHost, isSignBut, isUnreserved]
  rw [encode?] at h
  dsimp only at h
  obtain ⟨labels, hlabels, h⟩ := Option.bind_eq_some_iff.1 h
  have hchars : ∀ label ∈ labels, ∀ c ∈ label, IsLabelChar c :=
    Code.forall_of_mapM (fun _ _ => isLabelChar_of_encodeLabel?) hlabels
  obtain ⟨-, hascii⟩ := Option.ite_none_right_eq_some.1 h
  obtain rfl := Option.some.inj hascii
  intro c hc
  rcases mem_joinWith hc with hc | ⟨part, hpart, hc⟩
  · rw [List.mem_singleton.1 hc]
    simp [isSafeInHost, isSignBut, isUnreserved]
  · split at hpart
    · rcases List.mem_append.1 hpart with hpart | hpart
      · exact hsafe (hchars part hpart c hc)
      · rw [List.mem_singleton.1 hpart] at hc
        cases hc
    · exact hsafe (hchars part hpart c hc)

end International

end NamedKeys.Url
