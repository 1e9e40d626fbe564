import NamedKeys.Proofs.Url.Parameters

/-!
# Escapes stand

What escaping writes are the safe characters of the text, and percent signs with digits.  These are signs of
ASCII (`isSignBut_of_mem_escape`), which lower case leaves safe, and no separator is made
(`mem_of_mem_escape`).
-/

namespace NamedKeys

namespace Url

variable {others : String} {c : Char} {cs : List Char}

/-! ## Signs -/

theorem isAlphanum_of_isLower (h : c.isLower = true) : c.isAlphanum = true := by
  change ((c.isUpper || c.isLower) || c.isDigit) = true
  rw [h, Bool.or_true, Bool.true_or]

theorem isAlphanum_of_isDigit (h : c.isDigit = true) : c.isAlphanum = true := by
  change (c.isAlpha || c.isDigit) = true
  rw [h, Bool.or_true]

theorem toNat_lt_of_isAlphanum (h : c.isAlphanum = true) : 0x20 < c.toNat ∧ c.toNat < 0x7F := by
  delta Char.isAlphanum Char.isAlpha Char.isUpper Char.isLower Char.isDigit at h
  simp only [Bool.or_eq_true, Bool.and_eq_true, decide_eq_true_eq, ge_iff_le,
    UInt32.le_iff_toNat_le] at h
  change ((65 ≤ c.toNat ∧ c.toNat ≤ 90) ∨ (97 ≤ c.toNat ∧ c.toNat ≤ 122)) ∨
    (48 ≤ c.toNat ∧ c.toNat ≤ 57) at h
  omega

theorem toNat_lt_of_isSignBut (h : isSignBut others c = true) : 0x20 < c.toNat ∧ c.toNat < 0x7F := by
  rw [isSignBut, Bool.or_eq_true] at h
  rcases h with h | h
  · rw [isUnreserved, Bool.or_eq_true] at h
    rcases h with h | h
    · exact toNat_lt_of_isAlphanum h
    · have : c = '-' ∨ c = '.' ∨ c = '_' ∨ c = '~' := by simpa using h
      rcases this with rfl | rfl | rfl | rfl <;> decide
  · simp only [Bool.and_eq_true, decide_eq_true_eq] at h
    exact h.1

/-- The lower case of a sign is the sign or a letter. -/
theorem toLower_of_isSignBut (h : isSignBut others c = true) :
    c.toLower = c ∨ c.toLower.isAlphanum = true := by
  have hall : ∀ n < 0x7F, (Char.ofNat n).toLower = Char.ofNat n ∨
      (Char.ofNat n).toLower.isAlphanum = true := by decide
  have := hall c.toNat (toNat_lt_of_isSignBut h).2
  rwa [Char.ofNat_toNat] at this

theorem isSignBut_toLower (h : isSignBut others c = true) : isSignBut others c.toLower = true := by
  rcases toLower_of_isSignBut h with heq | hletter
  · rwa [heq]
  · rw [isSignBut, isUnreserved, hletter, Bool.true_or, Bool.true_or]

theorem toLower_toLower (c : Char) : c.toLower.toLower = c.toLower := by
  by_cases hc : c.toNat < 0x7F
  · have hall : ∀ n < 0x7F, (Char.ofNat n).toLower.toLower = (Char.ofNat n).toLower := by decide
    have := hall c.toNat hc
    rwa [Char.ofNat_toNat] at this
  · have hupper : ¬(c.val ≥ 'A'.val ∧ c.val ≤ 'Z'.val) := by
      rw [UInt32.le_iff_toNat_le]
      intro h
      exact hc (Nat.lt_of_le_of_lt h.2 (by decide))
    have hself : c.toLower = c := dif_neg hupper
    rw [hself, hself]

/-! ## Escaping -/

theorem isSignBut_of_mem_percent (h : isSignBut others '%' = true) {b : UInt8}
    (hc : c ∈ percent b) : isSignBut others c = true := by
  rw [percent_eq] at hc
  have hb := b.toNat_lt
  have hdigit : ∀ n < 16, isSignBut others (Text.upperHexDigit n) = true := by
    intro n hn
    rw [isSignBut, isUnreserved_upperHexDigit n hn, Bool.true_or]
  simp only [List.mem_cons, List.not_mem_nil, or_false] at hc
  rcases hc with rfl | rfl | rfl
  · exact h
  · exact hdigit _ (by omega)
  · exact hdigit _ (by omega)

/-- What escaping writes is safe, as the percent sign is. -/
theorem isSignBut_of_mem_escape (h : isSignBut others '%' = true)
    (hc : c ∈ escape (isSignBut others) cs) : isSignBut others c = true := by
  obtain ⟨d, -, hd⟩ := List.mem_flatMap.1 hc
  split at hd
  · next hsafe => rwa [List.mem_singleton.1 hd]
  · obtain ⟨b, -, hb⟩ := List.mem_flatMap.1 hd
    exact isSignBut_of_mem_percent h hb

theorem escape_append (isSafe : Char → Bool) (front back : List Char) :
    escape isSafe (front ++ back) = escape isSafe front ++ escape isSafe back :=
  List.flatMap_append

/-- A separator in an escaped text stands there in the text. -/
theorem mem_of_mem_escape {isSafe : Char → Bool} (hc : isUnreserved c = false) (hpercent : c ≠ '%')
    (hplus : c ≠ '+') (h : c ∈ escape isSafe cs) : c ∈ cs := by
  obtain ⟨d, hd, h⟩ := List.mem_flatMap.1 h
  split at h
  · rwa [List.mem_singleton.1 h]
  · obtain ⟨b, -, hb⟩ := List.mem_flatMap.1 h
    exact absurd rfl ((isPartChar_percent b c hb).ne hc hplus.symm hpercent.symm)

end Url

end NamedKeys
