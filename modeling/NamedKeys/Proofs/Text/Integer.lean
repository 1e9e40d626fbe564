import Mathlib.Algebra.Order.Ring.Nat
import NamedKeys.Text.Integer

/-!
# Numbers are read back from their decimal texts

A number that is read in decimal digits has no more of them than a number may have (`natAbs_lt_of_read`), and
a number with no more is read back from its text (`readInteger?_toString`).
-/

namespace NamedKeys.Text

/-! ## The size of what is read -/

theorem lt_of_digitValue? {base d : Nat} {c : Char} (h : digitValue? base c = some d) : d < base :=
  of_decide_eq_true (Option.filter_eq_some_iff.1 h).2

/-- Digits write a number below the power of the base that counts them. -/
theorem lt_of_readDigits {base value count n k : Nat} {cs : List Char} (h : value < base ^ count)
    (hread : readDigits base value count cs = some (n, k)) : n < base ^ k := by
  have hnext : ∀ {value count d : Nat}, value < base ^ count → d < base →
      base * value + d < base ^ (count + 1) := by
    intro value count d hvalue hd
    calc base * value + d < base * value + base := Nat.add_lt_add_left hd _
      _ = base * (value + 1) := by rw [Nat.mul_succ]
      _ ≤ base * base ^ count := Nat.mul_le_mul_left _ hvalue
      _ = base ^ (count + 1) := by rw [Nat.pow_succ']
  fun_induction readDigits base value count cs with
  | case1 value count => grind
  | _ => grind [lt_of_digitValue?]

theorem natAbs_lt_of_read {cs : List Char} {i : Int} (h : readInteger? 10 cs = some i) :
    i.natAbs < 10 ^ mostDigits := by
  rw [readInteger?] at h
  dsimp only at h
  split at h
  · next value count hread =>
    have hvalue : value < 10 ^ count := lt_of_readDigits Nat.one_pos hread
    split at h
    · cases h
    · next hcount =>
      have hle : count ≤ mostDigits := by
        have hbase : isBinaryBase 10 = false := rfl
        rw [hbase] at hcount
        simp only [Bool.not_false, Bool.true_and, Bool.or_eq_true, decide_eq_true_eq] at hcount
        omega
      have habs : i.natAbs = value := by
        rw [← Option.some.inj h]
        split <;> omega
      rw [habs]
      exact Nat.lt_of_lt_of_le hvalue (Nat.pow_le_pow_right (by omega) hle)
  · cases h

/-! ## Reading a decimal text -/

theorem toNat_of_isDigit {c : Char} (h : c.isDigit = true) : 48 ≤ c.toNat ∧ c.toNat ≤ 57 := by
  rw [Char.isDigit, Bool.and_eq_true, decide_eq_true_iff, decide_eq_true_iff] at h
  exact h

theorem digitValue?_of_isDigit {c : Char} (h : c.isDigit = true) :
    digitValue? 10 c = some (c.toNat - 48) := by
  have hrange := toNat_of_isDigit h
  rw [digitValue?, decimalValue?, if_pos hrange]
  exact Option.filter_some_pos (decide_eq_true (by omega))

theorem readDigits_of_isDigit {cs : List Char} (h : ∀ c ∈ cs, c.isDigit = true) (value count : Nat) :
    readDigits 10 value count cs = some (Nat.ofDigitChars 10 cs value, count + cs.length) := by
  induction cs generalizing value count with
  | nil => rfl
  | cons c cs ih =>
    unfold readDigits
    rw [digitValue?_of_isDigit (h c List.mem_cons_self)]
    dsimp only
    rw [ih (fun d hd => h d (List.mem_cons_of_mem _ hd)), Nat.ofDigitChars_cons, List.length_cons,
      Nat.add_right_comm, Nat.add_assoc]
    rfl

theorem trimNumber_eq_self {cs : List Char} (h : ∀ c ∈ cs, isNumberBlank c = false) :
    trimNumber cs = cs := by
  have hdrop : ∀ cs : List Char, (∀ c ∈ cs, isNumberBlank c = false) →
      cs.dropWhile isNumberBlank = cs := by
    intro cs hcs
    cases cs with
    | nil => rfl
    | cons c cs => rw [List.dropWhile_cons_of_neg (by simp [hcs c List.mem_cons_self])]
  rw [trimNumber, hdrop cs h, hdrop cs.reverse fun c hc => h c (List.mem_reverse.1 hc),
    List.reverse_reverse]

theorem dropBaseMark_ten (cs : List Char) : dropBaseMark 10 cs = cs := by
  unfold dropBaseMark
  split
  · rw [if_neg (by simp [baseMark])]
  · rfl

/-- The characters of a number's decimal text. -/
theorem mem_toString {i : Int} {c : Char} (h : c ∈ (toString i).toList) :
    c.isDigit = true ∨ c = '-' := by
  have hdigits : ∀ {n : Nat}, c ∈ n.repr.toList → c.isDigit = true := by
    intro n hc
    rw [Nat.repr_eq_ofList_toDigits, String.toList_ofList] at hc
    exact Nat.isDigit_of_mem_toDigits (by omega) (by omega) hc
  rw [Int.toString_eq_repr, Int.repr_eq_if] at h
  split at h
  · exact .inl (hdigits h)
  · rw [String.toList_append, List.mem_append] at h
    rcases h with h | h
    · exact .inr (by simpa using h)
    · exact .inl (hdigits h)

theorem isNumberBlank_of_mem_toString {i : Int} {c : Char} (h : c ∈ (toString i).toList) :
    isNumberBlank c = false := by
  have hrange : 45 ≤ c.toNat ∧ c.toNat ≤ 57 := by
    rcases mem_toString h with hdigit | rfl
    · have := toNat_of_isDigit hdigit
      omega
    · decide
  simp [isNumberBlank, isBlank]
  omega

/-- The number that is read from its digits, after its sign. -/
theorem read_toDigits {n : Nat} (h : n < 10 ^ mostDigits) (negative : Bool) :
    (match readDigits 10 0 0 (dropBaseMark 10 (Nat.toDigits 10 n)) with
      | some (value, count) =>
        if count = 0 || (!isBinaryBase 10 && count > mostDigits) then none
        else some (if negative then -(value : Int) else value)
      | none => none) = some (if negative then -(n : Int) else n) := by
  have hlength : (Nat.toDigits 10 n).length ≤ mostDigits :=
    (Nat.length_toDigits_le_iff (by omega) (by decide)).2 h
  have hpos : 0 < (Nat.toDigits 10 n).length := Nat.length_toDigits_pos
  rw [dropBaseMark_ten,
    readDigits_of_isDigit fun c hc => Nat.isDigit_of_mem_toDigits (by omega) (by omega) hc,
    Nat.ofDigitChars_ten_toDigits, Nat.zero_add]
  dsimp only
  rw [if_neg]
  simp only [Bool.or_eq_true, Bool.and_eq_true, decide_eq_true_eq]
  omega

/-- A number is read back from its decimal text, unless this is too long to be read. -/
theorem readInteger?_toString {i : Int} (h : i.natAbs < 10 ^ mostDigits) :
    readInteger? 10 (toString i).toList = some i := by
  rw [readInteger?, trimNumber_eq_self fun c hc => isNumberBlank_of_mem_toString hc,
    Int.toString_eq_repr, Int.repr_eq_if]
  by_cases hi : 0 ≤ i
  · have hread := read_toDigits (n := i.toNat) (by omega) false
    rw [if_pos hi, Nat.repr_eq_ofList_toDigits, String.toList_ofList]
    obtain ⟨c, cs, hcs⟩ := List.exists_cons_of_ne_nil (Nat.toDigits_ne_nil (b := 10) (n := i.toNat))
    have hdigit : c.isDigit = true :=
      Nat.isDigit_of_mem_toDigits (by omega) (by omega) (hcs ▸ List.mem_cons_self)
    rw [hcs] at hread ⊢
    -- a digit is no sign
    split
    next negative digits hparts =>
      split at hparts
      · next hplus =>
        obtain ⟨rfl, -⟩ := List.cons.inj hplus
        exact absurd hdigit (by decide)
      · next hminus =>
        obtain ⟨rfl, -⟩ := List.cons.inj hminus
        exact absurd hdigit (by decide)
      · obtain ⟨rfl, rfl⟩ := Prod.mk.inj hparts
        refine hread.trans ?_
        rw [if_neg (by decide), Int.toNat_of_nonneg hi]
  · have hread := read_toDigits (n := (-i).toNat) (by omega) true
    have hlist : ("-" ++ (-i).toNat.repr).toList = '-' :: Nat.toDigits 10 (-i).toNat := by
      simp [Nat.repr_eq_ofList_toDigits]
    rw [if_neg hi, hlist]
    refine hread.trans ?_
    rw [if_pos rfl, Int.toNat_of_nonneg (by omega), Int.neg_neg]

end NamedKeys.Text
