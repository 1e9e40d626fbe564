import Mathlib.Data.List.Basic
import Mathlib.Data.Nat.Bitwise
import NamedKeys.Code.Bits

/-!
# Bits in groups

Octets cut into groups of bits and put together again.  The digits of any width hold the bits and
fewer zeros than a digit has; octets are read back from their bits, whatever piece of an octet
follows:

    ∃ k ≤ width, width + 1 ∣ bits.length + k ∧
      (regroup (width + 1) bits).flatMap (bitsOf (width + 1)) = bits ++ replicate k false
                                                                             (flatMap_regroup)
    rest.length < 8 → octetsOfBits (bitsOfOctets octets ++ rest) = octets    (octetsOfBits_append)

Bits that fill whole digits or octets are those of the digits (`regroup_flatMap`) or the octets
(`bitsOfOctets_octetsOfBits`) that they are cut into.
-/

namespace NamedKeys.Code

/-! ## Numbers and bits -/

@[simp] theorem length_bitsOf (width n : Nat) : (bitsOf width n).length = width := by
  induction width with
  | zero => rfl
  | succ width ih => rw [bitsOf, List.length_cons, ih]

theorem foldl_bits (bits : List Bool) (n : Nat) :
    bits.foldl (fun n bit => 2 * n + bit.toNat) n = n * 2 ^ bits.length + numberOf bits := by
  induction bits generalizing n with
  | nil => simp [numberOf]
  | cons bit bits ih =>
    rw [numberOf, List.foldl_cons, List.foldl_cons, ih, ih (2 * 0 + bit.toNat), List.length_cons,
      Nat.pow_succ, Nat.add_mul, Nat.mul_zero, Nat.zero_add, Nat.mul_comm 2 n, Nat.mul_assoc,
      Nat.mul_comm 2, Nat.add_assoc]

theorem numberOf_cons (bit : Bool) (bits : List Bool) :
    numberOf (bit :: bits) = bit.toNat * 2 ^ bits.length + numberOf bits := by
  rw [numberOf, List.foldl_cons, foldl_bits, Nat.mul_zero, Nat.zero_add]

theorem numberOf_lt (bits : List Bool) : numberOf bits < 2 ^ bits.length := by
  induction bits with
  | nil => decide
  | cons bit bits ih =>
    rw [numberOf_cons, List.length_cons, Nat.pow_succ]
    cases bit <;> simp only [Bool.toNat_true, Bool.toNat_false] <;> omega

/-- Only the lowest bits of a number are written. -/
theorem numberOf_bitsOf (width n : Nat) : numberOf (bitsOf width n) = n % 2 ^ width := by
  induction width with
  | zero => simp [bitsOf, numberOf, Nat.mod_one]
  | succ width ih =>
    rw [bitsOf, numberOf_cons, length_bitsOf, ih, Nat.testBit_eq_decide_div_mod_eq, Nat.pow_succ,
      Nat.mod_mul]
    have hlt : n / 2 ^ width % 2 < 2 := Nat.mod_lt _ (by omega)
    by_cases h : n / 2 ^ width % 2 = 1
    · rw [h, decide_eq_true rfl]
      simp only [Bool.toNat_true]
      omega
    · have h0 : n / 2 ^ width % 2 = 0 := by omega
      rw [h0, decide_eq_false (by omega)]
      simp only [Bool.toNat_false]
      omega

theorem bitsOf_mod (width n : Nat) : bitsOf width (n % 2 ^ width) = bitsOf width n := by
  have below : ∀ j ≤ width, bitsOf j (n % 2 ^ width) = bitsOf j n := by
    intro j
    induction j with
    | zero => intro _; rfl
    | succ j ih =>
      intro hj
      rw [bitsOf, bitsOf, ih (by omega), Nat.testBit_mod_two_pow, decide_eq_true (by omega),
        Bool.true_and]
  exact below width (Nat.le_refl width)

/-- Bits are read back from their number. -/
theorem bitsOf_numberOf (bits : List Bool) : bitsOf bits.length (numberOf bits) = bits := by
  induction bits with
  | nil => rfl
  | cons bit bits ih =>
    have hlt := numberOf_lt bits
    have hmod : numberOf (bit :: bits) % 2 ^ bits.length = numberOf bits := by
      rw [numberOf_cons, Nat.mul_add_mod_self_right, Nat.mod_eq_of_lt hlt]
    have hbit : (numberOf (bit :: bits)).testBit bits.length = bit := by
      rw [numberOf_cons, Nat.testBit_eq_decide_div_mod_eq, Nat.mul_comm,
        Nat.mul_add_div (Nat.two_pow_pos _), Nat.div_eq_of_lt hlt]
      cases bit <;> rfl
    rw [List.length_cons, bitsOf, hbit, ← bitsOf_mod, hmod, ih]

/-! ## Groups -/

variable {α : Type}

theorem groups_cons (width count : Nat) (a : α) (as : List α) :
    groups width (count + 1) (a :: as) =
      (a :: as.take width) :: groups width count (as.drop width) := rfl

@[simp] theorem groups_nil (width count : Nat) : groups width count ([] : List α) = [] := by
  cases count <;> rfl

theorem length_le_of_mem_groups {width count : Nat} {as : List α} :
    ∀ group ∈ groups width count as, group.length ≤ width + 1 := by
  induction count generalizing as with
  | zero => simp [groups]
  | succ count ih =>
    cases as with
    | nil => simp
    | cons a as =>
      intro group hgroup
      rw [groups_cons] at hgroup
      rcases List.mem_cons.1 hgroup with rfl | hgroup
      · rw [List.length_cons, List.length_take]
        omega
      · exact ih group hgroup

/-- The digit of a group: the group as a number, filled with zeros on the right. -/
def digitOf (width : Nat) (group : List Bool) : Nat :=
  numberOf (group ++ List.replicate (width - group.length) false)

theorem regroup_eq (width : Nat) (bits : List Bool) :
    regroup width bits = (groups (width - 1) bits.length bits).map (digitOf width) := rfl

theorem bitsOf_digitOf {width : Nat} {group : List Bool} (h : group.length ≤ width) :
    bitsOf width (digitOf width group) =
      group ++ List.replicate (width - group.length) false := by
  have hlength : (group ++ List.replicate (width - group.length) false).length = width := by
    rw [List.length_append, List.length_replicate]
    omega
  have := bitsOf_numberOf (group ++ List.replicate (width - group.length) false)
  rwa [hlength] at this

theorem digitOf_lt {width : Nat} {group : List Bool} (h : group.length ≤ width) :
    digitOf width group < 2 ^ width := by
  have hlt := numberOf_lt (group ++ List.replicate (width - group.length) false)
  have hlength : (group ++ List.replicate (width - group.length) false).length = width := by
    rw [List.length_append, List.length_replicate]
    omega
  rwa [hlength] at hlt

theorem lt_of_mem_regroup {width : Nat} {bits : List Bool} :
    ∀ n ∈ regroup (width + 1) bits, n < 2 ^ (width + 1) := by
  intro n hn
  rw [regroup_eq] at hn
  obtain ⟨group, hgroup, rfl⟩ := List.mem_map.1 hn
  exact digitOf_lt (length_le_of_mem_groups group hgroup)

theorem flatMap_groups (width count : Nat) {bits : List Bool} (h : bits.length ≤ count) :
    ∃ k ≤ width, width + 1 ∣ bits.length + k ∧
      (groups width count bits).flatMap (fun group => bitsOf (width + 1) (digitOf (width + 1) group)) =
        bits ++ List.replicate k false := by
  induction count generalizing bits with
  | zero =>
    obtain rfl : bits = [] := List.eq_nil_of_length_eq_zero (by omega)
    exact ⟨0, by omega, by simp, rfl⟩
  | succ count ih =>
    cases bits with
    | nil => exact ⟨0, by omega, by simp, by simp⟩
    | cons bit bits =>
      rw [List.length_cons] at h
      rw [groups_cons, List.flatMap_cons, bitsOf_digitOf (by
        rw [List.length_cons, List.length_take]
        omega)]
      by_cases hfull : width ≤ bits.length
      · -- a full group, and the bits after it
        have hdrop : (bits.drop width).length ≤ count := by
          rw [List.length_drop]
          omega
        obtain ⟨k, hk, hdvd, heq⟩ := ih hdrop
        refine ⟨k, hk, ?_, ?_⟩
        · rw [List.length_drop] at hdvd
          have : (bit :: bits).length + k = (bits.length - width + k) + (width + 1) := by
            rw [List.length_cons]
            omega
          rw [this]
          exact (Nat.dvd_add_self_right).2 hdvd
        · rw [heq, List.length_cons, List.length_take_of_le hfull, Nat.sub_self,
            List.replicate_zero, List.append_nil, ← List.append_assoc, List.cons_append,
            List.take_append_drop]
      · have hdrop : bits.drop width = [] := List.drop_eq_nil_of_le (by omega)
        have htake : bits.take width = bits := List.take_of_length_le (by omega)
        refine ⟨width - bits.length, by omega, ?_, ?_⟩
        · have : (bit :: bits).length + (width - bits.length) = width + 1 := by
            rw [List.length_cons]
            omega
          rw [this]
        · rw [hdrop, htake, groups_nil, List.flatMap_nil, List.append_nil, List.length_cons]
          congr 2
          omega

/-- The bits of the digits are the bits that were cut, and zeros. -/
theorem flatMap_regroup (width : Nat) (bits : List Bool) :
    ∃ k ≤ width, width + 1 ∣ bits.length + k ∧
      (regroup (width + 1) bits).flatMap (bitsOf (width + 1)) = bits ++ List.replicate k false := by
  obtain ⟨k, hk, hdvd, heq⟩ := flatMap_groups width bits.length (le_refl bits.length)
  refine ⟨k, hk, hdvd, ?_⟩
  rw [regroup_eq, List.flatMap_map]
  exact heq

theorem length_flatMap_bitsOf (width : Nat) (ns : List Nat) :
    (ns.flatMap (bitsOf width)).length = width * ns.length := by
  induction ns with
  | nil => rfl
  | cons n ns ih =>
    rw [List.flatMap_cons, List.length_append, length_bitsOf, ih, List.length_cons, Nat.mul_succ,
      Nat.add_comm]

theorem length_regroup (width : Nat) (bits : List Bool) :
    ∃ k ≤ width, (width + 1) * (regroup (width + 1) bits).length = bits.length + k := by
  obtain ⟨k, hk, -, heq⟩ := flatMap_regroup width bits
  refine ⟨k, hk, ?_⟩
  rw [← length_flatMap_bitsOf, heq, List.length_append, List.length_replicate]

/-- Digits that write the same bits are the same. -/
theorem flatMap_bitsOf_inj {width : Nat} {ms ns : List Nat} (hms : ∀ m ∈ ms, m < 2 ^ (width + 1))
    (hns : ∀ n ∈ ns, n < 2 ^ (width + 1))
    (h : ms.flatMap (bitsOf (width + 1)) = ns.flatMap (bitsOf (width + 1))) : ms = ns := by
  induction ms generalizing ns with
  | nil =>
    have hlength := congrArg List.length h
    rw [length_flatMap_bitsOf, length_flatMap_bitsOf, List.length_nil, Nat.mul_zero] at hlength
    have hzero : ns.length = 0 := by
      rcases Nat.mul_eq_zero.1 hlength.symm with hwidth | hzero
      · cases hwidth
      · exact hzero
    exact (List.eq_nil_of_length_eq_zero hzero).symm
  | cons m ms ih =>
    cases ns with
    | nil =>
      have hlength := congrArg List.length h
      simp [List.flatMap_cons] at hlength
    | cons n ns =>
      rw [List.flatMap_cons, List.flatMap_cons] at h
      obtain ⟨hbits, hrest⟩ := List.append_inj h (by rw [length_bitsOf, length_bitsOf])
      have hnumber := congrArg numberOf hbits
      rw [numberOf_bitsOf, numberOf_bitsOf, Nat.mod_eq_of_lt (hms m List.mem_cons_self),
        Nat.mod_eq_of_lt (hns n List.mem_cons_self)] at hnumber
      rw [hnumber, ih (fun m hm => hms m (List.mem_cons_of_mem _ hm))
        (fun n hn => hns n (List.mem_cons_of_mem _ hn)) hrest]

/-- Bits that fill whole digits are cut without zeros. -/
theorem flatMap_regroup_of_dvd {width : Nat} {bits : List Bool} (h : width + 1 ∣ bits.length) :
    (regroup (width + 1) bits).flatMap (bitsOf (width + 1)) = bits := by
  obtain ⟨k, hk, hdvd, heq⟩ := flatMap_regroup width bits
  have hzero : k = 0 := Nat.eq_zero_of_dvd_of_lt ((Nat.dvd_add_right h).1 hdvd) (by omega)
  rw [heq, hzero, List.replicate_zero, List.append_nil]

/-- Digits are cut again out of their bits. -/
theorem regroup_flatMap {width : Nat} {ns : List Nat} (h : ∀ n ∈ ns, n < 2 ^ (width + 1)) :
    regroup (width + 1) (ns.flatMap (bitsOf (width + 1))) = ns := by
  have hdvd : width + 1 ∣ (ns.flatMap (bitsOf (width + 1))).length := by
    rw [length_flatMap_bitsOf]
    exact Nat.dvd_mul_right _ _
  exact flatMap_bitsOf_inj lt_of_mem_regroup h (flatMap_regroup_of_dvd hdvd)

/-- What is read of each digit alone is read of the digits. -/
theorem mapM_map_some {β : Type} {write : α → β} {read : β → Option α} {as : List α}
    (h : ∀ a ∈ as, read (write a) = some a) : (as.map write).mapM read = some as := by
  induction as with
  | nil => rfl
  | cons a as ih =>
    rw [List.map_cons, List.mapM_cons, h a List.mem_cons_self,
      ih fun b hb => h b (List.mem_cons_of_mem _ hb)]
    rfl

/-- What is read digit by digit is written as the digits again. -/
theorem map_of_mapM {β : Type} {write : α → β} {read : β → Option α} {P : α → Prop}
    (hread : ∀ b a, read b = some a → P a ∧ write a = b) {bs : List β} {as : List α}
    (h : bs.mapM read = some as) : (∀ a ∈ as, P a) ∧ as.map write = bs := by
  induction bs generalizing as with
  | nil =>
    obtain rfl : [] = as := Option.some.inj h
    exact ⟨by simp, rfl⟩
  | cons b bs ih =>
    rw [List.mapM_cons, Option.bind_eq_bind, Option.bind_eq_some_iff] at h
    obtain ⟨a, ha, h⟩ := h
    rw [Option.bind_eq_bind, Option.bind_eq_some_iff] at h
    obtain ⟨rest, hrest, h⟩ := h
    obtain rfl : a :: rest = as := Option.some.inj h
    obtain ⟨hfirst, hwrite⟩ := hread b a ha
    obtain ⟨hothers, hmap⟩ := ih hrest
    exact ⟨List.forall_mem_cons.2 ⟨hfirst, hothers⟩, by rw [List.map_cons, hwrite, hmap]⟩

theorem isSome_of_mapM {β : Type} {read : β → Option α} {bs : List β} {as : List α}
    (h : bs.mapM read = some as) : ∀ b ∈ bs, (read b).isSome = true := by
  induction bs generalizing as with
  | nil => simp
  | cons b bs ih =>
    rw [List.mapM_cons, Option.bind_eq_bind, Option.bind_eq_some_iff] at h
    obtain ⟨a, ha, h⟩ := h
    rw [Option.bind_eq_bind, Option.bind_eq_some_iff] at h
    obtain ⟨rest, hrest, -⟩ := h
    intro d hd
    rcases List.mem_cons.1 hd with rfl | hd
    · rw [ha]
      rfl
    · exact ih hrest d hd

/-- What holds of whatever is read of one digit holds of all that is read. -/
theorem forall_of_mapM {β : Type} {read : β → Option α} {P : α → Prop}
    (hread : ∀ b a, read b = some a → P a) {bs : List β} {as : List α}
    (h : bs.mapM read = some as) : ∀ a ∈ as, P a := by
  induction bs generalizing as with
  | nil =>
    obtain rfl : [] = as := Option.some.inj h
    simp
  | cons b bs ih =>
    rw [List.mapM_cons, Option.bind_eq_bind, Option.bind_eq_some_iff] at h
    obtain ⟨a, ha, h⟩ := h
    rw [Option.bind_eq_bind, Option.bind_eq_some_iff] at h
    obtain ⟨rest, hrest, h⟩ := h
    obtain rfl : a :: rest = as := Option.some.inj h
    exact List.forall_mem_cons.2 ⟨hread b a ha, ih hrest⟩

/-! ## Octets -/

theorem length_bitsOfOctets (octets : List UInt8) :
    (bitsOfOctets octets).length = 8 * octets.length := by
  have hmap : bitsOfOctets octets = (octets.map UInt8.toNat).flatMap (bitsOf 8) := by
    rw [bitsOfOctets, List.flatMap_map]
  rw [hmap, length_flatMap_bitsOf, List.length_map]

theorem ofNat_numberOf_bitsOf (b : UInt8) : UInt8.ofNat (numberOf (bitsOf 8 b.toNat)) = b := by
  rw [numberOf_bitsOf, Nat.mod_eq_of_lt b.toNat_lt, UInt8.ofNat_toNat]

theorem groups_bitsOfOctets (octets : List UInt8) {rest : List Bool} (hrest : rest.length < 8)
    {count : Nat} (hcount : 8 * octets.length + rest.length ≤ count) :
    ((groups 7 count (bitsOfOctets octets ++ rest)).filter (·.length = 8)).map
      (fun group => UInt8.ofNat (numberOf group)) = octets := by
  induction octets generalizing count with
  | nil =>
    rw [bitsOfOctets, List.flatMap_nil, List.nil_append]
    cases count with
    | zero => rfl
    | succ count =>
      cases rest with
      | nil => simp
      | cons bit rest =>
        rw [List.length_cons] at hrest
        have hdrop : rest.drop 7 = [] := List.drop_eq_nil_of_le (by omega)
        have hshort : (bit :: rest.take 7).length ≠ 8 := by
          rw [List.length_cons, List.length_take]
          omega
        rw [groups_cons, hdrop, groups_nil, List.filter_cons_of_neg (by simpa using hshort)]
        rfl
  | cons b octets ih =>
    rw [List.length_cons] at hcount
    obtain ⟨count, rfl⟩ : ∃ n, count = n + 1 := ⟨count - 1, by omega⟩
    have hcut : bitsOfOctets (b :: octets) ++ rest =
        b.toNat.testBit 7 :: (bitsOf 7 b.toNat ++ (bitsOfOctets octets ++ rest)) := by
      simp [bitsOfOctets, bitsOf]
    have hlength := length_bitsOf 7 b.toNat
    rw [hcut, groups_cons, List.take_left' hlength, List.drop_left' hlength,
      List.filter_cons_of_pos (by simp), List.map_cons, ih (by omega)]
    congr 1
    exact ofNat_numberOf_bitsOf b

/-- Octets are read back from their bits; a piece of an octet after them is dropped. -/
theorem octetsOfBits_append (octets : List UInt8) {rest : List Bool} (hrest : rest.length < 8) :
    octetsOfBits (bitsOfOctets octets ++ rest) = octets :=
  groups_bitsOfOctets octets hrest (by rw [List.length_append, length_bitsOfOctets])

theorem octetsOfBits_bitsOfOctets (octets : List UInt8) :
    octetsOfBits (bitsOfOctets octets) = octets := by
  have hnil : ([] : List Bool).length < 8 := by decide
  have := octetsOfBits_append octets hnil
  rwa [List.append_nil] at this

/-- Bits that fill whole octets are the bits of their octets. -/
theorem bitsOfOctets_octetsOfBits {bits : List Bool} (h : 8 ∣ bits.length) :
    bitsOfOctets (octetsOfBits bits) = bits := by
  have hbits : bitsOfOctets ((regroup 8 bits).map UInt8.ofNat) = bits := by
    have hlt : ∀ n ∈ regroup 8 bits, n < 2 ^ 8 := lt_of_mem_regroup
    have hdigits : ∀ n ∈ regroup 8 bits, bitsOf 8 (UInt8.ofNat n).toNat = bitsOf 8 n := by
      intro n hn
      rw [UInt8.toNat_ofNat', Nat.mod_eq_of_lt (hlt n hn)]
    rw [bitsOfOctets, List.flatMap_map, List.flatMap_congr hdigits]
    exact flatMap_regroup_of_dvd h
  rw [← hbits, octetsOfBits_bitsOfOctets]

end NamedKeys.Code
