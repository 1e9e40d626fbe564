import NamedKeys.Code.Base64
import NamedKeys.Proofs.Code.Bits

/-!
# Octets are read back from base 64

A strict reading of the text of octets gives the octets: the digits hold their bits, and the padding
completes the last group of four (`decode?_encode`).
-/

namespace NamedKeys.Code.Base64

theorem digitValue?_digit : ∀ n < 64, digitValue? (digit n) = some n := by
  decide

theorem digit_ne_pad : ∀ n < 64, digit n ≠ '=' := by
  decide

/-- Digits are read one by one; only their number modulo four counts for what follows. -/
theorem scan_digits (mode : Strictness) {ns : List Nat} (hns : ∀ n ∈ ns, n < 64) {place : Nat}
    (hplace : place < 4) (tail : List Char) :
    scan mode place 0 false (ns.map digit ++ tail) =
      (scan mode ((place + ns.length) % 4) 0 false tail).map (ns ++ ·) := by
  induction ns generalizing place with
  | nil =>
    rw [List.map_nil, List.nil_append, List.length_nil, Nat.add_zero, Nat.mod_eq_of_lt hplace]
    simp
  | cons n ns ih =>
    have hn := hns n List.mem_cons_self
    have hmod : (place + (n :: ns).length) % 4 = ((place + 1) % 4 + ns.length) % 4 := by
      rw [List.length_cons]
      omega
    rw [List.map_cons, List.cons_append, scan, if_neg (digit_ne_pad n hn), digitValue?_digit n hn, hmod]
    simp only [Bool.false_eq_true, and_false, if_false]
    rw [ih (fun m hm => hns m (List.mem_cons_of_mem _ hm)) (Nat.mod_lt _ (by omega)), Option.map_map]
    rfl

theorem length_digits (octets : List UInt8) : (regroup 6 (bitsOfOctets octets)).length % 4 ≠ 1 := by
  obtain ⟨k, hk, hlength⟩ := length_regroup 5 (bitsOfOctets octets)
  rw [length_bitsOfOctets] at hlength
  simp only [Nat.reduceAdd] at hlength
  omega

theorem scan_padding {place : Nat} (hplace : place < 4) (hne : place ≠ 1) :
    scan .strict place 0 false (List.replicate ((4 - place) % 4) '=') = some [] := by
  obtain rfl | rfl | rfl : place = 0 ∨ place = 2 ∨ place = 3 := by omega
  all_goals rfl

/-- Octets are read back from their text. -/
theorem decode?_encode (octets : List UInt8) : decode? .strict (encode octets) = some octets := by
  obtain ⟨k, hk, -, heq⟩ := flatMap_regroup 5 (bitsOfOctets octets)
  have hlt : ∀ n ∈ regroup 6 (bitsOfOctets octets), n < 64 := lt_of_mem_regroup
  have hlength := length_digits octets
  unfold encode
  generalize hns : regroup 6 (bitsOfOctets octets) = ns at heq hlt hlength
  have hhead : (ns.map digit ++
      List.replicate ((4 - (ns.map digit).length % 4) % 4) '=').head? ≠ some '=' := by
    cases ns with
    | nil => simp
    | cons n ns =>
      intro h
      exact digit_ne_pad n (hlt n List.mem_cons_self) (Option.some.inj h)
  unfold decode?
  rw [if_neg fun h => hhead h.2, scan_digits _ hlt (by omega), Nat.zero_add, List.length_map,
    scan_padding (Nat.mod_lt _ (by omega)) hlength]
  simp only [Option.map_some, List.append_nil, heq]
  rw [octetsOfBits_append _ (by rw [List.length_replicate]; omega)]

end NamedKeys.Code.Base64
