import NamedKeys.KeyText
import NamedKeys.Proofs.Code.Bits

/-!
# Keys are read back from their texts

A key of 32 octets is read back from its text (`decode?_encode`), and a text from which a key is
read is the text of that key (`eq_encode_of_decode?`).  All characters of such a text are digits of
base 32, so that no blank and no small letter occurs in it.
-/

namespace NamedKeys

namespace Code.Base32

theorem digitValue?_digit : ∀ n < 32, digitValue? (digit n) = some n := by
  decide

/-- Octets are read back from their text. -/
theorem decode?_encode (octets : List UInt8) : decode? (encode octets) = some octets := by
  obtain ⟨k, hk, -, heq⟩ := flatMap_regroup 4 (bitsOfOctets octets)
  have hlt : ∀ n ∈ regroup 5 (bitsOfOctets octets), n < 32 := lt_of_mem_regroup
  unfold decode? encode
  rw [mapM_map_some fun n hn => digitValue?_digit n (hlt n hn), Option.map_some, heq,
    octetsOfBits_append _ (by rw [List.length_replicate]; omega)]

def IsDigit (c : Char) : Prop :=
  (digitValue? c).isSome = true

theorem isDigit_of_decode? {cs : List Char} {octets : List UInt8} (h : decode? cs = some octets) :
    ∀ c ∈ cs, IsDigit c := by
  unfold decode? at h
  rw [Option.map_eq_some_iff] at h
  obtain ⟨ns, hns, -⟩ := h
  exact isSome_of_mapM hns

theorem IsDigit.toNat {c : Char} (h : IsDigit c) :
    65 ≤ c.toNat ∧ c.toNat ≤ 90 ∨ 50 ≤ c.toNat ∧ c.toNat ≤ 55 := by
  unfold IsDigit digitValue? at h
  dsimp only at h
  split at h
  · next hletter => exact .inl hletter
  · split at h
    · next hfigure => exact .inr hfigure
    · cases h

end Code.Base32

namespace KeyText

open NamedKeys.Code

/-- A text is that of a key of 32 octets. -/
def IsTextOf (kind : Kind) (text : String) : Prop :=
  ∃ key : List UInt8, key.length = 32 ∧ encode kind key = text

/-- A key is read back from its text. -/
theorem decode?_encode (kind : Kind) {key : List UInt8} (h : key.length = 32) :
    decode? kind (encode kind key) = some key := by
  unfold decode?
  have hread : Base32.decode? (encode kind key).toList =
      some (kind.octet :: key ++ Crc16.checksumOctets (kind.octet :: key)) := by
    rw [encode, String.toList_ofList, Base32.decode?_encode]
  have hkey : (((kind.octet :: key ++ Crc16.checksumOctets (kind.octet :: key)).drop 1).take 32) = key := by
    rw [List.cons_append, List.drop_one, List.tail_cons, List.take_left' h]
  simp only [hread, Option.bind_eq_bind, Option.bind_some, hkey, h, true_and, if_true]

/-- Only the text of a key is read as that key. -/
theorem eq_encode_of_decode? {kind : Kind} {text : String} {key : List UInt8}
    (h : decode? kind text = some key) : key.length = 32 ∧ encode kind key = text := by
  unfold decode? at h
  rw [Option.bind_eq_bind, Option.bind_eq_some_iff] at h
  obtain ⟨octets, -, h⟩ := h
  dsimp only at h
  split at h
  · next hkey =>
    rw [← Option.some.inj h]
    exact hkey
  · cases h

theorem isDigit_of_decode? {kind : Kind} {text : String} {key : List UInt8}
    (h : decode? kind text = some key) : ∀ c ∈ text.toList, Base32.IsDigit c := by
  unfold decode? at h
  rw [Option.bind_eq_bind, Option.bind_eq_some_iff] at h
  obtain ⟨octets, hread, -⟩ := h
  exact Base32.isDigit_of_decode? hread

theorem IsTextOf.isDigit {kind : Kind} {text : String} (h : IsTextOf kind text) :
    ∀ c ∈ text.toList, Base32.IsDigit c := by
  obtain ⟨key, hkey, rfl⟩ := h
  exact isDigit_of_decode? (decode?_encode kind hkey)

theorem ne_empty_of_decode? {kind : Kind} {text : String} {key : List UInt8}
    (h : decode? kind text = some key) : text.toList ≠ [] := by
  intro hempty
  unfold decode? at h
  rw [hempty, Option.bind_eq_bind, Option.bind_eq_some_iff] at h
  obtain ⟨octets, hread, h⟩ := h
  obtain rfl : [] = octets := Option.some.inj hread
  simp at h

end KeyText

end NamedKeys
