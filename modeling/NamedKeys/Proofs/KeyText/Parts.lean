import NamedKeys.Proofs.KeyText

/-!
# The parts of texts with a check sum

The text of a key is an octet for what it is, the key and a check sum, in base 32.  Any octet and any
payload can be written so (`withChecksum`), and such a text can be taken apart again, one part after the
other (`parts?`):

    parts? text = some (octet, payload) ↔ withChecksum octet payload = text       (parts?_eq_some_iff)

A text is read as a key exactly if its parts are the octet of the kind and a payload of 32 octets
(`decode?_eq_some_iff`), whatever other octets, lengths, check sums and spellings there are.
-/

namespace NamedKeys.KeyText

open NamedKeys.Code

/-! ## Writing the parts -/

/-- An octet and a payload with their check sum behind them. -/
def sealed (octet : UInt8) (payload : List UInt8) : List UInt8 :=
  octet :: payload ++ Crc16.checksumOctets (octet :: payload)

/-- The text of an octet and a payload. -/
def withChecksum (octet : UInt8) (payload : List UInt8) : String :=
  String.ofList (Base32.encode (sealed octet payload))

theorem encode_eq (kind : Kind) (key : List UInt8) :
    encode kind key = withChecksum kind.octet key :=
  rfl

/-! ## Reading the parts -/

/-- What stands before two last octets, if these are its check sum. -/
def unseal? : List UInt8 → Option (UInt8 × List UInt8)
  | [] => none
  | octet :: rest =>
    let payload := rest.take (rest.length - 2)
    if rest.drop (rest.length - 2) = Crc16.checksumOctets (octet :: payload) then
      some (octet, payload)
    else none

/-- The octet and the payload of a text, which must be the one spelling of its octets. -/
def parts? (text : String) : Option (UInt8 × List UInt8) := do
  let octets ← Base32.decode? text.toList
  if Base32.encode octets = text.toList then unseal? octets else none

theorem unseal?_sealed (octet : UInt8) (payload : List UInt8) :
    unseal? (sealed octet payload) = some (octet, payload) := by
  have hrest : (payload ++ Crc16.checksumOctets (octet :: payload)).length - 2 = payload.length := by
    rw [List.length_append, Crc16.length_checksumOctets, Nat.add_sub_cancel]
  rw [sealed, List.cons_append, unseal?]
  simp only [hrest, List.take_left, List.drop_left, if_true]

theorem sealed_of_unseal? {octets payload : List UInt8} {octet : UInt8}
    (h : unseal? octets = some (octet, payload)) : sealed octet payload = octets := by
  cases octets with
  | nil => cases h
  | cons first rest =>
    rw [unseal?] at h
    split at h
    · next hchecksum =>
      obtain ⟨rfl, rfl⟩ := Prod.mk.inj (Option.some.inj h)
      rw [sealed, List.cons_append, ← hchecksum, List.take_append_drop]
    · cases h

/-- The parts of a text are those that it has been written of. -/
theorem parts?_eq_some_iff {text : String} {octet : UInt8} {payload : List UInt8} :
    parts? text = some (octet, payload) ↔ withChecksum octet payload = text := by
  unfold parts?
  constructor
  · intro h
    rw [Option.bind_eq_bind, Option.bind_eq_some_iff] at h
    obtain ⟨octets, -, h⟩ := h
    split at h
    · next hdigits => rw [withChecksum, sealed_of_unseal? h, hdigits, String.ofList_toList]
    · cases h
  · rintro rfl
    rw [withChecksum, String.toList_ofList, Base32.decode?_encode, Option.bind_eq_bind,
      Option.bind_some, if_pos rfl, unseal?_sealed]

/-- A key is read from a text whose parts are the octet of its kind and the key, of 32 octets. -/
theorem decode?_eq_some_iff {kind : Kind} {text : String} {key : List UInt8} :
    decode? kind text = some key ↔ parts? text = some (kind.octet, key) ∧ key.length = 32 := by
  rw [parts?_eq_some_iff, ← encode_eq]
  constructor
  · intro h
    obtain ⟨hlength, htext⟩ := eq_encode_of_decode? h
    exact ⟨htext, hlength⟩
  · rintro ⟨rfl, hlength⟩
    exact decode?_encode kind hlength

end NamedKeys.KeyText
