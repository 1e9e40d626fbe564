import NamedKeys.Text.Utf8

/-!
# The octets of texts

A text is encoded in the octets in which strings are held (`encode_toList`).  So the size of the text
counts them (`length_encode`), and two texts never have the same (`encode_toList_inj`).
-/

namespace NamedKeys.Text.Utf8

theorem encodeChar_eq (c : Char) : encodeChar c = String.utf8EncodeChar c := by
  have hrange : c.val.toNat < 0x110000 := by
    rcases c.valid with h | ⟨-, h⟩
    · exact Nat.lt_trans h (by decide)
    · exact h
  unfold encodeChar String.utf8EncodeChar Char.toNat
  dsimp only
  generalize c.val.toNat = n at hrange
  -- the first octet has room for all bits above those of the others
  by_cases h1 : n < 0x80
  · rw [if_pos h1, if_pos (by omega)]
  by_cases h2 : n < 0x800
  · rw [if_neg h1, if_pos h2, if_neg (by omega), if_pos (by omega),
      Nat.mod_eq_of_lt (by omega : n / 64 < 32)]
    simp only [Nat.add_comm]
  by_cases h3 : n < 0x10000
  · rw [if_neg h1, if_neg h2, if_pos h3, if_neg (by omega), if_neg (by omega), if_pos (by omega),
      Nat.mod_eq_of_lt (by omega : n / 4096 < 16)]
    simp only [Nat.add_comm]
  · rw [if_neg h1, if_neg h2, if_neg h3, if_neg (by omega), if_neg (by omega), if_neg (by omega),
      Nat.mod_eq_of_lt (by omega : n / 262144 < 8)]
    simp only [Nat.add_comm]

theorem encode_toList (text : String) : encode text.toList = text.toUTF8.data.toList := by
  have hchar : encodeChar = String.utf8EncodeChar := funext encodeChar_eq
  have htext : text.toUTF8 = text.toList.utf8Encode := by
    rw [String.toUTF8_eq_toByteArray, ← String.toByteArray_ofList, String.ofList_toList]
  rw [encode, hchar, htext, List.utf8Encode, List.toList_data_toByteArray]

theorem length_encode (text : String) : (encode text.toList).length = text.utf8ByteSize := by
  rw [encode_toList, Array.length_toList]
  rfl

theorem encode_toList_inj {text other : String} (h : encode text.toList = encode other.toList) :
    text = other := by
  rw [encode_toList, encode_toList] at h
  exact String.toByteArray_inj.1 (ByteArray.ext (Array.toList_inj.1 h))

end NamedKeys.Text.Utf8
