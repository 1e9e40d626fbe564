import NamedKeys.Proofs.Code.Bits
import NamedKeys.Text.Blank
import NamedKeys.Text.Compatibility
import NamedKeys.Text.Utf8

/-!
# Texts of ASCII

What the readers and writers of texts do to a text of ASCII: it is encoded with one octet for each
character and decoded again (`decode?_encode`), its compatibility decomposition is the text itself
(`decompose_eq_self`), also in front of other text (`decompose_append`), and without carriage returns
its line ends are unified already (`unifyLineEnds_eq_self`).
-/

namespace NamedKeys.Text

def IsAscii (cs : List Char) : Prop :=
  ∀ c ∈ cs, c.toNat < 128

namespace Utf8

theorem encodeChar_of_lt {c : Char} (h : c.toNat < 128) : encodeChar c = [UInt8.ofNat c.toNat] := by
  unfold encodeChar
  rw [if_pos h]

theorem lead_of_lt {c : Char} (h : c.toNat < 128) : lead (UInt8.ofNat c.toNat) = .char c := by
  have hnat : (UInt8.ofNat c.toNat).toNat = c.toNat := by
    rw [UInt8.toNat_ofNat']
    omega
  have hlt : UInt8.ofNat c.toNat < 0x80 := by
    rw [UInt8.lt_iff_toNat_lt, hnat]
    exact h
  rw [lead, if_pos hlt, hnat, Char.ofNat_toNat]

theorem pieces_encode {cs : List Char} (h : IsAscii cs) : pieces none (encode cs) = cs.map some := by
  induction cs with
  | nil =>
    rw [encode, List.flatMap_nil, pieces]
    rfl
  | cons c cs ih =>
    have hc : c.toNat < 128 := h c List.mem_cons_self
    have hcs : IsAscii cs := fun d hd => h d (List.mem_cons_of_mem _ hd)
    have hencode : encode (c :: cs) = UInt8.ofNat c.toNat :: encode cs := by
      rw [encode, List.flatMap_cons, encodeChar_of_lt hc]
      rfl
    rw [hencode, pieces, pieces.start, lead_of_lt hc, List.map_cons]
    simp only [ih hcs]

/-- A text is read back from its octets. -/
theorem decode?_encode {cs : List Char} (h : IsAscii cs) : decode? (encode cs) = some cs := by
  have hread : ∀ c ∈ cs, id (some c) = some c := fun _ _ => rfl
  rw [decode?, pieces_encode h, Code.mapM_map_some hread]

end Utf8

namespace Compatibility

/-- What stands before other text is decomposed to itself. -/
theorem decompose_append {front : List Char} (h : IsAscii front) (rest : List Char) :
    decompose (front ++ rest) = front ++ decompose rest := by
  induction front with
  | nil => rfl
  | cons c front ih =>
    have hc : c.toNat < 128 := h c List.mem_cons_self
    have hchar : decomposeChar c = [c] := by
      unfold decomposeChar
      exact if_pos (by omega)
    have hclass : combiningClass c = 0 := if_pos (by omega)
    rw [List.cons_append, decompose, List.flatMap_cons, hchar, List.singleton_append, orderMarks,
      if_pos hclass, List.map_nil, List.nil_append, List.cons_append,
      ← ih fun d hd => h d (List.mem_cons_of_mem _ hd), decompose]

theorem decompose_eq_self {cs : List Char} (h : IsAscii cs) : decompose cs = cs := by
  have hempty : decompose [] = [] := rfl
  have := decompose_append h []
  rwa [hempty, List.append_nil] at this

end Compatibility

theorem unifyLineEnds_eq_self {cs : List Char} (h : '\r' ∉ cs) : unifyLineEnds cs = cs := by
  induction cs with
  | nil => rfl
  | cons c cs ih =>
    rw [List.mem_cons, not_or] at h
    rw [unifyLineEnds, if_neg (Ne.symm h.1), ih h.2]
    rintro cs' rfl
    exact absurd rfl h.1

theorem utf8ByteSize_of_isAscii {text : String} (h : IsAscii text.toList) :
    text.utf8ByteSize = text.toList.length := by
  have count : ∀ cs : List Char, IsAscii cs → (String.ofList cs).utf8ByteSize = cs.length := by
    intro cs
    induction cs with
    | nil => intro _; rfl
    | cons c cs ih =>
      intro h
      have hc : c.utf8Size = 1 := by
        have hval : c.val ≤ 0x7F := by
          rw [UInt32.le_iff_toNat_le]
          exact Nat.le_of_lt_succ (h c List.mem_cons_self)
        unfold Char.utf8Size
        exact if_pos hval
      rw [String.ofList_cons, String.utf8ByteSize_append, String.utf8ByteSize_singleton, hc,
        ih fun d hd => h d (List.mem_cons_of_mem _ hd), List.length_cons, Nat.add_comm]
  have := count text.toList h
  rwa [String.ofList_toList] at this

end NamedKeys.Text
