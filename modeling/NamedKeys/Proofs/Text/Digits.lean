import Mathlib.Tactic.Ring
import NamedKeys.Text.Digits

/-!
# Hexadecimal digits are read back

The value of a digit is the number that it is written for (`hexDigitValue?_upperHexDigit`); so a number in a
fixed number of digits is read as itself if it fits them (`ofHexDigits?_hexDigits`), and two digits as the
octet that they write (`octetsOfHex?_upperHexDigit`).
-/

namespace NamedKeys.Text

theorem hexDigitValue?_upperHexDigit : ∀ n < 16, hexDigitValue? (upperHexDigit n) = some n := by
  decide

theorem length_hexDigits (digit : Nat → Char) (width n : Nat) :
    (hexDigits digit width n).length = width := by
  induction width with
  | zero => rfl
  | succ width ih => rw [hexDigits, List.length_cons, ih]

theorem foldlM_hexDigits (width n start : Nat) :
    (hexDigits upperHexDigit width n).foldlM
      (fun n c => (hexDigitValue? c).map (16 * n + ·)) start =
      some (16 ^ width * start + n % 16 ^ width) := by
  induction width generalizing start with
  | zero => simp [hexDigits, Nat.mod_one]
  | succ width ih =>
    have hdigit : n / 16 ^ width % 16 < 16 := Nat.mod_lt _ (by omega)
    rw [hexDigits, List.foldlM_cons, Nat.pow_eq, hexDigitValue?_upperHexDigit _ hdigit]
    simp only [Option.map_some, Option.bind_eq_bind, Option.bind_some]
    rw [ih, Nat.mod_pow_succ, Nat.pow_succ]
    congr 1
    ring

theorem ofHexDigits?_hexDigits {width n : Nat} (h : n < 16 ^ width) :
    ofHexDigits? (hexDigits upperHexDigit width n) = some n := by
  rw [ofHexDigits?, foldlM_hexDigits, Nat.mod_eq_of_lt h]
  simp

theorem octetsOfHex?_upperHexDigit (b : UInt8) :
    octetsOfHex? [upperHexDigit (b.toNat / 16), upperHexDigit (b.toNat % 16)] = some [b] := by
  have hb := b.toNat_lt
  have hhigh := hexDigitValue?_upperHexDigit (b.toNat / 16) (by omega)
  have hlow := hexDigitValue?_upperHexDigit (b.toNat % 16) (by omega)
  have hsum : 16 * (b.toNat / 16) + b.toNat % 16 = b.toNat := by omega
  simp only [octetsOfHex?, hhigh, hlow, Option.bind_eq_bind, Option.bind_some, Option.pure_def, hsum,
    UInt8.ofNat_toNat]

end NamedKeys.Text
