/-!
# Digits in base sixteen

The digits `0` to `f`, in lower and in upper case, the text of a number in a fixed number of such
digits, and the value of a digit.
-/

namespace NamedKeys.Text

def lowerHexDigit (n : Nat) : Char :=
  if n < 10 then Char.ofNat (48 + n) else Char.ofNat (87 + n)

def upperHexDigit (n : Nat) : Char :=
  if n < 10 then Char.ofNat (48 + n) else Char.ofNat (55 + n)

/-- The last `width` hexadecimal digits of `n`, written with `digit`. -/
def hexDigits (digit : Nat → Char) : Nat → Nat → List Char
  | 0, _ => []
  | width + 1, n => digit (n / Nat.pow 16 width % 16) :: hexDigits digit width n

/-- The value of a hexadecimal digit of either case. -/
def hexDigitValue? (c : Char) : Option Nat :=
  let n := c.toNat
  if 48 ≤ n ∧ n ≤ 57 then some (n - 48)
  else if 97 ≤ n ∧ n ≤ 102 then some (n - 87)
  else if 65 ≤ n ∧ n ≤ 70 then some (n - 55)
  else none

/-- The number that hexadecimal digits write, or nothing when one of them is no digit. -/
def ofHexDigits? (cs : List Char) : Option Nat :=
  cs.foldlM (fun n c => (hexDigitValue? c).map (16 * n + ·)) 0

/-- The octets of a text of pairs of hexadecimal digits. -/
def octetsOfHex? : List Char → Option (List UInt8)
  | [] => some []
  | [_] => none
  | c :: d :: cs => do
    let high ← hexDigitValue? c
    let low ← hexDigitValue? d
    let octets ← octetsOfHex? cs
    return UInt8.ofNat (16 * high + low) :: octets

def hexOfOctets (octets : List UInt8) : List Char :=
  octets.flatMap fun b => hexDigits lowerHexDigit 2 b.toNat

end NamedKeys.Text
