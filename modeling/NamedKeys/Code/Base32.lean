import NamedKeys.Code.Bits

/-!
# Base 32 without padding

Octets in digits of five bits (RFC 4648), with no padding characters: the alphabet of the texts of
keys.
-/

namespace NamedKeys.Code.Base32

/-- The digit of a number below 32: the letters, then `2` to `7`. -/
def digit (n : Nat) : Char :=
  if n < 26 then Char.ofNat (65 + n) else Char.ofNat (24 + n)

def digitValue? (c : Char) : Option Nat :=
  let n := c.toNat
  if 65 ≤ n ∧ n ≤ 90 then some (n - 65)
  else if 50 ≤ n ∧ n ≤ 55 then some (n - 24)
  else none

def encode (octets : List UInt8) : List Char :=
  (regroup 5 (bitsOfOctets octets)).map digit

/-- The octets of a text of digits; the bits after the last full octet are not looked at. -/
def decode? (cs : List Char) : Option (List UInt8) :=
  (cs.mapM digitValue?).map fun ns => octetsOfBits (ns.flatMap (bitsOf 5))

end NamedKeys.Code.Base32
