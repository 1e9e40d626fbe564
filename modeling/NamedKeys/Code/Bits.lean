/-!
# Regrouped bits

The base-32 and base-64 codes and the mnemonic phrases all write a string of octets in digits of
another width.  They go through the bits of the string: each number gives a fixed count of bits, the
highest first, and a run of bits is cut into groups of a new width.
-/

namespace NamedKeys.Code

/-- The lowest `width` bits of a number, the highest first. -/
def bitsOf : (width n : Nat) → List Bool
  | 0, _ => []
  | width + 1, n => n.testBit width :: bitsOf width n

/-- The number of bits, the highest first. -/
def numberOf (bits : List Bool) : Nat :=
  bits.foldl (fun n bit => 2 * n + bit.toNat) 0

/-- Consecutive groups of `width + 1` elements; the last may be shorter.  At most `count` groups. -/
def groups (width : Nat) {α : Type} : (count : Nat) → List α → List (List α)
  | 0, _ => []
  | _ + 1, [] => []
  | count + 1, a :: as => (a :: as.take width) :: groups width count (as.drop width)

/-- The bits cut into groups of `width` from the front, each group as a number; the last group is
filled with zeros on the right. -/
def regroup (width : Nat) (bits : List Bool) : List Nat :=
  (groups (width - 1) bits.length bits).map fun group =>
    numberOf (group ++ List.replicate (width - group.length) false)

def bitsOfOctets (octets : List UInt8) : List Bool :=
  octets.flatMap fun b => bitsOf 8 b.toNat

/-- The octets of bits; bits after the last full octet are dropped. -/
def octetsOfBits (bits : List Bool) : List UInt8 :=
  ((groups 7 bits.length bits).filter (·.length = 8)).map fun group => UInt8.ofNat (numberOf group)

end NamedKeys.Code
