import NamedKeys.Code.Bits

/-!
# Base 64

Octets in digits of six bits with padding (RFC 4648), and two readings.  The strict one accepts
digits and, at the end, padding that fills the last group; the lenient one passes over every other
character and stops at the first padding that fills a group.
-/

namespace NamedKeys.Code.Base64

/-- The digit of a number below 64: the letters, the digits, `+` and `/`. -/
def digit (n : Nat) : Char :=
  if n < 26 then Char.ofNat (65 + n)
  else if n < 52 then Char.ofNat (71 + n)
  else if n < 62 then Char.ofNat (n - 4)
  else if n = 62 then '+' else '/'

def digitValue? (c : Char) : Option Nat :=
  let n := c.toNat
  if 65 ≤ n ∧ n ≤ 90 then some (n - 65)
  else if 97 ≤ n ∧ n ≤ 122 then some (n - 71)
  else if 48 ≤ n ∧ n ≤ 57 then some (n + 4)
  else if c = '+' then some 62
  else if c = '/' then some 63
  else none

/-- The text of octets, padded to groups of four characters. -/
def encode (octets : List UInt8) : List Char :=
  let digits := (regroup 6 (bitsOfOctets octets)).map digit
  digits ++ List.replicate ((4 - digits.length % 4) % 4) '='

/-- Whether characters outside the code are refused or passed over. -/
inductive Strictness where
  | strict
  | lenient
  deriving DecidableEq, Repr

/-- The numbers of the digits up to the padding that completes the last group.  `place` digits of
the open group and `pads` padding characters since the last digit have been read; `padded` says
whether any padding has. -/
def scan (mode : Strictness) (place pads : Nat) (padded : Bool) : List Char → Option (List Nat)
  | [] => if place = 0 then some [] else none
  | c :: cs =>
    if c = '=' then
      if 2 ≤ place ∧ 4 ≤ place + pads + 1 then
        if mode = .strict ∧ cs ≠ [] then none else some []
      else scan mode place (if 2 ≤ place then pads + 1 else pads) true cs
    else
      match digitValue? c with
      | none => if mode = .strict then none else scan mode place pads padded cs
      | some n =>
        if mode = .strict ∧ padded then none
        else (scan mode ((place + 1) % 4) 0 padded cs).map (n :: ·)

/-- The octets of a text.  A strict reading refuses padding at the front. -/
def decode? (mode : Strictness) (cs : List Char) : Option (List UInt8) :=
  if mode = .strict ∧ cs.head? = some '=' then none
  else (scan mode 0 0 false cs).map fun ns => octetsOfBits (ns.flatMap (bitsOf 6))

end NamedKeys.Code.Base64
