/-!
# UTF-8

The octets of a text, and the text of octets.  Decoding runs over the octets with at most one
unfinished character; it gives one `none` for each longest piece that begins no character.  A strict
reading refuses such octets (`decode?`), a lenient one shows a replacement character for each piece
(`decodeLossy`).
-/

namespace NamedKeys.Text.Utf8

/-- The one to four octets of a character. -/
def encodeChar (c : Char) : List UInt8 :=
  let n := c.toNat
  if n < 0x80 then [UInt8.ofNat n]
  else if n < 0x800 then [UInt8.ofNat (0xC0 + n / 64), UInt8.ofNat (0x80 + n % 64)]
  else if n < 0x10000 then
    [UInt8.ofNat (0xE0 + n / 4096), UInt8.ofNat (0x80 + n / 64 % 64), UInt8.ofNat (0x80 + n % 64)]
  else
    [UInt8.ofNat (0xF0 + n / 262144), UInt8.ofNat (0x80 + n / 4096 % 64),
      UInt8.ofNat (0x80 + n / 64 % 64), UInt8.ofNat (0x80 + n % 64)]

def encode (cs : List Char) : List UInt8 :=
  cs.flatMap encodeChar

/-- A character of which some octets have been read: the bits so far, the least and the greatest
octet that may follow, and how many octets follow after that one. -/
structure Pending where
  bits : Nat
  least : UInt8
  greatest : UInt8
  more : Nat
  deriving DecidableEq, Repr

/-- What an octet begins: a character of its own, an unfinished one, or nothing. -/
inductive Lead where
  | char (c : Char)
  | pending (p : Pending)
  | none
  deriving DecidableEq, Repr

/-- The octets that begin a character.  The second octet after `E0`, `ED`, `F0` and `F4` is
restricted so that no character has two spellings, no surrogate is read and none is too large. -/
def lead (b : UInt8) : Lead :=
  if b < 0x80 then .char (Char.ofNat b.toNat)
  else if b < 0xC2 then .none
  else if b < 0xE0 then .pending ⟨b.toNat - 0xC0, 0x80, 0xBF, 0⟩
  else if b < 0xF0 then
    .pending ⟨b.toNat - 0xE0, if b = 0xE0 then 0xA0 else 0x80, if b = 0xED then 0x9F else 0xBF, 1⟩
  else if b < 0xF5 then
    .pending ⟨b.toNat - 0xF0, if b = 0xF0 then 0x90 else 0x80, if b = 0xF4 then 0x8F else 0xBF, 2⟩
  else .none

/-- The characters of octets; `none` stands for a longest piece that begins no character. -/
def pieces : Option Pending → List UInt8 → List (Option Char)
  | none, [] => []
  | some _, [] => [none]
  | none, b :: bs => start b bs
  | some p, b :: bs =>
    if p.least ≤ b ∧ b ≤ p.greatest then
      let bits := 64 * p.bits + (b.toNat - 0x80)
      match p.more with
      | 0 => some (Char.ofNat bits) :: pieces none bs
      | more + 1 => pieces (some ⟨bits, 0x80, 0xBF, more⟩) bs
    else none :: start b bs
where
  /-- Reads on from an octet that belongs to no earlier character. -/
  start (b : UInt8) (bs : List UInt8) : List (Option Char) :=
    match lead b with
    | .char c => some c :: pieces none bs
    | .pending p => pieces (some p) bs
    | .none => none :: pieces none bs

/-- The text of octets, unless some piece of them is no character. -/
def decode? (octets : List UInt8) : Option (List Char) :=
  (pieces none octets).mapM id

/-- The text of octets with a replacement character for each piece that is no character. -/
def decodeLossy (octets : List UInt8) : List Char :=
  (pieces none octets).map fun piece => piece.getD '\uFFFD'

end NamedKeys.Text.Utf8
