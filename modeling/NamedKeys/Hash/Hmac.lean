import NamedKeys.Hash.Sha512

/-!
# Keyed digests and stretched passwords

HMAC (RFC 2104) and PBKDF2 (RFC 8018) over SHA-512.  A key is mixed once into two chains; a digest
under the key continues both, so that stretching a password costs two blocks a turn.
-/

namespace NamedKeys.Hash

open Sha512

/-- The two chains that a key begins, for the inner and for the outer digest. -/
structure HmacKey where
  inner : Chain
  outer : Chain

/-- A key longer than a block is replaced by its digest; zeros fill the block. -/
def HmacKey.block (key : List UInt8) : List UInt8 :=
  let key := if key.length > 128 then digest key else key
  key ++ List.replicate (128 - key.length) 0

def HmacKey.ofOctets (key : List UInt8) : HmacKey :=
  let block := HmacKey.block key
  ⟨compress initial (blockOf (block.map (· ^^^ 0x36))),
    compress initial (blockOf (block.map (· ^^^ 0x5C)))⟩

/-- The chain after a block that holds a digest; it ends a message of 192 octets. -/
def finishDigest (s digest : Chain) : Chain :=
  compress s ⟨digest.a, digest.b, digest.c, digest.d, digest.e, digest.f, digest.g, digest.h,
    0x8000000000000000, 0, 0, 0, 0, 0, 0, 1536⟩

def HmacKey.sign (key : HmacKey) (message : List UInt8) : Chain :=
  finishDigest key.outer (finish key.inner 128 message)

def HmacKey.signDigest (key : HmacKey) (digest : Chain) : Chain :=
  finishDigest key.outer (finishDigest key.inner digest)

def hmac (key message : List UInt8) : List UInt8 :=
  ((HmacKey.ofOctets key).sign message).octets

def Sha512.Chain.xor (s t : Chain) : Chain :=
  ⟨s.a ^^^ t.a, s.b ^^^ t.b, s.c ^^^ t.c, s.d ^^^ t.d, s.e ^^^ t.e, s.f ^^^ t.f, s.g ^^^ t.g,
    s.h ^^^ t.h⟩

/-- Signs `last` again as many times and adds all results to `sum`. -/
def stretchFrom (key : HmacKey) : Nat → (last sum : Chain) → Chain
  | 0, _, sum => sum
  | turns + 1, last, sum =>
    let next := key.signDigest last
    stretchFrom key turns next (sum.xor next)

/-- The first 64 octets of a password stretched with a salt in as many turns, at least one. -/
def stretch (password salt : List UInt8) (turns : Nat) : List UInt8 :=
  let key := HmacKey.ofOctets password
  let first := key.sign (salt ++ [0, 0, 0, 1])
  (stretchFrom key (turns - 1) first first).octets

theorem length_hmac (key message : List UInt8) : (hmac key message).length = 64 :=
  length_octets _

end NamedKeys.Hash
