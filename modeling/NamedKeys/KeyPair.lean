import NamedKeys.Curve.Ed25519
import NamedKeys.Failure
import NamedKeys.Hash.Hmac
import NamedKeys.KeyText
import NamedKeys.Mnemonic

/-!
# Key pairs

A secret key with its public key; how a pair is made of a secret key, of 64 stored octets, of the
text of a secret key and of a phrase; and the two texts of a pair.
-/

namespace NamedKeys

/-- A secret key and a public key, which need not belong together. -/
structure KeyPair where
  secretKey : List UInt8
  publicKey : List UInt8
  deriving DecidableEq, Repr

namespace KeyPair

def ofSecretKey (secretKey : List UInt8) : KeyPair :=
  ⟨secretKey, Curve.Ed25519.publicKey secretKey⟩

/-- The pair of a secret key, which has 32 octets. -/
def ofSecretKey? (secretKey : List UInt8) : Except Failure KeyPair :=
  if secretKey.length = 32 then .ok (ofSecretKey secretKey) else .error (.value .impossible)

def octets (pair : KeyPair) : List UInt8 :=
  pair.secretKey ++ pair.publicKey

/-- The pair of stored octets: 64 of them, of which the last 32 are the public key of the first. -/
def ofOctets (octets : List UInt8) : Except Failure KeyPair :=
  if octets.length ≠ 64 then .error (.keyPairLength octets.length)
  else
    let pair := ofSecretKey (octets.take 32)
    if pair.publicKey = octets.drop 32 then .ok pair else .error .keyPairMismatch

def address (pair : KeyPair) : String :=
  KeyText.encode .publicKey pair.publicKey

def secret (pair : KeyPair) : String :=
  KeyText.encode .secretKey pair.secretKey

def ofKeyText (text : String) : Except Failure KeyPair :=
  match KeyText.decode? .secretKey text with
  | some key => .ok (ofSecretKey key)
  | none => .error (.invalidSecretKey text)

end KeyPair

/-! ## Derived pairs -/

/-- A key of a tree of keys, with the octets that its children depend on besides. -/
structure ExtendedKey where
  key : List UInt8
  chain : List UInt8

namespace ExtendedKey

def ofDigest (digest : List UInt8) : ExtendedKey :=
  ⟨digest.take 32, digest.drop 32⟩

def root (seed : List UInt8) : ExtendedKey :=
  ofDigest (Hash.hmac (Text.Utf8.encode "ed25519 seed".toList) seed)

/-- Four octets of a number, the highest first. -/
def indexOctets (n : Nat) : List UInt8 :=
  [24, 16, 8, 0].map fun k => UInt8.ofNat (n / Nat.pow 2 k)

/-- The hardened child of a number below `2 ^ 31` (SLIP-0010). -/
def child (parent : ExtendedKey) (index : Nat) : ExtendedKey :=
  ofDigest (Hash.hmac parent.chain (0 :: parent.key ++ indexOctets (Nat.pow 2 31 + index)))

end ExtendedKey

def greatestIndex : Nat := Nat.pow 2 31 - 1

/-- The last part of a derivation path, 0 when none is given; it must not be out of range. -/
def checkIndex (path : Option Int) : Except Failure Nat :=
  match path with
  | none => .ok 0
  | some path => if 0 ≤ path ∧ path ≤ greatestIndex then .ok path.toNat else .error (.pathRange path)

/-- The pair of a phrase at `m/44'/148'/index'`. -/
def KeyPair.ofPhrase (phrase : String) (index : Nat) : KeyPair :=
  let root := ExtendedKey.root (Mnemonic.seedOf phrase)
  .ofSecretKey (((root.child 44).child 148).child index).key

end NamedKeys
