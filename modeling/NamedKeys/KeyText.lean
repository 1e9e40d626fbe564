import NamedKeys.Code.Base32
import NamedKeys.Code.Crc16

/-!
# Texts of keys

A key is written as an octet for what it is, the key itself and a check sum, in base 32.  The octet
is chosen so that the text begins with `G` for a public key, which is then called an address, and
with `S` for a secret key.
-/

namespace NamedKeys

/-- What a text of a key holds. -/
inductive KeyText.Kind where
  | publicKey
  | secretKey
  deriving DecidableEq, Repr

def KeyText.Kind.octet : KeyText.Kind → UInt8
  | publicKey => 48
  | secretKey => 144

namespace KeyText

open NamedKeys.Code

/-- The text of a key of any length. -/
def encode (kind : Kind) (key : List UInt8) : String :=
  let body := kind.octet :: key
  String.ofList (Base32.encode (body ++ Crc16.checksumOctets body))

/-- The key of 32 octets that a text writes; any other spelling than its own is refused. -/
def decode? (kind : Kind) (text : String) : Option (List UInt8) := do
  let octets ← Base32.decode? text.toList
  let key := (octets.drop 1).take 32
  if key.length = 32 ∧ encode kind key = text then some key else none

def isSecretKey (text : String) : Bool :=
  (decode? .secretKey text).isSome

end KeyText

end NamedKeys
