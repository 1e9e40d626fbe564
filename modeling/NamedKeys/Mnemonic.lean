import NamedKeys.Code.Bits
import NamedKeys.Hash.Hmac
import NamedKeys.Hash.Sha256
import NamedKeys.Mnemonic.WordList
import NamedKeys.Text.Blank
import NamedKeys.Text.Compatibility
import NamedKeys.Text.Split
import NamedKeys.Text.Utf8

/-!
# Mnemonic phrases

Entropy written in words, as in BIP-39: the bits of 16, 20, 24, 28 or 32 octets and a check sum of
one bit for each 32, in groups of eleven, each a word of the list.  A phrase is checked, and
stretched to a seed, in its compatibility decomposition, so that a phrase may be spelled in any
variant of its letters.
-/

namespace NamedKeys.Mnemonic

open NamedKeys.Code

/-- The lengths of entropy, in octets. -/
def entropyLengths : List Nat := [16, 20, 24, 28, 32]

/-- The check sum of entropy: the first bits of its digest, one for each 32 bits. -/
def checksumBits (entropy : List UInt8) : List Bool :=
  (bitsOfOctets (Hash.Sha256.digest entropy)).take (entropy.length / 4)

def wordsOfEntropy (entropy : List UInt8) : List String :=
  (regroup 11 (bitsOfOctets entropy ++ checksumBits entropy)).map wordAt

def phraseOfEntropy (entropy : List UInt8) : String :=
  " ".intercalate (wordsOfEntropy entropy)

/-- The entropy of words: there is a suitable number of them, all are in the list, and the last bits
are the check sum of the others. -/
def entropyOfWords? (words : List String) : Option (List UInt8) := do
  let count := words.length
  if ¬[12, 15, 18, 21, 24].contains count then none
  let indices ← words.mapM wordIndex?
  let bits := indices.flatMap (bitsOf 11)
  let entropy := octetsOfBits (bits.take (count / 3 * 32))
  if bits.drop (count / 3 * 32) = checksumBits entropy then some entropy else none

/-- The decomposed form in which a phrase is checked and stretched. -/
def canonical (phrase : String) : List Char :=
  Text.Compatibility.decompose phrase.toList

/-- The words of a decomposed phrase; two neighbouring spaces have an empty word between them. -/
def wordsOf (phrase : List Char) : List String :=
  (Text.splitOn ' ' phrase).map String.ofList

def entropyOf? (phrase : String) : Option (List UInt8) :=
  entropyOfWords? (wordsOf (canonical phrase))

/-- Whether a text is a phrase, whatever blanks stand between its words. -/
def isPhrase (text : String) : Bool :=
  (entropyOf? (Text.squeeze text)).isSome

def stretchTurns : Nat := 2048

/-- The seed of 64 octets that a phrase without a password is stretched to. -/
def seedOf (phrase : String) : List UInt8 :=
  Hash.stretch (Text.Utf8.encode (canonical phrase)) (Text.Utf8.encode "mnemonic".toList)
    stretchTurns

end NamedKeys.Mnemonic
