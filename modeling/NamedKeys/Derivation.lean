import NamedKeys.Keychain

/-!
# Seeds and derivation

A phrase made of a seed or of random octets, and the key pair of a secret: derived from a phrase, read
from the text of a secret key or taken from a keychain.  Only the derivation from a phrase depends on
the path.
-/

namespace NamedKeys

/-! ## Making phrases -/

/-- The seed of the phrase that tests use. -/
def testSeed : String := "0000000000000000"

/-- The phrase of entropy, which must have one of the lengths of entropy. -/
def phraseOfEntropy (entropy : List UInt8) : Except Failure String :=
  if Mnemonic.entropyLengths.contains entropy.length then .ok (Mnemonic.phraseOfEntropy entropy)
  else .error (.seedLength entropy.length)

/-- A phrase from a seed, or a random one. -/
def makePhrase (seed : Option String) : Action String := do
  match seed with
  | none =>
    Action.log .debug "Generating seed phrase from random entropy... "
    Action.ofExcept (phraseOfEntropy (← Action.draw))
  | some seed =>
    Action.log .debug "Generating seed phrase from the given seed... "
    Action.ofExcept (phraseOfEntropy (Text.Utf8.encode seed.toList))

def testPhrase : Action String :=
  makePhrase (some testSeed)

/-! ## Key pairs of secrets -/

/-- The pair of a phrase at a path: the range of the path is tested first, then the phrase. -/
def keyPairOfPhrase (phrase : String) (path : Option Int) : Action KeyPair := do
  let index ← Action.ofExcept (checkIndex path)
  let phrase := Text.squeeze phrase
  if !Mnemonic.isPhrase phrase then throw .invalidPhrase
  Action.log .debug ("Deriving key pair at m/44'/148'/" ++ toString index ++ "'... ")
  return .ofPhrase phrase index

/-- Notes that a path has no meaning for a secret. -/
def ignorePath (path : Option Int) (secret : String) : Action Unit := do
  match path with
  | none => return
  | some path => Action.log .debug ("Ignoring HD path " ++ toString path ++ " for " ++ secret)

/-- The pair of a secret at a path; a keychain is needed only for the entry of one. -/
def keyPairOfSecret (secret : Secret) (path : Option Int) (keychain : Option Keychain) :
    Action KeyPair := do
  match secret with
  | .seedPhrase phrase => keyPairOfPhrase phrase.text path
  | .secretKey text =>
    ignorePath path "a secret key"
    Action.ofExcept (KeyPair.ofKeyText text)
  | .keychain entry =>
    match keychain with
    | none => throw (.noKeychain entry)
    | some keychain =>
      ignorePath path ("keychain entry " ++ entry)
      keychain.keyPair entry

end NamedKeys
