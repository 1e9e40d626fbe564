import NamedKeys.IdentityName
import NamedKeys.KeyText
import NamedKeys.Mnemonic

/-!
# Secrets

What an identity is kept as: a seed phrase, the text of a secret key, or the name of a keychain
entry that holds a key pair.  A secret has one text, and a text is read as the one kind of secret
whose form it has.
-/

namespace NamedKeys

/-- A text whose words are separated by single spaces, with no blank at its ends. -/
structure SeedPhrase where
  text : String
  isSqueezed : Text.squeeze text = text
  deriving DecidableEq

def SeedPhrase.ofText (text : String) : SeedPhrase :=
  ⟨Text.squeeze text, Text.squeeze_squeeze text⟩

/-- The three kinds of secrets. -/
inductive SecretKind where
  | seedPhrase
  | secretKey
  | keychain
  deriving DecidableEq, Repr

def SecretKind.word : SecretKind → String
  | seedPhrase => "seed_phrase"
  | secretKey => "secret_key"
  | keychain => "keychain"

def SecretKind.ofWord? (word : String) : Option SecretKind :=
  [seedPhrase, secretKey, keychain].find? (·.word = word)

/-- A secret of one of the three kinds. -/
inductive Secret where
  | seedPhrase (phrase : SeedPhrase)
  | secretKey (text : String)
  | keychain (entry : String)
  deriving DecidableEq

namespace Secret

/-- The secret of a kind and a text that is not tested. -/
def ofText (kind : SecretKind) (text : String) : Secret :=
  match kind with
  | .seedPhrase => .seedPhrase (.ofText text)
  | .secretKey => .secretKey text
  | .keychain => .keychain text

def kind : Secret → SecretKind
  | seedPhrase _ => .seedPhrase
  | secretKey _ => .secretKey
  | keychain _ => .keychain

def text : Secret → String
  | seedPhrase phrase => phrase.text
  | secretKey text => text
  | keychain entry => entry

/-- The mark that begins the texts of keychain secrets and of no other. -/
def keychainMark : String := "keychain:"

def entryName (name : String) : String :=
  Failure.entryPrefix ++ name

def isEntryName (text : String) : Bool :=
  Failure.entryPrefix.toList.isPrefixOf text.toList &&
    isNameForm (text.toList.drop Failure.entryPrefix.length)

/-- The secret that a text is, apart from blanks at its ends: the name of an entry, the text of a
secret key or a phrase, tried in this order. -/
def parse (text : String) : Except Failure Secret :=
  let text := Text.strip text
  if keychainMark.toList.isPrefixOf text.toList then
    if isEntryName text then .ok (.keychain text) else .error (.malformedEntry text)
  else if KeyText.isSecretKey text then .ok (.secretKey text)
  else if Mnemonic.isPhrase text then .ok (.seedPhrase (.ofText text))
  else .error .unknownSecret

end Secret

end NamedKeys
