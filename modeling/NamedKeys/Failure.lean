import NamedKeys.Text.Quoted

/-!
# Failures

Everything that can go wrong, by its cause, the family that a caller tells apart, and the message.
Failures of the families up to `lookup` are the program's own answers, which the command line
reports; the others come from outside and pass through it.
-/

namespace NamedKeys

/-- What the file system answers when it refuses. -/
inductive FileFault where
  | exists
  | missing
  | notFolder
  | isFolder
  | nameTooLong
  | refused (text : String)
  deriving DecidableEq, Repr

def FileFault.message : FileFault → String
  | .exists => "File exists"
  | .missing => "No such file or directory"
  | .notFolder => "Not a directory"
  | .isFolder => "Is a directory"
  | .nameTooLong => "File name too long"
  | .refused text => text

/-- How a typed value of a document cannot be built although the document is well formed. -/
inductive ValueFault where
  /-- A number, a date or a code point that does not exist. -/
  | impossible
  /-- A number beyond the range of machine numbers. -/
  | overflow
  /-- A word that is none of the truth values. -/
  | noTruth (word : String)
  /-- A number of no characters. -/
  | emptyNumber
  /-- A text that a tag calls a date and that has not the form of one. -/
  | noDate
  /-- A collection that a tag calls a date. -/
  | noText
  /-- A value whose text is that of a part of it, which leads back to itself. -/
  | endless
  deriving DecidableEq, Repr

/-- The families of failures. -/
inductive Failure.Family where
  | identity
  | invalidSeed
  | derivation
  | unsupportedPath
  | secretFormat
  | identityNotFound
  | identityName
  | conflictingOptions
  | keychain
  | entryNotFound
  | keychainWrite
  | network
  | lookup
  | files
  | value
  | encoding
  | randomness
  | foreign
  deriving DecidableEq, Repr

/-- The causes of failures. -/
inductive Failure where
  /-- An own failure of no particular family. -/
  | general (text : String)
  /-- A seed of a number of octets that is no length of entropy. -/
  | seedLength (octets : Nat)
  | invalidPhrase
  | invalidSecretKey (text : String)
  | noKeychain (entry : String)
  | keyPairLength (octets : Nat)
  | keyPairMismatch
  /-- A derivation failure reported by a collaborator. -/
  | derivation (text : String)
  | pathRange (path : Int)
  | malformedEntry (text : String)
  | unknownSecret
  | notYaml (path : String)
  | notOneSecret (path : String)
  /-- The kind is given as messages show it. -/
  | unknownKind (kind path : String)
  | kindMismatch (path declared held : String)
  | identityNotFound (name : String)
  | identityName (name : String)
  | seedConflict
  | storageConflict
  | noBackend
  | keychainRead (entry cause : String)
  | notBase64 (entry : String)
  | entryNotFound (entry : String)
  | keychainWrite (entry cause : String)
  /-- A keychain that refuses to write, with its reason. -/
  | refusedWrite (cause : String)
  | unknownNetwork (name : String) (known : List String)
  | noFriendbot (name address : String)
  | unreachable (url cause : String)
  | notFunded (address : String) (status : Nat) (body : String)
  /-- A request whose URL, given here, names no host. -/
  | hostlessRequest (url : String)
  /-- A network failure reported by a collaborator. -/
  | network (text : String)
  | unknownBackend (name : String) (known : List String)
  | file (fault : FileFault)
  | value (fault : ValueFault)
  /-- Octets that are no text. -/
  | notText
  /-- No random octets are left. -/
  | noRandomness
  /-- A failure of a collaborator that is none of the program's own. -/
  | foreign (name text : String)
  deriving DecidableEq, Repr

namespace Failure

def family : Failure → Family
  | general _ => .identity
  | seedLength _ => .invalidSeed
  | invalidPhrase | invalidSecretKey _ | noKeychain _ | keyPairLength _ | keyPairMismatch
  | derivation _ => .derivation
  | pathRange _ => .unsupportedPath
  | malformedEntry _ | unknownSecret | notYaml _ | notOneSecret _ | unknownKind _ _
  | kindMismatch _ _ _ => .secretFormat
  | identityNotFound _ => .identityNotFound
  | identityName _ => .identityName
  | seedConflict | storageConflict => .conflictingOptions
  | noBackend | keychainRead _ _ | notBase64 _ => .keychain
  | entryNotFound _ => .entryNotFound
  | keychainWrite _ _ | refusedWrite _ => .keychainWrite
  | unknownNetwork _ _ | noFriendbot _ _ | unreachable _ _ | notFunded _ _ _
  | network _ => .network
  | unknownBackend _ _ => .lookup
  | file _ => .files
  | value _ | hostlessRequest _ => .value
  | notText => .encoding
  | noRandomness => .randomness
  | foreign _ _ => .foreign

/-- The service that keychain entries belong to, with the mark that begins their names. -/
def entryPrefix : String := "keychain:radium226.identities-"

def message : Failure → String
  | general text => text
  | seedLength octets => s!"Seed must be 16, 20, 24, 28, 32 bytes long, got {octets}"
  | invalidPhrase => "Seed phrase is not a valid mnemonic"
  | invalidSecretKey text => "Invalid secret key: Invalid Ed25519 Secret Seed: " ++ text
  | noKeychain entry => "No keychain available to read " ++ Text.quoted entry
  | keyPairLength octets => s!"Expected 64 bytes of key pair, got {octets}"
  | keyPairMismatch => "Public key does not match the secret key"
  | derivation text => text
  | pathRange path => s!"HD path {path} is out of range"
  | malformedEntry text =>
    "Keychain entry " ++ Text.quoted text ++ " must look like '" ++ entryPrefix ++ "<name>'"
  | unknownSecret => "Secret is neither a secret key, a seed phrase nor a keychain entry"
  | notYaml path => "Identity file " ++ path ++ " is not valid YAML"
  | notOneSecret path => "Identity file " ++ path ++ " must hold exactly one secret"
  | unknownKind kind path => "Unknown secret kind " ++ kind ++ " in " ++ path
  | kindMismatch path declared held =>
    "Identity file " ++ path ++ " declares a " ++ declared ++ " but holds a " ++ held
  | identityNotFound name => "Identity " ++ Text.quoted name ++ " not found"
  | identityName name =>
    "Identity name " ++ Text.quoted name ++
      " must be 1 to 250 characters among letters, digits, '-' and '_'"
  | seedConflict => "A seed and the default seed cannot be used together"
  | storageConflict => "An identity cannot be both a secret key and a keychain entry"
  | noBackend => "Storing in the keychain requires a keychain backend"
  | keychainRead entry cause =>
    "Unable to read " ++ Text.quoted entry ++ " from the system keychain: " ++ cause
  | notBase64 entry => "Keychain entry " ++ Text.quoted entry ++ " is not valid base64"
  | entryNotFound entry => "Keychain entry " ++ Text.quoted entry ++ " not found"
  | keychainWrite entry cause =>
    "Unable to write " ++ Text.quoted entry ++ " to the system keychain: " ++ cause
  | refusedWrite cause => cause
  | unknownNetwork name known =>
    "Network " ++ Text.quoted name ++ " not found. Available networks: " ++ Text.quotedList known
  | noFriendbot name address =>
    "Network " ++ Text.quoted name ++ " has no friendbot to fund " ++ address
  | unreachable url cause => "Unable to reach " ++ url ++ ": " ++ cause
  | notFunded address status body =>
    "Funding " ++ address ++ s!" failed with status {status}: " ++ body
  | hostlessRequest url => "unknown url type: " ++ Text.quoted url
  | network text => text
  | unknownBackend name known =>
    "Keychain backend " ++ Text.quoted name ++ " not found. Available backends: " ++
      Text.quotedList known
  | file fault => fault.message
  | value (.noTruth word) => Text.quoted word
  | value .emptyNumber => "string index out of range"
  | value _ => ""
  | notText => ""
  | noRandomness => "pop from empty list"
  | foreign _ text => text

/-- Whether the command line reports the failure itself: all of the program's own, and the two ways
in which a typed value is looked up in vain. -/
def isReported : Failure → Bool
  | file _ | notText | hostlessRequest _ | foreign _ _ => false
  | value .impossible | value .overflow | value .noDate | value .noText | value .endless => false
  | _ => true

end Failure

end NamedKeys
