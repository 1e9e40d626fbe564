import NamedKeys.Secret
import NamedKeys.TempFile
import NamedKeys.Text.Blank
import NamedKeys.Yaml.Printer
import NamedKeys.Yaml.Value

/-!
# The store of identities

A folder with one file for each identity, named for it, that holds a document of one entry: the kind
of the secret and its text.
-/

namespace NamedKeys

/-- A store, by the folder that holds it. -/
structure Store where
  root : Path
  deriving DecidableEq, Repr

namespace Store

def fileEnding : String := ".yaml"

def folder (store : Store) : Path :=
  store.root.child "identity"

def file (store : Store) (name : IdentityName) : Path :=
  store.folder.child (name.text ++ fileEnding)

def document (secret : Secret) : List Char :=
  Yaml.writeEntry secret.kind.word.toList secret.text.toList

/-- The secret that the value of a document is, which must have one entry, of a kind of secrets and a
secret of that kind.  `file` is named in failures. -/
def secretOfValue (file : String) : Yaml.Value → Except Failure Secret
  | .map [(key, value)] => do
    let kind ← match key with
      | .text word => pure (SecretKind.ofWord? (String.ofList word))
      | _ => pure none
    match kind with
    | none =>
      match key.literal? with
      | some literal => throw (.unknownKind literal file)
      | none => throw (.value .impossible)
    | some kind =>
      match value.text? with
      | none => throw (.value .impossible)
      | some text =>
        let secret ← Secret.parse text
        if secret.kind ≠ kind then throw (.kindMismatch file kind.word secret.kind.word)
        return secret
  | _ => .error (.notOneSecret file)

/-- The secret that the octets of a file are. -/
def secretOfOctets (file : String) (octets : List UInt8) : Except Failure Secret :=
  match Text.Utf8.decode? octets with
  | none => .error .notText
  | some text =>
    match Yaml.load (Text.unifyLineEnds text) with
    | .ok value => secretOfValue file value
    | .error .malformed => .error (.notYaml file)
    | .error (.value fault) => .error (.value fault)

/-- Does something with the identity that a text names, once the text has passed the test of names. -/
def named {α : Type} (text : String) (operation : IdentityName → Action α) : Action α := do
  operation (← Action.ofExcept (IdentityName.ofText text))

/-- Keeps a secret under a name, in the stead of any other. -/
def write (store : Store) (name : IdentityName) (secret : Secret) : Action Unit := do
  let file := store.file name
  Action.writeAtOnce file (document secret)
  Action.log .info ("Identity " ++ Text.quoted name.text ++ " written to " ++ file.text)

/-- The secret kept under a name. -/
def read (store : Store) (name : IdentityName) : Action Secret := do
  let file := store.file name
  match ← Action.readFile? file with
  | none => throw (.identityNotFound name.text)
  | some octets => Action.ofExcept (secretOfOctets file.text octets)

/-- Removes the secret kept under a name. -/
def remove (store : Store) (name : IdentityName) : Action Unit := do
  let file := store.file name
  match ← Action.readFile? file with
  | none => throw (.identityNotFound name.text)
  | some _ =>
    let world ← get
    let place ← Action.ofFiles (world.files.locate world.folder file)
    Action.setFiles (← Action.ofFiles (world.files.removeFile place))
    Action.log .info ("Identity " ++ Text.quoted name.text ++ " removed")

/-- The name of the identity of a file with a name, if it has the name of such a file. -/
def nameOfFile? (fileName : String) : Option String :=
  let stem := Path.stem fileName
  if fileEnding.toList.isSuffixOf fileName.toList ∧ isNameForm stem.toList then some stem else none

/-- The names of all identities in order. -/
def list (store : Store) : Action (List String) := do
  let world ← get
  if ← Action.ofFiles (world.files.isFolder world.folder store.folder) then
    let place ← Action.ofFiles (world.files.locate world.folder store.folder)
    return ((world.files.namesIn place).filterMap nameOfFile?).mergeSort fun a b => decide (a ≤ b)
  else return []

end Store

end NamedKeys
