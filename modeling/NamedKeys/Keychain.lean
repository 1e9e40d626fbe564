import NamedKeys.Code.Base64
import NamedKeys.KeyPair
import NamedKeys.Secret
import NamedKeys.World

/-!
# Keychains

Three keychains: one in memory, one of the platform, which keeps octets as texts in base 64 under a
user name, and one that refuses to be written.  An entry of a keychain holds the octets of a key pair,
and once it is there it is not replaced.
-/

namespace NamedKeys

inductive Keychain where
  | memory
  | system (user : String)
  /-- A keychain in memory that cannot be written, with the reason. -/
  | refusing (cause : String)
  deriving DecidableEq, Repr

namespace Keychain

/-! ## Reading and writing entries -/

def ask (entry : String) : Action Unit :=
  modify fun world => { world with asked := world.asked ++ [entry] }

/-- The octets of an entry of the platform's keychain. -/
def readSystem (user entry : String) : Action (Option (List UInt8)) := do
  Action.log .debug ("Reading " ++ Text.quoted entry ++ " from the system keychain... ")
  let keyring := (← get).keyring
  match keyring.readRefusal with
  | some cause => throw (.keychainRead entry cause)
  | none =>
    match keyring.passwords.lookup (entry, user) with
    | none => return none
    | some text =>
      match Code.Base64.decode? .strict text.toList with
      | some octets => return some octets
      | none => throw (.notBase64 entry)

/-- Writes octets to an entry of the platform's keychain. -/
def writeSystem (user entry : String) (octets : List UInt8) : Action Unit := do
  Action.log .debug ("Writing " ++ Text.quoted entry ++ " to the system keychain... ")
  let world ← get
  match world.keyring.writeRefusal with
  | some cause => throw (.keychainWrite entry cause)
  | none =>
    let text := String.ofList (Code.Base64.encode octets)
    let passwords := world.keyring.passwords.put (entry, user) text
    set { world with keyring := { world.keyring with passwords } }

/-- The octets of an entry, if there is such an entry. -/
def read (keychain : Keychain) (entry : String) : Action (Option (List UInt8)) := do
  ask entry
  match keychain with
  | memory | refusing _ => return (← get).memory.lookup entry
  | system user => readSystem user entry

/-- Writes octets to an entry. -/
def write (keychain : Keychain) (entry : String) (octets : List UInt8) : Action Unit := do
  ask entry
  match keychain with
  | memory => modify fun world => { world with memory := world.memory.put entry octets }
  | refusing cause => throw (.refusedWrite cause)
  | system user => writeSystem user entry octets

/-! ## Key pairs in entries -/

def keyPair (keychain : Keychain) (entry : String) : Action KeyPair := do
  match ← keychain.read entry with
  | none => throw (.entryNotFound entry)
  | some octets => Action.ofExcept (KeyPair.ofOctets octets)

/-- Stores a key pair in an entry unless there is one, and gives the address of the one that is
there already. -/
def store (keychain : Keychain) (entry : String) (pair : KeyPair) : Action (Option String) := do
  match ← keychain.read entry with
  | none =>
    Action.log .info ("Saving a new key to the keychain: " ++ entry)
    keychain.write entry pair.octets
    return none
  | some octets =>
    let address := (← Action.ofExcept (KeyPair.ofOctets octets)).address
    Action.log .warning ("A key for " ++ entry ++ " already exists in the keychain: " ++ address)
    return some address

/-! ## Choosing a keychain -/

inductive Backend where
  | memory
  | system
  deriving DecidableEq, Repr

def Backend.name : Backend → String
  | memory => "memory"
  | system => "system"

def Backend.all : List Backend := [memory, system]

def Backend.ofName (name : String) : Except Failure Backend :=
  match Backend.all.find? (·.name = name) with
  | some backend => .ok backend
  | none => .error (.unknownBackend name (Backend.all.map Backend.name))

/-- The name of the user, from the environment or as the system knows it. -/
def userName (world : World) : String :=
  (["LOGNAME", "USER", "LNAME", "USERNAME"].findSome? world.nonemptyValue?).getD
    world.accountName

/-- The keychain of a name with its settings: the platform's may be given a user name. -/
def ofBackend (backend : Backend) (settings : Table String String) : Action Keychain := do
  match backend with
  | .memory => return memory
  | .system =>
    match settings.lookup "username" with
    | some user =>
      Action.log .info ("Using keychain username " ++ Text.quoted user ++ "! ")
      return system user
    | none => return system (userName (← get))

end Keychain

end NamedKeys
