import NamedKeys.Derivation
import NamedKeys.Network
import NamedKeys.Store

/-!
# Generating identities

A new phrase becomes an identity: the phrase itself is stored, or the secret key derived from it, or
an entry of a keychain that holds the derived pair.  Only then, if wanted, the address is funded, and
a failure to fund does not undo what is stored.
-/

namespace NamedKeys

namespace Generate

/-- What is asked for, as it is given. -/
structure Request where
  name : String
  seed : Option String
  useTestSeed : Bool
  asSecretKey : Bool
  inKeychain : Bool
  path : Option Int
  fund : Bool
  noFund : Bool
  deriving DecidableEq, Repr

/-- How the secret is stored. -/
inductive Form where
  | phrase
  | secretKey
  | keychain
  deriving DecidableEq, Repr

/-- Options that go together. -/
structure Options where
  name : IdentityName
  /-- The text of a seed; the phrase is random without one. -/
  seed : Option String
  form : Form
  path : Option Int
  skipsFunding : Bool

/-- The options of a request: the name is tested first, then the path, the two seeds and the two
ways of storing. -/
def Options.ofRequest (request : Request) : Except Failure Options := do
  let name ← IdentityName.ofText request.name
  let _ ← checkIndex request.path
  if request.seed.isSome && request.useTestSeed then throw .seedConflict
  if request.asSecretKey && request.inKeychain then throw .storageConflict
  return {
    name
    seed := if request.useTestSeed then some testSeed else request.seed
    form := if request.asSecretKey then .secretKey else if request.inKeychain then .keychain
      else .phrase
    path := request.path
    skipsFunding := request.noFund }

/-- What has been done. -/
structure Result where
  name : IdentityName
  secret : Secret
  address : Option String
  funded : Bool
  existingAddress : Option String
  fundingFailure : Option Failure

/-- The secret under which a phrase is to be stored. -/
def secretOf (options : Options) (phrase : String) : Action Secret := do
  match options.form with
  | .phrase => return .seedPhrase (.ofText phrase)
  | .secretKey => return .secretKey (← keyPairOfPhrase phrase options.path).secret
  | .keychain => Action.ofExcept (Secret.parse (Secret.entryName options.name.text))

/-- Puts the pair of a phrase into the entry of a keychain secret, and gives the address of the pair
that is there already. -/
def fillEntry (options : Options) (phrase : String) (keychain : Option Keychain) :
    Secret → Action (Option String)
  | .keychain entry => do
    match keychain with
    | none => throw .noBackend
    | some keychain =>
      Action.log .info ("Writing to keychain: " ++ entry)
      keychain.store entry (← keyPairOfPhrase phrase options.path)
  | _ => return none

/-- Funds an address; a failure of the network is given back. -/
def tryFund (funder : Funder) (address : String) : Action (Option Failure) := do
  match ← Action.attempt (Action.fund funder address) with
  | .ok () => return none
  | .error failure =>
    if failure.family = .network then
      Action.log .warning ("Funding " ++ address ++ " failed: " ++ failure.message)
      return some failure
    else throw failure

/-- Stores a new identity: fills the entry of the keychain first, if there is to be one, and then
writes the file. -/
def storeNew (options : Options) (store : Store) (keychain : Option Keychain) :
    Action (Secret × Option String) := do
  let phrase ← makePhrase options.seed
  let secret ← secretOf options phrase
  let existing ← fillEntry options phrase keychain secret
  store.write options.name secret
  return (secret, existing)

/-- Generates an identity and, if a funder is given and wanted, funds it. -/
def run (options : Options) (store : Store) (keychain : Option Keychain) (funder : Option Funder) :
    Action Result := do
  let (secret, existingAddress) ← storeNew options store keychain
  match if options.skipsFunding then none else funder with
  | none => return ⟨options.name, secret, none, false, existingAddress, none⟩
  | some funder =>
    let address := (← keyPairOfSecret secret options.path keychain).address
    let fundingFailure ← tryFund funder address
    return ⟨options.name, secret, some address, fundingFailure.isNone, existingAddress,
      fundingFailure⟩

end Generate

end NamedKeys
