import NamedKeys.CommandLine.Command
import NamedKeys.Generate
import NamedKeys.StoreLocation

/-!
# The command line

What the program does with the words of a command line: which store and which keychain it uses, what it
prints, and with which code it ends.
-/

namespace NamedKeys.CommandLine

/-- What a run of the program leaves besides the world: its code, what it has printed for its result
and for its faults, and a failure that it does not report itself. -/
structure Outcome where
  code : Nat
  output : String
  errors : String
  escaped : Option Failure
  deriving DecidableEq, Repr

def Outcome.ofMisuse (misuse : Misuse) : Outcome :=
  ⟨2, "", misuse.text, none⟩

/-- The outcome of a task that ends with an output or a failure, after a warning. -/
def Outcome.ofResult (warning : String) : Except Failure String → Outcome
  | .ok output => ⟨0, output, warning, none⟩
  | .error failure =>
    if failure.isReported then ⟨1, "", warning ++ "Error: " ++ failure.message ++ "\n", none⟩
    else ⟨1, "", warning, some failure⟩

/-- What is printed when an identity is generated without the option to fund it. -/
def fundingWarning : String :=
  "Warning: Behavior of \u0060generate\u0060 will change in the future, and it will no longer fund " ++
    "by default. If you want to fund please provide \u0060--fund\u0060 flag. If you don't need to " ++
    "fund your keys in the future, ignore this warning. It can be suppressed with -q flag.\n"

/-! ## Tasks -/

def openKeychain (general : General) : Action Keychain := do
  Keychain.ofBackend (← Action.ofExcept (Keychain.Backend.ofName general.backend)) general.settings

/-- The keychain that a secret needs, if it needs one. -/
def keychainFor (general : General) : Secret → Action (Option Keychain)
  | .keychain _ => some <$> openKeychain general
  | _ => return none

def chosenNetwork (arguments : Arguments) : Action Network := do
  let name := valueOr (← get) arguments .network "IDENTITIES_NETWORK" "testnet"
  Action.ofExcept (Network.ofName name (arguments.value? .friendbotUrl))

def keyPairOf (general : General) (store : Store) (name : IdentityName) (path : Option Int) :
    Action KeyPair := do
  let secret ← store.read name
  keyPairOfSecret secret path (← keychainFor general secret)

/-- What the options of a new identity ask for. -/
def requestOf (name : IdentityName) (path : Option Int) (arguments : Arguments) :
    Generate.Request where
  name := name.text
  seed := arguments.value? .seed
  useTestSeed := arguments.has .testSeed
  asSecretKey := arguments.has .asSecretKey
  inKeychain := arguments.has .inKeychain
  path := path
  fund := arguments.has .fund
  noFund := arguments.has .noFund

/-- Generates an identity. -/
def generate (general : General) (store : Store) (reply : Reply) (request : Generate.Request)
    (arguments : Arguments) : Action String := do
  let options ← Action.ofExcept (Generate.Options.ofRequest request)
  let funder ← if request.noFund then pure none
    else some <$> (Network.fund · reply) <$> chosenNetwork arguments
  let keychain ← if request.inKeychain then some <$> openKeychain general else pure none
  let result ← Generate.run options store keychain funder
  return match result.existingAddress with
    | some address =>
      "A key for " ++ request.name ++ " already exists in your keychain: " ++ address ++ "\n"
    | none => ""

/-- Carries out a task and gives its output. -/
def Task.run (general : General) (store : Store) (reply : Reply) : Task → Action String
  | .help command => return "Usage: " ++ formOf command ++ "\n"
  | .generate name path arguments =>
    CommandLine.generate general store reply (requestOf name path arguments) arguments
  | .address name path => return (← keyPairOf general store name path).address ++ "\n"
  | .show name path => return (← keyPairOf general store name path).secret ++ "\n"
  | .list => return String.join ((← store.list).map (· ++ "\n"))
  | .remove name => do
    store.remove name
    return ""
  | .fund name path arguments => do
    let network ← chosenNetwork arguments
    let pair ← keyPairOf general store name path
    Action.fund (network.fund reply) pair.address
    return ""

def Task.warning (general : General) : Task → String
  | .generate _ _ arguments =>
    if arguments.has .fund || general.quiet then "" else fundingWarning
  | _ => ""

/-! ## Runs -/

def openStore (general : General) : Action Store := do
  Action.log .debug "App started! "
  return ⟨← StoreLocation.resolve general.useGlobal (general.storeFolder.map Path.ofText)⟩

/-- Carries out a command with its words. -/
def runCommand (general : General) (command : Command) (words : List String) (reply : Reply) :
    Action Outcome := do
  match ← Action.attempt (openStore general) with
  | .error failure => return ⟨1, "", "", some failure⟩
  | .ok store =>
    match Task.ofWords command words with
    | .error fault => return .ofMisuse ⟨some command, fault⟩
    | .ok task =>
      return .ofResult (task.warning general) (← Action.attempt (task.run general store reply))

/-- What a whole command line asks for: the general options, and the command with its words, or
nothing when help is asked for. -/
def readLine (world : World) (words : List String) :
    Except UsageFault (Option (General × Command × List String)) := do
  let arguments ← Arguments.read generalOptions false none words
  if arguments.has .help then return none
  let general ← General.ofArguments world arguments
  match arguments.words with
  | [] => throw .noCommand
  | word :: words => return some (general, ← commandOf world word words, words)

/-- Runs the program on the words of a command line.  A keychain in memory lasts for one run, and the
log of a quiet run is dropped. -/
def run (words : List String) (reply : Reply) (world : World) : Outcome × World :=
  match readLine world words with
  | .error fault => (.ofMisuse ⟨none, fault⟩, world)
  | .ok none => (⟨0, "Usage: " ++ formOf none ++ "\n", "", none⟩, world)
  | .ok (some (general, command, words)) =>
    let (result, after) := (runCommand general command words reply).runOn { world with memory := [] }
    let after := { after with
      memory := world.memory
      log := if general.quiet then world.log else after.log }
    match result with
    | .ok outcome => (outcome, after)
    | .error failure => (⟨1, "", "", some failure⟩, after)

end NamedKeys.CommandLine
