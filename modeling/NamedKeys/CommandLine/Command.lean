import NamedKeys.CommandLine.Arguments
import NamedKeys.World

/-!
# Commands

The commands with their options, and a command line as what is to be done: the general options, which
come before the name of the command, and then those of the command.
-/

namespace NamedKeys.CommandLine

inductive Command where
  | generate
  | address
  | show
  | ls
  | rm
  | fund
  deriving DecidableEq, Repr

namespace Command

def all : List Command := [address, fund, generate, ls, rm, Command.show]

def name : Command → String
  | generate => "generate"
  | address => "address"
  | Command.show => "show"
  | ls => "ls"
  | rm => "rm"
  | fund => "fund"

def options : Command → List Parameter
  | generate =>
    [.seed, .testSeed, .asSecretKey, .inKeychain, .path, .fund, .noFund, .network, .friendbotUrl,
      .help]
  | address | Command.show => [.path, .help]
  | ls | rm => [.help]
  | fund => [.path, .network, .friendbotUrl, .help]

def hasName (command : Command) : Bool :=
  command ≠ ls

end Command

def generalOptions : List Parameter :=
  [.storeFolder, .useGlobal, .quiet, .backend, .setting, .help]

/-- The form of the whole command line, or of that of a command. -/
def formOf : Option Command → String
  | none => "identities [OPTIONS] COMMAND [ARGS]..."
  | some command =>
    "identities " ++ command.name ++ " [OPTIONS]" ++ if command.hasName then " NAME" else ""

/-- What is shown with a fault before its message. -/
def hintOf (command : Option Command) : String :=
  let path := (command.map fun command => " " ++ command.name).getD ""
  "Usage: " ++ formOf command ++ "\nTry 'identities" ++ path ++ " --help' for help.\n\n"

/-- A fault in the general part of a command line or in that of a command. -/
structure Misuse where
  command : Option Command
  fault : UsageFault
  deriving DecidableEq, Repr

def Misuse.text (misuse : Misuse) : String :=
  (if misuse.fault.showsForm then hintOf misuse.command else "") ++ "Error: " ++
    misuse.fault.message ++ "\n"

/-! ## The general part -/

structure General where
  storeFolder : Option String
  useGlobal : Bool
  quiet : Bool
  backend : String
  settings : Table String String
  deriving DecidableEq, Repr

/-- A value that an option gives, or a variable that is not empty, or neither. -/
def valueOr (world : World) (arguments : Arguments) (option : Parameter) (variableName : String)
    (otherwise : String) : String :=
  (arguments.value? option <|> world.nonemptyValue? variableName).getD otherwise

/-- Reads a value, or refuses it with the parameter that it is given for. -/
def readAs {α : Type} (parameter : Parameter) (read : Except String α) : Except UsageFault α :=
  read.mapError (.invalid parameter)

/-- Reads the general options. -/
def General.ofArguments (world : World) (arguments : Arguments) : Except UsageFault General := do
  let settings ← (arguments.values .setting).mapM fun text =>
    readAs .setting (Given.text text).asSetting
  return {
    storeFolder := arguments.value? .storeFolder
    useGlobal := arguments.has .useGlobal
    quiet := arguments.has .quiet
    backend := valueOr world arguments .backend "IDENTITIES_KEYCHAIN_BACKEND" "system"
    settings := collectSettings settings }

/-- The command of a name, which is followed by other words.  A word that is none is first read once
more as a general option. -/
def commandOf (world : World) (word : String) (words : List String) : Except UsageFault Command := do
  match Command.all.find? (·.name = word) with
  | some command => return command
  | none =>
    let _ ← General.ofArguments world (← Arguments.read generalOptions false none (word :: words))
    throw (.noSuchCommand word (Text.closeWords word (Command.all.map Command.name)))

/-! ## The part of a command -/

/-- What a command is to do. -/
inductive Task where
  | help (command : Option Command)
  | generate (name : IdentityName) (path : Option Int) (arguments : Arguments)
  | address (name : IdentityName) (path : Option Int)
  | show (name : IdentityName) (path : Option Int)
  | list
  | remove (name : IdentityName)
  | fund (name : IdentityName) (path : Option Int) (arguments : Arguments)

/-- Reads the name of an identity, which must be given. -/
def nameOf (arguments : Arguments) : Except UsageFault IdentityName :=
  match arguments.words with
  | [] => .error .missingName
  | word :: _ => readAs .name (Given.text word).asName

/-- Reads the part of a command: first its path, then its name, and then no words may be left. -/
def Task.ofWords (command : Command) (words : List String) : Except UsageFault Task := do
  let arguments ← Arguments.read command.options true none words
  if arguments.has .help then return .help command
  let path ← (arguments.value? .path).mapM fun text => readAs .path (readPath text)
  let name? ← if command.hasName then some <$> nameOf arguments else pure none
  let extra := arguments.words.drop (if command.hasName then 1 else 0)
  if extra ≠ [] then throw (.extraArguments extra)
  match command, name? with
  | .generate, some name => return .generate name path arguments
  | .address, some name => return .address name path
  | .show, some name => return .show name path
  | .rm, some name => return .remove name
  | .fund, some name => return .fund name path arguments
  | _, _ => return .list

end NamedKeys.CommandLine
