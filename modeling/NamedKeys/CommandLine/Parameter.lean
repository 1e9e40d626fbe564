import NamedKeys.IdentityName
import NamedKeys.KeyPair
import NamedKeys.Table
import NamedKeys.Text.Blank
import NamedKeys.Text.Integer
import NamedKeys.Text.Split

/-!
# Parameters

The parameters of the commands, and how each value that is more than a text is read: the name of an
identity, a derivation path, a setting of a keychain.
-/

namespace NamedKeys.CommandLine

inductive Parameter where
  | storeFolder
  | useGlobal
  | quiet
  | backend
  | setting
  | seed
  | testSeed
  | asSecretKey
  | inKeychain
  | path
  | fund
  | noFund
  | network
  | friendbotUrl
  | help
  | name
  deriving DecidableEq, Repr

namespace Parameter

/-- The words by which a parameter is given; the name of an identity is given without one. -/
def words : Parameter → List String
  | storeFolder => ["--config-dir"]
  | useGlobal => ["--global"]
  | quiet => ["--quiet", "-q"]
  | backend => ["--keychain-backend", "-k"]
  | setting => ["--keychain-config", "-c"]
  | seed => ["--seed"]
  | testSeed => ["--default-seed", "-d"]
  | asSecretKey => ["--as-secret", "-s"]
  | inKeychain => ["--keychain"]
  | path => ["--hd-path"]
  | fund => ["--fund"]
  | noFund => ["--no-fund"]
  | network => ["--network"]
  | friendbotUrl => ["--friendbot-url"]
  | help => ["--help"]
  | name => []

def hasValue : Parameter → Bool
  | storeFolder | backend | setting | seed | path | network | friendbotUrl | name => true
  | useGlobal | quiet | testSeed | asSecretKey | inKeychain | fund | noFund | help => false

/-- How messages name a parameter. -/
def title (parameter : Parameter) : String :=
  match parameter with
  | name => "'NAME'"
  | _ => " / ".intercalate (parameter.words.map fun word => "'" ++ word ++ "'")

end Parameter

/-! ## Values -/

/-- What is given for a parameter: a text, or something of another sort, which is named. -/
inductive Given where
  | text (text : String)
  | other (sort : String)
  deriving DecidableEq, Repr

/-- The text that is given, or the reason why none is. -/
def Given.asText : Given → Except String String
  | .text words => .ok words
  | .other sort => .error ("Expected a string value, got " ++ sort)

/-- The name of an identity, or the reason why it is none. -/
def Given.asName (given : Given) : Except String IdentityName := do
  match IdentityName.ofText (← given.asText) with
  | .ok name => return name
  | .error failure => throw failure.message

/-- A setting: what stands before and after the first equality sign, without blanks around. -/
def Given.asSetting (given : Given) : Except String (String × String) := do
  let (key, value) := Text.cut '=' (← given.asText).toList
  match value with
  | some value => return (String.ofList (Text.trim key), String.ofList (Text.trim value))
  | none => throw "not enough values to unpack (expected 2, got 1)"

/-- The last part of a derivation path, or the reason why it is none. -/
def readPath (text : String) : Except String Int :=
  match Text.readInteger? 10 text.toList with
  | none => .error (Text.quoted text ++ " is not a valid integer range.")
  | some path =>
    if 0 ≤ path ∧ path ≤ greatestIndex then .ok path
    else .error (toString path ++ " is not in the range 0<=x<=" ++ toString greatestIndex ++ ".")

/-- Settings by key, where the last value of a key counts. -/
def collectSettings (settings : List (String × String)) : Table String String :=
  settings.foldl (fun table (key, value) => table.put key value) []

end NamedKeys.CommandLine
