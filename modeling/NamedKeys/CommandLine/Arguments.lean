import NamedKeys.CommandLine.Parameter
import NamedKeys.Text.Similarity

/-!
# Arguments

The words of a command line, cut into options with their values and the words that are no options.  An
option of one letter may stand together with others, and its value may follow it at once; the value of
a longer one may follow an equality sign.
-/

namespace NamedKeys.CommandLine

/-- Why a command line cannot be carried out. -/
inductive UsageFault where
  | noSuchOption (word : String) (close : List String)
  | noSuchCommand (word : String) (close : List String)
  | noCommand
  | missingName
  | missingValue (word : String)
  | unwantedValue (word : String)
  | invalid (parameter : Parameter) (reason : String)
  | extraArguments (words : List String)
  deriving DecidableEq, Repr

/-- Words that may have been meant. -/
def suggestion (close : List String) : String :=
  let listed := ", ".intercalate (close.map Text.quoted)
  match close with
  | [] => ""
  | [_] => " Did you mean " ++ listed ++ "?"
  | _ => " (Did you mean one of: " ++ listed ++ "?)"

def UsageFault.message : UsageFault → String
  | noSuchOption word close => "No such option " ++ Text.quoted word ++ "." ++ suggestion close
  | noSuchCommand word close => "No such command " ++ Text.quoted word ++ "." ++ suggestion close
  | noCommand => "Missing command."
  | missingName => "Missing argument 'NAME'."
  | missingValue word => "Option " ++ Text.quoted word ++ " requires an argument."
  | unwantedValue word => "Option " ++ Text.quoted word ++ " does not take a value."
  | invalid parameter reason => "Invalid value for " ++ parameter.title ++ ": " ++ reason
  | extraArguments words =>
    (if words.length = 1 then "Got unexpected extra argument (" else
      "Got unexpected extra arguments (") ++ " ".intercalate words ++ ")"

/-- Whether the message of a fault is shown with the form of the command. -/
def UsageFault.showsForm : UsageFault → Bool
  | missingValue _ | unwantedValue _ => false
  | _ => true

/-- Options with their values, which are empty for those without one, and the other words. -/
structure Arguments where
  options : List (Parameter × String)
  words : List String
  deriving DecidableEq, Repr

namespace Arguments

/-- The last value of an option, if it is given. -/
def value? (arguments : Arguments) (parameter : Parameter) : Option String :=
  arguments.options.reverse.lookup parameter

def has (arguments : Arguments) (parameter : Parameter) : Bool :=
  (arguments.value? parameter).isSome

def values (arguments : Arguments) (parameter : Parameter) : List String :=
  (arguments.options.filter (·.1 = parameter)).map (·.2)

def optionOf? (options : List Parameter) (word : String) : Option Parameter :=
  options.find? fun option => option.words.contains word

/-- The words of more than one letter. -/
def longWords (options : List Parameter) : List String :=
  (options.flatMap Parameter.words).filter fun word => "--".toList.isPrefixOf word.toList

/-- Options read from one word; the last may still lack its value, and is given with its word. -/
abbrev Options := List (Parameter × String) × Option (Parameter × String)

/-- Reads options of one letter that stand together. -/
def readLetters (options : List Parameter) : List Char → Except UsageFault Options
  | [] => .ok ([], none)
  | c :: cs =>
    let word := String.ofList ['-', c]
    match optionOf? options word with
    | none => .error (.noSuchOption word [])
    | some option =>
      if option.hasValue then
        .ok (if cs = [] then ([], some (option, word)) else ([(option, String.ofList cs)], none))
      else (readLetters options cs).map fun (read, open?) => ((option, "") :: read, open?)

/-- Reads a word that begins with a hyphen. -/
def readOption (options : List Parameter) (word : String) : Except UsageFault Options :=
  let (name, value) := Text.cut '=' word.toList
  let name := String.ofList name
  let isLong := "--".toList.isPrefixOf word.toList
  match if isLong then optionOf? options name else none with
  | some option =>
    match option.hasValue, value with
    | true, some value => .ok ([(option, String.ofList value)], none)
    | true, none => .ok ([], some (option, name))
    | false, some _ => .error (.unwantedValue name)
    | false, none => .ok ([(option, "")], none)
  | none =>
    if isLong then .error (.noSuchOption name (Text.closeWords name (longWords options)))
    else readLetters options (word.toList.drop 1)

def prepend (read : List (Parameter × String)) (arguments : Arguments) : Arguments :=
  { arguments with options := read ++ arguments.options }

/-- Reads a command line.  `waiting` is the option whose value is the next word.  Two hyphens end the
options, and so does the first other word unless options may follow such words. -/
def read (options : List Parameter) (mayFollow : Bool) (waiting : Option (Parameter × String)) :
    List String → Except UsageFault Arguments
  | [] =>
    match waiting with
    | some (_, word) => .error (.missingValue word)
    | none => .ok ⟨[], []⟩
  | word :: words =>
    match waiting with
    | some (option, _) => (read options mayFollow none words).map (prepend [(option, word)])
    | none =>
      if word = "--" then .ok ⟨[], words⟩
      else if word.toList.head? = some '-' ∧ word ≠ "-" then do
        let (before, waiting) ← readOption options word
        (read options mayFollow waiting words).map (prepend before)
      else if mayFollow then
        (read options mayFollow none words).map fun arguments =>
          { arguments with words := word :: arguments.words }
      else .ok ⟨[], word :: words⟩

end Arguments

end NamedKeys.CommandLine
