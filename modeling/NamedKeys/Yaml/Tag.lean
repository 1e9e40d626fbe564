import NamedKeys.Text.Digits
import NamedKeys.Text.Split
import NamedKeys.Yaml.Timestamp

/-!
# Types of values

The types that the tags of a document name, and the type that a plain text has by its form: YAML 1.1
takes some words for truth values and nothing, and some texts for numbers, dates and marks.
-/

namespace NamedKeys.Yaml

/-- The types of values; `merge` and `value` mark keys with a meaning of their own. -/
inductive Tag where
  | null
  | bool
  | int
  | float
  | octets
  | timestamp
  | text
  | sequence
  | mapping
  | set
  | orderedMap
  | pairs
  | merge
  | value
  | other
  deriving DecidableEq, Repr

/-- What begins the names of the known types. -/
def Tag.namePrefix : String := "tag:yaml.org,2002:"

/-- The known types by the ends of their names. -/
def Tag.known : List (String × Tag) :=
  [("null", null), ("bool", bool), ("int", int), ("float", float), ("binary", octets),
    ("timestamp", timestamp), ("str", text), ("seq", sequence), ("map", mapping), ("set", set),
    ("omap", orderedMap), ("pairs", pairs), ("merge", merge), ("value", value)]

def Tag.ofName (name : String) : Tag :=
  ((Tag.known.find? fun (ending, _) => name = namePrefix ++ ending).map (·.2)).getD other

/-! ## Forms of plain texts -/

/-- A text without one line feed at its end. -/
def dropLineFeed (cs : List Char) : List Char :=
  if cs.getLast? = some '\n' then cs.dropLast else cs

def dropSign (cs : List Char) : List Char :=
  if cs.head? = some '-' ∨ cs.head? = some '+' then cs.drop 1 else cs

def isDigitOrLine (c : Char) : Bool :=
  c.isDigit || c = '_'

/-- Whether a text is one or two digits, of which the first of two is at most five. -/
def isSixtieth : List Char → Bool
  | [c] => c.isDigit
  | [c, d] => '0' ≤ c && c ≤ '5' && d.isDigit
  | _ => false

/-- Whether a text is a group of digits with a property and sixtieths after colons. -/
def isSexagesimal (isFirst : List Char → Bool) (cs : List Char) : Bool :=
  match Text.splitOn ':' cs with
  | [] | [_] => false
  | first :: groups => isFirst first && groups.all isSixtieth

def truthWords : List String :=
  ["yes", "Yes", "YES", "no", "No", "NO", "true", "True", "TRUE", "false", "False", "FALSE", "on",
    "On", "ON", "off", "Off", "OFF"]

def nullWords : List String :=
  ["~", "null", "Null", "NULL"]

/-- Whether a text is a digit and then digits and low lines. -/
def isDigitRun : List Char → Bool
  | [] => false
  | c :: cs => c.isDigit && cs.all isDigitOrLine

/-- Whether a text has the form of a whole number. -/
def isInt (cs : List Char) : Bool :=
  let positive := fun (cs : List Char) => cs.head? ≠ some '0' && isDigitRun cs
  match dropSign cs with
  | ['0'] => true
  | '0' :: 'b' :: cs => cs ≠ [] && cs.all ("01_".toList.contains ·)
  | '0' :: 'x' :: cs => cs ≠ [] && cs.all fun c => (Text.hexDigitValue? c).isSome || c = '_'
  | '0' :: cs => cs.all ("01234567_".toList.contains ·)
  | cs => positive cs || isSexagesimal positive cs

/-- Whether a text is nothing or a power of ten with a sign. -/
def isPower : List Char → Bool
  | [] => true
  | [_] | [_, _] => false
  | e :: sign :: cs => (e = 'e' || e = 'E') && (sign = '-' || sign = '+') && cs.all (·.isDigit)

/-- Whether a text has the form of a number with a point. -/
def isFloat (cs : List Char) : Bool :=
  let (before, after) := Text.cut '.' (dropSign cs)
  let hasSign := (dropSign cs).length ≠ cs.length
  match after with
  | none => false
  | some after =>
    let rest := after.dropWhile isDigitOrLine
    (isDigitRun before && isPower rest) ||
      (before = [] && !hasSign && isDigitRun (after.takeWhile isDigitOrLine) && isPower rest) ||
      (isSexagesimal isDigitRun before && rest = []) ||
      (before = [] && ["inf", "Inf", "INF"].contains (String.ofList after)) ||
      (before = [] && !hasSign && ["nan", "NaN", "NAN"].contains (String.ofList after))

/-- The type of a plain text. -/
def Tag.ofPlain (cs : List Char) : Tag :=
  if cs = [] then null
  else
    let body := dropLineFeed cs
    let word := String.ofList body
    if truthWords.contains word then bool
    else if isFloat body then float
    else if isInt body then int
    else if word = "<<" then merge
    else if nullWords.contains word then null
    else if (WrittenDate.ofText? cs).any (·.isPlain) then timestamp
    else if word = "=" then value
    else if ["!", "&", "*"].contains word then other
    else text

end NamedKeys.Yaml
