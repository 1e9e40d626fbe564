import NamedKeys.Text.Digits
import NamedKeys.Yaml.Tag

/-!
# Writing a document

The document of one key and one text.  The text is written plain if it then still reads as a text,
else between single quotes if it is made of printable ASCII and line feeds that no blank touches, else
between double quotes, with escapes.  A line that has passed column 80 ends at the next place where a
break does not change the text.
-/

namespace NamedKeys.Yaml

/-- The column beyond which a line is folded. -/
def greatestColumn : Nat := 80

/-- The blanks at the beginning of a line that goes on with the text. -/
def continuation : List Char := [' ', ' ']

/-! ## The choice of style -/

def isPrintableAscii (c : Char) : Bool :=
  0x20 ≤ c.toNat && c.toNat ≤ 0x7E

/-- Whether the first character of a text, with what follows it, may begin a plain scalar. -/
def mayBegin (c : Char) (cs : List Char) : Bool :=
  !"#,[]\x7b\x7d&*!|>'\"%@`".toList.contains c && !(("?:-".toList.contains c) && isSeparated cs)

/-- Whether no colon of a text stands before a blank or the end, and no number sign after a
blank. -/
def hasNoMark : List Char → Bool
  | [] => true
  | c :: cs =>
    !(c = ':' && isSeparated cs) && !(c = ' ' && cs.head? = some '#') && hasNoMark cs

/-- Whether a text may be written plain. -/
def isPlainText (cs : List Char) : Bool :=
  match cs with
  | [] => false
  | c :: rest =>
    cs.all isPrintableAscii && c ≠ ' ' && cs.getLast? ≠ some ' ' &&
      !(['-', '-', '-'].isPrefixOf cs) && !(['.', '.', '.'].isPrefixOf cs) && mayBegin c rest &&
      hasNoMark cs && Tag.ofPlain cs = .text

/-- Whether no blank stands before or after a line feed. -/
def hasNoBlankAtBreak : List Char → Bool
  | c :: d :: cs => !(c = ' ' && d = '\n') && !(c = '\n' && d = ' ') && hasNoBlankAtBreak (d :: cs)
  | _ => true

/-- Whether a text may be written between single quotes. -/
def isSingleText (cs : List Char) : Bool :=
  (cs.all fun c => c = '\n' || isPrintableAscii c) && hasNoBlankAtBreak cs

/-! ## Writing -/

/-- Writes a text plain or between single quotes from a column, after a character, if there is one.
A single space beyond the greatest column becomes the end of the line; a line feed is written with
an empty line before the first of several, and a quote twice. -/
def writeFolded (isQuoted : Bool) (column : Nat) (before : Option Char) : List Char → List Char
  | [] => []
  | c :: cs =>
    if c = '\n' then
      (if before = some '\n' then [] else ['\n']) ++ '\n' ::
        (if cs.head? = some '\n' then [] else continuation) ++ writeFolded isQuoted 2 (some c) cs
    else if c = ' ' && column > greatestColumn && before.any (· ≠ ' ') && cs.head?.any (· ≠ ' ') then
      '\n' :: continuation ++ writeFolded isQuoted 2 (some c) cs
    else if isQuoted && c = '\'' then
      '\'' :: '\'' :: writeFolded isQuoted (column + 2) (some c) cs
    else c :: writeFolded isQuoted (column + 1) (some c) cs

def escapeLetters : List (Char × Char) :=
  [('\u0000', '0'), ('\u0007', 'a'), ('\u0008', 'b'), ('\t', 't'), ('\n', 'n'), ('\u000B', 'v'),
    ('\u000C', 'f'), ('\r', 'r'), ('\u001B', 'e'), ('"', '"'), ('\\', '\\'), ('\u0085', 'N'),
    ('\u00A0', '_'), ('\u2028', 'L'), ('\u2029', 'P')]

/-- The escape of a character, without the backslash. -/
def escapeOf (c : Char) : List Char :=
  match escapeLetters.lookup c with
  | some letter => [letter]
  | none =>
    let n := c.toNat
    if n ≤ 0xFF then 'x' :: Text.hexDigits Text.upperHexDigit 2 n
    else if n ≤ 0xFFFF then 'u' :: Text.hexDigits Text.upperHexDigit 4 n
    else 'U' :: Text.hexDigits Text.upperHexDigit 8 n

def isEscaped (c : Char) : Bool :=
  c = '"' || c = '\\' || !isPrintableAscii c

/-- The end of a line inside double quotes before the given text: a backslash joins the lines, and
another one keeps a space that comes next. -/
def joint (cs : List Char) : List Char :=
  '\\' :: '\n' :: continuation ++ if cs.head? = some ' ' then ['\\'] else []

/-- The column after such an end of a line. -/
def jointColumn (cs : List Char) : Nat :=
  if cs.head? = some ' ' then 3 else 2

/-- Writes a text between double quotes from a column.  `isFirst` says that it is the whole text, and
`isFresh` that an escape or the end of a line has just been written. -/
def writeEscaped (isFirst isFresh : Bool) (column : Nat) : List Char → List Char
  | [] => []
  | c :: cs =>
    if isEscaped c then
      let escape := '\\' :: escapeOf c
      let column := column + escape.length
      if !isFirst && cs ≠ [] && column > greatestColumn + 1 then
        escape ++ joint cs ++ writeEscaped false true (jointColumn cs) cs
      else escape ++ writeEscaped false true column cs
    else if !isFirst && cs ≠ [] && (c = ' ' || isFresh) && column > greatestColumn then
      joint (c :: cs) ++ c :: writeEscaped false false (jointColumn (c :: cs) + 1) cs
    else c :: writeEscaped false false (column + 1) cs

/-- A text as a scalar from a column. -/
def writeScalar (column : Nat) (cs : List Char) : List Char :=
  if isPlainText cs then writeFolded false column none cs
  else if isSingleText cs then '\'' :: writeFolded true (column + 1) none cs ++ ['\'']
  else '"' :: writeEscaped true false (column + 1) cs ++ ['"']

/-- The document of one entry, of which the key is written plain. -/
def writeEntry (key text : List Char) : List Char :=
  "---\n".toList ++ key ++ ':' :: ' ' :: writeScalar (key.length + 2) text ++ ['\n']

end NamedKeys.Yaml
