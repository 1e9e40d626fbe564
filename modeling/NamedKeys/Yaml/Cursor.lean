import NamedKeys.Failure

/-!
# Positions in a document

The part of a document that is still to be read, with the line and the column where it begins, and
the sets of characters that the grammar of YAML 1.1 names.
-/

namespace NamedKeys.Yaml

/-- Why a text gives no value: it is no document of the grammar, or it spells a value that cannot
be built. -/
inductive Fault where
  | malformed
  | value (fault : ValueFault)
  deriving DecidableEq, Repr

def isBreak (c : Char) : Bool :=
  c = '\n' || c = '\r' || c = '\u0085' || c = '\u2028' || c = '\u2029'

def isSeparator (c : Char) : Bool :=
  c = ' ' || c = '\t' || isBreak c

/-- Whether a text is empty or begins with a space, a tab or the end of a line. -/
def isSeparated (cs : List Char) : Bool :=
  cs.head?.all isSeparator

/-- Whether a text is empty or begins with a space or the end of a line. -/
def isSpaced (cs : List Char) : Bool :=
  cs.head?.all fun c => c = ' ' || isBreak c

/-- Whether a text begins with a mark between documents. -/
def startsMarker (cs : List Char) : Bool :=
  (['-', '-', '-'].isPrefixOf cs || ['.', '.', '.'].isPrefixOf cs) && isSeparated (cs.drop 3)

/-- The characters of the names of anchors, directives and tag handles. -/
def isWordChar (c : Char) : Bool :=
  c.isAlphanum || c = '-' || c = '_'

def isReadable (c : Char) : Bool :=
  let n := c.toNat
  n = 0x09 || n = 0x0A || n = 0x0D || (0x20 ≤ n && n ≤ 0x7E) || n = 0x85 ||
    (0xA0 ≤ n && n ≤ 0xFFFD) || 0x10000 ≤ n

/-- The rest of a document, the number of characters before it, and its line and column. -/
structure Cursor where
  rest : List Char
  index : Nat
  line : Nat
  column : Nat
  deriving DecidableEq, Repr

namespace Cursor

def start (cs : List Char) : Cursor := ⟨cs, 0, 0, 0⟩

def peek? (here : Cursor) : Option Char := here.rest.head?

def at? (here : Cursor) (c : Char) : Bool := here.rest.head? = some c

/-- The position after the next character.  The end of a line begins a new one, and a byte order
mark takes no column. -/
def advance (here : Cursor) : Cursor :=
  match here.rest with
  | [] => here
  | c :: cs =>
    if isBreak c && !(c = '\r' && cs.head? = some '\n') then ⟨cs, here.index + 1, here.line + 1, 0⟩
    else if c = '\uFEFF' then ⟨cs, here.index + 1, here.line, here.column⟩
    else ⟨cs, here.index + 1, here.line, here.column + 1⟩

def skip : Nat → Cursor → Cursor
  | 0, here => here
  | n + 1, here => skip n here.advance

/-- The longest run of characters with a property, and the position after it. -/
def span (p : Char → Bool) (here : Cursor) : List Char × Cursor :=
  let run := here.rest.takeWhile p
  (run, here.skip run.length)

def skipWhile (p : Char → Bool) (here : Cursor) : Cursor :=
  (here.span p).2

/-- The position after the end of the line, if the line ends here, and the character that stands
for it: all ends but two are line feeds. -/
def lineBreak? (here : Cursor) : Option (Char × Cursor) :=
  match here.rest with
  | '\r' :: '\n' :: _ => some ('\n', here.skip 2)
  | c :: _ =>
    if c = '\u2028' || c = '\u2029' then some (c, here.advance)
    else if isBreak c then some ('\n', here.advance)
    else none
  | [] => none

end Cursor

end NamedKeys.Yaml
