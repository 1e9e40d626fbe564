import NamedKeys.Text.Digits
import NamedKeys.Yaml.Cursor

/-!
# Scalars

The five spellings of a text in a document: plain, between single or double quotes, and in a block
that keeps or folds its lines.  In all but the literal block a line break between two words reads as
a space, and an empty line as a line break.
-/

namespace NamedKeys.Yaml

/-! ## Folded lines -/

/-- The text that stands for a line break and the empty lines after it. -/
def foldBreaks (first : Char) (empty : List Char) : List Char :=
  (if first ≠ '\n' then [first] else if empty = [] then [' '] else []) ++ empty

/-! ## Plain scalars -/

/-- How many characters of a plain scalar stand in a row. -/
def plainRun (inFlow : Bool) : List Char → Nat
  | [] => 0
  | c :: cs =>
    if isSeparator c then 0
    else if c = ':' && (isSeparated cs || (inFlow && cs.head?.any (",[]\x7b\x7d".toList.contains ·))) then 0
    else if inFlow && ",?[]\x7b\x7d".toList.contains c then 0
    else plainRun inFlow cs + 1

/-- The empty lines and indentation after a line of a plain scalar, or nothing when a mark between
documents begins a line. -/
def plainBreaks : (fuel : Nat) → Cursor → Option (List Char) × Cursor
  | 0, here => (some [], here)
  | fuel + 1, here =>
    if here.at? ' ' then plainBreaks fuel here.advance
    else
      match here.lineBreak? with
      | none => (some [], here)
      | some (c, next) =>
        if startsMarker next.rest then (none, next)
        else
          let (breaks, last) := plainBreaks fuel next
          (breaks.map (c :: ·), last)

/-- The text that stands for the spaces and line breaks after a run of a plain scalar, which is
empty when the scalar ends here, the position after them, and whether a line ends among them. -/
def plainSpaces (here : Cursor) : List Char × Cursor × Bool :=
  let (spaces, next) := here.span (· = ' ')
  match next.lineBreak? with
  | none => (spaces, next, false)
  | some (c, next) =>
    if startsMarker next.rest then ([], next, true)
    else
      match plainBreaks next.rest.length next with
      | (none, last) => ([], last, true)
      | (some breaks, last) => (foldBreaks c breaks, last, true)

/-- A plain scalar: its text, the position after it and whether a line ends between the two. -/
def plainScalar (inFlow : Bool) (leastColumn : Nat) : (fuel : Nat) → Cursor → List Char × Cursor × Bool
  | 0, here => ([], here, false)
  | fuel + 1, here =>
    let run := plainRun inFlow here.rest
    let (spaces, next, broken) := plainSpaces (here.skip run)
    let text := here.rest.take run
    if spaces = [] || next.at? '#' || (!inFlow && next.column < leastColumn) ||
        plainRun inFlow next.rest = 0 then
      (text, next, broken)
    else
      let (more, last, broken) := plainScalar inFlow leastColumn fuel next
      (text ++ spaces ++ more, last, broken)

/-! ## Quoted scalars -/

def letterEscapes : List (Char × Char) :=
  [('0', '\u0000'), ('a', '\u0007'), ('b', '\u0008'), ('t', '\t'), ('\t', '\t'), ('n', '\n'),
    ('v', '\u000B'), ('f', '\u000C'), ('r', '\r'), ('e', '\u001B'), (' ', ' '), ('"', '"'),
    ('\\', '\\'), ('/', '/'), ('N', '\u0085'), ('_', '\u00A0'), ('L', '\u2028'), ('P', '\u2029')]

/-- How many hexadecimal digits follow a letter that begins an escape by number. -/
def numberEscapes : List (Char × Nat) :=
  [('x', 2), ('u', 4), ('U', 8)]

/-- The character of a number of up to 32 bits.  There are none beyond the last code point, and a
number of half a surrogate pair reads as the replacement character. -/
def charOfNumber (n : Nat) : Except Fault Char :=
  if n.isValidChar then .ok (Char.ofNat n)
  else if n < 0x110000 then .ok '\uFFFD'
  else if n < Nat.pow 2 31 then .error (.value .impossible)
  else .error (.value .overflow)

/-- The empty lines after a line break between quotes; no mark between documents may begin a
line. -/
def quotedBreaks : (fuel : Nat) → Cursor → Except Fault (List Char × Cursor)
  | 0, _ => .error .malformed
  | fuel + 1, here =>
    if startsMarker here.rest then .error .malformed
    else
      let next := here.skipWhile fun c => c = ' ' || c = '\t'
      match next.lineBreak? with
      | none => .ok ([], next)
      | some (c, next) => (quotedBreaks fuel next).map fun (breaks, last) => (c :: breaks, last)

/-- The text that stands for blanks and line breaks between quotes. -/
def quotedSpaces (here : Cursor) : Except Fault (List Char × Cursor) :=
  let (spaces, next) := here.span fun c => c = ' ' || c = '\t'
  match next.lineBreak? with
  | none => if next.rest = [] then .error .malformed else .ok (spaces, next)
  | some (c, next) =>
    (quotedBreaks (next.rest.length + 1) next).map fun (breaks, last) => (foldBreaks c breaks, last)

/-- The text of an escape, of which the backslash has been read. -/
def escape (here : Cursor) : Except Fault (List Char × Cursor) :=
  match here.peek? with
  | none => .error .malformed
  | some c =>
    match letterEscapes.lookup c, numberEscapes.lookup c with
    | some d, _ => .ok ([d], here.advance)
    | none, some width =>
      let next := here.advance
      let digits := next.rest.take width
      match Text.ofHexDigits? digits with
      | some n =>
        if digits.length = width then do return ([← charOfNumber n], next.skip width)
        else .error .malformed
      | none => .error .malformed
    | none, none =>
      match here.lineBreak? with
      | some (_, next) => quotedBreaks (next.rest.length + 1) next
      | none => .error .malformed

/-- The next piece of a quoted scalar, or nothing when the scalar ends here. -/
def quotedPiece (isDouble : Bool) (here : Cursor) : Except Fault (Option (List Char) × Cursor) :=
  match here.rest with
  | [] => .error .malformed
  | c :: cs =>
    if isSeparator c then (quotedSpaces here).map fun (text, next) => (some text, next)
    else if isDouble then
      if c = '"' then .ok (none, here.advance)
      else if c = '\\' then (escape here.advance).map fun (text, next) => (some text, next)
      else .ok (some [c], here.advance)
    else if c = '\'' then
      if cs.head? = some '\'' then .ok (some ['\''], here.skip 2) else .ok (none, here.advance)
    else .ok (some [c], here.advance)

/-- A quoted scalar, of which the first quote has been read. -/
def quotedScalar (isDouble : Bool) : (fuel : Nat) → Cursor → Except Fault (List Char × Cursor)
  | 0, _ => .error .malformed
  | fuel + 1, here => do
    match ← quotedPiece isDouble here with
    | (none, next) => return ([], next)
    | (some piece, next) =>
      let (more, last) ← quotedScalar isDouble fuel next
      return (piece ++ more, last)

/-! ## Blocks -/

/-- What becomes of the line breaks at the end of a block: all are dropped, one stays, or all. -/
inductive Chomping where
  | strip
  | clip
  | keep
  deriving DecidableEq, Repr

def chompingOf? (c : Char) : Option Chomping :=
  if c = '+' then some .keep else if c = '-' then some .strip else none

/-- The indentation that a digit stands for, which is not zero. -/
def indentationOf? (c : Char) : Option Nat :=
  if c.isDigit && c ≠ '0' then some (c.toNat - 48) else none

/-- The header of a block: a sign and a digit in either order, either of which may be missing. -/
def blockHeader (here : Cursor) : Chomping × Option Nat × Cursor :=
  match here.peek?.bind chompingOf? with
  | some chomping =>
    let next := here.advance
    match next.peek?.bind indentationOf? with
    | some n => (chomping, some n, next.advance)
    | none => (chomping, none, next)
  | none =>
    match here.peek?.bind indentationOf? with
    | some n =>
      let next := here.advance
      match next.peek?.bind chompingOf? with
      | some chomping => (chomping, some n, next.advance)
      | none => (.clip, some n, next)
    | none => (.clip, none, here)

/-- The position after the rest of a line that holds at most a comment. -/
def restOfLine (here : Cursor) : Except Fault Cursor :=
  let next := here.skipWhile (· = ' ')
  let next := if next.at? '#' then next.skipWhile (!isBreak ·) else next
  match next.lineBreak? with
  | some (_, last) => .ok last
  | none => if next.rest = [] then .ok next else .error .malformed

/-- The line breaks before the first line of a block whose indentation is not given, and the
greatest column that its spaces reach. -/
def leadingBreaks : (fuel : Nat) → Cursor → List Char × Nat × Cursor
  | 0, here => ([], 0, here)
  | fuel + 1, here =>
    if here.at? ' ' then
      let next := here.advance
      let (breaks, column, last) := leadingBreaks fuel next
      (breaks, max next.column column, last)
    else
      match here.lineBreak? with
      | none => ([], 0, here)
      | some (c, next) =>
        let (breaks, column, last) := leadingBreaks fuel next
        (c :: breaks, column, last)

def indentTo (column : Nat) (here : Cursor) : Cursor :=
  here.skip (min (column - here.column) (here.rest.takeWhile (· = ' ')).length)

/-- The empty lines before the next line of a block, and the position in that line. -/
def blockBreaks (column : Nat) : (fuel : Nat) → Cursor → List Char × Cursor
  | 0, here => ([], here)
  | fuel + 1, here =>
    let next := indentTo column here
    match next.lineBreak? with
    | none => ([], next)
    | some (c, next) =>
      let (breaks, last) := blockBreaks column fuel next
      (c :: breaks, last)

/-- The lines of a block from one that is indented to the column, with the empty lines before it. -/
def blockLines (isFolded : Bool) (chomping : Chomping) (column : Nat) :
    (fuel : Nat) → (breaks : List Char) → Cursor → List Char × Cursor
  | 0, _, here => ([], here)
  | fuel + 1, breaks, here =>
    let (line, next) := here.span (!isBreak ·)
    let startsBlank := here.peek?.any fun c => c = ' ' || c = '\t'
    let (ending, next) := match next.lineBreak? with
      | some (c, last) => ([c], last)
      | none => ([], next)
    let (after, next) := blockBreaks column (next.rest.length + 1) next
    if next.column = column && next.rest ≠ [] then
      let continuesBlank := next.peek?.any fun c => c = ' ' || c = '\t'
      let between :=
        if isFolded && ending = ['\n'] && !startsBlank && !continuesBlank then
          if after = [] then [' '] else []
        else ending
      let (more, last) := blockLines isFolded chomping column fuel after next
      (breaks ++ line ++ between ++ more, last)
    else
      let tail := match chomping with
        | .strip => []
        | .clip => ending
        | .keep => ending ++ after
      (breaks ++ line ++ tail, next)

/-- A block scalar, of which the first character has been read, in a collection whose entries begin
at a column. -/
def blockScalar (isFolded : Bool) (outer : Int) (here : Cursor) : Except Fault (List Char × Cursor) := do
  let (chomping, increment, next) := blockHeader here
  if !isSpaced next.rest then throw .malformed
  let next ← restOfLine next
  let least := max 1 (outer + 1).toNat
  let (column, breaks, next) := match increment with
    | some n =>
      let column := least + n - 1
      let (breaks, next) := blockBreaks column (next.rest.length + 1) next
      (column, breaks, next)
    | none =>
      let (breaks, column, next) := leadingBreaks next.rest.length next
      (max least column, breaks, next)
  if next.column = column && next.rest ≠ [] then
    return blockLines isFolded chomping column next.rest.length breaks next
  else
    return (if chomping = .keep then breaks else [], next)

end NamedKeys.Yaml
