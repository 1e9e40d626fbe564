import NamedKeys.Text.Compatibility
import NamedKeys.Text.LowerCase
import NamedKeys.Text.Split
import NamedKeys.Url.International.Table
import NamedKeys.Url.Punycode

/-!
# International hosts

Hosts with letters beyond ASCII (RFC 5890 to 5893): which labels are admitted, by their characters,
their composed form, their hyphens and their directions of writing, and the ASCII form of a host.
-/

namespace NamedKeys.Url.International

open NamedKeys.Text

/-! ## Properties of characters -/

inductive Direction where
  | left
  | right
  | digit
  | arabicDigit
  | mark
  | neutral
  deriving DecidableEq, Repr

/-- The direction of a character of ASCII that every place in a label admits. -/
def admittedAscii? (c : Char) : Option Direction :=
  if c.isLower then some .left
  else if c.isDigit then some .digit
  else if c = '-' then some .neutral
  else none

/-- The characters beyond ASCII that every place admits, by direction. -/
def admitted : List (List CharRange × Direction) :=
  [(rangesOf leftToRightRanges, .left), (rangesOf spacingMarkRanges, .left),
    (rangesOf markRanges, .mark), (rangesOf rightToLeftRanges, .right),
    (rangesOf arabicDigitRanges, .arabicDigit), (rangesOf neutralRanges, .neutral)]

/-- The direction of a character that every place admits. -/
def admitted? (c : Char) : Option Direction :=
  if c.toNat < 0x80 then admittedAscii? c
  else (admitted.find? fun entry => isInRanges entry.1 c).map (·.2)

/-- The directions of characters that some places admit. -/
def direction (c : Char) : Direction :=
  let n := c.toNat
  if 0x660 ≤ n ∧ n ≤ 0x669 then .arabicDigit
  else if 0x6F0 ≤ n ∧ n ≤ 0x6F9 then .digit
  else if n = 0x5F3 ∨ n = 0x5F4 then .right
  else (admitted? c).getD .neutral

def marks : List CharRange :=
  rangesOf markRanges ++ rangesOf spacingMarkRanges

/-- The letters that join with the letter on their left only. -/
def joiningLeft : List CharRange := rangesOf joiningLeftRanges

/-- The letters that join with the letter on their right only. -/
def joiningRight : List CharRange := rangesOf joiningRightRanges

/-- The letters that join with the letters on both sides. -/
def joiningBoth : List CharRange := rangesOf joiningBothRanges

/-- Whether joining passes over a character. -/
def isTransparent (c : Char) : Bool :=
  (isInRanges (rangesOf markRanges) c && c.toNat ≠ 0x1171E) || c.toNat = 0x1E94B

/-! ## Composed form -/

/-- The composed characters by their decompositions. -/
def compositions : List (List Char × Char) :=
  (Compatibility.decompositions.toList.filter fun (n, parts) =>
    parts.length ≥ 2 && (admitted? (Char.ofNat n)).isSome).map fun (n, parts) => (parts, Char.ofNat n)

/-- The syllable of the Korean script that two letters, or a syllable and a letter, make. -/
def syllable? (c letter : Char) : Option Char :=
  let n := c.toNat
  let m := letter.toNat
  if 0x1100 ≤ n ∧ n ≤ 0x1112 ∧ 0x1161 ≤ m ∧ m ≤ 0x1175 then
    some (Char.ofNat (0xAC00 + (21 * (n - 0x1100) + (m - 0x1161)) * 28))
  else if 0xAC00 ≤ n ∧ n ≤ 0xD7A3 ∧ (n - 0xAC00) % 28 = 0 ∧ 0x11A8 ≤ m ∧ m ≤ 0x11C2 then
    some (Char.ofNat (n + (m - 0x11A7)))
  else none

def composed? (c mark : Char) : Option Char :=
  match syllable? c mark with
  | some syllable => some syllable
  | none => compositions.lookup (Compatibility.decomposeChar c ++ [mark])

/-- Composes a decomposed text from a first character that may take marks.  `waiting` are the marks
after it that it has not taken, the last first, and `last` the class of the last of them. -/
def composeAfter (first : Char) (last : Nat) (waiting : List Char) : List Char → List Char
  | [] => first :: waiting.reverse
  | c :: cs =>
    let k := Compatibility.combiningClass c
    match if waiting = [] || last < k then composed? first c else none with
    | some both => composeAfter both last waiting cs
    | none =>
      if k = 0 then first :: waiting.reverse ++ composeAfter c 0 [] cs
      else composeAfter first k (c :: waiting) cs

def isComposed (cs : List Char) : Bool :=
  match Compatibility.decompose cs with
  | [] => true
  | c :: rest => composeAfter c 0 [] rest = cs

/-! ## Labels -/

/-- Whether a label has no hyphen at its ends, nor two at the places of the mark of ASCII forms. -/
def hasGoodHyphens (label : List Char) : Bool :=
  (label.drop 2).take 2 ≠ ['-', '-'] && label.head? ≠ some '-' && label.getLast? ≠ some '-'

/-- Whether a mark stands before a joiner that makes letters join there, given the characters before
it, the last first. -/
def followsVirama (before : List Char) : Bool :=
  before.head?.any fun c => Compatibility.combiningClass c = 9

/-- Whether the next letter joins on the side in question. -/
def joins (ranges : List CharRange) (cs : List Char) : Bool :=
  (cs.dropWhile isTransparent).head?.any fun c => isInRanges (ranges ++ joiningBoth) c

/-- Whether a character may stand between the characters before it, the last first, and those after
it. -/
def mayStand (label before : List Char) (c : Char) (after : List Char) : Bool :=
  let holds := fun (first last : Nat) => label.any fun d => first ≤ d.toNat && d.toNat ≤ last
  let n := c.toNat
  if (admitted? c).isSome then true
  else if n = 0x200C then
    followsVirama before || (joins joiningLeft before && joins joiningRight after)
  else if n = 0x200D then followsVirama before
  else if n = 0xB7 then before.head? = some 'l' && after.head? = some 'l'
  else if n = 0x375 then after.head?.any (isInRanges (rangesOf greekRanges))
  else if n = 0x5F3 ∨ n = 0x5F4 then before.head?.any (isInRanges (rangesOf hebrewRanges))
  else if n = 0x30FB then label.any (isInRanges (rangesOf japaneseRanges))
  else if 0x660 ≤ n ∧ n ≤ 0x669 then !holds 0x6F0 0x6F9
  else if 0x6F0 ≤ n ∧ n ≤ 0x6F9 then !holds 0x660 0x669
  else false

/-- Whether all characters of a label may stand where they are. -/
def allMayStand (label before : List Char) : List Char → Bool
  | [] => true
  | c :: cs => mayStand label before c cs && allMayStand label (c :: before) cs

/-- Whether a label with characters written from right to left has them at both ends, has no
characters of the other direction and digits of one sort only. -/
def hasGoodDirections (label : List Char) : Bool :=
  let directions := label.map direction
  let ending := directions.reverse.dropWhile (· = .mark)
  if directions.contains .right || directions.contains .arabicDigit then
    directions.head? = some .right && !directions.contains .left &&
      !(directions.contains .digit && directions.contains .arabicDigit) &&
      ending.head?.any [Direction.right, .digit, .arabicDigit].contains
  else true

def isLabel (label : List Char) : Bool :=
  label ≠ [] && hasGoodHyphens label && !(label.head?.any (isInRanges marks)) &&
    allMayStand label [] label && hasGoodDirections label && isComposed label

/-! ## Hosts -/

/-- What begins the ASCII forms of labels. -/
def mark : List Char := ['x', 'n', '-', '-']

/-- The ASCII form of a label, if it is admitted and not too long.  An ASCII label with the mark must
be the form of an admitted label. -/
def encodeLabel? (label : List Char) : Option (List Char) := do
  let ascii ←
    if label.all (·.toNat < 0x80) then
      if mark.isPrefixOf label then
        let rest := label.drop mark.length
        if rest = [] ∨ rest.getLast? = some '-' then none
        else if (Punycode.decode? rest).any isLabel then some label else none
      else if isLabel label then some label
      else none
    else if isLabel label then some (mark ++ Punycode.encode label)
    else none
  if ascii.length ≤ 63 then some ascii else none

def isDot (c : Char) : Bool :=
  c = '.' || c = '\u3002' || c = '\uFF0E' || c = '\uFF61'

/-- The ASCII form of a host: that of each label; the last may be empty. -/
def encode? (host : List Char) : Option (List Char) := do
  let host := lower host
  let labels := splitOn '.' (host.map fun c => if isDot c then '.' else c)
  let endsWithDot := 2 ≤ labels.length && labels.getLast? = some []
  let labels ← (if endsWithDot then labels.dropLast else labels).mapM encodeLabel?
  let ascii := joinWith ['.'] (if endsWithDot then labels ++ [[]] else labels)
  if ascii.length ≤ (if endsWithDot then 254 else 253) then some ascii else none

end NamedKeys.Url.International
