import NamedKeys.Text.Digits

/-!
# Tables of character ranges

Tables of Unicode data as texts: ranges of characters in hexadecimal numbers, separated by blanks and
ends of lines.  A range is `first`, `first-last` or, for every second character, `first-last/2`.
-/

namespace NamedKeys.Text

/-- The characters from the first to the last, by number, in steps. -/
structure CharRange where
  first : Nat
  last : Nat
  step : Nat
  deriving DecidableEq, Repr

def CharRange.holds (range : CharRange) (n : Nat) : Bool :=
  range.first ≤ n && n ≤ range.last && (n - range.first) % range.step = 0

/-- The number that hexadecimal digits write; other characters are not expected. -/
def hexNumber (text : String) : Nat :=
  (ofHexDigits? text.toList).getD 0

def entriesOf (table : String) : List String :=
  (table.splitOn "\n").flatMap (·.splitOn " ")

def CharRange.ofEntry (entry : String) : CharRange :=
  let (entry, step) := match entry.splitOn "/" with
    | [entry, step] => (entry, hexNumber step)
    | _ => (entry, 1)
  match entry.splitOn "-" with
  | [first, last] => ⟨hexNumber first, hexNumber last, step⟩
  | _ => ⟨hexNumber entry, hexNumber entry, step⟩

def rangesOf (table : String) : List CharRange :=
  (entriesOf table).map .ofEntry

def isInRanges (ranges : List CharRange) (c : Char) : Bool :=
  ranges.any fun range => range.holds c.toNat

end NamedKeys.Text
