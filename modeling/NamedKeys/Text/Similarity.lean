/-!
# Similar words

How much two words have in common: the longest run of characters that both hold, and the same again on
either side of it.  Words are close when the common characters are at least three fifths of all.
-/

namespace NamedKeys.Text

def commonStart : List Char → List Char → Nat
  | c :: cs, d :: ds => if c = d then commonStart cs ds + 1 else 0
  | _, _ => 0

/-- The suffixes of a text with the number of characters before each. -/
def suffixes (cs : List Char) : List (Nat × List Char) :=
  (List.range cs.length).map fun i => (i, cs.drop i)

/-- Where the longest run that two texts have in common begins in each, and its length; of several,
the one that begins first in the first text and then in the second. -/
def longestRun (cs ds : List Char) : Nat × Nat × Nat :=
  ((suffixes cs).flatMap fun (i, s) => (suffixes ds).map fun (j, t) => (i, j, commonStart s t)).foldl
    (fun best run => if run.2.2 > best.2.2 then run else best) (0, 0, 0)

/-- The number of characters that two texts have in common. -/
def commonCount : (fuel : Nat) → List Char → List Char → Nat
  | 0, _, _ => 0
  | fuel + 1, cs, ds =>
    match longestRun cs ds with
    | (_, _, 0) => 0
    | (i, j, n) =>
      n + commonCount fuel (cs.take i) (ds.take j) +
        commonCount fuel (cs.drop (i + n)) (ds.drop (j + n))

/-- The number of characters of two words, and how many of those of the first are common. -/
def similarity (word other : String) : Nat × Nat :=
  let cs := other.toList
  let ds := word.toList
  (cs.length + ds.length, commonCount (cs.length + 1) cs ds)

def isClose (word other : String) : Bool :=
  let (total, common) := similarity word other
  3 * total ≤ 10 * common

/-- Whether a word is closer to one than to another; the later in order comes first of two that are
equally close. -/
def isCloser (word first second : String) : Bool :=
  let (total, common) := similarity word first
  let (total', common') := similarity word second
  let left := common * total'
  let right := common' * total
  left > right || (left = right && second ≤ first)

/-- The at most three words that are closest to a word, in order. -/
def closeWords (word : String) (others : List String) : List String :=
  let close := (others.filter (isClose word)).mergeSort (isCloser word)
  (close.take 3).mergeSort fun a b => decide (a ≤ b)

end NamedKeys.Text
