import NamedKeys.Text.Compatibility.Table
import NamedKeys.Text.Ranges
import Std.Data.HashMap

/-!
# Compatibility decomposition

The normal form of a text in which every character is decomposed, compatibility variants are
replaced by the characters they stand for, and the marks that follow a letter stand in the order of
their combining classes.  Two texts that a reader takes for the same words have the same form.
Characters below U+00A0 are their own decompositions.
-/

namespace NamedKeys.Text.Compatibility

/-- The decompositions by character number. -/
def decompositions : Std.HashMap Nat (List Char) :=
  (entriesOf decompositionEntries).foldl (fun table entry =>
    match entry.splitOn "=" with
    | [code, parts] =>
      table.insert (hexNumber code) ((parts.splitOn ".").map fun part => Char.ofNat (hexNumber part))
    | _ => table) ∅

/-- The combining classes by character number; a character without an entry has class 0. -/
def combiningClasses : Std.HashMap Nat Nat :=
  (entriesOf combiningClassEntries).foldl (fun table entry =>
    match entry.splitOn "=" with
    | [range, value] =>
      let range := CharRange.ofEntry range
      (List.range (range.last + 1 - range.first)).foldl
        (fun table k => table.insert (range.first + k) (value.toNat?.getD 0)) table
    | _ => table) ∅

/-- The letters of a syllable of the Korean script, which are computed from its number. -/
def decomposeSyllable (n : Nat) : List Char :=
  let index := n - 0xAC00
  let letters := [Char.ofNat (0x1100 + index / 588), Char.ofNat (0x1161 + index % 588 / 28)]
  if index % 28 = 0 then letters else letters ++ [Char.ofNat (0x11A7 + index % 28)]

def decomposeChar (c : Char) : List Char :=
  let n := c.toNat
  if n < 0xA0 then [c]
  else if 0xAC00 ≤ n ∧ n ≤ 0xD7A3 then decomposeSyllable n
  else decompositions.getD n [c]

def combiningClass (c : Char) : Nat :=
  if c.toNat < 0xA0 then 0 else combiningClasses.getD c.toNat 0

/-- Puts a mark behind the marks of its class and of lower classes. -/
def insertMark (mark : Nat × Char) : List (Nat × Char) → List (Nat × Char)
  | [] => [mark]
  | other :: marks =>
    if mark.1 < other.1 then mark :: other :: marks else other :: insertMark mark marks

/-- Sorts each run of marks by class, where `marks` are the sorted marks of the open run. -/
def orderMarks (marks : List (Nat × Char)) : List Char → List Char
  | [] => marks.map Prod.snd
  | c :: cs =>
    let k := combiningClass c
    if k = 0 then marks.map Prod.snd ++ c :: orderMarks [] cs
    else orderMarks (insertMark (k, c) marks) cs

/-- The compatibility decomposition of a text. -/
def decompose (cs : List Char) : List Char :=
  orderMarks [] (cs.flatMap decomposeChar)

end NamedKeys.Text.Compatibility
