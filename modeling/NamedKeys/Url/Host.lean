import NamedKeys.Text.Digits
import NamedKeys.Text.Split

/-!
# Numeric hosts

The hosts of URLs that are numbers: four numbers with points between them, and up to eight groups of
hexadecimal digits with colons between them, in brackets.
-/

namespace NamedKeys.Url.Host

/-- Whether a text is made of four runs of digits, with any one character between each two; the
number of characters still to come between runs, and whether a digit has been read in this run. -/
def isFourRuns (separators : Nat) (inRun : Bool) : List Char → Bool
  | [] => separators = 0 && inRun
  | c :: cs =>
    (c.isDigit && isFourRuns separators true cs) ||
      (inRun && match separators with
        | 0 => false
        | separators + 1 => isFourRuns separators false cs)

/-- Whether a host is taken for four numbers. -/
def looksLikeFour (host : List Char) : Bool :=
  isFourRuns 3 false host

/-- Whether a text is a number up to 255 in decimal digits, without zeros in front. -/
def isOctet (cs : List Char) : Bool :=
  cs ≠ [] && cs.all (·.isDigit) && cs.length ≤ 3 && (cs.head? ≠ some '0' || cs = ['0']) &&
    (cs.foldl (fun n c => 10 * n + (c.toNat - 48)) 0) ≤ 255

def isFour (cs : List Char) : Bool :=
  let parts := Text.splitOn '.' cs
  parts.length = 4 && parts.all isOctet

def isBracketed (host : List Char) : Bool :=
  2 ≤ host.length && host.head? = some '[' && host.getLast? = some ']'

/-- Whether a text is one to four hexadecimal digits. -/
def isGroup (cs : List Char) : Bool :=
  cs ≠ [] && cs.length ≤ 4 && cs.all fun c => (Text.hexDigitValue? c).isSome

/-- The parts of a text between colons, where four numbers at the end stand for two groups; nothing
if they are no such numbers. -/
def groupParts? (cs : List Char) : Option (List (List Char)) :=
  let parts := Text.splitOn ':' cs
  let last := parts.getLast?.getD []
  if last.contains '.' then
    if isFour last then some (parts.dropLast ++ [['0'], ['0']]) else none
  else some parts

/-- Whether groups are as many as they must be: eight, or fewer with one gap, which is an empty part
inside; at either end an empty part must belong to the gap. -/
def areGroups (parts : List (List Char)) : Bool :=
  let isFirstEmpty := parts.head? = some []
  let isLastEmpty := parts.getLast? = some []
  let inner := (parts.drop 1).dropLast
  if inner.contains [] then
    let before := parts.take ((inner.takeWhile (· ≠ [])).length + 1)
    let after := inner.drop (before.length) ++ parts.drop (parts.length - 1)
    let before := if isFirstEmpty then before.drop 1 else before
    let after := if isLastEmpty then after.dropLast else after
    (inner.count [] = 1) && !(isFirstEmpty && before ≠ []) && !(isLastEmpty && after ≠ []) &&
      before.length + after.length < 8 && (before ++ after).all isGroup
  else parts.length = 8 && parts.all isGroup

/-- Whether a text is an address of groups; after a percent sign, which may not be followed by
nothing or by another one, it may name a zone. -/
def isGrouped (cs : List Char) : Bool :=
  let (address, zone) := Text.cut '%' cs
  !cs.contains '/' && zone.all (fun zone => zone ≠ [] && !zone.contains '%') &&
    3 ≤ (Text.splitOn ':' address).length &&
    match groupParts? address with
    | some parts => parts.length ≤ 9 && areGroups parts
    | none => false

end NamedKeys.Url.Host
