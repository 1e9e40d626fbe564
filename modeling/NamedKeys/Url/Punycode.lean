import NamedKeys.Text.Digits

/-!
# Punycode

Labels in ASCII letters, digits and hyphens (RFC 3492): the ASCII characters of the label first, and
then, in the order of their numbers, where the others are to be put in, as numbers in base 36 of which
each digit tells whether it is the last.
-/

namespace NamedKeys.Url.Punycode

/-- Makes a distance small, counting the steps. -/
def shrink : (fuel : Nat) → (delta steps : Nat) → Nat × Nat
  | 0, delta, steps => (delta, steps)
  | fuel + 1, delta, steps => if delta > 455 then shrink fuel (delta / 35) (steps + 1) else (delta, steps)

/-- The threshold's shift after a distance, with the number of characters that are there then. -/
def adapt (delta count : Nat) (isFirst : Bool) : Nat :=
  let delta := if isFirst then delta / 700 else delta / 2
  let delta := delta + delta / count
  let (rest, steps) := shrink delta delta 0
  36 * steps + 36 * rest / (rest + 38)

/-- The threshold of the digit with a place value of `36 ^ place`. -/
def threshold (bias place : Nat) : Nat :=
  let k := 36 * (place + 1)
  if k ≤ bias + 1 then 1 else min (k - bias) 26

/-! ## Writing -/

/-- The letter or digit of a number below 36. -/
def digit (n : Nat) : Char :=
  if n < 26 then Char.ofNat (97 + n) else Char.ofNat (22 + n)

/-- The digits of a distance from a place on. -/
def writeDistance (bias : Nat) : (fuel place n : Nat) → List Char
  | 0, _, _ => []
  | fuel + 1, place, n =>
    let t := threshold bias place
    if n < t then [digit n]
    else digit (t + (n - t) % (36 - t)) :: writeDistance bias fuel (place + 1) ((n - t) / (36 - t))

/-- The state of writing: the distance since the last character put in, how many characters there
are, the threshold's shift and the text so far, the last digits first. -/
structure Writing where
  delta : Nat
  count : Nat
  bias : Nat
  isFirst : Bool
  text : List Char

/-- Passes over a character of the label, or puts it in when it has the number in question. -/
def Writing.pass (n : Nat) (writing : Writing) (c : Char) : Writing :=
  if c.toNat < n then { writing with delta := writing.delta + 1 }
  else if c.toNat = n then
    { delta := 0
      count := writing.count + 1
      bias := adapt writing.delta (writing.count + 1) writing.isFirst
      isFirst := false
      text := writing.text ++ writeDistance writing.bias (writing.delta + 1) 0 writing.delta }
  else writing

/-- Puts in the characters with one number after those with smaller ones, of which `previous` is the
next number that they could have. -/
def Writing.putIn (label : List Char) (state : Writing × Nat) (n : Nat) : Writing × Nat :=
  let (writing, previous) := state
  let writing := { writing with delta := writing.delta + (n - previous) * (writing.count + 1) }
  let writing := label.foldl (Writing.pass n) writing
  ({ writing with delta := writing.delta + 1 }, n + 1)

/-- The ASCII form of a label. -/
def encode (label : List Char) : List Char :=
  let basic := label.filter (·.toNat < 0x80)
  let others := ((label.filter (0x80 ≤ ·.toNat)).map Char.toNat).eraseDups.mergeSort
  let start : Writing := ⟨0, basic.length, 72, true, []⟩
  let (writing, _) := others.foldl (Writing.putIn label) (start, 0x80)
  basic ++ (if basic = [] then [] else ['-']) ++ writing.text

/-! ## Reading -/

/-- The number of a letter or digit. -/
def digitValue? (c : Char) : Option Nat :=
  let c := c.toLower
  if 'a' ≤ c ∧ c ≤ 'z' then some (c.toNat - 97)
  else if c.isDigit then some (c.toNat - 22)
  else none

/-- A distance, the digits of which begin at a place with a weight, and what follows it. -/
def readDistance? (bias : Nat) : (place weight : Nat) → List Char → Option (Nat × List Char)
  | _, _, [] => none
  | place, weight, c :: cs => do
    let n ← digitValue? c
    let t := threshold bias place
    if n < t then return (n * weight, cs)
    let (rest, cs) ← readDistance? bias (place + 1) (weight * (36 - t)) cs
    return (n * weight + rest, cs)

/-- Puts characters into a label where distances tell, the number of the next character being at least
`n` and its place, if it is the same, at least `place`. -/
def putIn (label : List Char) (n place bias : Nat) (isFirst : Bool) :
    (fuel : Nat) → List Char → Option (List Char)
  | _, [] => some label
  | 0, _ => none
  | fuel + 1, cs => do
    let (delta, rest) ← readDistance? bias 0 1 cs
    let count := label.length + 1
    let n := n + (place + delta) / count
    let place := (place + delta) % count
    if !n.isValidChar then none
    let label := label.take place ++ Char.ofNat n :: label.drop place
    putIn label n (place + 1) (adapt delta count isFirst) false fuel rest

/-- The label of an ASCII form. -/
def decode? (cs : List Char) : Option (List Char) :=
  let extended := (cs.reverse.takeWhile (· ≠ '-')).reverse
  let basic := cs.take (cs.length - extended.length - 1)
  putIn basic 0x80 0 72 true extended.length extended

end NamedKeys.Url.Punycode
