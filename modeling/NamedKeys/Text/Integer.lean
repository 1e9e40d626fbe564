import NamedKeys.Text.Blank
import NamedKeys.Text.Digits

/-!
# Integers in texts

How a whole number is read from a text that a person wrote: blanks around it, a sign, a mark of the
base, single low lines between digits, and the decimal digits of every script are allowed.  And how
a number is shown, which is refused when it has too many digits.
-/

namespace NamedKeys.Text

/-- The zeros of the decimal digits beyond ASCII; the nine characters after each are its digits. -/
def scriptZeros : List Nat := [
  0x660, 0x6F0, 0x7C0, 0x966, 0x9E6, 0xA66, 0xAE6, 0xB66, 0xBE6, 0xC66, 0xCE6, 0xD66, 0xDE6, 0xE50,
  0xED0, 0xF20, 0x1040, 0x1090, 0x17E0, 0x1810, 0x1946, 0x19D0, 0x1A80, 0x1A90, 0x1B50, 0x1BB0,
  0x1C40, 0x1C50, 0xA620, 0xA8D0, 0xA900, 0xA9D0, 0xA9F0, 0xAA50, 0xABF0, 0xFF10, 0x104A0, 0x10D30,
  0x11066, 0x110F0, 0x11136, 0x111D0, 0x112F0, 0x11450, 0x114D0, 0x11650, 0x116C0, 0x11730,
  0x118E0, 0x11950, 0x11C50, 0x11D50, 0x11DA0, 0x16A60, 0x16AC0, 0x16B50, 0x1D7CE, 0x1D7D8,
  0x1D7E2, 0x1D7EC, 0x1D7F6, 0x1E140, 0x1E2F0, 0x1E950, 0x1FBF0]

/-- The value of a decimal digit of any script. -/
def decimalValue? (c : Char) : Option Nat :=
  let n := c.toNat
  if 48 ≤ n ∧ n ≤ 57 then some (n - 48)
  else (scriptZeros.find? fun first => first ≤ n && n ≤ first + 9).map (n - ·)

/-- The value of a digit of a base up to sixteen. -/
def digitValue? (base : Nat) (c : Char) : Option Nat :=
  let value := (decimalValue? c).orElse fun _ => hexDigitValue? c
  value.filter (· < base)

/-- The blanks that may stand around a number: all but the separators of ASCII's control range. -/
def isNumberBlank (c : Char) : Bool :=
  isBlank c && !(0x1C ≤ c.toNat && c.toNat ≤ 0x1F)

def trimNumber (cs : List Char) : List Char :=
  ((cs.dropWhile isNumberBlank).reverse.dropWhile isNumberBlank).reverse

/-- Reads digits to the end of the text and counts them; a low line may stand between two. -/
def readDigits (base : Nat) (value count : Nat) : List Char → Option (Nat × Nat)
  | [] => some (value, count)
  | c :: cs =>
    match digitValue? base c with
    | some d => readDigits base (base * value + d) (count + 1) cs
    | none =>
      match c, cs with
      | '_', d :: ds =>
        match digitValue? base d with
        | some v => if count = 0 then none else readDigits base (base * value + v) (count + 1) ds
        | none => none
      | _, _ => none

/-- The letter that marks a base after a leading zero. -/
def baseMark (base : Nat) : Option Char :=
  if base = 2 then some 'b' else if base = 8 then some 'o' else if base = 16 then some 'x' else none

/-- Drops the mark of the base, `0b`, `0o` or `0x` in either case, with one low line after it. -/
def dropBaseMark (base : Nat) (cs : List Char) : List Char :=
  match cs with
  | '0' :: c :: rest =>
    if baseMark base = some c.toLower then
      match rest with
      | '_' :: digits => digits
      | _ => rest
    else cs
  | _ => cs

/-- The most decimal digits that a number may have to be read or shown. -/
def mostDigits : Nat := 4300

/-- Whether the base's digits are groups of bits, so that numbers of any length are read. -/
def isBinaryBase (base : Nat) : Bool := base = 2 || base = 8 || base = 16

/-- The whole number that a text writes in a base. -/
def readInteger? (base : Nat) (cs : List Char) : Option Int :=
  let cs := trimNumber cs
  let (negative, cs) :=
    match cs with
    | '+' :: rest => (false, rest)
    | '-' :: rest => (true, rest)
    | _ => (false, cs)
  match readDigits base 0 0 (dropBaseMark base cs) with
  | some (value, count) =>
    if count = 0 || (!isBinaryBase base && count > mostDigits) then none
    else some (if negative then -(value : Int) else value)
  | none => none

/-- The decimal text of a whole number, or nothing when it would have too many digits. -/
def showInteger? (i : Int) : Option String :=
  if i.natAbs < Nat.pow 10 mostDigits then some (toString i) else none

end NamedKeys.Text
