import NamedKeys.Code.Base64
import NamedKeys.Decimal.Shortest
import NamedKeys.Text.Integer
import NamedKeys.Text.LowerCase
import NamedKeys.Text.Quoted
import NamedKeys.Text.Utf8
import NamedKeys.Yaml.Tag

/-!
# Atoms

The values without parts: how each is read from the text of a scalar with a type, when two of them are
the same key, and the two texts of each, one for messages and one for use.
-/

namespace NamedKeys.Yaml

/-- A value without parts.  A number with a point is given by its 64 bits. -/
inductive Atom where
  | null
  | bool (b : Bool)
  | int (i : Int)
  | float (bits : UInt64)
  | text (text : List Char)
  | octets (octets : List UInt8)
  | date (date : Date)
  | time (time : DateTime)
  deriving DecidableEq, Repr

namespace Atom

/-! ## Reading -/

/-- The truth value of a word in any case. -/
def ofWord (cs : List Char) : Except Fault Atom :=
  let word := String.ofList (Text.lower cs)
  if ["yes", "true", "on"].contains word then .ok (bool true)
  else if ["no", "false", "off"].contains word then .ok (bool false)
  else .error (.value (.noTruth word))

/-- Reads a number after low lines have been dropped and the sign has been taken off. -/
def ofSigned {α : Type} (negate : α → α) (read : List Char → Except Fault α) (cs : List Char) :
    Except Fault α :=
  let cs := cs.filter (· ≠ '_')
  match cs with
  | [] => .error (.value .emptyNumber)
  | '-' :: rest => (read rest).map negate
  | '+' :: rest => read rest
  | _ => read cs

def readInteger (base : Nat) (cs : List Char) : Except Fault Int :=
  match Text.readInteger? base cs with
  | some i => .ok i
  | none => .error (.value .impossible)

/-- The value of parts in base 60, the highest first. -/
def ofSixtieths {α : Type} (add : α → α → α) (scale : Nat → α → α) (start : α) (parts : List α) : α :=
  (parts.reverse.foldl (fun (sum, base) part => (add sum (scale base part), base * 60)) (start, 1)).1

/-- A whole number in base 2, 8, 10, 16 or 60, as its form tells. -/
def readInt (cs : List Char) : Except Fault Int :=
  match cs with
  | [] => .error (.value .emptyNumber)
  | ['0'] => .ok 0
  | '0' :: 'b' :: digits => readInteger 2 digits
  | '0' :: 'x' :: digits => readInteger 16 digits
  | '0' :: _ => readInteger 8 cs
  | _ =>
    if cs.contains ':' then do
      let parts ← (Text.splitOn ':' cs).mapM (readInteger 10)
      return ofSixtieths (· + ·) (fun base part => part * base) 0 parts
    else readInteger 10 cs

/-- The number `n * 10 ^ exponent`, rounded; the digits of `n` are counted to tell numbers that are
too large or too small to be told from infinity or zero. -/
def scientific (n : Nat) (count : Nat) (exponent : Int) : Float :=
  if n = 0 ∨ exponent + count < -400 then 0
  else if exponent > 400 then 1 / 0
  else Float.ofScientific n (exponent < 0) exponent.natAbs

/-- The digits of any script at the front, as a number and their count. -/
def spanDigits (cs : List Char) : Nat × Nat × List Char :=
  let digits := (cs.map Text.decimalValue?).takeWhile (·.isSome)
  (digits.foldl (fun n d => 10 * n + d.getD 0) 0, digits.length, cs.drop digits.length)

/-- Reads a decimal number without a sign, in lower case. -/
def readDecimal? (cs : List Char) : Option Float :=
  if cs = "inf".toList ∨ cs = "infinity".toList then some (1 / 0)
  else if cs = "nan".toList then some (0 / 0)
  else
    let (whole, wholeCount, rest) := spanDigits cs
    let (fraction, fractionCount, rest) := match rest with
      | '.' :: rest => spanDigits rest
      | _ => (0, 0, rest)
    let count := wholeCount + fractionCount
    let n := whole * Nat.pow 10 fractionCount + fraction
    if count = 0 then none
    else
      match rest with
      | [] => some (scientific n count (-fractionCount))
      | 'e' :: rest =>
        let (isNegative, rest) := match rest with
          | '-' :: rest => (true, rest)
          | '+' :: rest => (false, rest)
          | _ => (false, rest)
        match spanDigits rest with
        | (_, 0, _) => none
        | (power, _, []) =>
          some (scientific n count ((if isNegative then -(power : Int) else power) - fractionCount))
        | _ => none
      | _ => none

/-- The number of a text, which may stand between blanks and have a sign. -/
def readFloatText (cs : List Char) : Except Fault Float :=
  let cs := Text.trimNumber cs
  let number := match cs with
    | '-' :: rest => (readDecimal? rest).map (- ·)
    | '+' :: rest => readDecimal? rest
    | _ => readDecimal? cs
  match number with
  | some x => .ok x
  | none => .error (.value .impossible)

/-- The most parts of a number with a point in base 60: the weight of a further one would be beyond
the greatest finite number. -/
def mostSixtieths : Nat := 174

/-- A number with a point, in base 10 or 60, in lower case. -/
def readFloat (cs : List Char) : Except Fault Float :=
  if cs = ".inf".toList then .ok (1 / 0)
  else if cs = ".nan".toList then .ok (0 / 0)
  else if cs.contains ':' then do
    let parts ← (Text.splitOn ':' cs).mapM readFloatText
    if parts.length > mostSixtieths then throw (.value .overflow)
    return ofSixtieths (· + ·) (fun base part => part * Float.ofNat base) 0 parts
  else readFloatText cs

/-- The date, with a time if it has one, that a text writes. -/
def ofDateText (cs : List Char) : Except Fault Atom :=
  match WrittenDate.ofText? cs with
  | none => .error (.value .noDate)
  | some written =>
    let day := written.date
    match written.time with
    | none => if day.isPossible then .ok (date day) else .error (.value .impossible)
    | some ofDay =>
      let moment := ofDay.dateTime day
      if moment.isPossible then .ok (time moment) else .error (.value .impossible)

def ofBase64 (cs : List Char) : Except Fault Atom :=
  if cs.all (·.toNat < 0x80) then
    match Code.Base64.decode? .lenient cs with
    | some bs => .ok (octets bs)
    | none => .error .malformed
  else .error .malformed

/-- How the texts of a type are read, if the type has atoms. -/
def reader? : Tag → Option (List Char → Except Fault Atom)
  | .null => some fun _ => .ok null
  | .bool => some ofWord
  | .int => some fun cs => (ofSigned (fun i => -i) readInt cs).map int
  | .float => some fun cs =>
    (ofSigned (fun x => -x) readFloat (Text.lower cs)).map fun x => float x.toBits
  | .octets => some ofBase64
  | .timestamp => some ofDateText
  | .text => some fun cs => .ok (text cs)
  | _ => none

/-! ## Keys -/

/-- The exact value of a finite number given by its bits, as a fraction. -/
def fractionOfBits (bits : UInt64) : Int × Nat :=
  let x := Decimal.Binary.ofBits bits
  let n : Int := (x.mantissa * Nat.pow 2 x.exponent.toNat : Nat)
  (if bits >>> 63 = 1 then -n else n, Nat.pow 2 (-x.exponent).toNat)

def isFinite (bits : UInt64) : Bool := bits >>> 52 &&& 0x7FF ≠ 0x7FF

/-- What two atoms have in common when they are the same key: truth values count as 0 and 1, numbers
are compared by value and times with an offset by the point in time. -/
inductive Key where
  | number (numerator : Int) (denominator : Nat)
  | instant (micros : Int)
  | atom (atom : Atom)
  deriving DecidableEq

/-- A fraction whose denominator is a power of two, in lowest terms. -/
def Key.ofFraction (n : Int) (d : Nat) : Key :=
  let g := Nat.gcd n.natAbs d
  .number (n / g) (d / g)

def key : Atom → Key
  | bool b => .number b.toNat 1
  | int i => .number i 1
  | float bits =>
    if isFinite bits then
      let (n, d) := fractionOfBits bits
      .ofFraction n d
    else .atom (float bits)
  | time t => if t.offset.isSome then .instant t.instant else .atom (time t)
  | a => .atom a

/-! ## Texts -/

/-- The text of an atom; there is none for numbers of too many digits. -/
def show? : Atom → Option String
  | null => some "None"
  | bool b => some (if b then "True" else "False")
  | int i => Text.showInteger? i
  | float bits => some (Decimal.textOfBits bits)
  | text cs => some (String.ofList cs)
  | octets bs => some (Text.quotedOctets bs)
  | date d => some d.text
  | time t => some t.text

/-- The form in which messages show an atom; there is none for numbers of too many digits. -/
def literal? : Atom → Option String
  | text cs => some (Text.quoted (String.ofList cs))
  | date d => some d.literal
  | time t => some t.literal
  | a => a.show?

end Atom

end NamedKeys.Yaml
