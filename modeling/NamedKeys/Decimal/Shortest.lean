/-!
# Shortest decimals

The finite numbers of the binary format with 64 bits, as a mantissa and a power of two, and the
decimal number of fewest digits that rounds to one of them.  The numbers that round to a given one
form an interval, which holds its ends when the mantissa is even; the search tries, for more and more
digits, the two decimals around the given number, and takes the nearer of those in the interval.
-/

namespace NamedKeys.Decimal

/-- A number `mantissa * 2 ^ exponent` of the format, and whether the gap below it is half of that
above it. -/
structure Binary where
  mantissa : Nat
  exponent : Int
  narrowBelow : Bool
  deriving DecidableEq, Repr

/-- The absolute value of the number that 64 bits stand for, if they stand for a finite one. -/
def Binary.ofBits (bits : UInt64) : Binary :=
  let power := (bits >>> 52 &&& 0x7FF).toNat
  let fraction := (bits &&& 0xFFFFFFFFFFFFF).toNat
  if power = 0 then ⟨fraction, -1074, false⟩
  else ⟨Nat.pow 2 52 + fraction, (power : Int) - 1075, fraction = 0 && power > 1⟩

/-- The number `digits * 10 ^ exponent`. -/
structure Numeral where
  digits : Nat
  exponent : Int
  deriving DecidableEq, Repr

/-- Compares `a * 10 ^ i` with `b * 2 ^ j`. -/
def compareScaled (a : Nat) (i : Int) (b : Nat) (j : Int) : Ordering :=
  compare (a * Nat.pow 10 i.toNat * Nat.pow 2 (-j).toNat)
    (b * Nat.pow 2 j.toNat * Nat.pow 10 (-i).toNat)

/-- Whether a decimal is among the numbers that round to a binary one. -/
def Binary.readsBack (x : Binary) (d : Numeral) : Bool :=
  let below := compareScaled d.digits d.exponent (4 * x.mantissa - if x.narrowBelow then 1 else 2)
    (x.exponent - 2)
  let above := compareScaled d.digits d.exponent (4 * x.mantissa + 2) (x.exponent - 2)
  let endsIncluded := x.mantissa % 2 = 0
  (below = .gt || (endsIncluded && below = .eq)) && (above = .lt || (endsIncluded && above = .eq))

/-- The greatest multiple of a power of ten that is not above a binary number. -/
def Binary.floorAt (x : Binary) (exponent : Int) : Numeral :=
  let dividend := x.mantissa * Nat.pow 2 x.exponent.toNat * Nat.pow 10 (-exponent).toNat
  ⟨dividend / (Nat.pow 2 (-x.exponent).toNat * Nat.pow 10 exponent.toNat), exponent⟩

/-- Of the two multiples of a power of ten around a binary number, the one that reads back, and of
two the nearer or, when they are equally near, the even one. -/
def Binary.nearestAt? (x : Binary) (exponent : Int) : Option Numeral :=
  let low := x.floorAt exponent
  let high : Numeral := ⟨low.digits + 1, exponent⟩
  let isLowNearer :=
    match compareScaled (low.digits + high.digits) exponent x.mantissa (x.exponent + 1) with
    | .gt => true
    | .lt => false
    | .eq => low.digits % 2 = 0
  match low.digits ≠ 0 && x.readsBack low, x.readsBack high with
  | true, true => some (if isLowNearer then low else high)
  | true, false => some low
  | false, true => some high
  | false, false => none

/-- The least power of ten above a positive binary number. -/
def Binary.magnitude (x : Binary) : Int :=
  let powers := (List.range 700).map fun (k : Nat) => (k : Int) - 350
  (powers.find? fun k => compareScaled 1 k x.mantissa x.exponent = .gt).getD 0

/-- Drops zeros at the end of the digits, at most as many as the fuel. -/
def Numeral.trim : (fuel : Nat) → Numeral → Numeral
  | 0, d => d
  | fuel + 1, d =>
    if d.digits ≠ 0 ∧ d.digits % 10 = 0 then trim fuel ⟨d.digits / 10, d.exponent + 1⟩ else d

/-- The decimal number of at most 17 digits that reads back and has the fewest of them. -/
def Binary.shortest (x : Binary) : Numeral :=
  if x.mantissa = 0 then ⟨0, 0⟩
  else
    let magnitude := x.magnitude
    let found := (List.range 17).findSome? fun (n : Nat) => x.nearestAt? (magnitude - (n + 1))
    (found.getD (x.floorAt (magnitude - 17))).trim 17

/-! ## The text of a number -/

/-- The magnitudes of the numbers that are written without a power of ten: from `0.0001` up to
below `10 ^ 16`. -/
def isPositional (magnitude : Int) : Bool :=
  -3 ≤ magnitude && magnitude ≤ 16

/-- The text of a decimal number, with at least one digit on each side of the point, or one digit
before the point and a power of ten of at least two digits. -/
def Numeral.text (d : Numeral) : String :=
  let digits := (Nat.toDigits 10 d.digits)
  let magnitude := d.exponent + digits.length
  let zeros := fun (n : Int) => List.replicate n.toNat '0'
  String.ofList <|
    if d.digits = 0 then "0.0".toList
    else if isPositional magnitude then
      if magnitude ≤ 0 then '0' :: '.' :: zeros (-magnitude) ++ digits
      else if 0 ≤ d.exponent then digits ++ zeros d.exponent ++ ['.', '0']
      else digits.take magnitude.toNat ++ '.' :: digits.drop magnitude.toNat
    else
      let power := magnitude - 1
      let powerDigits := Nat.toDigits 10 power.natAbs
      digits.take 1 ++ (if digits.length = 1 then [] else '.' :: digits.drop 1) ++
        ['e', if power < 0 then '-' else '+'] ++ zeros (2 - powerDigits.length) ++ powerDigits

/-- The text of the number that 64 bits stand for. -/
def textOfBits (bits : UInt64) : String :=
  let isNegative := bits >>> 63 = 1
  if bits >>> 52 &&& 0x7FF = 0x7FF then
    if bits &&& 0xFFFFFFFFFFFFF ≠ 0 then "nan" else if isNegative then "-inf" else "inf"
  else (if isNegative then "-" else "") ++ (Binary.ofBits bits).shortest.text

end NamedKeys.Decimal
