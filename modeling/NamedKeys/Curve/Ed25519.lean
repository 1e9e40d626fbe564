import NamedKeys.Hash.Sha512

/-!
# Public keys of Ed25519

The group of the twisted Edwards curve over the field of `2 ^ 255 - 19` elements, in extended
coordinates, and the public key of a 32-octet secret: the multiple of the base point by the clamped
digest of the secret, written in 32 octets (RFC 8032).
-/

namespace NamedKeys.Curve.Ed25519

def prime : Nat := Nat.pow 2 255 - 19

/-- The coefficient of the curve `-x² + y² = 1 + coefficient x² y²`. -/
def coefficient : Nat :=
  0x52036cee2b6ffe738cc740797779e89800700a4d4141d8ab75eb4dca135978a3

/-- A point `(x / z, y / z)` with `t = x y / z`, all below the prime. -/
structure Point where
  x : Nat
  y : Nat
  z : Nat
  t : Nat

def neutral : Point := ⟨0, 1, 1, 0⟩

def base : Point where
  x := 0x216936d3cd6e53fec0a4e231fdd6dc5c692cc7609525a7b2c9562d608f25d51a
  y := 0x6666666666666666666666666666666666666666666666666666666666666658
  z := 1
  t := 0x67875f0fd78b766566ea4e8e64abe37d20f09f80775152f56dde8ab3a5b7dda3

def difference (a b : Nat) : Nat :=
  (a + (prime - b)) % prime

/-- The sum of two points; it holds for equal points too. -/
def Point.add (p q : Point) : Point :=
  let a := difference p.y p.x * difference q.y q.x % prime
  let b := (p.y + p.x) * (q.y + q.x) % prime
  let c := 2 * p.t * q.t % prime * coefficient % prime
  let d := 2 * p.z * q.z % prime
  let e := difference b a
  let f := difference d c
  let g := d + c
  let h := b + a
  ⟨e * f % prime, g * h % prime, f * g % prime, e * h % prime⟩

/-- The multiple of a point by the number of the lowest `bits` bits of `n`. -/
def Point.times (p : Point) (n : Nat) : (bits : Nat) → Point
  | 0 => neutral
  | bits + 1 =>
    -- the higher bits first: the number of the bits from this one up
    let rest := (p.times (n / 2) bits)
    let twice := rest.add rest
    if n % 2 = 1 then twice.add p else twice

/-- The power of an element of the field by the number of the lowest `bits` bits of `n`. -/
def power (a n : Nat) : (bits : Nat) → Nat
  | 0 => 1
  | bits + 1 =>
    let rest := power a (n / 2) bits
    let square := rest * rest % prime
    if n % 2 = 1 then square * a % prime else square

/-- The inverse of an element of the field, by Fermat's little theorem. -/
def inverse (a : Nat) : Nat :=
  power a (prime - 2) 255

/-- The number of octets, the lowest first. -/
def numberOf : List UInt8 → Nat
  | [] => 0
  | b :: bs => b.toNat + 256 * numberOf bs

/-- As many octets of a number, the lowest first. -/
def octetsOf : (count n : Nat) → List UInt8
  | 0, _ => []
  | count + 1, n => UInt8.ofNat n :: octetsOf count (n / 256)

/-- The second coordinate of a point in 32 octets, with the parity of the first in the last bit. -/
def Point.octets (p : Point) : List UInt8 :=
  let i := inverse p.z
  octetsOf 32 (p.y * i % prime + p.x * i % prime % 2 * Nat.pow 2 255)

/-- The multiple that a secret stands for: bits 0 to 2 and 255 are cleared, bit 254 is set. -/
def clampedScalar (secret : List UInt8) : Nat :=
  let n := numberOf ((Hash.Sha512.digest secret).take 32)
  Nat.pow 2 254 + n % Nat.pow 2 254 / 8 * 8

def publicKey (secret : List UInt8) : List UInt8 :=
  (base.times (clampedScalar secret) 255).octets

theorem length_octetsOf (count n : Nat) : (octetsOf count n).length = count := by
  induction count generalizing n with
  | zero => rfl
  | succ count ih => simp [octetsOf, ih]

theorem length_publicKey (secret : List UInt8) : (publicKey secret).length = 32 :=
  length_octetsOf 32 _

end NamedKeys.Curve.Ed25519
