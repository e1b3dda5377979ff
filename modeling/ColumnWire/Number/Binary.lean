/-!
# Binary floating-point numbers

Single- and double-precision numbers as their bit patterns. `Layout.read` says what a pattern stands
for, and `Layout.round` gives the pattern nearest to a quotient of naturals, the even one of two
equally near. Every conversion and product below is exact arithmetic on naturals followed by one
such rounding. A payload of a NaN is carried along, with its quiet bit set where a width changes.
-/

namespace ColumnWire.Number

/-- The quotient rounded to the nearest natural, a half to the even neighbour. -/
def divHalfEven (n d : Nat) : Nat :=
  let q := n / d
  let r := n % d
  if 2 * r < d ∨ (2 * r = d ∧ q % 2 = 0) then q else q + 1

/-- The quotient rounded to the nearest natural, a half to the larger neighbour. -/
def divHalfUp (n d : Nat) : Nat :=
  if 2 * (n % d) < d then n / d else n / d + 1

/-- The quotient `m * 2 ^ q` as numerator and denominator. -/
def powerOfTwoRatio (m : Nat) (q : Int) : Nat × Nat :=
  if 0 ≤ q then (m * Nat.pow 2 q.toNat, 1) else (m, Nat.pow 2 (-q).toNat)

/-- What a bit pattern stands for. -/
inductive Datum where
  /-- Not a number. -/
  | nan
  /-- An infinity. -/
  | infinity (negative : Bool)
  /-- The number `± significand * 2 ^ exponent`. -/
  | finite (negative : Bool) (significand : Nat) (exponent : Int)
  deriving DecidableEq, Repr

/-- The widths of the two fields that follow the sign in a binary interchange format. -/
structure Layout where
  /-- Width of the exponent field. -/
  exponentBits : Nat
  /-- Width of the fraction field. -/
  fractionBits : Nat

namespace Layout

/-- The layout of single precision. -/
def single : Layout := ⟨8, 23⟩

/-- The layout of double precision. -/
def double : Layout := ⟨11, 52⟩

/-- The exponent of the least significant bit of a subnormal number. -/
def leastExponent (l : Layout) : Int :=
  2 - (Nat.pow 2 (l.exponentBits - 1) : Nat) - (l.fractionBits : Int)

/-- The number of fractions. -/
def fractionCount (l : Layout) : Nat :=
  Nat.pow 2 l.fractionBits

/-- The number of exponents. -/
def exponentCount (l : Layout) : Nat :=
  Nat.pow 2 l.exponentBits

/-- The pattern of positive infinity. -/
def infinityBits (l : Layout) : Nat :=
  (l.exponentCount - 1) * l.fractionCount

/-- The weight of the sign bit. -/
def signWeight (l : Layout) : Nat :=
  l.exponentCount * l.fractionCount

/-- The weight of the bit that marks a quiet NaN, the highest of the fraction. -/
def quietWeight (l : Layout) : Nat :=
  Nat.pow 2 (l.fractionBits - 1)

/-- The pattern of an infinity. -/
def signedInfinityBits (l : Layout) (negative : Bool) : Nat :=
  (if negative then l.signWeight else 0) + l.infinityBits

/-- The pattern of a quiet NaN with a sign bit and the rest of the fraction. -/
def quietNaNBits (l : Layout) (sign payload : Nat) : Nat :=
  sign * l.signWeight + l.infinityBits + l.quietWeight + payload

/-- How many fractions of double precision there are for one of single precision. -/
def widening : Nat :=
  Nat.pow 2 (double.fractionBits - single.fractionBits)

/-- What a pattern stands for. -/
def read (l : Layout) (bits : Nat) : Datum :=
  let negative := bits / l.signWeight % 2 == 1
  let field := bits / l.fractionCount % l.exponentCount
  let fraction := bits % l.fractionCount
  if field = l.exponentCount - 1 then
    if fraction = 0 then .infinity negative else .nan
  else if field = 0 then .finite negative fraction l.leastExponent
  else .finite negative (l.fractionCount + fraction) (l.leastExponent + field - 1)

/-- The greatest `e` with `2 ^ e ≤ n / d`, for positive arguments. -/
def floorLog2 (n d : Nat) : Int :=
  let e : Int := (n.log2 : Int) - d.log2
  let (p, q) := powerOfTwoRatio 1 e
  if n * q < p * d then e - 1 else e

/-- The pattern of the number nearest to `± n / d`, a tie going to the even significand and a
magnitude past the greatest number to infinity. -/
def round (l : Layout) (negative : Bool) (n d : Nat) : Nat :=
  let sign := if negative then l.signWeight else 0
  if n = 0 then sign
  else
    let q := max l.leastExponent (floorLog2 n d - l.fractionBits)
    let (u, v) := powerOfTwoRatio 1 q
    let significand := divHalfEven (n * v) (d * u)
    let magnitude := (q - l.leastExponent).toNat * l.fractionCount + significand
    sign + min magnitude l.infinityBits

end Layout

/-- A single-precision number. -/
structure Binary32 where
  /-- The bit pattern. -/
  bits : UInt32
  deriving DecidableEq, Repr

/-- A double-precision number. -/
structure Binary64 where
  /-- The bit pattern. -/
  bits : UInt64
  deriving DecidableEq, Repr

namespace Binary32

/-- What the number stands for. -/
def datum (x : Binary32) : Datum :=
  Layout.single.read x.bits.toNat

/-- Whether the pattern is no number. -/
def isNaN (x : Binary32) : Bool :=
  x.datum == .nan

/-- Numeric equality: no NaN equals anything, and the two zeros are equal. -/
def numEq (x y : Binary32) : Bool :=
  !x.isNaN && !y.isNaN && (x == y || (x.bits <<< 1 == 0 && y.bits <<< 1 == 0))

/-- The same number in double precision. -/
def toBinary64 (x : Binary32) : Binary64 :=
  match x.datum with
  | .nan =>
    let sign := x.bits.toNat / Layout.single.signWeight
    let payload := x.bits.toNat % Layout.single.quietWeight
    ⟨UInt64.ofNat (Layout.double.quietNaNBits sign (payload * Layout.widening))⟩
  | .infinity negative => ⟨UInt64.ofNat (Layout.double.signedInfinityBits negative)⟩
  | .finite negative m q =>
    let (n, d) := powerOfTwoRatio m q
    ⟨UInt64.ofNat (Layout.double.round negative n d)⟩

end Binary32

namespace Binary64

/-- What the number stands for. -/
def datum (x : Binary64) : Datum :=
  Layout.double.read x.bits.toNat

/-- Whether the pattern is no number. -/
def isNaN (x : Binary64) : Bool :=
  x.datum == .nan

/-- Numeric equality: no NaN equals anything, and the two zeros are equal. -/
def numEq (x y : Binary64) : Bool :=
  !x.isNaN && !y.isNaN && (x == y || (x.bits <<< 1 == 0 && y.bits <<< 1 == 0))

/-- The number nearest to `± n / d`. -/
def ofRatio (negative : Bool) (n d : Nat) : Binary64 :=
  ⟨UInt64.ofNat (Layout.double.round negative n d)⟩

/-- The number nearest to a natural. -/
def ofNat (n : Nat) : Binary64 :=
  ofRatio false n 1

/-- Positive or negative infinity. -/
def infinity (negative : Bool) : Binary64 :=
  ⟨UInt64.ofNat (Layout.double.signedInfinityBits negative)⟩

/-- The quiet NaN without a payload. -/
def quietNaN : Binary64 :=
  ⟨0x7ff8000000000000⟩

/-- The single-precision number nearest to this one. -/
def toBinary32 (x : Binary64) : Binary32 :=
  match x.datum with
  | .nan =>
    let sign := x.bits.toNat / Layout.double.signWeight
    let payload := x.bits.toNat / Layout.widening % Layout.single.quietWeight
    ⟨UInt32.ofNat (Layout.single.quietNaNBits sign payload)⟩
  | .infinity negative => ⟨UInt32.ofNat (Layout.single.signedInfinityBits negative)⟩
  | .finite negative m q =>
    let (n, d) := powerOfTwoRatio m q
    ⟨UInt32.ofNat (Layout.single.round negative n d)⟩

/-- The product with a natural, rounded once. -/
def scale (x : Binary64) (k : Nat) : Binary64 :=
  match x.datum with
  | .nan => x
  | .infinity _ => x
  | .finite negative m q =>
    let (n, d) := powerOfTwoRatio m q
    ofRatio negative (n * k) d

/-- The quotient by a positive natural, rounded once. -/
def unscale (x : Binary64) (k : Nat) : Binary64 :=
  match x.datum with
  | .nan => x
  | .infinity _ => x
  | .finite negative m q =>
    let (n, d) := powerOfTwoRatio m q
    ofRatio negative n (d * k)

/-- The nearest natural below `2 ^ 64`, a half going up: what is negative or no number gives zero,
and what is too large gives the greatest. -/
def toUInt64 (x : Binary64) : UInt64 :=
  match x.datum with
  | .nan => 0
  | .infinity negative => if negative then 0 else UInt64.ofNat (UInt64.size - 1)
  | .finite negative m q =>
    let (n, d) := powerOfTwoRatio m q
    if negative then 0 else UInt64.ofNat (min (divHalfUp n d) (UInt64.size - 1))

end Binary64

end ColumnWire.Number
