import ColumnWire.Number.Binary

/-!
# Shortest decimal digits

The decimal numbers that read back as a given binary number fill an interval around it. `shortest`
finds the decimal of fewest digits in that interval, and of two such the nearer: for each digit count
in turn it tests the two neighbours of the number on the decimal grid of that count.
`positional` and `scientific` write the digits out.
-/

namespace ColumnWire.Number

/-- The number `digits * 10 ^ exponent`. -/
structure Decimal where
  /-- The digits, read as one natural. -/
  digits : Nat
  /-- The power of ten of the last digit. -/
  exponent : Int
  deriving DecidableEq, Repr

/-- The numbers that round to a given one, in units of `2 ^ exponent`. -/
structure Basin where
  /-- Lower end. -/
  low : Nat
  /-- The number itself. -/
  centre : Nat
  /-- Upper end. -/
  high : Nat
  /-- Power of two of the unit. -/
  exponent : Int
  /-- Whether the ends belong to the basin. -/
  closed : Bool

/-- The basin of a positive number: half a step to each side, and a quarter below a power of two,
where the steps below are half as wide. -/
def Layout.basin (l : Layout) (significand : Nat) (exponent : Int) : Basin :=
  let narrow := significand = l.fractionCount ∧ l.leastExponent < exponent
  { low := 4 * significand - (if narrow then 1 else 2)
    centre := 4 * significand
    high := 4 * significand + 2
    exponent := exponent - 2
    closed := significand % 2 = 0 }

/-- The greatest `k` with `10 ^ k ≤ n / d`, for positive arguments. -/
def floorLog10 (n d : Nat) : Int :=
  if d ≤ n then ((Nat.toDigits 10 (n / d)).length : Int) - 1
  else
    let t := (Nat.toDigits 10 (d / n)).length
    if n * Nat.pow 10 (t - 1) = d then 1 - (t : Int) else -(t : Int)

/-- The point of the grid with step `10 ^ (-places)` that lies in the basin, the nearer of two. -/
def Basin.onGrid (b : Basin) (places : Int) : Option Nat :=
  let (u, v) := powerOfTwoRatio 1 b.exponent
  let up := Nat.pow 10 places.toNat
  let d := v * Nat.pow 10 (-places).toNat
  let low := b.low * u * up
  let centre := b.centre * u * up
  let high := b.high * u * up
  let inside := fun c : Nat =>
    if b.closed then low ≤ c * d && c * d ≤ high else low < c * d && c * d < high
  let below := centre / d
  let above := below + 1
  match inside below, inside above with
  | true, true => some (if centre - below * d < above * d - centre then below else above)
  | true, false => some below
  | false, true => some above
  | false, false => none

/-- The first grid, from `count` digits on, with a point in the basin. -/
def Basin.search (b : Basin) (magnitude : Int) : Nat → Nat → Decimal
  | 0, count =>
    let places := (count : Int) - 1 - magnitude
    ⟨(b.onGrid places).getD 0, -places⟩
  | fuel + 1, count =>
    let places := (count : Int) - 1 - magnitude
    match b.onGrid places with
    | some c => ⟨c, -places⟩
    | none => b.search magnitude fuel (count + 1)

/-- Moves trailing zeros from the digits into the exponent. -/
def Decimal.strip (d : Decimal) : Nat → Decimal
  | 0 => d
  | fuel + 1 =>
    if d.digits ≠ 0 ∧ d.digits % 10 = 0 then
      Decimal.strip ⟨d.digits / 10, d.exponent + 1⟩ fuel
    else d

/-- The decimal of fewest digits that reads back as the positive number. -/
def Layout.shortest (l : Layout) (significand : Nat) (exponent : Int) : Decimal :=
  let b := l.basin significand exponent
  let (n, d) := powerOfTwoRatio significand exponent
  (b.search (floorLog10 n d) 17 1).strip 20

/-- The decimal digits of a natural. -/
def digitChars (n : Nat) : List Char :=
  Nat.toDigits 10 n

/-- A number with its point in place and at least `least` digits after it. -/
def Decimal.positional (d : Decimal) (least : Nat) : List Char :=
  let ds := digitChars d.digits
  if 0 ≤ d.exponent then
    ds ++ List.replicate d.exponent.toNat '0' ++
      (if least = 0 then [] else '.' :: List.replicate least '0')
  else
    let places := (-d.exponent).toNat
    let padded := List.replicate (places + 1 - ds.length) '0' ++ ds
    let fraction := padded.drop (padded.length - places)
    padded.take (padded.length - places) ++ '.' :: fraction ++
      List.replicate (least - places) '0'

/-- A number as one digit, the further digits behind a point, and a power of ten. -/
def Decimal.scientific (d : Decimal) : List Char :=
  let ds := digitChars d.digits
  let power : Int := d.exponent + ds.length - 1
  let mantissa :=
    match ds with
    | [] => []
    | [x] => [x]
    | x :: rest => x :: '.' :: rest
  mantissa ++ 'e' :: (toString power).toList

/-- The text of a number: special cases by name, and a finite one by the given writer of its
shortest digits. -/
def Datum.text (l : Layout) (zero : String) (write : Decimal → List Char) : Datum → String
  | .nan => "NaN"
  | .infinity negative => if negative then "-inf" else "inf"
  | .finite negative m q =>
    let sign := if negative then "-" else ""
    if m = 0 then sign ++ zero else sign ++ String.ofList (write (l.shortest m q))

/-- Whether the developers' text of a number is positional: from `10 ^ -4` up to `10 ^ 16`. -/
def Decimal.isModerate (d : Decimal) : Bool :=
  let power : Int := d.exponent + (digitChars d.digits).length - 1
  (-4 ≤ power) && (power < 16)

/-- The developers' text of a positive number: positional with a fraction, or scientific. -/
def Decimal.inspect (d : Decimal) : List Char :=
  if d.isModerate then d.positional 1 else d.scientific

/-- The text of a single-precision number, always positional. -/
def Binary32.text (x : Binary32) : String :=
  x.datum.text .single "0" (·.positional 0)

/-- The text of a double-precision number, always positional. -/
def Binary64.text (x : Binary64) : String :=
  x.datum.text .double "0" (·.positional 0)

/-- The developers' text of a single-precision number. -/
def Binary32.inspect (x : Binary32) : String :=
  x.datum.text .single "0.0" Decimal.inspect

/-- The developers' text of a double-precision number. -/
def Binary64.inspect (x : Binary64) : String :=
  x.datum.text .double "0.0" Decimal.inspect

end ColumnWire.Number
