import ColumnWire.Number.Shortest

/-!
# Spans of time

Lengths of time in nanoseconds: their text in the largest unit that has a whole part, and their
conversion from and to a double-precision number of seconds.
-/

namespace ColumnWire.Time

open ColumnWire.Number

/-- A length of time, in nanoseconds. -/
structure Span where
  /-- The number of nanoseconds. -/
  nanos : Nat
  deriving DecidableEq, Repr

namespace Span

/-- No time at all. -/
def zero : Span := ⟨0⟩

/-- So many seconds. -/
def ofSeconds (n : Nat) : Span := ⟨n * 1000000000⟩

/-- So many milliseconds. -/
def ofMillis (n : Nat) : Span := ⟨n * 1000000⟩

/-- The fraction `n / 10 ^ places` behind a point, without trailing zeros; nothing for zero. -/
def fractionText (n places : Nat) : List Char :=
  if n = 0 then []
  else
    let ds := digitChars n
    let padded := List.replicate (places - ds.length) '0' ++ ds
    '.' :: (padded.reverse.dropWhile (· == '0')).reverse

/-- The span in a unit of `10 ^ places` nanoseconds. -/
def inUnit (t : Span) (places : Nat) (unit : String) : String :=
  String.ofList
    (digitChars (t.nanos / Nat.pow 10 places) ++
      fractionText (t.nanos % Nat.pow 10 places) places) ++ unit

/-- The text of a span in the largest of the units second, millisecond, microsecond and nanosecond
that has a whole part. -/
def text (t : Span) : String :=
  if 1000000000 ≤ t.nanos then t.inUnit 9 "s"
  else if 1000000 ≤ t.nanos then t.inUnit 6 "ms"
  else if 1000 ≤ t.nanos then t.inUnit 3 "µs"
  else t.inUnit 0 "ns"

/-- The span nearest to a number of seconds, a half nanosecond going to the even neighbour: none for
what is negative, no number, or `2 ^ 64` seconds and more. -/
def ofBinarySeconds? (x : Binary64) : Option Span :=
  match x.datum with
  | .nan => none
  | .infinity _ => none
  | .finite negative m q =>
    if negative && m != 0 then none
    else
      let (n, d) := powerOfTwoRatio m q
      if d * UInt64.size ≤ n then none else some ⟨divHalfEven (n * 1000000000) d⟩

/-- A finite positive number as numerator and denominator; zero for any other. -/
def magnitude (x : Binary64) : Nat × Nat :=
  match x.datum with
  | .finite _ m q => powerOfTwoRatio m q
  | _ => (0, 1)

/-- The number of seconds: whole seconds and the fraction are rounded on their own, then their
sum. -/
def toBinarySeconds (t : Span) : Binary64 :=
  let (a, b) := magnitude (Binary64.ofNat (t.nanos / 1000000000))
  let (c, d) := magnitude (Binary64.ofRatio false (t.nanos % 1000000000) 1000000000)
  Binary64.ofRatio false (a * d + c * b) (b * d)

end Span

end ColumnWire.Time
