import ColumnWire.Number.Binary

/-!
# Numerals

Reading numbers from text: naturals below a bound, and decimal fractions with an optional power of
ten, rounded to the nearest double-precision number.
-/

namespace ColumnWire.Number

/-- The value of a decimal digit. -/
def digitValue? (c : Char) : Option Nat :=
  if '0' ≤ c ∧ c ≤ '9' then some (c.toNat - '0'.toNat) else none

/-- Whether a character is a decimal digit. -/
def isDigit (c : Char) : Bool :=
  (digitValue? c).isSome

/-- The natural that decimal digits spell, reading anything else as zero. -/
def ofDigits (ds : List Char) : Nat :=
  ds.foldl (fun n c => 10 * n + (digitValue? c).getD 0) 0

/-- Reads one digit more behind a natural, as long as the result is below `bound`. -/
def appendDigit? (bound n : Nat) (c : Char) : Option Nat :=
  (digitValue? c).bind fun d => if 10 * n + d < bound then some (10 * n + d) else none

/-- Reads a natural below `bound`: one or more digits, behind an optional plus sign. -/
def readNatural? (bound : Nat) (s : List Char) : Option Nat :=
  let ds := match s with
    | '+' :: rest => rest
    | _ => s
  if ds.isEmpty then none else ds.foldlM (appendDigit? bound) 0

/-- Splits a leading sign off; the flag says whether it was a minus. -/
def splitSign : List Char → Bool × List Char
  | '-' :: rest => (true, rest)
  | '+' :: rest => (false, rest)
  | s => (false, s)

/-- How many digits of a fraction are read as they are: a number halfway between two
double-precision numbers has fewer, so of the digits after them only matters whether all are zero. -/
def keptDigits : Nat :=
  800

/-- The natural that the first digits spell, and behind them one digit for all the others: zero when
they are zero, and one otherwise. -/
def ofFirstDigits (ds : List Char) : Nat :=
  10 * ofDigits (ds.take keptDigits) + if (ds.drop keptDigits).all (· = '0') then 0 else 1

/-- The number that digits and a power of ten spell; powers far outside the range of the format are
not worked out. -/
def decimalToBinary64 (negative : Bool) (digits : List Char) (exponent : Int) : Binary64 :=
  let ds := digits.dropWhile (· = '0')
  let size : Int := ds.length + exponent
  if ds.isEmpty || size < -400 then Binary64.ofRatio negative 0 1
  else if 400 < size then Binary64.infinity negative
  else
    let e := exponent + (ds.length - keptDigits : Nat) - 1
    Binary64.ofRatio negative (ofFirstDigits ds * Nat.pow 10 e.toNat) (Nat.pow 10 (-e).toNat)

/-- The power of ten that digits spell. Once they have come to 65536 or more the digits after them
are skipped, so a larger power stays between 65536 and 655359. -/
def ofExponentDigits (ds : List Char) : Nat :=
  ds.foldl (fun n c => if n < 65536 then 10 * n + (digitValue? c).getD 0 else n) 0

/-- Reads the power of ten after the digits: nothing, or `e` and a signed natural. -/
def readExponent? : List Char → Option Int
  | [] => some 0
  | c :: rest =>
    if c = 'e' || c = 'E' then
      let (negative, ds) := splitSign rest
      if ds.isEmpty || !ds.all isDigit then none
      else
        let n : Int := ofExponentDigits ds
        some (if negative then -n else n)
    else none

/-- Reads a decimal number: a sign, digits with at most one point among them and at least one digit
in all, and a power of ten; or the name of an infinity or of no number in any case. -/
def readBinary64? (s : List Char) : Option Binary64 :=
  let (negative, body) := splitSign s
  let lower := String.ofList (body.map Char.toLower)
  if lower = "inf" || lower = "infinity" then some (Binary64.infinity negative)
  else if lower = "nan" then some Binary64.quietNaN
  else
    let whole := body.takeWhile isDigit
    let rest := body.dropWhile isDigit
    let (fraction, tail) := match rest with
      | '.' :: more => (more.takeWhile isDigit, more.dropWhile isDigit)
      | _ => ([], rest)
    if whole.isEmpty && fraction.isEmpty then none
    else
      (readExponent? tail).map fun e =>
        decimalToBinary64 negative (whole ++ fraction) (e - fraction.length)

end ColumnWire.Number
