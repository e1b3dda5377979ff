import ColumnWire.Number.Shortest

/-!
# Dates and moments

Days of the proleptic Gregorian calendar and moments in universal time, both counted from the start
of 1970, within the years -262143 to 262142. `Date.civil` gives year, month and day; the texts are
those of ISO 8601, with a sign before years outside 0 to 9999.
-/

namespace ColumnWire.Time

open ColumnWire.Number

/-- The first day of the year -262143. -/
def firstDay : Int := -96465292

/-- The last day of the year 262142. -/
def lastDay : Int := 95026236

/-- A day of the calendar. -/
structure Date where
  /-- Days since 1970-01-01. -/
  day : Int
  /-- The day lies in the years that the calendar covers. -/
  inRange : firstDay ≤ day ∧ day ≤ lastDay
  deriving DecidableEq

/-- The day so many days after 1970-01-01, if the calendar covers it. -/
def Date.ofDay? (day : Int) : Option Date :=
  if h : firstDay ≤ day ∧ day ≤ lastDay then some ⟨day, h⟩ else none

/-- A moment in universal time. -/
structure Moment where
  /-- Whole seconds since the start of 1970. -/
  seconds : Int
  /-- Nanoseconds after that second; a leap second has up to two thousand million. -/
  nanos : Nat
  /-- The moment lies on a day that the calendar covers. -/
  inRange : firstDay * 86400 ≤ seconds ∧ seconds < (lastDay + 1) * 86400
  deriving DecidableEq

/-- The moment at the given second, if the calendar covers it. -/
def Moment.ofSeconds? (seconds : Int) (nanos : Nat) : Option Moment :=
  if h : firstDay * 86400 ≤ seconds ∧ seconds < (lastDay + 1) * 86400 then
    some ⟨seconds, nanos, h⟩
  else none

/-- The moment at the start of its second. -/
def Moment.truncate (t : Moment) : Moment :=
  ⟨t.seconds, 0, t.inRange⟩

/-- A moment at the start of its second stays there. -/
theorem Moment.truncate_eq_self {t : Moment} (h : t.nanos = 0) : t.truncate = t := by
  rw [truncate, ← h]

/-- The day on which a moment lies. -/
def Moment.date (t : Moment) : Date :=
  ⟨t.seconds.fdiv 86400, by
    have h := t.inRange
    simp only [firstDay, lastDay, Int.fdiv_eq_ediv_of_nonneg _ (by decide : (0 : Int) ≤ 86400)]
      at *
    omega⟩

/-- A day by year, month and day of the month. -/
structure Civil where
  /-- The year. -/
  year : Int
  /-- The month, from 1. -/
  month : Nat
  /-- The day of the month, from 1. -/
  day : Nat
  deriving DecidableEq, Repr

/-- The year, month and day of a day count. Years are taken to begin in March, so that the leap day
ends them; 400 of them have 146097 days. -/
def civilOfDay (day : Int) : Civil :=
  let shifted := day + 719468
  let era := shifted.fdiv 146097
  let dayOfEra := (shifted - era * 146097).toNat
  let yearOfEra :=
    (dayOfEra - dayOfEra / 1460 + dayOfEra / 36524 - dayOfEra / 146096) / 365
  let dayOfYear := dayOfEra - (365 * yearOfEra + yearOfEra / 4 - yearOfEra / 100)
  let fromMarch := (5 * dayOfYear + 2) / 153
  let month := if fromMarch < 10 then fromMarch + 3 else fromMarch - 9
  { year := yearOfEra + era * 400 + (if month ≤ 2 then 1 else 0)
    month := month
    day := dayOfYear - (153 * fromMarch + 2) / 5 + 1 }

/-- The year, month and day. -/
def Date.civil (d : Date) : Civil :=
  civilOfDay d.day

/-- A natural with zeros before it up to a width. -/
def padded (width n : Nat) : List Char :=
  let ds := digitChars n
  List.replicate (width - ds.length) '0' ++ ds

/-- A year: four digits, and a sign outside 0 to 9999. -/
def yearText (y : Int) : List Char :=
  if 0 ≤ y ∧ y ≤ 9999 then padded 4 y.toNat
  else (if y < 0 then '-' else '+') :: padded 4 y.natAbs

/-- The date, such as `2024-02-29`. -/
def Date.chars (d : Date) : List Char :=
  let c := d.civil
  yearText c.year ++ '-' :: padded 2 c.month ++ '-' :: padded 2 c.day

/-- The text of a date. -/
def Date.text (d : Date) : String :=
  String.ofList d.chars

/-- The time of day, such as `23:59:59`; a leap second is the sixtieth. -/
def Moment.clockChars (t : Moment) : List Char :=
  let s := (t.seconds.fmod 86400).toNat
  padded 2 (s / 3600) ++ ':' :: padded 2 (s / 60 % 60) ++ ':' ::
    padded 2 (s % 60 + t.nanos / 1000000000)

/-- The fraction of the second with three, six or nine digits; nothing for none. -/
def Moment.fractionChars (t : Moment) : List Char :=
  let n := t.nanos % 1000000000
  if n = 0 then []
  else if n % 1000000 = 0 then '.' :: padded 3 (n / 1000000)
  else if n % 1000 = 0 then '.' :: padded 6 (n / 1000)
  else '.' :: padded 9 n

/-- Date and time of day with a space between. -/
def Moment.text (t : Moment) : String :=
  String.ofList (t.date.chars ++ ' ' :: t.clockChars)

/-- Date and time to the nanosecond, with an offset at the end. -/
def Moment.stamp (t : Moment) (offset : String) : String :=
  String.ofList (t.date.chars ++ 'T' :: t.clockChars ++ t.fractionChars) ++ offset

end ColumnWire.Time
