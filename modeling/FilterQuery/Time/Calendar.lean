/-!
# The Gregorian calendar

Days of the proleptic Gregorian calendar and their numbers, counted from 1970-01-01. Day numbers
are defined for every year; a date is a real one when its month and day exist.
-/

set_option autoImplicit false

namespace FilterQuery

structure Date where
  year : Int
  month : Nat
  day : Nat
  deriving DecidableEq, Repr

namespace Date

/-- Whether a year has a 29th of February. -/
def isLeap (year : Int) : Bool :=
  year % 4 == 0 && (year % 100 != 0 || year % 400 == 0)

def monthLengths (year : Int) : List Nat :=
  [31, if isLeap year then 29 else 28, 31, 30, 31, 30, 31, 31, 30, 31, 30, 31]

def IsReal (date : Date) : Prop :=
  1 ≤ date.month ∧ date.month ≤ 12 ∧ 1 ≤ date.day ∧
    date.day ≤ ((monthLengths date.year)[date.month - 1]?).getD 0

instance (date : Date) : Decidable date.IsReal :=
  inferInstanceAs (Decidable (_ ∧ _))

/-- The number of days between the first day of year 1 and the first day of a year. -/
def daysBeforeYear (year : Int) : Int :=
  365 * (year - 1) + (year - 1) / 4 - (year - 1) / 100 + (year - 1) / 400

/-- The number of days between the first day of year 1 and 1970-01-01. -/
def epochDays : Int := 719162

def daysIn : List Nat → Nat
  | [] => 0
  | length :: rest => length + daysIn rest

/-- The number of a day, counted from 1970-01-01. -/
def dayNumber (date : Date) : Int :=
  daysBeforeYear date.year + daysIn ((monthLengths date.year).take (date.month - 1)) +
    (date.day - 1) - epochDays

/-- The month and the day that lie a number of days after the first day of the listed months. -/
def inMonths (year : Int) (month : Nat) : List Nat → Nat → Date
  | [], days => ⟨year, month, days + 1⟩
  | length :: rest, days =>
      if days < length then ⟨year, month, days + 1⟩
      else inMonths year (month + 1) rest (days - length)

/-- The day with a number. Cycles of 400, 100, 4 and 1 years are taken off the days since the first
day of year 1; the last short cycle of each kind may be a day longer. -/
def ofDayNumber (number : Int) : Date :=
  let days := number + epochDays
  let rest := (days % 146097).toNat
  let centuries := min (rest / 36524) 3
  let rest := rest - centuries * 36524
  let fours := rest / 1461
  let rest := rest - fours * 1461
  let ones := min (rest / 365) 3
  let year := 400 * (days / 146097) + 100 * centuries + 4 * fours + ones + 1
  inMonths year 1 (monthLengths year) (rest - ones * 365)

end Date

end FilterQuery
