import FilterQuery.Time.Calendar
import Mathlib.Algebra.Order.Group.Int
import Mathlib.Data.Int.Order.Basic

/-!
# Days and their numbers

The numbers of days count the days of the calendar: the day after a date has the next number, and
each number is that of exactly one day. Main statements: `ofDayNumber_dayNumber` and
`dayNumber_ofDayNumber` take dates and numbers back and forth, and `IsDayCount.eq_dayNumber` says
that no other count goes up by one from day to day and is zero on 1970-01-01.
-/

set_option autoImplicit false

namespace FilterQuery.Date

/-- The first day of a month of the same year, or the first day of the next year. -/
def nextMonth (date : Date) : Date :=
  if date.month < 12 then ⟨date.year, date.month + 1, 1⟩ else ⟨date.year + 1, 1, 1⟩

/-- The day after a date. -/
def next (date : Date) : Date :=
  if (Date.mk date.year date.month (date.day + 1)).IsReal then
    ⟨date.year, date.month, date.day + 1⟩
  else date.nextMonth

/-- A count of days that is zero on 1970-01-01 and one more on the day after a day. -/
structure IsDayCount (days : Date → Int) : Prop where
  epoch : days ⟨1970, 1, 1⟩ = 0
  next : ∀ date : Date, date.IsReal → days date.next = days date + 1

def yearLength (year : Int) : Nat :=
  if isLeap year then 366 else 365

theorem isLeap_iff (year : Int) :
    isLeap year = true ↔ year % 4 = 0 ∧ (year % 100 ≠ 0 ∨ year % 400 = 0) := by
  simp [isLeap]

theorem daysIn_monthLengths (year : Int) : daysIn (monthLengths year) = yearLength year := by
  simp only [monthLengths, yearLength]
  split <;> rfl

theorem length_monthLengths (year : Int) : (monthLengths year).length = 12 := rfl

theorem daysBeforeYear_succ (year : Int) :
    daysBeforeYear (year + 1) = daysBeforeYear year + yearLength year := by
  have leap := isLeap_iff year
  simp only [daysBeforeYear, yearLength]
  split
  · next known =>
      have := leap.mp known
      omega
  · next known =>
      have := mt leap.mpr known
      omega

theorem daysBeforeYear_le {year later : Int} (le : year ≤ later) :
    daysBeforeYear year ≤ daysBeforeYear later := by
  simp only [daysBeforeYear]
  omega

section Months

variable {lengths : List Nat} {index length : Nat}

theorem daysIn_take_succ (found : lengths[index]? = some length) :
    daysIn (lengths.take (index + 1)) = daysIn (lengths.take index) + length := by
  induction lengths generalizing index with
  | nil => simp at found
  | cons head lengths ih =>
      cases index with
      | zero =>
          have same : head = length := by simpa using found
          simp [daysIn, same]
      | succ index =>
          rw [List.getElem?_cons_succ] at found
          rw [List.take_succ_cons, List.take_succ_cons, daysIn, daysIn, ih found, Nat.add_assoc]

theorem daysIn_take_le {other : Nat} (lengths : List Nat) (le : index ≤ other) :
    daysIn (lengths.take index) ≤ daysIn (lengths.take other) := by
  induction lengths generalizing index other with
  | nil => simp
  | cons head lengths ih =>
      cases index with
      | zero => simp [daysIn]
      | succ index =>
          obtain ⟨other, rfl⟩ : ∃ fewer, other = fewer + 1 := ⟨other - 1, by omega⟩
          rw [List.take_succ_cons, List.take_succ_cons, daysIn, daysIn]
          exact Nat.add_le_add_left (ih (Nat.le_of_succ_le_succ le)) head

/-- The month is the one in which the days that lie before it leave less than its length. -/
theorem inMonths_eq (year : Int) (month : Nat) {days : Nat} (within : days < daysIn lengths) :
    ∃ index length, lengths[index]? = some length ∧ daysIn (lengths.take index) ≤ days ∧
      days < daysIn (lengths.take index) + length ∧
      inMonths year month lengths days =
        ⟨year, month + index, days - daysIn (lengths.take index) + 1⟩ := by
  induction lengths generalizing month days with
  | nil => simp [daysIn] at within
  | cons head lengths ih =>
      rw [daysIn] at within
      rw [inMonths]
      by_cases first : days < head
      · refine ⟨0, head, rfl, ?_, ?_, ?_⟩
        · simp [daysIn]
        · simpa [daysIn] using first
        · simp [first, daysIn]
      · obtain ⟨index, length, found, lower, upper, same⟩ :=
          ih (month + 1) (show days - head < daysIn lengths by omega)
        refine ⟨index + 1, length, by simpa using found, ?_, ?_, ?_⟩
        · rw [List.take_succ_cons, daysIn]
          omega
        · rw [List.take_succ_cons, daysIn]
          omega
        · rw [if_neg first, same, List.take_succ_cons, daysIn, Nat.sub_sub, Nat.add_right_comm,
            Nat.add_assoc]

end Months

theorem isReal_iff {year : Int} {month day : Nat} :
    (Date.mk year month day).IsReal ↔ ∃ index length, month = index + 1 ∧
      (monthLengths year)[index]? = some length ∧ 1 ≤ day ∧ day ≤ length := by
  constructor
  · intro real
    obtain ⟨first, last, start, finish⟩ := real
    obtain ⟨index, rfl⟩ : ∃ index, month = index + 1 := ⟨month - 1, by simp at first; omega⟩
    have inside : index < (monthLengths year).length := by
      rw [length_monthLengths]
      exact last
    simp only [Nat.add_sub_cancel, List.getElem?_eq_getElem inside, Option.getD_some] at finish
    exact ⟨index, _, rfl, List.getElem?_eq_getElem inside, start, finish⟩
  · intro known
    obtain ⟨index, length, rfl, found, start, finish⟩ := known
    have inside := (List.getElem?_eq_some_iff.mp found).1
    rw [length_monthLengths] at inside
    refine ⟨Nat.le_add_left 1 index, inside, start, ?_⟩
    simpa [found] using finish

theorem dayNumber_mk (year : Int) (index day : Nat) :
    (Date.mk year (index + 1) day).dayNumber =
      daysBeforeYear year + daysIn ((monthLengths year).take index) + (day - 1) - epochDays := rfl

/-- The day after a day has the next number. -/
theorem dayNumber_next {date : Date} (real : date.IsReal) :
    date.next.dayNumber = date.dayNumber + 1 := by
  obtain ⟨year, month, day⟩ := date
  obtain ⟨index, length, rfl, found, start, finish⟩ := isReal_iff.mp real
  rw [next]
  split
  · rw [dayNumber_mk, dayNumber_mk]
    push_cast
    omega
  · next last =>
      have full : day = length := by
        have := mt isReal_iff.mpr last
        simp only [not_exists, not_and] at this
        have := this index length rfl found (by omega)
        omega
      have sum := daysIn_take_succ found
      subst full
      rw [nextMonth]
      split
      · rw [dayNumber_mk, dayNumber_mk, sum]
        push_cast
        omega
      · next december =>
          have inside := (List.getElem?_eq_some_iff.mp found).1
          rw [length_monthLengths] at inside
          have eleven : index = 11 := by simp at december; omega
          subst eleven
          have whole : daysIn ((monthLengths year).take (11 + 1)) = yearLength year :=
            daysIn_monthLengths year
          have following := daysBeforeYear_succ year
          have january :
              (Date.mk (year + 1) 1 1).dayNumber = daysBeforeYear (year + 1) - epochDays := by
            simp [dayNumber, daysIn]
          have today := dayNumber_mk year 11 day
          change (Date.mk (year + 1) 1 1).dayNumber = (Date.mk year (11 + 1) day).dayNumber + 1
          omega

/-- Cycles of 400, 100, 4 and 1 years before a year hold as many days as lie before it. -/
theorem daysBeforeYear_cycles {quads centuries fours ones : Int}
    (century : 0 ≤ centuries ∧ centuries ≤ 3) (four : 0 ≤ fours ∧ fours ≤ 24)
    (one : 0 ≤ ones ∧ ones ≤ 3) :
    daysBeforeYear (400 * quads + 100 * centuries + 4 * fours + ones + 1) =
      146097 * quads + 36524 * centuries + 1461 * fours + 365 * ones := by
  simp only [daysBeforeYear]
  omega

/-- The year of a day and what is left of the days before it. -/
theorem exists_year (days : Int) : ∃ (year : Int) (rest : Nat),
    ofDayNumber (days - epochDays) = inMonths year 1 (monthLengths year) rest ∧
      days = daysBeforeYear year + rest ∧ rest < yearLength year := by
  simp only [ofDayNumber, Int.sub_add_cancel]
  have whole := Int.emod_add_mul_ediv days 146097
  have nonneg := Int.emod_nonneg days (b := 146097) (by decide)
  have bounded := Int.emod_lt_of_pos days (b := 146097) (by decide)
  -- What each kind of cycle leaves is named, so that only its bounds are left to `omega`.
  generalize isCycle : (days % 146097).toNat = cycle
  generalize isCenturies : min (cycle / 36524) 3 = centuries
  generalize isCentury : cycle - centuries * 36524 = century
  generalize isFours : century / 1461 = fours
  generalize isFour : century - fours * 1461 = four
  generalize isOnes : min (four / 365) 3 = ones
  refine ⟨_, _, rfl, ?_, ?_⟩
  · rw [daysBeforeYear_cycles (by omega) (by omega) (by omega)]
    omega
  · rw [yearLength]
    split
    · omega
    · next common =>
        have := mt (isLeap_iff _).mpr common
        omega

theorem ofDayNumber_spec (number : Int) :
    (ofDayNumber number).IsReal ∧ (ofDayNumber number).dayNumber = number := by
  obtain ⟨year, rest, same, split, within⟩ := exists_year (number + epochDays)
  rw [Int.add_sub_cancel] at same
  rw [← daysIn_monthLengths] at within
  obtain ⟨index, length, found, lower, upper, month⟩ := inMonths_eq year 1 within
  rw [same, month, Nat.add_comm 1 index]
  refine ⟨isReal_iff.mpr ⟨index, length, rfl, found, by omega, by omega⟩, ?_⟩
  rw [dayNumber_mk]
  push_cast
  omega

theorem dayNumber_ofDayNumber (number : Int) : (ofDayNumber number).dayNumber = number :=
  (ofDayNumber_spec number).2

theorem isReal_ofDayNumber (number : Int) : (ofDayNumber number).IsReal :=
  (ofDayNumber_spec number).1

theorem IsReal.bounds {date : Date} (real : date.IsReal) :
    daysBeforeYear date.year ≤ date.dayNumber + epochDays ∧
      date.dayNumber + epochDays < daysBeforeYear (date.year + 1) := by
  obtain ⟨year, month, day⟩ := date
  obtain ⟨index, length, rfl, found, start, finish⟩ := isReal_iff.mp real
  have inside := (List.getElem?_eq_some_iff.mp found).1
  have sum := daysIn_take_succ found
  have most := daysIn_take_le (monthLengths year) (Nat.succ_le_of_lt inside)
  rw [List.take_length, daysIn_monthLengths] at most
  rw [dayNumber_mk]
  simp only [Nat.succ_eq_add_one, daysBeforeYear_succ] at most ⊢
  omega

theorem IsReal.day_le {date : Date} (real : date.IsReal) : date.day ≤ 31 := by
  obtain ⟨year, month, day⟩ := date
  obtain ⟨index, length, rfl, found, start, finish⟩ := isReal_iff.mp real
  have most : ∀ length ∈ monthLengths year, length ≤ 31 := by
    simp only [monthLengths, List.forall_mem_cons]
    split <;> simp
  exact Nat.le_trans finish (most length (List.mem_of_getElem? found))

/-- A day between the first days of two years is in a year between them. -/
theorem IsReal.year_bounds {date : Date} {first last : Int} (real : date.IsReal)
    (lower : daysBeforeYear first ≤ date.dayNumber + epochDays)
    (upper : date.dayNumber + epochDays < daysBeforeYear last) :
    first ≤ date.year ∧ date.year < last := by
  have bounds := real.bounds
  constructor
  · by_contra before
    have := daysBeforeYear_le (Int.add_one_le_of_lt (Int.not_le.mp before))
    omega
  · by_contra behind
    have := daysBeforeYear_le (Int.not_lt.mp behind)
    omega

theorem eq_of_dayNumber_eq {date other : Date} (real : date.IsReal) (otherReal : other.IsReal)
    (same : date.dayNumber = other.dayNumber) : date = other := by
  have otherBounds := otherReal.bounds
  rw [← same] at otherBounds
  have sameYear : date.year = other.year := by
    have years := real.year_bounds otherBounds.1 otherBounds.2
    omega
  obtain ⟨year, month, day⟩ := date
  obtain ⟨otherYear, otherMonth, otherDay⟩ := other
  obtain rfl : year = otherYear := sameYear
  obtain ⟨index, length, rfl, found, start, finish⟩ := isReal_iff.mp real
  obtain ⟨otherIndex, otherLength, rfl, otherFound, otherStart, otherFinish⟩ :=
    isReal_iff.mp otherReal
  rw [dayNumber_mk, dayNumber_mk] at same
  have sum := daysIn_take_succ found
  have otherSum := daysIn_take_succ otherFound
  have sameIndex : index = otherIndex := by
    by_contra different
    rcases Nat.lt_or_gt_of_ne different with less | less
    · have := daysIn_take_le (monthLengths year) (Nat.succ_le_of_lt less)
      simp only [Nat.succ_eq_add_one] at this
      omega
    · have := daysIn_take_le (monthLengths year) (Nat.succ_le_of_lt less)
      simp only [Nat.succ_eq_add_one] at this
      omega
  subst sameIndex
  obtain rfl : day = otherDay := by omega
  rfl

theorem ofDayNumber_dayNumber {date : Date} (real : date.IsReal) :
    ofDayNumber date.dayNumber = date :=
  eq_of_dayNumber_eq (isReal_ofDayNumber _) real (dayNumber_ofDayNumber _)

theorem isReal_first {year : Int} {month : Nat} (first : 1 ≤ month) (last : month ≤ 12) :
    (Date.mk year month 1).IsReal := by
  have positive : ∀ length ∈ monthLengths year, 1 ≤ length := by
    simp only [monthLengths, List.forall_mem_cons]
    split <;> simp
  obtain ⟨index, rfl⟩ : ∃ index, month = index + 1 := ⟨month - 1, by omega⟩
  have found := List.getElem?_eq_getElem (show index < (monthLengths year).length from last)
  exact isReal_iff.mpr ⟨index, _, rfl, found, Nat.le_refl 1, positive _ (List.getElem_mem _)⟩

theorem isReal_next (date : Date) : date.next.IsReal := by
  rw [Date.next]
  split
  · assumption
  · rw [nextMonth]
    split
    · next early => exact isReal_first (Nat.le_add_left 1 _) early
    · exact isReal_first (Nat.le_refl 1) (by decide)

theorem next_ofDayNumber (number : Int) :
    (ofDayNumber number).next = ofDayNumber (number + 1) := by
  have real := isReal_ofDayNumber number
  refine eq_of_dayNumber_eq (isReal_next _) (isReal_ofDayNumber _) ?_
  rw [dayNumber_next real, dayNumber_ofDayNumber, dayNumber_ofDayNumber]

theorem isDayCount_dayNumber : IsDayCount dayNumber where
  epoch := by decide
  next _ real := dayNumber_next real

theorem IsDayCount.ofDayNumber {days : Date → Int} (count : IsDayCount days) (number : Int) :
    days (ofDayNumber number) = number := by
  have next (number : Int) :
      days (Date.ofDayNumber (number + 1)) = days (Date.ofDayNumber number) + 1 := by
    rw [← next_ofDayNumber, count.next _ (isReal_ofDayNumber number)]
  -- The days are walked through from 1970-01-01 on, forwards and backwards.
  induction number using Int.induction_on with
  | zero => exact count.epoch
  | succ number ih => rw [next, ih]
  | pred number ih =>
      have later := next (-number - 1)
      rw [Int.sub_add_cancel, ih] at later
      omega

/-- There is one count of days only. -/
theorem IsDayCount.eq_dayNumber {days : Date → Int} (count : IsDayCount days) {date : Date}
    (real : date.IsReal) : days date = date.dayNumber := by
  rw [← count.ofDayNumber date.dayNumber, ofDayNumber_dayNumber real]

end FilterQuery.Date
