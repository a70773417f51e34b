import FilterQuery.Proofs.Number.Shortest
import FilterQuery.Proofs.Time.Moment
import FilterQuery.Proofs.Time.Rfc3339
import Mathlib.Algebra.Order.Floor.Ring
import Mathlib.Data.Rat.Floor

/-!
# Written times as instants

A written time is the digits of its fields, and the instant that it stands for is counted in days
and seconds. Main statements: `read?_text` says what is read of a written time,
`Writing.floor_instant` that whole seconds and the first digits of the fraction are the instant
rounded down, wherever the point is put, and `Writing.ofMillis_spec` that each instant of the
calendar is written in UTC.
-/

set_option autoImplicit false

namespace FilterQuery.Rfc3339

open Text Number

structure Run where
  chars : List Char
  ascii : ∀ c ∈ chars, isAsciiDigit c = true

structure Digits (width : Nat) extends Run where
  length : chars.length = width

def Run.value (run : Run) : Nat :=
  asciiNumber run.chars

/-- The number that the first digits of a fraction write, with zeros for those that it lacks. -/
def Run.leading (count : Nat) (run : Run) : Nat :=
  asciiNumber ((run.chars ++ List.replicate count '0').take count)

/-- A distance of less than a day from UTC, ahead of it or behind. -/
structure Offset where
  behind : Bool
  hours : Digits 2
  minutes : Digits 2
  hours_le : hours.value ≤ 23
  minutes_le : minutes.value ≤ 59

def Offset.total (offset : Offset) : Nat :=
  60 * offset.hours.value + offset.minutes.value

structure Writing where
  year : Digits 4
  month : Digits 2
  day : Digits 2
  hour : Digits 2
  minute : Digits 2
  second : Digits 2
  /-- The digits behind the point. The point is left out if there are none. -/
  fraction : Run
  /-- The offset from UTC; `Z` stands for no offset. -/
  offset : Option Offset

def fractionText (fraction : Run) : List Char :=
  if fraction.chars = [] then [] else '.' :: fraction.chars

def offsetText : Option Offset → List Char
  | none => ['Z']
  | some offset =>
      (if offset.behind then '-' else '+') ::
        (offset.hours.chars ++ ':' :: offset.minutes.chars)

def offsetMinutes : Option Offset → Int
  | none => 0
  | some offset => withSign offset.behind offset.total

namespace Writing

def text (w : Writing) : List Char :=
  w.year.chars ++ '-' :: (w.month.chars ++ '-' :: (w.day.chars ++ 'T' :: (w.hour.chars ++ ':' ::
    (w.minute.chars ++ ':' :: (w.second.chars ++ (fractionText w.fraction ++
      offsetText w.offset))))))

def date (w : Writing) : Date :=
  ⟨w.year.value, w.month.value, w.day.value⟩

/-- The day exists and the clock shows the time. Four digits write no year after 9999. -/
def IsReal (w : Writing) : Prop :=
  1 ≤ w.year.value ∧ w.date.IsReal ∧
    w.hour.value ≤ 23 ∧ w.minute.value ≤ 59 ∧ w.second.value ≤ 59

instance (w : Writing) : Decidable w.IsReal :=
  inferInstanceAs (Decidable (_ ∧ _))

/-- The whole seconds from 1970-01-01 00:00 UTC to a written time, by a count of days. -/
def seconds (days : Date → Int) (w : Writing) : Int :=
  86400 * days w.date + (3600 * w.hour.value + 60 * w.minute.value + w.second.value : Nat) -
    60 * offsetMinutes w.offset

/-- The seconds from 1970-01-01 00:00 UTC to a written time with all digits of the fraction. -/
def instant (days : Date → Int) (w : Writing) : ℚ :=
  w.seconds days + (w.fraction.value : ℚ) / 10 ^ w.fraction.chars.length

/-- The instant lies in the years 1 to 9999 of UTC. -/
def InYears (days : Date → Int) (w : Writing) : Prop :=
  ((86400 * days ⟨1, 1, 1⟩ : Int) : ℚ) ≤ w.instant days ∧
    w.instant days < ((86400 * days ⟨10000, 1, 1⟩ : Int) : ℚ)

instance (days : Date → Int) (w : Writing) : Decidable (w.InYears days) :=
  inferInstanceAs (Decidable (_ ∧ _))

def parts (w : Writing) : Parts :=
  ⟨⟨w.date, w.hour.value, w.minute.value, w.second.value, w.fraction.leading 6⟩,
    offsetMinutes w.offset⟩

end Writing

def Digits.ofNat (width n : Nat) : Digits width where
  chars := lastDigits width n
  ascii _ member := isAsciiDigit_of_mem_lastDigits member
  length := length_lastDigits width n

theorem Digits.value_ofNat {width n : Nat} (fits : n < 10 ^ width) : (ofNat width n).value = n :=
  (asciiNumber_lastDigits width n).trans (Nat.mod_eq_of_lt fits)

theorem asciiNumber_take {digits : List Char} (areDigits : ∀ d ∈ digits, isAsciiDigit d = true)
    (count : Nat) :
    asciiNumber (digits.take count) = asciiNumber digits / 10 ^ (digits.length - count) := by
  have split := asciiNumber_append (digits.take count) (digits.drop count)
  have others : ∀ d ∈ digits.drop count, isAsciiDigit d = true :=
    fun d member => areDigits d (List.mem_of_mem_drop member)
  have small := asciiNumber_lt others
  rw [List.take_append_drop, List.length_drop] at split
  rw [List.length_drop] at small
  rw [split, Nat.mul_comm, Nat.mul_add_div (Nat.pow_pos (by decide)), Nat.div_eq_of_lt small,
    Nat.add_zero]

theorem Run.leading_eq (count : Nat) (fraction : Run) :
    fraction.leading count = fraction.value * 10 ^ count / 10 ^ fraction.chars.length := by
  have areDigits (d : Char) (member : d ∈ fraction.chars ++ List.replicate count '0') :
      isAsciiDigit d = true := by
    rcases List.mem_append.mp member with member | member
    · exact fraction.ascii d member
    · exact isAsciiDigit_of_mem_replicate member
  rw [leading, asciiNumber_take areDigits, asciiNumber_append_zeros, List.length_append,
    List.length_replicate, Nat.add_sub_cancel, value]

theorem Run.leading_div (fewer count : Nat) (fraction : Run) :
    fraction.leading (fewer + count) / 10 ^ count = fraction.leading fewer := by
  rw [leading_eq, leading_eq, Nat.div_div_eq_div_mul, Nat.pow_add, ← Nat.mul_assoc,
    Nat.mul_div_mul_right _ _ (Nat.pow_pos (by decide))]

theorem Run.leading_lt (count : Nat) (fraction : Run) : fraction.leading count < 10 ^ count := by
  have small := asciiNumber_lt fraction.ascii
  rw [leading_eq, Nat.div_lt_iff_lt_mul (Nat.pow_pos (by decide)), Nat.mul_comm]
  exact Nat.mul_lt_mul_of_pos_left small (Nat.pow_pos (by decide))

section Reading

variable {width : Nat}

theorem readNumber_digits (digits : Digits width) (rest : List Char) :
    readNumber width (digits.chars ++ rest) = some (digits.value, rest) :=
  readNumber_eq_some_iff.mpr ⟨digits.chars, rfl, digits.length, digits.ascii, rfl⟩

theorem bind_readNumber {α : Type} (digits : Digits width) (rest : List Char)
    (next : Nat × List Char → Option α) :
    (readNumber width (digits.chars ++ rest) >>= next) = next (digits.value, rest) := by
  rw [readNumber_digits]
  rfl

theorem bind_skip {α : Type} (c : Char) (rest : List Char) (next : List Char → Option α) :
    (skip c (c :: rest) >>= next) = next rest := by
  rw [skip_eq_some_iff.mpr rfl]
  rfl

theorem readFraction_fractionText {rest : List Char} (fraction : Run)
    (stops : Stops isDecimalDigit rest) (pointless : rest.head? ≠ some '.') :
    readFraction (fractionText fraction ++ rest) = some (fraction.leading 6, rest) := by
  have first : (fraction.chars ++ List.replicate 6 '0').take 6 =
      fraction.chars.take 6 ++ List.replicate (6 - (fraction.chars.take 6).length) '0' := by
    rw [List.take_append, List.take_replicate, List.length_take]
    congr 2
    omega
  -- Without digits there is no point either, so the next character decides.
  by_cases empty : fraction.chars = []
  · have zero : fraction.leading 6 = 0 := by
      rw [Run.leading, empty]
      rfl
    rw [fractionText, if_pos empty, List.nil_append, readFraction, zero]
    rintro tail rfl
    exact pointless rfl
  · have areDigits : ∀ d ∈ fraction.chars, isDecimalDigit d = true :=
      fun d member => isDecimalDigit_of_isAsciiDigit (fraction.ascii d member)
    have ascii : (fraction.chars.take 6).all isAsciiDigit = true :=
      List.all_eq_true.mpr fun d member => fraction.ascii d (List.mem_of_mem_take member)
    rw [fractionText, if_neg empty, List.cons_append, readFraction,
      takeWhile_append_stops areDigits stops]
    simp only [empty, ascii, Run.leading, first, List.isEmpty_iff, Bool.not_true, Bool.or_false,
      ↓reduceIte, List.drop_left]

theorem readOffset_offsetText (offset : Option Offset) :
    readOffset (offsetText offset) = some (offsetMinutes offset, []) := by
  cases offset with
  | none => rfl
  | some offset =>
      obtain ⟨behind, hours, minutes, hours_le, minutes_le⟩ := offset
      have day : ((60 * hours.value + minutes.value : Nat) : Int) < 1440 := by omega
      have read := readNumber_digits minutes []
      rw [List.append_nil] at read
      rw [offsetText, readOffset]
      · simp only [↓bind_readNumber, ↓bind_skip, read, Option.bind_eq_bind, Option.bind_some]
        push_cast at day
        cases behind <;> simp [day, offsetMinutes, Offset.total, withSign]
      · cases behind <;> simp

/-- An offset begins with none of the characters that a fraction is made of. -/
theorem offsetText_stops (offset : Option Offset) :
    Stops isDecimalDigit (offsetText offset) ∧ (offsetText offset).head? ≠ some '.' := by
  cases offset with
  | none => exact ⟨stops_cons.mpr (by decide), by simp [offsetText]⟩
  | some offset =>
      rw [offsetText]
      cases offset.behind with
      | false => exact ⟨stops_cons.mpr (by decide), by simp⟩
      | true => exact ⟨stops_cons.mpr (by decide), by simp⟩

theorem read?_text (w : Writing) : read? w.text = if w.IsReal then some w.parts else none := by
  obtain ⟨stops, pointless⟩ := offsetText_stops w.offset
  -- Each bind is opened before the readers behind it are looked at: from the inside out, `simp`
  -- would go through all of them once more at every bind.
  simp only [read?, Writing.text, ↓bind_readNumber, ↓bind_skip]
  rw [readFraction_fractionText _ stops pointless, Option.bind_eq_bind, Option.bind_some,
    readOffset_offsetText, Option.bind_eq_bind, Option.bind_some]
  exact if_congr (by simp [Writing.IsReal, Writing.date, and_assoc, Nat.lt_succ_iff]) rfl rfl

end Reading

namespace Writing

variable {days : Date → Int} {w : Writing}

theorem parts_micros (w : Writing) :
    w.parts.fields.wall - offsetMicros w.parts.offset =
      1000000 * w.seconds Date.dayNumber + w.fraction.leading 6 := by
  simp only [parts, WallFields.wall, offsetMicros, seconds, dayMicros, secondMicros]
  omega

/-- Scaled by a power of ten and rounded down, an instant is whole seconds and as many digits of
the fraction. -/
theorem floor_instant (days : Date → Int) (w : Writing) (count : Nat) :
    ⌊w.instant days * 10 ^ count⌋ = w.seconds days * 10 ^ count + w.fraction.leading count := by
  have scaled : w.instant days * 10 ^ count = ((w.seconds days * 10 ^ count : Int) : ℚ) +
      ((w.fraction.value * 10 ^ count : Nat) : ℚ) / (10 ^ w.fraction.chars.length : Nat) := by
    rw [instant, add_mul, div_mul_eq_mul_div]
    push_cast
    rfl
  rw [scaled, Int.floor_intCast_add, Rat.floor_natCast_div_natCast, Run.leading_eq]
  rfl

theorem floor_instant_zero (days : Date → Int) (w : Writing) :
    ⌊w.instant days⌋ = w.seconds days := by
  have none := Run.leading_lt 0 w.fraction
  have whole := floor_instant days w 0
  rw [pow_zero, mul_one] at whole
  rw [whole]
  omega

/-- Two times of one instant have the same seconds in UTC, and their fractions begin alike. -/
theorem eq_of_instant_eq {other : Writing} (same : w.instant days = other.instant days) :
    w.seconds days = other.seconds days ∧
      ∀ count, w.fraction.leading count = other.fraction.leading count := by
  have seconds : w.seconds days = other.seconds days := by
    rw [← floor_instant_zero, same, floor_instant_zero]
  refine ⟨seconds, fun count => ?_⟩
  have scaled := floor_instant days w count
  rw [same, floor_instant, seconds] at scaled
  omega

/-- The fraction does not decide in which year an instant lies. -/
theorem inYears_iff : w.InYears days ↔ 86400 * days ⟨1, 1, 1⟩ ≤ w.seconds days ∧
    w.seconds days < 86400 * days ⟨10000, 1, 1⟩ := by
  rw [InYears, ← Int.le_floor, ← Int.floor_lt, floor_instant_zero]

theorem seconds_eq (count : Date.IsDayCount days) (real : w.date.IsReal) :
    w.seconds days = w.seconds Date.dayNumber := by
  rw [seconds, count.eq_dayNumber real, seconds]

theorem inYears_iff_dayNumber (count : Date.IsDayCount days) (real : w.date.IsReal) :
    w.InYears days ↔ w.InYears Date.dayNumber := by
  rw [inYears_iff, inYears_iff, seconds_eq count real, count.eq_dayNumber (by decide),
    count.eq_dayNumber (by decide)]

theorem inYears_iff_inCalendar (w : Writing) {micros : Nat} (less : micros < 1000000) :
    w.InYears Date.dayNumber ↔ InCalendar (1000000 * w.seconds Date.dayNumber + micros) := by
  have start : calendarStart = 1000000 * (86400 * (Date.mk 1 1 1).dayNumber) := by decide
  have finish : calendarEnd = 1000000 * (86400 * (Date.mk 10000 1 1).dayNumber) := by decide
  rw [inYears_iff, InCalendar, start, finish]
  omega

/-- What the clock of UTC shows, with three digits of the second's fraction. -/
def ofFields (fields : WallFields) : Writing where
  year := .ofNat 4 fields.date.year.toNat
  month := .ofNat 2 fields.date.month
  day := .ofNat 2 fields.date.day
  hour := .ofNat 2 fields.hour
  minute := .ofNat 2 fields.minute
  second := .ofNat 2 fields.second
  fraction := (Digits.ofNat 3 (fields.microsecond / 1000)).toRun
  offset := none

/-- An instant that is given in milliseconds, written in UTC. -/
def ofMillis (millis : Int) : Writing :=
  ofFields (WallFields.ofWall (1000 * millis))

section OfFields

variable {fields : WallFields}

theorem date_ofFields (shown : fields.IsShown) : (ofFields fields).date = fields.date := by
  obtain ⟨real, year_ge, year_le, -, -, -, -⟩ := shown
  have day_le := real.day_le
  have month_le := real.2.1
  have year : (ofFields fields).year.value = fields.date.year.toNat :=
    Digits.value_ofNat (by omega)
  have month : (ofFields fields).month.value = fields.date.month :=
    Digits.value_ofNat (by omega)
  have day : (ofFields fields).day.value = fields.date.day := Digits.value_ofNat (by omega)
  rw [date, year, month, day, Int.toNat_of_nonneg (by omega)]

theorem leading_ofFields (shown : fields.IsShown) :
    (ofFields fields).fraction.leading 3 = fields.microsecond / 1000 := by
  have less := shown.microsecond_lt
  have length : (ofFields fields).fraction.chars.length = 3 :=
    (Digits.ofNat 3 (fields.microsecond / 1000)).length
  have value : (ofFields fields).fraction.value = fields.microsecond / 1000 :=
    Digits.value_ofNat (by omega)
  rw [Run.leading_eq, length, value, Nat.mul_div_cancel _ (by decide)]

/-- The written time exists and stands for what the clock shows. -/
theorem ofFields_spec (shown : fields.IsShown) :
    (ofFields fields).IsReal ∧ 1000 * (ofFields fields).seconds Date.dayNumber +
      (ofFields fields).fraction.leading 3 = fields.wall / 1000 := by
  have date := date_ofFields shown
  have leading := leading_ofFields shown
  obtain ⟨real, year_ge, -, hour_le, minute_le, second_le, -⟩ := shown
  have hour : (ofFields fields).hour.value = fields.hour := Digits.value_ofNat (by omega)
  have minute : (ofFields fields).minute.value = fields.minute := Digits.value_ofNat (by omega)
  have second : (ofFields fields).second.value = fields.second := Digits.value_ofNat (by omega)
  constructor
  · rw [← date] at real year_ge
    rw [IsReal, hour, minute, second]
    exact ⟨Int.ofNat_le.mp year_ge, real, hour_le, minute_le, second_le⟩
  · have offset : offsetMinutes (ofFields fields).offset = 0 := rfl
    simp only [seconds, date, hour, minute, second, leading, offset, WallFields.wall, dayMicros,
      secondMicros]
    omega

end OfFields

theorem ofMillis_spec {millis : Int} (inside : InCalendar (1000 * millis)) :
    (ofMillis millis).IsReal ∧ (ofMillis millis).InYears Date.dayNumber ∧
      1000 * (ofMillis millis).seconds Date.dayNumber + (ofMillis millis).fraction.leading 3 =
        millis := by
  obtain ⟨real, same⟩ := ofFields_spec (WallFields.isShown_ofWall inside)
  rw [WallFields.wall_ofWall, Int.mul_ediv_cancel_left millis (by decide), ← ofMillis] at same
  have less := Run.leading_lt 3 (ofMillis millis).fraction
  -- The calendar is asked about microseconds, and here the last three of their digits are zeros.
  have fits : 1000 * (ofMillis millis).fraction.leading 3 < 1000000 := by omega
  have whole : 1000000 * (ofMillis millis).seconds Date.dayNumber +
      (1000 * (ofMillis millis).fraction.leading 3 : Nat) = 1000 * millis := by
    omega
  refine ⟨real, (inYears_iff_inCalendar _ fits).mpr ?_, same⟩
  rwa [whole]

end Writing

end FilterQuery.Rfc3339
