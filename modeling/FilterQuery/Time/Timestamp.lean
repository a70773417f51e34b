import FilterQuery.Number.Integer
import FilterQuery.Time.Rfc3339

/-!
# Timestamps

A timestamp is a day, or a time on a day with or without the offset of its zone from UTC. In a
written one with a time the month, the day and the hour may have one digit, blanks may stand in
place of the `T`, and the offset may lack its minutes or be missing.
-/

set_option autoImplicit false

namespace FilterQuery

open Text Number

structure TimeOfDay where
  hour : Nat
  minute : Nat
  second : Nat
  microsecond : Nat
  /-- Minutes by which the clock is ahead of UTC, if that is known. -/
  offset : Option Int
  deriving DecidableEq, Repr

/-- A day, and a time on it if one is given. -/
structure Timestamp where
  date : Date
  time : Option TimeOfDay
  deriving DecidableEq, Repr

inductive TimestampError where
  | year (number : Int)
  | month
  | day
  | hour
  | minute
  | second
  | offset (minutes : Int)
  deriving DecidableEq, Repr

namespace Timestamp

def padded (width number : Nat) : String :=
  let digits := natText number
  String.ofList (List.replicate (width - digits.length) '0') ++ digits

def dateText (date : Date) : String :=
  "-".intercalate [padded 4 date.year.toNat, padded 2 date.month, padded 2 date.day]

def offsetText (minutes : Int) : String :=
  let sign := if minutes < 0 then "-" else "+"
  sign ++ padded 2 (minutes.natAbs / 60) ++ ":" ++ padded 2 (minutes.natAbs % 60)

/-- A time of day as text. Its microseconds are left out when they are zero. -/
def timeText (time : TimeOfDay) : String :=
  ":".intercalate [padded 2 time.hour, padded 2 time.minute, padded 2 time.second] ++
    (if time.microsecond = 0 then "" else "." ++ padded 6 time.microsecond) ++
    (time.offset.map offsetText).getD ""

def text (stamp : Timestamp) : String :=
  match stamp.time with
  | none => dateText stamp.date
  | some time => dateText stamp.date ++ " " ++ timeText time

/-- A duration in minutes as messages show it: in days, which may be negative, and seconds. -/
def shownDuration (minutes : Int) : String :=
  let days := minutes / 1440
  let seconds := 60 * (minutes % 1440)
  let parts := (if days = 0 then [] else ["days=" ++ intText days]) ++
    (if seconds = 0 then [] else ["seconds=" ++ intText seconds])
  "datetime.timedelta(" ++ (if parts.isEmpty then "0" else ", ".intercalate parts) ++ ")"

def shownOffset (minutes : Int) : String :=
  if minutes = 0 then "datetime.timezone.utc"
  else "datetime.timezone(" ++ shownDuration minutes ++ ")"

/-- The parts of a time of day that messages show. Microseconds that are zero are left out, and so
are seconds that are zero when nothing follows them. -/
def shownParts (time : TimeOfDay) : List Nat :=
  if time.microsecond ≠ 0 then [time.hour, time.minute, time.second, time.microsecond]
  else if time.second ≠ 0 then [time.hour, time.minute, time.second]
  else [time.hour, time.minute]

def shown (stamp : Timestamp) : String :=
  let date := [intText stamp.date.year, natText stamp.date.month, natText stamp.date.day]
  match stamp.time with
  | none => "datetime.date(" ++ ", ".intercalate date ++ ")"
  | some time =>
      let parts := date ++ (shownParts time).map natText ++
        (time.offset.map fun minutes => "tzinfo=" ++ shownOffset minutes).toList
      "datetime.datetime(" ++ ", ".intercalate parts ++ ")"

/-- A number of digits between two lengths at the start of a text, and the rest. -/
def readDigits (least most : Nat) (text : List Char) : Option (Nat × List Char) :=
  let digits := text.takeWhile isAsciiDigit
  if least ≤ digits.length && digits.length ≤ most then
    some (asciiNumber digits, text.drop digits.length)
  else
    none

def isGap (c : Char) : Bool :=
  c == ' ' || c == '\t'

def skipSeparator : List Char → Option (List Char)
  | [] => none
  | c :: rest =>
      if c == 'T' || c == 't' then some rest
      else if isGap c then some (rest.dropWhile isGap)
      else none

/-- The microseconds of an optional fraction, which may lack digits, and the rest. Digits after the
sixth do not count. -/
def readFraction : List Char → Nat × List Char
  | '.' :: rest =>
      let digits := rest.takeWhile isAsciiDigit
      let first := digits.take 6
      (asciiNumber (first ++ List.replicate (6 - first.length) '0'), rest.drop digits.length)
  | text => (0, text)

/-- The signed minutes of an offset up to the end of a text, if it has one. -/
def readOffset (text : List Char) : Option (Option Int) :=
  match text, text.dropWhile isGap with
  | [], _ => some none
  | _, ['Z'] => some (some 0)
  | _, sign :: rest => do
      if sign != '+' && sign != '-' then none
      let (hours, rest) ← readDigits 1 2 rest
      let minutes ←
        match rest with
        | [] => pure 0
        | ':' :: rest => do
            let (minutes, rest) ← readDigits 2 2 rest
            if rest.isEmpty then pure minutes else none
        | _ => none
      return some (withSign (sign == '-') (60 * hours + minutes))
  | _, [] => none

def readTime (text : List Char) : Option TimeOfDay := do
  let (hour, rest) ← readDigits 1 2 text
  let (minute, rest) ← readDigits 2 2 (← Rfc3339.skip ':' rest)
  let (second, rest) ← readDigits 2 2 (← Rfc3339.skip ':' rest)
  let (microsecond, rest) := readFraction rest
  return ⟨hour, minute, second, microsecond, ← readOffset rest⟩

/-- Reads a whole text as a timestamp, which need not name a time. -/
def read? (text : List Char) : Option Timestamp := do
  let (year, rest) ← readDigits 4 4 text
  let (month, rest) ← readDigits 1 2 (← Rfc3339.skip '-' rest)
  let (day, rest) ← readDigits 1 2 (← Rfc3339.skip '-' rest)
  let date : Date := ⟨year, month, day⟩
  if rest.isEmpty then
    if text.length = 10 then return ⟨date, none⟩ else none
  else return ⟨date, some (← readTime (← skipSeparator rest))⟩

/-- Checks that an offset is shorter than a day. -/
def checkOffset (offset : Option Int) : Except TimestampError Unit :=
  match offset with
  | some minutes => if minutes.natAbs < 1440 then .ok () else .error (.offset minutes)
  | none => .ok ()

/-- Checks that a day is one of the years 1 to 9999. -/
def checkDate (date : Date) : Except TimestampError Unit :=
  if date.year < 1 || 9999 < date.year then .error (.year date.year)
  else if date.month < 1 || 12 < date.month then .error .month
  else if date.IsReal then .ok ()
  else .error .day

def checkClock (time : TimeOfDay) : Except TimestampError Unit :=
  if 24 ≤ time.hour then .error .hour
  else if 60 ≤ time.minute then .error .minute
  else if 60 ≤ time.second then .error .second
  else .ok ()

/-- Checks that a timestamp names a time: its offset first, then its parts in order. -/
def check (stamp : Timestamp) : Except TimestampError Unit := do
  checkOffset (stamp.time.bind (·.offset))
  checkDate stamp.date
  match stamp.time with
  | some time => checkClock time
  | none => return ()

end Timestamp

def TimestampError.message : TimestampError → String
  | .year number => yearMessage number
  | .month => "month must be in 1..12"
  | .day => "day is out of range for month"
  | .hour => "hour must be in 0..23"
  | .minute => "minute must be in 0..59"
  | .second => "second must be in 0..59"
  | .offset minutes =>
      "offset must be a timedelta strictly between -timedelta(hours=24) and " ++
        "timedelta(hours=24), not " ++ Timestamp.shownDuration minutes ++ "."

end FilterQuery
