import FilterQuery.Text.DecimalDigit
import FilterQuery.Time.Moment

/-!
# RFC 3339 times

A time as date, `T`, time of day with an optional fraction, and `Z` or an offset. One line feed may
follow. The date has to exist, the hour and minute are below 24 and 60, and there are no leap
seconds. The minutes of an offset may pass 59 as long as the offset is below a day.
-/

set_option autoImplicit false

namespace FilterQuery.Rfc3339

open Text

structure Parts where
  fields : WallFields
  offset : Int
  deriving DecidableEq, Repr

/-- A number of exactly `width` ASCII digits at the start of a text, and the rest. -/
def readNumber (width : Nat) (text : List Char) : Option (Nat × List Char) :=
  let digits := text.take width
  if digits.length == width && digits.all isAsciiDigit then
    some (asciiNumber digits, text.drop width)
  else
    none

def skip (c : Char) : List Char → Option (List Char)
  | [] => none
  | head :: rest => if head == c then some rest else none

/-- The microseconds of an optional fraction, and the rest. Digits after the sixth are read but
do not count, and only these may be digits of another script. -/
def readFraction : List Char → Option (Nat × List Char)
  | '.' :: rest =>
      let digits := rest.takeWhile isDecimalDigit
      let first := digits.take 6
      if digits.isEmpty || !first.all isAsciiDigit then none
      else some (asciiNumber (first ++ List.replicate (6 - first.length) '0'),
        rest.drop digits.length)
  | text => some (0, text)

def readOffset : List Char → Option (Int × List Char)
  | 'Z' :: rest => some (0, rest)
  | sign :: rest => do
      let (hours, rest) ← readNumber 2 rest
      let rest ← skip ':' rest
      let (minutes, rest) ← readNumber 2 rest
      let total : Int := 60 * hours + minutes
      if (sign == '+' || sign == '-') && total < 1440 then
        some (if sign == '-' then -total else total, rest)
      else none
  | [] => none

/-- The parts of a written time, if the text is one. -/
def read? (text : List Char) : Option Parts := do
  let (year, rest) ← readNumber 4 text
  let rest ← skip '-' rest
  let (month, rest) ← readNumber 2 rest
  let rest ← skip '-' rest
  let (day, rest) ← readNumber 2 rest
  let rest ← skip 'T' rest
  let (hour, rest) ← readNumber 2 rest
  let rest ← skip ':' rest
  let (minute, rest) ← readNumber 2 rest
  let rest ← skip ':' rest
  let (second, rest) ← readNumber 2 rest
  let (microsecond, rest) ← readFraction rest
  let (offset, rest) ← readOffset rest
  let date : Date := ⟨year, month, day⟩
  if (rest == [] || rest == ['\n']) && 1 ≤ year && decide date.IsReal && hour < 24 &&
      minute < 60 && second < 60 then
    some ⟨⟨date, hour, minute, second, microsecond⟩, offset⟩
  else none

end FilterQuery.Rfc3339
