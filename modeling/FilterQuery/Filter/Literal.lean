import FilterQuery.Filter.FieldName
import FilterQuery.Number.Decimal
import FilterQuery.Text.LowerCase
import FilterQuery.Time.Rfc3339

/-!
# Literals

The readings of a value by the type of its field: numbers, dates, truth values and the words for a
missing value. A line feed may follow a number or a date.
-/

set_option autoImplicit false

namespace FilterQuery.Filter

open Number Text

/-- A number in a query. One without a fraction is an integer. -/
inductive Numeral where
  | whole (value : Int)
  | real (value : Binary64)
  deriving DecidableEq

/-- Reads a decimal literal as the nearest floating-point number. There is none for a literal that
is too large. -/
def readNumeral (text : List Char) : Option Numeral := do
  let decimal ← Decimal.read? (withoutFinalLineFeed text)
  let number := decimal.toBinary64
  match number.truncate with
  | .error _ => none
  | .ok value => some (if number.isWhole then .whole value else .real number)

inductive DateReading where
  /-- Milliseconds since 1970-01-01 00:00 UTC. -/
  | millis (value : Int)
  | notADate
  /-- A written time that is not in the years 1 to 9999 when it is moved to UTC. -/
  | outsideCalendar
  deriving DecidableEq, Repr

/-- Numbers beyond this one are milliseconds, all others seconds. -/
def millisThreshold : Int := 1000000000000

/-- The integer part of a number, zero when it is not finite. -/
def wholePart (number : Binary64) : Int :=
  number.truncate.toOption.getD 0

/-- The milliseconds that a number stands for as a Unix time. -/
def Numeral.millis : Numeral → Int
  | .whole value => if millisThreshold < value.natAbs then value else value * 1000
  | .real value =>
      if .ofInt millisThreshold < value ∨ value < .ofInt (-millisThreshold) then wholePart value
      else wholePart (value * 1000)

/-- Reads a Unix time or an RFC 3339 time. -/
def readDate (text : List Char) : DateReading :=
  match readNumeral text with
  | some number => .millis number.millis
  | none =>
      match Rfc3339.read? text with
      | none => .notADate
      | some parts =>
          let micros := parts.fields.wall - offsetMicros parts.offset
          if InCalendar micros then .millis (micros / 1000) else .outsideCalendar

def readBool (text : List Char) : Option Bool :=
  let word := lower text
  if word == "true".toList then some true
  else if word == "false".toList then some false
  else none

/-- Whether a value is a word for a missing value, in any case. -/
def isNull (text : List Char) : Bool :=
  lower text == "null".toList || lower text == "nil".toList

end FilterQuery.Filter
