import FilterQuery.Number.Integer
import FilterQuery.Text.Blank
import FilterQuery.Text.LowerCase
import FilterQuery.Time.Moment

/-!
# Timeframes

A timeframe is the word today, week, month, quarter or year, or a number of hours, days or weeks,
such as `12h`. It stands for a duration that ends at a reference time: a window. Case and
surrounding blanks do not count.
-/

set_option autoImplicit false

namespace FilterQuery

open Text Number

inductive TimeframeError where
  | empty
  | missing
  | unknownWord (text keyword : String)
  | malformed (value : String)
  | unknownUnit (letter : String)
  | notANumber (value : String)
  | notPositive (value : String)
  | tooLarge (value : String)
  deriving DecidableEq, Repr

def TimeframeError.message : TimeframeError → String
  | .empty => "timeframe cannot be empty"
  | .missing => "empty timeframe"
  | .unknownWord text keyword => s!"invalid timeframe '{text}': did you mean '{keyword}'?"
  | .malformed value => s!"invalid timeframe format: {value}"
  | .unknownUnit letter => s!"invalid timeframe unit: {letter} (supported: h,d,w)"
  | .notANumber value => s!"invalid timeframe number: {value}"
  | .notPositive value => s!"timeframe must be positive: {value}"
  | .tooLarge value => s!"timeframe too large: {value}"

/-- What keeps a timeframe from being read: it is not accepted, or its number has more digits than
integers are read from. -/
inductive TimeframeFault where
  | invalid (error : TimeframeError)
  | tooManyDigits (digits : Nat)
  deriving DecidableEq, Repr

def TimeframeFault.message : TimeframeFault → String
  | .invalid error => error.message
  | .tooManyDigits digits => tooLongMessage digits

namespace Timeframe

inductive Keyword where
  | today
  | week
  | month
  | quarter
  | year
  deriving DecidableEq, Repr

namespace Keyword

/-- All words, in the order in which a misspelt one is compared with them. -/
def all : List Keyword := [.today, .week, .month, .quarter, .year]

def text : Keyword → String
  | .today => "today"
  | .week => "week"
  | .month => "month"
  | .quarter => "quarter"
  | .year => "year"

/-- The duration that a word stands for, in microseconds. -/
def duration (now : Moment) : Keyword → Int
  | .today => now.sinceMidnight
  | .week => 7 * dayMicros
  | .month => 30 * dayMicros
  | .quarter => 90 * dayMicros
  | .year => 365 * dayMicros

def ofChars? (value : List Char) : Option Keyword :=
  all.find? fun keyword => keyword.text.toList == value

end Keyword

def unitMicros? : Char → Option Int
  | 'h' => some (3600 * secondMicros)
  | 'd' => some dayMicros
  | 'w' => some (7 * dayMicros)
  | _ => none

def durationLimit : Int := 1000000000 * dayMicros

/-- A timeframe as it is compared: without surrounding blanks and in lower case. -/
def normalized (text : String) : List Char :=
  lower (strip text.toList)

/-- The number that ASCII digits write, unless they are too many. -/
def readNumber (digits : List Char) : Except TimeframeFault Nat :=
  if digitLimit < digits.length then .error (.tooManyDigits digits.length)
  else .ok (asciiNumber digits)

def isNumber (text : List Char) : Bool :=
  !text.isEmpty && text.all isAsciiDigit

def reject {α : Type} (error : TimeframeError) : Except TimeframeFault α :=
  .error (.invalid error)

def validate (text : String) : Except TimeframeFault Unit :=
  let value := normalized text
  let shown := String.ofList value
  if value.isEmpty then reject .empty
  else if (Keyword.ofChars? value).isSome then .ok ()
  else
    match Keyword.all.find? fun keyword => keyword.text.toList.isPrefixOf value with
    | some keyword => reject (.unknownWord (trimmed text) keyword.text)
    | none =>
        match value.getLast?, value.dropLast with
        | some letter, digits@(_ :: _) =>
            if (unitMicros? letter).isNone then reject (.unknownUnit (String.ofList [letter]))
            else if !isNumber digits then reject (.notANumber shown)
            else do
              if (← readNumber digits) = 0 then reject (.notPositive shown)
        | _, _ => reject (.malformed shown)

/-- The duration that a timeframe stands for at a reference time, in microseconds. A number may be
zero here. -/
def duration (text : String) (now : Moment) : Except TimeframeFault Int :=
  let value := normalized text
  let shown := String.ofList value
  if value.isEmpty then reject .missing
  else
    match Keyword.ofChars? value with
    | some keyword => .ok (keyword.duration now)
    | none =>
        match value.getLast?, value.dropLast with
        | some letter, digits@(_ :: _) =>
            if !isNumber digits then reject (.notANumber shown)
            else
              match unitMicros? letter with
              | none => reject (.unknownUnit (String.ofList [letter]))
              | some micros => do
                  let number ← readNumber digits
                  if durationLimit ≤ number * micros then reject (.tooLarge shown)
                  else return number * micros
        | _, _ => reject (.malformed shown)

/-- A duration as a number of seconds. -/
def seconds (micros : Int) : Binary64 :=
  .ofQuotient micros 1000000

/-- The whole seconds of a duration, taken from its number of seconds. -/
def wholeSeconds (micros : Int) : Int :=
  (seconds micros).truncate.toOption.getD 0

end Timeframe

/-- The window of a timeframe: inclusive bounds in seconds and in milliseconds since
1970-01-01 00:00 UTC. -/
structure Window where
  secondsFrom : Int
  secondsTo : Int
  millisFrom : Int
  millisTo : Int
  deriving DecidableEq, Repr

def Timeframe.window (text : String) (now : Moment) : Except TimeframeFault Window := do
  validate text
  let micros ← duration text now
  return {
    secondsFrom := now.epochSeconds - wholeSeconds micros
    secondsTo := now.epochSeconds
    millisFrom := now.epochMillis - micros / 1000
    millisTo := now.epochMillis }

end FilterQuery
