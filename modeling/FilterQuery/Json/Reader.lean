import FilterQuery.Json.Value
import FilterQuery.Number.Decimal
import FilterQuery.Text.Hexadecimal

/-!
# Reading JSON

A JSON text is one value between white space. Beyond the standard, the names of infinities and of
the undefined number are read. Of the members of an object with one name the last value counts, at
the first one's place. The readers of parts return what they read and the rest of the text.
-/

set_option autoImplicit false

namespace FilterQuery.Json

open Text Number

inductive ReadFault where
  | malformed
  | tooManyDigits (digits : Nat)
  deriving DecidableEq, Repr

abbrev Reading := Except ReadFault

/-- The text from the first character on that is no JSON white space. -/
def skipSpace (text : List Char) : List Char :=
  text.dropWhile fun c => c == ' ' || c == '\t' || c == '\n' || c == '\r'

def readUnit : List Char → Reading (Nat × List Char)
  | a :: b :: c :: d :: rest =>
      match hexNumber? [a, b, c, d] with
      | some code => .ok (code, rest)
      | none => .error .malformed
  | _ => .error .malformed

/-- The rest of a `\u` escape: one unit, or two that form a surrogate pair. A unit that is half of
no pair is read as the replacement character. -/
def readUnits (text : List Char) : Reading (Char × List Char) := do
  let (high, rest) ← readUnit text
  let alone := if 0xD800 ≤ high && high < 0xE000 then Char.ofNat 0xFFFD else Char.ofNat high
  match rest with
  | '\\' :: 'u' :: more =>
      if 0xD800 ≤ high && high < 0xDC00 then
        let (low, after) ← readUnit more
        if 0xDC00 ≤ low && low < 0xE000 then
          return (Char.ofNat (0x10000 + (high - 0xD800) * 0x400 + (low - 0xDC00)), after)
        else
          return (alone, rest)
      else
        return (alone, rest)
  | _ => return (alone, rest)

def simpleEscape? : Char → Option Char
  | '"' => some '"'
  | '\\' => some '\\'
  | '/' => some '/'
  | 'b' => some (Char.ofNat 8)
  | 'f' => some (Char.ofNat 12)
  | 'n' => some '\n'
  | 'r' => some '\r'
  | 't' => some '\t'
  | _ => none

def readString : (fuel : Nat) → List Char → Reading (List Char × List Char)
  | 0, _ => .error .malformed
  | _, [] => .error .malformed
  | fuel + 1, c :: rest =>
      if c == '"' then .ok ([], rest)
      else if c == '\\' then
        match rest with
        | 'u' :: units => do
            let (decoded, after) ← readUnits units
            let (text, after) ← readString fuel after
            return (decoded :: text, after)
        | escape :: after =>
            match simpleEscape? escape with
            | some decoded => do
                let (text, after) ← readString fuel after
                return (decoded :: text, after)
            | none => .error .malformed
        | [] => .error .malformed
      else if c.toNat < 0x20 then .error .malformed
      else do
        let (text, after) ← readString fuel rest
        return (c :: text, after)

def digitsOf (text : List Char) : List Char :=
  text.takeWhile isAsciiDigit

/-- The integer part at the start of a text: a lone zero, or digits that begin with another one. -/
def wholeOf : List Char → List Char
  | '0' :: _ => ['0']
  | text => digitsOf text

/-- The part of a number after its integer part: a fraction, if a digit follows the point. -/
def fractionOf : List Char → List Char
  | '.' :: rest => if (digitsOf rest).isEmpty then [] else '.' :: digitsOf rest
  | _ => []

/-- The exponent at the start of a text, if digits follow its letter and sign. -/
def exponentOf : List Char → List Char
  | e :: rest =>
      if e == 'e' || e == 'E' then
        let sign := rest.takeWhile fun c => c == '+' || c == '-'
        let digits := digitsOf (rest.drop sign.length)
        if sign.length ≤ 1 && !digits.isEmpty then e :: sign ++ digits else []
      else []
  | [] => []

/-- A number without its sign. It ends where no longer number begins. -/
def readUnsigned (negative : Bool) (text : List Char) : Reading (Json × List Char) :=
  let whole := wholeOf text
  let rest := text.drop whole.length
  let fraction := fractionOf rest
  let exponent := exponentOf (rest.drop fraction.length)
  let after := rest.drop (fraction.length + exponent.length)
  if whole.isEmpty then .error .malformed
  else if fraction.isEmpty && exponent.isEmpty then
    if digitLimit < whole.length then .error (.tooManyDigits whole.length)
    else .ok (.int (withSign negative (asciiNumber whole)), after)
  else
    match Decimal.readUnsigned negative (whole ++ fraction ++ exponent) with
    | some decimal => .ok (.float decimal.toBinary64, after)
    | none => .error .malformed

def literals : List (String × Json) :=
  [("null", .null), ("true", .bool true), ("false", .bool false), ("NaN", .float .nan),
    ("Infinity", .float (.infinite false)), ("-Infinity", .float (.infinite true))]

def readScalar (text : List Char) : Reading (Json × List Char) :=
  match literals.find? fun literal => literal.1.toList.isPrefixOf text with
  | some (name, value) => .ok (value, text.drop name.length)
  | none =>
      match text with
      | '-' :: unsigned => readUnsigned true unsigned
      | unsigned => readUnsigned false unsigned

mutual

def readValue : (fuel : Nat) → List Char → Reading (Json × List Char)
  | 0, _ => .error .malformed
  | fuel + 1, text =>
      match text with
      | '"' :: rest => do
          let (value, rest) ← readString rest.length.succ rest
          return (.str (String.ofList value), rest)
      | '[' :: rest =>
          match skipSpace rest with
          | ']' :: rest => .ok (.arr [], rest)
          | rest => do
              let (items, rest) ← readItems fuel rest
              return (.arr items, rest)
      | '\x7b' :: rest =>
          match skipSpace rest with
          | '\x7d' :: rest => .ok (.obj [], rest)
          | rest => do
              let (members, rest) ← readMembers fuel rest
              return (.obj (Entries.ofPairs members), rest)
      | text => readScalar text

/-- The items of an array up to its closing bracket; at least one. -/
def readItems : (fuel : Nat) → List Char → Reading (List Json × List Char)
  | 0, _ => .error .malformed
  | fuel + 1, text => do
      let (item, rest) ← readValue fuel text
      match skipSpace rest with
      | ']' :: rest => return ([item], rest)
      | ',' :: rest => do
          let (items, rest) ← readItems fuel (skipSpace rest)
          return (item :: items, rest)
      | _ => .error .malformed

/-- The members of an object up to its closing brace; at least one. -/
def readMembers : (fuel : Nat) → List Char → Reading (List (String × Json) × List Char)
  | 0, _ => .error .malformed
  | fuel + 1, text =>
      match text with
      | '"' :: rest => do
          let (name, rest) ← readString rest.length.succ rest
          match skipSpace rest with
          | ':' :: rest => do
              let (value, rest) ← readValue fuel (skipSpace rest)
              match skipSpace rest with
              | '\x7d' :: rest => return ([(String.ofList name, value)], rest)
              | ',' :: rest => do
                  let (members, rest) ← readMembers fuel (skipSpace rest)
                  return ((String.ofList name, value) :: members, rest)
              | _ => .error .malformed
          | _ => .error .malformed
      | _ => .error .malformed

end

def read (text : String) : Reading Json := do
  let start := skipSpace text.toList
  let (value, rest) ← readValue (2 * start.length + 2) start
  if (skipSpace rest).isEmpty then return value else throw .malformed

end FilterQuery.Json
