import FilterQuery.Json.Value
import FilterQuery.Number.Decimal

/-!
# Checked values

The values of request bodies are read by the kind that is expected of them. Numbers and truth
values may be written as texts; nothing else becomes a text. A check collects the places of all
values that are not of their kind.
-/

set_option autoImplicit false

namespace FilterQuery.Service

open Text Number

inductive Place where
  | member (name : String)
  | item (position : Nat)
  deriving DecidableEq, Repr

abbrev Location := List Place

/-- A checked value, or the locations of the values that are not of their kind, in order. -/
abbrev Checked := Except (List Location)

namespace Checked

variable {α β : Type}

/-- Checks two values; the locations of both count. -/
def both (first : Checked α) (second : Checked β) : Checked (α × β) :=
  match first, second with
  | .ok first, .ok second => .ok (first, second)
  | .error first, .error second => .error (first ++ second)
  | .error first, .ok _ => .error first
  | .ok _, .error second => .error second

def inside (place : Place) (check : Checked α) : Checked α :=
  check.mapError fun locations => locations.map (place :: ·)

def refused : Checked α :=
  .error [[]]

def ofOption (value : Option α) : Checked α :=
  value.elim refused .ok

end Checked

/-- The digits without underscores, each of which has to stand between two other characters. -/
def withoutSeparators (text : List Char) : Option (List Char) :=
  let rec go (afterSeparator : Bool) : List Char → Option (List Char)
    | [] => if afterSeparator then none else some []
    | c :: rest =>
        if c == '_' then if afterSeparator then none else go true rest
        else (go false rest).map (c :: ·)
  go true text

/-- The text from the first character on that counts, after zeros and underscores of which `last` is
the last one. A point needs the character before it, and so does the end. -/
def significant (last : Char) : List Char → Option (List Char)
  | [] => some [last]
  | c :: rest =>
      if c == '0' || c == '_' then significant c rest
      else if c == '.' then some (last :: c :: rest)
      else if c == '-' || isAsciiDigit c then some (c :: rest)
      else none

/-- The text without the zeros at its start and the underscores that follow them. A minus sign may
stand behind such zeros. -/
def withoutLeadingZeros : List Char → Option (List Char)
  | [] => none
  | c :: rest =>
      if c == '0' then significant c rest
      else if c == '-' || isAsciiDigit c then some (c :: rest)
      else none

/-- The text without a point and the zeros behind it, of which there has to be one. -/
def withoutZeroFraction (text : List Char) : List Char :=
  let fraction := (text.dropWhile (· != '.')).drop 1
  if !fraction.isEmpty && fraction.all (· == '0') then text.takeWhile (· != '.') else text

/-- The integer that digits write, which do not start with zero if they are several. -/
def canonicalDigits? (digits : List Char) : Option Nat :=
  if digits.isEmpty || !digits.all isAsciiDigit || digitLimit < digits.length then none
  else if digits.head? == some '0' && 1 < digits.length then none
  else some (asciiNumber digits)

def canonicalInteger? : List Char → Option Int
  | '-' :: digits => (canonicalDigits? digits).map (withSign true)
  | digits => (canonicalDigits? digits).map (withSign false)

/-- The integer that text without white space and without a plus sign writes: digits after leading
zeros, with single underscores between them, and zeros after a point. -/
def wholeOfSigned? (text : List Char) : Option Int := do
  let (sign, unsigned) := match text with
    | '-' :: rest => (['-'], rest)
    | rest => ([], rest)
  let digits ← withoutSeparators (withoutZeroFraction (← withoutLeadingZeros unsigned))
  canonicalInteger? (sign ++ digits)

def wholeOfText? (text : String) : Option Int :=
  match stripBy isWhiteSpace text.toList with
  | '+' :: '-' :: _ => none
  | '+' :: text => wholeOfSigned? text
  | text => wholeOfSigned? text

/-- The number that a text writes in ASCII: a decimal literal, or the name of an infinity or of an
undefined number. -/
def realOfPlainText? (text : List Char) : Option Binary64 :=
  let (negative, unsigned) := splitSign text
  match named? negative unsigned with
  | some number => some number
  | none =>
      if text.all (·.toNat < 128) then (Decimal.read? text).map Decimal.toBinary64 else none

/-- The number that a text writes, either between white space or with underscores between other
characters. -/
def realOfText? (text : String) : Option Binary64 :=
  match realOfPlainText? (stripBy isWhiteSpace text.toList) with
  | some number => some number
  | none => (withoutSeparators text.toList).bind realOfPlainText?

/-- The integers that fit into 64 bits with a sign, but for the least one. -/
def isWord (value : Int) : Bool :=
  value.natAbs < wordLimit

def readText : Json → Checked String
  | .str text => .ok text
  | _ => .refused

def wholeOfReal? (value : Binary64) : Option Int :=
  if value.isWhole then value.truncate.toOption else none

/-- Reads an integer. A number with a point has to be whole and to fit into a word. -/
def readWhole : Json → Checked Int
  | .int value => .ok value
  | .bool value => .ok (if value then 1 else 0)
  | .float value => .ofOption ((wholeOfReal? value).filter isWord)
  | .str text => .ofOption (wholeOfText? text)
  | _ => .refused

def readReal : Json → Checked Binary64
  | .float value => .ok value
  | .int value => .ofOption ((some (Binary64.ofInt value)).filter Binary64.isFinite)
  | .bool value => .ok (if value then 1 else 0)
  | .str text => .ofOption (realOfText? text)
  | _ => .refused

def flagWords : List (String × Bool) :=
  [("0", false), ("off", false), ("f", false), ("false", false), ("n", false), ("no", false),
    ("1", true), ("on", true), ("t", true), ("true", true), ("y", true), ("yes", true)]

def flagOfWhole? : Int → Option Bool
  | 0 => some false
  | 1 => some true
  | _ => none

/-- The truth value that a word stands for, in any case. -/
def flagOfText? (text : String) : Option Bool :=
  let word := String.ofList (text.toList.map Char.toLower)
  (flagWords.find? fun named => named.1 = word).map (·.2)

def readFlag : Json → Checked Bool
  | .bool value => .ok value
  | .int value => .ofOption (flagOfWhole? value)
  | .float value => .ofOption ((wholeOfReal? value).bind flagOfWhole?)
  | .str text => .ofOption (flagOfText? text)
  | _ => .refused

def readItems (position : Nat) : List Json → Checked (List String)
  | [] => .ok []
  | item :: rest =>
      ((readText item).inside (.item position)).both (readItems (position + 1) rest) |>.map
        fun (item, items) => item :: items

def readTexts : Json → Checked (List String)
  | .arr items => readItems 0 items
  | _ => .refused

def orNull {α : Type} (read : Json → Checked α) : Json → Checked (Option α)
  | .null => .ok none
  | value => (read value).map some

def required {α : Type} (name : String) (read : Json → Checked α) (body : Json.Members) :
    Checked α :=
  Checked.inside (.member name) ((body.get? name).elim .refused read)

def optional {α : Type} (name : String) (absent : α) (read : Json → Checked α)
    (body : Json.Members) : Checked α :=
  Checked.inside (.member name) ((body.get? name).elim (.ok absent) read)

end FilterQuery.Service
