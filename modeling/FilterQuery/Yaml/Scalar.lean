import FilterQuery.Number.Decimal
import FilterQuery.Text.Hexadecimal
import FilterQuery.Yaml.Basic
import FilterQuery.Yaml.Fault

/-!
# Plain scalars

The values of scalars without quotes, by version 1.1 of YAML: words for null and truth values,
integers in four bases, decimal numbers with a point, numbers of minutes and seconds with colons
between their digits, timestamps, and text for everything else. Underscores may stand between
digits.
-/

set_option autoImplicit false

namespace FilterQuery.Yaml

open Text Number

def truthWords : List (String × Bool) :=
  [("yes", true), ("Yes", true), ("YES", true), ("no", false), ("No", false), ("NO", false),
    ("true", true), ("True", true), ("TRUE", true), ("false", false), ("False", false),
    ("FALSE", false), ("on", true), ("On", true), ("ON", true), ("off", false), ("Off", false),
    ("OFF", false)]

def nullWords : List String := ["", "~", "null", "Null", "NULL"]

/-- The word for the key whose value is merged into a mapping. -/
def mergeWord : String := "<<"

def defaultWord : String := "="

def keyWords : List String := [mergeWord, defaultWord]

/-- The number that digits write in a base of at most sixteen, without underscores. -/
def inBase (base : Nat) (digits : List Char) : Nat :=
  digits.foldl (fun number digit => base * number + (hexValue? digit).getD 0) 0

/-- Whether a character is a digit of some kind or an underscore. -/
def orUnderscore (kind : Char → Bool) (c : Char) : Bool :=
  c == '_' || kind c

def withoutUnderscores (text : List Char) : List Char :=
  text.filter (· != '_')

/-- Whether a text is a digit, other than zero unless `zero` is allowed, that digits and underscores
may follow. -/
def isGrouped (zero : Bool) : List Char → Bool
  | [] => false
  | first :: rest => isAsciiDigit first && (zero || first != '0') &&
      rest.all (orUnderscore isAsciiDigit)

/-- Whether a text is a number of minutes or seconds: below sixty, in one digit or two. -/
def isSixtieth : List Char → Bool
  | [digit] => isAsciiDigit digit
  | [tens, digit] => '0' ≤ tens && tens ≤ '5' && isAsciiDigit digit
  | _ => false

def splitAt (separator : Char) : List Char → List (List Char)
  | [] => [[]]
  | c :: rest =>
      match splitAt separator rest with
      | part :: parts => if c == separator then [] :: part :: parts else (c :: part) :: parts
      | [] => [[c]]

/-- The integer of digits in a base, or the fault that there are none. -/
def integerInBase (base : Nat) (digits : List Char) : Except ScalarError Nat :=
  match withoutUnderscores digits with
  | [] => .error (.noDigits base)
  | digits => .ok (inBase base digits)

/-- The decimal integer of grouped digits, unless they are too many. -/
def decimalInteger (digits : List Char) : Except ScalarError Nat :=
  let digits := withoutUnderscores digits
  if digitLimit < digits.length then .error (.tooManyDigits digits.length)
  else .ok (asciiNumber digits)

/-- The integer that a text without a sign is written as, if it is written as one. -/
def unsignedInteger? (text : List Char) : Option (Except ScalarError Nat) :=
  match text with
  | ['0'] => some (.ok 0)
  | '0' :: 'b' :: digits@(_ :: _) =>
      if digits.all (orUnderscore fun c => c == '0' || c == '1') then
        some (integerInBase 2 digits)
      else none
  | '0' :: 'x' :: digits@(_ :: _) =>
      if digits.all (orUnderscore fun c => (hexValue? c).isSome) then
        some (integerInBase 16 digits)
      else none
  | '0' :: digits@(_ :: _) =>
      if digits.all (orUnderscore fun c => '0' ≤ c && c ≤ '7') then some (.ok (inBase 8
        (withoutUnderscores digits)))
      else none
  | _ =>
      match splitAt ':' text with
      | [digits] => if isGrouped false digits then some (decimalInteger digits) else none
      | first :: rest =>
          if isGrouped false first && rest.all isSixtieth then
            some ((decimalInteger first).map fun first =>
              rest.foldl (fun number part => 60 * number + asciiNumber part) first)
          else none
      | [] => none

/-- Whether a text is the exponent of a decimal number, which may be missing. Its sign may not. -/
def isExponent : List Char → Bool
  | [] => true
  | e :: sign :: digits => (e == 'e' || e == 'E') && (sign == '+' || sign == '-') &&
      !digits.isEmpty && digits.all isAsciiDigit
  | _ => false

/-- Whether a text is the fraction of a decimal number with its exponent. -/
def isFraction (text : List Char) : Bool :=
  isExponent (text.dropWhile (orUnderscore isAsciiDigit))

def decimalNumber (text : List Char) : Binary64 :=
  ((Decimal.read? (withoutUnderscores text)).map Decimal.toBinary64).getD 0

/-- The number that a text without a sign is written as with a point, if it is written so. -/
def unsignedNumber? (signed : Bool) (text : List Char) : Option Binary64 :=
  let whole := text.takeWhile (· != '.')
  match text.dropWhile (· != '.') with
  | [] => none
  | _ :: part =>
      match splitAt ':' whole with
      | [[]] =>
          let word := String.ofList part
          if ["inf", "Inf", "INF"].contains word then some (.infinite false)
          else if !signed && ["nan", "NaN", "NAN"].contains word then some .nan
          else if !signed && isGrouped true (part.take 1) && isFraction part then
            some (decimalNumber text)
          else none
      | [digits] =>
          if isGrouped true digits && isFraction part then some (decimalNumber text) else none
      | first :: rest =>
          if isGrouped true first && rest.all isSixtieth &&
              part.all (orUnderscore isAsciiDigit) then
            let parts := (rest.dropLast.map decimalNumber) ++
              [decimalNumber ((rest.getLast?.getD []) ++ '.' :: part)]
            let scaled := (decimalNumber first :: parts).reverse.foldl
              (fun (total, scale) part => (total + part * Binary64.ofInt scale, scale * 60))
              ((0 : Binary64), (1 : Int))
            some scaled.1
          else none
      | [] => none

/-- The number that a text is written as with a point, if it is written so. -/
def number? (text : String) : Option Binary64 :=
  let (negative, unsigned) := splitSign text.toList
  (unsignedNumber? (unsigned.length < text.length) unsigned).map fun number =>
    if negative then -number else number

/-- The integer that a text is written as, if it is written as one. -/
def integer? (text : String) : Option (Except ScalarError Int) :=
  let (negative, unsigned) := splitSign text.toList
  (unsignedInteger? unsigned).map fun integer => integer.map (withSign negative ·)

/-- The timestamp that a text is written as, if it is written as one. -/
def timestamp? (text : String) : Option (Except ScalarError Timestamp) :=
  (Timestamp.read? text.toList).map fun stamp => (stamp.check.mapError .time).map fun _ => stamp

/-- The value of a scalar without quotes. The words that are reserved for keys have none. -/
def ofPlain (text : String) : Reading Yaml :=
  if nullWords.contains text then .ok .null
  else if keyWords.contains text then malformed
  else
    match truthWords.find? (·.1 = text), number? text, integer? text, timestamp? text with
    | some (_, value), _, _, _ => .ok (.bool value)
    | none, some number, _, _ => .ok (.float number)
    | none, none, some integer, _ => (integer.map .int).mapError .scalar
    | none, none, none, some stamp => (stamp.map .time).mapError .scalar
    | none, none, none, none => .ok (.str text)

end FilterQuery.Yaml
