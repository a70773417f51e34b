import FilterQuery.Text.Blank
import FilterQuery.Text.DecimalDigit

/-!
# Integer text

Integers in base ten, written and read. A written integer has no leading zeros. A read one may
have a sign, leading zeros, digits of any script and single underscores between digits, and at
most 4300 digits.
-/

set_option autoImplicit false

namespace FilterQuery.Number

open Text

def natText (n : Nat) : String :=
  String.ofList (Nat.toDigits 10 n)

def intText : Int → String
  | .ofNat n => natText n
  | .negSucc n => "-" ++ natText (n + 1)

/-- The greatest number of digits that an integer is read from or written with. -/
def digitLimit : Nat := 4300

def isWritable (n : Int) : Bool :=
  n.natAbs < Nat.pow 10 digitLimit

/-- The least natural number that does not fit into 64 bits with a sign. -/
def wordLimit : Nat := Nat.pow 2 63

inductive IntegerFault where
  | malformed
  | tooLong (digits : Nat)
  deriving DecidableEq, Repr

/-- What is said of an integer with more digits than the limit. -/
def tooLongMessage (digits : Nat) : String :=
  s!"Exceeds the limit ({natText digitLimit} digits) for integer string conversion: value has " ++
    s!"{natText digits} digits; use sys.set_int_max_str_digits() to increase the limit"

/-- The text without its underscores, each of which has to stand between two digits. -/
def withoutGrouping (afterDigit : Bool) : List Char → Option (List Char)
  | [] => some []
  | c :: rest =>
      if c == '_' then
        if afterDigit && rest.head?.any isDecimalDigit then withoutGrouping false rest else none
      else
        (withoutGrouping (isDecimalDigit c) rest).map (c :: ·)

/-- A sign and what follows it; without a sign the number is not negative. -/
def splitSign : List Char → Bool × List Char
  | '-' :: rest => (true, rest)
  | '+' :: rest => (false, rest)
  | text => (false, text)

def withSign (negative : Bool) (magnitude : Nat) : Int :=
  if negative then -(magnitude : Int) else magnitude

/-- Reads digits as a natural number, unless there are none or too many. -/
def readDigits (digits : List Char) : Except IntegerFault Nat :=
  if digits.isEmpty || !digits.all isDecimalDigit then .error .malformed
  else if digitLimit < digits.length then .error (.tooLong digits.length)
  else .ok (digitsNumber digits)

def readInteger (text : List Char) : Except IntegerFault Int :=
  let (negative, unsigned) := splitSign (stripBy isWhiteSpace text)
  match withoutGrouping false unsigned with
  | none => .error .malformed
  | some digits => (readDigits digits).map (withSign negative)

end FilterQuery.Number
