import FilterQuery.Number.Binary64
import FilterQuery.Number.Integer

/-!
# Decimal literals

A decimal literal is an optional sign, digits with an optional point before, between or after
them, and an optional exponent. Its digits may be of any script. It stands for an exact decimal,
from which the nearest floating-point number is taken. A floating-point text may be such a literal
with grouped digits, or the name of an infinity or of an undefined number.
-/

set_option autoImplicit false

namespace FilterQuery.Number

open Text

/-- The exact decimal `digits * 10 ^ exponent` with a sign. -/
structure Decimal where
  negative : Bool
  digits : Nat
  exponent : Int
  deriving DecidableEq, Repr

namespace Decimal

def readExponent : List Char → Option Int
  | [] => some 0
  | e :: rest =>
      let (negative, digits) := splitSign rest
      if (e == 'e' || e == 'E') && !digits.isEmpty && digits.all isDecimalDigit then
        some (withSign negative (digitsNumber digits))
      else
        none

def readUnsigned (negative : Bool) (text : List Char) : Option Decimal :=
  let whole := text.takeWhile isDecimalDigit
  let (part, rest) :=
    match text.dropWhile isDecimalDigit with
    | '.' :: rest => (rest.takeWhile isDecimalDigit, rest.dropWhile isDecimalDigit)
    | rest => ([], rest)
  if whole.isEmpty && part.isEmpty then none
  else
    (readExponent rest).map fun exponent =>
      ⟨negative, digitsNumber (whole ++ part), exponent - part.length⟩

def read? (text : List Char) : Option Decimal :=
  let (negative, unsigned) := splitSign text
  readUnsigned negative unsigned

/-- The floating-point number nearest to a decimal. A decimal from 10 to the 309 on is infinite and
one below 10 to the -324 is zero, whatever its digits are, so no greater power is computed. -/
def toBinary64 (decimal : Decimal) : Binary64 :=
  let width := ((Nat.toDigits 10 decimal.digits).length : Int)
  if decimal.digits = 0 then .finite decimal.negative .zero
  else if 309 < decimal.exponent + width then .infinite decimal.negative
  else if decimal.exponent + width < -324 then .finite decimal.negative .zero
  else
    .ofRatio decimal.negative (decimal.digits * Nat.pow 10 decimal.exponent.toNat)
      (Nat.pow 10 (-decimal.exponent).toNat)

end Decimal

/-- The number that one of the names of an infinity or of an undefined number stands for. -/
def named? (negative : Bool) (name : List Char) : Option Binary64 :=
  let name := String.ofList (name.map Char.toLower)
  if name = "inf" || name = "infinity" then some (.infinite negative)
  else if name = "nan" then some .nan
  else none

def readBinary64? (text : List Char) : Option Binary64 :=
  let text := stripBy isWhiteSpace text
  let (negative, unsigned) := splitSign text
  match named? negative unsigned with
  | some number => some number
  | none =>
      (withoutGrouping false text).bind fun literal =>
        (Decimal.read? literal).map Decimal.toBinary64

end FilterQuery.Number
