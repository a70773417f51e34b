import FilterQuery.Number.Binary64
import FilterQuery.Number.Integer

/-!
# Decimal text of floating-point numbers

The shortest decimal that is read back as the same number, nearest to it among those, and its
layout; and the text with a fixed number of decimal places.
-/

set_option autoImplicit false

namespace FilterQuery.Number

/-- The exponent of the leading decimal digit of `steps / unit`, for a positive count of steps. -/
def leadingExponent (steps : Nat) : Int :=
  ((Nat.toDigits 10 (steps * Nat.pow 10 400 / unit)).length : Int) - 401

/-- Four times the distance from a count of steps down to the middle between it and the next
smaller number. The distance halves at a power of two. -/
def roomBelow (steps : Nat) : Nat :=
  if steps = Nat.pow 2 steps.log2 && 52 < steps.log2 then spacing steps else 2 * spacing steps

/-- Whether the ratio `num / den`, in steps, is rounded to this count of steps. The two middles
between neighbours are, when the significand is even. -/
def roundsTo (steps num den : Nat) : Bool :=
  let low := (4 * steps - roomBelow steps) * den
  let high := (4 * steps + 2 * spacing steps) * den
  if steps / spacing steps % 2 = 0 then low ≤ 4 * num && 4 * num ≤ high
  else low < 4 * num && 4 * num < high

/-- The decimals `d` with `d * 10 ^ exponent` next to `steps / unit` that are rounded to it: the
nearer one, if there is one. -/
def nearbyDecimal? (steps : Nat) (exponent : Int) : Option Nat :=
  let num := steps * Nat.pow 10 (-exponent).toNat
  let den := unit * Nat.pow 10 exponent.toNat
  let below := num / den
  let reads (d : Nat) := roundsTo steps (d * den) (Nat.pow 10 (-exponent).toNat)
  match reads below, reads (below + 1) with
  | true, true => some (roundHalfEven num den)
  | true, false => some below
  | false, true => some (below + 1)
  | false, false => none

/-- A decimal without trailing zeros: `digits * 10 ^ exponent`. -/
structure ShortDecimal where
  digits : Nat
  exponent : Int
  deriving DecidableEq, Repr

/-- Moves the trailing zeros of the digits into the exponent, at most as many as there is fuel. -/
def dropZeros : (fuel digits : Nat) → Int → ShortDecimal
  | 0, digits, exponent => ⟨digits, exponent⟩
  | fuel + 1, digits, exponent =>
      if digits % 10 = 0 && digits ≠ 0 then dropZeros fuel (digits / 10) (exponent + 1)
      else ⟨digits, exponent⟩

/-- The decimal with the fewest digits that is read as this count of steps. Seventeen digits are
always enough. -/
def shortest (steps : Nat) : ShortDecimal :=
  let leading := leadingExponent steps
  let found := (List.range 17).findSome? fun (places : Nat) =>
    let exponent := leading - (places : Int)
    (nearbyDecimal? steps exponent).map fun digits => dropZeros 17 digits exponent
  found.getD ⟨0, 0⟩

structure Layout where
  /-- The least exponent of the leading digit that is written without an exponent. -/
  leastPositional : Int
  /-- The least exponent of the leading digit from which an exponent is written again. -/
  leastScientific : Int
  infinity : String
  undefined : String

/-- The decimal point after the `point`-th digit, with zeros where there is no digit and at least
one digit on both sides. -/
def placePoint (digits : List Char) (point : Int) : List Char :=
  let whole := digits.take point.toNat ++ List.replicate (point.toNat - digits.length) '0'
  let part := List.replicate (-point).toNat '0' ++ digits.drop point.toNat
  (if whole.isEmpty then ['0'] else whole) ++ '.' :: (if part.isEmpty then ['0'] else part)

/-- The digits with the point after the first one, and an exponent with a sign and at least two
digits. No point is written after a lone digit. -/
def withExponent (digits : List Char) (exponent : Int) : List Char :=
  let power := Nat.toDigits 10 exponent.natAbs
  let sign := if exponent < 0 then '-' else '+'
  let padded := if power.length < 2 then '0' :: power else power
  match digits with
  | [] => []
  | [digit] => digit :: 'e' :: sign :: padded
  | digit :: rest => digit :: '.' :: rest ++ 'e' :: sign :: padded

def magnitudeText (layout : Layout) (steps : Nat) : List Char :=
  let decimal := shortest steps
  let digits := Nat.toDigits 10 decimal.digits
  let leading := decimal.exponent + digits.length - 1
  if layout.leastPositional ≤ leading && leading < layout.leastScientific then
    placePoint digits (leading + 1)
  else
    withExponent digits leading

def signText (negative : Bool) : String :=
  if negative then "-" else ""

end FilterQuery.Number

namespace FilterQuery.Binary64

open Number

/-- The shortest text that is read back as the same number. -/
def text (layout : Layout) : Binary64 → String
  | .nan => layout.undefined
  | .infinite negative => signText negative ++ layout.infinity
  | .finite negative magnitude =>
      signText negative ++
        (if magnitude.steps = 0 then "0.0"
         else String.ofList (magnitudeText layout magnitude.steps))

/-- Numbers in messages have an exponent below 10 to the -4 and from 10 to the 16 on. -/
def messageLayout : Layout := ⟨-4, 16, "inf", "nan"⟩

def shown (number : Binary64) : String :=
  number.text messageLayout

/-- The text with a fixed, positive number of decimal places, rounded from the exact value, a half
to the even neighbour. -/
def fixedText (places : Nat) : Binary64 → String
  | .nan => messageLayout.undefined
  | .infinite negative => signText negative ++ messageLayout.infinity
  | .finite negative magnitude =>
      let scaled := Nat.toDigits 10 (roundHalfEven (magnitude.steps * Nat.pow 10 places) unit)
      let digits := List.replicate (places + 1 - scaled.length) '0' ++ scaled
      signText negative ++
        String.ofList (placePoint digits ((digits.length : Int) - places))

end FilterQuery.Binary64
