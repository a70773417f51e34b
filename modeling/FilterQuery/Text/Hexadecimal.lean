/-!
# Hexadecimal digits

Fixed-width hexadecimal text with small letters, and the value of a hexadecimal digit.
-/

set_option autoImplicit false

namespace FilterQuery.Text

/-- The last `width` hexadecimal digits of a number. -/
def hexDigits : (width number : Nat) → List Char
  | 0, _ => []
  | width + 1, number => hexDigits width (number / 16) ++ [Nat.digitChar (number % 16)]

def hexValue? (c : Char) : Option Nat :=
  if '0' ≤ c && c ≤ '9' then some (c.toNat - '0'.toNat)
  else if 'a' ≤ c && c ≤ 'f' then some (c.toNat - 'a'.toNat + 10)
  else if 'A' ≤ c && c ≤ 'F' then some (c.toNat - 'A'.toNat + 10)
  else none

/-- The number that hexadecimal digits write, if all of them are such digits. -/
def hexNumber? (digits : List Char) : Option Nat :=
  digits.foldl
    (fun number digit => do return 16 * (← number) + (← hexValue? digit))
    (some 0)

end FilterQuery.Text
