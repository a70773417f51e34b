import FilterQuery.Number.Integer
import FilterQuery.Time.Timestamp

/-!
# Faults of documents

What keeps a text from being read as a document.
-/

set_option autoImplicit false

namespace FilterQuery.Yaml

open Number

/-- Why a scalar has no value of the kind that it is written as. -/
inductive ScalarError where
  | noDigits (base : Nat)
  | tooManyDigits (digits : Nat)
  | time (error : TimestampError)
  | noCharacter
  deriving DecidableEq, Repr

def ScalarError.message : ScalarError → String
  | .noDigits base => s!"invalid literal for int() with base {natText base}: ''"
  | .tooManyDigits digits => tooLongMessage digits
  | .time error => error.message
  | .noCharacter => "chr() arg not in range(0x110000)"

inductive ReadFault where
  | malformed
  | scalar (error : ScalarError)
  /-- The number of a character is so large that it is not even compared with the largest one. -/
  | unbounded
  deriving DecidableEq, Repr

abbrev Reading := Except ReadFault

def malformed {α : Type} : Reading α := .error .malformed

end FilterQuery.Yaml
