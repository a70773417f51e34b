import FilterQuery.Config.Basic
import FilterQuery.Number.Decimal
import FilterQuery.Text.LowerCase
import FilterQuery.Yaml.Basic

/-!
# Coercion of settings

The values of a document are coerced to the kind of the setting that they are given for. Texts are
read as numbers and truth values, and numbers and truth values are converted into each other; any
value can be a text.
-/

set_option autoImplicit false

namespace FilterQuery.Config

open Text Number

inductive CoercionFault where
  | invalid
  | unbounded
  deriving DecidableEq, Repr

def bit (value : Bool) : Int :=
  if value then 1 else 0

/-- The number that an integer stands for, unless it is too large. -/
def realOfInt (value : Int) : Except CoercionFault Binary64 :=
  if (Binary64.ofInt value).isFinite then .ok (.ofInt value) else .error .unbounded

def toReal : Yaml → Except CoercionFault Binary64
  | .float value => .ok value
  | .int value => realOfInt value
  | .bool value => realOfInt (bit value)
  | .str text => (readBinary64? text.toList).elim (.error .invalid) .ok
  | _ => .error .invalid

/-- A value as an integer; a fraction is cut off. -/
def toWhole : Yaml → Except CoercionFault Int
  | .int value => .ok value
  | .bool value => .ok (bit value)
  | .float value =>
      match value.truncate with
      | .ok whole => .ok whole
      | .error .undefined => .error .invalid
      | .error .unbounded => .error .unbounded
  | .str text => (readInteger text.toList).mapError fun _ => .invalid
  | _ => .error .invalid

def toText : Yaml → Except CoercionFault String
  | .str text => .ok text
  | value => if value.isPrintable then .ok value.text else .error .invalid

/-- The truth value that a text names, in any case and between blanks. -/
def namedFlag? (text : String) : Option Bool :=
  let word := lowered (trimmed text)
  if ["1", "true", "yes", "on"].contains word then some true
  else if ["0", "false", "no", "off"].contains word then some false
  else none

def toFlag : Yaml → Except CoercionFault Bool
  | .str text => (namedFlag? text).elim (.error .invalid) .ok
  | value => .ok value.isTrue

def coerce : (kind : Kind) → Yaml → Except CoercionFault kind.Value
  | .real => toReal
  | .whole => toWhole
  | .text => toText
  | .flag => toFlag

end FilterQuery.Config
