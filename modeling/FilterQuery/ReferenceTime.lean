import FilterQuery.Filter.Literal

/-!
# Reference times

A reference time is written as a Unix time or as an RFC 3339 time and read into the zone of the
reader, so that its day starts at the reader's midnight.
-/

set_option autoImplicit false

namespace FilterQuery

inductive ReferenceFault where
  | notADate
  | unrepresentable (fault : TimeFault)
  deriving DecidableEq, Repr

/-- The moment that a text names, on the wall clock of a zone. -/
def readReference (zone : Int) (text : String) : Except ReferenceFault Moment :=
  match Filter.readDate text.toList with
  | .notADate => .error .notADate
  | .outsideCalendar => .error (.unrepresentable .outsideCalendar)
  | .millis millis => (Moment.ofMillis zone millis).mapError .unrepresentable

end FilterQuery
