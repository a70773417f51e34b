/-!
# Ordered entries

A list of named values in the order in which the names were first put there. A name stands for the
value that was put last. Main statements: `get?_put_self` and `get?_put_of_ne` say what a look-up
sees after a value was put, and `get?_update_self` and `get?_update_of_ne` after one was changed.
-/

set_option autoImplicit false

namespace FilterQuery

abbrev Entries (α : Type) := List (String × α)

namespace Entries

variable {α : Type}

def get? : Entries α → String → Option α
  | [], _ => none
  | (key, value) :: rest, name => if key = name then some value else get? rest name

/-- Gives a name a value: in its place if the name is there, else at the end. -/
def put : Entries α → String → α → Entries α
  | [], name, value => [(name, value)]
  | (key, old) :: rest, name, value =>
      if key = name then (key, value) :: rest else (key, old) :: put rest name value

/-- Changes the value of a name, if the name is there. -/
def update (change : α → α) : Entries α → String → Entries α
  | [], _ => []
  | (key, value) :: rest, name =>
      if key = name then (key, change value) :: rest else (key, value) :: update change rest name

def names (entries : Entries α) : List String :=
  entries.map (·.1)

def holds (entries : Entries α) (name : String) : Bool :=
  (entries.get? name).isSome

/-- Puts pairs one after the other: the last value of a name counts, at its first place. -/
def ofPairs (pairs : List (String × α)) : Entries α :=
  pairs.foldl (fun entries pair => entries.put pair.1 pair.2) []

theorem get?_put_self (entries : Entries α) (name : String) (value : α) :
    (entries.put name value).get? name = some value := by
  induction entries with
  | nil => simp [put, get?]
  | cons entry rest ih =>
      simp only [put]
      split
      · next same => simp [get?, same]
      · next other => simp [get?, other, ih]

theorem get?_put_of_ne (entries : Entries α) {name other : String} (value : α)
    (ne : other ≠ name) : (entries.put name value).get? other = entries.get? other := by
  induction entries with
  | nil => simp [put, get?, ne.symm]
  | cons entry rest ih =>
      simp only [put]
      split
      · next same => simp [get?, same, ne.symm]
      · simp [get?, ih]

theorem get?_update_self (entries : Entries α) (change : α → α) (name : String) :
    (entries.update change name).get? name = (entries.get? name).map change := by
  induction entries with
  | nil => rfl
  | cons entry rest ih =>
      simp only [update]
      split
      · next same => simp [get?, same]
      · next other => simp [get?, other, ih]

theorem get?_update_of_ne (entries : Entries α) (change : α → α) {name other : String}
    (ne : other ≠ name) : (entries.update change name).get? other = entries.get? other := by
  induction entries with
  | nil => rfl
  | cons entry rest ih =>
      simp only [update]
      split
      · next same => simp [get?, same, ne.symm]
      · simp [get?, ih]

end Entries

end FilterQuery
