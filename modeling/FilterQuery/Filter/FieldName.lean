/-!
# Field names

A field name is a sequence of segments with dots between them. A segment is an ASCII letter
followed by ASCII letters, digits, underscores and hyphens.
-/

set_option autoImplicit false

namespace FilterQuery.Filter

def isLetter (c : Char) : Bool :=
  ('a' ≤ c && c ≤ 'z') || ('A' ≤ c && c ≤ 'Z')

def isNameChar (c : Char) : Bool :=
  isLetter c || ('0' ≤ c && c ≤ '9') || c == '_' || c == '-'

/-- Whether the text is the rest of a field name, from the start of a segment or from inside one. -/
def isNameRest : (atStart : Bool) → List Char → Bool
  | atStart, [] => !atStart
  | true, c :: rest => isLetter c && isNameRest false rest
  | false, c :: rest =>
      if c == '.' then isNameRest true rest else isNameChar c && isNameRest false rest

def isName (text : List Char) : Bool :=
  isNameRest true text

def withoutFinalLineFeed (text : List Char) : List Char :=
  if text.getLast? == some '\n' then text.dropLast else text

/-- Whether a string is a field name, which one line feed may follow. -/
def isFieldName (field : String) : Bool :=
  isName (withoutFinalLineFeed field.toList)

end FilterQuery.Filter
