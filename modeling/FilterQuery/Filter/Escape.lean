/-!
# Escapes and wildcards

In a value a backslash makes a following backslash, asterisk, question mark or equals sign stand
for itself. Before any other character, and at the end, a backslash stands for itself. An asterisk
or question mark without a backslash is a wildcard.
-/

set_option autoImplicit false

namespace FilterQuery.Filter

def isEscapable (c : Char) : Bool :=
  c == '\\' || c == '*' || c == '?' || c == '='

/-- Whether the character is a wildcard when no backslash precedes it. -/
def isWildcard (c : Char) : Bool :=
  c == '*' || c == '?'

/-- The text without its escapes. The flag says that a backslash has been read which belongs to the
next character. -/
def resolveFrom : (escaped : Bool) → List Char → List Char
  | true, c :: rest =>
      if isEscapable c then c :: resolveFrom false rest else '\\' :: c :: resolveFrom false rest
  | false, c :: rest =>
      if c == '\\' then resolveFrom true rest else c :: resolveFrom false rest
  | true, [] => ['\\']
  | false, [] => []

def resolveEscapes (value : List Char) : List Char :=
  resolveFrom false value

def unescape (value : List Char) : List Char :=
  if value.contains '\\' then resolveEscapes value else value

/-- Whether the text has a wildcard. The flag says that a backslash has been read which belongs to
the next character. -/
def hasWildcardFrom : (escaped : Bool) → List Char → Bool
  | true, _ :: rest => hasWildcardFrom false rest
  | false, c :: rest =>
      if c == '\\' then hasWildcardFrom true rest else isWildcard c || hasWildcardFrom false rest
  | _, [] => false

def hasWildcard (value : List Char) : Bool :=
  hasWildcardFrom false value

end FilterQuery.Filter
