import FilterQuery.Json.Value
import FilterQuery.Number.Shortest
import FilterQuery.Text.Hexadecimal

/-!
# JSON text

The text of a JSON value in ASCII: on one line, or with every item and member on a line of its own,
indented by two blanks for each level.
-/

set_option autoImplicit false

namespace FilterQuery.Json

open Text Number

/-- JSON has the layout of messages, but names of its own for what is not finite. -/
def numberLayout : Layout :=
  { Binary64.messageLayout with infinity := "Infinity", undefined := "NaN" }

/-- A code unit of UTF-16 as an escape. -/
def unitEscape (code : Nat) : List Char :=
  '\\' :: 'u' :: hexDigits 4 code

/-- A character inside a string. What is not printable ASCII is written by its UTF-16 units. -/
def stringChar (c : Char) : List Char :=
  let code := c.toNat
  if c == '"' || c == '\\' then ['\\', c]
  else if 0x20 ≤ code && code < 0x7F then [c]
  else if c == '\n' then ['\\', 'n']
  else if c == '\r' then ['\\', 'r']
  else if c == '\t' then ['\\', 't']
  else if code == 8 then ['\\', 'b']
  else if code == 12 then ['\\', 'f']
  else if code < 0x10000 then unitEscape code
  else
    unitEscape (0xD800 + (code - 0x10000) / 0x400) ++
      unitEscape (0xDC00 + (code - 0x10000) % 0x400)

def stringText (text : String) : List Char :=
  '"' :: text.toList.flatMap stringChar ++ ['"']

inductive Style where
  | line
  | page (depth : Nat)

namespace Style

def deeper : Style → Style
  | .line => .line
  | .page depth => .page (depth + 1)

/-- What stands before an item or a closing bracket at this level. -/
def lead : Style → List Char
  | .line => []
  | .page depth => '\n' :: List.replicate (2 * depth) ' '

def between : Style → List Char
  | .line => [',', ' ']
  | .page depth => ',' :: lead (.page depth)

end Style

mutual

def chars (style : Style) : Json → List Char
  | .null => "null".toList
  | .bool true => "true".toList
  | .bool false => "false".toList
  | .int value => (intText value).toList
  | .float value => (value.text numberLayout).toList
  | .str value => stringText value
  | .arr [] => ['[', ']']
  | .arr (item :: rest) =>
      '[' :: style.deeper.lead ++ chars style.deeper item ++
        itemChars style.deeper rest ++ style.lead ++ [']']
  | .obj [] => ['\x7b', '\x7d']
  | .obj ((name, value) :: rest) =>
      '\x7b' :: style.deeper.lead ++ stringText name ++ ':' :: ' ' :: chars style.deeper value ++
        memberChars style.deeper rest ++ style.lead ++ ['\x7d']

def itemChars (style : Style) : List Json → List Char
  | [] => []
  | item :: rest => style.between ++ chars style item ++ itemChars style rest

def memberChars (style : Style) : List (String × Json) → List Char
  | [] => []
  | (name, value) :: rest =>
      style.between ++ stringText name ++ ':' :: ' ' :: chars style value ++
        memberChars style rest

end

mutual

/-- The first integer of a value that has too many digits to be written. -/
def unwritable? : Json → Option Int
  | .int value => if isWritable value then none else some value
  | .arr items => unwritableItem? items
  | .obj members => unwritableMember? members
  | _ => none

def unwritableItem? : List Json → Option Int
  | [] => none
  | item :: rest => (unwritable? item).or (unwritableItem? rest)

def unwritableMember? : List (String × Json) → Option Int
  | [] => none
  | (_, value) :: rest => (unwritable? value).or (unwritableMember? rest)

end

def lineText (value : Json) : String :=
  String.ofList (chars .line value)

def pageText (value : Json) : String :=
  String.ofList (chars (.page 0) value)

end FilterQuery.Json
