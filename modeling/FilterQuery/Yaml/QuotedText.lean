import FilterQuery.Text.Hexadecimal
import FilterQuery.Yaml.Fault
import FilterQuery.Yaml.PlainText

/-!
# Quoted scalars

The text of a scalar in quotes, from a cursor on. Between single quotes a quote is written twice;
between double quotes a backslash escapes characters.
-/

set_option autoImplicit false

namespace FilterQuery.Yaml

def escapes : List (Char × Nat) :=
  [('0', 0), ('a', 7), ('b', 8), ('t', 9), ('\t', 9), ('n', 10), ('v', 11), ('f', 12), ('r', 13),
    ('e', 27), (' ', 32), ('"', 34), ('\\', 92), ('/', 47), ('N', 0x85), ('_', 0xA0),
    ('L', 0x2028), ('P', 0x2029)]

/-- The number of hexadecimal digits that follow a letter after a backslash. -/
def escapeWidth? : Char → Option Nat
  | 'x' => some 2
  | 'u' => some 4
  | 'U' => some 8
  | _ => none

def charOf (code : Nat) : Reading Char :=
  if 0x80000000 ≤ code then .error .unbounded
  else if 0x110000 ≤ code then .error (.scalar .noCharacter)
  else if code.isValidChar then .ok (Char.ofNat code)
  else malformed

namespace Cursor

/-- The empty lines in a quoted scalar, and the place after them. -/
def quotedLines (cursor : Cursor) : Reading (List Char × Cursor) :=
  (cursor.emptyLines isSpace cursor.rest.length.succ).elim malformed .ok

/-- What the text after a backslash stands for, and the place after it. -/
def escaped (cursor : Cursor) : Reading (List Char × Cursor) :=
  match escapes.find? fun escape => escape.1 == cursor.head with
  | some (_, code) => .ok ([Char.ofNat code], cursor.next)
  | none =>
      match escapeWidth? cursor.head with
      | some width => do
          let digits := cursor.next.rest.take width
          match Text.hexNumber? digits with
          | some code =>
              if digits.length < width then malformed
              else return ([← charOf code], cursor.skip (width + 1))
          | none => malformed
      | none => if isBreak cursor.head then cursor.lineBreak.2.quotedLines else malformed

/-- Blanks in a quoted scalar, or what they and the line breaks among them stand for. -/
def quotedGap (cursor : Cursor) : Reading (List Char × Cursor) :=
  let (spaces, after) := cursor.span isSpace
  if isBreak after.head then do
    let (first, after) := after.lineBreak
    let (others, after) ← after.quotedLines
    return (folded first others, after)
  else .ok (spaces, after)

/-- The text of a quoted scalar from the cursor to its closing quote, and the place after that. -/
def quotedFrom (quote : Char) : (fuel : Nat) → Cursor → Reading (List Char × Cursor)
  | 0, _ => malformed
  | fuel + 1, cursor =>
      let c := cursor.head
      if c == endMark then malformed
      else if c == quote && !(quote == '\'' && cursor.peek 1 == quote) then .ok ([], cursor.next)
      else do
        let (text, after) ←
          if c == quote then pure ([c], cursor.skip 2)
          else if isSpace c || isBreak c then cursor.quotedGap
          else if c == '\\' && quote == '"' then cursor.next.escaped
          else pure ([c], cursor.next)
        let (more, after) ← quotedFrom quote fuel after
        return (text ++ more, after)

/-- The text of the quoted scalar at the cursor, and the place after it. -/
def quotedText (cursor : Cursor) : Reading (List Char × Cursor) :=
  quotedFrom cursor.head cursor.rest.length.succ cursor.next

end Cursor

end FilterQuery.Yaml
