/-!
# Cursors

A cursor is a place in a text with the text from there on. Every line break counts as one, whatever
characters it consists of.
-/

set_option autoImplicit false

namespace FilterQuery.Yaml

/-- The character that stands for the end of a text. It is not part of any document. -/
def endMark : Char := Char.ofNat 0

def isBreak (c : Char) : Bool :=
  c == '\n' || c == '\r' || c.toNat == 0x85 || c.toNat == 0x2028 || c.toNat == 0x2029

def isSpace (c : Char) : Bool :=
  c == ' ' || c == '\t'

def isGap (c : Char) : Bool :=
  c == endMark || isSpace c || isBreak c

def isAllowed (c : Char) : Bool :=
  let code := c.toNat
  c == '\t' || c == '\n' || c == '\r' || (0x20 ≤ code && code ≤ 0x7E) || code == 0x85 ||
    (0xA0 ≤ code && code ≤ 0xFFFD) || 0x10000 ≤ code

structure Cursor where
  rest : List Char
  index : Nat
  line : Nat
  column : Nat

namespace Cursor

def ofText (text : List Char) : Cursor := ⟨text, 0, 0, 0⟩

/-- The character at a distance, or the end mark. -/
def peek (cursor : Cursor) (distance : Nat) : Char :=
  cursor.rest.getD distance endMark

def head (cursor : Cursor) : Char :=
  cursor.peek 0

def next (cursor : Cursor) : Cursor :=
  match cursor.rest with
  | [] => cursor
  | c :: rest =>
      if isBreak c && !(c == '\r' && rest.head? == some '\n') then
        ⟨rest, cursor.index + 1, cursor.line + 1, 0⟩
      else
        ⟨rest, cursor.index + 1, cursor.line, cursor.column + (if c.toNat == 0xFEFF then 0 else 1)⟩

def skip : Nat → Cursor → Cursor
  | 0, cursor => cursor
  | count + 1, cursor => skip count cursor.next

/-- The characters of a kind from the cursor on, and the place after them. -/
def span (kind : Char → Bool) (cursor : Cursor) : List Char × Cursor :=
  let chars := cursor.rest.takeWhile kind
  (chars, cursor.skip chars.length)

def skipWhile (kind : Char → Bool) (cursor : Cursor) : Cursor :=
  (cursor.span kind).2

/-- The text that a line break at the cursor stands for, and the place after it. -/
def lineBreak (cursor : Cursor) : List Char × Cursor :=
  match cursor.rest with
  | '\r' :: '\n' :: _ => (['\n'], cursor.skip 2)
  | c :: _ =>
      if c == '\n' || c == '\r' || c.toNat == 0x85 then (['\n'], cursor.next)
      else if isBreak c then ([c], cursor.next)
      else ([], cursor)
  | [] => ([], cursor)

def isMarker (c : Char) (cursor : Cursor) : Bool :=
  cursor.head == c && cursor.peek 1 == c && cursor.peek 2 == c && isGap (cursor.peek 3)

def isSeparator (cursor : Cursor) : Bool :=
  cursor.isMarker '-' || cursor.isMarker '.'

end Cursor

end FilterQuery.Yaml
