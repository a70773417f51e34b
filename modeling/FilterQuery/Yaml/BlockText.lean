import FilterQuery.Text.DecimalDigit
import FilterQuery.Yaml.Fault
import FilterQuery.Yaml.Cursor

/-!
# Block scalars

The text of a literal or folded block, from a cursor on. A block consists of the lines that are
indented as far as its first one, or as far as its header says; the header also says what becomes of
the line breaks at its end. In a folded block a line break between two lines that are not indented
further is a blank.
-/

set_option autoImplicit false

namespace FilterQuery.Yaml

/-- What becomes of the line breaks at the end of a block. -/
inductive Chomping where
  | strip
  | clip
  | keep
  deriving DecidableEq, Repr

/-- What a character in the header says about the end of a block. -/
def chomping? : Char → Option Chomping
  | '-' => some .strip
  | '+' => some .keep
  | _ => none

/-- The indentation that a digit in the header asks for, which is not zero. -/
def increment? (c : Char) : Option Nat :=
  if Text.isAsciiDigit c && c != '0' then some (Text.asciiNumber [c]) else none

namespace Cursor

/-- The indicators of a header, in either order, and the place after them. -/
def blockIndicators (cursor : Cursor) : Chomping × Option Nat × Cursor :=
  let first := cursor.head
  let second := cursor.peek 1
  match chomping? first, increment? first, chomping? second, increment? second with
  | some chomping, _, _, some increment => (chomping, some increment, cursor.skip 2)
  | some chomping, _, _, none => (chomping, none, cursor.next)
  | none, some increment, some chomping, _ => (chomping, some increment, cursor.skip 2)
  | none, some increment, none, _ => (.clip, some increment, cursor.next)
  | none, none, _, _ => (.clip, none, cursor)

/-- The place behind the rest of a line that holds nothing but a comment. -/
def skipLine (cursor : Cursor) : Reading Cursor :=
  let cursor := cursor.skipWhile (· == ' ')
  let cursor := if cursor.head == '#' then cursor.skipWhile (!isBreak ·) else cursor
  if isBreak cursor.head || cursor.head == endMark then .ok cursor.lineBreak.2 else malformed

/-- The empty lines at the start of a block, the column that the blanks on them and before the first
other line reach, and the place after them. -/
def leadingLines : (fuel : Nat) → Cursor → List Char × Nat × Cursor
  | 0, cursor => ([], 0, cursor)
  | fuel + 1, cursor =>
      let (spaces, after) := cursor.span (· == ' ')
      let reached := if spaces.isEmpty then 0 else after.column
      if isBreak after.head then
        let (text, after) := after.lineBreak
        let (others, most, after) := leadingLines fuel after
        (text ++ others, max reached most, after)
      else ([], reached, after)

def skipIndent (column : Nat) (cursor : Cursor) : Cursor :=
  cursor.skip (min (column - cursor.column) (cursor.rest.takeWhile (· == ' ')).length)

/-- The empty lines in a block at a column, and the place after them. -/
def blockBreaks (column : Nat) : (fuel : Nat) → Cursor → List Char × Cursor
  | 0, cursor => ([], cursor)
  | fuel + 1, cursor =>
      let cursor := cursor.skipIndent column
      if isBreak cursor.head then
        let (text, after) := cursor.lineBreak
        let (others, after) := blockBreaks column fuel after
        (text ++ others, after)
      else ([], cursor)

/-- Whether a line of a block at a column starts at the cursor. -/
def startsLine (column : Nat) (cursor : Cursor) : Bool :=
  cursor.column == column && cursor.head != endMark

/-- The lines of a block after some empty lines: their text up to the last line break, that line
break, the empty lines behind it, and the place after them. -/
def blockLines (folds : Bool) (column : Nat) :
    (fuel : Nat) → (breaks : List Char) → Cursor → List Char × List Char × List Char × Cursor
  | 0, breaks, cursor => ([], [], breaks, cursor)
  | fuel + 1, breaks, cursor =>
      if !cursor.startsLine column then ([], [], breaks, cursor)
      else
        let (line, after) := cursor.span (!isBreak ·)
        let (first, after) := after.lineBreak
        let (others, after) := after.blockBreaks column after.rest.length.succ
        if after.startsLine column then
          let joint :=
            if folds && first == ['\n'] && !isSpace cursor.head && !isSpace after.head then
              if others.isEmpty then [' '] else []
            else first
          let (more, last, trailing, after) := blockLines folds column fuel others after
          (breaks ++ line ++ joint ++ more, last, trailing, after)
        else (breaks ++ line, first, others, after)

/-- The text of the block whose header starts at the cursor, in a collection at a column, and the
place after it. -/
def blockText (folds : Bool) (indent : Int) (cursor : Cursor) : Reading (List Char × Cursor) := do
  let (chomping, increment, cursor) := cursor.blockIndicators
  if !isGap cursor.head || cursor.head == '\t' then malformed
  let cursor ← cursor.skipLine
  let least := (max (indent + 1) 1).toNat
  let fuel := cursor.rest.length.succ
  let (breaks, column, cursor) :=
    match increment with
    | some increment =>
        let column := least + increment - 1
        let (breaks, cursor) := cursor.blockBreaks column fuel
        (breaks, column, cursor)
    | none =>
        let (breaks, reached, cursor) := cursor.leadingLines fuel
        (breaks, max least reached, cursor)
  let (text, last, trailing, cursor) := cursor.blockLines folds column fuel breaks
  match chomping with
  | .strip => return (text, cursor)
  | .clip => return (text ++ last, cursor)
  | .keep => return (text ++ last ++ trailing, cursor)

end Cursor

end FilterQuery.Yaml
