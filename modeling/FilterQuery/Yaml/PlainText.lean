import FilterQuery.Yaml.Cursor

/-!
# Plain scalars

The text of a scalar without quotes, from a cursor on. It ends before a colon or a comment, and in
block form before a line that is not indented as far as its collection.
-/

set_option autoImplicit false

namespace FilterQuery.Yaml

/-- The text of line breaks between two parts of a scalar: one break is a blank, and of several all
but the first are kept. -/
def folded (first : List Char) (others : List Char) : List Char :=
  if first != ['\n'] then first ++ others
  else if others.isEmpty then [' ']
  else others

namespace Cursor

/-- The empty lines from the cursor on, and the place after them, at a character of one of the kinds
that `blank` does not skip. A document must not start or end in between. -/
def emptyLines (blank : Char → Bool) : (fuel : Nat) → Cursor → Option (List Char × Cursor)
  | 0, _ => none
  | fuel + 1, cursor =>
      if cursor.isSeparator then none
      else
        let cursor := cursor.skipWhile blank
        if isBreak cursor.head then do
          let (text, after) := cursor.lineBreak
          let (others, after) ← emptyLines blank fuel after
          return (text ++ others, after)
        else some ([], cursor)

def endsWord (inFlow : Bool) (cursor : Cursor) : Bool :=
  let c := cursor.head
  let following := cursor.peek 1
  isGap c || (c == ':' && (isGap following || (inFlow && ",[]\x7b\x7d".contains following))) ||
    (inFlow && ",?[]\x7b\x7d".contains c)

def word (inFlow : Bool) : (fuel : Nat) → Cursor → List Char × Cursor
  | 0, cursor => ([], cursor)
  | fuel + 1, cursor =>
      if cursor.endsWord inFlow then ([], cursor)
      else
        let (text, after) := word inFlow fuel cursor.next
        (cursor.head :: text, after)

/-- The words of a plain scalar, joined as they are written or by what line breaks stand for. The
last component says whether a line break was passed after the last word. -/
def words (inFlow : Bool) (indent : Int) : (fuel : Nat) → Cursor → List Char × Cursor × Bool
  | 0, cursor => ([], cursor, false)
  | fuel + 1, cursor =>
      if cursor.head == '#' || cursor.endsWord inFlow then ([], cursor, false)
      else
        let (text, cursor) := cursor.word inFlow cursor.rest.length
        let (spaces, after) := cursor.span (· == ' ')
        if isBreak after.head then
          let (first, after) := after.lineBreak
          match (if after.isSeparator then none
            else after.emptyLines (· == ' ') after.rest.length.succ) with
          | none => (text, after, true)
          | some (others, after) =>
              if after.head == '#' || (!inFlow && after.column < indent) then (text, after, true)
              else
                match words inFlow indent fuel after with
                | ([], _, _) => (text, after, true)
                | (more, last, passed) => (text ++ folded first others ++ more, last, passed)
        else if spaces.isEmpty || after.head == '#' || (!inFlow && after.column < indent) then
          (text, after, false)
        else
          match words inFlow indent fuel after with
          | ([], _, _) => (text, after, false)
          | (more, last, passed) => (text ++ spaces ++ more, last, passed)

/-- The text of a plain scalar in a collection at a column, the place after it, and whether a line
break was passed on the way there. -/
def plainText (inFlow : Bool) (indent : Int) (cursor : Cursor) : List Char × Cursor × Bool :=
  cursor.words inFlow (indent + 1) cursor.rest.length

end Cursor

end FilterQuery.Yaml
