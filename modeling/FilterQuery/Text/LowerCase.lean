import FilterQuery.Text.LowerCase.Table

/-!
# Lower case

Full lower-casing by Unicode 14. Every character is mapped on its own, but for the capital sigma,
which becomes a final sigma at the end of a word. A character that has no lower-case form stays.
-/

set_option autoImplicit false

namespace FilterQuery.Text

namespace LowerCase

def isCased (c : Char) : Bool :=
  casedRanges.any fun range => range.1 ≤ c.toNat && c.toNat ≤ range.2

def isIgnorable (c : Char) : Bool :=
  ignorableRanges.any fun range => range.1 ≤ c.toNat && c.toNat ≤ range.2

/-- Whether the first character that the sigma rule does not look through is a letter. -/
def startsWithLetter (text : List Char) : Bool :=
  match text.dropWhile isIgnorable with
  | [] => false
  | c :: _ => isCased c

/-- The lower-case form of a character that is no capital sigma. -/
def ofChar (c : Char) : List Char :=
  if c.toNat < 128 then
    [if 'A' ≤ c && c ≤ 'Z' then Char.ofNat (c.toNat + 32) else c]
  else if c.toNat == 0x130 then
    ['i', Char.ofNat 0x307]
  else
    match runs.find? (·.holds c.toNat) with
    | some run => [Char.ofNat (c.toNat + run.shift).toNat]
    | none => [c]

/-- The lower-case form of a text; `before` holds what precedes it, last character first. A
capital sigma is final when a letter precedes it and none follows. -/
def ofText (before : List Char) : List Char → List Char
  | [] => []
  | c :: rest =>
      let form :=
        if c.toNat == 0x3A3 then
          if startsWithLetter before && !startsWithLetter rest then ['ς'] else ['σ']
        else
          ofChar c
      form ++ ofText (c :: before) rest

end LowerCase

def lower (text : List Char) : List Char :=
  LowerCase.ofText [] text

def lowered (text : String) : String :=
  String.ofList (lower text.toList)

end FilterQuery.Text
