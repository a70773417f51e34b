import FilterQuery.Yaml.BlockText
import FilterQuery.Yaml.QuotedText
import FilterQuery.Yaml.Token

/-!
# Splitting YAML into tokens

A document consists of mappings, sequences and scalars, in block form by indentation or in flow form
between brackets. That a scalar or a collection is a key shows only at the colon after it, on the
same line, so places where a key may have started are remembered until then. Directives and tags are
not accepted.
-/

set_option autoImplicit false

namespace FilterQuery.Yaml

structure Candidate where
  depth : Int
  position : Nat
  isRequired : Bool
  index : Nat
  line : Nat
  column : Nat

structure Scan where
  cursor : Cursor
  depth : Int
  indent : Int
  outer : List Int
  keyAllowed : Bool
  candidates : List Candidate
  tokens : List Token

namespace Scan

def ofText (text : List Char) : Scan :=
  ⟨.ofText text, 0, -1, [], true, [], []⟩

def emit (token : Token) (scan : Scan) : Scan :=
  { scan with tokens := scan.tokens ++ [token] }

def take (token : Token) (width : Nat) (scan : Scan) : Scan :=
  { scan.emit token with cursor := scan.cursor.skip width }

def inFlow (scan : Scan) : Bool :=
  scan.depth != 0

/-- Opens a block collection at a column to the right of the innermost one; its token goes before
the token at a position. -/
def openBlock (token : Token) (position : Nat) (column : Int) (scan : Scan) : Scan :=
  if scan.indent < column then
    { scan with
      indent := column
      outer := scan.indent :: scan.outer
      tokens := scan.tokens.take position ++ token :: scan.tokens.drop position }
  else scan

def closeBlocks (column : Int) (scan : Scan) : Scan :=
  if scan.inFlow then scan
  else
    let rec go (indent : Int) (outer : List Int) (tokens : List Token) : Scan :=
      if indent ≤ column then { scan with indent, outer, tokens }
      else
        match outer with
        | [] => { scan with indent, outer, tokens }
        | before :: outer => go before outer (tokens ++ [.blockEnd])
    go scan.indent scan.outer scan.tokens

/-- Drops candidates; one that has to be a key must not be among them. -/
def dropCandidates (dropped : Candidate → Bool) (scan : Scan) : Reading Scan :=
  if scan.candidates.any fun candidate => dropped candidate && candidate.isRequired then malformed
  else .ok { scan with candidates := scan.candidates.filter fun candidate => !dropped candidate }

def dropCurrent (scan : Scan) : Reading Scan :=
  scan.dropCandidates fun candidate => candidate.depth == scan.depth

/-- Drops the candidates on other lines, and those too far back. -/
def dropStale (scan : Scan) : Reading Scan :=
  scan.dropCandidates fun candidate =>
    candidate.line != scan.cursor.line || 1024 < scan.cursor.index - candidate.index

def markCandidate (scan : Scan) : Reading Scan :=
  if scan.keyAllowed then do
    let scan ← scan.dropCurrent
    let cursor := scan.cursor
    return { scan with candidates := scan.candidates ++ [{
      depth := scan.depth
      position := scan.tokens.length
      isRequired := !scan.inFlow && scan.indent == cursor.column
      index := cursor.index
      line := cursor.line
      column := cursor.column }] }
  else .ok scan

/-- Skips blanks, comments and line breaks. After a line break in block form a key may start. -/
def skipGaps (scan : Scan) : (fuel : Nat) → Scan
  | 0 => scan
  | fuel + 1 =>
      let cursor := scan.cursor.skipWhile (· == ' ')
      let cursor := if cursor.head == '#' then cursor.skipWhile (!isBreak ·) else cursor
      if isBreak cursor.head then
        skipGaps
          { scan with
            cursor := cursor.lineBreak.2
            keyAllowed := scan.keyAllowed || !scan.inFlow }
          fuel
      else { scan with cursor }

def scanMarker (token : Token) (scan : Scan) : Reading Scan := do
  let scan ← (scan.closeBlocks (-1)).dropCurrent
  return { scan.take token 3 with keyAllowed := false }

def scanOpening (token : Token) (scan : Scan) : Reading Scan := do
  let scan ← scan.markCandidate
  return { scan.take token 1 with depth := scan.depth + 1, keyAllowed := true }

def scanClosing (token : Token) (scan : Scan) : Reading Scan := do
  let scan ← scan.dropCurrent
  return { scan.take token 1 with depth := scan.depth - 1, keyAllowed := false }

def scanComma (scan : Scan) : Reading Scan := do
  let scan ← scan.dropCurrent
  return { scan.take .comma 1 with keyAllowed := true }

/-- The dash of a block sequence or the question mark of a key, which in block form have to stand
where a key may. -/
def scanIndicator (collection token : Token) (keyAllowed : Bool) (scan : Scan) : Reading Scan := do
  if !scan.inFlow && !scan.keyAllowed then malformed
  let scan :=
    if scan.inFlow then scan
    else scan.openBlock collection scan.tokens.length scan.cursor.column
  let scan ← scan.dropCurrent
  return { scan.take token 1 with keyAllowed }

/-- The colon before a value. It makes the candidate at its depth a key. -/
def scanColon (scan : Scan) : Reading Scan :=
  match scan.candidates.find? fun candidate => candidate.depth == scan.depth with
  | some candidate =>
      let tokens :=
        scan.tokens.take candidate.position ++ .key :: scan.tokens.drop candidate.position
      let candidates := scan.candidates.filter fun other => other.depth != scan.depth
      let scan := { scan with tokens, candidates }
      let scan :=
        if scan.inFlow then scan
        else scan.openBlock .blockMapping candidate.position candidate.column
      .ok { scan.take .value 1 with keyAllowed := false }
  | none => scanIndicator .blockMapping .value (!scan.inFlow) scan

/-- The name at the cursor, and the place after it. Only some characters may follow a name. -/
def readName (cursor : Cursor) : Reading (String × Cursor) :=
  let (chars, after) := cursor.span fun c => c.isAlphanum || c == '-' || c == '_'
  if chars.isEmpty || !(isGap after.head || "?:,]\x7d%@`".contains after.head) then malformed
  else .ok (String.ofList chars, after)

/-- An anchor or a reference: a name behind a character. -/
def scanName (token : String → Token) (scan : Scan) : Reading Scan := do
  let scan ← scan.markCandidate
  let (name, cursor) ← readName scan.cursor.next
  return { scan.emit (token name) with cursor, keyAllowed := false }

/-- A scalar in a block, after which a key may start. -/
def scanBlock (folds : Bool) (scan : Scan) : Reading Scan := do
  let scan ← scan.dropCurrent
  let (text, cursor) ← scan.cursor.next.blockText folds scan.indent
  return { scan.emit (.scalar (String.ofList text) false) with cursor, keyAllowed := true }

def scanPlain (scan : Scan) : Reading Scan := do
  let scan ← scan.markCandidate
  let (text, cursor, passed) := scan.cursor.plainText scan.inFlow scan.indent
  return { scan.emit (.scalar (String.ofList text) true) with cursor, keyAllowed := passed }

def scanQuoted (scan : Scan) : Reading Scan := do
  let scan ← scan.markCandidate
  let (text, cursor) ← scan.cursor.quotedText
  return { scan.emit (.scalar (String.ofList text) false) with cursor, keyAllowed := false }

def startsPlain (scan : Scan) : Bool :=
  let c := scan.cursor.head
  !(isGap c || "-?:,[]\x7b\x7d#&*!|>'\"%@`".contains c) ||
    (!isGap (scan.cursor.peek 1) && (c == '-' || (!scan.inFlow && (c == '?' || c == ':'))))

def scanToken (scan : Scan) : Reading Scan :=
  let cursor := scan.cursor
  let c := cursor.head
  let isAlone := isGap (cursor.peek 1)
  if cursor.column == 0 && cursor.isMarker '-' then scan.scanMarker .documentStart
  else if cursor.column == 0 && cursor.isMarker '.' then scan.scanMarker .documentEnd
  else if c == '[' then scan.scanOpening .openSequence
  else if c == '\x7b' then scan.scanOpening .openMapping
  else if c == ']' then scan.scanClosing .closeSequence
  else if c == '\x7d' then scan.scanClosing .closeMapping
  else if c == ',' then scan.scanComma
  else if c == '-' && isAlone then scan.scanIndicator .blockSequence .dash true
  else if c == '?' && (scan.inFlow || isAlone) then
    scan.scanIndicator .blockMapping .key !scan.inFlow
  else if c == ':' && (scan.inFlow || isAlone) then scan.scanColon
  else if c == '*' then scan.scanName .reference
  else if c == '&' then scan.scanName .anchor
  else if c == '|' && !scan.inFlow then scan.scanBlock false
  else if c == '>' && !scan.inFlow then scan.scanBlock true
  else if c == '\'' || c == '"' then scan.scanQuoted
  else if scan.startsPlain then scan.scanPlain
  else malformed

def scanAll : (fuel : Nat) → Scan → Reading (List Token)
  | 0, _ => malformed
  | fuel + 1, scan => do
      let scan ← (scan.skipGaps scan.cursor.rest.length.succ).dropStale
      let scan := scan.closeBlocks scan.cursor.column
      if scan.cursor.head == endMark then
        return (← (scan.closeBlocks (-1)).dropCurrent).tokens
      else scanAll fuel (← scan.scanToken)

end Scan

/-- The tokens of a text, if it has only characters that documents may hold. A byte order mark may
precede them. -/
def tokens (text : String) : Reading (List Token) :=
  let chars :=
    match text.toList with
    | c :: rest => if c.toNat == 0xFEFF then rest else c :: rest
    | [] => []
  if chars.all isAllowed then Scan.scanAll (chars.length + 1) (.ofText chars) else malformed

end FilterQuery.Yaml
