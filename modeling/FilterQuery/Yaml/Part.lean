import FilterQuery.Yaml.Token

/-!
# Parts of YAML documents

The structure of a document as it is written: scalars with their texts, sequences and mappings, any
of which may be given a name and be referred to by it. It is read from tokens; what is left out
where a value is expected is an empty plain scalar.
-/

set_option autoImplicit false

namespace FilterQuery.Yaml

inductive Part where
  | scalar (text : String) (plain : Bool)
  | sequence (items : List Part)
  | mapping (entries : List (Part × Part))
  | anchored (name : String) (part : Part)
  /-- The part with a name, once more. -/
  | reference (name : String)

namespace Part

def empty : Part := .scalar "" true

def startsWith (starts tokens : List Token) : Bool :=
  tokens.head?.any starts.contains

def startsContent (block behindKey : Bool) : List Token → Bool
  | .scalar _ _ :: _ | .openSequence :: _ | .openMapping :: _ => true
  | .blockSequence :: _ | .blockMapping :: _ => block
  | .dash :: _ => behindKey
  | _ => false

mutual

def parse (block behindKey : Bool) : (fuel : Nat) → List Token → Option (Part × List Token)
  | 0, _ => none
  | fuel + 1, tokens =>
      match tokens with
      | .reference name :: rest => some (.reference name, rest)
      | .anchor name :: rest =>
          if startsContent block behindKey rest then do
            let (part, rest) ← parseContent block behindKey fuel rest
            return (.anchored name part, rest)
          else some (.anchored name .empty, rest)
      | _ => parseContent block behindKey fuel tokens

/-- A part without a name. A block part may be a block collection, and behind a key also a sequence
whose dashes stand below the key. -/
def parseContent (block behindKey : Bool) : (fuel : Nat) → List Token → Option (Part × List Token)
  | 0, _ => none
  | fuel + 1, tokens =>
      match tokens with
      | .scalar text plain :: rest => some (.scalar text plain, rest)
      | .openSequence :: rest => do
          let (items, rest) ← flowItems true fuel rest
          return (.sequence items, rest)
      | .openMapping :: rest => do
          let (entries, rest) ← flowEntries true fuel rest
          return (.mapping entries, rest)
      | .blockSequence :: rest =>
          if block then do
            let (items, rest) ← blockItems [.dash, .blockEnd] fuel rest
            match rest with
            | .blockEnd :: rest => return (.sequence items, rest)
            | _ => none
          else none
      | .blockMapping :: rest =>
          if block then do
            let (entries, rest) ← blockEntries fuel rest
            match rest with
            | .blockEnd :: rest => return (.mapping entries, rest)
            | _ => none
          else none
      | .dash :: _ =>
          if behindKey then do
            let (items, rest) ← blockItems [.dash, .key, .value, .blockEnd] fuel tokens
            return (.sequence items, rest)
          else none
      | _ => none

/-- A part, or an empty one before tokens that end it. -/
def parseOr (block behindKey : Bool) (ends : List Token) :
    (fuel : Nat) → List Token → Option (Part × List Token)
  | 0, _ => none
  | fuel + 1, tokens =>
      if startsWith ends tokens then some (.empty, tokens)
      else parse block behindKey fuel tokens

def blockItems (ends : List Token) : (fuel : Nat) → List Token → Option (List Part × List Token)
  | 0, _ => none
  | fuel + 1, tokens =>
      match tokens with
      | .dash :: rest => do
          let (item, rest) ← parseOr true false ends fuel rest
          let (items, rest) ← blockItems ends fuel rest
          return (item :: items, rest)
      | _ => some ([], tokens)

def blockEntries : (fuel : Nat) → List Token → Option (List (Part × Part) × List Token)
  | 0, _ => none
  | fuel + 1, tokens =>
      match tokens with
      | .key :: rest => do
          let (key, rest) ← parseOr true true [.key, .value, .blockEnd] fuel rest
          let (value, rest) ←
            match rest with
            | .value :: rest => parseOr true true [.key, .value, .blockEnd] fuel rest
            | _ => some (.empty, rest)
          let (entries, rest) ← blockEntries fuel rest
          return ((key, value) :: entries, rest)
      | _ => some ([], tokens)

/-- A key and its value in a flow collection with a closing bracket. -/
def flowEntry (close : Token) : (fuel : Nat) → List Token → Option ((Part × Part) × List Token)
  | 0, _ => none
  | fuel + 1, tokens => do
      let (key, rest) ← parseOr false false [.value, .comma, close] fuel tokens
      let (value, rest) ←
        match rest with
        | .value :: rest => parseOr false false [.comma, close] fuel rest
        | _ => some (.empty, rest)
      return ((key, value), rest)

/-- The items of a flow sequence up to its closing bracket. An item may be a mapping of one key. -/
def flowItems (isFirst : Bool) : (fuel : Nat) → List Token → Option (List Part × List Token)
  | 0, _ => none
  | fuel + 1, tokens =>
      match tokens with
      | .closeSequence :: rest => some ([], rest)
      | _ => do
          let rest ←
            match isFirst, tokens with
            | true, _ => some tokens
            | false, .comma :: rest => some rest
            | false, _ => none
          match rest with
          | .closeSequence :: rest => return ([], rest)
          | .key :: rest =>
              let (entry, rest) ← flowEntry .closeSequence fuel rest
              let (items, rest) ← flowItems false fuel rest
              return (.mapping [entry] :: items, rest)
          | _ =>
              let (item, rest) ← parse false false fuel rest
              let (items, rest) ← flowItems false fuel rest
              return (item :: items, rest)

/-- The entries of a flow mapping up to its closing bracket. A part that is no key has no value. -/
def flowEntries (isFirst : Bool) :
    (fuel : Nat) → List Token → Option (List (Part × Part) × List Token)
  | 0, _ => none
  | fuel + 1, tokens =>
      match tokens with
      | .closeMapping :: rest => some ([], rest)
      | _ => do
          let rest ←
            match isFirst, tokens with
            | true, _ => some tokens
            | false, .comma :: rest => some rest
            | false, _ => none
          match rest with
          | .closeMapping :: rest => return ([], rest)
          | .key :: rest =>
              let (entry, rest) ← flowEntry .closeMapping fuel rest
              let (entries, rest) ← flowEntries false fuel rest
              return (entry :: entries, rest)
          | _ =>
              let (key, rest) ← parse false false fuel rest
              let (entries, rest) ← flowEntries false fuel rest
              return ((key, .empty) :: entries, rest)

end

/-- The tokens without the ends of documents before the first other one. -/
def afterEnds (tokens : List Token) : List Token :=
  tokens.dropWhile (· == .documentEnd)

def last? : Option (Part × List Token) → Option Part
  | some (part, rest) => if (afterEnds rest).isEmpty then some part else none
  | none => none

/-- The only document of the tokens; a null document if they are none. -/
def ofTokens? (tokens : List Token) : Option Part :=
  let fuel := 8 * tokens.length + 8
  match tokens with
  | [] | [.documentStart] => some .empty
  | .documentStart :: rest =>
      last? (parseOr true false [.documentStart, .documentEnd] fuel rest)
  | _ => last? (parse true false fuel tokens)

end Part

end FilterQuery.Yaml
