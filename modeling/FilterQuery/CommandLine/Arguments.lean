import FilterQuery.CommandLine.Options
import FilterQuery.Number.Integer

/-!
# Arguments

The arguments of a command line are read as options and their values. A value stands in the next
argument, behind an equals sign, or directly behind the letter of its option; switches may stand
together behind one dash, also before an option with a value. The word of an option may be cut
short as long as no other option's word begins so. Which arguments are options is decided for all
of them before any value is taken.
-/

set_option autoImplicit false

namespace FilterQuery.CommandLine

open Text Number

structure Attached where
  byEquals : Bool
  text : List Char
  deriving DecidableEq, Repr

structure Named where
  option : Opt
  byWord : Bool
  attached : Option Attached
  deriving DecidableEq, Repr

inductive Argument where
  | named (named : Named)
  /-- It looks like an option, but there is none of that name. -/
  | unknown
  | value (text : String)
  | separator
  deriving DecidableEq, Repr

inductive UsageError where
  | ambiguous
  | missingValue
  | unexpectedValue
  | notAnInteger
  | leftOver
  deriving DecidableEq, Repr

def UsageError.message : UsageError → String
  | .ambiguous => "an option is ambiguous"
  | .missingValue => "an option needs a value"
  | .unexpectedValue => "a switch takes no value"
  | .notAnInteger => "a size is not an integer"
  | .leftOver => "an argument is not understood"

/-- Whether a text looks like a negative number: digits, or a point with digits behind it and
perhaps before it. A line feed may follow. -/
def looksNegative (text : List Char) : Bool :=
  let text := if text.getLast? == some '\n' then text.dropLast else text
  match text with
  | '-' :: unsigned =>
      match unsigned.dropWhile isDecimalDigit with
      | [] => !unsigned.isEmpty
      | '.' :: part => !part.isEmpty && part.all isDecimalDigit
      | _ => false
  | _ => false

/-- The text before the first equals sign, and what is attached behind it. -/
def splitEquals (text : List Char) : List Char × Option Attached :=
  match text.span (· != '=') with
  | (before, []) => (before, none)
  | (before, _ :: after) => (before, some ⟨true, after⟩)

def unnamed (text : List Char) : Argument :=
  if looksNegative text || text.contains ' ' then .value (String.ofList text) else .unknown

/-- An argument after two dashes. The full word counts before words that begin so. -/
def readWord (text rest : List Char) : Except UsageError Argument :=
  let (word, attached) := splitEquals rest
  match Opt.ofWord? word with
  | some option => .ok (.named ⟨option, true, attached⟩)
  | none =>
      match Opt.beginningWith word with
      | [] => .ok (unnamed text)
      | [option] => .ok (.named ⟨option, true, attached⟩)
      | _ => .error .ambiguous

def attachedTo : List Char → Option Attached
  | [] => none
  | '=' :: text => some ⟨true, text⟩
  | text => some ⟨false, text⟩

def readArgument (argument : String) : Except UsageError Argument :=
  match argument.toList with
  | ['-', '-'] => .ok .separator
  | '-' :: '-' :: rest => readWord argument.toList rest
  | '-' :: letter :: rest =>
      match Opt.ofLetter? letter with
      | some option => .ok (.named ⟨option, false, attachedTo rest⟩)
      | none => .ok (unnamed argument.toList)
  | _ => .ok (.value argument)

/-- What the arguments are, up to a separator; all behind it are values. -/
def readArguments : List String → Except UsageError (List Argument)
  | [] => .ok []
  | argument :: rest => do
      match ← readArgument argument with
      | .separator => return .separator :: rest.map .value
      | read => return read :: (← readArguments rest)

inductive Setting where
  | switch (option : Opt)
  | assign (option : Opt) (value : String)
  deriving DecidableEq, Repr

/-- Further options behind the letter of a switch, which end with the argument. A letter that names
no option is left over. -/
def readCluster : List Char → Except UsageError (List Setting × Option Named × Bool)
  | [] => .ok ([], none, false)
  | letter :: rest =>
      match Opt.ofLetter? letter with
      | none => .ok ([], none, true)
      | some option =>
          if option.takesValue then .ok ([], some ⟨option, false, attachedTo rest⟩, false)
          else
            match rest with
            | '=' :: _ | '-' :: _ => .error .unexpectedValue
            | rest => do
                let (settings, last, isLeft) ← readCluster rest
                return (.switch option :: settings, last, isLeft)

/-- The settings of a named option that are complete, an option that still needs its value, and
whether a part of the argument is left over. -/
def expand (named : Named) : Except UsageError (List Setting × Option Named × Bool) :=
  if named.option.takesValue then .ok ([], some named, false)
  else
    match named.attached with
    | none => .ok ([.switch named.option], none, false)
    | some attached =>
        if named.byWord || attached.byEquals || attached.text.head? == some '-' then
          .error .unexpectedValue
        else do
          let (settings, last, isLeft) ← readCluster attached.text
          return (.switch named.option :: settings, last, isLeft)

inductive Stop where
  | usage (error : UsageError)
  | help
  deriving DecidableEq, Repr

def apply (options : Options) : Setting → Except Stop Options
  | .switch .help => .error .help
  | .switch .verbose => .ok { options with verbose := true }
  | .switch _ => .ok options
  | .assign .filter value => .ok { options with filters := options.filters ++ [value] }
  | .assign .size value =>
      match readInteger value.toList with
      | .ok size => .ok { options with size := some size }
      | .error _ => .error (.usage .notAnInteger)
  | .assign .timeframe value => .ok { options with timeframe := some value }
  | .assign .now value => .ok { options with now := some value }
  | .assign .fieldsFile value => .ok { options with fieldsFile := some value }
  | .assign .config value => .ok { options with config := some value }
  | .assign .checkTimeframe value => .ok { options with checkTimeframe := some value }
  | .assign _ _ => .ok options

/-- Reads arguments in order. Arguments that are left over are refused at the end. -/
def collect : (isLeft : Bool) → Options → List Argument → Except Stop Options
  | isLeft, options, [] => if isLeft then .error (.usage .leftOver) else .ok options
  | isLeft, options, .named named :: rest => do
      let (settings, last, left) ← (expand named).mapError .usage
      match last with
      | none => collect (isLeft || left) (← settings.foldlM apply options) rest
      | some named =>
          match named.attached with
          | some attached =>
              let value := String.ofList attached.text
              collect (isLeft || left)
                (← (settings ++ [Setting.assign named.option value]).foldlM apply options) rest
          | none =>
              match rest with
              | .value value :: rest =>
                  collect (isLeft || left)
                    (← (settings ++ [Setting.assign named.option value]).foldlM apply options) rest
              | _ => .error (.usage .missingValue)
  | _, options, _ :: rest => collect true options rest

def readOptions (arguments : List String) : Except Stop Options := do
  let arguments ← (readArguments arguments).mapError .usage
  collect false .none arguments

end FilterQuery.CommandLine
