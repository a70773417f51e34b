/-!
# Options

The options of the command line, with their names. An option takes a value or it is a switch.
-/

set_option autoImplicit false

namespace FilterQuery.CommandLine

inductive Opt where
  | help
  | filter
  | size
  | timeframe
  | now
  | fieldsFile
  | config
  | checkTimeframe
  | verbose
  deriving DecidableEq, Repr

namespace Opt

def all : List Opt :=
  [.help, .filter, .size, .timeframe, .now, .fieldsFile, .config, .checkTimeframe, .verbose]

def letter? : Opt → Option Char
  | .help => some 'h'
  | .filter => some 'f'
  | .size => some 's'
  | .timeframe => some 't'
  | .config => some 'c'
  | .verbose => some 'v'
  | .now | .fieldsFile | .checkTimeframe => none

def word : Opt → String
  | .help => "help"
  | .filter => "filter"
  | .size => "size"
  | .timeframe => "timeframe"
  | .now => "now"
  | .fieldsFile => "fields-file"
  | .config => "config"
  | .checkTimeframe => "check-timeframe"
  | .verbose => "verbose"

def takesValue : Opt → Bool
  | .help | .verbose => false
  | _ => true

def ofLetter? (letter : Char) : Option Opt :=
  all.find? fun option => option.letter? == some letter

def ofWord? (word : List Char) : Option Opt :=
  all.find? fun option => option.word.toList == word

def beginningWith (start : List Char) : List Opt :=
  all.filter fun option => start.isPrefixOf option.word.toList

end Opt

/-- How the command line is used: each option with its names. -/
def usageText : String :=
  let shown (option : Opt) : String :=
    let short := (option.letter?.map fun letter => s!"-{letter}, ").getD ""
    let value := if option.takesValue then " VALUE" else ""
    s!"  {short}--{option.word}{value}\n"
  "options:\n" ++ String.join (Opt.all.map shown)

structure Options where
  filters : List String
  size : Option Int
  timeframe : Option String
  now : Option String
  fieldsFile : Option String
  config : Option String
  checkTimeframe : Option String
  verbose : Bool
  deriving DecidableEq, Repr

def Options.none : Options where
  filters := []
  size := .none
  timeframe := .none
  now := .none
  fieldsFile := .none
  config := .none
  checkTimeframe := .none
  verbose := false

end FilterQuery.CommandLine
