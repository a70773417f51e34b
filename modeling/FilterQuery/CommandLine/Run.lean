import FilterQuery.CommandLine.Arguments
import FilterQuery.Config.Loading
import FilterQuery.Demand
import FilterQuery.Json.Printer
import FilterQuery.Json.Reader
import FilterQuery.ReferenceTime

/-!
# The command line

The command line compiles filter tokens and a timeframe into a query, which it prints as JSON, or
checks a timeframe. Errors are printed as JSON objects. How the text of a configuration is read is
left open: the reader is one of the things that a command line is given.
-/

set_option autoImplicit false

namespace FilterQuery.CommandLine

open Number

/-- What a path leads to. The reasons are worded by the system. -/
inductive Content where
  | missing (reason : String)
  /-- Something that cannot be opened, such as a directory. -/
  | closed (reason : String)
  /-- A file whose bytes are no text. -/
  | undecodable (detail : String)
  | text (text : String)

def Content.nothing : Content := .missing "[Errno 2] No such file or directory"

def Content.directory : Content := .closed "[Errno 21] Is a directory"

/-- Why a text is not read as a configuration document. -/
inductive DocumentError where
  /-- The text has not the form of a document. This is reported with the path of the file. -/
  | malformed (detail : String)
  /-- A value in the text is refused. This is reported as it is. -/
  | refused (message : String)
  /-- The reader fails in another way, which is not reported. -/
  | unforeseen

/-- Where a command line runs: the reader of its configuration documents, its files, its environment
variables, the zone of its clock, and the time on it. -/
structure Surroundings where
  reader : (text : String) → Except DocumentError Yaml
  content : (path : String) → Content
  environment : Environment
  zone : Int
  current : Moment

inductive Breakdown where
  | document
  | unbounded
  | closed (path : String)
  | time (fault : TimeFault)
  | query (breakdown : Filter.Breakdown)
  | tooManyDigits (digits : Nat)

def Breakdown.message : Breakdown → String
  | .document => "a document cannot be read"
  | .unbounded => "a number is too large"
  | .closed path => s!"a file cannot be opened: {path}"
  | .time _ | .query .outsideCalendar => "a time is outside the calendar"
  | .query .compoundType => "a type is a list or an object"
  | .query (.tooManyDigits digits) | .tooManyDigits digits => tooLongMessage digits

inductive Ending where
  /-- The exit code, and what is written to the standard output and the error output. -/
  | finished (code : Nat) (output error : String)
  | help
  | usage (error : UsageError)
  | broken (breakdown : Breakdown)

/-- What is said of an integer that has too many digits to be written. -/
def unprintableMessage : String :=
  s!"Exceeds the limit ({natText digitLimit} digits) for integer string conversion; use " ++
    "sys.set_int_max_str_digits() to increase the limit"

def malformedMessage : String := "malformed document"

/-- Why a run fails before anything is compiled: with a message, or without an answer. -/
inductive SetupError where
  | message (text : String)
  | broken (breakdown : Breakdown)

def line (text : String) : String :=
  text ++ "\n"

def report (message : String) : Json :=
  .obj [("error", .str message)]

def failed (message : String) : Ending :=
  .finished 1 "" (line (report message).lineText)

def failedPage (message : String) : Ending :=
  .finished 1 "" (line (report message).pageText)

/-- A value is printed, unless an integer in it has too many digits. -/
def succeeded (value : Json) : Ending :=
  match value.unwritable? with
  | none => .finished 0 (line value.pageText) ""
  | some integer => .broken (.tooManyDigits (Nat.toDigits 10 integer.natAbs).length)

def SetupError.ending : SetupError → Ending
  | .message text => failed text
  | .broken breakdown => .broken breakdown

def checkTimeframe (current : Moment) (timeframe : String) : Ending :=
  let duration : Except TimeframeFault Int := do
    Timeframe.validate timeframe
    Timeframe.duration timeframe current
  match duration with
  | .ok micros =>
      succeeded (.obj [("timeframe", .str timeframe),
        ("duration_seconds", .float (Timeframe.seconds micros))])
  | .error (.invalid error) => failed error.message
  | .error (.tooManyDigits digits) => .broken (.tooManyDigits digits)

/-- The document of a configuration file, or the reason why it has none. -/
def readConfigFile (surroundings : Surroundings) (path : String) :
    Except SetupError (Except String Yaml) :=
  match surroundings.content path with
  | .missing reason | .closed reason => .ok (.error s!"{reason}: {Text.quoted path}")
  | .undecodable detail => .error (.message detail)
  | .text text =>
      match surroundings.reader text with
      | .ok document => .ok (.ok document)
      | .error (.malformed detail) => .ok (.error detail)
      | .error (.refused message) => .error (.message message)
      | .error .unforeseen => .error (.broken .document)

def loadConfig (surroundings : Surroundings) (path : Option String) : Except SetupError Config := do
  let file ←
    match path with
    | none => pure none
    | some path => do
        let document ← readConfigFile surroundings path
        pure (some (path, document))
  match Config.load ⟨file, surroundings.environment⟩ with
  | .ok config => return config
  | .error (.invalid error) => throw (.message error.message)
  | .error .unprintable => throw (.message unprintableMessage)
  | .error .unbounded => throw (.broken .unbounded)

def cacheOf (response : Json) : Except Field.CapabilitiesError Field.Cache :=
  (Field.Cache.empty.setDefaults.populate response).map (·.1)

/-- Loads what is known about fields. Without a path nothing is known. -/
def loadFields (surroundings : Surroundings) (path : Option String) :
    Except SetupError Field.Cache :=
  match path with
  | none | some "" => .ok .empty
  | some path =>
      match surroundings.content path with
      | .missing _ => .error (.message ("Fields file not found: " ++ path))
      | .closed _ => .error (.broken (.closed path))
      | .undecodable detail => .error (.message detail)
      | .text text =>
          match Json.read text with
          | .error .malformed =>
              .error (.message ("Invalid JSON in fields file: " ++ malformedMessage))
          | .error (.tooManyDigits digits) => .error (.message (tooLongMessage digits))
          | .ok response => (cacheOf response).mapError fun error => .message error.message

/-- The reference time that is asked for; the current time when none is. -/
def readNow (zone : Int) (current : Moment) (value : Option String) : Except SetupError Moment :=
  match value with
  | none | some "" => .ok current
  | some text =>
      match readReference zone text with
      | .ok moment => .ok moment
      | .error .notADate => .error (.message ("Invalid --now value: " ++ text))
      | .error (.unrepresentable (.yearOutOfRange year)) => .error (.message (yearMessage year))
      | .error (.unrepresentable fault) => .error (.broken (.time fault))

structure Setup where
  config : Config
  cache : Field.Cache
  now : Moment

def prepare (surroundings : Surroundings) (options : Options) : Except SetupError Setup := do
  let config ← loadConfig surroundings options.config
  let cache ← loadFields surroundings options.fieldsFile
  let now ← readNow surroundings.zone surroundings.current options.now
  return ⟨config, cache, now⟩

def compile (setup : Setup) (options : Options) : Ending :=
  let demand : Demand := ⟨options.filters, options.size, options.timeframe, setup.now⟩
  match demand.compile setup.config.search setup.cache with
  | .ok query => succeeded query.toJson
  | .error (.query error@(.sizeTooLarge _ _)) => failed error.message
  | .error (.query error) => failedPage error.message
  | .error (.timeframe error) => failedPage (timeQueryMessage error)
  | .error (.broken breakdown) => .broken (.query breakdown)

def perform (surroundings : Surroundings) (options : Options) : Ending :=
  match options.checkTimeframe with
  | some timeframe => checkTimeframe surroundings.current timeframe
  | none =>
      match prepare surroundings options with
      | .error error => error.ending
      | .ok setup => compile setup options

def run (surroundings : Surroundings) (arguments : List String) : Ending :=
  match readOptions arguments with
  | .error .help => .help
  | .error (.usage error) => .usage error
  | .ok options => perform surroundings options

end FilterQuery.CommandLine
