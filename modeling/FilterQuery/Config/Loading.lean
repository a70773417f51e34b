import FilterQuery.Config.Coercion
import FilterQuery.Timeframe

/-!
# Loading a configuration

A configuration starts from the defaults, takes the settings of a document in the order in which
they stand there, then those of environment variables in the order of the settings, and is checked
at the end. The first error counts.
-/

set_option autoImplicit false

namespace FilterQuery

open Number Config

inductive ConfigError where
  | unreadable (path detail : String)
  | notAMapping (path : String)
  | unknownSection (name : Yaml)
  | sectionNotAMapping (group : Config.Section)
  | unknownSetting (group : Config.Section) (key : Yaml)
  | invalidValue (setting : Setting) (value : Yaml)
  | pacing (error : Pacing.SettingsError)
  | defaultSize (value : Int)
  | maxResults (value defaultSize : Int)
  | maxRetries (value : Int)
  | largeResultLimit (value : Int)
  | scrollBatchSize (value : Int)
  | emptyScrollTimeout
  | defaultTimeframe (fault : TimeframeFault)
  | port (value : Int)

namespace ConfigError

def belowOne (setting : Setting) (value : Int) : String :=
  s!"{setting.name} must be >= 1, got {intText value}"

def message : ConfigError → String
  | .unreadable path detail => s!"failed to load config {path}: {detail}"
  | .notAMapping path => s!"config {path} must contain a mapping"
  | .unknownSection name => s!"unknown config section: {name.text}"
  | .sectionNotAMapping group => s!"config section {group.name} must be a mapping"
  | .unknownSetting group key => s!"unknown setting {group.name}.{key.text}"
  | .invalidValue setting value => s!"invalid value for {setting.name}: {value.shown}"
  | .pacing error => error.message
  | .defaultSize value => belowOne .defaultSize value
  | .maxResults value least =>
      s!"search.max_results ({intText value}) must be >= default_num_results " ++
        s!"({intText least})"
  | .maxRetries value => belowOne .maxRetries value
  | .largeResultLimit value => belowOne .largeResultLimit value
  | .scrollBatchSize value => belowOne .scrollBatchSize value
  | .emptyScrollTimeout => "search.scroll_timeout cannot be empty"
  | .defaultTimeframe fault => s!"search.default_timeframe: {fault.message}"
  | .port value => s!"opensearch.port out of range: {intText value}"

def shownValues : ConfigError → List Yaml
  | .unknownSection name => [name]
  | .unknownSetting _ key => [key]
  | .invalidValue _ value => [value]
  | .maxResults value least => [.int value, .int least]
  | .defaultSize value | .maxRetries value | .largeResultLimit value | .scrollBatchSize value
  | .port value => [.int value]
  | _ => []

end ConfigError

inductive ConfigFault where
  | invalid (error : ConfigError)
  | unbounded
  /-- An error shows an integer that has too many digits to be written. -/
  | unprintable

def ConfigFault.ofError (error : ConfigError) : ConfigFault :=
  if error.shownValues.all Yaml.isPrintable then .invalid error else .unprintable

abbrev Environment := Entries String

/-- Where settings come from: a file, if one is named, with its document or the reason why it has
none, and the environment. -/
structure ConfigSource where
  file : Option (String × Except String Yaml)
  environment : Environment

namespace Config

abbrev Loaded := Except ConfigFault

def reject {α : Type} (error : ConfigError) : Loaded α :=
  .error (.ofError error)

def Section.named? (name : Yaml) : Option Config.Section :=
  match name with
  | .str name => [Config.Section.pacing, .search, .server].find? fun group => group.name = name
  | _ => none

def Setting.named? (group : Config.Section) (key : Yaml) : Option Setting :=
  match key with
  | .str key => Setting.all.find? fun setting => setting.group = group && setting.key = key
  | _ => none

/-- Gives a setting the value that a document or a variable has for it. -/
def assign (config : Config) (setting : Setting) (value : Yaml) : Loaded Config :=
  match coerce setting.kind value with
  | .ok value => .ok (config.set setting value)
  | .error .invalid => reject (.invalidValue setting value)
  | .error .unbounded => .error .unbounded

def applyEntries (group : Config.Section) : Config → List (Yaml × Yaml) → Loaded Config
  | config, [] => .ok config
  | config, (key, value) :: rest =>
      match Setting.named? group key with
      | none => reject (.unknownSetting group key)
      | some setting => do applyEntries group (← config.assign setting value) rest

def applySections : Config → List (Yaml × Yaml) → Loaded Config
  | config, [] => .ok config
  | config, (name, value) :: rest =>
      match Section.named? name, value with
      | none, _ => reject (.unknownSection name)
      | some group, .map entries => do applySections (← applyEntries group config entries) rest
      | some group, _ => reject (.sectionNotAMapping group)

/-- Takes the settings of a document. An empty document, or one that counts as false, has none. -/
def applyDocument (config : Config) (path : String) (document : Yaml) : Loaded Config :=
  if !document.isTrue then .ok config
  else
    match document with
    | .map sections => config.applySections sections
    | _ => reject (.notAMapping path)

def applyEnvironment (environment : Environment) : Config → List Setting → Loaded Config
  | config, [] => .ok config
  | config, setting :: rest =>
      match environment.get? setting.variableName with
      | none => applyEnvironment environment config rest
      | some value => do applyEnvironment environment (← config.assign setting (.str value)) rest

/-- Whether a timeframe is accepted and has a duration, which a reference time makes no difference
to. -/
def checkTimeframe (timeframe : String) : Except TimeframeFault Unit := do
  Timeframe.validate timeframe
  let _ ← Timeframe.duration timeframe ⟨0, 0⟩

def checkSearch (search : SearchSettings) : Except ConfigError Unit := do
  if search.defaultSize < 1 then throw (.defaultSize search.defaultSize)
  if search.maxResults < search.defaultSize then
    throw (.maxResults search.maxResults search.defaultSize)
  if search.maxRetries < 1 then throw (.maxRetries search.maxRetries)
  if search.largeResultLimit < 1 then throw (.largeResultLimit search.largeResultLimit)
  if search.scrollBatchSize < 1 then throw (.scrollBatchSize search.scrollBatchSize)
  if search.scrollTimeout = "" then throw .emptyScrollTimeout
  if search.defaultTimeframe ≠ "" then
    (checkTimeframe search.defaultTimeframe).mapError .defaultTimeframe

def check (config : Config) : Except ConfigError Unit := do
  config.pacing.check.mapError .pacing
  checkSearch config.search
  if config.server.port ≤ 0 || 65536 ≤ config.server.port then throw (.port config.server.port)

/-- The configuration with the settings of a file, if one is named. -/
def applyFile (config : Config) : Option (String × Except String Yaml) → Loaded Config
  | none => .ok config
  | some (path, .error detail) => reject (.unreadable path detail)
  | some (path, .ok document) => config.applyDocument path document

def load (source : ConfigSource) : Loaded Config := do
  let config ← standard.applyFile source.file
  let config ← applyEnvironment source.environment config Setting.all
  config.check.mapError .ofError
  return config

end Config

end FilterQuery
