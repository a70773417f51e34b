import FilterQuery.Number.Integer
import FilterQuery.Pacing.Settings

/-!
# Configuration

The settings of pacing, of searches and of the connection to the server, with their defaults. A
setting is named by its section and its key and has a value of one of four kinds. Main statements:
`get_set_self` and `get_set_of_ne` say that setting one value changes that value alone.
-/

set_option autoImplicit false

namespace FilterQuery

structure SearchSettings where
  defaultTimeframe : String
  defaultSize : Int
  maxResults : Int
  maxRetries : Int
  indexPattern : String
  largeResultLimit : Int
  scrollBatchSize : Int
  scrollTimeout : String
  deriving DecidableEq, Repr

structure ServerSettings where
  host : String
  port : Int
  useSsl : Bool
  verifyCerts : Bool
  username : String
  password : String
  deriving DecidableEq, Repr

structure Config where
  pacing : Pacing.Settings
  search : SearchSettings
  server : ServerSettings
  deriving DecidableEq

/-- Whether documents of a query of a size are collected in batches. -/
def SearchSettings.usesScroll (settings : SearchSettings) (size : Int) : Bool :=
  settings.largeResultLimit < size

/-- The user name and password that are sent to the server, unless there is no user name. -/
def ServerSettings.credentials? (settings : ServerSettings) : Option (String × String) :=
  if settings.username = "" then none else some (settings.username, settings.password)

namespace Config

def standard : Config where
  pacing := ⟨1, 30, 2⟩
  search := {
    defaultTimeframe := "today"
    defaultSize := 1000
    maxResults := 50000
    maxRetries := 3
    indexPattern := "*"
    largeResultLimit := 10000
    scrollBatchSize := 1000
    scrollTimeout := "5m" }
  server := {
    host := "localhost"
    port := 9200
    useSsl := false
    verifyCerts := false
    username := ""
    password := "" }

inductive Section where
  | pacing
  | search
  | server
  deriving DecidableEq, Repr

def Section.name : Section → String
  | .pacing => "rate_limit"
  | .search => "search"
  | .server => "opensearch"

inductive Kind where
  | real
  | whole
  | text
  | flag
  deriving DecidableEq, Repr

abbrev Kind.Value : Kind → Type
  | .real => Binary64
  | .whole => Int
  | .text => String
  | .flag => Bool

inductive Setting where
  | initialDelay
  | maxDelay
  | multiplier
  | defaultTimeframe
  | defaultSize
  | maxResults
  | maxRetries
  | indexPattern
  | largeResultLimit
  | scrollBatchSize
  | scrollTimeout
  | host
  | port
  | useSsl
  | verifyCerts
  | username
  | password
  deriving DecidableEq, Repr

namespace Setting

def all : List Setting :=
  [.initialDelay, .maxDelay, .multiplier, .defaultTimeframe, .defaultSize, .maxResults,
    .maxRetries, .indexPattern, .largeResultLimit, .scrollBatchSize, .scrollTimeout, .host, .port,
    .useSsl, .verifyCerts, .username, .password]

def group : Setting → Section
  | .initialDelay | .maxDelay | .multiplier => .pacing
  | .defaultTimeframe | .defaultSize | .maxResults | .maxRetries | .indexPattern
  | .largeResultLimit | .scrollBatchSize | .scrollTimeout => .search
  | .host | .port | .useSsl | .verifyCerts | .username | .password => .server

def key : Setting → String
  | .initialDelay => "initial_retry_delay"
  | .maxDelay => "max_retry_delay"
  | .multiplier => "retry_multiplier"
  | .defaultTimeframe => "default_timeframe"
  | .defaultSize => "default_num_results"
  | .maxResults => "max_results"
  | .maxRetries => "max_retries"
  | .indexPattern => "index_pattern"
  | .largeResultLimit => "large_result_limit"
  | .scrollBatchSize => "scroll_batch_size"
  | .scrollTimeout => "scroll_timeout"
  | .host => "host"
  | .port => "port"
  | .useSsl => "use_ssl"
  | .verifyCerts => "verify_certs"
  | .username => "username"
  | .password => "password"

abbrev kind : Setting → Kind
  | .initialDelay | .maxDelay | .multiplier => .real
  | .defaultSize | .maxResults | .maxRetries | .largeResultLimit | .scrollBatchSize | .port =>
      .whole
  | .defaultTimeframe | .indexPattern | .scrollTimeout | .host | .username | .password => .text
  | .useSsl | .verifyCerts => .flag

def name (setting : Setting) : String :=
  setting.group.name ++ "." ++ setting.key

def variableName (setting : Setting) : String :=
  "FILTER_DSL_" ++ setting.group.name.toUpper ++ "_" ++ setting.key.toUpper

theorem mem_all (setting : Setting) : setting ∈ all := by
  cases setting <;> decide

end Setting

def get (config : Config) : (setting : Setting) → setting.kind.Value
  | .initialDelay => config.pacing.initialDelay
  | .maxDelay => config.pacing.maxDelay
  | .multiplier => config.pacing.multiplier
  | .defaultTimeframe => config.search.defaultTimeframe
  | .defaultSize => config.search.defaultSize
  | .maxResults => config.search.maxResults
  | .maxRetries => config.search.maxRetries
  | .indexPattern => config.search.indexPattern
  | .largeResultLimit => config.search.largeResultLimit
  | .scrollBatchSize => config.search.scrollBatchSize
  | .scrollTimeout => config.search.scrollTimeout
  | .host => config.server.host
  | .port => config.server.port
  | .useSsl => config.server.useSsl
  | .verifyCerts => config.server.verifyCerts
  | .username => config.server.username
  | .password => config.server.password

def set (config : Config) : (setting : Setting) → setting.kind.Value → Config
  | .initialDelay, value => { config with pacing.initialDelay := value }
  | .maxDelay, value => { config with pacing.maxDelay := value }
  | .multiplier, value => { config with pacing.multiplier := value }
  | .defaultTimeframe, value => { config with search.defaultTimeframe := value }
  | .defaultSize, value => { config with search.defaultSize := value }
  | .maxResults, value => { config with search.maxResults := value }
  | .maxRetries, value => { config with search.maxRetries := value }
  | .indexPattern, value => { config with search.indexPattern := value }
  | .largeResultLimit, value => { config with search.largeResultLimit := value }
  | .scrollBatchSize, value => { config with search.scrollBatchSize := value }
  | .scrollTimeout, value => { config with search.scrollTimeout := value }
  | .host, value => { config with server.host := value }
  | .port, value => { config with server.port := value }
  | .useSsl, value => { config with server.useSsl := value }
  | .verifyCerts, value => { config with server.verifyCerts := value }
  | .username, value => { config with server.username := value }
  | .password, value => { config with server.password := value }

theorem get_set_self (config : Config) (setting : Setting) (value : setting.kind.Value) :
    (config.set setting value).get setting = value := by
  cases setting <;> rfl

theorem get_set_of_ne (config : Config) {setting other : Setting} (value : setting.kind.Value)
    (ne : other ≠ setting) : (config.set setting value).get other = config.get other := by
  cases setting <;> cases other <;> first | rfl | exact absurd rfl ne

end Config

end FilterQuery
