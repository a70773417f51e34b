import FilterQuery.Config.Loading
import FilterQuery.Proofs.Query.Building
import FilterQuery.Proofs.Session.Execution
import FilterQuery.Proofs.Timeframe

/-!
# Loaded configurations

A configuration that is loaded has for every setting a value that it is offered, coerced to the kind
of the setting, and a session can search with it: what is checked while it is loaded, without a
reference time, is all that a demand for the defaults can fail on. Main statements: `load_isUsable`
and `check_eq_ok_iff_isUsable`.
-/

set_option autoImplicit false

namespace FilterQuery

open Config

/-- The value as a document has it. -/
def Config.Kind.toYaml : (kind : Kind) → kind.Value → Yaml
  | .real => .float
  | .whole => .int
  | .text => .str
  | .flag => .bool

/-- The values that a setting can get: its default, those of the entries for it in a document, and
that of its variable. -/
inductive ConfigSource.Offers (source : ConfigSource) (setting : Setting) : Yaml → Prop where
  | default : source.Offers setting (setting.kind.toYaml (standard.get setting))
  | entry {path : String} {sections entries : List (Yaml × Yaml)} {name key value : Yaml}
      {group : Config.Section} :
      source.file = some (path, .ok (.map sections)) → (name, .map entries) ∈ sections →
      Section.named? name = some group → (key, value) ∈ entries →
      Setting.named? group key = some setting → source.Offers setting value
  | variable {text : String} :
      source.environment.get? setting.variableName = some text → source.Offers setting (.str text)

namespace Config

variable {source : ConfigSource} {config after : Config} {setting : Setting} {value : Yaml}

/-- Every setting has a value that is offered for it, coerced to its kind. -/
def IsDrawnFrom (config : Config) (source : ConfigSource) : Prop :=
  ∀ setting, ∃ value, source.Offers setting value ∧
    coerce setting.kind value = .ok (config.get setting)

theorem coerce_toYaml (kind : Kind) (value : kind.Value) :
    coerce kind (kind.toYaml value) = .ok value := by
  cases kind <;> rfl

/-- What is loaded is the defaults with the settings of the file, then of the environment. -/
theorem load_eq_ok_iff :
    load source = .ok config ↔
      ∃ filed, standard.applyFile source.file = .ok filed ∧
        applyEnvironment source.environment filed Setting.all = .ok config ∧
        config.check = .ok () := by
  simp only [load, bind_eq_ok_iff, mapError_eq_ok_iff]
  constructor
  · intro loaded
    obtain ⟨filed, applied, full, overridden, _, checked, same⟩ := loaded
    cases same
    exact ⟨filed, applied, overridden, checked⟩
  · intro loaded
    obtain ⟨filed, applied, overridden, checked⟩ := loaded
    exact ⟨filed, applied, config, overridden, (), checked, rfl⟩

theorem assign_eq_ok_iff :
    config.assign setting value = .ok after ↔
      ∃ coerced, coerce setting.kind value = .ok coerced ∧ after = config.set setting coerced := by
  simp only [assign]
  cases read : coerce setting.kind value with
  | ok coerced => simp [eq_comm]
  | error fault => cases fault <;> simp [reject]

section Induction

variable {motive : Config → Prop}

theorem applyEntries_induction {group : Config.Section} {entries : List (Yaml × Yaml)}
    (applied : applyEntries group config entries = .ok after) (start : motive config)
    (kept : ∀ {config after setting key value}, (key, value) ∈ entries →
      Setting.named? group key = some setting → motive config →
      config.assign setting value = .ok after → motive after) : motive after := by
  induction entries generalizing config with
  | nil =>
      cases applied
      exact start
  | cons entry rest ih =>
      obtain ⟨key, value⟩ := entry
      rw [applyEntries] at applied
      cases named : Setting.named? group key with
      | none =>
          rw [named] at applied
          cases applied
      | some setting =>
          rw [named] at applied
          obtain ⟨next, assigned, applied⟩ := bind_eq_ok_iff.mp applied
          have first : motive next := kept List.mem_cons_self named start assigned
          exact ih applied first fun member => kept (List.mem_cons_of_mem _ member)

theorem applySections_induction {sections : List (Yaml × Yaml)}
    (applied : config.applySections sections = .ok after) (start : motive config)
    (kept : ∀ {config after group name entries}, (name, .map entries) ∈ sections →
      Section.named? name = some group → motive config →
      applyEntries group config entries = .ok after → motive after) : motive after := by
  induction sections generalizing config with
  | nil =>
      cases applied
      exact start
  | cons entry rest ih =>
      obtain ⟨name, value⟩ := entry
      unfold applySections at applied
      split at applied
      · cases applied
      · next group entries named =>
          obtain ⟨next, taken, applied⟩ := bind_eq_ok_iff.mp applied
          have first : motive next := kept List.mem_cons_self named start taken
          exact ih applied first fun member => kept (List.mem_cons_of_mem _ member)
      · cases applied

theorem applyEnvironment_induction {environment : Environment} {settings : List Setting}
    (applied : applyEnvironment environment config settings = .ok after) (start : motive config)
    (kept : ∀ {config after setting text}, environment.get? setting.variableName = some text →
      motive config → config.assign setting (.str text) = .ok after → motive after) :
    motive after := by
  induction settings generalizing config with
  | nil =>
      cases applied
      exact start
  | cons setting rest ih =>
      rw [applyEnvironment] at applied
      cases found : environment.get? setting.variableName with
      | none =>
          rw [found] at applied
          exact ih applied start
      | some text =>
          rw [found] at applied
          obtain ⟨next, assigned, applied⟩ := bind_eq_ok_iff.mp applied
          have first : motive next := kept found start assigned
          exact ih applied first

/-- The sections that a file has settings in, if it can be applied. -/
theorem applyFile_cases {file : Option (String × Except String Yaml)}
    (applied : config.applyFile file = .ok after) :
    after = config ∨ ∃ path sections, file = some (path, .ok (.map sections)) ∧
      config.applySections sections = .ok after := by
  match file with
  | none =>
      cases applied
      exact .inl rfl
  | some (path, .error detail) => cases applied
  | some (path, .ok document) =>
      simp only [applyFile] at applied
      unfold applyDocument at applied
      split at applied
      · cases applied
        exact .inl rfl
      · split at applied
        · exact .inr ⟨path, _, rfl, applied⟩
        · cases applied

/-- What holds of the defaults, and still holds when a setting is given a value that is offered for
it, holds of a configuration that is loaded. -/
theorem load_induction (loaded : load source = .ok config) (start : motive standard)
    (kept : ∀ {config after setting value}, source.Offers setting value → motive config →
      config.assign setting value = .ok after → motive after) : motive config := by
  obtain ⟨filed, applied, overridden, -⟩ := load_eq_ok_iff.mp loaded
  have started : motive filed := by
    rcases applyFile_cases applied with rfl | ⟨path, sections, named, applied⟩
    · exact start
    · refine applySections_induction applied start ?_
      intro _ _ group name entries inDocument isGroup holds applied
      refine applyEntries_induction applied holds ?_
      intro _ _ setting key value inSection isSetting
      exact kept (.entry named inDocument isGroup inSection isSetting)
  exact applyEnvironment_induction overridden started fun found => kept (.variable found)

end Induction

theorem isDrawnFrom_standard (source : ConfigSource) : standard.IsDrawnFrom source :=
  fun _ => ⟨_, .default, coerce_toYaml _ _⟩

theorem IsDrawnFrom.assign (drawn : config.IsDrawnFrom source)
    (offered : source.Offers setting value)
    (assigned : config.assign setting value = .ok after) : after.IsDrawnFrom source := by
  obtain ⟨coerced, read, rfl⟩ := assign_eq_ok_iff.mp assigned
  intro other
  by_cases same : other = setting
  · subst same
    exact ⟨value, offered, by rw [get_set_self, read]⟩
  · rw [get_set_of_ne config coerced same]
    exact drawn other

theorem load_isDrawnFrom (loaded : load source = .ok config) : config.IsDrawnFrom source :=
  load_induction (motive := fun config => config.IsDrawnFrom source) loaded
    (isDrawnFrom_standard source) fun offered drawn assigned => drawn.assign offered assigned

/-- What is checked of a timeframe, at one reference time, says whether it has a window at any. -/
theorem checkTimeframe_eq_ok_iff {timeframe : String} (now : Moment) :
    checkTimeframe timeframe = .ok () ↔ ∃ window, Timeframe.window timeframe now = .ok window := by
  constructor
  · intro accepted
    obtain ⟨valid, known⟩ := check_bind_eq_ok_iff.mp accepted
    obtain ⟨_, known, _⟩ := bind_eq_ok_iff.mp known
    obtain ⟨micros, lasts⟩ := Timeframe.exists_duration known now
    exact ⟨_, check_bind_eq_ok_iff.mpr ⟨valid, bind_eq_ok_iff.mpr ⟨micros, lasts, rfl⟩⟩⟩
  · intro known
    obtain ⟨window, known⟩ := known
    obtain ⟨valid, known⟩ := check_bind_eq_ok_iff.mp known
    obtain ⟨_, known, _⟩ := bind_eq_ok_iff.mp known
    obtain ⟨micros, lasts⟩ := Timeframe.exists_duration known ⟨0, 0⟩
    exact check_bind_eq_ok_iff.mpr ⟨valid, bind_eq_ok_iff.mpr ⟨micros, lasts, rfl⟩⟩

theorem checkSearch_eq_ok_iff {search : SearchSettings} (now : Moment) :
    checkSearch search = .ok () ↔
      1 ≤ search.defaultSize ∧ search.defaultSize ≤ search.maxResults ∧ 1 ≤ search.maxRetries ∧
        1 ≤ search.largeResultLimit ∧ 1 ≤ search.scrollBatchSize ∧ search.scrollTimeout ≠ "" ∧
        ∃ time, Query.IsTime search.defaultTimeframe now time := by
  simp only [checkSearch, guard_eq_ok_iff, check_when_eq_ok_iff, mapError_eq_ok_iff, Int.not_lt,
    checkTimeframe_eq_ok_iff now, Query.exists_isTime_iff, ne_eq, or_iff_not_imp_left]

theorem check_eq_ok_iff :
    config.check = .ok () ↔ config.pacing.check = .ok () ∧ checkSearch config.search = .ok () ∧
      0 < config.server.port ∧ config.server.port < 65536 := by
  simp only [check, check_bind_eq_ok_iff, mapError_eq_ok_iff, last_guard_eq_ok_iff,
    Bool.or_eq_true, decide_eq_true_eq, not_or, Int.not_le]

/-- A session can be started with the configuration and search with its defaults at any time. -/
structure IsUsable (config : Config) : Prop where
  defaultSize : 1 ≤ config.search.defaultSize ∧ config.search.defaultSize ≤ config.search.maxResults
  maxRetries : 1 ≤ config.search.maxRetries
  largeResultLimit : 1 ≤ config.search.largeResultLimit
  scrollBatchSize : 1 ≤ config.search.scrollBatchSize
  scrollTimeout : config.search.scrollTimeout ≠ ""
  port : 0 < config.server.port ∧ config.server.port < 65536
  starts {σ : Type} (index : Option String) (state : σ) :
    ∃ session, Session.start config index state = .ok session ∧ session.config = config
  compiles {σ : Type} (session : Session σ) (now : Moment) : session.config = config →
    ∃ time, Query.IsTime config.search.defaultTimeframe now time ∧
      session.compile ⟨[], none, none, now⟩ = .ok ⟨time, config.search.defaultSize⟩

theorem compile_defaults {σ : Type} {session : Session σ} {now : Moment} {time : List Filter.Clause}
    (least : 1 ≤ session.config.search.defaultSize)
    (most : session.config.search.defaultSize ≤ session.config.search.maxResults)
    (isTime : Query.IsTime session.config.search.defaultTimeframe now time) :
    session.compile ⟨[], none, none, now⟩ = .ok ⟨time, session.config.search.defaultSize⟩ := by
  rw [Session.compile, Demand.compile]
  simp only [Option.getD_none, Int.not_lt.mpr most, ↓reduceIte]
  refine Query.build_eq_ok_iff.mpr ⟨by omega, time, [], isTime, .nil, ?_⟩
  rw [List.append_nil]

theorem isUsable_of_check (accepted : config.check = .ok ()) : config.IsUsable := by
  obtain ⟨pacing, search, port⟩ := check_eq_ok_iff.mp accepted
  obtain ⟨least, most, maxRetries, largeResultLimit, scrollBatchSize, scrollTimeout, -⟩ :=
    (checkSearch_eq_ok_iff ⟨0, 0⟩).mp search
  refine ⟨⟨least, most⟩, maxRetries, largeResultLimit, scrollBatchSize, scrollTimeout, port,
    fun index state => ⟨_, Session.start_of_check pacing index state, rfl⟩, ?_⟩
  intro σ session now same
  subst same
  obtain ⟨-, -, -, -, -, -, time, isTime⟩ := (checkSearch_eq_ok_iff now).mp search
  exact ⟨time, isTime, compile_defaults least most isTime⟩

theorem IsUsable.check (usable : config.IsUsable) : config.check = .ok () := by
  obtain ⟨⟨least, most⟩, maxRetries, largeResultLimit, scrollBatchSize, scrollTimeout, port, starts,
    compiles⟩ := usable
  obtain ⟨session, started, same⟩ := starts none ()
  obtain ⟨time, isTime, -⟩ := compiles session ⟨0, 0⟩ same
  obtain ⟨pacing, -⟩ := check_bind_eq_ok_iff.mp started
  exact check_eq_ok_iff.mpr ⟨pacing, (checkSearch_eq_ok_iff ⟨0, 0⟩).mpr ⟨least, most, maxRetries,
    largeResultLimit, scrollBatchSize, scrollTimeout, time, isTime⟩, port⟩

/-- Nothing is checked that a session could do without. -/
theorem check_eq_ok_iff_isUsable : config.check = .ok () ↔ config.IsUsable :=
  ⟨isUsable_of_check, IsUsable.check⟩

/-- A configuration that is loaded is usable, and its values are those of its source, each of the
kind of its setting. -/
theorem load_isUsable (loaded : load source = .ok config) :
    config.IsUsable ∧ config.IsDrawnFrom source := by
  obtain ⟨_, _, _, accepted⟩ := load_eq_ok_iff.mp loaded
  exact ⟨check_eq_ok_iff_isUsable.mp accepted, load_isDrawnFrom loaded⟩

/-- A document by hand, with texts and whole numbers for numbers, beside a variable. -/
def handwritten : ConfigSource where
  file := some ("settings.yaml", .ok (.map [
    (.str "search", .map [(.str "default_timeframe", .str " 12H "),
      (.str "default_num_results", .str "25"), (.str "max_results", .int 25)]),
    (.str "rate_limit", .map [(.str "initial_retry_delay", .int 2)])]))
  environment := [("FILTER_DSL_OPENSEARCH_PORT", "9300")]

def readFromHandwritten : Config where
  pacing := { standard.pacing with initialDelay := 2 }
  search := { standard.search with
    defaultTimeframe := " 12H "
    defaultSize := 25
    maxResults := 25 }
  server := { standard.server with port := 9300 }

theorem load_isUsable_handwritten :
    load handwritten = .ok readFromHandwritten ∧ readFromHandwritten.IsUsable ∧
      readFromHandwritten.IsDrawnFrom handwritten := by
  have loaded : load handwritten = .ok readFromHandwritten :=
    toOption_eq_some_iff.mp (by decide +kernel)
  exact ⟨loaded, load_isUsable loaded⟩

end Config

end FilterQuery
