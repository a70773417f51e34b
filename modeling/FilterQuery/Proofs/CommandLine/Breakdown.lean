import FilterQuery.Proofs.CommandLine.Options
import FilterQuery.Proofs.CommandLine.Setup
import FilterQuery.Proofs.Query.Fault

/-!
# Runs that break down

A run of the command line is to print one document, to report one error or to end in its help or
usage. Main statement: `run_isOrderly_iff` says exactly which arguments, files and variables make it
break down instead.
-/

set_option autoImplicit false

namespace FilterQuery.CommandLine

open Number Config

/-- The ends that are promised of a run: one document on the output, one object with an error on the
error output, or the end of the arguments' own reading. -/
inductive IsOrderly : Ending → Prop where
  | printed {output : String} {document : Json} :
      Json.read output = .ok document → IsOrderly (.finished 0 output "")
  | refused {error message : String} :
      Json.read error = .ok (.obj [("error", .str message)]) → IsOrderly (.finished 1 "" error)
  | help : IsOrderly .help
  | usage {error : UsageError} : IsOrderly (.usage error)

def IsBroken (ending : Ending) : Prop :=
  ∃ breakdown, ending = .broken breakdown

def Setup.size (setup : Setup) (options : Options) : Int :=
  options.size.getD setup.config.search.defaultSize

def Setup.timeframe (setup : Setup) (options : Options) : String :=
  options.timeframe.getD setup.config.search.defaultTimeframe

def Setup.Allows (setup : Setup) (options : Options) : Prop :=
  0 ≤ setup.size options ∧ setup.size options ≤ setup.config.search.maxResults

/-- What makes a run break down, in the order in which it is come upon. -/
inductive BreaksDown (surroundings : Surroundings) (options : Options) : Prop where
  /-- The number of a timeframe that is checked has too many digits. -/
  | checked {timeframe : String} {digits : Nat} :
      options.checkTimeframe = some timeframe → Timeframe.IsOverlong timeframe digits →
      BreaksDown surroundings options
  /-- The reader of configuration documents fails without saying how. -/
  | document {path : String} :
      options.checkTimeframe = none → options.config = some path →
      surroundings.DefeatsReader path → BreaksDown surroundings options
  /-- A number in a configuration is too large for its setting. -/
  | setting {source : ConfigSource} {setting : Config.Setting} {value : Yaml} :
      options.checkTimeframe = none → configSource surroundings options.config = .ok source →
      Reaches source.assignments (.ok (setting, value)) → IsTooLarge setting.kind value →
      BreaksDown surroundings options
  /-- There is something where the file with fields should be, but it cannot be opened. -/
  | closed {config : Config} {path reason : String} :
      options.checkTimeframe = none → loadConfig surroundings options.config = .ok config →
      options.fieldsFile = some path → path ≠ "" → surroundings.content path = .closed reason →
      BreaksDown surroundings options
  | now {config : Config} {cache : Field.Cache} {text : String} :
      options.checkTimeframe = none → loadConfig surroundings options.config = .ok config →
      loadFields surroundings options.fieldsFile = .ok cache → options.now = some text →
      IsUnplaced surroundings.zone text → BreaksDown surroundings options
  /-- The number of the timeframe has too many digits. -/
  | timeframe {setup : Setup} {timeframe : String} {digits : Nat} :
      options.checkTimeframe = none → prepare surroundings options = .ok setup →
      setup.Allows options → options.timeframe = some timeframe →
      Timeframe.IsOverlong timeframe digits → BreaksDown surroundings options
  /-- A filter is neither accepted nor rejected. -/
  | filter {setup : Setup} {time : List Filter.Clause} {filter : String}
      {breakdown : Filter.Breakdown} :
      options.checkTimeframe = none → prepare surroundings options = .ok setup →
      setup.Allows options → Query.IsTime (setup.timeframe options) setup.now time →
      filter ∈ options.filters →
      Filter.BreaksDown setup.cache (Text.strip filter.toList) breakdown →
      BreaksDown surroundings options
  /-- There is a query, but its size is a default with too many digits to be printed. -/
  | size {setup : Setup} {query : Query} :
      options.checkTimeframe = none → prepare surroundings options = .ok setup →
      options.size = none → isWritable setup.config.search.defaultSize = false →
      Query.build options.filters setup.config.search.defaultSize (setup.timeframe options)
        setup.cache setup.now = .ok query →
      BreaksDown surroundings options

variable {surroundings : Surroundings} {options : Options} {setup : Setup}

section Reports

theorem isOrderly_failed (message : String) : IsOrderly (failed message) :=
  .refused (Json.read_lineText rfl)

theorem isOrderly_failedPage (message : String) : IsOrderly (failedPage message) :=
  .refused (Json.read_pageText rfl)

theorem isOrderly_succeeded {value : Json} (writable : value.unwritable? = none) :
    IsOrderly (succeeded value) := by
  rw [succeeded, writable]
  exact .printed (Json.read_pageText writable)

theorem isBroken_succeeded_iff {value : Json} :
    IsBroken (succeeded value) ↔ value.unwritable? ≠ none := by
  rw [succeeded]
  cases value.unwritable? with
  | none => exact iff_of_false (fun broken => nomatch broken) (fun some => some rfl)
  | some integer => exact iff_of_true ⟨_, rfl⟩ (Option.some_ne_none integer)

/-- The ends that a run has once its arguments are read. -/
inductive IsReported : Ending → Prop where
  | printed (value : Json) : IsReported (succeeded value)
  | refused (message : String) : IsReported (failed message)
  | refusedPage (message : String) : IsReported (failedPage message)
  | broken (breakdown : Breakdown) : IsReported (.broken breakdown)

theorem IsBroken.not_isOrderly {ending : Ending} (broken : IsBroken ending) :
    ¬IsOrderly ending := by
  obtain ⟨_, rfl⟩ := broken
  exact fun orderly => nomatch orderly

theorem IsReported.isOrderly_iff {ending : Ending} (reported : IsReported ending) :
    IsOrderly ending ↔ ¬IsBroken ending := by
  refine ⟨fun orderly broken => broken.not_isOrderly orderly, fun whole => ?_⟩
  cases reported with
  | printed value =>
      refine isOrderly_succeeded ?_
      rwa [isBroken_succeeded_iff, ne_eq, not_not] at whole
  | refused message => exact isOrderly_failed message
  | refusedPage message => exact isOrderly_failedPage message
  | broken breakdown => exact absurd ⟨breakdown, rfl⟩ whole

theorem isReported_ending (error : SetupError) : IsReported error.ending := by
  cases error with
  | message text => exact .refused text
  | broken breakdown => exact .broken breakdown

theorem isReported_checkTimeframe (current : Moment) (timeframe : String) :
    IsReported (checkTimeframe current timeframe) := by
  simp only [checkTimeframe]
  split
  · exact .printed _
  · exact .refused _
  · exact .broken _

theorem isReported_compile (setup : Setup) (options : Options) :
    IsReported (compile setup options) := by
  simp only [compile]
  split
  · exact .printed _
  · exact .refused _
  · exact .refusedPage _
  · exact .refusedPage _
  · exact .broken _

theorem isReported_perform (surroundings : Surroundings) (options : Options) :
    IsReported (perform surroundings options) := by
  simp only [perform]
  split
  · exact isReported_checkTimeframe _ _
  · split
    · exact isReported_ending _
    · exact isReported_compile _ _

theorem isBroken_ending_iff {error : SetupError} :
    IsBroken error.ending ↔ ∃ breakdown, error = .broken breakdown := by
  cases error with
  | message text => exact iff_of_false (fun broken => nomatch broken) (fun broken => nomatch broken)
  | broken breakdown => exact iff_of_true ⟨_, rfl⟩ ⟨_, rfl⟩

theorem isBroken_checkTimeframe_iff {current : Moment} {timeframe : String} :
    IsBroken (checkTimeframe current timeframe) ↔
      ∃ digits, Timeframe.IsOverlong timeframe digits := by
  simp only [← Timeframe.checked_eq_tooManyDigits_iff current, checkTimeframe]
  split
  · next micros found =>
      simp only [found, isBroken_succeeded_iff, reduceCtorEq, exists_false, iff_false]
      exact not_not.mpr rfl
  · next error found =>
      simp only [found, Except.error.injEq, reduceCtorEq, exists_false, iff_false]
      exact fun broken => nomatch broken
  · next digits found => exact iff_of_true ⟨_, rfl⟩ ⟨digits, found⟩

end Reports

section Compiling

theorem not_isOverlong_default {config : Config} (checked : config.check = .ok ()) (digits : Nat) :
    ¬Timeframe.IsOverlong config.search.defaultTimeframe digits := by
  obtain ⟨_, search, _⟩ := check_eq_ok_iff.mp checked
  obtain ⟨-, -, -, -, -, -, time, isTime⟩ := (checkSearch_eq_ok_iff ⟨0, 0⟩).mp search
  intro overlong
  have stopped : Query.timeClauses config.search.defaultTimeframe ⟨0, 0⟩ =
      .error (.broken (.tooManyDigits digits)) :=
    Query.timeClauses_eq_broken_iff.mpr ⟨digits, overlong, rfl⟩
  rw [Query.timeClauses_eq_ok_iff.mpr isTime] at stopped
  cases stopped

def Setup.demand (setup : Setup) (options : Options) : Demand :=
  ⟨options.filters, options.size, options.timeframe, setup.now⟩

def Setup.result (setup : Setup) (options : Options) : Except QueryFault Query :=
  (setup.demand options).compile setup.config.search setup.cache

theorem compile_eq (setup : Setup) (options : Options) :
    compile setup options = match setup.result options with
      | .ok query => succeeded query.toJson
      | .error (.query error@(.sizeTooLarge _ _)) => failed error.message
      | .error (.query error) => failedPage error.message
      | .error (.timeframe error) => failedPage (timeQueryMessage error)
      | .error (.broken breakdown) => .broken (.query breakdown) :=
  rfl

theorem isBroken_compile_iff_result :
    IsBroken (compile setup options) ↔
      (∃ query, setup.result options = .ok query ∧ query.toJson.unwritable? ≠ none) ∨
        ¬Query.IsDocumented (setup.result options) := by
  rw [compile_eq, Query.isDocumented_iff_forall]
  split
  · next query found => simp [found, isBroken_succeeded_iff]
  · next found => simp [found, IsBroken, failed]
  · next found => simp [found, IsBroken, failedPage]
  · next found => simp [found, IsBroken, failedPage]
  · next found => simp [found, IsBroken]

theorem result_of_le (within : setup.size options ≤ setup.config.search.maxResults) :
    setup.result options = Query.build options.filters (setup.size options)
      (setup.timeframe options) setup.cache setup.now :=
  if_neg (Int.not_lt.mpr within)

theorem result_eq_ofError (above : setup.config.search.maxResults < setup.size options) :
    setup.result options = .error
      (.ofError (.sizeTooLarge (setup.size options) setup.config.search.maxResults)) :=
  if_pos above

theorem build_of_result {query : Query} (found : setup.result options = .ok query) :
    Query.build options.filters (setup.size options) (setup.timeframe options) setup.cache
      setup.now = .ok query := by
  by_cases within : setup.size options ≤ setup.config.search.maxResults
  · rwa [← result_of_le within]
  · rw [result_eq_ofError (Int.not_le.mp within)] at found
    cases found

/-- Only a default size may not be written. -/
theorem size_of_unwritable
    (writable : ∀ size, options.size = some size → isWritable size = true)
    (unwritable : isWritable (setup.size options) = false) :
    options.size = none ∧ setup.size options = setup.config.search.defaultSize := by
  cases asked : options.size with
  | none => exact ⟨rfl, by rw [Setup.size, asked, Option.getD_none]⟩
  | some size =>
      rw [Setup.size, asked, Option.getD_some, writable size asked] at unwritable
      cases unwritable

/-- A query that is built cannot be printed when its size is a default with too many digits. -/
theorem exists_unwritable_iff (shown : setup.now.IsShown)
    (writable : ∀ size, options.size = some size → isWritable size = true) :
    (∃ query, Query.build options.filters (setup.size options) (setup.timeframe options)
        setup.cache setup.now = .ok query ∧ query.toJson.unwritable? ≠ none) ↔
      options.size = none ∧ isWritable setup.config.search.defaultSize = false ∧
        ∃ query, Query.build options.filters setup.config.search.defaultSize
          (setup.timeframe options) setup.cache setup.now = .ok query := by
  constructor
  · rintro ⟨query, built, unwritable⟩
    rw [ne_eq, Query.unwritable?_toJson_eq_none_iff shown built, Bool.not_eq_true,
      Query.size_of_build built] at unwritable
    obtain ⟨asked, default⟩ := size_of_unwritable writable unwritable
    rw [default] at unwritable built
    exact ⟨asked, unwritable, query, built⟩
  · rintro ⟨asked, unwritable, query, built⟩
    have default : setup.size options = setup.config.search.defaultSize := by
      rw [Setup.size, asked, Option.getD_none]
    rw [default]
    refine ⟨query, built, ?_⟩
    rw [ne_eq, Query.unwritable?_toJson_eq_none_iff shown built, Query.size_of_build built,
      unwritable]
    exact Bool.false_ne_true

/-- What makes the compiling of a demand break down, unless its size is refused first. -/
inductive Setup.BreaksOff (setup : Setup) (options : Options) : Prop where
  | timeframe {timeframe : String} {digits : Nat} :
      options.timeframe = some timeframe → Timeframe.IsOverlong timeframe digits →
      setup.BreaksOff options
  | filter {time : List Filter.Clause} {filter : String} {breakdown : Filter.Breakdown} :
      Query.IsTime (setup.timeframe options) setup.now time → filter ∈ options.filters →
      Filter.BreaksDown setup.cache (Text.strip filter.toList) breakdown →
      setup.BreaksOff options

section Checked

variable (checked : setup.config.check = .ok ())
include checked

theorem one_le_defaultSize :
    1 ≤ setup.config.search.defaultSize ∧
      setup.config.search.defaultSize ≤ setup.config.search.maxResults := by
  obtain ⟨_, search, _⟩ := check_eq_ok_iff.mp checked
  obtain ⟨least, most, -⟩ := (checkSearch_eq_ok_iff ⟨0, 0⟩).mp search
  exact ⟨least, most⟩

/-- A size above the limit is refused. It was asked for, so it may be shown, and so may the limit
below it. -/
theorem result_of_lt (writable : ∀ size, options.size = some size → isWritable size = true)
    (above : setup.config.search.maxResults < setup.size options) :
    setup.result options =
      .error (.query (.sizeTooLarge (setup.size options) setup.config.search.maxResults)) := by
  obtain ⟨least, most⟩ := one_le_defaultSize checked
  have sizeShort : isWritable (setup.size options) = true := by
    by_contra long
    obtain ⟨-, default⟩ := size_of_unwritable writable (Bool.eq_false_iff.mpr long)
    omega
  have limitShort : isWritable setup.config.search.maxResults = true := by
    rw [isWritable_iff] at sizeShort ⊢
    omega
  rw [result_eq_ofError above, QueryFault.ofError]
  simp [QueryError.shownIntegers, sizeShort, limitShort]

theorem breaksOff_iff (writable : ∀ size, options.size = some size → isWritable size = true) :
    Query.BreaksOff options.filters (setup.size options) (setup.timeframe options) setup.cache
        setup.now ↔
      0 ≤ setup.size options ∧ setup.BreaksOff options := by
  obtain ⟨least, most⟩ := one_le_defaultSize checked
  constructor
  · intro breaksOff
    cases breaksOff with
    | size negative long =>
        -- Nobody can ask for such a size, and no default is negative.
        obtain ⟨-, default⟩ := size_of_unwritable writable long
        omega
    | @timeframe digits nonneg overlong =>
        cases asked : options.timeframe with
        | none =>
            rw [Setup.timeframe, asked, Option.getD_none] at overlong
            exact absurd overlong (not_isOverlong_default checked digits)
        | some timeframe =>
            rw [Setup.timeframe, asked, Option.getD_some] at overlong
            exact ⟨nonneg, .timeframe asked overlong⟩
    | filter nonneg isTime member breaks => exact ⟨nonneg, .filter isTime member breaks⟩
  · rintro ⟨nonneg, asked | ⟨isTime, member, breaks⟩⟩
    · next timeframe digits overlong =>
        have named : setup.timeframe options = timeframe := by
          rw [Setup.timeframe, asked, Option.getD_some]
        exact .timeframe nonneg (named ▸ overlong)
    · exact .filter nonneg isTime member breaks

theorem isBroken_compile_iff (shown : setup.now.IsShown)
    (writable : ∀ size, options.size = some size → isWritable size = true) :
    IsBroken (compile setup options) ↔
      setup.Allows options ∧ setup.BreaksOff options ∨
        options.size = none ∧ isWritable setup.config.search.defaultSize = false ∧
          ∃ query, Query.build options.filters setup.config.search.defaultSize
            (setup.timeframe options) setup.cache setup.now = .ok query := by
  rw [isBroken_compile_iff_result]
  by_cases within : setup.size options ≤ setup.config.search.maxResults
  · have allowed : setup.Allows options ↔ 0 ≤ setup.size options := and_iff_left within
    rw [result_of_le within, Query.build_isDocumented_iff, not_not, breaksOff_iff checked writable,
      exists_unwritable_iff shown writable, allowed]
    exact or_comm
  -- A size above the limit is asked for, so it is refused in a message that can be printed.
  · have above := Int.not_le.mp within
    obtain ⟨_, most⟩ := one_le_defaultSize checked
    rw [result_of_lt checked writable above]
    refine iff_of_false ?_ ?_
    · rintro (⟨query, found, _⟩ | undocumented)
      · cases found
      · exact undocumented .refused
    · rintro (⟨⟨_, below⟩, _⟩ | ⟨asked, _, _⟩)
      · exact within below
      · rw [Setup.size, asked, Option.getD_none] at above
        omega

end Checked

end Compiling

theorem perform_of_checkTimeframe {timeframe : String}
    (asked : options.checkTimeframe = some timeframe) :
    perform surroundings options = checkTimeframe surroundings.current timeframe := by
  simp only [perform, asked]

theorem perform_of_prepare (unchecked : options.checkTimeframe = none)
    (prepared : prepare surroundings options = .ok setup) :
    perform surroundings options = compile setup options := by
  simp only [perform, unchecked, prepared]

theorem perform_of_error {error : SetupError} (unchecked : options.checkTimeframe = none)
    (stopped : prepare surroundings options = .error error) :
    perform surroundings options = error.ending := by
  simp only [perform, unchecked, stopped]

theorem breaksDown_of_isBroken (real : surroundings.IsReal)
    (writable : ∀ size, options.size = some size → isWritable size = true)
    (broken : IsBroken (perform surroundings options)) : BreaksDown surroundings options := by
  cases checks : options.checkTimeframe with
  | some timeframe =>
      rw [perform_of_checkTimeframe checks, isBroken_checkTimeframe_iff] at broken
      obtain ⟨digits, overlong⟩ := broken
      exact .checked checks overlong
  | none =>
      cases prepared : prepare surroundings options with
      | error error =>
          rw [perform_of_error checks prepared, isBroken_ending_iff] at broken
          obtain ⟨breakdown, rfl⟩ := broken
          have stopped := prepare_eq_broken_iff.mp ⟨breakdown, prepared⟩
          simp only [loadConfig_eq_broken_iff, loadFields_eq_broken_iff,
            readNow_eq_broken_iff] at stopped
          rcases stopped with (⟨file, asked, defeats⟩ |
            ⟨source, setting, value, found, reached, tooLarge⟩) |
            ⟨config, loaded, path, asked, filled, reason, isClosed⟩ |
            ⟨config, cache, loaded, known, text, asked, unplaced⟩
          · exact .document checks asked defeats
          · exact .setting checks found reached tooLarge
          · exact .closed checks loaded asked filled isClosed
          · exact .now checks loaded known asked unplaced
      | ok setup =>
          rw [perform_of_prepare checks prepared, isBroken_compile_iff (checked_of_prepare prepared)
            (isShown_of_prepare real prepared) writable] at broken
          rcases broken with ⟨allowed, ⟨asked, overlong⟩ | ⟨isTime, member, breaks⟩⟩ |
            ⟨asked, unwritable, query, built⟩
          · exact .timeframe checks prepared allowed asked overlong
          · exact .filter checks prepared allowed isTime member breaks
          · exact .size checks prepared asked unwritable built

theorem isBroken_of_prepare (unchecked : options.checkTimeframe = none)
    (stopped : ∃ breakdown, prepare surroundings options = .error (.broken breakdown)) :
    IsBroken (perform surroundings options) := by
  obtain ⟨breakdown, stopped⟩ := stopped
  rw [perform_of_error unchecked stopped]
  exact ⟨breakdown, rfl⟩

theorem BreaksDown.isBroken (breaksDown : BreaksDown surroundings options)
    (real : surroundings.IsReal)
    (writable : ∀ size, options.size = some size → isWritable size = true) :
    IsBroken (perform surroundings options) := by
  have compiled {setup : Setup} (prepared : prepare surroundings options = .ok setup) :=
    isBroken_compile_iff (checked_of_prepare prepared) (isShown_of_prepare real prepared) writable
  cases breaksDown with
  | checked asked overlong =>
      rw [perform_of_checkTimeframe asked]
      exact isBroken_checkTimeframe_iff.mpr ⟨_, overlong⟩
  | document unchecked asked defeats =>
      refine isBroken_of_prepare unchecked (prepare_eq_broken_iff.mpr (.inl ?_))
      exact loadConfig_eq_broken_iff.mpr (.inl ⟨_, asked, defeats⟩)
  | setting unchecked found reached tooLarge =>
      refine isBroken_of_prepare unchecked (prepare_eq_broken_iff.mpr (.inl ?_))
      exact loadConfig_eq_broken_iff.mpr (.inr ⟨_, _, _, found, reached, tooLarge⟩)
  | closed unchecked loaded asked filled isClosed =>
      refine isBroken_of_prepare unchecked (prepare_eq_broken_iff.mpr (.inr (.inl ⟨_, loaded, ?_⟩)))
      exact loadFields_eq_broken_iff.mpr ⟨_, asked, filled, _, isClosed⟩
  | now unchecked loaded known asked unplaced =>
      refine isBroken_of_prepare unchecked
        (prepare_eq_broken_iff.mpr (.inr (.inr ⟨_, _, loaded, known, ?_⟩)))
      exact readNow_eq_broken_iff.mpr ⟨_, asked, unplaced⟩
  | timeframe unchecked prepared allowed asked overlong =>
      rw [perform_of_prepare unchecked prepared]
      exact (compiled prepared).mpr (.inl ⟨allowed, .timeframe asked overlong⟩)
  | filter unchecked prepared allowed isTime member breaks =>
      rw [perform_of_prepare unchecked prepared]
      exact (compiled prepared).mpr (.inl ⟨allowed, .filter isTime member breaks⟩)
  | size unchecked prepared asked unwritable built =>
      rw [perform_of_prepare unchecked prepared]
      exact (compiled prepared).mpr (.inr ⟨asked, unwritable, _, built⟩)

/-- A run prints one document, reports one error or ends in its help or usage, unless the options
that its arguments ask for make it break down. -/
theorem run_isOrderly_iff (surroundings : Surroundings) (arguments : List String)
    (real : surroundings.IsReal) :
    IsOrderly (run surroundings arguments) ↔
      ¬∃ options, readOptions arguments = .ok options ∧ BreaksDown surroundings options := by
  cases read : readOptions arguments with
  | error stop =>
      have orderly : IsOrderly (run surroundings arguments) := by
        rw [run, read]
        cases stop with
        | help => exact .help
        | usage error => exact .usage
      exact iff_of_true orderly (by simp)
  | ok options =>
      have writable (size : Int) : options.size = some size → isWritable size = true :=
        size_of_readOptions read
      have performed : run surroundings arguments = perform surroundings options := by
        rw [run, read]
      rw [performed, (isReported_perform surroundings options).isOrderly_iff]
      simp only [Except.ok.injEq, exists_eq_left']
      exact not_congr ⟨breaksDown_of_isBroken real writable, fun breaksDown =>
        breaksDown.isBroken real writable⟩

theorem run_isOrderly_iff_bare :
    bare.IsReal ∧ (IsOrderly (run bare ["-t", "12h"]) ↔
      ¬∃ options, readOptions ["-t", "12h"] = .ok options ∧ BreaksDown bare options) :=
  ⟨isReal_bare, run_isOrderly_iff bare ["-t", "12h"] isReal_bare⟩

/-- Midnight on the first day of year 1, an hour east of Greenwich, is in year 0 at Greenwich. -/
theorem run_earlyNow_not_orderly : ¬IsOrderly (run bare ["--now=0001-01-01T00:00:00+01:00"]) := by
  have read : readOptions ["--now=0001-01-01T00:00:00+01:00"] =
      .ok { Options.none with now := some "0001-01-01T00:00:00+01:00" } :=
    toOption_eq_some_iff.mp (by decide +kernel)
  have outside : Filter.IsOutside "0001-01-01T00:00:00+01:00".toList :=
    Filter.readDate_eq_outsideCalendar_iff.mp (by decide +kernel)
  have breaksDown : BreaksDown bare { Options.none with now := some "0001-01-01T00:00:00+01:00" } :=
    .now rfl (loadConfig_none rfl) rfl rfl (.written outside)
  rw [run, read]
  exact (breaksDown.isBroken isReal_bare fun size asked => nomatch asked).not_isOrderly

end FilterQuery.CommandLine
