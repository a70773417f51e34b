import FilterQuery.CommandLine.Run
import FilterQuery.Proofs.Config.Fault
import FilterQuery.Proofs.Filter.Fault
import FilterQuery.Proofs.Query.Printing
import FilterQuery.Proofs.ReferenceTime

/-!
# What a run sets up

A run reads its configuration, what is known about fields and its reference time. Each part is
read, or the run reports why it is not, or it breaks down. Main statements: `prepare_eq_ok_iff` and
`prepare_eq_broken_iff`.
-/

set_option autoImplicit false

namespace FilterQuery.CommandLine

open Number Config

/-- A text for a reference time that is in no year of the calendar in UTC, or a Unix time that no
wall clock of the zone shows for another reason than its year. -/
inductive IsUnplaced (zone : Int) (text : String) : Prop where
  | written : Filter.IsOutside text.toList → IsUnplaced zone text
  | counted {millis : Int} {fault : TimeFault} :
      Filter.readDate text.toList = .millis millis → Moment.ofMillis zone millis = .error fault →
      (∀ year, fault ≠ .yearOutOfRange year) → IsUnplaced zone text

def configSource (surroundings : Surroundings) (path : Option String) :
    Except SetupError ConfigSource := do
  let file ←
    match path with
    | none => pure none
    | some path => do
        let document ← readConfigFile surroundings path
        pure (some (path, document))
  return ⟨file, surroundings.environment⟩

variable {surroundings : Surroundings} {options : Options} {setup : Setup} {path : Option String}
  {breakdown : Breakdown}

section Reading

/-- The reader of the surroundings fails with the text of a file without saying how. -/
def Surroundings.DefeatsReader (surroundings : Surroundings) (path : String) : Prop :=
  ∃ text, surroundings.content path = .text text ∧ surroundings.reader text = .error .unforeseen

theorem readConfigFile_eq_broken_iff {path : String} :
    readConfigFile surroundings path = .error (.broken breakdown) ↔
      breakdown = .document ∧ surroundings.DefeatsReader path := by
  rw [readConfigFile, Surroundings.DefeatsReader]
  cases surroundings.content path with
  | missing reason => simp
  | closed reason => simp
  | undecodable detail => simp
  | text text =>
      simp only [Content.text.injEq, exists_eq_left']
      split
      · next read => simp [read]
      · next read => simp [read]
      · next read => simp [read]
      · next read => simp [read, eq_comm]

theorem configSource_eq_broken_iff :
    (∃ breakdown, configSource surroundings path = .error (.broken breakdown)) ↔
      ∃ file, path = some file ∧ surroundings.DefeatsReader file := by
  cases path with
  | none => exact iff_of_false (fun broken => nomatch broken) (fun broken => nomatch broken)
  | some file =>
      simp only [configSource, bind_eq_error_iff, readConfigFile_eq_broken_iff]
      constructor
      · rintro ⟨_, ⟨_, defeats⟩ | ⟨_, _, continued | ⟨_, _, continued⟩⟩⟩
        · exact ⟨file, rfl, defeats⟩
        · cases continued
        · cases continued
      · rintro ⟨_, same, defeats⟩
        cases same
        exact ⟨_, .inl ⟨rfl, defeats⟩⟩

theorem loadConfig_eq (surroundings : Surroundings) (path : Option String) :
    loadConfig surroundings path = (do
      let source ← configSource surroundings path
      match load source with
      | .ok config => return config
      | .error (.invalid error) => throw (.message error.message)
      | .error .unprintable => throw (.message unprintableMessage)
      | .error .unbounded => throw (.broken .unbounded)) := by
  cases path with
  | none => rfl
  | some path =>
      simp only [loadConfig, configSource]
      cases readConfigFile surroundings path <;> rfl

theorem check_of_loadConfig {config : Config} (loaded : loadConfig surroundings path = .ok config) :
    config.check = .ok () := by
  rw [loadConfig_eq] at loaded
  obtain ⟨source, _, loaded⟩ := bind_eq_ok_iff.mp loaded
  split at loaded
  · next config found =>
      cases loaded
      obtain ⟨_, _, _, checked⟩ := load_eq_ok_iff.mp found
      exact checked
  · cases loaded
  · cases loaded
  · cases loaded

theorem loadConfig_eq_broken_iff :
    (∃ breakdown, loadConfig surroundings path = .error (.broken breakdown)) ↔
      (∃ file, path = some file ∧ surroundings.DefeatsReader file) ∨
      ∃ source setting value, configSource surroundings path = .ok source ∧
        Reaches source.assignments (.ok (setting, value)) ∧ IsTooLarge setting.kind value := by
  rw [← configSource_eq_broken_iff, loadConfig_eq]
  simp only [bind_eq_error_iff]
  constructor
  · rintro ⟨breakdown, stopped | ⟨source, found, stopped⟩⟩
    · exact .inl ⟨breakdown, stopped⟩
    · split at stopped
      · cases stopped
      · cases stopped
      · cases stopped
      · next unbounded =>
          obtain ⟨setting, value, reached, tooLarge⟩ := load_eq_unbounded_iff.mp unbounded
          exact .inr ⟨source, setting, value, found, reached, tooLarge⟩
  · rintro (⟨breakdown, stopped⟩ | ⟨source, setting, value, found, reached, tooLarge⟩)
    · exact ⟨breakdown, .inl stopped⟩
    · refine ⟨.unbounded, .inr ⟨source, found, ?_⟩⟩
      rw [load_eq_unbounded_iff.mpr ⟨setting, value, reached, tooLarge⟩]
      rfl

theorem loadFields_eq_broken_iff :
    (∃ breakdown, loadFields surroundings path = .error (.broken breakdown)) ↔
      ∃ file, path = some file ∧ file ≠ "" ∧
        ∃ reason, surroundings.content file = .closed reason := by
  unfold loadFields
  split
  · exact iff_of_false (fun broken => nomatch broken) (fun broken => nomatch broken)
  · refine iff_of_false (fun broken => nomatch broken) ?_
    rintro ⟨file, same, filled, _⟩
    exact filled (Option.some.inj same).symm
  · next file filled =>
      have filled : file ≠ "" := fun empty => filled empty
      simp only [Option.some.injEq, exists_eq_left']
      split
      · next content => simp [content]
      · next content => simp [content, filled]
      · next content => simp [content]
      · next content =>
          simp only [content, reduceCtorEq, exists_const, and_false, iff_false, not_exists]
          intro breakdown
          split
          · simp
          · simp
          · next response _ => cases cacheOf response <;> simp

theorem not_isUnplaced_empty (zone : Int) : ¬IsUnplaced zone "" := by
  intro unplaced
  cases unplaced with
  | written outside => exact outside.ne_nil rfl
  | counted read _ _ => cases read

theorem isUnplaced_iff {zone : Int} {text : String} :
    IsUnplaced zone text ↔ ∃ fault, readReference zone text = .error (.unrepresentable fault) ∧
      ∀ year, fault ≠ .yearOutOfRange year := by
  constructor
  · intro unplaced
    cases unplaced with
    | written outside =>
        refine ⟨.outsideCalendar, ?_, by simp⟩
        unfold readReference
        rw [Filter.readDate_eq_outsideCalendar_iff.mpr outside]
    | counted read stopped unlike =>
        refine ⟨_, ?_, unlike⟩
        unfold readReference
        simp only [read, stopped, mapError_error]
  · rintro ⟨fault, stopped, unlike⟩
    unfold readReference at stopped
    split at stopped
    · cases stopped
    · next read => exact .written (Filter.readDate_eq_outsideCalendar_iff.mp read)
    · next millis read =>
        cases placed : Moment.ofMillis zone millis with
        | ok moment => simp [placed] at stopped
        | error other =>
            simp only [placed, mapError_error, Except.error.injEq,
              ReferenceFault.unrepresentable.injEq] at stopped
            subst stopped
            exact .counted read placed unlike

theorem readNow_eq_broken_iff {zone : Int} {current : Moment} {value : Option String} :
    (∃ breakdown, readNow zone current value = .error (.broken breakdown)) ↔
      ∃ text, value = some text ∧ IsUnplaced zone text := by
  unfold readNow
  split
  · exact iff_of_false (fun broken => nomatch broken) (fun broken => nomatch broken)
  · refine iff_of_false (fun broken => nomatch broken) ?_
    rintro ⟨text, same, unplaced⟩
    cases same
    exact not_isUnplaced_empty zone unplaced
  · next text filled =>
      simp only [Option.some.injEq, exists_eq_left', isUnplaced_iff]
      split
      · next read => simp [read]
      · next read => simp [read]
      · next read => simp [read]
      · next fault unlike read =>
          exact iff_of_true ⟨_, rfl⟩ ⟨fault, read, fun year same => unlike year same⟩

/-- Without a file and without variables the configuration is the standard one. -/
theorem loadConfig_none (unset : surroundings.environment = []) :
    loadConfig surroundings none = .ok standard := by
  have loaded : load ⟨none, []⟩ = .ok standard := toOption_eq_some_iff.mp (by decide +kernel)
  rw [loadConfig_eq]
  simp only [configSource, unset, bind, Except.bind, pure, Except.pure, loaded]

end Reading

section Preparing

theorem prepare_eq_broken_iff :
    (∃ breakdown, prepare surroundings options = .error (.broken breakdown)) ↔
      (∃ breakdown, loadConfig surroundings options.config = .error (.broken breakdown)) ∨
      (∃ config, loadConfig surroundings options.config = .ok config ∧
        ∃ breakdown, loadFields surroundings options.fieldsFile = .error (.broken breakdown)) ∨
      ∃ config cache, loadConfig surroundings options.config = .ok config ∧
        loadFields surroundings options.fieldsFile = .ok cache ∧
        ∃ breakdown, readNow surroundings.zone surroundings.current options.now =
          .error (.broken breakdown) := by
  simp only [prepare, bind_eq_error_iff]
  constructor
  · rintro ⟨breakdown, stopped |
      ⟨config, loaded, stopped | ⟨cache, known, stopped | ⟨_, _, continued⟩⟩⟩⟩
    · exact .inl ⟨breakdown, stopped⟩
    · exact .inr (.inl ⟨config, loaded, breakdown, stopped⟩)
    · exact .inr (.inr ⟨config, cache, loaded, known, breakdown, stopped⟩)
    · cases continued
  · rintro (⟨breakdown, stopped⟩ | ⟨config, loaded, breakdown, stopped⟩ |
      ⟨config, cache, loaded, known, breakdown, stopped⟩)
    · exact ⟨breakdown, .inl stopped⟩
    · exact ⟨breakdown, .inr ⟨config, loaded, .inl stopped⟩⟩
    · exact ⟨breakdown, .inr ⟨config, loaded, .inr ⟨cache, known, .inl stopped⟩⟩⟩

theorem prepare_eq_ok_iff :
    prepare surroundings options = .ok setup ↔
      loadConfig surroundings options.config = .ok setup.config ∧
        loadFields surroundings options.fieldsFile = .ok setup.cache ∧
        readNow surroundings.zone surroundings.current options.now = .ok setup.now := by
  simp only [prepare, bind_eq_ok_iff]
  constructor
  · rintro ⟨config, loaded, cache, known, now, timed, same⟩
    cases same
    exact ⟨loaded, known, timed⟩
  · rintro ⟨loaded, known, timed⟩
    exact ⟨_, loaded, _, known, _, timed, rfl⟩

end Preparing

section Clock

theorem isShown_of_ofWall {zone wall : Int} {moment : Moment} (narrow : zone.natAbs < dayMicros)
    (placed : Moment.ofWall zone wall = .ok moment) : moment.IsShown := by
  simp only [Moment.ofWall] at placed
  split at placed
  · cases placed
  split at placed
  · cases placed
  split at placed
  · cases placed
  split at placed
  · next early late _ _ =>
      cases placed
      have day : 0 < dayMicros := by decide
      have inYears : InCalendar wall := ⟨by omega, by omega⟩
      exact ⟨inYears, narrow⟩
  · cases placed

theorem isShown_of_readReference {zone : Int} {text : String} {moment : Moment}
    (narrow : zone.natAbs < dayMicros) (read : readReference zone text = .ok moment) :
    moment.IsShown := by
  obtain ⟨millis, -, placed⟩ := readReference_eq_ok_iff.mp read
  obtain ⟨whole, micros, -, placed⟩ := Moment.exists_split_of_ofSeconds placed
  exact isShown_of_ofWall narrow placed

/-- A wall clock of the zone shows the moment that is read. -/
theorem isShown_of_readNow {zone : Int} {current now : Moment} {value : Option String}
    (narrow : zone.natAbs < dayMicros) (shown : current.IsShown)
    (read : readNow zone current value = .ok now) : now.IsShown := by
  cases value with
  | none =>
      obtain rfl : current = now := Except.ok.inj read
      exact shown
  | some text =>
      rcases eq_or_ne text "" with rfl | filled
      · obtain rfl : current = now := Except.ok.inj read
        exact shown
      · exact isShown_of_readReference narrow ((readNow_eq_ok_iff filled).mp read)

/-- The clock of the surroundings is a wall clock, in a zone less than a day from UTC. -/
structure Surroundings.IsReal (surroundings : Surroundings) : Prop where
  zone : surroundings.zone.natAbs < dayMicros
  current : surroundings.current.IsShown

theorem checked_of_prepare (prepared : prepare surroundings options = .ok setup) :
    setup.config.check = .ok () :=
  check_of_loadConfig (prepare_eq_ok_iff.mp prepared).1

theorem isShown_of_prepare (real : surroundings.IsReal)
    (prepared : prepare surroundings options = .ok setup) : setup.now.IsShown :=
  isShown_of_readNow real.zone real.current (prepare_eq_ok_iff.mp prepared).2.2

/-- No files and no variables, a reader that finds no document, and a clock that shows the first
second of 1970 in UTC. -/
def bare : Surroundings where
  reader := fun _ => .error (.malformed malformedMessage)
  content := fun _ => .nothing
  environment := []
  zone := 0
  current := ⟨0, 0⟩

theorem isReal_bare : bare.IsReal := by
  have inYears : InCalendar 0 := by decide +kernel
  exact ⟨by decide, inYears, by decide⟩

end Clock

end FilterQuery.CommandLine
