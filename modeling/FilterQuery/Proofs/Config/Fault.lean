import FilterQuery.Proofs.Config.Loading

/-!
# Configurations without an answer

Loading is to give a configuration that is checked or the error in its source. It does what the
source says in order, so the first thing that cannot be done decides. Main statement:
`load_isAnswered_iff` says exactly which numbers in a source leave it without an answer.
-/

set_option autoImplicit false

namespace FilterQuery

open Number Config

namespace Config

/-- What a source says in one place: that a setting is given a value, or something that cannot be
done. -/
abbrev Assignment := Except ConfigError (Setting × Yaml)

def take (config : Config) : Assignment → Loaded Config
  | .ok (setting, value) => config.assign setting value
  | .error error => reject error

def entryAssignment (group : Config.Section) (entry : Yaml × Yaml) : Assignment :=
  match Setting.named? group entry.1 with
  | none => .error (.unknownSetting group entry.1)
  | some setting => .ok (setting, entry.2)

def sectionAssignments (entry : Yaml × Yaml) : List Assignment :=
  match Section.named? entry.1, entry.2 with
  | none, _ => [.error (.unknownSection entry.1)]
  | some group, .map entries => entries.map (entryAssignment group)
  | some group, _ => [.error (.sectionNotAMapping group)]

def fileAssignments : Option (String × Except String Yaml) → List Assignment
  | none => []
  | some (path, .error detail) => [.error (.unreadable path detail)]
  | some (path, .ok document) =>
      if !document.isTrue then []
      else
        match document with
        | .map sections => sections.flatMap sectionAssignments
        | _ => [.error (.notAMapping path)]

def environmentAssignments (environment : Environment) (settings : List Setting) :
    List Assignment :=
  settings.filterMap fun setting =>
    (environment.get? setting.variableName).map fun text => .ok (setting, .str text)

end Config

/-- Everything that a source says, in order. -/
def ConfigSource.assignments (source : ConfigSource) : List Assignment :=
  fileAssignments source.file ++ environmentAssignments source.environment Setting.all

namespace Config

variable {source : ConfigSource} {config after : Config} {assignment : Assignment}
  {fault : ConfigFault}

theorem reject_eq {α : Type} (error : ConfigError) :
    (reject error : Loaded α) = .error (.ofError error) :=
  rfl

theorem applyEntries_eq (group : Config.Section) (entries : List (Yaml × Yaml)) :
    applyEntries group config entries =
      (entries.map (entryAssignment group)).foldlM take config := by
  induction entries generalizing config with
  | nil => rfl
  | cons entry rest ih =>
      obtain ⟨key, value⟩ := entry
      rw [applyEntries, List.map_cons, List.foldlM_cons, entryAssignment]
      cases Setting.named? group key with
      | none => rfl
      | some setting => simp only [take, ih]

theorem applySections_eq (sections : List (Yaml × Yaml)) :
    config.applySections sections = (sections.flatMap sectionAssignments).foldlM take config := by
  induction sections generalizing config with
  | nil => rfl
  | cons entry rest ih =>
      obtain ⟨name, value⟩ := entry
      rw [List.flatMap_cons, List.foldlM_append, sectionAssignments]
      unfold applySections
      split
      · next unknown =>
          simp only [unknown]
          rfl
      · next group entries known =>
          simp only [known, ih, applyEntries_eq]
      · next group known notMapping =>
          simp only [known]
          rfl

theorem applyFile_eq (file : Option (String × Except String Yaml)) :
    config.applyFile file = (fileAssignments file).foldlM take config := by
  match file with
  | none => rfl
  | some (path, .error detail) => rfl
  | some (path, .ok document) =>
      simp only [applyFile, applyDocument, fileAssignments]
      split
      · rfl
      · cases document with
        | map sections => exact applySections_eq sections
        | _ => rfl

theorem applyEnvironment_eq (environment : Environment) (settings : List Setting) :
    applyEnvironment environment config settings =
      (environmentAssignments environment settings).foldlM take config := by
  induction settings generalizing config with
  | nil => rfl
  | cons setting rest ih =>
      rw [applyEnvironment, environmentAssignments, List.filterMap_cons]
      cases environment.get? setting.variableName with
      | none => exact ih
      | some text =>
          simp only [Option.map_some, List.foldlM_cons, take]
          congr 1
          funext next
          exact ih

theorem load_eq (source : ConfigSource) :
    load source = (do
      let config ← source.assignments.foldlM take standard
      config.check.mapError ConfigFault.ofError
      return config) := by
  simp only [load, applyFile_eq, applyEnvironment_eq, ConfigSource.assignments,
    List.foldlM_append, bind_assoc]

/-- The value of an assignment can be coerced to the kind of its setting. -/
def IsTaken (assignment : Assignment) : Prop :=
  ∃ setting value coerced, assignment = .ok (setting, value) ∧
    coerce setting.kind value = .ok coerced

/-- What is wrong with an assignment, whatever the configuration is like. -/
def fault? : Assignment → Option ConfigFault
  | .error error => some (.ofError error)
  | .ok (setting, value) =>
      match coerce setting.kind value with
      | .ok _ => none
      | .error .invalid => some (.ofError (.invalidValue setting value))
      | .error .unbounded => some .unbounded

theorem take_eq_error_iff :
    config.take assignment = .error fault ↔ fault? assignment = some fault := by
  match assignment with
  | .error error => simp [take, fault?, reject_eq]
  | .ok (setting, value) =>
      simp only [take, assign, fault?]
      cases coerce setting.kind value with
      | ok coerced => simp
      | error wrong => cases wrong <;> simp [reject_eq]

theorem isTaken_iff : IsTaken assignment ↔ fault? assignment = none := by
  match assignment with
  | .error error => simp [IsTaken, fault?]
  | .ok (setting, value) =>
      simp only [IsTaken, fault?]
      constructor
      · rintro ⟨_, _, coerced, ⟨⟩, read⟩
        rw [read]
      · intro sound
        split at sound
        · next coerced read => exact ⟨setting, value, coerced, rfl, read⟩
        · cases sound
        · cases sound

theorem isTaken_iff_exists : IsTaken assignment ↔ ∃ next, config.take assignment = .ok next := by
  rw [isTaken_iff]
  cases taken : config.take assignment with
  | ok next =>
      refine iff_of_true ?_ ⟨next, rfl⟩
      cases wrong : fault? assignment with
      | none => rfl
      | some fault =>
          rw [take_eq_error_iff.mpr wrong] at taken
          cases taken
  | error fault =>
      rw [take_eq_error_iff.mp taken]
      simp

/-- Nothing that stands before a place in a list is at fault. -/
def Reaches (assignments : List Assignment) (assignment : Assignment) : Prop :=
  ∃ before after, assignments = before ++ assignment :: after ∧ ∀ earlier ∈ before, IsTaken earlier

theorem foldlM_take_eq_error_iff {assignments : List Assignment} :
    assignments.foldlM take config = .error fault ↔
      ∃ assignment, Reaches assignments assignment ∧ fault? assignment = some fault := by
  -- What is wrong with an assignment does not depend on the configuration, so any will do.
  induction assignments generalizing config with
  | nil => simp [Reaches, pure, Except.pure]
  | cons first rest ih =>
      rw [List.foldlM_cons, bind_eq_error_iff, take_eq_error_iff]
      constructor
      · rintro (atFault | ⟨next, taken, failed⟩)
        · exact ⟨first, ⟨[], rest, rfl, by simp⟩, atFault⟩
        · obtain ⟨assignment, ⟨before, after, rfl, sound⟩, atFault⟩ := ih.mp failed
          have firstTaken : IsTaken first := isTaken_iff_exists.mpr ⟨next, taken⟩
          exact ⟨assignment, ⟨first :: before, after, rfl,
            List.forall_mem_cons.mpr ⟨firstTaken, sound⟩⟩, atFault⟩
      · rintro ⟨assignment, ⟨before, after, split, sound⟩, atFault⟩
        cases before with
        | nil =>
            cases split
            exact .inl atFault
        | cons earlier before =>
            cases split
            obtain ⟨firstTaken, sound⟩ := List.forall_mem_cons.mp sound
            obtain ⟨next, taken⟩ := isTaken_iff_exists.mp firstTaken
            exact .inr ⟨next, taken, ih.mpr ⟨assignment, ⟨before, after, rfl, sound⟩, atFault⟩⟩

theorem load_eq_error_iff :
    load source = .error fault ↔
      (∃ assignment, Reaches source.assignments assignment ∧ fault? assignment = some fault) ∨
        ∃ config error, source.assignments.foldlM take standard = .ok config ∧
          config.check = .error error ∧ fault = .ofError error := by
  rw [load_eq, bind_eq_error_iff, foldlM_take_eq_error_iff]
  refine or_congr_right ?_
  constructor
  · rintro ⟨config, taken, failed⟩
    rcases bind_eq_error_iff.mp failed with failed | ⟨_, _, continued⟩
    · cases checked : config.check with
      | ok _ =>
          rw [checked] at failed
          cases failed
      | error error =>
          rw [checked] at failed
          cases failed
          exact ⟨config, error, taken, checked, rfl⟩
    · cases continued
  · rintro ⟨config, error, taken, checked, rfl⟩
    refine ⟨config, taken, bind_eq_error_iff.mpr (.inl ?_)⟩
    rw [checked]
    rfl

/-- A number that is too large for a kind of setting: an infinite one for an integer, or an integer
that has no finite number near it. -/
inductive IsTooLarge : Kind → Yaml → Prop where
  | infinite (negative : Bool) : IsTooLarge .whole (.float (.infinite negative))
  | integer {value : Int} :
      (Binary64.ofInt value).isFinite = false → IsTooLarge .real (.int value)

/-- A value that is not coerced to a kind, and that holds an integer with too many digits to be
shown. -/
inductive IsUnshown : Kind → Yaml → Prop where
  | integer {value : Int} : isWritable value = false → IsUnshown .text (.int value)
  | list {kind : Kind} {items : List Yaml} :
      kind ≠ .flag → Yaml.arePrintable items = false → IsUnshown kind (.list items)
  | map {kind : Kind} {entries : List (Yaml × Yaml)} :
      kind ≠ .flag → Yaml.entriesArePrintable entries = false → IsUnshown kind (.map entries)

theorem IsUnshown.unprintable {kind : Kind} {value : Yaml} (unshown : IsUnshown kind value) :
    value.isPrintable = false := by
  cases unshown with
  | integer long => exact long
  | list _ long => exact long
  | map _ long => exact long

theorem realOfInt_cases (value : Int) :
    realOfInt value = .ok (.ofInt value) ∧ (Binary64.ofInt value).isFinite = true ∨
      realOfInt value = .error .unbounded ∧ (Binary64.ofInt value).isFinite = false := by
  rw [realOfInt]
  split
  · next finite => exact .inl ⟨rfl, finite⟩
  · next infinite => exact .inr ⟨rfl, by simpa using infinite⟩

theorem realOfInt_bit (value : Bool) : ∃ number, realOfInt (bit value) = .ok number := by
  have finite : (Binary64.ofInt (bit value)).isFinite = true := by
    cases value <;> decide +kernel
  rcases realOfInt_cases (bit value) with ⟨read, -⟩ | ⟨-, infinite⟩
  · exact ⟨_, read⟩
  · rw [finite] at infinite
    cases infinite

theorem truncate_cases (value : Binary64) :
    value = .nan ∨ (∃ negative, value = .infinite negative) ∨
      ∃ whole, value.truncate = .ok whole := by
  cases value with
  | nan => exact .inl rfl
  | infinite negative => exact .inr (.inl ⟨negative, rfl⟩)
  | finite negative magnitude => exact .inr (.inr ⟨_, rfl⟩)

theorem toReal_eq_unbounded_iff {value : Yaml} :
    toReal value = .error .unbounded ↔ IsTooLarge .real value := by
  constructor
  · intro unbounded
    cases value with
    | int value =>
        rcases realOfInt_cases value with ⟨read, -⟩ | ⟨-, infinite⟩
        · rw [toReal, read] at unbounded
          cases unbounded
        · exact .integer infinite
    | bool value =>
        obtain ⟨number, read⟩ := realOfInt_bit value
        rw [toReal, read] at unbounded
        cases unbounded
    | str text =>
        rw [toReal] at unbounded
        cases read : readBinary64? text.toList with
        | none =>
            rw [read] at unbounded
            cases unbounded
        | some number =>
            rw [read] at unbounded
            cases unbounded
    | _ => cases unbounded
  · intro tooLarge
    cases tooLarge with
    | integer infinite =>
        rw [toReal, realOfInt, infinite]
        rfl

theorem toWhole_eq_unbounded_iff {value : Yaml} :
    toWhole value = .error .unbounded ↔ IsTooLarge .whole value := by
  constructor
  · intro unbounded
    cases value with
    | float value =>
        rcases truncate_cases value with rfl | ⟨negative, rfl⟩ | ⟨whole, cut⟩
        · cases unbounded
        · exact .infinite negative
        · rw [toWhole, cut] at unbounded
          cases unbounded
    | str text =>
        rw [toWhole] at unbounded
        cases read : readInteger text.toList with
        | error wrong =>
            rw [read] at unbounded
            cases unbounded
        | ok whole =>
            rw [read] at unbounded
            cases unbounded
    | _ => cases unbounded
  · intro tooLarge
    cases tooLarge with
    | infinite negative => rfl

theorem toText_ne_unbounded (value : Yaml) : toText value ≠ .error .unbounded := by
  unfold toText
  split
  · simp
  · split <;> simp

theorem toFlag_ne_unbounded (value : Yaml) : toFlag value ≠ .error .unbounded := by
  unfold toFlag
  split
  · next text => cases namedFlag? text <;> simp
  · simp

theorem coerce_eq_unbounded_iff {kind : Kind} {value : Yaml} :
    coerce kind value = .error .unbounded ↔ IsTooLarge kind value := by
  cases kind with
  | real => exact toReal_eq_unbounded_iff
  | whole => exact toWhole_eq_unbounded_iff
  | text => exact iff_of_false (toText_ne_unbounded value) (fun tooLarge => nomatch tooLarge)
  | flag => exact iff_of_false (toFlag_ne_unbounded value) (fun tooLarge => nomatch tooLarge)

theorem toText_of_unprintable {value : Yaml} (unprintable : value.isPrintable = false) :
    toText value = .error .invalid := by
  unfold toText
  split
  · cases unprintable
  · rw [if_neg (by rw [unprintable]; exact Bool.false_ne_true)]

theorem coerce_eq_invalid_iff {kind : Kind} {value : Yaml}
    (unprintable : value.isPrintable = false) :
    coerce kind value = .error .invalid ↔ IsUnshown kind value := by
  cases kind with
  | text =>
      have refused : coerce .text value = .error .invalid := toText_of_unprintable unprintable
      refine iff_of_true refused ?_
      cases value with
      | int value => exact .integer unprintable
      | list items => exact .list (by simp) unprintable
      | map entries => exact .map (by simp) unprintable
      | _ => cases unprintable
  | flag =>
      refine iff_of_false ?_ ?_
      · cases value with
        | str text => cases unprintable
        | _ => simp [coerce, toFlag]
      · rintro (_ | ⟨other, _⟩ | ⟨other, _⟩) <;> exact other rfl
  | real =>
      cases value with
      | int value =>
          refine iff_of_false ?_ (fun unshown => nomatch unshown)
          rcases realOfInt_cases value with ⟨read, -⟩ | ⟨read, -⟩ <;> simp [coerce, toReal, read]
      | list items => exact iff_of_true rfl (.list (by simp) unprintable)
      | map entries => exact iff_of_true rfl (.map (by simp) unprintable)
      | _ => cases unprintable
  | whole =>
      cases value with
      | int value => exact iff_of_false (by simp [coerce, toWhole]) (fun unshown => nomatch unshown)
      | list items => exact iff_of_true rfl (.list (by simp) unprintable)
      | map entries => exact iff_of_true rfl (.map (by simp) unprintable)
      | _ => cases unprintable

end Config

/-- An error can be worded: it shows no integer with too many digits. -/
def ConfigError.IsWorded (error : ConfigError) : Prop :=
  ∀ value ∈ error.shownValues, value.isPrintable = true

theorem ConfigFault.ofError_cases (error : ConfigError) :
    ofError error = .invalid error ∧ error.IsWorded ∨
      ofError error = .unprintable ∧ ¬error.IsWorded := by
  simp only [ofError, ConfigError.IsWorded, ← List.all_eq_true]
  split
  · next worded => exact .inl ⟨rfl, worded⟩
  · next unworded => exact .inr ⟨rfl, unworded⟩

theorem ConfigFault.ofError_ne_unbounded (error : ConfigError) : ofError error ≠ .unbounded := by
  rcases ofError_cases error with ⟨worded, -⟩ | ⟨unworded, -⟩
  · simp [worded]
  · simp [unworded]

theorem ConfigFault.ofError_eq_unprintable_iff {error : ConfigError} :
    ofError error = .unprintable ↔ ¬error.IsWorded := by
  rcases ofError_cases error with ⟨same, worded⟩ | ⟨same, unworded⟩
  · simp [same, worded]
  · simp [same, unworded]

/-- What leaves a source without an answer: a number that is too large for its setting, or an error
that would show an integer with too many digits, in a value, in a name or in what is checked at the
end. -/
inductive ConfigSource.BreaksOff (source : ConfigSource) : Prop where
  | tooLarge {setting : Setting} {value : Yaml} :
      Reaches source.assignments (.ok (setting, value)) → IsTooLarge setting.kind value →
      source.BreaksOff
  | unshown {setting : Setting} {value : Yaml} :
      Reaches source.assignments (.ok (setting, value)) → IsUnshown setting.kind value →
      source.BreaksOff
  | unnamed {error : ConfigError} :
      Reaches source.assignments (.error error) → ¬error.IsWorded → source.BreaksOff
  | check {config : Config} {error : ConfigError} :
      source.assignments.foldlM take standard = .ok config → config.check = .error error →
      ¬error.IsWorded → source.BreaksOff

namespace Config

variable {source : ConfigSource} {assignment : Assignment}

/-- What is promised of loading: a configuration that passes all checks, or an error. -/
inductive IsAnswered : Loaded Config → Prop where
  | config {config : Config} : config.check = .ok () → IsAnswered (.ok config)
  | invalid {error : ConfigError} : IsAnswered (.error (.invalid error))

theorem fault?_eq_unbounded_iff :
    fault? assignment = some .unbounded ↔
      ∃ setting value, assignment = .ok (setting, value) ∧ IsTooLarge setting.kind value := by
  simp only [← coerce_eq_unbounded_iff]
  match assignment with
  | .error error => simp [fault?, ConfigFault.ofError_ne_unbounded]
  | .ok (setting, value) =>
      simp only [fault?, Except.ok.injEq, Prod.mk.injEq]
      constructor
      · intro atFault
        refine ⟨setting, value, ⟨rfl, rfl⟩, ?_⟩
        split at atFault
        · cases atFault
        · exact absurd (Option.some.inj atFault) (ConfigFault.ofError_ne_unbounded _)
        · assumption
      · rintro ⟨_, _, ⟨rfl, rfl⟩, unbounded⟩
        rw [unbounded]

theorem fault?_eq_unprintable_iff :
    fault? assignment = some .unprintable ↔
      (∃ setting value, assignment = .ok (setting, value) ∧ IsUnshown setting.kind value) ∨
        ∃ error, assignment = .error error ∧ ¬error.IsWorded := by
  match assignment with
  | .error error => simp [fault?, ConfigFault.ofError_eq_unprintable_iff]
  | .ok (setting, value) =>
      have unworded : ¬(ConfigError.invalidValue setting value).IsWorded ↔
          value.isPrintable = false := by
        simp [ConfigError.IsWorded, ConfigError.shownValues]
      simp only [fault?, Except.ok.injEq, Prod.mk.injEq, reduceCtorEq, false_and, exists_false,
        or_false]
      constructor
      · intro atFault
        refine ⟨setting, value, ⟨rfl, rfl⟩, ?_⟩
        split at atFault
        · cases atFault
        · next invalid =>
            rw [Option.some.injEq, ConfigFault.ofError_eq_unprintable_iff, unworded] at atFault
            exact (coerce_eq_invalid_iff atFault).mp invalid
        · cases atFault
      · rintro ⟨_, _, ⟨rfl, rfl⟩, unshown⟩
        rw [(coerce_eq_invalid_iff unshown.unprintable).mpr unshown]
        exact congrArg some
          (ConfigFault.ofError_eq_unprintable_iff.mpr (unworded.mpr unshown.unprintable))

theorem load_eq_unbounded_iff :
    load source = .error .unbounded ↔
      ∃ setting value, Reaches source.assignments (.ok (setting, value)) ∧
        IsTooLarge setting.kind value := by
  simp only [load_eq_error_iff, fault?_eq_unbounded_iff]
  constructor
  · rintro (⟨_, reached, setting, value, rfl, tooLarge⟩ | ⟨_, error, _, _, unbounded⟩)
    · exact ⟨setting, value, reached, tooLarge⟩
    · exact absurd unbounded.symm (ConfigFault.ofError_ne_unbounded error)
  · rintro ⟨setting, value, reached, tooLarge⟩
    exact .inl ⟨_, reached, setting, value, rfl, tooLarge⟩

theorem load_eq_unprintable_iff :
    load source = .error .unprintable ↔
      (∃ setting value, Reaches source.assignments (.ok (setting, value)) ∧
        IsUnshown setting.kind value) ∨
      (∃ error, Reaches source.assignments (.error error) ∧ ¬error.IsWorded) ∨
      ∃ config error, source.assignments.foldlM take standard = .ok config ∧
        config.check = .error error ∧ ¬error.IsWorded := by
  simp only [load_eq_error_iff, fault?_eq_unprintable_iff, eq_comm (a := ConfigFault.unprintable),
    ConfigFault.ofError_eq_unprintable_iff]
  constructor
  · rintro (⟨_, reached, ⟨setting, value, rfl, unshown⟩ | ⟨error, rfl, unworded⟩⟩ | checked)
    · exact .inl ⟨setting, value, reached, unshown⟩
    · exact .inr (.inl ⟨error, reached, unworded⟩)
    · exact .inr (.inr checked)
  · rintro (⟨setting, value, reached, unshown⟩ | ⟨error, reached, unworded⟩ | checked)
    · exact .inl ⟨_, reached, .inl ⟨setting, value, rfl, unshown⟩⟩
    · exact .inl ⟨_, reached, .inr ⟨error, rfl, unworded⟩⟩
    · exact .inr checked

theorem breaksOff_iff :
    source.BreaksOff ↔ load source = .error .unbounded ∨ load source = .error .unprintable := by
  rw [load_eq_unbounded_iff, load_eq_unprintable_iff]
  constructor
  · intro breaksOff
    cases breaksOff with
    | tooLarge reached tooLarge => exact .inl ⟨_, _, reached, tooLarge⟩
    | unshown reached unshown => exact .inr (.inl ⟨_, _, reached, unshown⟩)
    | unnamed reached unworded => exact .inr (.inr (.inl ⟨_, reached, unworded⟩))
    | check taken checked unworded => exact .inr (.inr (.inr ⟨_, _, taken, checked, unworded⟩))
  · rintro (⟨_, _, reached, tooLarge⟩ | ⟨_, _, reached, unshown⟩ | ⟨_, reached, unworded⟩ |
      ⟨_, _, taken, checked, unworded⟩)
    · exact .tooLarge reached tooLarge
    · exact .unshown reached unshown
    · exact .unnamed reached unworded
    · exact .check taken checked unworded

/-- A source is answered, with a configuration that is checked or with an error, unless it breaks
off at a number that is too large or at an error that cannot be worded. -/
theorem load_isAnswered_iff (source : ConfigSource) :
    IsAnswered (load source) ↔ ¬source.BreaksOff := by
  rw [breaksOff_iff]
  constructor
  · intro answered stopped
    rcases stopped with stopped | stopped <;> rw [stopped] at answered <;> cases answered
  · intro runs
    match loaded : load source with
    | .ok config =>
        obtain ⟨_, _, _, checked⟩ := load_eq_ok_iff.mp loaded
        exact .config checked
    | .error (.invalid error) => exact .invalid
    | .error .unbounded => exact absurd (.inl loaded) runs
    | .error .unprintable => exact absurd (.inr loaded) runs

/-- A document without a limit for sizes, which is a number but not an integer. -/
def unlimitedResults : ConfigSource where
  file := some ("settings.yaml", .ok (.map [
    (.str "search", .map [(.str "max_results", .float (.infinite false))])]))
  environment := []

theorem load_unlimitedResults_not_answered : ¬IsAnswered (load unlimitedResults) := by
  have only : unlimitedResults.assignments = [.ok (.maxResults, .float (.infinite false))] := rfl
  have reached :
      Reaches unlimitedResults.assignments (.ok (.maxResults, .float (.infinite false))) :=
    ⟨[], [], only, by simp⟩
  rw [load_eq_unbounded_iff.mpr ⟨_, _, reached, .infinite false⟩]
  intro answered
  cases answered

end Config

end FilterQuery
