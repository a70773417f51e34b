import FilterQuery.Proofs.Config.Fault

/-!
# Precedence of settings

A variable of the environment comes before the file, and the file before the defaults. In what order
a document has its sections and their entries makes no difference. Main statement:
`Config.load_precedence`.
-/

set_option autoImplicit false

namespace FilterQuery

open Config

namespace Yaml

variable {entries : List (Yaml × Yaml)} {name : String} {value : Yaml}

def text? : Yaml → Option String
  | .str text => some text
  | _ => none

theorem text?_eq_some_iff {key : Yaml} : key.text? = some name ↔ key = .str name := by
  cases key <;> simp [text?]

/-- The value that a mapping has for a text. -/
def valueOf? (name : String) : List (Yaml × Yaml) → Option Yaml
  | [] => none
  | (key, value) :: rest => if key.text? = some name then some value else valueOf? name rest

theorem valueOf?_eq_some_iff (distinct : HasDistinctKeys entries) :
    valueOf? name entries = some value ↔ (.str name, value) ∈ entries := by
  induction entries with
  | nil => simp [valueOf?]
  | cons entry rest ih =>
      obtain ⟨key, old⟩ := entry
      obtain ⟨apart, distinct⟩ := List.pairwise_cons.mp distinct
      rw [valueOf?, List.mem_cons]
      split
      · next same =>
          obtain rfl := text?_eq_some_iff.mp same
          have absent : (.str name, value) ∉ rest := by
            intro member
            have same := apart _ member
            rw [sameKey_self] at same
            cases same
          simp [absent, eq_comm]
      · next other =>
          rw [ih distinct]
          have apart : (Yaml.str name, value) ≠ (key, old) := fun same =>
            other (text?_eq_some_iff.mpr (congrArg Prod.fst same).symm)
          simp [apart]

/-- The sections of a document, or the entries in one of them, stand in another order. -/
inductive Reorders : List (Yaml × Yaml) → List (Yaml × Yaml) → Prop where
  | sections {sections others : List (Yaml × Yaml)} : sections.Perm others →
      Reorders sections others
  | inside {before after entries others : List (Yaml × Yaml)} {name : Yaml} :
      entries.Perm others →
      Reorders (before ++ (name, .map entries) :: after) (before ++ (name, .map others) :: after)
  | trans {first middle last : List (Yaml × Yaml)} : Reorders first middle →
      Reorders middle last → Reorders first last

theorem IsDecoded.perm {others : List (Yaml × Yaml)} (decoded : IsDecoded (.map entries))
    (perm : entries.Perm others) : IsDecoded (.map others) := by
  cases decoded with
  | map distinct values =>
      refine .map (distinct.perm perm fun apart => ?_) fun entry member =>
        values entry (perm.mem_iff.mpr member)
      rwa [sameKey_comm]

theorem Reorders.isDecoded {sections others : List (Yaml × Yaml)}
    (reorders : Reorders sections others) (decoded : IsDecoded (.map sections)) :
    IsDecoded (.map others) := by
  induction reorders with
  | sections perm => exact decoded.perm perm
  | @inside before after entries others name perm =>
      cases decoded with
      | map distinct values =>
          obtain ⟨valuesBefore, valuesHere⟩ := List.forall_mem_append.mp values
          obtain ⟨valueHere, valuesAfter⟩ := List.forall_mem_cons.mp valuesHere
          refine .map ?_ (List.forall_mem_append.mpr
            ⟨valuesBefore, List.forall_mem_cons.mpr ⟨valueHere.perm perm, valuesAfter⟩⟩)
          have keys {entries : List (Yaml × Yaml)} : HasDistinctKeys entries ↔
              (entries.map Prod.fst).Pairwise fun key other => sameKey key other = false := by
            rw [HasDistinctKeys, List.pairwise_map]
          rw [keys, List.map_append, List.map_cons] at distinct ⊢
          exact distinct
  | trans _ _ first later => exact later (first decoded)

end Yaml

open Yaml

namespace ConfigSource

/-- The value that the file has for a setting. -/
def filed? (source : ConfigSource) (setting : Setting) : Option Yaml :=
  match source.file with
  | some (_, .ok (.map sections)) =>
      match valueOf? setting.group.name sections with
      | some (.map entries) => valueOf? setting.key entries
      | _ => none
  | _ => none

def IsDecoded (source : ConfigSource) : Prop :=
  ∀ path document, source.file = some (path, .ok document) → document.IsDecoded

end ConfigSource

namespace Config

variable {source : ConfigSource} {config after : Config} {assignments : List Assignment}
  {setting : Setting} {value : Yaml}

theorem Section.named?_eq_some_iff {name : Yaml} {group : Config.Section} :
    Section.named? name = some group ↔ name = .str group.name := by
  constructor
  · intro named
    cases name with
    | str text =>
        have same := List.find?_some named
        exact congrArg Yaml.str (of_decide_eq_true same).symm
    | _ => cases named
  · rintro rfl
    cases group <;> decide

theorem Setting.named?_eq_some_iff {group : Config.Section} {key : Yaml} :
    Setting.named? group key = some setting ↔ setting.group = group ∧ key = .str setting.key := by
  constructor
  · intro named
    cases key with
    | str text =>
        have same := List.find?_some named
        simp only [Bool.and_eq_true, decide_eq_true_eq] at same
        exact ⟨same.1, congrArg Yaml.str same.2.symm⟩
    | _ => cases named
  · rintro ⟨rfl, rfl⟩
    cases setting <;> decide

theorem fileAssignments_map (path : String) (sections : List (Yaml × Yaml)) :
    fileAssignments (some (path, .ok (.map sections))) = sections.flatMap sectionAssignments := by
  cases sections <;> rfl

theorem mem_sectionAssignments_iff {entry : Yaml × Yaml} :
    .ok (setting, value) ∈ sectionAssignments entry ↔
      ∃ entries, entry = (.str setting.group.name, .map entries) ∧
        (.str setting.key, value) ∈ entries := by
  have each {group : Config.Section} {inner : Yaml × Yaml} :
      entryAssignment group inner = .ok (setting, value) ↔
        setting.group = group ∧ inner = (.str setting.key, value) := by
    obtain ⟨key, given⟩ := inner
    rw [entryAssignment, Prod.mk.injEq, ← and_assoc, ← Setting.named?_eq_some_iff]
    cases Setting.named? group key <;> simp
  obtain ⟨name, content⟩ := entry
  constructor
  · intro member
    simp only [sectionAssignments] at member
    split at member
    · cases List.mem_singleton.mp member
    · next group entries named =>
        obtain ⟨inner, among, same⟩ := List.mem_map.mp member
        obtain ⟨rfl, rfl⟩ := each.mp same
        exact ⟨entries, congrArg (·, Yaml.map entries) (Section.named?_eq_some_iff.mp named), among⟩
    · cases List.mem_singleton.mp member
  · rintro ⟨entries, same, among⟩
    cases same
    simp only [sectionAssignments, Section.named?_eq_some_iff.mpr rfl]
    exact List.mem_map.mpr ⟨_, among, each.mpr ⟨rfl, rfl⟩⟩

theorem mem_fileAssignments_iff (decoded : source.IsDecoded) :
    .ok (setting, value) ∈ fileAssignments source.file ↔ source.filed? setting = some value := by
  match file : source.file with
  | none => simp [fileAssignments, ConfigSource.filed?, file]
  | some (path, .error detail) => simp [fileAssignments, ConfigSource.filed?, file]
  | some (path, .ok document) =>
      cases decoded path document file with
      | @map sections distinct values =>
          simp only [fileAssignments_map, List.mem_flatMap, mem_sectionAssignments_iff,
            ConfigSource.filed?, file]
          constructor
          · rintro ⟨_, among, entries, rfl, inside⟩
            rw [(valueOf?_eq_some_iff distinct).mpr among]
            cases values _ among with
            | map distinct _ => exact (valueOf?_eq_some_iff distinct).mpr inside
          · intro found
            split at found
            · next entries sectioned =>
                have among := (valueOf?_eq_some_iff distinct).mp sectioned
                cases values _ among with
                | map distinct _ =>
                    exact ⟨_, among, entries, rfl, (valueOf?_eq_some_iff distinct).mp found⟩
            · cases found
      | _ =>
          simp only [fileAssignments, ConfigSource.filed?, file]
          split <;> simp

theorem mem_environmentAssignments_iff {environment : Environment} :
    .ok (setting, value) ∈ environmentAssignments environment Setting.all ↔
      (environment.get? setting.variableName).map .str = some value := by
  simp only [environmentAssignments, List.mem_filterMap, Option.map_eq_some_iff]
  constructor
  · rintro ⟨_, -, text, given, same⟩
    cases same
    exact ⟨text, given, rfl⟩
  · rintro ⟨text, given, rfl⟩
    exact ⟨setting, Setting.mem_all setting, text, given, rfl⟩

section Taking

variable {next : Config} {assignment : Assignment}

theorem get_take_of_ne (taken : config.take assignment = .ok next)
    (other : ∀ value, assignment ≠ .ok (setting, value)) :
    next.get setting = config.get setting := by
  match assignment with
  | .error error => cases taken
  | .ok (given, value) =>
      obtain ⟨coerced, -, rfl⟩ := assign_eq_ok_iff.mp taken
      exact config.get_set_of_ne coerced fun same => other value (by rw [same])

theorem get_foldlM_of_not_mem (taken : assignments.foldlM take config = .ok after)
    (absent : ∀ value, .ok (setting, value) ∉ assignments) :
    after.get setting = config.get setting := by
  induction assignments generalizing config with
  | nil =>
      cases taken
      rfl
  | cons first rest ih =>
      rw [List.foldlM_cons] at taken
      obtain ⟨next, takenFirst, takenRest⟩ := bind_eq_ok_iff.mp taken
      rw [ih takenRest fun value member => absent value (List.mem_cons_of_mem _ member)]
      exact get_take_of_ne takenFirst fun value same => absent value (same ▸ List.mem_cons_self)

/-- What is said of a setting once counts, wherever it is said. -/
theorem get_foldlM_of_mem (taken : assignments.foldlM take config = .ok after)
    (member : .ok (setting, value) ∈ assignments)
    (single : ∀ other, .ok (setting, other) ∈ assignments → other = value) :
    coerce setting.kind value = .ok (after.get setting) := by
  induction assignments generalizing config with
  | nil => cases member
  | cons first rest ih =>
      rw [List.foldlM_cons] at taken
      obtain ⟨next, takenFirst, takenRest⟩ := bind_eq_ok_iff.mp taken
      by_cases later : .ok (setting, value) ∈ rest
      · exact ih takenRest later fun other among => single other (List.mem_cons_of_mem _ among)
      · obtain rfl := (List.mem_cons.mp member).resolve_right later
        obtain ⟨coerced, read, rfl⟩ := assign_eq_ok_iff.mp takenFirst
        have kept : after.get setting = (config.set setting coerced).get setting := by
          refine get_foldlM_of_not_mem takenRest fun other among => later ?_
          rwa [← single other (List.mem_cons_of_mem _ among)]
        rw [kept, get_set_self]
        exact read

theorem exists_foldlM_iff :
    (∃ after, assignments.foldlM take config = .ok after) ↔
      ∀ assignment ∈ assignments, IsTaken assignment := by
  induction assignments generalizing config with
  | nil => exact iff_of_true ⟨config, rfl⟩ fun _ member => absurd member List.not_mem_nil
  | cons first rest ih =>
      rw [List.foldlM_cons, List.forall_mem_cons, isTaken_iff_exists]
      constructor
      · rintro ⟨after, taken⟩
        obtain ⟨next, takenFirst, takenRest⟩ := bind_eq_ok_iff.mp taken
        exact ⟨⟨next, takenFirst⟩, ih.mp ⟨after, takenRest⟩⟩
      · rintro ⟨⟨next, takenFirst⟩, sound⟩
        obtain ⟨after, takenRest⟩ := ih.mpr sound
        exact ⟨after, bind_eq_ok_iff.mpr ⟨next, takenFirst, takenRest⟩⟩

end Taking

theorem eq_of_get {other : Config} (same : ∀ setting, config.get setting = other.get setting) :
    config = other := by
  obtain ⟨⟨_, _, _⟩, ⟨_, _, _, _, _, _, _, _⟩, ⟨_, _, _, _, _, _⟩⟩ := config
  obtain ⟨⟨_, _, _⟩, ⟨_, _, _, _, _, _, _, _⟩, ⟨_, _, _, _, _, _⟩⟩ := other
  rw [Config.mk.injEq, Pacing.Settings.mk.injEq, SearchSettings.mk.injEq, ServerSettings.mk.injEq]
  exact ⟨⟨same .initialDelay, same .maxDelay, same .multiplier⟩,
    ⟨same .defaultTimeframe, same .defaultSize, same .maxResults, same .maxRetries,
      same .indexPattern, same .largeResultLimit, same .scrollBatchSize, same .scrollTimeout⟩,
    same .host, same .port, same .useSsl, same .verifyCerts, same .username, same .password⟩

/-- Every setting has the value of its variable, or else that of the file, or else its default. -/
structure IsPreferred (config : Config) (source : ConfigSource) : Prop where
  of_variable : ∀ setting text, source.environment.get? setting.variableName = some text →
    coerce setting.kind (.str text) = .ok (config.get setting)
  of_file : ∀ setting value, source.environment.get? setting.variableName = none →
    source.filed? setting = some value → coerce setting.kind value = .ok (config.get setting)
  of_default : ∀ setting, source.environment.get? setting.variableName = none →
    source.filed? setting = none → config.get setting = standard.get setting

theorem IsPreferred.unique {other : Config} (preferred : config.IsPreferred source)
    (otherPreferred : other.IsPreferred source) : config = other := by
  refine eq_of_get fun setting => ?_
  cases given : source.environment.get? setting.variableName with
  | some text =>
      exact Except.ok.inj ((preferred.of_variable setting text given).symm.trans
        (otherPreferred.of_variable setting text given))
  | none =>
      cases filed : source.filed? setting with
      | some value =>
          exact Except.ok.inj ((preferred.of_file setting value given filed).symm.trans
            (otherPreferred.of_file setting value given filed))
      | none =>
          exact (preferred.of_default setting given filed).trans
            (otherPreferred.of_default setting given filed).symm

theorem isPreferred_of_foldlM (decoded : source.IsDecoded)
    (taken : source.assignments.foldlM take standard = .ok config) :
    config.IsPreferred source := by
  rw [ConfigSource.assignments, List.foldlM_append] at taken
  obtain ⟨filed, takenFile, takenEnvironment⟩ := bind_eq_ok_iff.mp taken
  have unset {setting : Setting}
      (none : source.environment.get? setting.variableName = none) :
      config.get setting = filed.get setting := by
    refine get_foldlM_of_not_mem takenEnvironment fun value member => ?_
    rw [mem_environmentAssignments_iff, none] at member
    cases member
  refine ⟨fun setting text given => ?_, fun setting value none given => ?_,
    fun setting none absent => ?_⟩
  · refine get_foldlM_of_mem takenEnvironment ?_ fun other member => ?_
    · rw [mem_environmentAssignments_iff, given]
      rfl
    · rw [mem_environmentAssignments_iff, given] at member
      exact (Option.some.inj member).symm
  · rw [unset none]
    refine get_foldlM_of_mem takenFile ((mem_fileAssignments_iff decoded).mpr given)
      fun other member => ?_
    rw [mem_fileAssignments_iff decoded, given] at member
    exact (Option.some.inj member).symm
  · rw [unset none]
    refine get_foldlM_of_not_mem takenFile fun value member => ?_
    rw [mem_fileAssignments_iff decoded, absent] at member
    cases member

/-- What is loaded does not depend on the order of a source any more. -/
theorem load_eq_ok_iff_isPreferred (decoded : source.IsDecoded) :
    load source = .ok config ↔ (∀ assignment ∈ source.assignments, IsTaken assignment) ∧
      config.IsPreferred source ∧ config.check = .ok () := by
  have loaded : load source = .ok config ↔
      source.assignments.foldlM take standard = .ok config ∧ config.check = .ok () := by
    simp only [load_eq_ok_iff, applyFile_eq, applyEnvironment_eq, ConfigSource.assignments,
      List.foldlM_append, bind_eq_ok_iff]
    constructor
    · rintro ⟨filed, takenFile, takenEnvironment, checked⟩
      exact ⟨⟨filed, takenFile, takenEnvironment⟩, checked⟩
    · rintro ⟨⟨filed, takenFile, takenEnvironment⟩, checked⟩
      exact ⟨filed, takenFile, takenEnvironment, checked⟩
  rw [loaded]
  constructor
  · rintro ⟨taken, checked⟩
    exact ⟨exists_foldlM_iff.mp ⟨config, taken⟩, isPreferred_of_foldlM decoded taken, checked⟩
  · rintro ⟨sound, preferred, checked⟩
    obtain ⟨after, taken⟩ := exists_foldlM_iff.mpr sound
    obtain rfl := preferred.unique (isPreferred_of_foldlM decoded taken)
    exact ⟨taken, checked⟩

theorem Reorders.perm_assignments {sections others : List (Yaml × Yaml)}
    (reorders : Reorders sections others) :
    (sections.flatMap sectionAssignments).Perm (others.flatMap sectionAssignments) := by
  induction reorders with
  | sections perm => exact perm.flatMap_right _
  | @inside before after entries others name perm =>
      have here : (sectionAssignments (name, .map entries)).Perm
          (sectionAssignments (name, .map others)) := by
        simp only [sectionAssignments]
        cases Section.named? name with
        | none => exact .refl _
        | some group => exact perm.map _
      simp only [List.flatMap_append, List.flatMap_cons]
      exact (here.append_right _).append_left _
  | trans _ _ first later => exact first.trans later

theorem load_environment {environment : Environment}
    (same : ∀ setting : Setting, environment.get? setting.variableName =
      source.environment.get? setting.variableName) :
    load { source with environment } = load source := by
  have assignments : ({ source with environment } : ConfigSource).assignments =
      source.assignments := by
    simp only [ConfigSource.assignments, environmentAssignments, same]
  rw [load_eq, load_eq, assignments]

theorem load_reordered {path : String} {sections others : List (Yaml × Yaml)}
    (decoded : source.IsDecoded) (file : source.file = some (path, .ok (.map sections)))
    (reorders : Reorders sections others) :
    load source = .ok config ↔
      load { source with file := some (path, .ok (.map others)) } = .ok config := by
  let other : ConfigSource := { source with file := some (path, .ok (.map others)) }
  have otherDecoded : other.IsDecoded := by
    rintro _ _ ⟨⟩
    exact reorders.isDecoded (decoded path _ file)
  have perm : (fileAssignments source.file).Perm (fileAssignments other.file) := by
    rw [file, fileAssignments_map, fileAssignments_map]
    exact Reorders.perm_assignments reorders
  have filed (setting : Setting) : other.filed? setting = source.filed? setting := by
    refine Option.ext fun value => ?_
    rw [← mem_fileAssignments_iff decoded, ← mem_fileAssignments_iff otherDecoded, perm.mem_iff]
  have taken : (∀ assignment ∈ source.assignments, IsTaken assignment) ↔
      ∀ assignment ∈ other.assignments, IsTaken assignment := by
    simp only [ConfigSource.assignments, List.forall_mem_append, perm.mem_iff]
    rfl
  have preferred : config.IsPreferred source ↔ config.IsPreferred other := by
    constructor
    · rintro ⟨ofVariable, ofFile, ofDefault⟩
      exact ⟨ofVariable, by simpa only [filed] using ofFile, by simpa only [filed] using ofDefault⟩
    · rintro ⟨ofVariable, ofFile, ofDefault⟩
      exact ⟨ofVariable, by simpa only [filed] using ofFile, by simpa only [filed] using ofDefault⟩
  rw [load_eq_ok_iff_isPreferred decoded, load_eq_ok_iff_isPreferred otherDecoded, taken, preferred]

/-- The environment comes before the file, and the file before the defaults. Variables that name no
setting have no effect, nor has the order of a document. -/
theorem load_precedence (decoded : source.IsDecoded) :
    (∀ config, load source = .ok config → config.IsPreferred source) ∧
    (∀ environment : Environment, (∀ setting : Setting,
        environment.get? setting.variableName = source.environment.get? setting.variableName) →
      load { source with environment } = load source) ∧
    ∀ path sections others, source.file = some (path, .ok (.map sections)) →
      Reorders sections others → ∀ config, load source = .ok config ↔
        load { source with file := some (path, .ok (.map others)) } = .ok config :=
  ⟨fun _ loaded => ((load_eq_ok_iff_isPreferred decoded).mp loaded).2.1,
    fun _ same => load_environment same,
    fun _ _ _ file reorders _ => load_reordered decoded file reorders⟩

/-- A document with a text for a number, and variables of which only the first names a setting. -/
def layered : ConfigSource where
  file := some ("settings.yaml", .ok (.map [
    (.str "search", .map [(.str "max_retries", .int 5), (.str "max_results", .str "2000")])]))
  environment := [("FILTER_DSL_SEARCH_MAX_RETRIES", "7"), ("FILTER_DSL_SEARCH_RETRIES", "9")]

theorem load_precedence_layered :
    layered.IsDecoded ∧ ∃ config, load layered = .ok config ∧ config.IsPreferred layered ∧
      config.get .maxRetries = 7 ∧ config.get .maxResults = 2000 ∧
      config.get .defaultSize = 1000 := by
  have decoded : layered.IsDecoded := by
    rintro _ _ ⟨⟩
    refine .map (List.pairwise_singleton _ _) (List.forall_mem_singleton.mpr ?_)
    refine .map (by unfold HasDistinctKeys; decide +kernel) ?_
    exact List.forall_mem_cons.mpr ⟨.int, List.forall_mem_singleton.mpr .str⟩
  have loads : (load layered).toOption.map
      (fun config => (config.get .maxRetries, config.get .maxResults, config.get .defaultSize)) =
        some (7, 2000, 1000) := by decide +kernel
  match loaded : load layered with
  | .error fault =>
      rw [loaded] at loads
      cases loads
  | .ok config =>
      rw [loaded] at loads
      have values := Option.some.inj loads
      simp only [Prod.mk.injEq] at values
      obtain ⟨retries, results, size⟩ := values
      exact ⟨decoded, config, rfl, (load_precedence decoded).1 config loaded, retries, results,
        size⟩

end Config

end FilterQuery
