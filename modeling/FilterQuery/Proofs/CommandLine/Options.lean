import FilterQuery.CommandLine.Arguments
import FilterQuery.Proofs.Number.Integer
import FilterQuery.Proofs.Outcome

/-!
# Options that are read

Arguments are read step by step, and every step applies settings. Main statements:
`size_of_readOptions` says that a size that is asked for may be written, and `readOptions_toSettings`
that whatever may be written can be asked for.
-/

set_option autoImplicit false

namespace FilterQuery.CommandLine

open Number

variable {options after final : Options} {setting : Setting} {settings : List Setting}
  {argument : Argument} {rest : List Argument} {isLeft : Bool}

section Steps

variable {motive : Options → Prop}

theorem foldlM_apply_induction (start : motive options)
    (kept : ∀ {options after setting}, motive options → apply options setting = .ok after →
      motive after) (applied : settings.foldlM apply options = .ok after) : motive after := by
  induction settings generalizing options with
  | nil =>
      cases applied
      exact start
  | cons setting rest ih =>
      obtain ⟨next, first, applied⟩ := bind_eq_ok_iff.mp applied
      exact ih (kept start first) applied

/-- The first of the arguments is skipped, or settings are applied and reading goes on behind them. -/
theorem collect_cons (collected : collect isLeft options (argument :: rest) = .ok final) :
    ∃ isLeft, ∃ settings : List Setting, ∃ after others, others.length ≤ rest.length ∧
      settings.foldlM apply options = .ok after ∧ collect isLeft after others = .ok final := by
  cases argument with
  | named named =>
      rw [collect] at collected
      obtain ⟨⟨settings, last, left⟩, -, collected⟩ := bind_eq_ok_iff.mp collected
      simp only at collected
      split at collected
      · obtain ⟨after, applied, collected⟩ := bind_eq_ok_iff.mp collected
        exact ⟨_, settings, after, rest, Nat.le_refl _, applied, collected⟩
      · split at collected
        · obtain ⟨after, applied, collected⟩ := bind_eq_ok_iff.mp collected
          exact ⟨_, _, after, _, Nat.le_refl _, applied, collected⟩
        · split at collected
          · obtain ⟨after, applied, collected⟩ := bind_eq_ok_iff.mp collected
            exact ⟨_, _, after, _, Nat.le_succ _, applied, collected⟩
          · cases collected
  | unknown => exact ⟨true, [], options, rest, Nat.le_refl _, rfl, collected⟩
  | value text => exact ⟨true, [], options, rest, Nat.le_refl _, rfl, collected⟩
  | separator => exact ⟨true, [], options, rest, Nat.le_refl _, rfl, collected⟩

theorem collect_induction {arguments : List Argument} (start : motive options)
    (kept : ∀ {options after setting}, motive options → apply options setting = .ok after →
      motive after) (collected : collect isLeft options arguments = .ok final) : motive final := by
  induction size : arguments.length using Nat.strongRecOn generalizing isLeft options arguments with
  | ind n ih =>
      cases arguments with
      | nil =>
          rw [collect] at collected
          split at collected
          · cases collected
          · cases collected
            exact start
      | cons argument rest =>
          obtain ⟨_, settings, after, others, shorter, applied, collected⟩ := collect_cons collected
          subst size
          exact ih others.length (Nat.lt_succ_of_le shorter)
            (foldlM_apply_induction start kept applied) collected rfl

end Steps

theorem size_of_apply (applied : apply options setting = .ok after) :
    after.size = options.size ∨
      ∃ text size, after.size = some size ∧ readInteger text = .ok size := by
  cases setting with
  | switch option =>
      cases option <;> cases applied <;> exact .inl rfl
  | assign option value =>
      cases option with
      | size =>
          simp only [apply] at applied
          split at applied
          · next size read =>
              cases applied
              exact .inr ⟨_, size, rfl, read⟩
          · cases applied
      | _ =>
          cases applied
          exact .inl rfl

/-- A size is asked for by a text that is read, so it may be written. -/
theorem size_of_readOptions {arguments : List String} (read : readOptions arguments = .ok options)
    {size : Int} (asked : options.size = some size) : isWritable size = true := by
  obtain ⟨_, -, collected⟩ := bind_eq_ok_iff.mp read
  refine collect_induction (motive := fun options =>
    ∀ size, options.size = some size → isWritable size = true) ?_ ?_ collected size asked
  · intro size none
    cases none
  · intro options after setting writable applied size asked
    rcases size_of_apply applied with same | ⟨text, other, same, read⟩
    · exact writable size (same ▸ asked)
    · rw [same, Option.some.injEq] at asked
      exact asked ▸ isWritable_of_readInteger read

section Spelling

/-- The argument that spells a setting: the word of the option, with its value behind an equals
sign. -/
def Setting.spelling : Setting → String
  | .switch option => "--" ++ option.word
  | .assign option value => "--" ++ option.word ++ "=" ++ value

/-- Settings that switch an option on, or give it a value when it takes one. -/
def Setting.IsProper : Setting → Prop
  | .switch option => option.takesValue = false
  | .assign option _ => option.takesValue = true

/-- What the argument that spells a setting is read as. -/
def Setting.named : Setting → Named
  | .switch option => ⟨option, true, none⟩
  | .assign option value => ⟨option, true, some ⟨true, value.toList⟩⟩

theorem readArgument_spelling (setting : Setting) :
    readArgument setting.spelling = .ok (.named setting.named) := by
  cases setting with
  | switch option => cases option <;> rfl
  | assign option value =>
      have spelt : (Setting.assign option value).spelling.toList =
          '-' :: '-' :: (option.word.toList ++ '=' :: value.toList) := by
        simp [Setting.spelling]
      unfold readArgument
      rw [spelt]
      cases option <;> rfl

theorem readArguments_spelling (settings : List Setting) :
    readArguments (settings.map Setting.spelling) =
      .ok (settings.map fun setting => .named setting.named) := by
  induction settings with
  | nil => rfl
  | cons setting rest ih =>
      simp only [List.map_cons, readArguments, readArgument_spelling, bind, Except.bind, ih]
      rfl

theorem collect_named_cons (proper : setting.IsProper) (rest : List Argument) :
    collect false options (.named setting.named :: rest) =
      apply options setting >>= fun next => collect false next rest := by
  cases setting with
  | switch option =>
      have isSwitch : option.takesValue = false := proper
      rw [collect]
      simp only [Setting.named, expand, isSwitch, mapError_ok, Bool.false_eq_true, ↓reduceIte, bind,
        Except.bind, List.foldlM_cons, List.foldlM_nil]
      cases apply options (.switch option) <;> rfl
  | assign option value =>
      have takes : option.takesValue = true := proper
      rw [collect]
      simp only [Setting.named, expand, takes, mapError_ok, ↓reduceIte, bind, Except.bind,
        List.nil_append, List.foldlM_cons, List.foldlM_nil, String.ofList_toList]
      cases apply options (.assign option value) <;> rfl

theorem collect_named (proper : ∀ setting ∈ settings, setting.IsProper) :
    collect false options (settings.map fun setting => .named setting.named) =
      settings.foldlM apply options := by
  induction settings generalizing options with
  | nil => rfl
  | cons setting rest ih =>
      obtain ⟨isProper, proper⟩ := List.forall_mem_cons.mp proper
      rw [List.map_cons, collect_named_cons isProper, List.foldlM_cons]
      exact congrArg (bind _) (funext fun next => ih proper)

theorem readOptions_spelling (proper : ∀ setting ∈ settings, setting.IsProper) :
    readOptions (settings.map Setting.spelling) = settings.foldlM apply .none := by
  rw [readOptions, readArguments_spelling]
  exact collect_named proper

def Options.toSettings (options : Options) : List Setting :=
  options.filters.map (Setting.assign .filter) ++
    (options.size.map fun size => .assign .size (intText size)).toList ++
    (options.timeframe.map (Setting.assign .timeframe)).toList ++
    (options.now.map (Setting.assign .now)).toList ++
    (options.fieldsFile.map (Setting.assign .fieldsFile)).toList ++
    (options.config.map (Setting.assign .config)).toList ++
    (options.checkTimeframe.map (Setting.assign .checkTimeframe)).toList ++
    (if options.verbose then [.switch .verbose] else [])

theorem foldlM_apply_filters (filters : List String) :
    (filters.map (Setting.assign .filter)).foldlM apply options =
      .ok { options with filters := options.filters ++ filters } := by
  induction filters generalizing options with
  | nil => simp [pure, Except.pure]
  | cons filter rest ih =>
      simp [List.foldlM_cons, apply, bind, Except.bind, ih]

theorem foldlM_apply_toSettings
    (writable : ∀ size, options.size = some size → isWritable size = true) :
    options.toSettings.foldlM apply .none = .ok options := by
  obtain ⟨filters, size, timeframe, now, fieldsFile, config, checkTimeframe, verbose⟩ := options
  have filtered : (filters.map (Setting.assign .filter)).foldlM apply .none =
      .ok ⟨filters, none, none, none, none, none, none, false⟩ := foldlM_apply_filters filters
  have sized : (size.map fun size => Setting.assign .size (intText size)).toList.foldlM apply
      ⟨filters, none, none, none, none, none, none, false⟩ =
      .ok ⟨filters, size, none, none, none, none, none, false⟩ := by
    cases size with
    | none => rfl
    | some size =>
        simp only [Option.map_some, Option.toList_some, List.foldlM_cons, apply,
          readInteger_intText (writable size rfl)]
        rfl
  simp only [Options.toSettings, List.foldlM_append, filtered, sized, bind, Except.bind]
  cases timeframe <;> cases now <;> cases fieldsFile <;> cases config <;> cases checkTimeframe <;>
    cases verbose <;> rfl

theorem isProper_of_mem_toSettings (member : setting ∈ options.toSettings) : setting.IsProper := by
  simp only [Options.toSettings, List.mem_append, List.mem_map, Option.mem_toList,
    Option.map_eq_some_iff] at member
  rcases member with ((((((⟨_, _, rfl⟩ | ⟨_, _, rfl⟩) | ⟨_, _, rfl⟩) | ⟨_, _, rfl⟩) | ⟨_, _, rfl⟩) |
    ⟨_, _, rfl⟩) | ⟨_, _, rfl⟩) | member
  any_goals rfl
  split at member
  · rw [List.mem_singleton.mp member]
    rfl
  · cases member

/-- Options with a size that may be written, if any, are asked for by arguments. -/
theorem readOptions_toSettings
    (writable : ∀ size, options.size = some size → isWritable size = true) :
    readOptions (options.toSettings.map Setting.spelling) = .ok options := by
  rw [readOptions_spelling fun setting => isProper_of_mem_toSettings,
    foldlM_apply_toSettings writable]

end Spelling

end FilterQuery.CommandLine
