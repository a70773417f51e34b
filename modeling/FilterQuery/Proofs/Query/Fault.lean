import FilterQuery.Proofs.Filter.Fault
import FilterQuery.Proofs.Query.Building
import FilterQuery.Proofs.Timeframe

/-!
# Queries that break off

Building a query is to give a query, a refusal of the query or a refusal of its timeframe. Main
statement: `isDocumented_iff` says exactly which tokens, timeframes and sizes make it break off
without one of them.
-/

set_option autoImplicit false

namespace FilterQuery.Query

open Number FilterQuery.Filter

/-- The outcomes that are promised of a token: a clause or the reason why there is none. -/
inductive IsAnswered : Except Filter.Fault Clause → Prop where
  | clause {clause : Clause} : IsAnswered (.ok clause)
  | rejected {error : Filter.Error} : IsAnswered (.error (.rejected error))

/-- The outcomes that are promised of a query: a query, or a refusal of it or of its timeframe. -/
inductive IsDocumented : Except QueryFault Query → Prop where
  | query {query : Query} : IsDocumented (.ok query)
  | refused {error : QueryError} : IsDocumented (.error (.query error))
  | timeframe {error : TimeframeError} : IsDocumented (.error (.timeframe error))

/-- What makes the building of a query break off: a negative size or a timeframe with too many
digits, or a token that is reached and breaks down. -/
inductive BreaksOff (filters : List String) (size : Int) (timeframe : String)
    (cache : Field.Cache) (now : Moment) : Prop where
  | size : size < 0 → isWritable size = false → BreaksOff filters size timeframe cache now
  | timeframe {digits : Nat} :
      0 ≤ size → Timeframe.IsOverlong timeframe digits →
      BreaksOff filters size timeframe cache now
  | filter {time : List Clause} {filter : String} {breakdown : Filter.Breakdown} :
      0 ≤ size → IsTime timeframe now time → filter ∈ filters →
      BreaksDown cache (Text.strip filter.toList) breakdown →
      BreaksOff filters size timeframe cache now

variable {cache : Field.Cache} {filters : List String} {size : Int} {timeframe : String}
  {now : Moment} {breakdown : Filter.Breakdown}

theorem isAnswered_iff {result : Except Filter.Fault Clause} :
    IsAnswered result ↔ ∀ breakdown, result ≠ .error (.broken breakdown) := by
  constructor
  · intro answered
    cases answered <;> simp
  · intro whole
    match result with
    | .ok _ => exact .clause
    | .error (.rejected _) => exact .rejected
    | .error (.broken breakdown) => exact absurd rfl (whole breakdown)

theorem isDocumented_iff_forall {result : Except QueryFault Query} :
    IsDocumented result ↔ ∀ breakdown, result ≠ .error (.broken breakdown) := by
  constructor
  · intro documented
    cases documented <;> simp
  · intro whole
    match result with
    | .ok _ => exact .query
    | .error (.query _) => exact .refused
    | .error (.timeframe _) => exact .timeframe
    | .error (.broken breakdown) => exact absurd rfl (whole breakdown)

/-- A size can be shown in an error unless it has too many digits. -/
theorem isDocumented_negativeSize_iff :
    IsDocumented (.error (.ofError (.negativeSize size))) ↔ isWritable size = true := by
  simp only [QueryFault.ofError, QueryError.shownIntegers, List.find?_singleton]
  cases isWritable size with
  | true => exact iff_of_true .refused rfl
  | false =>
      refine iff_of_false (fun documented => ?_) Bool.false_ne_true
      cases documented

theorem compile_eq_broken_iff {filter : String} :
    compile cache filter = .error (.broken breakdown) ↔
      BreaksDown cache (Text.strip filter.toList) breakdown :=
  compileStripped_eq_broken_iff

theorem timeClauses_eq_broken_iff :
    timeClauses timeframe now = .error (.broken breakdown) ↔
      ∃ digits, Timeframe.IsOverlong timeframe digits ∧ breakdown = .tooManyDigits digits := by
  simp only [← Timeframe.window_eq_tooManyDigits_iff now, timeClauses]
  split
  · next empty =>
      subst empty
      constructor
      · intro stopped
        cases stopped
      · intro overlong
        obtain ⟨digits, stopped, -⟩ := overlong
        cases stopped
  · split
    · next found => simp [found]
    · next found => simp [found]
    · next found => simp [found, eq_comm]

theorem exists_filterClauses_eq_broken_iff :
    (∃ breakdown, filterClauses cache filters = .error (.broken breakdown)) ↔
      ∃ filter ∈ filters, ∃ breakdown, BreaksDown cache (Text.strip filter.toList) breakdown := by
  simp only [← compile_eq_broken_iff]
  by_cases completes : Completes cache filters
  · rw [filterClauses_of_completes completes]
    constructor
    · rintro ⟨breakdown, stopped⟩
      split at stopped <;> cases stopped
    · rintro ⟨filter, member, breakdown, broken⟩
      exact absurd broken (completes filter member breakdown)
  · obtain ⟨breakdown, stops⟩ := exists_stopsWith_of_not_completes completes
    obtain ⟨filter, member, broken⟩ := stops.exists_mem
    rw [filterClauses_of_stopsWith stops]
    exact iff_of_true ⟨breakdown, rfl⟩ ⟨filter, member, breakdown, broken⟩

theorem exists_build_eq_broken_iff (nonneg : 0 ≤ size) :
    (∃ breakdown, build filters size timeframe cache now = .error (.broken breakdown)) ↔
      (∃ digits, Timeframe.IsOverlong timeframe digits) ∨
        (∃ time, IsTime timeframe now time) ∧
          ∃ filter ∈ filters, ∃ breakdown,
            BreaksDown cache (Text.strip filter.toList) breakdown := by
  simp only [build_of_nonneg nonneg, bind_eq_error_iff, timeClauses_eq_broken_iff,
    timeClauses_eq_ok_iff, ← exists_filterClauses_eq_broken_iff]
  constructor
  · rintro ⟨breakdown, ⟨digits, overlong, -⟩ | ⟨time, isTime, stopped | ⟨_, _, continued⟩⟩⟩
    · exact .inl ⟨digits, overlong⟩
    · exact .inr ⟨⟨time, isTime⟩, breakdown, stopped⟩
    · cases continued
  · rintro (⟨digits, overlong⟩ | ⟨⟨time, isTime⟩, breakdown, stopped⟩)
    · exact ⟨_, .inl ⟨digits, overlong, rfl⟩⟩
    · exact ⟨breakdown, .inr ⟨time, isTime, .inl stopped⟩⟩

theorem build_isDocumented_iff :
    IsDocumented (build filters size timeframe cache now) ↔
      ¬BreaksOff filters size timeframe cache now := by
  by_cases nonneg : 0 ≤ size
  · rw [isDocumented_iff_forall, ← not_exists_not]
    simp only [ne_eq, not_not, exists_build_eq_broken_iff nonneg]
    refine not_congr ⟨?_, fun breaksOff => ?_⟩
    · rintro (⟨digits, overlong⟩ | ⟨⟨time, isTime⟩, filter, member, breakdown, breaks⟩)
      · exact .timeframe nonneg overlong
      · exact .filter nonneg isTime member breaks
    · cases breaksOff with
      | size negative _ => exact absurd negative (Int.not_lt.mpr nonneg)
      | timeframe _ overlong => exact .inl ⟨_, overlong⟩
      | filter _ isTime member breaks => exact .inr ⟨⟨_, isTime⟩, _, member, _, breaks⟩
  · have negative := Int.not_le.mp nonneg
    rw [build_of_negative negative, isDocumented_negativeSize_iff]
    constructor
    · intro short breaksOff
      cases breaksOff with
      | size _ long => exact absurd long (ne_false_of_eq_true short)
      | timeframe reached _ => exact absurd reached nonneg
      | filter reached _ _ _ => exact absurd reached nonneg
    · intro runs
      exact eq_true_of_ne_false fun long => runs (.size negative long)

/-- A token is answered unless it breaks down, and building a query ends as promised unless it breaks
off at a size, a timeframe or a token. -/
theorem isDocumented_iff (cache : Field.Cache) (filter : String) (filters : List String)
    (size : Int) (timeframe : String) (now : Moment) :
    (IsAnswered (compile cache filter) ↔
        ¬∃ breakdown, BreaksDown cache (Text.strip filter.toList) breakdown) ∧
      (IsDocumented (build filters size timeframe cache now) ↔
        ¬BreaksOff filters size timeframe cache now) := by
  refine ⟨?_, build_isDocumented_iff⟩
  simp only [isAnswered_iff, ← compile_eq_broken_iff, not_exists, ne_eq]

/-- Midnight on the first day of year 1, an hour east of Greenwich, is in year 0 at Greenwich. As a
token it is not answered, and no other token of the query is reported any more. -/
theorem earlyTime_not_documented :
    let cache : Field.Cache := ⟨[("seen", ⟨.str "date", true, true, false⟩)]⟩
    let early := "seen=0001-01-01T00:00:00+01:00"
    ¬IsAnswered (compile cache early) ∧
      ¬IsDocumented (build ["status", early] 10 "" cache ⟨0, 0⟩) := by
  intro cache early
  have outside : compile cache early = .error (.broken .outsideCalendar) := by decide +kernel
  refine ⟨fun answered => isAnswered_iff.mp answered _ outside, fun documented => ?_⟩
  obtain ⟨breakdown, stopped⟩ :
      ∃ breakdown, build ["status", early] 10 "" cache ⟨0, 0⟩ = .error (.broken breakdown) :=
    (exists_build_eq_broken_iff (by decide)).mpr
      (.inr ⟨⟨[], .unlimited rfl⟩, early, by simp, _, compile_eq_broken_iff.mp outside⟩)
  exact isDocumented_iff_forall.mp documented _ stopped

end FilterQuery.Query
