import FilterQuery.Proofs.Query.Building

/-!
# The form of queries

Queries that differ have forms that differ. Main statement: `toJson_injective`.
-/

set_option autoImplicit false

namespace FilterQuery

namespace Filter

theorem Comparison.name_injective {first second : Comparison}
    (same : first.name = second.name) : first = second := by
  cases first <;> cases second <;> first | rfl | exact absurd same (by decide)

theorem Numeral.toJson_injective {first second : Numeral}
    (same : first.toJson = second.toJson) : first = second := by
  cases first <;> cases second <;> simp_all [Numeral.toJson]

theorem Term.toJson_injective {first second : Term}
    (same : first.toJson = second.toJson) : first = second := by
  cases first with
  | number first =>
      cases second with
      | number second => rw [Numeral.toJson_injective same]
      | bool _ | text _ => cases first <;> cases same
  | bool _ | text _ =>
      cases second with
      | number second => cases second <;> cases same
      | bool _ | text _ => cases same <;> rfl

theorem single_inj {name other : String} {value form : Json} :
    single name value = single other form ↔ name = other ∧ value = form := by
  simp [single]

/-- The outermost name tells clauses apart but for the two that are made of others. -/
theorem Clause.toJson_injective {first second : Clause}
    (same : first.toJson = second.toJson) : first = second := by
  cases first with
  | ids _ | missing _ | wildcard _ _ | textMatch _ _ =>
      cases second <;> simp_all [Clause.toJson, single, between]
  | term field value =>
      cases second with
      | term other form =>
          simp only [Clause.toJson, single_inj, true_and] at same
          rw [same.1, Term.toJson_injective same.2]
      | _ => simp [Clause.toJson, single, between] at same
  | range field comparison bound =>
      cases second with
      | range other otherComparison form =>
          simp only [Clause.toJson, single_inj, true_and] at same
          rw [same.1, Comparison.name_injective same.2.1, Numeral.toJson_injective same.2.2]
      | _ => simp [Clause.toJson, single, between] at same
  | within window =>
      cases second with
      | within other =>
          cases window
          cases other
          simp_all [Clause.toJson, single, between]
      | _ => simp [Clause.toJson, single, between] at same

end Filter

theorem Query.toJson_injective {first second : Query} (same : first.toJson = second.toJson) :
    first = second := by
  obtain ⟨must, size⟩ := first
  obtain ⟨others, otherSize⟩ := second
  rw [toJson_eq, toJson_eq] at same
  simp only [Json.obj.injEq, List.cons.injEq, Prod.mk.injEq, Json.int.injEq, true_and, and_true]
    at same
  obtain ⟨conditions, rfl⟩ := same
  congr 1
  split at conditions
  · next none =>
      split at conditions
      · next noOther => rw [none, noOther]
      · simp [Filter.single] at conditions
  · split at conditions
    · simp [Filter.single] at conditions
    · have clauses : must.map Filter.Clause.toJson = others.map Filter.Clause.toJson := by
        simpa [Filter.single] using conditions
      exact List.map_injective_iff.mpr (fun _ _ => Filter.Clause.toJson_injective) clauses

end FilterQuery
