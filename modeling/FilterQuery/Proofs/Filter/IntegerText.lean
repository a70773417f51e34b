import FilterQuery.Proofs.Filter.Grammar
import FilterQuery.Proofs.Number.Decimal

/-!
# Written integers in tokens

What the text of an integer is compiled into: the integer with 53 significant bits that is nearest
to it. Main statement: `integerText_carried`.
-/

set_option autoImplicit false

namespace FilterQuery.Filter

open Number Text FilterQuery.Field

/-- The text is a sign, if there is one, and ASCII digits, and writes an integer. -/
inductive IsIntegerText : List Char → Int → Prop where
  | intro {sign digits : List Char} {negative : Bool} :
      IsSign sign negative → IsDigits digits →
      IsIntegerText (sign ++ digits) (withSign negative (asciiNumber digits))

/-- The field can be searched, and its values are integers. -/
structure HoldsIntegers (metadata : Metadata) : Prop where
  searchable : metadata.searchable = true
  type : metadata.type = .str "long" ∨ metadata.type = .str "integer"

/-- The integer is a number of at most 53 binary digits, with zeros behind them. -/
def IsRepresentable (n : Int) : Prop :=
  ∃ factor shift, factor < 2 ^ 53 ∧ n.natAbs = factor * 2 ^ shift

theorem IsIntegerText.ne_nil {text : List Char} {n : Int} (written : IsIntegerText text n) :
    text ≠ [] := by
  cases written with
  | intro _ areDigits => exact List.append_ne_nil_of_right_ne_nil _ areDigits.filled

theorem isRepresentable_iff {n : Int} : IsRepresentable n ↔ Fits n.natAbs :=
  fits_iff.symm

theorem isRepresentable_roundSigned (n : Int) : IsRepresentable (roundSigned n) := by
  rw [isRepresentable_iff, natAbs_roundSigned]
  exact fits_roundToBits _ _

theorem isRepresentable_of_le {n : Int} (small : n.natAbs ≤ 2 ^ 53) : IsRepresentable n := by
  rw [isRepresentable_iff]
  rcases Nat.lt_or_eq_of_le small with less | same
  · exact fits_of_lt less
  · rw [same]
    exact fits_two_pow 53

theorem HoldsIntegers.isNumeric {metadata : Metadata} (holds : HoldsIntegers metadata) :
    metadata.isNumeric = true := by
  rcases holds.type with long | integer
  · rw [Metadata.isNumeric, long]
    decide
  · rw [Metadata.isNumeric, integer]
    decide

theorem readNumeral_integerText {text : List Char} {n : Int} (written : IsIntegerText text n)
    (bounded : n.natAbs ≤ 2 ^ 63) : readNumeral text = some (.whole (roundSigned n)) := by
  cases written with
  | @intro sign digits negative isSign areDigits =>
      rw [natAbs_withSign] at bounded
      have read := Decimal.read?_append isSign areDigits .none
      obtain ⟨magnitude, finite, steps⟩ := exists_ofRatio_one bounded negative
      have rounded := Decimal.toBinary64_eq_ofRatio (n := asciiNumber digits)
        (Nat.lt_of_le_of_lt bounded (by decide)) (show 0 ≤ 100 by decide) negative
      have ends : (sign ++ digits).getLast? ≠ some '\n' :=
        getLast?_append_digits areDigits sign (by decide)
      have found := readNumeral_of_finite ends (by simpa using read) (rounded.trans finite)
      rw [found, steps, Nat.mul_mod_left, if_pos rfl, Nat.mul_div_cancel _ unit_pos,
        roundSigned_withSign]

/-- The text of an integer of 64 bits is read as the representable integer that is nearest to it,
which is the integer itself exactly when it is representable. A token that gives the text to a field
of integers is compiled into a clause with this number. -/
theorem integerText_carried {text : List Char} {n : Int} (written : IsIntegerText text n)
    (word : -2 ^ 63 ≤ n ∧ n < 2 ^ 63) :
    readNumeral text = some (.whole (roundSigned n)) ∧
      IsRepresentable (roundSigned n) ∧
      (∀ other, IsRepresentable other → (roundSigned n - n).natAbs ≤ (other - n).natAbs) ∧
      (roundSigned n = n ↔ IsRepresentable n) ∧
      (n.natAbs ≤ 2 ^ 53 → roundSigned n = n) ∧
      ∀ (cache : Cache) (filter field : String) (before after : List Char),
        field = String.ofList (strip before) → IsDotted (strip before) →
        HoldsIntegers (metadataOf cache field) → strip after = text →
        (IsEquality (strip filter.toList) before after →
          compile cache filter = .ok (.term field (.number (.whole (roundSigned n))))) ∧
        ∀ comparison, IsRange (strip filter.toList) before comparison after →
          compile cache filter = .ok (.range field comparison (.whole (roundSigned n))) := by
  have read := readNumeral_integerText written (by omega)
  have kept : roundSigned n = n ↔ IsRepresentable n := by
    rw [roundSigned_eq_self_iff, isRepresentable_iff]
  refine ⟨read, isRepresentable_roundSigned n, fun other fits => ?_, kept,
    fun small => kept.mpr (isRepresentable_of_le small), ?_⟩
  · exact natAbs_roundSigned_sub_le (isRepresentable_iff.mp fits)
  · intro cache filter field before after same named holds stripped
    have filled : strip after ≠ [] := by
      rw [stripped]
      exact written.ne_nil
    rw [← stripped] at read
    refine ⟨fun form => ?_, fun comparison form => ?_⟩
    · exact compile_eq_ok_iff.mpr
        (.equality form named same holds.searchable (.number holds.isNumeric read))
    · exact compile_eq_ok_iff.mpr
        (.range form named same filled holds.searchable (.number holds.isNumeric read))

/-- A cache in which one field is a long one. -/
def longIds : Cache :=
  Cache.empty.set "id" ⟨.str "long", true, true, false⟩

theorem integerText_carried_signed :
    compile longIds " id = +0018014398509481988" =
        .ok (.term "id" (.number (.whole 18014398509481988))) ∧
      compile longIds "id>=+0018014398509481988" =
        .ok (.range "id" .atLeast (.whole 18014398509481988)) := by
  have digits : IsDigits "0018014398509481988".toList :=
    ⟨by decide, List.all_eq_true.mp (by decide)⟩
  have written : IsIntegerText "+0018014398509481988".toList 18014398509481988 :=
    .intro .plus digits
  have holds : HoldsIntegers (metadataOf longIds "id") := ⟨by decide, .inl rfl⟩
  obtain ⟨-, -, -, kept, -, carried⟩ := integerText_carried written (by decide)
  have same := kept.mpr ⟨4503599627370497, 2, by decide, by decide⟩
  rw [same] at carried
  have equality : IsEquality (strip " id = +0018014398509481988".toList) "id ".toList
      " +0018014398509481988".toList :=
    { free := by
        unfold IsFixed
        decide
      flat := forall_not_isAngle (by decide)
      split := rfl
      first := by decide }
  have range : IsRange (strip "id>=+0018014398509481988".toList) "id".toList .atLeast
      "+0018014398509481988".toList :=
    { free := by
        unfold IsFixed
        decide
      split := rfl
      first := forall_not_isAngle (by decide)
      longest := fun other _ => by cases other <;> decide }
  exact ⟨(carried longIds _ "id" "id ".toList _ (by decide) (isDotted_of_isName (by decide)) holds
      (by decide)).1 equality,
    (carried longIds _ "id" "id".toList _ (by decide) (isDotted_of_isName (by decide)) holds
      (by decide)).2 _ range⟩

/-- The least positive integer that is not representable is compiled into another one. -/
theorem readNumeral_largeInteger_altered :
    readNumeral "9007199254740993".toList = some (.whole 9007199254740992) ∧
      compile longIds "id=9007199254740993" =
        .ok (.term "id" (.number (.whole 9007199254740992))) := by
  decide +kernel

end FilterQuery.Filter
