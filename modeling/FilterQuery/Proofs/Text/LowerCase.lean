import FilterQuery.Text.LowerCase
import FilterQuery.Proofs.Text.Run

/-!
# What lower-casing keeps

The characters that a text has in lower case as well, wherever they stand in it, and the number of
its digits.
-/

set_option autoImplicit false

namespace FilterQuery.Text

namespace LowerCase

variable {c : Char}

/-- A character of ASCII that is no capital letter is its own lower-case form. -/
theorem ofChar_of_ascii (ascii : c.toNat < 128) (small : ('A' ≤ c && c ≤ 'Z') = false) :
    ofChar c = [c] := by
  rw [ofChar, if_pos ascii, if_neg (by simp [small])]

theorem mem_ofText {text : List Char} (ascii : c.toNat < 128)
    (small : ('A' ≤ c && c ≤ 'Z') = false) (member : c ∈ text) (before : List Char) :
    c ∈ ofText before text := by
  induction text generalizing before with
  | nil => cases member
  | cons head rest ih =>
      rw [ofText]
      rcases List.mem_cons.mp member with rfl | member
      · have noSigma : (c.toNat == 0x3A3) = false := beq_false_of_ne (by omega)
        simp [noSigma, ofChar_of_ascii ascii small]
      · exact List.mem_append_right _ (ih member _)

theorem isAsciiDigit_ofNat {code : Nat} (above : 57 < code) :
    isAsciiDigit (Char.ofNat code) = false := by
  rw [Bool.eq_false_iff, Ne, isAsciiDigit_iff]
  intro digit
  by_cases valid : code.isValidChar
  · have same : (Char.ofNat code).toNat = code := congrArg Char.toNat (dif_pos valid)
    omega
  · have same : (Char.ofNat code).toNat = 0 := congrArg Char.toNat (dif_neg valid)
    omega

/-- No character gets an ASCII digit as its lower-case form from the table. -/
theorem isAsciiDigit_shifted {run : Run} {code : Nat} (listed : run ∈ runs)
    (holds : run.holds code = true) :
    isAsciiDigit (Char.ofNat (code + run.shift).toNat) = false := by
  have all : ∀ run ∈ runs, 57 < run.first + run.shift := by decide +kernel
  have above := all run listed
  simp only [Run.holds, Bool.and_eq_true, decide_eq_true_eq] at holds
  exact isAsciiDigit_ofNat (by omega)

theorem countP_ofChar (c : Char) : (ofChar c).countP isAsciiDigit = [c].countP isAsciiDigit := by
  rw [ofChar]
  split
  · split
    · next capital =>
        simp only [Bool.and_eq_true, decide_eq_true_eq, Char.le_def, UInt32.le_iff_toNat_le]
          at capital
        have letter : 57 < c.toNat := Nat.lt_of_lt_of_le (by decide) capital.1
        have digitless : isAsciiDigit c = false := by
          rw [← Char.ofNat_toNat c]
          exact isAsciiDigit_ofNat letter
        simp [digitless, isAsciiDigit_ofNat (Nat.lt_add_right 32 letter)]
    · rfl
  · next beyond =>
      have digitless : isAsciiDigit c = false := by
        rw [Bool.eq_false_iff, Ne, isAsciiDigit_iff]
        omega
      split
      · have form : ['i', Char.ofNat 0x307].countP isAsciiDigit = 0 := by decide
        simp only [form, List.countP_singleton, digitless, Bool.false_eq_true, ↓reduceIte]
      · split
        · next run found =>
            have holds := List.find?_some found
            simp [digitless, isAsciiDigit_shifted (List.mem_of_find?_eq_some found) holds]
        · rfl

theorem countP_ofText (before text : List Char) :
    (ofText before text).countP isAsciiDigit = text.countP isAsciiDigit := by
  induction text generalizing before with
  | nil => rfl
  | cons c rest ih =>
      have head : (if c.toNat == 0x3A3 then
          if startsWithLetter before && !startsWithLetter rest then ['ς'] else ['σ']
          else ofChar c).countP isAsciiDigit = [c].countP isAsciiDigit := by
        split
        · next sigma =>
            have digitless : isAsciiDigit c = false := by
              rw [Bool.eq_false_iff, Ne, isAsciiDigit_iff, eq_of_beq sigma]
              omega
            have final : isAsciiDigit 'ς' = false := by decide
            have other : isAsciiDigit 'σ' = false := by decide
            split <;> simp [digitless, final, other]
        · exact countP_ofChar c
      rw [ofText, List.countP_append, ih, head, ← List.countP_append, List.singleton_append]

end LowerCase

theorem mem_lower {c : Char} {text : List Char} (ascii : c.toNat < 128)
    (small : ('A' ≤ c && c ≤ 'Z') = false) (member : c ∈ text) : c ∈ lower text :=
  LowerCase.mem_ofText ascii small member []

/-- A text has as many ASCII digits in lower case. -/
theorem countP_lower (text : List Char) :
    (lower text).countP isAsciiDigit = text.countP isAsciiDigit :=
  LowerCase.countP_ofText [] text

end FilterQuery.Text
