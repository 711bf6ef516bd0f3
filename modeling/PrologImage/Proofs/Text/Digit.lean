import Mathlib.Algebra.Group.Nat.Defs
import Mathlib.Data.List.Induction
import PrologImage.Proofs.Text.Line
import PrologImage.Text.Digit

/-!
Contract: numbers in decimal digits, as they are written.

Owns: that a number is the value of its decimal text, that this text is one line, the form of such
texts, that each text of this form is the one of its value, and how many digits a value needs.

Does not own: numerals in digits of other scripts, which are only read (`Text.Digit`).
-/

namespace PrologImage.Text

theorem digitValue?_of_isDigit {character : Char} (decimal : character.isDigit) :
    digitValue? character = some (character.toNat - '0'.toNat) := by
  have bounds : 0x30 ≤ character.toNat ∧ character.toNat ≤ 0x30 + 9 := by
    simpa [Char.isDigit, UInt32.le_iff_toNat_le] using decimal
  rw [digitValue?, digitZeros, List.find?_cons_of_pos (by simpa using bounds)]
  rfl

theorem numeralValue_eq_ofDigitChars {digits : List Char}
    (decimal : ∀ digit ∈ digits, digit.isDigit) :
    numeralValue digits = Nat.ofDigitChars 10 digits 0 := by
  unfold numeralValue
  rw [Nat.ofDigitChars_eq_foldl]
  refine List.foldl_ext _ _ _ fun value digit member => ?_
  rw [digitValue?_of_isDigit (decimal digit member), Option.getD_some]

/-- A number is the value of its decimal text. -/
theorem numeralValue_toDigits (number : Nat) : numeralValue (Nat.toDigits 10 number) = number := by
  have decimal : ∀ digit ∈ Nat.toDigits 10 number, digit.isDigit :=
    fun _ => Nat.isDigit_of_mem_toDigits (by decide) (by decide)
  rw [numeralValue_eq_ofDigitChars decimal, Nat.ofDigitChars_ten_toDigits]

theorem isOneLine_toDigits (number : Nat) : IsOneLine (Nat.toDigits 10 number) := by
  intro digit member
  have decimal := Nat.isDigit_of_mem_toDigits (by decide) (by decide) member
  have bounds : 48 ≤ digit.toNat ∧ digit.toNat ≤ 57 := by
    simpa [Char.isDigit, UInt32.le_iff_toNat_le] using decimal
  simp [isLineBoundary]
  omega

theorem isOneLine_toString (number : Nat) : IsOneLine (toString number).toList := by
  simpa using isOneLine_toDigits number

theorem digitValue_le (character : Char) : (digitValue? character).getD 0 ≤ 9 := by
  unfold digitValue?
  cases found : digitZeros.find? fun base =>
      base ≤ character.toNat && character.toNat ≤ base + 9 with
  | none => simp
  | some base =>
      have bounds := List.find?_some found
      simp only [Bool.and_eq_true, decide_eq_true_eq] at bounds
      simp only [Option.map_some, Option.getD_some]
      omega

theorem numeralValue_append_singleton (front : List Char) (last : Char) :
    numeralValue (front ++ [last]) = 10 * numeralValue front + (digitValue? last).getD 0 := by
  rw [numeralValue, List.foldl_append]
  rfl

theorem numeralValue_lt (digits : List Char) : numeralValue digits < 10 ^ digits.length := by
  induction digits using List.reverseRecOn with
  | nil => decide
  | append_singleton front last inductionHypothesis =>
      have small := digitValue_le last
      rw [numeralValue_append_singleton, List.length_append, List.length_singleton, Nat.pow_succ]
      omega

/-- The value of a numeral is written with no more digits than the numeral has. -/
theorem length_toDigits_numeralValue {digits : List Char} (present : digits ≠ []) :
    (Nat.toDigits 10 (numeralValue digits)).length ≤ digits.length :=
  (Nat.length_toDigits_le_iff (by decide) (List.length_pos_iff.mpr present)).mpr
    (numeralValue_lt digits)

/-! ## Plain decimals -/

/-- A number in the digits `0` to `9`, without a zero in front of other digits. -/
structure IsPlainDecimal (digits : List Char) : Prop where
  present : digits ≠ []
  decimal : ∀ digit ∈ digits, digit.isDigit
  unpadded : digits.head? = some '0' → digits = ['0']

instance (digits : List Char) : Decidable (IsPlainDecimal digits) :=
  decidable_of_iff (digits ≠ [] ∧ digits.all Char.isDigit = true ∧
      (digits.head? = some '0' → digits = ['0']))
    ⟨fun ⟨present, decimal, unpadded⟩ => ⟨present, List.all_eq_true.mp decimal, unpadded⟩,
      fun plain => ⟨plain.present, List.all_eq_true.mpr plain.decimal, plain.unpadded⟩⟩

theorem isPlainDecimal_toDigits (number : Nat) : IsPlainDecimal (Nat.toDigits 10 number) where
  present := Nat.toDigits_ne_nil
  decimal _ := Nat.isDigit_of_mem_toDigits (by decide) (by decide)
  unpadded := by
    induction number using Nat.strongRecOn with
    | ind number inductionHypothesis =>
        intro zero
        rw [Nat.toDigits_eq_if (by decide)] at zero ⊢
        split at zero
        · next small =>
            obtain isZero : number.digitChar = '0' := by simpa using zero
            rw [if_pos small, isZero]
        · next large =>
            -- The digits before the last would be those of zero.
            rw [List.head?_append_of_ne_nil _ Nat.toDigits_ne_nil] at zero
            have front := inductionHypothesis (number / 10) (by omega) zero
            have value := numeralValue_toDigits (number / 10)
            have nothing : numeralValue ['0'] = 0 := by decide
            rw [front, nothing] at value
            omega

theorem digitChar_of_isDigit {digit : Char} (decimal : digit.isDigit) :
    (digit.toNat - '0'.toNat).digitChar = digit := by
  have bounds : 48 ≤ digit.toNat ∧ digit.toNat ≤ 57 := by
    simpa [Char.isDigit, UInt32.le_iff_toNat_le] using decimal
  change (digit.toNat - 48).digitChar = digit
  rw [← Char.toNat_inj, Nat.toNat_digitChar_of_lt_ten (by omega)]
  omega

/-- A plain decimal is the text of its value. -/
theorem toDigits_numeralValue {digits : List Char} (plain : IsPlainDecimal digits) :
    Nat.toDigits 10 (numeralValue digits) = digits := by
  induction digits using List.reverseRecOn with
  | nil => exact absurd rfl plain.present
  | append_singleton front last inductionHypothesis =>
      obtain ⟨decimal, lastDecimal⟩ := List.forall_mem_append.mp plain.decimal
      have isDigit := lastDecimal last List.mem_cons_self
      have small := digitValue_le last
      have single : Nat.toDigits 10 ((digitValue? last).getD 0) = [last] := by
        rw [Nat.toDigits_of_lt_base (by omega), digitValue?_of_isDigit isDigit, Option.getD_some,
          digitChar_of_isDigit isDigit]
      rw [numeralValue_append_singleton]
      by_cases alone : front = []
      · rw [alone]
        simpa [numeralValue] using single
      · have unpadded : front.head? ≠ some '0' := by
          intro zero
          have whole := plain.unpadded (by rw [List.head?_append_of_ne_nil _ alone, zero])
          have length := congrArg List.length whole
          simp [alone] at length
        have shorter := inductionHypothesis ⟨alone, decimal, fun zero => absurd zero unpadded⟩
        have positive : 0 < numeralValue front := by
          rw [Nat.pos_iff_ne_zero]
          intro zero
          rw [zero] at shorter
          exact unpadded (by rw [← shorter]; rfl)
        rw [← Nat.toDigits_append_toDigits (by decide) positive (by omega), shorter, single]

end PrologImage.Text
