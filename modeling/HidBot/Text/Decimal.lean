import Mathlib.Data.List.Induction
import Mathlib.Data.Nat.Notation

/-!
# Decimal numerals

A numeral is canonical if it is a sequence of digits with no leading zero. Every number
has exactly one canonical numeral.
-/

namespace HidBot.Text

/-- The number that these digits stand for. -/
def number (digits : List Char) : ℕ := Nat.ofDigitChars 10 digits 0

/-- Digits, at least one, and no zero before another digit. -/
structure Canonical (digits : List Char) : Prop where
  nonempty : digits ≠ []
  decimal : ∀ digit ∈ digits, digit.isDigit = true
  leading : 1 < digits.length → digits.head? ≠ some '0'

variable {digits : List Char}

theorem digitChar_of_isDigit {digit : Char} (decimal : digit.isDigit = true) :
    digit.toNat - '0'.toNat < 10 ∧ (digit.toNat - '0'.toNat).digitChar = digit := by
  simp only [Char.isDigit, Bool.and_eq_true, decide_eq_true_eq, UInt32.le_iff_toNat_le] at decimal
  have low : '0'.toNat ≤ digit.toNat := decimal.1
  have high : digit.toNat ≤ '0'.toNat + 9 := decimal.2
  have small : digit.toNat - '0'.toNat < 10 := by omega
  refine ⟨small, Char.toNat_inj.mp ?_⟩
  rw [Nat.toNat_digitChar_of_lt_ten small]
  exact Nat.add_sub_of_le low

theorem le_ofDigitChars (digits : List Char) (before : ℕ) :
    before ≤ Nat.ofDigitChars 10 digits before := by
  induction digits generalizing before with
  | nil => simp
  | cons digit rest ih =>
      rw [Nat.ofDigitChars_cons]
      exact Nat.le_trans (by omega) (ih _)

theorem number_pos {digit : Char} {rest : List Char} (decimal : digit.isDigit = true)
    (leading : digit ≠ '0') : 0 < number (digit :: rest) := by
  rw [number, Nat.ofDigitChars_cons, Nat.mul_zero, Nat.zero_add]
  refine Nat.lt_of_lt_of_le (Nat.pos_of_ne_zero fun zero => leading ?_) (le_ofDigitChars rest _)
  have same := (digitChar_of_isDigit decimal).2
  rw [zero] at same
  exact same.symm

theorem number_concat (digits : List Char) (digit : Char) :
    number (digits ++ [digit]) = 10 * number digits + (digit.toNat - '0'.toNat) := by
  rw [number, Nat.ofDigitChars_append, Nat.ofDigitChars_cons, Nat.ofDigitChars_nil, number]

theorem Canonical.of_concat {first digit : Char} {rest : List Char}
    (canonical : Canonical (first :: rest ++ [digit])) :
    Canonical (first :: rest) ∧ first ≠ '0' := by
  have leading : first ≠ '0' := fun zero => canonical.leading (by simp) (by simp [zero])
  refine ⟨⟨List.cons_ne_nil _ _, fun other member => ?_, fun _ => by simpa using leading⟩, leading⟩
  exact canonical.decimal other (List.mem_append_left _ member)

/-- A canonical numeral is the numeral of its number. -/
theorem Canonical.toDigits_number (canonical : Canonical digits) :
    Nat.toDigits 10 (number digits) = digits := by
  induction digits using List.reverseRecOn with
  | nil => exact absurd rfl canonical.nonempty
  | append_singleton before digit ih =>
      obtain ⟨small, same⟩ := digitChar_of_isDigit (canonical.decimal digit (by simp))
      rw [number_concat]
      cases before with
      | nil =>
          rw [number, Nat.ofDigitChars_nil, Nat.mul_zero, Nat.zero_add,
            Nat.toDigits_of_lt_base small, same, List.nil_append]
      | cons first rest =>
          obtain ⟨shorter, leading⟩ := canonical.of_concat
          have positive : 0 < number (first :: rest) :=
            number_pos (shorter.decimal first (by simp)) leading
          rw [← Nat.toDigits_append_toDigits (by decide) positive small, ih shorter,
            Nat.toDigits_of_lt_base small, same]

theorem head_toDigits {value : ℕ} (positive : 0 < value) :
    (Nat.toDigits 10 value).head? ≠ some '0' := by
  induction value using Nat.strongRecOn with
  | ind value ih =>
      by_cases small : value < 10
      · rw [Nat.toDigits_of_lt_base small, List.head?_cons, ne_eq, Option.some.injEq,
          Nat.digitChar_eq_zero]
        exact Nat.ne_of_gt positive
      · have large : 10 ≤ value := Nat.le_of_not_lt small
        rw [Nat.toDigits_of_base_le (by decide) large, List.head?_append,
          Option.or_of_isSome (List.isSome_head?.mpr Nat.toDigits_ne_nil)]
        exact ih (value / 10) (by omega) (by omega)

/-- The numeral of a number is canonical. -/
theorem canonical_toDigits (value : ℕ) : Canonical (Nat.toDigits 10 value) where
  nonempty := Nat.toDigits_ne_nil
  decimal := fun _ member => Nat.isDigit_of_mem_toDigits (by decide) (by decide) member
  leading := fun longer => by
    refine head_toDigits (Nat.pos_of_ne_zero fun zero => ?_)
    rw [zero, Nat.toDigits_zero] at longer
    exact absurd longer (by decide)

/-- A numeral is canonical and stands for this value. -/
theorem canonical_iff {value : ℕ} :
    Canonical digits ∧ number digits = value ↔ digits = Nat.toDigits 10 value := by
  refine ⟨fun ⟨canonical, same⟩ => ?_, fun same => ?_⟩
  · rw [← same, canonical.toDigits_number]
  · rw [same]
    exact ⟨canonical_toDigits value, Nat.ofDigitChars_ten_toDigits⟩

end HidBot.Text
