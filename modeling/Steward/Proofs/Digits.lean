/-
This file shows that numbers are read back from their digits.
-/

import Steward.Text.Digits

namespace Steward.Text

theorem isDigit_eq (character : Char) : isDigit character = character.isDigit := by
  rfl

theorem isDigit_of_mem_decimal {number : Nat} {digit : Char} (member : digit ∈ decimal number) :
    isDigit digit = true := by
  rw [isDigit_eq]
  exact Nat.isDigit_of_mem_toDigits (by decide) (by decide) member

theorem digitsValue_decimal (number : Nat) : digitsValue (decimal number) = number :=
  Nat.ofDigitChars_toDigits (by decide) (by decide)

theorem digitsValue_padded (width number : Nat) : digitsValue (padded width number) = number := by
  change Nat.ofDigitChars 10 (List.replicate _ '0' ++ decimal number) 0 = number
  rw [Nat.ofDigitChars_append, Nat.ofDigitChars_replicate_zero, Nat.mul_zero]
  exact digitsValue_decimal number

/-- Zeros in front do not hide a number. -/
theorem padded_injective {width first second : Nat}
    (same : padded width first = padded width second) :
    first = second := by
  rw [← digitsValue_padded width first, same, digitsValue_padded]

/-- The whole run of digits is taken that stands before something else. -/
theorem spanDigits_of_digits {digits rest : List Char}
    (all : ∀ digit ∈ digits, isDigit digit = true)
    (ends : ∀ next ∈ rest.head?, isDigit next = false) :
    spanDigits (digits ++ rest) = (digits, rest) := by
  rw [spanDigits, List.takeWhile_append_of_pos all, List.dropWhile_append_of_pos all]
  cases rest with
  | nil => simp
  | cons next rest =>
      have stops := ends next rfl
      simp [stops]

end Steward.Text
