import BinancePlatform.Library.DecimalWindow
import BinancePlatform.Source.Python

/-!
# Decimals and their texts

The ambient context as a window of digits, and the positional text of a decimal that
stands in it: `Decimal(text)` reads it back with the same value.
-/

set_option autoImplicit false

namespace BinancePlatform.Source
open BinancePlatform.Library

/-- The text is a decimal of this value. -/
def Denotes (text : Value) (x : ℚ) : Prop :=
  ∃ s d, text = .str s ∧ decimalOfText s = .ok (.finite d) ∧ d.value = x

theorem Denotes.unique {text : Value} {x y : ℚ} (first : Denotes text x) (second : Denotes text y) :
    x = y := by
  obtain ⟨s, d, rfl, read, rfl⟩ := first
  obtain ⟨s', d', same, read', rfl⟩ := second
  cases same
  rw [read] at read'
  cases read'
  rfl

theorem default_proper : defaultContext.Proper := ⟨by decide, by decide, by decide⟩

/-- A decimal of moderate length and exponent can be constructed. -/
theorem constructible_of_moderate {d : Decimal} (digits : Decimal.numDigits d.coeff ≤ 10 ^ 9)
    (low : -10 ^ 9 ≤ d.exp) (high : d.exp ≤ 10 ^ 9) : constructible d = true := by
  have tiny : maxContext.etiny ≤ -10 ^ 9 := by decide
  have top : (10 : ℤ) ^ 9 + 10 ^ 9 ≤ maxContext.etop + maxContext.prec := by decide
  have prec : (10 : ℤ) ^ 9 + 10 ^ 9 ≤ maxContext.prec := by decide
  have emax : (10 : ℤ) ^ 9 ≤ maxContext.emax := by decide
  rw [constructible, decide_eq_true_eq, Decimal.fix]
  split
  · have clamped : max maxContext.etiny (min d.exp maxContext.emax) = d.exp := by omega
    rw [clamped]
  · rw [if_neg (by push_cast at *; omega), if_neg (by push_cast at *; omega)]

/-- The positional text of a total in the default context reads back as its value. -/
theorem denotes_printPlain {out : Decimal} (within : Decimal.Within defaultContext out)
    (nonzero : out.value ≠ 0) :
    Denotes (.str (String.ofList (NumberText.printPlain out))) out.value := by
  have coeff : out.coeff ≠ 0 := fun zero => nonzero (Decimal.value_eq_zero_of_coeff zero)
  have digits : Decimal.numDigits out.coeff ≤ 28 :=
    Decimal.numDigits_le_of_lt_pow (by norm_num) within.digits
  have tiny : (-1000026 : ℤ) ≤ out.exp := within.tiny
  have top : Decimal.numDigits out.coeff + out.exp ≤ 999972 + 28 := within.top coeff
  have read : constructible (NumberText.plain out) = true := by
    unfold NumberText.plain
    split
    · refine constructible_of_moderate ?_ (by norm_num) (by norm_num)
      dsimp only
      rw [Decimal.numDigits_shift coeff]
      omega
    · exact constructible_of_moderate (by omega) (by omega) (by omega)
  refine ⟨_, NumberText.plain out, rfl, ?_, NumberText.value_plain out⟩
  rw [decimalOfText, String.toList_ofList, NumberText.readDecimal_printPlain]
  exact if_pos read

end BinancePlatform.Source
