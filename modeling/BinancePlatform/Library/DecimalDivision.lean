import BinancePlatform.Library.DecimalWindow
import Mathlib.Data.Nat.Cast.Order.Field

/-!
# Division and quantization of decimals

`div` computes one digit more than the precision and a sticky last digit before `fix`
rounds; `quantizeDown` cuts at an exponent. A quotient that fits the context is exact
(`div_exact`), and each rounding adds at most one unit of the last digit (`fix_relative`,
`div_relative`).
-/

set_option autoImplicit false

namespace BinancePlatform.Library.Decimal

/-- Moves up to `fuel` trailing zeros into the exponent, no further than `top`. -/
def stripZeros (top : ℤ) : (fuel : ℕ) → Decimal → Decimal
  | 0, d => d
  | fuel + 1, d =>
    if d.exp < top ∧ d.coeff % 10 = 0 then
      stripZeros top fuel ⟨d.negative, d.coeff / 10, d.exp + 1⟩
    else d

def reduce (top : ℤ) (d : Decimal) : Decimal := stripZeros top (numDigits d.coeff) d

/-- The digits of `n / m`, the last one moved off a multiple of five when a rest remains. -/
def sticky (negative : Bool) (ideal exp : ℤ) (n m : ℕ) : Decimal :=
  if n % m = 0 then reduce ideal ⟨negative, n / m, exp⟩
  else ⟨negative, if n / m % 5 = 0 then n / m + 1 else n / m, exp⟩

/-- The places by which the dividend is shifted, so that one digit more than the precision
is computed. -/
def shift (ctx : Context) (a b : Decimal) : ℤ := numDigits b.coeff - numDigits a.coeff + ctx.prec + 1

/-- The quotient before it is rounded. -/
def exactDiv (ctx : Context) (a b : Decimal) : Decimal :=
  sticky (xor a.negative b.negative) (a.exp - b.exp) (a.exp - b.exp - shift ctx a b)
    (a.coeff * 10 ^ (shift ctx a b).toNat) (b.coeff * 10 ^ (-shift ctx a b).toNat)

def div (ctx : Context) (a b : Decimal) : Option Decimal :=
  if b.coeff = 0 then none
  else if a.coeff = 0 then fix ctx ⟨xor a.negative b.negative, 0, a.exp - b.exp⟩
  else fix ctx (exactDiv ctx a b)

/-- `quantize` to the exponent `e`, rounding toward zero; too many digits are refused. -/
def quantizeDown (ctx : Context) (e : ℤ) (d : Decimal) : Option Decimal :=
  if d.coeff = 0 then some ⟨d.negative, 0, e⟩
  else if ctx.prec < numDigits d.coeff + d.exp - e then none
  else if e ≤ d.exp then some ⟨d.negative, d.coeff * 10 ^ (d.exp - e).toNat, e⟩
  else some ⟨d.negative, d.coeff / 10 ^ (e - d.exp).toNat, e⟩

/-- `normalize`. -/
def normalize (ctx : Context) (d : Decimal) : Option Decimal :=
  (fix ctx d).map fun fixed =>
    if fixed.coeff = 0 then ⟨fixed.negative, 0, 0⟩ else reduce ctx.emax fixed

theorem value_stripZeros (top : ℤ) (fuel : ℕ) (d : Decimal) : (stripZeros top fuel d).value = d.value := by
  induction fuel generalizing d with
  | zero => rfl
  | succ fuel ih =>
    unfold stripZeros
    split
    · rename_i trailing
      rw [ih]
      have shifted := value_shift (d := d) (e := d.exp + 1) (by omega)
        (by simpa using Nat.dvd_of_mod_eq_zero trailing.2)
      simpa using shifted
    · rfl

theorem value_reduce (top : ℤ) (d : Decimal) : (reduce top d).value = d.value :=
  value_stripZeros top _ d

theorem value_positive {d : Decimal} (positive : d.negative = false) :
    d.value = d.coeff * (10 : ℚ) ^ d.exp := by
  rw [value, signed, positive]
  simp

theorem negative_of_pos {d : Decimal} (positive : 0 < d.value) : d.negative = false := by
  by_contra negative
  rw [Bool.not_eq_false] at negative
  have := value_of_negative negative
  have := abs_nonneg d.value
  linarith

theorem coeff_ne_zero {d : Decimal} (positive : 0 < d.value) : d.coeff ≠ 0 := fun zero =>
  positive.ne' (value_eq_zero_of_coeff zero)

/-! ## Rounding errors -/

/-- Rounding a normal value up adds at most one unit of its last digit. -/
theorem fix_relative {ctx : Context} {d out : Decimal} (fixed : fix ctx d = some out)
    (normal : (10 : ℚ) ^ (ctx.etiny + ctx.prec - 1) ≤ d.value) :
    out.value ≤ d.value * (1 + (10 : ℚ) ^ (1 - ctx.prec : ℤ)) := by
  have positive : 0 < d.value := (ten_zpow_pos _).trans_le normal
  have sign := negative_of_pos positive
  have nonzero := coeff_ne_zero positive
  have value := value_positive sign
  have shown : ∀ (c : ℕ) (e : ℤ), (⟨d.negative, c, e⟩ : Decimal).value = c * (10 : ℚ) ^ e :=
    fun c e => value_positive (d := ⟨d.negative, c, e⟩) sign
  have above : d.value ≤ d.value * (1 + (10 : ℚ) ^ (1 - ctx.prec : ℤ)) :=
    le_mul_of_one_le_right positive.le (by linarith [ten_zpow_pos (1 - ctx.prec)])
  have leadPow : 10 ^ Nat.log 10 d.coeff ≤ d.coeff := Nat.pow_log_le_self 10 nonzero
  -- The leading digit of a normal value stands at or above the least normal exponent.
  have lead : ctx.etiny + ctx.prec - 1 < numDigits d.coeff + d.exp := by
    have upper : d.value < (10 : ℚ) ^ (numDigits d.coeff + d.exp : ℤ) := by
      rw [value, zpow_add₀ (by norm_num), zpow_natCast]
      refine mul_lt_mul_of_pos_right ?_ (ten_zpow_pos _)
      exact_mod_cast Nat.lt_pow_succ_log_self (by norm_num : 1 < 10) d.coeff
    exact (zpow_lt_zpow_iff_right₀ (by norm_num : (1 : ℚ) < 10)).mp (normal.trans_lt upper)
  rw [fix, if_neg nonzero] at fixed
  dsimp only at fixed
  split at fixed
  · cases fixed
  split at fixed
  case isFalse => cases fixed; exact above
  case isTrue below =>
    have digits : (numDigits d.coeff : ℤ) = Nat.log 10 d.coeff + 1 := by simp [numDigits]
    have floor : max (numDigits d.coeff + d.exp - ctx.prec : ℤ) ctx.etiny
        = numDigits d.coeff + d.exp - ctx.prec := by omega
    rw [floor] at fixed below
    set floorExp := (numDigits d.coeff + d.exp - ctx.prec : ℤ) with floored
    set k := (floorExp - d.exp).toNat with steps
    have place : floorExp = d.exp + k := by omega
    have unit : (10 : ℚ) ^ floorExp ≤ d.value * (10 : ℚ) ^ (1 - ctx.prec : ℤ) := by
      have scaled : (10 : ℚ) ^ floorExp
          = (10 : ℚ) ^ (Nat.log 10 d.coeff : ℤ) * 10 ^ d.exp * 10 ^ (1 - ctx.prec : ℤ) := by
        rw [← zpow_add₀ (by norm_num), ← zpow_add₀ (by norm_num)]
        congr 1
        omega
      rw [scaled, value, zpow_natCast]
      refine mul_le_mul_of_nonneg_right (mul_le_mul_of_nonneg_right ?_ (ten_zpow_pos _).le)
        (ten_zpow_pos _).le
      exact_mod_cast leadPow
    have rounded : (roundCoeff d.coeff k : ℚ) * (10 : ℚ) ^ floorExp ≤ d.value + 10 ^ floorExp := by
      have most := Nat.mul_le_mul_right (10 ^ k) (roundCoeff_le d.coeff k)
      have quotient := Nat.div_mul_le_self d.coeff (10 ^ k)
      have cast : (roundCoeff d.coeff k : ℚ) * 10 ^ k ≤ d.coeff + 10 ^ k := by
        have : roundCoeff d.coeff k * 10 ^ k ≤ d.coeff + 10 ^ k := by
          rw [add_mul, one_mul] at most
          omega
        exact_mod_cast this
      have scaled := mul_le_mul_of_nonneg_right cast (ten_zpow_pos d.exp).le
      rw [place, zpow_add₀ (by norm_num), zpow_natCast, value]
      linarith
    have total : (roundCoeff d.coeff k : ℚ) * (10 : ℚ) ^ floorExp
        ≤ d.value * (1 + (10 : ℚ) ^ (1 - ctx.prec : ℤ)) := by
      rw [mul_add, mul_one]
      linarith
    split at fixed
    case isTrue carry =>
      split at fixed
      · cases fixed
      cases fixed
      rw [shown]
      refine le_trans ?_ total
      have tenth : ((roundCoeff d.coeff k / 10 : ℕ) : ℚ) * 10 ≤ roundCoeff d.coeff k := by
        exact_mod_cast Nat.div_mul_le_self _ 10
      rw [zpow_add₀ (by norm_num), zpow_one, mul_comm ((10 : ℚ) ^ floorExp) 10, ← mul_assoc]
      exact mul_le_mul_of_nonneg_right tenth (ten_zpow_pos _).le
    case isFalse =>
      cases fixed
      rw [shown]
      exact total

/-! ## Quotients -/

theorem sticky_value {ideal e : ℤ} {n m : ℕ} (positive : 0 < m) {prec : ℕ} (some : 0 < prec)
    (long : 10 ^ prec ≤ n / m) :
    (sticky false ideal e n m).value ≤ (n : ℚ) / m * 10 ^ e * (1 + (10 : ℚ) ^ (-prec : ℤ))
      ∧ (n : ℚ) / m * 10 ^ e / 2 ≤ (sticky false ideal e n m).value
      ∧ (n % m = 0 → (sticky false ideal e n m).value = (n : ℚ) / m * 10 ^ e) := by
  have shown : ∀ c : ℕ, (⟨false, c, e⟩ : Decimal).value = c * (10 : ℚ) ^ e := fun c =>
    value_positive rfl
  have unit := ten_zpow_pos e
  have cast : (0 : ℚ) < m := by exact_mod_cast positive
  have longCast : (10 : ℚ) ^ prec ≤ ((n / m : ℕ) : ℚ) := by exact_mod_cast long
  have below : ((n / m : ℕ) : ℚ) ≤ (n : ℚ) / m := Nat.cast_div_le
  have power : (1 : ℚ) < 10 ^ prec := one_lt_pow₀ (by norm_num) some.ne'
  have exact : 0 < (n : ℚ) / m * 10 ^ e := mul_pos (by linarith) unit
  unfold sticky
  split
  · rename_i divides
    have whole : ((n / m : ℕ) : ℚ) = (n : ℚ) / m := by
      rw [eq_div_iff cast.ne']
      exact_mod_cast Nat.div_mul_cancel (Nat.dvd_of_mod_eq_zero divides)
    rw [value_reduce, shown, whole]
    refine ⟨le_mul_of_one_le_right exact.le ?_, by linarith, fun _ => rfl⟩
    linarith [ten_zpow_pos (-(prec : ℤ))]
  · rename_i inexact
    have near : n / m ≤ (if n / m % 5 = 0 then n / m + 1 else n / m)
        ∧ (if n / m % 5 = 0 then n / m + 1 else n / m) ≤ n / m + 1 := by
      split <;> omega
    generalize (if n / m % 5 = 0 then n / m + 1 else n / m) = c at *
    have least : ((n / m : ℕ) : ℚ) ≤ c := by exact_mod_cast near.1
    have most : (c : ℚ) ≤ ((n / m : ℕ) : ℚ) + 1 := by exact_mod_cast near.2
    have above : (n : ℚ) / m ≤ ((n / m : ℕ) : ℚ) + 1 := by
      rw [div_le_iff₀ cast]
      exact_mod_cast (Nat.lt_mul_of_div_lt (Nat.lt_succ_self _) positive).le
    have share : 1 ≤ (n : ℚ) / m * (10 : ℚ) ^ (-prec : ℤ) := by
      rw [zpow_neg, zpow_natCast, ← div_eq_mul_inv, one_le_div (by linarith)]
      linarith
    rw [shown]
    refine ⟨?_, ?_, fun divides => absurd divides inexact⟩
    · rw [mul_right_comm]
      refine mul_le_mul_of_nonneg_right ?_ unit.le
      rw [mul_add, mul_one]
      linarith
    · rw [mul_div_right_comm]
      refine mul_le_mul_of_nonneg_right ?_ unit.le
      linarith

section Quotient
variable {ctx : Context} {a b : Decimal}

theorem quotient_scaled (posA : 0 < a.value) (posB : 0 < b.value) :
    a.value / b.value = ((a.coeff * 10 ^ (shift ctx a b).toNat : ℕ) : ℚ)
        / (b.coeff * 10 ^ (-shift ctx a b).toNat : ℕ) * 10 ^ (a.exp - b.exp - shift ctx a b) := by
  have split : (10 : ℚ) ^ (shift ctx a b).toNat = 10 ^ (-shift ctx a b).toNat * 10 ^ shift ctx a b := by
    rw [← zpow_natCast, ← zpow_natCast, ← zpow_add₀ (by norm_num)]
    congr 1
    omega
  have exponents : (10 : ℚ) ^ a.exp
      = 10 ^ b.exp * (10 ^ shift ctx a b * 10 ^ (a.exp - b.exp - shift ctx a b)) := by
    rw [← zpow_add₀ (by norm_num), ← zpow_add₀ (by norm_num)]
    congr 1
    omega
  rw [value_positive (negative_of_pos posA), value_positive (negative_of_pos posB), exponents]
  push_cast
  rw [split]
  have nonzero : (b.coeff : ℚ) ≠ 0 := by exact_mod_cast coeff_ne_zero posB
  have ten : (10 : ℚ) ^ b.exp ≠ 0 := (ten_zpow_pos _).ne'
  field_simp

theorem quotient_long (posA : 0 < a.value) (posB : 0 < b.value) :
    0 < b.coeff * 10 ^ (-shift ctx a b).toNat
      ∧ 10 ^ ctx.prec ≤ a.coeff * 10 ^ (shift ctx a b).toNat / (b.coeff * 10 ^ (-shift ctx a b).toNat) := by
  have positive : 0 < b.coeff * 10 ^ (-shift ctx a b).toNat :=
    Nat.mul_pos (Nat.pos_of_ne_zero (coeff_ne_zero posB)) (by positivity)
  refine ⟨positive, (Nat.le_div_iff_mul_le positive).mpr ?_⟩
  have upper : b.coeff < 10 ^ numDigits b.coeff := Nat.lt_pow_succ_log_self (by norm_num) b.coeff
  have lead : 10 ^ (numDigits a.coeff - 1) ≤ a.coeff := by
    simpa [numDigits] using Nat.pow_log_le_self 10 (coeff_ne_zero posA)
  have some : 1 ≤ numDigits a.coeff := by simp [numDigits]
  calc 10 ^ ctx.prec * (b.coeff * 10 ^ (-shift ctx a b).toNat)
      ≤ 10 ^ ctx.prec * (10 ^ numDigits b.coeff * 10 ^ (-shift ctx a b).toNat) := by gcongr
    _ = 10 ^ (numDigits a.coeff - 1) * 10 ^ (shift ctx a b).toNat := by
        rw [← pow_add, ← pow_add, ← pow_add]
        congr 1
        unfold shift
        omega
    _ ≤ a.coeff * 10 ^ (shift ctx a b).toNat := by gcongr

theorem exactDiv_eq (posA : 0 < a.value) (posB : 0 < b.value) :
    exactDiv ctx a b = sticky false (a.exp - b.exp) (a.exp - b.exp - shift ctx a b)
      (a.coeff * 10 ^ (shift ctx a b).toNat) (b.coeff * 10 ^ (-shift ctx a b).toNat) := by
  rw [exactDiv, negative_of_pos posA, negative_of_pos posB]
  rfl

/-- A quotient whose digits fit the context is exact. -/
theorem div_exact (prec : 0 < ctx.prec) (posA : 0 < a.value) (posB : 0 < b.value)
    (fits : Fits ctx (a.value / b.value)) :
    ∃ out, div ctx a b = some out ∧ out.value = a.value / b.value := by
  obtain ⟨positive, long⟩ := @quotient_long ctx a b posA posB
  have value := @quotient_scaled ctx a b posA posB
  have bounds := @sticky_value (a.exp - b.exp) (a.exp - b.exp - shift ctx a b) _ _ positive _ prec long
  have shape := @exactDiv_eq ctx a b posA posB
  generalize a.coeff * 10 ^ (shift ctx a b).toNat = n at *
  generalize b.coeff * 10 ^ (-shift ctx a b).toNat = m at *
  generalize a.exp - b.exp - shift ctx a b = e at *
  -- The window of the quotient starts above the last digit that is computed.
  have divides : n % m = 0 := by
    obtain ⟨lo, -, -, ⟨z, multiple⟩, bound⟩ := fits
    have cast : (0 : ℚ) < m := by exact_mod_cast positive
    have high : (10 : ℚ) ^ ((ctx.prec : ℤ) + e) ≤ a.value / b.value := by
      rw [value, zpow_add₀ (by norm_num), zpow_natCast]
      refine mul_le_mul_of_nonneg_right ?_ (ten_zpow_pos e).le
      exact (show ((10 : ℚ) ^ ctx.prec ≤ ((n / m : ℕ) : ℚ)) by exact_mod_cast long).trans Nat.cast_div_le
    rw [abs_of_pos (div_pos posA posB)] at bound
    have order := (zpow_lt_zpow_iff_right₀ (by norm_num : (1 : ℚ) < 10)).mp (high.trans_lt bound)
    have split : (10 : ℚ) ^ lo = 10 ^ (lo - e).toNat * 10 ^ e := by
      rw [← zpow_natCast, ← zpow_add₀ (by norm_num)]
      congr 1
      omega
    have whole : (n : ℚ) / m = z * 10 ^ (lo - e).toNat := by
      rw [value, split, ← mul_assoc] at multiple
      exact mul_right_cancel₀ (ten_zpow_pos e).ne' multiple
    have product : (n : ℤ) = z * 10 ^ (lo - e).toNat * m := by
      rw [div_eq_iff cast.ne'] at whole
      exact_mod_cast whole
    have divides : (m : ℤ) ∣ n := ⟨z * 10 ^ (lo - e).toNat, by rw [product]; ring⟩
    exact Nat.mod_eq_zero_of_dvd (by exact_mod_cast divides)
  have exact : (exactDiv ctx a b).value = a.value / b.value := by
    rw [shape, bounds.2.2 divides, value]
  obtain ⟨out, fixed, same⟩ := @fix_of_fits ctx (exactDiv ctx a b) (by rwa [exact])
  refine ⟨out, ?_, same.trans exact⟩
  rw [div, if_neg (coeff_ne_zero posB), if_neg (coeff_ne_zero posA), fixed]

/-- A normal quotient grows by little more than one unit of its last digit. -/
theorem div_relative {out : Decimal} (divided : div ctx a b = some out) (prec : 0 < ctx.prec)
    (posA : 0 < a.value) (posB : 0 < b.value)
    (normal : 2 * (10 : ℚ) ^ (ctx.etiny + ctx.prec - 1) ≤ a.value / b.value) :
    out.value ≤ a.value / b.value * (1 + (10 : ℚ) ^ (-ctx.prec : ℤ))
      * (1 + (10 : ℚ) ^ (1 - ctx.prec : ℤ)) := by
  obtain ⟨positive, long⟩ := @quotient_long ctx a b posA posB
  obtain ⟨upper, lower, -⟩ :=
    @sticky_value (a.exp - b.exp) (a.exp - b.exp - shift ctx a b) _ _ positive _ prec long
  rw [← quotient_scaled posA posB, ← exactDiv_eq posA posB] at upper lower
  rw [div, if_neg (coeff_ne_zero posB), if_neg (coeff_ne_zero posA)] at divided
  have rounded := fix_relative divided (by linarith)
  refine rounded.trans (mul_le_mul_of_nonneg_right upper ?_)
  linarith [ten_zpow_pos (1 - (ctx.prec : ℤ))]

end Quotient

/-! ## Quantization -/

theorem quantizeDown_shape {ctx : Context} {e : ℤ} {d q : Decimal} (cut : quantizeDown ctx e d = some q) :
    q.exp = e ∧ q.negative = d.negative := by
  unfold quantizeDown at cut
  split at cut
  · cases cut
    exact ⟨rfl, rfl⟩
  split at cut
  · cases cut
  split at cut <;> cases cut <;> exact ⟨rfl, rfl⟩

/-- Cutting at an exponent does not raise a positive value. -/
theorem quantizeDown_le {ctx : Context} {e : ℤ} {d q : Decimal} (cut : quantizeDown ctx e d = some q)
    (nonneg : d.negative = false) : q.value ≤ d.value := by
  have value := value_positive nonneg
  unfold quantizeDown at cut
  split at cut
  · rename_i zero
    cases cut
    rw [value_eq_zero_of_coeff zero]
    exact (value_eq_zero_of_coeff rfl).le
  split at cut
  · cases cut
  split at cut
  · rename_i below
    cases cut
    refine le_of_eq ?_
    have split : (10 : ℚ) ^ d.exp = 10 ^ (d.exp - e).toNat * 10 ^ e := by
      rw [← zpow_natCast, ← zpow_add₀ (by norm_num)]
      congr 1
      omega
    rw [value_positive (d := ⟨d.negative, _, e⟩) nonneg, value, split]
    push_cast
    ring
  · rename_i above
    cases cut
    have split : (10 : ℚ) ^ e = 10 ^ (e - d.exp).toNat * 10 ^ d.exp := by
      rw [← zpow_natCast, ← zpow_add₀ (by norm_num)]
      congr 1
      omega
    rw [value_positive (d := ⟨d.negative, _, e⟩) nonneg, value]
    dsimp only
    rw [split, ← mul_assoc]
    refine mul_le_mul_of_nonneg_right ?_ (ten_zpow_pos _).le
    exact_mod_cast Nat.div_mul_le_self _ _

end BinancePlatform.Library.Decimal
