import Mathlib.Data.Nat.Log
import Mathlib.Algebra.Order.Field.Rat
import Mathlib.Algebra.Order.Field.Power
import Mathlib.Tactic.Linarith
import Mathlib.Tactic.Positivity
import Mathlib.Tactic.Ring
import Mathlib.Tactic.NormNum
import Mathlib.Tactic.FieldSimp

/-!
# Decimal arithmetic under a context

Finite decimals keep their exponent, so `1.0` and `1.00` differ as records and
agree in `value`. Every operation is the exact result followed by `fix`, which
rounds half-even to the precision and refuses overflow; `none` is the trapped
signal. `fix_exact` is the rule by which callers discharge "nothing is rounded".
-/

set_option autoImplicit false

namespace BinancePlatform.Library

structure Decimal where
  negative : Bool
  coeff : ℕ
  exp : ℤ
  deriving DecidableEq, Repr

namespace Decimal

structure Context where
  prec : ℕ
  emin : ℤ
  emax : ℤ
  deriving DecidableEq, Repr

def Context.etiny (ctx : Context) : ℤ := ctx.emin - ctx.prec + 1

def Context.etop (ctx : Context) : ℤ := ctx.emax - ctx.prec + 1

/-- The signed coefficient. -/
def signed (d : Decimal) : ℤ := if d.negative then -(d.coeff : ℤ) else d.coeff

def value (d : Decimal) : ℚ := d.signed * (10 : ℚ) ^ d.exp

def numDigits (n : ℕ) : ℕ := Nat.log 10 n + 1

/-- Exponent of the most significant digit. -/
def adjusted (d : Decimal) : ℤ := d.exp + numDigits d.coeff - 1

def ofInt (n : ℤ) : Decimal := ⟨decide (n < 0), n.natAbs, 0⟩

def zero : Decimal := ⟨false, 0, 0⟩

def neg (d : Decimal) : Decimal := { d with negative := !d.negative }

/-- The signed coefficient after moving to the lower exponent `e`. -/
def scaled (d : Decimal) (e : ℤ) : ℤ := d.signed * 10 ^ (d.exp - e).toNat

def exactAdd (a b : Decimal) : Decimal :=
  let e := min a.exp b.exp
  let n := a.scaled e + b.scaled e
  ⟨decide (n < 0) || (n == 0 && a.negative && b.negative), n.natAbs, e⟩

def exactMul (a b : Decimal) : Decimal :=
  ⟨xor a.negative b.negative, a.coeff * b.coeff, a.exp + b.exp⟩

/-- `c / 10 ^ k` to the nearest natural, ties to even. -/
def roundCoeff (c k : ℕ) : ℕ :=
  let q := c / 10 ^ k
  let r := c % 10 ^ k
  if 2 * r < 10 ^ k then q
  else if 10 ^ k < 2 * r then q + 1
  else if q % 2 = 0 then q else q + 1

def fix (ctx : Context) (d : Decimal) : Option Decimal :=
  if d.coeff = 0 then some { d with exp := max ctx.etiny (min d.exp ctx.emax) }
  else
    let top := numDigits d.coeff + d.exp - ctx.prec
    if ctx.etop < top then none
    else
      let floorExp := max top ctx.etiny
      if d.exp < floorExp then
        let c := roundCoeff d.coeff (floorExp - d.exp).toNat
        if ctx.prec < numDigits c then
          if ctx.etop < floorExp + 1 then none else some ⟨d.negative, c / 10, floorExp + 1⟩
        else some ⟨d.negative, c, floorExp⟩
      else some d

def add (ctx : Context) (a b : Decimal) : Option Decimal := fix ctx (exactAdd a b)

def sub (ctx : Context) (a b : Decimal) : Option Decimal := add ctx a b.neg

def mul (ctx : Context) (a b : Decimal) : Option Decimal := fix ctx (exactMul a b)

def abs (ctx : Context) (d : Decimal) : Option Decimal := fix ctx { d with negative := false }

/-- A left fold of `add`; the first trapped signal ends it. -/
def sum (ctx : Context) (start : Decimal) : List Decimal → Option Decimal
  | [] => some start
  | d :: rest => (add ctx start d).bind fun total => sum ctx total rest

/-- Comparison is exact and independent of any context. -/
def le (a b : Decimal) : Bool := a.scaled (min a.exp b.exp) ≤ b.scaled (min a.exp b.exp)

def lt (a b : Decimal) : Bool := a.scaled (min a.exp b.exp) < b.scaled (min a.exp b.exp)

def eqv (a b : Decimal) : Bool := a.scaled (min a.exp b.exp) = b.scaled (min a.exp b.exp)

theorem ten_zpow_pos (e : ℤ) : (0 : ℚ) < 10 ^ e := zpow_pos (by norm_num) e

theorem value_eq_scaled (d : Decimal) {e : ℤ} (h : e ≤ d.exp) :
    d.value = d.scaled e * (10 : ℚ) ^ e := by
  have split : d.exp = e + ((d.exp - e).toNat : ℤ) := by omega
  rw [value, scaled]
  conv_lhs => rw [split, zpow_add₀ (by norm_num), zpow_natCast]
  push_cast
  ring

theorem le_iff (a b : Decimal) : a.le b = true ↔ a.value ≤ b.value := by
  rw [value_eq_scaled a (min_le_left a.exp b.exp), value_eq_scaled b (min_le_right a.exp b.exp),
    mul_le_mul_iff_left₀ (ten_zpow_pos _)]
  simp [le]

theorem lt_iff (a b : Decimal) : a.lt b = true ↔ a.value < b.value := by
  rw [value_eq_scaled a (min_le_left a.exp b.exp), value_eq_scaled b (min_le_right a.exp b.exp),
    mul_lt_mul_iff_left₀ (ten_zpow_pos _)]
  simp [lt]

theorem eqv_iff (a b : Decimal) : a.eqv b = true ↔ a.value = b.value := by
  rw [value_eq_scaled a (min_le_left a.exp b.exp), value_eq_scaled b (min_le_right a.exp b.exp)]
  simp [eqv, (ten_zpow_pos (min a.exp b.exp)).ne']

@[simp] theorem value_zero : zero.value = 0 := by simp [zero, value, signed]

@[simp] theorem value_neg (d : Decimal) : d.neg.value = -d.value := by
  cases h : d.negative <;> simp [neg, value, signed, h]

theorem signed_of_natAbs (n : ℤ) (flag : Bool) (h : n ≠ 0 → flag = decide (n < 0)) (e : ℤ) :
    (⟨flag, n.natAbs, e⟩ : Decimal).signed = n := by
  by_cases zero : n = 0
  · simp [signed, zero]
  · rw [signed, h zero]
    by_cases negative : n < 0
    · simp only [negative, decide_true, if_true]
      omega
    · simp only [negative, decide_false, Bool.false_eq_true, if_false]
      omega

@[simp] theorem value_ofInt (n : ℤ) : (ofInt n).value = n := by
  rw [value, ofInt, signed_of_natAbs n _ fun _ => rfl]
  simp

theorem value_exactAdd (a b : Decimal) : (exactAdd a b).value = a.value + b.value := by
  rw [value_eq_scaled a (min_le_left a.exp b.exp), value_eq_scaled b (min_le_right a.exp b.exp)]
  simp only [exactAdd, value]
  rw [signed_of_natAbs]
  · push_cast
    ring
  · intro nonzero
    simp [nonzero]

theorem value_exactMul (a b : Decimal) : (exactMul a b).value = a.value * b.value := by
  obtain ⟨na, ca, ea⟩ := a
  obtain ⟨nb, cb, eb⟩ := b
  have sign : (exactMul ⟨na, ca, ea⟩ ⟨nb, cb, eb⟩).signed
      = (⟨na, ca, ea⟩ : Decimal).signed * (⟨nb, cb, eb⟩ : Decimal).signed := by
    cases na <;> cases nb <;> simp [exactMul, signed]
  rw [value, value, value, sign, exactMul, zpow_add₀ (by norm_num : (10 : ℚ) ≠ 0)]
  push_cast
  ring

theorem abs_value (d : Decimal) : |d.value| = d.coeff * (10 : ℚ) ^ d.exp := by
  rw [value, abs_mul, abs_of_pos (ten_zpow_pos d.exp), signed]
  cases d.negative <;> simp

theorem value_eq_zero_of_coeff {d : Decimal} (h : d.coeff = 0) : d.value = 0 := by
  simp [value, signed, h]

/-- A bound on the value bounds the coefficient's length above its exponent. -/
theorem numDigits_le_of_lt {d : Decimal} {hi : ℤ} (nonzero : d.coeff ≠ 0)
    (bound : |d.value| < (10 : ℚ) ^ hi) : numDigits d.coeff + d.exp ≤ hi := by
  have lead : (10 : ℚ) ^ (Nat.log 10 d.coeff : ℤ) ≤ d.coeff := by
    rw [zpow_natCast]
    exact_mod_cast Nat.pow_log_le_self 10 nonzero
  have chain : (10 : ℚ) ^ ((Nat.log 10 d.coeff : ℤ) + d.exp) < 10 ^ hi := by
    rw [abs_value] at bound
    rw [zpow_add₀ (by norm_num)]
    exact (mul_le_mul_of_nonneg_right lead (ten_zpow_pos _).le).trans_lt bound
  have exponents := (zpow_lt_zpow_iff_right₀ (by norm_num : (1 : ℚ) < 10)).mp chain
  simp only [numDigits]
  push_cast
  omega

/-- `fix` is exact on every decimal whose digits lie between the exponents `lo`
and `hi` of a window no wider than the precision. -/
theorem fix_exact (ctx : Context) (d : Decimal) (lo hi : ℤ) (low : lo ≤ d.exp)
    (bound : |d.value| < (10 : ℚ) ^ hi) (window : hi - lo ≤ ctx.prec)
    (tiny : ctx.etiny ≤ lo) (top : hi - ctx.prec ≤ ctx.etop) (emax : lo ≤ ctx.emax) :
    ∃ out, fix ctx d = some out ∧ out.value = d.value ∧ lo ≤ out.exp := by
  by_cases zero : d.coeff = 0
  · refine ⟨_, if_pos zero, ?_, ?_⟩
    · rw [value_eq_zero_of_coeff (d := d) zero]
      exact value_eq_zero_of_coeff zero
    · dsimp only
      omega
  · have digits := numDigits_le_of_lt zero bound
    refine ⟨d, ?_, rfl, low⟩
    rw [fix, if_neg zero, if_neg (by omega), if_neg (by omega)]

/-- `fix` lowers no exponent, a zero above `emax` apart. -/
theorem fix_low {ctx : Context} {d out : Decimal} {lo : ℤ} (fixed : fix ctx d = some out)
    (low : lo ≤ d.exp) (emax : lo ≤ ctx.emax) : lo ≤ out.exp := by
  by_cases zero : d.coeff = 0
  · rw [fix, if_pos zero] at fixed
    cases fixed
    dsimp only
    omega
  rw [fix, if_neg zero] at fixed
  dsimp only at fixed
  split at fixed
  · cases fixed
  split at fixed
  case isFalse =>
    cases fixed
    exact low
  case isTrue below =>
    split at fixed
    case isTrue =>
      split at fixed
      · cases fixed
      cases fixed
      dsimp only
      omega
    case isFalse =>
      cases fixed
      dsimp only
      omega

theorem add_exact (ctx : Context) (a b : Decimal) (lo hi : ℤ) (lowA : lo ≤ a.exp) (lowB : lo ≤ b.exp)
    (bound : |a.value + b.value| < (10 : ℚ) ^ hi) (window : hi - lo ≤ ctx.prec)
    (tiny : ctx.etiny ≤ lo) (top : hi - ctx.prec ≤ ctx.etop) (emax : lo ≤ ctx.emax) :
    ∃ out, add ctx a b = some out ∧ out.value = a.value + b.value ∧ lo ≤ out.exp := by
  rw [← value_exactAdd] at bound ⊢
  exact fix_exact ctx (exactAdd a b) lo hi (le_min lowA lowB) bound window tiny top emax

theorem value_of_negative {d : Decimal} (h : d.negative = true) : d.value = -|d.value| := by
  rw [abs_value, value, signed, if_pos h]
  push_cast
  ring

theorem negative_of_value {d : Decimal} (h : d.value < 0) : d.negative = true := by
  by_contra positive
  have nonneg : 0 ≤ d.value := by
    rw [value, signed, if_neg positive]
    exact mul_nonneg (by positivity) (ten_zpow_pos _).le
  linarith

theorem pow_le_roundCoeff {c k n : ℕ} (h : 10 ^ (n + k) ≤ c) : 10 ^ n ≤ roundCoeff c k := by
  have quotient : 10 ^ n ≤ c / 10 ^ k := by
    rw [Nat.le_div_iff_mul_le (by positivity), ← pow_add]
    exact h
  unfold roundCoeff
  dsimp only
  split_ifs <;> omega

/-- A magnitude of at least a power of ten on the grid stays so, with its sign. -/
theorem fix_far {ctx : Context} {d out : Decimal} {m : ℤ} (fixed : fix ctx d = some out)
    (large : (10 : ℚ) ^ m ≤ |d.value|) (tiny : ctx.etiny ≤ m) (prec : 0 < ctx.prec) :
    out.negative = d.negative ∧ (10 : ℚ) ^ m ≤ |out.value| := by
  have nonzero : d.coeff ≠ 0 := by
    intro zero
    rw [value_eq_zero_of_coeff zero, abs_zero] at large
    exact absurd (ten_zpow_pos m) (not_lt.mpr large)
  -- The leading digit of `d` stands at or above `m`.
  have lead : m ≤ numDigits d.coeff + d.exp - 1 := by
    have upper : |d.value| < (10 : ℚ) ^ (numDigits d.coeff + d.exp : ℤ) := by
      rw [abs_value, zpow_add₀ (by norm_num), zpow_natCast]
      refine mul_lt_mul_of_pos_right ?_ (ten_zpow_pos _)
      exact_mod_cast Nat.lt_pow_succ_log_self (by norm_num : 1 < 10) d.coeff
    have exponents := (zpow_lt_zpow_iff_right₀ (by norm_num : (1 : ℚ) < 10)).mp (large.trans_lt upper)
    omega
  have leadPow : 10 ^ Nat.log 10 d.coeff ≤ d.coeff := Nat.pow_log_le_self 10 nonzero
  have shown : ∀ (n : ℕ) (c : ℕ) (e : ℤ), 10 ^ n ≤ c → m ≤ n + e →
      (10 : ℚ) ^ m ≤ |(⟨d.negative, c, e⟩ : Decimal).value| := by
    intro n c e digits reach
    rw [abs_value]
    calc (10 : ℚ) ^ m ≤ 10 ^ ((n : ℤ) + e) := zpow_le_zpow_right₀ (by norm_num) reach
      _ = 10 ^ n * 10 ^ e := by rw [zpow_add₀ (by norm_num), zpow_natCast]
      _ ≤ c * 10 ^ e := mul_le_mul_of_nonneg_right (by exact_mod_cast digits) (ten_zpow_pos e).le
  rw [fix, if_neg nonzero] at fixed
  dsimp only at fixed
  split at fixed
  · cases fixed
  split at fixed
  case isFalse => cases fixed; exact ⟨rfl, large⟩
  case isTrue below =>
    have digits : (numDigits d.coeff : ℤ) = Nat.log 10 d.coeff + 1 := by simp [numDigits]
    generalize floor : max (numDigits d.coeff + d.exp - ctx.prec : ℤ) ctx.etiny = floorExp at *
    generalize rounded : roundCoeff d.coeff (floorExp - d.exp).toNat = c at *
    split at fixed
    case isTrue carry =>
      have long : ctx.prec ≤ Nat.log 10 c := Nat.lt_succ_iff.mp carry
      have present : c ≠ 0 := by
        rintro rfl
        rw [Nat.log_zero_right] at long
        omega
      split at fixed
      · cases fixed
      cases fixed
      refine ⟨rfl, shown (ctx.prec - 1) _ _ ?_ ?_⟩
      · rw [Nat.le_div_iff_mul_le (by norm_num), ← pow_succ, Nat.sub_add_cancel prec]
        exact (Nat.pow_le_pow_right (by norm_num) long).trans (Nat.pow_log_le_self 10 present)
      · omega
    case isFalse =>
      cases fixed
      refine ⟨rfl, shown (m - floorExp).toNat _ _ ?_ (by omega)⟩
      rw [← rounded]
      refine pow_le_roundCoeff ((Nat.pow_le_pow_right (by norm_num) ?_).trans leadPow)
      omega

/-- Rounding does not bring a sum back above a negative power of ten on the grid. -/
theorem add_le_neg_pow {ctx : Context} {a b out : Decimal} {m : ℤ} (added : add ctx a b = some out)
    (far : a.value + b.value ≤ -(10 : ℚ) ^ m) (tiny : ctx.etiny ≤ m) (prec : 0 < ctx.prec) :
    out.value ≤ -(10 : ℚ) ^ m := by
  rw [← value_exactAdd] at far
  have negative := negative_of_value (far.trans_lt (neg_neg_of_pos (ten_zpow_pos m)))
  have large : (10 : ℚ) ^ m ≤ |(exactAdd a b).value| := by
    rw [value_of_negative negative] at far
    linarith
  obtain ⟨sign, kept⟩ := fix_far added large tiny prec
  rw [value_of_negative (sign.trans negative)]
  linarith

theorem mul_exact (ctx : Context) (a b : Decimal) (lo hi : ℤ) (low : lo ≤ a.exp + b.exp)
    (bound : |a.value * b.value| < (10 : ℚ) ^ hi) (window : hi - lo ≤ ctx.prec)
    (tiny : ctx.etiny ≤ lo) (top : hi - ctx.prec ≤ ctx.etop) (emax : lo ≤ ctx.emax) :
    ∃ out, mul ctx a b = some out ∧ out.value = a.value * b.value ∧ lo ≤ out.exp := by
  rw [← value_exactMul] at bound ⊢
  exact fix_exact ctx (exactMul a b) lo hi low bound window tiny top emax

/-- A rounded magnitude below the window's end bounds the exact one. -/
theorem abs_value_le {ctx : Context} {d magnitude : Decimal} {lo hi : ℤ} {bound : ℚ}
    (shown : abs ctx d = some magnitude) (low : lo ≤ d.exp) (order : lo ≤ hi)
    (window : hi - lo ≤ ctx.prec) (prec : 0 < ctx.prec) (tiny : ctx.etiny ≤ lo)
    (top : hi - ctx.prec ≤ ctx.etop) (emax : lo ≤ ctx.emax) (le : magnitude.value ≤ bound)
    (inside : bound < (10 : ℚ) ^ hi) : |d.value| ≤ bound := by
  have same : (⟨false, d.coeff, d.exp⟩ : Decimal).value = |d.value| := by
    rw [abs_value, value, signed]
    simp
  by_cases near : |d.value| < (10 : ℚ) ^ hi
  · obtain ⟨out, fixed, value, -⟩ := fix_exact ctx ⟨false, d.coeff, d.exp⟩ lo hi low
      (by rwa [same, abs_abs]) window tiny top emax
    have : out = magnitude := Option.some.inj (fixed.symm.trans shown)
    rw [← same, ← value, this]
    exact le
  · obtain ⟨sign, far⟩ := fix_far shown (by rw [same, abs_abs]; exact not_lt.mp near)
      (tiny.trans order) prec
    have nonneg : |magnitude.value| = magnitude.value := by
      rw [abs_value, Decimal.value, signed, sign]
      simp
    rw [nonneg] at far
    linarith

end Decimal
end BinancePlatform.Library
