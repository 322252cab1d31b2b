import Mathlib.Data.Int.Log
import Mathlib.Algebra.Order.Round
import Mathlib.Data.Rat.Floor
import Mathlib.Tactic.Linarith
import Mathlib.Tactic.Positivity
import Mathlib.Tactic.FieldSimp
import Mathlib.Tactic.Ring

/-!
# Round-half-even and the binary64 grid

`Binary64.round` is the nearest value with a 53-bit significand and least
exponent `-1074`, ties to even; overflow is left to the caller. Rounding is
monotone across binade boundaries because every boundary is itself on the grid.
-/

set_option autoImplicit false

namespace BinancePlatform.Library

def roundHalfEven (x : ℚ) : ℤ :=
  let low := ⌊x⌋
  if x - low < 1 / 2 then low
  else if 1 / 2 < x - low then low + 1
  else if low % 2 = 0 then low else low + 1

theorem floor_le_roundHalfEven (x : ℚ) : ⌊x⌋ ≤ roundHalfEven x := by
  dsimp only [roundHalfEven]
  split_ifs <;> omega

theorem roundHalfEven_le_floor_add_one (x : ℚ) : roundHalfEven x ≤ ⌊x⌋ + 1 := by
  dsimp only [roundHalfEven]
  split_ifs <;> omega

@[simp] theorem roundHalfEven_intCast (n : ℤ) : roundHalfEven (n : ℚ) = n := by
  simp [roundHalfEven]

theorem roundHalfEven_mono {x y : ℚ} (h : x ≤ y) : roundHalfEven x ≤ roundHalfEven y := by
  rcases (Int.floor_mono h).lt_or_eq with lt | same
  · exact (roundHalfEven_le_floor_add_one x).trans (lt.trans_le (floor_le_roundHalfEven y))
  · dsimp only [roundHalfEven]
    rw [same]
    split_ifs <;> first | omega | (exfalso; linarith)

theorem roundHalfEven_neg (x : ℚ) : roundHalfEven (-x) = -roundHalfEven x := by
  by_cases whole : x = ⌊x⌋
  · rw [whole, ← Int.cast_neg, roundHalfEven_intCast, roundHalfEven_intCast]
  · have below : (⌊x⌋ : ℚ) < x := lt_of_le_of_ne (Int.floor_le x) (Ne.symm whole)
    have above := Int.lt_floor_add_one x
    have floorNeg : ⌊-x⌋ = -⌊x⌋ - 1 := by
      rw [Int.floor_eq_iff]
      push_cast
      constructor <;> linarith
    dsimp only [roundHalfEven]
    rw [floorNeg]
    push_cast
    split_ifs <;> first | omega | (exfalso; linarith)

namespace Binary64

def quantum (q : ℚ) : ℤ := max (Int.log 2 |q| - 52) (-1074)

def round (q : ℚ) : ℚ := roundHalfEven (q / 2 ^ quantum q) * 2 ^ quantum q

/-- The least magnitude that no longer rounds to a finite value. -/
def overflow : ℚ := 2 ^ 1024 - 2 ^ 970

theorem two_zpow_pos (e : ℤ) : (0 : ℚ) < 2 ^ e := zpow_pos (by norm_num) e

private theorem grid_point (e : ℤ) (n : ℕ) : (2 : ℚ) ^ (e + n) = ((2 ^ n : ℤ) : ℚ) * 2 ^ e := by
  rw [zpow_add₀ (by norm_num), zpow_natCast]
  push_cast
  ring

theorem round_le_of_grid {q : ℚ} {n : ℕ} (h : q ≤ 2 ^ (quantum q + n)) :
    round q ≤ 2 ^ (quantum q + n) := by
  have pos := two_zpow_pos (quantum q)
  rw [grid_point] at h ⊢
  have rounded := roundHalfEven_mono ((div_le_iff₀ pos).mpr h)
  rw [roundHalfEven_intCast] at rounded
  exact mul_le_mul_of_nonneg_right (by exact_mod_cast rounded) pos.le

theorem grid_le_round {q : ℚ} {n : ℕ} (h : 2 ^ (quantum q + n) ≤ q) :
    2 ^ (quantum q + n) ≤ round q := by
  have pos := two_zpow_pos (quantum q)
  rw [grid_point] at h ⊢
  have rounded := roundHalfEven_mono ((le_div_iff₀ pos).mpr h)
  rw [roundHalfEven_intCast] at rounded
  exact mul_le_mul_of_nonneg_right (by exact_mod_cast rounded) pos.le

theorem quantum_mono {x y : ℚ} (hx : 0 < x) (h : x ≤ y) : quantum x ≤ quantum y := by
  have hlog : Int.log 2 |x| ≤ Int.log 2 |y| := by
    rw [abs_of_pos hx, abs_of_pos (hx.trans_le h)]
    exact Int.log_mono_right hx h
  unfold quantum
  omega

theorem round_mono_of_pos {x y : ℚ} (hx : 0 < x) (h : x ≤ y) : round x ≤ round y := by
  rcases (quantum_mono hx h).lt_or_eq with lower | same
  · -- The boundary `2 ^ log y` lies on both grids and separates `x` from `y`.
    have hy : 0 < y := hx.trans_le h
    have top : quantum y = Int.log 2 y - 52 := by
      have floorExp : (-1074 : ℤ) ≤ quantum x := le_max_right _ _
      unfold quantum at lower floorExp ⊢
      rw [abs_of_pos hy] at *
      omega
    have below : Int.log 2 x < Int.log 2 y := by
      have bound : Int.log 2 |x| - 52 ≤ quantum x := le_max_left _ _
      rw [abs_of_pos hx] at bound
      omega
    obtain ⟨n, hn⟩ : ∃ n : ℕ, quantum x + n = Int.log 2 y :=
      ⟨(Int.log 2 y - quantum x).toNat, by omega⟩
    have hxb : x ≤ 2 ^ (quantum x + n) := by
      rw [hn]
      have step : x < 2 ^ (Int.log 2 x + 1) := Int.lt_zpow_succ_log_self (by norm_num) x
      exact step.le.trans (zpow_le_zpow_right₀ (by norm_num) (by omega))
    have hyb : (2 : ℚ) ^ (quantum y + (52 : ℕ)) ≤ y := by
      rw [top]
      simpa using Int.zpow_log_le_self (b := 2) (by norm_num) hy
    calc round x ≤ 2 ^ (quantum x + n) := round_le_of_grid hxb
      _ = 2 ^ (quantum y + (52 : ℕ)) := by rw [hn, top]; push_cast; congr 1; ring
      _ ≤ round y := grid_le_round hyb
  · have pos := two_zpow_pos (quantum y)
    rw [round, round, same]
    refine mul_le_mul_of_nonneg_right ?_ pos.le
    exact_mod_cast roundHalfEven_mono (div_le_div_of_nonneg_right h pos.le)

theorem round_neg (q : ℚ) : round (-q) = -round q := by
  rw [round, round, quantum, quantum, abs_neg, neg_div, roundHalfEven_neg]
  push_cast
  ring

theorem round_nonneg {q : ℚ} (h : 0 ≤ q) : 0 ≤ round q := by
  have pos := two_zpow_pos (quantum q)
  have rounded := roundHalfEven_mono (div_nonneg h pos.le)
  rw [show roundHalfEven 0 = 0 from roundHalfEven_intCast 0] at rounded
  exact mul_nonneg (by exact_mod_cast rounded) pos.le

theorem round_mono {x y : ℚ} (h : x ≤ y) : round x ≤ round y := by
  rcases lt_or_ge 0 x with positive | nonpositive
  · exact round_mono_of_pos positive h
  rcases lt_or_ge y 0 with negative | nonnegative
  · have flipped := round_mono_of_pos (neg_pos.mpr negative) (neg_le_neg h)
    rw [round_neg, round_neg] at flipped
    linarith
  · have low := round_nonneg (neg_nonneg.mpr nonpositive)
    rw [round_neg] at low
    linarith [round_nonneg nonnegative]

/-- Every finite value lies below. -/
def limit : ℚ := 2 ^ 1024

/-- The least positive value. -/
def least : ℚ := 2 ^ (-1074 : ℤ)

theorem least_pos : 0 < least := two_zpow_pos (-1074)

theorem limit_pos : 0 < limit := pow_pos (by norm_num) 1024

/-- The limit and the overflow threshold over a common factor. -/
theorem overflow_factor : ∃ factor : ℚ, 0 < factor ∧ limit = factor * 2 ^ 54 ∧
    overflow = factor * (2 ^ 54 - 1) := by
  refine ⟨2 ^ 970, pow_pos (by norm_num) _, pow_add 2 970 54, ?_⟩
  rw [overflow, mul_sub, mul_one, ← pow_add]

theorem overflow_lt_limit : overflow < limit := by
  obtain ⟨factor, pos, top, threshold⟩ := overflow_factor
  rw [top, threshold]
  norm_num
  linarith

/-- A share of at most `0.986` of any value does not overflow. -/
theorem limit_share : limit * (986 / 1000) < overflow := by
  obtain ⟨factor, pos, top, threshold⟩ := overflow_factor
  rw [top, threshold]
  norm_num
  linarith

/-- Every value lies below a rounding step above the overflow threshold. -/
theorem limit_le {x : ℚ} (h : overflow ≤ x) : limit ≤ x + x / 2 ^ 52 := by
  obtain ⟨factor, pos, top, threshold⟩ := overflow_factor
  rw [threshold] at h
  rw [top]
  norm_num at h ⊢
  linarith

/-- The least value is small even times the largest. -/
theorem least_limit : least * limit ≤ 1 / 1000000000000000 := by
  have power : least * limit = 2 ^ (-50 : ℤ) := by
    rw [least, limit, ← zpow_natCast (2 : ℚ) 1024, ← zpow_add₀ two_ne_zero]
    rfl
  rw [power]
  norm_num

theorem least_le : least ≤ 1 / 10 ^ 30 := by
  have power : least = 2 ^ (-974 : ℤ) * 2 ^ (-100 : ℤ) := by
    rw [least, ← zpow_add₀ two_ne_zero]
    rfl
  have small : (2 : ℚ) ^ (-974 : ℤ) ≤ 1 := zpow_le_one_of_nonpos₀ (by norm_num) (by norm_num)
  calc least = 2 ^ (-974 : ℤ) * 2 ^ (-100 : ℤ) := power
    _ ≤ 1 * 2 ^ (-100 : ℤ) := by gcongr
    _ ≤ 1 / 10 ^ 30 := by norm_num

/-- A power of two that bounds a value bounds what it rounds to. -/
theorem round_le_pow {q : ℚ} {k : ℤ} (h : q ≤ 2 ^ k) (low : quantum q ≤ k) : round q ≤ 2 ^ k := by
  have same : quantum q + ((k - quantum q).toNat : ℤ) = k := by omega
  have grid := round_le_of_grid (q := q) (n := (k - quantum q).toNat)
  rw [same] at grid
  exact grid h

theorem quantum_le {q : ℚ} {k : ℕ} (h : |q| ≤ 2 ^ k) : quantum q ≤ k := by
  rcases eq_or_ne q 0 with rfl | nonzero
  · simp [quantum]
  have power : ((2 : ℕ) : ℚ) ^ Int.log 2 |q| ≤ |q| :=
    Int.zpow_log_le_self (by norm_num) (abs_pos.mpr nonzero)
  have bound : (2 : ℚ) ^ Int.log 2 |q| ≤ 2 ^ (k : ℤ) := by
    rw [zpow_natCast]
    exact_mod_cast power.trans h
  have exponent := (zpow_le_zpow_iff_right₀ (by norm_num : (1 : ℚ) < 2)).mp bound
  rw [quantum]
  omega

/-- Rounding adds at most one unit in the last place. -/
theorem round_le_add {q : ℚ} (h : 0 ≤ q) : round q ≤ q + q / 2 ^ 52 + least := by
  have small := least_pos
  rcases h.eq_or_lt with rfl | positive
  · rw [round, zero_div, show roundHalfEven 0 = 0 from roundHalfEven_intCast 0]
    simpa using small.le
  have pos := two_zpow_pos (quantum q)
  have step : round q ≤ q + 2 ^ quantum q := by
    have above : (roundHalfEven (q / 2 ^ quantum q) : ℚ) ≤ q / 2 ^ quantum q + 1 := by
      have grid := roundHalfEven_le_floor_add_one (q / 2 ^ quantum q)
      have below := Int.floor_le (q / 2 ^ quantum q)
      have cast : (roundHalfEven (q / 2 ^ quantum q) : ℚ) ≤ ⌊q / 2 ^ quantum q⌋ + 1 := by
        exact_mod_cast grid
      linarith
    calc round q ≤ (q / 2 ^ quantum q + 1) * 2 ^ quantum q := mul_le_mul_of_nonneg_right above pos.le
      _ = q + 2 ^ quantum q := by rw [add_mul, div_mul_cancel₀ _ pos.ne', one_mul]
  have unit : (2 : ℚ) ^ quantum q ≤ q / 2 ^ 52 + least := by
    rcases le_total (Int.log 2 |q| - 52) (-1074) with low | high
    · rw [quantum, max_eq_right low]
      have part : 0 ≤ q / 2 ^ 52 := by positivity
      rw [least]
      linarith
    · rw [quantum, max_eq_left high, abs_of_nonneg h, zpow_sub₀ (by norm_num)]
      have power : ((2 : ℕ) : ℚ) ^ Int.log 2 q ≤ q := Int.zpow_log_le_self (by norm_num) positive
      push_cast at power
      have part : (2 : ℚ) ^ Int.log 2 q / 2 ^ (52 : ℤ) ≤ q / 2 ^ 52 := by
        rw [show (2 : ℚ) ^ (52 : ℤ) = 2 ^ 52 from by norm_cast]
        gcongr
      linarith
  linarith

theorem round_le_limit {q : ℚ} (nonneg : 0 ≤ q) (h : q ≤ limit) : round q ≤ limit := by
  have low : quantum q ≤ (1024 : ℕ) := by
    apply quantum_le
    rw [abs_of_nonneg nonneg]
    exact h
  have rounded : round q ≤ 2 ^ ((1024 : ℕ) : ℤ) := round_le_pow (by rwa [zpow_natCast]) low
  rwa [zpow_natCast] at rounded

end Binary64
end BinancePlatform.Library
