import BinancePlatform.Library.Binary64

/-!
# Values close to a binary64 value

A value that misses a binary64 value by less than half a unit in the last place rounds
to it; a decimal of seventeen digits comes that close. The overflow threshold is the
tie below the first value that is out of range.
-/

set_option autoImplicit false

namespace BinancePlatform.Library

theorem roundHalfEven_near (x : ℚ) : |(roundHalfEven x : ℚ) - x| ≤ 1 / 2 := by
  have low := Int.floor_le x
  have high := Int.lt_floor_add_one x
  rw [abs_le]
  dsimp only [roundHalfEven]
  split_ifs <;> push_cast <;> constructor <;> linarith

theorem roundHalfEven_lt {x : ℚ} {n : ℤ} (near : x < n + 1 / 2) : roundHalfEven x ≤ n := by
  by_contra above
  have next : (n : ℚ) + 1 ≤ roundHalfEven x := by exact_mod_cast not_le.mp above
  have bound := (abs_le.mp (roundHalfEven_near x)).2
  linarith

theorem lt_roundHalfEven {x : ℚ} {n : ℤ} (near : (n : ℚ) - 1 / 2 < x) : n ≤ roundHalfEven x := by
  by_contra below
  have next : (roundHalfEven x : ℚ) + 1 ≤ n := by exact_mod_cast not_le.mp below
  have bound := (abs_le.mp (roundHalfEven_near x)).1
  linarith

namespace Binary64

/-- A binary64 magnitude. -/
structure OnGrid (x : ℚ) : Prop where
  fixed : round x = x
  below : x < limit

/-- The share of a value by which its decimals of seventeen digits miss it at most. -/
def share : ℚ := 5 / 10 ^ 17

theorem grid_multiple {x : ℚ} (fixed : round x = x) {e : ℤ} (low : e ≤ quantum x) :
    ∃ n : ℤ, x = n * 2 ^ e := by
  have split : (2 : ℚ) ^ quantum x = 2 ^ (quantum x - e).toNat * 2 ^ e := by
    rw [← zpow_natCast, ← zpow_add₀ (by norm_num)]
    congr 1
    omega
  refine ⟨roundHalfEven (x / 2 ^ quantum x) * 2 ^ (quantum x - e).toNat, ?_⟩
  calc x = roundHalfEven (x / 2 ^ quantum x) * 2 ^ quantum x := fixed.symm
    _ = roundHalfEven (x / 2 ^ quantum x) * (2 ^ (quantum x - e).toNat * 2 ^ e) := by rw [← split]
    _ = _ := by
      push_cast
      ring

/-- The unit in the last place is more than `2 ^ -53` of a value. -/
theorem lt_unit {y : ℚ} (positive : 0 < y) : y / 2 ^ 53 < 2 ^ quantum y := by
  have top : y < 2 ^ (Int.log 2 y + 1) := by
    exact_mod_cast Int.lt_zpow_succ_log_self (b := 2) (by norm_num) y
  have unit : Int.log 2 y - 52 ≤ quantum y := by
    rw [quantum, abs_of_pos positive]
    exact le_max_left _ _
  have power : (2 : ℚ) ^ (Int.log 2 y + 1) = 2 ^ (Int.log 2 y - 52) * 2 ^ 53 := by
    rw [← zpow_natCast (2 : ℚ) 53, ← zpow_add₀ (by norm_num)]
    congr 1
    ring
  rw [div_lt_iff₀ (by positivity)]
  calc y < 2 ^ (Int.log 2 y - 52) * 2 ^ 53 := by rw [← power]; exact top
    _ ≤ 2 ^ quantum y * 2 ^ 53 := by
      gcongr
      · norm_num

/-- A power of two above a binary64 value leaves room for its unit in the last place. -/
theorem unit_below {x : ℚ} (positive : 0 < x) (fixed : round x = x) :
    x + 2 ^ quantum x ≤ 2 ^ (Int.log 2 x + 1) := by
  have grid := two_zpow_pos (quantum x)
  have top : x < 2 ^ (Int.log 2 x + 1) := by
    exact_mod_cast Int.lt_zpow_succ_log_self (b := 2) (by norm_num) x
  obtain ⟨n, isN⟩ := grid_multiple fixed le_rfl
  have some : 0 < n := by
    have scaled : 0 < (n : ℚ) * 2 ^ quantum x := isN ▸ positive
    exact_mod_cast (pos_iff_pos_of_mul_pos scaled).mpr grid
  have whole : (2 : ℚ) ^ quantum x ≤ x := by
    have one : (1 : ℚ) ≤ n := by exact_mod_cast some
    calc (2 : ℚ) ^ quantum x = 1 * 2 ^ quantum x := (one_mul _).symm
      _ ≤ n * 2 ^ quantum x := mul_le_mul_of_nonneg_right one grid.le
      _ = x := isN.symm
  have exponent := (zpow_lt_zpow_iff_right₀ (by norm_num : (1 : ℚ) < 2)).mp (whole.trans_lt top)
  obtain ⟨k, isK⟩ : ∃ k : ℕ, Int.log 2 x + 1 = k + quantum x :=
    ⟨(Int.log 2 x + 1 - quantum x).toNat, by omega⟩
  have power : (2 : ℚ) ^ (Int.log 2 x + 1) = ((2 ^ k : ℤ) : ℚ) * 2 ^ quantum x := by
    rw [isK, zpow_add₀ (by norm_num), zpow_natCast]
    push_cast
    rfl
  rw [power] at top ⊢
  have below : n < 2 ^ k := by
    have scaled : (n : ℚ) * 2 ^ quantum x < ((2 ^ k : ℤ) : ℚ) * 2 ^ quantum x := isN ▸ top
    exact_mod_cast lt_of_mul_lt_mul_right scaled grid.le
  have step : (n : ℚ) + 1 ≤ ((2 ^ k : ℤ) : ℚ) := by exact_mod_cast below
  calc x + 2 ^ quantum x = (n + 1) * 2 ^ quantum x := by rw [add_mul, one_mul, ← isN]
    _ ≤ _ := mul_le_mul_of_nonneg_right step grid.le

/-- Less than a unit above a binary64 value the quantum is the same. -/
theorem quantum_above {x y : ℚ} (positive : 0 < x) (fixed : round x = x) (above : x ≤ y)
    (gap : y - x < 2 ^ quantum x) : quantum y = quantum x := by
  have yPositive : 0 < y := positive.trans_le above
  refine le_antisymm ?_ (quantum_mono positive above)
  have logs : Int.log 2 y ≤ Int.log 2 x := by
    by_contra higher
    have lead : (2 : ℚ) ^ Int.log 2 y ≤ y := by
      exact_mod_cast Int.zpow_log_le_self (b := 2) (by norm_num) yPositive
    have reach : (2 : ℚ) ^ (Int.log 2 x + 1) ≤ y :=
      (zpow_le_zpow_right₀ (by norm_num) (by omega)).trans lead
    have room := unit_below positive fixed
    linarith
  unfold quantum
  rw [abs_of_pos positive, abs_of_pos yPositive]
  omega

theorem share_lt {x y : ℚ} (positive : 0 < x) (close : x * (98 / 100) ≤ y) :
    x * share < 2 ^ quantum y / 2 := by
  have unit := lt_unit (y := y) (by linarith)
  have small : x * share < x * (98 / 100) / 2 ^ 54 := by
    rw [mul_div_assoc]
    exact mul_lt_mul_of_pos_left (by norm_num [share]) positive
  have scaled : x * (98 / 100) / 2 ^ 54 ≤ y / 2 ^ 53 / 2 := by
    rw [div_div]
    norm_num
    linarith
  linarith

/-- A value this close to a binary64 value rounds to it. -/
theorem round_near {x y : ℚ} (positive : 0 < x) (fixed : round x = x) (near : |y - x| ≤ x * share) :
    round y = x := by
  obtain ⟨low, high⟩ := abs_le.mp near
  have tiny : x * share ≤ x * (2 / 100) := mul_le_mul_of_nonneg_left (by norm_num [share]) positive.le
  have close : x * (98 / 100) ≤ y := by linarith
  have yPositive : 0 < y := by linarith
  refine le_antisymm ?_ ?_
  · rcases le_or_gt y x with below | above
    · exact (round_mono below).trans_eq fixed
    · have grid := two_zpow_pos (quantum x)
      have gap : y - x < 2 ^ quantum x / 2 := high.trans_lt (share_lt positive (by linarith))
      have same := quantum_above positive fixed above.le (by linarith)
      obtain ⟨n, isN⟩ := grid_multiple fixed le_rfl
      have rounded : roundHalfEven (y / 2 ^ quantum x) ≤ n := by
        apply roundHalfEven_lt
        rw [div_lt_iff₀ grid]
        linarith
      rw [round, same]
      calc _ ≤ (n : ℚ) * 2 ^ quantum x :=
            mul_le_mul_of_nonneg_right (by exact_mod_cast rounded) grid.le
        _ = x := isN.symm
  · rcases le_or_gt x y with above | below
    · exact fixed.symm.trans_le (round_mono above)
    · have grid := two_zpow_pos (quantum y)
      obtain ⟨n, isN⟩ := grid_multiple fixed (quantum_mono yPositive below.le)
      have gap := share_lt positive close
      have rounded : n ≤ roundHalfEven (y / 2 ^ quantum y) := by
        apply lt_roundHalfEven
        rw [lt_div_iff₀ grid]
        linarith
      calc x = (n : ℚ) * 2 ^ quantum y := isN
        _ ≤ _ := mul_le_mul_of_nonneg_right (by exact_mod_cast rounded) grid.le

/-- The overflow threshold is a tie that rounds to the limit. -/
theorem round_overflow : round overflow = limit := by
  have positive : 0 < overflow := by
    have := limit_share
    have := limit_pos
    linarith
  have limitPower : limit = (2 : ℚ) ^ (1024 : ℤ) := (zpow_natCast (2 : ℚ) 1024).symm
  have log : Int.log 2 overflow = 1023 := by
    have low : ((2 : ℕ) : ℚ) ^ (1023 : ℤ) ≤ overflow := by
      have half : (2 : ℚ) ^ (1023 : ℤ) * 2 = limit := by
        rw [limitPower, ← zpow_add_one₀ (by norm_num)]
        rfl
      have part := limit_share
      have pos := limit_pos
      rw [Nat.cast_ofNat]
      generalize (2 : ℚ) ^ (1023 : ℤ) = lead at half ⊢
      linarith only [half, part, pos]
    have high : overflow < ((2 : ℕ) : ℚ) ^ (1024 : ℤ) := by
      push_cast
      exact overflow_lt_limit.trans_eq limitPower
    have up := (Int.lt_zpow_iff_log_lt (by norm_num) positive).mp high
    have down := (Int.zpow_le_iff_le_log (by norm_num) positive).mp low
    omega
  have unit : quantum overflow = 971 := by
    rw [quantum, abs_of_pos positive, log]
    norm_num
  have top : limit = 2 ^ 53 * 2 ^ (971 : ℤ) := by
    rw [limitPower, ← zpow_natCast (2 : ℚ) 53, ← zpow_add₀ (by norm_num)]
    rfl
  have ratio : overflow / 2 ^ (971 : ℤ) = 2 ^ 53 - 1 / 2 := by
    have half : (2 : ℚ) ^ 970 * 2 = 2 ^ (971 : ℤ) := by
      rw [← zpow_natCast (2 : ℚ) 970, ← zpow_add_one₀ (by norm_num)]
      rfl
    have shown : overflow = limit - 2 ^ 970 := rfl
    rw [div_eq_iff (two_zpow_pos 971).ne', shown, top, ← half]
    ring
  have tie : roundHalfEven (2 ^ 53 - 1 / 2) = 2 ^ 53 := by
    have floored : ⌊(2 ^ 53 - 1 / 2 : ℚ)⌋ = 2 ^ 53 - 1 := by
      rw [Int.floor_eq_iff]
      norm_num
    dsimp only [roundHalfEven]
    rw [floored]
    norm_num
  rw [round, unit, ratio, tie, top]
  push_cast
  rfl

end Binary64
end BinancePlatform.Library
