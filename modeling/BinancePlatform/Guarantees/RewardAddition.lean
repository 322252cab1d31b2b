import BinancePlatform.Library.DecimalWindow
import BinancePlatform.Source.LifecycleRewards

/-!
# Adding reward quantities

`_reward_sum_prec` is capped at 1000 digits, so `_add_reward_quantity` returns the
mathematical sum exactly where its digits, trailing zeros aside, fit that precision
between the exponent bounds (`addsExactly_iff`). A left fold is exact throughout where
every addition fits what is held by then, in particular where all quantities share a
window of 1000 digits (`folds_within_window`).
-/

set_option autoImplicit false

namespace BinancePlatform.Guarantees.RewardAddition
open BinancePlatform.Library BinancePlatform.Source
open BinancePlatform.Library.Decimal (Fits Multiple exactSum)

/-! ## Exact sums -/

/-- The precision is 1000, or it leaves nine digits about the nonzero operands. -/
theorem rewardSumPrec_spec (x y : Decimal) :
    50 ≤ rewardSumPrec x y ∧ (1000 ≤ rewardSumPrec x y ∨ ∃ most least : ℤ,
      (∀ d ∈ [x, y], d.coeff ≠ 0 → d.adjusted ≤ most ∧ least ≤ d.exp)
        ∧ most - least + 9 ≤ rewardSumPrec x y) := by
  unfold rewardSumPrec
  by_cases zeroX : x.coeff = 0 <;> by_cases zeroY : y.coeff = 0
  · rw [show [x, y].filter (·.coeff ≠ 0) = [] by simp [zeroX, zeroY]]
    exact ⟨le_rfl, Or.inr ⟨0, 0, by simp [zeroX, zeroY], by norm_num⟩⟩
  · rw [show [x, y].filter (·.coeff ≠ 0) = [y] by simp [zeroX, zeroY]]
    simp only [List.foldl_nil]
    refine ⟨by omega, ?_⟩
    by_cases wide : y.adjusted - y.exp + 9 ≤ 1000
    · exact Or.inr ⟨y.adjusted, y.exp, by simp [zeroX], by omega⟩
    · exact Or.inl (by omega)
  · rw [show [x, y].filter (·.coeff ≠ 0) = [x] by simp [zeroX, zeroY]]
    simp only [List.foldl_nil]
    refine ⟨by omega, ?_⟩
    by_cases wide : x.adjusted - x.exp + 9 ≤ 1000
    · exact Or.inr ⟨x.adjusted, x.exp, by simp [zeroY], by omega⟩
    · exact Or.inl (by omega)
  · rw [show [x, y].filter (·.coeff ≠ 0) = [x, y] by simp [zeroX, zeroY]]
    simp only [List.foldl_cons, List.foldl_nil]
    refine ⟨by omega, ?_⟩
    by_cases wide : max x.adjusted y.adjusted - min x.exp y.exp + 9 ≤ 1000
    · exact Or.inr ⟨max x.adjusted y.adjusted, min x.exp y.exp, by simp, by omega⟩
    · exact Or.inl (by omega)

theorem abs_value_lt (d : Decimal) : |d.value| < (10 : ℚ) ^ (d.adjusted + 1) := by
  have digits : (d.coeff : ℚ) < 10 ^ Decimal.numDigits d.coeff := by
    exact_mod_cast Nat.lt_pow_succ_log_self (by norm_num) d.coeff
  have top : d.adjusted + 1 = (Decimal.numDigits d.coeff : ℤ) + d.exp := by
    unfold Decimal.adjusted
    omega
  rw [Decimal.abs_value, top, zpow_add₀ (by norm_num), zpow_natCast]
  exact mul_lt_mul_of_pos_right digits (Decimal.ten_zpow_pos d.exp)

theorem value_lt {d : Decimal} {most : ℤ} (high : d.coeff ≠ 0 → d.adjusted ≤ most) :
    d.value < (10 : ℚ) ^ (most + 1) := by
  by_cases zero : d.coeff = 0
  · rw [Decimal.value_eq_zero_of_coeff zero]
    exact Decimal.ten_zpow_pos _
  · refine (le_abs_self _).trans_lt ((abs_value_lt d).trans_le ?_)
    exact zpow_le_zpow_right₀ (by norm_num) (by have := high zero; omega)

theorem multiple_exp {d : Decimal} {least : ℤ} (low : d.coeff ≠ 0 → least ≤ d.exp) :
    Multiple least d.value := by
  by_cases zero : d.coeff = 0
  · rw [Decimal.value_eq_zero_of_coeff zero]
    exact Multiple.zero least
  · exact Multiple.of_le (low zero) (Decimal.value_multiple d)

/-- The quantities that an exact replay adds: multiples of one power of ten that is not
too small. -/
structure Window (lo : ℤ) : Prop where
  low : -1000048 ≤ lo
  high : lo ≤ 999000

/-- A sum of at most 1000 digits is exact. -/
theorem addRewardQuantity_exact {lo : ℤ} (window : Window lo) {x y : Decimal}
    (multipleX : Multiple lo x.value) (multipleY : Multiple lo y.value) (nonnegX : 0 ≤ x.value)
    (nonnegY : 0 ≤ y.value) (bound : x.value + y.value < (10 : ℚ) ^ (lo + 1000)) :
    ∃ sum, addRewardQuantity x y = some sum ∧ sum.value = x.value + y.value := by
  obtain ⟨least50, wide | ⟨most, least, spans, fits⟩⟩ := rewardSumPrec_spec x y
  all_goals
    unfold addRewardQuantity Decimal.add
    rw [← Decimal.value_exactAdd] at bound ⊢
    have nonneg : 0 ≤ (Decimal.exactAdd x y).value := by
      rw [Decimal.value_exactAdd]
      exact add_nonneg nonnegX nonnegY
    have multiple : Multiple lo (Decimal.exactAdd x y).value := by
      rw [Decimal.value_exactAdd]
      exact multipleX.add multipleY
    have low := window.low
    have high := window.high
  · refine Decimal.fix_window _ _ lo (lo + 1000) multiple (by rwa [abs_of_nonneg nonneg]) ?_ ?_ ?_
    all_goals
      simp only [Decimal.Context.etiny, Decimal.Context.etop, defaultContext]
      omega
  · have multipleLeast : Multiple least (Decimal.exactAdd x y).value := by
      rw [Decimal.value_exactAdd]
      exact (multiple_exp fun nonzero => (spans x (by simp) nonzero).2).add
        (multiple_exp fun nonzero => (spans y (by simp) nonzero).2)
    have below : (Decimal.exactAdd x y).value < (10 : ℚ) ^ (most + 2) := by
      rw [Decimal.value_exactAdd]
      have first := value_lt fun nonzero => (spans x (by simp) nonzero).1
      have second := value_lt fun nonzero => (spans y (by simp) nonzero).1
      have next : (10 : ℚ) ^ (most + 2) = 10 * 10 ^ (most + 1) := by
        rw [show most + 2 = 1 + (most + 1) by ring, zpow_add₀ (by norm_num), zpow_one]
      have positive := Decimal.ten_zpow_pos (most + 1)
      linarith
    refine Decimal.fix_window _ _ (max lo least) (min (most + 2) (lo + 1000)) ?_ ?_ ?_ ?_ ?_
    · rcases max_choice lo least with isLo | isLeast
      · rwa [isLo]
      · rwa [isLeast]
    · rw [abs_of_nonneg nonneg]
      rcases min_choice (most + 2) (lo + 1000) with isMost | isLo
      · rwa [isMost]
      · rwa [isLo]
    all_goals
      simp only [Decimal.Context.etiny, Decimal.Context.etop, defaultContext]
      omega

/-- The context in which `_add_reward_quantity` adds. -/
def rewardContext (left right : Decimal) : Decimal.Context :=
  { defaultContext with prec := rewardSumPrec left right }

theorem rewardContext_proper (left right : Decimal) : (rewardContext left right).Proper := by
  have least := (rewardSumPrec_spec left right).1
  refine ⟨?_, ?_, ?_⟩
  · exact Nat.lt_of_lt_of_le (by norm_num) least
  · simp only [rewardContext, Decimal.Context.etiny, Decimal.Context.etop, defaultContext]
    omega
  · simp only [rewardContext, Decimal.Context.etop, defaultContext]
    omega

/-- The digits of the mathematical sum, trailing zeros aside, lie within the precision
that `_reward_sum_prec` gives the two operands, between the bounds of the context. -/
def SumFits (left right : Decimal) : Prop := Fits (rewardContext left right) (left.value + right.value)

/-- `_add_reward_quantity` returns the mathematical sum. -/
def AddsExactly (left right : Decimal) : Prop :=
  ∃ sum, addRewardQuantity left right = some sum ∧ sum.value = left.value + right.value

/-- An addition is exact if and only if the digits of the sum fit. -/
theorem addsExactly_iff (left right : Decimal) : AddsExactly left right ↔ SumFits left right := by
  rw [AddsExactly, SumFits, ← Decimal.value_exactAdd]
  exact Decimal.fix_exact_iff (rewardContext_proper left right) _

/-! ## Left folds -/

/-- The amounts added one after the other. -/
def addRewards (start : Decimal) (amounts : List Decimal) : Option Decimal :=
  amounts.foldlM addRewardQuantity start

/-- The fold over `amounts` returns the mathematical sum. -/
def FoldsExactly (start : Decimal) (amounts : List Decimal) : Prop :=
  ∃ total, addRewards start amounts = some total ∧ total.value = start.value + exactSum amounts

theorem addRewards_snoc (start : Decimal) (taken : List Decimal) (amount : Decimal) :
    addRewards start (taken ++ [amount])
      = (addRewards start taken).bind fun held => addRewardQuantity held amount := by
  rw [addRewards, List.foldlM_append]
  congr 1
  funext held
  simp

theorem foldsExactly_snoc {start held amount : Decimal} {taken : List Decimal}
    (reached : addRewards start taken = some held) (exact : held.value = start.value + exactSum taken) :
    FoldsExactly start (taken ++ [amount]) ↔ AddsExactly held amount := by
  have sums : start.value + exactSum (taken ++ [amount]) = held.value + amount.value := by
    rw [Decimal.exactSum_append, Decimal.exactSum_cons, Decimal.exactSum_nil, exact]
    ring
  rw [FoldsExactly, addRewards_snoc, reached, Option.bind_some, sums]
  rfl

/-- Every amount fits when it is added to what the fold holds by then. -/
def EachStepFits (start : Decimal) (amounts : List Decimal) : Prop :=
  ∀ taken amount held, taken ++ [amount] <+: amounts → addRewards start taken = some held →
    SumFits held amount

/-- Reward addition is exact just where the sum fits, and a fold is exact throughout just
where every one of its additions fits. -/
theorem reward_addition_exact (left right start : Decimal) (amounts : List Decimal) :
    (AddsExactly left right ↔ SumFits left right)
    ∧ ((∀ taken, taken <+: amounts → FoldsExactly start taken) ↔ EachStepFits start amounts) := by
  refine ⟨addsExactly_iff left right, ?_, ?_⟩
  · intro exact taken amount held initial reached
    obtain ⟨total, found, value⟩ := exact taken ((List.prefix_append taken [amount]).trans initial)
    obtain rfl : total = held := Option.some.inj (found.symm.trans reached)
    rw [← addsExactly_iff, ← foldsExactly_snoc reached value]
    exact exact _ initial
  · intro fits taken
    induction taken using List.reverseRecOn with
    | nil => exact fun _ => ⟨start, rfl, by simp⟩
    | append_singleton taken amount ih =>
      intro initial
      obtain ⟨held, reached, value⟩ := ih ((List.prefix_append taken [amount]).trans initial)
      rw [foldsExactly_snoc reached value, addsExactly_iff]
      exact fits taken amount held initial reached

/-- Quantities that share a window of 1000 digits are added exactly in any number. -/
theorem folds_within_window {lo : ℤ} (window : Window lo) {start : Decimal} {amounts : List Decimal}
    (opening : Multiple lo start.value) (nonneg : 0 ≤ start.value)
    (each : ∀ amount ∈ amounts, Multiple lo amount.value ∧ 0 ≤ amount.value)
    (bound : start.value + exactSum amounts < (10 : ℚ) ^ (lo + 1000)) :
    FoldsExactly start amounts := by
  induction amounts using List.reverseRecOn with
  | nil => exact ⟨start, rfl, by simp⟩
  | append_singleton taken amount ih =>
    have last := each amount (by simp)
    have before : ∀ a ∈ taken, Multiple lo a.value ∧ 0 ≤ a.value := fun a member =>
      each a (List.mem_append_left _ member)
    rw [Decimal.exactSum_append, Decimal.exactSum_cons, Decimal.exactSum_nil, add_zero,
      ← add_assoc] at bound
    obtain ⟨held, reached, value⟩ := ih before (by linarith [last.2])
    rw [foldsExactly_snoc reached value]
    have sumMultiple : Multiple lo (exactSum taken) :=
      Multiple.sum fun x member => by
        obtain ⟨a, inTaken, rfl⟩ := List.mem_map.mp member
        exact (before a inTaken).1
    have sumNonneg : 0 ≤ exactSum taken :=
      List.sum_nonneg fun x member => by
        obtain ⟨a, inTaken, rfl⟩ := List.mem_map.mp member
        exact (before a inTaken).2
    refine addRewardQuantity_exact window ?_ last.1 ?_ last.2 ?_
    · rw [value]
      exact opening.add sumMultiple
    · rw [value]
      exact add_nonneg nonneg sumNonneg
    · rw [value]
      exact bound

/-- Both texts are admitted, and the one is lost. -/
theorem addend_rounded_away : ∃ left right sum,
    lifecycleAmount (.str "1E+1000") = .ok left ∧ lifecycleAmount (.str "1") = .ok right
      ∧ addRewardQuantity left right = some sum ∧ sum.value ≠ left.value + right.value := by
  refine ⟨⟨false, 1, 1000⟩, ⟨false, 1, 0⟩, ⟨false, 10 ^ 999, 1⟩, ?_, ?_, ?_, ?_⟩
  · decide +kernel
  · decide +kernel
  · decide +kernel
  · rw [← Decimal.value_exactAdd, Ne, ← Decimal.eqv_iff]
    decide +kernel

end BinancePlatform.Guarantees.RewardAddition
