import BinancePlatform.Guarantees.TradeEffects
import Mathlib.Data.Nat.Cast.Order.Field
import Mathlib.Tactic.Linarith
import Mathlib.Tactic.NormNum

/-!
# Every order has an approved decision

`execute_strategy_cycle` evaluates the strategy four times. Whatever verdicts the
evaluations give, and with the portfolio-loss stop on or off, each order that a
cycle hands to `runtime_call_client` comes after an approved decision of its own
leg and stays within what that decision grants: the last evaluation before an
order is the evaluation of the order's leg, and a rejected decision is mapped to
no trade.

* A permitted decision is approved (`approved_of_permitted`).
* A size that was divided, rounded to binary64 and cut to the lot costs no more than its
  amount (`cost_within`, `cost_within_lot`).
* Each group of stages keeps the orders so far justified (`rotation_sound`,
  `postTrade_sound`, `fuelAndTrend_sound`), and so does the cycle (`cycle_sound`,
  `orders_are_approved`).

`MarketData` says what is taken from outside: quantities cut to the lot, quotes, and amounts
of a decision that are binary64 values.
-/

set_option autoImplicit false

namespace BinancePlatform.Guarantees.ApprovedOrders
open BinancePlatform.Library BinancePlatform.Library.Program BinancePlatform.Source
open BinancePlatform.Guarantees.TradeEffects

/-! ## Binary64 amounts -/

/-- A finite binary64 value lies within the limit. -/
def IsBinary64 : PyFloat → Prop
  | .finite _ magnitude => (magnitude : ℚ) ≤ Binary64.limit
  | _ => True

/-- `qty * price <= amount` over the exact values; an infinite amount bounds nothing. -/
def CostWithin : PyFloat → PyFloat → PyFloat → Prop
  | .finite s qty, .finite t price, .finite u amount =>
    PyFloat.exact s qty * PyFloat.exact t price ≤ PyFloat.exact u amount
  | .finite _ _, .finite _ _, .infinite false => True
  | _, _, _ => False

theorem nearest_isBinary64 (s : Bool) {magnitude : ℚ} (nonneg : 0 ≤ magnitude) :
    IsBinary64 (PyFloat.nearest s magnitude) := by
  rw [PyFloat.nearest]
  split_ifs with large
  · trivial
  · rw [IsBinary64, Rat.coe_toNNRat _ (Binary64.round_nonneg nonneg)]
    exact Binary64.round_le_limit nonneg ((not_le.mp large).trans Binary64.overflow_lt_limit).le

theorem le_finite {s t : Bool} {a b : ℚ≥0} :
    (PyFloat.finite s a).le (.finite t b) = true ↔ PyFloat.exact s a ≤ PyFloat.exact t b := by
  simp [PyFloat.le, PyFloat.lt]

theorem exact_nonpos (a : ℚ≥0) : PyFloat.exact true a ≤ 0 := by
  simp [PyFloat.exact]

/-- A positive finite float has no sign. -/
theorem positive_finite {qty : PyFloat} (finite : qty.isFinite = true)
    (positive : qty.le .zero = false) : ∃ q : ℚ≥0, qty = .finite false q ∧ 0 < q := by
  cases qty with
  | nan => cases finite
  | infinite s => cases finite
  | finite s q =>
    have above : ¬PyFloat.exact s q ≤ PyFloat.exact false 0 := by
      intro below
      rw [PyFloat.zero, le_finite.mpr below] at positive
      cases positive
    cases s with
    | true => exact absurd (by simp [PyFloat.exact]) above
    | false => exact ⟨q, rfl, pos_iff_ne_zero.mpr (by simpa [PyFloat.exact] using above)⟩

/-- The factor `0.985`. -/
theorem literal_share : ∃ share : ℚ≥0, PyFloat.literal 985 = .finite false share ∧ share ≠ 0
    ∧ (share : ℚ) ≤ 986 / 1000 := by
  refine ⟨(Binary64.round (985 / 1000)).toNNRat, by decide +kernel, by decide +kernel, ?_⟩
  rw [Rat.coe_toNNRat _ (Binary64.round_nonneg (by norm_num))]
  decide +kernel

/-- `0.985` of an amount, bought at the price and rounded twice with a relative error
of `1 / scale` and an absolute one of `unit`, costs at most the amount. -/
theorem rounded_cost {amount price share spent size qty unit scale : ℚ} (amountPos : 0 < amount)
    (positive : 0 < price) (small : share ≤ 986 / 1000) (nonneg : 0 ≤ spent)
    (fine : 1000000 ≤ scale) (unitSmall : unit ≤ amount / 1000) (lost : unit * price ≤ amount / 1000)
    (spends : spent ≤ amount * share + amount * share / scale + unit)
    (sizes : size ≤ spent / price + spent / price / scale + unit) (below : qty ≤ size) :
    qty * price ≤ amount := by
  have scalePos : 0 < scale := by linarith
  have part : amount * share ≤ amount * (986 / 1000) := by gcongr
  have cost : qty * price ≤ spent + spent / scale + unit * price := by
    calc qty * price ≤ (spent / price + spent / price / scale + unit) * price := by
          gcongr
          exact below.trans sizes
      _ = spent + spent / scale + unit * price := by
          field_simp
  have scaled : amount * share / scale ≤ amount * (986 / 1000) / 1000000 := by
    calc amount * share / scale ≤ amount * (986 / 1000) / scale := by gcongr
      _ ≤ amount * (986 / 1000) / 1000000 := by gcongr
  have shrunk : spent / scale ≤ spent / 1000000 := by gcongr
  linarith

/-- A quantity of one lot at a quoted price keeps the amount far from the least unit. -/
theorem lot_amount {amount price share spent qty unit scale lot : ℚ} (lotPos : 0 < lot)
    (positive : lot ≤ price) (small : share ≤ 986 / 1000) (amountNonneg : 0 ≤ amount)
    (nonneg : 0 ≤ spent) (fine : 1000000 ≤ scale)
    (tiny : unit ≤ lot * lot / 1000000) (tinier : unit ≤ lot / 1000000)
    (spends : spent ≤ amount * share + amount * share / scale + unit)
    (below : qty ≤ spent / price + spent / price / scale + unit) (large : lot ≤ qty) :
    unit ≤ amount / 1000 ∧ unit * price ≤ amount / 1000 := by
  have scalePos : 0 < scale := by linarith
  have pricePos : 0 < price := by linarith
  have part : amount * share ≤ amount * (986 / 1000) := by gcongr
  have scaled : amount * share / scale ≤ amount * (986 / 1000) / 1000000 := by
    calc amount * share / scale ≤ amount * (986 / 1000) / scale := by gcongr
      _ ≤ amount * (986 / 1000) / 1000000 := by gcongr
  have shrunk : spent / scale ≤ spent / 1000000 := by gcongr
  have cost : lot * price ≤ spent + spent / scale + unit * price := by
    calc lot * price ≤ (spent / price + spent / price / scale + unit) * price := by
          gcongr
          exact large.trans below
      _ = spent + spent / scale + unit * price := by
          field_simp
  have lost : unit * price ≤ lot * price / 1000000 := by
    calc unit * price ≤ lot / 1000000 * price := by gcongr
      _ = lot * price / 1000000 := by ring
  have worth : lot * lot ≤ lot * price := by gcongr
  constructor <;> linarith

/-- A size that bounds a positive quantity is positive. -/
theorem positive_size {q : ℚ≥0} {size : PyFloat} (qPos : 0 < q)
    (below : (PyFloat.finite false q).le size = true) :
    size = .infinite false ∨ ∃ z : ℚ≥0, size = .finite false z ∧ 0 < z ∧ q ≤ z := by
  cases size with
  | nan => simp [PyFloat.le] at below
  | infinite t =>
    cases t with
    | false => exact .inl rfl
    | true => simp [PyFloat.le, PyFloat.lt] at below
  | finite t z =>
    rw [le_finite] at below
    have qRat : (0 : ℚ) < q := by exact_mod_cast qPos
    cases t with
    | true =>
      have nonpos := below.trans (exact_nonpos z)
      simp only [PyFloat.exact, Bool.false_eq_true, if_false] at nonpos
      linarith
    | false =>
      simp only [PyFloat.exact, Bool.false_eq_true, if_false] at below
      have bound : q ≤ z := by exact_mod_cast below
      exact .inr ⟨z, rfl, qPos.trans_le bound, bound⟩

/-- A positive size: infinite, or finite above a positive quantity. -/
abbrev Sizes (q : ℚ≥0) (size : PyFloat) : Prop :=
  size = .infinite false ∨ ∃ z : ℚ≥0, size = .finite false z ∧ 0 < z ∧ q ≤ z

/-- A finite dividend with a positive quotient has a finite divisor of its sign. -/
theorem divisor_of_finite {price size : PyFloat} {q y : ℚ≥0} {t : Bool}
    (sized : (PyFloat.finite t y).div price = .ok size) (sizes : Sizes q size) :
    ∃ p : ℚ≥0, price = .finite t p ∧ p ≠ 0 ∧ size = PyFloat.nearest false (y / p : ℚ≥0) := by
  cases price with
  | nan =>
    obtain rfl := Except.ok.inj sized
    rcases sizes with h | ⟨z, h, -⟩ <;> cases h
  | infinite u =>
    obtain rfl := Except.ok.inj sized
    rcases sizes with h | ⟨z, h, pos, -⟩
    · cases h
    · obtain ⟨-, rfl⟩ := PyFloat.finite.inj h
      exact absurd pos (lt_irrefl _)
  | finite u p =>
    rw [PyFloat.div] at sized
    split_ifs at sized with zero
    obtain rfl := Except.ok.inj sized
    have signs : (t ^^ u) = false := by
      cases sign : (t ^^ u) with
      | false => rfl
      | true =>
        rw [sign, PyFloat.nearest] at sizes
        split_ifs at sizes
        · rcases sizes with h | ⟨z, h, -⟩ <;> cases h
        · rcases sizes with h | ⟨z, h, -⟩ <;> cases h
    have same : u = t := by
      cases t <;> cases u <;> simp_all
    subst same
    exact ⟨p, rfl, zero, by rw [signs]⟩

/-- An infinite dividend with a positive quotient has a finite divisor of its sign. -/
theorem divisor_of_infinite {price size : PyFloat} {q : ℚ≥0} {t : Bool}
    (sized : (PyFloat.infinite t).div price = .ok size) (sizes : Sizes q size) :
    ∃ p : ℚ≥0, price = .finite t p := by
  cases price with
  | nan =>
    obtain rfl := Except.ok.inj sized
    rcases sizes with h | ⟨z, h, -⟩ <;> cases h
  | infinite u =>
    obtain rfl := Except.ok.inj sized
    rcases sizes with h | ⟨z, h, -⟩ <;> cases h
  | finite u p =>
    rw [PyFloat.div] at sized
    split_ifs at sized with zero
    obtain rfl := Except.ok.inj sized
    rcases sizes with h | ⟨z, h, -⟩
    · have signs := PyFloat.infinite.inj h
      have same : u = t := by
        cases t <;> cases u <;> simp_all
      exact ⟨p, by rw [same]⟩
    · cases h

/-- A quantity is at most the rounded quotient, up to one rounding step. -/
theorem size_bound {q y p : ℚ≥0} {size : PyFloat} (qFloat : (q : ℚ) ≤ Binary64.limit)
    (sizeEq : size = PyFloat.nearest false (y / p : ℚ≥0)) (sizes : Sizes q size) :
    (q : ℚ) ≤ y / p + y / p / 2 ^ 52 + Binary64.least := by
  rw [PyFloat.nearest, NNRat.cast_div] at sizeEq
  have nonneg : (0 : ℚ) ≤ y / p := by positivity
  split_ifs at sizeEq with large
  · have above := Binary64.limit_le large
    have small := Binary64.least_pos
    linarith
  · rcases sizes with infinite | ⟨z, finite, -, bound⟩
    · rw [infinite] at sizeEq
      cases sizeEq
    · rw [finite] at sizeEq
      obtain ⟨-, rfl⟩ := PyFloat.finite.inj sizeEq
      have rounded : (q : ℚ) ≤ Binary64.round (y / p) := by
        rw [← Rat.coe_toNNRat _ (Binary64.round_nonneg nonneg)]
        exact_mod_cast bound
      exact rounded.trans (Binary64.round_le_add nonneg)

/-- `amount * 0.985 / price` of a positive size: the amount is infinite, or all of it is
finite and every step is rounded once. -/
theorem size_cases {amount price size : PyFloat} {q : ℚ≥0} (amountFloat : IsBinary64 amount)
    (qFloat : (q : ℚ) ≤ Binary64.limit)
    (sized : (amount.mul (.literal 985)).div price = .ok size) (sizes : Sizes q size) :
    (∃ u p, amount = .infinite u ∧ price = .finite u p) ∨
    ∃ (u : Bool) (b p y : ℚ≥0) (share : ℚ), amount = .finite u b ∧ price = .finite u p ∧ p ≠ 0
      ∧ share ≤ 986 / 1000 ∧ (y : ℚ) ≤ b * share + b * share / 2 ^ 52 + Binary64.least
      ∧ (q : ℚ) ≤ y / p + y / p / 2 ^ 52 + Binary64.least := by
  obtain ⟨share, literal, shareNonzero, shareLt⟩ := literal_share
  rw [literal] at sized
  cases amount with
  | nan =>
    exfalso
    have nanSize : size = .nan := by
      cases price with
      | finite t p =>
        rw [PyFloat.mul, PyFloat.div] at sized
        split_ifs at sized
        exact (Except.ok.inj sized).symm
      | _ => exact (Except.ok.inj sized).symm
    rcases sizes with h | ⟨z, h, -⟩ <;> rw [nanSize] at h <;> cases h
  | infinite u =>
    rw [PyFloat.mul, if_neg shareNonzero, Bool.xor_false] at sized
    obtain ⟨p, priceEq⟩ := divisor_of_infinite sized sizes
    exact .inl ⟨u, p, rfl, priceEq⟩
  | finite u b =>
    have product : (b : ℚ) * share < Binary64.overflow := by
      have bound : (b : ℚ) ≤ Binary64.limit := amountFloat
      have top := Binary64.limit_pos
      calc (b : ℚ) * share ≤ Binary64.limit * (986 / 1000) := by gcongr
        _ < Binary64.overflow := Binary64.limit_share
    have nonneg : (0 : ℚ) ≤ b * share := by positivity
    have spends : (PyFloat.finite u b).mul (.finite false share)
        = .finite u (Binary64.round (b * share)).toNNRat := by
      rw [PyFloat.mul, Bool.xor_false, NNRat.cast_mul, PyFloat.nearest, if_neg (not_le.mpr product)]
    rw [spends] at sized
    obtain ⟨p, priceEq, priceNonzero, sizeEq⟩ := divisor_of_finite sized sizes
    refine .inr ⟨u, b, p, _, share, rfl, priceEq, priceNonzero, shareLt, ?_,
      size_bound qFloat sizeEq sizes⟩
    rw [Rat.coe_toNNRat _ (Binary64.round_nonneg nonneg)]
    exact Binary64.round_le_add nonneg

theorem fine_scale : (1000000 : ℚ) ≤ 2 ^ 52 := by norm_num

/-- An amount of more than fifteen covers what a quantity of its size costs. -/
theorem cost_within {amount price size qty : PyFloat} (amountFloat : IsBinary64 amount)
    (priceFloat : IsBinary64 price) (qtyFloat : IsBinary64 qty) (qtyFinite : qty.isFinite = true)
    (large : amount.le (.literal 15000) = false)
    (sized : (amount.mul (.literal 985)).div price = .ok size) (below : qty.le size = true)
    (positive : qty.le .zero = false) : CostWithin qty price amount := by
  have fifteen : PyFloat.literal 15000 = .finite false 15 := by decide +kernel
  rw [fifteen] at large
  obtain ⟨q, rfl, qPos⟩ := positive_finite qtyFinite positive
  rcases size_cases amountFloat qtyFloat sized (positive_size qPos below) with
    ⟨u, p, rfl, rfl⟩ | ⟨u, b, p, y, share, rfl, rfl, priceNonzero, small, spends, bound⟩
  · cases u with
    | false => trivial
    | true => simp [PyFloat.le, PyFloat.lt] at large
  · have above : 15 < PyFloat.exact u b := by
      by_contra low
      rw [le_finite.mpr (by simpa [PyFloat.exact] using low)] at large
      cases large
    cases u with
    | true => linarith [exact_nonpos b]
    | false =>
      simp only [CostWithin, PyFloat.exact, Bool.false_eq_true, if_false] at above ⊢
      have pricePos : (0 : ℚ) < p := by exact_mod_cast pos_iff_ne_zero.mpr priceNonzero
      have priceBound : (p : ℚ) ≤ Binary64.limit := priceFloat
      have leastPos := Binary64.least_pos
      have unit := Binary64.least_le
      have lost : Binary64.least * p ≤ Binary64.least * Binary64.limit := by gcongr
      have product := Binary64.least_limit
      exact rounded_cost (by linarith) pricePos small (by positivity) fine_scale (by linarith)
        (by linarith) spends bound le_rfl

/-- Quotes and lots have at most eight decimals. -/
def lotUnit : ℚ := 1 / 10 ^ 8

/-- Whatever the amount, it covers what at least one lot of its size costs at a quote. -/
theorem cost_within_lot {amount size qty : PyFloat} {p : ℚ≥0} (amountFloat : IsBinary64 amount)
    (quoted : lotUnit ≤ p) (qtyFloat : IsBinary64 qty) (qtyFinite : qty.isFinite = true)
    (lot : ∀ q : ℚ≥0, qty = .finite false q → 0 < q → lotUnit ≤ q)
    (sized : (amount.mul (.literal 985)).div (.finite false p) = .ok size)
    (below : qty.le size = true) (positive : qty.le .zero = false) :
    CostWithin qty (.finite false p) amount := by
  obtain ⟨q, rfl, qPos⟩ := positive_finite qtyFinite positive
  rcases size_cases amountFloat qtyFloat sized (positive_size qPos below) with
    ⟨u, p', rfl, priceEq⟩ | ⟨u, b, p', y, share, rfl, priceEq, priceNonzero, small, spends, bound⟩
  · obtain ⟨rfl, -⟩ := PyFloat.finite.inj priceEq
    trivial
  · obtain ⟨rfl, rfl⟩ := PyFloat.finite.inj priceEq
    simp only [CostWithin, PyFloat.exact, Bool.false_eq_true, if_false]
    have lotPos : (0 : ℚ) < lotUnit := by norm_num [lotUnit]
    have leastPos := Binary64.least_pos
    have unit := Binary64.least_le
    obtain ⟨units, lost⟩ := lot_amount lotPos quoted small b.cast_nonneg y.cast_nonneg fine_scale
      (unit.trans (by norm_num [lotUnit])) (unit.trans (by norm_num [lotUnit])) spends bound
      (lot q rfl qPos)
    exact rounded_cost (by linarith) (lotPos.trans_le quoted) small y.cast_nonneg fine_scale units lost
      spends bound le_rfl

/-- `format_qty` gives a finite quantity of at most its argument. -/
def RoundsDown (runtime : ExecutionRuntime) : Prop :=
  ∀ symbol size account qty, runtime.formatQty symbol size account = .ok qty →
    qty.isFinite = true ∧ IsBinary64 qty ∧ qty.le size = true

/-- The lot and the tick of the Bitcoin market have at most eight decimals. -/
structure BitcoinMarket (runtime : ExecutionRuntime) (prices : Document) : Prop where
  lot : ∀ size account qty, runtime.formatQty "BTCUSDT" size account = .ok qty →
    ∀ q : ℚ≥0, qty = .finite false q → 0 < q → lotUnit ≤ q
  quote : ∀ price, priceOf prices "BTCUSDT" = .ok price → ∃ p : ℚ≥0, price = .finite false p ∧ lotUnit ≤ p

theorem sized_cost {runtime : ExecutionRuntime} {prices : Document} {symbol : String}
    {amount qty price : PyFloat} (sized : Sized runtime prices symbol amount qty price)
    (roundsDown : RoundsDown runtime) (amountFloat : IsBinary64 amount) (priceFloat : IsBinary64 price)
    (large : amount.le (.literal 15000) = false) : CostWithin qty price amount := by
  obtain ⟨size, account, quotient, rounded⟩ := sized.formatted
  obtain ⟨finite, float, below⟩ := roundsDown _ _ _ _ rounded
  exact cost_within amountFloat priceFloat float finite large quotient below sized.positive

theorem sized_lot_cost {runtime : ExecutionRuntime} {prices : Document} {amount qty price : PyFloat}
    (sized : Sized runtime prices "BTCUSDT" amount qty price) (roundsDown : RoundsDown runtime)
    (market : BitcoinMarket runtime prices) (amountFloat : IsBinary64 amount) :
    CostWithin qty price amount := by
  obtain ⟨size, account, quotient, rounded⟩ := sized.formatted
  obtain ⟨finite, float, below⟩ := roundsDown _ _ _ _ rounded
  obtain ⟨p, rfl, tick⟩ := market.quote price sized.quoted
  exact cost_within_lot amountFloat tick float finite (market.lot _ _ _ rounded) quotient below
    sized.positive

/-! ## What a decision grants -/

/-- The outcome is `APPROVE` and no risk flag rejects. -/
def Approved (decision : StrategyDecision) : Prop :=
  (∃ assessment, pyGet decision.diagnostics "member_risk_assessment" = .dict assessment ∧
    pyGet assessment "outcome" = .str "APPROVE") ∧
  ∀ flag ∈ decision.riskFlags, ¬rejectedMark.toList <+: flag.toList

/-- The permission to execute is given for an approved decision only. -/
theorem approved_of_permitted {decision : StrategyDecision} (permitted : executionPermitted decision = true) :
    Approved decision := by
  unfold executionPermitted at permitted
  split at permitted
  · rename_i assessment same
    rw [Bool.and_eq_true] at permitted
    refine ⟨⟨assessment, same, ?_⟩, ?_⟩
    · cases outcome : pyGet assessment "outcome" with
      | str text =>
        rw [outcome, Value.isStr, decide_eq_true_eq] at permitted
        rw [permitted.1]
      | _ => simp [outcome, Value.isStr] at permitted
    · intro flag member marked
      have rejected : decision.riskFlags.any isRejected = true :=
        List.any_eq_true.mpr ⟨flag, member, List.isPrefixOf_iff_prefix.mpr marked⟩
      simp [rejected] at permitted
  · cases permitted

section Granted
variable [CharacterTable] (inputs : CycleInputs)

/-- The decision is what the strategy returned at the evaluation, after the stop. -/
def Evaluated (evaluation : Evaluation) (decision : StrategyDecision) : Prop :=
  ∃ account raw, inputs.strategy.evaluate evaluation account = .ok raw ∧
    decision = inputs.strategy.afterStoploss evaluation account raw

/-- The orders of the leg of an evaluation, within the bounds of its decision. -/
def Grants (evaluation : Evaluation) (decision : StrategyDecision) (order : OrderRequest) : Prop :=
  match evaluation with
  | .preTrade =>
    order = ⟨"order_market_buy", bnbFuelSymbol, .quoteOrderQty (.literal 15000), none⟩ ∨
    ∃ entry ∈ inputs.runtimeTrendUniverse.items, ∃ qty,
      order = ⟨"order_market_sell", entry.1, .quantity qty, none⟩
  | .sellPlan => ∃ plan symbol reason qty id, mapDecisionToRotationPlan decision = .ok plan ∧
      plan.sellReasons.get? symbol = some reason ∧
      order = ⟨"order_market_sell", symbol, .quantity qty, id⟩
  | .postSellPlan => ∃ plan symbol amount qty price id, mapDecisionToRotationPlan decision = .ok plan ∧
      symbol ∈ plan.eligibleBuySymbols ∧ plan.plannedTrendBuys.get? symbol = some amount ∧
      priceOf inputs.prices symbol = .ok price ∧ CostWithin qty price amount ∧
      order = ⟨"order_market_buy", symbol, .quantity qty, id⟩
  | .postTrade => ∃ allocation qty price id, mapDecisionToAllocation decision = .ok allocation ∧
      priceOf inputs.prices "BTCUSDT" = .ok price ∧
      CostWithin qty price (btcBuyBudget allocation.dcaUsdtPool allocation.btcBaseOrderUsdt
        inputs.btcSnapshot.ahr999) ∧
      order = ⟨"order_market_buy", "BTCUSDT", .quantity qty, id⟩

def nextEvaluation (last : Option (Evaluation × StrategyDecision)) : Effect →
    Option (Evaluation × StrategyDecision)
  | .evaluated evaluation decision => some (evaluation, decision)
  | _ => last

/-- The evaluation that the cycle made last. -/
def lastEvaluation (effects : List Effect) : Option (Evaluation × StrategyDecision) :=
  effects.foldl nextEvaluation none

/-- Each order comes after an approved evaluation that grants it. -/
def Justified (effects : List Effect) : Prop :=
  ∀ before executed order after, effects = before ++ .clientCall executed order :: after →
    ∃ evaluation decision, lastEvaluation before = some (evaluation, decision) ∧
      Evaluated inputs evaluation decision ∧ Approved decision ∧ Grants inputs evaluation decision order

variable {inputs} {effects : List Effect} {evaluation : Evaluation} {decision : StrategyDecision}

omit [CharacterTable] in
theorem lastEvaluation_append (effect : Effect) :
    lastEvaluation (effects ++ [effect]) = nextEvaluation (lastEvaluation effects) effect := by
  rw [lastEvaluation, List.foldl_append]
  rfl

theorem justified_nil : Justified inputs [] := by
  intro before executed order after same
  simp at same

theorem justified_append {effect : Effect} (justified : Justified inputs effects)
    (granted : ∀ executed order, effect = .clientCall executed order →
      ∃ evaluation decision, lastEvaluation effects = some (evaluation, decision) ∧
        Evaluated inputs evaluation decision ∧ Approved decision ∧
        Grants inputs evaluation decision order) :
    Justified inputs (effects ++ [effect]) := by
  intro before executed order after same
  rcases List.eq_nil_or_concat after with rfl | ⟨rest, last, rfl⟩
  · obtain ⟨rfl, single⟩ := List.append_inj' same rfl
    exact granted executed order (List.singleton_inj.mp single)
  · rw [List.concat_eq_append, ← List.cons_append, ← List.append_assoc] at same
    obtain ⟨earlier, -⟩ := List.append_inj' same rfl
    exact justified before executed order rest earlier

/-- What a leg may add: no evaluation, and only orders that its decision grants. -/
def Legal (inputs : CycleInputs) (evaluation : Evaluation) (decision : StrategyDecision) : Effect → Prop
  | .evaluated _ _ => False
  | .clientCall _ order => Approved decision ∧ Grants inputs evaluation decision order
  | _ => True

theorem legal_routine {runtime : ExecutionRuntime} (effect : Effect) (routine : Routine runtime effect) :
    Legal inputs evaluation decision effect := by
  cases effect with
  | evaluated _ _ => exact routine.elim
  | clientCall _ _ => exact routine.elim
  | _ => trivial

/-- An effect that is neither an evaluation nor an order. -/
def Idle : Effect → Prop
  | .evaluated _ _ | .clientCall _ _ => False
  | _ => True

omit [CharacterTable] in
theorem idle_routine {runtime : ExecutionRuntime} (effect : Effect) (routine : Routine runtime effect) :
    Idle effect := by
  cases effect with
  | evaluated _ _ => exact routine.elim
  | clientCall _ _ => exact routine.elim
  | _ => trivial

/-- The last evaluation is the leg's own, and so far every order is justified. -/
def Ready (inputs : CycleInputs) (evaluation : Evaluation) (decision : StrategyDecision)
    (s : TradingState) : Prop :=
  Justified inputs s.effects ∧ lastEvaluation s.effects = some (evaluation, decision) ∧
    Evaluated inputs evaluation decision

theorem ready_extends {added : List Effect} (justified : Justified inputs effects)
    (last : lastEvaluation effects = some (evaluation, decision))
    (evaluated : Evaluated inputs evaluation decision)
    (legal : ∀ effect ∈ added, Legal inputs evaluation decision effect) :
    Justified inputs (effects ++ added) ∧ lastEvaluation (effects ++ added) = some (evaluation, decision) := by
  induction added generalizing effects with
  | nil => simpa using ⟨justified, last⟩
  | cons effect rest ih =>
    have first := legal effect List.mem_cons_self
    have same : lastEvaluation (effects ++ [effect]) = some (evaluation, decision) := by
      rw [lastEvaluation_append, last]
      cases effect with
      | evaluated _ _ => exact first.elim
      | _ => rfl
    have kept : Justified inputs (effects ++ [effect]) := by
      apply justified_append justified
      rintro executed order rfl
      exact ⟨evaluation, decision, last, evaluated, first⟩
    have reached := ih kept same fun e member => legal e (List.mem_cons_of_mem _ member)
    simpa using reached

theorem justified_extends {added : List Effect} (justified : Justified inputs effects)
    (idle : ∀ effect ∈ added, Idle effect) : Justified inputs (effects ++ added) := by
  induction added generalizing effects with
  | nil => simpa using justified
  | cons effect rest ih =>
    have kept : Justified inputs (effects ++ [effect]) := by
      apply justified_append justified
      rintro executed order rfl
      exact (idle _ List.mem_cons_self).elim
    have reached := ih kept fun e member => idle e (List.mem_cons_of_mem _ member)
    simpa using reached

end Granted

/-! ## The amounts of a decision -/

/-- The float amounts of a decision are binary64 values. -/
structure FloatAmounts (decision : StrategyDecision) : Prop where
  planned : ∀ fields, decision.diagnostics.get? "planned_trend_buys" = some (.dict fields) →
    ∀ symbol x, fields.get? symbol = some (.float x) → IsBinary64 x
  budgets : ∀ name x, (name, some x) ∈ decision.budgets → IsBinary64 x

section Amounts

theorem toFloat_isBinary64 {value : Value} {x : PyFloat} (read : value.toFloat = .ok x)
    (float : ∀ y, value = .float y → IsBinary64 y) : IsBinary64 x := by
  cases value with
  | float y =>
    obtain rfl := Except.ok.inj read
    exact float _ rfl
  | bool b =>
    obtain rfl := Except.ok.inj read
    have one : (1 : ℚ) ≤ Binary64.limit := one_le_pow₀ (by norm_num)
    cases b
    · simpa [IsBinary64] using Binary64.limit_pos.le
    · simpa [IsBinary64] using one
  | int n =>
    change PyFloat.ofInt n = .ok x at read
    unfold PyFloat.ofInt at read
    have float := nearest_isBinary64 (decide (n < 0)) (abs_nonneg (n : ℚ))
    split at read
    · cases read
    · obtain rfl := Except.ok.inj read
      exact float
  | str text =>
    change PyFloat.ofText text = .ok x at read
    unfold PyFloat.ofText at read
    split at read
    · obtain rfl := Except.ok.inj read
      exact nearest_isBinary64 _ (abs_nonneg _)
    · obtain rfl := Except.ok.inj read
      trivial
    · obtain rfl := Except.ok.inj read
      trivial
    · cases read
  | _ => cases read

theorem mul_isBinary64 (x y : PyFloat) : IsBinary64 (x.mul y) := by
  cases x with
  | nan => trivial
  | infinite s =>
    cases y with
    | finite t b =>
      rw [PyFloat.mul]
      split_ifs <;> trivial
    | _ => trivial
  | finite s a =>
    cases y with
    | finite t b => exact nearest_isBinary64 _ (NNRat.cast_nonneg _)
    | infinite t =>
      rw [PyFloat.mul]
      split_ifs <;> trivial
    | nan => trivial

/-- A read mapping holds what was read under each key. -/
theorem get?_readValues {α : Type} {read : Value → Except PyException α} {fields : Document}
    {found : Dict String α} (success : readValues read fields = .ok found) {key : String} {value : α}
    (held : found.get? key = some value) : ∃ raw, fields.get? key = some raw ∧ read raw = .ok value := by
  obtain ⟨entries, listed, success⟩ := bind_ok success
  obtain rfl := Except.ok.inj success
  have through : ∀ {items : List (String × Value)} {entries : List (String × α)},
      List.Forall₂ (fun e out => ((read e.2).map fun v => (e.1, v)) = .ok out) items entries →
      (key, value) ∈ entries →
      ∃ entry ∈ items, ((read entry.2).map fun v => (entry.1, v)) = .ok (key, value) := by
    intro items entries paired member
    induction paired with
    | nil => cases member
    | cons head _ ih =>
      rcases List.mem_cons.mp member with rfl | later
      · exact ⟨_, List.mem_cons_self, head⟩
      · obtain ⟨entry, inside, matched⟩ := ih later
        exact ⟨entry, List.mem_cons_of_mem _ inside, matched⟩
  obtain ⟨entry, inside, matched⟩ := through (mapM_ok listed) (Dict.mem_of_find held)
  obtain ⟨v, readEq, same⟩ := map_ok matched
  obtain ⟨rfl, rfl⟩ := Prod.mk.inj same
  exact ⟨entry.2, (Dict.mem_items _ _ _).mp inside, readEq⟩

theorem amountMap_mem {entries : List (String × Option PyFloat)} {name : String} {x : PyFloat}
    (held : (amountMap entries).get? name = some x) : (name, some x) ∈ entries := by
  have kept : ∀ (take : Dict String PyFloat → String × Option PyFloat → Dict String PyFloat),
      (∀ found entry, (take found entry).get? name = some x →
        entry = (name, some x) ∨ found.get? name = some x) →
      ∀ (rest : List (String × Option PyFloat)) (found : Dict String PyFloat),
        (rest.foldl take found).get? name = some x → (name, some x) ∈ rest ∨ found.get? name = some x := by
    intro take each rest
    induction rest with
    | nil => exact fun found held => .inr held
    | cons entry rest ih =>
      intro found held
      rcases ih _ held with later | now
      · exact .inl (List.mem_cons_of_mem _ later)
      · rcases each found entry now with rfl | before
        · exact .inl List.mem_cons_self
        · exact .inr before
  unfold amountMap at held
  refine (kept _ (fun found entry now => ?_) entries .empty held).resolve_right fun none => by cases none
  obtain ⟨label, amount⟩ := entry
  cases amount with
  | none => exact .inr now
  | some amount =>
    dsimp only at now
    rw [Dict.get?_set] at now
    split_ifs at now with same
    · obtain rfl := Option.some.inj now
      subst same
      exact .inl rfl
    · exact .inr now

theorem floatAmounts_stopped {strategy : StrategyInputs} {evaluation : Evaluation} {account : Account}
    {raw : StrategyDecision} (amounts : FloatAmounts raw) :
    FloatAmounts (strategy.afterStoploss evaluation account raw) := by
  unfold StrategyInputs.afterStoploss applyPortfolioLossStoploss
  split
  · split
    · exact amounts
    · split
      · exact amounts
      · exact ⟨amounts.planned, fun _ _ member => by cases member⟩
  · exact amounts

variable [CharacterTable] {decision : StrategyDecision}

/-- A mapped plan: without permission nothing of it remains. -/
theorem rotationPlan_ok {plan : RotationPlan} (mapped : mapDecisionToRotationPlan decision = .ok plan) :
    (executionPermitted decision = false →
      plan.sellReasons = .empty ∧ plan.eligibleBuySymbols = []) ∧
    ∀ symbol amount, plan.plannedTrendBuys.get? symbol = some amount →
      ∃ fields raw, decision.diagnostics.get? "planned_trend_buys" = some (.dict fields) ∧
        fields.get? symbol = some raw ∧ raw.toFloat = .ok amount := by
  obtain ⟨candidateFields, -, mapped⟩ := bind_ok mapped
  obtain ⟨candidates, -, mapped⟩ := bind_ok mapped
  obtain ⟨buyFields, buys, mapped⟩ := bind_ok mapped
  obtain ⟨planned, readBuys, mapped⟩ := bind_ok mapped
  obtain ⟨sellFields, -, mapped⟩ := bind_ok mapped
  obtain ⟨sells, -, mapped⟩ := bind_ok mapped
  obtain ⟨eligible, listed, mapped⟩ := bind_ok mapped
  obtain rfl := Except.ok.inj mapped
  constructor
  · intro refused
    rw [refused] at listed
    obtain rfl := Except.ok.inj listed
    exact ⟨by simp [refused], rfl⟩
  · intro symbol amount held
    dsimp only at held
    split at held
    · obtain ⟨raw, found, read⟩ := get?_readValues readBuys held
      have source := asMapping_ok buys
      cases stored : decision.diagnostics.get? "planned_trend_buys" with
      | none =>
        rw [stored, Option.getD_none] at source
        obtain rfl := Value.dict.inj source
        cases found
      | some value =>
        rw [stored, Option.getD_some] at source
        subst source
        exact ⟨buyFields, raw, rfl, found, read⟩
    · cases held

omit [CharacterTable] in
theorem allocation_ok {allocation : Allocation} (mapped : mapDecisionToAllocation decision = .ok allocation) :
    allocation.executionPermitted = executionPermitted decision ∧
      allocation.dcaUsdtPool = ((amountMap decision.budgets).get? "btc_core_dca_pool").getD .zero := by
  obtain ⟨trend, -, mapped⟩ := bind_ok mapped
  obtain ⟨target, -, mapped⟩ := bind_ok mapped
  obtain ⟨base, -, mapped⟩ := bind_ok mapped
  obtain rfl := Except.ok.inj mapped
  exact ⟨rfl, rfl⟩

omit [CharacterTable] in
theorem budget_isBinary64 (amounts : FloatAmounts decision) {allocation : Allocation}
    (mapped : mapDecisionToAllocation decision = .ok allocation) (ahr : PyFloat) :
    IsBinary64 (btcBuyBudget allocation.dcaUsdtPool allocation.btcBaseOrderUsdt ahr) := by
  unfold btcBuyBudget PyFloat.minimum
  split
  · exact mul_isBinary64 _ _
  · rw [(allocation_ok mapped).2]
    cases held : (amountMap decision.budgets).get? "btc_core_dca_pool" with
    | none => simpa [IsBinary64, PyFloat.zero] using Binary64.limit_pos.le
    | some x => exact amounts.budgets _ _ (amountMap_mem held)

end Amounts

/-! ## The cycle -/

/-- What the markets and the strategy hand over: quantities rounded down to the lot, and
binary64 values. -/
structure MarketData [CharacterTable] (runtime : ExecutionRuntime) (inputs : CycleInputs) : Prop where
  roundsDown : RoundsDown runtime
  bitcoin : BitcoinMarket runtime inputs.prices
  quotes : ∀ symbol price, priceOf inputs.prices symbol = .ok price → IsBinary64 price
  decisions : ∀ evaluation account raw, inputs.strategy.evaluate evaluation account = .ok raw →
    FloatAmounts raw

section Cycle
variable [CharacterTable] {runtime : ExecutionRuntime} {trendUniverse : TrendUniverse}
  {inputs : CycleInputs} {evaluation : Evaluation} {decision : StrategyDecision} {α : Type}

def Sound (inputs : CycleInputs) (s : TradingState) : Prop := Justified inputs s.effects

theorem Ready.sound {s : TradingState} (ready : Ready inputs evaluation decision s) : Sound inputs s :=
  ready.1

theorem yields_leg {program : Trading α}
    (leads : Leads (Extends (Legal inputs evaluation decision)) program) :
    Yields (Ready inputs evaluation decision) program (fun _ => Ready inputs evaluation decision)
      (Sound inputs) := by
  have kept : ∀ s t, Ready inputs evaluation decision s → Extends (Legal inputs evaluation decision) s t →
      Ready inputs evaluation decision t := by
    rintro s t ⟨justified, last, evaluated⟩ ⟨added, same, legal⟩
    obtain ⟨reached, still⟩ := ready_extends justified last evaluated legal
    exact ⟨same ▸ reached, same ▸ still, evaluated⟩
  apply leads.yields
  · intro s _ t ready extended _
    exact kept s t ready extended
  · intro s t ready extended
    exact (kept s t ready extended).sound

theorem yields_idle {program : Trading α} (leads : Leads (Extends Idle) program) :
    Yields (Sound inputs) program (fun _ => Sound inputs) (Sound inputs) := by
  have kept : ∀ s t, Sound inputs s → Extends Idle s t → Sound inputs t := by
    rintro s t sound ⟨added, same, idle⟩
    rw [Sound, same]
    exact justified_extends sound idle
  apply leads.yields
  · intro s _ t sound extended _
    exact kept s t sound extended
  · exact kept

theorem legal_frame : Frame runtime (Extends (Legal inputs evaluation decision)) :=
  extends_frame legal_routine

theorem legal_places {order : OrderRequest} (approved : Approved decision)
    (grants : Grants inputs evaluation decision order) :
    Places runtime inputs.prices (Extends (Legal inputs evaluation decision)) order :=
  extends_places legal_routine (fun _ => trivial) ⟨approved, grants⟩

omit [CharacterTable] in
theorem yields_returns {outcome : Except PyException α} {P E : TradingState → Prop}
    {Q : α → TradingState → Prop} (ok : ∀ value s, outcome = .ok value → P s → Q value s)
    (left : ∀ s, P s → E s) : Yields P (returns outcome) Q E := by
  intro s start
  cases outcome with
  | error raised => exact left s start
  | ok value => exact ok value s rfl start

omit [CharacterTable] in
theorem yields_getAccount {P E : TradingState → Prop} :
    Yields P getAccount (fun _ => P) E :=
  fun _ start => start

theorem yields_evaluate (evaluation : Evaluation) :
    Yields (Sound inputs) (evaluateStrategy inputs evaluation)
      (fun decision => Ready inputs evaluation decision) (Sound inputs) := by
  apply yields_getAccount.bind
  intro account
  apply Yields.bind (Q := fun raw s => inputs.strategy.evaluate evaluation account = .ok raw ∧
    Sound inputs s)
  · exact yields_returns (fun _ _ returned sound => ⟨returned, sound⟩) fun _ sound => sound
  · rintro raw s ⟨returned, sound⟩
    refine ⟨?_, ?_, account, raw, returned, rfl⟩
    · apply justified_append sound
      intro executed order same
      cases same
    · exact lastEvaluation_append _

theorem yields_allocation (evaluation : Evaluation) :
    Yields (Sound inputs) (computeAllocation inputs evaluation)
      (fun allocation s => ∃ decision, Ready inputs evaluation decision s ∧
        mapDecisionToAllocation decision = .ok allocation) (Sound inputs) := by
  apply (yields_evaluate evaluation).bind
  intro decision
  exact yields_returns (fun _ _ mapped ready => ⟨decision, ready, mapped⟩) fun _ ready => ready.sound

theorem yields_plan (evaluation : Evaluation) :
    Yields (Sound inputs) (resolveStrategyPlan inputs evaluation)
      (fun plan s => ∃ decision, Ready inputs evaluation decision s ∧
        mapDecisionToRotationPlan decision = .ok plan) (Sound inputs) := by
  apply (yields_evaluate evaluation).bind
  intro decision
  apply Yields.bind (Q := fun plan s => Ready inputs evaluation decision s ∧
    mapDecisionToRotationPlan decision = .ok plan)
  · exact yields_returns (fun _ _ mapped ready => ⟨ready, mapped⟩) fun _ ready => ready.sound
  · intro plan
    apply Yields.bind (Q := fun _ s => Ready inputs evaluation decision s ∧
      mapDecisionToRotationPlan decision = .ok plan)
    · exact yields_returns (fun _ _ _ kept => kept) fun _ kept => kept.1.sound
    · intro _
      exact Yields.pure fun _ kept => ⟨decision, kept⟩

omit [CharacterTable] in
theorem floatAmounts_evaluated {runtime : ExecutionRuntime} [CharacterTable]
    (market : MarketData runtime inputs) (evaluated : Evaluated inputs evaluation decision) :
    FloatAmounts decision := by
  obtain ⟨account, raw, returned, rfl⟩ := evaluated
  exact floatAmounts_stopped (market.decisions _ _ _ returned)

/-- A leg that is given up ends in a justified state. -/
theorem Yields.settled {P : TradingState → Prop} {program : Trading α}
    (yields : Yields P program (fun _ => Ready inputs evaluation decision) (Sound inputs)) :
    Yields P program (fun _ => Sound inputs) (Sound inputs) :=
  yields.weaken (fun _ start => start) (fun _ _ ready => ready.sound) fun _ sound => sound

/-- The sells follow the sell plan and the buys the plan evaluated after them. -/
theorem rotation_sound (market : MarketData runtime inputs) :
    Yields (Sound inputs) (executeTrendRotation runtime trendUniverse inputs) (fun _ => Sound inputs)
      (Sound inputs) := by
  apply (yields_plan .sellPlan).bind
  intro plan
  apply Yields.of_exists
  intro decision
  apply Yields.bind (Q := fun _ => Sound inputs)
  · rintro s ⟨ready, mapped⟩
    refine Yields.settled (yields_leg ?_) s ready
    apply legal_frame.executeTrendSells
    intro symbol reason held qty id
    cases permitted : executionPermitted decision with
    | false =>
      rw [((rotationPlan_ok mapped).1 permitted).1] at held
      cases held
    | true =>
      exact legal_places (approved_of_permitted permitted)
        ⟨plan, symbol, reason, qty, some id, mapped, held, rfl⟩
  · intro _
    apply (yields_plan .postSellPlan).bind
    intro postSell
    apply Yields.of_exists
    rintro decision s ⟨ready, mapped⟩
    refine Yields.settled (yields_leg ?_) s ready
    apply legal_frame.executeTrendBuys
    intro symbol eligible amount qty price planned large sized id
    have amountFloat : IsBinary64 amount := by
      obtain ⟨fields, raw, stored, found, read⟩ := (rotationPlan_ok mapped).2 symbol amount planned
      apply toFloat_isBinary64 read
      rintro y rfl
      exact (floatAmounts_evaluated market ready.2.2).planned fields stored symbol y found
    have cost := sized_cost sized market.roundsDown amountFloat (market.quotes _ _ sized.quoted) large
    cases permitted : executionPermitted decision with
    | false =>
      rw [((rotationPlan_ok mapped).1 permitted).2] at eligible
      cases eligible
    | true =>
      exact legal_places (approved_of_permitted permitted)
        ⟨postSell, symbol, amount, qty, price, some id, mapped, eligible, planned, sized.quoted, cost, rfl⟩

/-- The stages after the trades place no order without a decision of their leg. -/
theorem postTrade_sound (market : MarketData runtime inputs) :
    Yields (Sound inputs) (postTradeStages runtime inputs) (fun _ => Sound inputs) (Sound inputs) := by
  apply (yields_allocation .postTrade).bind
  intro allocation
  apply Yields.of_exists
  intro decision
  apply Yields.ite
  · rintro permitted s ⟨ready, mapped⟩
    rw [(allocation_ok mapped).1] at permitted
    have frame : Frame runtime (Extends (Legal inputs .postTrade decision)) := legal_frame
    refine Yields.settled (yields_leg ?_) s ready
    apply frame.bind frame.getAccount
    intro account
    apply frame.bind
    · apply frame.executeBtcDcaCycle
      intro qty price sized id
      have cost := sized_lot_cost sized market.roundsDown market.bitcoin
        (budget_isBinary64 (floatAmounts_evaluated market ready.2.2) mapped _)
      exact legal_places (approved_of_permitted permitted)
        ⟨allocation, qty, price, some id, mapped, sized.quoted, cost, rfl⟩
    · intro _
      apply frame.bind (frame.performStage _)
      intro _
      apply frame.bind (frame.performStage _)
      intro _
      exact frame.setTradeState _
  · intro _
    exact Yields.pure fun s held => held.1.sound

/-- The fuel and trend stages start from the approved decision before the trades. -/
theorem fuelAndTrend_sound (market : MarketData runtime inputs) (approved : Approved decision) :
    Yields (Ready inputs .preTrade decision) (fuelAndTrend runtime trendUniverse inputs)
      (fun _ => Sound inputs) (Sound inputs) := by
  apply Yields.bind (Q := fun _ => Ready inputs .preTrade decision)
  · apply yields_leg
    apply legal_frame.topUpBnbFuel
    exact extends_call _ ⟨approved, .inl rfl⟩
  · intro fuelStatus
    apply Yields.ite
    · intro _
      apply Yields.bind (Q := fun _ => Sound inputs)
      · exact (rotation_sound market).weaken (fun _ ready => ready.sound) (fun _ _ sound => sound)
          fun _ sound => sound
      · intro _
        exact postTrade_sound market
    · intro _
      apply Yields.settled
      apply yields_leg
      apply Leads.ite
      · intro _
        have frame : Frame runtime (Extends (Legal inputs .preTrade decision)) := legal_frame
        apply frame.bind (frame.performStage _)
        intro _
        exact frame.setTradeState _
      · intro _
        exact fun s => ⟨[], (List.append_nil _).symm, by simp⟩

theorem permitted_sound (market : MarketData runtime inputs) (approved : Approved decision) :
    Yields (Ready inputs .preTrade decision) (permittedStages runtime trendUniverse inputs)
      (fun _ => Sound inputs) (Sound inputs) := by
  apply (yields_leg (legal_frame.performStage _)).bind
  intro _
  apply yields_getAccount.bind
  intro account
  apply Yields.bind (Q := fun _ => Ready inputs .preTrade decision)
  · exact yields_returns (fun _ _ _ ready => ready) fun _ ready => ready.sound
  intro trendDailyPnl
  apply Yields.ite
  · intro _
    exact Yields.pure fun _ ready => ready.sound
  · intro _
    apply Yields.bind (Q := fun _ => Ready inputs .preTrade decision)
    · apply yields_leg
      apply legal_frame.runDailyCircuitBreaker
      intro entry member qty
      exact legal_places approved (.inr ⟨entry, member, qty, rfl⟩)
    · intro triggered
      apply Yields.ite
      · intro _
        exact Yields.pure fun _ ready => ready.sound
      · intro _
        exact fuelAndTrend_sound market approved

/-- All orders of a cycle are justified, however it ends. -/
theorem cycle_sound (market : MarketData runtime inputs) :
    Yields (Sound inputs) (tradingCycle runtime trendUniverse inputs) (fun _ => Sound inputs)
      (Sound inputs) := by
  apply Yields.bind (Q := fun _ => Sound inputs)
  · have frame : Frame runtime (Extends Idle) := extends_frame idle_routine
    apply yields_idle
    apply Leads.ite
    · intro _
      exact frame.pure
    · intro _
      apply frame.bind
      · exact fun s => ⟨[.ownerClaim], rfl, by simp [Idle]⟩
      · intro _
        exact frame.bind frame.getAccount fun _ => frame.returns _
  · intro acquired
    apply Yields.ite
    · intro _
      apply (yields_idle ((extends_frame idle_routine).performStage _)).bind
      intro opened
      apply Yields.ite
      · intro _
        apply (yields_allocation .preTrade).bind
        intro allocation
        apply Yields.of_exists
        intro decision
        apply Yields.ite
        · rintro permitted s ⟨ready, mapped⟩
          rw [(allocation_ok mapped).1] at permitted
          exact permitted_sound market (approved_of_permitted permitted) s ready
        · intro _
          exact Yields.pure fun _ held => held.1.sound
      · intro _
        exact Yields.pure fun _ sound => sound
    · intro _
      exact Yields.pure fun _ sound => sound

/-- Whatever the verdicts of the four evaluations, each order of a cycle comes after the
approved decision of its own leg and within what that decision grants. -/
theorem orders_are_approved (market : MarketData runtime inputs) (account : Account)
    (orderSequence : ℕ) :
    Justified inputs (tradingCycle runtime trendUniverse inputs ⟨account, orderSequence, []⟩).2.effects :=
  (cycle_sound market).ended justified_nil

end Cycle

section Example

local instance : CharacterTable := asciiTable

/-- A lot of one unit. -/
def wholeUnits : PyFloat → Except PyException PyFloat
  | .finite false size =>
    if (size : ℚ) ≤ Binary64.limit then .ok (.finite false (size.num / size.den : ℕ)) else .error typeError
  | _ => .error typeError

theorem wholeUnits_ok {size qty : PyFloat} (formatted : wholeUnits size = .ok qty) :
    ∃ (m : ℚ≥0) (n : ℕ), size = .finite false m ∧ qty = .finite false n ∧ (n : ℚ≥0) ≤ m ∧
      (m : ℚ) ≤ Binary64.limit := by
  unfold wholeUnits at formatted
  split at formatted
  · rename_i m
    split_ifs at formatted with bounded
    obtain rfl := Except.ok.inj formatted
    refine ⟨m, _, rfl, rfl, ?_, bounded⟩
    calc ((m.num / m.den : ℕ) : ℚ≥0) ≤ m.num / m.den := Nat.cast_div_le
      _ = m := NNRat.num_div_den m
  · cases formatted

/-- A live runtime whose broker refuses every order. -/
def refusingRuntime : ExecutionRuntime where
  dryRun := false
  standardExecutionPermitted := true
  safeRunId := "run"
  formatQty _ size _ := wholeUnits size
  spotFree _ account := .ok account.uTotal
  submit _ account := (.error ⟨.clientCallError, "order_submission_failed"⟩, account)
  persist _ _ := .ok ()
  notify _ _ := .ok ()

theorem twenty_atLeastTwo : Nat.AtLeastTwo 20 := inferInstance
theorem hundred_atLeastTwo : Nat.AtLeastTwo 100 := inferInstance
attribute [local instance] twenty_atLeastTwo hundred_atLeastTwo

def plannedDecision (riskFlags : List String) : StrategyDecision where
  positions := []
  budgets := []
  riskFlags := riskFlags
  diagnostics := ⟨[("member_risk_assessment", .dict ⟨[("outcome", .str "APPROVE")]⟩),
    ("rotation_candidates", .dict ⟨[("ETHUSDT", .dict .empty)]⟩),
    ("planned_trend_buys", .dict ⟨[("ETHUSDT", .float (.finite false 100))]⟩),
    ("eligible_buy_symbols", .list [.str "ETHUSDT"])]⟩

/-- The evaluation after the trades rejects. -/
def plannedInputs : CycleInputs where
  strategy :=
    { evaluate := fun evaluation _ =>
        .ok (plannedDecision (if evaluation = .postTrade then ["rejected:loss"] else []))
      portfolioLossStoplossEnabled := true
      unrealizedPnlPct := fun _ _ => none
      stopLossThreshold := .zero }
  claimOwner _ := .ok true
  openingStages _ := ([], .ok true)
  prices := ⟨[("ETHUSDT", .float (.finite false 20)), ("BTCUSDT", .float (.finite false 50000))]⟩
  runtimeTrendUniverse := ⟨[("ETHUSDT", "ETH")]⟩
  btcSnapshot := ⟨.zero, .zero, .zero⟩
  fuelVal := .finite false 20
  dailyState _ := ([], .ok ())
  trendDailyPnl _ := .ok .zero
  dcaVal _ := .zero
  reconcileRuntimeCashEffects _ := ([], .ok ())
  closingStages _ := ([], .ok ())
  todayId := "20260101"

theorem ether_suffixed : ∀ symbol ∈ ["ETHUSDT"], endsWithUSDT symbol = true := by decide

def ethereumUniverse : TrendUniverse where
  symbols := ["ETHUSDT"]
  nodup := List.nodup_singleton "ETHUSDT"
  suffixed := ether_suffixed

theorem hundred_le_limit {n : ℕ} (small : n ≤ 1000000) : ((n : ℚ≥0) : ℚ) ≤ Binary64.limit := by
  have power : (1000000 : ℚ) ≤ 2 ^ 20 := by norm_num
  have cast : (n : ℚ) ≤ 1000000 := by exact_mod_cast small
  rw [NNRat.cast_natCast, Binary64.limit]
  exact (cast.trans power).trans (pow_le_pow_right₀ (by norm_num) (by norm_num))

theorem plannedInputs_quotes {symbol : String} {price : PyFloat}
    (quoted : priceOf plannedInputs.prices symbol = .ok price) :
    (symbol = "ETHUSDT" ∧ price = .finite false 20) ∨ (symbol = "BTCUSDT" ∧ price = .finite false 50000) := by
  simp only [priceOf, plannedInputs, Dict.get?, Dict.find] at quoted
  by_cases ethereum : "ETHUSDT" = symbol
  · subst ethereum
    obtain rfl := Except.ok.inj quoted
    exact .inl ⟨rfl, rfl⟩
  · by_cases bitcoin : "BTCUSDT" = symbol
    · subst bitcoin
      obtain rfl := Except.ok.inj quoted
      exact .inr ⟨rfl, rfl⟩
    · rw [if_neg ethereum, if_neg bitcoin] at quoted
      cases quoted

theorem plannedMarket : MarketData refusingRuntime plannedInputs where
  roundsDown := by
    intro symbol size account qty formatted
    obtain ⟨m, n, rfl, rfl, below, bounded⟩ := wholeUnits_ok formatted
    have cast : ((n : ℚ≥0) : ℚ) ≤ m := by exact_mod_cast below
    refine ⟨rfl, cast.trans bounded, ?_⟩
    rw [le_finite]
    simpa [PyFloat.exact] using cast
  bitcoin :=
    { lot := by
        intro size account qty formatted q same positive
        obtain ⟨m, n, -, rfl, -, -⟩ := wholeUnits_ok formatted
        obtain ⟨-, rfl⟩ := PyFloat.finite.inj same
        have one : 1 ≤ n := by exact_mod_cast positive
        have cast : (1 : ℚ) ≤ n := by exact_mod_cast one
        rw [NNRat.cast_natCast]
        exact le_trans (by norm_num [lotUnit]) cast
      quote := by
        intro price quoted
        rcases plannedInputs_quotes quoted with ⟨same, -⟩ | ⟨-, rfl⟩
        · exact absurd same (by decide)
        · exact ⟨50000, rfl, by norm_num [lotUnit]⟩ }
  quotes := by
    intro symbol price quoted
    rcases plannedInputs_quotes quoted with ⟨-, rfl⟩ | ⟨-, rfl⟩
    · exact hundred_le_limit (n := 20) (by decide)
    · exact hundred_le_limit (n := 50000) (by decide)
  decisions := by
    intro evaluation account raw returned
    obtain rfl := Except.ok.inj returned
    constructor
    · intro fields stored symbol x found
      obtain rfl : fields = ⟨[("ETHUSDT", .float (.finite false 100))]⟩ :=
        (Value.dict.inj (Option.some.inj stored)).symm
      simp only [Dict.get?, Dict.find] at found
      split_ifs at found
      obtain rfl := Value.float.inj (Option.some.inj found)
      exact hundred_le_limit (n := 100) (by decide)
    · intro name x member
      cases member

def isOrder : Effect → Bool
  | .clientCall _ _ => true
  | _ => false

/-- The planned buy is the one order of the cycle. -/
theorem orders_are_approved_planned :
    let effects := (tradingCycle refusingRuntime ethereumUniverse plannedInputs
      ⟨⟨.empty, ⟨[("ETHUSDT", .zero)]⟩, .finite false 200⟩, 0, []⟩).2.effects
    (effects.filter isOrder).length = 1 ∧ Justified plannedInputs effects :=
  ⟨by decide +kernel, orders_are_approved plannedMarket _ _⟩

end Example

end BinancePlatform.Guarantees.ApprovedOrders
