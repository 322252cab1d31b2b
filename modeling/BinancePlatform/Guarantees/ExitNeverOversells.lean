import BinancePlatform.Guarantees.AttributionReplay
import BinancePlatform.Source.ExitProposal

/-!
# An exit proposal never oversells

The proposed quantity is positive, has at most 18 decimals, is at most the attributed Spot
BTC, and its text reads back as it is. That it is worth no more than the excess over the
target is checked on rounded numbers: it holds in exact arithmetic when the excess and its
quotient by the price fit the context, or when no quantity of 18 decimals stands just above
the quotient (`Clear`).
-/

set_option autoImplicit false

namespace BinancePlatform.Guarantees.ExitNeverOversells
open BinancePlatform.Library BinancePlatform.Source BinancePlatform.Source.ExitProposal
open BinancePlatform.Guarantees.AttributionReplay (Small)

/-! ## The text -/

theorem within_stripZeros {ctx : Decimal.Context} (top : ℤ) (fuel : ℕ) {d : Decimal}
    (within : Decimal.Within ctx d) : Decimal.Within ctx (Decimal.stripZeros top fuel d) := by
  induction fuel generalizing d with
  | zero => exact within
  | succ fuel ih =>
    unfold Decimal.stripZeros
    split
    · rename_i trailing
      have tiny := within.tiny
      refine ih ⟨by dsimp only; omega, (Nat.div_le_self _ _).trans_lt within.digits, fun shorter => ?_⟩
      dsimp only at shorter ⊢
      have present : d.coeff ≠ 0 := by
        intro zero
        rw [zero] at shorter
        exact shorter rfl
      have digits := Decimal.numDigits_div (k := 1) (by simpa using Nat.dvd_of_mod_eq_zero trailing.2) present
      have := within.top present
      rw [pow_one] at digits
      omega
    · exact within

/-- A quantity of 18 decimals below ten billion keeps its value in its text. -/
theorem quantityText_denotes {quantity : Decimal} (exponent : quantity.exp = -18)
    (positive : 0 < quantity.value) (bound : quantity.value < 10 ^ 10) :
    ∃ text, quantityText quantity = .ok text ∧ Denotes (.str text) quantity.value := by
  have multiple := Decimal.value_multiple quantity
  rw [exponent] at multiple
  obtain ⟨fixed, kept, value⟩ := Decimal.fix_window defaultContext quantity (-18) 10 multiple
    (by rw [abs_of_pos positive]; exact_mod_cast bound) (by decide) (by decide) (by decide)
  have nonzero : fixed.coeff ≠ 0 := Decimal.coeff_ne_zero (value ▸ positive)
  have within : Decimal.Within defaultContext (Decimal.reduce defaultContext.emax fixed) :=
    within_stripZeros _ _ (Decimal.within_of_fix default_proper kept)
  have same : (Decimal.reduce defaultContext.emax fixed).value = quantity.value :=
    (Decimal.value_reduce _ _).trans value
  refine ⟨_, ?_, same ▸ denotes_printPlain within (same ▸ positive.ne')⟩
  rw [quantityText, Decimal.normalize, kept, Option.map_some, if_neg nonzero]
  rfl

/-! ## The excess -/

/-- The excess and its quotient fit the context, or no quantity of 18 decimals lies above the
quotient by at most three units of its 27th digit. -/
def Clear (current target price : ℚ) : Prop :=
  (Decimal.Fits defaultContext (current - target)
      ∧ Decimal.Fits defaultContext ((current - target) / price))
    ∨ ((10 : ℚ) ^ (-900000 : ℤ) ≤ current - target ∧ ∀ n : ℤ,
      n * (10 : ℚ) ^ (-18 : ℤ) ≤ (current - target) / price
        ∨ (current - target) / price * (1 + 3 * (10 : ℚ) ^ (-27 : ℤ)) < n * (10 : ℚ) ^ (-18 : ℤ))

theorem exactSub_value (a b : Decimal) : (a.exactAdd b.neg).value = a.value - b.value := by
  rw [Decimal.value_exactAdd, Decimal.value_neg, sub_eq_add_neg]

/-- The rounded quotient passes no multiple of the last decimal. -/
theorem quotient_clear {current target price excess quotient : Decimal} (more : target.value < current.value)
    (positive : 0 < price.value) (limit : price.value ≤ 10 ^ 9)
    (difference : current.sub defaultContext target = some excess)
    (divided : excess.div defaultContext price = some quotient)
    (clear : Clear current.value target.value price.value) (n : ℤ)
    (below : n * (10 : ℚ) ^ (-18 : ℤ) ≤ quotient.value) :
    n * (10 : ℚ) ^ (-18 : ℤ) ≤ (current.value - target.value) / price.value := by
  have some : 0 < current.value - target.value := sub_pos.mpr more
  rcases clear with ⟨fitsExcess, fitsQuotient⟩ | ⟨normal, gap⟩
  · -- Nothing is rounded.
    obtain ⟨kept, fixed, value⟩ := @Decimal.fix_of_fits defaultContext
      (current.exactAdd target.neg) (by rwa [exactSub_value])
    obtain rfl : kept = excess := Option.some.inj (fixed.symm.trans difference)
    rw [exactSub_value] at value
    obtain ⟨exact, found, shown⟩ := @Decimal.div_exact defaultContext kept price
      (by decide) (by rw [value]; exact some) positive (by rwa [value])
    obtain rfl : exact = quotient := Option.some.inj (found.symm.trans divided)
    rwa [shown, value] at below
  · have rounded := @Decimal.fix_relative defaultContext _ _ difference (by
      rw [exactSub_value]
      refine le_trans ?_ normal
      exact zpow_le_zpow_right₀ (by norm_num) (by decide))
    obtain ⟨sign, far⟩ := @Decimal.fix_far defaultContext _ _ (-900000) difference
      (by rw [exactSub_value, abs_of_pos some]; exact normal) (by decide) (by decide)
    have nonneg : excess.negative = false := by
      rw [sign]
      exact Decimal.negative_of_pos (by rwa [exactSub_value])
    have held : (10 : ℚ) ^ (-900000 : ℤ) ≤ excess.value := by
      rwa [abs_of_nonneg (by
        rw [Decimal.value_positive nonneg]
        exact mul_nonneg (Nat.cast_nonneg _) (Decimal.ten_zpow_pos _).le)] at far
    rw [exactSub_value] at rounded
    have positiveExcess : 0 < excess.value := (Decimal.ten_zpow_pos _).trans_le held
    have least : (defaultContext.etiny + defaultContext.prec - 1 : ℤ) = -999999 := by decide
    have upper := @Decimal.div_relative defaultContext _ _ _ divided (by decide) positiveExcess positive (by
      rw [le_div_iff₀ positive, least]
      calc 2 * (10 : ℚ) ^ (-999999 : ℤ) * price.value ≤ 10 * (10 : ℚ) ^ (-999999 : ℤ) * 10 ^ 9 := by
            gcongr
            norm_num
        _ = (10 : ℚ) ^ (1 + -999999 + 9 : ℤ) := by
            rw [zpow_add₀ (by norm_num), zpow_add₀ (by norm_num), zpow_one]
            rfl
        _ ≤ (10 : ℚ) ^ (-900000 : ℤ) := zpow_le_zpow_right₀ (by norm_num) (by norm_num)
        _ ≤ excess.value := held)
    have unit : (1 - (defaultContext.prec : ℤ)) = -27 := by decide
    have tenth : (-(defaultContext.prec : ℤ)) = -28 := by decide
    rw [unit] at rounded upper
    rw [tenth] at upper
    have chain : quotient.value ≤ (current.value - target.value) / price.value
        * (1 + 3 * (10 : ℚ) ^ (-27 : ℤ)) := by
      have ratio : excess.value / price.value
          ≤ (current.value - target.value) / price.value * (1 + (10 : ℚ) ^ (-27 : ℤ)) := by
        rw [div_mul_eq_mul_div]
        exact div_le_div_of_nonneg_right rounded positive.le
      have share := div_pos some positive
      calc quotient.value
          ≤ excess.value / price.value * (1 + (10 : ℚ) ^ (-28 : ℤ)) * (1 + (10 : ℚ) ^ (-27 : ℤ)) := upper
        _ ≤ (current.value - target.value) / price.value * (1 + (10 : ℚ) ^ (-27 : ℤ))
              * (1 + (10 : ℚ) ^ (-28 : ℤ)) * (1 + (10 : ℚ) ^ (-27 : ℤ)) := by gcongr
        _ = (current.value - target.value) / price.value * ((1 + (10 : ℚ) ^ (-27 : ℤ))
              * (1 + (10 : ℚ) ^ (-28 : ℤ)) * (1 + (10 : ℚ) ^ (-27 : ℤ))) := by ring
        _ ≤ (current.value - target.value) / price.value * (1 + 3 * (10 : ℚ) ^ (-27 : ℤ)) := by
          refine mul_le_mul_of_nonneg_left ?_ share.le
          norm_num
    rcases gap n with inside | above
    · exact inside
    · exact absurd (below.trans chain) (not_le.mpr above)

/-! ## An accepted call -/

section Accepted
variable [CharacterTable]

/-- What the checks of an accepted call establish. -/
structure Accepted (decision : Decision) (metrics : Value) (inputs : Inputs) (accepted : Checked) :
    Prop where
  owned : BtcAttribution.reconstruct inputs.evidence inputs.request = .ok accepted.owned
  plan : ∃ diagnostics parts, decision.diagnostics = .dict diagnostics ∧ metrics = .dict parts
    ∧ readPlan inputs diagnostics parts = .ok accepted.plan
  positivePrice : 0 < accepted.plan.price.value
  more : accepted.plan.target.value < accepted.plan.current.value
  proposed : proposedQuantity accepted.plan = .ok accepted.quantity
  positive : 0 < accepted.quantity.value
  within : accepted.quantity.value ≤ accepted.owned.spot.value

theorem checkPlan_ok {decision : Decision} {diagnostics metrics : Document} {plan : Plan}
    {owned : BtcAttribution.Attribution} (success : checkPlan decision diagnostics metrics plan owned = .ok ()) :
    0 < plan.price.value ∧ plan.target.value < plan.current.value := by
  obtain ⟨signs, -⟩ := require_bind success
  simp only [Bool.and_eq_true, Decimal.lt_iff, Decimal.value_zero] at signs
  exact ⟨signs.1.1.1, signs.2⟩

theorem accepted_of_checked {decision : Decision} {metrics : Value} {inputs : Inputs} {accepted : Checked}
    (success : checkedQuantity decision metrics inputs = .ok accepted) :
    Accepted decision metrics inputs accepted := by
  obtain ⟨-, success⟩ := require_bind success
  obtain ⟨owned, reconstructed, success⟩ := bind_ok success
  obtain ⟨diagnostics, mapped, success⟩ := bind_ok success
  obtain ⟨parts, mappedMetrics, success⟩ := bind_ok success
  obtain ⟨-, -, success⟩ := bind_ok success
  obtain ⟨plan, read, success⟩ := bind_ok success
  obtain ⟨⟨⟩, compared, success⟩ := bind_ok success
  obtain ⟨quantity, proposed, success⟩ := bind_ok success
  obtain ⟨bounds, success⟩ := require_bind success
  obtain ⟨proceeds, -, success⟩ := bind_ok success
  obtain ⟨excess, -, success⟩ := bind_ok success
  obtain ⟨-, success⟩ := require_bind success
  cases success
  obtain ⟨price, more⟩ := checkPlan_ok compared
  rw [Bool.and_eq_true, Decimal.lt_iff, Decimal.le_iff, Decimal.value_zero] at bounds
  exact ⟨reconstructed, ⟨diagnostics, parts, asMapping_ok mapped, asMapping_ok mappedMetrics, read⟩,
    price, more, proposed, bounds.1, bounds.2⟩

theorem decimalNumber_bounded {value : Value} {d : Decimal} (success : decimalNumber value = .ok d) :
    d.value ≤ 10 ^ 9 := by
  have limit : decimalLimit.value = 10 ^ 9 := by norm_num [decimalLimit, Decimal.value, Decimal.signed]
  unfold decimalNumber at success
  split at success
  case h_4 => cases success
  all_goals
    split at success
    · obtain ⟨bounds, success⟩ := require_bind success
      cases success
      rw [Bool.and_eq_true, Decimal.le_iff, Decimal.le_iff, limit] at bounds
      exact bounds.2
    · cases success

theorem readPlan_price {inputs : Inputs} {diagnostics metrics : Document} {plan : Plan}
    (success : readPlan inputs diagnostics metrics = .ok plan) : plan.price.value ≤ 10 ^ 9 := by
  obtain ⟨current, -, success⟩ := bind_ok success
  obtain ⟨target, -, success⟩ := bind_ok success
  obtain ⟨equity, -, success⟩ := bind_ok success
  obtain ⟨ratio, -, success⟩ := bind_ok success
  obtain ⟨price, read, success⟩ := bind_ok success
  obtain ⟨account, -, success⟩ := bind_ok success
  obtain ⟨parts, -, success⟩ := bind_ok success
  obtain ⟨-, success⟩ := require_bind success
  obtain ⟨balance, -, success⟩ := bind_ok success
  obtain ⟨captured, -, success⟩ := bind_ok success
  obtain ⟨free, -, success⟩ := bind_ok success
  obtain ⟨locked, -, success⟩ := bind_ok success
  obtain ⟨earn, -, success⟩ := bind_ok success
  cases success
  exact decimalNumber_bounded read

/-- What a returned proposal guarantees. -/
structure Safe (accepted : Checked) (proposal : Document) : Prop where
  positive : 0 < accepted.quantity.value
  decimals : Decimal.Multiple (-18) accepted.quantity.value
  owned : accepted.quantity.value ≤ accepted.owned.spot.value
  text : Denotes (pyGet proposal "quantity") accepted.quantity.value

/-- The exact proceeds are at most the exact excess. -/
def NoOversell (accepted : Checked) : Prop :=
  accepted.quantity.value * accepted.plan.price.value
    ≤ accepted.plan.current.value - accepted.plan.target.value

theorem noOversell_of_clear {decision : Decision} {metrics : Value} {inputs : Inputs} {accepted : Checked}
    (checks : Accepted decision metrics inputs accepted)
    (clear : Clear accepted.plan.current.value accepted.plan.target.value accepted.plan.price.value) :
    NoOversell accepted := by
  obtain ⟨diagnostics, parts, -, -, read⟩ := checks.plan
  obtain ⟨excess, difference, proposed⟩ := bind_ok checks.proposed
  have subtracted := checked_ok difference
  split at proposed
  case h_2 => cases proposed
  rename_i quantity found
  cases proposed
  obtain ⟨quotient, divided, cut⟩ := Option.bind_eq_some_iff.mp found
  obtain ⟨exponent, sign⟩ := Decimal.quantizeDown_shape cut
  have nonneg : quotient.negative = false := sign ▸ Decimal.negative_of_pos checks.positive
  have multiple : accepted.quantity.value = accepted.quantity.signed * (10 : ℚ) ^ (-18 : ℤ) := by
    rw [Decimal.value, exponent]
  have below := Decimal.quantizeDown_le cut nonneg
  rw [multiple] at below
  have inside := quotient_clear checks.more checks.positivePrice (readPlan_price read) subtracted divided
    clear _ below
  rw [NoOversell, multiple]
  exact (le_div_iff₀ checks.positivePrice).mp inside

/-- A returned proposal is safe, and sells for no more than the excess where the roundings
are clear of the next quantity. -/
theorem exit_never_oversells {decision : Decision} {metrics : Value} {inputs : Inputs} {proposal : Document}
    (success : approvedExitProposal decision metrics inputs = .ok proposal) :
    ∃ accepted, Accepted decision metrics inputs accepted ∧ Safe accepted proposal
      ∧ (Clear accepted.plan.current.value accepted.plan.target.value accepted.plan.price.value →
        NoOversell accepted) := by
  obtain ⟨accepted, passed, success⟩ := bind_ok success
  obtain ⟨text, shown, success⟩ := bind_ok success
  cases success
  have checks := accepted_of_checked passed
  have exponent : accepted.quantity.exp = -18 := by
    obtain ⟨excess, -, proposed⟩ := bind_ok checks.proposed
    split at proposed
    · rename_i quantity found
      cases proposed
      obtain ⟨quotient, -, cut⟩ := Option.bind_eq_some_iff.mp found
      exact (Decimal.quantizeDown_shape cut).1
    · cases proposed
  have spot := (AttributionReplay.reconstruct_small checks.owned).bounded.2
  obtain ⟨printed, found, denotes⟩ := quantityText_denotes exponent checks.positive
    (by linarith [checks.within])
  obtain rfl : printed = text := Except.ok.inj (found.symm.trans shown)
  refine ⟨accepted, checks, ⟨checks.positive, ?_, checks.within, denotes⟩, noOversell_of_clear checks⟩
  exact exponent ▸ Decimal.value_multiple accepted.quantity

end Accepted

/-! ## Samples -/

local instance : CharacterTable := asciiTable

def heldSnapshot (quantity : String) : Value :=
  .dict ⟨[("contract_version", .str "btc-attribution/v1"), ("account_scope", .str "main"),
    ("account_selector", .str "primary"), ("strategy_profile", .str "crypto_btc_dca"),
    ("source", .str "ledger"), ("source_version", .str "1"),
    ("opening_at", .str "2026-01-01T00:00:00+00:00"),
    ("observed_through", .str "2026-01-03T00:00:00+00:00"),
    ("available_at", .str "2026-01-03T00:00:00+00:00"), ("complete", .bool true),
    ("opening_spot_btc", .str quantity), ("opening_earn_btc", .str "0"), ("fills", .list []),
    ("transfers", .list []), ("unsettled_orders", .list []),
    ("observed_spot_free_btc", .str quantity), ("observed_earn_btc", .str "0")]⟩

/-- A plan at the price of one that reduces a value to the target. -/
def sellDecision (value target : Value) : Decision where
  diagnostics := .dict ⟨[("zscore_exit", .dict ⟨[("applied", .bool true), ("route", .str "risk_off")]⟩),
    ("btc_value_usd", value), ("target_btc_value_usd", target), ("btc_target_ratio", .int 0),
    ("planned_investment_usd", .int 0)]⟩
  positions := [⟨.str "BTCUSDT", .int 0⟩]
  budgets := [⟨.str "btc_dca_pool", .str "BTCUSDT", .int 0⟩]
  riskFlags := []

def sellMetrics (value : Value) : Value := .dict ⟨[("total_equity", .int 1), ("dca_value", value)]⟩

def sellInputs (quantity : ℤ) (text : String) : Inputs where
  price := .int 1
  accountBtc := .int quantity
  evidence := heldSnapshot text
  brokerParts := .dict ⟨[("spot_free", .str text), ("spot_locked", .str "0"), ("earn", .str "0"),
    ("managed_total", .int quantity)]⟩
  request := ⟨.str "2026-01-03T00:00:00+00:00", .str "main", .str "primary"⟩

/-- One bitcoin at the price of three, to be reduced to half of an equity of four. -/
def halfDecision : Decision where
  diagnostics := .dict ⟨[("zscore_exit", .dict ⟨[("applied", .bool true), ("route", .str "risk_reduced")]⟩),
    ("btc_value_usd", .int 3), ("target_btc_value_usd", .int 2), ("btc_target_ratio", .str "0.5"),
    ("planned_investment_usd", .int 0)]⟩
  positions := [⟨.str "BTCUSDT", .str "0.5"⟩]
  budgets := [⟨.str "btc_dca_pool", .str "BTCUSDT", .int 0⟩]
  riskFlags := []

def halfMetrics : Value := .dict ⟨[("total_equity", .int 4), ("dca_value", .int 3)]⟩

def halfInputs : Inputs := { sellInputs 1 "1" with price := .int 3 }

theorem clear_two : Clear 2 0 1 := by
  refine .inl ⟨⟨0, by decide, by decide, ⟨2, by norm_num⟩, ?_⟩, ⟨0, by decide, by decide, ⟨2, by norm_num⟩, ?_⟩⟩
  all_goals norm_num [defaultContext]

/-- A third has no finite text, and no quantity lies just above it. -/
theorem clear_third : Clear 3 2 3 := by
  have tiny : (10 : ℚ) ^ (-900000 : ℤ) ≤ 10 ^ (0 : ℤ) := zpow_le_zpow_right₀ (by norm_num) (by norm_num)
  refine .inr ⟨tiny.trans (by norm_num), fun n => ?_⟩
  by_cases below : n ≤ 333333333333333333
  · have few : (n : ℚ) ≤ 333333333333333333 := by exact_mod_cast below
    left
    norm_num
    linarith
  · have many : (333333333333333334 : ℚ) ≤ n := by exact_mod_cast (not_le.mp below)
    right
    norm_num
    linarith

/-- An excess that the context holds exactly, and one whose quotient it rounds. -/
theorem exit_never_oversells_sample :
    (∃ proposal accepted, approvedExitProposal (sellDecision (.int 2) (.int 0)) (sellMetrics (.int 2))
        (sellInputs 2 "2") = .ok proposal ∧ Safe accepted proposal ∧ NoOversell accepted)
    ∧ ∃ proposal accepted, approvedExitProposal halfDecision halfMetrics halfInputs = .ok proposal
        ∧ Safe accepted proposal ∧ NoOversell accepted := by
  have sample : ∀ (decision : Decision) (metrics : Value) (inputs : Inputs) (current target price : Decimal),
      (approvedExitProposal decision metrics inputs).toOption.isSome = true →
      (∀ diagnostics parts, decision.diagnostics = .dict diagnostics → metrics = .dict parts →
        (readPlan inputs diagnostics parts).toOption.any (fun plan => decide
          (plan.current = current ∧ plan.target = target ∧ plan.price = price)) = true) →
      Clear current.value target.value price.value →
      ∃ proposal accepted, approvedExitProposal decision metrics inputs = .ok proposal
        ∧ Safe accepted proposal ∧ NoOversell accepted := by
    intro decision metrics inputs current target price returned numbers clear
    cases outcome : approvedExitProposal decision metrics inputs with
    | error raised =>
      rw [outcome] at returned
      cases returned
    | ok proposal =>
      obtain ⟨accepted, checks, safe, exact⟩ := exit_never_oversells outcome
      refine ⟨proposal, accepted, rfl, safe, exact ?_⟩
      obtain ⟨diagnostics, parts, isDiagnostics, isMetrics, read⟩ := checks.plan
      have shown := numbers diagnostics parts isDiagnostics isMetrics
      rw [read] at shown
      obtain ⟨isCurrent, isTarget, isPrice⟩ := of_decide_eq_true shown
      rwa [isCurrent, isTarget, isPrice]
  constructor
  · refine sample _ _ _ ⟨false, 2, 0⟩ ⟨false, 0, 0⟩ ⟨false, 1, 0⟩ (by decide +kernel) ?_
      (by simpa [Decimal.value, Decimal.signed] using clear_two)
    rintro _ _ ⟨⟩ ⟨⟩
    decide +kernel
  · refine sample _ _ _ ⟨false, 3, 0⟩ ⟨false, 2, 0⟩ ⟨false, 3, 0⟩ (by decide +kernel) ?_
      (by simpa [Decimal.value, Decimal.signed] using clear_third)
    rintro _ _ ⟨⟩ ⟨⟩
    decide +kernel

theorem roundedQuantity : (checkedQuantity (sellDecision (.int 1000000000) (.str "1e-20"))
    (sellMetrics (.int 1000000000)) (sellInputs 1000000000 "1000000000")).toOption.any
      (fun accepted => decide (accepted.quantity = ⟨false, 10 ^ 27, -18⟩
        ∧ accepted.plan.current = ⟨false, 1000000000, 0⟩ ∧ accepted.plan.target = ⟨false, 1, -20⟩
        ∧ accepted.plan.price = ⟨false, 1, 0⟩)) = true := by
  decide +kernel

theorem roundedProposal : (approvedExitProposal (sellDecision (.int 1000000000) (.str "1e-20"))
    (sellMetrics (.int 1000000000)) (sellInputs 1000000000 "1000000000")).toOption.isSome = true := by
  decide +kernel

/-- The excess of a billion less 1e-20 is rounded up to a billion and sold whole. -/
theorem oversold_by_rounding :
    ¬ ∀ [CharacterTable] (decision : Decision) (metrics : Value) (inputs : Inputs)
      (proposal : Document) (accepted : Checked),
      approvedExitProposal decision metrics inputs = .ok proposal →
      checkedQuantity decision metrics inputs = .ok accepted → NoOversell accepted := by
  intro never
  have returned := roundedProposal
  have quantity := roundedQuantity
  cases outcome : approvedExitProposal (sellDecision (.int 1000000000) (.str "1e-20"))
      (sellMetrics (.int 1000000000)) (sellInputs 1000000000 "1000000000") with
  | error raised =>
    rw [outcome] at returned
    cases returned
  | ok proposal =>
    obtain ⟨accepted, passed, -⟩ := bind_ok outcome
    have bound := never _ _ _ proposal accepted outcome passed
    rw [passed] at quantity
    obtain ⟨sold, current, target, price⟩ := of_decide_eq_true quantity
    rw [NoOversell, sold, current, target, price] at bound
    norm_num [Decimal.value, Decimal.signed] at bound

end BinancePlatform.Guarantees.ExitNeverOversells
