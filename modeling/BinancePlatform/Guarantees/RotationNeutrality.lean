import BinancePlatform.Guarantees.FillConservation
import BinancePlatform.Library.Runs
import BinancePlatform.Source.TrendDay

/-!
# Rotation and the trend PnL of a day

From the daily reset on, the risk base is the running maximum of the opening base and
what is invested above it. A fill at its mark moves the numerator of the trend PnL by its
fees, each once, unless the asset of a third fee is held in the trend universe: the
balance then falls by the fee and the fee is deducted again. The clamp of an overdrawn
traded holding, of at most `1e-10`, is the only other deviation.

* The reset opens the day (`opened_daily`), and each step keeps the base and the marks
  (`daily_step`, `riskBase_grows`, `riskBase_run`).
* A fill whose third fees lie outside the universe is neutral (`numerator_filled`,
  `rotation_neutral`); a fee in a held trend asset is counted twice
  (`third_fee_counted_twice`).

Amounts are elements of an ordered field: the rounding of floats is left out here.
-/

set_option autoImplicit false

namespace BinancePlatform.Guarantees.RotationNeutrality
open BinancePlatform.Library BinancePlatform.Source FillConservation

variable {K : Type} [Field K] [LinearOrder K]

/-! ## A day of fills and marks -/

structure TrendDay (K : Type) where
  account : Exact.TrendAccount K
  prices : Document

inductive TrendEvent (K : Type) where
  | filled (fill : Exact.Fill K) (side symbol : String)
  | marked (prices : Document)

section Day
variable (read : Value → Option K) (symbols : List String)

def marks (day : TrendDay K) : String → K := priceOf read day.prices

/-- The marked trend holdings. -/
def TrendDay.trendVal (day : TrendDay K) : K :=
  Exact.trendVal symbols day.account.balances (marks read day)

/-- The numerator of the trend PnL. -/
def TrendDay.numerator (day : TrendDay K) : K :=
  day.trendVal read symbols + day.account.daily.dailyTrendCashFlow
    - day.account.daily.dailyTrendThirdFee - day.account.daily.dailyTrendEquityBase

variable [CharacterTable]

/-- An accounted fill of a trend symbol, or new prices. -/
inductive TrendStep : TrendDay K → TrendEvent K → TrendDay K → Prop where
  | filled {day : TrendDay K} {response : Value} {symbol side : String} {fill : Exact.Fill K}
      {account : Exact.TrendAccount K} (traded : symbol ∈ symbols)
      (parsed : Exact.parseFilledOrder read response symbol side day.prices = .ok fill)
      (accounted : Exact.accountTrendFill day.account fill side symbol = .ok account) :
      TrendStep day (.filled fill side symbol) { day with account }
  | marked {day : TrendDay K} {prices : Document} : TrendStep day (.marked prices) { day with prices }

/-- A day right after `maybe_reset_daily_state` has reset it. -/
structure Opened (day : TrendDay K) : Prop where
  reset : ∃ (before : DailyState K) (today : String) (totalEquity : K),
    maybeResetDailyState before today totalEquity (day.trendVal read symbols)
      = .ok (day.account.daily, true)
  held : ∀ symbol, 0 ≤ (day.account.balances.get? symbol).getD 0
  valued : 0 ≤ day.trendVal read symbols

end Day

/-- The quote quantity that a fill moves into or out of the trend. -/
def principalOf : TrendEvent K → K
  | .filled fill side _ => if fill.quoteDelta side < 0 then fill.quoteQty else -fill.quoteQty
  | .marked _ => 0

def netInvested (events : List (TrendEvent K)) : K := (events.map principalOf).sum

/-- The base is reached after some of the events and exceeded after none. -/
structure RunningMaximum (openingBase : K) (events : List (TrendEvent K)) (base : K) : Prop where
  reached : ∃ front, front <+: events ∧ base = openingBase + max 0 (netInvested front)
  bound : ∀ front, front <+: events → openingBase + max 0 (netInvested front) ≤ base

/-- The fees of a fill, each at its mark. -/
def feesOf (price : String → K) (fill : Exact.Fill K) (symbol : String) : K :=
  fill.baseFee * price symbol + fill.quoteFee + fill.thirdFees.total price

/-- No third fee is taken from a holding of the trend universe. -/
def FeesApart (symbols : List String) (fill : Exact.Fill K) : Prop :=
  ∀ fee ∈ fill.thirdFees.items, fee.1 ∈ symbols → fee.2 = 0

/-- The traded holding after the fill, before the clamp. -/
def tradedAfter (day : TrendDay K) (fill : Exact.Fill K) (side symbol : String) : K :=
  (day.account.balances.get? symbol).getD 0 + fill.baseDelta side

/-! ## The risk base -/

/-- What an accounted fill writes. -/
theorem accountTrendFill_ok {account after : Exact.TrendAccount K} {fill : Exact.Fill K}
    {side symbol : String} (accounted : Exact.accountTrendFill account fill side symbol = .ok after) :
    Applied fill side symbol account.balances after.balances
      ∧ after.daily = recordTrendFill account.daily ⟨fill.quoteQty, fill.thirdFeeUsdt⟩
        (fill.quoteDelta side) := by
  unfold Exact.accountTrendFill at accounted
  split at accounted
  next uTotal quoteDelta balances booked =>
    cases accounted
    obtain ⟨same, applied⟩ := applyFillBalances_ok booked
    cases same
    exact ⟨applied, rfl⟩
  next => cases accounted

theorem netInvested_concat (events : List (TrendEvent K)) (event : TrendEvent K) :
    netInvested (events ++ [event]) = netInvested events + principalOf event := by
  rw [netInvested, netInvested, List.map_append, List.sum_append, List.map_singleton,
    List.sum_singleton]

/-- The reset opens the day with nothing invested and the base as risk base. -/
theorem opened_daily {read : Value → Option K} {symbols : List String} {first : TrendDay K}
    (opened : Opened read symbols first) :
    first.account.daily.dailyTrendNetInvested = 0
      ∧ first.account.daily.dailyTrendRiskBase = first.account.daily.dailyTrendEquityBase := by
  obtain ⟨before, today, totalEquity, reset⟩ := opened.reset
  unfold maybeResetDailyState at reset
  split_ifs at reset
  · have daily := congrArg Prod.fst (Except.ok.inj reset)
    dsimp only at daily
    rw [← daily]
    exact ⟨rfl, max_eq_right opened.valued⟩
  · cases reset

section Risk
variable [CharacterTable] {read : Value → Option K} {symbols : List String}
  {first last day next : TrendDay K} {event : TrendEvent K} {events : List (TrendEvent K)}

/-- A fill adds its principal to what is invested, and the risk base is raised to it; a mark
changes neither. -/
theorem daily_step (step : TrendStep read symbols day event next) :
    next.account.daily.dailyTrendEquityBase = day.account.daily.dailyTrendEquityBase
      ∧ next.account.daily.dailyTrendNetInvested
        = day.account.daily.dailyTrendNetInvested + principalOf event
      ∧ (next.account.daily.dailyTrendRiskBase = max day.account.daily.dailyTrendRiskBase
          (day.account.daily.dailyTrendEquityBase + max 0 next.account.daily.dailyTrendNetInvested)
        ∨ principalOf event = 0
          ∧ next.account.daily.dailyTrendRiskBase = day.account.daily.dailyTrendRiskBase) := by
  cases step with
  | filled traded parsed accounted =>
    obtain ⟨-, daily⟩ := accountTrendFill_ok accounted
    dsimp only
    rw [daily]
    exact ⟨rfl, rfl, .inl rfl⟩
  | marked => exact ⟨rfl, (add_zero _).symm, .inr ⟨rfl, rfl⟩⟩

/-- The risk base never falls. -/
theorem riskBase_grows (step : TrendStep read symbols day event next) :
    day.account.daily.dailyTrendRiskBase ≤ next.account.daily.dailyTrendRiskBase := by
  rcases (daily_step step).2.2 with raised | ⟨-, same⟩
  · exact raised ▸ le_max_left _ _
  · exact same.ge

/-- From the reset on, the risk base is the running maximum of what is at risk. -/
theorem riskBase_run (opened : Opened read symbols first)
    (run : Run (TrendStep read symbols) first events last) :
    last.account.daily.dailyTrendEquityBase = first.account.daily.dailyTrendEquityBase
      ∧ last.account.daily.dailyTrendNetInvested = netInvested events
      ∧ RunningMaximum first.account.daily.dailyTrendEquityBase events
        last.account.daily.dailyTrendRiskBase := by
  obtain ⟨untouched, initial⟩ := opened_daily opened
  induction run with
  | start =>
    refine ⟨rfl, untouched, ⟨[], List.prefix_refl _, ?_⟩, fun front isPrefix => ?_⟩
    · rw [initial]
      simp [netInvested]
    · rw [List.prefix_nil.mp isPrefix, initial]
      simp [netInvested]
  | @next events event before after earlier taken ih =>
    obtain ⟨base, net, risk⟩ := ih
    obtain ⟨baseNext, netNext, riskNext⟩ := daily_step taken
    have invested : after.account.daily.dailyTrendNetInvested = netInvested (events ++ [event]) := by
      rw [netNext, net, netInvested_concat]
    refine ⟨baseNext.trans base, invested, ?_⟩
    obtain ⟨front, isPrefix, attained⟩ := risk.reached
    rw [base, invested] at riskNext
    rcases riskNext with raised | ⟨still, same⟩
    · constructor
      · rcases max_choice before.account.daily.dailyTrendRiskBase
          (first.account.daily.dailyTrendEquityBase + max 0 (netInvested (events ++ [event]))) with
          kept | grown
        · exact ⟨front, isPrefix.trans (List.prefix_append _ _), raised.trans (kept.trans attained)⟩
        · exact ⟨events ++ [event], List.prefix_refl _, raised.trans grown⟩
      · intro other isPrefix
        rw [raised]
        rcases List.prefix_concat_iff.mp isPrefix with rfl | shorter
        · exact le_max_right _ _
        · exact (risk.bound other shorter).trans (le_max_left _ _)
    · constructor
      · exact ⟨front, isPrefix.trans (List.prefix_append _ _), same.trans attained⟩
      · intro other isPrefix
        rw [same]
        rcases List.prefix_concat_iff.mp isPrefix with rfl | shorter
        · rw [netInvested_concat, still, add_zero]
          exact risk.bound events (List.prefix_refl _)
        · exact risk.bound other shorter

end Risk

/-! ## The numerator -/

/-- A change of one holding moves the trend value by its marked change. -/
theorem trendVal_single {K : Type} [Field K] {symbols : List String} {before after : Dict String K} (price : String → K)
    {symbol : String}
    (distinct : symbols.Nodup) (traded : symbol ∈ symbols)
    (others : ∀ other ∈ symbols, other ≠ symbol →
      (after.get? other).getD 0 = (before.get? other).getD 0) :
    Exact.trendVal symbols after price = Exact.trendVal symbols before price
      + ((after.get? symbol).getD 0 - (before.get? symbol).getD 0) * price symbol := by
  have single : (symbols.map fun s =>
      ((after.get? s).getD 0 - (before.get? s).getD 0) * price s).sum
        = ((after.get? symbol).getD 0 - (before.get? symbol).getD 0) * price symbol := by
    rw [List.sum_map_eq_nsmul_single symbol _ fun other apart member => by
      rw [others other member apart, sub_self, zero_mul], distinct.count, if_pos traded, one_nsmul]
  rw [← single, Exact.trendVal, Exact.trendVal, ← List.sum_map_add]
  refine congrArg List.sum (List.map_congr_left fun s _ => ?_)
  ring

theorem computeDailyPnls_numerator {read : Value → Option K} {symbols : List String} {day : TrendDay K}
    {totalEquity : K} (risk : 0 < day.account.daily.dailyTrendRiskBase) :
    ∃ dailyPnl, computeDailyPnls day.account.daily totalEquity (day.trendVal read symbols)
      = .ok (dailyPnl, day.numerator read symbols / day.account.daily.dailyTrendRiskBase) := by
  unfold computeDailyPnls
  dsimp only
  rw [if_neg (not_le.mpr risk)]
  exact ⟨_, rfl⟩

section Numerator
variable [CharacterTable] {read : Value → Option K} {symbols : List String}
  {first last day next : TrendDay K} {event : TrendEvent K} {events : List (TrendEvent K)}

/-- No balance is negative. -/
def Held (day : TrendDay K) : Prop := ∀ symbol, 0 ≤ (day.account.balances.get? symbol).getD 0

theorem held_step (held : Held day) (step : TrendStep read symbols day event next) : Held next := by
  cases step with
  | @filled response symbol side fill account traded parsed accounted =>
    obtain ⟨applied, -⟩ := accountTrendFill_ok accounted
    intro other
    dsimp only
    by_cases here : other = symbol
    · rw [here, applied.traded (parseFilledOrder_accepted parsed).otherAssets]
      exact le_max_left _ _
    · cases charged : fill.thirdFees.get? other with
      | none =>
        rw [applied.other here charged]
        exact held other
      | some qty =>
        rw [applied.fee charged]
        exact le_max_left _ _
  | marked => exact held

/-- A fill whose third fees are apart from the holdings counts each fee once. -/
theorem numerator_filled {response : Value} {symbol side : String} {fill : Exact.Fill K}
    {account : Exact.TrendAccount K} (distinct : symbols.Nodup) (held : Held day)
    (traded : symbol ∈ symbols)
    (parsed : Exact.parseFilledOrder read response symbol side day.prices = .ok fill)
    (accounted : Exact.accountTrendFill day.account fill side symbol = .ok account)
    (apart : FeesApart symbols fill) :
    TrendDay.numerator read symbols { day with account }
      = day.numerator read symbols + gain (marks read day) fill side symbol
        + clamped (tradedAfter day fill side symbol) * marks read day symbol := by
  have accepted := parseFilledOrder_accepted parsed
  obtain ⟨applied, daily⟩ := accountTrendFill_ok accounted
  have kept : ∀ other ∈ symbols, other ≠ symbol →
      (account.balances.get? other).getD 0 = (day.account.balances.get? other).getD 0 := by
    intro other member notTraded
    cases charged : fill.thirdFees.get? other with
    | none => rw [applied.other notTraded charged]
    | some qty =>
      have free : qty = 0 := apart (other, qty) ((Dict.mem_items _ _ _).mpr charged) member
      rw [applied.fee charged, free, Option.getD_some, afterFee, sub_zero]
      exact max_eq_right (held other)
  have moved := trendVal_single (marks read day) distinct traded kept
  rw [applied.traded accepted.otherAssets, Option.getD_some] at moved
  have average : fill.executedQty * fill.averagePrice = fill.quoteQty := by
    rw [accepted.average]
    have := accepted.executed.ne'
    field_simp
  have same : marks read { day with account } = marks read day := rfl
  rw [TrendDay.numerator, TrendDay.numerator, TrendDay.trendVal, TrendDay.trendVal, same]
  dsimp only
  rw [moved, daily, gain, clamped, tradedAfter]
  simp only [recordTrendFill, Exact.Fill.quoteDelta, ← average]
  by_cases sells : side = "SELL"
  · simp only [Exact.Fill.baseDelta, if_pos sells]
    ring
  · simp only [Exact.Fill.baseDelta, if_neg sells]
    ring

/-- What holds of a day after any of its events, and of the event that follows. -/
structure Neutral (read : Value → Option K) (symbols : List String) (first : TrendDay K)
    (events : List (TrendEvent K)) (day : TrendDay K) : Prop where
  running : RunningMaximum first.account.daily.dailyTrendEquityBase events
    day.account.daily.dailyTrendRiskBase
  grows : ∀ event next, TrendStep read symbols day event next →
    day.account.daily.dailyTrendRiskBase ≤ next.account.daily.dailyTrendRiskBase
  filled : ∀ fill side symbol next, TrendStep read symbols day (.filled fill side symbol) next →
    FeesApart symbols fill → fill.averagePrice = marks read day symbol →
    ∃ clamp : K, 0 ≤ clamp ∧ clamp ≤ 1 / 10 ^ 10
      ∧ (0 ≤ tradedAfter day fill side symbol → clamp = 0)
      ∧ next.numerator read symbols = day.numerator read symbols
        - feesOf (marks read day) fill symbol + clamp * marks read day symbol
  marked : ∀ prices next, TrendStep read symbols day (.marked prices) next →
    next.numerator read symbols = day.numerator read symbols
      + (Exact.trendVal symbols day.account.balances (priceOf read prices) - day.trendVal read symbols)
  pnl : 0 < day.account.daily.dailyTrendRiskBase → ∀ totalEquity, ∃ dailyPnl,
    computeDailyPnls day.account.daily totalEquity (day.trendVal read symbols)
      = .ok (dailyPnl, day.numerator read symbols / day.account.daily.dailyTrendRiskBase)

/-- Over every run of a day, each fill whose third fees are apart from the trend holdings
counts its fees once, marks move the numerator with the holdings, and the risk base is
the running maximum. -/
theorem rotation_neutral [IsStrictOrderedRing K] (distinct : symbols.Nodup) (opened : Opened read symbols first)
    (run : Run (TrendStep read symbols) first events last) : Neutral read symbols first events last where
  running := (riskBase_run opened run).2.2
  grows _ _ := riskBase_grows
  filled fill side symbol next step apart atMark := by
    have held : Held last := run.invariant opened.held fun _ _ _ => held_step
    cases step with
    | filled traded parsed accounted =>
      have bounds := clamped_bounds (accountTrendFill_ok accounted).1.covered
      refine ⟨clamped (tradedAfter last fill side symbol), bounds.1, bounds.2, fun covers => ?_, ?_⟩
      · rw [clamped, max_eq_right covers, sub_self]
      · rw [numerator_filled distinct held traded parsed accounted apart, gain, atMark,
          (parseFilledOrder_accepted parsed).thirdFeeUsdt, feesOf]
        change _ + (_ - _ - _ - Dict.total (marks read last) fill.thirdFees) + _ = _
        ring
  marked prices next step := by
    cases step
    rw [TrendDay.numerator, TrendDay.numerator, TrendDay.trendVal, TrendDay.trendVal]
    change Exact.trendVal symbols last.account.balances (priceOf read prices) + _ - _ - _ = _
    ring
  pnl risk _ := computeDailyPnls_numerator risk

end Numerator

/-! ## A fee in BNB -/

section Example
local instance : CharacterTable := asciiTable

def buyAtMark : Value := .dict ⟨[("status", .str "FILLED"), ("executedQty", .str "2"),
  ("cummulativeQuoteQty", .str "200"), ("fills", .list [.dict ⟨[("price", .str "100"), ("qty", .str "2"),
    ("commission", .str "0.5"), ("commissionAsset", .str "BNB")]⟩])]⟩

def fillAtMark : Exact.Fill ℚ := ⟨2, 200, 100, "ETH", 0, 0, ⟨[("BNBUSDT", 1 / 2)]⟩, 4⟩

theorem buyAtMark_parsed : Exact.parseFilledOrder Exact.floatValue buyAtMark "ETHUSDT" "BUY" etherPrices
    = .ok fillAtMark := by decide +kernel

def resetDaily (trend : ℚ) : DailyState ℚ := ⟨0, trend, 0, 0, max 0 trend, 0, 0, "2026-09-12", false⟩

def etherDay (trend : ℚ) : TrendDay ℚ := ⟨⟨resetDaily trend, etherBalances, 500⟩, etherPrices⟩

def filledDay (trend : ℚ) : TrendDay ℚ :=
  ⟨⟨⟨0, trend, -200, 200, trend + 200, 4, 0, "2026-09-12", false⟩,
    ⟨[("ETHUSDT", 3), ("BNBUSDT", 5 / 2)]⟩, 300⟩, etherPrices⟩

theorem etherDay_opened {symbols : List String} {trend : ℚ} (nonneg : 0 ≤ trend)
    (valued : (etherDay trend).trendVal Exact.floatValue symbols = trend) :
    Opened Exact.floatValue symbols (etherDay trend) where
  reset := ⟨resetDaily 0 |> fun daily => { daily with lastResetDate := "" }, "2026-09-12", 0, by
    rw [valued]
    rfl⟩
  held symbol := by
    change 0 ≤ (etherBalances.get? symbol).getD 0
    simp only [etherBalances, Dict.get?, Dict.find]
    split_ifs <;> simp
  valued := valued.symm ▸ nonneg

/-- After a second buy. -/
def refilledDay : TrendDay ℚ :=
  ⟨⟨⟨0, 100, -400, 400, 500, 8, 0, "2026-09-12", false⟩,
    ⟨[("ETHUSDT", 5), ("BNBUSDT", 2)]⟩, 100⟩, etherPrices⟩

/-- Two buys, with BNB outside the trend universe. -/
theorem rotation_neutral_ether : Neutral Exact.floatValue ["ETHUSDT"] (etherDay 100)
    (([] ++ [.filled fillAtMark "BUY" "ETHUSDT"]) ++ [.filled fillAtMark "BUY" "ETHUSDT"]) refilledDay := by
  have accounted : Exact.accountTrendFill (etherDay 100).account fillAtMark "BUY" "ETHUSDT"
      = .ok (filledDay 100).account := by decide +kernel
  have again : Exact.accountTrendFill (filledDay 100).account fillAtMark "BUY" "ETHUSDT"
      = .ok refilledDay.account := by decide +kernel
  have valued : (etherDay 100).trendVal Exact.floatValue ["ETHUSDT"] = 100 := by decide +kernel
  exact rotation_neutral (List.nodup_singleton _) (etherDay_opened (by norm_num) valued)
    (.next (.next .start (.filled List.mem_cons_self buyAtMark_parsed accounted))
      (.filled List.mem_cons_self buyAtMark_parsed again))

/-- With BNB in the trend universe, a buy at the mark with a fee of 4 USDT moves the
numerator by 8. -/
theorem third_fee_counted_twice : Opened Exact.floatValue ["ETHUSDT", "BNBUSDT"] (etherDay 124)
    ∧ TrendStep Exact.floatValue ["ETHUSDT", "BNBUSDT"] (etherDay 124)
      (.filled fillAtMark "BUY" "ETHUSDT") (filledDay 124)
    ∧ fillAtMark.averagePrice = marks Exact.floatValue (etherDay 124) "ETHUSDT"
    ∧ feesOf (marks Exact.floatValue (etherDay 124)) fillAtMark "ETHUSDT" = 4
    ∧ (etherDay 124).numerator Exact.floatValue ["ETHUSDT", "BNBUSDT"] = 0
    ∧ (filledDay 124).numerator Exact.floatValue ["ETHUSDT", "BNBUSDT"] = -8
    ∧ (filledDay 124).numerator Exact.floatValue ["ETHUSDT", "BNBUSDT"]
      ≠ (etherDay 124).numerator Exact.floatValue ["ETHUSDT", "BNBUSDT"]
        - feesOf (marks Exact.floatValue (etherDay 124)) fillAtMark "ETHUSDT" := by
  have accounted : Exact.accountTrendFill (etherDay 124).account fillAtMark "BUY" "ETHUSDT"
      = .ok (filledDay 124).account := by decide +kernel
  have valued : (etherDay 124).trendVal Exact.floatValue ["ETHUSDT", "BNBUSDT"] = 124 := by
    decide +kernel
  refine ⟨etherDay_opened (by norm_num) valued, .filled List.mem_cons_self buyAtMark_parsed accounted,
    ?_, ?_, ?_, ?_, ?_⟩
  · decide +kernel
  · decide +kernel
  · decide +kernel
  · decide +kernel
  · decide +kernel

end Example

end BinancePlatform.Guarantees.RotationNeutrality
