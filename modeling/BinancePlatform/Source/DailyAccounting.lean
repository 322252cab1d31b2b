import BinancePlatform.Source.Python
import Mathlib.Algebra.Order.Field.Basic
import Mathlib.Algebra.BigOperators.Group.List.Lemmas

/-!
# Daily trend accounting, live and in the backtest

`portfolio_service.py` (daily reset and PnLs), `_record_trend_fill` of
`execution_service.py`, and the trend PnL of `simulate_window` in
`research/backtest.py`. Amounts are exact: every finite-number check of the
source holds of them, and `x or 0.0` is `x`.
-/

set_option autoImplicit false

namespace BinancePlatform.Source

def dailyTrendAccountingUnverifiable : PyException :=
  ⟨.executionIntegrityError, "daily_trend_accounting_unverifiable"⟩

/-- The daily fields of the working state. -/
structure DailyState (K : Type) where
  dailyEquityBase : K
  dailyTrendEquityBase : K
  dailyTrendCashFlow : K
  dailyTrendNetInvested : K
  dailyTrendRiskBase : K
  dailyTrendThirdFee : K
  dailyExternalPrincipal : K
  lastResetDate : String
  isCircuitBroken : Bool
  deriving DecidableEq, Repr

/-- The amounts of a confirmed trade that the trend accounting reads. -/
structure TrendFill (K : Type) where
  quoteQty : K
  thirdFeeUsdt : K
  deriving DecidableEq, Repr

section Live
variable {K : Type} [Field K] [LinearOrder K]

/-- The reset branch of `maybe_reset_daily_state`. -/
def maybeResetDailyState (state : DailyState K) (todayUtc : String) (totalEquity trendValEquity : K) :
    Except PyException (DailyState K × Bool) :=
  if state.lastResetDate ≠ todayUtc then
    .ok ({ dailyEquityBase := totalEquity, dailyTrendEquityBase := trendValEquity,
           dailyTrendCashFlow := 0, dailyTrendNetInvested := 0,
           dailyTrendRiskBase := max 0 trendValEquity, dailyTrendThirdFee := 0,
           dailyExternalPrincipal := 0, lastResetDate := todayUtc, isCircuitBroken := false }, true)
  else if state.dailyTrendRiskBase < 0 then .error dailyTrendAccountingUnverifiable
  else if state.dailyTrendRiskBase ≤ 0 ∧ (trendValEquity ≠ 0 ∨ state.dailyTrendEquityBase ≠ 0
      ∨ state.dailyTrendCashFlow ≠ 0 ∨ state.dailyTrendNetInvested ≠ 0
      ∨ state.dailyTrendThirdFee ≠ 0) then .error dailyTrendAccountingUnverifiable
  else .ok (state, false)

/-- `_record_trend_fill`: the sign of the quote change tells a buy from a sell. -/
def recordTrendFill (state : DailyState K) (fill : TrendFill K) (quoteDelta : K) : DailyState K :=
  let principalDelta := if quoteDelta < 0 then fill.quoteQty else -fill.quoteQty
  let netInvested := state.dailyTrendNetInvested + principalDelta
  { state with
    dailyTrendCashFlow := state.dailyTrendCashFlow + quoteDelta
    dailyTrendNetInvested := netInvested
    dailyTrendRiskBase := max state.dailyTrendRiskBase
      (state.dailyTrendEquityBase + max 0 netInvested)
    dailyTrendThirdFee := state.dailyTrendThirdFee + fill.thirdFeeUsdt }

/-- The daily and the trend PnL. -/
def computeDailyPnls (state : DailyState K) (totalEquity trendEquity : K) :
    Except PyException (K × K) :=
  let dailyPnl := if 0 < state.dailyEquityBase then
    (totalEquity - state.dailyEquityBase - state.dailyExternalPrincipal) / state.dailyEquityBase
    else 0
  let trendBase := state.dailyTrendEquityBase
  let trendValue := trendEquity + state.dailyTrendCashFlow - state.dailyTrendThirdFee
  if state.dailyTrendRiskBase ≤ 0 then
    if trendBase ≠ 0 ∨ trendEquity ≠ 0 ∨ state.dailyTrendCashFlow ≠ 0
        ∨ state.dailyTrendNetInvested ≠ 0 ∨ state.dailyTrendThirdFee ≠ 0 then
      .error dailyTrendAccountingUnverifiable
    else .ok (dailyPnl, 0)
  else .ok (dailyPnl, (trendValue - trendBase) / state.dailyTrendRiskBase)

end Live

section Backtest
variable {σ K : Type} [DecidableEq σ] [Field K]

/-- `position_value`; a missing mark is skipped. -/
def positionValue (symbols : List σ) (positions : σ → K) (marks : σ → Option K) : K :=
  symbols.foldl (fun total symbol =>
    (marks symbol).elim total fun price => total + positions symbol * price) 0

/-- `trend_daily_pnl` of `simulate_window`. -/
def backtestTrendPnl [DecidableEq K] (dailyTrendEquityBase trendVal : K) : K :=
  if dailyTrendEquityBase = 0 then 0 else (trendVal - dailyTrendEquityBase) / dailyTrendEquityBase

end Backtest
end BinancePlatform.Source
