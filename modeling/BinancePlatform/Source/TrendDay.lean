import BinancePlatform.Source.DailyAccounting
import BinancePlatform.Source.ExactFill

/-!
# A trend fill in the daily accounting

The accounting of one trend fill in `execution_service.py`, `_apply_fill_balances` and
then `_record_trend_fill`, and the trend value of `compute_portfolio_allocation`, in
exact arithmetic.
-/

set_option autoImplicit false

namespace BinancePlatform.Source.Exact
open BinancePlatform.Library

variable {K : Type} [Field K] [LinearOrder K]

/-- `trend_val`, over the keys of `runtime_trend_universe`. -/
def trendVal (runtimeTrendUniverse : List String) (balances : Dict String K) (price : String → K) : K :=
  (runtimeTrendUniverse.map fun symbol => (balances.get? symbol).getD 0 * price symbol).sum

structure TrendAccount (K : Type) where
  daily : DailyState K
  balances : Dict String K
  uTotal : K
  deriving DecidableEq

/-- A fill that is applied to the balances is recorded in the daily totals. -/
def accountTrendFill (account : TrendAccount K) (fill : Fill K) (side symbol : String) :
    Except PyException (TrendAccount K) :=
  match applyFillBalances fill side symbol account.uTotal account.balances with
  | (.ok (uTotal, quoteDelta), balances) => .ok {
      daily := recordTrendFill account.daily ⟨fill.quoteQty, fill.thirdFeeUsdt⟩ quoteDelta
      balances, uTotal }
  | (.error raised, _) => .error raised

end BinancePlatform.Source.Exact
