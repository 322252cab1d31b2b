import BinancePlatform.Source.TradeExecution
import Mathlib.Logic.Relation

/-!
# The daily actions of the cycles that share one trade state

`should_skip_duplicate_trend_action` and `record_trend_action` of
`trade_state_support.py` and the DCA date, as the execution functions use them in
one cycle after another. A fill is accounted when its accounting and, away from the
circuit breaker, the record of its action are in the trade state. The list of the
accounted fills travels with the document: a write stores both, a crash loses what
was not written, and the next cycle starts from what is stored.
-/

set_option autoImplicit false

namespace BinancePlatform.Source
open BinancePlatform.Library

inductive TrendAction where
  | sell
  | buy
  deriving DecidableEq, Repr

/-- The texts `"sell"` and `"buy"` of the execution functions. -/
def TrendAction.text : TrendAction → String
  | .sell => "sell"
  | .buy => "buy"

/-- The function that placed an order. -/
inductive PlacedBy where
  /-- `execute_trend_sells` and `execute_trend_buys` -/
  | trendRotation
  /-- `run_daily_circuit_breaker` -/
  | circuitBreaker
  /-- `execute_btc_dca_cycle` -/
  | btcDca
  deriving DecidableEq, Repr

structure AccountedFill where
  placedBy : PlacedBy
  symbol : String
  action : TrendAction
  /-- `today_id_str` of the cycle -/
  date : String
  deriving DecidableEq, Repr

/-- A trade state and the fills accounted in it, oldest first. -/
structure AccountedState where
  state : Document
  fills : List AccountedFill

/-- A running cycle: its day, what its programs work on and what it has accounted. -/
structure RunningCycle where
  todayId : String
  trading : TradingState
  fills : List AccountedFill

/-- The stored trade state and the memory of the cycle that runs, if one does. -/
structure ActionLedger where
  stored : AccountedState
  running : Option RunningCycle

def TradingState.state (s : TradingState) : Document := s.account.state

def TradingState.setState (s : TradingState) (state : Document) : TradingState :=
  { s with account := { s.account with state } }

@[simp] theorem TradingState.state_setState (s : TradingState) (state : Document) :
    (s.setState state).state = state := rfl

def tradeSide : TrendAction → String
  | .sell => "SELL"
  | .buy => "BUY"

/-- The fields that only the actions below write. -/
def actionFields : List String := [trendPoolActionHistoryKey, "dca_last_buy_date"]

section Steps
variable [CharacterTable] (trendUniverse : TrendUniverse)

/-- The accounting of a BTC DCA buy, without its fill in a report. -/
def accountDcaFill (fill : Fill) (todayId : String) : Trading Unit := do
  let _ ← applyFill fill "BUY" "BTCUSDT"
  prepareAccounting "BTCUSDT" "BTC"
  onAccount fun account => { account with state := account.state.set "dca_last_buy_date" (.str todayId) }

/-- One step of the running cycle. -/
inductive CycleStep : RunningCycle → RunningCycle → Prop where
  /-- Any other code: the daily reset, the rebase, balances read from the broker, the
  order record of a submission, an accounting that raised, the breaker's latch. It
  leaves the two action fields alone. -/
  | other (cycle : RunningCycle) (after : TradingState)
      (kept : ∀ key ∈ actionFields, after.state.get? key = cycle.trading.state.get? key) :
      CycleStep cycle { cycle with trading := after }
  /-- A fill of `execute_trend_sells` or `execute_trend_buys`: the day's record does not
  show its action, and shows it afterwards. -/
  | rotationFill (cycle : RunningCycle) (fill : Fill) (symbol baseAsset : String) (action : TrendAction)
      (position : Value) (after : TradingState)
      (due : shouldSkipDuplicateTrendAction cycle.trading.state symbol action.text cycle.todayId = false)
      (accounted : accountTrendFill trendUniverse fill (tradeSide action) symbol baseAsset position
        cycle.trading = (.ok (), after)) :
      CycleStep cycle
        { cycle with
          trading := after.setState (recordTrendAction after.state symbol action.text cycle.todayId)
          fills := cycle.fills ++ [⟨.trendRotation, symbol, action, cycle.todayId⟩] }
  /-- A fill of `run_daily_circuit_breaker`: once its latch is open the breaker neither
  asks for the day's record nor writes it. -/
  | breakerFill (cycle : RunningCycle) (fill : Fill) (symbol baseAsset : String) (after : TradingState)
      (unlatched : (pyGet cycle.trading.state "is_circuit_broken").truthy = false)
      (accounted : accountTrendFill trendUniverse fill "SELL" symbol baseAsset closedPosition
        cycle.trading = (.ok (), after)) :
      CycleStep cycle
        { cycle with
          trading := after
          fills := cycle.fills ++ [⟨.circuitBreaker, symbol, .sell, cycle.todayId⟩] }
  /-- A buy of `execute_btc_dca_cycle`. -/
  | dcaFill (cycle : RunningCycle) (fill : Fill) (after : TradingState)
      (due : (pyGet cycle.trading.state "dca_last_buy_date").isStr cycle.todayId = false)
      (accounted : accountDcaFill fill cycle.todayId cycle.trading = (.ok (), after)) :
      CycleStep cycle
        { cycle with
          trading := after
          fills := cycle.fills ++ [⟨.btcDca, "BTCUSDT", .buy, cycle.todayId⟩] }

/-- One step of the system: of the cycle, or around it. -/
inductive LedgerStep : ActionLedger → ActionLedger → Prop where
  /-- A cycle claims the state and loads it, on whatever day it is. -/
  | load (ledger : ActionLedger) (todayId : String) (trading : TradingState) (normalized : Document)
      (idle : ledger.running = none)
      (loaded : normalizeTradeState trendUniverse (.dict ledger.stored.state) = .ok normalized) :
      LedgerStep ledger
        { ledger with running := some ⟨todayId, trading.setState normalized, ledger.stored.fills⟩ }
  | cycle (ledger : ActionLedger) (before after : RunningCycle) (running : ledger.running = some before)
      (step : CycleStep trendUniverse before after) :
      LedgerStep ledger { ledger with running := some after }
  /-- A write that reaches the store, whether or not its reply reaches the cycle. -/
  | write (ledger : ActionLedger) (cycle : RunningCycle) (running : ledger.running = some cycle) :
      LedgerStep ledger { ledger with stored := ⟨cycle.trading.state, cycle.fills⟩ }
  /-- The end of a cycle, after a failed write, a crash or its last stage. -/
  | stop (ledger : ActionLedger) : LedgerStep ledger { ledger with running := none }

/-- The ledgers of every sequence of cycles that starts from `stored` with no fill. -/
def LedgerRun (stored : Document) (ledger : ActionLedger) : Prop :=
  Relation.ReflTransGen (LedgerStep trendUniverse) ⟨⟨stored, []⟩, none⟩ ledger

end Steps

end BinancePlatform.Source
