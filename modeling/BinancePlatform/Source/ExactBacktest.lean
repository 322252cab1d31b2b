import BinancePlatform.Library.Trails
import BinancePlatform.Source.Backtest
import Mathlib.Algebra.Order.Field.Basic

/-!
# The research backtest in exact arithmetic

The loop of `simulate_window` in `research/backtest.py` with its amounts in an ordered
field, as a trail: each branch that trades, marks or records is one update, and the
state after it is passed. A missing number is `none`. The functions of the strategy
package are a parameter, pure and possibly raising.
-/

set_option autoImplicit false

namespace BinancePlatform.Source.Exact
open BinancePlatform.Library

/-! ## Frames -/

/-- A row of a symbol's frame; an absent indicator column is missing in every row. -/
structure Bar (K : Type) where
  time : BarTime
  openPrice : Option K
  close : Option K
  availableAt : Option (Option BarTime)
  quoteObserved : Option Bool
  indicators : String → Option K

theorem BacktestState.eight_atLeastTwo : Nat.AtLeastTwo 8 := inferInstance
theorem BacktestState.ten_atLeastTwo : Nat.AtLeastTwo 10 := inferInstance
theorem BacktestState.hundred_atLeastTwo : Nat.AtLeastTwo 100 := inferInstance
attribute [local instance] BacktestState.eight_atLeastTwo BacktestState.ten_atLeastTwo BacktestState.hundred_atLeastTwo

section Frames
variable {K : Type}

def missingBar : Bar K := ⟨0, none, none, none, none, fun _ => none⟩

def Bar.available (bar : Bar K) : Option BarTime := bar.availableAt.getD (some (bar.time + hourLength))

def Bar.observed (bar : Bar K) : Bool := bar.quoteObserved.getD bar.close.isSome

def barAt (marketData : String → List (Bar K)) (symbol : String) (idx : ℕ) : Bar K :=
  if symbol ∈ allSymbols then (marketData symbol).getD idx missingBar else missingBar

/-- A row of the bar before: its close is missing unless it was observed and available. -/
structure SignalRow (K : Type) where
  close : Option K
  available : Option BarTime
  indicators : String → Option K

def signalRow (ts : BarTime) (bar : Bar K) : SignalRow K where
  close := if bar.available.any (· ≤ ts) && bar.observed then bar.close else none
  available := bar.available
  indicators := bar.indicators

def SignalRow.get (row : SignalRow K) (field : String) : Option K :=
  if field = "close" then row.close else row.indicators field

structure SignalRows (K : Type) where
  signalTime : BarTime
  row : String → SignalRow K

/-- `rows[symbol]`. -/
def SignalRows.item (rows : SignalRows K) (symbol : String) : Except PyException (SignalRow K) :=
  if symbol ∈ allSymbols then .ok (rows.row symbol) else .error keyError

end Frames

/-! ## The strategy -/

structure AllocationBudgets (K : Type) where
  trendUsdtPool : K
  dcaUsdtPool : K

abbrev Indicators (K : Type) := List (String × Option K)

/-- The imported functions, with the calendar month of an instant. -/
structure StrategyCore (K : Type) where
  buildRotationPoolRanking : Document → List (String × Indicators K) → Indicators K → List String →
    Except PyException (List String)
  selectRotationWeights : Document → List (String × Indicators K) → List (String × Option K) →
    Indicators K → Bool → List String → Except PyException (List (String × K))
  computeAllocationBudgets : K → K → K → K → Except PyException (AllocationBudgets K)
  allocateTrendBuyBudget : List (String × K) → List String → K → Except PyException (List (String × K))
  getDynamicBtcBaseOrder : K → Except PyException K
  month : BarTime → String

structure Rates (K : Type) where
  feeRate : K
  slippageRate : K

structure Trade (K : Type) where
  symbol : String
  side : String
  reason : String
  signalTime : BarTime
  signalAvailableAt : Option BarTime
  fillTime : BarTime
  referencePrice : K
  executionPrice : K
  quantity : K
  notional : K
  fee : K
  slippageCost : K
  cashDelta : K

structure TrendPosition (K : Type) where
  isHolding : Bool
  highestPrice : K

/-- The variables of the loop; `marks` are the marks last used. -/
structure BacktestState (K : Type) where
  positions : String → K
  trendState : String → TrendPosition K
  cashUsdt : K
  tradeCount : ℕ
  dcaLastBuyDate : Option BarTime
  dcaLastSellDate : Option BarTime
  dailyEquityBase : K
  dailyTrendEquityBase : K
  lastResetDate : Option BarTime
  isCircuitBroken : Bool
  pendingCircuitExits : String → Bool
  poolState : PoolState
  lastAvailableClose : String → Option K
  marks : String → Option K
  equityCurve : List (BarTime × K)
  tradeLedger : List (Trade K)

abbrev Backtest (K : Type) := Trail PyException (BacktestState K)

/-! ## One bar -/

/-- What the trades of a bar see: the opening quotes and the rows of the bar before. -/
structure BarView (K : Type) where
  ts : BarTime
  opens : String → Option K
  rows : Option (SignalRows K)

def BarView.today {K : Type} (view : BarView K) : BarTime := view.ts / dayLength

variable {K : Type} [Field K] [LinearOrder K]

def initialCapital : K := 10000

/-- `executable_price`. -/
def BarView.executablePrice (view : BarView K) (symbol : String) : Option K :=
  (view.opens symbol).filter (0 < ·)

/-- `position_value`. -/
def positionTotal (symbols : List String) (positions : String → K) (price : String → Option K) : K :=
  (symbols.map fun symbol => (price symbol).elim 0 (positions symbol * ·)).sum

def snapshotNumericRow (row : SignalRow K) (fields : List String) : Indicators K :=
  fields.map fun field => (field, row.get field)

def btcSnapshotFromRow (rows : SignalRows K) : Indicators K :=
  snapshotNumericRow (rows.row "BTCUSDT") ["btc_roc20", "btc_roc60", "btc_roc120", "ma200", "ma200_slope"]

def trendIndicatorMap (rows : SignalRows K) (symbols : List String) :
    Except PyException (List (String × Indicators K)) :=
  symbols.mapM fun symbol => do
    let row ← rows.item symbol
    return (symbol, snapshotNumericRow row trendRowFields)

def closedTrend : TrendPosition K := ⟨false, 0⟩

namespace BacktestState

def trendVal (s : BacktestState K) : K := positionTotal trendSymbols s.positions s.marks

def dcaVal (s : BacktestState K) : K := (s.marks "BTCUSDT").elim 0 (s.positions "BTCUSDT" * ·)

def totalEquity (s : BacktestState K) : K := s.cashUsdt + s.trendVal + s.dcaVal

end BacktestState

section Loop
variable (core : StrategyCore K) (strategy : Strategy) (rates : Rates K)

/-- `refresh_monthly_pool`. -/
def refreshMonthlyPool (rows : SignalRows K) : Backtest K (List String) := do
  let s ← Trail.get
  let monthKey := core.month rows.signalTime
  if s.poolState.lastMonth = some monthKey then return s.poolState.currentPool.getD fixedPool
  let indicators ← Trail.evaluate (trendIndicatorMap rows researchUniverse)
  let ranking ← Trail.evaluate (core.buildRotationPoolRanking strategy.settings indicators
    (btcSnapshotFromRow rows) (s.poolState.currentPool.getD []))
  if ranking = [] then return s.poolState.currentPool.getD fixedPool
  let selected := ranking.take strategy.poolSize
  Trail.step fun s => { s with poolState := ⟨some monthKey, some selected⟩ }
  return selected

/-- `get_candidate_pool`. -/
def getCandidatePool (rows : SignalRows K) : Backtest K (List String) :=
  if strategy.poolMode = "fixed" then pure fixedPool else refreshMonthlyPool core strategy rows

/-- `select_rotation_weights`. -/
def selectRotationWeights (rows : SignalRows K) (btcGateOn : Bool) : Backtest K (List (String × K)) :=
  if strategy.btcGate && !btcGateOn then pure []
  else do
    let currentPool ← getCandidatePool core strategy rows
    let prices ← Trail.evaluate (currentPool.mapM fun symbol => do
      let row ← rows.item symbol
      return (symbol, row.close))
    let indicators ← Trail.evaluate (trendIndicatorMap rows currentPool)
    Trail.evaluate (core.selectRotationWeights strategy.settings indicators prices
      (btcSnapshotFromRow rows) btcGateOn currentPool)

/-- `btc_gate_on`. -/
def btcGateOn (row : SignalRow K) : Bool :=
  match row.close, row.get "ma200", row.get "ma200_slope" with
  | some close, some ma200, some slope => ma200 < close && 0 < slope
  | _, _, _ => false

/-- `record_trade`: the cash delta it returns and the ledger it leaves. -/
def recordTrade (view : BarView K) (rows : SignalRows K) (symbol side reason : String)
    (quantity referencePrice : K) (s : BacktestState K) : K × BacktestState K :=
  let executionPrice := referencePrice *
    (if side = "buy" then 1 + rates.slippageRate else 1 - rates.slippageRate)
  let notional := quantity * executionPrice
  let fee := notional * rates.feeRate
  let cashDelta := if side = "buy" then -notional - fee else notional - fee
  let urgent := decide (reason = "circuit_breaker")
  (cashDelta, { s with
    tradeLedger := s.tradeLedger ++
      [{ symbol, side, reason
         signalTime := if urgent then view.ts else rows.signalTime
         signalAvailableAt := if urgent then some view.ts else (rows.row symbol).available
         fillTime := view.ts, referencePrice, executionPrice, quantity, notional, fee
         slippageCost := quantity * |executionPrice - referencePrice|, cashDelta }] })

/-- The closes of the rows enter the marks, and the marks of the bar are taken. -/
def seeRows (view : BarView K) (s : BacktestState K) : BacktestState K :=
  let lastClose : String → Option K := fun symbol =>
    match view.rows with
    | none => s.lastAvailableClose symbol
    | some rows =>
      if symbol ∈ allSymbols then (rows.row symbol).close <|> s.lastAvailableClose symbol
      else s.lastAvailableClose symbol
  { s with lastAvailableClose := lastClose
           marks := fun symbol => view.opens symbol <|> lastClose symbol }

def allocation : Backtest K (AllocationBudgets K) := do
  let s ← Trail.get
  Trail.evaluate (core.computeAllocationBudgets s.totalEquity s.cashUsdt s.trendVal s.dcaVal)

/-- The daily reset. -/
def resetDay (view : BarView K) (s : BacktestState K) : BacktestState K :=
  if s.lastResetDate = some view.today then s
  else
    { s with dailyEquityBase := s.totalEquity, dailyTrendEquityBase := s.trendVal
             lastResetDate := some view.today, isCircuitBroken := false }

/-- The circuit breaker, at `CIRCUIT_BREAKER_PCT`. -/
def breakCircuit (s : BacktestState K) : BacktestState K :=
  let base := s.dailyTrendEquityBase
  let trendDailyPnl := if base = 0 then 0 else (s.trendVal - base) / base
  if trendDailyPnl ≤ -(5 / 100) ∧ s.isCircuitBroken = false then
    { s with isCircuitBroken := true
             pendingCircuitExits := fun symbol => s.pendingCircuitExits symbol
               || (symbol ∈ trendSymbols && 0 < s.positions symbol) }
  else s

def dropExit (symbol : String) (s : BacktestState K) : BacktestState K :=
  { s with pendingCircuitExits := Function.update s.pendingCircuitExits symbol false }

/-- The whole position of a trend symbol is sold. -/
def liquidate (view : BarView K) (rows : SignalRows K) (symbol reason : String) (price : K)
    (s : BacktestState K) : BacktestState K :=
  let (cashDelta, sold) := recordTrade rates view rows symbol "sell" reason (s.positions symbol) price s
  { sold with cashUsdt := sold.cashUsdt + cashDelta
              positions := Function.update sold.positions symbol 0
              trendState := Function.update sold.trendState symbol closedTrend
              tradeCount := sold.tradeCount + 1 }

/-- A pending circuit exit waits for an executable quote. -/
def circuitExit (view : BarView K) (symbol : String) (s : BacktestState K) : BacktestState K :=
  if s.pendingCircuitExits symbol = false then s
  else if s.positions symbol ≤ 0 then dropExit symbol s
  else
    match view.executablePrice symbol, view.rows with
    | some price, some rows =>
      if 10 < s.positions symbol * price then
        dropExit symbol (liquidate rates view rows symbol "circuit_breaker" price s)
      else s
    | _, _ => s

/-- `stop_triggered`, at `ATR_MULTIPLIER`. -/
def stopTriggered (trend : TrendPosition K) (row : SignalRow K) : Bool :=
  match trend.isHolding, row.close, row.get "sma60", row.get "atr14" with
  | true, some price, some sma60, some atr14 =>
    price < sma60 || price < trend.highestPrice - 5 / 2 * atr14
  | _, _, _, _ => false

/-- The highest price of a holding follows the close. -/
def TrendPosition.trail (trend : TrendPosition K) (price : K) : TrendPosition K :=
  if trend.isHolding then { trend with highestPrice := max trend.highestPrice price } else trend

/-- The exit of one trend symbol. -/
def trendExit (view : BarView K) (rows : SignalRows K) (activeWeights : List (String × K))
    (symbol : String) (s : BacktestState K) : BacktestState K :=
  match (rows.row symbol).close with
  | none => s
  | some price =>
    if s.pendingCircuitExits symbol then s
    else
      let trend := (s.trendState symbol).trail price
      let seen := { s with trendState := Function.update s.trendState symbol trend }
      match view.executablePrice symbol with
      | some fillPrice =>
        if trend.isHolding && 0 < s.positions symbol
            && (symbol ∉ activeWeights.map Prod.fst || stopTriggered trend (rows.row symbol)) then
          liquidate rates view rows symbol "trend_exit" fillPrice seen
        else seen
      | none => seen

/-- `eligible_buy_symbols`. -/
def eligibleBuySymbols (view : BarView K) (rows : SignalRows K) (s : BacktestState K)
    (activeWeights : List (String × K)) : Except PyException (List String) := do
  let eligible ← activeWeights.mapM fun entry => do
    if s.pendingCircuitExits entry.1 then return none
    let row ← rows.item entry.1
    if !row.close.any (0 < ·) || (view.executablePrice entry.1).isNone
        || ["sma20", "sma60", "sma200", "atr14"].any fun field => (row.get field).isNone then return none
    if entry.1 ∉ trendSymbols then throw keyError
    return if (s.trendState entry.1).isHolding then none else some entry.1
  return eligible.filterMap id

/-- The quantity a budget buys at a price after costs. -/
def boughtQuantity (budget price : K) : K :=
  budget * (985 / 1000) / (price * (1 + rates.slippageRate) * (1 + rates.feeRate))

def costOf (quantity price : K) : K :=
  quantity * price * (1 + rates.slippageRate) * (1 + rates.feeRate)

/-- A purchase of a budget's worth, when the cash pays for it. -/
def purchase (view : BarView K) (rows : SignalRows K) (symbol reason : String) (budget price : K)
    (after : BacktestState K → BacktestState K) (s : BacktestState K) : BacktestState K :=
  let quantity := boughtQuantity rates budget price
  if costOf rates quantity price ≤ s.cashUsdt then
    let (cashDelta, bought) := recordTrade rates view rows symbol "buy" reason quantity price
      { s with positions := Function.update s.positions symbol (s.positions symbol + quantity) }
    after { bought with cashUsdt := bought.cashUsdt + cashDelta, tradeCount := bought.tradeCount + 1 }
  else s

/-- The entry of one trend symbol; a quote that is missing cannot be multiplied. -/
def trendEntry (view : BarView K) (rows : SignalRows K) (plannedTrendBuys : List (String × K))
    (symbol : String) : Backtest K Unit :=
  let budget := (Dict.find symbol plannedTrendBuys).getD 0
  if 15 < budget then
    match view.executablePrice symbol with
    | none => Trail.evaluate (.error typeError)
    | some price =>
      Trail.step (purchase rates view rows symbol "trend_buy" budget price fun bought =>
        { bought with trendState := Function.update bought.trendState symbol ⟨true, price⟩ })
  else pure ()

/-- The trend trades of a day whose circuit is not broken. -/
def trendTrades (view : BarView K) (rows : SignalRows K) (activeWeights : List (String × K)) :
    Backtest K Unit := do
  Trail.each (fun symbol => Trail.step (trendExit rates view rows activeWeights symbol)) trendSymbols
  let budgets ← allocation core
  let s ← Trail.get
  let eligible ← Trail.evaluate (eligibleBuySymbols view rows s activeWeights)
  let planned ← Trail.evaluate
    (core.allocateTrendBuyBudget activeWeights eligible budgets.trendUsdtPool)
  Trail.each (trendEntry rates view rows planned) eligible

/-- The multiplier of `ahr`; a quotient by zero is infinite. -/
def multiplierOf (price geom200 : K) : ℕ :=
  if geom200 = 0 then 0
  else if price / geom200 < 45 / 100 then 5 else if price / geom200 < 8 / 10 then 2
  else if price / geom200 < 12 / 10 then 1 else 0

/-- The DCA buy. -/
def dcaBuy (view : BarView K) (rows : SignalRows K) (dcaUsdtPool totalEquity btcPrice fillPrice : K) :
    Backtest K Unit := do
  let s ← Trail.get
  match (rows.row "BTCUSDT").get "geom200" with
  | none => pure ()
  | some geom200 =>
    let multiplier := multiplierOf btcPrice geom200
    if 0 < multiplier ∧ 15 < dcaUsdtPool ∧ s.dcaLastBuyDate ≠ some view.today then do
      let baseOrder ← Trail.evaluate (core.getDynamicBtcBaseOrder totalEquity)
      Trail.step (purchase rates view rows "BTCUSDT" "dca_buy" (min dcaUsdtPool (baseOrder * multiplier))
        fillPrice fun bought => { bought with dcaLastBuyDate := some view.today })
    else pure ()

def sellShare (zscore : K) : K := if 5 < zscore then 5 / 10 else if 4 < zscore then 3 / 10 else 1 / 10

/-- The DCA reduction; `dca_val` is the value before the buy. -/
def dcaReduce (view : BarView K) (rows : SignalRows K) (dcaVal fillPrice : K) (s : BacktestState K) :
    BacktestState K :=
  match (rows.row "BTCUSDT").get "zscore", (rows.row "BTCUSDT").get "sell_trigger" with
  | some zscore, some sellTrigger =>
    let quantity := s.positions "BTCUSDT" * sellShare zscore
    if sellTrigger < zscore ∧ 20 < dcaVal ∧ s.dcaLastSellDate ≠ some view.today ∧ 0 < quantity then
      let (cashDelta, sold) := recordTrade rates view rows "BTCUSDT" "sell" "dca_reduce" quantity fillPrice s
      { sold with cashUsdt := sold.cashUsdt + cashDelta
                  positions := Function.update sold.positions "BTCUSDT" (sold.positions "BTCUSDT" - quantity)
                  dcaLastSellDate := some view.today
                  tradeCount := sold.tradeCount + 1 }
    else s
  | _, _ => s

/-- The trades of the bitcoin layer. -/
def dcaTrades (view : BarView K) (rows : SignalRows K) : Backtest K Unit := do
  let s ← Trail.get
  let budgets ← allocation core
  match view.executablePrice "BTCUSDT", (rows.row "BTCUSDT").close with
  | some fillPrice, some btcPrice =>
    if 0 < btcPrice then do
      dcaBuy core rates view rows budgets.dcaUsdtPool s.totalEquity btcPrice fillPrice
      Trail.step (dcaReduce rates view rows s.dcaVal fillPrice)
    else pure ()
  | _, _ => pure ()

/-- The trades of a bar that has one before it. -/
def signalTrades (view : BarView K) (rows : SignalRows K) : Backtest K Unit := do
  let activeWeights ← selectRotationWeights core strategy rows (btcGateOn (rows.row "BTCUSDT"))
  let _ ← getCandidatePool core strategy rows
  let s ← Trail.get
  if s.isCircuitBroken then pure () else trendTrades core rates view rows activeWeights
  dcaTrades core rates view rows

/-- What is known of a bar when it is published: the closes available by then. -/
structure BarClose (K : Type) where
  published : BarTime
  closes : String → Option K

/-- The closing marks and the equity point at them. -/
def markClose (closing : BarClose K) (s : BacktestState K) : BacktestState K :=
  let closes : String → Option K := fun symbol =>
    if symbol ∈ allSymbols then closing.closes symbol <|> s.lastAvailableClose symbol
    else s.lastAvailableClose symbol
  { s with lastAvailableClose := closes, marks := closes
           equityCurve := s.equityCurve
             ++ [(closing.published, s.cashUsdt + positionTotal allSymbols s.positions closes)] }

/-- A bar; the first of the data has no rows and records the equity it opened with. -/
def simulateBar (view : BarView K) (closing : BarClose K) : Backtest K Unit := do
  Trail.step (seeRows view)
  let s ← Trail.get
  let _ ← allocation core
  Trail.step fun s => breakCircuit (resetDay view s)
  Trail.each (fun symbol => Trail.step (circuitExit rates view symbol)) trendSymbols
  match view.rows with
  | none =>
    Trail.step fun t => { t with equityCurve := t.equityCurve ++ [(closing.published, s.totalEquity)] }
  | some rows => do
    signalTrades core strategy rates view rows
    Trail.step (markClose closing)

/-! ## The window -/

def barView (marketData : String → List (Bar K)) (idx : ℕ) : BarView K :=
  let ts := (barAt marketData "BTCUSDT" idx).time
  { ts
    opens := fun symbol => (barAt marketData symbol idx).openPrice
    rows := if idx = 0 then none
      else some { signalTime := (barAt marketData "BTCUSDT" (idx - 1)).time
                  row := fun symbol => signalRow ts (barAt marketData symbol (idx - 1)) } }

/-- `base_available.iloc[idx]`; a bar of the window has one. -/
def publishedAt (marketData : String → List (Bar K)) (idx : ℕ) : BarTime :=
  ((barAt marketData "BTCUSDT" idx).available).getD 0

def barClose (marketData : String → List (Bar K)) (idx : ℕ) : BarClose K where
  published := publishedAt marketData idx
  closes := fun symbol =>
    if (barAt marketData symbol idx).available.any (· ≤ publishedAt marketData idx) then
      (barAt marketData symbol idx).close
    else none

/-- `idxs`. -/
def windowBars (marketData : String → List (Bar K)) (start end_ : BarTime) : List ℕ :=
  (List.range (marketData "BTCUSDT").length).filter fun idx =>
    let bar := barAt marketData "BTCUSDT" idx
    start ≤ bar.time && bar.available.any (· ≤ end_)

def initialBacktest (start : BarTime) : BacktestState K where
  positions := fun _ => 0
  trendState := fun _ => closedTrend
  cashUsdt := initialCapital
  tradeCount := 0
  dcaLastBuyDate := none
  dcaLastSellDate := none
  dailyEquityBase := 0
  dailyTrendEquityBase := 0
  lastResetDate := none
  isCircuitBroken := false
  pendingCircuitExits := fun _ => false
  poolState := ⟨none, none⟩
  lastAvailableClose := fun _ => none
  marks := fun _ => none
  equityCurve := [(start, initialCapital)]
  tradeLedger := []

def validRate (rate : K) : Bool := 0 ≤ rate && rate < 1

def aligned (marketData : String → List (Bar K)) : Bool :=
  allSymbols.all fun symbol =>
    (marketData symbol).map Bar.time = (marketData "BTCUSDT").map Bar.time

/-- The checks of `simulate_window`. -/
def checkWindow (start end_ : BarTime) (marketData : String → List (Bar K)) : Except PyException Unit := do
  require (validRate rates.feeRate && validRate rates.slippageRate)
    (valueError "fee/slippage rates must be finite per-side fractions in [0, 1)")
  require (start ≤ end_) (valueError "end must not precede start")
  require (aligned marketData) (valueError "unaligned hourly timeline")

/-- `simulate_window`, up to its report: the states of the loop, the first included. -/
def simulateWindow (start end_ : BarTime) (marketData : String → List (Bar K)) : List (BacktestState K) :=
  match checkWindow rates start end_ marketData with
  | .error _ => []
  | .ok _ =>
    initialBacktest start :: (Trail.each (fun idx =>
      simulateBar core strategy rates (barView marketData idx) (barClose marketData idx))
      (windowBars marketData start end_) (initialBacktest start)).passed

end Loop
end BinancePlatform.Source.Exact
