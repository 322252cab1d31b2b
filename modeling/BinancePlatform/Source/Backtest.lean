import BinancePlatform.Source.TradeExecution

/-!
# The research backtest

`simulate_window` of `research/backtest.py` and the pool functions it calls, bar by
bar. The functions of the strategy package are a parameter, pure and possibly raising.
An instant counts milliseconds. A missing number is a NaN, as in a frame. The counters
and traces that the loop only reports are left out.
-/

set_option autoImplicit false

namespace BinancePlatform.Source
open BinancePlatform.Library

/-! ## Frames -/

abbrev BarTime := ℤ

def hourLength : BarTime := 3600000
def dayLength : BarTime := 86400000

/-- A row of a symbol's frame; `none` in an optional column is an absent column. -/
structure Bar where
  time : BarTime
  openPrice : PyFloat
  close : PyFloat
  availableAt : Option (Option BarTime)
  quoteObserved : Option Bool
  indicators : String → PyFloat

def missingBar : Bar := ⟨0, .nan, .nan, none, none, fun _ => .nan⟩

/-- `row.get("available_at", row["time"] + pd.Timedelta(hours=1))`. -/
def Bar.available (bar : Bar) : Option BarTime := bar.availableAt.getD (some (bar.time + hourLength))

/-- `row.get("quote_observed", pd.notna(row["close"]))`. -/
def Bar.observed (bar : Bar) : Bool := bar.quoteObserved.getD (bar.close ≠ .nan)

abbrev MarketData := String → List Bar

def fixedPool : List String := ["ETHUSDT", "SOLUSDT", "XRPUSDT", "LINKUSDT", "AVAXUSDT"]
def researchUniverse : List String :=
  ["ETHUSDT", "SOLUSDT", "XRPUSDT", "LINKUSDT", "AVAXUSDT", "ADAUSDT", "DOGEUSDT", "TRXUSDT", "ATOMUSDT",
   "LTCUSDT", "BCHUSDT"]

def trendSymbols : List String :=
  ["ADAUSDT", "ATOMUSDT", "AVAXUSDT", "BCHUSDT", "DOGEUSDT", "ETHUSDT", "LINKUSDT", "LTCUSDT", "SOLUSDT",
   "TRXUSDT", "XRPUSDT"]
def allSymbols : List String := "BTCUSDT" :: trendSymbols

/-- The row of a symbol among `ALL_SYMBOLS`. -/
def barAt (marketData : MarketData) (symbol : String) (idx : ℕ) : Bar :=
  if symbol ∈ allSymbols then (marketData symbol).getD idx missingBar else missingBar

/-- A row as the signals see it: its close is a NaN unless it was observed and available. -/
structure SignalRow where
  close : PyFloat
  available : Option BarTime
  indicators : String → PyFloat

def signalRow (ts : BarTime) (bar : Bar) : SignalRow where
  close :=
    match bar.available with
    | none => .nan
    | some available => if available ≤ ts then (if bar.observed then bar.close else .nan) else .nan
  available := bar.available
  indicators := bar.indicators

def SignalRow.get (row : SignalRow) (field : String) : PyFloat :=
  if field = "close" then row.close else row.indicators field

structure SignalRows where
  signalTime : BarTime
  row : String → SignalRow

/-- `rows[symbol]`. -/
def SignalRows.item (rows : SignalRows) (symbol : String) : Except PyException SignalRow :=
  if symbol ∈ allSymbols then .ok (rows.row symbol) else .error keyError

/-! ## The strategy -/

structure Strategy where
  poolMode : String
  poolSize : ℕ
  btcGate : Bool
  settings : Document

structure AllocationBudgets where
  trendUsdtPool : PyFloat
  dcaUsdtPool : PyFloat

abbrev Indicators := List (String × Option PyFloat)

/-- The imported functions, with the calendar month of an instant. -/
structure StrategyCore where
  buildRotationPoolRanking : Document → List (String × Indicators) → Indicators → List String →
    Except PyException (List String)
  selectRotationWeights : Document → List (String × Indicators) → List (String × PyFloat) → Indicators →
    Bool → List String → Except PyException (List (String × PyFloat))
  computeAllocationBudgets : PyFloat → PyFloat → PyFloat → PyFloat → Except PyException AllocationBudgets
  allocateTrendBuyBudget : List (String × PyFloat) → List String → PyFloat →
    Except PyException (List (String × PyFloat))
  getDynamicBtcBaseOrder : PyFloat → Except PyException PyFloat
  month : BarTime → String

structure Rates where
  feeRate : PyFloat
  slippageRate : PyFloat

structure Trade where
  symbol : String
  side : String
  reason : String
  signalTime : BarTime
  signalAvailableAt : Option BarTime
  fillTime : BarTime
  referencePrice : PyFloat
  executionPrice : PyFloat
  quantity : PyFloat
  notional : PyFloat
  fee : PyFloat
  slippageCost : PyFloat
  cashDelta : PyFloat

structure TrendPosition where
  isHolding : Bool
  highestPrice : PyFloat

structure PoolState where
  lastMonth : Option String
  currentPool : Option (List String)

structure BacktestState where
  positions : String → PyFloat
  trendState : String → TrendPosition
  cashUsdt : PyFloat
  dcaLastBuyDate : Option BarTime
  dcaLastSellDate : Option BarTime
  dailyEquityBase : PyFloat
  dailyTrendEquityBase : PyFloat
  lastResetDate : Option BarTime
  isCircuitBroken : Bool
  pendingCircuitExits : String → Bool
  poolState : PoolState
  lastAvailableClose : String → PyFloat
  equityCurve : List (BarTime × PyFloat)
  tradeLedger : List Trade

abbrev Backtest := Program PyException BacktestState

namespace Backtest

def read : Backtest BacktestState := fun s => (.ok s, s)

def evaluate {α : Type} (outcome : Except PyException α) : Backtest α := fun s => (outcome, s)

def each {α : Type} (body : α → Backtest Unit) : List α → Backtest Unit
  | [] => pure ()
  | x :: xs => do
    body x
    each body xs

end Backtest

/-! ## One bar -/

/-- What the trades of a bar see: the opening quotes and the rows of the bar before. -/
structure BarView where
  ts : BarTime
  opens : String → PyFloat
  rows : Option SignalRows

/-- `x // dayLength` stands for the date of an instant. -/
def BarView.today (view : BarView) : BarTime := view.ts / dayLength

/-- `executable_price`. -/
def BarView.executablePrice (view : BarView) (symbol : String) : Option PyFloat :=
  let price := view.opens symbol
  if price.isFinite && PyFloat.zero.lt price then some price else none

/-- `mark_rows[symbol]["close"]`. -/
def BarView.mark (view : BarView) (lastAvailableClose : String → PyFloat) (symbol : String) : PyFloat :=
  if view.opens symbol ≠ .nan then view.opens symbol else lastAvailableClose symbol

/-- `position_value`. -/
def positionTotal (symbols : List String) (positions price : String → PyFloat) : PyFloat :=
  symbols.foldl (fun total symbol =>
    if price symbol ≠ .nan then total.add ((positions symbol).mul (price symbol)) else total) .zero

/-- A division of two frame numbers does not raise. -/
def frameDiv (x y : PyFloat) : PyFloat :=
  match x.div y with
  | .ok quotient => quotient
  | .error _ =>
    match x, y with
    | .finite negative magnitude, .finite below _ =>
      if magnitude = 0 then .nan else .infinite (negative ^^ below)
    | .infinite negative, .finite below _ => .infinite (negative ^^ below)
    | _, _ => .nan

def one : PyFloat := .literal 1000

/-- `snapshot_numeric_row`. -/
def snapshotNumericRow (row : SignalRow) (fields : List String) : Indicators :=
  fields.map fun field => (field, if row.get field = .nan then none else some (row.get field))

def trendRowFields : List String :=
  ["close", "sma20", "sma60", "sma200", "roc20", "roc60", "roc120", "vol20", "atr14", "avg_quote_vol_30",
   "avg_quote_vol_90", "avg_quote_vol_180", "trend_persist_90", "age_days"]

/-- `build_btc_snapshot_from_row`; `regime_on` is passed beside it. -/
def btcSnapshotFromRow (rows : SignalRows) : Indicators :=
  snapshotNumericRow (rows.row "BTCUSDT") ["btc_roc20", "btc_roc60", "btc_roc120", "ma200", "ma200_slope"]

def trendIndicatorMap (rows : SignalRows) (symbols : List String) :
    Except PyException (List (String × Indicators)) :=
  symbols.mapM fun symbol => do
    let row ← rows.item symbol
    return (symbol, snapshotNumericRow row trendRowFields)

section Loop
variable (core : StrategyCore) (strategy : Strategy) (rates : Rates)

/-- `refresh_monthly_pool`. -/
def refreshMonthlyPool (rows : SignalRows) : Backtest (List String) := do
  let s ← Backtest.read
  let monthKey := core.month rows.signalTime
  if s.poolState.lastMonth = some monthKey then return s.poolState.currentPool.getD fixedPool
  let indicators ← Backtest.evaluate (trendIndicatorMap rows researchUniverse)
  let ranking ← Backtest.evaluate (core.buildRotationPoolRanking strategy.settings indicators
    (btcSnapshotFromRow rows) (s.poolState.currentPool.getD []))
  if ranking = [] then return s.poolState.currentPool.getD fixedPool
  let selected := ranking.take strategy.poolSize
  .update fun s => { s with poolState := ⟨some monthKey, some selected⟩ }
  return selected

/-- `get_candidate_pool`. -/
def getCandidatePool (rows : SignalRows) : Backtest (List String) :=
  if strategy.poolMode = "fixed" then pure fixedPool else refreshMonthlyPool core strategy rows

/-- `select_rotation_weights`. -/
def selectRotationWeights (rows : SignalRows) (btcGateOn : Bool) :
    Backtest (List (String × PyFloat)) :=
  if strategy.btcGate && !btcGateOn then pure []
  else do
    let currentPool ← getCandidatePool core strategy rows
    let prices ← Backtest.evaluate (currentPool.mapM fun symbol => do
      let row ← rows.item symbol
      return (symbol, row.close))
    let indicators ← Backtest.evaluate (trendIndicatorMap rows currentPool)
    Backtest.evaluate (core.selectRotationWeights strategy.settings indicators prices
      (btcSnapshotFromRow rows) btcGateOn currentPool)

/-- `btc_gate_on`. -/
def btcGateOn (row : SignalRow) : Bool :=
  row.get "close" ≠ .nan && row.get "ma200" ≠ .nan && row.get "ma200_slope" ≠ .nan
    && (row.get "ma200").lt (row.get "close") && PyFloat.zero.lt (row.get "ma200_slope")

/-- `record_trade`, with the cash it moves. -/
def recordTrade (view : BarView) (rows : SignalRows) (symbol side reason : String)
    (quantity referencePrice : PyFloat) : Backtest Unit :=
  let buys := decide (side = "buy")
  let executionPrice := referencePrice.mul
    (if buys then one.add rates.slippageRate else one.sub rates.slippageRate)
  let notional := quantity.mul executionPrice
  let fee := notional.mul rates.feeRate
  let cashDelta := if buys then notional.neg.sub fee else notional.sub fee
  let urgent := decide (reason = "circuit_breaker")
  .update fun s =>
    { s with
      cashUsdt := s.cashUsdt.add cashDelta
      tradeLedger := s.tradeLedger ++
        [{ symbol, side, reason
           signalTime := if urgent then view.ts else rows.signalTime
           signalAvailableAt := if urgent then some view.ts else (rows.row symbol).available
           fillTime := view.ts, referencePrice, executionPrice, quantity, notional, fee
           slippageCost := quantity.mul (executionPrice.sub referencePrice).abs, cashDelta }] }

def holdPosition (symbol : String) (quantity : PyFloat) (trend : TrendPosition) : Backtest Unit :=
  .update fun s =>
    { s with positions := Function.update s.positions symbol quantity
             trendState := Function.update s.trendState symbol trend }

def closedTrend : TrendPosition := ⟨false, .zero⟩

/-- The equity of the layers at the marks of the bar: trend, DCA and total. -/
def BarView.values (view : BarView) (s : BacktestState) : PyFloat × PyFloat × PyFloat :=
  let mark := view.mark s.lastAvailableClose
  let trendVal := positionTotal trendSymbols s.positions mark
  let dcaVal := if mark "BTCUSDT" = .nan then PyFloat.zero else (s.positions "BTCUSDT").mul (mark "BTCUSDT")
  (trendVal, dcaVal, (s.cashUsdt.add trendVal).add dcaVal)

def allocation (view : BarView) : Backtest AllocationBudgets := do
  let s ← Backtest.read
  let values := view.values s
  Backtest.evaluate (core.computeAllocationBudgets values.2.2 s.cashUsdt values.1 values.2.1)

/-- The rows of the bar before enter the marks. -/
def seeRows (view : BarView) : Backtest Unit :=
  .update fun s =>
    { s with lastAvailableClose := fun symbol =>
        match view.rows with
        | none => s.lastAvailableClose symbol
        | some rows =>
          if symbol ∈ allSymbols && (rows.row symbol).close ≠ .nan then (rows.row symbol).close
          else s.lastAvailableClose symbol }

/-- The daily reset. -/
def BarView.resetDay (view : BarView) (s : BacktestState) : BacktestState :=
  if s.lastResetDate = some view.today then s
  else
    { s with dailyEquityBase := (view.values s).2.2, dailyTrendEquityBase := (view.values s).1
             lastResetDate := some view.today, isCircuitBroken := false }

/-- `trend_daily_pnl`; a base that is not zero is true. -/
def BarView.trendDailyPnl (view : BarView) (s : BacktestState) : PyFloat :=
  let base := s.dailyTrendEquityBase
  if base.lt .zero || PyFloat.zero.lt base || base = .nan then frameDiv ((view.values s).1.sub base) base
  else .zero

/-- The circuit breaker. -/
def BarView.breakCircuit (view : BarView) (s : BacktestState) : BacktestState :=
  if (view.trendDailyPnl s).le (PyFloat.literal 50).neg && !s.isCircuitBroken then
    { s with isCircuitBroken := true
             pendingCircuitExits := fun symbol => s.pendingCircuitExits symbol
               || (symbol ∈ trendSymbols && PyFloat.zero.lt (s.positions symbol)) }
  else s

def dailyRisk (view : BarView) : Backtest Unit := .update fun s => view.breakCircuit (view.resetDay s)

def dropExit (symbol : String) : Backtest Unit :=
  .update fun s => { s with pendingCircuitExits := Function.update s.pendingCircuitExits symbol false }

/-- A pending circuit exit waits for an executable quote. -/
def circuitExit (view : BarView) (symbol : String) : Backtest Unit := do
  let s ← Backtest.read
  if !s.pendingCircuitExits symbol then return
  if (s.positions symbol).le .zero then dropExit symbol
  else
    match view.executablePrice symbol, view.rows with
    | some price, some rows =>
      if (PyFloat.literal 10000).lt ((s.positions symbol).mul price) then do
        recordTrade rates view rows symbol "sell" "circuit_breaker" (s.positions symbol) price
        holdPosition symbol .zero closedTrend
        dropExit symbol
    | _, _ => return

/-- `stop_triggered`. -/
def stopTriggered (trend : TrendPosition) (row : SignalRow) : Bool :=
  let sma60 := row.get "sma60"
  let atr14 := row.get "atr14"
  if trend.isHolding && row.close ≠ .nan && sma60 ≠ .nan && atr14 ≠ .nan then
    row.close.lt sma60 || row.close.lt (trend.highestPrice.sub ((PyFloat.literal 2500).mul atr14))
  else false

/-- The exit of one trend symbol. -/
def trendExit (view : BarView) (rows : SignalRows) (activeWeights : List (String × PyFloat))
    (symbol : String) : Backtest Unit := do
  let s ← Backtest.read
  let row := rows.row symbol
  if s.pendingCircuitExits symbol || row.close = .nan then return
  let trend : TrendPosition :=
    if (s.trendState symbol).isHolding then
      { s.trendState symbol with highestPrice := (s.trendState symbol).highestPrice.maximum row.close }
    else s.trendState symbol
  .update fun s => { s with trendState := Function.update s.trendState symbol trend }
  let leaves := trend.isHolding && PyFloat.zero.lt (s.positions symbol)
    && (symbol ∉ activeWeights.map Prod.fst || stopTriggered trend row)
  match view.executablePrice symbol with
  | some price =>
    if leaves then do
      recordTrade rates view rows symbol "sell" "trend_exit" (s.positions symbol) price
      holdPosition symbol .zero closedTrend
  | none => return

/-- `eligible_buy_symbols`. -/
def eligibleBuySymbols (view : BarView) (rows : SignalRows) (s : BacktestState)
    (activeWeights : List (String × PyFloat)) : Except PyException (List String) := do
  let eligible ← activeWeights.mapM fun entry => do
    if s.pendingCircuitExits entry.1 then return none
    let row ← rows.item entry.1
    if row.close = .nan || row.close.le .zero || view.executablePrice entry.1 = none
        || ["sma20", "sma60", "sma200", "atr14"].any fun field => row.get field = .nan then return none
    if entry.1 ∉ trendSymbols then throw keyError
    return if (s.trendState entry.1).isHolding then none else some entry.1
  return eligible.filterMap id

/-- The quantity a budget buys at a price after costs. -/
def boughtQuantity (budget price : PyFloat) : Except PyException PyFloat :=
  (budget.mul (.literal 985)).div
    ((price.mul (one.add rates.slippageRate)).mul (one.add rates.feeRate))

def costOf (quantity price : PyFloat) : PyFloat :=
  ((quantity.mul price).mul (one.add rates.slippageRate)).mul (one.add rates.feeRate)

def trendEntry (view : BarView) (rows : SignalRows) (plannedTrendBuys : List (String × PyFloat))
    (symbol : String) : Backtest Unit := do
  let budget := (Dict.find symbol plannedTrendBuys).getD .zero
  if (PyFloat.literal 15000).lt budget then
    match view.executablePrice symbol with
    | none => Backtest.evaluate (.error typeError)
    | some price => do
      let quantity ← Backtest.evaluate (boughtQuantity rates budget price)
      let s ← Backtest.read
      if (costOf rates quantity price).le s.cashUsdt then do
        recordTrade rates view rows symbol "buy" "trend_buy" quantity price
        holdPosition symbol ((s.positions symbol).add quantity) ⟨true, price⟩

/-- The trend trades of a day whose circuit is not broken. -/
def trendTrades (view : BarView) (rows : SignalRows) (activeWeights : List (String × PyFloat)) :
    Backtest Unit := do
  Backtest.each (trendExit rates view rows activeWeights) trendSymbols
  let budgets ← allocation core view
  let s ← Backtest.read
  let eligible ← Backtest.evaluate (eligibleBuySymbols view rows s activeWeights)
  let planned ← Backtest.evaluate
    (core.allocateTrendBuyBudget activeWeights eligible budgets.trendUsdtPool)
  Backtest.each (trendEntry rates view rows planned) eligible

def multiplierOf (ahr : PyFloat) : ℕ :=
  if ahr.lt (.literal 450) then 5 else if ahr.lt (.literal 800) then 2
  else if ahr.lt (.literal 1200) then 1 else 0

/-- The DCA buy. -/
def dcaBuy (view : BarView) (rows : SignalRows) (dcaUsdtPool totalEquity price : PyFloat) :
    Backtest Unit := do
  let row := rows.row "BTCUSDT"
  let s ← Backtest.read
  if row.get "geom200" = .nan then return
  let multiplier := multiplierOf (frameDiv row.close (row.get "geom200"))
  if 0 < multiplier && (PyFloat.literal 15000).lt dcaUsdtPool && s.dcaLastBuyDate ≠ some view.today then do
    let baseOrder ← Backtest.evaluate (core.getDynamicBtcBaseOrder totalEquity)
    let budget := dcaUsdtPool.minimum (baseOrder.mul (.literal (1000 * multiplier)))
    let quantity ← Backtest.evaluate (boughtQuantity rates budget price)
    if (costOf rates quantity price).le s.cashUsdt then do
      recordTrade rates view rows "BTCUSDT" "buy" "dca_buy" quantity price
      .update fun s =>
        { s with positions := Function.update s.positions "BTCUSDT" ((s.positions "BTCUSDT").add quantity)
                 dcaLastBuyDate := some view.today }

def sellShare (zscore : PyFloat) : PyFloat :=
  if (PyFloat.literal 5000).lt zscore then .literal 500
  else if (PyFloat.literal 4000).lt zscore then .literal 300 else .literal 100

/-- The DCA reduction. -/
def dcaReduce (view : BarView) (rows : SignalRows) (dcaVal price : PyFloat) : Backtest Unit := do
  let row := rows.row "BTCUSDT"
  let s ← Backtest.read
  if (row.get "sell_trigger").lt (row.get "zscore") && (PyFloat.literal 20000).lt dcaVal
      && s.dcaLastSellDate ≠ some view.today then do
    let quantity := (s.positions "BTCUSDT").mul (sellShare (row.get "zscore"))
    if PyFloat.zero.lt quantity then do
      recordTrade rates view rows "BTCUSDT" "sell" "dca_reduce" quantity price
      .update fun s =>
        { s with positions := Function.update s.positions "BTCUSDT" ((s.positions "BTCUSDT").sub quantity)
                 dcaLastSellDate := some view.today }

/-- The trades of the bitcoin layer. -/
def dcaTrades (view : BarView) (rows : SignalRows) : Backtest Unit := do
  let s ← Backtest.read
  let values := view.values s
  let budgets ← allocation core view
  match view.executablePrice "BTCUSDT" with
  | none => return
  | some price =>
    if PyFloat.zero.lt (rows.row "BTCUSDT").close then do
      dcaBuy core rates view rows budgets.dcaUsdtPool values.2.2 price
      dcaReduce rates view rows values.2.1 price

/-- The trades of a bar that has one before it. -/
def signalTrades (view : BarView) (rows : SignalRows) : Backtest Unit := do
  let gate := btcGateOn (rows.row "BTCUSDT")
  let activeWeights ← selectRotationWeights core strategy rows gate
  let _ ← getCandidatePool core strategy rows
  let s ← Backtest.read
  if s.isCircuitBroken then pure () else trendTrades core rates view rows activeWeights
  dcaTrades core rates view rows

/-- The bar up to its trades; the total equity before them is the first bar's point. -/
def openBar (view : BarView) : Backtest PyFloat := do
  seeRows view
  let _ ← allocation core view
  let s ← Backtest.read
  let values := view.values s
  dailyRisk view
  Backtest.each (circuitExit rates view) trendSymbols
  match view.rows with
  | none => pure ()
  | some rows => signalTrades core strategy rates view rows
  return values.2.2

/-- What is known of a bar when it is published: the closes available by then. -/
structure BarClose where
  published : BarTime
  closes : String → PyFloat

def markClose (closing : BarClose) : Backtest Unit :=
  .update fun s =>
    let closes : String → PyFloat := fun symbol =>
      if symbol ∈ allSymbols && closing.closes symbol ≠ .nan then closing.closes symbol
      else s.lastAvailableClose symbol
    { s with lastAvailableClose := closes
             equityCurve := s.equityCurve
               ++ [(closing.published, s.cashUsdt.add (positionTotal allSymbols s.positions closes))] }

def simulateBar (view : BarView) (closing : BarClose) : Backtest Unit := do
  let totalEquity ← openBar core strategy rates view
  match view.rows with
  | none => .update fun s => { s with equityCurve := s.equityCurve ++ [(closing.published, totalEquity)] }
  | some _ => markClose closing

/-! ## The window -/

def barView (marketData : MarketData) (idx : ℕ) : BarView :=
  let ts := (barAt marketData "BTCUSDT" idx).time
  { ts
    opens := fun symbol => (barAt marketData symbol idx).openPrice
    rows := if idx = 0 then none
      else some { signalTime := (barAt marketData "BTCUSDT" (idx - 1)).time
                  row := fun symbol => signalRow ts (barAt marketData symbol (idx - 1)) } }

/-- `base_available.iloc[idx]`; a bar of the window has one. -/
def publishedAt (marketData : MarketData) (idx : ℕ) : BarTime :=
  ((barAt marketData "BTCUSDT" idx).available).getD 0

def barClose (marketData : MarketData) (idx : ℕ) : BarClose where
  published := publishedAt marketData idx
  closes := fun symbol =>
    match (barAt marketData symbol idx).available with
    | none => .nan
    | some available =>
      if available ≤ publishedAt marketData idx then (barAt marketData symbol idx).close else .nan

/-- `idxs`. -/
def windowBars (marketData : MarketData) (start end_ : BarTime) : List ℕ :=
  (List.range (marketData "BTCUSDT").length).filter fun idx =>
    let bar := barAt marketData "BTCUSDT" idx
    start ≤ bar.time && bar.available.any (· ≤ end_)

def simulateBars (marketData : MarketData) (idxs : List ℕ) : Backtest Unit :=
  Backtest.each (fun idx =>
    simulateBar core strategy rates (barView marketData idx) (barClose marketData idx)) idxs

def initialCapital : PyFloat := .literal 10000000

def initialBacktest (start : BarTime) : BacktestState where
  positions := fun _ => .zero
  trendState := fun _ => closedTrend
  cashUsdt := initialCapital
  dcaLastBuyDate := none
  dcaLastSellDate := none
  dailyEquityBase := .zero
  dailyTrendEquityBase := .zero
  lastResetDate := none
  isCircuitBroken := false
  pendingCircuitExits := fun _ => false
  poolState := ⟨none, none⟩
  lastAvailableClose := fun _ => .nan
  equityCurve := [(start, initialCapital)]
  tradeLedger := []

def validRate (rate : PyFloat) : Bool := rate.isFinite && PyFloat.zero.le rate && rate.lt one

/-- `market_data[symbol]["time"].equals(base_index)` of every symbol. -/
def aligned (marketData : MarketData) : Bool :=
  allSymbols.all fun symbol =>
    (marketData symbol).map Bar.time = (marketData "BTCUSDT").map Bar.time

/-- `simulate_window`, up to its report: the state at the end of the loop. -/
def simulateWindow (start end_ : BarTime) (marketData : MarketData) : Except PyException BacktestState := do
  require (validRate rates.feeRate && validRate rates.slippageRate)
    (valueError "fee/slippage rates must be finite per-side fractions in [0, 1)")
  require (start ≤ end_) (valueError "end must not precede start")
  require (aligned marketData) (valueError "unaligned hourly timeline")
  match simulateBars core strategy rates marketData (windowBars marketData start end_)
    (initialBacktest start) with
  | (.ok _, s) => return s
  | (.error raised, _) => throw raised

end Loop
end BinancePlatform.Source
