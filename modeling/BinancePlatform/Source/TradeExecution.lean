import BinancePlatform.Source.FillAccounting
import BinancePlatform.Source.SymbolRecords
import BinancePlatform.Library.Effects

/-!
# Order execution

`application/execution_service.py`, with `top_up_bnb_fuel` of
`market_snapshot_support.py`, `ensure_asset_available_runtime` of
`infra/binance_runtime.py` and the call layer of `runtime_support.py`. A function
is a program over the account and the list of its effects. The broker, the store
and the notifier are given by `ExecutionRuntime`; the intents, the gating events
and the texts of the report are left out.
-/

set_option autoImplicit false

namespace BinancePlatform.Source
open BinancePlatform.Library

namespace PyFloat

/-- `x <= y`, false of a NaN. -/
def le (x y : PyFloat) : Bool := x ≠ .nan && y ≠ .nan && !y.lt x

/-- `min(x, y)` keeps its first argument unless the second is less. -/
def minimum (x y : PyFloat) : PyFloat := if y.lt x then y else x

/-- A literal with at most three decimals. -/
def literal (thousandths : ℕ) : PyFloat := nearest false (thousandths / 1000)

end PyFloat

/-! ## Decisions and orders -/

/-- The parts of a `StrategyDecision` that are mapped to trades. -/
structure StrategyDecision where
  /-- The name and the target weight of a position. -/
  positions : List (String × Option PyFloat)
  /-- The name and the amount of a budget. -/
  budgets : List (String × Option PyFloat)
  riskFlags : List String
  diagnostics : Document

/-- The four evaluations of one cycle. -/
inductive Evaluation where
  | preTrade
  | sellPlan
  | postSellPlan
  | postTrade
  deriving DecidableEq, Repr

inductive OrderSize where
  | quantity (qty : PyFloat)
  | quoteOrderQty (amount : PyFloat)
  deriving DecidableEq

/-- The method and the payload of an `order_*` call. -/
structure OrderRequest where
  methodName : String
  symbol : String
  size : OrderSize
  newClientOrderId : Option String
  deriving DecidableEq

def OrderSize.field : OrderSize → String × Value
  | .quantity qty => ("quantity", .float qty)
  | .quoteOrderQty amount => ("quoteOrderQty", .float amount)

def OrderRequest.payload (order : OrderRequest) : Document :=
  ⟨("symbol", .str order.symbol) :: order.size.field ::
    (order.newClientOrderId.map fun id => ("newClientOrderId", Value.str id)).toList⟩

/-- What the cycle asks of the world outside, in order. -/
inductive Effect where
  | evaluated (evaluation : Evaluation) (decision : StrategyDecision)
  | clientRead (method subject : String)
  /-- A call of `runtime_call_client`; not executed when it is suppressed. -/
  | clientCall (executed : Bool) (order : OrderRequest)
  /-- `_resolve_fill` gives the fill of an order. -/
  | filled (order : OrderRequest) (fill : Fill)
  | stateWrite (executed : Bool) (reason : String)
  | ownerClaim
  | notification (text : String)

/-- The documents and amounts that the execution functions pass on. -/
structure Account where
  state : Document
  balances : Balances
  uTotal : PyFloat

structure TradingState where
  account : Account
  orderSequence : ℕ
  effects : List Effect

/-- The runtime flags and what answers a cycle's calls. -/
structure ExecutionRuntime where
  dryRun : Bool
  standardExecutionPermitted : Bool
  safeRunId : String
  formatQty : String → PyFloat → Account → Except PyException PyFloat
  /-- `float(client.get_asset_balance(asset)["free"])` -/
  spotFree : String → Account → Except PyException PyFloat
  /-- `runtime_call_client` past its suppression test -/
  submit : OrderRequest → Account → Except PyException Value × Account
  /-- `runtime_set_trade_state` past its suppression test -/
  persist : String → Account → Except PyException Unit
  notify : String → Account → Except PyException Unit

abbrev Trading := Program PyException TradingState

def recordEffect (effect : Effect) : Trading Unit := .update fun s =>
  { s with effects := s.effects ++ [effect] }

def getAccount : Trading Account := fun s => (.ok s.account, s)

def onAccount (f : Account → Account) : Trading Unit := .update fun s =>
  { s with account := f s.account }

/-- An expression that changes nothing and may raise. -/
def returns {α : Type} (outcome : Except PyException α) : Trading α := fun s => (outcome, s)

/-- `except ExecutionIntegrityError: raise` and `except Exception: failed`. -/
def exceptFailed {α : Type} (body failed : Trading α) : Trading α := fun s =>
  match body s with
  | (.ok value, reached) => (.ok value, reached)
  | (.error raised, reached) =>
    if raised.cls.isA .executionIntegrityError then (.error raised, reached) else failed reached

/-- `for x in xs: body(x)`. -/
def forEach {α : Type} (body : α → Trading Unit) : List α → Trading Unit
  | [] => pure ()
  | x :: xs => do
    body x
    forEach body xs

/-- `next_order_id`. -/
def nextOrderId (safeRunId label symbol : String) : Trading String := fun s =>
  let digits := NumberText.natText (s.orderSequence + 1)
  let padded := String.ofList (List.replicate (3 - digits.length) '0' ++ digits)
  (.ok (label ++ "_" ++ symbol ++ "_" ++ safeRunId ++ "_" ++ padded),
    { s with orderSequence := s.orderSequence + 1 })

/-! ## The call layer -/

section Calls
variable (runtime : ExecutionRuntime)

/-- `runtime.dry_run or not runtime.standard_execution_permitted`. -/
def ExecutionRuntime.suppressed : Bool := runtime.dryRun || !runtime.standardExecutionPermitted

def suppressedResponse (order : OrderRequest) : Value :=
  .dict ⟨[("status", .str "suppressed"), ("method", .str order.methodName),
    ("payload", .dict order.payload)]⟩

/-- `runtime_call_client` for an order. -/
def runtimeCallClient (order : OrderRequest) : Trading Value :=
  if runtime.suppressed then do
    recordEffect (.clientCall false order)
    pure (suppressedResponse order)
  else do
    recordEffect (.clientCall true order)
    fun s => ((runtime.submit order s.account).1, { s with account := (runtime.submit order s.account).2 })

/-- `runtime_set_trade_state`. -/
def setTradeState (reason : String) : Trading Unit :=
  if runtime.suppressed then recordEffect (.stateWrite false reason)
  else do
    recordEffect (.stateWrite true reason)
    let account ← getAccount
    returns (runtime.persist reason account)

def notification (text : String) : Trading Unit := do
  recordEffect (.notification text)
  let account ← getAccount
  returns (runtime.notify text account)

def formatQty (symbol : String) (qty : PyFloat) : Trading PyFloat := do
  recordEffect (.clientRead "get_symbol_info" symbol)
  let account ← getAccount
  returns (runtime.formatQty symbol qty account)

def assetAvailabilityFailed : PyException := ⟨.executionIntegrityError, "asset_availability_failed"⟩

/-- The checks on the free Spot balance; whatever the read raises becomes one error. -/
def checkAvailable (required : PyFloat) : Except PyException PyFloat → Except PyException Bool
  | .error _ => .error assetAvailabilityFailed
  | .ok spotFree => do
    require (spotFree.isFinite && !spotFree.isNegative && required.isFinite && required.isPositive)
      assetAvailabilityFailed
    return required.le spotFree

/-- `ensure_asset_available_runtime`. -/
def ensureAssetAvailable (asset : String) (required : PyFloat) : Trading Bool := do
  recordEffect (.clientRead "get_asset_balance" asset)
  let account ← getAccount
  returns (checkAvailable required (runtime.spotFree asset account))

end Calls

/-! ## Accounting of a fill -/

/-- `prices[symbol]`. -/
def priceOf (prices : Document) (symbol : String) : Except PyException PyFloat :=
  match prices.get? symbol with
  | some (.float price) => .ok price
  | some _ => .error typeError
  | none => .error keyError

/-- `balances[symbol]`. -/
def balanceOf (balances : Balances) (symbol : String) : Except PyException PyFloat :=
  (balances.get? symbol).elim (.error keyError) .ok

/-- `symbol[:-4]`. -/
def withoutQuote (symbol : String) : String :=
  String.ofList (symbol.toList.take (symbol.toList.length - 4))

def estimatedFill (symbol : String) (qty price : PyFloat) : Fill where
  executedQty := qty
  quoteQty := qty.mul price
  averagePrice := price
  baseAsset := withoutQuote symbol
  baseFee := .zero
  quoteFee := .zero
  thirdFees := .empty
  thirdFeeUsdt := .zero

/-- `float(state.get(key, 0.0))`. -/
def stateFloat (state : Document) (key : String) : Except PyException PyFloat :=
  ((state.get? key).getD zeroFloat).toFloat

/-- `state[key] = value`, where computing the value may raise. -/
def setField (key : String) (value : Document → Except PyException PyFloat) : Trading Unit := do
  let account ← getAccount
  let x ← returns (value account.state)
  onAccount fun account => { account with state := account.state.set key (.float x) }

def riskBase (state : Document) : Except PyException PyFloat := do
  let openingBase ← (((state.get? "daily_trend_equity_base").getD zeroFloat).orElse zeroFloat).toFloat
  let netInvested ← stateFloat state "daily_trend_net_invested_usdt"
  let recorded ← (((state.get? "daily_trend_risk_base_usdt").getD (.float openingBase)).orElse
    zeroFloat).toFloat
  return recorded.maximum (openingBase.add (PyFloat.zero.maximum netInvested))

/-- `_record_trend_fill`, on the state as the floats it holds. -/
def recordLiveTrendFill (fill : Fill) (quoteDelta : PyFloat) : Trading Unit := do
  setField "daily_trend_cash_flow_usdt" fun state =>
    (stateFloat state "daily_trend_cash_flow_usdt").map (·.add quoteDelta)
  setField "daily_trend_net_invested_usdt" fun state =>
    (stateFloat state "daily_trend_net_invested_usdt").map
      (·.add (if quoteDelta.lt .zero then fill.quoteQty else fill.quoteQty.neg))
  setField "daily_trend_risk_base_usdt" riskBase
  setField "daily_trend_third_fee_usdt" fun state =>
    (stateFloat state "daily_trend_third_fee_usdt").map (·.add fill.thirdFeeUsdt)

/-- `_apply_fill_balances`, with the quote change as its result. -/
def applyFill (fill : Fill) (side symbol : String) : Trading PyFloat := do
  let account ← getAccount
  let applied ← returns (applyFillBalances fill side symbol account.balances account.uTotal)
  onAccount fun account => { account with balances := applied.1, uTotal := applied.2.1 }
  pure applied.2.2

/-- The snapshot part of `_prepare_accounting_state`. -/
def refreshedSnapshot (account : Account) (symbol baseAsset : String) : Except PyException Value :=
  match (account.state.get? lastBalanceSnapshotKey).getD (.dict .empty) with
  | .dict snapshot =>
    (refreshSnapshot snapshot symbol baseAsset account.balances account.uTotal).map .dict
  | other => .ok other

section Text
variable [CharacterTable]

/-- `_prepare_accounting_state`; the refreshed snapshot stays if the rest raises. -/
def prepareAccounting (symbol baseAsset : String) : Trading Unit := do
  let account ← getAccount
  let snapshot ← returns (refreshedSnapshot account symbol baseAsset)
  onAccount fun account => { account with state := account.state.set lastBalanceSnapshotKey snapshot }
  let refreshed ← getAccount
  let settled ← returns (settleKnownFill refreshed.state)
  onAccount fun account => { account with state := settled }

/-- `_resolve_fill`. -/
def resolveFill (runtime : ExecutionRuntime) (prices : Document) (response : Value)
    (symbol side : String) (qty price : PyFloat) : Except PyException Fill :=
  if runtime.dryRun then .ok (estimatedFill symbol qty price)
  else parseFilledOrder response symbol side prices

/-- The broker call of an order and the fill that answers it. -/
def placeOrder (runtime : ExecutionRuntime) (prices : Document) (order : OrderRequest) (side : String)
    (qty price : PyFloat) : Trading Fill := do
  let response ← runtimeCallClient runtime order
  let fill ← returns (resolveFill runtime prices response order.symbol side qty price)
  recordEffect (.filled order fill)
  pure fill

/-! ## The trend actions of a day -/

/-- `should_skip_duplicate_trend_action`. -/
def shouldSkipDuplicateTrendAction (state : Document) (symbol action actionDate : String) : Bool :=
  match (state.get? trendPoolActionHistoryKey).getD (.dict .empty) with
  | .dict history =>
    match (history.get? symbol).getD (.dict .empty) with
    | .dict last =>
      ((last.get? "action").getD (.str "")).toStr = action
        && ((last.get? "date").getD (.str "")).toStr = actionDate
    | _ => false
  | _ => false

end Text

/-- `record_trend_action`; a history that is no mapping is started anew. -/
def recordTrendAction (state : Document) (symbol action actionDate : String) : Document :=
  let history := match state.get? trendPoolActionHistoryKey with
    | some (.dict history) => history
    | _ => .empty
  state.set trendPoolActionHistoryKey (.dict (history.set symbol
    (.dict ⟨[("action", .str action), ("date", .str actionDate)]⟩)))

def closedPosition : Value := .dict (symbolState false .zero .zero)

def openedPosition (price : PyFloat) : Value := .dict (symbolState true price price)

def unavailable (text : String) : PyException := ⟨.runtimeError, text⟩

/-! ## The execution functions -/

section Execution
variable [CharacterTable] (runtime : ExecutionRuntime) (prices : Document)
  (trendUniverse : TrendUniverse)

/-- A trend fill enters the balances, the daily trend totals, the snapshot and the
record of its symbol. -/
def accountTrendFill (fill : Fill) (side symbol baseAsset : String) (position : Value) :
    Trading Unit := do
  let quoteDelta ← applyFill fill side symbol
  recordLiveTrendFill fill quoteDelta
  prepareAccounting symbol baseAsset
  let account ← getAccount
  let state ← returns (setSymbolTradeState trendUniverse account.state symbol position)
  onAccount fun account => { account with state := state }

/-- The `try` block of one symbol in `run_daily_circuit_breaker`. -/
def breakerOrder (symbol baseAsset : String) (qty price : PyFloat) : Trading Unit :=
  if qty.le .zero then notification runtime "circuit_breaker_sell_skipped"
  else do
    let available ← ensureAssetAvailable runtime baseAsset qty
    if available then do
      let fill ← placeOrder runtime prices ⟨"order_market_sell", symbol, .quantity qty, none⟩ "SELL" qty price
      accountTrendFill trendUniverse fill "SELL" symbol baseAsset closedPosition
    else .leave (unavailable "asset_unavailable_for_circuit_breaker_sell")

/-- One symbol of `run_daily_circuit_breaker`. -/
def breakerSell (entry : String × String) : Trading Unit := do
  let account ← getAccount
  let tradableQty ← returns (balanceOf account.balances entry.1)
  let price ← returns (priceOf prices entry.1)
  if (tradableQty.mul price).le (.literal 10000) then pure ()
  else do
    let qty ← formatQty runtime entry.1 tradableQty
    exceptFailed (breakerOrder runtime prices trendUniverse entry.1 entry.2 qty price)
      (notification runtime "circuit_breaker_sell_failed")

/-- The latch, with the whole snapshot rebuilt. -/
def breakCircuit (runtimeTrendUniverse : UniverseMapping) (account : Account) : Account :=
  let snapshot := buildBalanceSnapshot runtimeTrendUniverse account.balances account.uTotal
  let latched := account.state.set "is_circuit_broken" (.bool true)
  { account with state := latched.set lastBalanceSnapshotKey (.dict snapshot) }

def runDailyCircuitBreaker (runtimeTrendUniverse : UniverseMapping)
    (trendDailyPnl circuitBreakerPct : PyFloat) : Trading Bool :=
  if circuitBreakerPct.lt trendDailyPnl then pure false
  else do
    forEach (breakerSell runtime prices trendUniverse) runtimeTrendUniverse.items
    onAccount (breakCircuit runtimeTrendUniverse)
    setTradeState runtime "daily_circuit_breaker"
    notification runtime "circuit_msg"
    pure true

/-- The action is recorded with the fill and both are persisted. -/
def recordAction (symbol action todayId : String) : Trading Unit := do
  onAccount fun account =>
    { account with state := recordTrendAction account.state symbol action todayId }
  setTradeState runtime ("trend_" ++ action ++ ":" ++ symbol)
  notification runtime ("trend_" ++ action)

/-- The `try` block of one symbol in `execute_trend_sells`. -/
def trendSellOrder (symbol baseAsset todayId : String) (qty price : PyFloat) : Trading Unit :=
  if qty.le .zero then notification runtime "trend_sell_skipped"
  else do
    let available ← ensureAssetAvailable runtime baseAsset qty
    if available then do
      let id ← nextOrderId runtime.safeRunId "T_SELL" symbol
      let fill ← placeOrder runtime prices ⟨"order_market_sell", symbol, .quantity qty, some id⟩ "SELL" qty price
      accountTrendFill trendUniverse fill "SELL" symbol baseAsset closedPosition
      recordAction runtime symbol "sell" todayId
    else .leave (unavailable "asset_unavailable_for_trend_sell")

/-- One symbol of `execute_trend_sells`. -/
def trendSell (sellReasons : Dict String String) (todayId : String) (entry : String × String) :
    Trading Unit := do
  let account ← getAccount
  let price ← returns (priceOf prices entry.1)
  if strip ((sellReasons.get? entry.1).getD "") = "" then pure ()
  else if shouldSkipDuplicateTrendAction account.state entry.1 "sell" todayId then pure ()
  else do
    let held ← returns (balanceOf account.balances entry.1)
    let qty ← formatQty runtime entry.1 held
    exceptFailed (trendSellOrder runtime prices trendUniverse entry.1 entry.2 todayId qty price)
      (notification runtime "trend_sell_failed")

def executeTrendSells (runtimeTrendUniverse : UniverseMapping) (sellReasons : Dict String String)
    (todayId : String) : Trading Unit :=
  forEach (trendSell runtime prices trendUniverse sellReasons todayId) runtimeTrendUniverse.items

/-- The `try` block of one symbol in `execute_trend_buys`. -/
def trendBuyOrder (symbol todayId : String) (qty price : PyFloat) : Trading Unit :=
  if qty.le .zero || (qty.mul price).le .zero then notification runtime "trend_buy_skipped"
  else do
    let available ← ensureAssetAvailable runtime "USDT" (qty.mul price)
    if available then do
      let id ← nextOrderId runtime.safeRunId "T_BUY" symbol
      let fill ← placeOrder runtime prices ⟨"order_market_buy", symbol, .quantity qty, some id⟩ "BUY" qty price
      accountTrendFill trendUniverse fill "BUY" symbol fill.baseAsset (openedPosition fill.averagePrice)
      recordAction runtime symbol "buy" todayId
    else .leave (unavailable "usdt_unavailable_for_trend_buy")

/-- One symbol of `execute_trend_buys`. -/
def trendBuy {Candidate : Type} (selectedCandidates : Dict String Candidate)
    (plannedTrendBuys : Dict String PyFloat) (todayId symbol : String) : Trading Unit := do
  let account ← getAccount
  let price ← returns (priceOf prices symbol)
  let _ ← returns ((selectedCandidates.get? symbol).elim (.error keyError) .ok)
  let buyU := (plannedTrendBuys.get? symbol).getD .zero
  if buyU.le (.literal 15000) then pure ()
  else if shouldSkipDuplicateTrendAction account.state symbol "buy" todayId then pure ()
  else do
    let size ← returns ((buyU.mul (.literal 985)).div price)
    let qty ← formatQty runtime symbol size
    exceptFailed (trendBuyOrder runtime prices trendUniverse symbol todayId qty price)
      (notification runtime "trend_buy_failed")

def executeTrendBuys {Candidate : Type} (selectedCandidates : Dict String Candidate)
    (eligibleBuySymbols : List String) (plannedTrendBuys : Dict String PyFloat) (todayId : String) :
    Trading Unit :=
  forEach (trendBuy runtime prices trendUniverse selectedCandidates plannedTrendBuys todayId)
    eligibleBuySymbols

/-! ### The Bitcoin leg -/

/-- The fields of the BTC snapshot that the leg reads. -/
structure BtcSnapshot where
  ahr999 : PyFloat
  zscore : PyFloat
  sellTrigger : PyFloat

/-- `_resolve_btc_buy_multiplier`. -/
def resolveBtcBuyMultiplier (ahr : PyFloat) : ℕ :=
  if ahr.lt (.literal 450) then 5
  else if ahr.lt (.literal 800) then 2
  else if ahr.lt (.literal 1200) then 1
  else 0

def btcStrategyAttributionUnavailable : PyException :=
  ⟨.executionIntegrityError, "btc_strategy_attribution_unavailable"⟩

/-- The `try` block of the buy in `execute_btc_dca_cycle`. -/
def btcBuyOrder (todayId : String) (qty price : PyFloat) : Trading Unit :=
  if qty.le .zero || (qty.mul price).le .zero then notification runtime "btc_dca_buy_skipped"
  else do
    let available ← ensureAssetAvailable runtime "USDT" (qty.mul price)
    if available then do
      let id ← nextOrderId runtime.safeRunId "D_BUY" "BTCUSDT"
      let fill ← placeOrder runtime prices ⟨"order_market_buy", "BTCUSDT", .quantity qty, some id⟩ "BUY" qty price
      let _ ← applyFill fill "BUY" "BTCUSDT"
      prepareAccounting "BTCUSDT" "BTC"
      onAccount fun account => { account with state := account.state.set "dca_last_buy_date" (.str todayId) }
      notification runtime "btc_dca_buy"
      setTradeState runtime "btc_dca_buy"
    else .leave (unavailable "usdt_unavailable_for_btc_dca_buy")

/-- `min(dca_usdt_pool, base_order * multiplier)`. -/
def btcBuyBudget (dcaUsdtPool btcBaseOrderUsdt ahr : PyFloat) : PyFloat :=
  dcaUsdtPool.minimum (btcBaseOrderUsdt.mul (.literal (1000 * resolveBtcBuyMultiplier ahr)))

def btcBuy (dcaUsdtPool btcBaseOrderUsdt ahr : PyFloat) (todayId : String) (price : PyFloat) :
    Trading Unit := do
  let account ← getAccount
  if 0 < resolveBtcBuyMultiplier ahr && (PyFloat.literal 15000).lt dcaUsdtPool
      && !(pyGet account.state "dca_last_buy_date").isStr todayId then do
    let size ← returns (((btcBuyBudget dcaUsdtPool btcBaseOrderUsdt ahr).mul (.literal 985)).div price)
    let qty ← formatQty runtime "BTCUSDT" size
    exceptFailed (btcBuyOrder runtime prices todayId qty price)
      (notification runtime "btc_dca_buy_failed")
  else pure ()

/-- A trim is refused before anything of it is done: `_require_btc_strategy_attribution`
always raises. -/
def btcTrim (btc : BtcSnapshot) (dcaVal : PyFloat) (todayId : String) : Trading Unit := do
  let account ← getAccount
  if btc.sellTrigger.lt btc.zscore && (PyFloat.literal 20000).lt dcaVal
      && !(pyGet account.state "dca_last_sell_date").isStr todayId then
    .leave btcStrategyAttributionUnavailable
  else pure ()

def executeBtcDcaCycle (dcaUsdtPool dcaVal btcBaseOrderUsdt : PyFloat) (btc : BtcSnapshot)
    (todayId : String) : Trading Unit :=
  if dcaUsdtPool.le (.literal 10000) && dcaVal.le (.literal 10000) then pure ()
  else do
    let price ← returns (priceOf prices "BTCUSDT")
    btcBuy runtime prices dcaUsdtPool btcBaseOrderUsdt btc.ahr999 todayId price
    btcTrim btc dcaVal todayId

/-! ### The fuel leg -/

def bnbFuelSymbol : String := "BNBUSDT"

/-- `str(response.get("status", "")).upper() == "FILLED"`. -/
def isFilledResponse : Value → Bool
  | .dict order => upperText ((order.get? "status").getD (.str "")).toStr = "FILLED"
  | _ => false

/-- The `try` block of `top_up_bnb_fuel`. -/
def fuelOrder (buyBnbAmount : PyFloat) : Trading String := do
  let available ← ensureAssetAvailable runtime "USDT" buyBnbAmount
  if available then do
    let response ← runtimeCallClient runtime
      ⟨"order_market_buy", bnbFuelSymbol, .quoteOrderQty buyBnbAmount, none⟩
    pure (if isFilledResponse response then "filled_pending_snapshot" else "unconfirmed")
  else .leave (unavailable "usdt_spot_buffer_unavailable_for_bnb_top_up")

def topUpBnbFuel (fuelVal minBnbValue buyBnbAmount : PyFloat) : Trading String := do
  let account ← getAccount
  if minBnbValue.le fuelVal || account.uTotal.lt buyBnbAmount then pure "ready"
  else exceptFailed (fuelOrder runtime buyBnbAmount) (do
    notification runtime "bnb_top_up_failed"
    pure "unconfirmed")

end Execution

end BinancePlatform.Source
