import BinancePlatform.Source.TradingCycle
import BinancePlatform.Source.StrategyCycle
import BinancePlatform.Source.Equality
import BinancePlatform.Library.Callouts

/-!
# Notifications among the durable writes

The functions of `execution_service.py` and `cycle_service.py` that notify, write
the state or submit an order, over what outlives the cycle: the committed states,
`pending_funds` and the owner. The notifier is `runtime_notify` as the cycle is given
it, and the listener, who answers every call anew; only the status report reads the
answer, and of the others it matters whether they raise. `routine_notification` and
`immediate_notification` stand between the execution functions and the notifier; what
they ask of the environment and the stores are parameters of the runtime. What neither
notifies nor writes is `reading` of the execution model. The submission of an order,
with its own commits and pending funds, is a parameter.
-/

set_option autoImplicit false

namespace BinancePlatform.Source.Notified
open BinancePlatform.Library
open BinancePlatform.Library.Telling (onState ask tell rescue attempt each)

/-! ## What outlives the cycle -/

/-- An entry of `runtime.pending_funds`. -/
structure PendingFund where
  confirmed : Bool
  action : String
  symbol : Option String
  asset : Option String
  deriving DecidableEq

structure Commit where
  reason : String
  state : Document

structure Ledger where
  account : Account
  orderSequence : ℕ
  commits : List Commit
  pendingFunds : List PendingFund
  stateOwnerHeld : Bool
  /-- `state_owner_release` was called and returned true. -/
  stateOwnerReleased : Bool
  stateHealthy : Bool
  failureStage : Stage

/-- The places a notification is sent from, with its text. -/
inductive Notice where
  /-- No order is placed; the last act of a `try` block. -/
  | orderSkipped (text : String)
  /-- After the write of a trend trade; the last act of a `try` block. -/
  | tradeMade (text : String)
  /-- Between the fill of a BTC buy and its write. -/
  | btcBuyMade
  /-- `_coverage_message()`, for a routine notice that no candidate holds. -/
  | coverageFailure
  /-- An incident that the marker store reserved. -/
  | reserved (notice : Notice)
  /-- In the handler of a `try` block. -/
  | orderFailed (text : String)
  /-- After the write of the circuit breaker, in no `try` block of its own. -/
  | circuitBroken
  /-- `maybe_send_periodic_btc_status_report`, the one notification whose answer is read. -/
  | statusReport
  | stage (text : String)
  /-- `system_crash`, in a `try` block whose handler passes. -/
  | systemCrash

abbrev Notifier := Listener Ledger Notice PyException

abbrev Notifying (α : Type) := Telling Ledger Notice PyException α

/-- The runtime flags and what answers a cycle's calls. -/
structure DurableRuntime where
  dryRun : Bool
  standardExecutionPermitted : Bool
  safeRunId : String
  formatQty : String → PyFloat → Account → Except PyException PyFloat
  spotFree : String → Account → Except PyException PyFloat
  /-- `runtime_call_client` past its suppression test -/
  submit : OrderRequest → Ledger → Except PyException Value × Ledger
  /-- `bound_state_access` is set, and below `access.ensure_active()` returns. -/
  boundStateAccess : Bool
  ensureActive : Ledger → Bool
  /-- `persisted is True` -/
  persist : String → Ledger → Bool
  /-- `runtime.now_utc.strftime("%Y%m%d")` -/
  today : String
  nowHour : ℕ
  btcStatusReportIntervalHours : ℤ
  cashBalanceObservation : Ledger → Document
  /-- `state_owner_release(owner_id) is True` -/
  stateOwnerRelease : Ledger → Bool
  /-- `pure_daily_state_failure` past the flag and the stage: the reason code, the
  record of the order and the counters. -/
  pureDailyStateFailure : Ledger → Bool
  /-- `unified.enabled()` -/
  unifiedNotifications : Bool
  /-- The identity and the event of a notice are built without an exception. -/
  eventKnown : Notice → Bool
  /-- `persist_candidate` wrote the candidate of a routine notice. -/
  candidatePersisted : Notice → Heard Ledger Notice PyException → Bool
  /-- `tracker.observe` decided that an incident is sent. -/
  incidentReserved : Notice → Heard Ledger Notice PyException → Bool

/-! ## The programs that do not notify -/

/-- A part of the execution model that neither orders, writes nor notifies. -/
def reading {α : Type} (part : Trading α) : Notifying α := onState fun ledger =>
  let ran := part ⟨ledger.account, ledger.orderSequence, []⟩
  (ran.1, { ledger with account := ran.2.account, orderSequence := ran.2.orderSequence })

def getLedger : Notifying Ledger := onState fun ledger => (.ok ledger, ledger)

def onLedger (f : Ledger → Ledger) : Notifying Unit := onState fun ledger => (.ok (), f ledger)

def raising {α : Type} (raised : PyException) : Notifying α := onState fun ledger => (.error raised, ledger)

def enter (stage : Stage) : Notifying Unit := onLedger fun ledger => { ledger with failureStage := stage }

def setStateHealthy (healthy : Bool) : Notifying Unit := onLedger fun ledger =>
  { ledger with stateHealthy := healthy }

/-- `except ExecutionIntegrityError: raise` and `except Exception`. -/
def handled (raised : PyException) : Bool := !raised.cls.isA .executionIntegrityError

def statePersistenceFailed : PyException := ⟨.statePersistenceError, "state_persistence_failed"⟩

def stateOwnerAlreadyHeld : PyException := ⟨.statePersistenceError, "state_owner_already_held"⟩

/-- `_accounted_funds`. -/
def accountedFunds (today : String) (observed state : Document) (reason : String) (item : PendingFund) :
    Except PyException Bool :=
  if !item.confirmed then .ok false
  else if reason = "trend_" ++ item.action ++ ":" ++ item.symbol.getD "None" then do
    let history ← asMapping attributeError ((state.get? trendPoolActionHistoryKey).getD (.dict .empty))
    return (item.symbol.elim .none (pyGet history)).equals
      (.dict ⟨[("action", .str item.action), ("date", .str today)]⟩)
  else if reason = "btc_dca_" ++ item.action ∧ item.symbol = some "BTCUSDT" then
    .ok ((pyGet state ("dca_last_" ++ item.action ++ "_date")).isStr today)
  else if reason = "daily_circuit_breaker" ∧ item.action = "sell" then
    match pyGet state "is_circuit_broken", pyGet state lastBalanceSnapshotKey with
    | .bool true, .dict _ => .ok true
    | _, _ => .ok false
  else match item.asset with
    | none => .ok false
    | some asset =>
      if asset ≠ "" ∧ observed.contains asset ∧ reason ∈ ["cycle_complete", "cash_reconciliation"] then do
        let snapshot ← asMapping attributeError ((state.get? lastBalanceSnapshotKey).getD (.dict .empty))
        return observed.items.all fun entry => (pyGet snapshot entry.1).equals entry.2
      else .ok false

/-- `[item for item in runtime.pending_funds if not _accounted_funds(...)]`. -/
def unaccounted (accounted : PendingFund → Except PyException Bool) :
    List PendingFund → Except PyException (List PendingFund)
  | [] => .ok []
  | item :: rest => do
    let gone ← accounted item
    let kept ← unaccounted accounted rest
    return if gone then kept else item :: kept

section Owner
variable (runtime : DurableRuntime)

def DurableRuntime.suppressed : Bool := runtime.dryRun || !runtime.standardExecutionPermitted

/-- `require_runtime_state_owner`. -/
def requireStateOwner (ledger : Ledger) : Except PyException Unit × Ledger :=
  if !ledger.stateOwnerHeld then (.error statePersistenceFailed, ledger)
  else if runtime.boundStateAccess && !runtime.ensureActive ledger then
    (.error statePersistenceFailed, { ledger with stateOwnerHeld := false })
  else (.ok (), ledger)

/-- The write of `runtime_set_trade_state` and the pending funds that it accounts. -/
def commitState (reason : String) (ledger : Ledger) : Except PyException Unit × Ledger :=
  if !runtime.persist reason ledger then
    (.error statePersistenceFailed,
      { ledger with stateOwnerHeld := ledger.stateOwnerHeld && !runtime.boundStateAccess })
  else
    let committed := { ledger with commits := ledger.commits ++ [⟨reason, ledger.account.state⟩] }
    match unaccounted (accountedFunds runtime.today (runtime.cashBalanceObservation ledger)
        ledger.account.state reason) ledger.pendingFunds with
    | .ok kept => (.ok (), { committed with pendingFunds := kept })
    | .error raised => (.error raised, committed)

/-- `runtime_set_trade_state`, for the reasons that come without an interval. -/
def setTradeState (reason : String) : Notifying Unit :=
  if runtime.suppressed then pure ()
  else do
    onState (requireStateOwner runtime)
    onState (commitState runtime reason)

/-- `release_runtime_state_owner`. -/
def releaseStateOwner (ledger : Ledger) : Ledger :=
  match requireStateOwner runtime ledger with
  | (.error _, lost) => lost
  | (.ok (), held) =>
    if !held.pendingFunds.isEmpty then held
    else match recordedStatus (.dict held.account.state) with
      | none => held
      | some status =>
        if isUnsettled status then held
        else { held with stateOwnerHeld := false, stateOwnerReleased := runtime.stateOwnerRelease held }

/-- The end of the `finally` block. -/
def finallyRelease (ledger : Ledger) : Ledger :=
  if !ledger.stateHealthy && ledger.failureStage = .dailyState && runtime.pureDailyStateFailure ledger
      || ledger.stateHealthy && ledger.stateOwnerHeld then releaseStateOwner runtime ledger
  else ledger

/-- The part of the runtime that only reads. -/
def DurableRuntime.reads : ExecutionRuntime where
  dryRun := runtime.dryRun
  standardExecutionPermitted := runtime.standardExecutionPermitted
  safeRunId := runtime.safeRunId
  formatQty := runtime.formatQty
  spotFree := runtime.spotFree
  submit := fun _ account => (.ok .none, account)
  persist := fun _ _ => .ok ()
  notify := fun _ _ => .ok ()

/-- `runtime_call_client` for an order. -/
def runtimeCallClient (order : OrderRequest) : Notifying Value :=
  if runtime.suppressed then pure (suppressedResponse order) else onState (runtime.submit order)

end Owner

/-! ## The routing of notifications -/

section Routing
variable (notifier : Notifier) (runtime : DurableRuntime)

/-- `routine_notification`. The kinds `fill` and `routine_cycle` are always routed to
`digest_candidate`: outside a dry run the notice itself is never sent, and `route` catches
what the store and the coverage message raise. -/
def routineNotification (notice : Notice) : Notifying Unit :=
  if runtime.dryRun then tell notifier notice
  else attempt notifier
    (fun heard => !runtime.eventKnown notice || !runtime.candidatePersisted notice heard) .coverageFailure

/-- `immediate_notification`: the flag off, a dry run and an unknown identity send the notice
as it is; else `immediate_event` sends what is reserved, and catches what that raises. -/
def immediateNotification (notice : Notice) : Notifying Unit :=
  if runtime.unifiedNotifications && !runtime.dryRun && runtime.eventKnown notice then
    attempt notifier (runtime.incidentReserved notice) (.reserved notice)
  else tell notifier notice

end Routing

/-! ## The execution functions -/

section Execution
variable [CharacterTable] (notifier : Notifier) (runtime : DurableRuntime) (prices : Document)
  (trendUniverse : TrendUniverse)

/-- The broker call of an order and the fill that answers it. -/
def placeOrder (order : OrderRequest) (side : String) (qty price : PyFloat) : Notifying Fill := do
  let response ← runtimeCallClient runtime order
  reading (returns (resolveFill runtime.reads prices response order.symbol side qty price))

/-- The `try` block of one symbol in `run_daily_circuit_breaker`. -/
def breakerOrder (symbol baseAsset : String) (qty price : PyFloat) : Notifying Unit :=
  if qty.le .zero then immediateNotification notifier runtime (.orderSkipped "circuit_breaker_sell_skipped")
  else do
    let available ← reading (ensureAssetAvailable runtime.reads baseAsset qty)
    if available then do
      let fill ← placeOrder runtime prices ⟨"order_market_sell", symbol, .quantity qty, none⟩ "SELL" qty price
      reading (accountTrendFill trendUniverse fill "SELL" symbol baseAsset closedPosition)
    else raising (unavailable "asset_unavailable_for_circuit_breaker_sell")

/-- One symbol of `run_daily_circuit_breaker`. -/
def breakerSell (entry : String × String) : Notifying Unit := do
  let ledger ← getLedger
  let tradableQty ← reading (returns (balanceOf ledger.account.balances entry.1))
  let price ← reading (returns (priceOf prices entry.1))
  if (tradableQty.mul price).le (.literal 10000) then pure ()
  else do
    let qty ← reading (formatQty runtime.reads entry.1 tradableQty)
    rescue handled (breakerOrder notifier runtime prices trendUniverse entry.1 entry.2 qty price)
      (immediateNotification notifier runtime (.orderFailed "circuit_breaker_sell_failed"))

def runDailyCircuitBreaker (runtimeTrendUniverse : UniverseMapping)
    (trendDailyPnl circuitBreakerPct : PyFloat) : Notifying Bool :=
  if circuitBreakerPct.lt trendDailyPnl then pure false
  else do
    each (breakerSell notifier runtime prices trendUniverse) runtimeTrendUniverse.items
    reading (onAccount (breakCircuit runtimeTrendUniverse))
    setTradeState runtime "daily_circuit_breaker"
    immediateNotification notifier runtime .circuitBroken
    pure true

/-- The action is recorded with the fill, both are written and then told. -/
def recordAction (symbol action todayId : String) : Notifying Unit := do
  reading (onAccount fun account =>
    { account with state := recordTrendAction account.state symbol action todayId })
  setTradeState runtime ("trend_" ++ action ++ ":" ++ symbol)
  routineNotification notifier runtime (.tradeMade ("trend_" ++ action))

/-- The `try` block of one symbol in `execute_trend_sells`. -/
def trendSellOrder (symbol baseAsset todayId : String) (qty price : PyFloat) : Notifying Unit :=
  if qty.le .zero then routineNotification notifier runtime (.orderSkipped "trend_sell_skipped")
  else do
    let available ← reading (ensureAssetAvailable runtime.reads baseAsset qty)
    if available then do
      let id ← reading (nextOrderId runtime.safeRunId "T_SELL" symbol)
      let fill ← placeOrder runtime prices ⟨"order_market_sell", symbol, .quantity qty, some id⟩ "SELL" qty price
      reading (accountTrendFill trendUniverse fill "SELL" symbol baseAsset closedPosition)
      recordAction notifier runtime symbol "sell" todayId
    else raising (unavailable "asset_unavailable_for_trend_sell")

/-- One symbol of `execute_trend_sells`. -/
def trendSell (sellReasons : Dict String String) (todayId : String) (entry : String × String) :
    Notifying Unit := do
  let ledger ← getLedger
  let price ← reading (returns (priceOf prices entry.1))
  if strip ((sellReasons.get? entry.1).getD "") = "" then pure ()
  else if shouldSkipDuplicateTrendAction ledger.account.state entry.1 "sell" todayId then pure ()
  else do
    let held ← reading (returns (balanceOf ledger.account.balances entry.1))
    let qty ← reading (formatQty runtime.reads entry.1 held)
    rescue handled (trendSellOrder notifier runtime prices trendUniverse entry.1 entry.2 todayId qty price)
      (immediateNotification notifier runtime (.orderFailed "trend_sell_failed"))

def executeTrendSells (runtimeTrendUniverse : UniverseMapping) (sellReasons : Dict String String)
    (todayId : String) : Notifying Unit :=
  each (trendSell notifier runtime prices trendUniverse sellReasons todayId) runtimeTrendUniverse.items

/-- The `try` block of one symbol in `execute_trend_buys`. -/
def trendBuyOrder (symbol todayId : String) (qty price : PyFloat) : Notifying Unit :=
  if qty.le .zero || (qty.mul price).le .zero then
    routineNotification notifier runtime (.orderSkipped "trend_buy_skipped")
  else do
    let available ← reading (ensureAssetAvailable runtime.reads "USDT" (qty.mul price))
    if available then do
      let id ← reading (nextOrderId runtime.safeRunId "T_BUY" symbol)
      let fill ← placeOrder runtime prices ⟨"order_market_buy", symbol, .quantity qty, some id⟩ "BUY" qty price
      reading (accountTrendFill trendUniverse fill "BUY" symbol fill.baseAsset
        (openedPosition fill.averagePrice))
      recordAction notifier runtime symbol "buy" todayId
    else raising (unavailable "usdt_unavailable_for_trend_buy")

/-- One symbol of `execute_trend_buys`. -/
def trendBuy {Candidate : Type} (selectedCandidates : Dict String Candidate)
    (plannedTrendBuys : Dict String PyFloat) (todayId symbol : String) : Notifying Unit := do
  let ledger ← getLedger
  let price ← reading (returns (priceOf prices symbol))
  let _ ← reading (returns ((selectedCandidates.get? symbol).elim (.error keyError) .ok))
  let buyU := (plannedTrendBuys.get? symbol).getD .zero
  if buyU.le (.literal 15000) then pure ()
  else if shouldSkipDuplicateTrendAction ledger.account.state symbol "buy" todayId then pure ()
  else do
    let size ← reading (returns ((buyU.mul (.literal 985)).div price))
    let qty ← reading (formatQty runtime.reads symbol size)
    rescue handled (trendBuyOrder notifier runtime prices trendUniverse symbol todayId qty price)
      (immediateNotification notifier runtime (.orderFailed "trend_buy_failed"))

def executeTrendBuys {Candidate : Type} (selectedCandidates : Dict String Candidate)
    (eligibleBuySymbols : List String) (plannedTrendBuys : Dict String PyFloat) (todayId : String) :
    Notifying Unit :=
  each (trendBuy notifier runtime prices trendUniverse selectedCandidates plannedTrendBuys todayId)
    eligibleBuySymbols

/-- The `try` block of the buy in `execute_btc_dca_cycle`; here the notification comes
before the write. -/
def btcBuyOrder (todayId : String) (qty price : PyFloat) : Notifying Unit :=
  if qty.le .zero || (qty.mul price).le .zero then
    routineNotification notifier runtime (.orderSkipped "btc_dca_buy_skipped")
  else do
    let available ← reading (ensureAssetAvailable runtime.reads "USDT" (qty.mul price))
    if available then do
      let id ← reading (nextOrderId runtime.safeRunId "D_BUY" "BTCUSDT")
      let fill ← placeOrder runtime prices ⟨"order_market_buy", "BTCUSDT", .quantity qty, some id⟩ "BUY" qty price
      let _ ← reading (applyFill fill "BUY" "BTCUSDT")
      reading (prepareAccounting "BTCUSDT" "BTC")
      reading (onAccount fun account =>
        { account with state := account.state.set "dca_last_buy_date" (.str todayId) })
      routineNotification notifier runtime .btcBuyMade
      setTradeState runtime "btc_dca_buy"
    else raising (unavailable "usdt_unavailable_for_btc_dca_buy")

def btcBuy (dcaUsdtPool btcBaseOrderUsdt ahr : PyFloat) (todayId : String) (price : PyFloat) :
    Notifying Unit := do
  let ledger ← getLedger
  if 0 < resolveBtcBuyMultiplier ahr && (PyFloat.literal 15000).lt dcaUsdtPool
      && !(pyGet ledger.account.state "dca_last_buy_date").isStr todayId then do
    let size ← reading (returns
      (((btcBuyBudget dcaUsdtPool btcBaseOrderUsdt ahr).mul (.literal 985)).div price))
    let qty ← reading (formatQty runtime.reads "BTCUSDT" size)
    rescue handled (btcBuyOrder notifier runtime prices todayId qty price)
      (immediateNotification notifier runtime (.orderFailed "btc_dca_buy_failed"))
  else pure ()

def executeBtcDcaCycle (dcaUsdtPool dcaVal btcBaseOrderUsdt : PyFloat) (btc : BtcSnapshot)
    (todayId : String) : Notifying Unit :=
  if dcaUsdtPool.le (.literal 10000) && dcaVal.le (.literal 10000) then pure ()
  else do
    let price ← reading (returns (priceOf prices "BTCUSDT"))
    btcBuy notifier runtime prices dcaUsdtPool btcBaseOrderUsdt btc.ahr999 todayId price
    reading (btcTrim btc dcaVal todayId)

/-- The `try` block of `top_up_bnb_fuel`. -/
def fuelOrder (buyBnbAmount : PyFloat) : Notifying String := do
  let available ← reading (ensureAssetAvailable runtime.reads "USDT" buyBnbAmount)
  if available then do
    let response ← runtimeCallClient runtime
      ⟨"order_market_buy", bnbFuelSymbol, .quoteOrderQty buyBnbAmount, none⟩
    pure (if isFilledResponse response then "filled_pending_snapshot" else "unconfirmed")
  else raising (unavailable "usdt_spot_buffer_unavailable_for_bnb_top_up")

def topUpBnbFuel (fuelVal minBnbValue buyBnbAmount : PyFloat) : Notifying String := do
  let ledger ← getLedger
  if minBnbValue.le fuelVal || ledger.account.uTotal.lt buyBnbAmount then pure "ready"
  else rescue handled (fuelOrder runtime buyBnbAmount) (do
    tell notifier (.orderFailed "bnb_top_up_failed")
    pure "unconfirmed")

end Execution

/-! ## The cycle -/

section Cycle
variable [CharacterTable] (notifier : Notifier) (runtime : DurableRuntime) (trendUniverse : TrendUniverse)
  (inputs : CycleInputs)

def stageRequest : Request → Notifying Unit
  | .read _ _ => pure ()
  | .setTradeState reason => setTradeState runtime reason
  | .notify text => tell notifier (.stage text)
  | .edit account => reading (onAccount fun _ => account)

/-- The requests of a stage in order; a request that raises ends the stage. -/
def performStage {α : Type} (stageCall : StageCall α) : Notifying α := do
  let ledger ← getLedger
  each (stageRequest notifier runtime) (stageCall ledger.account).1
  reading (returns (stageCall ledger.account).2)

/-- `acquire_runtime_state_owner`. -/
def acquireOwner : Notifying Bool :=
  if runtime.suppressed then pure true
  else do
    let ledger ← getLedger
    if ledger.stateOwnerHeld then raising stateOwnerAlreadyHeld
    else do
      let claimed ← reading (returns (inputs.claimOwner ledger.account))
      onLedger fun ledger => { ledger with
        stateOwnerHeld := claimed
        pendingFunds := if claimed then [] else ledger.pendingFunds }
      pure claimed

def executeTrendRotation : Notifying Unit := do
  let strategyPlan ← reading (resolveStrategyPlan inputs .sellPlan)
  executeTrendSells notifier runtime inputs.prices trendUniverse inputs.runtimeTrendUniverse
    strategyPlan.sellReasons inputs.todayId
  let postSellPlan ← reading (resolveStrategyPlan inputs .postSellPlan)
  executeTrendBuys notifier runtime inputs.prices trendUniverse postSellPlan.selectedCandidates
    postSellPlan.eligibleBuySymbols postSellPlan.plannedTrendBuys inputs.todayId

/-- `bnb_fuel_*` ends the cycle. -/
def fuelPending (fuelStatus : String) : Notifying Unit :=
  if fuelStatus = "filled_pending_snapshot" then do
    performStage notifier runtime inputs.reconcileRuntimeCashEffects
    setTradeState runtime "cash_reconciliation"
  else setStateHealthy false

/-- `get_periodic_report_bucket`, empty where the heartbeat is disabled. -/
def periodicReportBucket : String :=
  if runtime.btcStatusReportIntervalHours ≤ 0 then ""
  else if runtime.nowHour % (max 1 (min 24 runtime.btcStatusReportIntervalHours)).toNat ≠ 0 then ""
  else
    let digits := NumberText.natText runtime.nowHour
    runtime.today ++ String.ofList (List.replicate (2 - digits.length) '0' ++ digits)

def reportBucketKey : String := "last_btc_status_report_bucket"

/-- The bucket is recorded only when the report was acknowledged. -/
def maybeSendPeriodicBtcStatusReport : Notifying Unit := do
  let ledger ← getLedger
  if periodicReportBucket runtime = ""
      ∨ (pyGet ledger.account.state reportBucketKey).isStr (periodicReportBucket runtime) then pure ()
  else do
    let acknowledged ← ask notifier .statusReport
    if acknowledged then reading (onAccount fun account => { account with
      state := account.state.set reportBucketKey (.str (periodicReportBucket runtime)) })
    else pure ()

/-- From the evaluation after the trades to the final write. -/
def postTradeStages : Notifying Unit := do
  enter .postTradeAllocation
  let allocation ← reading (computeAllocation inputs .postTrade)
  if allocation.executionPermitted then do
    let ledger ← getLedger
    enter .btcExecution
    executeBtcDcaCycle notifier runtime inputs.prices allocation.dcaUsdtPool (inputs.dcaVal ledger.account)
      allocation.btcBaseOrderUsdt inputs.btcSnapshot inputs.todayId
    enter .statusNotification
    maybeSendPeriodicBtcStatusReport notifier runtime
    enter .statePersistence
    performStage notifier runtime inputs.closingStages
    performStage notifier runtime inputs.reconcileRuntimeCashEffects
    setTradeState runtime "cycle_complete"
  else pure ()

/-- The fuel leg and what follows when the fuel is ready. -/
def fuelAndTrend : Notifying Unit := do
  enter .fuelExecution
  let fuelStatus ← topUpBnbFuel notifier runtime inputs.fuelVal (.literal 10000) (.literal 15000)
  if fuelStatus = "ready" then do
    enter .trendExecution
    executeTrendRotation notifier runtime trendUniverse inputs
    postTradeStages notifier runtime inputs
  else fuelPending notifier runtime inputs fuelStatus

/-- The daily stage, the circuit breaker and the trades. -/
def permittedStages : Notifying Unit := do
  enter .dailyState
  performStage notifier runtime inputs.dailyState
  let ledger ← getLedger
  let trendDailyPnl ← reading (returns (inputs.trendDailyPnl ledger.account))
  if (pyGet ledger.account.state "is_circuit_broken").truthy then pure ()
  else do
    enter .circuitBreaker
    let triggered ← runDailyCircuitBreaker notifier runtime inputs.prices trendUniverse
      inputs.runtimeTrendUniverse trendDailyPnl (PyFloat.literal 50).neg
    if triggered then pure () else fuelAndTrend notifier runtime trendUniverse inputs

/-- The `try` block of `execute_strategy_cycle`. -/
def tradingCycle : Notifying Unit := do
  let acquired ← acquireOwner runtime inputs
  if acquired then do
    enter .clientConnect
    let opened ← performStage notifier runtime inputs.openingStages
    if opened then do
      setStateHealthy true
      enter .portfolioAllocation
      let allocation ← reading (computeAllocation inputs .preTrade)
      if allocation.executionPermitted then permittedStages notifier runtime trendUniverse inputs
      else pure ()
    else pure ()
  else pure ()

/-- `except Exception`: the cycle is unhealthy, and what the notification raises passes. -/
def crashed : Notifying Unit := do
  setStateHealthy false
  rescue (fun _ => true) (tell notifier .systemCrash) (pure ())

/-- The local variables that `finally` reads. -/
def freshCycle (ledger : Ledger) : Ledger :=
  { ledger with stateOwnerReleased := false, stateHealthy := false, failureStage := .stateOwnerClaim }

/-- `execute_strategy_cycle`, from the claim of the owner to its release. -/
def executeStrategyCycle : Notifying Unit := do
  onLedger freshCycle
  rescue (fun _ => true) (tradingCycle notifier runtime trendUniverse inputs) (crashed notifier)
  onLedger (finallyRelease runtime)

/-- The cycle from a ledger, before any notification. -/
def run (ledger : Ledger) : Heard Ledger Notice PyException :=
  (executeStrategyCycle notifier runtime trendUniverse inputs ⟨ledger, []⟩).2

end Cycle

end BinancePlatform.Source.Notified
