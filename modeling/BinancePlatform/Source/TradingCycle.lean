import BinancePlatform.Source.TradeExecution

/-!
# The decisions of a cycle and the orders they lead to

`decision_mapper.py`, `portfolio_loss_stoploss.py` and, of `cycle_service.py`, the
stages of `execute_strategy_cycle` between the claim of the owner and the final
write, in the standard validation scope. Stages that place no order are given by
what they ask of the runtime; the report, the log and the owner's release are left
out.
-/

set_option autoImplicit false

namespace BinancePlatform.Source
open BinancePlatform.Library

/-! ## Mapping a decision -/

def rejectedMark : String := "rejected:"

/-- `str(flag).startswith("rejected:")`. -/
def isRejected (flag : String) : Bool := rejectedMark.toList.isPrefixOf flag.toList

/-- `_execution_permitted`. -/
def executionPermitted (decision : StrategyDecision) : Bool :=
  match pyGet decision.diagnostics "member_risk_assessment" with
  | .dict assessment =>
    (pyGet assessment "outcome").isStr "APPROVE" && !decision.riskFlags.any isRejected
  | _ => false

/-- `dict.fromkeys` keeps the first of equal flags. -/
def distinctFlags : List String → List String
  | [] => []
  | flag :: rest => flag :: (distinctFlags rest).filter (· ≠ flag)

/-- `apply_portfolio_loss_stoploss`, with the loss of the snapshot and the threshold. -/
def applyPortfolioLossStoploss (threshold : PyFloat) (pnl : Option PyFloat)
    (decision : StrategyDecision) : StrategyDecision :=
  match pnl with
  | none => decision
  | some loss =>
    if threshold.le loss then decision
    else { decision with
      positions := []
      budgets := []
      riskFlags := distinctFlags (decision.riskFlags ++ ["rejected:stop_loss"]) }

/-- The last amount of each named entry; the others are skipped. -/
def amountMap (entries : List (String × Option PyFloat)) : Dict String PyFloat :=
  entries.foldl (fun found entry => match entry.2 with
    | some amount => found.set entry.1 amount
    | none => found) .empty

structure Allocation where
  btcTargetRatio : PyFloat
  trendTargetRatio : PyFloat
  trendUsdtPool : PyFloat
  dcaUsdtPool : PyFloat
  btcBaseOrderUsdt : PyFloat
  executionPermitted : Bool

/-- `float(diagnostics.get(key, fallback))`. -/
def diagnosticFloat (diagnostics : Document) (key : String) (fallback : PyFloat) :
    Except PyException PyFloat :=
  ((diagnostics.get? key).getD (.float fallback)).toFloat

/-- `map_strategy_decision_to_allocation`, without the copied account metrics. -/
def mapDecisionToAllocation (decision : StrategyDecision) : Except PyException Allocation := do
  let budgets := amountMap decision.budgets
  let positions := amountMap decision.positions
  let trendWeight := (positions.items.filter fun entry => entry.1 ≠ "BTCUSDT").foldl
    (fun sum entry => sum.add entry.2) .zero
  let trendTargetRatio ← diagnosticFloat decision.diagnostics "trend_target_ratio" trendWeight
  let btcTargetRatio ← diagnosticFloat decision.diagnostics "btc_target_ratio"
    ((positions.get? "BTCUSDT").getD .zero)
  let btcBaseOrderUsdt ← diagnosticFloat decision.diagnostics "btc_base_order_usdt" .zero
  return { btcTargetRatio, trendTargetRatio, btcBaseOrderUsdt
           trendUsdtPool := (budgets.get? "trend_rotation_pool").getD .zero
           dcaUsdtPool := (budgets.get? "btc_core_dca_pool").getD .zero
           executionPermitted := executionPermitted decision }

structure Candidate where
  weight : PyFloat
  relativeScore : PyFloat
  absMomentum : PyFloat

structure RotationPlan where
  selectedCandidates : Dict String Candidate
  eligibleBuySymbols : List String
  plannedTrendBuys : Dict String PyFloat
  sellReasons : Dict String String
  executionPermitted : Bool

/-- `dict(diagnostics.get(key, {}))` of a mapping. -/
def diagnosticDict (diagnostics : Document) (key : String) : Except PyException Document :=
  asMapping typeError ((diagnostics.get? key).getD (.dict .empty))

/-- A sequence of `diagnostics.get(key, ())`. -/
def diagnosticList (diagnostics : Document) (key : String) : Except PyException (List Value) :=
  match (diagnostics.get? key).getD (.list []) with
  | .list items => .ok items
  | _ => .error typeError

/-- The eligible symbols are read only with permission. -/
def eligibleSymbols (permitted : Bool) (diagnostics : Document) : Except PyException (List Value) :=
  if permitted then diagnosticList diagnostics "eligible_buy_symbols" else .ok []

def candidateOf (payload : Value) : Except PyException Candidate := do
  let fields ← asMapping attributeError payload
  let weight ← stateFloat fields "weight"
  let relativeScore ← stateFloat fields "relative_score"
  let absMomentum ← stateFloat fields "abs_momentum"
  return { weight, relativeScore, absMomentum }

/-- A mapping whose values are read one by one. -/
def readValues {α : Type} (read : Value → Except PyException α) (fields : Document) :
    Except PyException (Dict String α) := do
  let entries ← fields.items.mapM fun entry => (read entry.2).map fun value => (entry.1, value)
  return ⟨entries⟩

section Text
variable [CharacterTable]

/-- `map_strategy_decision_to_rotation_plan`: a decision without permission keeps no
candidate, buy or sell, whatever its diagnostics hold. -/
def mapDecisionToRotationPlan (decision : StrategyDecision) : Except PyException RotationPlan := do
  let permitted := executionPermitted decision
  let candidateFields ← diagnosticDict decision.diagnostics "rotation_candidates"
  let selectedCandidates ← readValues candidateOf candidateFields
  let buyFields ← diagnosticDict decision.diagnostics "planned_trend_buys"
  let plannedTrendBuys ← readValues Value.toFloat buyFields
  let sellFields ← diagnosticDict decision.diagnostics "sell_reasons"
  let sellReasons ← readValues (fun reason => .ok reason.toStr) sellFields
  let eligible ← eligibleSymbols permitted decision.diagnostics
  return { selectedCandidates := if permitted then selectedCandidates else .empty
           plannedTrendBuys := if permitted then plannedTrendBuys else .empty
           sellReasons := if permitted then ⟨sellReasons.entries.filter fun entry => entry.2 ≠ ""⟩ else .empty
           eligibleBuySymbols := eligible.map Value.toStr
           executionPermitted := permitted }

end Text

/-! ## The cycle -/

/-- What a stage that places no order asks of the runtime. -/
inductive Request where
  | read (method subject : String)
  | setTradeState (reason : String)
  | notify (text : String)
  | edit (account : Account)

/-- A stage reads the account, makes its requests and then returns or raises. -/
abbrev StageCall (α : Type) := Account → List Request × Except PyException α

structure StrategyInputs where
  /-- `entrypoint.evaluate(ctx)` at each of the four evaluations -/
  evaluate : Evaluation → Account → Except PyException StrategyDecision
  portfolioLossStoplossEnabled : Bool
  /-- `compute_unrealized_pnl_pct(snapshot)` -/
  unrealizedPnlPct : Evaluation → Account → Option PyFloat
  stopLossThreshold : PyFloat

/-- The decision of an evaluation, with the portfolio-loss stop applied when it is on. -/
def StrategyInputs.afterStoploss (strategy : StrategyInputs) (evaluation : Evaluation)
    (account : Account) (raw : StrategyDecision) : StrategyDecision :=
  if strategy.portfolioLossStoplossEnabled then
    applyPortfolioLossStoploss strategy.stopLossThreshold (strategy.unrealizedPnlPct evaluation account) raw
  else raw

/-- What one cycle is given besides its runtime. -/
structure CycleInputs where
  strategy : StrategyInputs
  /-- `claim(owner_id) is True` -/
  claimOwner : Account → Except PyException Bool
  /-- From the client connection to the market snapshot; false ends the cycle. -/
  openingStages : StageCall Bool
  prices : Document
  runtimeTrendUniverse : UniverseMapping
  btcSnapshot : BtcSnapshot
  fuelVal : PyFloat
  /-- The balance rebase and the daily reset. -/
  dailyState : StageCall Unit
  trendDailyPnl : Account → Except PyException PyFloat
  /-- `balances["BTCUSDT"] * prices["BTCUSDT"]` -/
  dcaVal : Account → PyFloat
  reconcileRuntimeCashEffects : StageCall Unit
  /-- The status report and the last snapshot. -/
  closingStages : StageCall Unit
  todayId : String

section Cycle
variable [CharacterTable] (runtime : ExecutionRuntime) (trendUniverse : TrendUniverse)
  (inputs : CycleInputs)

def stageRequest : Request → Trading Unit
  | .read method subject => recordEffect (.clientRead method subject)
  | .setTradeState reason => setTradeState runtime reason
  | .notify text => notification runtime text
  | .edit account => onAccount fun _ => account

/-- The requests of a stage in order; a request that raises ends the stage. -/
def performStage {α : Type} (stageCall : StageCall α) : Trading α := do
  let account ← getAccount
  forEach (stageRequest runtime) (stageCall account).1
  returns (stageCall account).2

/-- `acquire_runtime_state_owner`: a suppressed cycle claims nothing. -/
def acquireOwner : Trading Bool :=
  if runtime.suppressed then pure true
  else do
    recordEffect .ownerClaim
    let account ← getAccount
    returns (inputs.claimOwner account)

/-- `LoadedStrategyRuntime.evaluate`, from the strategy's decision on. -/
def evaluateStrategy (evaluation : Evaluation) : Trading StrategyDecision := do
  let account ← getAccount
  let raw ← returns (inputs.strategy.evaluate evaluation account)
  let decision := inputs.strategy.afterStoploss evaluation account raw
  recordEffect (.evaluated evaluation decision)
  pure decision

/-- `_compute_portfolio_allocation`. -/
def computeAllocation (evaluation : Evaluation) : Trading Allocation := do
  let decision ← evaluateStrategy inputs evaluation
  returns (mapDecisionToAllocation decision)

/-- `_resolve_strategy_plan`; the allocation mapped beside the plan may raise. -/
def resolveStrategyPlan (evaluation : Evaluation) : Trading RotationPlan := do
  let decision ← evaluateStrategy inputs evaluation
  let plan ← returns (mapDecisionToRotationPlan decision)
  let _ ← returns (mapDecisionToAllocation decision)
  pure plan

def executeTrendRotation : Trading Unit := do
  let strategyPlan ← resolveStrategyPlan inputs .sellPlan
  executeTrendSells runtime inputs.prices trendUniverse inputs.runtimeTrendUniverse
    strategyPlan.sellReasons inputs.todayId
  let postSellPlan ← resolveStrategyPlan inputs .postSellPlan
  executeTrendBuys runtime inputs.prices trendUniverse postSellPlan.selectedCandidates
    postSellPlan.eligibleBuySymbols postSellPlan.plannedTrendBuys inputs.todayId

/-- `bnb_fuel_*` ends the cycle. -/
def fuelPending (fuelStatus : String) : Trading Unit :=
  if fuelStatus = "filled_pending_snapshot" then do
    performStage runtime inputs.reconcileRuntimeCashEffects
    setTradeState runtime "cash_reconciliation"
  else pure ()

/-- From the evaluation after the trades to the final write. -/
def postTradeStages : Trading Unit := do
  let allocation ← computeAllocation inputs .postTrade
  if allocation.executionPermitted then do
    let account ← getAccount
    executeBtcDcaCycle runtime inputs.prices allocation.dcaUsdtPool (inputs.dcaVal account)
      allocation.btcBaseOrderUsdt inputs.btcSnapshot inputs.todayId
    performStage runtime inputs.closingStages
    performStage runtime inputs.reconcileRuntimeCashEffects
    setTradeState runtime "cycle_complete"
  else pure ()

/-- The fuel leg and what follows when the fuel is ready. -/
def fuelAndTrend : Trading Unit := do
  let fuelStatus ← topUpBnbFuel runtime inputs.fuelVal (.literal 10000) (.literal 15000)
  if fuelStatus = "ready" then do
    executeTrendRotation runtime trendUniverse inputs
    postTradeStages runtime inputs
  else fuelPending runtime inputs fuelStatus

/-- The daily stage, the circuit breaker and the trades. -/
def permittedStages : Trading Unit := do
  performStage runtime inputs.dailyState
  let account ← getAccount
  let trendDailyPnl ← returns (inputs.trendDailyPnl account)
  if (pyGet account.state "is_circuit_broken").truthy then pure ()
  else do
    let triggered ← runDailyCircuitBreaker runtime inputs.prices trendUniverse
      inputs.runtimeTrendUniverse trendDailyPnl (PyFloat.literal 50).neg
    if triggered then pure () else fuelAndTrend runtime trendUniverse inputs

/-- The `try` block of `execute_strategy_cycle`. -/
def tradingCycle : Trading Unit := do
  let acquired ← acquireOwner runtime inputs
  if acquired then do
    let opened ← performStage runtime inputs.openingStages
    if opened then do
      let allocation ← computeAllocation inputs .preTrade
      if allocation.executionPermitted then permittedStages runtime trendUniverse inputs
      else pure ()
    else pure ()
  else pure ()

end Cycle

end BinancePlatform.Source
