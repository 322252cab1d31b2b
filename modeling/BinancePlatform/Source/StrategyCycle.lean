import BinancePlatform.Source.OrderSubmission
import BinancePlatform.Library.Effects

/-!
# One strategy cycle

`application/cycle_service.py`, `execute_strategy_cycle`, with the owner functions
of `runtime_support.py`: the stages with their early returns, the counters
captured at the claim and at the daily stage, and the `finally` block that decides
whether the durable state owner is released.

A callback stands for one call and the reading of what it returned. It performs
any runtime actions, in any order, and then returns or raises. Prices, balances
and the texts of the report and of the log are left out: no decision about the
owner reads them.
-/

set_option autoImplicit false

namespace BinancePlatform.Source
open BinancePlatform.Library

/-- `failure_stage`. -/
inductive Stage where
  | stateOwnerClaim
  | clientConnect
  | stateLoad
  | fundingReconciliation
  | poolDiagnostics
  | marketSnapshot
  | portfolioAllocation
  | dailyState
  | circuitBreaker
  | fuelExecution
  | trendExecution
  | postTradeAllocation
  | btcExecution
  | earnExecution
  | statusNotification
  | statePersistence
  deriving DecidableEq, Repr

/-- How the `try` block is left before its end. `interrupt` is a `BaseException` that
is no `Exception`, such as `KeyboardInterrupt`. -/
inductive CycleExit where
  | returned
  | exception
  | interrupt
  deriving DecidableEq, Repr

/-- The two fields of a `side_effect_log` entry that are read. -/
structure SideEffect where
  effectType : String
  target : String
  deriving DecidableEq, Repr

/-- The three lists of funding intents of the report. -/
inductive IntentKey where
  | buySell
  | btcDca
  | redemptionSubscription
  deriving DecidableEq, Repr

/-- What a call of a runtime function does to the runtime and to the report. -/
inductive RuntimeAction where
  /-- `record_submission_attempt(report)` -/
  | submission
  /-- `next_order_id(runtime, prefix, symbol)` -/
  | orderId
  | intent (key : IntentKey) (entry : Value)
  /-- `record_side_effect(runtime, report, ...)` -/
  | sideEffect (effect : SideEffect)
  /-- `report["state_write_intents"].append(payload)` -/
  | stateWriteIntent (reason : String)
  /-- `runtime.state_owner_held = False` -/
  | loseOwner
  /-- The in-memory documents and `runtime.pending_funds` after any edit or assignment. -/
  | assign (tradeState state : Value) (pendingFunds : List Value)
  /-- `report["diagnostics"]["earn_accrual"]["reason_code"]` -/
  | earnReasonCode (code : Value)

inductive CycleEvent where
  | stage (entered : Stage)
  | action (performed : RuntimeAction)
  /-- `runtime.state_owner_release(runtime.state_owner_id)` -/
  | release

structure CycleRuntime where
  dryRun : Bool
  standardExecutionPermitted : Bool
  stateOwnerHeld : Bool
  stateOwnerId : String
  tradeState : Value
  pendingFunds : List Value
  orderSequence : ℕ
  sideEffectLog : List SideEffect

structure CycleReport where
  submissionAttemptedCount : ℕ
  intents : IntentKey → List Value
  stateWriteIntents : List String
  earnReasonCode : Value

structure CycleStart where
  submission : ℕ
  orderSequence : ℕ
  sideEffects : ℕ

structure DailyStart where
  stateWriteIntents : ℕ
  submission : ℕ
  sideEffects : ℕ
  orderSequence : ℕ
  intentLengths : IntentKey → ℕ

/-- The local variables that `finally` reads. -/
structure CycleFrame where
  stateHealthy : Bool
  failureStage : Stage
  ownerClaimedThisCycle : Bool
  initialOrderState : Option String
  state : Value
  cycle : Option CycleStart
  daily : Option DailyStart

structure CycleState where
  runtime : CycleRuntime
  report : CycleReport
  frame : CycleFrame
  trace : List CycleEvent

def freshFrame : CycleFrame where
  stateHealthy := false
  failureStage := .stateOwnerClaim
  ownerClaimedThisCycle := false
  initialOrderState := none
  state := .none
  cycle := none
  daily := none

abbrev Cycle := Program CycleExit CycleState

/-! ## Actions -/

def addIntent (intents : IntentKey → List Value) (key : IntentKey) (entry : Value) :
    IntentKey → List Value :=
  fun other => if other = key then intents key ++ [entry] else intents other

/-- The fields of the report and of the runtime that an action changes. -/
def RuntimeAction.perform (s : CycleState) : RuntimeAction → CycleState
  | .submission => { s with report := { s.report with
      submissionAttemptedCount := s.report.submissionAttemptedCount + 1 } }
  | .orderId => { s with runtime := { s.runtime with orderSequence := s.runtime.orderSequence + 1 } }
  | .intent key entry => { s with report := { s.report with
      intents := addIntent s.report.intents key entry } }
  | .sideEffect effect => { s with runtime := { s.runtime with
      sideEffectLog := s.runtime.sideEffectLog ++ [effect] } }
  | .stateWriteIntent reason => { s with report := { s.report with
      stateWriteIntents := s.report.stateWriteIntents ++ [reason] } }
  | .loseOwner => { s with runtime := { s.runtime with stateOwnerHeld := false } }
  | .assign tradeState state pendingFunds => { s with
      runtime := { s.runtime with tradeState := tradeState, pendingFunds := pendingFunds }
      frame := { s.frame with state := state } }
  | .earnReasonCode code => { s with report := { s.report with earnReasonCode := code } }

def CycleState.act (s : CycleState) (action : RuntimeAction) : CycleState :=
  { action.perform s with trace := s.trace ++ [.action action] }

/-- A callback, which reads anything. -/
abbrev Callback (α : Type) := CycleState → List RuntimeAction × Except CycleExit α

def call {α : Type} (callback : Callback α) : Cycle α := fun s =>
  ((callback s).2, (callback s).1.foldl CycleState.act s)

def perform (action : RuntimeAction) : Cycle Unit := .update fun s => s.act action

def enter (stage : Stage) : Cycle Unit := .update fun s =>
  { s with frame := { s.frame with failureStage := stage }, trace := s.trace ++ [.stage stage] }

/-- An expression or a call that changes nothing here and may raise. -/
def evaluate {α : Type} (outcome : Except CycleExit α) : Cycle α := fun s => (outcome, s)

/-- `if condition: return` or `raise`. -/
def leaveIf (condition : Bool) (left : CycleExit) : Cycle Unit :=
  if condition then .leave left else pure ()

/-! ## The state owner -/

/-- What a cycle is given: the callbacks of `execute_strategy_cycle`, the runtime
functions that call the broker, and the durable store behind the runtime. -/
structure CycleCallbacks where
  stateOwnerId : String
  /-- `claim(owner_id) is True`, and below `release(owner_id) is True` -/
  stateOwnerClaim : CycleState → Except CycleExit Bool
  stateOwnerRelease : CycleState → Except CycleExit Bool
  /-- `bound_state_access` is set, and its `receipt_enabled` -/
  boundStateAccess : Option Bool
  /-- `access.ensure_active()` -/
  ensureActive : CycleState → Except CycleExit Unit
  /-- The writer of the runtime is in place and `persisted is True`. -/
  persist : CycleState → Except CycleExit Bool
  /-- `_accounted_funds(runtime, state, reason, item)` -/
  accountedFunds : CycleState → String → Value → Bool
  ensureRuntimeClient : Callback Bool
  loadCycleState : Callback (Option Value)
  reconcilePendingFundingSubmission : Callback Unit
  consultUnknownNewCycle : Callback Unit
  appendTrendPoolSourceLogs : Callback Unit
  captureMarketSnapshot : Callback Unit
  /-- `allocation.get("execution_permitted", False)` -/
  computePortfolioAllocation : Callback Bool
  buildBalanceSnapshot : Callback Unit
  maybeRebaseDailyStateForBalanceChange : Callback Unit
  maybeResetDailyState : Callback Unit
  computeDailyPnls : Callback Unit
  appendPortfolioReport : Callback Unit
  runDailyCircuitBreaker : Callback Bool
  /-- `fuel_status` -/
  topUpBnbFuel : Callback String
  reconcileRuntimeCashEffects : Callback Unit
  executeTrendRotation : Callback Unit
  executeBtcDcaCycle : Callback Unit
  manageUsdtEarnBufferRuntime : Callback Unit
  maybeSendPeriodicBtcStatusReport : Callback Unit
  runtimeNotify : Callback Unit

section Owner
variable (callbacks : CycleCallbacks)

/-- `acquire_runtime_state_owner`; `claimable` is both owner functions being callable. -/
def acquireRuntimeStateOwner (claimable : Bool) : Cycle Bool := do
  let s ← .get
  if s.runtime.dryRun || !s.runtime.standardExecutionPermitted then pure true
  else
    leaveIf (s.runtime.stateOwnerHeld || !claimable) .exception
    .update fun s => { s with runtime := { s.runtime with stateOwnerId := callbacks.stateOwnerId } }
    match callbacks.stateOwnerClaim s with
    | .error left => .leave left
    | .ok false =>
      .update fun s => { s with runtime := { s.runtime with stateOwnerHeld := false } }
      pure false
    | .ok true =>
      .update fun s => { s with runtime := { s.runtime with
        stateOwnerHeld := true, tradeState := .none, pendingFunds := [] } }
      pure true

/-- `except Exception`, with `false` for what was raised. -/
def caught : Except CycleExit Bool → Except CycleExit Bool
  | .error .interrupt => .error .interrupt
  | .error _ => .ok false
  | .ok value => .ok value

/-- `runtime.state_owner_held = False` and `raise`. -/
def loseOwnerIf (condition : Bool) : Cycle Unit :=
  if condition then do
    perform .loseOwner
    .leave .exception
  else pure ()

def requireRuntimeStateOwner : Cycle Unit := do
  let s ← .get
  leaveIf (!s.runtime.stateOwnerHeld || s.runtime.stateOwnerId = "") .exception
  let active ← evaluate (if callbacks.boundStateAccess.isSome then
    caught ((callbacks.ensureActive s).map fun _ => true) else .ok true)
  loseOwnerIf (!active)

def runtimeSetTradeState (state : Value) (reason : String) (interval : Bool) : Cycle Unit := do
  perform (.stateWriteIntent reason)
  let s ← .get
  if s.runtime.dryRun || !s.runtime.standardExecutionPermitted then
    perform (.sideEffect ⟨"state_write", "firestore"⟩)
  else
    requireRuntimeStateOwner callbacks
    loseOwnerIf (callbacks.boundStateAccess = some true && reason = "earn_forward_accounting"
      && !interval)
    loseOwnerIf (interval && reason ≠ "earn_forward_accounting")
    let persisted ← evaluate (caught (callbacks.persist s))
    loseOwnerIf (!persisted && callbacks.boundStateAccess.isSome)
    leaveIf (!persisted) .exception
    perform (.assign state s.frame.state
      (s.runtime.pendingFunds.filter fun item => !callbacks.accountedFunds s reason item))
    perform (.sideEffect ⟨"state_write", "firestore"⟩)

/-- `(runtime.trade_state or {}).get("order_submission", {}).get("state")`; an
`AttributeError` or the `TypeError` of an unhashable status is `none`. -/
def recordedStatus (tradeState : Value) : Option Value :=
  match tradeState.orElse (.dict .empty) with
  | .dict state =>
    match (state.get? "order_submission").getD (.dict .empty) with
    | .dict record => if (pyGet record "state").hashable then some (pyGet record "state") else none
    | _ => none
  | _ => none

def isUnsettled (status : Value) : Bool :=
  status.isStr orderSubmissionUnknown || status.isStr orderSubmissionFilledAccountingPending

/-- `release_runtime_state_owner`. -/
def releaseRuntimeStateOwner : Cycle Bool := do
  requireRuntimeStateOwner callbacks
  let s ← .get
  if !s.runtime.pendingFunds.isEmpty then pure false
  else match recordedStatus s.runtime.tradeState with
    | none => .leave .exception
    | some status =>
      if isUnsettled status then pure false
      else do
        .update fun s => { s with trace := s.trace ++ [.release] }
        perform .loseOwner
        let released ← evaluate (callbacks.stateOwnerRelease s)
        leaveIf (!released) .exception
        pure true

end Owner

/-! ## The stages -/

/-- `_settled_order_state`; the `TypeError` of an unhashable status ends in an exception. -/
def settledOrderState (state : Value) : Except CycleExit (Option String) :=
  match state with
  | .dict state =>
    match pyGet state "order_submission" with
    | .dict record =>
      match pyGet record "state" with
      | .str status =>
        .ok (if status = orderSubmissionReserved ∨ status = orderSubmissionTerminal then some status
          else none)
      | .list _ | .dict _ => .error .exception
      | _ => .ok none
    | _ => .ok none
  | _ => .ok none

/-- `state.get("order_submission", {}).get("state", "RESERVED")`. -/
def submissionState (state : Value) : Except CycleExit Value :=
  match state with
  | .dict state =>
    match (state.get? "order_submission").getD (.dict .empty) with
    | .dict record => .ok ((record.get? "state").getD (.str orderSubmissionReserved))
    | _ => .error .exception
  | _ => .error .exception

/-- `state.get("is_circuit_broken")`, as a condition. -/
def isCircuitBroken (state : Value) : Except CycleExit Bool :=
  match state with
  | .dict state => .ok (pyGet state "is_circuit_broken").truthy
  | _ => .error .exception

def setStateHealthy (healthy : Bool) : Cycle Unit := .update fun s =>
  { s with frame := { s.frame with stateHealthy := healthy } }

/-- The counters at the claim. -/
def captureCycleStart : Cycle Unit := .update fun s =>
  { s with frame := { s.frame with
      ownerClaimedThisCycle := !s.runtime.dryRun && s.runtime.standardExecutionPermitted
        && s.runtime.stateOwnerHeld
      cycle := some {
        submission := s.report.submissionAttemptedCount
        orderSequence := s.runtime.orderSequence
        sideEffects := s.runtime.sideEffectLog.length } } }

/-- The counters at the daily stage. -/
def captureDailyStart : Cycle Unit := .update fun s =>
  { s with frame := { s.frame with daily := some {
      stateWriteIntents := s.report.stateWriteIntents.length
      submission := s.report.submissionAttemptedCount
      sideEffects := s.runtime.sideEffectLog.length
      orderSequence := s.runtime.orderSequence
      intentLengths := fun key => (s.report.intents key).length } } }

/-- `runtime.trade_state = state`. -/
def adoptState (state : Value) : Cycle Unit := .update fun s =>
  { s with
    runtime := { s.runtime with tradeState := state }
    frame := { s.frame with state := state } }

section Stages
variable (callbacks : CycleCallbacks)

/-- The loaded state becomes the state of the cycle. -/
def loadStage : Cycle Unit := do
  enter .stateLoad
  match ← call callbacks.loadCycleState with
  | none => .leave .returned
  | some state =>
    adoptState state
    let initialOrderState ← evaluate (settledOrderState state)
    .update fun s => { s with frame := { s.frame with initialOrderState := initialOrderState } }

/-- A submission left unsettled by an earlier cycle is settled or ends the cycle. -/
def reconciliationStage : Cycle Unit := do
  enter .fundingReconciliation
  call callbacks.reconcilePendingFundingSubmission
  let s ← .get
  let status ← evaluate (submissionState s.frame.state)
  if status.isStr orderSubmissionUnknown then
    call callbacks.consultUnknownNewCycle
    .leave .exception
  else leaveIf (status.isStr orderSubmissionFilledAccountingPending) .exception

/-- From the client connection to the allocation, before the daily stage. -/
def openingStages : Cycle Unit := do
  enter .clientConnect
  let connected ← call callbacks.ensureRuntimeClient
  leaveIf (!connected) .returned
  loadStage callbacks
  reconciliationStage callbacks
  enter .poolDiagnostics
  call callbacks.appendTrendPoolSourceLogs
  enter .marketSnapshot
  call callbacks.captureMarketSnapshot
  setStateHealthy true
  enter .portfolioAllocation
  let permitted ← call callbacks.computePortfolioAllocation
  leaveIf (!permitted) .returned

/-- The daily stage after its counters are captured. -/
def dailyStage : Cycle Unit := do
  call callbacks.buildBalanceSnapshot
  call callbacks.maybeRebaseDailyStateForBalanceChange
  call callbacks.maybeResetDailyState
  call callbacks.computeDailyPnls
  call callbacks.appendPortfolioReport
  let s ← .get
  let broken ← evaluate (isCircuitBroken s.frame.state)
  leaveIf broken .returned

/-- Fuel that is not ready ends the cycle. -/
def fuelStage : Cycle Unit := do
  enter .fuelExecution
  let fuelStatus ← call callbacks.topUpBnbFuel
  if fuelStatus = "ready" then pure ()
  else if fuelStatus = "filled_pending_snapshot" then
    call callbacks.reconcileRuntimeCashEffects
    let s ← .get
    runtimeSetTradeState callbacks s.frame.state "cash_reconciliation" false
    .leave .returned
  else
    setStateHealthy false
    .leave .returned

/-- The stages that trade, up to the final write. -/
def tradingStages : Cycle Unit := do
  enter .circuitBreaker
  let triggered ← call callbacks.runDailyCircuitBreaker
  leaveIf triggered .returned
  fuelStage callbacks
  enter .trendExecution
  call callbacks.executeTrendRotation
  enter .postTradeAllocation
  let permitted ← call callbacks.computePortfolioAllocation
  leaveIf (!permitted) .returned
  call callbacks.computeDailyPnls
  enter .btcExecution
  call callbacks.executeBtcDcaCycle
  enter .earnExecution
  call callbacks.manageUsdtEarnBufferRuntime
  enter .statusNotification
  call callbacks.maybeSendPeriodicBtcStatusReport
  enter .statePersistence
  call callbacks.buildBalanceSnapshot
  call callbacks.reconcileRuntimeCashEffects
  let s ← .get
  runtimeSetTradeState callbacks s.frame.state "cycle_complete" false

/-- The `try` block. -/
def cycleBody (claimable : Bool) : Cycle Unit := do
  let acquired ← acquireRuntimeStateOwner callbacks claimable
  leaveIf (!acquired) .returned
  captureCycleStart
  openingStages callbacks
  enter .dailyState
  captureDailyStart
  dailyStage callbacks
  tradingStages callbacks

end Stages

/-! ## The end of the cycle -/

def earnForwardReasonCodes : List String :=
  ["earn_checkpoint_invalid", "earn_checkpoint_time_invalid", "earn_checkpoint_scope_changed",
   "earn_product_lifecycle_unverified", "earn_counter_reset", "earn_quantity_change_unexplained",
   "earn_order_unsettled", "earn_accounted_changes_missing", "earn_cash_cursor_mismatch",
   "earn_cash_flow_invalid", "earn_cash_flow_unsupported", "earn_cash_flow_time_unverified",
   "earn_valuation_snapshot_mismatch", "external_cash_flow_window_invalid",
   "external_cash_flow_cursor_invalid", "external_cash_flow_history_read_failed",
   "external_cash_flow_history_incomplete", "external_cash_flow_record_invalid",
   "external_cash_flow_record_changed", "external_cash_flow_cursor_capacity_exceeded"]

/-- `effect_type.startswith(("order_", "earn_"))`. -/
def SideEffect.isFunding (effect : SideEffect) : Bool :=
  effect.effectType.startsWith "order_" || effect.effectType.startsWith "earn_"

/-- `target == "firestore" or effect_type.startswith("state_")`. -/
def SideEffect.isPersistent (effect : SideEffect) : Bool :=
  effect.target = "firestore" || effect.effectType.startsWith "state_"

/-- The entries of the log from a captured length on. -/
def sideEffectsFrom (s : CycleState) (start : Option ℕ) : List SideEffect :=
  s.runtime.sideEffectLog.drop (start.getD 0)

def isSettled (status : Option String) : Bool :=
  status = some orderSubmissionReserved || status = some orderSubmissionTerminal

/-- `pure_daily_state_failure`, after its first two tests. -/
def fundingUntouched (s : CycleState) (currentOrderState : Option String) : Bool :=
  s.frame.ownerClaimedThisCycle
    && isSettled s.frame.initialOrderState
    && isSettled currentOrderState
    && s.runtime.pendingFunds.isEmpty
    && some s.report.submissionAttemptedCount = s.frame.daily.map (·.submission)
    && some s.report.submissionAttemptedCount = s.frame.cycle.map (·.submission)
    && (s.frame.daily.elim false fun daily =>
        [IntentKey.buySell, .btcDca, .redemptionSubscription].all fun key =>
          (s.report.intents key).length = daily.intentLengths key)
    && some s.runtime.orderSequence = s.frame.daily.map (·.orderSequence)
    && some s.runtime.orderSequence = s.frame.cycle.map (·.orderSequence)
    && (sideEffectsFrom s (s.frame.daily.map (·.sideEffects))).all (!·.isFunding)
    && (sideEffectsFrom s (s.frame.cycle.map (·.sideEffects))).all (!·.isFunding)
    && (sideEffectsFrom s (s.frame.daily.map (·.sideEffects))).all (!·.isPersistent)
    && s.frame.daily.map (·.stateWriteIntents) = some s.report.stateWriteIntents.length

/-- `reason_code in EARN_FORWARD_REASON_CODES`. -/
def hasForwardReason (code : Value) : Except CycleExit Bool :=
  if code.hashable then .ok (earnForwardReasonCodes.any code.isStr) else .error .exception

section End
variable (callbacks : CycleCallbacks)

/-- The `finally` block up to the release; `except ExecutionIntegrityError` around the
release only marks the report. -/
def finallyRelease : Cycle Unit := do
  let s ← .get
  let currentOrderState ← evaluate (settledOrderState (s.runtime.tradeState.orElse s.frame.state))
  let forwardReason ← evaluate
    (if !s.frame.stateHealthy && s.frame.failureStage = .dailyState then
      hasForwardReason s.report.earnReasonCode
    else .ok false)
  if forwardReason && fundingUntouched s currentOrderState
      || s.frame.stateHealthy && s.runtime.stateOwnerHeld then
    let _ ← releaseRuntimeStateOwner callbacks
  else pure ()

/-- `except Exception`: the cycle is unhealthy, and a notification is tried. -/
def handleException : Cycle Unit := do
  setStateHealthy false
  call callbacks.runtimeNotify

/-- How the `try` block was left, with `none` for its end, and the state after `finally`. -/
def finish : Except CycleExit Unit × CycleState → Option CycleExit × CycleState
  | (.ok (), s) => (none, (finallyRelease callbacks s).2)
  | (.error .exception, s) =>
    (some .exception, (finallyRelease callbacks (handleException callbacks s).2).2)
  | (.error left, s) => (some left, (finallyRelease callbacks s).2)

/-- The first state of a cycle. -/
def opened (runtime : CycleRuntime) (report : CycleReport) : CycleState :=
  ⟨runtime, report, freshFrame, []⟩

/-- `execute_strategy_cycle` from the built report to the release. -/
def executeStrategyCycle (claimable : Bool) (runtime : CycleRuntime) (report : CycleReport) :
    Option CycleExit × CycleState :=
  finish callbacks (cycleBody callbacks claimable (opened runtime report))

end End

end BinancePlatform.Source
