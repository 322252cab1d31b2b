import BinancePlatform.Source.ClientCalls

/-!
# Recovery of a funding submission

`reconcile_pending_funding_submission` of `runtime_support.py` with what it calls: the
refresh of the managed balances and the write of `TERMINAL`. The other programs of a
cycle that share its state, `runtime_set_trade_state` and the load of `load_cycle_state`,
follow.
-/

set_option autoImplicit false

namespace BinancePlatform.Source
open BinancePlatform.Library

namespace Client
open Conversation

section Balances
variable [CharacterTable]

def spotAmounts (asset : String) (spot : Value) : Except PyException (List Decimal) := do
  let spot ← asMapping (valueError "spot_balance_invalid") spot
  require (((spot.get? "asset").getD (.str asset)).isStr asset) (valueError "spot_balance_invalid")
  ["free", "locked"].mapM fun key => do fundingAmount (← item (.dict spot) key)

/-- The loop over the rows, with the product ids seen so far. -/
def positionAmounts (asset : String) : List Value → List String → Except PyException (List Decimal)
  | [], _ => .ok []
  | .dict row :: rest, seen => do
    let .str productId := pyGet row "productId" | throw (valueError "earn_balance_invalid")
    require ((pyGet row "asset").isStr asset && productId ≠ "" && productId ∉ seen)
      (valueError "earn_balance_invalid")
    let amount ← fundingAmount (← item (.dict row) "totalAmount")
    return amount :: (← positionAmounts asset rest (productId :: seen))
  | _ :: _, _ => .error (valueError "earn_balance_invalid")

def earnAmounts (asset : String) : Value → Except PyException (List Decimal)
  | .dict earn =>
    match pyGet earn "rows", pyGet earn "total" with
    | .list rows, .int count => do
      require ((rows.length : ℤ) = count && count < 100) (valueError "earn_balance_incomplete")
      positionAmounts asset rows []
    | _, _ => .error (valueError "earn_balance_incomplete")
  | _ => .error (valueError "earn_balance_incomplete")

/-- `float(sum(amounts))`, which has to be finite. -/
def floatTotal (amounts : List Decimal) : Except PyException PyFloat := do
  let total ← amounts.foldlM (fun sum d => checked (sum.add defaultContext d)) Decimal.zero
  let rounded := PyFloat.ofDecimal total
  require rounded.isFinite (valueError "balance_invalid")
  return rounded

def managedBalanceUnavailable : PyException := executionIntegrityError "managed_balance_unavailable"

def readManagedBalance (asset : String) : ClientProgram PyFloat :=
  raising managedBalanceUnavailable do
    let spot ← evaluate (← reading (.getAssetBalance (.str asset)) rfl)
    let spotParts ← evaluate (spotAmounts asset spot)
    let earn ← evaluate (← reading (.getFlexiblePosition asset) rfl)
    let earnParts ← evaluate (earnAmounts asset earn)
    evaluate (floatTotal (spotParts ++ earnParts))

def readManagedBalances : List String → ClientProgram (List (String × PyFloat))
  | [] => pure []
  | asset :: rest => do
    let observed ← readManagedBalance asset
    let others ← readManagedBalances rest
    pure ((asset, observed) :: others)

/-- `_fuel_fill_matches_observed_balances`: the fees of one asset or the other. -/
def fuelFees (fuelAsset : String) : List Value → Decimal × Decimal → Option (Decimal × Decimal)
  | [], fees => some fees
  | .dict fill :: rest, (fuelFee, usdtFee) =>
    match finiteField fill "commission" with
    | none => none
    | some commission =>
      if feeAsset fill = fuelAsset then do
        fuelFees fuelAsset rest (← fuelFee.add defaultContext commission, usdtFee)
      else if feeAsset fill = "USDT" then do
        fuelFees fuelAsset rest (fuelFee, ← usdtFee.add defaultContext commission)
      else none
  | _ :: _, _ => none

/-- `abs(observed - expected) <= tolerance`. -/
def near (observed expected tolerance : Decimal) : Option Bool := do
  let difference ← observed.sub defaultContext expected
  return (← difference.abs defaultContext).le tolerance

def fuelFillMatchesObservedBalances (knownFill previous : Value) (observed : Document) (fuelAsset : String) :
    Bool :=
  match knownFill, previous with
  | .dict fill, .dict previous =>
    (do
      let executed ← finiteField fill "executed_qty"
      let quote ← finiteField fill "cummulative_quote_qty"
      let previousFuel ← finiteField previous fuelAsset
      let previousUsdt ← finiteField previous "USDT"
      let observedFuel ← finiteField observed fuelAsset
      let observedUsdt ← finiteField observed "USDT"
      let commissions := match pyGet fill "commissions" with
        | .list items => items
        | _ => []
      let (fuelFee, usdtFee) ← fuelFees fuelAsset commissions (.zero, .zero)
      let expectedFuel ← (← previousFuel.add defaultContext executed).sub defaultContext fuelFee
      let expectedUsdt ← (← previousUsdt.sub defaultContext quote).sub defaultContext usdtFee
      return (← near observedFuel expectedFuel ⟨false, 1, -8⟩)
        && (← near observedUsdt expectedUsdt ⟨false, 1, -4⟩) : Option Bool).getD false
  | _, _ => false

end Balances

section Recovery
variable [CharacterTable] (settings : ClientSettings)

def cashReconciliationUncertain : PyException := executionIntegrityError "cash_reconciliation_uncertain"

/-- `{item["asset"] for item in pending if item["confirmed"] and item["asset"]}`. -/
def confirmedAssets (items : List PendingItem) : List String :=
  (items.filterMap fun item =>
    match item.confirmed, item.asset with
    | true, .str asset => if asset = "" then none else some asset
    | _, _ => none).dedup

/-- The record of a fuel order that is filled and not accounted. -/
def fuelPending (state : Document) : Bool :=
  match pyGet state orderSubmissionStateKey with
  | .dict record => (pyGet record "state").isStr orderSubmissionFilledAccountingPending
      && (pyGet record "symbol").isStr settings.fuelSymbol
  | _ => false

def withTerminal (state : Document) : Document := withRecord state (statusRecord orderSubmissionTerminal)

/-- `float(current["assets"][asset]["quantity"])`. -/
def checkpointQuantity (current : Value) (asset : String) : Except PyException (String × PyFloat) := do
  let row ← item (← item current "assets") asset
  return (asset, ← (← item row "quantity").toFloat)

/-- Whether the checkpoints conserve the quantities with the accounted changes, or with the
dividends of the window on top of them. -/
def checkpointsConserve (previous current : Value) (net : Document) : ClientProgram Unit :=
  match compareEarnCheckpoints previous current (.dict net) with
  | .ok _ => pure ()
  | .error raised => do
    let assets ← evaluate (item previous "assets")
    let known ← evaluate (assetKeys assets)
    if raised.message = "earn_quantity_change_unexplained" ∧ "BNB" ∈ known then
      let start ← evaluate (item previous "observed_at")
      let finish ← evaluate (item current "observed_at")
      let dividend ← evaluate (← reading (.collectBnbDividends start finish) rfl)
      let quantity ← evaluate (amount defaultContext false dividend)
      let accounted ← evaluate (item (.dict net) "BNB")
      let accounted ← evaluate (amount defaultContext true accounted)
      let total ← evaluate (checked (accounted.add defaultContext quantity))
      let _ ← evaluate (compareEarnCheckpoints previous current
        (.dict (net.set "BNB" (.str (String.ofList (NumberText.print total))))))
    else leave raised

/-- The observations and the accounted state of the prospective mode. -/
def prospectiveObservations (state : Document) (assets : List String) :
    ClientProgram (List (String × PyFloat) × Document) :=
  raising cashReconciliationUncertain do
    let pendingState ← evaluate (if fuelPending settings state then accountKnownFillForEarn state else .ok state)
    let previous ← evaluate (item (.dict state) "earn_accrual_checkpoint")
    let checkpoint ← evaluate (asMapping typeError previous)
    let current ← evaluate (← reading (.collectEarnCheckpoint checkpoint) rfl)
    let net ← evaluate (item (.dict pendingState) "earn_accounted_net_changes")
    let net ← evaluate (asMapping typeError net)
    checkpointsConserve previous current net
    let observations ← evaluate (assets.mapM (checkpointQuantity current))
    pure (observations, pendingState)

def observationDocument (observations : List (String × PyFloat)) : Document :=
  ⟨observations.map fun entry => (entry.1, .float entry.2)⟩

/-- The accounted state of the other mode. -/
def settledFuel (state : Document) (observations : List (String × PyFloat)) :
    Except PyException Document := do
  if fuelPending settings state then
    let record := match pyGet state orderSubmissionStateKey with
      | .dict record => record
      | _ => .empty
    let complete ← knownFillIsComplete [settings.fuelAsset, "USDT"] (pyGet record "known_fill")
    require complete (executionIntegrityError "filled_order_accounting_unverifiable")
    require (fuelFillMatchesObservedBalances (pyGet record "known_fill") (pyGet state "last_balance_snapshot")
      (observationDocument observations) settings.fuelAsset) cashReconciliationUncertain
    return withTerminal (← accountKnownFillForEarn state)
  else return state

/-- `state.setdefault("last_balance_snapshot", {}).update(observations)`. -/
def refreshedSnapshot (state : Document) (observations : List (String × PyFloat)) :
    Except PyException Document := do
  let snapshot ← asMapping attributeError ((state.get? "last_balance_snapshot").getD (.dict .empty))
  return state.set "last_balance_snapshot" (.dict (snapshot.update (observationDocument observations)))

/-- The observations and the accounted state, in the mode of the state. -/
def observeCashEffects (state : Document) (assets : List String) :
    ClientProgram (List (String × PyFloat) × Document) :=
  if state.contains "earn_accrual_checkpoint" then do
    let found ← prospectiveObservations settings state assets
    pure (found.1,
      if fuelPending settings state then
        withTerminal (state.set "earn_accounted_net_changes" (pyGet found.2 "earn_accounted_net_changes"))
      else state)
  else do
    let observations ← raising cashReconciliationUncertain (readManagedBalances assets)
    let accounted ← evaluate (settledFuel settings state observations)
    pure (observations, accounted)

/-- The state after the refresh, which `runtime.trade_state` is too. -/
def reconcileRuntimeCashEffects (state : Document) : ClientProgram Document := do
  let runtime ← get
  let assets := confirmedAssets runtime.pendingFunds
  if assets.isEmpty then pure state
  else
    requireRuntimeStateOwner settings
    let observed ← observeCashEffects settings state (assets ++ ["USDT"]).dedup
    let refreshed ← evaluate (refreshedSnapshot observed.2 observed.1)
    update fun runtime =>
      { runtime with tradeState := some refreshed, cashBalanceObservation := ⟨observed.1⟩ }
    pure refreshed

/-- No observed quantity differs from its entry of the opening snapshot. -/
def balancesConserved (opening : Document) : List (String × PyFloat) → Bool
  | [] => true
  | (asset, observed) :: rest =>
    (match (opening.get? asset).map fundingAmount, fundingAmount (.float observed) with
      | some (.ok before), .ok now => before.value = now.value
      | _, _ => false) && balancesConserved opening rest

def conservationUnverified : PyException :=
  orderReconciliationError "funding_balance_conservation_unverified"

/-- `state["last_balance_snapshot"] = opening_snapshot`. -/
def withSnapshot (state opening : Document) : Document := state.set "last_balance_snapshot" (.dict opening)

/-- `runtime.pending_funds.remove(pending)`. -/
def removePending (asset : Value) (items : List PendingItem) : List PendingItem :=
  items.eraseP fun item =>
    item.confirmed && item.action = "funding" && item.symbol.equals .none && item.asset.equals asset

def reconcilePendingFundingSubmission : ClientProgram Bool := do
  if settings.dryRun || !settings.standardExecutionPermitted then pure false
  else
    requireRuntimeStateOwner settings
    let loaded ← loadOrderSubmissionState
    if !(pyGet loaded.2 "state").isStr orderSubmissionUnknown || !loaded.2.contains "funding_receipt" then
      pure false
    else
      match pyGet loaded.1 "last_balance_snapshot", pyGet loaded.2 "funding_receipt" with
      | .dict opening, .dict receipt => do
        confirmFundingSettlement (textOrEmpty loaded.2 "method_name") receipt
        addPending ⟨true, "funding", .none, pyGet receipt "asset"⟩
        let refreshed ← reconcileRuntimeCashEffects settings loaded.1
        let runtime ← get
        let restored := withSnapshot refreshed opening
        update fun runtime => { runtime with tradeState := some restored }
        if balancesConserved opening runtime.cashBalanceObservation.items then
          let _ ← persistOrderSubmissionState settings restored (statusRecord orderSubmissionTerminal)
          update fun runtime => { runtime with
            pendingFunds := removePending (pyGet receipt "asset") runtime.pendingFunds }
          pure true
        else
          update fun runtime => { runtime with cashBalanceObservation := .empty }
          leave conservationUnverified
      | _, _ => leave conservationUnverified

/-! ## The other programs of a cycle -/

/-- `runtime_set_trade_state`; `accounted` is what `_accounted_funds` answers. -/
def runtimeSetTradeState (accounted : PendingItem → Bool) (state : Document) (reason : String)
    (interval : Bool) : ClientProgram Unit := do
  if settings.dryRun || !settings.standardExecutionPermitted then pure ()
  else
    requireRuntimeStateOwner settings
    let accounting : Bool := reason = "earn_forward_accounting"
    if settings.receiptEnabled && accounting && !interval || interval && !accounting then do
      update fun runtime => { runtime with stateOwnerHeld := false }
      leave (statePersistenceError
        (if interval then "state_session_interval_reason_invalid" else "state_session_interval_required"))
    else
      persistRuntimeState interval state
      update fun runtime =>
        { runtime with tradeState := some state, pendingFunds := runtime.pendingFunds.filter fun item => !accounted item }

omit [CharacterTable] in
theorem loadState_reply : ClientRequest.loadState.Reply = Except PyException Value := rfl

/-- The state of `load_cycle_state`, normalized under the universe of the cycle. -/
def loadCycleState (trendUniverse : TrendUniverse) : ClientProgram Unit := do
  let stored ← evaluate (← reading .loadState loadState_reply)
  let state ← evaluate (normalizeTradeState trendUniverse stored)
  update fun runtime => { runtime with tradeState := some state }

/-! ## What only reads -/

theorem reads_readManagedBalance (asset : String) : Passive IsRead (readManagedBalance asset) :=
  .raising <| .bind (reads_reading rfl trivial) fun _ => .bind .evaluate fun _ => .bind .evaluate fun _ =>
    .bind (reads_reading rfl trivial) fun _ => .bind .evaluate fun _ => .bind .evaluate fun _ => .evaluate

theorem reads_readManagedBalances (assets : List String) : Passive IsRead (readManagedBalances assets) := by
  induction assets with
  | nil => exact .pure
  | cons asset rest ih =>
    exact .bind (reads_readManagedBalance asset) fun _ => .bind ih fun _ => .pure

theorem reads_checkpointsConserve (previous current : Value) (net : Document) :
    Passive IsRead (checkpointsConserve previous current net) := by
  unfold checkpointsConserve
  split
  · exact .pure
  · refine .bind .evaluate fun _ => .bind .evaluate fun _ => .ite ?_ .leave
    exact .bind .evaluate fun _ => .bind .evaluate fun _ => .bind (reads_reading rfl trivial) fun _ =>
      .bind .evaluate fun _ => .bind .evaluate fun _ => .bind .evaluate fun _ => .bind .evaluate fun _ =>
      .bind .evaluate fun _ => .bind .evaluate fun _ => .pure

theorem reads_prospectiveObservations (state : Document) (assets : List String) :
    Passive IsRead (prospectiveObservations settings state assets) :=
  .raising <| .bind .evaluate fun _ => .bind .evaluate fun _ => .bind .evaluate fun _ =>
    .bind (reads_reading rfl trivial) fun _ => .bind .evaluate fun _ => .bind .evaluate fun _ =>
    .bind .evaluate fun _ => .bind (reads_checkpointsConserve _ _ _) fun _ => .bind .evaluate fun _ => .pure

end Recovery
end Client
end BinancePlatform.Source
