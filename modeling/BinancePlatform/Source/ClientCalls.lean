import BinancePlatform.Library.Dialogues
import BinancePlatform.Source.BalanceRebase
import BinancePlatform.Source.KnownFill
import BinancePlatform.Source.StaleOwner

/-!
# Calls of the broker client

`runtime_call_client` and `reconcile_pending_funding_submission` of `runtime_support.py`,
as conversations with the bound state session and the broker client. The session writes
what it normalizes, so a save is answered with the document it committed, if it did. The
hash is a parameter.
-/

set_option autoImplicit false

namespace BinancePlatform.Source
open BinancePlatform.Library

/-- An item of `runtime.pending_funds`. -/
structure PendingItem where
  confirmed : Bool
  action : String
  symbol : Value
  asset : Value

structure ClientRuntime where
  stateOwnerHeld : Bool
  tradeState : Option Document
  pendingFunds : List PendingItem
  cashBalanceObservation : Dict String PyFloat

/-- The fields of `ExecutionRuntime` that no call changes. -/
structure ClientSettings where
  dryRun : Bool
  standardExecutionPermitted : Bool
  stateOwnerId : String
  receiptEnabled : Bool
  clientConfigured : Bool
  runId : String
  fuelSymbol : String
  fuelAsset : String

inductive ClientRequest where
  -- `state_owner_claim` and `state_owner_release`
  | claimOwner
  | releaseOwner
  -- `bound_state_access`
  | ensureActive
  | loadState
  | saveState (interval : Bool) (data : Document)
  -- `getattr(runtime.client, method_name)(**payload)`
  | send (methodName : String) (payload : Document)
  | getOrder (symbol origClientOrderId : String)
  | getAssetBalance (asset : Value)
  -- `_request_margin_api` of the flexible history
  | flexibleHistory (path : String) (receipt : Document)
  | getFlexiblePosition (asset : String)
  -- `collect_earn_checkpoint` and `collect_bnb_dividend_quantity`, which only read
  | collectEarnCheckpoint (previous : Document)
  | collectBnbDividends (start finish : Value)

/-- A save that raises may have been committed. -/
inductive SaveReply where
  | saved (committed : Document)
  | failed (committed : Option Document)

def ClientRequest.Reply : ClientRequest → Type
  | .ensureActive => Bool
  | .saveState _ _ => SaveReply
  | _ => Except PyException Value

abbrev ClientEvent := Exchange ClientRequest.Reply

abbrev ClientProgram (α : Type) := Conversation ClientRequest ClientRequest.Reply PyException ClientRuntime α

def orderReconciliationError (message : String) : PyException := ⟨.orderReconciliationError, message⟩
def statePersistenceError (message : String) : PyException := ⟨.statePersistenceError, message⟩
def clientCallError (message : String) : PyException := ⟨.clientCallError, message⟩

def binanceOrderFilledStatus : String := "FILLED"
def binanceOrderFailedStatuses : List String := ["CANCELED", "EXPIRED", "REJECTED"]
def orderClientIdPrefix : String := "QSL_"

def earnMethodByEffectType : List (String × String) :=
  [("earn_redeem", "redeem_simple_earn_flexible_product"),
   ("earn_subscribe", "subscribe_simple_earn_flexible_product")]

namespace Client
open Conversation

/-! ## The session -/

section Session
variable (settings : ClientSettings)

def reading (call : ClientRequest) (same : call.Reply = Except PyException Value) :
    ClientProgram (Except PyException Value) := do
  let reply : call.Reply ← ask call
  pure (same ▸ reply)

/-- A new owner drops what was cached before its claim. -/
def acquireRuntimeStateOwner : ClientProgram Bool := do
  if settings.dryRun || !settings.standardExecutionPermitted then pure true
  else
    let runtime ← get
    if runtime.stateOwnerHeld then leave (statePersistenceError "state_owner_already_held")
    else
      match ← reading .claimOwner rfl with
      | .error _ => leave (statePersistenceError "state_owner_claim_uncertain")
      | .ok (.bool true) =>
        update fun _ => ⟨true, none, [], .empty⟩
        pure true
      | .ok _ => pure false

def requireRuntimeStateOwner : ClientProgram Unit := do
  let runtime ← get
  if !runtime.stateOwnerHeld || settings.stateOwnerId = "" then
    leave (statePersistenceError "state_owner_required")
  else
    let active : Bool ← ask ClientRequest.ensureActive
    if active then pure ()
    else
      update fun runtime => { runtime with stateOwnerHeld := false }
      leave (statePersistenceError "state_session_inactive")

/-- No release while funds are pending or an order is unsettled. -/
def releaseRuntimeStateOwner : ClientProgram Bool := do
  requireRuntimeStateOwner settings
  let runtime ← get
  let record := match pyGet (runtime.tradeState.getD .empty) orderSubmissionStateKey with
    | .dict record => record
    | _ => .empty
  if !runtime.pendingFunds.isEmpty || (pyGet record "state").isStr orderSubmissionUnknown
      || (pyGet record "state").isStr orderSubmissionFilledAccountingPending then
    pure false
  else
    let reply ← reading .releaseOwner rfl
    update fun runtime => { runtime with stateOwnerHeld := false }
    match reply with
    | .error _ => leave (statePersistenceError "state_owner_release_uncertain")
    | .ok (.bool true) => pure true
    | .ok _ => leave (statePersistenceError "state_owner_release_failed")

/-- `_persist_runtime_state`. -/
def persistRuntimeState (interval : Bool) (data : Document) : ClientProgram Unit := do
  let reply : SaveReply ← ask (ClientRequest.saveState interval data)
  match reply with
  | .saved _ => pure ()
  | .failed _ =>
    update fun runtime => { runtime with stateOwnerHeld := false }
    leave (statePersistenceError "state_persistence_failed")

/-- The state with its new record, which is the runtime's state from then on. -/
def persistOrderSubmissionState (state record : Document) : ClientProgram Document := do
  requireRuntimeStateOwner settings
  persistRuntimeState false (withRecord state record)
  update fun runtime => { runtime with tradeState := some (withRecord state record) }
  pure (withRecord state record)

/-- `runtime.trade_state`, or the document loaded without normalization. -/
def currentState : ClientProgram Value := do
  let runtime ← get
  match runtime.tradeState with
  | some state => pure (.dict state)
  | none =>
    match ← reading .loadState rfl with
    | .ok state => pure state
    | .error _ => leave (statePersistenceError "state_persistence_failed")

def loadOrderSubmissionState [CharacterTable] : ClientProgram (Document × Document) := do
  let stored ← currentState
  let loaded ← evaluate (loadOrderSubmission stored)
  update fun runtime => { runtime with tradeState := some loaded.1 }
  pure loaded

end Session

/-! ## Orders -/

section Orders
variable [CharacterTable] (settings : ClientSettings) (sha256 : Document → String)

def clientOrderIdFromDigest (identitySha256 : String) : Except PyException String :=
  if isSha256 (.str identitySha256) then
    .ok (orderClientIdPrefix ++ String.ofList (identitySha256.toList.take 28))
  else .error submissionStateInvalid

/-- `logical_order`. -/
def logicalOrder (methodName : String) (payload : Document) : Document :=
  let supplied := strip (textOrEmpty payload "newClientOrderId")
  if supplied ≠ "" then ⟨[("supplied_client_order_id", .str supplied)]⟩
  else ⟨[("run_id", .str settings.runId), ("method_name", .str methodName), ("payload", .dict payload)]⟩

/-- The order's payload under its client order id, and the identity; `sha256` is the
digest of the canonical text of a document. -/
def ensureOrderLogicalIdentity (methodName : String) (payload : Document) :
    Except PyException (Document × String) := do
  let identitySha256 := sha256 (logicalOrder settings methodName payload)
  let clientOrderId ← clientOrderIdFromDigest identitySha256
  return (payload.set "newClientOrderId" (.str clientOrderId), identitySha256)

structure OrderAssociation where
  symbol : String
  side : String
  clientOrderId : String
  quantityField : String
  quantity : Decimal

def methodToSide : List (String × String) :=
  [("order_market_buy", "BUY"), ("order_market_sell", "SELL")]

def buildOrderRequestAssociation (methodName : String) (orderPayload : Document) :
    Except PyException OrderAssociation := do
  let symbol := upperText (strip (textOrEmpty orderPayload "symbol"))
  requireSubmission (isOrderSymbol symbol)
  let clientOrderId := strip (textOrEmpty orderPayload "newClientOrderId")
  match Dict.find methodName methodToSide,
      ["quantity", "quoteOrderQty"].filter fun name => orderPayload.contains name with
  | some side, [quantityField] =>
    requireSubmission (decide (clientOrderId ≠ ""))
    match (pyGet orderPayload quantityField).toDecimal with
    | .ok (.finite quantity) =>
      requireSubmission (Decimal.zero.lt quantity)
      return { symbol, side, clientOrderId, quantityField, quantity }
    | _ => throw submissionStateInvalid
  | _, _ => throw submissionStateInvalid

def reconciledOrderMatchesRequest (response : Value) (association : OrderAssociation) : Bool :=
  match response with
  | .dict order =>
    (pyGet order "type").isStr "MARKET"
      && strip (textOrEmpty order "clientOrderId") = association.clientOrderId
      && upperText (strip (textOrEmpty order "symbol")) = association.symbol
      && upperText (strip (textOrEmpty order "side")) = association.side
      && match finiteField order
          (if association.quantityField = "quantity" then "origQty" else "origQuoteOrderQty") with
        | some quantity => quantity.value = association.quantity.value
        | none => false
  | _ => false

/-- `str(mapping.get(key, ""))`. -/
def textOf (mapping : Document) (key : String) : String := ((mapping.get? key).getD (.str "")).toStr

def commissionRecord (fill : Document) : Document :=
  ⟨[("price", .str (textOf fill "price")), ("qty", .str (textOf fill "qty")),
    ("commission", .str (textOf fill "commission")),
    ("commission_asset", .str (textOf fill "commissionAsset"))]⟩

def knownFillRecord (response : Document) : Document :=
  let commissions := match pyGet response "fills" with
    | .list fills => fills.filterMap fun
      | .dict fill => some (.dict (commissionRecord fill))
      | _ => none
    | _ => []
  ⟨[("client_order_id", .str (textOf response "clientOrderId")), ("side", .str (textOf response "side")),
    ("executed_qty", .str (textOf response "executedQty")),
    ("cummulative_quote_qty", .str (textOf response "cummulativeQuoteQty")),
    ("commissions", .list commissions)]⟩

/-- `str(response.get("status") or "").strip().upper()` of a mapping, else the empty text. -/
def orderStatus : Value → String
  | .dict response => upperText (strip (textOrEmpty response "status"))
  | _ => ""

def requireFilledOrderResponse (response : Value) : Except PyException Value :=
  match response with
  | .dict _ =>
    if orderStatus response = binanceOrderFilledStatus then .ok response
    else if orderStatus response ∈ binanceOrderFailedStatuses then
      .error (clientCallError "order_submission_failed")
    else .error (orderReconciliationError "order_reconciliation_uncertain")
  | _ => .error (orderReconciliationError "order_reconciliation_uncertain")

/-- A failed order that executed nothing. -/
def noFill : Value → Bool
  | .dict response => match finiteField response "executedQty" with
    | some executed => executed.coeff = 0
    | none => false
  | _ => false

/-- `terminal_record`. -/
def terminalRecord (state : Document) (response : Value) (fillAccountingRequired : Bool) : Document :=
  match response with
  | .dict order =>
    if orderStatus response = binanceOrderFilledStatus && fillAccountingRequired then
      let previous := match pyGet state orderSubmissionStateKey with
        | .dict record => record
        | _ => .empty
      let symbol := (pyGet previous "symbol").orElse ((pyGet order "symbol").orElse (.str ""))
      ⟨[("state", .str orderSubmissionFilledAccountingPending),
        ("identity_sha256", .str (textOrEmpty previous "identity_sha256")),
        ("symbol", .str (upperText symbol.toStr)), ("known_fill", .dict (knownFillRecord order))]⟩
    else statusRecord orderSubmissionTerminal
  | _ => statusRecord orderSubmissionTerminal

/-- `pending_funds[-1]["confirmed"] = True`. -/
def confirmLast (items : List PendingItem) : List PendingItem :=
  match items.getLast? with
  | some item => items.dropLast ++ [{ item with confirmed := true }]
  | none => []

def completeOrderResponse (state : Document) (response : Value) (fillAccountingRequired : Bool) :
    ClientProgram Value := do
  let status := orderStatus response
  if status ∈ binanceOrderFailedStatuses && !noFill response then
    leave (orderReconciliationError "order_reconciliation_uncertain")
  else
    if status = binanceOrderFilledStatus ∨ status ∈ binanceOrderFailedStatuses then do
      let _ ← persistOrderSubmissionState settings state (terminalRecord state response fillAccountingRequired)
      update fun runtime =>
        { runtime with
          pendingFunds :=
            if status = binanceOrderFilledStatus then confirmLast runtime.pendingFunds
            else runtime.pendingFunds.dropLast }
      evaluate (requireFilledOrderResponse response)
    else evaluate (requireFilledOrderResponse response)

def reconcileUncertainOrder (symbol identitySha256 : String) : ClientProgram Value :=
  let uncertain := orderReconciliationError "order_reconciliation_uncertain"
  if symbol = "" ∨ identitySha256 = "" then leave uncertain
  else
    match clientOrderIdFromDigest identitySha256 with
    | .error _ => leave uncertain
    | .ok clientOrderId => do
      match ← reading (.getOrder symbol clientOrderId) rfl with
      | .ok (.dict response) => pure (.dict response)
      | _ => leave uncertain

/-! ## One call -/

structure ClientCall where
  methodName : String
  payload : Document
  effectType : String
  maxRetries : ℤ
  accountingAsset : Value

def ClientCall.isOrderCall (call : ClientCall) : Bool := "order_".toList.isPrefixOf call.effectType.toList

def ClientCall.isEarnCall (call : ClientCall) : Bool :=
  Dict.find call.effectType earnMethodByEffectType = some call.methodName

def ClientCall.isFundingMutation (call : ClientCall) : Bool := call.isOrderCall || call.isEarnCall

/-- An order whose `SUBMISSION_UNKNOWN` record is written. -/
structure SubmittedOrder where
  association : OrderAssociation
  identitySha256 : String
  state : Document

/-- What an order's answer settles, if it is that order's. -/
def settleOrder (order : SubmittedOrder) (response : Value) (mismatch : String) : ClientProgram Value :=
  if reconciledOrderMatchesRequest response order.association then
    completeOrderResponse settings order.state response true
  else leave (orderReconciliationError mismatch)

/-- `for attempt in range(max_retries + 1)`. -/
def attempts (call : ClientCall) (clientPayload : Document) (order : Option SubmittedOrder) :
    ℕ → ClientProgram Value
  | 0 => leave (clientCallError (if order.isSome then "order_submission_failed" else "client_call_failed"))
  | remaining + 1 => do
    let reply ← reading (.send call.methodName clientPayload) rfl
    match reply, order with
    | .ok response, some order => settleOrder settings order response "order_reconciliation_uncertain"
    | .ok response, none => pure response
    | .error _, some order => do
      let response ← reconcileUncertainOrder order.association.symbol order.identitySha256
      settleOrder settings order response "order_reconciliation_intent_mismatch"
    | .error _, none => attempts call clientPayload order remaining

/-- A new call while an order's outcome is unknown asks for that order. -/
def resumeOrder (call : ClientCall) (state record : Document) : ClientProgram Value := do
  if record.contains "method_name" || call.isEarnCall then
    leave (orderReconciliationError "order_reconciliation_uncertain")
  else
    let current ← evaluate (ensureOrderLogicalIdentity settings sha256 call.methodName call.payload)
    if (pyGet record "identity_sha256").isStr current.2 then
      let association ← evaluate (buildOrderRequestAssociation call.methodName current.1)
      let response ← reconcileUncertainOrder (textOrEmpty record "symbol") current.2
      if reconciledOrderMatchesRequest response association then
        update fun runtime =>
          { runtime with
            pendingFunds := if runtime.pendingFunds.isEmpty then
                [⟨false, if association.side = "BUY" then "buy" else "sell", .str association.symbol, .none⟩]
              else runtime.pendingFunds }
        completeOrderResponse settings state response call.isOrderCall
      else leave (orderReconciliationError "order_reconciliation_intent_mismatch")
    else leave (orderReconciliationError "order_reconciliation_intent_mismatch")

/-- The record a call may send from: `TERMINAL` is written back to `RESERVED` first. -/
def reserveState (state record : Document) : ClientProgram Document :=
  if (pyGet record "state").isStr orderSubmissionTerminal then
    persistOrderSubmissionState settings state (statusRecord orderSubmissionReserved)
  else pure state

def addPending (item : PendingItem) : ClientProgram Unit :=
  update fun runtime => { runtime with pendingFunds := runtime.pendingFunds ++ [item] }

def pendingAction (call : ClientCall) : String :=
  if call.methodName = "order_market_buy" then "buy" else "sell"

def submitOrder (call : ClientCall) (state : Document) : ClientProgram Value := do
  let submitted ← evaluate (ensureOrderLogicalIdentity settings sha256 call.methodName call.payload)
  let association ← evaluate (buildOrderRequestAssociation call.methodName submitted.1)
  let state ← persistOrderSubmissionState settings state
    (unknownRecord submitted.2 ("symbol", association.symbol))
  addPending ⟨false, pendingAction call, pyGet submitted.1 "symbol",
    if (pyGet submitted.1 "symbol").isStr settings.fuelSymbol then .str settings.fuelAsset else .none⟩
  attempts settings call submitted.1 (some ⟨association, submitted.2, state⟩) (call.maxRetries + 1).toNat

/-- `_is_confirmed_earn_success`, with the id of the receipt. -/
def earnSuccessId (methodName : String) (response : Value) : Option ℤ :=
  match Dict.find methodName earnSuccessIdByMethod, response with
  | some field, .dict answer =>
    match pyGet answer "success", pyGet answer field with
    | .bool true, .int id => if 0 < id then some id else none
    | _, _ => none
  | _, _ => none

/-- `_confirm_funding_settlement`: the row of the history. -/
def settledRow (redeem : Bool) (receipt : Document) (response : Value) : Bool :=
  match response with
  | .dict answer =>
    match pyGet answer "total", pyGet answer "rows" with
    | .int 1, .list [.dict row] =>
      let idKey := if redeem then "redeemId" else "purchaseId"
      (match pyGet row idKey, pyGet receipt "id" with
        | .int id, .int bound => id = bound
        | _, _ => false)
        && (pyGet row "asset").isStr (textOrEmpty receipt "asset")
        && (pyGet row (if redeem then "projectId" else "productId")).isStr (textOrEmpty receipt "product_id")
        && (pyGet row "status").isStr (if redeem then "PAID" else "SUCCESS")
        && (pyGet row (if redeem then "destAccount" else "sourceAccount")).isStr "SPOT"
        && match fundingAmount (pyGet row "amount"), fundingAmount (pyGet receipt "amount") with
          | .ok paid, .ok amount => paid.value = amount.value
          | _, _ => false
    | _, _ => false
  | _ => false

/-- `free == spot_before ± amount`, added in the default context. -/
def settledCash (redeem : Bool) (receipt : Document) (spot : Value) : Except PyException Bool := do
  let free ← fundingAmount (← item spot "free")
  let before ← fundingAmount (pyGet receipt "spot_before")
  let amount ← fundingAmount (pyGet receipt "amount")
  let expected ← checked (before.add defaultContext (if redeem then amount else amount.neg))
  return free.value = expected.value

def isRedeem (methodName : String) : Bool := methodName = "redeem_simple_earn_flexible_product"

def confirmFundingSettlement (methodName : String) (receipt : Document) : ClientProgram Unit := do
  let unverified := orderReconciliationError "funding_settlement_unverified"
  if !validFundingReceipt (.dict receipt) then leave unverified
  else
    let path := if isRedeem methodName then "redemptionRecord" else "subscriptionRecord"
    match ← reading (.flexibleHistory path receipt) rfl with
    | .error _ => leave unverified
    | .ok response =>
      if settledRow (isRedeem methodName) receipt response then
        match ← reading (.getAssetBalance (pyGet receipt "asset")) rfl with
        | .error _ => leave unverified
        | .ok spot =>
          match settledCash (isRedeem methodName) receipt spot with
          | .ok true => pure ()
          | _ => leave unverified
      else leave unverified

structure EarnRequest where
  asset : String
  productId : String
  amount : Decimal
  payload : Document

/-- The checks of an Earn request before its Spot balance is read. -/
def earnRequest (call : ClientCall) : Except PyException EarnRequest := do
  let .str asset := call.accountingAsset | throw (valueError "funding_asset_missing")
  require (fullMatch upperOrDigit 1 20 asset) (valueError "funding_asset_missing")
  let amount ← fundingAmount (pyGet call.payload "amount")
  let .str productId := pyGet call.payload "productId" | throw (valueError "funding_request_invalid")
  require (Decimal.zero.lt amount && productId ≠ "") (valueError "funding_request_invalid")
  let accountKey := if call.effectType = "earn_redeem" then "destAccount" else "sourceAccount"
  require (((call.payload.get? accountKey).getD (.str "SPOT")).isStr "SPOT")
    (valueError "funding_account_invalid")
  return { asset, productId, amount, payload := call.payload.set accountKey (.str "SPOT") }

def spotFree (spot : Value) : Except PyException Decimal := do fundingAmount (← item spot "free")

/-- The whole preflight: the request and the Spot balance before it. -/
def earnPreflight (call : ClientCall) : ClientProgram (EarnRequest × Decimal) := do
  let failed := executionIntegrityError "funding_preflight_failed"
  match earnRequest call with
  | .error _ => leave failed
  | .ok request =>
    match ← reading (.getAssetBalance (.str request.asset)) rfl with
    | .error _ => leave failed
    | .ok spot =>
      match spotFree spot with
      | .error _ => leave failed
      | .ok spotBefore =>
        if call.effectType = "earn_subscribe" && spotBefore.lt request.amount then leave failed
        else pure (request, spotBefore)

def fundingReceipt (id : ℤ) (request : EarnRequest) (spotBefore : Decimal) : Document :=
  ⟨[("id", .int id), ("asset", .str request.asset), ("product_id", .str request.productId),
    ("amount", .str (String.ofList (NumberText.print request.amount))),
    ("spot_before", .str (String.ofList (NumberText.print spotBefore)))]⟩

def submitEarn (call : ClientCall) (state : Document) : ClientProgram Value := do
  let uncertain := orderReconciliationError "order_reconciliation_uncertain"
  let preflight ← earnPreflight call
  let submitted ← evaluate (ensureOrderLogicalIdentity settings sha256 call.methodName call.payload)
  let record := unknownRecord submitted.2 ("method_name", call.methodName)
  let state ← persistOrderSubmissionState settings state record
  addPending ⟨false, pendingAction call, pyGet preflight.1.payload "symbol", .str preflight.1.asset⟩
  match ← reading (.send call.methodName preflight.1.payload) rfl with
  | .error _ => leave uncertain
  | .ok response =>
    match earnSuccessId call.methodName response with
    | none => leave uncertain
    | some id => do
      let receipt := fundingReceipt id preflight.1 preflight.2
      let state ← persistOrderSubmissionState settings state (record.set "funding_receipt" (.dict receipt))
      confirmFundingSettlement call.methodName receipt
      let _ ← persistOrderSubmissionState settings state (statusRecord orderSubmissionTerminal)
      update fun runtime => { runtime with pendingFunds := confirmLast runtime.pendingFunds }
      pure response

/-- The funding branch of `runtime_call_client`. -/
def callFunding (call : ClientCall) : ClientProgram Value := do
  let loaded ← loadOrderSubmissionState
  let status := pyGet loaded.2 "state"
  if status.isStr orderSubmissionUnknown then resumeOrder settings sha256 call loaded.1 loaded.2
  else if status.isStr orderSubmissionFilledAccountingPending then
    leave (orderReconciliationError "filled_order_accounting_unverifiable")
  else
    let state ← reserveState settings loaded.1 loaded.2
    if call.isEarnCall then submitEarn settings sha256 call state else submitOrder settings sha256 call state

def suppressedResponse (call : ClientCall) : Value :=
  .dict ⟨[("status", .str "suppressed"), ("method", .str call.methodName), ("payload", .dict call.payload)]⟩

def runtimeCallClient (call : ClientCall) : ClientProgram Value := do
  if settings.dryRun || !settings.standardExecutionPermitted then pure (suppressedResponse call)
  else
    requireRuntimeStateOwner settings
    if !settings.clientConfigured then leave ⟨.runtimeError, "runtime.client is not configured"⟩
    else if ("earn_".toList.isPrefixOf call.effectType.toList
        || (Dict.find call.methodName earnSuccessIdByMethod).isSome) && !call.isEarnCall then
      leave submissionStateInvalid
    else if call.isFundingMutation then callFunding settings sha256 call
    else attempts settings call call.payload none (call.maxRetries + 1).toNat

end Orders

/-! ## What only reads -/

/-- A request that neither sends nor writes. -/
def IsRead : ClientRequest → Prop
  | .send _ _ => False
  | .saveState _ _ => False
  | _ => True

theorem reads_reading {call : ClientRequest} (same : call.Reply = Except PyException Value) (read : IsRead call) :
    Passive IsRead (reading call same) :=
  .bind (.ask read) fun _ => .pure

section Reads
variable [CharacterTable]

theorem reads_earnPreflight (call : ClientCall) : Passive IsRead (earnPreflight call) := by
  unfold earnPreflight
  dsimp only
  split
  · exact .leave
  · refine .bind (reads_reading rfl trivial) fun reply => ?_
    split
    · exact .leave
    · split
      · exact .leave
      · exact .ite .leave .pure

end Reads
end Client
end BinancePlatform.Source
