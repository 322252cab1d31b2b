import BinancePlatform.Library.Effects
import BinancePlatform.Source.BalanceRebase
import BinancePlatform.Source.EarnAccrual
import BinancePlatform.Source.Equality
import BinancePlatform.Source.FillAccounting

/-!
# The balance change of a ledger without an Earn checkpoint

`maybe_rebase_daily_state_for_balance_change` of `portfolio_service.py` below its Earn
branch, on the documents it reads and in the order of its statements. The caller's
functions (the collector, the write, the translation) are parameters, and so is the local
time zone, in which a naive time is read.
-/

set_option autoImplicit false

namespace BinancePlatform.Source.Legacy
open BinancePlatform.Library

def checkpointRequired : PyException := executionIntegrityError "earn_checkpoint_required_for_receipt"
def dailyAccountingUnverifiable : PyException :=
  executionIntegrityError "daily_accounting_unverifiable"

/-- What the function changes. -/
structure RebaseState where
  state : Document
  diagnostics : Document
  log : List String
  /-- The calls of `runtime_set_trade_state_fn`: the reason and the state handed over. -/
  writes : List (String × Document)

abbrev Rebasing := Program PyException RebaseState

structure RebaseInput where
  receiptEnabled : Bool
  now : Instant
  currentBalanceSnapshot : Document
  collectExternalCashFlows : Instant → Value → Except PyException Document
  localInstant : DateTime.Parsed → Instant
  /-- The outcome of a write and the state it leaves in the caller's mapping. -/
  runtimeSetTradeState : String → Document → Except PyException Unit × Document
  /-- `translate_fn(key, assets=…)`. -/
  translate : String → String → String

/-- An expression that changes nothing and may raise. -/
def evaluate {α : Type} (outcome : Except PyException α) : Rebasing α := fun s => (outcome, s)

/-- `report.setdefault("diagnostics", {})[name] = entry`. -/
def diagnose (name : String) (entry : Document) : Rebasing Unit := .update fun s =>
  { s with diagnostics := s.diagnostics.set name (.dict entry) }

def appendLog (text : String) : Rebasing Unit := .update fun s => { s with log := s.log ++ [text] }

/-- `except caught: raise raised from None`. -/
def raiseFrom {α : Type} (caught : List ExceptionClass) (raised : PyException)
    (body : Except PyException α) : Except PyException α :=
  body.mapError fun e => if caught.any e.cls.isA then raised else e

/-! ## The change of each asset -/

/-- `float(snapshot.get(asset, 0.0) or 0.0)`. -/
def snapshotQuantity (snapshot : Document) (asset : String) : Except PyException PyFloat :=
  raiseFrom [.typeError, .valueError] balanceChangeUnexplained
    (((snapshot.get? asset).getD zeroFloat).orElse zeroFloat).toFloat

/-- `abs(current_value - previous_value) > tolerance`. -/
def hasMoved (asset : String) (previous current : PyFloat) : Bool :=
  (if asset = "USDT" then PyFloat.tenth 4 else PyFloat.tenth 8).lt (current.sub previous).abs

/-- The loop over the sorted assets. -/
def changedAmong (previous current : Document) : List String → Except PyException (List String)
  | [] => .ok []
  | asset :: rest => do
    let previousValue ← snapshotQuantity previous asset
    let currentValue ← snapshotQuantity current asset
    require (previousValue.isFinite && currentValue.isFinite) balanceChangeUnexplained
    let changed ← changedAmong previous current rest
    return if hasMoved asset previousValue currentValue then asset :: changed else changed

/-- `changed_assets`. -/
def changedAssets (previous current : Document) : Except PyException (List String) :=
  changedAmong previous current ((previous.keys ++ current.keys).dedup.insertionSort (· ≤ ·))

/-! ## The cash flows -/

/-- `for value in values`. -/
def iterated : Value → Except PyException (List Value)
  | .list items => .ok items
  | .str s => .ok (s.toList.map fun c => .str (String.ofList [c]))
  | .dict d => .ok (d.keys.map .str)
  | _ => .error typeError

/-- `mapping.get(key, 0)` of the class `int`. -/
def countOf (slice : Document) (key : String) : Option ℤ :=
  match (slice.get? key).getD (.int 0) with
  | .int n => some n
  | _ => none

def asInt : Value → Option ℤ
  | .int n => some n
  | _ => none

section Text
variable [CharacterTable]

/-- One time of `new_deposit_completed_at`, in UTC. -/
def completionTime (localInstant : DateTime.Parsed → Instant) (value : Value) :
    Except PyException Instant :=
  match DateTime.fromIsoformat (zuluReplaced value.toStr) with
  | none => .error (valueError "Invalid isoformat string")
  | some parsed =>
    let t := parsed.instant?.getD (localInstant parsed)
    if DateTime.minInstant ≤ t ∧ t < DateTime.endInstant then .ok t else .error overflowError

/-- The cash flows that passed their checks. -/
structure CheckedCashFlows where
  principal : Decimal
  completedAt : List Instant
  cursor : Document
  unsupported : ℤ
  withdrawals : ℤ

/-- What is read of the collected slice. -/
def readCashFlows (localInstant : DateTime.Parsed → Instant) (slice : Document) :
    Except PyException (NumberText.Numeral × List Instant) :=
  raiseFrom [.keyError, .typeError, .valueError, .invalidOperation] cashFlowUncertain do
    let principal ← (← item (.dict slice) "new_deposit_principal_usdt").toDecimal
    let values ← iterated (← item (.dict slice) "new_deposit_completed_at")
    let completedAt ← values.mapM (completionTime localInstant)
    return (principal, completedAt)

/-- The checks on the cash flows; a passed principal is finite and not negative. -/
def checkCashFlows (slice : Document) (principal : NumberText.Numeral) (completedAt : List Instant) :
    Except PyException CheckedCashFlows :=
  match principal, asInt (pyGet slice "new_confirmed_deposit_count"),
      countOf slice "new_unsupported_deposit_count",
      countOf slice "new_or_changed_withdrawal_count", pyGet slice "cursor" with
  | .finite principal, some confirmed, some unsupported, some withdrawals, .dict cursor =>
    if principal.lt .zero = false ∧ confirmed = completedAt.length
        ∧ principal.eqv .zero = completedAt.isEmpty then
      .ok ⟨principal, completedAt, cursor, unsupported, withdrawals⟩
    else .error cashFlowUncertain
  | _, _, _, _, _ => .error cashFlowUncertain

/-- `Decimal(str(value))` of a quantity that has been read as a finite float. -/
def decimalQuantity (value : Value) : Except PyException Decimal := do
  match ← value.toDecimal with
  | .finite d => return d
  | _ => .error invalidOperation

/-- `observed_delta`; an overflow of the subtraction is not caught. -/
def observedDelta (previous current : Document) : Except PyException Decimal := do
  let quantities ← raiseFrom [.invalidOperation, .typeError, .valueError] cashFlowUncertain do
    let after ← decimalQuantity ((current.get? "USDT").getD zeroFloat)
    let before ← decimalQuantity ((previous.get? "USDT").getD zeroFloat)
    return (after, before)
  checked (quantities.1.sub defaultContext quantities.2)

/-- `abs(observed_delta - principal) > Decimal("0.00000001")`. -/
def differs (observed principal : Decimal) : Except PyException Bool := do
  let difference ← checked (observed.sub defaultContext principal)
  let magnitude ← checked (difference.abs defaultContext)
  return Decimal.lt ⟨false, 1, -8⟩ magnitude

/-- The stored principal of the day with the new one. -/
def accumulatedPrincipal (state : Document) (principal : Decimal) : Except PyException Decimal := do
  let stored ← raiseFrom [.invalidOperation, .typeError, .valueError] dailyAccountingUnverifiable
    ((state.get? "daily_external_principal_usdt").getD zeroFloat).toDecimal
  match stored with
  | .finite d => checked (d.add defaultContext principal)
  | _ => .error dailyAccountingUnverifiable

end Text

/-! ## The function -/

section Rebase
variable [CharacterTable] (input : RebaseInput)

/-- `not isinstance(previous_snapshot, dict) or not previous_snapshot`. -/
def initializing (state : Document) : Bool :=
  match pyGet state "last_balance_snapshot" with
  | .dict previous => previous.entries.isEmpty
  | _ => true

def previousSnapshot (state : Document) : Document :=
  match pyGet state "last_balance_snapshot" with
  | .dict previous => if previous.entries.isEmpty then input.currentBalanceSnapshot else previous
  | _ => input.currentBalanceSnapshot

/-- `is None` on a value. -/
def isNone : Value → Bool
  | .none => true
  | _ => false

/-- The report, the log and the exception of a change that nothing explains. -/
def unexplained {α : Type} (changed : List String) (reasonCode : Option String) : Rebasing α := do
  diagnose "balance_change" ⟨[("status", .str "unexplained"), ("assets", .list (changed.map .str))]
    ++ reasonCode.toList.map fun code => ("reason_code", .str code)⟩
  appendLog (input.translate "balance_change_unexplained" (", ".intercalate changed))
  .leave balanceChangeUnexplained

/-- The report of blocked cash flows. -/
def blockCashFlow (reasonCode : String) : Rebasing Unit :=
  diagnose "external_cash_flow" ⟨[("status", .str "blocked"), ("reason_code", .str reasonCode)]⟩

/-- The call of `collect_external_cash_flows_fn` in its handler. -/
def collectCashFlows (cursor : Value) : Rebasing Document :=
  match input.collectExternalCashFlows input.now cursor with
  | .ok slice => pure slice
  | .error raised =>
    if raised.cls.isA .valueError then do
      blockCashFlow (if raised.message.startsWith "external_" then raised.message
        else "external_cash_flow_reconciliation_uncertain")
      .leave cashFlowUncertain
    else .leave raised

/-- The call of `runtime_set_trade_state_fn` on the working state. -/
def persist (reason : String) : Rebasing Unit := fun s =>
  let written := input.runtimeSetTradeState reason s.state
  (written.1, { s with state := written.2, writes := s.writes ++ [(reason, s.state)] })

/-- `if refused: report; raise raised`. -/
def refuseWhen (refused : Bool) (report : Rebasing Unit) (raised : PyException) : Rebasing Unit :=
  if refused then do
    report
    .leave raised
  else pure ()

/-- Does the change of the account differ from the deposit? -/
def mismatched (previous : Document) (changed : List String) (cash : CheckedCashFlows) :
    Except PyException Bool := do
  let observed ← observedDelta previous input.currentBalanceSnapshot
  if changed ≠ ["USDT"] ∨ cash.unsupported ≠ 0 ∨ cash.withdrawals ≠ 0 then return true
  else differs observed cash.principal

/-- The principal of the day with the deposit, where the day matches. -/
def dailyPrincipal (state : Document) (principal : Decimal) : Except PyException (Option Decimal) :=
  if (pyGet state "last_reset_date").isStr (DateTime.dateIsoformat input.now) then
    (accumulatedPrincipal state principal).map some
  else .ok none

/-- The checks of a deposit. -/
def checkDeposit (previous : Document) (changed : List String) (cash : CheckedCashFlows) :
    Rebasing (Option Decimal) := do
  refuseWhen (cash.completedAt.any fun t => DateTime.dayOf t ≠ DateTime.dayOf input.now)
    (blockCashFlow "external_cash_flow_late_completion") cashFlowUncertain
  let mismatch ← evaluate (mismatched input previous changed cash)
  refuseWhen mismatch (blockCashFlow "external_cash_flow_balance_mismatch") cashFlowUncertain
  let reached ← Program.get
  evaluate (dailyPrincipal input reached.state cash.principal)

/-- The state that books a deposit. -/
def depositState (state cursor : Document) (accumulated : Option Decimal) : Document :=
  let daily := match accumulated with
    | some sum => state.set "daily_external_principal_usdt" (.float (.ofDecimal sum))
    | none => state
  (daily.set "last_balance_snapshot" (.dict input.currentBalanceSnapshot)).set
    "external_cash_flow_cursor" (.dict cursor)

/-- The branch of a principal. -/
def reconcileDeposit (previous : Document) (changed : List String) (cash : CheckedCashFlows) :
    Rebasing Bool := do
  let accumulated ← checkDeposit input previous changed cash
  Program.update fun s => { s with state := depositState input s.state cash.cursor accumulated }
  diagnose "external_cash_flow" ⟨[("status", .str "reconciled"),
    ("confirmed_deposit_count", .int cash.completedAt.length),
    ("principal_applied_to_current_day", .bool accumulated.isSome)]⟩
  persist input "external_cash_flow_reconciliation"
  return true

/-- The branch without a principal and without a change. -/
def keepBaseline (first : Bool) (cursor : Value) (cash : CheckedCashFlows) : Rebasing Bool := do
  Program.update fun s => if first then
    { s with state := s.state.set "last_balance_snapshot" (.dict input.currentBalanceSnapshot) }
    else s
  if first || !(Value.dict cash.cursor).equals cursor then do
    Program.update fun s => { s with
      state := s.state.set "external_cash_flow_cursor" (.dict cash.cursor) }
    persist input (if first then "external_cash_flow_baseline" else "external_cash_flow_cursor")
    return false
  else return false

/-- The branch of a change without a principal. -/
def refuseChange (changed : List String) (cash : CheckedCashFlows) : Rebasing Bool := do
  let reason := if cash.withdrawals ≠ 0 then some "external_withdrawal_accounting_unsupported"
    else if cash.unsupported ≠ 0 then some "external_cash_flow_scope_unsupported" else none
  reason.elim (pure ()) blockCashFlow
  unexplained input changed none

/-- The checks before any cash flow is collected: the changed assets. -/
def findChanges (start : Document) : Rebasing (List String) := do
  let changed ← evaluate (changedAssets (previousSnapshot input start) input.currentBalanceSnapshot)
  let cursor := pyGet start "external_cash_flow_cursor"
  refuseWhen (initializing start && !isNone cursor) (pure ()) cashFlowUncertain
  if isNone cursor && !changed.isEmpty then
    unexplained input changed (some "external_cash_flow_cursor_missing")
  else return changed

/-- The collected cash flows after their checks. -/
def collectChecked (cursor : Value) : Rebasing CheckedCashFlows := do
  let slice ← collectCashFlows input cursor
  let read ← evaluate (readCashFlows input.localInstant slice)
  evaluate (checkCashFlows slice read.1 read.2)

/-- `maybe_rebase_daily_state_for_balance_change` on a state without an Earn checkpoint. -/
def maybeRebaseDailyState : Rebasing Bool := do
  refuseWhen input.receiptEnabled (pure ()) checkpointRequired
  let start ← Program.get
  let changed ← findChanges input start.state
  let cursor := pyGet start.state "external_cash_flow_cursor"
  let cash ← collectChecked input cursor
  if !cash.principal.eqv .zero then
    reconcileDeposit input (previousSnapshot input start.state) changed cash
  else if changed.isEmpty then keepBaseline input (initializing start.state) cursor cash
  else refuseChange input changed cash

end Rebase
end BinancePlatform.Source.Legacy
