import BinancePlatform.Library.Dict
import BinancePlatform.Library.Outcome
import BinancePlatform.Source.DailyAccounting
import BinancePlatform.Source.DateTime
import Mathlib.Data.List.Sort
import Mathlib.Algebra.Order.Ring.Rat

/-!
# The daily state of a cycle, in exact arithmetic

`maybe_rebase_daily_state_for_balance_change` on both of its paths,
`maybe_reset_daily_state` with its write, and the part of `execute_strategy_cycle`
that runs them and `compute_daily_pnls` over the durable ledger. A state write
returns, or raises with or without having been applied; an exception ends the cycle,
and the next one starts from the durable ledger.
-/

set_option autoImplicit false

namespace BinancePlatform.Source
open BinancePlatform.Library

def executionIntegrityError (text : String) : PyException := ⟨.executionIntegrityError, text⟩

def cashFlowUncertain : PyException :=
  executionIntegrityError "external_cash_flow_reconciliation_uncertain"
def forwardUnverified : PyException := executionIntegrityError "earn_forward_accounting_unverified"
def balanceChangeUnexplained : PyException := executionIntegrityError "balance_change_unexplained"
def trendMigrationUnverifiable : PyException :=
  executionIntegrityError "daily_trend_accounting_migration_unverifiable"

/-- `_TREND_PNL_BASIS`. -/
def trendPnlBasis : String := "trend_mark_plus_cash_flow_v1"

/-- What the daily functions read and write of the ledger. With an Earn checkpoint,
observed at the given time, the forward path applies. -/
structure DailyLedger (K γ : Type) where
  daily : DailyState K
  trendPnlBasis : Option String
  lastBalanceSnapshot : Dict String K
  cashFlowCursor : Option γ
  earnCheckpointAt : Option Instant
  deriving DecidableEq

/-- The cash flows as the collector returns them; a cursor that is no mapping is absent. -/
structure CashFlows (K γ : Type) where
  newDepositPrincipal : K
  newDepositCompletedAt : List Instant
  newConfirmedDepositCount : ℤ
  newUnsupportedDepositCount : ℤ
  newOrChangedWithdrawalCount : ℤ
  cursor : Option γ

/-- What a cycle observes before its daily accounting. `earnVerified` are the checks of
the forward path that read no daily field: the valuation snapshot, both checkpoints, the
order record, the cursor times and the explained quantities. -/
structure CycleInput (K γ : Type) where
  now : Instant
  totalEquity : K
  trendValEquity : K
  balanceSnapshot : Dict String K
  collectCashFlows : Option γ → Except PyException (CashFlows K γ)
  earnVerified : CashFlows K γ → Except PyException Unit

def CycleInput.today {K γ : Type} (input : CycleInput K γ) : String := DateTime.dateIsoformat input.now

section Rebase
variable {K γ : Type} [Field K] [LinearOrder K] [DecidableEq γ]

/-- A ledger to be written and the deposit principal that it accepts. -/
structure Rebased (K γ : Type) where
  ledger : DailyLedger K γ
  principal : K

/-- The principal counts for the day if the day has been reset. -/
def withExternalPrincipal (daily : DailyState K) (today : String) (principal : K) : DailyState K :=
  if principal ≠ 0 ∧ daily.lastResetDate = today then
    { daily with dailyExternalPrincipal := daily.dailyExternalPrincipal + principal }
  else daily

/-- The assets whose quantity has moved by more than the tolerance. -/
def changedAssets (previous current : Dict String K) : List String :=
  ((previous.keys ++ current.keys).dedup.insertionSort (· ≤ ·)).filter fun asset =>
    (if asset = "USDT" then 1 / 10 ^ 4 else 1 / 10 ^ 8)
      < |(current.get? asset).getD 0 - (previous.get? asset).getD 0|

/-- The path of a ledger with an Earn checkpoint observed at `previousAt`. -/
def forwardRebase (ledger : DailyLedger K γ) (previousAt : Instant) (input : CycleInput K γ) :
    Except PyException (Rebased K γ) := do
  let cash ← (input.collectCashFlows ledger.cashFlowCursor).mapError fun _ => forwardUnverified
  require (0 ≤ cash.newConfirmedDepositCount && 0 ≤ cash.newUnsupportedDepositCount
    && 0 ≤ cash.newOrChangedWithdrawalCount) forwardUnverified
  require (cash.newUnsupportedDepositCount = 0 && cash.newOrChangedWithdrawalCount = 0) forwardUnverified
  require (0 ≤ cash.newDepositPrincipal) forwardUnverified
  require (cash.newDepositCompletedAt.length = cash.newConfirmedDepositCount
    && (cash.newDepositPrincipal = 0) = cash.newDepositCompletedAt.isEmpty
    && cash.newDepositCompletedAt.all fun t => previousAt < t && t ≤ input.now
      && DateTime.dayOf t = DateTime.dayOf input.now) forwardUnverified
  (input.earnVerified cash).mapError fun _ => forwardUnverified
  require (0 < input.totalEquity) forwardUnverified
  return {
    ledger := { ledger with
      daily := withExternalPrincipal ledger.daily input.today cash.newDepositPrincipal
      lastBalanceSnapshot := input.balanceSnapshot
      cashFlowCursor := cash.cursor
      earnCheckpointAt := some input.now }
    principal := cash.newDepositPrincipal }

/-- The checks of the cash flows before the principal is looked at. -/
def checkLegacyCashFlows (cash : CashFlows K γ) : Except PyException γ := do
  require (0 ≤ cash.newDepositPrincipal
    && cash.newConfirmedDepositCount = cash.newDepositCompletedAt.length
    && (cash.newDepositPrincipal = 0) = cash.newDepositCompletedAt.isEmpty) cashFlowUncertain
  cash.cursor.elim (.error cashFlowUncertain) .ok

/-- The deposit explains the change: all of it arrived today, in USDT and nothing else. -/
def checkDeposit (cash : CashFlows K γ) (changed : List String) (previous : Dict String K)
    (input : CycleInput K γ) : Except PyException Unit := do
  require (cash.newDepositCompletedAt.all fun t => DateTime.dayOf t = DateTime.dayOf input.now)
    cashFlowUncertain
  require (changed = ["USDT"] && cash.newUnsupportedDepositCount = 0
    && cash.newOrChangedWithdrawalCount = 0
    && |(input.balanceSnapshot.get? "USDT").getD 0 - (previous.get? "USDT").getD 0
      - cash.newDepositPrincipal| ≤ 1 / 10 ^ 8) cashFlowUncertain

/-- The path of a ledger without an Earn checkpoint: the ledger to be written, if any. -/
def legacyRebase (ledger : DailyLedger K γ) (input : CycleInput K γ) :
    Except PyException (Option (Rebased K γ)) := do
  let initializing := ledger.lastBalanceSnapshot.items.isEmpty
  let previous := if initializing then input.balanceSnapshot else ledger.lastBalanceSnapshot
  let changed := changedAssets previous input.balanceSnapshot
  require (!(initializing && ledger.cashFlowCursor.isSome)) cashFlowUncertain
  require (!(ledger.cashFlowCursor.isNone && !changed.isEmpty)) balanceChangeUnexplained
  let cash ← (input.collectCashFlows ledger.cashFlowCursor).mapError fun _ => cashFlowUncertain
  let cursor ← checkLegacyCashFlows cash
  if cash.newDepositPrincipal ≠ 0 then do
    checkDeposit cash changed previous input
    return some {
      ledger := { ledger with
        daily := withExternalPrincipal ledger.daily input.today cash.newDepositPrincipal
        lastBalanceSnapshot := input.balanceSnapshot
        cashFlowCursor := some cursor }
      principal := cash.newDepositPrincipal }
  else if changed.isEmpty then
    if initializing then
      return some {
        ledger := { ledger with
          lastBalanceSnapshot := input.balanceSnapshot
          cashFlowCursor := some cursor }
        principal := 0 }
    else if some cursor ≠ ledger.cashFlowCursor then
      return some {
        ledger := { ledger with cashFlowCursor := some cursor }
        principal := 0 }
    else return none
  else .error balanceChangeUnexplained

/-- `maybe_rebase_daily_state_for_balance_change`: the ledger it writes, if any. -/
def maybeRebase (ledger : DailyLedger K γ) (input : CycleInput K γ) :
    Except PyException (Option (Rebased K γ)) :=
  match ledger.earnCheckpointAt with
  | some previousAt => (forwardRebase ledger previousAt input).map some
  | none => legacyRebase ledger input

/-- `maybe_reset_daily_state`: the ledger it writes, if the day is new. -/
def maybeReset (ledger : DailyLedger K γ) (input : CycleInput K γ) :
    Except PyException (Option (DailyLedger K γ)) := do
  require (ledger.daily.lastResetDate ≠ input.today
    || ledger.trendPnlBasis = some Source.trendPnlBasis) trendMigrationUnverifiable
  let (daily, isReset) ← maybeResetDailyState ledger.daily input.today input.totalEquity
    input.trendValEquity
  return if isReset then
    some { ledger with daily := daily, trendPnlBasis := some Source.trendPnlBasis } else none

/-! ## A cycle over the durable ledger -/

/-- A state write returned, or raised before or after it was applied. -/
inductive WriteOutcome where
  | returned
  | lost
  | applied
  deriving DecidableEq, Repr

/-- What a cycle has made durable and reported. -/
structure CycleRecord (K : Type) where
  now : Instant
  accepted : Option K
  reset : Option K
  report : Option (K × K × K)
  deriving DecidableEq, Repr

def CycleRecord.today {K : Type} (record : CycleRecord K) : String := DateTime.dateIsoformat record.now

/-- `compute_daily_pnls` on the state that the two functions leave. -/
def reportOf (ledger : DailyLedger K γ) (input : CycleInput K γ) : Option (K × K × K) :=
  match computeDailyPnls ledger.daily input.totalEquity input.trendValEquity with
  | .ok pnls => some (input.totalEquity, pnls)
  | .error _ => none

/-- The cycle from `maybe_reset_daily_state` on. -/
def resetCycle (ledger : DailyLedger K γ) (input : CycleInput K γ) (accepted : Option K)
    (write : WriteOutcome) : DailyLedger K γ × CycleRecord K :=
  match maybeReset ledger input with
  | .error _ => (ledger, ⟨input.now, accepted, none, none⟩)
  | .ok none => (ledger, ⟨input.now, accepted, none, reportOf ledger input⟩)
  | .ok (some next) =>
    match write with
    | .lost => (ledger, ⟨input.now, accepted, none, none⟩)
    | .applied => (next, ⟨input.now, accepted, some input.totalEquity, none⟩)
    | .returned => (next, ⟨input.now, accepted, some input.totalEquity, reportOf next input⟩)

/-- The daily part of `execute_strategy_cycle` on the durable ledger. -/
def dailyCycle (ledger : DailyLedger K γ) (input : CycleInput K γ) (rebaseWrite resetWrite : WriteOutcome) :
    DailyLedger K γ × CycleRecord K :=
  match maybeRebase ledger input with
  | .error _ => (ledger, ⟨input.now, none, none, none⟩)
  | .ok none => resetCycle ledger input none resetWrite
  | .ok (some rebased) =>
    match rebaseWrite with
    | .lost => (ledger, ⟨input.now, none, none, none⟩)
    | .applied => (rebased.ledger, ⟨input.now, some rebased.principal, none, none⟩)
    | .returned => resetCycle rebased.ledger input (some rebased.principal) resetWrite

/-- A cycle, or another write to the ledger: the trading that follows in a cycle changes
neither the base, nor the external principal, nor the date of the reset. -/
inductive DailyStep : DailyLedger K γ → Option (CycleRecord K) → DailyLedger K γ → Prop where
  | cycle {ledger : DailyLedger K γ} (input : CycleInput K γ) (rebaseWrite resetWrite : WriteOutcome) :
      DailyStep ledger (some (dailyCycle ledger input rebaseWrite resetWrite).2)
        (dailyCycle ledger input rebaseWrite resetWrite).1
  | trading {ledger next : DailyLedger K γ}
      (base : next.daily.dailyEquityBase = ledger.daily.dailyEquityBase)
      (principal : next.daily.dailyExternalPrincipal = ledger.daily.dailyExternalPrincipal)
      (date : next.daily.lastResetDate = ledger.daily.lastResetDate) :
      DailyStep ledger none next

end Rebase
end BinancePlatform.Source
