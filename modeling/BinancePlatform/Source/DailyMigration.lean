import BinancePlatform.Source.BalanceRebase
import Mathlib.Algebra.BigOperators.Group.List.Basic
import Mathlib.Algebra.Order.Floor.Ring
import Mathlib.Data.Rat.Floor

/-!
# The daily accounting migration, in exact arithmetic

`build_candidate` and `compare_and_apply` of `scripts/migrate_daily_accounting_state.py`
over the accounting fields of the ledger, and the portfolio of a live cycle
(`compute_portfolio_allocation`, `build_balance_snapshot`). `gates` are the checks of
identity, control, order record and activity, which read no amount; `digest` is the
canonical SHA-256, into any type.
-/

set_option autoImplicit false

namespace BinancePlatform.Source
open BinancePlatform.Library

def migrationBlocked (text : String) : PyException := valueError text
def migrationPreconditionChanged : PyException := valueError "migration_atomic_precondition_changed"

/-- `round(value, 8)`. -/
def round8 (q : ℚ) : ℚ :=
  let scaled : ℚ := q * 10 ^ 8
  let low : ℤ := ⌊scaled⌋
  let rounded : ℤ :=
    if scaled - low < 1 / 2 ∨ (scaled - low = 1 / 2 ∧ low % 2 = 0) then low else low + 1
  (rounded : ℚ) / 10 ^ 8

def coreAssets : List String := ["USDT", "BTC", "BNB"]

/-- `datetime.strptime(text, '%Y-%m-%d')`, for decimal digits. -/
def strptimeDate (text : String) : Option DateTime.Date := do
  let number (low high : ℕ) (cs : List Char) : Option ℕ :=
    if low ≤ cs.length ∧ cs.length ≤ high ∧ cs.all Char.isDigit then
      some (cs.foldl (fun n c => n * 10 + (c.toNat - '0'.toNat)) 0) else none
  match text.toList.splitOn '-' with
  | [year, month, day] => do
    let date : DateTime.Date := ⟨← number 4 4 year, ← number 1 2 month, ← number 1 2 day⟩
    if date.valid then some date else none
  | _ => none

inductive MigrationMode where
  | sameUtcDayZeroActivity
  | newUtcDayZeroActivity
  deriving DecidableEq, Repr

/-- The patch of a candidate: the fields that are set in both modes, the risk base, and
on a new day the two bases and the date. -/
structure AccountingPatch where
  riskBase : ℚ
  newDay : Option (ℚ × ℚ × String)

structure MigrationCandidate (δ : Type) where
  mode : MigrationMode
  observedAt : Instant
  ledgerUpdateTime : String
  ledgerDigest : δ
  balanceSnapshotDigest : δ
  preservedLatch : Bool
  patch : AccountingPatch

section Migration
variable {γ δ : Type}

/-- `{str(asset): round(_finite(value), 8) …}`. -/
def normalizedBalances (balances : Dict String ℚ) : Except PyException (Dict String ℚ) := do
  require (balances.items.all fun e => 0 ≤ e.2) (migrationBlocked "numeric_evidence_invalid")
  return ⟨balances.items.map fun e => (e.1, round8 e.2)⟩

/-- The value of one asset at its price. -/
def assetValue (prices : Dict String ℚ) (asset : String) (quantity : ℚ) : Except PyException ℚ :=
  if asset = "USDT" then .ok quantity
  else if quantity = 0 then .ok 0
  else
    match prices.get? (asset ++ "USDT") with
    | none => .error (migrationBlocked "price_snapshot_incomplete")
    | some price =>
      if price < 0 then .error (migrationBlocked "numeric_evidence_invalid")
      else if 0 < quantity ∧ price ≤ 0 then .error (migrationBlocked "price_snapshot_incomplete")
      else .ok (quantity * price)

/-- The patch on the day of the last reset. -/
def sameDayPatch (ledger : DailyLedger ℚ γ) (normalized : Dict String ℚ) :
    Except PyException AccountingPatch := do
  require (ledger.trendPnlBasis = some "trend_val") (migrationBlocked "same_day_legacy_basis_invalid")
  require (!ledger.lastBalanceSnapshot.items.isEmpty) (migrationBlocked "same_day_snapshot_missing")
  require (ledger.lastBalanceSnapshot.items.all fun e =>
    (normalized.get? e.1).elim false fun q =>
      0 ≤ e.2 && |e.2 - q| ≤ (if e.1 = "USDT" then 1 / 10 ^ 4 else 1 / 10 ^ 8))
    (migrationBlocked "same_day_balance_changed")
  require (0 ≤ ledger.daily.dailyEquityBase && 0 ≤ ledger.daily.dailyTrendEquityBase)
    (migrationBlocked "numeric_evidence_invalid")
  require (0 < ledger.daily.dailyEquityBase && !(ledger.daily.dailyTrendEquityBase ≤ 0
    && normalized.items.any fun e => 0 < e.2 && e.1 ∉ coreAssets)) (migrationBlocked "same_day_basis_invalid")
  return ⟨ledger.daily.dailyTrendEquityBase, none⟩

/-- The patch on a later day. -/
def newDayPatch (prices normalized : Dict String ℚ) (today : String) : Except PyException AccountingPatch := do
  let values ← normalized.items.mapM fun e => (assetValue prices e.1 e.2).map fun value => (e.1, value)
  let trendEquity := ((values.filter fun e => e.1 ∉ coreAssets).map Prod.snd).sum
  let totalEquity := (values.map Prod.snd).sum
  require (0 < totalEquity) (migrationBlocked "rollover_equity_invalid")
  return ⟨trendEquity, some (totalEquity, trendEquity, today)⟩

/-- The patch of `build_candidate`: by whether the ledger was reset today. -/
def accountingPatch (ledger : DailyLedger ℚ γ) (prices normalized : Dict String ℚ) (today : String) :
    Except PyException AccountingPatch :=
  if ledger.daily.lastResetDate = today then sameDayPatch ledger normalized
  else newDayPatch prices normalized today

/-- `build_candidate`. -/
def buildCandidate (gates : Except PyException Unit) (ledgerDigest : DailyLedger ℚ γ → δ)
    (snapshotDigest : Dict String ℚ → δ) (ledger : DailyLedger ℚ γ) (ledgerUpdateTime : String)
    (balances prices : Dict String ℚ) (observedAt : Instant) :
    Except PyException (MigrationCandidate δ) := do
  gates
  require (balances.contains "BNB") (migrationBlocked "bnb_balance_missing")
  let normalized ← normalizedBalances balances
  require (coreAssets.all fun asset => normalized.contains asset) (migrationBlocked "balance_snapshot_incomplete")
  let today := DateTime.dateIsoformat observedAt
  match strptimeDate ledger.daily.lastResetDate with
  | none => .error (migrationBlocked "last_reset_date_invalid")
  | some reset => do
    require (((DateTime.ordinal reset.year reset.month reset.day : ℤ) - DateTime.epochOrdinal
      ≤ DateTime.dayOf observedAt)) (migrationBlocked "last_reset_date_invalid")
    let patch ← accountingPatch ledger prices normalized today
    return {
      mode := if ledger.daily.lastResetDate = today then .sameUtcDayZeroActivity else .newUtcDayZeroActivity
      observedAt := observedAt
      ledgerUpdateTime := ledgerUpdateTime
      ledgerDigest := ledgerDigest ledger
      balanceSnapshotDigest := snapshotDigest normalized
      preservedLatch := ledger.daily.isCircuitBroken
      patch := patch }

/-- The fields of the patch and the snapshot, written over the ledger. -/
def patchedLedger (ledger : DailyLedger ℚ γ) (patch : AccountingPatch) (snapshot : Dict String ℚ) :
    DailyLedger ℚ γ :=
  let daily := { ledger.daily with
    dailyTrendCashFlow := 0, dailyTrendNetInvested := 0, dailyTrendThirdFee := 0
    dailyTrendRiskBase := patch.riskBase }
  { ledger with
    daily := patch.newDay.elim daily fun day =>
      { daily with
        dailyEquityBase := day.1, dailyTrendEquityBase := day.2.1, lastResetDate := day.2.2 }
    trendPnlBasis := some trendPnlBasis
    lastBalanceSnapshot := snapshot }

/-- `compare_and_apply` on the ledger that the transaction reads. -/
def compareAndApply [DecidableEq δ] (gates : Except PyException Unit) (ledgerDigest : DailyLedger ℚ γ → δ)
    (snapshotDigest : Dict String ℚ → δ) (ledger : DailyLedger ℚ γ) (ledgerUpdateTime : String)
    (candidate : MigrationCandidate δ) (balances : Dict String ℚ) : Except PyException (DailyLedger ℚ γ) := do
  gates
  require (ledgerUpdateTime = candidate.ledgerUpdateTime && ledgerDigest ledger = candidate.ledgerDigest)
    migrationPreconditionChanged
  require (ledger.daily.isCircuitBroken = candidate.preservedLatch) migrationPreconditionChanged
  let normalized ← normalizedBalances balances
  require (snapshotDigest normalized = candidate.balanceSnapshotDigest) migrationPreconditionChanged
  return patchedLedger ledger candidate.patch normalized

end Migration

/-! ## The portfolio of a live cycle -/

/-- The runtime trend universe with its base assets, quantities by asset, prices by symbol. -/
structure Portfolio where
  trendUniverse : List (String × String)
  quantity : String → ℚ
  price : String → ℚ

/-- `compute_portfolio_allocation`: the trend value. -/
def Portfolio.trendVal (portfolio : Portfolio) : ℚ :=
  (portfolio.trendUniverse.map fun e => portfolio.quantity e.2 * portfolio.price e.1).sum

/-- `compute_portfolio_allocation`: the total equity. -/
def Portfolio.totalEquity (portfolio : Portfolio) : ℚ :=
  portfolio.quantity "USDT" + portfolio.quantity "BNB" * portfolio.price "BNBUSDT"
    + portfolio.trendVal + portfolio.quantity "BTC" * portfolio.price "BTCUSDT"

/-- `build_balance_snapshot`. -/
def Portfolio.balanceSnapshot (portfolio : Portfolio) : Dict String ℚ :=
  (Dict.setAll ⟨[("USDT", round8 (portfolio.quantity "USDT")), ("BTC", round8 (portfolio.quantity "BTC"))]⟩
    (portfolio.trendUniverse.map fun e => (e.2, round8 (portfolio.quantity e.2)))).set "BNB"
      (round8 (portfolio.quantity "BNB"))

end BinancePlatform.Source
