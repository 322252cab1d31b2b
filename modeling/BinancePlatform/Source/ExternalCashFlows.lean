import BinancePlatform.Source.EarnAccrual
import BinancePlatform.Source.OrderSubmission

/-!
# External cash flows

`collect_spot_usdt_external_cash_flows` of `application/broker_reconciliation.py`.
The cursor keeps one record per observed deposit or withdrawal; its entries are
copied before the first change. `digest` is the SHA-256 of a canonical document,
a function of the shared platform kit.
-/

set_option autoImplicit false

namespace BinancePlatform.Source
open BinancePlatform.Library

def externalCashFlowLookback : ℤ := 7 * DateTime.dayMicros
def externalCashFlowPageSize : ℕ := 1000
def externalCashFlowMaxRecords : ℕ := 256
def externalCashFlowCursorVersion : ℤ := 1

def cursorInvalid : PyException := valueError "external_cash_flow_cursor_invalid"
def historyReadFailed : PyException := valueError "external_cash_flow_history_read_failed"
def historyIncomplete : PyException := valueError "external_cash_flow_history_incomplete"
def recordInvalid : PyException := valueError "external_cash_flow_record_invalid"
def recordChanged : PyException := valueError "external_cash_flow_record_changed"
def capacityExceeded : PyException := valueError "external_cash_flow_cursor_capacity_exceeded"

/-- The records of a cursor by identity. -/
abbrev Records := Dict String Document

/-- `value == n`. -/
def equalsInt (n : ℤ) : Value → Bool
  | .int m => m = n
  | .bool b => (if b then 1 else 0) = n
  | .float (.finite negative magnitude) => (if negative then -(magnitude : ℚ) else magnitude) = n
  | _ => false

/-- `value in {texts}`. -/
def memberOf (texts : List String) (value : Value) : Except PyException Bool :=
  if value.hashable then .ok (texts.any value.isStr) else .error typeError

/-- `isinstance(value, str)` and the text. -/
def textOf : Value → Option String
  | .str s => some s
  | _ => none

/-- `type(value) is int`. -/
def intOf : Value → Option ℤ
  | .int n => some n
  | _ => none

/-- One record of a stored cursor, copied. -/
def readRecord (entry : String × Value) : Except PyException (String × Document) := do
  require (fullMatch lowerHex 64 64 entry.1) cursorInvalid
  let record ← asMapping cursorInvalid entry.2
  require (← memberOf ["deposit", "withdrawal"] (pyGet record "kind")) cursorInvalid
  require (← memberOf ["pending", "final", "observed"] (pyGet record "status")) cursorInvalid
  require ((textOf (pyGet record "payload_sha256")).any fun s => s.length = 64) cursorInvalid
  return (entry.1, record)

section Cursor
variable [CharacterTable]

/-- `_external_cash_flow_cursor`: whether this is the bootstrap call, and the records. -/
def externalCashFlowCursor (now : Instant) : Value → Except PyException (Bool × Records)
  | .none => .ok (true, .empty)
  | .dict cursor => do
    require (equalsInt externalCashFlowCursorVersion (pyGet cursor "version")) cursorInvalid
    match (DateTime.fromIsoformat (zuluReplaced (pyGet cursor "observed_at").toStr)).bind
        DateTime.Parsed.instant? with
    | none => .error cursorInvalid
    | some observed => do
      require (DateTime.minInstant ≤ observed && observed < DateTime.endInstant) overflowError
      require (observed ≤ now) cursorInvalid
      let records ← asMapping cursorInvalid (pyGet cursor "records")
      require (records.keys.length ≤ externalCashFlowMaxRecords) cursorInvalid
      let normalized ← records.items.mapM readRecord
      return (false, ⟨normalized⟩)
  | _ => .error cursorInvalid

end Cursor

/-- `_external_cash_flow_rows`, from the response of the history request. -/
def externalCashFlowRows (response : Except PyException Value) : Except PyException (List Document) :=
  match response with
  | .error _ => .error historyReadFailed
  | .ok (.list rows) => do
    require (rows.length < externalCashFlowPageSize) historyIncomplete
    rows.mapM (asMapping historyIncomplete)
  | .ok _ => .error historyIncomplete

/-- `_external_amount`. -/
def externalAmount (value : Value) : Except PyException Decimal :=
  match value with
  | .str s => do
    require (s ≠ "" && s.length ≤ 80) recordInvalid
    match decimalOfText s with
    | .ok (.finite d) => do
      require (Decimal.zero.lt d) recordInvalid
      return d
    | _ => .error recordInvalid
  | _ => .error recordInvalid

/-- The fields of a deposit that every row carries. -/
structure Deposit where
  id : String
  status : ℤ
  insertTime : ℤ
  amount : Decimal
  coin : String
  walletType : ℤ
  transferType : ℤ
  deriving DecidableEq

def optionOr {α : Type} (raised : PyException) : Option α → Except PyException α
  | some x => .ok x
  | none => .error raised

section Collect
variable [CharacterTable]

def readDeposit (startMs endMs : ℤ) (row : Document) : Except PyException Deposit := do
  let id ← optionOr recordInvalid (textOf (pyGet row "id"))
  require (id ≠ "" && id.length ≤ 160) recordInvalid
  let status ← optionOr recordInvalid (intOf (pyGet row "status"))
  require (status ∈ [0, 1, 2, 6, 7, 8]) recordInvalid
  let insertTime ← optionOr recordInvalid (intOf (pyGet row "insertTime"))
  require (startMs ≤ insertTime && insertTime ≤ endMs) recordInvalid
  let amount ← externalAmount (pyGet row "amount")
  let coin ← optionOr recordInvalid (textOf (pyGet row "coin"))
  require (strip coin ≠ "") recordInvalid
  let walletType ← optionOr recordInvalid (intOf (pyGet row "walletType"))
  let transferType ← optionOr recordInvalid (intOf (pyGet row "transferType"))
  return ⟨id, status, insertTime, amount, upperText (strip coin), walletType, transferType⟩

end Collect

namespace Deposit

def core (deposit : Deposit) : Document :=
  ⟨[("kind", .str "deposit"), ("id", .str deposit.id),
    ("amount", .str (String.ofList (NumberText.printPlain deposit.amount))),
    ("coin", .str deposit.coin), ("wallet_type", .int deposit.walletType),
    ("transfer_type", .int deposit.transferType), ("insert_time", .int deposit.insertTime)]⟩

def isFinal (deposit : Deposit) : Bool := deposit.status = 1

def isSupported (deposit : Deposit) : Bool :=
  deposit.coin = "USDT" && deposit.walletType = 0 && deposit.transferType = 0

end Deposit

/-- The fields of a completed deposit. -/
structure Completion where
  completeTime : ℤ
  txId : String
  deriving DecidableEq

def readCompletion (endMs : ℤ) (deposit : Deposit) (row : Document) :
    Except PyException Completion := do
  let completeTime ← optionOr recordInvalid (intOf (pyGet row "completeTime"))
  require (deposit.insertTime ≤ completeTime && completeTime ≤ endMs) recordInvalid
  let txId ← optionOr recordInvalid (textOf (pyGet row "txId"))
  require (txId ≠ "" && txId.length ≤ 256) recordInvalid
  return ⟨completeTime, txId⟩

/-- `{**core, "status": …, "complete_time": …, "tx_id": …}`. -/
def finalPayload (deposit : Deposit) (completion : Completion) : Document :=
  ⟨deposit.core.entries ++ [("status", .int deposit.status),
    ("complete_time", .int completion.completeTime), ("tx_id", .str completion.txId)]⟩

/-- The accumulators of one call. -/
structure Scan where
  records : Records
  observed : List String
  principal : Decimal
  count : ℕ
  completedAt : List String
  unsupported : ℕ
  withdrawals : ℕ

def hasStatus (record : Option Document) (status : String) : Bool :=
  record.any fun fields => (pyGet fields "status").isStr status

section Collect
variable [CharacterTable] (digest : Document → String)

/-- `_external_identity`. -/
def identityPayload (kind providerId : String) : Document :=
  ⟨[("kind", .str kind), ("provider_id", .str providerId)]⟩

def externalIdentity (kind providerId : String) : String := digest (identityPayload kind providerId)

def finalRecord (deposit : Deposit) (completion : Completion) : Document :=
  ⟨[("kind", .str "deposit"), ("payload_sha256", .str (digest deposit.core)),
    ("final_sha256", .str (digest (finalPayload deposit completion))), ("status", .str "final"),
    ("source_time_ms", .int deposit.insertTime)]⟩

def pendingRecord (deposit : Deposit) : Document :=
  ⟨[("kind", .str "deposit"), ("payload_sha256", .str (digest deposit.core)),
    ("status", .str "pending"), ("source_time_ms", .int deposit.insertTime)]⟩

/-- What a deposit that was not final before adds to the totals. -/
def creditDeposit (bootstrap : Bool) (deposit : Deposit) (completion : Completion) (scan : Scan) :
    Except PyException Scan :=
  if bootstrap then .ok scan
  else if deposit.isSupported then do
    let principal ← checked (scan.principal.add defaultContext deposit.amount)
    let completedAt := DateTime.isoformat (DateTime.fromTimestampMs completion.completeTime)
    return { scan with
      principal
      count := scan.count + 1
      completedAt := scan.completedAt ++ [completedAt] }
  else .ok { scan with unsupported := scan.unsupported + 1 }

def scanDeposit (bootstrap : Bool) (startMs endMs : ℤ) (scan : Scan) (row : Document) :
    Except PyException Scan := do
  let deposit ← readDeposit startMs endMs row
  let identity := externalIdentity digest "deposit" deposit.id
  require (identity ∉ scan.observed) historyIncomplete
  let seen := { scan with observed := identity :: scan.observed }
  let previous := scan.records.get? identity
  require (previous.all fun record =>
    (pyGet record "payload_sha256").isStr (digest deposit.core)) recordChanged
  if deposit.isFinal then do
    let completion ← readCompletion endMs deposit row
    if hasStatus previous "final" then do
      require (previous.all fun record => (pyGet record "final_sha256").isStr
        (digest (finalPayload deposit completion))) recordChanged
      return seen
    else do
      let credited ← creditDeposit bootstrap deposit completion seen
      return { credited with
        records := credited.records.set identity (finalRecord digest deposit completion) }
  else do
    require (!hasStatus previous "final") recordChanged
    return { seen with records := seen.records.set identity (pendingRecord digest deposit) }

def scanWithdrawal (bootstrap : Bool) (scan : Scan) (row : Document) : Except PyException Scan := do
  let id ← optionOr recordInvalid (textOf (pyGet row "id"))
  require (id ≠ "" && id.length ≤ 160) recordInvalid
  let _ ← optionOr recordInvalid (intOf (pyGet row "status"))
  let identity := externalIdentity digest "withdrawal" id
  require (identity ∉ scan.observed) historyIncomplete
  let seen := { scan with observed := identity :: scan.observed }
  let payload := digest row
  if (scan.records.get? identity).any fun record => (pyGet record "payload_sha256").isStr payload then
    return seen
  else
    return { seen with
      withdrawals := if bootstrap then seen.withdrawals else seen.withdrawals + 1
      records := seen.records.set identity
        ⟨[("kind", .str "withdrawal"), ("payload_sha256", .str payload),
          ("status", .str "observed")]⟩ }

/-- Final rows that have aged out of the request window are discarded, and withdrawals
that were not observed; pending deposits stay. -/
def retains (observed : List String) (startMs : ℤ) (identity : String) (record : Document) : Bool :=
  if (pyGet record "kind").isStr "withdrawal" && identity ∉ observed then false
  else !(hasStatus (some record) "final"
    && (intOf (pyGet record "source_time_ms")).any fun sourceTime => sourceTime < startMs)

def prune (observed : List String) (startMs : ℤ) (records : Records) : Records :=
  ⟨records.items.filter fun entry => retains observed startMs entry.1 entry.2⟩

def emptyScan (records : Records) : Scan := ⟨records, [], .zero, 0, [], 0, 0⟩

/-- The window of one call in milliseconds. -/
def windowStart (now : Instant) : ℤ := DateTime.timestampMs (now - externalCashFlowLookback)
def windowEnd (now : Instant) : ℤ := DateTime.timestampMs now

def recordsValue (records : Records) : Value := .dict ⟨records.items.map fun e => (e.1, .dict e.2)⟩

/-- `format(new_principal, "f") if new_principal else "0"`. -/
def principalText (principal : Decimal) : String :=
  if principal.eqv .zero then "0" else String.ofList (NumberText.printPlain principal)

/-- The returned document. -/
def cashFlows (bootstrap : Bool) (now : Instant) (scan : Scan) (records : Records) : Document :=
  ⟨[("bootstrap", .bool bootstrap),
    ("new_deposit_principal_usdt", .str (principalText scan.principal)),
    ("new_confirmed_deposit_count", .int scan.count),
    ("new_deposit_completed_at", .list (scan.completedAt.map .str)),
    ("new_unsupported_deposit_count", .int scan.unsupported),
    ("new_or_changed_withdrawal_count", .int scan.withdrawals),
    ("cursor", .dict ⟨[("version", .int externalCashFlowCursorVersion),
      ("observed_at", .str (DateTime.isoformat now)), ("records", recordsValue records)]⟩)]⟩

/-- The part after the cursor has been read. -/
def collectFrom (now : Instant) (bootstrap : Bool) (records : Records)
    (deposits withdrawals : Except PyException Value) : Except PyException Document := do
  require (DateTime.minInstant ≤ now - externalCashFlowLookback) overflowError
  let depositRows ← externalCashFlowRows deposits
  let withdrawalRows ← externalCashFlowRows withdrawals
  let scan ← depositRows.foldlM
    (scanDeposit digest bootstrap (windowStart now) (windowEnd now)) (emptyScan records)
  let scan ← withdrawalRows.foldlM (scanWithdrawal digest bootstrap) scan
  let retained := prune scan.observed (windowStart now) scan.records
  require (retained.items.length ≤ externalCashFlowMaxRecords) capacityExceeded
  return cashFlows bootstrap now scan retained

def collectSpotUsdtExternalCashFlows (now : Instant) (cursor : Value)
    (deposits withdrawals : Except PyException Value) : Except PyException Document := do
  let (bootstrap, records) ← externalCashFlowCursor now cursor
  collectFrom digest now bootstrap records deposits withdrawals

end Collect
end BinancePlatform.Source
