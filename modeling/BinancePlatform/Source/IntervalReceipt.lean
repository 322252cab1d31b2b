import BinancePlatform.Source.EarnAccrual
import BinancePlatform.Source.Json

/-!
# Interval receipts

`application/interval_source_receipt_candidate.py`: the validation of an interval
payload and the receipt that binds it to a ledger transition. A digest is a function of
the canonical text; the hash itself is a parameter.
-/

set_option autoImplicit false

namespace BinancePlatform.Source
open BinancePlatform.Library

inductive ReceiptError where
  | blocked (reason : String)
  | conflict (reason : String)
  | uncertain (reason : String)
  deriving DecidableEq, Repr

/-- `_FIELDS`, in the order of their names. -/
def intervalFields : List String :=
  ["account_scope_sha256", "currency", "end_at", "end_equity_usdt", "net_external_cash_flow",
   "start_at", "valuation_basis"]

/-- `_PATCH_FIELDS`, in the order of their names. -/
def patchFields : List String :=
  ["daily_external_principal_usdt", "earn_accounted_net_changes", "earn_accrual_checkpoint",
   "external_cash_flow_cursor", "last_balance_snapshot"]

def receiptSchema : String := "binance_interval_source_receipt_candidate.v1"
def valuationBasis : String := "checkpoint_quantities_sampled_prices"

/-- `_json`. -/
def receiptJson (value : Value) : Except ReceiptError (List Char) :=
  match value.json with
  | .ok text => .ok text
  | .error _ => .error (.blocked "interval_receipt_material_invalid")

/-- `re.search(r"[.,][0-9]{7}", value)`. -/
def finerThanMicroseconds (cs : List Char) : Bool :=
  cs.tails.any fun
    | [] => false
    | c :: rest => (c = '.' || c = ',') && (rest.take 7).length = 7
        && (rest.take 7).all fun d => (DateTime.asciiDigit? d).isSome

def receiptTimeInvalid : ReceiptError := .blocked "interval_receipt_time_invalid"

/-- `_time`. -/
def receiptTime : Value → Except ReceiptError Instant
  | .str s => do
    require (0 < s.length && s.length ≤ 80 && !finerThanMicroseconds s.toList) receiptTimeInvalid
    match (DateTime.fromIsoformat (zuluReplaced s)).bind DateTime.Parsed.instant? with
    | none => .error receiptTimeInvalid
    | some t =>
      if DateTime.minInstant ≤ t ∧ t < DateTime.endInstant then .ok t else .error receiptTimeInvalid
  | _ => .error receiptTimeInvalid

def receiptAmountInvalid : ReceiptError := .blocked "interval_receipt_amount_invalid"

/-- `_amount`; no operation of a context is involved. -/
def receiptAmount (positive : Bool) : Value → Except ReceiptError Decimal
  | .str s => do
    require (0 < s.length && s.length ≤ 80) receiptAmountInvalid
    match decimalOfText s with
    | .ok (.finite amount) => do
      require (Decimal.le { amount with negative := false } ⟨false, 1, 30⟩ && -30 ≤ amount.exp
        && (!positive || Decimal.lt .zero amount)) receiptAmountInvalid
      return amount
    | _ => .error receiptAmountInvalid
  | _ => .error receiptAmountInvalid

def splitOn (separator : Char) : List Char → List (List Char)
  | [] => [[]]
  | c :: rest =>
    if c = separator then [] :: splitOn separator rest
    else
      match splitOn separator rest with
      | [] => [[c]]
      | part :: parts => (c :: part) :: parts

/-- `_validate_path`. -/
def validPath (path : String) : Bool :=
  let parts := splitOn '/' path.toList
  path.length ≤ 512 && parts.length % 2 = 0
    && parts.all fun part => !(part.isEmpty || part = ['.'] || part = ['.', '.'])

def requirePath : Value → Except ReceiptError String
  | .str path => do
    require (validPath path) (.blocked "interval_receipt_reference_invalid")
    return path
  | _ => .error (.blocked "interval_receipt_reference_invalid")

def isHexDigest : Value → Bool
  | .str s => fullMatch lowerHex 64 64 s
  | _ => false

/-- A value that must be a mapping. -/
def receiptMapping (raised : ReceiptError) : Value → Except ReceiptError Document
  | .dict d => .ok d
  | _ => .error raised

def receiptPayloadInvalid : ReceiptError := .blocked "interval_receipt_payload_invalid"

/-- What `_payload_material` returns. -/
structure PayloadMaterial where
  payload : Document
  start : Instant
  finish : Instant
  logicalId : String

/-- The identity of an interval, whose digest is the logical id. -/
def intervalIdentity (scope : Value) (start finish : Instant) : Value :=
  .dict ⟨[("account_scope_sha256", scope), ("start_at", .str (DateTime.isoformat start)),
    ("end_at", .str (DateTime.isoformat finish))]⟩

section Digests
variable (sha256 : List Char → String)

/-- `_digest`. -/
def receiptDigest (value : Value) : Except ReceiptError String := (receiptJson value).map sha256

/-- `_payload_material`. -/
def payloadMaterial (interval : Value) : Except ReceiptError PayloadMaterial := do
  let payload ← receiptMapping receiptPayloadInvalid interval
  require (sameKeySet payload.keys intervalFields) receiptPayloadInvalid
  let scope := pyGet payload "account_scope_sha256"
  require (isHexDigest scope && (pyGet payload "currency").isStr "USDT"
    && (pyGet payload "valuation_basis").isStr valuationBasis) receiptPayloadInvalid
  let start ← receiptTime (pyGet payload "start_at")
  let finish ← receiptTime (pyGet payload "end_at")
  require (decide (start < finish) && decide (DateTime.dayOf finish - DateTime.dayOf start ≤ 1))
    receiptTimeInvalid
  let _ ← receiptAmount true (pyGet payload "end_equity_usdt")
  let _ ← receiptAmount false (pyGet payload "net_external_cash_flow")
  let logicalId ← receiptDigest sha256 (intervalIdentity scope start finish)
  return ⟨payload, start, finish, logicalId⟩

end Digests

/-! ## What the validation establishes -/

theorem receiptJson_ok {value : Value} {text : List Char} (success : receiptJson value = .ok text) :
    value.json = .ok text := by
  unfold receiptJson at success
  split at success
  case h_1 found shown =>
    cases success
    exact shown
  case h_2 => cases success

theorem receiptMapping_ok {raised : ReceiptError} {value : Value} {d : Document}
    (success : receiptMapping raised value = .ok d) : value = .dict d := by
  cases value with
  | dict e => cases success; rfl
  | _ => cases success

section Digests
variable {sha256 : List Char → String}

theorem payloadMaterial_ok {interval : Value} {material : PayloadMaterial}
    (success : payloadMaterial sha256 interval = .ok material) :
    interval = .dict material.payload ∧ (∀ k, k ∈ material.payload.keys ↔ k ∈ intervalFields)
      ∧ receiptTime (pyGet material.payload "start_at") = .ok material.start
      ∧ receiptTime (pyGet material.payload "end_at") = .ok material.finish
      ∧ material.start < material.finish
      ∧ receiptDigest sha256 (intervalIdentity (pyGet material.payload "account_scope_sha256")
          material.start material.finish) = .ok material.logicalId := by
  obtain ⟨payload, mapping, success⟩ := bind_ok success
  obtain ⟨fields, success⟩ := require_bind success
  obtain ⟨-, success⟩ := require_bind success
  obtain ⟨start, startRead, success⟩ := bind_ok success
  obtain ⟨finish, finishRead, success⟩ := bind_ok success
  obtain ⟨order, success⟩ := require_bind success
  obtain ⟨equity, -, success⟩ := bind_ok success
  obtain ⟨flow, -, success⟩ := bind_ok success
  obtain ⟨logicalId, digested, success⟩ := bind_ok success
  cases success
  rw [Bool.and_eq_true, decide_eq_true_eq] at order
  exact ⟨receiptMapping_ok mapping, sameKeySet_iff.mp fields, startRead, finishRead, order.1, digested⟩

end Digests
end BinancePlatform.Source
