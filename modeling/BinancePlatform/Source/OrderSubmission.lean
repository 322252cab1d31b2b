import BinancePlatform.Source.TradeState

/-!
# The order-submission record

`runtime_support.py`: the strict validator of the durable record that decides
whether a mutating request may be sent. `loadOrderSubmission` is the part of
`_load_order_submission_state` after the document is in memory.
-/

set_option autoImplicit false

namespace BinancePlatform.Source
open BinancePlatform.Library

def orderSubmissionStateKey : String := "order_submission"
def orderSubmissionReserved : String := "RESERVED"
def orderSubmissionUnknown : String := "SUBMISSION_UNKNOWN"
def orderSubmissionTerminal : String := "TERMINAL"
def orderSubmissionFilledAccountingPending : String := "FILLED_ACCOUNTING_PENDING"

def submissionStateInvalid : PyException := ⟨.statePersistenceError, "submission_state_invalid"⟩

def earnSuccessIdByMethod : List (String × String) :=
  [("redeem_simple_earn_flexible_product", "redeemId"),
   ("subscribe_simple_earn_flexible_product", "purchaseId")]

def isSha256 : Value → Bool
  | .str s => fullMatch lowerHex 64 64 (strip s)
  | _ => false

/-- `{"state": status}`. -/
def statusRecord (status : String) : Document := ⟨[("state", .str status)]⟩

@[simp] theorem get?_statusRecord (status key : String) :
    (statusRecord status).get? key = if key = "state" then some (.str status) else none := by
  simp [statusRecord, Dict.get?, Dict.find, eq_comm]

/-- `set(record) == names`. -/
def hasExactly (record : Document) (names : List String) : Bool :=
  record.keys.all (fun key => key ∈ names) && names.all fun name => record.contains name

theorem hasExactly_iff (record : Document) (names : List String) :
    hasExactly record names = true ↔ ∀ key, (record.get? key).isSome = true ↔ key ∈ names := by
  simp only [hasExactly, Bool.and_eq_true, List.all_eq_true, decide_eq_true_eq, Dict.mem_keys,
    Dict.contains]
  constructor
  · rintro ⟨within, present⟩ key
    exact ⟨within key, present key⟩
  · intro exact
    exact ⟨fun key => (exact key).mp, fun name => (exact name).mpr⟩

theorem hasExactly_congr {record other : Document} (same : record.Same other)
    (names : List String) : hasExactly record names = hasExactly other names := by
  rw [Bool.eq_iff_iff, hasExactly_iff, hasExactly_iff]
  simp only [same _]

def requireSubmission (valid : Bool) : Except PyException Unit :=
  if valid then .ok () else .error submissionStateInvalid

theorem requireSubmission_error {valid : Bool} {raised : PyException}
    (failed : requireSubmission valid = .error raised) : raised = submissionStateInvalid := by
  unfold requireSubmission at failed
  split at failed <;> cases failed
  rfl

section Record
variable [CharacterTable]

/-- `str(record.get(name) or "")`. -/
def textOrEmpty (record : Document) (name : String) : String :=
  (((record.get? name).getD .none).orElse (.str "")).toStr

def isOrderSymbol (s : String) : Bool := fullMatch upperOrDigit 3 30 s

def fundingAmount (value : Value) : Except PyException Decimal := do
  match ← value.toDecimal with
  | .finite amount =>
    if amount.lt .zero then throw (valueError "funding_amount_invalid") else return amount
  | _ => throw (valueError "funding_amount_invalid")

/-- Every exception of the two amounts is one of the four caught classes. -/
def validFundingReceipt : Value → Bool
  | .dict receipt =>
    hasExactly receipt ["id", "asset", "product_id", "amount", "spot_before"]
      && (match receipt.get? "id" with | some (.int id) => 0 < id | _ => false)
      && (match receipt.get? "asset" with | some (.str s) => fullMatch upperOrDigit 1 20 s | _ => false)
      && (match receipt.get? "product_id" with | some (.str s) => s ≠ "" | _ => false)
      && (match fundingAmount ((receipt.get? "amount").getD .none) with
          | .ok amount => Decimal.zero.lt amount | .error _ => false)
      && (match fundingAmount ((receipt.get? "spot_before").getD .none) with
          | .ok amount => Decimal.zero.le amount | .error _ => false)
  | _ => false

def isMapping : Value → Bool
  | .dict _ => true
  | _ => false

/-- The fields of a `FILLED_ACCOUNTING_PENDING` record. -/
def pendingFieldsValid (record : Document) : Bool :=
  hasExactly record ["state", "identity_sha256", "symbol", "known_fill"]
    && isSha256 ((record.get? "identity_sha256").getD .none)
    && isOrderSymbol (textOrEmpty record "symbol")
    && isMapping ((record.get? "known_fill").getD .none)

/-- The fields of a `SUBMISSION_UNKNOWN` record, of an order or of an Earn request. -/
def unknownFieldsValid (record : Document) : Bool :=
  isSha256 ((record.get? "identity_sha256").getD .none)
    && (if hasExactly record ["state", "identity_sha256", "symbol"] then
          isOrderSymbol (textOrEmpty record "symbol")
        else if hasExactly record ["state", "identity_sha256", "method_name"]
            || hasExactly record ["state", "identity_sha256", "method_name", "funding_receipt"] then
          textOrEmpty record "method_name" ∈ earnSuccessIdByMethod.map Prod.fst
            && (!record.contains "funding_receipt"
              || validFundingReceipt ((record.get? "funding_receipt").getD .none))
        else false)

/-- The validator of `_load_order_submission_state`: membership of an unhashable
status in a set of texts raises before any branch is chosen. -/
def checkRecord (record : Document) : Except PyException Unit :=
  let status := (record.get? "state").getD .none
  if status.hashable = false then .error typeError
  else if status.isStr orderSubmissionReserved || status.isStr orderSubmissionTerminal then
    requireSubmission (hasExactly record ["state"])
  else if status.isStr orderSubmissionFilledAccountingPending then
    requireSubmission (pendingFieldsValid record)
  else if status.isStr orderSubmissionUnknown then
    requireSubmission (unknownFieldsValid record)
  else .error submissionStateInvalid

def orderSubmissionRecord (stored : Value) : Except PyException Document :=
  match stored with
  | .dict record => (checkRecord record).map fun _ => record
  | _ => .error submissionStateInvalid

def loadOrderSubmission : Value → Except PyException (Document × Document)
  | .dict state =>
    (orderSubmissionRecord
      ((state.get? orderSubmissionStateKey).getD (.dict (statusRecord orderSubmissionReserved)))).map
      fun record => (state, record)
  | _ => .error submissionStateInvalid

/-! ## What the validator decides -/

theorem textOrEmpty_congr {record other : Document} (same : record.Same other) (name : String) :
    textOrEmpty record name = textOrEmpty other name := by
  rw [textOrEmpty, textOrEmpty, same]

theorem pendingFieldsValid_congr {record other : Document} (same : record.Same other) :
    pendingFieldsValid record = pendingFieldsValid other := by
  rw [pendingFieldsValid, pendingFieldsValid, hasExactly_congr same, textOrEmpty_congr same,
    same "identity_sha256", same "known_fill"]

theorem unknownFieldsValid_congr {record other : Document} (same : record.Same other) :
    unknownFieldsValid record = unknownFieldsValid other := by
  rw [unknownFieldsValid, unknownFieldsValid, hasExactly_congr same, hasExactly_congr same,
    hasExactly_congr same, textOrEmpty_congr same, textOrEmpty_congr same, Dict.contains,
    Dict.contains, same "identity_sha256", same "funding_receipt"]

/-- The validator reads a record through its entries only. -/
theorem checkRecord_congr {record other : Document} (same : record.Same other) :
    checkRecord record = checkRecord other := by
  rw [checkRecord, checkRecord, same "state", hasExactly_congr same, pendingFieldsValid_congr same,
    unknownFieldsValid_congr same]

theorem checkRecord_error {record : Document} {raised : PyException}
    (hashable : ((record.get? "state").getD .none).hashable = true)
    (failed : checkRecord record = .error raised) : raised = submissionStateInvalid := by
  unfold checkRecord at failed
  dsimp only at failed
  rw [if_neg (by simp [hashable])] at failed
  split at failed
  · exact requireSubmission_error failed
  split at failed
  · exact requireSubmission_error failed
  split at failed
  · exact requireSubmission_error failed
  · cases failed
    rfl

theorem checkRecord_unhashable {record : Document}
    (unhashable : ((record.get? "state").getD .none).hashable = false) :
    checkRecord record = .error typeError := by
  simp only [checkRecord, unhashable, if_true]

def admittingStatus (status : String) : Prop :=
  status = orderSubmissionReserved ∨ status = orderSubmissionTerminal

/-- An admitting status stands alone in its record. -/
theorem checkRecord_admits {record : Document} {status : String} (admitting : admittingStatus status)
    (recorded : record.get? "state" = some (.str status))
    (success : checkRecord record = .ok ()) : record.Same (statusRecord status) := by
  have alone : hasExactly record ["state"] = true := by
    rcases admitting with rfl | rfl <;>
      simpa [checkRecord, recorded, Value.isStr, Value.hashable, requireSubmission] using success
  rw [hasExactly_iff] at alone
  intro key
  by_cases atState : key = "state"
  · rw [atState, recorded, get?_statusRecord, if_pos rfl]
  · have absent : ¬ (record.get? key).isSome = true := fun present =>
      atState (by simpa using (alone key).mp present)
    rw [Option.not_isSome_iff_eq_none.mp absent, get?_statusRecord, if_neg atState]

end Record
end BinancePlatform.Source
