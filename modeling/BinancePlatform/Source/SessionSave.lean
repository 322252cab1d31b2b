import BinancePlatform.Source.TradeState
import BinancePlatform.Source.Json

/-!
# The document an ordinary save commits

`BoundTradeStateAccess.save` with `interval=None`, as a function of the session's
source document and the working state. Every failure of the enclosing transaction
is a failed save; what a successful one leaves in the store is the value here.
-/

set_option autoImplicit false

namespace BinancePlatform.Source
open BinancePlatform.Library

def stateSessionUncertain (message : String) : PyException := ⟨.stateSessionUncertain, message⟩
def stateSessionBlocked (message : String) : PyException := ⟨.stateSessionBlocked, message⟩

def receiptFields : List String := ["earn_accrual_checkpoint", "external_cash_flow_cursor"]

/-- `_json(source.get(k)) != _json(normalized.get(k))`. -/
def receiptFieldChanged (source normalized : Document) (key : String) : Except PyException Bool := do
  let before ← ((source.get? key).getD .none).json
  let after ← ((normalized.get? key).getD .none).json
  return decide (before ≠ after)

/-- `any(...)` over the fields that need a receipt. -/
def anyReceiptFieldChanged (source normalized : Document) : List String → Except PyException Bool
  | [] => .ok false
  | key :: rest => do
    if ← receiptFieldChanged source normalized key then return true
    anyReceiptFieldChanged source normalized rest

section Save
variable [CharacterTable]

/-- `{**source, **normalized}`: source-only fields are preserved. -/
def intendedDocument (source normalized : Document) : Document := source.update normalized

def attemptSave (trendUniverse : TrendUniverse) (receiptEnabled : Bool) (source data : Document) :
    Except PyException Document := do
  let normalized ← normalizeTradeState trendUniverse (.dict data)
  if receiptEnabled then
    if ← anyReceiptFieldChanged source normalized receiptFields then
      throw (stateSessionBlocked "state_session_checkpoint_requires_receipt")
  let intended := intendedDocument source normalized
  -- The staged compare-and-set and the readback compare canonical texts.
  let _ ← (Value.dict source).json
  let _ ← (Value.dict intended).json
  return intended

/-- Any exception other than a block is an uncertain write. -/
def ordinarySave (trendUniverse : TrendUniverse) (receiptEnabled : Bool) (source data : Document) :
    Except PyException Document :=
  match attemptSave trendUniverse receiptEnabled source data with
  | .ok committed => .ok committed
  | .error raised =>
    if raised.cls = .stateSessionBlocked then .error raised
    else .error (stateSessionUncertain "state_session_write_uncertain")

/-- A successful save commits the merged document. -/
theorem ordinarySave_ok {trendUniverse : TrendUniverse} {receiptEnabled : Bool}
    {source data committed : Document}
    (saved : ordinarySave trendUniverse receiptEnabled source data = .ok committed) :
    ∃ normalized, normalizeTradeState trendUniverse (.dict data) = .ok normalized
      ∧ committed = intendedDocument source normalized := by
  unfold ordinarySave at saved
  split at saved
  case h_2 => split at saved <;> cases saved
  case h_1 written success =>
    cases saved
    unfold attemptSave at success
    cases working : normalizeTradeState trendUniverse (.dict data) with
    | error raised => simp [working, bind, Except.bind] at success
    | ok normalized =>
      refine ⟨normalized, rfl, ?_⟩
      simp only [working, bind, Except.bind] at success
      repeat' split at success
      all_goals first
        | (cases success; done)
        | (simp only [pure, Except.pure, Except.ok.injEq] at success; exact success.symm)

end Save
end BinancePlatform.Source
