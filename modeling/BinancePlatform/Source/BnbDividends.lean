import BinancePlatform.Library.Outcome
import BinancePlatform.Source.DateTime

/-!
# BNB dividends

`application/broker_reconciliation.py`: `collect_bnb_dividend_quantity`, which reads one
complete window of the dividend history of BNB. Asset and limit are the same in every
request and left out of it.
-/

set_option autoImplicit false

namespace BinancePlatform.Source
open BinancePlatform.Library

def bnbDividendPageSize : ℕ := 500

/-- Both ends are inclusive milliseconds. -/
structure DividendRequest where
  startTime : ℤ
  endTime : ℤ

/-- `client._request_margin_api`; an exception is an error. -/
abbrev DividendClient := DividendRequest → Except Unit Value

/-- `(id, tranId, divTime)`. -/
structure DividendIdentity where
  id : ℤ
  tranId : ℤ
  divTime : ℤ
  deriving DecidableEq, Repr

structure DividendWindow where
  quantity : Decimal
  recordCount : ℕ
  identities : List DividendIdentity
  directionValues : List ℤ

def bnbDividendWindowInvalid : PyException := valueError "bnb_dividend_window_invalid"
def bnbDividendReadFailed : PyException := valueError "bnb_dividend_read_failed"
def bnbDividendResponseInvalid : PyException := valueError "bnb_dividend_response_invalid"
def bnbDividendHistoryIncomplete : PyException := valueError "bnb_dividend_history_incomplete"
def bnbDividendRowInvalid : PyException := valueError "bnb_dividend_row_invalid"

/-- `localcontext()` with `prec = 100`. -/
def dividendContext : Decimal.Context := { defaultContext with prec := 100 }

/-- `count`: an `int`, or at most ten ASCII digits. -/
def dividendTotal : Value → Option ℤ
  | .int n => some n
  | .str s =>
    if s ≠ "" && s.toList.all Char.isDigit && s.length ≤ 10 then
      some (NumberText.ofDigits (s.toList.filterMap NumberText.digitOf?))
    else none
  | _ => none

def isOne : Value → Bool
  | .int n => n = 1
  | _ => false

/-- The identity of a row inside the window that is not among those already taken. -/
def dividendIdentity (startMs endMs : ℤ) (taken : List DividendIdentity) (row : Document) :
    Except PyException DividendIdentity :=
  match pyGet row "id", pyGet row "tranId", pyGet row "divTime" with
  | .int id, .int tranId, .int divTime => do
    require (0 ≤ id && 0 ≤ tranId && (startMs < divTime && divTime ≤ endMs)
      && (pyGet row "asset").isStr "BNB" && isOne (pyGet row "direction")
      && !taken.contains ⟨id, tranId, divTime⟩) bnbDividendRowInvalid
    return ⟨id, tranId, divTime⟩
  | _, _, _ => .error bnbDividendRowInvalid

def dividendAmount : Value → Except PyException Decimal
  | .str text =>
    if text ≠ "" && text.length ≤ 80 then
      match decimalOfText text with
      | .ok (.finite amount) => do
        require (Decimal.zero.lt amount) bnbDividendRowInvalid
        let magnitude ← checked (amount.abs dividendContext)
        require (magnitude.le ⟨false, 1, 30⟩ && -30 ≤ amount.exp) bnbDividendRowInvalid
        return amount
      | _ => .error bnbDividendRowInvalid
    else .error bnbDividendRowInvalid
  | _ => .error bnbDividendRowInvalid

/-- One row, added to the quantity and the identities. -/
def takeDividend (startMs endMs : ℤ) (state : Decimal × List DividendIdentity) (row : Value) :
    Except PyException (Decimal × List DividendIdentity) :=
  match row with
  | .dict row => do
    let identity ← dividendIdentity startMs endMs state.2 row
    let amount ← dividendAmount (pyGet row "amount")
    let quantity ← checked (state.1.add dividendContext amount)
    return (quantity, state.2 ++ [identity])
  | _ => .error bnbDividendRowInvalid

/-- The rows of a response that is not full and announces as many as it has. -/
def dividendRows (page : Document) : Except PyException (List Value) :=
  match pyGet page "rows", dividendTotal (pyGet page "total") with
  | .list rows, some count =>
    if count = rows.length && rows.length < bnbDividendPageSize then .ok rows
    else .error bnbDividendHistoryIncomplete
  | _, _ => .error bnbDividendHistoryIncomplete

/-- `collect_bnb_dividend_quantity`. -/
def collectBnbDividendQuantity (client : DividendClient) (start finish : Instant) :
    Except PyException DividendWindow := do
  require (start < finish) bnbDividendWindowInvalid
  let startMs := DateTime.timestampMs start
  let endMs := DateTime.timestampMs finish
  match client ⟨startMs, endMs⟩ with
  | .error _ => .error bnbDividendReadFailed
  | .ok (.dict page) =>
    let rows ← dividendRows page
    let (quantity, identities) ← rows.foldlM (takeDividend startMs endMs) (Decimal.zero, [])
    return { quantity, recordCount := identities.length, identities
             directionValues := if identities = [] then [] else [1] }
  | .ok _ => .error bnbDividendResponseInvalid

end BinancePlatform.Source
