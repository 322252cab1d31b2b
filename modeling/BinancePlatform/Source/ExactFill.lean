import BinancePlatform.Library.DictTotal
import BinancePlatform.Library.Effects
import BinancePlatform.Source.FillAccounting
import Mathlib.Algebra.Order.Field.Basic

/-!
# Fills in exact arithmetic

`_parse_filled_order` and `_apply_fill_balances` of `execution_service.py` with the
amounts in an ordered field. `read` gives the amount that `float(value)` stands for,
and none where it raises or is not finite. The balances are the state of a program, so
that what an exception leaves behind can be seen.
-/

set_option autoImplicit false

namespace BinancePlatform.Source.Exact
open BinancePlatform.Library

theorem ten_atLeastTwo : Nat.AtLeastTwo 10 := inferInstance
attribute [local instance] ten_atLeastTwo

variable {K : Type} [Field K] [LinearOrder K]

structure Fill (K : Type) where
  executedQty : K
  quoteQty : K
  averagePrice : K
  baseAsset : String
  baseFee : K
  quoteFee : K
  thirdFees : Dict String K
  thirdFeeUsdt : K
  deriving DecidableEq, Repr

/-- The value of the float that `float(value)` gives. -/
def floatValue (value : Value) : Option ℚ :=
  match value.toFloat with
  | .ok (.finite negative magnitude) => some (PyFloat.exact negative magnitude)
  | _ => none

section Parse
variable (read : Value → Option K)

/-- `_required_number`. -/
def requiredNumber (positive : Bool) (value : Value) : Except PyException K :=
  match read value with
  | some number =>
    if number < 0 ∨ (positive = true ∧ number ≤ 0) then .error filledOrderUnverifiable else .ok number
  | none => .error filledOrderUnverifiable

structure FillSums (K : Type) where
  qty : K
  quote : K
  commissions : Dict String K

def addThirdFee (prices : Document) (sums : Dict String K × K) (fee : String × K) :
    Except PyException (Dict String K × K) := do
  let priceKey := fee.1 ++ "USDT"
  let feePrice ← requiredNumber read true (pyGet prices priceKey)
  return (sums.1.set priceKey fee.2, sums.2 + fee.2 * feePrice)

variable [CharacterTable]

def addFill (sums : FillSums K) : Value → Except PyException (FillSums K)
  | .dict fill => do
    let price ← requiredNumber read true (pyGet fill "price")
    let qty ← requiredNumber read true (pyGet fill "qty")
    let commission ← requiredNumber read false (pyGet fill "commission")
    let asset := commissionAsset fill
    require (asset ≠ "") filledOrderUnverifiable
    return { qty := sums.qty + qty
             quote := sums.quote + price * qty
             commissions := sums.commissions.set asset
               ((sums.commissions.get? asset).getD 0 + commission) }
  | _ => .error filledOrderUnverifiable

/-- `_parse_filled_order`. -/
def parseFilledOrder (response : Value) (symbol side : String) (prices : Document) :
    Except PyException (Fill K) := do
  let order ← asMapping filledOrderUnverifiable response
  require (upperText ((pyGet order "status").orElse (.str "")).toStr = "FILLED")
    filledOrderUnverifiable
  require (upperText ((pyGet order "symbol").orElse (.str symbol)).toStr = symbol)
    filledOrderUnverifiable
  require (upperText ((pyGet order "side").orElse (.str side)).toStr = side) filledOrderUnverifiable
  let executedQty ← requiredNumber read true (pyGet order "executedQty")
  let quoteQty ← requiredNumber read true (pyGet order "cummulativeQuoteQty")
  let fills ← nonemptyFills (pyGet order "fills")
  let sums ← fills.foldlM (addFill read) ⟨0, 0, .empty⟩
  let tolerance := max (1 / 10 ^ 8) (executedQty * (1 / 10 ^ 8))
  let quoteTolerance := max (1 / 10 ^ 8) (quoteQty * (1 / 10 ^ 8))
  require (|sums.qty - executedQty| ≤ tolerance && |sums.quote - quoteQty| ≤ quoteTolerance)
    filledOrderUnverifiable
  let baseAsset := if endsWithUSDT symbol then inferBaseAsset symbol else ""
  require (baseAsset ≠ "") filledOrderUnverifiable
  let unpaid := sums.commissions.erase baseAsset
  let (thirdFees, thirdFeeUsdt) ← (unpaid.erase "USDT").items.foldlM (addThirdFee read prices) (.empty, 0)
  return { executedQty, quoteQty, baseAsset, thirdFees, thirdFeeUsdt
           averagePrice := quoteQty / executedQty
           baseFee := (sums.commissions.get? baseAsset).getD 0
           quoteFee := (unpaid.get? "USDT").getD 0 }

end Parse

/-! ## The balances -/

/-- `-1e-10`, below which a balance is overdrawn. -/
def clampBound : K := 1 / 10 ^ 10

def thirdUpdate (balances updates : Dict String K) (fee : String × K) :
    Except PyException (Dict String K) := do
  let held ← (balances.get? fee.1).elim (.error filledOrderUnverifiable) .ok
  require (-clampBound ≤ held - fee.2) filledOrderUnverifiable
  return updates.set fee.1 (max 0 (held - fee.2))

def Fill.baseDelta (fill : Fill K) (side : String) : K :=
  if side = "SELL" then -(fill.executedQty + fill.baseFee) else fill.executedQty - fill.baseFee

def Fill.quoteDelta (fill : Fill K) (side : String) : K :=
  if side = "SELL" then fill.quoteQty - fill.quoteFee else -(fill.quoteQty + fill.quoteFee)

/-- `_apply_fill_balances`: `u_total` and the quote change. -/
def applyFillBalances (fill : Fill K) (side symbol : String) (uTotal : K) :
    Program PyException (Dict String K) (K × K) := do
  let balances ← .get
  let newBase := (balances.get? symbol).getD 0 + fill.baseDelta side
  if newBase < -clampBound then .leave filledOrderUnverifiable
  else match fill.thirdFees.items.foldlM (thirdUpdate balances) .empty with
    | .error raised => .leave raised
    | .ok thirdUpdates => do
      .update fun balances => balances.set symbol (max 0 newBase)
      .update fun balances => balances.update thirdUpdates
      pure (uTotal + fill.quoteDelta side, fill.quoteDelta side)

end BinancePlatform.Source.Exact
