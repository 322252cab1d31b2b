import BinancePlatform.Source.KnownFill
import BinancePlatform.Source.TradeState

/-!
# Accounting of a filled order

`_parse_filled_order`, `_apply_fill_balances` and `_prepare_accounting_state` of
`execution_service.py`, with `build_balance_snapshot` of `portfolio_service.py`
and `parse_trend_universe_mapping` of `trend_pool_support.py`. A balances map
holds the quantity of each symbol's base asset.
-/

set_option autoImplicit false

namespace BinancePlatform.Source
open BinancePlatform.Library

/-! ## Binary64 arithmetic -/

namespace PyFloat

/-- The value of a finite float. -/
def exact (negative : Bool) (magnitude : ℚ≥0) : ℚ := if negative then -magnitude else magnitude

/-- A zero sum is negative only when both terms are. -/
def add : PyFloat → PyFloat → PyFloat
  | .nan, _ | _, .nan => .nan
  | .infinite s, .infinite t => if s = t then .infinite s else .nan
  | .infinite s, .finite _ _ | .finite _ _, .infinite s => .infinite s
  | .finite s a, .finite t b =>
    let sum := exact s a + exact t b
    if sum = 0 then .finite (s && t) 0 else nearest (decide (sum < 0)) |sum|

def neg : PyFloat → PyFloat
  | .nan => .nan
  | .infinite s => .infinite !s
  | .finite s a => .finite (!s) a

def sub (x y : PyFloat) : PyFloat := x.add y.neg

def mul : PyFloat → PyFloat → PyFloat
  | .nan, _ | _, .nan => .nan
  | .infinite s, .infinite t => .infinite (s ^^ t)
  | .infinite s, .finite t b | .finite t b, .infinite s => if b = 0 then .nan else .infinite (s ^^ t)
  | .finite s a, .finite t b => nearest (s ^^ t) (a * b : ℚ≥0)

def div : PyFloat → PyFloat → Except PyException PyFloat
  | .nan, .finite _ b => if b = 0 then .error ⟨.other, "float division by zero"⟩ else .ok .nan
  | .nan, _ | _, .nan | .infinite _, .infinite _ => .ok .nan
  | .infinite s, .finite t b =>
    if b = 0 then .error ⟨.other, "float division by zero"⟩ else .ok (.infinite (s ^^ t))
  | .finite s _, .infinite t => .ok (.finite (s ^^ t) 0)
  | .finite s a, .finite t b =>
    if b = 0 then .error ⟨.other, "float division by zero"⟩ else .ok (nearest (s ^^ t) (a / b : ℚ≥0))

def abs : PyFloat → PyFloat
  | .nan => .nan
  | .infinite _ => .infinite false
  | .finite _ a => .finite false a

/-- `x < y`, false of a NaN. -/
def lt : PyFloat → PyFloat → Bool
  | .nan, _ | _, .nan => false
  | .infinite s, .infinite t => s && !t
  | .infinite s, .finite _ _ => s
  | .finite _ _, .infinite t => !t
  | .finite s a, .finite t b => decide (exact s a < exact t b)

/-- `max(x, y)` keeps its first argument unless the second is greater. -/
def maximum (x y : PyFloat) : PyFloat := if x.lt y then y else x

/-- A literal `10^(-digits)`. -/
def tenth (digits : ℕ) : PyFloat := nearest false (1 / 10 ^ digits)

end PyFloat

/-! ## The trend universe -/

def mappingOrList : Value → Bool
  | .dict _ | .list _ => true
  | _ => false

/-- `{symbol: {"base_asset": …}}` without the inner record. -/
abbrev UniverseMapping := Dict String String

section Text
variable [CharacterTable]

/-- The configured base asset of one symbol; none where the entry is skipped. -/
def configuredBase (symbol : String) (configured : Value) : Option String :=
  if endsWithUSDT symbol then
    let baseAsset := strip ((configured.orElse (.str (inferBaseAsset symbol))).toStr)
    if baseAsset = "" then none else some baseAsset
  else none

/-- One entry of the symbol map. -/
def admitEntry (parsed : UniverseMapping) (symbol : String) (configured : Value) : UniverseMapping :=
  match configuredBase symbol configured with
  | some baseAsset => parsed.set symbol baseAsset
  | none => parsed

/-- `meta.get("base_asset")`; a value that is no mapping configures nothing. -/
def metaBase : Value → Value
  | .dict fields => pyGet fields "base_asset"
  | _ => .none

def parseTrendUniverseMapping : Value → UniverseMapping
  | .dict payload =>
    let symbols := if mappingOrList (pyGet payload "symbol_map") then pyGet payload "symbol_map"
      else pyGet payload "symbols"
    match symbols with
    | .dict entries => entries.items.foldl (fun parsed e => admitEntry parsed e.1 (metaBase e.2)) .empty
    | .list names => names.foldl (fun parsed name => match name with
        | .str symbol => admitEntry parsed symbol .none
        | _ => parsed) .empty
    | _ => .empty
  | _ => .empty

/-! ## The fill -/

abbrev Balances := Dict String PyFloat

structure Fill where
  executedQty : PyFloat
  quoteQty : PyFloat
  averagePrice : PyFloat
  baseAsset : String
  baseFee : PyFloat
  quoteFee : PyFloat
  thirdFees : Dict String PyFloat
  thirdFeeUsdt : PyFloat

def filledOrderUnverifiable : PyException :=
  ⟨.executionIntegrityError, "filled_order_accounting_unverifiable"⟩

/-- `_required_number`; an integer too large for a float raises by itself. -/
def requiredNumber (positive : Bool) (value : Value) : Except PyException PyFloat :=
  match value.toFloat with
  | .ok number =>
    if !number.isFinite || number.isNegative || (positive && !number.isPositive) then
      .error filledOrderUnverifiable
    else .ok number
  | .error raised =>
    .error (if raised.cls = .typeError ∨ raised.cls = .valueError then filledOrderUnverifiable
      else raised)

structure FillSums where
  qty : PyFloat
  quote : PyFloat
  commissions : Dict String PyFloat

def commissionAsset (fill : Document) : String :=
  upperText (strip ((pyGet fill "commissionAsset").orElse (.str "")).toStr)

def addFill (sums : FillSums) : Value → Except PyException FillSums
  | .dict fill => do
    let price ← requiredNumber true (pyGet fill "price")
    let qty ← requiredNumber true (pyGet fill "qty")
    let commission ← requiredNumber false (pyGet fill "commission")
    let asset := commissionAsset fill
    require (asset ≠ "") filledOrderUnverifiable
    return { qty := sums.qty.add qty
             quote := sums.quote.add (price.mul qty)
             commissions := sums.commissions.set asset
               (((sums.commissions.get? asset).getD .zero).add commission) }
  | _ => .error filledOrderUnverifiable

def addThirdFee (prices : Document) (sums : Dict String PyFloat × PyFloat) (fee : String × PyFloat) :
    Except PyException (Dict String PyFloat × PyFloat) := do
  let priceKey := fee.1 ++ "USDT"
  let feePrice ← requiredNumber true (pyGet prices priceKey)
  return (sums.1.set priceKey fee.2, sums.2.add (fee.2.mul feePrice))

def nonemptyFills : Value → Except PyException (List Value)
  | .list (first :: rest) => .ok (first :: rest)
  | _ => .error filledOrderUnverifiable

def parseFilledOrder (response : Value) (symbol side : String) (prices : Document) :
    Except PyException Fill := do
  let order ← asMapping filledOrderUnverifiable response
  require (upperText ((pyGet order "status").orElse (.str "")).toStr = "FILLED")
    filledOrderUnverifiable
  require (upperText ((pyGet order "symbol").orElse (.str symbol)).toStr = symbol)
    filledOrderUnverifiable
  require (upperText ((pyGet order "side").orElse (.str side)).toStr = side) filledOrderUnverifiable
  let executedQty ← requiredNumber true (pyGet order "executedQty")
  let quoteQty ← requiredNumber true (pyGet order "cummulativeQuoteQty")
  let fills ← nonemptyFills (pyGet order "fills")
  let sums ← fills.foldlM addFill ⟨.zero, .zero, .empty⟩
  let tolerance := (PyFloat.tenth 8).maximum (executedQty.mul (.tenth 8))
  let quoteTolerance := (PyFloat.tenth 8).maximum (quoteQty.mul (.tenth 8))
  require (!tolerance.lt (sums.qty.sub executedQty).abs
    && !quoteTolerance.lt (sums.quote.sub quoteQty).abs) filledOrderUnverifiable
  let baseAsset := if endsWithUSDT symbol then inferBaseAsset symbol else ""
  require (baseAsset ≠ "") filledOrderUnverifiable
  let unpaid := sums.commissions.erase baseAsset
  let (thirdFees, thirdFeeUsdt) ← (unpaid.erase "USDT").items.foldlM (addThirdFee prices) (.empty, .zero)
  let averagePrice ← quoteQty.div executedQty
  return { executedQty, quoteQty, averagePrice, baseAsset
           baseFee := (sums.commissions.get? baseAsset).getD .zero
           quoteFee := (unpaid.get? "USDT").getD .zero
           thirdFees, thirdFeeUsdt }

end Text

/-- `updated < -1e-10`. -/
def overdrawn (updated : PyFloat) : Bool := updated.lt (PyFloat.tenth 10).neg

def thirdUpdate (balances : Balances) (updates : Balances) (fee : String × PyFloat) :
    Except PyException Balances := do
  let held ← (balances.get? fee.1).elim (.error filledOrderUnverifiable) .ok
  let updated := held.sub fee.2
  require (updated.isFinite && !overdrawn updated) filledOrderUnverifiable
  return updates.set fee.1 (PyFloat.zero.maximum updated)

/-- `_apply_fill_balances`: the balances, `u_total` and the quote change. -/
def applyFillBalances (fill : Fill) (side symbol : String) (balances : Balances) (uTotal : PyFloat) :
    Except PyException (Balances × PyFloat × PyFloat) := do
  let baseDelta := if side = "SELL" then (fill.executedQty.add fill.baseFee).neg
    else fill.executedQty.sub fill.baseFee
  let quoteDelta := if side = "SELL" then fill.quoteQty.sub fill.quoteFee
    else (fill.quoteQty.add fill.quoteFee).neg
  let newBase := ((balances.get? symbol).getD .zero).add baseDelta
  require (!overdrawn newBase) filledOrderUnverifiable
  let thirdUpdates ← fill.thirdFees.items.foldlM (thirdUpdate balances) .empty
  return ((balances.set symbol (PyFloat.zero.maximum newBase)).update thirdUpdates,
    uTotal.add quoteDelta, quoteDelta)

/-! ## The persisted snapshot -/

def lastBalanceSnapshotKey : String := "last_balance_snapshot"

/-- `round(float(x), 8)` as a stored value. -/
def roundedBalance (x : PyFloat) : Value := .float (x.roundDigits 8)

/-- Every other symbol of the balances map, under its name without `USDT`. -/
def refreshOthers (symbol : String) (snapshot : Document) : List (String × PyFloat) → Document
  | [] => snapshot
  | (feeSymbol, quantity) :: rest =>
    refreshOthers symbol
      (if endsWithUSDT feeSymbol ∧ feeSymbol ≠ symbol ∧ feeSymbol ≠ "BTCUSDT" then
        snapshot.set (inferBaseAsset feeSymbol) (roundedBalance quantity)
      else snapshot) rest

def refreshSnapshot (snapshot : Document) (symbol baseAsset : String) (balances : Balances)
    (uTotal : PyFloat) : Except PyException Document := do
  let traded ← (balances.get? symbol).elim (.error keyError) .ok
  return refreshOthers symbol
    ((snapshot.set "USDT" (roundedBalance uTotal)).set baseAsset (roundedBalance traded)) balances.items

section Text
variable [CharacterTable]

/-- The order record of a fill that awaits accounting becomes terminal. -/
def settleKnownFill (state : Document) : Except PyException Document := do
  let record ← asMapping attributeError
    ((state.get? orderSubmissionStateKey).getD (.dict .empty))
  if (pyGet record "state").isStr orderSubmissionFilledAccountingPending then
    let accounted ← accountKnownFillForEarn state
    return accounted.set orderSubmissionStateKey (.dict (statusRecord orderSubmissionTerminal))
  else return state

def prepareAccountingState (state : Document) (symbol baseAsset : String) (balances : Balances)
    (uTotal : PyFloat) : Except PyException Document := do
  let stored := (state.get? lastBalanceSnapshotKey).getD (.dict .empty)
  let refreshed ← match stored with
    | .dict snapshot => (refreshSnapshot snapshot symbol baseAsset balances uTotal).map .dict
    | other => .ok other
  settleKnownFill (state.set lastBalanceSnapshotKey refreshed)

end Text

/-- The configured assets, the later of two symbols with one asset last. -/
def addConfigured (balances : Balances) (snapshot : Document) (entry : String × String) : Document :=
  snapshot.set entry.2 (roundedBalance ((balances.get? entry.1).getD .zero))

def buildBalanceSnapshot (trendUniverse : UniverseMapping) (balances : Balances) (uTotal : PyFloat) :
    Document :=
  let configured := trendUniverse.items.foldl (addConfigured balances)
    ((Dict.empty.set "USDT" (roundedBalance uTotal)).set "BTC"
      (roundedBalance ((balances.get? "BTCUSDT").getD .zero)))
  match balances.get? "BNBUSDT" with
  | some quantity => configured.set "BNB" (roundedBalance quantity)
  | none => configured

end BinancePlatform.Source
