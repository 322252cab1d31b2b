import BinancePlatform.Library.DecimalDivision
import BinancePlatform.Source.BtcAttribution
import BinancePlatform.Source.PortfolioValuation

/-!
# BTC exit proposals

`approved_exit_proposal` of `infra/btc_no_submit.py`. The numbers of the plan are decimals
of their texts, with any number of digits; the differences, the quotient and the last
check run in the ambient context.
-/

set_option autoImplicit false

namespace BinancePlatform.Source.ExitProposal
open BinancePlatform.Library

def exitUnsupported : PyException := valueError "btc_validation_exit_unsupported"

structure Position where
  symbol : Value
  targetWeight : Value

structure Budget where
  name : Value
  symbol : Value
  amount : Value

/-- What the function reads of a decision. -/
structure Decision where
  diagnostics : Value
  positions : List Position
  budgets : List Budget
  riskFlags : List String

/-- The keyword arguments. -/
structure Inputs where
  price : Value
  accountBtc : Value
  evidence : Value
  brokerParts : Value
  request : BtcAttribution.Request

def isNone : Value → Bool
  | .none => true
  | _ => false

/-- `_number`, whose exceptions the caller replaces. -/
def number : Value → Except PyException PyFloat
  | .int n => do
    require (0 ≤ n) exitUnsupported
    match PyFloat.ofInt n with
    | .ok x => return x
    | .error _ => .error exitUnsupported
  | .float x => do
    require (x.isFinite && !x.isNegative) exitUnsupported
    return x
  | _ => .error exitUnsupported

/-- The exact values of two finite floats agree. -/
def sameFloat : PyFloat → PyFloat → Bool
  | .finite negative magnitude, .finite otherNegative otherMagnitude =>
    PyFloat.exact negative magnitude = PyFloat.exact otherNegative otherMagnitude
  | _, _ => false

def decimalLimit : Decimal := ⟨false, 1000000000, 0⟩

section Plan
variable [CharacterTable]

/-- `decimal_number`. -/
def decimalNumber (value : Value) : Except PyException Decimal :=
  match value with
  | .str _ | .int _ | .float _ =>
    match value.toDecimal with
    | .ok (.finite d) => do
      require (Decimal.zero.le d && d.le decimalLimit) exitUnsupported
      return d
    | _ => .error exitUnsupported
  | _ => .error exitUnsupported

def minus (a b : Decimal) : Except PyException Decimal := checked (a.sub defaultContext b)
def plus (a b : Decimal) : Except PyException Decimal := checked (a.add defaultContext b)
def times (a b : Decimal) : Except PyException Decimal := checked (a.mul defaultContext b)

/-- `abs(a - b) > limit`. -/
def apart (a b limit : Decimal) : Except PyException Bool := do
  let difference ← minus a b
  let magnitude ← checked (difference.abs defaultContext)
  return limit.lt magnitude

def weightTolerance : Decimal := ⟨false, 1, -9⟩
def valueTolerance : Decimal := ⟨false, 1, -6⟩

/-- The numbers of the plan. -/
structure Plan where
  current : Decimal
  target : Decimal
  equity : Decimal
  ratio : Decimal
  price : Decimal
  brokerFree : Decimal
  brokerLocked : Decimal
  brokerEarn : Decimal
  balance : PyFloat
  capturedTotal : PyFloat

def routes : List String := ["risk_reduced", "risk_off"]

/-- The exit plan must be applied, on a route that reduces risk. -/
def checkExit (decision : Decision) (diagnostics : Document) : Except PyException Unit := do
  let exitPlan ← asMapping exitUnsupported (pyGet diagnostics "zscore_exit")
  require (BtcAttribution.isTrue (pyGet exitPlan "applied")) exitUnsupported
  require (← memberOf routes (pyGet exitPlan "route")) exitUnsupported
  require ("no_execute" ∉ decision.riskFlags) exitUnsupported

def readPlan (inputs : Inputs) (diagnostics metrics : Document) : Except PyException Plan := do
  let current ← decimalNumber (pyGet diagnostics "btc_value_usd")
  let target ← decimalNumber (pyGet diagnostics "target_btc_value_usd")
  let equity ← decimalNumber (pyGet metrics "total_equity")
  let ratio ← decimalNumber (pyGet diagnostics "btc_target_ratio")
  let price ← decimalNumber inputs.price
  let _ ← decimalNumber inputs.accountBtc
  let parts ← asMapping exitUnsupported inputs.brokerParts
  require (hasExactly parts ["spot_free", "spot_locked", "earn", "managed_total"]) exitUnsupported
  let balance ← number inputs.accountBtc
  let capturedTotal ← number (pyGet parts "managed_total")
  let brokerFree ← decimalNumber (pyGet parts "spot_free")
  let brokerLocked ← decimalNumber (pyGet parts "spot_locked")
  let brokerEarn ← decimalNumber (pyGet parts "earn")
  return { current, target, equity, ratio, price, brokerFree, brokerLocked, brokerEarn, balance, capturedTotal }

/-- The comparison of the plan with the decision and the attributed quantities. -/
def checkPlan (decision : Decision) (diagnostics metrics : Document) (plan : Plan)
    (owned : BtcAttribution.Attribution) : Except PyException Unit := do
  let positions := decision.positions.filter fun position => position.symbol.isStr "BTCUSDT"
  let budgets := decision.budgets.filter fun budget =>
    budget.name.isStr "btc_dca_pool" && budget.symbol.isStr "BTCUSDT"
  require (Decimal.zero.lt plan.price && Decimal.zero.lt plan.equity
    && plan.ratio.le ⟨false, 1, 0⟩ && plan.target.lt plan.current) exitUnsupported
  match positions, budgets with
  | [position], [budget] => do
    require ((← decimalNumber budget.amount).eqv .zero) exitUnsupported
    require ((← decimalNumber (pyGet diagnostics "planned_investment_usd")).eqv .zero) exitUnsupported
    require (!(← apart (← decimalNumber position.targetWeight) plan.ratio weightTolerance)) exitUnsupported
    require (!(← apart (← decimalNumber (pyGet metrics "dca_value")) plan.current valueTolerance))
      exitUnsupported
    require (!(← apart (← times plan.equity plan.ratio) plan.target valueTolerance)) exitUnsupported
    require (plan.brokerLocked.eqv .zero && plan.brokerFree.eqv owned.spot
      && plan.brokerEarn.eqv owned.earn && sameFloat plan.balance plan.capturedTotal) exitUnsupported
    require (!(← apart (← times (← plus owned.spot owned.earn) plan.price) plan.current valueTolerance))
      exitUnsupported
  | _, _ => .error exitUnsupported

/-- `(current - target) / price`, cut to 18 decimals. A trapped signal of the division or
of `quantize` is refused. -/
def proposedQuantity (plan : Plan) : Except PyException Decimal := do
  let excess ← minus plan.current plan.target
  match (excess.div defaultContext plan.price).bind (Decimal.quantizeDown defaultContext (-18)) with
  | some quantity => return quantity
  | none => .error exitUnsupported

/-- `format(quantity.normalize(), "f")`. -/
def quantityText (quantity : Decimal) : Except PyException String := do
  let normal ← checked (quantity.normalize defaultContext)
  return String.ofList (NumberText.printPlain normal)

/-- The plan of an accepted call, the attributed quantities and the checked quantity. -/
structure Checked where
  plan : Plan
  owned : BtcAttribution.Attribution
  quantity : Decimal

def checkedQuantity (decision : Decision) (metrics : Value) (inputs : Inputs) :
    Except PyException Checked := do
  require (!isNone inputs.evidence) exitUnsupported
  let owned ← BtcAttribution.reconstruct inputs.evidence inputs.request
  let diagnostics ← asMapping exitUnsupported decision.diagnostics
  let metrics ← asMapping exitUnsupported metrics
  checkExit decision diagnostics
  let plan ← readPlan inputs diagnostics metrics
  checkPlan decision diagnostics metrics plan owned
  let quantity ← proposedQuantity plan
  require (Decimal.zero.lt quantity && quantity.le owned.spot) exitUnsupported
  let proceeds ← times quantity plan.price
  let excess ← minus plan.current plan.target
  require (proceeds.le excess) exitUnsupported
  return ⟨plan, owned, quantity⟩

/-- `approved_exit_proposal`. -/
def approvedExitProposal (decision : Decision) (metrics : Value) (inputs : Inputs) :
    Except PyException Document := do
  let accepted ← checkedQuantity decision metrics inputs
  let text ← quantityText accepted.quantity
  return ⟨[("action", .str "sell"), ("symbol", .str "BTCUSDT"), ("quantity", .str text),
    ("proposal_only", .bool true), ("execution_ready", .bool false),
    ("source_authenticated", .bool false), ("completeness_authenticated", .bool false)]⟩

end Plan
end BinancePlatform.Source.ExitProposal
