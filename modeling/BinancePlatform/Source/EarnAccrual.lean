import BinancePlatform.Source.DateTime
import BinancePlatform.Source.TradeState
import Mathlib.Algebra.BigOperators.Group.Finset.Basic
import Mathlib.Algebra.Order.BigOperators.Group.List

/-!
# Earn checkpoints

`application/earn_accrual.py` (`_amount`, `_time`, `_validate`,
`compare_earn_checkpoints`, `prepare_forward_earn_state`) and the accounting of a
known fill in `runtime_support.py`. Checkpoints, cash flows and fills are the
documents the code reads; every quantity in them is a text. The iteration order of
a Python set, which no result depends on, is the order of the mapping it is taken from.
-/

set_option autoImplicit false

namespace BinancePlatform.Source
open BinancePlatform.Library

def earnCheckpointInvalid : PyException := valueError "earn_checkpoint_invalid"
def earnCheckpointTimeInvalid : PyException := valueError "earn_checkpoint_time_invalid"

/-- The local context with `prec = 100`. -/
def earnContext : Decimal.Context := { defaultContext with prec := 100 }

/-- `_amount`; the magnitude is taken in the caller's context. -/
def amount (ctx : Decimal.Context) (signed : Bool) : Value → Except PyException Decimal
  | .str s => do
    require (0 < s.length && s.length ≤ 80) earnCheckpointInvalid
    match decimalOfText s with
    | .ok (.finite result) => do
      require (signed || !result.lt .zero) earnCheckpointInvalid
      let magnitude ← checked (result.abs ctx)
      require (magnitude.le ⟨false, 1, 30⟩ && -30 ≤ result.exp) earnCheckpointInvalid
      return result
    | _ => .error earnCheckpointInvalid
  | _ => .error earnCheckpointInvalid

/-- `value.replace('Z', '+00:00')`. -/
def zuluReplaced (s : String) : String :=
  String.ofList (s.toList.flatMap fun c => if c = 'Z' then "+00:00".toList else [c])

/-- `_time`. -/
def earnTime : Value → Except PyException Instant
  | .str s =>
    match (DateTime.fromIsoformat (zuluReplaced s)).bind DateTime.Parsed.instant? with
    | none => .error earnCheckpointTimeInvalid
    | some t =>
      if DateTime.minInstant ≤ t ∧ t < DateTime.endInstant then .ok t else .error overflowError
  | _ => .error earnCheckpointTimeInvalid

def isBool : Value → Bool
  | .bool _ => true
  | _ => false

def isTrue : Value → Bool
  | .bool b => b
  | _ => false

def isFalse : Value → Bool
  | .bool b => !b
  | _ => false

/-- The loop over the products: the running quantity of the asset. -/
def validateProducts : List (String × Value) → Decimal → Except PyException Decimal
  | [], total => .ok total
  | (product, value) :: rest, total => do
    let position ← asMapping earnCheckpointInvalid value
    require (product ≠ "" && isBool (pyGet position "auto_subscribe")
      && isTrue (pyGet position "can_redeem")) earnCheckpointInvalid
    let added ← amount earnContext false (pyGet position "total")
    let total ← checked (total.add earnContext added)
    let _ ← amount earnContext false (pyGet position "realtime_rewards")
    validateProducts rest total

def validateAsset (asset : String) (value : Value) : Except PyException Unit := do
  require (fullMatch upperOrDigit 1 20 asset) earnCheckpointInvalid
  let row ← asMapping earnCheckpointInvalid value
  let products ← asMapping earnCheckpointInvalid (pyGet row "products")
  require (products.keys.length < 100) earnCheckpointInvalid
  let free ← amount earnContext false (pyGet row "spot_free")
  let locked ← amount earnContext false (pyGet row "spot_locked")
  let spot ← checked (free.add earnContext locked)
  let total ← validateProducts products.items spot
  let quantity ← amount earnContext false (pyGet row "quantity")
  require (quantity.eqv total && locked.eqv .zero) earnCheckpointInvalid

def validateAssets : List (String × Value) → Except PyException Unit
  | [] => .ok ()
  | (asset, row) :: rest => do
    validateAsset asset row
    validateAssets rest

/-- `set(net_changes)` compared with the assets, for a mapping. -/
def assetKeys : Value → Except PyException (List String)
  | .dict d => .ok d.keys
  | _ => .error typeError

section Checkpoints
variable [CharacterTable]

/-- `_validate`. -/
def validate (value : Value) : Except PyException Unit := do
  let checkpoint ← asMapping earnCheckpointInvalid value
  require (isFalse (pyGet checkpoint "execution_authority_granted")) earnCheckpointInvalid
  require (fullMatch lowerHex 64 64
    ((checkpoint.get? "account_scope_sha256").getD (.str "")).toStr) earnCheckpointInvalid
  let _ ← earnTime (pyGet checkpoint "observed_at")
  let assets ← asMapping earnCheckpointInvalid (pyGet checkpoint "assets")
  require (0 < assets.keys.length && assets.keys.length ≤ 32) earnCheckpointInvalid
  validateAssets assets.items

/-- `==` of two scopes; a validated scope is a text or an integer. -/
def sameScope : Value → Value → Bool
  | .str s, .str t => s = t
  | .int m, .int n => m = n
  | _, _ => false

/-- `==` of two flags. -/
def sameFlag : Value → Value → Bool
  | .bool a, .bool b => a = b
  | _, _ => false

/-- The loop over the old products: the increase of the reward counters. -/
def rewardIncrease (newProducts : Value) : List (String × Value) → Decimal → Except PyException Decimal
  | [], reward => .ok reward
  | (product, before) :: rest, reward => do
    let after ← item newProducts product
    require (sameFlag (← item before "auto_subscribe") (← item after "auto_subscribe"))
      (valueError "earn_product_lifecycle_unverified")
    let newCounter ← amount earnContext false (← item after "realtime_rewards")
    let oldCounter ← amount earnContext false (← item before "realtime_rewards")
    let delta ← checked (newCounter.sub earnContext oldCounter)
    require (!delta.lt .zero) (valueError "earn_counter_reset")
    let reward ← checked (reward.add earnContext delta)
    rewardIncrease newProducts rest reward

/-- One asset of `compare_earn_checkpoints`: its accrual. -/
def compareAsset (old new verified : Value) : Except PyException Decimal := do
  let oldProducts ← item old "products"
  let newProducts ← item new "products"
  require (sameKeySet (← assetKeys oldProducts) (← assetKeys newProducts))
    (valueError "earn_product_lifecycle_unverified")
  let products ← asMapping attributeError oldProducts
  let reward ← rewardIncrease newProducts products.items .zero
  let newQuantity ← amount earnContext false (← item new "quantity")
  let oldQuantity ← amount earnContext false (← item old "quantity")
  let observed ← checked (newQuantity.sub earnContext oldQuantity)
  let change ← amount earnContext true verified
  let expected ← checked (reward.add earnContext change)
  require (observed.eqv expected) (valueError "earn_quantity_change_unexplained")
  return reward

def compareAssets (newAssets verified : Value) :
    List (String × Value) → Except PyException (List (String × Value))
  | [] => .ok []
  | (asset, old) :: rest => do
    let reward ← compareAsset old (← item newAssets asset) (← item verified asset)
    let accrual ← compareAssets newAssets verified rest
    return (asset, .str (String.ofList (NumberText.printPlain reward))) :: accrual

def scopeChanged : PyException := valueError "earn_checkpoint_scope_changed"

def compareEarnCheckpoints (previous current verified : Value) : Except PyException Document := do
  validate previous
  validate current
  require (sameScope (← item previous "account_scope_sha256")
    (← item current "account_scope_sha256")) scopeChanged
  let oldAssets ← item previous "assets"
  let newAssets ← item current "assets"
  require (sameKeySet (← assetKeys oldAssets) (← assetKeys newAssets)) scopeChanged
  let oldTime ← earnTime (← item previous "observed_at")
  let newTime ← earnTime (← item current "observed_at")
  require (decide (oldTime < newTime)) scopeChanged
  let changes ← asMapping scopeChanged verified
  require (sameKeySet changes.keys (← assetKeys newAssets)) scopeChanged
  let old ← asMapping attributeError oldAssets
  let accrual ← compareAssets newAssets verified old.items
  return ⟨[("quantities_conserve", .bool true), ("broker_reported_accrual", .dict ⟨accrual⟩),
    ("absolute_principal_proven", .bool false), ("execution_authority_granted", .bool false)]⟩

/-! ## The next state -/

def orderUnsettled : PyException := valueError "earn_order_unsettled"
def accountedChangesMissing : PyException := valueError "earn_accounted_changes_missing"
def cashCursorMismatch : PyException := valueError "earn_cash_cursor_mismatch"
def cashFlowInvalid : PyException := valueError "earn_cash_flow_invalid"
def cashFlowTimeUnverified : PyException := valueError "earn_cash_flow_time_unverified"

/-- `state.get('order_submission', {}).get('state') not in {'RESERVED', 'TERMINAL'}`. -/
def requireSettledOrder (state : Document) : Except PyException Unit := do
  let record ← asMapping attributeError ((state.get? "order_submission").getD (.dict .empty))
  let status := pyGet record "state"
  require status.hashable typeError
  require (status.isStr "RESERVED" || status.isStr "TERMINAL") orderUnsettled

/-- `type(value) is int and value >= 0`. -/
def countOf (cashFlows : Document) (key : String) : Except PyException ℤ :=
  match pyGet cashFlows key with
  | .int n => if 0 ≤ n then .ok n else .error cashFlowInvalid
  | _ => .error cashFlowInvalid

/-- `any(...)` over the completion times: one lies outside the interval of the two
checkpoints, or on another day than the second. -/
def anyOutside (previousAt cutoff : Instant) : List Value → Except PyException Bool
  | [] => .ok false
  | value :: rest => do
    let t ← earnTime value
    if previousAt < t ∧ t ≤ cutoff ∧ DateTime.dayOf t = DateTime.dayOf cutoff then
      anyOutside previousAt cutoff rest
    else return true

/-- `verified[asset] += added`. -/
def creditAsset (ctx : Decimal.Context) (verified : Dict String Decimal) (asset : String)
    (added : Decimal) : Except PyException (Dict String Decimal) :=
  match verified.get? asset with
  | none => .error keyError
  | some before => (checked (before.add ctx added)).map (verified.set asset)

/-- `_amount(net[a], signed=True)` for one asset. -/
def netAmount (net : Document) (asset : String) : Except PyException (String × Decimal) := do
  let value ← item (.dict net) asset
  return (asset, ← amount earnContext true value)

/-- `{a: str(v) for a, v in verified.items()}`. -/
def netTexts (verified : Dict String Decimal) : Document :=
  ⟨verified.items.map fun e => (e.1, .str (String.ofList (NumberText.print e.2)))⟩

/-- The value of one asset in `last_balance_snapshot`. -/
def snapshotEntry (entry : String × Value) : Except PyException (String × Value) := do
  let quantity ← amount earnContext false (← item entry.2 "quantity")
  return (entry.1, .float ((PyFloat.ofDecimal quantity).roundDigits 8))

/-- The net changes that must explain the interval: the accounted fills, the deposit
principal of USDT and the dividends of BNB. -/
def verifiedNetChanges (accounted : List (String × Decimal)) (principal dividend : Decimal) :
    Except PyException (Dict String Decimal) := do
  let verified ← creditAsset earnContext ⟨accounted⟩ "USDT" principal
  if dividend.eqv .zero then return verified
  else do
    require (verified.contains "BNB") cashFlowInvalid
    creditAsset earnContext verified "BNB" dividend

/-- `principal and state.get('last_reset_date') == cutoff.date().isoformat()`: today's
principal is accumulated as a float. -/
def withDailyPrincipal (state : Document) (cutoff : Instant) (principal : Decimal) :
    Except PyException Document :=
  if !principal.eqv .zero
      && (pyGet state "last_reset_date").isStr (DateTime.dateIsoformat cutoff) then do
    let before ← amount earnContext false
      (.str ((state.get? "daily_external_principal_usdt").getD (.int 0)).toStr)
    let accumulated ← checked (before.add earnContext principal)
    return state.set "daily_external_principal_usdt" (.float (PyFloat.ofDecimal accumulated))
  else .ok state

/-- The checks of the cash flows; their principal and dividend quantity. -/
def checkCashFlows (previous : Value) (cutoff : Instant) (cashFlows : Document) :
    Except PyException (Decimal × Decimal) := do
  let confirmed ← countOf cashFlows "new_confirmed_deposit_count"
  let unsupported ← countOf cashFlows "new_unsupported_deposit_count"
  let withdrawals ← countOf cashFlows "new_or_changed_withdrawal_count"
  require (unsupported = 0 && withdrawals = 0) (valueError "earn_cash_flow_unsupported")
  let principal ← amount earnContext false (← item (.dict cashFlows) "new_deposit_principal_usdt")
  let dividend ← amount earnContext false
    ((cashFlows.get? "bnb_dividend_quantity").getD (.str "0"))
  match ← item (.dict cashFlows) "new_deposit_completed_at" with
  | .list completed => do
    require (completed.length = confirmed && principal.eqv .zero = completed.isEmpty)
      cashFlowTimeUnverified
    let previousAt ← earnTime (← item previous "observed_at")
    require (!(← anyOutside previousAt cutoff completed)) cashFlowTimeUnverified
    return (principal, dividend)
  | _ => .error cashFlowTimeUnverified

def prepareForwardEarnState (state : Document) (current : Value) (cashFlows : Document) :
    Except PyException Document := do
  let previous ← item (.dict state) "earn_accrual_checkpoint"
  validate previous
  validate current
  requireSettledOrder state
  let assets ← assetKeys (← item previous "assets")
  let net ← asMapping accountedChangesMissing (pyGet state "earn_accounted_net_changes")
  require (sameKeySet net.keys assets) accountedChangesMissing
  let snapshot ← asMapping accountedChangesMissing (pyGet state "last_balance_snapshot")
  require (sameKeySet snapshot.keys assets) accountedChangesMissing
  let accounted ← assets.mapM (netAmount net)
  let cutoff ← earnTime (← item current "observed_at")
  let oldCursor ← asMapping cashCursorMismatch (pyGet state "external_cash_flow_cursor")
  let newCursor ← asMapping cashCursorMismatch (pyGet cashFlows "cursor")
  let oldCursorAt ← earnTime (pyGet oldCursor "observed_at")
  let previousAt ← earnTime (← item previous "observed_at")
  require (decide (oldCursorAt = previousAt)) cashCursorMismatch
  let newCursorAt ← earnTime (pyGet newCursor "observed_at")
  require (decide (newCursorAt = cutoff)) cashCursorMismatch
  let (principal, dividend) ← checkCashFlows previous cutoff cashFlows
  let verified ← verifiedNetChanges accounted principal dividend
  let _ ← compareEarnCheckpoints previous current (.dict (netTexts verified))
  let withPrincipal ← withDailyPrincipal state cutoff principal
  let newAssets ← asMapping attributeError (← item current "assets")
  let balances ← newAssets.items.mapM snapshotEntry
  return (((withPrincipal.set "earn_accrual_checkpoint" current).set "earn_accounted_net_changes"
    (.dict ⟨assets.map fun a => (a, .str "0")⟩)).set "last_balance_snapshot" (.dict ⟨balances⟩)).set
    "external_cash_flow_cursor" (.dict newCursor)

end Checkpoints

/-! ## What the checks establish -/

/-- The number a text spells; other values count as zero. -/
def quantityOf : Value → ℚ
  | .str s =>
    match decimalOfText s with
    | .ok (.finite d) => d.value
    | _ => 0
  | _ => 0

/-- `value[key]` where it exists. -/
def fieldOf (value : Value) (key : String) : Value :=
  match value with
  | .dict d => pyGet d key
  | _ => .none

theorem fieldOf_item {value found : Value} {key : String} (success : item value key = .ok found) :
    fieldOf value key = found := by
  obtain ⟨d, rfl, entry⟩ := item_ok success
  simp [fieldOf, pyGet, entry]

theorem earnAdd_ok {a b out : Decimal} (added : checked (a.add earnContext b) = .ok out)
    (lowA : -30 ≤ a.exp) (lowB : -30 ≤ b.exp) (bound : |a.value + b.value| < (10 : ℚ) ^ (70 : ℤ)) :
    out.value = a.value + b.value ∧ -30 ≤ out.exp := by
  obtain ⟨exact, computed, value, low⟩ := Decimal.add_exact earnContext a b (-30) 70 lowA lowB bound
    (by decide) (by decide) (by decide) (by decide)
  obtain rfl : exact = out := Option.some.inj (computed.symm.trans (checked_ok added))
  exact ⟨value, low⟩

structure Amount (d : Decimal) : Prop where
  low : -30 ≤ d.exp
  bound : |d.value| ≤ 10 ^ 30

theorem amount_ok {signed : Bool} {value : Value} {d : Decimal}
    (success : amount earnContext signed value = .ok d) :
    Amount d ∧ quantityOf value = d.value ∧ (signed = false → 0 ≤ d.value) := by
  cases value with
  | str s =>
    obtain ⟨-, success⟩ := require_bind success
    split at success
    case h_2 => cases success
    case h_1 result readable =>
      obtain ⟨sign, success⟩ := require_bind success
      obtain ⟨magnitude, shown, success⟩ := bind_ok success
      obtain ⟨limits, success⟩ := require_bind success
      cases success
      simp only [Bool.and_eq_true, Decimal.le_iff, decide_eq_true_eq] at limits
      refine ⟨⟨limits.2, ?_⟩, by simp [quantityOf, readable], ?_⟩
      · have limit : (⟨false, 1, 30⟩ : Decimal).value = 10 ^ 30 := by
          norm_num [Decimal.value, Decimal.signed]
        rw [limit] at limits
        exact Decimal.abs_value_le (checked_ok shown) limits.2 (by decide) (by decide) (by decide)
          (by decide) (by decide) (by decide) limits.1 (by norm_num : (10 : ℚ) ^ 30 < 10 ^ (70 : ℤ))
      · intro unsigned
        have notBelow : ¬ d.lt .zero = true := by simpa [unsigned] using sign
        rwa [Decimal.lt_iff, Decimal.value_zero, not_lt] at notBelow
  | _ => cases success

/-- An amount read back from its own text is the printed decimal. -/
theorem amount_print {signed : Bool} {v d : Decimal}
    (success : amount earnContext signed (.str (String.ofList (NumberText.print v))) = .ok d) :
    d = v := by
  obtain ⟨-, success⟩ := require_bind success
  rw [decimalOfText, String.toList_ofList, NumberText.readDecimal_print] at success
  dsimp only at success
  split at success
  case h_2 => cases success
  case h_1 result readable =>
    split at readable
    case isFalse => cases readable
    case isTrue =>
      cases readable
      obtain ⟨-, success⟩ := require_bind success
      obtain ⟨magnitude, -, success⟩ := bind_ok success
      obtain ⟨-, success⟩ := require_bind success
      cases success
      rfl

theorem amount_nonneg {value : Value} {d : Decimal}
    (success : amount earnContext false value = .ok d) : 0 ≤ d.value := (amount_ok success).2.2 rfl

/-- `observed = new - old` of two unsigned amounts. -/
theorem earnSub_ok {a b out : Decimal} (subtracted : checked (a.sub earnContext b) = .ok out)
    (ofA : Amount a) (ofB : Amount b) : out.value = a.value - b.value ∧ -30 ≤ out.exp := by
  have size : |a.value - b.value| < (10 : ℚ) ^ (70 : ℤ) := by
    calc |a.value - b.value| ≤ |a.value| + |b.value| := abs_sub a.value b.value
      _ ≤ 10 ^ 30 + 10 ^ 30 := add_le_add ofA.bound ofB.bound
      _ < (10 : ℚ) ^ (70 : ℤ) := by norm_num
  have shown := earnAdd_ok subtracted ofA.low ofB.low (by simpa [sub_eq_add_neg] using size)
  simpa [sub_eq_add_neg] using shown

/-- The reward counter of a product. -/
def counterOf (products : Value) (product : String) : ℚ :=
  quantityOf (fieldOf (fieldOf products product) "realtime_rewards")

theorem rewardIncrease_ok {newProducts : Value} {entries : List (String × Value)}
    {reward out : Decimal} (success : rewardIncrease newProducts entries reward = .ok out)
    (low : -30 ≤ reward.exp) (nonneg : 0 ≤ reward.value)
    (bound : reward.value + entries.length * 10 ^ 30 ≤ 10 ^ 33) :
    out.value = reward.value + (entries.map fun e =>
        counterOf newProducts e.1 - quantityOf (fieldOf e.2 "realtime_rewards")).sum
      ∧ -30 ≤ out.exp ∧ 0 ≤ out.value ∧ out.value ≤ reward.value + entries.length * 10 ^ 30 := by
  induction entries generalizing reward with
  | nil =>
    cases success
    simp [low, nonneg]
  | cons entry rest ih =>
    obtain ⟨product, before⟩ := entry
    obtain ⟨after, atProduct, success⟩ := bind_ok success
    obtain ⟨oldFlag, -, success⟩ := bind_ok success
    obtain ⟨newFlag, -, success⟩ := bind_ok success
    obtain ⟨-, success⟩ := require_bind success
    obtain ⟨newText, newField, success⟩ := bind_ok success
    obtain ⟨newCounter, newRead, success⟩ := bind_ok success
    obtain ⟨oldText, oldField, success⟩ := bind_ok success
    obtain ⟨oldCounter, oldRead, success⟩ := bind_ok success
    obtain ⟨delta, subtracted, success⟩ := bind_ok success
    obtain ⟨rising, success⟩ := require_bind success
    obtain ⟨next, added, success⟩ := bind_ok success
    obtain ⟨newOk, newIs, -⟩ := amount_ok newRead
    obtain ⟨oldOk, oldIs, -⟩ := amount_ok oldRead
    obtain ⟨deltaIs, deltaLow⟩ := earnSub_ok subtracted newOk oldOk
    have deltaNonneg : 0 ≤ delta.value := by
      have notBelow : ¬ delta.lt .zero = true := by simpa using rising
      rwa [Decimal.lt_iff, Decimal.value_zero, not_lt] at notBelow
    have deltaBound : delta.value ≤ 10 ^ 30 := by
      have := (abs_le.mp newOk.bound).2
      have := amount_nonneg oldRead
      linarith
    simp only [List.length_cons, Nat.cast_add, Nat.cast_one] at bound ⊢
    have restNonneg : (0 : ℚ) ≤ rest.length * 10 ^ 30 := by positivity
    obtain ⟨nextIs, nextLow⟩ := earnAdd_ok added low deltaLow (by
      rw [abs_of_nonneg (add_nonneg nonneg deltaNonneg)]
      have : (10 : ℚ) ^ 33 < 10 ^ (70 : ℤ) := by norm_num
      linarith)
    obtain ⟨outIs, outLow, outNonneg, outBound⟩ := ih success nextLow
      (by rw [nextIs]; exact add_nonneg nonneg deltaNonneg) (by rw [nextIs]; linarith)
    have step : counterOf newProducts product - quantityOf (fieldOf before "realtime_rewards")
        = delta.value := by
      rw [counterOf, fieldOf_item atProduct, fieldOf_item newField, fieldOf_item oldField, newIs,
        oldIs, deltaIs]
    refine ⟨?_, outLow, outNonneg, by linarith⟩
    rw [List.map_cons, List.sum_cons, step, outIs, nextIs, add_assoc]

/-- The names under a mapping. -/
def namesIn (value : Value) : Finset String :=
  match value with
  | .dict d => d.keys.toFinset
  | _ => ∅

theorem assetKeys_ok {value : Value} {keys : List String} (success : assetKeys value = .ok keys) :
    ∃ d, value = .dict d ∧ keys = d.keys := by
  cases value with
  | dict d =>
    cases success
    exact ⟨d, rfl, rfl⟩
  | _ => cases success

theorem namesIn_eq {d e : Document} (same : sameKeySet d.keys e.keys = true) :
    namesIn (.dict d) = namesIn (.dict e) := by
  ext name
  simpa [namesIn] using sameKeySet_iff.mp same name

/-- An asset whose two rows compare: its quantity moved by the increase of its reward
counters and the verified change. -/
theorem compareAsset_ok {old new verified : Value} {accrual : Decimal}
    (success : compareAsset old new verified = .ok accrual)
    (few : (namesIn (fieldOf old "products")).card < 100) :
    namesIn (fieldOf old "products") = namesIn (fieldOf new "products")
      ∧ ∃ change, amount earnContext true verified = .ok change ∧ quantityOf (fieldOf new "quantity") - quantityOf (fieldOf old "quantity")
        = ∑ product ∈ namesIn (fieldOf old "products"),
            (counterOf (fieldOf new "products") product - counterOf (fieldOf old "products") product)
          + change.value := by
  obtain ⟨oldProducts, oldField, success⟩ := bind_ok success
  obtain ⟨newProducts, newField, success⟩ := bind_ok success
  obtain ⟨oldKeys, oldIsMapping, success⟩ := bind_ok success
  obtain ⟨newKeys, newIsMapping, success⟩ := bind_ok success
  obtain ⟨same, success⟩ := require_bind success
  obtain ⟨products, mapping, success⟩ := bind_ok success
  obtain ⟨reward, counted, success⟩ := bind_ok success
  obtain ⟨newText, newQuantityField, success⟩ := bind_ok success
  obtain ⟨newQuantity, newRead, success⟩ := bind_ok success
  obtain ⟨oldText, oldQuantityField, success⟩ := bind_ok success
  obtain ⟨oldQuantity, oldRead, success⟩ := bind_ok success
  obtain ⟨observed, subtracted, success⟩ := bind_ok success
  obtain ⟨change, changeRead, success⟩ := bind_ok success
  obtain ⟨expected, added, success⟩ := bind_ok success
  obtain ⟨equal, -⟩ := require_bind success
  obtain rfl := asMapping_ok mapping
  obtain ⟨_, rfl, rfl⟩ := assetKeys_ok newIsMapping
  cases oldIsMapping
  rw [fieldOf_item oldField] at few ⊢
  rw [fieldOf_item newField, fieldOf_item newQuantityField, fieldOf_item oldQuantityField]
  refine ⟨namesIn_eq same, change, changeRead, ?_⟩
  have count : (products.items.length : ℚ) ≤ 100 := by
    have card : (namesIn (.dict products)).card = products.items.length := by
      rw [namesIn, List.toFinset_card_of_nodup products.keys_nodup, Dict.length_keys]
    exact_mod_cast (card ▸ few).le
  obtain ⟨rewardIs, rewardLow, rewardNonneg, rewardBound⟩ := rewardIncrease_ok counted (by decide)
    (by simp) (by simp only [Decimal.value_zero]; linarith)
  obtain ⟨newOk, newIs, -⟩ := amount_ok newRead
  obtain ⟨oldOk, oldIs, -⟩ := amount_ok oldRead
  obtain ⟨changeOk, -, -⟩ := amount_ok changeRead
  obtain ⟨observedIs, -⟩ := earnSub_ok subtracted newOk oldOk
  obtain ⟨expectedIs, -⟩ := earnAdd_ok added rewardLow changeOk.low (by
    rw [Decimal.value_zero] at rewardBound
    have := abs_le.mp changeOk.bound
    have : (10 : ℚ) ^ 33 < 10 ^ (70 : ℤ) := by norm_num
    rw [abs_lt]
    constructor <;> linarith)
  rw [Decimal.eqv_iff, observedIs, expectedIs, rewardIs] at equal
  rw [newIs, oldIs, equal, Decimal.value_zero, zero_add]
  congr 1
  rw [namesIn, List.sum_toFinset _ products.keys_nodup, Dict.keys, List.map_map]
  congr 1
  refine List.map_congr_left fun entry member => ?_
  have stored := (products.mem_items entry.1 entry.2).mp member
  simp [counterOf, fieldOf, pyGet, stored]

/-! ### A checkpoint's quantities -/

def assetsIn (checkpoint : Value) : Finset String := namesIn (fieldOf checkpoint "assets")

def rowIn (checkpoint : Value) (asset : String) : Value :=
  fieldOf (fieldOf checkpoint "assets") asset

def quantityIn (checkpoint : Value) (asset : String) : ℚ :=
  quantityOf (fieldOf (rowIn checkpoint asset) "quantity")

def productsIn (checkpoint : Value) (asset : String) : Finset String :=
  namesIn (fieldOf (rowIn checkpoint asset) "products")

def counterIn (checkpoint : Value) (asset product : String) : ℚ :=
  counterOf (fieldOf (rowIn checkpoint asset) "products") product

/-- The increases of an asset's reward counters between two checkpoints. -/
def rewardsBetween (first last : Value) (asset : String) : ℚ :=
  ∑ product ∈ productsIn first asset, (counterIn last asset product - counterIn first asset product)

theorem mem_namesIn {d : Document} {name : String} :
    name ∈ namesIn (.dict d) ↔ ∃ value, d.get? name = some value := by
  rw [namesIn, List.mem_toFinset, Dict.mem_keys, Option.isSome_iff_exists]

theorem validateAssets_mem {entries : List (String × Value)}
    (success : validateAssets entries = .ok ()) :
    ∀ entry ∈ entries, validateAsset entry.1 entry.2 = .ok () := by
  induction entries with
  | nil => simp
  | cons entry rest ih =>
    obtain ⟨⟨⟩, head, success⟩ := bind_ok success
    intro other member
    rcases List.mem_cons.mp member with rfl | inRest
    · exact head
    · exact ih success other inRest

theorem validateAsset_few {asset : String} {row : Value} (success : validateAsset asset row = .ok ()) :
    (namesIn (fieldOf row "products")).card < 100 := by
  obtain ⟨-, success⟩ := require_bind success
  obtain ⟨fields, mapping, success⟩ := bind_ok success
  obtain ⟨products, isMapping, success⟩ := bind_ok success
  obtain ⟨few, -⟩ := require_bind success
  obtain rfl := asMapping_ok mapping
  rw [fieldOf, asMapping_ok isMapping, namesIn, List.toFinset_card_of_nodup products.keys_nodup]
  simpa using few

/-! ### The next state -/

theorem creditAsset_ok {verified out : Dict String Decimal} {asset : String} {added : Decimal}
    (success : creditAsset earnContext verified asset added = .ok out) :
    ∃ before after, verified.get? asset = some before
      ∧ checked (before.add earnContext added) = .ok after ∧ out = verified.set asset after := by
  unfold creditAsset at success
  split at success
  case h_1 => cases success
  case h_2 before found =>
    obtain ⟨after, computed, rfl⟩ := map_ok success
    exact ⟨before, after, found, computed, rfl⟩

/-- The accounted changes, entry by entry. -/
theorem netAmounts_ok {net : Document} {assets : List String} {accounted : List (String × Decimal)}
    (success : assets.mapM (netAmount net) = .ok accounted) {asset : String} (member : asset ∈ assets) :
    ∃ d, (⟨accounted⟩ : Dict String Decimal).get? asset = some d
      ∧ amount earnContext true (pyGet net asset) = .ok d := by
  have paired := mapM_ok success
  clear success
  induction paired with
  | nil => cases member
  | cons head _ ih =>
    obtain ⟨value, found, read⟩ := bind_ok head
    obtain ⟨d, amountRead, same⟩ := bind_ok read
    cases same
    simp only [Dict.get?, Dict.find]
    split
    case isTrue equal =>
      subst equal
      have field : pyGet net _ = value := fieldOf_item found
      exact ⟨d, rfl, field ▸ amountRead⟩
    case isFalse other =>
      rcases List.mem_cons.mp member with rfl | inRest
      · exact absurd rfl other
      · exact ih inRest

theorem get?_netTexts (verified : Dict String Decimal) (asset : String) :
    (netTexts verified).get? asset
      = (verified.get? asset).map fun d => .str (String.ofList (NumberText.print d)) := by
  rw [← verified.find_items, ← Dict.find_map]
  rfl

/-- An amount credited to one asset, seen from any asset. -/
theorem creditAsset_value {verified out : Dict String Decimal} {target : String} {added : Decimal}
    (success : creditAsset earnContext verified target added = .ok out) (ofAdded : Amount added)
    {asset : String} {before : Decimal} (found : verified.get? asset = some before)
    (low : -30 ≤ before.exp) (bound : |before.value| ≤ 10 ^ 31) :
    ∃ after, out.get? asset = some after ∧ -30 ≤ after.exp
      ∧ after.value = before.value + if asset = target then added.value else 0 := by
  obtain ⟨old, new, atTarget, computed, rfl⟩ := creditAsset_ok success
  by_cases same : asset = target
  · subst same
    obtain rfl : before = old := Option.some.inj (found.symm.trans atTarget)
    obtain ⟨value, newLow⟩ := earnAdd_ok computed low ofAdded.low (by
      have := abs_add_le before.value added.value
      have := ofAdded.bound
      have : (10 : ℚ) ^ 31 + 10 ^ 30 < 10 ^ (70 : ℤ) := by norm_num
      linarith)
    exact ⟨new, Dict.get?_set_self _ _ _, newLow, by rw [value, if_pos rfl]⟩
  · exact ⟨before, by rw [Dict.get?_set_ne _ _ same, found], low, by rw [if_neg same, add_zero]⟩

theorem verifiedNetChanges_ok {accounted : List (String × Decimal)} {principal dividend : Decimal}
    {verified : Dict String Decimal}
    (success : verifiedNetChanges accounted principal dividend = .ok verified)
    (ofPrincipal : Amount principal) (ofDividend : Amount dividend) {asset : String} {d : Decimal}
    (found : (⟨accounted⟩ : Dict String Decimal).get? asset = some d) (ofD : Amount d) :
    ∃ v, verified.get? asset = some v
      ∧ v.value = d.value + (if asset = "USDT" then principal.value else 0)
        + if asset = "BNB" then dividend.value else 0 := by
  obtain ⟨withPrincipal, credited, success⟩ := bind_ok success
  obtain ⟨v, atAsset, low, value⟩ := creditAsset_value credited ofPrincipal found ofD.low
    (ofD.bound.trans (by norm_num))
  split at success
  case isTrue nothing =>
    cases success
    rw [Decimal.eqv_iff, Decimal.value_zero] at nothing
    exact ⟨v, atAsset, by simp [value, nothing]⟩
  case isFalse =>
    obtain ⟨-, success⟩ := require_bind success
    have bound : |v.value| ≤ 10 ^ 31 := by
      have := ofD.bound
      have := ofPrincipal.bound
      rw [value]
      split
      · exact (abs_add_le _ _).trans (by linarith)
      · rw [add_zero]
        linarith
    obtain ⟨w, atW, -, valueW⟩ := creditAsset_value success ofDividend atAsset low bound
    exact ⟨w, atW, by rw [valueW, value]⟩

def principalOf (cashFlows : Document) : ℚ :=
  quantityOf (pyGet cashFlows "new_deposit_principal_usdt")

def dividendOf (cashFlows : Document) : ℚ :=
  quantityOf ((cashFlows.get? "bnb_dividend_quantity").getD (.str "0"))

theorem checkCashFlows_ok {previous : Value} {cutoff : Instant} {cashFlows : Document}
    {principal dividend : Decimal}
    (success : checkCashFlows previous cutoff cashFlows = .ok (principal, dividend)) :
    (Amount principal ∧ principalOf cashFlows = principal.value)
      ∧ Amount dividend ∧ dividendOf cashFlows = dividend.value := by
  obtain ⟨confirmed, -, success⟩ := bind_ok success
  obtain ⟨unsupported, -, success⟩ := bind_ok success
  obtain ⟨withdrawals, -, success⟩ := bind_ok success
  obtain ⟨-, success⟩ := require_bind success
  obtain ⟨text, field, success⟩ := bind_ok success
  obtain ⟨readPrincipal, principalRead, success⟩ := bind_ok success
  obtain ⟨readDividend, dividendRead, success⟩ := bind_ok success
  obtain ⟨completed, -, success⟩ := bind_ok success
  obtain ⟨principalOk, principalIs, -⟩ := amount_ok principalRead
  obtain ⟨dividendOk, dividendIs, -⟩ := amount_ok dividendRead
  split at success
  case h_2 => cases success
  obtain ⟨-, success⟩ := require_bind success
  obtain ⟨previousText, -, success⟩ := bind_ok success
  obtain ⟨previousAt, -, success⟩ := bind_ok success
  obtain ⟨outside, -, success⟩ := bind_ok success
  obtain ⟨-, success⟩ := require_bind success
  cases success
  have shown : pyGet cashFlows "new_deposit_principal_usdt" = text := fieldOf_item field
  exact ⟨⟨principalOk, by rw [principalOf, shown, principalIs]⟩, dividendOk, dividendIs⟩

section Spec
variable [CharacterTable]

theorem validate_few {checkpoint : Value} (success : validate checkpoint = .ok ()) {asset : String}
    (managed : asset ∈ assetsIn checkpoint) : (productsIn checkpoint asset).card < 100 := by
  obtain ⟨fields, mapping, success⟩ := bind_ok success
  obtain ⟨-, success⟩ := require_bind success
  obtain ⟨-, success⟩ := require_bind success
  obtain ⟨observedAt, -, success⟩ := bind_ok success
  obtain ⟨assets, isMapping, success⟩ := bind_ok success
  obtain ⟨-, success⟩ := require_bind success
  have valid := validateAssets_mem success
  obtain rfl := asMapping_ok mapping
  have shape : fieldOf (.dict fields) "assets" = .dict assets := asMapping_ok isMapping
  rw [assetsIn, shape] at managed
  obtain ⟨row, stored⟩ := mem_namesIn.mp managed
  have few := validateAsset_few (valid (asset, row) ((assets.mem_items asset row).mpr stored))
  have found : rowIn (.dict fields) asset = row := by
    rw [rowIn, shape]
    simp [fieldOf, pyGet, stored]
  rwa [productsIn, found]

omit [CharacterTable] in
theorem compareAssets_mem {newAssets verified : Value} {entries accrual : List (String × Value)}
    (success : compareAssets newAssets verified entries = .ok accrual) :
    ∀ entry ∈ entries, ∃ new change reward, item newAssets entry.1 = .ok new
      ∧ item verified entry.1 = .ok change ∧ compareAsset entry.2 new change = .ok reward := by
  induction entries generalizing accrual with
  | nil => simp
  | cons entry rest ih =>
    obtain ⟨new, atNew, success⟩ := bind_ok success
    obtain ⟨change, atChange, success⟩ := bind_ok success
    obtain ⟨reward, compared, success⟩ := bind_ok success
    obtain ⟨others, compareRest, -⟩ := bind_ok success
    intro other member
    rcases List.mem_cons.mp member with rfl | inRest
    · exact ⟨new, change, reward, atNew, atChange, compared⟩
    · exact ih compareRest other inRest

/-- What two compared checkpoints share, and how every quantity moved. -/
theorem compareEarnCheckpoints_ok {previous current verified : Value} {result : Document}
    (success : compareEarnCheckpoints previous current verified = .ok result) :
    assetsIn previous = assetsIn current
      ∧ ∀ asset ∈ assetsIn previous, productsIn previous asset = productsIn current asset
        ∧ ∃ change, amount earnContext true (fieldOf verified asset) = .ok change
          ∧ quantityIn current asset - quantityIn previous asset
            = rewardsBetween previous current asset + change.value := by
  obtain ⟨⟨⟩, valid, success⟩ := bind_ok success
  obtain ⟨⟨⟩, -, success⟩ := bind_ok success
  obtain ⟨oldScope, -, success⟩ := bind_ok success
  obtain ⟨newScope, -, success⟩ := bind_ok success
  obtain ⟨-, success⟩ := require_bind success
  obtain ⟨oldAssets, oldField, success⟩ := bind_ok success
  obtain ⟨newAssets, newField, success⟩ := bind_ok success
  obtain ⟨oldKeys, oldIsMapping, success⟩ := bind_ok success
  obtain ⟨newKeys, newIsMapping, success⟩ := bind_ok success
  obtain ⟨same, success⟩ := require_bind success
  obtain ⟨oldText, -, success⟩ := bind_ok success
  obtain ⟨oldTime, -, success⟩ := bind_ok success
  obtain ⟨newText, -, success⟩ := bind_ok success
  obtain ⟨newTime, -, success⟩ := bind_ok success
  obtain ⟨-, success⟩ := require_bind success
  obtain ⟨changes, -, success⟩ := bind_ok success
  obtain ⟨changeKeys, -, success⟩ := bind_ok success
  obtain ⟨-, success⟩ := require_bind success
  obtain ⟨old, mapping, success⟩ := bind_ok success
  obtain ⟨accrual, compared, -⟩ := bind_ok success
  obtain rfl := asMapping_ok mapping
  obtain ⟨new, rfl, rfl⟩ := assetKeys_ok newIsMapping
  cases oldIsMapping
  refine ⟨?_, ?_⟩
  · rw [assetsIn, assetsIn, fieldOf_item oldField, fieldOf_item newField, namesIn_eq same]
  · intro asset managed
    have few := validate_few valid managed
    rw [assetsIn, fieldOf_item oldField] at managed
    obtain ⟨oldRow, stored⟩ := mem_namesIn.mp managed
    obtain ⟨newRow, change, reward, atNew, atChange, moved⟩ :=
      compareAssets_mem compared (asset, oldRow) ((old.mem_items asset oldRow).mpr stored)
    have oldIs : rowIn previous asset = oldRow := by
      rw [rowIn, fieldOf_item oldField]
      simp [fieldOf, pyGet, stored]
    have newIs : rowIn current asset = newRow := by
      rw [rowIn, fieldOf_item newField, fieldOf_item atNew]
    rw [productsIn, oldIs] at few
    have law := compareAsset_ok moved few
    simp only [productsIn, quantityIn, rewardsBetween, counterIn, oldIs, newIs, fieldOf_item atChange]
    exact law

/-- The step from one checkpoint to the next: every quantity moved by its rewards,
the accounted changes and the flows; the net changes start again from zero. -/
theorem prepareForwardEarnState_ok {state next : Document} {current : Value} {cashFlows : Document}
    (success : prepareForwardEarnState state current cashFlows = .ok next) :
    ∃ previous net, state.get? "earn_accrual_checkpoint" = some previous
      ∧ state.get? "earn_accounted_net_changes" = some (.dict net)
      ∧ next.get? "earn_accrual_checkpoint" = some current
      ∧ (∃ zeros, next.get? "earn_accounted_net_changes" = some (.dict zeros)
        ∧ ∀ asset value, zeros.get? asset = some value → value = .str "0")
      ∧ assetsIn previous = assetsIn current
      ∧ ∀ asset ∈ assetsIn previous, productsIn previous asset = productsIn current asset
        ∧ ∃ accounted, amount earnContext true (pyGet net asset) = .ok accounted
          ∧ quantityIn current asset - quantityIn previous asset
            = rewardsBetween previous current asset + accounted.value
              + (if asset = "USDT" then principalOf cashFlows else 0)
              + if asset = "BNB" then dividendOf cashFlows else 0 := by
  obtain ⟨previous, stored, success⟩ := bind_ok success
  obtain ⟨⟨⟩, -, success⟩ := bind_ok success
  obtain ⟨⟨⟩, -, success⟩ := bind_ok success
  obtain ⟨⟨⟩, -, success⟩ := bind_ok success
  obtain ⟨assets, assetsField, success⟩ := bind_ok success
  obtain ⟨keys, assetKeysOk, success⟩ := bind_ok success
  obtain ⟨net, netMapping, success⟩ := bind_ok success
  obtain ⟨-, success⟩ := require_bind success
  obtain ⟨snapshot, -, success⟩ := bind_ok success
  obtain ⟨-, success⟩ := require_bind success
  obtain ⟨accounted, accountedOk, success⟩ := bind_ok success
  obtain ⟨currentText, -, success⟩ := bind_ok success
  obtain ⟨cutoff, -, success⟩ := bind_ok success
  obtain ⟨oldCursor, -, success⟩ := bind_ok success
  obtain ⟨newCursor, -, success⟩ := bind_ok success
  obtain ⟨oldCursorAt, -, success⟩ := bind_ok success
  obtain ⟨previousText, -, success⟩ := bind_ok success
  obtain ⟨previousAt, -, success⟩ := bind_ok success
  obtain ⟨-, success⟩ := require_bind success
  obtain ⟨newCursorAt, -, success⟩ := bind_ok success
  obtain ⟨-, success⟩ := require_bind success
  obtain ⟨⟨principal, dividend⟩, flows, success⟩ := bind_ok success
  obtain ⟨verified, verifiedOk, success⟩ := bind_ok success
  obtain ⟨result, compared, success⟩ := bind_ok success
  obtain ⟨withPrincipal, -, success⟩ := bind_ok success
  obtain ⟨newAssets, -, success⟩ := bind_ok success
  obtain ⟨newMapping, -, success⟩ := bind_ok success
  obtain ⟨balances, -, success⟩ := bind_ok success
  have nextIs := (Except.ok.inj success).symm
  obtain ⟨sameAssets, moved⟩ := compareEarnCheckpoints_ok compared
  obtain ⟨⟨principalOk, principalIs⟩, dividendOk, dividendIs⟩ := checkCashFlows_ok flows
  obtain ⟨held, rfl, rfl⟩ := assetKeys_ok assetKeysOk
  obtain ⟨_, ⟨⟩, checkpointAt⟩ := item_ok stored
  have netAt : state.get? "earn_accounted_net_changes" = some (.dict net) := by
    have shape := asMapping_ok netMapping
    rw [pyGet] at shape
    cases entry : state.get? "earn_accounted_net_changes" with
    | none => simp [entry] at shape
    | some value => simpa [entry] using shape
  refine ⟨previous, net, checkpointAt, netAt, by simp [nextIs, Dict.get?_set],
    ⟨_, by simp [nextIs, Dict.get?_set]; rfl, ?_⟩, sameAssets, ?_⟩
  · intro asset value zero
    obtain ⟨name, -, entry⟩ := List.mem_map.mp (Dict.mem_of_find zero)
    exact (congrArg Prod.snd entry).symm
  · intro asset managed
    obtain ⟨sameProducts, change, changeRead, law⟩ := moved asset managed
    have member : asset ∈ held.keys := by
      rwa [assetsIn, fieldOf_item assetsField, namesIn, List.mem_toFinset] at managed
    obtain ⟨d, found, read⟩ := netAmounts_ok accountedOk member
    obtain ⟨v, atAsset, value⟩ :=
      verifiedNetChanges_ok verifiedOk principalOk dividendOk found (amount_ok read).1
    have text : fieldOf (.dict (netTexts verified)) asset
        = .str (String.ofList (NumberText.print v)) := by
      simp [fieldOf, pyGet, get?_netTexts, atAsset]
    rw [text] at changeRead
    obtain rfl := amount_print changeRead
    refine ⟨sameProducts, d, read, ?_⟩
    rw [law, value, principalIs, dividendIs]
    ring

end Spec
end BinancePlatform.Source
