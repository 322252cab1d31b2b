import BinancePlatform.Source.EarnAccrual
import BinancePlatform.Source.OrderSubmission

/-!
# Accounting of a known fill

`_known_fill_is_complete` and `account_known_fill_for_earn` of `runtime_support.py`.
Completeness is checked in the default context, the accounted quantities are added
in the local context of 100 digits.
-/

set_option autoImplicit false

namespace BinancePlatform.Source
open BinancePlatform.Library

def fillAccountingUnverified : PyException :=
  ⟨.executionIntegrityError, "earn_fill_accounting_unverified"⟩

section Fill
variable [CharacterTable]

/-- `Decimal(str(mapping[key]))`, when it exists and is finite. -/
def finiteField (mapping : Document) (key : String) : Option Decimal :=
  match (mapping.get? key).map Value.toDecimal with
  | some (.ok (.finite d)) => some d
  | _ => none

/-- `str(fill.get("commission_asset") or "").upper()`. -/
def feeAsset (fill : Document) : String := upperText (textOrEmpty fill "commission_asset")

/-- The loop over the fills; `none` is `return False`. -/
def fillTotals (allowed : List String) : List Value → Decimal → Decimal →
    Except PyException (Option (Decimal × Decimal))
  | [], quantity, quote => .ok (some (quantity, quote))
  | .dict fill :: rest, quantity, quote =>
    match finiteField fill "price", finiteField fill "qty", finiteField fill "commission" with
    | some price, some qty, some commission =>
      if Decimal.zero.lt price && Decimal.zero.lt qty && Decimal.zero.le commission
          && feeAsset fill ∈ allowed then do
        let quantity ← checked (quantity.add defaultContext qty)
        let cost ← checked (price.mul defaultContext qty)
        let quote ← checked (quote.add defaultContext cost)
        fillTotals allowed rest quantity quote
      else .ok none
    | _, _, _ => .ok none
  | _ :: _, _, _ => .ok none

/-- `abs(total - stated) <= max(1e-8, stated * 1e-8)`. -/
def withinTolerance (total stated : Decimal) : Except PyException Bool := do
  let tolerance : Decimal := ⟨false, 1, -8⟩
  let difference ← checked (total.sub defaultContext stated)
  let magnitude ← checked (difference.abs defaultContext)
  let relative ← checked (stated.mul defaultContext tolerance)
  return magnitude.le (if tolerance.lt relative then relative else tolerance)

def knownFillIsComplete (allowed : List String) : Value → Except PyException Bool
  | .dict knownFill =>
    match finiteField knownFill "executed_qty", finiteField knownFill "cummulative_quote_qty",
        pyGet knownFill "commissions" with
    | some executed, some quote, .list fills =>
      if Decimal.zero.lt executed && Decimal.zero.lt quote && !fills.isEmpty then do
        match ← fillTotals allowed fills .zero .zero with
        | none => return false
        | some (fillQuantity, fillQuote) => do
          if ← withinTolerance fillQuantity executed then withinTolerance fillQuote quote
          else return false
      else .ok false
    | _, _, _ => .ok false
  | _ => .ok false

/-- `set(value)` of a checkpoint's assets; a member that is no text is never a key. -/
def assetNames : Value → Option (List String)
  | .dict d => some d.keys
  | .list items => items.mapM fun | .str s => some s | _ => none
  | _ => none

/-- `updated[asset] -= _amount(item["commission"])` for every item. -/
def chargeCommissions : List Value → Dict String Decimal → Except PyException (Dict String Decimal)
  | [], updated => .ok updated
  | fee :: rest, updated => do
    let commission ← amount earnContext false (← item fee "commission")
    match ← item fee "commission_asset" with
    | .str asset => do
      chargeCommissions rest (← creditAsset earnContext updated asset commission.neg)
    | _ => .error keyError

def fillSign (side : Value) : Except PyException Decimal :=
  if side.isStr "BUY" then .ok (.ofInt 1)
  else if side.isStr "SELL" then .ok (.ofInt (-1))
  else .error (valueError "")

/-- The `try` block of `account_known_fill_for_earn`: the new net changes. -/
def accountedNetChanges (state record : Document) : Except PyException Document := do
  let checkpoint ← item (.dict state) "earn_accrual_checkpoint"
  let some assets := assetNames (← item checkpoint "assets") | throw typeError
  let net ← asMapping typeError (← item (.dict state) "earn_accounted_net_changes")
  let .str symbol ← item (.dict record) "symbol" | throw attributeError
  require (sameKeySet net.keys assets && endsWithUSDT symbol && inferBaseAsset symbol ∈ assets)
    (valueError "")
  let knownFill ← item (.dict record) "known_fill"
  let fill ← asMapping attributeError knownFill
  let sign ← fillSign (pyGet fill "side")
  require (← knownFillIsComplete assets knownFill) (valueError "")
  let accounted ← assets.mapM (netAmount net)
  let executed ← amount earnContext false (← item knownFill "executed_qty")
  let signedQuantity ← checked (sign.mul earnContext executed)
  let updated ← creditAsset earnContext ⟨accounted⟩ (inferBaseAsset symbol) signedQuantity
  let quote ← amount earnContext false (← item knownFill "cummulative_quote_qty")
  let signedQuote ← checked (sign.mul earnContext quote)
  let updated ← creditAsset earnContext updated "USDT" signedQuote.neg
  let .list fees ← item knownFill "commissions" | throw typeError
  let updated ← chargeCommissions fees updated
  return netTexts updated

def accountKnownFillForEarn (state : Document) : Except PyException Document :=
  if state.contains "earn_accrual_checkpoint" then do
    let record ← asMapping attributeError
      ((state.get? orderSubmissionStateKey).getD (.dict .empty))
    if (pyGet record "state").isStr orderSubmissionFilledAccountingPending then
      match accountedNetChanges state record with
      | .ok net => .ok (state.set "earn_accounted_net_changes" (.dict net))
      | .error _ => .error fillAccountingUnverified
    else return state
  else .ok state

end Fill

/-! ## The deltas of a fill -/

def signOf (side : Value) : ℚ := if side.isStr "BUY" then 1 else -1

def symbolOf (record : Document) : String :=
  match pyGet record "symbol" with
  | .str s => s
  | _ => ""

def feesOf (fill : Value) : List Value :=
  match fieldOf fill "commissions" with
  | .list fees => fees
  | _ => []

/-- The commissions of a fill that are paid in an asset. -/
def feeTotal (fees : List Value) (asset : String) : ℚ :=
  (fees.map fun fee => if (fieldOf fee "commission_asset").isStr asset then
    quantityOf (fieldOf fee "commission") else 0).sum

/-- How a known fill changes the quantity of an asset: base, quote and commissions. -/
def fillDelta (record : Document) (asset : String) : ℚ :=
  let fill := pyGet record "known_fill"
  let sign := signOf (fieldOf fill "side")
  (if asset = inferBaseAsset (symbolOf record) then sign * quantityOf (fieldOf fill "executed_qty")
    else 0)
    - (if asset = "USDT" then sign * quantityOf (fieldOf fill "cummulative_quote_qty") else 0)
    - feeTotal (feesOf fill) asset

/-- A running net change: exact, or so far below zero that it stays there and is
never read back as an amount. -/
def Tracks (v : Decimal) (exact : ℚ) : Prop :=
  (v.value = exact ∧ -30 ≤ v.exp ∧ -(10 : ℚ) ^ (60 : ℤ) < v.value ∧ v.value ≤ 10 ^ 32)
    ∨ v.value ≤ -(10 : ℚ) ^ (60 : ℤ)

theorem Amount.neg {d : Decimal} (h : Amount d) : Amount d.neg :=
  ⟨h.low, by rw [Decimal.value_neg, abs_neg]; exact h.bound⟩

theorem Tracks.charge {v commission after : Decimal} {exact : ℚ} (tracks : Tracks v exact)
    (ofCommission : Amount commission) (nonneg : 0 ≤ commission.value)
    (computed : checked (v.add earnContext commission.neg) = .ok after) :
    Tracks after (exact - commission.value) := by
  rcases tracks with ⟨rfl, low, above, below⟩ | far
  · have small := (abs_le.mp ofCommission.bound).2
    have huge : (10 : ℚ) ^ 32 + 10 ^ (60 : ℤ) + 10 ^ 30 < 10 ^ (70 : ℤ) := by norm_num
    have tiny : (0 : ℚ) < 10 ^ 32 := by norm_num
    obtain ⟨value, afterLow⟩ := earnAdd_ok computed low ofCommission.neg.low (by
      rw [Decimal.value_neg, abs_lt]
      constructor <;> linarith)
    rw [Decimal.value_neg, ← sub_eq_add_neg] at value
    by_cases still : -(10 : ℚ) ^ (60 : ℤ) < after.value
    · exact .inl ⟨value, afterLow, still, by linarith⟩
    · exact .inr (not_lt.mp still)
  · refine .inr (Decimal.add_le_neg_pow (checked_ok computed) ?_ (by decide) (by decide))
    rw [Decimal.value_neg]
    linarith

theorem chargeCommissions_ok {fees : List Value} {updated out : Dict String Decimal}
    (success : chargeCommissions fees updated = .ok out) {asset : String} {v : Decimal} {exact : ℚ}
    (found : updated.get? asset = some v) (tracks : Tracks v exact) :
    ∃ w, out.get? asset = some w ∧ Tracks w (exact - feeTotal fees asset) := by
  induction fees generalizing updated v exact with
  | nil =>
    cases success
    exact ⟨v, found, by simpa [feeTotal] using tracks⟩
  | cons fee rest ih =>
    obtain ⟨text, textField, success⟩ := bind_ok success
    obtain ⟨commission, read, success⟩ := bind_ok success
    obtain ⟨target, targetField, success⟩ := bind_ok success
    split at success
    case h_2 => cases success
    case h_1 target =>
      obtain ⟨next, credited, success⟩ := bind_ok success
      obtain ⟨old, new, atTarget, computed, rfl⟩ := creditAsset_ok credited
      obtain ⟨commissionOk, commissionIs, -⟩ := amount_ok read
      have split : feeTotal (fee :: rest) asset
          = (if asset = target then commission.value else 0) + feeTotal rest asset := by
        rw [feeTotal, List.map_cons, List.sum_cons, fieldOf_item targetField, fieldOf_item textField,
          commissionIs, feeTotal]
        congr 1
        exact if_congr (Value.isStr_str target asset) rfl rfl
      rw [split, ← sub_sub]
      by_cases same : asset = target
      · subst same
        obtain rfl : v = old := Option.some.inj (found.symm.trans atTarget)
        rw [if_pos rfl]
        exact ih success (Dict.get?_set_self _ _ _)
          (tracks.charge commissionOk (amount_nonneg read) computed)
      · rw [if_neg same, sub_zero]
        exact ih success (by rw [Dict.get?_set_ne _ _ same, found]) tracks

theorem fillSign_ok {side : Value} {sign : Decimal} (success : fillSign side = .ok sign) :
    sign.value = signOf side ∧ sign.exp = 0 ∧ |sign.value| = 1 := by
  unfold fillSign at success
  split at success
  case isTrue buy =>
    cases success
    refine ⟨?_, rfl, ?_⟩ <;> simp [signOf, buy]
  case isFalse notBuy =>
    split at success
    · obtain rfl := Except.ok.inj success
      refine ⟨?_, rfl, ?_⟩ <;> rw [Decimal.value_ofInt] <;> simp [signOf, notBuy]
    · cases success

/-- A signed quantity is exact. -/
theorem signedQuantity_ok {sign quantity out : Decimal}
    (computed : checked (sign.mul earnContext quantity) = .ok out) (unit : |sign.value| = 1)
    (whole : sign.exp = 0) (ofQuantity : Amount quantity) :
    out.value = sign.value * quantity.value ∧ Amount out := by
  have size : |sign.value * quantity.value| ≤ 10 ^ 30 := by
    rw [abs_mul, unit, one_mul]
    exact ofQuantity.bound
  obtain ⟨exact, product, value, low⟩ := Decimal.mul_exact earnContext sign quantity (-30) 70
    (by rw [whole, zero_add]; exact ofQuantity.low)
    (size.trans_lt (by norm_num)) (by decide) (by decide) (by decide) (by decide)
  obtain rfl : exact = out := Option.some.inj (product.symm.trans (checked_ok computed))
  exact ⟨value, low, value ▸ size⟩

section Spec
variable [CharacterTable]

/-- The new net change of a managed asset, where it can be read as an amount at all. -/
theorem accountedNetChanges_ok {state record net' : Document}
    (success : accountedNetChanges state record = .ok net') :
    ∃ checkpoint net, state.get? "earn_accrual_checkpoint" = some checkpoint
      ∧ state.get? "earn_accounted_net_changes" = some (.dict net)
      ∧ ∀ asset ∈ assetsIn checkpoint, ∀ d', amount earnContext true (pyGet net' asset) = .ok d' →
        ∃ d, amount earnContext true (pyGet net asset) = .ok d
          ∧ d'.value = d.value + fillDelta record asset := by
  obtain ⟨checkpoint, checkpointField, success⟩ := bind_ok success
  obtain ⟨assetsValue, assetsField, success⟩ := bind_ok success
  split at success
  case h_2 => cases success
  case h_1 assets names =>
  obtain ⟨netValue, netField, success⟩ := bind_ok success
  obtain ⟨net, netMapping, success⟩ := bind_ok success
  obtain ⟨symbolValue, symbolField, success⟩ := bind_ok success
  split at success
  case h_2 => cases success
  case h_1 symbol =>
  obtain ⟨-, success⟩ := require_bind success
  obtain ⟨knownFill, fillField, success⟩ := bind_ok success
  obtain ⟨fill, fillMapping, success⟩ := bind_ok success
  obtain ⟨sign, signOk, success⟩ := bind_ok success
  obtain ⟨complete, -, success⟩ := bind_ok success
  obtain ⟨-, success⟩ := require_bind success
  obtain ⟨accounted, accountedOk, success⟩ := bind_ok success
  obtain ⟨executedText, executedField, success⟩ := bind_ok success
  obtain ⟨executed, executedRead, success⟩ := bind_ok success
  obtain ⟨signedQuantity, quantityComputed, success⟩ := bind_ok success
  obtain ⟨withBase, baseCredited, success⟩ := bind_ok success
  obtain ⟨quoteText, quoteField, success⟩ := bind_ok success
  obtain ⟨quote, quoteRead, success⟩ := bind_ok success
  obtain ⟨signedQuote, quoteComputed, success⟩ := bind_ok success
  obtain ⟨withQuote, quoteCredited, success⟩ := bind_ok success
  obtain ⟨feesValue, feesField, success⟩ := bind_ok success
  split at success
  case h_2 => cases success
  case h_1 fees =>
  obtain ⟨charged, chargedOk, success⟩ := bind_ok success
  have net'Is := (Except.ok.inj success).symm
  obtain rfl := asMapping_ok netMapping
  obtain rfl := asMapping_ok fillMapping
  obtain ⟨_, ⟨⟩, checkpointAt⟩ := item_ok checkpointField
  obtain ⟨_, ⟨⟩, netAt⟩ := item_ok netField
  obtain ⟨signIs, signExp, signUnit⟩ := fillSign_ok signOk
  obtain ⟨executedOk, executedIs, -⟩ := amount_ok executedRead
  obtain ⟨quoteOk, quoteIs, -⟩ := amount_ok quoteRead
  obtain ⟨quantityValue, quantityOk⟩ :=
    signedQuantity_ok quantityComputed signUnit signExp executedOk
  obtain ⟨quoteValue, signedQuoteOk⟩ := signedQuantity_ok quoteComputed signUnit signExp quoteOk
  refine ⟨checkpoint, net, checkpointAt, netAt, fun asset managed d' read' => ?_⟩
  have member : asset ∈ assets := by
    rw [assetsIn, fieldOf_item assetsField] at managed
    cases assetsValue with
    | dict d =>
      cases names
      exact List.mem_toFinset.mp managed
    | _ => cases managed
  obtain ⟨d, found, read⟩ := netAmounts_ok accountedOk member
  have dOk := (amount_ok read).1
  obtain ⟨v, atBase, lowBase, valueBase⟩ :=
    creditAsset_value baseCredited quantityOk found dOk.low (dOk.bound.trans (by norm_num))
  have boundBase : |v.value| ≤ 10 ^ 30 + 10 ^ 30 := by
    rw [valueBase]
    refine (abs_add_le _ _).trans (add_le_add dOk.bound ?_)
    split
    · exact quantityOk.bound
    · norm_num
  obtain ⟨w, atQuote, lowQuote, valueQuote⟩ :=
    creditAsset_value quoteCredited signedQuoteOk.neg atBase lowBase
      (boundBase.trans (by norm_num))
  have boundQuote : |w.value| ≤ 10 ^ 30 + 10 ^ 30 + 10 ^ 30 := by
    rw [valueQuote]
    refine (abs_add_le _ _).trans (add_le_add boundBase ?_)
    split
    · exact signedQuoteOk.neg.bound
    · norm_num
  have near : Tracks w w.value := by
    have sides := abs_le.mp boundQuote
    have huge : (10 : ℚ) ^ 30 + 10 ^ 30 + 10 ^ 30 < 10 ^ (60 : ℤ) := by norm_num
    have limit : (10 : ℚ) ^ 30 + 10 ^ 30 + 10 ^ 30 ≤ 10 ^ 32 := by norm_num
    exact .inl ⟨rfl, lowQuote, by linarith, by linarith⟩
  obtain ⟨u, atCharged, tracks⟩ := chargeCommissions_ok chargedOk atQuote near
  have text : pyGet net' asset = .str (String.ofList (NumberText.print u)) := by
    simp [net'Is, pyGet, get?_netTexts, atCharged]
  rw [text] at read'
  obtain rfl := amount_print read'
  have readable := (abs_le.mp (amount_ok read').1.bound).1
  have exact : d'.value = w.value - feeTotal fees asset := by
    rcases tracks with ⟨value, -⟩ | far
    · exact value
    · have huge : (10 : ℚ) ^ 30 < 10 ^ (60 : ℤ) := by norm_num
      linarith
  have fillIs : pyGet record "known_fill" = .dict fill := fieldOf_item fillField
  have symbolIs : symbolOf record = symbol := by
    have field : pyGet record "symbol" = .str symbol := fieldOf_item symbolField
    rw [symbolOf, field]
  have feesIs : feesOf (.dict fill) = fees := by rw [feesOf, fieldOf_item feesField]
  refine ⟨d, read, ?_⟩
  rw [exact, valueQuote, valueBase, fillDelta, fillIs, symbolIs, feesIs, fieldOf_item executedField,
    fieldOf_item quoteField, executedIs, quoteIs, quantityValue, Decimal.value_neg, quoteValue, signIs]
  simp only [fieldOf]
  split <;> split <;> ring

/-- The order-submission record is a fill that awaits its accounting. -/
structure AwaitsAccounting (state record : Document) : Prop where
  recorded : state.get? orderSubmissionStateKey = some (.dict record)
  pending : (pyGet record "state").isStr orderSubmissionFilledAccountingPending = true

theorem accountKnownFillForEarn_ok {state record next : Document}
    (success : accountKnownFillForEarn state = .ok next) (awaits : AwaitsAccounting state record)
    (prospective : state.contains "earn_accrual_checkpoint" = true) :
    ∃ net', accountedNetChanges state record = .ok net'
      ∧ next = state.set "earn_accounted_net_changes" (.dict net') := by
  rw [accountKnownFillForEarn, if_pos prospective, awaits.recorded] at success
  obtain ⟨read, shown, success⟩ := bind_ok success
  cases shown
  rw [if_pos awaits.pending] at success
  split at success
  case h_1 net' accounted => exact ⟨net', accounted, (Except.ok.inj success).symm⟩
  case h_2 => cases success

end Spec
end BinancePlatform.Source
