import BinancePlatform.Source.DecimalText
import BinancePlatform.Source.Equality
import BinancePlatform.Source.OrderSubmission
import BinancePlatform.Source.TimeText
import Mathlib.Data.List.DropRight

/-!
# Account facts

`collect_account_facts` reads Spot, Flexible Earn and the valuation of the wallets into one
payload, which `validate_account_facts_payload` accepts before it is published.
-/

set_option autoImplicit false

namespace BinancePlatform.Source
open BinancePlatform.Library DateTime

/-! ## Texts -/

/-- `s.replace(old, new)`; the first `skip` characters belong to a match. -/
def replaceFrom (old new : List Char) : (skip : ℕ) → List Char → List Char
  | _, [] => []
  | skip + 1, _ :: rest => replaceFrom old new skip rest
  | 0, c :: rest =>
    if old.isPrefixOf (c :: rest) then new ++ replaceFrom old new (old.length - 1) rest
    else c :: replaceFrom old new 0 rest

def replaceText (old new s : String) : String := String.ofList (replaceFrom old.toList new.toList 0 s.toList)

/-- `\d`. -/
def isDigit (c : Char) : Bool := (NumberText.digitOf? c).isSome

namespace AccountFacts

def maxWalletRows : ℕ := 32
def walletValuationCurrency : String := "USDT"
def walletValuationSource : String := "GET /sapi/v1/asset/wallet/balance"
def walletValuationScope : String := "provider_returned_wallet_rows"
def walletValuationFailures : List String :=
  ["wallet_read_failed", "wallet_response_invalid", "wallet_row_invalid", "wallet_duplicate_name",
    "wallet_inactive_nonzero", "wallet_balance_invalid"]

/-- `AccountFactsUnavailable`, a `ValueError`. -/
def fail (code : String) : PyException := valueError ("binance_account_facts_" ++ code)

/-- `_WALLET_DECIMAL`: `(?:0|[1-9]\d{0,29})(?:\.\d{1,30})?`. -/
def walletDecimal (s : String) : Bool :=
  (match s.toList.takeWhile isDigit with
    | [] => false
    | first :: rest => first = '0' && rest.isEmpty || '1' ≤ first && first ≤ '9' && rest.length ≤ 29)
    && match s.toList.dropWhile isDigit with
      | [] => true
      | point :: fraction => point = '.' && fraction.all isDigit && 1 ≤ fraction.length && fraction.length ≤ 30

/-! ## Amounts -/

/-- The digits of a coefficient without the zeros at their end. -/
def trimmedDigits (coeff : ℕ) : List ℕ := (NumberText.decimalDigits coeff).rdropWhile (· = 0)

/-- `Decimal((0, tuple(digits), exponent))`. -/
def normalizedDecimal (d : Decimal) : Decimal :=
  ⟨false, NumberText.ofDigits (trimmedDigits d.coeff),
    d.exp + ((NumberText.decimalDigits d.coeff).length - (trimmedDigits d.coeff).length : ℕ)⟩

/-- `_decimal_text` of a finite decimal. -/
def decimalText (d : Decimal) : Except PyException String :=
  if d.lt .zero then .error (fail "amount_invalid")
  else if d.coeff = 0 then .ok "0"
  else
    let digits := trimmedDigits d.coeff
    if 30 < max 1 (digits.length + (normalizedDecimal d).exp) || 30 < max 0 (-(normalizedDecimal d).exp) then
      .error (fail "amount_invalid")
    else .ok (String.ofList (NumberText.printPlain (normalizedDecimal d)))

/-- `_decimal`. -/
def decimalAmount (value : Value) : Except PyException Decimal :=
  match value with
  | .str text =>
    if text.toList.length = 0 || 80 < text.toList.length then .error (fail "amount_invalid")
    else
      match decimalOfText text with
      | .ok (.finite d) => if d.lt .zero then .error (fail "amount_invalid") else (decimalText d).map fun _ => d
      | _ => .error (fail "amount_invalid")
  | _ => .error (fail "amount_invalid")

/-! ## Times -/

/-- An aware time; `none` has no time zone. -/
abbrev Moment := Option {t : Instant // Representable t}

/-- `_utc_timestamp`. -/
def utcTimestamp : Moment → Except PyException String
  | none => .error (fail "timestamp_invalid")
  | some t => .ok (replaceText "+00:00" "Z" (isoformat t.1))

/-- `_parsed_timestamp`. -/
def parsedTimestamp (value : Value) : Except PyException Instant :=
  match value with
  | .str text =>
    match (fromIsoformat (replaceText "Z" "+00:00" text)).bind Parsed.instant? with
    | some t => if minInstant ≤ t ∧ t < endInstant then .ok t else .error overflowError
    | none => .error (fail "payload_invalid")
  | _ => .error (fail "payload_invalid")

/-! ## The valuation -/

/-- `localcontext()` with `prec = 100`. -/
def walletContext : Decimal.Context := { defaultContext with prec := 100 }

def walletValuationUnavailable (reasonCode : String) : Document :=
  ⟨[("status", .str "unavailable"), ("amount", .none), ("currency", .none), ("source", .str walletValuationSource),
    ("scope", .str walletValuationScope), ("observed_at", .none), ("wallet_count", .none),
    ("reason_code", .str (if reasonCode ∈ walletValuationFailures then reasonCode else "wallet_response_invalid"))]⟩

structure WalletSum where
  names : List String
  total : Decimal

/-- One row of the response; a refusal is a reason code. -/
def walletRow (seen : WalletSum) (row : Value) : Except String WalletSum :=
  match row with
  | .dict row =>
    if !hasExactly row ["activate", "balance", "walletName"] then .error "wallet_row_invalid"
    else
      match pyGet row "walletName", pyGet row "activate" with
      | .str name, .bool active =>
        if strip name = "" || 128 < name.toList.length then .error "wallet_row_invalid"
        else if name ∈ seen.names then .error "wallet_duplicate_name"
        else
          match pyGet row "balance" with
          | .str text =>
            if !walletDecimal text then .error "wallet_balance_invalid"
            else
              match decimalAmount (.str text) with
              | .error _ => .error "wallet_balance_invalid"
              | .ok amount =>
                if amount.coeff ≠ 0 && !active then .error "wallet_inactive_nonzero"
                else
                  match Decimal.add walletContext seen.total amount with
                  | none => .error "wallet_response_invalid"
                  | some total => .ok ⟨name :: seen.names, total⟩
          | _ => .error "wallet_balance_invalid"
      | _, _ => .error "wallet_row_invalid"
  | _ => .error "wallet_row_invalid"

def walletRows (seen : WalletSum) : List Value → Except String WalletSum
  | [] => .ok seen
  | row :: rest => do walletRows (← walletRow seen row) rest

def walletValuationAvailable (amount observedAt : String) (walletCount : ℕ) : Document :=
  ⟨[("status", .str "available"), ("amount", .str amount), ("currency", .str walletValuationCurrency),
    ("source", .str walletValuationSource), ("scope", .str walletValuationScope), ("observed_at", .str observedAt),
    ("wallet_count", .int walletCount)]⟩

def walletValuation (response : Value) (observedAt : Moment) : Document :=
  match response with
  | .list rows =>
    if rows.length < 1 || maxWalletRows < rows.length then walletValuationUnavailable "wallet_response_invalid"
    else
      match walletRows ⟨[], .zero⟩ rows with
      | .error reasonCode => walletValuationUnavailable reasonCode
      | .ok seen =>
        match decimalText seen.total, utcTimestamp observedAt with
        | .ok amount, .ok observed => walletValuationAvailable amount observed rows.length
        | _, _ => walletValuationUnavailable "wallet_response_invalid"
  | _ => walletValuationUnavailable "wallet_response_invalid"

/-! ## The validation -/

def summaryFields : List String :=
  ["status", "amount", "currency", "source", "scope", "observed_at", "wallet_count"]

def validateAvailable (summary : Document) : Except PyException Unit := do
  let invalid := fail "payload_invalid"
  require (hasExactly summary summaryFields && (pyGet summary "currency").isStr walletValuationCurrency) invalid
  match pyGet summary "amount", pyGet summary "wallet_count" with
  | .str amount, .int count => do
    require (1 ≤ count && count ≤ maxWalletRows) invalid
    require (walletDecimal amount) invalid
    let parsed ← decimalAmount (.str amount)
    let text ← decimalText parsed
    require (text = amount) invalid
    let _ ← parsedTimestamp (pyGet summary "observed_at")
    return ()
  | _, _ => throw invalid

def isNone : Value → Bool
  | .none => true
  | _ => false

def validateUnavailable (summary : Document) : Except PyException Unit := do
  let invalid := fail "payload_invalid"
  require (hasExactly summary (summaryFields ++ ["reason_code"])) invalid
  require (["amount", "currency", "observed_at", "wallet_count"].all fun key => isNone (pyGet summary key)) invalid
  match pyGet summary "reason_code" with
  | .str reasonCode => require (reasonCode ∈ walletValuationFailures) invalid
  | reasonCode => if reasonCode.hashable then throw invalid else throw typeError

/-- `_validate_wallet_valuation`. -/
def validateWalletValuation (summary : Value) : Except PyException Unit := do
  let invalid := fail "payload_invalid"
  let summary ← asMapping invalid summary
  require ((pyGet summary "source").isStr walletValuationSource && (pyGet summary "scope").isStr walletValuationScope)
    invalid
  if (pyGet summary "status").isStr "available" then validateAvailable summary
  else if (pyGet summary "status").isStr "unavailable" then validateUnavailable summary
  else throw invalid

/-! ## The facts -/

def schemaVersion : String := "binance_account_facts.v1"
def scope : String := "spot+flexible_earn"
def sourceBindingKind : String := "binance_readonly_scope_revision"
def uncoveredScopes : Value := .list [.str "funding", .str "margin", .str "futures", .str "locked_earn"]
def pageSize : ℕ := 100
def maxEarnPositions : ℕ := 10000
def providerProductTypeSource : String := "GET /api/v3/account.accountType"

/-- `hexdigest()`. -/
structure HexDigest where
  text : String
  hex : fullMatch lowerHex 64 64 text = true

section Facts
variable [CharacterTable] (letterOrNumber : Char → Bool) (sha256 : Document → HexDigest)

/-- `_valid_asset`; `letterOrNumber` is the category `L` or `N` of a character. -/
def validAsset (asset : String) : Bool :=
  1 ≤ asset.toList.length && asset.toList.length ≤ 128
    && asset.toList.all fun c =>
      if c.toNat < 128 then upperOrDigit c
      else !([0x115f, 0x1160, 0x3164, 0xffa0].contains c.toNat) && letterOrNumber c

def buildSourceBindingId (accountScopeSha256 readerPublicRevision approvedApplicationRevision : Value) :
    Except PyException String := do
  require (fullMatch lowerHex 64 64 accountScopeSha256.toStr) (fail "account_identity_unbound")
  require (fullMatch lowerHex 40 40 readerPublicRevision.toStr) (fail "reader_revision_invalid")
  require (fullMatch lowerHex 40 40 approvedApplicationRevision.toStr) (fail "application_revision_invalid")
  return (sha256 ⟨[("approved_application_revision", approvedApplicationRevision),
    ("account_scope_sha256", accountScopeSha256), ("reader_public_revision", readerPublicRevision),
    ("scope", .str scope)]⟩).text

/-- What the read-only client answers. -/
structure Answers where
  account : Except PyException Value
  flexiblePosition : (current : ℕ) → Except PyException Value
  walletValuation : Except PyException Value

/-- The aware times that the clock gives. -/
structure Readings where
  spotFinishedAt : {t : Instant // Representable t}
  earnFinishedAt : {t : Instant // Representable t}
  walletObservedAt : {t : Instant // Representable t}
  finishedAt : {t : Instant // Representable t}

structure FactsRequest where
  targetId : Value
  expectedAccountScopeSha256 : String
  readerPublicRevision : String
  approvedApplicationRevision : String
  observedStartedAt : Moment

structure AssetAmounts where
  spotFree : Decimal
  spotLocked : Decimal
  flexibleEarn : Decimal

abbrev Assets := Dict String AssetAmounts

def spotBalances (assets : Assets) : List Value → Except PyException Assets
  | [] => .ok assets
  | row :: rest => do
    let row ← asMapping (fail "spot_balance_row_invalid") row
    match pyGet row "asset" with
    | .str asset => do
      require (validAsset letterOrNumber asset) (fail "spot_asset_format_invalid")
      require (!assets.contains asset) (fail "spot_asset_duplicate")
      let free ← decimalAmount (pyGet row "free")
      let locked ← decimalAmount (pyGet row "locked")
      spotBalances (assets.set asset ⟨free, locked, .zero⟩) rest
    | _ => throw (fail "spot_asset_type_invalid")

/-- `seen_products` and the amounts. -/
structure Positions where
  seen : List String
  assets : Assets

def earnRow (positions : Positions) (row : Value) : Except PyException Positions := do
  let invalid := fail "flexible_earn_page_invalid"
  let row ← asMapping invalid row
  match pyGet row "asset", pyGet row "productId" with
  | .str asset, .str productId => do
    require (validAsset letterOrNumber asset && productId ≠ "" && productId ∉ positions.seen) invalid
    match positions.assets.get? asset with
    | none => throw (fail "spot_asset_unobserved")
    | some amounts => do
      let amount ← decimalAmount (pyGet row "totalAmount")
      let flexible ← checked (amounts.flexibleEarn.add walletContext amount)
      return ⟨productId :: positions.seen, positions.assets.set asset { amounts with flexibleEarn := flexible }⟩
  | _, _ => throw invalid

/-- The rows of one page and the total it names. -/
def earnPage (current : ℕ) (total : Option ℤ) (response : Value) : Except PyException (List Value × ℤ) := do
  let invalid := fail "flexible_earn_page_invalid"
  let page ← asMapping invalid response
  match pyGet page "rows", pyGet page "total" with
  | .list rows, .int pageTotal => do
    require (0 ≤ pageTotal && pageTotal ≤ maxEarnPositions && rows.length ≤ pageSize
      && total.all fun before => before = pageTotal) invalid
    require ((rows.length : ℤ) = min (pageSize : ℤ) (max 0 (pageTotal - ((current : ℤ) - 1) * pageSize)))
      (fail "flexible_earn_page_incomplete")
    return (rows, pageTotal)
  | _, _ => throw invalid

def earnRows (positions : Positions) : List Value → Except PyException Positions
  | [] => .ok positions
  | row :: rest => do earnRows (← earnRow letterOrNumber positions row) rest

/-- The pages from `current` on, with `remaining` of them allowed. -/
def earnPages (answers : Answers) (current : ℕ) (total : Option ℤ) (positions : Positions) :
    (remaining : ℕ) → Except PyException Assets
  | 0 => .error (fail "flexible_earn_page_incomplete")
  | remaining + 1 =>
    match answers.flexiblePosition current with
    | .error _ => .error (fail "flexible_earn_read_failed")
    | .ok response => do
      let page ← earnPage current total response
      let positions ← earnRows letterOrNumber positions page.1
      require (positions.seen.length ≤ maxEarnPositions) (fail "flexible_earn_page_invalid")
      if (positions.seen.length : ℤ) = page.2 then return positions.assets
      else earnPages answers (current + 1) (some page.2) positions remaining

/-- One row of `assets`; `none` for a quantity of zero. -/
def assetRow (asset : String) (amounts : AssetAmounts) : Except PyException (Option Value) := do
  let overflow := fail "amount_invalid"
  let spot ← (checked (amounts.spotFree.add walletContext amounts.spotLocked)).mapError fun _ => overflow
  let quantity ← (checked (spot.add walletContext amounts.flexibleEarn)).mapError fun _ => overflow
  if quantity.coeff = 0 then return none
  else
    let quantity ← decimalText quantity
    let spotFree ← decimalText amounts.spotFree
    let spotLocked ← decimalText amounts.spotLocked
    let flexibleEarn ← decimalText amounts.flexibleEarn
    return some (.dict ⟨[("asset", .str asset), ("quantity", .str quantity), ("spot_free", .str spotFree),
      ("spot_locked", .str spotLocked), ("flexible_earn", .str flexibleEarn)]⟩)

/-- `for asset in sorted(assets)`. -/
def assetRows : List (String × AssetAmounts) → Except PyException (List Value)
  | [] => .ok []
  | (asset, amounts) :: rest => do
    let row ← assetRow asset amounts
    let rows ← assetRows rest
    return row.toList ++ rows

def sortedAssets (assets : Assets) : List (String × AssetAmounts) :=
  assets.items.insertionSort fun a b => a.1 ≤ b.1

/-- `_balances` of the account, after its identity is checked. -/
def accountIdentity (observationSha256 : Document → String) (expected : String) (account : Document) :
    Except PyException Unit := do
  let missing := fail "account_identity_missing"
  let uid ← match pyGet account "uid" with
    | .str uid => pure uid
    | .int uid => pure (Value.int uid).toStr
    | _ => throw missing
  require (uid ≠ "") missing
  require (observationSha256 ⟨[("account_uid", .str uid)]⟩ = expected) (fail "account_identity_mismatch")

def timesInOrder (readings : Readings) (walletRead : Bool) : Bool :=
  readings.spotFinishedAt.1 ≤ readings.earnFinishedAt.1 && readings.earnFinishedAt.1 ≤ readings.finishedAt.1
    && (!walletRead || readings.earnFinishedAt.1 ≤ readings.walletObservedAt.1
      && readings.walletObservedAt.1 ≤ readings.finishedAt.1)

/-- The valuation, and whether the wallets were read. -/
def walletFacts (answers : Answers) (readings : Readings) : Document × Bool :=
  match answers.walletValuation with
  | .error _ => (walletValuationUnavailable "wallet_read_failed", false)
  | .ok response => (walletValuation response (some readings.walletObservedAt), true)

def stamped (t : {t : Instant // Representable t}) : Value := .str (replaceText "+00:00" "Z" (isoformat t.1))

def factsPayload (request : FactsRequest) (readings : Readings) (started bindingId : String) (productType : String)
    (assets : List Value) (wallet : Document) : Document :=
  ⟨[("schema_version", .str schemaVersion), ("platform", .str "binance"), ("target_id", request.targetId),
    ("account_scope_sha256", .str request.expectedAccountScopeSha256),
    ("source_binding", .dict ⟨[("kind", .str sourceBindingKind), ("id", .str bindingId)]⟩),
    ("source_revision", .str request.readerPublicRevision),
    ("approved_application_revision", .str request.approvedApplicationRevision),
    ("observed_started_at", .str started), ("observed_finished_at", stamped readings.finishedAt),
    ("spot_observed_at", stamped readings.spotFinishedAt),
    ("provider_product_type", .dict ⟨[("value", .str productType), ("source", .str providerProductTypeSource),
      ("observed_at", stamped readings.spotFinishedAt)]⟩),
    ("earn_observed_at", stamped readings.earnFinishedAt), ("snapshot_atomic", .bool false),
    ("scope", .str scope), ("completeness", .str "complete_for_scope"), ("assets", .list assets),
    ("wallet_valuation", .dict wallet), ("uncovered_scopes", uncoveredScopes), ("no_order", .bool true),
    ("execution_authority_granted", .bool false)]⟩

def validTarget : Value → Bool
  | .str targetId => strip targetId ≠ ""
  | _ => false

def collectAccountFacts (observationSha256 : Document → String) (answers : Answers) (readings : Readings)
    (request : FactsRequest) : Except PyException Document := do
  require (validTarget request.targetId) (fail "target_binding_invalid")
  require (fullMatch lowerHex 64 64 request.expectedAccountScopeSha256) (fail "account_identity_unbound")
  require (fullMatch lowerHex 40 40 request.readerPublicRevision) (fail "reader_revision_invalid")
  require (fullMatch lowerHex 40 40 request.approvedApplicationRevision) (fail "application_revision_invalid")
  match request.observedStartedAt with
  | none => throw (fail "timestamp_invalid")
  | some startedAt => do
    let started ← utcTimestamp (some startedAt)
    let account ← answers.account.mapError fun _ => fail "spot_read_failed"
    let account ← asMapping (fail "spot_response_not_object") account
    accountIdentity observationSha256 request.expectedAccountScopeSha256 account
    let productType := if (pyGet account "accountType").isStr "SPOT" then "SPOT" else "unknown"
    match pyGet account "balances" with
    | .list balances => do
      require (balances.length ≤ 5000) (fail "spot_balances_limit_exceeded")
      let spot ← spotBalances letterOrNumber .empty balances
      require (startedAt.1 ≤ readings.spotFinishedAt.1) (fail "observation_time_invalid")
      let assets ← earnPages letterOrNumber answers 1 none ⟨[], spot⟩ (maxEarnPositions / pageSize + 1)
      let wallet := walletFacts answers readings
      require (timesInOrder readings wallet.2) (fail "observation_time_invalid")
      let rows ← assetRows (sortedAssets assets)
      let bindingId ← buildSourceBindingId sha256 (.str request.expectedAccountScopeSha256)
        (.str request.readerPublicRevision) (.str request.approvedApplicationRevision)
      return factsPayload request readings started bindingId productType rows wallet.1
    | _ => throw (fail "spot_balances_invalid")

/-! ## Their validation -/

def requiredFields : List String :=
  ["schema_version", "platform", "target_id", "account_scope_sha256", "source_binding", "source_revision",
    "approved_application_revision", "observed_started_at", "observed_finished_at", "spot_observed_at",
    "earn_observed_at", "snapshot_atomic", "scope", "completeness", "assets", "uncovered_scopes", "no_order",
    "execution_authority_granted"]

/-- `value is flag`. -/
def isFlag (flag : Bool) : Value → Bool
  | .bool b => b = flag
  | _ => false

def headerValid (payload : Document) : Bool :=
  (pyGet payload "schema_version").isStr schemaVersion && (pyGet payload "platform").isStr "binance"
    && validTarget (pyGet payload "target_id") && (pyGet payload "scope").isStr scope
    && (pyGet payload "completeness").isStr "complete_for_scope" && isFlag false (pyGet payload "snapshot_atomic")
    && isFlag true (pyGet payload "no_order") && isFlag false (pyGet payload "execution_authority_granted")
    && (pyGet payload "uncovered_scopes").equals uncoveredScopes
    && fullMatch lowerHex 64 64 ((payload.get? "account_scope_sha256").getD (.str "")).toStr
    && fullMatch lowerHex 40 40 ((payload.get? "source_revision").getD (.str "")).toStr
    && fullMatch lowerHex 40 40 ((payload.get? "approved_application_revision").getD (.str "")).toStr

def validateBinding (payload : Document) : Except PyException Unit := do
  let invalid := fail "payload_invalid"
  let binding ← asMapping invalid (pyGet payload "source_binding")
  require (hasExactly binding ["kind", "id"] && (pyGet binding "kind").isStr sourceBindingKind
    && fullMatch lowerHex 64 64 ((binding.get? "id").getD (.str "")).toStr) invalid
  let id ← buildSourceBindingId sha256 (pyGet payload "account_scope_sha256") (pyGet payload "source_revision")
    (pyGet payload "approved_application_revision")
  require ((pyGet binding "id").isStr id) invalid

def validateProductType (payload : Document) : Except PyException Unit := do
  let invalid := fail "payload_invalid"
  let productType ← asMapping invalid (pyGet payload "provider_product_type")
  require (hasExactly productType ["value", "source", "observed_at"]
    && ((pyGet productType "value").isStr "SPOT" || (pyGet productType "value").isStr "unknown")
    && (pyGet productType "source").isStr providerProductTypeSource) invalid
  match pyGet productType "observed_at" with
  | .str observed => do
    require ((pyGet payload "spot_observed_at").isStr observed) invalid
    let t ← parsedTimestamp (.str observed)
    require (replaceText "+00:00" "Z" (isoformat t) = observed) invalid
  | _ => throw invalid

/-- `_decimal_text(amount) == text`. -/
def isCanonical (amount : Decimal) (text : String) : Bool :=
  match decimalText amount with
  | .ok written => written = text
  | .error _ => false

def validateRow (seen : List String) (row : Value) : Except PyException (List String) := do
  let invalid := fail "payload_invalid"
  let row ← asMapping invalid row
  require (hasExactly row ["asset", "quantity", "spot_free", "spot_locked", "flexible_earn"]) invalid
  match pyGet row "asset", pyGet row "spot_free", pyGet row "spot_locked", pyGet row "flexible_earn",
      pyGet row "quantity" with
  | .str asset, .str freeText, .str lockedText, .str flexibleText, .str quantityText => do
    require (validAsset letterOrNumber asset && asset ∉ seen) invalid
    let free ← decimalAmount (.str freeText)
    let locked ← decimalAmount (.str lockedText)
    let flexible ← decimalAmount (.str flexibleText)
    let quantity ← decimalAmount (.str quantityText)
    require (isCanonical free freeText && isCanonical locked lockedText && isCanonical flexible flexibleText
      && isCanonical quantity quantityText) invalid
    require (quantity.coeff ≠ 0) invalid
    let spot ← checked (free.add walletContext locked)
    let total ← checked (spot.add walletContext flexible)
    require (quantity.eqv total) invalid
    return asset :: seen
  | _, _, _, _, _ => throw invalid

def validateRows (seen : List String) : List Value → Except PyException Unit
  | [] => .ok ()
  | row :: rest => do validateRows (← validateRow letterOrNumber seen row) rest

/-- The valuation lies between the Earn pages and the end. -/
def validateWallet (wallet : Value) (earn finished : Instant) : Except PyException Unit := do
  validateWalletValuation wallet
  let summary ← asMapping (fail "payload_invalid") wallet
  if (pyGet summary "status").isStr "available" then
    let observed ← parsedTimestamp (pyGet summary "observed_at")
    require (earn ≤ observed && observed ≤ finished) (fail "payload_invalid")
  else return ()

def validateAccountFactsPayload (payload : Value) : Except PyException Document := do
  let invalid := fail "payload_invalid"
  let payload ← asMapping invalid payload
  require (requiredFields.all fun name => payload.contains name) invalid
  require (payload.keys.all fun key => key ∈ requiredFields ++ ["wallet_valuation", "provider_product_type"]) invalid
  require (headerValid payload) invalid
  validateBinding sha256 payload
  let started ← parsedTimestamp (pyGet payload "observed_started_at")
  let finished ← parsedTimestamp (pyGet payload "observed_finished_at")
  let spot ← parsedTimestamp (pyGet payload "spot_observed_at")
  let earn ← parsedTimestamp (pyGet payload "earn_observed_at")
  require (started ≤ spot && spot ≤ earn && earn ≤ finished) invalid
  if payload.contains "provider_product_type" then validateProductType payload
  match pyGet payload "assets" with
  | .list assets => do
    validateRows letterOrNumber [] assets
    if payload.contains "wallet_valuation" then validateWallet (pyGet payload "wallet_valuation") earn finished
    return payload
  | _ => throw invalid

end Facts
end AccountFacts
end BinancePlatform.Source
