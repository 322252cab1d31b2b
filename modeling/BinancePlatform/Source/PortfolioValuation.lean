import BinancePlatform.Source.FillAccounting
import Mathlib.Algebra.BigOperators.Group.List.Lemmas
import Mathlib.Algebra.Field.Defs

/-!
# The universe of a cycle and the value of the account

The trend universe that `load_cycle_state` of `state_service.py` hands to a cycle, with
the guards of a rebased ledger, and the equity that `capture_market_snapshot` and
`compute_portfolio_allocation` make of it, in exact arithmetic. A universe is its base
assets by symbol; the other metadata of a symbol is not read here.
-/

set_option autoImplicit false

namespace BinancePlatform.Source
open BinancePlatform.Library

/-! ## Rebased ledgers -/

def managedAssetScopeMismatch : PyException :=
  ⟨.executionIntegrityError, "managed_asset_scope_mismatch"⟩

/-- `_DEDICATED_ASSETS`. -/
def dedicatedAssets : List String := ["BTC", "BNB", "USDT"]

/-- `symbol.removesuffix("USDT")`. -/
def removeUsdt (symbol : String) : String := inferBaseAsset symbol

section Text
variable [CharacterTable]

/-- `symbol_map` of a validated payload: the parsed symbols that its `symbols` list. -/
def extractTrendPoolSymbols (payload : Value) (symbolMap : UniverseMapping) : List String :=
  let ordered := match payload with
    | .dict fields => match pyGet fields "symbols" with
      | .list names => names.filterMap fun
        | Value.str symbol => some symbol
        | _ => none
      | .dict entries => entries.keys
      | _ => symbolMap.keys
    | _ => symbolMap.keys
  ordered.foldl (fun deduped symbol =>
    if symbolMap.contains symbol && !deduped.contains symbol then deduped ++ [symbol] else deduped) []

/-- `ordered_symbol_map` of `validate_trend_pool_payload`. -/
def orderedSymbolMap (payload : Value) : UniverseMapping :=
  let symbolMap := parseTrendUniverseMapping payload
  ⟨(extractTrendPoolSymbols payload symbolMap).filterMap fun symbol =>
    (symbolMap.get? symbol).map fun base => (symbol, base)⟩

section Approved
variable (isAlnum : String → Bool)

/-- `asset == asset.strip().upper()`, for a nonempty asset of letters and digits. -/
def approvedAsset (asset : String) : Bool :=
  asset ≠ "" && asset = upperText (strip asset) && isAlnum asset

/-- The assets of the checkpoint, if there is one, are those of the opening snapshot. -/
def checkpointAgrees (rawState : Document) (approved : List String) : Bool :=
  match pyGet rawState "earn_accrual_checkpoint" with
  | .none => true
  | .dict checkpoint => match pyGet checkpoint "assets" with
    | .dict assets => sameKeySet assets.keys approved
    | _ => false
  | _ => false

/-- `_rebased_approved_assets`. -/
def rebasedApprovedAssets (rawState : Document) : Except PyException (Option (List String)) :=
  if rawState.contains "accounting_rebase" then
    match pyGet rawState "accounting_rebase", pyGet rawState "last_balance_snapshot" with
    | .dict _, .dict opening =>
      if opening.items ≠ [] ∧ checkpointAgrees rawState opening.keys = true
          ∧ (∀ asset ∈ dedicatedAssets, asset ∈ opening.keys)
          ∧ (∀ asset ∈ opening.keys, approvedAsset isAlnum asset = true) then .ok (some opening.keys)
      else .error managedAssetScopeMismatch
    | _, _ => .error managedAssetScopeMismatch
  else .ok none

/-- A quantity or a price that is not zero, or that cannot be read. -/
def activeField (record : Document) (key : String) : Bool :=
  match (((record.get? key).getD zeroFloat).orElse zeroFloat).toFloat with
  | .ok (.finite _ magnitude) => magnitude ≠ 0
  | _ => true

/-- `_has_active_symbol_state`. -/
def hasActiveSymbolState (rawState : Document) (symbol : String) : Bool :=
  let retired := match pyGet rawState retiredTrendPositionsKey with
    | .dict retired => [pyGet retired symbol]
    | _ => []
  (pyGet rawState symbol :: retired).any fun value => match value with
    | .dict record => (match pyGet record "is_holding" with | .bool held => held | _ => false)
      || ["entry_price", "highest_price", "holding_qty"].any (activeField record)
    | _ => false

/-- `_canonical_trend_meta`. -/
def canonicalTrendMeta (symbol asset : String) : Except PyException Unit :=
  if asset ∉ dedicatedAssets ∧ asset = upperText (strip asset) ∧ symbol = asset ++ "USDT" then .ok ()
  else .error managedAssetScopeMismatch

/-- The symbols of the state that may still be held. -/
def stateSymbols (rawState : Document) : List String :=
  let retired := match pyGet rawState retiredTrendPositionsKey with
    | .dict retired => retired.keys.filter endsWithUSDT
    | _ => []
  (rawState.keys.filter fun symbol =>
    endsWithUSDT symbol && !dedicatedAssets.contains (removeUsdt symbol)) ++ retired

/-- One symbol of the resolved universe against the approved trend assets. -/
def admitCandidate (rawState : Document) (approvedTrendAssets : List String)
    (candidates : UniverseMapping) (entry : String × String) : Except PyException UniverseMapping := do
  canonicalTrendMeta entry.1 entry.2
  if entry.2 ∈ approvedTrendAssets then return candidates.set entry.1 entry.2
  else if hasActiveSymbolState rawState entry.1 then .error managedAssetScopeMismatch
  else return candidates

/-- `_prepare_rebased_universes`: the candidates and the effective universe. -/
def prepareUniverses (rawState : Document) (resolvedUniverse : UniverseMapping) :
    Except PyException (UniverseMapping × UniverseMapping) := do
  match ← rebasedApprovedAssets isAlnum rawState with
  | none => return (resolvedUniverse, resolvedUniverse)
  | some approved =>
    let approvedTrendAssets := approved.filter (· ∉ dedicatedAssets)
    require ((stateSymbols rawState).all fun symbol =>
      approvedTrendAssets.contains (removeUsdt symbol) || !hasActiveSymbolState rawState symbol)
      managedAssetScopeMismatch
    let candidates ← resolvedUniverse.items.foldlM (admitCandidate rawState approvedTrendAssets) .empty
    return (candidates, (approvedTrendAssets.insertionSort (· ≤ ·)).foldl (fun effective asset =>
      if effective.contains (asset ++ "USDT") then effective else effective.set (asset ++ "USDT") asset)
      candidates)

/-- The effective universe of `_prepare_rebased_universes`. -/
def prepareRebasedUniverses (rawState : Document) (resolvedUniverse : UniverseMapping) :
    Except PyException UniverseMapping :=
  (prepareUniverses isAlnum rawState resolvedUniverse).map Prod.snd

/-- `_check_rebased_asset_scope`. -/
def checkRebasedAssetScope (rawState : Document) (runtimeUniverse : UniverseMapping) :
    Except PyException Unit := do
  match ← rebasedApprovedAssets isAlnum rawState with
  | none => return ()
  | some approved => runtimeUniverse.items.forM fun entry => do
    canonicalTrendMeta entry.1 entry.2
    require (approved.contains entry.2 && !dedicatedAssets.contains entry.2) managedAssetScopeMismatch

/-- The universe as the state functions take it; parsed symbols all end in `USDT`. -/
def trendUniverseOf (mapping : UniverseMapping) : TrendUniverse where
  symbols := mapping.keys.filter endsWithUSDT
  nodup := mapping.keys_nodup.filter _
  suffixed _ member := List.of_mem_filter member

/-- `get_runtime_trend_universe`. -/
def getRuntimeTrendUniverse (state : Document) (trendUniverse : UniverseMapping) : UniverseMapping :=
  match state.get? retiredTrendPositionsKey with
  | some (.dict retired) => retired.items.foldl (fun runtime entry =>
      if runtime.contains entry.1 then runtime
      else runtime.set entry.1
        ((recordedBaseAsset entry.2).orElse (.str (inferBaseAsset entry.1))).toStr) trendUniverse
  | _ => trendUniverse

/-- The runtime universe of `load_cycle_state`, from the raw state and the symbol map of
the resolved pool. -/
def loadRuntimeTrendUniverse (rawState : Document) (resolvedUniverse : UniverseMapping) :
    Except PyException UniverseMapping := do
  let effective ← prepareRebasedUniverses isAlnum rawState resolvedUniverse
  let state ← normalizeTradeState (trendUniverseOf effective) (.dict rawState)
  let runtimeUniverse := getRuntimeTrendUniverse state effective
  checkRebasedAssetScope isAlnum rawState runtimeUniverse
  return runtimeUniverse

end Approved
end Text

/-! ## The equity -/

section Equity
variable {K : Type} [Field K]

structure MarketSnapshot (K : Type) where
  uTotal : K
  fuelVal : K
  prices : Dict String K
  balances : Dict String K

/-- `capture_market_snapshot`, with the total quantity of an asset and the average price
of a symbol as they are read. -/
def captureMarketSnapshot (runtimeUniverse : UniverseMapping) (totalBalance avgPrice : String → K) :
    MarketSnapshot K where
  uTotal := totalBalance "USDT"
  fuelVal := totalBalance "BNB" * avgPrice "BNBUSDT"
  prices := (runtimeUniverse.items.foldl (fun prices entry => prices.set entry.1 (avgPrice entry.1))
    (Dict.empty.set "BNBUSDT" (avgPrice "BNBUSDT"))).set "BTCUSDT" (avgPrice "BTCUSDT")
  balances := (runtimeUniverse.items.foldl
    (fun balances entry => balances.set entry.1 (totalBalance entry.2))
    (Dict.empty.set "BNBUSDT" (totalBalance "BNB"))).set "BTCUSDT" (totalBalance "BTC")

/-- `mapping[symbol]` of a symbol that the snapshot has. -/
def valueAt (mapping : Dict String K) (symbol : String) : K := (mapping.get? symbol).getD 0

/-- `total_equity` of `compute_portfolio_allocation`. -/
def computeTotalEquity (runtimeUniverse : UniverseMapping) (snapshot : MarketSnapshot K) : K :=
  let trendVal := (runtimeUniverse.keys.map fun symbol =>
    valueAt snapshot.balances symbol * valueAt snapshot.prices symbol).sum
  let dcaVal := valueAt snapshot.balances "BTCUSDT" * valueAt snapshot.prices "BTCUSDT"
  snapshot.uTotal + snapshot.fuelVal + trendVal + dcaVal

/-- The equity of one capture. -/
def capturedEquity (runtimeUniverse : UniverseMapping) (totalBalance avgPrice : String → K) : K :=
  computeTotalEquity runtimeUniverse (captureMarketSnapshot runtimeUniverse totalBalance avgPrice)

end Equity

end BinancePlatform.Source
