import BinancePlatform.Guarantees.SnapshotTracking
import BinancePlatform.Source.PortfolioValuation
import Mathlib.Algebra.Order.Field.Basic
import Mathlib.Data.List.Dedup
import Mathlib.Tactic.Ring
import Mathlib.Tactic.Linarith

/-!
# Every asset is valued once

The equity of a capture adds a trend, a Bitcoin and a fuel sleeve. It is the value of the
distinct assets, for all quantities and prices, exactly when the universe is apart from
the dedicated assets and names no base asset twice. The guards of a rebased ledger ensure
that; nothing does for the others.

* What a capture adds up (`capturedEquity_eq`).
* Sleeves that are apart value each asset once (`valued_of_apart`), and a universe that is
  not apart is valued wrongly for some quantities and prices (`apart_of_valued`).
* The guards give such a universe (`apart_of_rebased`); both are in `valued_once`, and
  `bitcoin_counted_twice` is a pool without them.

Amounts are elements of a field: the rounding of floats is left out here.
-/

set_option autoImplicit false

namespace BinancePlatform.Guarantees.SingleValuation
open BinancePlatform.Library BinancePlatform.Source

/-! ## One value for each asset -/

section Assets
variable (runtimeUniverse : UniverseMapping)

def baseAssets : List String := runtimeUniverse.items.map Prod.snd

/-- The distinct assets besides `USDT`. -/
def underlyingAssets : List String :=
  (("BNB" :: "BTC" :: baseAssets runtimeUniverse).filter (· ≠ "USDT")).dedup

/-- The symbol whose price values an asset. -/
def symbolOf (asset : String) : String :=
  if asset = "BNB" then "BNBUSDT"
  else if asset = "BTC" then "BTCUSDT"
  else ((runtimeUniverse.items.find? fun entry => entry.2 = asset).map Prod.fst).getD ""

/-- `USDT` and every distinct asset at the price of its symbol. -/
def onceValued {K : Type} [Field K] (quantity price : String → K) : K :=
  quantity "USDT"
    + ((underlyingAssets runtimeUniverse).map fun asset =>
      quantity asset * price (symbolOf runtimeUniverse asset)).sum

/-- The universe has no Bitcoin symbol, no dedicated asset and no base asset twice. -/
structure Apart : Prop where
  noBitcoin : runtimeUniverse.get? "BTCUSDT" = none
  distinct : ("USDT" :: "BNB" :: "BTC" :: baseAssets runtimeUniverse).Nodup

end Assets

variable {runtimeUniverse : UniverseMapping}

/-! ## What the capture adds up -/

theorem get?_foldl_set {α : Type} {d : Dict String α} (value : String × String → α) {entry : String × String}
    (member : entry ∈ runtimeUniverse.items) :
    (runtimeUniverse.items.foldl (fun d entry => d.set entry.1 (value entry)) d).get? entry.1
      = some (value entry) := by
  have keys : ((runtimeUniverse.items.map fun e => (e.1, value e)).map Prod.fst).Nodup := by
    rw [List.map_map]
    exact runtimeUniverse.items_nodup
  have folded : runtimeUniverse.items.foldl (fun d entry => d.set entry.1 (value entry)) d
      = d.setAll (runtimeUniverse.items.map fun e => (e.1, value e)) := by
    rw [Dict.setAll, List.foldl_map]
  have found : Dict.find entry.1 (runtimeUniverse.items.map fun e => (e.1, value e))
      = some (value entry) :=
    (Dict.find_eq_some_iff_mem _ keys _ _).mpr (List.mem_map.mpr ⟨entry, member, rfl⟩)
  rw [folded, Dict.get?_setAll _ keys, found, Option.some_or]

variable {K : Type} [Field K]

/-- The asset that the balance of a universe symbol counts. -/
def countedAsset (entry : String × String) : String := if entry.1 = "BTCUSDT" then "BTC" else entry.2

/-- What a capture adds up, sleeve by sleeve. -/
theorem capturedEquity_eq (quantity price : String → K) :
    capturedEquity runtimeUniverse quantity price
      = quantity "USDT" + quantity "BNB" * price "BNBUSDT"
        + (runtimeUniverse.items.map fun entry => quantity (countedAsset entry) * price entry.1).sum
        + quantity "BTC" * price "BTCUSDT" := by
  have trend : (runtimeUniverse.keys.map fun symbol =>
      valueAt (captureMarketSnapshot runtimeUniverse quantity price).balances symbol
        * valueAt (captureMarketSnapshot runtimeUniverse quantity price).prices symbol)
      = runtimeUniverse.items.map fun entry => quantity (countedAsset entry) * price entry.1 := by
    rw [Dict.keys, List.map_map]
    refine List.map_congr_left fun entry member => ?_
    simp only [Function.comp_apply, valueAt, captureMarketSnapshot, countedAsset]
    by_cases bitcoin : entry.1 = "BTCUSDT"
    · rw [if_pos bitcoin, bitcoin, Dict.get?_set_self, Dict.get?_set_self]
      rfl
    · rw [if_neg bitcoin, Dict.get?_set_ne _ _ bitcoin, Dict.get?_set_ne _ _ bitcoin,
        get?_foldl_set (fun entry => quantity entry.2) member,
        get?_foldl_set (fun entry => price entry.1) member]
      rfl
  rw [capturedEquity, computeTotalEquity, trend]
  simp only [valueAt, captureMarketSnapshot, Dict.get?_set_self, Option.getD_some]

/-! ## Distinct sleeves -/

theorem symbolOf_base (apart : Apart runtimeUniverse) {entry : String × String}
    (member : entry ∈ runtimeUniverse.items) : symbolOf runtimeUniverse entry.2 = entry.1 := by
  have distinct := apart.distinct
  simp only [List.nodup_cons, List.mem_cons, not_or] at distinct
  obtain ⟨-, ⟨-, noFuel⟩, noBitcoin, distinct⟩ := distinct
  have base : entry.2 ∈ baseAssets runtimeUniverse := List.mem_map_of_mem member
  have notFuel : entry.2 ≠ "BNB" := fun same => noFuel (same ▸ base)
  have notBitcoin : entry.2 ≠ "BTC" := fun same => noBitcoin (same ▸ base)
  rw [symbolOf, if_neg notFuel, if_neg notBitcoin]
  cases found : runtimeUniverse.items.find? fun other => other.2 = entry.2 with
  | none =>
    have none := List.find?_eq_none.mp found entry member
    simp at none
  | some other =>
    have same : other.2 = entry.2 := by simpa using List.find?_some found
    have equal : other = entry :=
      List.inj_on_of_nodup_map distinct (List.mem_of_find?_eq_some found) member same
    rw [equal]
    rfl

/-- Sleeves that are apart value every asset once. -/
theorem valued_of_apart (apart : Apart runtimeUniverse) (quantity price : String → K) :
    capturedEquity runtimeUniverse quantity price = onceValued runtimeUniverse quantity price := by
  have distinct := apart.distinct
  rw [List.nodup_cons] at distinct
  have all : underlyingAssets runtimeUniverse = "BNB" :: "BTC" :: baseAssets runtimeUniverse := by
    rw [underlyingAssets, List.filter_eq_self.mpr fun asset member => ?_, distinct.2.dedup]
    simpa using fun same : asset = "USDT" => distinct.1 (same ▸ member)
  have trend : (runtimeUniverse.items.map fun entry => quantity (countedAsset entry) * price entry.1)
      = (baseAssets runtimeUniverse).map fun asset =>
        quantity asset * price (symbolOf runtimeUniverse asset) := by
    rw [baseAssets, List.map_map]
    refine List.map_congr_left fun entry member => ?_
    have notBitcoin : entry.1 ≠ "BTCUSDT" := by
      intro same
      have held := (Dict.mem_items _ _ _).mp member
      rw [same, apart.noBitcoin] at held
      cases held
    rw [Function.comp_apply, symbolOf_base apart member, countedAsset, if_neg notBitcoin]
  have fuel : symbolOf runtimeUniverse "BNB" = "BNBUSDT" := rfl
  have bitcoin : symbolOf runtimeUniverse "BTC" = "BTCUSDT" := rfl
  rw [capturedEquity_eq, onceValued, all, trend, List.map_cons, List.map_cons, List.sum_cons,
    List.sum_cons, fuel, bitcoin]
  ring

section Converse
variable [LinearOrder K] [IsStrictOrderedRing K]

/-- One unit of every asset at price one tells whether a sleeve is missing or repeated. -/
theorem underlyingAssets_of_valued
    (valued : capturedEquity runtimeUniverse (fun _ => (1 : K)) (fun _ => 1)
      = onceValued runtimeUniverse (fun _ => 1) fun _ => 1) :
    underlyingAssets runtimeUniverse = "BNB" :: "BTC" :: baseAssets runtimeUniverse := by
  rw [capturedEquity_eq, onceValued] at valued
  simp only [mul_one, List.map_const', List.sum_replicate, nsmul_eq_mul] at valued
  have count : ((2 + runtimeUniverse.items.length : ℕ) : K)
      = ((underlyingAssets runtimeUniverse).length : ℕ) := by
    push_cast
    linarith
  have lengths : 2 + runtimeUniverse.items.length = (underlyingAssets runtimeUniverse).length := by
    exact_mod_cast count
  have inside : (underlyingAssets runtimeUniverse).Sublist
      ("BNB" :: "BTC" :: baseAssets runtimeUniverse) :=
    (List.dedup_sublist _).trans List.filter_sublist
  refine inside.eq_of_length ?_
  rw [← lengths, List.length_cons, List.length_cons, baseAssets, List.length_map]
  omega

/-- With all quantities and prices at one, a universe that values every asset once is apart. -/
theorem apart_of_valued (valued : ∀ quantity price : String → K,
    capturedEquity runtimeUniverse quantity price = onceValued runtimeUniverse quantity price) :
    Apart runtimeUniverse := by
  have all := underlyingAssets_of_valued (valued (fun _ => 1) fun _ => 1)
  have nodup : ("BNB" :: "BTC" :: baseAssets runtimeUniverse).Nodup := all ▸ List.nodup_dedup _
  have noQuote : "USDT" ∉ "BNB" :: "BTC" :: baseAssets runtimeUniverse := by
    rw [← all, underlyingAssets, List.mem_dedup]
    intro member
    simpa using List.of_mem_filter member
  have noBitcoin : "BTC" ∉ baseAssets runtimeUniverse := by
    simp only [List.nodup_cons] at nodup
    exact nodup.2.1
  refine ⟨?_, List.nodup_cons.mpr ⟨noQuote, nodup⟩⟩
  by_contra held
  obtain ⟨base, held⟩ := Option.ne_none_iff_exists'.mp held
  have member := (Dict.mem_items _ _ _).mpr held
  -- One bitcoin and nothing else: the Bitcoin symbol of the universe counts it again.
  have bitcoins := valued (fun asset => if asset = "BTC" then 1 else 0) fun _ => 1
  rw [capturedEquity_eq, onceValued, all] at bitcoins
  have none : ((baseAssets runtimeUniverse).map fun asset => if asset = "BTC" then (1 : K) else 0).sum
      = 0 := by
    refine List.sum_eq_zero fun x isTerm => ?_
    obtain ⟨asset, inBases, rfl⟩ := List.mem_map.mp isTerm
    exact if_neg fun same : asset = "BTC" => noBitcoin (same ▸ inBases)
  have again : (1 : K) ≤ (runtimeUniverse.items.map fun entry =>
      if countedAsset entry = "BTC" then (1 : K) else 0).sum := by
    refine List.single_le_sum (fun x isTerm => ?_) 1
      (List.mem_map.mpr ⟨("BTCUSDT", base), member, by simp [countedAsset]⟩)
    obtain ⟨entry, -, rfl⟩ := List.mem_map.mp isTerm
    split
    · exact zero_le_one
    · exact le_refl _
  simp only [mul_one, List.map_cons, List.sum_cons, none] at bitcoins
  norm_num at bitcoins
  linarith

end Converse

/-! ## The guards of a rebased ledger -/

/-- A universe of canonical symbols is apart from the dedicated assets. -/
theorem apart_of_canonical (canonical : ∀ entry ∈ runtimeUniverse.items,
    entry.2 ∉ dedicatedAssets ∧ entry.1 = entry.2 ++ "USDT") : Apart runtimeUniverse := by
  have symbols : (baseAssets runtimeUniverse).map (· ++ "USDT") = runtimeUniverse.items.map Prod.fst := by
    rw [baseAssets, List.map_map]
    exact List.map_congr_left fun entry member => (canonical entry member).2.symm
  have outside : ∀ asset ∈ dedicatedAssets, asset ∉ baseAssets runtimeUniverse := by
    intro asset dedicated inBases
    obtain ⟨entry, member, rfl⟩ := List.mem_map.mp inBases
    exact (canonical entry member).1 dedicated
  constructor
  · by_contra held
    obtain ⟨base, held⟩ := Option.ne_none_iff_exists'.mp held
    obtain ⟨free, named⟩ := canonical _ ((Dict.mem_items _ _ _).mpr held)
    have bitcoin : base = "BTC" := (append_usdt_inj (a := "BTC") named).symm
    exact free (bitcoin ▸ by decide)
  · have bases : (baseAssets runtimeUniverse).Nodup :=
      List.Nodup.of_map _ (symbols ▸ runtimeUniverse.items_nodup)
    have noQuote := outside "USDT" (by decide)
    have noFuel := outside "BNB" (by decide)
    have noBitcoin := outside "BTC" (by decide)
    simp [bases, noQuote, noFuel, noBitcoin]

section Guards
variable [CharacterTable] {isAlnum : String → Bool} {rawState : Document}

theorem canonicalTrendMeta_ok {symbol asset : String} (success : canonicalTrendMeta symbol asset = .ok ()) :
    asset ∉ dedicatedAssets ∧ symbol = asset ++ "USDT" := by
  unfold canonicalTrendMeta at success
  split at success
  next canonical => exact ⟨canonical.1, canonical.2.2⟩
  next => cases success

/-- The guards of a rebased ledger pass only universes that are apart. -/
theorem apart_of_rebased {resolvedUniverse : UniverseMapping}
    (loaded : loadRuntimeTrendUniverse isAlnum rawState resolvedUniverse = .ok runtimeUniverse)
    (rebased : rawState.contains "accounting_rebase" = true) : Apart runtimeUniverse := by
  obtain ⟨effective, -, loaded⟩ := bind_ok loaded
  obtain ⟨state, -, loaded⟩ := bind_ok loaded
  obtain ⟨⟨⟩, checks, loaded⟩ := bind_ok loaded
  cases loaded
  obtain ⟨approved, isApproved, checks⟩ := bind_ok checks
  cases approved with
  | none =>
    unfold rebasedApprovedAssets at isApproved
    rw [if_pos rebased] at isApproved
    split at isApproved
    · split at isApproved
      · cases isApproved
      · cases isApproved
    · cases isApproved
  | some approved =>
    refine apart_of_canonical fun entry member => ?_
    obtain ⟨⟨⟩, canonical, -⟩ := bind_ok (forM_ok checks entry member)
    exact canonicalTrendMeta_ok canonical

end Guards

/-- For every state and pool, the equity is the value of the distinct assets exactly when
the runtime universe is apart; a rebased ledger only loads such a universe. -/
theorem valued_once [CharacterTable] [LinearOrder K] [IsStrictOrderedRing K]
    {isAlnum : String → Bool} {rawState : Document} {resolvedUniverse : UniverseMapping}
    (loaded : loadRuntimeTrendUniverse isAlnum rawState resolvedUniverse = .ok runtimeUniverse) :
    ((∀ quantity price : String → K,
        capturedEquity runtimeUniverse quantity price = onceValued runtimeUniverse quantity price)
      ↔ Apart runtimeUniverse)
    ∧ (rawState.contains "accounting_rebase" = true → Apart runtimeUniverse) :=
  ⟨⟨apart_of_valued, valued_of_apart⟩, apart_of_rebased loaded⟩

/-! ## Bitcoin in the trend pool -/

section Example
local instance : CharacterTable := asciiTable

def asciiAlnum (text : String) : Bool := text ≠ "" && text.toList.all Char.isAlphanum

def poolPayload (symbol : String) : Value := .dict ⟨[("as_of_date", .str "2026-09-12"),
  ("pool_size", .int 1), ("symbols", .list [.str symbol])]⟩

/-- A state without a rebase and a pool of Ether. -/
theorem valued_once_ether :
    ((∀ quantity price : String → ℚ, capturedEquity ⟨[("ETHUSDT", "ETH")]⟩ quantity price
        = onceValued ⟨[("ETHUSDT", "ETH")]⟩ quantity price)
      ↔ Apart ⟨[("ETHUSDT", "ETH")]⟩)
    ∧ ((Dict.empty : Document).contains "accounting_rebase" = true → Apart ⟨[("ETHUSDT", "ETH")]⟩) := by
  have loaded : loadRuntimeTrendUniverse asciiAlnum .empty (orderedSymbolMap (poolPayload "ETHUSDT"))
      = .ok ⟨[("ETHUSDT", "ETH")]⟩ := by rfl
  exact valued_once loaded

/-- With one Bitcoin at 60000 and nothing else, a pool of Bitcoin counts it twice. -/
theorem bitcoin_counted_twice :
    loadRuntimeTrendUniverse asciiAlnum .empty (orderedSymbolMap (poolPayload "BTCUSDT"))
        = .ok ⟨[("BTCUSDT", "BTC")]⟩
      ∧ capturedEquity ⟨[("BTCUSDT", "BTC")]⟩ (fun asset => if asset = "BTC" then (1 : ℚ) else 0)
        (fun _ => 60000) = 120000
      ∧ onceValued ⟨[("BTCUSDT", "BTC")]⟩ (fun asset => if asset = "BTC" then (1 : ℚ) else 0)
        (fun _ => 60000) = 60000 := by
  refine ⟨by rfl, ?_, ?_⟩
  · decide +kernel
  · decide +kernel

end Example

end BinancePlatform.Guarantees.SingleValuation
