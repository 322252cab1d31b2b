import BinancePlatform.Guarantees.SingleValuation

/-!
# The scope of a rebased ledger

The opening snapshot of a rebased ledger names the approved assets. When the universes are
prepared and the runtime universe passes its check, the effective universe is the approved
trend assets, no more and no less, and every active symbol is in it. The top-level entries of
the dedicated assets are not trend positions: they stay outside (`ActiveElsewhere`).

* The candidates of the universe are the approved symbols (`get?_addApproved`,
  `get?_candidates`).
* An active position outside them stops the preparation (`active_checked`).
* The check of the runtime universe closes the other inclusion (`runtime_within`,
  `checked_scope`), which gives `rebased_scope_exact`.
-/

set_option autoImplicit false

namespace BinancePlatform.Guarantees.RebasedScope
open BinancePlatform.Library BinancePlatform.Source
open SingleValuation (canonicalTrendMeta_ok)

section Scope
variable [CharacterTable] {isAlnum : String → Bool}

/-- The assets of the opening snapshot. -/
def snapshotAssets (rawState : Document) : List String :=
  match pyGet rawState "last_balance_snapshot" with
  | .dict opening => opening.keys
  | _ => []

/-- An approved asset that is not a dedicated one. -/
def TrendAsset (rawState : Document) (asset : String) : Prop :=
  asset ∈ snapshotAssets rawState ∧ asset ∉ dedicatedAssets

/-- Every symbol is its base asset followed by `USDT`. -/
def Named (universe' : UniverseMapping) : Prop :=
  ∀ symbol asset, universe'.get? symbol = some asset → symbol = asset ++ "USDT"

theorem rebasedApprovedAssets_some {rawState : Document} {found : Option (List String)}
    (rebased : rawState.contains "accounting_rebase" = true)
    (success : rebasedApprovedAssets isAlnum rawState = .ok found) :
    found = some (snapshotAssets rawState) := by
  unfold rebasedApprovedAssets at success
  rw [if_pos rebased] at success
  split at success
  · rename_i marker opening _ isOpening
    split at success
    · cases success
      rw [snapshotAssets, isOpening]
    · cases success
  · cases success

/-! ## The universes -/

omit [CharacterTable] in
/-- The approved assets are added under their own symbols, where they are not named yet. -/
theorem get?_addApproved {assets : List String} {start : UniverseMapping} (named : Named start) :
    Named (assets.foldl (fun effective asset => if effective.contains (asset ++ "USDT") then effective
        else effective.set (asset ++ "USDT") asset) start)
      ∧ ∀ symbol asset, (assets.foldl (fun effective asset =>
        if effective.contains (asset ++ "USDT") then effective
        else effective.set (asset ++ "USDT") asset) start).get? symbol = some asset
        ↔ start.get? symbol = some asset ∨ (asset ∈ assets ∧ symbol = asset ++ "USDT") := by
  induction assets generalizing start with
  | nil => exact ⟨named, by simp⟩
  | cons first rest ih =>
    rw [List.foldl_cons]
    by_cases present : start.contains (first ++ "USDT") = true
    · rw [if_pos present]
      obtain ⟨still, found⟩ := ih named
      refine ⟨still, fun symbol asset => (found symbol asset).trans ?_⟩
      rw [List.mem_cons]
      constructor
      · rintro (held | ⟨later, isSymbol⟩)
        · exact .inl held
        · exact .inr ⟨.inr later, isSymbol⟩
      · rintro (held | ⟨rfl | later, isSymbol⟩)
        · exact .inl held
        · obtain ⟨base, held⟩ := Option.isSome_iff_exists.mp present
          rw [isSymbol, held, append_usdt_inj (named _ _ held)]
          exact .inl rfl
        · exact .inr ⟨later, isSymbol⟩
    · rw [if_neg present]
      have absent : start.get? (first ++ "USDT") = none := by
        simpa [Dict.contains] using present
      have step : ∀ symbol asset, (start.set (first ++ "USDT") first).get? symbol = some asset
          ↔ start.get? symbol = some asset ∨ (asset = first ∧ symbol = first ++ "USDT") := by
        intro symbol asset
        rw [Dict.get?_set]
        split
        · rename_i same
          rw [same, absent]
          simp [eq_comm]
        · rename_i other
          simp [other]
      have next : Named (start.set (first ++ "USDT") first) := by
        intro symbol asset held
        rcases (step symbol asset).mp held with before | ⟨rfl, isSymbol⟩
        · exact named symbol asset before
        · exact isSymbol
      obtain ⟨still, found⟩ := ih next
      refine ⟨still, fun symbol asset => (found symbol asset).trans ?_⟩
      rw [step, List.mem_cons]
      constructor
      · rintro ((held | ⟨rfl, isSymbol⟩) | ⟨later, isSymbol⟩)
        · exact .inl held
        · exact .inr ⟨.inl rfl, isSymbol⟩
        · exact .inr ⟨.inr later, isSymbol⟩
      · rintro (held | ⟨rfl | later, isSymbol⟩)
        · exact .inl (.inl held)
        · exact .inl (.inr ⟨rfl, isSymbol⟩)
        · exact .inr ⟨later, isSymbol⟩

/-- The candidates are the resolved symbols of approved assets. -/
theorem get?_candidates {rawState : Document} {approved : List String}
    {entries : List (String × String)} {start candidates : UniverseMapping} (named : Named start)
    (admitted : entries.foldlM (admitCandidate rawState approved) start = .ok candidates) :
    Named candidates ∧ ∀ symbol asset, candidates.get? symbol = some asset
      ↔ start.get? symbol = some asset ∨ ((symbol, asset) ∈ entries ∧ asset ∈ approved) := by
  induction entries generalizing start with
  | nil =>
    cases admitted
    exact ⟨named, by simp⟩
  | cons entry rest ih =>
    rw [List.foldlM_cons] at admitted
    obtain ⟨next, step, admitted⟩ := bind_ok admitted
    obtain ⟨⟨⟩, canonical, step⟩ := bind_ok step
    obtain ⟨-, isSymbol⟩ := canonicalTrendMeta_ok canonical
    split at step
    · rename_i inScope
      cases step
      have after : ∀ symbol asset, (start.set entry.1 entry.2).get? symbol = some asset
          ↔ start.get? symbol = some asset ∨ (symbol, asset) = entry := by
        intro symbol asset
        rw [Dict.get?_set]
        split
        · rename_i same
          constructor
          · intro held
            cases held
            exact .inr (Prod.ext same rfl)
          · rintro (held | rfl)
            · have := named symbol asset held
              rw [same, isSymbol] at this
              rw [append_usdt_inj this]
            · rfl
        · rename_i other
          constructor
          · exact .inl
          · rintro (held | rfl)
            · exact held
            · exact absurd rfl other
      have stillNamed : Named (start.set entry.1 entry.2) := by
        intro symbol asset held
        rcases (after symbol asset).mp held with before | rfl
        · exact named symbol asset before
        · exact isSymbol
      obtain ⟨final, found⟩ := ih stillNamed admitted
      refine ⟨final, fun symbol asset => (found symbol asset).trans ?_⟩
      rw [after, List.mem_cons]
      constructor
      · rintro ((held | rfl) | ⟨later, approvedAsset⟩)
        · exact .inl held
        · exact .inr ⟨.inl rfl, inScope⟩
        · exact .inr ⟨.inr later, approvedAsset⟩
      · rintro (held | ⟨rfl | later, approvedAsset⟩)
        · exact .inl (.inl held)
        · exact .inl (.inr rfl)
        · exact .inr ⟨later, approvedAsset⟩
    · rename_i outside
      split at step
      · cases step
      · cases step
        obtain ⟨final, found⟩ := ih named admitted
        refine ⟨final, fun symbol asset => (found symbol asset).trans ?_⟩
        rw [List.mem_cons]
        constructor
        · rintro (held | ⟨later, approvedAsset⟩)
          · exact .inl held
          · exact .inr ⟨.inr later, approvedAsset⟩
        · rintro (held | ⟨rfl | later, approvedAsset⟩)
          · exact .inl held
          · exact absurd approvedAsset outside
          · exact .inr ⟨later, approvedAsset⟩

/-! ## Active positions -/

/-- The symbol has a record among the retired positions. -/
def RetiredRecord (rawState : Document) (symbol : String) : Prop :=
  ∃ retired, pyGet rawState retiredTrendPositionsKey = .dict retired
    ∧ (retired.get? symbol).isSome = true

/-- A position of a dedicated asset at the top level, and no retired record of its symbol. -/
def ActiveElsewhere (rawState : Document) (symbol : String) : Prop :=
  removeUsdt symbol ∈ dedicatedAssets ∧ ¬ RetiredRecord rawState symbol

omit [CharacterTable] in
theorem isSome_of_dict {d record : Document} {key : String} (held : pyGet d key = .dict record) :
    (d.get? key).isSome = true := by
  unfold pyGet at held
  cases found : d.get? key with
  | none =>
    rw [found] at held
    cases held
  | some value => rfl

omit [CharacterTable] in
/-- An active symbol is among the symbols that are checked, or its asset is managed apart. -/
theorem active_checked {rawState : Document} {symbol : String} (suffixed : endsWithUSDT symbol = true)
    (active : hasActiveSymbolState rawState symbol = true) :
    symbol ∈ stateSymbols rawState ∨ ActiveElsewhere rawState symbol := by
  by_cases retired : RetiredRecord rawState symbol
  · left
    obtain ⟨records, isRetired, present⟩ := retired
    rw [stateSymbols, isRetired]
    refine List.mem_append_right _ (List.mem_filter.mpr ⟨(Dict.mem_keys _ _).mpr present, suffixed⟩)
  by_cases dedicated : removeUsdt symbol ∈ dedicatedAssets
  · exact .inr ⟨dedicated, retired⟩
  left
  have topLevel : (rawState.get? symbol).isSome = true := by
    rw [hasActiveSymbolState, List.any_cons, Bool.or_eq_true] at active
    rcases active with here | there
    · split at here
      · rename_i record held
        exact isSome_of_dict held
      · cases here
    · obtain ⟨value, member, isActive⟩ := List.any_eq_true.mp there
      split at member
      · rename_i records isRetired
        rw [List.mem_singleton] at member
        subst member
        split at isActive
        · rename_i record held
          exact absurd ⟨records, isRetired, isSome_of_dict held⟩ retired
        · cases isActive
      · cases member
  refine List.mem_append_left _ (List.mem_filter.mpr ⟨(Dict.mem_keys _ _).mpr topLevel, ?_⟩)
  simp [suffixed, dedicated]

/-! ## The scope -/

/-- The scope of a prepared and checked ledger. -/
structure ExactScope (rawState : Document) (resolved candidates effective runtime : UniverseMapping)
    (state : Document) : Prop where
  assets : ∀ asset, (∃ symbol, effective.get? symbol = some asset) ↔ TrendAsset rawState asset
  candidates : ∀ symbol asset, candidates.get? symbol = some asset
    ↔ resolved.get? symbol = some asset ∧ TrendAsset rawState asset
  named : Named effective
  active : ∀ symbol, endsWithUSDT symbol = true → hasActiveSymbolState rawState symbol = true →
    effective.get? symbol = some (removeUsdt symbol) ∨ ActiveElsewhere rawState symbol
  retired : ∀ records symbol, pyGet state retiredTrendPositionsKey = .dict records →
    (records.get? symbol).isSome = true → (effective.get? symbol).isSome = true
  valued : ∀ symbol, runtime.get? symbol = effective.get? symbol

theorem prepared_some {rawState : Document} {resolved candidates effective : UniverseMapping}
    (rebased : rawState.contains "accounting_rebase" = true)
    (prepared : prepareUniverses isAlnum rawState resolved = .ok (candidates, effective)) :
    (∀ symbol ∈ stateSymbols rawState, hasActiveSymbolState rawState symbol = true →
        TrendAsset rawState (removeUsdt symbol))
      ∧ (∀ symbol asset, candidates.get? symbol = some asset
        ↔ resolved.get? symbol = some asset ∧ TrendAsset rawState asset)
      ∧ Named effective
      ∧ ∀ symbol asset, effective.get? symbol = some asset
        ↔ candidates.get? symbol = some asset ∨ (TrendAsset rawState asset ∧ symbol = asset ++ "USDT") := by
  obtain ⟨approved, isApproved, prepared⟩ := bind_ok prepared
  rw [rebasedApprovedAssets_some rebased isApproved] at prepared
  obtain ⟨passed, prepared⟩ := require_bind prepared
  obtain ⟨found, admitted, prepared⟩ := bind_ok prepared
  cases prepared
  have inScope : ∀ asset, asset ∈ (snapshotAssets rawState).filter (· ∉ dedicatedAssets)
      ↔ TrendAsset rawState asset := by
    intro asset
    simp [TrendAsset]
  have empty : Named (Dict.empty : UniverseMapping) := by
    intro symbol asset held
    cases held
  obtain ⟨named, isCandidate⟩ := get?_candidates empty admitted
  obtain ⟨final, isEffective⟩ := @get?_addApproved
    (((snapshotAssets rawState).filter (· ∉ dedicatedAssets)).insertionSort (· ≤ ·)) _ named
  refine ⟨fun symbol member isActive => ?_, fun symbol asset => ?_, final, fun symbol asset => ?_⟩
  · have checked := List.all_eq_true.mp passed symbol member
    rw [isActive, Bool.not_true, Bool.or_false, List.contains_iff_mem] at checked
    exact (inScope _).mp checked
  · rw [isCandidate, inScope, Dict.mem_items]
    simp
  · rw [isEffective, List.mem_insertionSort, inScope]

omit [CharacterTable] in
/-- Keeping the first record of each symbol loses none and covers every entry. -/
theorem get?_foldl_first {base : String × Value → String} {entries : List (String × Value)}
    {start : UniverseMapping} :
    (∀ symbol asset, start.get? symbol = some asset →
        (entries.foldl (fun runtime entry => if runtime.contains entry.1 then runtime
          else runtime.set entry.1 (base entry)) start).get? symbol = some asset)
      ∧ ∀ entry ∈ entries, ((entries.foldl (fun runtime entry =>
        if runtime.contains entry.1 then runtime
        else runtime.set entry.1 (base entry)) start).get? entry.1).isSome = true := by
  induction entries generalizing start with
  | nil => exact ⟨fun _ _ held => held, by simp⟩
  | cons first rest ih =>
    rw [List.foldl_cons]
    by_cases present : start.contains first.1 = true
    · rw [if_pos present]
      obtain ⟨kept, covered⟩ := @ih start
      refine ⟨kept, fun entry member => ?_⟩
      rcases List.mem_cons.mp member with rfl | later
      · obtain ⟨asset, held⟩ := Option.isSome_iff_exists.mp present
        rw [kept _ asset held]
        rfl
      · exact covered entry later
    · rw [if_neg present]
      obtain ⟨kept, covered⟩ := @ih (start.set first.1 (base first))
      refine ⟨fun symbol asset held => kept symbol asset ?_, fun entry member => ?_⟩
      · have other : symbol ≠ first.1 := by
          rintro rfl
          exact present (by rw [Dict.contains, held]; rfl)
        rw [Dict.get?_set_ne _ _ other, held]
      · rcases List.mem_cons.mp member with rfl | later
        · rw [kept _ _ (Dict.get?_set_self _ _ _)]
          rfl
        · exact covered entry later

/-- The runtime universe extends the effective one and has every retired record. -/
theorem runtime_within {state : Document} {effective : UniverseMapping} :
    (∀ symbol asset, effective.get? symbol = some asset →
        (getRuntimeTrendUniverse state effective).get? symbol = some asset)
      ∧ ∀ records symbol, pyGet state retiredTrendPositionsKey = .dict records →
        (records.get? symbol).isSome = true →
        ((getRuntimeTrendUniverse state effective).get? symbol).isSome = true := by
  unfold getRuntimeTrendUniverse pyGet
  split
  · rename_i retired held
    obtain ⟨kept, covered⟩ := @get?_foldl_first
      (fun entry => ((recordedBaseAsset entry.2).orElse (.str (inferBaseAsset entry.1))).toStr)
      retired.items effective
    refine ⟨kept, fun records symbol same present => ?_⟩
    rw [held] at same
    cases same
    obtain ⟨payload, found⟩ := Option.isSome_iff_exists.mp present
    exact covered (symbol, payload) ((Dict.mem_items _ _ _).mpr found)
  · rename_i none
    refine ⟨fun _ _ held => held, fun records symbol same present => ?_⟩
    cases found : state.get? retiredTrendPositionsKey with
    | none =>
      rw [found] at same
      cases same
    | some value =>
      rw [found] at same
      exact absurd (found.trans (congrArg some same)) (none records)

/-- The runtime universe of a checked ledger holds approved assets only. -/
theorem checked_scope {rawState : Document} {runtime : UniverseMapping}
    (rebased : rawState.contains "accounting_rebase" = true)
    (checked : checkRebasedAssetScope isAlnum rawState runtime = .ok ()) {symbol asset : String}
    (held : runtime.get? symbol = some asset) : TrendAsset rawState asset ∧ symbol = asset ++ "USDT" := by
  obtain ⟨approved, isApproved, checked⟩ := bind_ok checked
  rw [rebasedApprovedAssets_some rebased isApproved] at checked
  have entry := forM_ok checked (symbol, asset) ((Dict.mem_items _ _ _).mpr held)
  obtain ⟨⟨⟩, canonical, allowed⟩ := bind_ok entry
  have member := (require_ok).mp allowed
  rw [Bool.and_eq_true, List.contains_iff_mem] at member
  obtain ⟨notDedicated, isSymbol⟩ := canonicalTrendMeta_ok canonical
  exact ⟨⟨member.1, notDedicated⟩, isSymbol⟩

/-- When a rebased ledger's universes are prepared and its runtime universe passes the check,
its scope is exact. -/
theorem rebased_scope_exact {rawState state : Document}
    {resolved candidates effective : UniverseMapping}
    (rebased : rawState.contains "accounting_rebase" = true)
    (prepared : prepareUniverses isAlnum rawState resolved = .ok (candidates, effective))
    (checked : checkRebasedAssetScope isAlnum rawState (getRuntimeTrendUniverse state effective) = .ok ()) :
    ExactScope rawState resolved candidates effective (getRuntimeTrendUniverse state effective) state := by
  obtain ⟨actives, isCandidate, named, isEffective⟩ := prepared_some rebased prepared
  obtain ⟨kept, covered⟩ := @runtime_within _ state effective
  have inScope : ∀ symbol asset, effective.get? symbol = some asset
      ↔ TrendAsset rawState asset ∧ symbol = asset ++ "USDT" := by
    intro symbol asset
    refine ⟨fun held => ?_, fun trend => (isEffective symbol asset).mpr (.inr trend)⟩
    rcases (isEffective symbol asset).mp held with candidate | trend
    · exact ⟨((isCandidate symbol asset).mp candidate).2, named symbol asset held⟩
    · exact trend
  have valued : ∀ symbol, (getRuntimeTrendUniverse state effective).get? symbol = effective.get? symbol := by
    intro symbol
    cases found : (getRuntimeTrendUniverse state effective).get? symbol with
    | some asset => exact ((inScope symbol asset).mpr (checked_scope rebased checked found)).symm
    | none =>
      cases held : effective.get? symbol with
      | none => rfl
      | some asset =>
        rw [kept symbol asset held] at found
        cases found
  refine ⟨fun asset => ⟨?_, fun trend => ⟨asset ++ "USDT", (inScope _ _).mpr ⟨trend, rfl⟩⟩⟩, isCandidate,
    named, fun symbol suffixed active => ?_, fun records symbol isRetired present => ?_, valued⟩
  · rintro ⟨symbol, held⟩
    exact ((inScope symbol asset).mp held).1
  · rcases active_checked suffixed active with member | elsewhere
    · refine .inl ((inScope _ _).mpr ⟨actives symbol member active, ?_⟩)
      exact eq_append_of_suffixed suffixed
    · exact .inr elsewhere
  · rw [← valued symbol]
    exact covered records symbol isRetired present

end Scope

/-! ## A ledger with Bitcoin and Ether -/

section Sample
local instance : CharacterTable := asciiTable

/-- Bitcoin is held at the top level, Ether is approved and Solana is not. -/
def heldState : Document :=
  ⟨[("accounting_rebase", .dict .empty),
    ("last_balance_snapshot", .dict ⟨[("USDT", .int 1), ("BTC", .int 1), ("BNB", .int 1), ("ETH", .int 1)]⟩),
    ("BTCUSDT", .dict ⟨[("holding_qty", .int 1)]⟩),
    ("ETHUSDT", .dict ⟨[("is_holding", .bool true), ("entry_price", .int 1), ("highest_price", .int 1)]⟩)]⟩

def resolvedPool : UniverseMapping := ⟨[("SOLUSDT", "SOL"), ("ETHUSDT", "ETH")]⟩

def etherUniverse : UniverseMapping := ⟨[("ETHUSDT", "ETH")]⟩

def loadedState : Document :=
  (normalizeTradeState (trendUniverseOf etherUniverse) (.dict heldState)).toOption.getD .empty

theorem heldState_prepared : prepareUniverses SingleValuation.asciiAlnum heldState resolvedPool
    = .ok (etherUniverse, etherUniverse) := by rfl

theorem heldState_loaded :
    normalizeTradeState (trendUniverseOf etherUniverse) (.dict heldState) = .ok loadedState := by rfl

theorem heldState_checked : checkRebasedAssetScope SingleValuation.asciiAlnum heldState
    (getRuntimeTrendUniverse loadedState etherUniverse) = .ok () := by rfl

theorem rebased_scope_exact_sample : ExactScope heldState resolvedPool etherUniverse etherUniverse
    (getRuntimeTrendUniverse loadedState etherUniverse) loadedState :=
  rebased_scope_exact (by decide) heldState_prepared heldState_checked

/-- Bitcoin is outside the scope and held at the top level. -/
theorem bitcoin_held_outside :
    ¬ ∀ [CharacterTable] (isAlnum : String → Bool) (rawState state : Document)
      (resolved candidates effective : UniverseMapping),
      rawState.contains "accounting_rebase" = true →
      prepareUniverses isAlnum rawState resolved = .ok (candidates, effective) →
      normalizeTradeState (trendUniverseOf effective) (.dict rawState) = .ok state →
      checkRebasedAssetScope isAlnum rawState (getRuntimeTrendUniverse state effective) = .ok () →
      ∀ symbol, endsWithUSDT symbol = true → effective.get? symbol = none →
        hasActiveSymbolState rawState symbol = false := by
  intro apart
  have idle := apart SingleValuation.asciiAlnum heldState loadedState resolvedPool etherUniverse
    etherUniverse (by decide) heldState_prepared heldState_loaded heldState_checked "BTCUSDT"
    (by decide) (by decide)
  revert idle
  decide +kernel

end Sample
end BinancePlatform.Guarantees.RebasedScope
