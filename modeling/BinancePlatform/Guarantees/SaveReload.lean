import BinancePlatform.Source.SessionSave

/-!
# Saving and loading the trade state

An ordinary save commits `{**source, **normalize(s)}`. The committed document
normalizes back to `normalize(s)` exactly where nothing that only the source
carries is read by the next normalization (`save_reload_iff`):

* a source-only rebase marker or Earn field reappears;
* a source-only active record of a symbol outside the universe reappears as a
  retired position (`reloaded_retired`), whatever the working state had decided;
* every other source-only field is filtered out again (`get?_normalized_other`).
-/

set_option autoImplicit false

namespace BinancePlatform.Guarantees.SaveReload
open BinancePlatform.Library BinancePlatform.Source

def isMappingField (state : Document) (key : String) : Prop :=
  ∃ marker, state.get? key = some (.dict marker)

theorem get?_intended (source normalized : Document) (key : String) :
    (intendedDocument source normalized).get? key = (normalized.get? key).or (source.get? key) :=
  Dict.get?_update source normalized key

/-- Overlaying a default on its own result changes nothing. -/
theorem mergeDefault_idem {key : String} {default : Value} (current : Option Value)
    (field : Dict.find key defaultFields = some default) :
    mergeDefault default (some (mergeDefault default current)) = mergeDefault default current := by
  have unique : ∀ entry ∈ defaultFields, ∀ d, entry.2 = .dict d → d.keyList.Nodup := by
    intro entry member d shape
    simp only [defaultFields, List.mem_cons, List.not_mem_nil, or_false] at member
    rcases member with rfl | rfl | rfl | rfl | rfl | rfl | rfl | rfl | rfl | rfl | rfl | rfl | rfl
      | rfl | rfl | rfl | rfl | rfl | rfl | rfl | rfl | rfl | rfl | rfl | rfl | rfl | rfl | rfl | rfl
      | rfl | rfl | rfl | rfl | rfl <;> cases shape <;> decide
  have distinct : (defaultFields.map Prod.fst).Nodup := by decide
  have member := (Dict.find_eq_some_iff_mem defaultFields distinct key default).mp field
  cases default with
  | dict base =>
    have baseUnique := unique _ member base rfl
    simp only [mergeDefault]
    cases current.getD emptyDict with
    | dict stored => simp only [Option.getD_some, Dict.update_update base stored baseUnique]
    | _ => simp only [Option.getD_some, Dict.update_self]
  | _ => rfl

section Reload
variable [CharacterTable]

/-- A top-level record that the next normalization would retire. -/
structure StaleRecord (trendUniverse : TrendUniverse) (source : Document) (symbol : String)
    (payload : Value) : Prop where
  stored : source.get? symbol = some payload
  suffix : endsWithUSDT symbol = true
  outside : symbol ∉ trendUniverse.symbols
  notBitcoin : symbol ≠ "BTCUSDT"
  active : retires payload = true

/-- Nothing that only the source carries changes what the working state means. -/
structure ReloadsExactly (trendUniverse : TrendUniverse) (source state : Document) : Prop where
  rebase : isMappingField source "accounting_rebase" → isMappingField state "accounting_rebase"
  earn : ∀ key ∈ earnFields, (source.get? key).isSome = true → (state.get? key).isSome = true
  retired : ∀ symbol payload, StaleRecord trendUniverse source symbol payload →
    (carriedRecord state symbol).map (retiredEntry symbol) = some (retiredEntry symbol payload)

omit [CharacterTable] in
theorem notKey {symbol : String} (suffix : endsWithUSDT symbol = true) :
    symbol ≠ retiredTrendPositionsKey := by
  rintro rfl
  revert suffix
  decide

section Committed
variable {trendUniverse : TrendUniverse} {source state normalized : Document}
  (working : normalizeTradeState trendUniverse (.dict state) = .ok normalized)

include working

/-- The accounting of the committed document is that of the working state. -/
theorem accounting_intended (valid : trendAccountingValid state = .ok true) :
    trendAccountingValid (intendedDocument source normalized) = .ok true := by
  rw [← valid]
  refine trendAccountingValid_congr fun field member => ?_
  obtain ⟨value, recorded⟩ := trendAccountingValid_present valid field member
  have facts : Dict.find field defaultFields = some zeroFloat ∧ endsWithUSDT field = false
      ∧ field ≠ retiredTrendPositionsKey ∧ field ≠ "daily_trend_pnl_basis" := by
    simp only [accountingFields, List.mem_cons, List.not_mem_nil, or_false] at member
    rcases member with rfl | rfl | rfl | rfl <;> exact ⟨rfl, by decide, by decide, by decide⟩
  obtain ⟨default, suffix, notRetired, notBasis⟩ := facts
  rw [get?_intended, get?_normalized_default working default (not_symbol_of_suffix _ suffix)
    notRetired notBasis, recorded]
  rfl

/-- The committed document can be normalized again, with the same basis. -/
theorem reload_basis : AccountingReadable (intendedDocument source normalized)
    ∧ ∀ {reloaded : Document},
      normalizeTradeState trendUniverse (.dict (intendedDocument source normalized)) = .ok reloaded →
      reloaded.get? "daily_trend_pnl_basis" = normalized.get? "daily_trend_pnl_basis" := by
  obtain ⟨basis, kept, maintained, -⟩ := get?_normalized_basis working
  have stored : (intendedDocument source normalized).get? "daily_trend_pnl_basis" = some basis := by
    rw [get?_intended, kept]
    rfl
  constructor
  · intro recorded
    rw [stored] at recorded
    exact ⟨true, accounting_intended working (maintained recorded)⟩
  · intro reloaded success
    obtain ⟨again, found, -, recovered⟩ := get?_normalized_basis success
    rw [found, kept, recovered ?_, stored]
    · rfl
    · by_cases recorded : basis.isStr trendAccountingBasis = true
      · exact .inl (accounting_intended working (maintained recorded))
      · exact .inr (by simpa [stored] using recorded)

/-- The retired positions of the working state, as the next normalization finds them. -/
theorem intended_retired (source : Document) : ∃ fields,
    normalized.get? retiredTrendPositionsKey
        = some (.dict (retiredPositions trendUniverse state fields))
      ∧ (∀ key, key ≠ retiredTrendPositionsKey → fields.get? key = normalized.get? key)
      ∧ existingRetired (intendedDocument source normalized)
        = retiredPositions trendUniverse state fields
      ∧ ∀ symbol entry, (retiredPositions trendUniverse state fields).get? symbol = some entry →
        symbol ∉ trendUniverse.symbols ∧ retires entry = true ∧ retiredEntry symbol entry = entry := by
  obtain ⟨fields, kept, fieldsAt⟩ := normalizeTradeState_split working
  refine ⟨fields, kept, fieldsAt, ?_, fun symbol entry found => retiredPositions_entry ?_ found⟩
  · rw [existingRetired, get?_intended, kept]
    rfl
  · intro universeSymbol member
    rw [Dict.contains, fieldsAt _ (notKey (trendUniverse.suffixed _ member)),
      get?_normalized_symbol working member]
    rfl

variable {reloaded : Document}
  (reload : normalizeTradeState trendUniverse (.dict (intendedDocument source normalized))
    = .ok reloaded)

include reload

theorem reload_default {key : String} {default : Value}
    (field : Dict.find key defaultFields = some default) (notSymbol : key ∉ trendUniverse.symbols)
    (notRetired : key ≠ retiredTrendPositionsKey) : reloaded.get? key = normalized.get? key := by
  by_cases isBasis : key = "daily_trend_pnl_basis"
  · subst isBasis
    exact (reload_basis working).2 reload
  · have kept := get?_normalized_default working field notSymbol notRetired isBasis
    rw [get?_normalized_default reload field notSymbol notRetired isBasis, get?_intended, kept,
      Option.some_or, mergeDefault_idem _ field]

theorem reload_earn {key : String} (field : key ∈ earnFields) :
    reloaded.get? key = normalized.get? key
      ↔ ((source.get? key).isSome = true → (state.get? key).isSome = true) := by
  rw [get?_normalized_earn reload field, get?_intended, get?_normalized_earn working field]
  cases state.get? key <;> cases source.get? key <;> simp

theorem reload_rebase : reloaded.get? "accounting_rebase" = normalized.get? "accounting_rebase"
    ↔ (isMappingField source "accounting_rebase" → isMappingField state "accounting_rebase") := by
  have kept := get?_normalized_rebase working
  rw [get?_normalized_rebase reload, get?_intended]
  split at kept
  case h_1 marker found =>
    rw [kept]
    simp [isMappingField, found]
  case h_2 absent =>
    have noMarker : ¬ isMappingField state "accounting_rebase" := by
      rintro ⟨marker, found⟩
      exact absent marker found
    rw [kept, Option.none_or]
    constructor
    · intro same
      rintro ⟨marker, found⟩
      rw [found] at same
      cases same
    · intro unmarked
      split
      case h_1 marker found => exact absurd (unmarked ⟨marker, found⟩) noMarker
      case h_2 => rfl

theorem reload_symbol {symbol : String} (member : symbol ∈ trendUniverse.symbols) :
    reloaded.get? symbol = normalized.get? symbol := by
  obtain ⟨fields, -, -, carried, entryOf⟩ := intended_retired working source
  have own := get?_normalized_symbol working member
  have unretired : (existingRetired (intendedDocument source normalized)).get? symbol = none := by
    rw [carried]
    by_contra found
    obtain ⟨entry, found⟩ := Option.ne_none_iff_exists'.mp found
    exact (entryOf symbol entry found).1 member
  have stored : (intendedDocument source normalized).get? symbol
      = some (.dict (mergedSymbolState state symbol)) := by
    rw [get?_intended, own]
    rfl
  rw [get?_normalized_symbol reload member, own, mergedSymbolState_normalized stored unretired]
  rfl

/-- A symbol outside the universe is in the committed document as the source has it. -/
theorem get?_intended_outside {symbol : String} (suffix : endsWithUSDT symbol = true)
    (outside : symbol ∉ trendUniverse.symbols) (notBitcoin : symbol ≠ "BTCUSDT") :
    (intendedDocument source normalized).get? symbol = source.get? symbol
      ∧ normalized.contains symbol = false ∧ reloaded.contains symbol = false := by
  have absent : ∀ {s n : Document}, normalizeTradeState trendUniverse (.dict s) = .ok n →
      n.contains symbol = false := by
    intro s n success
    rw [← Bool.not_eq_true, contains_normalized_suffix success suffix]
    simp [outside, notBitcoin]
  refine ⟨?_, absent working, absent reload⟩
  have none : normalized.get? symbol = none := by simpa [Dict.contains] using absent working
  rw [get?_intended, none, Option.none_or]

/-- Every stale record of the source reappears with its own values. -/
theorem reloaded_retired : reloaded.get? retiredTrendPositionsKey
      = normalized.get? retiredTrendPositionsKey
    ↔ ∀ symbol payload, StaleRecord trendUniverse source symbol payload →
      (carriedRecord state symbol).map (retiredEntry symbol) = some (retiredEntry symbol payload) := by
  obtain ⟨fields, kept, fieldsAt, carried, entryOf⟩ := intended_retired working source
  obtain ⟨fields', kept', fieldsAt'⟩ := normalizeTradeState_split reload
  -- The first loop of the second normalization rebuilds the retired positions as they are.
  have rebuilt : Dict.collect (fun symbol payload =>
      if symbol ∉ trendUniverse.symbols ∧ retires payload = true then
        some (retiredEntry symbol payload) else none)
      (retiredPositions trendUniverse state fields) .empty
        = retiredPositions trendUniverse state fields := by
    refine Dict.collect_all (retiredPositions_unique trendUniverse state fields) ?_
    intro symbol entry found
    obtain ⟨outside, active, own⟩ := entryOf symbol entry found
    rw [if_pos ⟨outside, active⟩, own]
  have atStale : ∀ {symbol payload}, StaleRecord trendUniverse source symbol payload →
      (retiredPositions trendUniverse state fields).get? symbol
        = (carriedRecord state symbol).map (retiredEntry symbol) := by
    intro symbol payload stale
    refine get?_retiredPositions_carried stale.outside ?_ stale.suffix
    rw [Dict.contains, fieldsAt symbol (notKey stale.suffix)]
    exact (get?_intended_outside working reload stale.suffix stale.outside stale.notBitcoin).2.1
  rw [kept, kept', Option.some.injEq, Value.dict.injEq]
  constructor
  · intro same symbol payload stale
    obtain ⟨stored, -, free⟩ :=
      get?_intended_outside working reload stale.suffix stale.outside stale.notBitcoin
    have free' : fields'.contains symbol = false := by
      rw [Dict.contains, fieldsAt' symbol (notKey stale.suffix)]
      exact free
    rw [← atStale stale, ← same, get?_retiredPositions, stored, stale.stored, Option.bind_some,
      if_pos ⟨free', notKey stale.suffix, stale.suffix, stale.active⟩, Option.some_or]
  · intro inert
    rw [retiredPositions, carried]
    simp only [rebuilt]
    refine Dict.setAll_of_present fun entry member => ?_
    obtain ⟨⟨symbol, payload⟩, inItems, produced⟩ := List.mem_filterMap.mp member
    obtain ⟨value, admitted, rfl⟩ := Option.map_eq_some_iff.mp produced
    dsimp only at admitted
    split at admitted <;> cases admitted
    rename_i guards
    obtain ⟨free', -, suffix, active⟩ := guards
    have free : reloaded.contains symbol = false := by
      rw [Dict.contains, ← fieldsAt' symbol (notKey suffix)]
      exact free'
    have outside : ¬ (symbol ∈ trendUniverse.symbols ∨ symbol = "BTCUSDT") := by
      rw [← contains_normalized_suffix reload suffix, free]
      simp
    rw [not_or] at outside
    have stored := (get?_intended_outside working reload suffix outside.1 outside.2).1
    rw [(Dict.mem_items _ _ _).mp inItems] at stored
    have stale : StaleRecord trendUniverse source symbol payload :=
      ⟨stored.symm, suffix, outside.1, outside.2, active⟩
    exact (atStale stale).trans (inert symbol payload stale)

theorem reload_exact (exact : ReloadsExactly trendUniverse source state) :
    reloaded.Same normalized := by
  intro key
  by_cases isRetired : key = retiredTrendPositionsKey
  · rw [isRetired]
    exact (reloaded_retired working reload).mpr exact.retired
  by_cases isRebase : key = "accounting_rebase"
  · rw [isRebase]
    exact (reload_rebase working reload).mpr exact.rebase
  by_cases isEarn : key ∈ earnFields
  · exact (reload_earn working reload isEarn).mpr (exact.earn key isEarn)
  by_cases isSymbol : key ∈ trendUniverse.symbols
  · exact reload_symbol working reload isSymbol
  · cases field : Dict.find key defaultFields with
    | some default => exact reload_default working reload field isSymbol isRetired
    | none => rw [get?_normalized_other working isSymbol field isEarn isRebase,
        get?_normalized_other reload isSymbol field isEarn isRebase]

end Committed

/-- A successful save reloads as the working state exactly where nothing that only the
source carries is read again. -/
theorem save_reload_iff {trendUniverse : TrendUniverse} {receiptEnabled : Bool}
    {source state committed : Document}
    (saved : ordinarySave trendUniverse receiptEnabled source state = .ok committed) :
    (∃ normalized reloaded, normalizeTradeState trendUniverse (.dict state) = .ok normalized
        ∧ normalizeTradeState trendUniverse (.dict committed) = .ok reloaded
        ∧ reloaded.Same normalized)
      ↔ ReloadsExactly trendUniverse source state := by
  obtain ⟨normalized, working, rfl⟩ := ordinarySave_ok saved
  obtain ⟨reloaded, reload⟩ := (normalizeTradeState_returns_iff trendUniverse
    (intendedDocument source normalized)).mpr (reload_basis working).1
  constructor
  · rintro ⟨normalized', reloaded', working', reload', same⟩
    obtain rfl : normalized = normalized' := Except.ok.inj (working.symm.trans working')
    obtain rfl : reloaded = reloaded' := Except.ok.inj (reload.symm.trans reload')
    exact ⟨(reload_rebase working reload).mp (same _),
      fun key field => (reload_earn working reload field).mp (same key),
      (reloaded_retired working reload).mp (same _)⟩
  · intro exact
    exact ⟨normalized, reloaded, working, reload, reload_exact working reload exact⟩

end Reload

/-! ## A closed position that comes back -/

section Closed

local instance : CharacterTable := asciiTable

def closedUniverse : TrendUniverse := ⟨[], by simp, by simp⟩

/-- The source still has the record under its own symbol. -/
def staleSource : Document := ⟨[("XYZUSDT", .dict ⟨[("is_holding", .bool true)]⟩)]⟩

/-- The working state after the retired position was closed. -/
def closedState : Document := ⟨[(retiredTrendPositionsKey, emptyDict)]⟩

private theorem closedState_saved :
    ∃ committed, ordinarySave closedUniverse false staleSource closedState
      = .ok committed := by
  have returned : (ordinarySave closedUniverse false staleSource closedState).isOk
      = true := by decide +kernel
  cases outcome : ordinarySave closedUniverse false staleSource closedState with
  | ok committed => exact ⟨committed, rfl⟩
  | error raised =>
    rw [outcome] at returned
    cases returned

theorem save_reload_iff_closedState :
    ∃ committed, ordinarySave closedUniverse false staleSource closedState = .ok committed
      ∧ ((∃ normalized reloaded,
            normalizeTradeState closedUniverse (.dict closedState) = .ok normalized
          ∧ normalizeTradeState closedUniverse (.dict committed) = .ok reloaded
          ∧ reloaded.Same normalized)
        ↔ ReloadsExactly closedUniverse staleSource closedState) := by
  obtain ⟨committed, saved⟩ := closedState_saved
  exact ⟨committed, saved, save_reload_iff saved⟩

/-- Saving a state that closed its retired position does not reload as that state. -/
theorem closed_position_returns :
    ¬ ∀ [CharacterTable] (trendUniverse : TrendUniverse) (receiptEnabled : Bool)
        (source state committed : Document),
      ordinarySave trendUniverse receiptEnabled source state = .ok committed →
      ∃ normalized reloaded, normalizeTradeState trendUniverse (.dict state) = .ok normalized
        ∧ normalizeTradeState trendUniverse (.dict committed) = .ok reloaded
        ∧ reloaded.Same normalized := by
  intro roundTrip
  obtain ⟨committed, saved⟩ := closedState_saved
  obtain ⟨normalized, reloaded, working, reload, same⟩ :=
    roundTrip closedUniverse false staleSource closedState committed saved
  obtain ⟨normalized', working', rfl⟩ := ordinarySave_ok saved
  obtain rfl : normalized = normalized' := Except.ok.inj (working.symm.trans working')
  have inert := (reloaded_retired working reload).mp (same _)
  have stale : StaleRecord closedUniverse staleSource "XYZUSDT" (.dict ⟨[("is_holding", .bool true)]⟩) :=
    ⟨rfl, by decide, by simp [closedUniverse], by decide, by decide⟩
  have impossible := inert _ _ stale
  cases impossible

end Closed
end BinancePlatform.Guarantees.SaveReload
