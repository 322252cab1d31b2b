import BinancePlatform.Source.TradeState

/-!
# Reading and writing one symbol's record

`get_symbol_trade_state` and `set_symbol_trade_state` of `trade_state_support.py`. A
symbol of the universe has its record at the top level of the document, any other
symbol under `retired_trend_positions`.
-/

set_option autoImplicit false

namespace BinancePlatform.Source
open BinancePlatform.Library

def getSymbolTradeState (trendUniverse : TrendUniverse) (state : Document) (symbol : String) :
    Document :=
  if symbol ∈ trendUniverse.symbols then
    normalizeSymbolState ((state.get? symbol).getD emptyDict)
  else
    match (state.get? retiredTrendPositionsKey).getD emptyDict with
    | .dict retired => normalizeSymbolState ((retired.get? symbol).getD emptyDict)
    | _ => defaultTrendSymbolState

/-- `state.setdefault(retired_positions_key, {})`. -/
def withRetiredPositions (state : Document) : Document :=
  if state.contains retiredTrendPositionsKey then state
  else state.set retiredTrendPositionsKey emptyDict

section Set
variable [CharacterTable]

/-- The retired entry of an active position; a base asset recorded before is kept. -/
def heldEntry (symbol : String) (position existing : Document) : Value :=
  .dict (position.set "base_asset"
    (.str (((existing.get? "base_asset").getD .none).orElse (.str (inferBaseAsset symbol))).toStr))

def setSymbolTradeState (trendUniverse : TrendUniverse) (state : Document) (symbol : String)
    (value : Value) : Except PyException Document :=
  let position := normalizeSymbolState value
  let prepared := withRetiredPositions state
  if symbol ∈ trendUniverse.symbols then
    let placed := prepared.set symbol (.dict position)
    match prepared.get? retiredTrendPositionsKey with
    | some (.dict retired) => .ok (placed.set retiredTrendPositionsKey (.dict (retired.erase symbol)))
    | _ => .ok placed
  else
    let retired := existingRetired prepared
    if hasActivePosition position then do
      let existing ← asMapping attributeError ((retired.get? symbol).getD emptyDict)
      return prepared.set retiredTrendPositionsKey
        (.dict (retired.set symbol (heldEntry symbol position existing)))
    else .ok (prepared.set retiredTrendPositionsKey (.dict (retired.erase symbol)))

end Set

/-! ## What an access reads and writes -/

@[simp] theorem existingRetired_set (state retired : Document) :
    existingRetired (state.set retiredTrendPositionsKey (.dict retired)) = retired := by
  rw [existingRetired, Dict.get?_set_self]

theorem existingRetired_set_ne {key : String} (state : Document) (value : Value)
    (other : key ≠ retiredTrendPositionsKey) :
    existingRetired (state.set key value) = existingRetired state := by
  rw [existingRetired, existingRetired, Dict.get?_set_ne _ _ other.symm]

theorem existingRetired_withRetiredPositions (state : Document) :
    existingRetired (withRetiredPositions state) = existingRetired state := by
  unfold withRetiredPositions
  split
  · rfl
  case isFalse absent =>
    have missing : state.get? retiredTrendPositionsKey = none := by
      simpa [Dict.contains] using absent
    rw [emptyDict, existingRetired_set, existingRetired, missing]

theorem get?_withRetiredPositions {state : Document} {key : String}
    (other : key ≠ retiredTrendPositionsKey) :
    (withRetiredPositions state).get? key = state.get? key := by
  unfold withRetiredPositions
  split
  · rfl
  · exact Dict.get?_set_ne _ _ other

theorem getSymbolTradeState_inside {trendUniverse : TrendUniverse} {state : Document}
    {symbol : String} (member : symbol ∈ trendUniverse.symbols) :
    getSymbolTradeState trendUniverse state symbol
      = normalizeSymbolState ((state.get? symbol).getD emptyDict) := if_pos member

theorem getSymbolTradeState_outside {trendUniverse : TrendUniverse} {state : Document}
    {symbol : String} (outside : symbol ∉ trendUniverse.symbols) :
    getSymbolTradeState trendUniverse state symbol
      = normalizeSymbolState (((existingRetired state).get? symbol).getD emptyDict) := by
  rw [getSymbolTradeState, if_neg outside, existingRetired]
  cases state.get? retiredTrendPositionsKey with
  | none => rfl
  | some stored => cases stored <;> rfl

section Set
variable [CharacterTable]

theorem normalizeSymbolState_heldEntry (symbol : String) (value : Value) (existing : Document) :
    normalizeSymbolState (heldEntry symbol (normalizeSymbolState value) existing)
      = normalizeSymbolState value := by
  obtain ⟨holding, entry, highest, shape⟩ := normalizeSymbolState_shape value
  rw [heldEntry, shape]
  apply normalizeSymbolState_of_fields <;> rw [Dict.get?_set_ne _ _ (by decide)] <;> rfl

theorem retires_heldEntry {symbol : String} {value : Value} (existing : Document)
    (active : hasActivePosition (normalizeSymbolState value) = true) :
    retires (heldEntry symbol (normalizeSymbolState value) existing) = true := by
  rw [retires, normalizeSymbolState_heldEntry, active, Bool.and_true]
  obtain ⟨holding, entry, highest, shape⟩ := normalizeSymbolState_shape value
  rw [heldEntry, shape]
  simp [isTrendSymbolState, Dict.contains, Dict.get?_set]

/-- Where a write puts the record, and that it leaves the other symbols alone. -/
theorem setSymbolTradeState_ok {trendUniverse : TrendUniverse} {state next : Document}
    {symbol : String} {value : Value}
    (success : setSymbolTradeState trendUniverse state symbol value = .ok next) :
    (∀ key, key ≠ symbol → key ≠ retiredTrendPositionsKey → next.get? key = state.get? key)
      ∧ (∀ key, key ≠ symbol → (existingRetired next).get? key = (existingRetired state).get? key)
      ∧ (symbol ∈ trendUniverse.symbols →
        next.get? symbol = some (.dict (normalizeSymbolState value))
          ∧ (existingRetired next).get? symbol = none)
      ∧ (symbol ∉ trendUniverse.symbols →
        (symbol ≠ retiredTrendPositionsKey → next.get? symbol = state.get? symbol)
          ∧ ∃ existing, (existingRetired next).get? symbol
            = if hasActivePosition (normalizeSymbolState value) = true then
                some (heldEntry symbol (normalizeSymbolState value) existing) else none) := by
  unfold setSymbolTradeState at success
  dsimp only at success
  by_cases member : symbol ∈ trendUniverse.symbols
  · have notKey : symbol ≠ retiredTrendPositionsKey := by
      rintro rfl
      exact not_symbol_of_suffix trendUniverse (by decide) member
    rw [if_pos member] at success
    -- The key is there after `setdefault`; a stored value that is no mapping is left as it is.
    have retired : existingRetired next = (existingRetired state).erase symbol
        ∧ ∀ key, key ≠ retiredTrendPositionsKey →
          next.get? key = ((withRetiredPositions state).set symbol
            (.dict (normalizeSymbolState value))).get? key := by
      rw [← existingRetired_withRetiredPositions state]
      split at success
      case h_1 stored found =>
        cases success
        refine ⟨?_, fun key other => Dict.get?_set_ne _ _ other⟩
        rw [existingRetired_set, existingRetired, found]
      case h_2 shape =>
        cases success
        refine ⟨?_, fun _ _ => rfl⟩
        rw [existingRetired_set_ne _ _ notKey, existingRetired]
        split
        case h_1 stored found => exact absurd found (shape stored)
        case h_2 => rfl
    refine ⟨?_, ?_, ?_, fun outside => absurd member outside⟩
    · intro key other notRetired
      rw [retired.2 key notRetired, Dict.get?_set_ne _ _ other, get?_withRetiredPositions notRetired]
    · intro key other
      rw [retired.1, Dict.get?_erase, if_neg other]
    · intro _
      refine ⟨?_, ?_⟩
      · rw [retired.2 symbol notKey, Dict.get?_set_self]
      · rw [retired.1, Dict.get?_erase, if_pos rfl]
  · rw [if_neg member] at success
    -- Outside the universe only the retired positions change.
    have written : ∃ fields, next = (withRetiredPositions state).set retiredTrendPositionsKey (.dict fields)
        ∧ (∀ key, key ≠ symbol → fields.get? key = (existingRetired state).get? key)
        ∧ ∃ existing, fields.get? symbol = if hasActivePosition (normalizeSymbolState value) = true then
            some (heldEntry symbol (normalizeSymbolState value) existing) else none := by
      rw [existingRetired_withRetiredPositions] at success
      split at success
      case isTrue active =>
        obtain ⟨existing, mapping, success⟩ := bind_ok success
        cases success
        refine ⟨_, rfl, fun key other => Dict.get?_set_ne _ _ other, existing, ?_⟩
        rw [Dict.get?_set_self, if_pos active]
      case isFalse inactive =>
        cases success
        refine ⟨_, rfl, fun key other => ?_, .empty, ?_⟩
        · rw [Dict.get?_erase, if_neg other]
        · rw [Dict.get?_erase, if_pos rfl, if_neg inactive]
    obtain ⟨fields, rfl, others, existing, own⟩ := written
    refine ⟨?_, ?_, fun inside => absurd inside member, fun _ => ⟨fun notKey => ?_, existing, ?_⟩⟩
    · intro key _ notRetired
      rw [Dict.get?_set_ne _ _ notRetired, get?_withRetiredPositions notRetired]
    · intro key other
      rw [existingRetired_set, others key other]
    · rw [Dict.get?_set_ne _ _ notKey, get?_withRetiredPositions notKey]
    · rw [existingRetired_set, own]

end Set
end BinancePlatform.Source
