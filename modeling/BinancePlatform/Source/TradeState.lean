import BinancePlatform.Source.Python

/-!
# Trade-state documents

`trade_state_support.py`: the default document, normalization of a stored or
working document, and the per-symbol accessors. The three configurable keys are
the constants of `main.py`; a trend universe holds what
`parse_trend_universe_mapping` admits.
-/

set_option autoImplicit false

namespace BinancePlatform.Source
open BinancePlatform.Library

def endsWithUSDT (symbol : String) : Bool := "USDT".toList.isSuffixOf symbol.toList

def inferBaseAsset (symbol : String) : String :=
  if endsWithUSDT symbol then String.ofList (symbol.toList.take (symbol.toList.length - 4))
  else symbol

theorem eq_append_of_suffixed {symbol : String} (suffixed : endsWithUSDT symbol = true) :
    symbol = inferBaseAsset symbol ++ "USDT" := by
  obtain ⟨front, split⟩ := List.isSuffixOf_iff_suffix.mp suffixed
  have size : symbol.toList.length = front.length + 4 := by
    rw [← split, List.length_append]
    rfl
  apply String.toList_injective
  rw [inferBaseAsset, if_pos suffixed, size, ← split, String.toList_append]
  simp

theorem suffixed_append (asset : String) : endsWithUSDT (asset ++ "USDT") = true := by
  rw [endsWithUSDT, List.isSuffixOf_iff_suffix, String.toList_append]
  exact List.suffix_append _ _

theorem append_usdt_inj {a b : String} (same : a ++ "USDT" = b ++ "USDT") : a = b := by
  have texts := congrArg String.toList same
  rw [String.toList_append, String.toList_append] at texts
  exact String.toList_injective (List.append_cancel_right texts)

theorem inferBaseAsset_append (asset : String) : inferBaseAsset (asset ++ "USDT") = asset :=
  (append_usdt_inj (eq_append_of_suffixed (suffixed_append asset))).symm

theorem inferBaseAsset_eq_iff {symbol asset : String} (suffixed : endsWithUSDT symbol = true) :
    inferBaseAsset symbol = asset ↔ symbol = asset ++ "USDT" := by
  constructor
  · intro named
    rw [← named]
    exact eq_append_of_suffixed suffixed
  · intro named
    rw [named]
    exact inferBaseAsset_append asset

def retiredTrendPositionsKey : String := "retired_trend_positions"
def trendPoolLastGoodPayloadKey : String := "trend_pool_last_good_payload"
def trendPoolActionHistoryKey : String := "trend_action_history"

/-- The symbols of a parsed trend universe, in order. -/
structure TrendUniverse where
  symbols : List String
  nodup : symbols.Nodup
  suffixed : ∀ symbol ∈ symbols, endsWithUSDT symbol = true

def safeFloat (value : Value) : PyFloat :=
  match value.toFloat with
  | .ok x => x
  | .error _ => .zero

def zeroFloat : Value := .float .zero

def emptyDict : Value := .dict .empty

def defaultTrendSymbolState : Document :=
  ⟨[("is_holding", .bool false), ("entry_price", zeroFloat), ("highest_price", zeroFloat)]⟩

/-- A mapping with at least one of the record's fields. -/
def isTrendSymbolState : Value → Bool
  | .dict d => d.contains "is_holding" || d.contains "entry_price" || d.contains "highest_price"
  | _ => false

def symbolState (holding : Bool) (entry highest : PyFloat) : Document :=
  ⟨[("is_holding", .bool holding), ("entry_price", .float entry), ("highest_price", .float highest)]⟩

def normalizeSymbolState : Value → Document
  | .dict d =>
    symbolState ((d.get? "is_holding").getD (.bool false)).truthy
      (safeFloat ((d.get? "entry_price").getD zeroFloat))
      (safeFloat ((d.get? "highest_price").getD zeroFloat))
  | _ => defaultTrendSymbolState

def hasActivePosition (position : Document) : Bool :=
  ((position.get? "is_holding").getD .none).truthy
    || (safeFloat ((position.get? "entry_price").getD zeroFloat)).isPositive
    || (safeFloat ((position.get? "highest_price").getD zeroFloat)).isPositive

/-- The default document without its trend symbols. -/
def defaultFields : List (String × Value) :=
  [("BTCUSDT", .dict ⟨[("holding_qty", zeroFloat), ("avg_cost", zeroFloat)]⟩),
   ("daily_equity_base", zeroFloat),
   ("daily_trend_equity_base", zeroFloat),
   ("daily_trend_pnl_basis", .str ""),
   ("daily_trend_cash_flow_usdt", zeroFloat),
   ("daily_trend_net_invested_usdt", zeroFloat),
   ("daily_trend_risk_base_usdt", zeroFloat),
   ("daily_trend_third_fee_usdt", zeroFloat),
   ("daily_external_principal_usdt", zeroFloat),
   ("last_reset_date", .str ""),
   ("is_circuit_broken", .bool false),
   ("dca_last_buy_date", .str ""),
   ("dca_last_sell_date", .str ""),
   ("rotation_pool_last_month", .str ""),
   ("rotation_pool_symbols", .list []),
   ("rotation_pool_source_version", .str ""),
   ("rotation_pool_source_as_of_date", .str ""),
   ("last_btc_status_report_bucket", .str ""),
   ("trend_pool_source", .str ""),
   ("trend_pool_source_detail", .str ""),
   ("trend_pool_is_fresh", .bool false),
   ("trend_pool_degraded", .bool false),
   ("trend_pool_as_of_date", .str ""),
   ("trend_pool_version", .str ""),
   ("trend_pool_mode", .str ""),
   ("trend_pool_source_project", .str ""),
   ("trend_pool_loaded_at", .str ""),
   ("trend_pool_messages", .list []),
   ("last_balance_snapshot", emptyDict),
   ("external_cash_flow_cursor", .none),
   ("order_submission", .dict ⟨[("state", .str "RESERVED")]⟩),
   (trendPoolLastGoodPayloadKey, emptyDict),
   (trendPoolActionHistoryKey, emptyDict),
   (retiredTrendPositionsKey, emptyDict)]

def buildDefaultState (trendUniverse : TrendUniverse) : Document :=
  (⟨defaultFields⟩ : Document).setAll
    (trendUniverse.symbols.map fun symbol => (symbol, .dict defaultTrendSymbolState))

/-- A default mapping is overlaid by a stored mapping; any other default is replaced. -/
def mergeDefault (default : Value) (current : Option Value) : Value :=
  match default with
  | .dict value =>
    match current.getD emptyDict with
    | .dict stored => .dict (value.update stored)
    | _ => .dict value
  | value => current.getD value

def accountingFields : List String :=
  ["daily_trend_cash_flow_usdt", "daily_trend_net_invested_usdt", "daily_trend_risk_base_usdt",
   "daily_trend_third_fee_usdt"]

/-- `float(state[field])`. -/
def accountingValue (state : Document) (field : String) : Except PyException PyFloat :=
  match state.get? field with
  | some value => value.toFloat
  | none => .error keyError

/-- Whether the recorded trend accounting is usable; only the three listed classes are caught. -/
def trendAccountingValid (state : Document) : Except PyException Bool :=
  match accountingFields.mapM fun field => (accountingValue state field).map fun x => (field, x) with
  | .ok values => .ok (values.all fun entry =>
      entry.2.isFinite && !(entry.1 = "daily_trend_risk_base_usdt" && entry.2.isNegative))
  | .error raised =>
    if raised.cls ∈ [.keyError, .typeError, .valueError] then .ok false else .error raised

def recordedBaseAsset : Value → Value
  | .dict d => (d.get? "base_asset").getD .none
  | _ => .none

section Normalize
variable [CharacterTable]

/-- The `retired_trend_positions` entry of an active record. -/
def retiredEntry (symbol : String) (payload : Value) : Value :=
  .dict ((normalizeSymbolState payload).set "base_asset"
    (.str ((recordedBaseAsset payload).orElse (.str (inferBaseAsset symbol))).toStr))

/-- A record that is moved into the retired positions. -/
def retires (payload : Value) : Bool :=
  isTrendSymbolState payload && hasActivePosition (normalizeSymbolState payload)

def existingRetired (state : Document) : Document :=
  match state.get? retiredTrendPositionsKey with
  | some (.dict retired) => retired
  | _ => .empty

def trendSource (value : Option Value) : Document :=
  match value with
  | some (.dict d) => if isTrendSymbolState (.dict d) then d else .empty
  | _ => .empty

/-- A universe symbol reads its retired record overlaid by its own. -/
def mergedSymbolState (state : Document) (symbol : String) : Document :=
  normalizeSymbolState (.dict
    ((Dict.empty.update (trendSource ((existingRetired state).get? symbol))).update
      (trendSource (state.get? symbol))))

/-- The default document, with a stored rebase marker. -/
def rebasedDefaults (trendUniverse : TrendUniverse) (state : Document) : Document :=
  match state.get? "accounting_rebase" with
  | some (.dict marker) =>
    (buildDefaultState trendUniverse).set "accounting_rebase" (.dict marker)
  | _ => buildDefaultState trendUniverse

/-- The top-level fields before the trend symbols are merged. -/
def normalizeFields (trendUniverse : TrendUniverse) (state : Document) : Document :=
  let defaults := rebasedDefaults trendUniverse state
  Dict.collect (fun key value =>
    if key ∈ trendUniverse.symbols ∨ key = retiredTrendPositionsKey then none
    else some (mergeDefault value (state.get? key))) defaults defaults

def copyPresent (state : Document) (out : Document) (key : String) : Document :=
  match state.get? key with
  | some value => out.set key value
  | none => out

def earnFields : List String := ["earn_accrual_checkpoint", "earn_accounted_net_changes"]

def trendAccountingBasis : String := "trend_mark_plus_cash_flow_v1"

def normalizeBasis (state : Document) (normalized : Document) : Except PyException Document :=
  if ((state.get? "daily_trend_pnl_basis").getD .none).isStr trendAccountingBasis then
    (trendAccountingValid state).map fun valid =>
      if valid then normalized
      else normalized.set "daily_trend_pnl_basis" (.str "invalid_trend_accounting")
  else .ok normalized

def normalizeSymbols (trendUniverse : TrendUniverse) (state normalized : Document) : Document :=
  normalized.setAll
    (trendUniverse.symbols.map fun symbol => (symbol, .dict (mergedSymbolState state symbol)))

/-- Retired records that stay, then top-level records of symbols outside the universe. -/
def retiredPositions (trendUniverse : TrendUniverse) (state normalized : Document) : Document :=
  let kept := Dict.collect (fun symbol payload =>
    if symbol ∉ trendUniverse.symbols ∧ retires payload = true then
      some (retiredEntry symbol payload) else none) (existingRetired state) .empty
  Dict.collect (fun symbol payload =>
    if normalized.contains symbol = false ∧ symbol ≠ retiredTrendPositionsKey
        ∧ endsWithUSDT symbol = true ∧ retires payload = true then
      some (retiredEntry symbol payload) else none) state kept

def normalizeTradeState (trendUniverse : TrendUniverse) : Value → Except PyException Document
  | .dict state => do
    let copied := earnFields.foldl (copyPresent state) (normalizeFields trendUniverse state)
    let checked ← normalizeBasis state copied
    let normalized := normalizeSymbols trendUniverse state checked
    return normalized.set retiredTrendPositionsKey
      (.dict (retiredPositions trendUniverse state normalized))
  | _ => .ok (buildDefaultState trendUniverse)

end Normalize

/-! ## What a normalized document holds at each key -/

theorem not_symbol_of_suffix (trendUniverse : TrendUniverse) {key : String}
    (suffix : endsWithUSDT key = false) : key ∉ trendUniverse.symbols := by
  intro member
  rw [trendUniverse.suffixed key member] at suffix
  cases suffix

theorem find_map_key {α : Type} (symbols : List String) (f : String → α) (key : String) :
    Dict.find key (symbols.map fun symbol => (symbol, f symbol))
      = if key ∈ symbols then some (f key) else none := by
  induction symbols with
  | nil => rfl
  | cons head tail ih =>
    rw [List.map_cons, Dict.find, ih]
    by_cases same : head = key
    · simp [same]
    · simp [same, Ne.symm same]

theorem get?_setSymbols (trendUniverse : TrendUniverse) (d : Document) (f : String → Value)
    (key : String) :
    (d.setAll (trendUniverse.symbols.map fun symbol => (symbol, f symbol))).get? key
      = if key ∈ trendUniverse.symbols then some (f key) else d.get? key := by
  have nodup : ((trendUniverse.symbols.map fun symbol => (symbol, f symbol)).map Prod.fst).Nodup := by
    simpa [Function.comp_def] using trendUniverse.nodup
  rw [Dict.get?_setAll _ nodup, find_map_key]
  split <;> simp

theorem get?_buildDefaultState (trendUniverse : TrendUniverse) (key : String) :
    (buildDefaultState trendUniverse).get? key
      = if key ∈ trendUniverse.symbols then some (.dict defaultTrendSymbolState)
        else Dict.find key defaultFields :=
  get?_setSymbols trendUniverse _ _ key

theorem get?_rebasedDefaults (trendUniverse : TrendUniverse) (state : Document) {key : String}
    (notMarker : key ≠ "accounting_rebase") :
    (rebasedDefaults trendUniverse state).get? key = (buildDefaultState trendUniverse).get? key := by
  unfold rebasedDefaults
  split
  · exact Dict.get?_set_ne _ _ notMarker
  · rfl

theorem get?_normalizeFields (trendUniverse : TrendUniverse) (state : Document) (key : String) :
    (normalizeFields trendUniverse state).get? key
      = if key ∈ trendUniverse.symbols ∨ key = retiredTrendPositionsKey then
          (rebasedDefaults trendUniverse state).get? key
        else ((rebasedDefaults trendUniverse state).get? key).map
          fun value => mergeDefault value (state.get? key) := by
  rw [normalizeFields, Dict.get?_collect]
  cases (rebasedDefaults trendUniverse state).get? key with
  | none => simp
  | some value => split <;> simp

theorem get?_copyPresent (state out : Document) (field key : String) :
    (copyPresent state out field).get? key
      = if key = field then (state.get? field).or (out.get? field) else out.get? key := by
  unfold copyPresent
  split
  case h_1 value found =>
    rw [Dict.get?_set, found]
    split <;> simp
  case h_2 absent =>
    rw [absent]
    split <;> simp_all

theorem normalizeBasis_ok {state copied checked : Document}
    (success : normalizeBasis state copied = .ok checked) :
    checked = copied ∨ checked = copied.set "daily_trend_pnl_basis" (.str "invalid_trend_accounting") := by
  unfold normalizeBasis at success
  split at success
  · cases valid : trendAccountingValid state with
    | error raised => simp [valid, Except.map] at success
    | ok flag =>
      cases flag <;> simp [valid, Except.map] at success <;> simp [success]
  · cases success
    exact .inl rfl

theorem toFloat_error {value : Value} {raised : PyException} (failed : value.toFloat = .error raised) :
    raised.cls ∈ [.typeError, .valueError] ∨ raised = overflowError := by
  unfold Value.toFloat at failed
  split at failed
  · cases failed
  · unfold PyFloat.ofInt at failed
    split at failed <;> cases failed
    exact .inr rfl
  · cases failed
  · unfold PyFloat.ofText at failed
    split at failed <;> cases failed
    exact .inl (by decide)
  all_goals
    cases failed
    exact .inl (by decide)

/-- Only an integer beyond the range of a float escapes the listed classes. -/
theorem trendAccountingValid_error {state : Document} {raised : PyException}
    (failed : trendAccountingValid state = .error raised) : raised = overflowError := by
  unfold trendAccountingValid at failed
  split at failed
  · cases failed
  case h_2 inner failing =>
    split at failed <;> cases failed
    rename_i uncaught
    obtain ⟨field, -, raises⟩ := exists_error_of_mapM failing
    unfold accountingValue at raises
    split at raises
    case h_1 value found =>
      cases read : value.toFloat with
      | ok x => simp [read, Except.map] at raises
      | error e =>
        simp only [read, Except.map, Except.error.injEq] at raises
        subst raises
        rcases toFloat_error read with caught | overflow
        · exact absurd (by simp at caught ⊢; tauto) uncaught
        · exact overflow
    case h_2 absent =>
      simp only [Except.map, Except.error.injEq] at raises
      subst raises
      exact absurd (by decide) uncaught

theorem trendAccountingValid_present {state : Document}
    (valid : trendAccountingValid state = .ok true) :
    ∀ field ∈ accountingFields, ∃ value, state.get? field = some value := by
  unfold trendAccountingValid at valid
  split at valid
  case h_2 => split at valid <;> simp at valid
  case h_1 values read =>
    intro field member
    obtain ⟨entry, -, readable⟩ := forall₂_exists (mapM_ok read) member
    cases found : state.get? field with
    | some value => exact ⟨value, rfl⟩
    | none => simp [accountingValue, found, Except.map] at readable

theorem trendAccountingValid_congr {state other : Document}
    (same : ∀ field ∈ accountingFields, state.get? field = other.get? field) :
    trendAccountingValid state = trendAccountingValid other := by
  have reads : ∀ field ∈ accountingFields,
      accountingValue state field = accountingValue other field := by
    intro field member
    rw [accountingValue, accountingValue, same field member]
  rw [trendAccountingValid, trendAccountingValid]
  simp only [accountingFields, List.forall_mem_cons] at reads
  simp only [accountingFields, List.mapM_cons, List.mapM_nil, reads]

/-- The recorded accounting can be read, or is not read at all. -/
def AccountingReadable (state : Document) : Prop :=
  ((state.get? "daily_trend_pnl_basis").getD .none).isStr trendAccountingBasis = true →
    ∃ valid, trendAccountingValid state = .ok valid

theorem defaultFields_suffix {key : String} (suffix : endsWithUSDT key = true)
    (other : key ≠ "BTCUSDT") : Dict.find key defaultFields = none := by
  have only : ∀ k ∈ defaultFields.map Prod.fst, endsWithUSDT k = true → k = "BTCUSDT" := by
    decide +kernel
  exact (Dict.find_eq_none _ _).mpr fun member => other (only key member suffix)

@[simp] theorem get?_symbolState_isHolding (holding : Bool) (entry highest : PyFloat) :
    (symbolState holding entry highest).get? "is_holding" = some (.bool holding) := rfl

@[simp] theorem get?_symbolState_entryPrice (holding : Bool) (entry highest : PyFloat) :
    (symbolState holding entry highest).get? "entry_price" = some (.float entry) := rfl

@[simp] theorem get?_symbolState_highestPrice (holding : Bool) (entry highest : PyFloat) :
    (symbolState holding entry highest).get? "highest_price" = some (.float highest) := rfl

theorem normalizeSymbolState_shape (value : Value) :
    ∃ holding entry highest, normalizeSymbolState value = symbolState holding entry highest := by
  cases value with
  | dict d => exact ⟨_, _, _, rfl⟩
  | _ => exact ⟨false, .zero, .zero, rfl⟩

theorem normalizeSymbolState_congr {d e : Document} (same : d.Same e) :
    normalizeSymbolState (.dict d) = normalizeSymbolState (.dict e) := by
  rw [normalizeSymbolState, normalizeSymbolState, same, same, same]

/-- Normalization reads back a record that carries normalized fields. -/
theorem normalizeSymbolState_of_fields {d : Document} {holding : Bool} {entry highest : PyFloat}
    (isHolding : d.get? "is_holding" = some (.bool holding))
    (entryPrice : d.get? "entry_price" = some (.float entry))
    (highestPrice : d.get? "highest_price" = some (.float highest)) :
    normalizeSymbolState (.dict d) = symbolState holding entry highest := by
  simp [normalizeSymbolState, isHolding, entryPrice, highestPrice, Value.truthy, safeFloat,
    Value.toFloat]

theorem normalizeSymbolState_idem (value : Value) :
    normalizeSymbolState (.dict (normalizeSymbolState value)) = normalizeSymbolState value := by
  obtain ⟨holding, entry, highest, shape⟩ := normalizeSymbolState_shape value
  rw [shape]
  exact normalizeSymbolState_of_fields rfl rfl rfl

theorem isTrendSymbolState_normalized (value : Value) :
    isTrendSymbolState (.dict (normalizeSymbolState value)) = true := by
  obtain ⟨holding, entry, highest, shape⟩ := normalizeSymbolState_shape value
  rw [shape]
  rfl

/-- A symbol whose own record is normalized and that has no retired record keeps it. -/
theorem mergedSymbolState_normalized {state : Document} {symbol : String} {value : Value}
    (own : state.get? symbol = some (.dict (normalizeSymbolState value)))
    (unretired : (existingRetired state).get? symbol = none) :
    mergedSymbolState state symbol = normalizeSymbolState value := by
  rw [mergedSymbolState, own, unretired]
  simp only [trendSource, isTrendSymbolState_normalized, if_true]
  refine (normalizeSymbolState_congr fun key => ?_).trans (normalizeSymbolState_idem value)
  rw [Dict.get?_update, Dict.get?_update]
  simp

section Normalize
variable [CharacterTable]

/-- The stages of a normalization that returned. -/
theorem normalizeTradeState_ok {trendUniverse : TrendUniverse} {state normalized : Document}
    (success : normalizeTradeState trendUniverse (.dict state) = .ok normalized) :
    ∃ checked, normalizeBasis state
        (earnFields.foldl (copyPresent state) (normalizeFields trendUniverse state)) = .ok checked ∧
      normalized = (normalizeSymbols trendUniverse state checked).set retiredTrendPositionsKey
        (.dict (retiredPositions trendUniverse state
          (normalizeSymbols trendUniverse state checked))) := by
  cases basis : normalizeBasis state
      (earnFields.foldl (copyPresent state) (normalizeFields trendUniverse state)) with
  | error raised => simp [normalizeTradeState, basis, bind, Except.bind] at success
  | ok checked =>
    refine ⟨checked, rfl, ?_⟩
    simpa [normalizeTradeState, basis, bind, Except.bind, pure, Except.pure, eq_comm] using success

/-- A field with a default other than the rebase marker, the accounting basis and the
retired positions is the default merged with the stored value. -/
theorem get?_normalized_default {trendUniverse : TrendUniverse} {state normalized : Document}
    (success : normalizeTradeState trendUniverse (.dict state) = .ok normalized) {key : String}
    {default : Value} (field : Dict.find key defaultFields = some default)
    (notSymbol : key ∉ trendUniverse.symbols) (notRetired : key ≠ retiredTrendPositionsKey)
    (notBasis : key ≠ "daily_trend_pnl_basis") :
    normalized.get? key = some (mergeDefault default (state.get? key)) := by
  obtain ⟨checked, basis, rfl⟩ := normalizeTradeState_ok success
  have known : key ≠ "accounting_rebase" ∧ key ≠ "earn_accrual_checkpoint"
      ∧ key ≠ "earn_accounted_net_changes" := by
    refine ⟨?_, ?_, ?_⟩ <;> rintro rfl <;> simp [Dict.find, defaultFields,
      trendPoolLastGoodPayloadKey, trendPoolActionHistoryKey, retiredTrendPositionsKey] at field
  have atFields : checked.get? key = (normalizeFields trendUniverse state).get? key := by
    have copied : (earnFields.foldl (copyPresent state)
        (normalizeFields trendUniverse state)).get? key
          = (normalizeFields trendUniverse state).get? key := by
      simp [earnFields, get?_copyPresent, known]
    rcases normalizeBasis_ok basis with rfl | rfl
    · exact copied
    · rw [Dict.get?_set_ne _ _ notBasis, copied]
  rw [Dict.get?_set_ne _ _ notRetired, normalizeSymbols, get?_setSymbols, if_neg notSymbol, atFields,
    get?_normalizeFields, if_neg (by simp [notSymbol, notRetired]),
    get?_rebasedDefaults _ _ known.1, get?_buildDefaultState, if_neg notSymbol, field, Option.map_some]

/-- Normalization of a mapping raises only where the accounting does. -/
theorem normalizeTradeState_returns_iff (trendUniverse : TrendUniverse) (state : Document) :
    (∃ normalized, normalizeTradeState trendUniverse (.dict state) = .ok normalized)
      ↔ AccountingReadable state := by
  have returns : (∃ normalized, normalizeTradeState trendUniverse (.dict state) = .ok normalized)
      ↔ ∃ checked, normalizeBasis state
          (earnFields.foldl (copyPresent state) (normalizeFields trendUniverse state)) = .ok checked := by
    constructor
    · rintro ⟨normalized, success⟩
      obtain ⟨checked, basis, -⟩ := normalizeTradeState_ok success
      exact ⟨checked, basis⟩
    · rintro ⟨checked, basis⟩
      simp [normalizeTradeState, basis, bind, Except.bind, pure, Except.pure]
  rw [returns, AccountingReadable]
  unfold normalizeBasis
  split
  case isTrue recorded =>
    cases trendAccountingValid state with
    | error raised => simp [recorded, Except.map]
    | ok valid => simp [Except.map]
  case isFalse other => simp [other]

theorem normalizeTradeState_error {trendUniverse : TrendUniverse} {state : Document}
    {raised : PyException} (failed : normalizeTradeState trendUniverse (.dict state) = .error raised) :
    raised = overflowError := by
  have inBasis : normalizeBasis state
      (earnFields.foldl (copyPresent state) (normalizeFields trendUniverse state)) = .error raised := by
    cases basis : normalizeBasis state
        (earnFields.foldl (copyPresent state) (normalizeFields trendUniverse state)) with
    | error e => simpa [normalizeTradeState, basis, bind, Except.bind] using failed
    | ok checked => simp [normalizeTradeState, basis, bind, Except.bind, pure, Except.pure] at failed
  unfold normalizeBasis at inBasis
  split at inBasis
  · cases valid : trendAccountingValid state with
    | error e =>
      simp only [valid, Except.map, Except.error.injEq] at inBasis
      exact inBasis ▸ trendAccountingValid_error valid
    | ok flag => simp [valid, Except.map] at inBasis
  · cases inBasis

/-- The working fields outside the retired positions, before those are written. -/
theorem normalizeTradeState_split {trendUniverse : TrendUniverse} {state normalized : Document}
    (success : normalizeTradeState trendUniverse (.dict state) = .ok normalized) :
    ∃ working, normalized.get? retiredTrendPositionsKey
        = some (.dict (retiredPositions trendUniverse state working))
      ∧ ∀ key, key ≠ retiredTrendPositionsKey → working.get? key = normalized.get? key := by
  obtain ⟨checked, -, rfl⟩ := normalizeTradeState_ok success
  exact ⟨_, Dict.get?_set_self _ _ _, fun key other => (Dict.get?_set_ne _ _ other).symm⟩

theorem get?_normalized_symbol {trendUniverse : TrendUniverse} {state normalized : Document}
    (success : normalizeTradeState trendUniverse (.dict state) = .ok normalized) {symbol : String}
    (member : symbol ∈ trendUniverse.symbols) :
    normalized.get? symbol = some (.dict (mergedSymbolState state symbol)) := by
  obtain ⟨checked, -, rfl⟩ := normalizeTradeState_ok success
  have notRetired : symbol ≠ retiredTrendPositionsKey := by
    rintro rfl
    exact not_symbol_of_suffix trendUniverse (by decide) member
  rw [Dict.get?_set_ne _ _ notRetired, normalizeSymbols, get?_setSymbols, if_pos member]

/-- Away from symbols, retired positions and the basis, only the copied fields matter. -/
theorem get?_normalized_copied {trendUniverse : TrendUniverse} {state normalized : Document}
    (success : normalizeTradeState trendUniverse (.dict state) = .ok normalized) {key : String}
    (notSymbol : key ∉ trendUniverse.symbols) (notRetired : key ≠ retiredTrendPositionsKey)
    (notBasis : key ≠ "daily_trend_pnl_basis") :
    normalized.get? key = (earnFields.foldl (copyPresent state)
      (normalizeFields trendUniverse state)).get? key := by
  obtain ⟨checked, basis, rfl⟩ := normalizeTradeState_ok success
  rw [Dict.get?_set_ne _ _ notRetired, normalizeSymbols, get?_setSymbols, if_neg notSymbol]
  rcases normalizeBasis_ok basis with rfl | rfl
  · rfl
  · rw [Dict.get?_set_ne _ _ notBasis]

theorem get?_normalized_earn {trendUniverse : TrendUniverse} {state normalized : Document}
    (success : normalizeTradeState trendUniverse (.dict state) = .ok normalized) {key : String}
    (field : key ∈ earnFields) : normalized.get? key = state.get? key := by
  have facts : endsWithUSDT key = false ∧ key ≠ retiredTrendPositionsKey
      ∧ key ≠ "daily_trend_pnl_basis" ∧ key ≠ "accounting_rebase"
      ∧ Dict.find key defaultFields = none := by
    revert key
    decide
  obtain ⟨suffix, notRetired, notBasis, notRebase, noDefault⟩ := facts
  have notSymbol := not_symbol_of_suffix trendUniverse suffix
  have noField : (normalizeFields trendUniverse state).get? key = none := by
    rw [get?_normalizeFields, if_neg (by simp [notSymbol, notRetired]),
      get?_rebasedDefaults _ _ notRebase, get?_buildDefaultState, if_neg notSymbol, noDefault]
    rfl
  rw [get?_normalized_copied success notSymbol notRetired notBasis]
  simp only [earnFields, List.foldl_cons, List.foldl_nil, get?_copyPresent]
  simp only [earnFields, List.mem_cons, List.not_mem_nil, or_false] at field
  rcases field with rfl | rfl <;> simp [noField]

theorem get?_normalized_rebase {trendUniverse : TrendUniverse} {state normalized : Document}
    (success : normalizeTradeState trendUniverse (.dict state) = .ok normalized) :
    normalized.get? "accounting_rebase"
      = match state.get? "accounting_rebase" with
        | some (.dict marker) => some (.dict marker)
        | _ => none := by
  have notSymbol := not_symbol_of_suffix trendUniverse
    (by decide : endsWithUSDT "accounting_rebase" = false)
  rw [get?_normalized_copied success notSymbol (by decide) (by decide)]
  simp only [earnFields, List.foldl_cons, List.foldl_nil, get?_copyPresent, String.reduceEq, if_false]
  rw [get?_normalizeFields, if_neg (by simp [notSymbol, retiredTrendPositionsKey]), rebasedDefaults]
  split
  case h_1 marker found =>
    rw [Dict.get?_set_self, Option.map_some, found]
    simp only [mergeDefault, Option.getD_some, Dict.update_self]
  case h_2 absent =>
    rw [get?_buildDefaultState, if_neg notSymbol]
    rfl

theorem get?_normalized_other {trendUniverse : TrendUniverse} {state normalized : Document}
    (success : normalizeTradeState trendUniverse (.dict state) = .ok normalized) {key : String}
    (notSymbol : key ∉ trendUniverse.symbols) (noDefault : Dict.find key defaultFields = none)
    (notEarn : key ∉ earnFields) (notRebase : key ≠ "accounting_rebase") :
    normalized.get? key = none := by
  have known : key ≠ retiredTrendPositionsKey ∧ key ≠ "daily_trend_pnl_basis" := by
    refine ⟨?_, ?_⟩ <;> rintro rfl <;> revert noDefault <;> decide
  simp only [earnFields, List.mem_cons, List.not_mem_nil, or_false, not_or] at notEarn
  rw [get?_normalized_copied success notSymbol known.1 known.2]
  simp only [earnFields, List.foldl_cons, List.foldl_nil, get?_copyPresent, notEarn.1, notEarn.2,
    if_false]
  rw [get?_normalizeFields, if_neg (by simp [notSymbol, known.1]), get?_rebasedDefaults _ _ notRebase,
    get?_buildDefaultState, if_neg notSymbol, noDefault]
  rfl

/-- The basis of the maintained accounting survives only with readable accounting. -/
theorem get?_normalized_basis {trendUniverse : TrendUniverse} {state normalized : Document}
    (success : normalizeTradeState trendUniverse (.dict state) = .ok normalized) :
    ∃ basis, normalized.get? "daily_trend_pnl_basis" = some basis
      ∧ (basis.isStr trendAccountingBasis = true → trendAccountingValid state = .ok true)
      ∧ (trendAccountingValid state = .ok true ∨
          ((state.get? "daily_trend_pnl_basis").getD .none).isStr trendAccountingBasis = false →
        basis = (state.get? "daily_trend_pnl_basis").getD (.str "")) := by
  obtain ⟨checked, inBasis, rfl⟩ := normalizeTradeState_ok success
  have notSymbol := not_symbol_of_suffix trendUniverse
    (by decide : endsWithUSDT "daily_trend_pnl_basis" = false)
  have copied : (earnFields.foldl (copyPresent state) (normalizeFields trendUniverse state)).get?
      "daily_trend_pnl_basis" = some ((state.get? "daily_trend_pnl_basis").getD (.str "")) := by
    simp only [earnFields, List.foldl_cons, List.foldl_nil, get?_copyPresent, String.reduceEq, if_false]
    rw [get?_normalizeFields, if_neg (by simp [notSymbol, retiredTrendPositionsKey]),
      get?_rebasedDefaults _ _ (by decide), get?_buildDefaultState, if_neg notSymbol]
    rfl
  rw [Dict.get?_set_ne _ _ (by decide), normalizeSymbols, get?_setSymbols, if_neg notSymbol]
  unfold normalizeBasis at inBasis
  split at inBasis
  case isFalse other =>
    cases inBasis
    refine ⟨_, copied, ?_, fun _ => rfl⟩
    intro recorded
    cases stored : state.get? "daily_trend_pnl_basis" with
    | none => simp [stored, Value.isStr, trendAccountingBasis] at recorded
    | some basis => simp [stored] at recorded other; simp [other] at recorded
  case isTrue recorded =>
    cases valid : trendAccountingValid state with
    | error raised => simp [valid, Except.map] at inBasis
    | ok flag =>
      cases flag with
      | true =>
        simp only [valid, Except.map, if_true, Except.ok.injEq] at inBasis
        subst inBasis
        exact ⟨_, copied, fun _ => rfl, fun _ => rfl⟩
      | false =>
        simp only [valid, Except.map, Bool.false_eq_true, if_false, Except.ok.injEq] at inBasis
        subst inBasis
        refine ⟨_, Dict.get?_set_self _ _ _, fun invalid => ?_, fun either => ?_⟩
        · revert invalid
          decide
        · simp [recorded] at either

/-- Among texts with the suffix, a normalized document holds the universe and Bitcoin. -/
theorem contains_normalized_suffix {trendUniverse : TrendUniverse} {state normalized : Document}
    (success : normalizeTradeState trendUniverse (.dict state) = .ok normalized) {key : String}
    (suffix : endsWithUSDT key = true) :
    normalized.contains key = true ↔ key ∈ trendUniverse.symbols ∨ key = "BTCUSDT" := by
  rw [Dict.contains]
  by_cases member : key ∈ trendUniverse.symbols
  · simp [get?_normalized_symbol success member, member]
  by_cases bitcoin : key = "BTCUSDT"
  · subst bitcoin
    rw [get?_normalized_default success rfl member (by decide) (by decide)]
    simp
  · have notEarn : key ∉ earnFields := by
      intro field
      have plain : ∀ k ∈ earnFields, endsWithUSDT k = false := by decide
      simp [plain key field] at suffix
    have notRebase : key ≠ "accounting_rebase" := by
      rintro rfl
      revert suffix
      decide
    rw [get?_normalized_other success member (defaultFields_suffix suffix bitcoin) notEarn notRebase]
    simp [member, bitcoin]

/-! ## Retired positions -/

/-- The record of a symbol outside the universe that a document carries: its own
active record, else its active retired record. -/
def carriedRecord (state : Document) (symbol : String) : Option Value :=
  ((state.get? symbol).filter retires).or (((existingRetired state).get? symbol).filter retires)

theorem get?_retiredPositions (trendUniverse : TrendUniverse) (state working : Document)
    (symbol : String) :
    (retiredPositions trendUniverse state working).get? symbol
      = ((state.get? symbol).bind fun payload =>
          if working.contains symbol = false ∧ symbol ≠ retiredTrendPositionsKey
              ∧ endsWithUSDT symbol = true ∧ retires payload = true then
            some (retiredEntry symbol payload) else none).or
        (((existingRetired state).get? symbol).bind fun payload =>
          if symbol ∉ trendUniverse.symbols ∧ retires payload = true then
            some (retiredEntry symbol payload) else none) := by
  rw [retiredPositions, Dict.get?_collect, Dict.get?_collect, Dict.get?_empty, Option.or_none]

theorem retiredPositions_unique (trendUniverse : TrendUniverse) (state working : Document) :
    (retiredPositions trendUniverse state working).keyList.Nodup := by
  have step : ∀ (body : String → Value → Option Value) (d out : Document), out.keyList.Nodup →
      (Dict.collect body d out).keyList.Nodup := fun body d out unique =>
    Dict.nodup_setAll (d.items_nodup.sublist (Dict.kept_keys_sublist body d.items)) unique
  exact step _ _ _ (step _ _ _ List.nodup_nil)

/-- A retired position of a symbol the working fields do not hold. -/
theorem get?_retiredPositions_carried {trendUniverse : TrendUniverse} {state working : Document}
    {symbol : String} (notSymbol : symbol ∉ trendUniverse.symbols)
    (free : working.contains symbol = false) (suffix : endsWithUSDT symbol = true) :
    (retiredPositions trendUniverse state working).get? symbol
      = (carriedRecord state symbol).map (retiredEntry symbol) := by
  have notKey : symbol ≠ retiredTrendPositionsKey := by
    rintro rfl
    revert suffix
    decide
  have body : ∀ found : Option Value,
      (found.bind fun payload => if retires payload = true then some (retiredEntry symbol payload)
        else none) = (found.filter retires).map (retiredEntry symbol) := by
    intro found
    cases found with
    | none => rfl
    | some payload =>
      cases active : retires payload <;> simp [active]
  rw [get?_retiredPositions, carriedRecord, Option.map_or, ← body, ← body]
  simp [notSymbol, free, notKey, suffix]

theorem normalizeSymbolState_retiredEntry (symbol : String) (payload : Value) :
    normalizeSymbolState (retiredEntry symbol payload) = normalizeSymbolState payload := by
  obtain ⟨holding, entry, highest, shape⟩ := normalizeSymbolState_shape payload
  rw [retiredEntry, shape]
  refine normalizeSymbolState_of_fields ?_ ?_ ?_ <;> rw [Dict.get?_set_ne _ _ (by decide)] <;> rfl

theorem retires_retiredEntry {symbol : String} {payload : Value} (active : retires payload = true) :
    retires (retiredEntry symbol payload) = true := by
  have trend : isTrendSymbolState (retiredEntry symbol payload) = true := by
    obtain ⟨holding, entry, highest, shape⟩ := normalizeSymbolState_shape payload
    rw [retiredEntry, shape]
    simp [isTrendSymbolState, Dict.contains, Dict.get?_set]
  simp only [retires, Bool.and_eq_true] at active ⊢
  rw [normalizeSymbolState_retiredEntry]
  exact ⟨trend, active.2⟩

/-- The base asset of an entry is its own, also when it is the empty text. -/
theorem toStr_orElse_toStr (value : Value) (fallback : String) :
    ((Value.str (value.orElse (.str fallback)).toStr).orElse (.str fallback)).toStr
      = (value.orElse (.str fallback)).toStr := by
  by_cases empty : (value.orElse (.str fallback)).toStr = ""
  · have falsy : value.truthy = false := by
      by_contra truthy
      rw [Value.orElse, if_pos (by simpa using truthy)] at empty
      exact Value.toStr_ne_empty (by simpa using truthy) empty
    rw [empty]
    simp only [Value.orElse, falsy, Bool.false_eq_true, if_false] at empty ⊢
    simpa [Value.truthy] using empty
  · rw [Value.orElse, if_pos (by simpa [Value.truthy] using empty)]
    rfl

theorem retiredEntry_idem (symbol : String) (payload : Value) :
    retiredEntry symbol (retiredEntry symbol payload) = retiredEntry symbol payload := by
  have asset : recordedBaseAsset (retiredEntry symbol payload)
      = .str ((recordedBaseAsset payload).orElse (.str (inferBaseAsset symbol))).toStr := by
    rw [retiredEntry, recordedBaseAsset, Dict.get?_set_self, Option.getD_some]
  rw [retiredEntry, normalizeSymbolState_retiredEntry, asset, toStr_orElse_toStr]
  rfl

/-- What every retired position of a normalized document satisfies. -/
theorem retiredPositions_entry {trendUniverse : TrendUniverse} {state working : Document}
    (holdsUniverse : ∀ symbol ∈ trendUniverse.symbols, working.contains symbol = true)
    {symbol : String} {entry : Value}
    (found : (retiredPositions trendUniverse state working).get? symbol = some entry) :
    symbol ∉ trendUniverse.symbols ∧ retires entry = true ∧ retiredEntry symbol entry = entry := by
  rw [get?_retiredPositions, Option.or_eq_some_iff] at found
  have kept : ∃ payload, symbol ∉ trendUniverse.symbols ∧ retires payload = true
      ∧ retiredEntry symbol payload = entry := by
    rcases found with own | ⟨-, retired⟩
    · obtain ⟨payload, -, kept⟩ := Option.bind_eq_some_iff.mp own
      split at kept <;> cases kept
      rename_i admitted
      refine ⟨payload, fun member => ?_, admitted.2.2.2, rfl⟩
      rw [holdsUniverse symbol member] at admitted
      cases admitted.1
    · obtain ⟨payload, -, kept⟩ := Option.bind_eq_some_iff.mp retired
      split at kept <;> cases kept
      rename_i admitted
      exact ⟨payload, admitted.1, admitted.2, rfl⟩
  obtain ⟨payload, notSymbol, active, rfl⟩ := kept
  exact ⟨notSymbol, retires_retiredEntry active, retiredEntry_idem symbol payload⟩

end Normalize
end BinancePlatform.Source
