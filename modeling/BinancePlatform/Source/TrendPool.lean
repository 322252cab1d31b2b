import BinancePlatform.Library.TextTrim
import BinancePlatform.Source.IntervalReceipt
import BinancePlatform.Source.PortfolioValuation

/-!
# The trend pool of a cycle

`validate_trend_pool_payload`, `build_trend_pool_resolution` and
`get_last_known_good_trend_pool` of `trend_pool_support.py`, `update_trend_pool_state` of
`degraded_mode_support.py` and the settings they are called with. A message is the key of
its text with the values it shows.
-/

set_option autoImplicit false

namespace BinancePlatform.Source
open BinancePlatform.Library DateTime

/-! ## The date -/

def nonzeroDigit (c : Char) : Option ℕ := if '1' ≤ c ∧ c ≤ '9' then some (c.toNat - '0'.toNat) else none

/-- `%m`: `1[0-2]|0[1-9]|[1-9]`. -/
def monthOfText : List Char → Option ℕ
  | ['1', '0'] => some 10
  | ['1', '1'] => some 11
  | ['1', '2'] => some 12
  | ['0', c] => nonzeroDigit c
  | [c] => nonzeroDigit c
  | _ => none

/-- `%d`: `3[0-1]|[1-2]\d|0[1-9]|[1-9]| [1-9]`. -/
def dayOfText : List Char → Option ℕ
  | ['3', '0'] => some 30
  | ['3', '1'] => some 31
  | ['1', c] => (NumberText.digitOf? c).map (10 + ·)
  | ['2', c] => (NumberText.digitOf? c).map (20 + ·)
  | ['0', c] => nonzeroDigit c
  | [' ', c] => nonzeroDigit c
  | [c] => nonzeroDigit c
  | _ => none

/-- `%Y`: four digits. -/
def yearOfText (cs : List Char) : Option ℕ :=
  if cs.length = 4 then (cs.mapM NumberText.digitOf?).map NumberText.ofDigits else none

/-- `datetime.strptime(text, "%Y-%m-%d").date()`. -/
def parseDateText (cs : List Char) : Option Date :=
  match splitOn '-' cs with
  | [year, month, day] => do
    let date : Date := ⟨← yearOfText year, ← monthOfText month, ← dayOfText day⟩
    if date.valid then some date else none
  | _ => none

/-- `parse_trend_pool_date`. -/
def parseTrendPoolDate : Value → Option Date
  | .str s => if strip s = "" then none else parseDateText (s.toList.take 10)
  | _ => none

def dateToText (date : Date) : String := String.ofList (dateText date)

/-- The ordinal of a day after the epoch's. -/
def dateDay (date : Date) : ℤ := (ordinal date.year date.month date.day : ℤ) - epochOrdinal

/-! ## The settings -/

/-- `int(text)`. -/
def integerOfText (s : String) : Option ℤ :=
  let text := NumberText.strip s.toList
  let (negative, body) := NumberText.readSign text
  let (digits, rest) := NumberText.takeDigits (body.filter (· ≠ '_'))
  if NumberText.underscoresPlaced false text ∧ digits ≠ [] ∧ digits.length ≤ 4300 ∧ rest = [] then
    some (if negative then -(NumberText.ofDigits digits : ℤ) else NumberText.ofDigits digits)
  else none

/-- `int(value)`. -/
def integerOf : Value → Option ℤ
  | .bool b => some (if b then 1 else 0)
  | .int n => some n
  | .float (.finite negative magnitude) => some (truncate (PyFloat.exact negative magnitude))
  | .str s => integerOfText s
  | _ => none

theorem strip_strip (s : String) : strip (strip s) = strip s := by
  rw [strip, strip, String.toList_ofList, NumberText.strip_strip]

/-- What `get_trend_pool_contract_settings` gives; the artifact contract's own modes are stripped
names. -/
structure TrendPoolSettings where
  maxAgeDays : ℕ
  acceptableModes : List String
  expectedPoolSize : ℕ
  stripped : ∀ mode ∈ acceptableModes, strip mode = mode ∧ mode ≠ ""

/-- `get_strategy_artifact_int`. -/
def artifactInt (raw : String) (default : ℤ) : ℤ :=
  if strip raw = "" then default else (integerOfText (strip raw)).getD default

/-- The items of `get_strategy_artifact_csv`. -/
def csvItems (raw : String) : List String :=
  ((splitOn ',' raw.toList).map fun part => strip (String.ofList part)).filter (· ≠ "")

theorem csvItems_stripped (raw : String) : ∀ mode ∈ csvItems raw, strip mode = mode ∧ mode ≠ "" := by
  intro mode member
  obtain ⟨listed, nonempty⟩ := List.mem_filter.mp member
  obtain ⟨part, -, rfl⟩ := List.mem_map.mp listed
  exact ⟨strip_strip _, of_decide_eq_true nonempty⟩

/-- `get_trend_pool_contract_settings`, from the texts of the three variables. -/
def getTrendPoolContractSettings (maxAge modes size : String) (defaults : TrendPoolSettings) :
    TrendPoolSettings where
  maxAgeDays := (artifactInt maxAge defaults.maxAgeDays).toNat
  acceptableModes := if strip modes = "" then defaults.acceptableModes else csvItems (strip modes)
  expectedPoolSize := (max 1 (artifactInt size defaults.expectedPoolSize)).toNat
  stripped := by
    split
    · exact defaults.stripped
    · exact csvItems_stripped _

/-! ## The validation -/

structure PoolMessage where
  key : String
  shown : List Value

structure ValidatedPool where
  errors : List PoolMessage
  warnings : List PoolMessage
  sourceLabel : String
  symbolMap : UniverseMapping
  symbols : List String
  asOfDate : String
  version : String
  mode : String
  sourceProject : String
  ageDays : Option ℤ
  isFresh : Bool

def ValidatedPool.accepted (pool : ValidatedPool) : Bool := pool.errors.isEmpty

/-- A field's text, stripped; another value is no text. -/
def strippedText : Value → String
  | .str s => strip s
  | _ => ""

/-- An error where its condition holds. -/
def reportWhen (condition : Prop) [Decidable condition] (key : String) (shown : List Value) : List PoolMessage :=
  if condition then [⟨key, shown⟩] else []

section Validate
variable [CharacterTable]

/-- The mode, the stored one or the one that is assumed. -/
def poolMode (settings : TrendPoolSettings) (stored : String) : String :=
  if stored = "" then settings.acceptableModes.headD "" else stored

def modeErrors (settings : TrendPoolSettings) (stored : String) : List PoolMessage :=
  reportWhen (stored ≠ "" ∧ settings.acceptableModes ≠ [] ∧ stored ∉ settings.acceptableModes)
    "mode_not_acceptable" [.str stored, .list (settings.acceptableModes.map Value.str)]

def sizeErrors (settings : TrendPoolSettings) (declared : Option ℤ) (parsed : ℕ) : List PoolMessage :=
  let poolSize := declared.getD parsed
  reportWhen (declared = none) "pool_size_missing_or_invalid" []
    ++ reportWhen (poolSize ≠ parsed) "pool_size_mismatch" [.int poolSize, .int parsed]
    ++ reportWhen (settings.expectedPoolSize ≠ 0 ∧ parsed ≠ 0 ∧ poolSize ≠ settings.expectedPoolSize)
      "pool_size_expected_mismatch" [.int poolSize, .int settings.expectedPoolSize]

def ageErrors (settings : TrendPoolSettings) (enforceFreshness : Bool) (now : Instant) (date : Date) :
    List PoolMessage :=
  let ageDays := dayOf now - dateDay date
  if ageDays < 0 then [⟨"as_of_date_in_future", [.str (dateToText date)]⟩]
  else reportWhen (enforceFreshness = true ∧ (settings.maxAgeDays : ℤ) < ageDays) "payload_stale_by_days"
    [.int ageDays, .int settings.maxAgeDays]

/-- The stored version, or one made of the date and the mode. -/
def poolVersion (stored : String) (date : Option Date) (mode : String) : String :=
  if stored ≠ "" then stored
  else
    match date with
    | some date => if mode ≠ "" then dateToText date ++ "-" ++ mode else ""
    | none => ""

/-- `payload or {}`. -/
def payloadFields (payload : Value) : Except PyException Document :=
  if payload.truthy then asMapping attributeError payload else .ok .empty

/-- A symbol that cannot be hashed fails its lookup. -/
def hashableSymbols (payload : Value) : Bool :=
  match payload with
  | .dict fields =>
    match pyGet fields "symbols" with
    | .list names => names.all Value.hashable
    | _ => true
  | _ => true

/-- What the validation reports of a payload whose fields were read. -/
def validatedPool (settings : TrendPoolSettings) (enforceFreshness : Bool) (now : Instant)
    (sourceLabel : String) (payload : Value) (fields : Document) : ValidatedPool :=
  let symbolMap := parseTrendUniverseMapping payload
  let symbols := extractTrendPoolSymbols payload symbolMap
  let date := parseTrendPoolDate (pyGet fields "as_of_date")
  let storedMode := strippedText (pyGet fields "mode")
  let mode := poolMode settings storedMode
  let declared := integerOf ((fields.get? "pool_size").getD (.int symbols.length))
  let storedVersion := strippedText (pyGet fields "version")
  let storedProject := strippedText (pyGet fields "source_project")
  { errors := reportWhen (date = none) "missing_invalid_as_of_date" []
      ++ modeErrors settings storedMode
      ++ reportWhen (symbolMap.items = []) "symbols_map_missing_or_invalid" []
      ++ reportWhen (symbols = []) "symbols_list_empty" []
      ++ sizeErrors settings declared symbols.length
      ++ (date.map (ageErrors settings enforceFreshness now)).getD []
    warnings := reportWhen (storedMode = "" ∧ settings.acceptableModes ≠ []) "mode_missing_assumed" [.str mode]
      ++ reportWhen (storedVersion = "" ∧ date ≠ none ∧ mode ≠ "") "version_missing_synthesized" []
      ++ reportWhen (storedProject = "") "source_project_missing_unknown" []
    sourceLabel
    symbolMap := orderedSymbolMap payload
    symbols
    asOfDate := (date.map dateToText).getD ""
    version := poolVersion storedVersion date mode
    mode
    sourceProject := if storedProject = "" then "unknown" else storedProject
    ageDays := date.map fun date => dayOf now - dateDay date
    isFresh := date.any fun date => dayOf now - dateDay date ≤ settings.maxAgeDays }

/-- `validate_trend_pool_payload`. -/
def validateTrendPoolPayload (settings : TrendPoolSettings) (enforceFreshness : Bool) (now : Instant)
    (sourceLabel : String) (payload : Value) : Except PyException ValidatedPool := do
  require (hashableSymbols payload) typeError
  let fields ← payloadFields payload
  return validatedPool settings enforceFreshness now sourceLabel payload fields

theorem validateTrendPoolPayload_ok {settings : TrendPoolSettings} {enforceFreshness : Bool} {now : Instant}
    {sourceLabel : String} {payload : Value} {pool : ValidatedPool} :
    validateTrendPoolPayload settings enforceFreshness now sourceLabel payload = .ok pool
      ↔ hashableSymbols payload = true ∧ ∃ fields, payloadFields payload = .ok fields
        ∧ pool = validatedPool settings enforceFreshness now sourceLabel payload fields := by
  cases hashed : hashableSymbols payload with
  | false => simp [validateTrendPoolPayload, hashed, require, bind, Except.bind]
  | true =>
    cases read : payloadFields payload with
    | error raised => simp [validateTrendPoolPayload, hashed, read, require, bind, Except.bind]
    | ok fields =>
      simp [validateTrendPoolPayload, hashed, read, require, bind, Except.bind, pure, Except.pure, eq_comm]

end Validate

/-! ## What the state keeps -/

/-- A symbol's entry of the stored map. -/
def baseAssetMeta (base : String) : Value := .dict ⟨[("base_asset", .str base)]⟩

/-- `normalized_payload`. -/
def ValidatedPool.payload (pool : ValidatedPool) : Document :=
  ⟨[("as_of_date", .str pool.asOfDate), ("version", .str pool.version), ("mode", .str pool.mode),
    ("pool_size", .int pool.symbols.length), ("symbols", .list (pool.symbols.map Value.str)),
    ("symbol_map", .dict ⟨pool.symbolMap.entries.map fun entry => (entry.1, baseAssetMeta entry.2)⟩),
    ("source_project", .str pool.sourceProject)]⟩

structure PoolResolution where
  sourceKind : String
  pool : ValidatedPool
  degraded : Bool
  messages : List String
  loadedAt : String
  payload : Document

/-- `build_trend_pool_resolution`. -/
def buildTrendPoolResolution (pool : ValidatedPool) (sourceKind : String) (degraded : Bool) (now : Instant)
    (messages : List String) : PoolResolution where
  sourceKind := sourceKind
  pool := pool
  degraded := degraded
  messages := messages ++ pool.warnings.map PoolMessage.key
  loadedAt := isoformat now
  payload := pool.payload

/-- `update_trend_pool_state`; only a fresh upstream pool becomes the last good one. -/
def updateTrendPoolState (state : Document) (resolution : PoolResolution) : Document :=
  let described := state.setAll
    [("trend_pool_source", .str resolution.sourceKind),
     ("trend_pool_source_detail", .str resolution.pool.sourceLabel),
     ("trend_pool_is_fresh", .bool resolution.pool.isFresh),
     ("trend_pool_degraded", .bool resolution.degraded),
     ("trend_pool_as_of_date", .str resolution.pool.asOfDate),
     ("trend_pool_version", .str resolution.pool.version),
     ("trend_pool_mode", .str resolution.pool.mode),
     ("trend_pool_source_project", .str resolution.pool.sourceProject),
     ("trend_pool_loaded_at", .str resolution.loadedAt),
     ("trend_pool_messages", .list (resolution.messages.map Value.str))]
  if resolution.sourceKind = "fresh_upstream" then
    described.set trendPoolLastGoodPayloadKey (.dict resolution.payload)
  else described

/-- `get_last_known_good_trend_pool`. -/
def getLastKnownGoodTrendPool [CharacterTable] (state : Document) (now : Instant)
    (settings : TrendPoolSettings) : Except PyException ValidatedPool :=
  validateTrendPoolPayload settings false now "state:last_known_good"
    ((state.get? trendPoolLastGoodPayloadKey).getD (.dict .empty))

end BinancePlatform.Source
