import BinancePlatform.Source.SessionSave
import BinancePlatform.Source.TrendPool

/-!
# Where the trend pool comes from

`resolve_trend_pool_source` of `degraded_mode_support.py` with its loaders,
`resolve_runtime_trend_pool` of `application/trend_pool_service.py`, and what
`load_cycle_state` does with the resolution. A message is its key.
-/

set_option autoImplicit false

namespace BinancePlatform.Source
open BinancePlatform.Library DateTime

/-- What Firestore or a file gives. -/
inductive PoolReply where
  | failed (text : String)
  | missing
  | found (payload : Value)

def freshUpstream : String := "fresh_upstream"
def lastKnownGood : String := "last_known_good"

section Loaders
variable [CharacterTable] (settings : TrendPoolSettings) (now : Instant)

/-- A loader: the accepted pool, or the messages of its refusal. -/
def loadPool (sourceLabel notFound readFailed : String) : PoolReply → Except (List String) ValidatedPool
  | .failed _ => .error [readFailed]
  | .missing => .error [notFound]
  | .found payload =>
    match validateTrendPoolPayload settings true now sourceLabel payload with
    | .ok pool => if pool.accepted then .ok pool else .error ((pool.errors ++ pool.warnings).map PoolMessage.key)
    | .error _ => .error [readFailed]

def loadTrendPoolFromFirestore (collection document : String) : PoolReply → Except (List String) ValidatedPool :=
  loadPool settings now ("firestore:" ++ collection ++ "/" ++ document) "missing_firestore_document"
    "firestore_read_failed"

def loadTrendPoolFromFile (path : String) : PoolReply → Except (List String) ValidatedPool :=
  loadPool settings now ("file:" ++ path) "pool_file_not_found" "pool_file_read_failed"

/-- The payload of the built-in universe. -/
def staticPool (staticTrendUniverse : UniverseMapping) : ValidatedPool where
  errors := []
  warnings := []
  sourceLabel := "static:built_in"
  symbolMap := staticTrendUniverse
  symbols := staticTrendUniverse.keyList
  asOfDate := ""
  version := "static-fallback"
  mode := "static"
  sourceProject := "BinancePlatform"
  ageDays := none
  isFresh := false

def buildStaticTrendPoolResolution (staticTrendUniverse : UniverseMapping) (messages : List String) :
    PoolResolution :=
  buildTrendPoolResolution (staticPool staticTrendUniverse) "static" true now messages

/-- The loop over the candidate files, with the paths seen so far. -/
def resolveFromFiles (staticTrendUniverse : UniverseMapping) :
    List (String × PoolReply) → List String → List String → PoolResolution
  | [], _, messages =>
    buildStaticTrendPoolResolution now staticTrendUniverse (messages ++ ["trend_pool_fallback_static"])
  | (path, reply) :: rest, seen, messages =>
    if path ∈ seen then resolveFromFiles staticTrendUniverse rest seen messages
    else
      match loadTrendPoolFromFile settings now path reply with
      | .ok pool =>
        buildTrendPoolResolution pool "local_file" true now (messages ++ ["trend_pool_using_local_file"])
      | .error refused => resolveFromFiles staticTrendUniverse rest (path :: seen) (messages ++ refused)

/-- What the sources answer in one cycle. -/
structure PoolSources where
  collection : String
  document : String
  firestore : PoolReply
  files : List (String × PoolReply)
  staticTrendUniverse : UniverseMapping

def resolveTrendPoolSource (sources : PoolSources) (state : Document) : Except PyException PoolResolution :=
  match loadTrendPoolFromFirestore settings now sources.collection sources.document sources.firestore with
  | .ok pool => .ok (buildTrendPoolResolution pool freshUpstream false now ["trend_pool_loaded_fresh_upstream"])
  | .error refused => do
    let lastGood ← getLastKnownGoodTrendPool state now settings
    if lastGood.accepted then
      return buildTrendPoolResolution lastGood lastKnownGood true now
        (refused ++ ["trend_pool_using_last_known_good"])
    else
      return resolveFromFiles settings now sources.staticTrendUniverse sources.files []
        (refused ++ lastGood.errors.map PoolMessage.key)

/-- `resolve_runtime_trend_pool`; a payload injected into the runtime has to be valid. -/
def resolveRuntimeTrendPool (injected : Option Value) (sources : PoolSources) (rawState : Document) :
    Except PyException PoolResolution :=
  match injected with
  | none => resolveTrendPoolSource settings now sources rawState
  | some payload => do
    let pool ← validateTrendPoolPayload settings true now "runtime:trend_pool_payload" payload
    if pool.accepted then
      return buildTrendPoolResolution pool freshUpstream false now ["trend_pool_loaded_runtime_payload"]
    else
      throw (valueError ("Injected trend_pool_payload failed validation: "
        ++ "; ".intercalate (pool.errors.map PoolMessage.key)))

end Loaders

/-! ## Cycles over one stored state -/

structure PoolWorld where
  stored : Document
  now : Instant

inductive PoolEvent where
  | resolved (resolution : PoolResolution) (saved : Bool)
  | refused (injected : Bool)
  | other

section Cycles
variable [CharacterTable] (settings : TrendPoolSettings)

/-- The state of `load_cycle_state` before its write: the pool's metadata, and in a rebased
scope the cached rotation pool without the symbols that left it. -/
inductive PreparesState (trendUniverse : TrendUniverse) (rawState : Document) (resolution : PoolResolution) :
    Document → Prop where
  | plain {state : Document} (normal : normalizeTradeState trendUniverse (.dict rawState) = .ok state) :
      PreparesState trendUniverse rawState resolution (updateTrendPoolState state resolution)
  | rebased {state : Document} (normal : normalizeTradeState trendUniverse (.dict rawState) = .ok state)
      (rotationPoolSymbols : List Value) :
      PreparesState trendUniverse rawState resolution
        ((updateTrendPoolState state resolution).set "rotation_pool_symbols" (.list rotationPoolSymbols))

/-- A cycle resolves the pool from the stored state and writes the state with it, or fails;
no other write touches the last good payload. -/
inductive PoolStep : PoolWorld → PoolEvent → PoolWorld → Prop where
  | saved {world : PoolWorld} {now : Instant} {injected : Option Value} {sources : PoolSources}
      {resolution : PoolResolution} {trendUniverse : TrendUniverse} {receiptEnabled : Bool}
      {state committed : Document} (later : world.now ≤ now)
      (resolves : resolveRuntimeTrendPool settings now injected sources world.stored = .ok resolution)
      (prepares : PreparesState trendUniverse world.stored resolution state)
      (saves : ordinarySave trendUniverse receiptEnabled world.stored state = .ok committed) :
      PoolStep world (.resolved resolution true) ⟨committed, now⟩
  | lost {world : PoolWorld} {now : Instant} {injected : Option Value} {sources : PoolSources}
      {resolution : PoolResolution} (later : world.now ≤ now)
      (resolves : resolveRuntimeTrendPool settings now injected sources world.stored = .ok resolution) :
      PoolStep world (.resolved resolution false) ⟨world.stored, now⟩
  | refused {world : PoolWorld} {now : Instant} {injected : Option Value} {sources : PoolSources}
      {raised : PyException} (later : world.now ≤ now)
      (refuses : resolveRuntimeTrendPool settings now injected sources world.stored = .error raised) :
      PoolStep world (.refused injected.isSome) ⟨world.stored, now⟩
  | other {world : PoolWorld} {now : Instant} {stored : Document} (later : world.now ≤ now)
      (kept : stored.get? trendPoolLastGoodPayloadKey = world.stored.get? trendPoolLastGoodPayloadKey) :
      PoolStep world .other ⟨stored, now⟩

end Cycles
end BinancePlatform.Source
