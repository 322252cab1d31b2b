import BinancePlatform.Guarantees.LastGoodPool
import BinancePlatform.Library.Runs
import BinancePlatform.Source.PoolFallback

/-!
# A fresh pool is not lost

Once a cycle has stored a fresh pool, no later cycle falls back to a file or to the
built-in universe: it is fresh itself, or it has the pool that was stored last.

* A resolution over a held pool takes the upstream pool or the held one
  (`resolves_held`, `resolves_fresh`).
* The stored payload survives the normalization, the save and the update of a cycle
  (`payload_normalized`, `payload_saved`, `payload_updated`).
* Each cycle keeps what is held (`held_step`), and so does any run (`held_run`,
  `fresh_pool_is_not_lost`).

The sources answer each cycle with any payload; the times of the cycles do not decrease.
-/

set_option autoImplicit false

namespace BinancePlatform.Guarantees.PoolNotLost
open BinancePlatform.Library BinancePlatform.Source BinancePlatform.Guarantees.LastGoodPool DateTime

section Pools
variable [CharacterTable] {settings : TrendPoolSettings} {now : Instant}

/-! ## What a resolution accepts -/

theorem loadPool_ok {sourceLabel notFound readFailed : String} {reply : PoolReply} {pool : ValidatedPool}
    (loaded : loadPool settings now sourceLabel notFound readFailed reply = .ok pool) : Stable settings now pool := by
  cases reply with
  | failed text => cases loaded
  | missing => cases loaded
  | found payload =>
    unfold loadPool at loaded
    dsimp only at loaded
    split at loaded
    next validated accepted =>
      split at loaded
      next clean =>
        cases loaded
        obtain ⟨-, fields, -, rfl⟩ := validateTrendPoolPayload_ok.mp accepted
        exact stable_of_accepted clean
      next => cases loaded
    next => cases loaded

/-- The pool that the state holds: acceptable from some earlier time on. -/
structure Held (settings : TrendPoolSettings) (pool : ValidatedPool) (world : PoolWorld) : Prop where
  stable : ∃ since ≤ world.now, Stable settings since pool
  stored : world.stored.get? trendPoolLastGoodPayloadKey = some (.dict pool.payload)

/-- Two pools with the same content. -/
structure SamePool (again pool : ValidatedPool) : Prop where
  symbols : again.symbols = pool.symbols
  symbolMap : again.symbolMap = pool.symbolMap
  version : again.version = pool.version
  mode : again.mode = pool.mode
  asOfDate : again.asOfDate = pool.asOfDate
  sourceProject : again.sourceProject = pool.sourceProject

theorem Held.lastGood {pool : ValidatedPool} {world : PoolWorld} (held : Held settings pool world)
    (later : world.now ≤ now) :
    ∃ again, getLastKnownGoodTrendPool world.stored now settings = .ok again ∧ again.accepted = true
      ∧ SamePool again pool := by
  obtain ⟨since, before, stable⟩ := held.stable
  obtain ⟨again, found, accepted, symbols, symbolMap, version, mode, asOfDate, sourceProject⟩ :=
    validated_again stable (before.trans later) "state:last_known_good"
  refine ⟨again, ?_, accepted, symbols, symbolMap, version, mode, asOfDate, sourceProject⟩
  rw [getLastKnownGoodTrendPool, held.stored, Option.getD_some, found]

/-- A resolution of a state that holds a pool is fresh or that pool; only an injected
payload is refused. -/
theorem resolves_held {pool : ValidatedPool} {world : PoolWorld} (held : Held settings pool world)
    (later : world.now ≤ now) (injected : Option Value) (sources : PoolSources) :
    match resolveRuntimeTrendPool settings now injected sources world.stored with
    | .ok resolution => resolution.sourceKind = freshUpstream
        ∨ resolution.sourceKind = lastKnownGood ∧ SamePool resolution.pool pool
    | .error _ => injected.isSome = true := by
  cases injected with
  | some payload =>
    split
    next resolution resolved =>
      obtain ⟨validated, -, resolved⟩ := bind_ok resolved
      split at resolved
      · cases resolved
        exact .inl rfl
      · cases resolved
    next => rfl
  | none =>
    unfold resolveRuntimeTrendPool resolveTrendPoolSource
    dsimp only
    cases loadTrendPoolFromFirestore settings now sources.collection sources.document sources.firestore with
    | ok fresh => exact .inl rfl
    | error refused =>
      obtain ⟨again, found, accepted, same⟩ := held.lastGood later
      dsimp only
      rw [found]
      dsimp only [bind, Except.bind]
      rw [if_pos accepted]
      exact .inr ⟨rfl, same⟩

/-- The files and the built-in universe are never fresh. -/
theorem resolveFromFiles_kind (staticTrendUniverse : UniverseMapping) (files : List (String × PoolReply))
    (seen messages : List String) :
    (resolveFromFiles settings now staticTrendUniverse files seen messages).sourceKind ≠ freshUpstream := by
  induction files generalizing seen messages with
  | nil => exact ne_of_beq_false rfl
  | cons file rest ih =>
    obtain ⟨path, reply⟩ := file
    rw [resolveFromFiles]
    split
    · exact ih seen messages
    · split
      · exact ne_of_beq_false rfl
      · exact ih _ _

/-- A resolution that is fresh has an accepted pool. -/
theorem resolves_fresh {injected : Option Value} {sources : PoolSources} {state : Document}
    {resolution : PoolResolution}
    (resolved : resolveRuntimeTrendPool settings now injected sources state = .ok resolution)
    (fresh : resolution.sourceKind = freshUpstream) :
    Stable settings now resolution.pool ∧ resolution.payload = resolution.pool.payload := by
  cases injected with
  | some payload =>
    obtain ⟨validated, accepted, resolved⟩ := bind_ok resolved
    split at resolved
    next clean =>
      cases resolved
      obtain ⟨-, fields, -, rfl⟩ := validateTrendPoolPayload_ok.mp accepted
      exact ⟨stable_of_accepted clean, rfl⟩
    next => cases resolved
  | none =>
    unfold resolveRuntimeTrendPool resolveTrendPoolSource at resolved
    dsimp only at resolved
    split at resolved
    next pool loaded =>
      cases resolved
      exact ⟨loadPool_ok loaded, rfl⟩
    next refused _ =>
      obtain ⟨lastGood, -, resolved⟩ := bind_ok resolved
      split at resolved
      · cases resolved
        exact absurd (show lastKnownGood = freshUpstream from fresh) (by decide)
      · cases resolved
        exact absurd fresh (resolveFromFiles_kind _ _ _ _)

/-! ## What the store keeps -/

/-- A payload in the state survives the merge of the defaults. -/
theorem payload_normalized {trendUniverse : TrendUniverse} {state normalized : Document} {pool : ValidatedPool}
    (held : state.get? trendPoolLastGoodPayloadKey = some (.dict pool.payload))
    (normal : normalizeTradeState trendUniverse (.dict state) = .ok normalized) :
    normalized.get? trendPoolLastGoodPayloadKey = some (.dict pool.payload) := by
  have default : Dict.find trendPoolLastGoodPayloadKey defaultFields = some emptyDict := rfl
  have distinct : pool.payload.keyList.Nodup := by
    change (["as_of_date", "version", "mode", "pool_size", "symbols", "symbol_map", "source_project"]
      : List String).Nodup
    decide
  rw [get?_normalized_default normal default (not_symbol_of_suffix trendUniverse (by decide)) (by decide)
    (by decide), held]
  change some (Value.dict (Dict.empty.update pool.payload)) = some (.dict pool.payload)
  rw [Dict.update, Dict.items_eq_entries distinct, Dict.setAll_empty distinct]

/-- The save of a state with a last good payload keeps it. -/
theorem payload_saved {trendUniverse : TrendUniverse} {receiptEnabled : Bool} {source state committed : Document}
    {pool : ValidatedPool} (held : state.get? trendPoolLastGoodPayloadKey = some (.dict pool.payload))
    (saved : ordinarySave trendUniverse receiptEnabled source state = .ok committed) :
    committed.get? trendPoolLastGoodPayloadKey = some (.dict pool.payload) := by
  obtain ⟨normalized, normal, rfl⟩ := ordinarySave_ok saved
  rw [intendedDocument, Dict.get?_update, payload_normalized held normal, Option.some_or]

omit [CharacterTable] in
/-- The pool's metadata leave the last good payload alone unless the pool is fresh. -/
theorem payload_updated (state : Document) (resolution : PoolResolution) :
    (updateTrendPoolState state resolution).get? trendPoolLastGoodPayloadKey
      = if resolution.sourceKind = freshUpstream then some (.dict resolution.payload)
        else state.get? trendPoolLastGoodPayloadKey := by
  unfold updateTrendPoolState
  dsimp only
  split
  next fresh => rw [if_pos (show resolution.sourceKind = freshUpstream from fresh), Dict.get?_set_self]
  next stale =>
    rw [if_neg (show resolution.sourceKind ≠ freshUpstream from stale)]
    simp [Dict.setAll, Dict.get?_set, trendPoolLastGoodPayloadKey]

theorem payload_prepared {trendUniverse : TrendUniverse} {rawState state : Document} {resolution : PoolResolution}
    {pool : ValidatedPool} (prepares : PreparesState trendUniverse rawState resolution state)
    (holds : if resolution.sourceKind = freshUpstream then resolution.payload = pool.payload
      else rawState.get? trendPoolLastGoodPayloadKey = some (.dict pool.payload)) :
    state.get? trendPoolLastGoodPayloadKey = some (.dict pool.payload) := by
  have updated {normalized : Document}
      (normal : normalizeTradeState trendUniverse (.dict rawState) = .ok normalized) :
      (updateTrendPoolState normalized resolution).get? trendPoolLastGoodPayloadKey = some (.dict pool.payload) := by
    rw [payload_updated]
    split
    next fresh =>
      rw [if_pos fresh] at holds
      rw [holds]
    next stale =>
      rw [if_neg stale] at holds
      exact payload_normalized holds normal
  cases prepares with
  | plain normal => exact updated normal
  | rebased normal rotationPoolSymbols =>
    rw [Dict.get?_set_ne _ _ (by decide)]
    exact updated normal

/-! ## Over the cycles -/

/-- The pool of the last cycle that stored a fresh one. -/
def lastStored (events : List PoolEvent) : Option ValidatedPool :=
  events.foldl (fun held event => match event with
    | .resolved resolution true => if resolution.sourceKind = freshUpstream then some resolution.pool else held
    | _ => held) none

omit [CharacterTable] in
theorem lastStored_snoc (events : List PoolEvent) (event : PoolEvent) :
    lastStored (events ++ [event]) = match event with
      | .resolved resolution true =>
        if resolution.sourceKind = freshUpstream then some resolution.pool else lastStored events
      | _ => lastStored events := by
  rw [lastStored, List.foldl_append]
  rfl

omit [CharacterTable] in
theorem Held.kept {pool : ValidatedPool} {world after : PoolWorld} (held : Held settings pool world)
    (later : world.now ≤ after.now)
    (same : after.stored.get? trendPoolLastGoodPayloadKey = world.stored.get? trendPoolLastGoodPayloadKey) :
    Held settings pool after := by
  obtain ⟨since, before, stable⟩ := held.stable
  exact ⟨⟨since, before.trans later, stable⟩, same.trans held.stored⟩

/-- A cycle keeps the pool that is held, or stores a fresh one in its place. -/
theorem held_step {world after : PoolWorld} {event : PoolEvent} {events : List PoolEvent} {pool : ValidatedPool}
    (holds : ∀ pool, lastStored events = some pool → Held settings pool world)
    (taken : PoolStep settings world event after) (stored : lastStored (events ++ [event]) = some pool) :
    Held settings pool after := by
  rw [lastStored_snoc] at stored
  cases taken with
  | @saved now injected sources resolution trendUniverse receiptEnabled state committed later resolves prepares saves =>
    dsimp only at stored
    split at stored
    next fresh =>
      cases stored
      obtain ⟨stable, payload⟩ := resolves_fresh resolves fresh
      refine ⟨⟨now, le_refl now, stable⟩, payload_saved (payload_prepared prepares ?_) saves⟩
      rw [if_pos fresh]
      exact payload
    next stale =>
      have held := holds pool stored
      obtain ⟨since, before, stable⟩ := held.stable
      refine ⟨⟨since, before.trans later, stable⟩, payload_saved (payload_prepared prepares ?_) saves⟩
      rw [if_neg stale]
      exact held.stored
  | lost later _ => exact (holds pool stored).kept later rfl
  | refused later _ => exact (holds pool stored).kept later rfl
  | other later kept => exact (holds pool stored).kept later kept

/-- The induction over the cycles. -/
theorem held_run {first last : PoolWorld} {events : List PoolEvent}
    (run : Run (PoolStep settings) first events last) :
    ∀ pool, lastStored events = some pool → Held settings pool last := by
  induction run with
  | start => nofun
  | next earlier taken ih => exact fun pool stored => held_step ih taken stored

/-- In every run, after a cycle that stored a fresh pool a cycle is fresh or has the pool
stored last, and is refused only for a payload injected into it. -/
theorem fresh_pool_is_not_lost {first last : PoolWorld} {front back : List PoolEvent} {event : PoolEvent}
    {pool : ValidatedPool} (run : Run (PoolStep settings) first (front ++ event :: back) last)
    (stored : lastStored front = some pool) :
    match event with
    | .resolved resolution _ => resolution.sourceKind = freshUpstream
        ∨ resolution.sourceKind = lastKnownGood ∧ SamePool resolution.pool pool
    | .refused injected => injected = true
    | .other => True := by
  obtain ⟨before, after, earlier, taken, -⟩ := run.split
  have held := held_run earlier pool stored
  cases taken with
  | @saved now injected sources resolution trendUniverse receiptEnabled state committed later resolves _ _ =>
    have found := resolves_held held later injected sources
    rw [resolves] at found
    exact found
  | @lost now injected sources resolution later resolves =>
    have found := resolves_held held later injected sources
    rw [resolves] at found
    exact found
  | @refused now injected sources raised later refuses =>
    have found := resolves_held held later injected sources
    rw [refuses] at found
    exact found
  | other => trivial

end Pools

/-! ## A pool of one symbol -/

section Ether

local instance : CharacterTable := asciiTable

def etherUpstream : ValidatedPool :=
  validatedPool coreMajor true 1789207200000000 "firestore:pools/live" (.dict etherPayload) etherPayload

/-- The sources of a cycle with the given upstream and nothing else. -/
def upstreamOnly (firestore : PoolReply) : PoolSources := ⟨"pools", "live", firestore, [], .empty⟩

def etherResolution : PoolResolution :=
  buildTrendPoolResolution etherUpstream freshUpstream false 1789207200000000 ["trend_pool_loaded_fresh_upstream"]

theorem ether_resolves : resolveRuntimeTrendPool coreMajor 1789207200000000 none
    (upstreamOnly (.found (.dict etherPayload))) .empty = .ok etherResolution := by
  have accepted : etherUpstream.accepted = true := by decide +kernel
  have valid : validateTrendPoolPayload coreMajor true 1789207200000000 "firestore:pools/live" (.dict etherPayload)
      = .ok etherUpstream :=
    validateTrendPoolPayload_ok.mpr ⟨rfl, etherPayload, rfl, rfl⟩
  have label : "firestore:" ++ "pools" ++ "/" ++ "live" = "firestore:pools/live" := by decide
  simp only [resolveRuntimeTrendPool, resolveTrendPoolSource, upstreamOnly, loadTrendPoolFromFirestore, label,
    loadPool, valid, accepted, if_true]
  rfl

theorem ether_saved : ∃ state committed,
    PreparesState ⟨[], List.nodup_nil, by simp⟩ .empty etherResolution state
      ∧ ordinarySave ⟨[], List.nodup_nil, by simp⟩ false .empty state = .ok committed := by
  have returned : (do
      let state ← normalizeTradeState ⟨[], List.nodup_nil, by simp⟩ (.dict .empty)
      ordinarySave ⟨[], List.nodup_nil, by simp⟩ false .empty (updateTrendPoolState state etherResolution)).isOk
      = true := by
    decide +kernel
  cases outcome : (do
      let state ← normalizeTradeState ⟨[], List.nodup_nil, by simp⟩ (.dict .empty)
      ordinarySave ⟨[], List.nodup_nil, by simp⟩ false .empty (updateTrendPoolState state etherResolution)) with
  | ok committed =>
    obtain ⟨state, normal, saved⟩ := bind_ok outcome
    exact ⟨_, committed, .plain normal, saved⟩
  | error raised =>
    rw [outcome] at returned
    cases returned

/-- An upstream that is gone in the next cycle. -/
theorem fresh_pool_is_not_lost_ether : ∃ committed resolution,
    resolveRuntimeTrendPool coreMajor 1799207200000000 none (upstreamOnly .missing) committed = .ok resolution
      ∧ (resolution.sourceKind = freshUpstream
        ∨ resolution.sourceKind = lastKnownGood ∧ SamePool resolution.pool etherUpstream) := by
  obtain ⟨state, committed, prepares, saves⟩ := ether_saved
  have stored : Run (PoolStep coreMajor) ⟨.empty, 0⟩ [.resolved etherResolution true]
      ⟨committed, 1789207200000000⟩ :=
    .next .start (.saved (by decide) ether_resolves prepares saves)
  have later : (1789207200000000 : Instant) ≤ 1799207200000000 := by decide
  cases found : resolveRuntimeTrendPool coreMajor 1799207200000000 none (upstreamOnly .missing) committed with
  | ok resolution =>
    have run : Run (PoolStep coreMajor) ⟨.empty, 0⟩
        ([.resolved etherResolution true] ++ .resolved resolution false :: []) ⟨committed, 1799207200000000⟩ :=
      stored.next (.lost later found)
    exact ⟨committed, resolution, found, fresh_pool_is_not_lost run rfl⟩
  | error raised =>
    have taken : PoolStep coreMajor ⟨committed, 1789207200000000⟩ (.refused (none : Option Value).isSome)
        ⟨committed, 1799207200000000⟩ :=
      .refused later found
    have run : Run (PoolStep coreMajor) ⟨.empty, 0⟩
        ([.resolved etherResolution true] ++ .refused false :: []) ⟨committed, 1799207200000000⟩ :=
      stored.next taken
    have injected : false = true := fresh_pool_is_not_lost run rfl
    cases injected

end Ether
end BinancePlatform.Guarantees.PoolNotLost
