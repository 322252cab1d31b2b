import BinancePlatform.Source.DateTime

/-!
# Incident alerts

`immediate_event` of `unified_notifications.py` with `_register_incident`, `_MarkerStore`
and the vendored `IncidentTracker`, for one incident, as steps of processes that share one
`NotificationStore`. A load is one step and a compare-and-swap is one step; the new
generation of a document is any greater number. The index document holds the entries of
the other incidents of the scope too; of these only the generation shows. What
`_read_marker` refuses is written by none of these steps.
-/

set_option autoImplicit false

namespace BinancePlatform.Source.Alerts

/-! ## The two documents -/

/-- The entry of the incident in the index. -/
structure IndexEntry where
  eventKind : String
  observedAt : Instant
  recovered : Bool
  deriving DecidableEq

inductive DeliveryStatus where
  | notAttempted
  | pending
  | uncertain
  | delivered
  deriving DecidableEq, Repr

/-- The marker without its `observed_at`. -/
structure Marker where
  active : Bool
  state : Option String
  severity : ℕ
  generation : ℕ
  transitionKey : Option String
  deliveryStatus : DeliveryStatus
  receiptId : Option String
  deriving DecidableEq

/-- The marker of an incident that has none. -/
def Marker.initial : Marker := ⟨false, none, 0, 0, none, .notAttempted, none⟩

/-- What `NotificationStore.load` returns; generation 0 is an absent document. -/
structure Loaded (α : Type) where
  value : Option α
  generation : ℕ

structure AlertStore where
  index : Loaded IndexEntry
  /-- The marker and its `observed_at`. -/
  marker : Loaded (Marker × Instant)

/-! ## One call -/

/-- The arguments of `immediate_event`; `recover` passes `recovered`. -/
structure Observation where
  eventKind : String
  occurredAt : Instant
  state : String
  severity : ℕ
  recovered : Bool

inductive AlertAction where
  | send
  | duplicate
  | recovered
  deriving DecidableEq, Repr

inductive Phase where
  /-- Before the load of the index, with the attempts left after it. -/
  | register (left : ℕ)
  | registerWrite (left : ℕ) (loaded : Loaded IndexEntry)
  /-- Before the load of the marker. -/
  | observe (left : ℕ)
  | observeWrite (left : ℕ) (loaded : Loaded (Marker × Instant))
  /-- Before `send()`, with the reserved marker. -/
  | send (reserved : Marker)
  /-- Before the load of `record_delivery`. -/
  | deliver (reserved : Marker) (receiptId : Option String)
  | deliverWrite (loaded : Loaded (Marker × Instant)) (marker : Marker)
  | ended

def Observation.entry (obs : Observation) : IndexEntry := ⟨obs.eventKind, obs.occurredAt, obs.recovered⟩

/-- `for _ in range(8)` after an attempt. -/
def retry (phase : ℕ → Phase) : ℕ → Phase
  | 0 => .ended
  | left + 1 => phase left

/-- `_register_incident` after a load. -/
def afterIndexLoad (obs : Observation) (left : ℕ) (loaded : Loaded IndexEntry) : Phase :=
  if loaded.value.any fun previous => obs.occurredAt < previous.observedAt then .ended
  else if loaded.value = some obs.entry then .observe 7
  else .registerWrite left loaded

/-- The key of a transition: a digest of the generation, the previous state, the state and
the severity. -/
abbrev TransitionDigest := ℕ → Option String → String → ℕ → String

section Tracker
variable (digest : TransitionDigest)

/-- The next marker and the action of `IncidentTracker.observe`. -/
def decideMarker (obs : Observation) (previous : Marker) : Marker × AlertAction :=
  if obs.recovered then
    ({ previous with active := false, state := some obs.state, severity := obs.severity }, .recovered)
  else if previous.active && obs.severity ≤ previous.severity then
    ({ previous with state := some obs.state, severity := obs.severity }, .duplicate)
  else
    (⟨true, some obs.state, obs.severity, previous.generation + 1,
      some (digest (previous.generation + 1) previous.state obs.state obs.severity), .pending, none⟩,
      .send)

def previousMarker (loaded : Loaded (Marker × Instant)) : Marker :=
  (loaded.value.map Prod.fst).getD .initial

/-- `immediate_event` after the decision. -/
def afterDecision (decided : Marker × AlertAction) : Phase :=
  match decided.2 with
  | .send => .send decided.1
  | _ => .ended

/-- `_MarkerStore.read` refuses a later observation. -/
def isStale (obs : Observation) (loaded : Loaded (Marker × Instant)) : Bool :=
  loaded.value.any fun previous => obs.occurredAt < previous.2

/-- `IncidentTracker.observe` after a load. -/
def afterMarkerLoad (obs : Observation) (left : ℕ) (loaded : Loaded (Marker × Instant)) : Phase :=
  if isStale obs loaded then .ended
  else
    let decided := decideMarker digest obs (previousMarker loaded)
    if decided.1 = previousMarker loaded then afterDecision decided
    else .observeWrite left loaded

/-- `record_delivery` after a load. -/
def afterDeliveryLoad (obs : Observation) (reserved : Marker) (receiptId : Option String)
    (loaded : Loaded (Marker × Instant)) : Phase :=
  if isStale obs loaded then .ended
  else match loaded.value with
    | none => .ended
    | some (previous, _) =>
      if previous.transitionKey = reserved.transitionKey then
        .deliverWrite loaded { previous with
          deliveryStatus := if receiptId.isSome then .delivered else .uncertain
          receiptId }
      else .ended

/-- What a step shows: a durable pending marker of a new generation, or a send for one. -/
inductive AlertEvent where
  | reserved (generation : ℕ)
  | sent (generation : ℕ)
  deriving DecidableEq, Repr

/-- The event of a write of the tracker. -/
def writeEvent (decided : Marker × AlertAction) : List AlertEvent :=
  match decided.2 with
  | .send => [.reserved decided.1.generation]
  | _ => []

/-- One step of a call: `true` where it goes on as the code has it, `false` where it
crashes, or an access raises with or without effect. -/
inductive CallStep (obs : Observation) :
    AlertStore → Phase → Bool → List AlertEvent → AlertStore → Phase → Prop where
  | stop {store : AlertStore} {phase : Phase} (running : phase ≠ .ended) :
      CallStep obs store phase false [] store .ended
  | loadIndex {store : AlertStore} {left : ℕ} :
      CallStep obs store (.register left) true [] store (afterIndexLoad obs left store.index)
  | writeIndex {store : AlertStore} {left next : ℕ} {loaded : Loaded IndexEntry} (returned : Bool)
      (matched : store.index.generation = loaded.generation) (later : store.index.generation < next) :
      CallStep obs store (.registerWrite left loaded) returned []
        { store with index := ⟨some obs.entry, next⟩ } (if returned then .observe 7 else .ended)
  | refuseIndex {store : AlertStore} {left : ℕ} {loaded : Loaded IndexEntry}
      (differs : store.index.generation ≠ loaded.generation) :
      CallStep obs store (.registerWrite left loaded) true [] store (retry .register left)
  | loadMarker {store : AlertStore} {left : ℕ} :
      CallStep obs store (.observe left) true [] store (afterMarkerLoad digest obs left store.marker)
  | writeMarker {store : AlertStore} {left next : ℕ} {loaded : Loaded (Marker × Instant)}
      (returned : Bool) (matched : store.marker.generation = loaded.generation)
      (later : store.marker.generation < next) :
      CallStep obs store (.observeWrite left loaded) returned
        (writeEvent (decideMarker digest obs (previousMarker loaded)))
        { store with
          marker := ⟨some ((decideMarker digest obs (previousMarker loaded)).1, obs.occurredAt), next⟩ }
        (if returned then afterDecision (decideMarker digest obs (previousMarker loaded)) else .ended)
  | refuseMarker {store : AlertStore} {left : ℕ} {loaded : Loaded (Marker × Instant)}
      (differs : store.marker.generation ≠ loaded.generation) :
      CallStep obs store (.observeWrite left loaded) true [] store (retry .observe left)
  -- a send that raises is recorded as one without a receipt
  | send {store : AlertStore} {reserved : Marker} (receiptId : Option String) :
      CallStep obs store (.send reserved) true [.sent reserved.generation] store
        (.deliver reserved receiptId)
  | loadDelivery {store : AlertStore} {reserved : Marker} {receiptId : Option String} :
      CallStep obs store (.deliver reserved receiptId) true [] store
        (afterDeliveryLoad obs reserved receiptId store.marker)
  | writeDelivery {store : AlertStore} {next : ℕ} {loaded : Loaded (Marker × Instant)} {marker : Marker}
      (returned : Bool) (matched : store.marker.generation = loaded.generation)
      (later : store.marker.generation < next) :
      CallStep obs store (.deliverWrite loaded marker) returned []
        { store with marker := ⟨some (marker, obs.occurredAt), next⟩ } .ended

/-! ## The processes -/

structure AlertProcess where
  observation : Observation
  phase : Phase

structure AlertSystem (ι : Type) where
  store : AlertStore
  processes : ι → AlertProcess
  lastObserved : Instant
  /-- The events, the latest first. -/
  log : List AlertEvent

inductive AlertLabel (ι : Type) where
  | begins (i : ι)
  | proceeds (i : ι)
  | breaks (i : ι)
  | elsewhere

variable {ι : Type} [DecidableEq ι]

def moveLabel (i : ι) (returned : Bool) : AlertLabel ι := if returned then .proceeds i else .breaks i

/-- A process begins a call with an observation no earlier than the last one, or takes a
step of its call, or another incident of the scope is written to the index. -/
inductive AlertStep : AlertSystem ι → AlertLabel ι → AlertSystem ι → Prop where
  | begins {s : AlertSystem ι} (i : ι) (obs : Observation) (idle : (s.processes i).phase = .ended)
      (ordered : s.lastObserved ≤ obs.occurredAt) :
      AlertStep s (.begins i)
        { s with
          processes := Function.update s.processes i ⟨obs, .register 7⟩
          lastObserved := obs.occurredAt }
  | moves {s : AlertSystem ι} {store : AlertStore} {phase : Phase} {events : List AlertEvent} (i : ι)
      (returned : Bool)
      (step : CallStep digest (s.processes i).observation s.store (s.processes i).phase returned events
        store phase) :
      AlertStep s (moveLabel i returned)
        { s with
          store := store
          processes := Function.update s.processes i ⟨(s.processes i).observation, phase⟩
          log := events.reverse ++ s.log }
  | elsewhere {s : AlertSystem ι} {next : ℕ} (later : s.store.index.generation < next) :
      AlertStep s .elsewhere { s with store := { s.store with index := ⟨s.store.index.value, next⟩ } }

end Tracker

/-- No document and no call. -/
def AlertSystem.initial {ι : Type} (observation : Observation) : AlertSystem ι where
  store := ⟨⟨none, 0⟩, ⟨none, 0⟩⟩
  processes _ := ⟨observation, .ended⟩
  lastObserved := DateTime.minInstant
  log := []

end BinancePlatform.Source.Alerts
