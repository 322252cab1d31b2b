import BinancePlatform.Source.SessionSave
import BinancePlatform.Source.IntervalWriter
import BinancePlatform.Source.ProspectiveMigration

/-!
# The owner document

`BoundTradeStateAccess` of `live_services.py` under `runtime_call_client`, and
`release_stale_owner` of `migrate_daily_accounting_state.py`, as steps among the other
writers of the three documents. A read is one step and a transaction is one step; an
update time is the instant `_timestamp` writes. A session that fails is invalid for
good. `activated` is what `activated_target` accepts; the account and open-order reads
only decide whether the operator goes on.
-/

set_option autoImplicit false

namespace BinancePlatform.Source
open BinancePlatform.Library

structure DocumentSnapshot where
  value : Document
  updateTime : ℕ

structure OwnedStore where
  owner : Option DocumentSnapshot
  ledger : Option DocumentSnapshot
  control : Option DocumentSnapshot
  others : Dict String Document

/-- An unchanged write may retain the previous update time; a changed one raises it. -/
def Rewritten (before after : Option DocumentSnapshot) : Prop :=
  ∀ old, before = some old → ∃ new, after = some new ∧ (new = old ∨ old.updateTime < new.updateTime)

/-- `{"owner_id": owner_id}`. -/
def ownerDocument (ownerId : String) : Document := ⟨[("owner_id", .str ownerId)]⟩

def ownedBy (ownerId : String) (owner : Option DocumentSnapshot) : Bool :=
  owner.any fun snapshot => Value.equalsDict snapshot.value (ownerDocument ownerId)

/-- `_json(raw) == _json(other)`. -/
def sameJson (raw other : Document) : Bool :=
  match (Value.dict raw).json, (Value.dict other).json with
  | .ok text, .ok expected => text = expected
  | _, _ => false

/-- `_matches_source`. -/
def matchesSource (current source : Option DocumentSnapshot) : Bool :=
  match current, source with
  | none, none => true
  | some now, some published =>
    now.updateTime = published.updateTime && sameJson now.value published.value
  | _, _ => false

/-! ## The session -/

/-- Which write a save is, and so what follows it. -/
inductive SaveKind where
  | ordinary
  | reserve
  | submit
  | receipt
  | settle
deriving DecidableEq

inductive SessionPhase where
  | unclaimed
  | idle
  -- in `runtime_call_client`, with a `RESERVED` record
  | submitting
  -- in `save`, before its transaction
  | saving (data intended : Document) (kind : SaveKind)
  -- in `save`, after its transaction
  | readback (data intended : Document) (kind : SaveKind)
  -- the request is about to be sent
  | sending
  -- the request is sent
  | posted
  -- the Earn receipt is written
  | confirming
  | stopped

/-- `unsettled` is not data of the source: it is set by the write of
`SUBMISSION_UNKNOWN` and cleared by the write of its settlement. -/
structure StateSession where
  phase : SessionPhase
  tradeState : Document
  source : Option DocumentSnapshot
  loaded : Bool
  pendingFunds : Bool
  unsettled : Bool

def openSession : StateSession :=
  { phase := .unclaimed, tradeState := .empty, source := none, loaded := false, pendingFunds := false
    unsettled := false }

inductive SessionEvent where
  | quiet
  | ledgerWrite
  | post
deriving DecidableEq

/-- `state["order_submission"]["state"]`. -/
def recordState (state : Document) : Value :=
  match pyGet state orderSubmissionStateKey with
  | .dict record => pyGet record "state"
  | _ => .none

def isUnknown (state : Document) : Bool := (recordState state).isStr orderSubmissionUnknown
def isPending (state : Document) : Bool :=
  (recordState state).isStr orderSubmissionFilledAccountingPending

/-- The trade state with its submission record replaced. -/
def withRecord (state record : Document) : Document := state.set orderSubmissionStateKey (.dict record)

/-- `unknown_record`: of an order with its `symbol`, of an Earn request with its `method_name`. -/
def unknownRecord (identitySha256 : String) (subject : String × String) : Document :=
  ⟨[("state", .str orderSubmissionUnknown), ("identity_sha256", .str identitySha256),
    (subject.1, .str subject.2)]⟩

/-- `terminal_record` of `_complete_order_response`. -/
inductive SettledRecord : Document → Prop where
  | terminal : SettledRecord (statusRecord orderSubmissionTerminal)
  | pending (identitySha256 symbol : String) (knownFill : Document) :
      SettledRecord ⟨[("state", .str orderSubmissionFilledAccountingPending),
        ("identity_sha256", .str identitySha256), ("symbol", .str symbol),
        ("known_fill", .dict knownFill)]⟩

/-- What the cycle does to the submission record itself: nothing, or the settlement of an
accounted fill. -/
inductive EditsRecord (before after : Document) : Prop where
  | kept (same : after.get? orderSubmissionStateKey = before.get? orderSubmissionStateKey)
  | accounted (pending : isPending before = true)
      (settled : after.get? orderSubmissionStateKey
        = some (.dict (statusRecord orderSubmissionTerminal)))

/-- The phase after a save that returned. -/
def SaveKind.next : SaveKind → SessionPhase
  | .ordinary => .idle
  | .reserve => .submitting
  | .submit => .sending
  | .receipt => .confirming
  | .settle => .idle

/-- The write of `SUBMISSION_UNKNOWN` opens a submission and its settlement closes it. -/
def SaveKind.leavesUnsettled (kind : SaveKind) (unsettled : Bool) : Bool :=
  match kind with
  | .submit => true
  | .settle => false
  | _ => unsettled

section Steps
variable [CharacterTable] (trendUniverse : TrendUniverse) (receiptEnabled : Bool) (ownerId : String)

/-- `self._source or {}`. -/
def sourceDocument (source : Option DocumentSnapshot) : Document :=
  match source with
  | some snapshot => snapshot.value
  | none => .empty

/-- The document a save intends, without an interval and with one. -/
inductive Intends (source : Option DocumentSnapshot) (data intended : Document) : Prop where
  | ordinary (merged :
      ordinarySave trendUniverse receiptEnabled (sourceDocument source) data = .ok intended)
  | interval {published : DocumentSnapshot} {normalized : Document} (given : source = some published)
      (normal : normalizeTradeState trendUniverse (.dict data) = .ok normalized)
      (patched : intended = published.value.update (patchOf normalized))

/-- One step of a session: of its cycle, of `runtime_call_client`, of a save or of the
release. -/
inductive SessionStep :
    OwnedStore → StateSession → SessionEvent → OwnedStore → StateSession → Prop where
  | claim {store : OwnedStore} {session : StateSession} (updateTime : ℕ)
      (unclaimed : session.phase = .unclaimed) (absent : store.owner = none) :
      SessionStep store session .quiet
        { store with owner := some ⟨ownerDocument ownerId, updateTime⟩ }
        { session with phase := .idle }
  | load {store : OwnedStore} {session : StateSession} (tradeState : Document)
      (idle : session.phase = .idle) (fresh : session.loaded = false)
      (owned : ownedBy ownerId store.owner = true) :
      SessionStep store session .quiet store
        { session with tradeState, source := store.ledger, loaded := true }
  | edit {store : OwnedStore} {session : StateSession} (tradeState : Document)
      (idle : session.phase = .idle) (edits : EditsRecord session.tradeState tradeState) :
      SessionStep store session .quiet store { session with tradeState }
  -- `runtime_set_trade_state`
  | setTradeState {store : OwnedStore} {session : StateSession} {intended : Document}
      (idle : session.phase = .idle) (loaded : session.loaded = true)
      (intends : Intends trendUniverse receiptEnabled session.source session.tradeState intended) :
      SessionStep store session .quiet store
        { session with phase := .saving session.tradeState intended .ordinary }
  -- `runtime_call_client` with a `TERMINAL` record writes `RESERVED` first
  | reserve {store : OwnedStore} {session : StateSession} {intended : Document}
      (idle : session.phase = .idle) (loaded : session.loaded = true)
      (terminal : (recordState session.tradeState).isStr orderSubmissionTerminal = true)
      (merged : ordinarySave trendUniverse receiptEnabled (sourceDocument session.source)
        (withRecord session.tradeState (statusRecord orderSubmissionReserved)) = .ok intended) :
      SessionStep store session .quiet store
        { session with
          phase := .saving (withRecord session.tradeState (statusRecord orderSubmissionReserved))
            intended .reserve }
  | call {store : OwnedStore} {session : StateSession} (idle : session.phase = .idle)
      (reserved : (recordState session.tradeState).isStr orderSubmissionReserved = true
        ∨ session.tradeState.get? orderSubmissionStateKey = none) :
      SessionStep store session .quiet store { session with phase := .submitting }
  | preflightFails {store : OwnedStore} {session : StateSession}
      (submitting : session.phase = .submitting) :
      SessionStep store session .quiet store { session with phase := .idle }
  | submit {store : OwnedStore} {session : StateSession} {intended : Document}
      (identitySha256 : String) (subject : String × String)
      (submitting : session.phase = .submitting) (loaded : session.loaded = true)
      (merged : ordinarySave trendUniverse receiptEnabled (sourceDocument session.source)
        (withRecord session.tradeState (unknownRecord identitySha256 subject)) = .ok intended) :
      SessionStep store session .quiet store
        { session with
          phase := .saving (withRecord session.tradeState (unknownRecord identitySha256 subject))
            intended .submit }
  | post {store : OwnedStore} {session : StateSession} (sending : session.phase = .sending) :
      SessionStep store session .post store { session with phase := .posted }
  | answered {store : OwnedStore} {session : StateSession} {record intended : Document}
      (posted : session.phase = .posted) (settled : SettledRecord record)
      (merged : ordinarySave trendUniverse receiptEnabled (sourceDocument session.source)
        (withRecord session.tradeState record) = .ok intended) :
      SessionStep store session .quiet store
        { session with phase := .saving (withRecord session.tradeState record) intended .settle }
  -- `runtime_call_client` with the `SUBMISSION_UNKNOWN` record of an order asks for that order
  | reconciled {store : OwnedStore} {session : StateSession} {submission record intended : Document}
      (idle : session.phase = .idle) (loaded : session.loaded = true)
      (unknown : isUnknown session.tradeState = true)
      (current : pyGet session.tradeState orderSubmissionStateKey = .dict submission)
      (order : submission.contains "method_name" = false) (settled : SettledRecord record)
      (merged : ordinarySave trendUniverse receiptEnabled (sourceDocument session.source)
        (withRecord session.tradeState record) = .ok intended) :
      SessionStep store session .quiet store
        { session with phase := .saving (withRecord session.tradeState record) intended .settle }
  | subscribed {store : OwnedStore} {session : StateSession} {record fundingReceipt intended : Document}
      (posted : session.phase = .posted)
      (current : pyGet session.tradeState orderSubmissionStateKey = .dict record)
      (merged : ordinarySave trendUniverse receiptEnabled (sourceDocument session.source)
        (withRecord session.tradeState (record.set "funding_receipt" (.dict fundingReceipt))) = .ok intended) :
      SessionStep store session .quiet store
        { session with
          phase := .saving
            (withRecord session.tradeState (record.set "funding_receipt" (.dict fundingReceipt)))
            intended .receipt }
  | confirmed {store : OwnedStore} {session : StateSession} {intended : Document}
      (confirming : session.phase = .confirming)
      (merged : ordinarySave trendUniverse receiptEnabled (sourceDocument session.source)
        (withRecord session.tradeState (statusRecord orderSubmissionTerminal)) = .ok intended) :
      SessionStep store session .quiet store
        { session with
          phase := .saving (withRecord session.tradeState (statusRecord orderSubmissionTerminal))
            intended .settle }
  -- an uncertain outcome or settlement raises
  | uncertain {store : OwnedStore} {session : StateSession}
      (waiting : session.phase = .posted ∨ session.phase = .confirming) :
      SessionStep store session .quiet store { session with phase := .idle }
  -- the transaction of a save, with the receipt of an interval
  | commit {store : OwnedStore} {session : StateSession} {data intended : Document} {kind : SaveKind}
      (updateTime : ℕ) (others : Dict String Document)
      (saving : session.phase = .saving data intended kind) (loaded : session.loaded = true)
      (owned : ownedBy ownerId store.owner = true)
      (current : matchesSource store.ledger session.source = true)
      (later : Rewritten store.ledger (some ⟨intended, updateTime⟩)) :
      SessionStep store session .ledgerWrite { store with ledger := some ⟨intended, updateTime⟩, others }
        { session with phase := .readback data intended kind
                       unsettled := kind.leavesUnsettled session.unsettled }
  | readback {store : OwnedStore} {session : StateSession} {data intended : Document} {kind : SaveKind}
      {now : DocumentSnapshot} (pendingFunds : Bool)
      (written : session.phase = .readback data intended kind)
      (owned : ownedBy ownerId store.owner = true) (found : store.ledger = some now)
      (same : sameJson now.value intended = true)
      (funds : kind = .submit → pendingFunds = true) :
      SessionStep store session .quiet store
        { session with phase := kind.next, tradeState := data, source := some now, pendingFunds }
  -- `invalidate`, by a failure or from outside
  | fail {store : OwnedStore} {session : StateSession} :
      SessionStep store session .quiet store { session with phase := .stopped }
  | release {store : OwnedStore} {session : StateSession} (idle : session.phase = .idle)
      (funds : session.pendingFunds = false) (known : isUnknown session.tradeState = false)
      (accounted : isPending session.tradeState = false)
      (owned : ownedBy ownerId store.owner = true)
      (current : session.loaded = true → matchesSource store.ledger session.source = true) :
      SessionStep store session .quiet { store with owner := none } { session with phase := .stopped }

/-! ## The operator -/

/-- `_snapshot_matches` with the marker of a snapshot that exists. -/
def snapshotMatches (current : Option DocumentSnapshot) (marker : DocumentSnapshot) : Bool :=
  current.any fun snapshot =>
    snapshot.updateTime = marker.updateTime && Value.equalsDict snapshot.value marker.value

/-- `isinstance(owner_id, str) and owner_id.strip()`. -/
def hasOwnerId (owner : Document) : Bool :=
  match pyGet owner "owner_id" with
  | .str ownerId => strip ownerId ≠ ""
  | _ => false

structure ReleaseMarkers where
  owner : DocumentSnapshot
  ledger : DocumentSnapshot
  control : DocumentSnapshot

inductive OperatorPhase where
  | start
  | ownerRead (owner : DocumentSnapshot)
  | ledgerRead (owner ledger : DocumentSnapshot)
  | controlRead (markers : ReleaseMarkers)
  | validated (markers : ReleaseMarkers)
  | accountRead (markers : ReleaseMarkers)
  | checked (markers : ReleaseMarkers)
  | finished

variable (activated : Document → Bool)

/-- `release_stale_owner` up to its transaction; `finish` is a check that fails, an absent
owner, or a transaction whose commit fails. -/
inductive OperatorStep (store : OwnedStore) : OperatorPhase → OperatorPhase → Prop where
  | readOwner {owner : DocumentSnapshot} (found : store.owner = some owner)
      (named : hasOwnerId owner.value = true) : OperatorStep store .start (.ownerRead owner)
  | readLedger {owner ledger : DocumentSnapshot} (found : store.ledger = some ledger) :
      OperatorStep store (.ownerRead owner) (.ledgerRead owner ledger)
  | readControl {owner ledger control : DocumentSnapshot} (found : store.control = some control) :
      OperatorStep store (.ledgerRead owner ledger) (.controlRead ⟨owner, ledger, control⟩)
  | validate {markers : ReleaseMarkers}
      (safe : validateSafeOrderState markers.ledger.value = .ok ())
      (active : isActiveLkg markers.control.value = true)
      (target : activated markers.control.value = true) :
      OperatorStep store (.controlRead markers) (.validated markers)
  | readAccount {markers : ReleaseMarkers} : OperatorStep store (.validated markers) (.accountRead markers)
  | readOpenOrders {markers : ReleaseMarkers} :
      OperatorStep store (.accountRead markers) (.checked markers)
  | finish {phase : OperatorPhase} : OperatorStep store phase .finished

/-- `_release_stale_owner_transaction`. -/
def releaseStaleOwnerTransaction (store : OwnedStore) (markers : ReleaseMarkers) :
    Except PyException OwnedStore := do
  require (snapshotMatches store.owner markers.owner && snapshotMatches store.ledger markers.ledger
      && snapshotMatches store.control markers.control)
    (valueError "stale_owner_release_precondition_changed")
  require (store.owner.any fun owner => hasOwnerId owner.value)
    (valueError "stale_owner_release_precondition_changed")
  return { store with owner := none }

end Steps

/-! ## Sessions, operators and the other programs -/

structure OwnerSystem where
  store : OwnedStore
  sessions : ℕ → StateSession
  operators : ℕ → OperatorPhase

inductive OwnerEvent where
  | session (who : ℕ) (event : SessionEvent)
  | operator (who : ℕ)
  | released (who : ℕ) (markers : ReleaseMarkers)
  | other

section System
variable [CharacterTable] (trendUniverse : TrendUniverse) (receiptEnabled : Bool)
  (activated : Document → Bool) (ownerIds : ℕ → String)

/-- Every other program writes the ledger only without an owner. -/
inductive OwnerStep : OwnerSystem → OwnerEvent → OwnerSystem → Prop where
  | session {system : OwnerSystem} {who : ℕ} {event : SessionEvent} {store : OwnedStore}
      {next : StateSession}
      (moves : SessionStep trendUniverse receiptEnabled (ownerIds who) system.store
        (system.sessions who) event store next) :
      OwnerStep system (.session who event)
        { system with store, sessions := Function.update system.sessions who next }
  | operator {system : OwnerSystem} {who : ℕ} {next : OperatorPhase}
      (moves : OperatorStep activated system.store (system.operators who) next) :
      OwnerStep system (.operator who)
        { system with operators := Function.update system.operators who next }
  | released {system : OwnerSystem} {who : ℕ} {markers : ReleaseMarkers} {store : OwnedStore}
      (decided : system.operators who = .checked markers)
      (committed : releaseStaleOwnerTransaction system.store markers = .ok store) :
      OwnerStep system (.released who markers)
        { system with store, operators := Function.update system.operators who .finished }
  | migrate {system : OwnerSystem} {ledger : Option DocumentSnapshot} {others : Dict String Document}
      (absent : system.store.owner = none) (later : Rewritten system.store.ledger ledger) :
      OwnerStep system .other { system with store := { system.store with ledger, others } }
  | control {system : OwnerSystem} {control : Option DocumentSnapshot}
      (later : Rewritten system.store.control control) :
      OwnerStep system .other { system with store := { system.store with control } }

end System
end BinancePlatform.Source
