import BinancePlatform.Source.StaleOwner

/-!
# Releasing a stale owner

A committed release deletes the owner document and nothing else, against the ledger and
the control the operator validated. Its owner has then no request between the write of
`SUBMISSION_UNKNOWN` and the settlement, and neither writes the ledger nor sends a
request afterwards.

* A save keeps an unsettled record unsettled (`isUnknown_normalized`, `isUnknown_merged`).
* A session within a request holds the document or has been ousted (`guarded_step`,
  `ousted_step`), whatever the others do (`sound_step`).
* What the operator watched stays true of the snapshots it compares (`watches_step`).
* Hence a release finds the owner idle, and the ousted session does nothing more
  (`ousted_run`, `stale_release_is_safe`).

Sessions, operators and the other writers of the ledger interleave in any order; a commit
compares its snapshots and writes in one step, as a Firestore transaction does.
-/

set_option autoImplicit false

namespace BinancePlatform.Guarantees.StaleRelease
open BinancePlatform.Library BinancePlatform.Source

/-! ## The submission record through a save -/

theorem isUnknown_iff {state : Document} :
    isUnknown state = true ↔ ∃ record, state.get? orderSubmissionStateKey = some (.dict record)
      ∧ record.get? "state" = some (.str orderSubmissionUnknown) := by
  unfold isUnknown recordState pyGet
  constructor
  · intro unknown
    cases stored : state.get? orderSubmissionStateKey with
    | none => simp [stored, Value.isStr] at unknown
    | some value =>
      rw [stored, Option.getD_some] at unknown
      cases value with
      | dict record =>
        refine ⟨record, rfl, ?_⟩
        cases found : record.get? "state" with
        | none => simp [found, Value.isStr] at unknown
        | some status =>
          simp only [found, Option.getD_some] at unknown
          cases status with
          | str text => rw [(Value.isStr_str _ _).mp unknown]
          | _ => cases unknown
      | _ => simp [Value.isStr] at unknown
  · rintro ⟨record, stored, status⟩
    rw [stored, Option.getD_some]
    simp [status, Value.isStr]

theorem recordState_of_unknown {state : Document} (unknown : isUnknown state = true) :
    recordState state = .str orderSubmissionUnknown := by
  obtain ⟨record, stored, status⟩ := isUnknown_iff.mp unknown
  simp [recordState, pyGet, stored, status]

theorem isUnknown_congr {state other : Document}
    (same : other.get? orderSubmissionStateKey = state.get? orderSubmissionStateKey) :
    isUnknown other = isUnknown state := by
  rw [isUnknown, recordState, pyGet, same, isUnknown, recordState, pyGet]

theorem isUnknown_withRecord (state record : Document) :
    isUnknown (withRecord state record) = (pyGet record "state").isStr orderSubmissionUnknown := by
  rw [isUnknown, recordState, withRecord, pyGet, Dict.get?_set_self, Option.getD_some]

theorem isUnknown_unknownRecord (state : Document) (identitySha256 : String)
    (subject : String × String) :
    isUnknown (withRecord state (unknownRecord identitySha256 subject)) = true := by
  rw [isUnknown_withRecord]
  simp [unknownRecord, pyGet, Dict.get?, Dict.find, Value.isStr]

theorem isUnknown_receipt {state record : Document} (fundingReceipt : Document) (unknown : isUnknown state = true)
    (current : pyGet state orderSubmissionStateKey = .dict record) :
    isUnknown (withRecord state (record.set "funding_receipt" (.dict fundingReceipt))) = true := by
  rw [isUnknown_withRecord, pyGet, Dict.get?_set_ne _ _ (by decide)]
  rw [isUnknown, recordState, current] at unknown
  exact unknown

theorem not_unknown_of_safe [CharacterTable] {ledger : Document}
    (safe : validateSafeOrderState ledger = .ok ()) : isUnknown ledger = false := by
  unfold validateSafeOrderState at safe
  obtain ⟨record, isRecord, safe⟩ := bind_ok safe
  obtain ⟨-, safe⟩ := require_bind safe
  have known := require_ok.mp safe
  rw [isUnknown, recordState, show pyGet ledger orderSubmissionStateKey = .dict record from
    asMapping_ok isRecord, Bool.eq_false_iff]
  intro unknown
  have status : pyGet record "state" = .str orderSubmissionUnknown := by
    change (pyGet record "state").isStr orderSubmissionUnknown = true at unknown
    cases value : pyGet record "state" with
    | str text =>
      rw [value] at unknown
      rw [(Value.isStr_str _ _).mp unknown]
    | _ => rw [value] at unknown; cases unknown
  rw [status] at known
  simp [Value.truthy, Value.toStr, orderSubmissionUnknown, orderSubmissionReserved,
    orderSubmissionTerminal] at known

section Saves
variable [CharacterTable] {trendUniverse : TrendUniverse} {receiptEnabled : Bool}

/-- Normalization keeps the status of a submission record. -/
theorem isUnknown_normalized {state normalized : Document}
    (normal : normalizeTradeState trendUniverse (.dict state) = .ok normalized)
    (unknown : isUnknown state = true) : isUnknown normalized = true := by
  obtain ⟨record, stored, status⟩ := isUnknown_iff.mp unknown
  have merged := get?_normalized_default normal
    (show Dict.find orderSubmissionStateKey defaultFields
      = some (.dict ⟨[("state", .str "RESERVED")]⟩) from rfl)
    (not_symbol_of_suffix trendUniverse (by decide)) (by decide) (by decide)
  rw [stored, mergeDefault] at merged
  refine isUnknown_iff.mpr ⟨_, merged, ?_⟩
  rw [Dict.get?_update, status]
  rfl

/-- A save keeps the record of an unknown submission. -/
theorem isUnknown_merged {source data intended : Document}
    (merged : ordinarySave trendUniverse receiptEnabled source data = .ok intended)
    (unknown : isUnknown data = true) : isUnknown intended = true := by
  obtain ⟨normalized, normal, rfl⟩ := ordinarySave_ok merged
  obtain ⟨record, stored, status⟩ := isUnknown_iff.mp (isUnknown_normalized normal unknown)
  refine isUnknown_iff.mpr ⟨record, ?_, status⟩
  rw [intendedDocument, Dict.get?_update, stored, Option.some_or]

/-- The document a save intends has the status of the saved state, or of its source. -/
theorem isUnknown_intends {source : Option DocumentSnapshot} {data intended : Document}
    (intends : Intends trendUniverse receiptEnabled source data intended)
    (unknown : isUnknown data = true)
    (published : ∀ snapshot, source = some snapshot → isUnknown snapshot.value = true) :
    isUnknown intended = true := by
  cases intends with
  | ordinary merged => exact isUnknown_merged merged unknown
  | @interval snapshot normalized given normal patched =>
    rw [← published snapshot given, patched]
    apply isUnknown_congr
    rw [Dict.get?_update]
    have unpatched : (patchOf normalized).get? orderSubmissionStateKey = none := by
      simp [patchOf, patchFields, Dict.get?, Dict.find, orderSubmissionStateKey]
    rw [unpatched, Option.none_or]

end Saves

/-! ## Snapshots -/

/-- The document was read earlier: it is the current one or has been rewritten. -/
def Seen (current : Option DocumentSnapshot) (snapshot : DocumentSnapshot) : Prop :=
  ∃ now, current = some now ∧ (snapshot = now ∨ snapshot.updateTime < now.updateTime)

theorem Seen.rewritten {before after : Option DocumentSnapshot} {snapshot : DocumentSnapshot}
    (seen : Seen before snapshot) (later : Rewritten before after) : Seen after snapshot := by
  obtain ⟨now, current, earlier⟩ := seen
  obtain ⟨new, written, newer⟩ := later now current
  refine ⟨new, written, ?_⟩
  rcases newer with rfl | newer
  · exact earlier
  · rcases earlier with rfl | earlier
    · exact .inr newer
    · exact .inr (earlier.trans newer)

theorem Rewritten.refl (current : Option DocumentSnapshot) : Rewritten current current :=
  fun old stored => ⟨old, stored, .inl rfl⟩

/-- A snapshot whose marker still matches is the current document. -/
theorem Seen.current {current : Option DocumentSnapshot} {marker : DocumentSnapshot}
    (seen : Seen current marker) (matched : snapshotMatches current marker = true) :
    current = some marker := by
  obtain ⟨now, found, earlier⟩ := seen
  rw [found, snapshotMatches, Option.any_some, Bool.and_eq_true, decide_eq_true_eq] at matched
  rcases earlier with rfl | earlier
  · exact found
  · omega

theorem ownedBy_eq {ownerId other : String} {updateTime : ℕ}
    (owned : ownedBy ownerId (some ⟨ownerDocument other, updateTime⟩) = true) : other = ownerId := by
  rw [ownedBy, Option.any_some] at owned
  rcases equals_entries owned "owner_id" with ⟨absent, -⟩ | ⟨a, b, first, second, equal⟩
  · simp [ownerDocument, Dict.get?, Dict.find] at absent
  · simp only [ownerDocument, Dict.get?, Dict.find, if_true, Option.some.injEq] at first second
    subst first second
    exact (Value.str.inj (equals_str equal)).symm

theorem ownedBy_self (ownerId : String) (updateTime : ℕ) :
    ownedBy ownerId (some ⟨ownerDocument ownerId, updateTime⟩) = true := by
  rw [ownedBy, Option.any_some, equalsDict_eq]
  simp [ownerDocument, allEqual, Dict.items, Dict.dedupe, Dict.get?, Dict.find, Value.equals,
    Value.isStr_str]

theorem ownedBy_unique {ownerId other : String} {owner : Option DocumentSnapshot}
    (owned : ownedBy ownerId owner = true) (shared : ownedBy other owner = true) : ownerId = other := by
  cases owner with
  | none => cases owned
  | some snapshot =>
    have named : ∀ id, ownedBy id (some snapshot) = true →
        snapshot.value.get? "owner_id" = some (.str id) := by
      intro id same
      rcases equals_entries (show Value.equalsDict snapshot.value (ownerDocument id) = true from same)
        "owner_id" with ⟨-, absent⟩ | ⟨a, b, first, second, equal⟩
      · simp [ownerDocument, Dict.get?, Dict.find] at absent
      · simp only [ownerDocument, Dict.get?, Dict.find, if_true, Option.some.injEq] at second
        subst second
        rw [← str_equals equal]
        exact first
    have same := (named ownerId owned).symm.trans (named other shared)
    exact Value.str.inj (Option.some.inj same)

/-! ## The session that holds an unsettled submission -/

/-- What the session still carries of `SUBMISSION_UNKNOWN` in each phase. -/
def Carries (session : StateSession) : Prop :=
  match session.phase with
  | .unclaimed | .submitting => False
  | .saving data intended kind =>
    isUnknown data = true ∧ (kind = .ordinary ∨ kind = .receipt) ∧ isUnknown intended = true
      ∨ kind = .settle
  | .readback data _ kind => isUnknown data = true ∧ kind ≠ .reserve
  | .idle | .sending | .posted | .confirming =>
    isUnknown session.tradeState = true
      ∧ ∀ snapshot, session.source = some snapshot → isUnknown snapshot.value = true
  | .stopped => True

/-- A request may be on its way: from the write of `SUBMISSION_UNKNOWN` to the answer. -/
def InRequest (session : StateSession) : Prop :=
  match session.phase with
  | .readback _ _ .submit | .sending | .posted => True
  | _ => False

structure Holds (ownerId : String) (store : OwnedStore) (session : StateSession) : Prop where
  carries : Carries session
  loaded : session.loaded = true
  owned : ownedBy ownerId store.owner = true
  unknown : ∃ snapshot, store.ledger = some snapshot ∧ isUnknown snapshot.value = true

/-- An unsettled submission is held, and a request is unsettled. -/
structure Guarded (ownerId : String) (store : OwnedStore) (session : StateSession) : Prop where
  holds : session.unsettled = true → Holds ownerId store session
  request : InRequest session → session.unsettled = true
  written : ∀ data intended, session.phase = .saving data intended .submit → isUnknown intended = true
    ∧ isUnknown data = true

section Session
variable [CharacterTable] {trendUniverse : TrendUniverse} {receiptEnabled : Bool} {ownerId : String}
  {store after : OwnedStore} {session next : StateSession} {event : SessionEvent}

omit [CharacterTable] in
/-- A step that leaves the store alone and starts no request. -/
theorem Guarded.kept (guarded : Guarded ownerId store session)
    (unsettled : next.unsettled = session.unsettled) (loaded : session.loaded = true → next.loaded = true)
    (carries : Holds ownerId store session → Carries next) (request : InRequest next → InRequest session)
    (written : ∀ data intended, next.phase = .saving data intended .submit →
      isUnknown intended = true ∧ isUnknown data = true) : Guarded ownerId store next := by
  refine ⟨?_, ?_, written⟩
  · intro open_
    have held := guarded.holds (unsettled.symm.trans open_)
    exact ⟨carries held, loaded held.loaded, held.owned, held.unknown⟩
  · intro inRequest
    exact unsettled.trans (guarded.request (request inRequest))

omit [CharacterTable] in
theorem Holds.idle (held : Holds ownerId store session) (idle : session.phase = .idle) :
    isUnknown session.tradeState = true
      ∧ ∀ snapshot, session.source = some snapshot → isUnknown snapshot.value = true := by
  have carries := held.carries
  simp only [Carries, idle] at carries
  exact carries

/-- A session that holds an unsettled submission guards it at its own steps. -/
theorem guarded_step (guarded : Guarded ownerId store session)
    (moves : SessionStep trendUniverse receiptEnabled ownerId store session event after next) :
    Guarded ownerId after next := by
  cases moves with
  | claim updateTime unclaimed absent =>
    refine ⟨?_, by simp [InRequest], by simp⟩
    intro unsettled
    have carries := (guarded.holds unsettled).carries
    simp [Carries, unclaimed] at carries
  | load tradeState idle fresh owned =>
    refine guarded.kept rfl (fun _ => rfl) ?_ ?_ ?_
    · intro held
      have loaded := held.loaded
      rw [fresh] at loaded
      cases loaded
    · simp [InRequest, idle]
    · simp [idle]
  | edit tradeState idle edits =>
    refine guarded.kept rfl id ?_ ?_ ?_
    · intro held
      obtain ⟨unknown, published⟩ := held.idle idle
      simp only [Carries, idle]
      refine ⟨?_, published⟩
      cases edits with
      | kept same => rw [isUnknown_congr same, unknown]
      | accounted pending settled =>
        rw [isPending, recordState_of_unknown unknown] at pending
        exact absurd pending (by decide)
    · simp [InRequest, idle]
    · simp [idle]
  | setTradeState idle loaded intends =>
    refine guarded.kept rfl id ?_ ?_ ?_
    · intro held
      obtain ⟨unknown, published⟩ := held.idle idle
      exact .inl ⟨unknown, .inl rfl, isUnknown_intends intends unknown published⟩
    · simp [InRequest]
    · simp
  | reserve idle loaded terminal merged =>
    refine guarded.kept rfl id ?_ ?_ ?_
    · intro held
      rw [recordState_of_unknown (held.idle idle).1] at terminal
      exact absurd terminal (by decide)
    · simp [InRequest]
    · simp
  | call idle reserved =>
    refine guarded.kept rfl id ?_ ?_ ?_
    · intro held
      obtain ⟨unknown, -⟩ := held.idle idle
      rcases reserved with reserved | absent
      · rw [recordState_of_unknown unknown] at reserved
        exact absurd reserved (by decide)
      · obtain ⟨record, stored, -⟩ := isUnknown_iff.mp unknown
        rw [absent] at stored
        cases stored
    · simp [InRequest]
    · simp
  | preflightFails submitting =>
    refine guarded.kept rfl id ?_ ?_ ?_
    · intro held
      have carries := held.carries
      simp [Carries, submitting] at carries
    · simp [InRequest]
    · simp
  | @submit intended identitySha256 subject submitting loaded merged =>
    refine guarded.kept rfl id ?_ ?_ ?_
    · intro held
      have carries := held.carries
      simp [Carries, submitting] at carries
    · simp [InRequest]
    · intro data intended saving
      have unknown := isUnknown_unknownRecord session.tradeState identitySha256 subject
      cases saving
      exact ⟨isUnknown_merged merged unknown, unknown⟩
  | post sending =>
    refine guarded.kept rfl id ?_ ?_ ?_
    · intro held
      have carries := held.carries
      simp only [Carries, sending] at carries
      exact carries
    · simp [InRequest, sending]
    · simp
  | answered posted settled merged =>
    refine guarded.kept rfl id ?_ ?_ ?_
    · intro _
      exact .inr rfl
    · simp [InRequest]
    · simp
  | reconciled idle loaded unknown current order settled merged =>
    refine guarded.kept rfl id ?_ ?_ ?_
    · intro _
      exact .inr rfl
    · simp [InRequest]
    · simp
  | @subscribed record fundingReceipt intended posted current merged =>
    refine guarded.kept rfl id ?_ ?_ ?_
    · intro held
      have carries := held.carries
      simp only [Carries, posted] at carries
      have unknown := isUnknown_receipt fundingReceipt carries.1 current
      exact .inl ⟨unknown, .inr rfl, isUnknown_merged merged unknown⟩
    · simp [InRequest]
    · simp
  | confirmed confirming merged =>
    refine guarded.kept rfl id ?_ ?_ ?_
    · intro _
      exact .inr rfl
    · simp [InRequest]
    · simp
  | uncertain waiting =>
    refine guarded.kept rfl id ?_ ?_ ?_
    · intro held
      have carries := held.carries
      rcases waiting with posted | confirming
      · simp only [Carries, posted] at carries
        exact carries
      · simp only [Carries, confirming] at carries
        exact carries
    · simp [InRequest]
    · simp
  | @commit data intended kind updateTime others saving loaded owned current later =>
    refine ⟨?_, ?_, by simp⟩
    · intro unsettled
      -- the write that settles clears the mark, so the committed record is the unknown one
      have written : isUnknown data = true ∧ kind ≠ .reserve ∧ isUnknown intended = true := by
        cases kind with
        | submit =>
          obtain ⟨unknown, carried⟩ := guarded.written _ _ saving
          exact ⟨carried, by decide, unknown⟩
        | settle => cases unsettled
        | _ =>
          have carries := (guarded.holds unsettled).carries
          simp only [Carries, saving] at carries
          simp at carries
          try exact ⟨carries.1, by decide, carries.2⟩
      exact ⟨⟨written.1, written.2.1⟩, loaded, owned, _, rfl, written.2.2⟩
    · intro inRequest
      cases kind with
      | submit => rfl
      | _ => cases inRequest
  | @readback data intended kind now pendingFunds written owned found same funds =>
    refine guarded.kept rfl id ?_ ?_ ?_
    · intro held
      have carries := held.carries
      simp only [Carries, written] at carries
      obtain ⟨snapshot, stored, unknown⟩ := held.unknown
      rw [found, Option.some.injEq] at stored
      subst stored
      have published : ∀ snapshot, some now = some snapshot → isUnknown snapshot.value = true := by
        intro snapshot same
        rw [← Option.some.inj same]
        exact unknown
      cases kind with
      | reserve => exact absurd rfl carries.2
      | _ => exact ⟨carries.1, published⟩
    · intro inRequest
      rw [InRequest, written]
      cases kind with
      | submit => trivial
      | _ => cases inRequest
    · cases kind <;> simp [SaveKind.next]
  | fail =>
    refine guarded.kept rfl id ?_ ?_ ?_
    · intro _
      trivial
    · simp [InRequest]
    · simp
  | release idle funds known accounted owned current =>
    refine ⟨?_, by simp [InRequest], by simp⟩
    intro unsettled
    rw [((guarded.holds unsettled).idle idle).1] at known
    cases known

/-- A session writes the ledger and deletes the owner only as the owner. -/
theorem owned_of_step (moves : SessionStep trendUniverse receiptEnabled ownerId store session event after next) :
    (after.owner = store.owner ∧ after.ledger = store.ledger) ∨ store.owner = none
      ∨ ownedBy ownerId store.owner = true := by
  cases moves with
  | claim _ _ absent => exact .inr (.inl absent)
  | commit _ _ _ _ owned => exact .inr (.inr owned)
  | release _ _ _ _ owned => exact .inr (.inr owned)
  | _ => exact .inl ⟨rfl, rfl⟩

theorem later_of_step (moves : SessionStep trendUniverse receiptEnabled ownerId store session event after next) :
    Rewritten store.ledger after.ledger ∧ after.control = store.control := by
  cases moves with
  | commit _ _ _ _ _ _ later => exact ⟨later, rfl⟩
  | _ => exact ⟨Rewritten.refl _, rfl⟩

theorem claimed_of_step (moves : SessionStep trendUniverse receiptEnabled ownerId store session event after next) :
    next.phase ≠ .unclaimed := by
  cases moves with
  | load _ idle _ _ => rw [idle]; nofun
  | edit _ idle _ => rw [idle]; nofun
  | @readback _ _ kind => cases kind <;> nofun
  | _ => nofun

/-- The owner document is kept, deleted or the session's own. -/
theorem owner_of_step (moves : SessionStep trendUniverse receiptEnabled ownerId store session event after next) :
    after.owner = store.owner ∨ after.owner = none
      ∨ ∃ updateTime, after.owner = some ⟨ownerDocument ownerId, updateTime⟩ := by
  cases moves with
  | claim updateTime _ _ => exact .inr (.inr ⟨updateTime, rfl⟩)
  | release => exact .inr (.inl rfl)
  | _ => exact .inl rfl

/-- A session that claimed and lost the document stays without it and does nothing. -/
theorem ousted_step (guarded : Guarded ownerId store session) (claimed : session.phase ≠ .unclaimed)
    (ousted : ownedBy ownerId store.owner = false)
    (moves : SessionStep trendUniverse receiptEnabled ownerId store session event after next) :
    event = .quiet ∧ ownedBy ownerId after.owner = false := by
  cases moves with
  | claim _ unclaimed _ => exact absurd unclaimed claimed
  | post sending =>
    have request : InRequest session := by simp [InRequest, sending]
    have owned := (guarded.holds (guarded.request request)).owned
    rw [ousted] at owned
    cases owned
  | commit _ _ _ _ owned =>
    rw [ousted] at owned
    cases owned
  | release => exact ⟨rfl, rfl⟩
  | _ => exact ⟨rfl, ousted⟩

end Session

/-! ## The operator's snapshots -/

section Operator
variable [CharacterTable] {activated : Document → Bool} {store after : OwnedStore}

structure Validated (activated : Document → Bool) (markers : ReleaseMarkers) : Prop where
  safe : validateSafeOrderState markers.ledger.value = .ok ()
  active : isActiveLkg markers.control.value = true
  target : activated markers.control.value = true

/-- What the operator has read was there, and what it has validated is safe. -/
def Watches (activated : Document → Bool) (store : OwnedStore) : OperatorPhase → Prop
  | .start | .ownerRead _ | .finished => True
  | .ledgerRead _ ledger => Seen store.ledger ledger
  | .controlRead markers => Seen store.ledger markers.ledger ∧ Seen store.control markers.control
  | .validated markers | .accountRead markers | .checked markers =>
    (Seen store.ledger markers.ledger ∧ Seen store.control markers.control)
      ∧ Validated activated markers

theorem Watches.rewritten {phase : OperatorPhase} (watches : Watches activated store phase)
    (ledger : Rewritten store.ledger after.ledger) (control : Rewritten store.control after.control) :
    Watches activated after phase := by
  cases phase with
  | ledgerRead _ snapshot => exact Seen.rewritten watches ledger
  | controlRead markers => exact ⟨watches.1.rewritten ledger, watches.2.rewritten control⟩
  | validated markers | accountRead markers | checked markers =>
    exact ⟨⟨watches.1.1.rewritten ledger, watches.1.2.rewritten control⟩, watches.2⟩
  | _ => trivial

/-- The operator's snapshots stay those it has read. -/
theorem watches_step {phase next : OperatorPhase} (watches : Watches activated store phase)
    (moves : OperatorStep activated store phase next) : Watches activated store next := by
  cases moves with
  | readOwner => trivial
  | readLedger found => exact ⟨_, found, .inl rfl⟩
  | readControl found => exact ⟨watches, _, found, .inl rfl⟩
  | validate safe active target => exact ⟨watches, safe, active, target⟩
  | readAccount => exact watches
  | readOpenOrders => exact watches
  | finish => trivial

omit [CharacterTable] in
/-- A transaction that commits saw the three snapshots and deletes the owner. -/
theorem releaseStaleOwner_ok {markers : ReleaseMarkers}
    (committed : releaseStaleOwnerTransaction store markers = .ok after) :
    (snapshotMatches store.ledger markers.ledger = true
        ∧ snapshotMatches store.control markers.control = true)
      ∧ after = { store with owner := none } ∧ store.owner.isSome = true := by
  unfold releaseStaleOwnerTransaction at committed
  obtain ⟨matched, committed⟩ := require_bind committed
  obtain ⟨named, committed⟩ := require_bind committed
  rw [Bool.and_eq_true, Bool.and_eq_true] at matched
  refine ⟨⟨matched.1.2, matched.2⟩, (Except.ok.inj committed).symm, ?_⟩
  cases owner : store.owner with
  | none =>
    rw [owner] at named
    cases named
  | some _ => rfl

end Operator

/-! ## The system -/

section System
variable [CharacterTable] {trendUniverse : TrendUniverse} {receiptEnabled : Bool}
  {activated : Document → Bool} {ownerIds : ℕ → String}

structure Sound (activated : Document → Bool) (ownerIds : ℕ → String) (system : OwnerSystem) : Prop where
  sessions : ∀ who, Guarded (ownerIds who) system.store (system.sessions who)
  owner : ∀ snapshot, system.store.owner = some snapshot → ∃ who, ownedBy (ownerIds who) (some snapshot) = true
    ∧ (system.sessions who).phase ≠ .unclaimed
  operators : ∀ who, Watches activated system.store (system.operators who)

omit [CharacterTable] in
/-- A change of the store by another leaves a session guarded when it spares what the
session holds. -/
theorem Guarded.spared {ownerId : String} {store after : OwnedStore} {session : StateSession}
    (guarded : Guarded ownerId store session)
    (spares : Holds ownerId store session → after.owner = store.owner ∧ after.ledger = store.ledger) :
    Guarded ownerId after session := by
  refine ⟨?_, guarded.request, guarded.written⟩
  intro unsettled
  have held := guarded.holds unsettled
  obtain ⟨owner, ledger⟩ := spares held
  exact ⟨held.carries, held.loaded, by rw [owner]; exact held.owned, by rw [ledger]; exact held.unknown⟩

/-- Every step of the system, whoever takes it. -/
theorem sound_step (distinct : Function.Injective ownerIds) {system next : OwnerSystem} {event : OwnerEvent}
    (sound : Sound activated ownerIds system)
    (taken : OwnerStep trendUniverse receiptEnabled activated ownerIds system event next) :
    Sound activated ownerIds next := by
  cases taken with
  | @session who event store moved moves =>
    have later := later_of_step moves
    refine ⟨?_, ?_, ?_⟩
    · refine (Function.forall_update_iff _ fun other session =>
        Guarded (ownerIds other) store session).mpr ⟨guarded_step (sound.sessions who) moves, ?_⟩
      intro other different
      apply (sound.sessions other).spared
      intro held
      rcases owned_of_step moves with spared | absent | owned
      · exact spared
      · have owned := held.owned
        rw [absent] at owned
        cases owned
      · exact absurd (distinct (ownedBy_unique held.owned owned)) different
    · have claimed : ∀ other, (system.sessions other).phase ≠ .unclaimed →
          (Function.update system.sessions who moved other).phase ≠ .unclaimed := by
        intro other before
        by_cases same : other = who
        · rw [same, Function.update_self]
          exact claimed_of_step moves
        · rw [Function.update_of_ne same]
          exact before
      intro snapshot stored
      rcases owner_of_step moves with kept | absent | ⟨updateTime, created⟩
      · obtain ⟨owner, owned, before⟩ := sound.owner snapshot (kept.symm.trans stored)
        exact ⟨owner, owned, claimed owner before⟩
      · cases absent.symm.trans stored
      · rw [← Option.some.inj (created.symm.trans stored)]
        refine ⟨who, ownedBy_self _ _, ?_⟩
        dsimp only
        rw [Function.update_self]
        exact claimed_of_step moves
    · intro operator
      exact (sound.operators operator).rewritten later.1 (by rw [later.2]; exact Rewritten.refl _)
  | @operator who moved moves =>
    refine ⟨sound.sessions, sound.owner, ?_⟩
    exact (Function.forall_update_iff _ fun _ phase => Watches activated system.store phase).mpr
      ⟨watches_step (sound.operators who) moves, fun other _ => sound.operators other⟩
  | @released who markers store decided committed =>
    obtain ⟨⟨ledger, control⟩, rfl, -⟩ := releaseStaleOwner_ok committed
    have watches := sound.operators who
    rw [decided] at watches
    refine ⟨?_, nofun, ?_⟩
    · intro other
      apply (sound.sessions other).spared
      intro held
      -- the validated ledger has no unknown record
      obtain ⟨snapshot, stored, unknown⟩ := held.unknown
      rw [watches.1.1.current ledger, Option.some.injEq] at stored
      rw [← stored, not_unknown_of_safe watches.2.safe] at unknown
      cases unknown
    · refine (Function.forall_update_iff _ fun _ phase =>
        Watches activated { system.store with owner := none } phase).mpr ⟨trivial, ?_⟩
      intro other _
      exact (sound.operators other).rewritten (Rewritten.refl _) (Rewritten.refl _)
  | migrate absent later =>
    refine ⟨?_, sound.owner, ?_⟩
    · intro other
      apply (sound.sessions other).spared
      intro held
      have owned := held.owned
      rw [absent] at owned
      cases owned
    · intro operator
      exact (sound.operators operator).rewritten later (Rewritten.refl _)
  | control later =>
    refine ⟨?_, sound.owner, ?_⟩
    · intro other
      exact (sound.sessions other).spared fun _ => ⟨rfl, rfl⟩
    · intro operator
      exact (sound.operators operator).rewritten (Rewritten.refl _) later

/-- The session claimed the document and has it no more. -/
structure Ousted (ownerIds : ℕ → String) (former : ℕ) (system : OwnerSystem) : Prop where
  claimed : (system.sessions former).phase ≠ .unclaimed
  unowned : ownedBy (ownerIds former) system.store.owner = false

theorem ousted_system (distinct : Function.Injective ownerIds) {system next : OwnerSystem}
    {event : OwnerEvent} {former : ℕ} (sound : Sound activated ownerIds system)
    (ousted : Ousted ownerIds former system)
    (taken : OwnerStep trendUniverse receiptEnabled activated ownerIds system event next) :
    (∀ done, event = .session former done → done = .quiet) ∧ Ousted ownerIds former next := by
  cases taken with
  | @session who event store moved moves =>
    by_cases same : who = former
    · subst same
      obtain ⟨quiet, unowned⟩ := ousted_step (sound.sessions who) ousted.claimed ousted.unowned moves
      refine ⟨fun done shown => by cases shown; exact quiet, ?_, unowned⟩
      dsimp only
      rw [Function.update_self]
      exact claimed_of_step moves
    · refine ⟨fun done shown => by cases shown; exact absurd rfl same, ?_, ?_⟩
      · dsimp only
        rw [Function.update_of_ne (Ne.symm same)]
        exact ousted.claimed
      · rcases owner_of_step moves with kept | absent | ⟨updateTime, created⟩
        · rw [kept]
          exact ousted.unowned
        · rw [absent]
          rfl
        · rw [created, Bool.eq_false_iff]
          intro owned
          exact same (distinct (ownedBy_eq owned))
  | operator => exact ⟨nofun, ousted.claimed, ousted.unowned⟩
  | @released who markers store decided committed =>
    obtain ⟨-, rfl, -⟩ := releaseStaleOwner_ok committed
    exact ⟨nofun, ousted.claimed, rfl⟩
  | migrate => exact ⟨nofun, ousted.claimed, ousted.unowned⟩
  | control => exact ⟨nofun, ousted.claimed, ousted.unowned⟩

/-- The induction over the steps after a release. -/
theorem ousted_run (distinct : Function.Injective ownerIds) {after last : OwnerSystem}
    {later : List OwnerEvent} {former : ℕ} (sound : Sound activated ownerIds after)
    (ousted : Ousted ownerIds former after)
    (run : Run (OwnerStep trendUniverse receiptEnabled activated ownerIds) after later last) :
    (∀ done, .session former done ∈ later → done = .quiet) ∧ Sound activated ownerIds last
      ∧ Ousted ownerIds former last := by
  induction run with
  | start => exact ⟨fun done member => absurd member List.not_mem_nil, sound, ousted⟩
  | next earlier taken ih =>
    obtain ⟨quiet, sound, ousted⟩ := ih
    obtain ⟨now, remains⟩ := ousted_system distinct sound ousted taken
    refine ⟨?_, sound_step distinct sound taken, remains⟩
    intro done member
    rcases List.mem_append.mp member with before | final
    · exact quiet done before
    · exact now done (List.mem_singleton.mp final).symm

/-- What a committed release leaves, and what it saw of the former owner. -/
structure SafeRelease (activated : Document → Bool) (ownerIds : ℕ → String) (before after : OwnerSystem)
    (markers : ReleaseMarkers) : Prop where
  onlyOwner : after.store = { before.store with owner := none }
  ledger : before.store.ledger = some markers.ledger
  control : before.store.control = some markers.control
  validated : Validated activated markers
  settled : ∀ former, ownedBy (ownerIds former) before.store.owner = true →
    (before.sessions former).unsettled = false ∧ ¬ InRequest (before.sessions former)
  formerOwner : ∃ former, ownedBy (ownerIds former) before.store.owner = true

theorem safeRelease_of_step {before after : OwnerSystem} {who : ℕ} {markers : ReleaseMarkers}
    (sound : Sound activated ownerIds before)
    (released : OwnerStep trendUniverse receiptEnabled activated ownerIds before (.released who markers) after) :
    SafeRelease activated ownerIds before after markers := by
  cases released with
  | @released _ _ store decided committed =>
    obtain ⟨⟨ledger, control⟩, rfl, present⟩ := releaseStaleOwner_ok committed
    have watches := sound.operators who
    rw [decided] at watches
    have current := watches.1.1.current ledger
    have settled : ∀ former, (before.sessions former).unsettled = false := by
      intro former
      rw [Bool.eq_false_iff]
      intro unsettled
      obtain ⟨snapshot, stored, unknown⟩ := ((sound.sessions former).holds unsettled).unknown
      rw [current, Option.some.injEq] at stored
      rw [← stored, not_unknown_of_safe watches.2.safe] at unknown
      cases unknown
    refine ⟨rfl, current, watches.1.2.current control, watches.2, ?_, ?_⟩
    · intro former _
      refine ⟨settled former, ?_⟩
      intro request
      have unsettled := (sound.sessions former).request request
      rw [settled former] at unsettled
      cases unsettled
    · obtain ⟨snapshot, stored⟩ := Option.isSome_iff_exists.mp present
      obtain ⟨former, owned, -⟩ := sound.owner snapshot stored
      exact ⟨former, by rw [stored]; exact owned⟩

/-- Releasing a stale owner is safe in every interleaving. -/
theorem stale_release_is_safe (distinct : Function.Injective ownerIds) {first before : OwnerSystem}
    {events : List OwnerEvent} (opened : ∀ who, first.sessions who = openSession)
    (started : ∀ who, first.operators who = .start) (unowned : first.store.owner = none)
    (run : Run (OwnerStep trendUniverse receiptEnabled activated ownerIds) first events before) :
    (∀ who markers after, OwnerStep trendUniverse receiptEnabled activated ownerIds before
        (.released who markers) after →
      SafeRelease activated ownerIds before after markers
      ∧ ∀ former, ownedBy (ownerIds former) before.store.owner = true → ∀ later last,
          Run (OwnerStep trendUniverse receiptEnabled activated ownerIds) after later last →
          .session former .ledgerWrite ∉ later ∧ .session former .post ∉ later)
    ∧ ∀ who after, OwnerStep trendUniverse receiptEnabled activated ownerIds before (.operator who) after →
        after.store = before.store := by
  have sound : Sound activated ownerIds before := by
    apply run.invariant ?_ fun _ _ _ sound taken => sound_step distinct sound taken
    refine ⟨?_, ?_, ?_⟩
    · intro who
      rw [opened]
      exact ⟨nofun, fun request => request.elim, nofun⟩
    · rw [unowned]
      nofun
    · intro who
      rw [started]
      trivial
  refine ⟨?_, ?_⟩
  · intro who markers after released
    have safe := safeRelease_of_step sound released
    refine ⟨safe, ?_⟩
    intro former owned later last rest
    obtain ⟨snapshot, stored⟩ : ∃ snapshot, before.store.owner = some snapshot := by
      cases owner : before.store.owner with
      | none => rw [owner] at owned; cases owned
      | some snapshot => exact ⟨snapshot, rfl⟩
    obtain ⟨claimant, claimed, phase⟩ := sound.owner snapshot stored
    rw [stored] at owned
    have same := distinct (ownedBy_unique claimed owned)
    subst same
    have ousted : Ousted ownerIds claimant after := by
      refine ⟨?_, by rw [safe.onlyOwner]; rfl⟩
      cases released with
      | released => exact phase
    obtain ⟨quiet, -⟩ := ousted_run distinct (sound_step distinct sound released) ousted rest
    refine ⟨?_, ?_⟩
    · intro wrote
      cases quiet _ wrote
    · intro sent
      cases quiet _ sent
  · intro who after moved
    cases moved with
    | operator => rfl

end System

/-! ## A release -/

local instance : CharacterTable := asciiTable

def repeatedId (who : ℕ) : String := String.ofList (List.replicate (who + 1) 'a')

theorem repeatedId_injective : Function.Injective repeatedId := by
  intro who other same
  have lengths := congrArg (fun id : String => id.toList.length) same
  simp only [repeatedId, String.toList_ofList, List.length_replicate] at lengths
  omega

def settledLedger : DocumentSnapshot :=
  ⟨⟨[("order_submission", .dict (statusRecord orderSubmissionTerminal))]⟩, 1⟩

def activeControl : DocumentSnapshot := ⟨⟨[("state", .str "ACTIVE_LKG")]⟩, 1⟩

def unclaimedSystem : OwnerSystem :=
  { store := { owner := none, ledger := some settledLedger, control := some activeControl, others := .empty }
    sessions := fun _ => openSession
    operators := fun _ => .start }

def staleOwner : DocumentSnapshot := ⟨ownerDocument (repeatedId 0), 2⟩

def staleMarkers : ReleaseMarkers := ⟨staleOwner, settledLedger, activeControl⟩

/-- The first session has claimed and hangs; the first operator stands at a phase. -/
def hangingSystem (phase : OperatorPhase) : OwnerSystem :=
  { store := { unclaimedSystem.store with owner := some staleOwner }
    sessions := Function.update (fun _ => openSession) 0 { openSession with phase := .idle }
    operators := Function.update (fun _ => .start) 0 phase }

theorem none_suffixed : ∀ symbol ∈ ([] : List String), endsWithUSDT symbol = true := nofun

def noTrends : TrendUniverse := ⟨[], List.nodup_nil, none_suffixed⟩

theorem hanging_phase (phase : OperatorPhase) : (hangingSystem phase).operators 0 = phase := by
  simp [hangingSystem]

theorem hanging_operator {phase next : OperatorPhase} {events : List OwnerEvent}
    (run : Run (OwnerStep noTrends false (fun _ => true) repeatedId) unclaimedSystem events
      (hangingSystem phase))
    (moves : OperatorStep (fun _ => true) (hangingSystem phase).store phase next) :
    Run (OwnerStep noTrends false (fun _ => true) repeatedId) unclaimedSystem
      (events ++ [.operator 0]) (hangingSystem next) := by
  have taken : OwnerStep noTrends false (fun _ => true) repeatedId (hangingSystem phase) (.operator 0)
      { hangingSystem phase with
        operators := Function.update (hangingSystem phase).operators 0 next } := by
    apply OwnerStep.operator
    rw [hanging_phase]
    exact moves
  have same : { hangingSystem phase with
      operators := Function.update (hangingSystem phase).operators 0 next } = hangingSystem next := by
    simp [hangingSystem, Function.update_idem]
  rw [same] at taken
  exact .next run taken

theorem hanging_claim : Run (OwnerStep noTrends false (fun _ => true) repeatedId) unclaimedSystem
    [.session 0 .quiet] (hangingSystem .start) := by
  have taken : OwnerStep noTrends false (fun _ => true) repeatedId unclaimedSystem (.session 0 .quiet)
      (hangingSystem .start) := by
    have started : hangingSystem .start = { unclaimedSystem with
        store := { unclaimedSystem.store with owner := some staleOwner }
        sessions := Function.update unclaimedSystem.sessions 0 { openSession with phase := .idle } } := by
      rw [hangingSystem, Function.update_eq_self]
      rfl
    rw [started]
    exact .session (.claim 2 rfl rfl)
  exact .next .start taken

/-- A session that hangs after its claim is released. -/
theorem stale_release_is_safe_hanging : ∃ events before after,
    Run (OwnerStep noTrends false (fun _ => true) repeatedId) unclaimedSystem events before
      ∧ SafeRelease (fun _ => true) repeatedId before after staleMarkers := by
  have run := hanging_operator (hanging_operator (hanging_operator (hanging_operator (hanging_operator
    (hanging_operator hanging_claim (.readOwner rfl (by decide +kernel))) (.readLedger rfl))
    (.readControl rfl)) (.validate (by decide +kernel) (by decide +kernel) rfl)) .readAccount) .readOpenOrders
  have released : OwnerStep noTrends false (fun _ => true) repeatedId (hangingSystem (.checked staleMarkers))
      (.released 0 staleMarkers)
      { hangingSystem (.checked staleMarkers) with
        store := unclaimedSystem.store
        operators := Function.update (hangingSystem (.checked staleMarkers)).operators 0 .finished } :=
    .released (hanging_phase _) rfl
  exact ⟨_, _, _, run, ((stale_release_is_safe repeatedId_injective (fun _ => rfl) (fun _ => rfl) rfl
    run).1 0 staleMarkers _ released).1⟩

end BinancePlatform.Guarantees.StaleRelease
