import BinancePlatform.Source.FundingRecovery

/-!
# The protocol of requests

What each exchange of a cycle with the store and the broker is allowed to be: a request only
right after the successful write of a `SUBMISSION_UNKNOWN` record that names it, a save over
such a record only once its outcome is known. The store is a document that saves replace; the
broker may answer anything.

Main definitions:
- `Answers`: what the shared store answers
- `Allows`: what a call may be, after what has been heard

Main results:
- `Commits.status`: a save keeps the status of the state it is given
- `settled_since`: between two requests the store has had a record that is settled
-/

set_option autoImplicit false

namespace BinancePlatform.Guarantees.RequestProtocol
open BinancePlatform.Library BinancePlatform.Source

/-! ## The status through a save -/

/-- `state["order_submission"]["state"]`; a document without a record is reserved. -/
def submissionStatus (state : Document) : Value :=
  match state.get? orderSubmissionStateKey with
  | none => .str orderSubmissionReserved
  | some (.dict record) => pyGet record "state"
  | some _ => .none

/-- A load of the document lets a request be submitted. -/
def admitsRequest (state : Document) : Bool :=
  (submissionStatus state).isStr orderSubmissionReserved
    || (submissionStatus state).isStr orderSubmissionTerminal

theorem submissionStatus_withRecord (state record : Document) :
    submissionStatus (withRecord state record) = pyGet record "state" := by
  simp [submissionStatus, withRecord]

theorem submissionStatus_congr {state other : Document}
    (same : other.get? orderSubmissionStateKey = state.get? orderSubmissionStateKey) :
    submissionStatus other = submissionStatus state := by
  rw [submissionStatus, same, submissionStatus]

section Saves
variable [CharacterTable] {trendUniverse : TrendUniverse} {receiptEnabled : Bool}

/-- Normalization overlays the record of its default. -/
theorem record_normalized {state normalized : Document}
    (normal : normalizeTradeState trendUniverse (.dict state) = .ok normalized) :
    normalized.get? orderSubmissionStateKey
      = some (mergeDefault (.dict (statusRecord orderSubmissionReserved))
        (state.get? orderSubmissionStateKey)) :=
  get?_normalized_default normal rfl (not_symbol_of_suffix trendUniverse (by decide)) (by decide) (by decide)

theorem status_normalized {state normalized : Document} {status : String}
    (normal : normalizeTradeState trendUniverse (.dict state) = .ok normalized)
    (known : submissionStatus state = .str status) : submissionStatus normalized = .str status := by
  rw [submissionStatus, record_normalized normal]
  unfold submissionStatus at known
  cases stored : state.get? orderSubmissionStateKey with
  | none =>
    rw [stored] at known
    rw [← known]
    rfl
  | some value =>
    rw [stored] at known
    cases value with
    | dict record =>
      have found : record.get? "state" = some (.str status) := by
        change pyGet record "state" = _ at known
        unfold pyGet at known
        cases entry : record.get? "state" with
        | none => simp [entry] at known
        | some found => simpa [entry] using known
      simp [mergeDefault, pyGet, Dict.get?_update, found]
    | _ => cases known

theorem status_ordinary {source data committed : Document} {status : String}
    (merged : ordinarySave trendUniverse receiptEnabled source data = .ok committed)
    (known : submissionStatus data = .str status) : submissionStatus committed = .str status := by
  obtain ⟨normalized, normal, rfl⟩ := ordinarySave_ok merged
  rw [← status_normalized normal known]
  refine submissionStatus_congr ?_
  rw [intendedDocument, Dict.get?_update, record_normalized normal]
  rfl

omit [CharacterTable] in
theorem sameRecord_update {record : Document} (status : (record.get? "state").isSome = true) :
    ((statusRecord orderSubmissionReserved).update record).Same record := by
  intro key
  rw [Dict.get?_update, get?_statusRecord]
  by_cases atState : key = "state"
  · subst atState
    obtain ⟨value, found⟩ := Option.isSome_iff_exists.mp status
    simp [found]
  · simp [if_neg atState]

/-- A stored record with a status is committed with the same entries. -/
theorem record_ordinary {source data committed record : Document}
    (merged : ordinarySave trendUniverse receiptEnabled source data = .ok committed)
    (stored : data.get? orderSubmissionStateKey = some (.dict record))
    (status : (record.get? "state").isSome = true) :
    ∃ written, committed.get? orderSubmissionStateKey = some (.dict written) ∧ written.Same record := by
  obtain ⟨normalized, normal, rfl⟩ := ordinarySave_ok merged
  refine ⟨(statusRecord orderSubmissionReserved).update record, ?_, ?_⟩
  · rw [intendedDocument, Dict.get?_update, record_normalized normal, stored]
    rfl
  · exact sameRecord_update status

end Saves

/-- What a save may commit over the stored document. -/
inductive Commits [CharacterTable] (source data : Document) : Bool → Document → Prop where
  | ordinary {trendUniverse : TrendUniverse} {receiptEnabled : Bool} {committed : Document}
      (merged : ordinarySave trendUniverse receiptEnabled source data = .ok committed) :
      Commits source data false committed
  | interval {trendUniverse : TrendUniverse} {normalized : Document}
      (normal : normalizeTradeState trendUniverse (.dict data) = .ok normalized) :
      Commits source data true (source.update (patchOf normalized))

/-- A save keeps the status of the state, or with an interval the status of the store. -/
theorem Commits.status [CharacterTable] {source data committed : Document} {interval : Bool} {status : String}
    (commits : Commits source data interval committed) (known : submissionStatus data = .str status) :
    submissionStatus committed = if interval then submissionStatus source else .str status := by
  cases commits with
  | ordinary merged => exact status_ordinary merged known
  | @interval trendUniverse normalized normal =>
    refine submissionStatus_congr ?_
    have unpatched : (patchOf normalized).get? orderSubmissionStateKey = none := by
      simp [patchOf, patchFields, Dict.get?, Dict.find, orderSubmissionStateKey]
    rw [Dict.get?_update, unpatched, Option.none_or]

/-! ## What the exchanges leave -/

/-- The document an exchange left in the store. -/
def committedBy : ClientEvent → Option Document
  | ⟨.saveState _ _, reply⟩ =>
    match (reply : SaveReply) with
    | .saved document => some document
    | .failed document => document
  | _ => none

def isRequest : ClientEvent → Bool
  | ⟨.send _ _, _⟩ => true
  | _ => false

section Store
variable (first : Document)

def stored (events : List ClientEvent) : Document :=
  events.foldl (fun document event => (committedBy event).getD document) first

/-- A request was sent and no later record of the store admits another. -/
def unsettled (events : List ClientEvent) : Bool :=
  events.foldl (fun sent event =>
    isRequest event || sent && !((committedBy event).map admitsRequest).getD false) false

variable {first}

theorem stored_snoc (events : List ClientEvent) (event : ClientEvent) :
    stored first (events ++ [event]) = (committedBy event).getD (stored first events) := by
  simp [stored]

theorem unsettled_snoc (events : List ClientEvent) (event : ClientEvent) :
    unsettled (events ++ [event])
      = (isRequest event || unsettled events && !((committedBy event).map admitsRequest).getD false) := by
  simp [unsettled]

/-- Since a request of a settled history, a record that admits another was written. -/
theorem settled_since {events front back : List ClientEvent} {event : ClientEvent}
    (settled : unsettled events = false) (split : events = front ++ event :: back)
    (request : isRequest event = true) :
    ∃ write ∈ back, ∃ document, committedBy write = some document ∧ admitsRequest document = true := by
  induction events using List.reverseRecOn generalizing back with
  | nil => simp at split
  | append_singleton earlier last ih =>
    rw [unsettled_snoc, Bool.or_eq_false_iff] at settled
    obtain ⟨other, settled⟩ := settled
    rcases List.eq_nil_or_concat back with rfl | ⟨init, tail, rfl⟩
    · obtain ⟨-, same⟩ := List.append_inj' split rfl
      cases same
      rw [request] at other
      cases other
    · rw [List.concat_eq_append, ← List.cons_append, ← List.append_assoc] at split
      obtain ⟨fronts, same⟩ := List.append_inj' split rfl
      cases same
      simp only [List.concat_eq_append, List.mem_append, List.mem_singleton]
      cases open_ : unsettled earlier with
      | false =>
        obtain ⟨write, member, document, found⟩ := ih open_ fronts
        exact ⟨write, .inl member, document, found⟩
      | true =>
        rw [open_, Bool.true_and, Bool.not_eq_false'] at settled
        cases written : committedBy last with
        | none => simp [written] at settled
        | some document => exact ⟨last, .inr rfl, document, written, by simpa [written] using settled⟩

end Store

/-! ## The protocol -/

section Protocol

/-- The answers of the shared store; the broker may answer anything. -/
def Answers [CharacterTable] (first : Document) (heard : List ClientEvent) : (call : ClientRequest) → call.Reply → Prop
  | .loadState, reply =>
    ∀ value, (reply : Except PyException Value) = .ok value → value = .dict (stored first heard)
  | .saveState interval data, reply =>
    ∀ document, committedBy ⟨.saveState interval data, reply⟩ = some document →
      Commits (stored first heard) data interval document
  | _, _ => True

/-- The record of the document names the request: an order by its client order id, an Earn
request by its method. -/
def Names (methodName : String) (payload document : Document) : Prop :=
  ∃ record identitySha256, document.get? orderSubmissionStateKey = some (.dict record)
    ∧ pyGet record "state" = .str orderSubmissionUnknown
    ∧ pyGet record "identity_sha256" = .str identitySha256
    ∧ ((∃ clientOrderId, Client.clientOrderIdFromDigest identitySha256 = .ok clientOrderId
        ∧ pyGet payload "newClientOrderId" = .str clientOrderId)
      ∨ pyGet record "method_name" = .str methodName)

/-- The record of the document is `SUBMISSION_UNKNOWN`. -/
def IsUnknown (document record : Document) : Prop :=
  document.get? orderSubmissionStateKey = some (.dict record)
    ∧ pyGet record "state" = .str orderSubmissionUnknown

/-- The answer of a request or of a question about an order. -/
def OrderAnswer (heard : List ClientEvent) (order : Document) : Prop :=
  (∃ methodName payload, ⟨.send methodName payload, Except.ok (.dict order)⟩ ∈ heard)
    ∨ ∃ symbol clientOrderId, ⟨.getOrder symbol clientOrderId, Except.ok (.dict order)⟩ ∈ heard

/-- The order of an identity is filled, or failed with nothing executed. -/
def OrderOutcome [CharacterTable] (identitySha256 : String) (order : Document) : Prop :=
  (∃ clientOrderId, Client.clientOrderIdFromDigest identitySha256 = .ok clientOrderId
      ∧ strip (textOrEmpty order "clientOrderId") = strip clientOrderId)
    ∧ (Client.orderStatus (.dict order) = binanceOrderFilledStatus
      ∨ Client.orderStatus (.dict order) ∈ binanceOrderFailedStatuses ∧ Client.noFill (.dict order) = true)

/-- The history and the Spot balance that were answered confirm the receipt. -/
def Confirmed [CharacterTable] (methodName : String) (receipt : Document) (heard : List ClientEvent) : Prop :=
  validFundingReceipt (.dict receipt) = true ∧ ∃ history spot,
    ⟨.flexibleHistory (if Client.isRedeem methodName then "redemptionRecord" else "subscriptionRecord") receipt,
        Except.ok history⟩ ∈ heard
      ∧ Client.settledRow (Client.isRedeem methodName) receipt history = true
      ∧ ⟨.getAssetBalance (pyGet receipt "asset"), Except.ok spot⟩ ∈ heard
      ∧ Client.settledCash (Client.isRedeem methodName) receipt spot = .ok true

/-- The exchanges tell the outcome of the submission of a record. -/
def OutcomeKnown [CharacterTable] (record : Document) (heard : List ClientEvent) : Prop :=
  (∃ identitySha256 order, pyGet record "identity_sha256" = .str identitySha256
      ∧ OrderOutcome identitySha256 order ∧ OrderAnswer heard order)
    ∨ ∃ receipt, pyGet record "funding_receipt" = .dict receipt
      ∧ Confirmed (textOrEmpty record "method_name") receipt heard

/-- A save over an unknown record is of the same submission, or its outcome is known. -/
def Settling [CharacterTable] (document data : Document) (heard : List ClientEvent) : Prop :=
  ∀ record, IsUnknown document record →
    (∃ kept, IsUnknown data kept ∧ pyGet kept "identity_sha256" = pyGet record "identity_sha256")
      ∨ OutcomeKnown record heard

/-- An unknown record of the document is the one of the state. -/
def Tracks (state document : Document) : Prop :=
  ∀ record, IsUnknown document record →
    ∃ kept, state.get? orderSubmissionStateKey = some (.dict kept) ∧ kept.Same record

/-- No request since `origin`. -/
def QuietSince (origin heard : List ClientEvent) : Prop :=
  ∃ since, heard = origin ++ since ∧ ∀ event ∈ since, isRequest event = false

/-- What a request needs of the exchanges before it. -/
def Submits (first : Document) (origin heard : List ClientEvent) (methodName : String) (payload : Document) :
    Prop :=
  ∃ earlier data document, heard = earlier ++ [⟨.saveState false data, SaveReply.saved document⟩]
    ∧ Names methodName payload document ∧ admitsRequest (stored first earlier) = true
    ∧ unsettled earlier = false ∧ QuietSince origin earlier

/-- A save writes a state of known status and settles only what is known. -/
def Allows [CharacterTable] (first : Document) (origin heard : List ClientEvent) : ClientRequest → Prop
  | .send methodName payload => Submits first origin heard methodName payload
  | .saveState interval data => (∃ status, submissionStatus data = .str status)
    ∧ (interval = false → Settling (stored first heard) data heard)
  | _ => True

variable {first : Document} {origin : List ClientEvent}

theorem Tracks.settling [CharacterTable] {state document : Document} {heard : List ClientEvent} (tracks : Tracks state document) :
    Settling document state heard := by
  intro record before
  obtain ⟨kept, held, same⟩ := tracks record before
  refine .inl ⟨kept, ⟨held, ?_⟩, by rw [pyGet, same, ← pyGet]⟩
  rw [pyGet, same, ← pyGet, before.2]

theorem OrderAnswer.later {heard : List ClientEvent} {order : Document} (answer : OrderAnswer heard order)
    (event : ClientEvent) : OrderAnswer (heard ++ [event]) order := by
  rcases answer with ⟨methodName, payload, sent⟩ | ⟨symbol, clientOrderId, asked⟩
  · exact .inl ⟨methodName, payload, List.mem_append_left _ sent⟩
  · exact .inr ⟨symbol, clientOrderId, List.mem_append_left _ asked⟩

/-- A document that names a request admits no other. -/
theorem Names.blocked {methodName : String} {payload document : Document}
    (names : Names methodName payload document) :
    (∃ status, submissionStatus document = .str status) ∧ admitsRequest document = false := by
  obtain ⟨record, -, stored, unknown, -⟩ := names
  have status : submissionStatus document = .str orderSubmissionUnknown := by
    rw [submissionStatus, stored]
    exact unknown
  refine ⟨⟨_, status⟩, ?_⟩
  rw [admitsRequest, status]
  rfl

theorem QuietSince.refl (origin : List ClientEvent) : QuietSince origin origin :=
  ⟨[], (List.append_nil _).symm, by simp⟩

/-- The store, and what the runtime holds of it as its owner. -/
structure Sound (first : Document) (F : List ClientEvent → Prop) (runtime : ClientRuntime)
    (heard : List ClientEvent) : Prop where
  text : ∃ status, submissionStatus (stored first heard) = .str status
  closed : unsettled heard = true → admitsRequest (stored first heard) = false
  known : ∀ state, runtime.tradeState = some state → ∃ status, submissionStatus state = .str status
  reserved : runtime.stateOwnerHeld = true → ∀ state, runtime.tradeState = some state →
    submissionStatus state = .str orderSubmissionReserved → admitsRequest (stored first heard) = true
  tracks : runtime.stateOwnerHeld = true → ∀ state, runtime.tradeState = some state →
    Tracks state (stored first heard)
  frame : F heard

/-- A property of the exchanges that only a request may end. -/
def Stable (F : List ClientEvent → Prop) : Prop :=
  ∀ heard event, F heard → isRequest event = false → F (heard ++ [event])

theorem stable_quiet (origin : List ClientEvent) : Stable (QuietSince origin) := by
  rintro heard event ⟨since, rfl, quiet⟩ other
  refine ⟨since ++ [event], by rw [List.append_assoc], fun e member => ?_⟩
  rcases List.mem_append.mp member with inside | last
  · exact quiet e inside
  · rw [List.mem_singleton.mp last]
    exact other

variable {F : List ClientEvent → Prop} {runtime : ClientRuntime} {heard : List ClientEvent}

abbrev Calm (first : Document) : ClientRuntime → List ClientEvent → Prop := Sound first fun _ => True

theorem Sound.framed (sound : Sound first F runtime heard) {G : List ClientEvent → Prop} (holds : G heard) :
    Sound first G runtime heard :=
  ⟨sound.text, sound.closed, sound.known, sound.reserved, sound.tracks, holds⟩

theorem Sound.calm (sound : Sound first F runtime heard) : Calm first runtime heard := sound.framed trivial

/-- An exchange that neither sends nor writes. -/
theorem Sound.read (sound : Sound first F runtime heard) (stable : Stable F) {event : ClientEvent}
    (other : isRequest event = false) (unwritten : committedBy event = none) :
    Sound first F runtime (heard ++ [event]) := by
  have same : stored first (heard ++ [event]) = stored first heard := by
    rw [stored_snoc, unwritten, Option.getD_none]
  have kept : unsettled (heard ++ [event]) = unsettled heard := by
    rw [unsettled_snoc, other, unwritten]
    simp
  refine ⟨same ▸ sound.text, ?_, sound.known, same ▸ sound.reserved, same ▸ sound.tracks,
    stable _ _ sound.frame other⟩
  rw [same, kept]
  exact sound.closed

/-- A runtime that holds less, or whose new state is no reserved one. -/
theorem Sound.holding (sound : Sound first F runtime heard) {next : ClientRuntime}
    (known : ∀ state, next.tradeState = some state → ∃ status, submissionStatus state = .str status)
    (reserved : next.stateOwnerHeld = true → ∀ state, next.tradeState = some state →
      submissionStatus state = .str orderSubmissionReserved → admitsRequest (stored first heard) = true)
    (tracks : next.stateOwnerHeld = true → ∀ state, next.tradeState = some state →
      Tracks state (stored first heard)) :
    Sound first F next heard :=
  ⟨sound.text, sound.closed, known, reserved, tracks, sound.frame⟩

theorem Sound.sameState (sound : Sound first F runtime heard) {next : ClientRuntime}
    (state : next.tradeState = runtime.tradeState) (held : next.stateOwnerHeld = true → runtime.stateOwnerHeld = true) :
    Sound first F next heard := by
  refine sound.holding ?_ ?_ ?_
  · rw [state]
    exact sound.known
  · rw [state]
    exact fun holds => sound.reserved (held holds)
  · rw [state]
    exact fun holds => sound.tracks (held holds)

/-- The store after a committed save of a state of known status. -/
theorem Sound.saved [CharacterTable] (sound : Sound first F runtime heard) (stable : Stable F) {interval : Bool}
    {data document : Document} {status : String} (reply : SaveReply)
    (known : submissionStatus data = .str status)
    (committed : committedBy ⟨.saveState interval data, reply⟩ = some document)
    (commits : Commits (stored first heard) data interval document) :
    (∃ status, submissionStatus (stored first (heard ++ [⟨.saveState interval data, reply⟩])) = .str status)
      ∧ stored first (heard ++ [⟨.saveState interval data, reply⟩]) = document
      ∧ (unsettled (heard ++ [⟨.saveState interval data, reply⟩]) = true →
        admitsRequest (stored first (heard ++ [⟨.saveState interval data, reply⟩])) = false)
      ∧ F (heard ++ [⟨.saveState interval data, reply⟩]) := by
  have left : stored first (heard ++ [⟨.saveState interval data, reply⟩]) = document := by
    rw [stored_snoc, committed, Option.getD_some]
  refine ⟨?_, left, ?_, stable _ _ sound.frame rfl⟩
  · rw [left, commits.status known]
    split
    · exact sound.text
    · exact ⟨status, rfl⟩
  · rw [left, unsettled_snoc, committed]
    simp [isRequest]

/-- A state that is not unknown tracks only documents that are not. -/
theorem Tracks.settled {state document : Document} {status : String} (tracks : Tracks state document)
    (known : submissionStatus state = .str status) (other : status ≠ orderSubmissionUnknown) (record : Document) :
    ¬ IsUnknown document record := by
  intro unknown
  obtain ⟨kept, held, same⟩ := tracks record unknown
  rw [submissionStatus, held] at known
  change pyGet kept "state" = _ at known
  rw [pyGet, same, ← pyGet, unknown.2] at known
  exact other (Value.str.inj known).symm

theorem Tracks.refl (document : Document) : Tracks document document :=
  fun record unknown => ⟨record, unknown.1, fun _ => rfl⟩

theorem submissionStatus_unknown {document record : Document} (unknown : IsUnknown document record) :
    submissionStatus document = .str orderSubmissionUnknown := by
  rw [submissionStatus, unknown.1]
  exact unknown.2

theorem unknown_of_status {document : Document}
    (unknown : submissionStatus document = .str orderSubmissionUnknown) : ∃ record, IsUnknown document record := by
  unfold submissionStatus at unknown
  split at unknown
  · exact absurd (Value.str.inj unknown) (by decide)
  next record held => exact ⟨record, held, unknown⟩
  · cases unknown

theorem isSome_state {record : Document} {status : String} (known : pyGet record "state" = .str status) :
    (record.get? "state").isSome = true := by
  cases found : record.get? "state" with
  | none => simp [pyGet, found] at known
  | some value => rfl

/-- A record with a status keeps its entries over the default of normalization. -/
theorem tracks_normalized [CharacterTable] {trendUniverse : TrendUniverse} {document normalized : Document}
    (normal : normalizeTradeState trendUniverse (.dict document) = .ok normalized) :
    Tracks normalized document := by
  intro record unknown
  refine ⟨(statusRecord orderSubmissionReserved).update record,
    by rw [record_normalized normal, unknown.1]; rfl, sameRecord_update ?_⟩
  exact isSome_state unknown.2

/-- What a save commits is tracked by the state it saved. -/
theorem Commits.tracks [CharacterTable] {source data committed : Document} {interval : Bool} {status : String}
    (commits : Commits source data interval committed) (known : submissionStatus data = .str status)
    (before : interval = true → Tracks data source) : Tracks data committed := by
  intro record unknown
  cases commits with
  | ordinary merged =>
    have same := (submissionStatus_unknown unknown).symm.trans (status_ordinary merged known)
    have known := known.trans same.symm
    obtain ⟨kept, held, state⟩ := unknown_of_status known
    obtain ⟨written, stored, same⟩ := record_ordinary merged held (isSome_state state)
    rw [unknown.1] at stored
    cases stored
    exact ⟨kept, held, fun key => (same key).symm⟩
  | @interval trendUniverse normalized normal =>
    have unpatched : (patchOf normalized).get? orderSubmissionStateKey = none := by
      simp [patchOf, patchFields, Dict.get?, Dict.find, orderSubmissionStateKey]
    rw [IsUnknown, Dict.get?_update, unpatched, Option.none_or] at unknown
    exact before rfl record unknown

end Protocol

end BinancePlatform.Guarantees.RequestProtocol
