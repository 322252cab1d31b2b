import BinancePlatform.Guarantees.QuietPrograms

/-!
# One call of the client

`runtimeCallClient` keeps the protocol: it loads a record that admits a submission, writes
the `SUBMISSION_UNKNOWN` record of its own request, sends the request once and settles the
record by what the broker answers.
-/

set_option autoImplicit false

namespace BinancePlatform.Guarantees.RequestCall
open BinancePlatform.Library BinancePlatform.Source
open BinancePlatform.Guarantees.RequestProtocol BinancePlatform.Guarantees.QuietPrograms

/-! ## One call -/

section Calls
variable [CharacterTable] {first : Document} {origin : List ClientEvent} {settings : ClientSettings}
  {sha256 : Document → String} {state : Document}

omit [CharacterTable] in
theorem stable_true : Stable fun _ => True := fun _ _ _ _ => trivial

/-- The runtime's state is `state`. -/
abbrev At (first : Document) (F : List ClientEvent → Prop) (state : Document) :
    ClientRuntime → List ClientEvent → Prop :=
  Having first F fun r => r.tradeState = some state

/-- A terminal record has a text for its state. -/
theorem terminalRecord_status (state : Document) (response : Value) (required : Bool) :
    ∃ status, pyGet (Client.terminalRecord state response required) "state" = .str status := by
  unfold Client.terminalRecord
  split
  · split
    · exact ⟨_, rfl⟩
    · exact ⟨_, rfl⟩
  · exact ⟨_, rfl⟩

theorem ends_evaluate_calm {α : Type} {P : ClientRuntime → List ClientEvent → Prop}
    {outcome : Except PyException α} (calm : ∀ r h, P r h → Calm first r h) :
    Ends first origin P (Conversation.evaluate outcome) fun _ => Calm first :=
  .evaluate (fun _ _ r h start => calm r h start) fun _ _ r h start => calm r h start

/-- The record of the state is of an identity. -/
def Identifies (identitySha256 : String) (state : Document) : Prop :=
  ∀ record, state.get? orderSubmissionStateKey = some (.dict record) →
    pyGet record "identity_sha256" = .str identitySha256

/-- An answered order that carries the client order id of an identity. -/
def OrderTold (identitySha256 : String) (response : Value) (heard : List ClientEvent) : Prop :=
  ∃ order clientOrderId, response = .dict order
    ∧ Client.clientOrderIdFromDigest identitySha256 = .ok clientOrderId
    ∧ strip (textOrEmpty order "clientOrderId") = strip clientOrderId ∧ OrderAnswer heard order

/-- A record of the same identity is saved over the tracked one. -/
theorem settling_kept {document data kept written : Document} {heard : List ClientEvent}
    (tracks : Tracks state document) (held : state.get? orderSubmissionStateKey = some (.dict kept))
    (unknown : IsUnknown data written)
    (same : pyGet written "identity_sha256" = pyGet kept "identity_sha256") : Settling document data heard := by
  intro record before
  obtain ⟨tracked, current, equal⟩ := tracks record before
  rw [held] at current
  cases current
  exact .inl ⟨written, unknown, same.trans (by rw [pyGet, equal, ← pyGet])⟩

/-- The tracked record is settled when its receipt is confirmed. -/
theorem settling_confirmed {document data kept receipt : Document} {heard : List ClientEvent}
    (tracks : Tracks state document) (held : state.get? orderSubmissionStateKey = some (.dict kept))
    (receipted : pyGet kept "funding_receipt" = .dict receipt)
    (confirmed : Confirmed (textOrEmpty kept "method_name") receipt heard) : Settling document data heard := by
  intro record before
  obtain ⟨tracked, current, same⟩ := tracks record before
  rw [held] at current
  cases current
  refine .inr (.inr ⟨receipt, by rw [pyGet, ← same, ← pyGet, receipted], ?_⟩)
  rwa [textOrEmpty, ← same, ← textOrEmpty]

theorem stable_told (identitySha256 : String) (response : Value) : Stable (OrderTold identitySha256 response) := by
  rintro heard event ⟨order, clientOrderId, same, digest, named, answer⟩ -
  exact ⟨order, clientOrderId, same, digest, named, answer.later event⟩

/-- What the broker told of the order settles the record of its identity. -/
theorem settling_told {document data : Document} {heard : List ClientEvent} {identitySha256 : String}
    {response : Value} (tracks : Tracks state document) (identified : Identifies identitySha256 state)
    (told : OrderTold identitySha256 response heard)
    (final : Client.orderStatus response = binanceOrderFilledStatus
      ∨ Client.orderStatus response ∈ binanceOrderFailedStatuses ∧ Client.noFill response = true) :
    Settling document data heard := by
  intro record unknown
  obtain ⟨kept, held, same⟩ := tracks record unknown
  obtain ⟨order, clientOrderId, rfl, digest, named, answer⟩ := told
  refine .inr (.inl ⟨identitySha256, order, ?_, ⟨⟨clientOrderId, digest, named⟩, final⟩, answer⟩)
  rw [pyGet, ← same, ← pyGet]
  exact identified kept held

/-- The completion of an order saves what its answer tells. -/
theorem ends_completeOrderResponse {identitySha256 : String} (identified : Identifies identitySha256 state)
    (response : Value) (required : Bool) :
    Ends first origin (At first (OrderTold identitySha256 response) state)
      (Client.completeOrderResponse settings state response required) fun _ => Calm first := by
  obtain ⟨status, recorded⟩ := terminalRecord_status state response required
  refine .ite (fun _ => ends_leave fun _ _ start => start.1.calm) fun complete => .ite (fun final => ?_) fun _ => ?_
  · have settled : Client.orderStatus response = binanceOrderFilledStatus
        ∨ Client.orderStatus response ∈ binanceOrderFailedStatuses ∧ Client.noFill response = true := by
      rcases final with filled | failed
      · exact .inl filled
      · refine .inr ⟨failed, ?_⟩
        simpa [failed] using complete
    refine Conversation.Keeps.bind (Q := fun _ => Calm first)
      ((ends_persistOrderSubmission (stable_told identitySha256 response) settings recorded
        fun h tracks told => settling_told tracks identified told settled).weaken (fun _ _ start => start)
        (fun _ _ _ ended => ended.1.2.1.calm) fun _ _ calm => calm) fun _ => ?_
    refine Conversation.Keeps.bind (Q := fun _ => Calm first)
      (.update fun _ _ calm => calm.sameState rfl fun owner => owner)
      fun _ => ends_evaluate_calm fun _ _ calm => calm
  · exact ends_evaluate_calm fun _ _ start => start.1.calm

/-- The response is the answer of a request or of a question, if it is a mapping. -/
def Told (response : Value) (heard : List ClientEvent) : Prop :=
  ∀ order, response = .dict order → OrderAnswer heard order

/-- A reconciled answer names the client order id. -/
theorem reconciled_id {response : Value} {association : Client.OrderAssociation}
    (reconciled : Client.reconciledOrderMatchesRequest response association = true) :
    ∃ order, response = .dict order ∧ strip (textOrEmpty order "clientOrderId") = association.clientOrderId := by
  cases response with
  | dict order =>
    simp only [Client.reconciledOrderMatchesRequest, Bool.and_eq_true, decide_eq_true_eq] at reconciled
    exact ⟨order, rfl, reconciled.1.1.1.2⟩
  | _ => cases reconciled

/-- The order's association carries the client order id of its identity. -/
def Carries (identitySha256 : String) (association : Client.OrderAssociation) : Prop :=
  ∃ clientOrderId, Client.clientOrderIdFromDigest identitySha256 = .ok clientOrderId
    ∧ association.clientOrderId = strip clientOrderId

/-- A reconciled answer tells the outcome of the identity. -/
theorem told_of_reconciled {response : Value} {association : Client.OrderAssociation} {identitySha256 : String}
    {heard : List ClientEvent} (carries : Carries identitySha256 association) (told : Told response heard)
    (reconciled : Client.reconciledOrderMatchesRequest response association = true) :
    OrderTold identitySha256 response heard := by
  obtain ⟨order, rfl, named⟩ := reconciled_id reconciled
  obtain ⟨clientOrderId, digest, carried⟩ := carries
  exact ⟨order, clientOrderId, rfl, digest, named.trans carried, told order rfl⟩

/-- The settlement of an answer that was told. -/
theorem ends_settleOrder (order : Client.SubmittedOrder) (identified : Identifies order.identitySha256 order.state)
    (carries : Carries order.identitySha256 order.association) (response : Value) (mismatch : String) :
    Ends first origin (At first (Told response) order.state)
      (Client.settleOrder settings order response mismatch) fun _ => Calm first := by
  refine .ite (fun reconciled => ?_) fun _ => ends_leave fun _ _ start => start.1.calm
  refine (ends_completeOrderResponse identified response true).weaken (fun r h start => ⟨?_, start.2⟩)
    (fun _ _ _ ended => ended) fun _ _ calm => calm
  exact start.1.framed (told_of_reconciled carries start.1.frame reconciled)

omit [CharacterTable] in
/-- The store and the runtime right after the write of an unknown record, with the request sent. -/
theorem sent_of_submits {methodName : String} {payload : Document} {runtime : ClientRuntime}
    {heard : List ClientEvent} {event : ClientEvent} {status : String}
    (submits : Submits first origin heard methodName payload)
    (held : runtime.tradeState = some state) (known : submissionStatus state = .str status)
    (unreserved : status ≠ orderSubmissionReserved) (unwritten : committedBy event = none)
    (tracks : runtime.stateOwnerHeld = true → Tracks state (stored first heard))
    {F : List ClientEvent → Prop} (frame : F (heard ++ [event])) :
    At first F state runtime (heard ++ [event]) := by
  have kept : stored first (heard ++ [event]) = stored first heard := by
    rw [stored_snoc, unwritten, Option.getD_none]
  obtain ⟨earlier, data, document, rfl, names, -, -, -⟩ := submits
  obtain ⟨text, blocked⟩ := names.blocked
  have left : stored first (earlier ++ [⟨.saveState false data, SaveReply.saved document⟩] ++ [event]) = document := by
    rw [kept, stored_snoc]
    rfl
  refine ⟨⟨?_, ?_, ?_, ?_, ?_, frame⟩, held⟩
  · rw [left]
    exact text
  · rw [left]
    exact fun _ => blocked
  · rw [held]
    rintro _ ⟨⟩
    exact ⟨status, known⟩
  · rw [held]
    rintro - _ ⟨⟩ reserved
    rw [known] at reserved
    exact absurd (Value.str.inj reserved) unreserved
  · rw [held, kept]
    rintro owner _ ⟨⟩
    exact tracks owner

/-- The unknown record is written and the request is next. -/
def Ready (first : Document) (origin : List ClientEvent) (state : Document) (methodName : String)
    (payload : Document) (runtime : ClientRuntime) (heard : List ClientEvent) : Prop :=
  At first (fun _ => True) state runtime heard ∧ Submits first origin heard methodName payload

/-- The order is sent over a record that names it. -/
theorem ends_send {methodName : String} {payload : Document} {status : String}
    (known : submissionStatus state = .str status) (unreserved : status ≠ orderSubmissionReserved) :
    Ends first origin (Ready first origin state methodName payload)
      (Client.reading (.send methodName payload) rfl) fun reply =>
        At first (fun heard => ∀ response, reply = .ok response → Told response heard) state := by
  refine Conversation.Keeps.bind (Q := fun (reply : Except PyException Value) =>
      At first (fun heard => ∀ response, reply = .ok response → Told response heard) state)
    (.ask (fun _ _ ready => ready.2) fun r h reply ready _ => ?_) fun _ => .pure fun _ _ start => start
  refine sent_of_submits ready.2 ready.1.2 known unreserved rfl (fun owner => ready.1.1.tracks owner state ready.1.2) ?_
  rintro response rfl order rfl
  exact .inl ⟨methodName, payload, by simp⟩

/-- The order that a question is answered with. -/
theorem ends_reconcileUncertainOrder {F : List ClientEvent → Prop} (symbol identitySha256 : String) :
    Ends first origin (At first F state) (Client.reconcileUncertainOrder symbol identitySha256)
      fun response => At first (Told response) state := by
  have uncertain {α : Type} {raised : PyException} {Q : α → ClientRuntime → List ClientEvent → Prop} :
      Ends first origin (At first F state) (Conversation.leave raised) Q := ends_leave fun _ _ start => start.1.calm
  unfold Client.reconcileUncertainOrder
  refine .ite (fun _ => uncertain) fun _ => ?_
  split
  · exact uncertain
  next clientOrderId _ =>
    refine Conversation.Keeps.bind (Q := fun (reply : Except PyException Value) =>
      At first (fun heard => ∀ response, reply = .ok response → Told response heard) state) ?_ fun reply => ?_
    · refine Conversation.Keeps.bind (Q := fun (reply : Except PyException Value) =>
          At first (fun heard => ∀ response, reply = .ok response → Told response heard) state)
        (.ask (fun _ _ _ => trivial) fun r h reply start _ => ⟨?_, start.2⟩) fun _ => .pure fun _ _ start => start
      refine (start.1.calm.read stable_true rfl rfl).framed ?_
      rintro response rfl order rfl
      exact .inr ⟨symbol, clientOrderId, by simp⟩
    · split
      · exact .pure fun _ _ start => ⟨start.1.framed (start.1.frame _ rfl), start.2⟩
      · exact ends_leave fun _ _ start => start.1.calm

/-- The order is sent once: its answer, or what is looked up after an error, is settled. -/
theorem ends_attempts (call : Client.ClientCall) (payload : Document) (order : Client.SubmittedOrder)
    (unknown : submissionStatus order.state = .str orderSubmissionUnknown)
    (identified : Identifies order.identitySha256 order.state)
    (carries : Carries order.identitySha256 order.association) (remaining : ℕ) :
    Ends first origin (Ready first origin order.state call.methodName payload)
      (Client.attempts settings call payload (some order) remaining) fun _ => Calm first := by
  cases remaining with
  | zero => exact ends_leave fun _ _ ready => ready.1.1
  | succ remaining =>
    refine Conversation.Keeps.bind (ends_send unknown (by decide)) fun reply => ?_
    cases reply with
    | ok response =>
      exact (ends_settleOrder order identified carries response _).weaken
        (fun _ _ start => ⟨start.1.framed (start.1.frame response rfl), start.2⟩)
        (fun _ _ _ ended => ended) fun _ _ calm => calm
    | error raised =>
      exact Conversation.Keeps.bind (ends_reconcileUncertainOrder _ _)
        fun response => ends_settleOrder order identified carries response _

/-- The write of an unknown record over a reserved state readies the request it names. -/
theorem ends_persistUnknown (identitySha256 methodName : String) (subject : String × String)
    (payload : Document) (reserved : submissionStatus state = .str orderSubmissionReserved)
    (unstated : subject.1 ≠ "state" ∧ subject.1 ≠ "identity_sha256")
    (named : (∃ clientOrderId, Client.clientOrderIdFromDigest identitySha256 = .ok clientOrderId
        ∧ pyGet payload "newClientOrderId" = .str clientOrderId)
      ∨ subject = ("method_name", methodName)) :
    Ends first origin (At first (QuietSince origin) state)
      (Client.persistOrderSubmissionState settings state (unknownRecord identitySha256 subject))
      fun value r h => Ready first origin value methodName payload r h
        ∧ submissionStatus value = .str orderSubmissionUnknown
        ∧ value.get? orderSubmissionStateKey = some (.dict (unknownRecord identitySha256 subject)) := by
  obtain ⟨key, text⟩ := subject
  change key ≠ "state" ∧ key ≠ "identity_sha256" at unstated
  have status : pyGet (unknownRecord identitySha256 (key, text)) "state" = .str orderSubmissionUnknown := rfl
  refine (ends_persistOrderSubmission (stable_quiet origin) settings status
    fun h tracks _ record unknown => (tracks.settled reserved (by decide) record unknown).elim).weaken
    (fun _ _ start => start) ?_ fun _ _ calm => calm
  rintro value r h ⟨⟨rfl, start⟩, earlier, document, rfl, commits, quiet, admits⟩
  have known : submissionStatus (withRecord state (unknownRecord identitySha256 (key, text)))
      = .str orderSubmissionUnknown := by rw [submissionStatus_withRecord, status]
  obtain ⟨admitted, settled⟩ := admits reserved
  refine ⟨⟨⟨start.1.calm, start.2⟩, earlier, _, document, rfl, ?_, admitted, settled, quiet⟩, known,
    by rw [withRecord, Dict.get?_set_self]⟩
  cases commits with
  | ordinary merged =>
    obtain ⟨written, stored, same⟩ :=
      record_ordinary merged (by rw [withRecord, Dict.get?_set_self]) (by simp [unknownRecord, Dict.get?, Dict.find])
    refine ⟨written, identitySha256, stored, ?_, ?_, ?_⟩
    · rw [pyGet, same]
      rfl
    · rw [pyGet, same]
      simp [unknownRecord, Dict.get?, Dict.find]
    · rcases named with order | earn
      · exact .inl order
      · refine .inr ?_
        cases earn
        rw [pyGet, same]
        simp [unknownRecord, Dict.get?, Dict.find]

theorem ensureOrderLogicalIdentity_ok {methodName : String} {payload : Document} {submitted : Document × String}
    (ensured : Client.ensureOrderLogicalIdentity settings sha256 methodName payload = .ok submitted) :
    ∃ clientOrderId, Client.clientOrderIdFromDigest submitted.2 = .ok clientOrderId
      ∧ pyGet submitted.1 "newClientOrderId" = .str clientOrderId := by
  obtain ⟨clientOrderId, digest, same⟩ := bind_ok ensured
  cases same
  exact ⟨clientOrderId, digest, by rw [pyGet, Dict.get?_set_self, Option.getD_some]⟩

theorem textOrEmpty_str {record : Document} {key text : String} (known : pyGet record key = .str text) :
    textOrEmpty record key = text := by
  unfold pyGet at known
  rw [textOrEmpty, known]
  by_cases empty : text = ""
  · rw [empty]
    rfl
  · simp [Value.orElse, Value.truthy, empty, Value.toStr]

theorem association_clientOrderId {methodName : String} {payload : Document}
    {association : Client.OrderAssociation}
    (built : Client.buildOrderRequestAssociation methodName payload = .ok association) :
    association.clientOrderId = strip (textOrEmpty payload "newClientOrderId") := by
  unfold Client.buildOrderRequestAssociation at built
  obtain ⟨-, -, built⟩ := bind_ok built
  dsimp only at built
  split at built
  · obtain ⟨-, -, built⟩ := bind_ok built
    split at built
    · obtain ⟨_, _, built⟩ := bind_ok built
      rw [← show _ = association from Except.ok.inj built]
    · cases built
  · cases built

/-- The association of an order carries the identity in its client order id. -/
theorem carries_association {methodName : String} {payload : Document} {submitted : Document × String}
    {association : Client.OrderAssociation}
    (ensured : Client.ensureOrderLogicalIdentity settings sha256 methodName payload = .ok submitted)
    (built : Client.buildOrderRequestAssociation methodName submitted.1 = .ok association) :
    Carries submitted.2 association := by
  obtain ⟨clientOrderId, digest, named⟩ := ensureOrderLogicalIdentity_ok ensured
  exact ⟨clientOrderId, digest, (association_clientOrderId built).trans (congrArg strip (textOrEmpty_str named))⟩

theorem ends_addPending {P : ClientRuntime → List ClientEvent → Prop} {item : PendingItem}
    (keeps : ∀ r h, P r h → P { r with pendingFunds := r.pendingFunds ++ [item] } h) :
    Ends first origin P (Client.addPending item) fun _ => P :=
  .update keeps

omit [CharacterTable] in
theorem Ready.pending {methodName : String} {payload : Document} {runtime : ClientRuntime}
    {heard : List ClientEvent} (ready : Ready first origin state methodName payload runtime heard)
    (items : List PendingItem) :
    Ready first origin state methodName payload { runtime with pendingFunds := items } heard :=
  ⟨⟨ready.1.1.sameState rfl fun owner => owner, ready.1.2⟩, ready.2⟩

/-- A reserved document is made to name the order before it is sent. -/
theorem ends_submitOrder (call : Client.ClientCall)
    (reserved : submissionStatus state = .str orderSubmissionReserved) :
    Ends first origin (At first (QuietSince origin) state)
      (Client.submitOrder settings sha256 call state) fun _ => Calm first := by
  refine Conversation.Keeps.bind (ends_evaluate fun _ _ start => start.1.calm) fun submitted => .suppose ?_
  intro ensured
  have calm : ∀ r h, At first (QuietSince origin) state r h → Calm first r h := fun _ _ start => start.1.calm
  refine Conversation.Keeps.bind (ends_evaluate calm) fun association => .suppose fun built => ?_
  refine Conversation.Keeps.bind
    (ends_persistUnknown submitted.2 call.methodName ("symbol", association.symbol) submitted.1 reserved
      ⟨by simp, by simp⟩ (.inl (ensureOrderLogicalIdentity_ok ensured))) fun value => ?_
  refine Conversation.Keeps.bind
    (ends_addPending fun _ _ start => ⟨start.1.pending _, start.2⟩) fun _ => .suppose ?_
  rintro ⟨unknown, held⟩
  refine ends_attempts call submitted.1 ⟨association, submitted.2, value⟩ unknown ?_
    (carries_association ensured built) _
  intro record current
  rw [show (Client.SubmittedOrder.mk association submitted.2 value).state = value from rfl, held] at current
  cases current
  rfl

theorem ends_persistRecord {F : List ClientEvent → Prop} (stable : Stable F) {record : Document} (status : String)
    (known : pyGet record "state" = .str status)
    (settles : ∀ h, Tracks state (stored first h) → F h → Settling (stored first h) (withRecord state record) h) :
    Ends first origin (At first F state) (Client.persistOrderSubmissionState settings state record)
      fun value r h => At first F value r h ∧ value = withRecord state record :=
  (ends_persistOrderSubmission stable settings known settles).weaken (fun _ _ start => start)
    (fun _ _ _ ended => ⟨ended.1.2, ended.1.1⟩) fun _ _ calm => calm

theorem stable_confirmed (methodName : String) (receipt : Document) : Stable (Confirmed methodName receipt) := by
  rintro heard event ⟨valid, history, spot, asked, row, read, cash⟩ -
  exact ⟨valid, history, spot, List.mem_append_left _ asked, row, List.mem_append_left _ read, cash⟩

/-- A read, with its answer among the exchanges. -/
theorem ends_reading {F : List ClientEvent → Prop} (stable : Stable F) {call : ClientRequest}
    (same : call.Reply = Except PyException Value) (read : Client.IsRead call) :
    Ends first origin (At first F state) (Client.reading call same) fun reply =>
      At first (fun heard => F heard ∧ ∀ value, reply = .ok value → ⟨call, same ▸ Except.ok value⟩ ∈ heard) state := by
  refine Conversation.Keeps.bind
    (Q := fun reply => At first (fun heard => F heard ∧ (⟨call, reply⟩ : ClientEvent) ∈ heard) state)
    (.ask (fun _ _ _ => allows_read read) fun r heard answer start _ => ?_)
    fun reply => .pure fun r heard start => ?_
  · have next : Sound first F r (heard ++ [⟨call, answer⟩]) :=
      start.1.read stable (not_request read) (not_committed read)
    exact ⟨next.framed ⟨next.frame, by simp⟩, start.2⟩
  · have back : ∀ {β : Type} (same : β = Except PyException Value) (reply : β) (value : Value),
        same ▸ reply = Except.ok value → (same ▸ Except.ok value : β) = reply := by
      rintro _ rfl _ _ answered
      exact answered.symm
    refine ⟨start.1.framed ⟨start.1.frame.1, fun value answered => ?_⟩, start.2⟩
    rw [back same reply value answered]
    exact start.1.frame.2

/-- The confirmation only reads. -/
theorem ends_confirmFundingSettlement (methodName : String) (receipt : Document) :
    Ends first origin (At first (fun _ => True) state) (Client.confirmFundingSettlement methodName receipt)
      fun _ => At first (Confirmed methodName receipt) state := by
  have unverified {α : Type} {raised : PyException} {F : List ClientEvent → Prop}
      {Q : α → ClientRuntime → List ClientEvent → Prop} :
      Ends first origin (At first F state) (Conversation.leave raised) Q := ends_leave fun _ _ start => start.1.calm
  refine .ite (fun _ => unverified) fun valid => ?_
  rw [Bool.not_eq_true, Bool.not_eq_false'] at valid
  refine Conversation.Keeps.bind (ends_reading stable_true rfl trivial) fun reply => ?_
  cases reply with
  | error raised => exact unverified
  | ok history =>
    refine .ite (fun settled => ?_) fun _ => unverified
    refine Conversation.Keeps.bind (ends_reading (fun heard event start _ =>
      ⟨trivial, fun value answered => List.mem_append_left _ (start.2 value answered)⟩) rfl trivial) fun reply => ?_
    cases reply with
    | error raised => exact unverified
    | ok spot =>
      dsimp only
      cases cash : Client.settledCash (Client.isRedeem methodName) receipt spot with
      | error raised => exact unverified
      | ok matched =>
        cases matched with
        | false => exact unverified
        | true =>
          refine .pure fun _ heard start => ⟨start.1.framed ?_, start.2⟩
          have answers := start.1.frame
          exact ⟨valid, history, spot, answers.1.2 history rfl, settled, answers.2 spot rfl, cash⟩

/-- An Earn request is named before it is sent, too. -/
theorem ends_submitEarn (call : Client.ClientCall)
    (reserved : submissionStatus state = .str orderSubmissionReserved) :
    Ends first origin (At first (QuietSince origin) state)
      (Client.submitEarn settings sha256 call state) fun _ => Calm first := by
  refine Conversation.Keeps.bind
    (ends_passive (stable_quiet origin) (Client.reads_earnPreflight call)) fun preflight => ?_
  refine Conversation.Keeps.bind (ends_evaluate fun _ _ start => start.1.calm) fun submitted => .suppose ?_
  intro _
  refine Conversation.Keeps.bind
    (ends_persistUnknown submitted.2 call.methodName ("method_name", call.methodName) preflight.1.payload
      reserved ⟨by simp, by simp⟩ (.inr rfl)) fun value => ?_
  refine Conversation.Keeps.bind
    (ends_addPending fun _ _ start => ⟨start.1.pending _, start.2⟩) fun _ => .suppose ?_
  rintro ⟨unknown, held⟩
  refine Conversation.Keeps.bind (Q := fun _ => At first (fun _ => True) value)
    ((ends_send unknown (by decide)).weaken (fun _ _ start => start)
      (fun _ _ _ ended => ⟨ended.1.calm, ended.2⟩) fun _ _ calm => calm) fun reply => ?_
  cases reply with
  | error raised => exact ends_leave fun _ _ start => start.1
  | ok response =>
    dsimp only
    cases Client.earnSuccessId call.methodName response with
    | none => exact ends_leave fun _ _ start => start.1
    | some id =>
      -- the record with its receipt
      have recorded (receipt : Document) : pyGet ((unknownRecord submitted.2 ("method_name", call.methodName)).set
          "funding_receipt" (.dict receipt)) "state" = .str orderSubmissionUnknown := by
        rw [pyGet, Dict.get?_set_ne _ _ (by decide)]
        rfl
      have receipted (receipt : Document) : pyGet ((unknownRecord submitted.2 ("method_name", call.methodName)).set
          "funding_receipt" (.dict receipt)) "funding_receipt" = .dict receipt := by
        rw [pyGet, Dict.get?_set_self, Option.getD_some]
      refine Conversation.Keeps.bind (ends_persistRecord stable_true orderSubmissionUnknown (recorded _)
        fun h tracks _ => ?_) fun value => .suppose ?_
      · refine settling_kept tracks held ⟨by rw [withRecord, Dict.get?_set_self], recorded _⟩ ?_
        rw [pyGet, Dict.get?_set_ne _ _ (by decide), ← pyGet]
      rintro rfl
      refine Conversation.Keeps.bind (ends_confirmFundingSettlement _ _) fun _ => ?_
      refine Conversation.Keeps.bind (ends_persistRecord (stable_confirmed _ _) orderSubmissionTerminal rfl
        fun h tracks confirmed => settling_confirmed tracks (by rw [withRecord, Dict.get?_set_self])
          (receipted _) ?_) fun value => ?_
      · rw [show textOrEmpty _ _ = call.methodName from textOrEmpty_str ?_]
        · exact confirmed
        · rw [pyGet, Dict.get?_set_ne _ _ (by decide)]
          simp [unknownRecord, Dict.get?, Dict.find]
      refine Conversation.Keeps.bind (Q := fun _ => Calm first)
        (.update fun _ _ start => start.1.1.calm.sameState rfl fun owner => owner)
        fun _ => .pure fun _ _ calm => calm

/-- A submission of unknown outcome is looked up and never sent again. -/
theorem ends_resumeOrder (call : Client.ClientCall) {record : Document}
    (held : state.get? orderSubmissionStateKey = some (.dict record)) :
    Ends first origin (At first (fun _ => True) state)
      (Client.resumeOrder settings sha256 call state record) fun _ => Calm first := by
  refine .ite (fun _ => ends_leave fun _ _ start => start.1) fun _ => ?_
  refine Conversation.Keeps.bind (ends_evaluate fun _ _ start => start.1) fun current => .suppose fun ensured => ?_
  refine .ite (fun matched => ?_) fun _ => ends_leave fun _ _ start => start.1
  have identified : Identifies current.2 state := by
    intro kept current
    rw [held] at current
    cases current
    exact Value.eq_str_of_isStr matched
  refine Conversation.Keeps.bind (ends_evaluate fun _ _ start => start.1) fun association => .suppose fun built => ?_
  refine Conversation.Keeps.bind (ends_reconcileUncertainOrder _ _) fun response => ?_
  refine .ite (fun reconciled => ?_) fun _ => ends_leave fun _ _ start => start.1.calm
  refine Conversation.Keeps.bind (Q := fun _ => At first (OrderTold current.2 response) state)
    (.update fun _ heard start => ⟨?_, start.2⟩) fun _ => ends_completeOrderResponse identified response _
  have told := told_of_reconciled (carries_association ensured built) start.1.frame reconciled
  exact (start.1.framed told).sameState rfl fun owner => owner

/-- A terminal record is reserved before the next request. -/
theorem ends_reserveState {record : Document} (same : submissionStatus state = pyGet record "state")
    (admitting : pyGet record "state" = .str orderSubmissionReserved
      ∨ pyGet record "state" = .str orderSubmissionTerminal) :
    Ends first origin (At first (QuietSince origin) state) (Client.reserveState settings state record)
      fun value r h => At first (QuietSince origin) value r h
        ∧ submissionStatus value = .str orderSubmissionReserved := by
  refine .ite (fun isTerminal => ?_) fun notTerminal => .pure fun _ _ start => ⟨start, ?_⟩
  · refine (ends_persistRecord (stable_quiet origin) orderSubmissionReserved rfl ?_).weaken
      (fun _ _ start => start) ?_ fun _ _ calm => calm
    · intro h tracks _ record unknown
      exact (tracks.settled (same.trans (Value.eq_str_of_isStr isTerminal)) (by decide) record unknown).elim
    · rintro value r h ⟨start, rfl⟩
      exact ⟨start, by rw [submissionStatus_withRecord]; rfl⟩
  · rcases admitting with reserved | terminal
    · exact same.trans reserved
    · rw [terminal] at notTerminal
      exact absurd ((Value.isStr_str _ _).mpr rfl) notTerminal

/-- The whole call, by the status of the record that is loaded. -/
theorem ends_callFunding (call : Client.ClientCall) :
    Ends first origin (Having first (QuietSince origin) fun _ => True)
      (Client.callFunding settings sha256 call) fun _ => Calm first := by
  refine Conversation.Keeps.bind
    ((ends_loadOrderSubmission (stable_quiet origin)).weaken (fun _ _ start => start)
      (Q := fun loaded r h => At first (QuietSince origin) loaded.1 r h
        ∧ (submissionStatus loaded.1 = pyGet loaded.2 "state" ∧ checkRecord loaded.2 = .ok ()
          ∧ ((pyGet loaded.2 "state").isStr orderSubmissionUnknown = true →
            loaded.1.get? orderSubmissionStateKey = some (.dict loaded.2))))
      (fun _ _ _ ended => ended) fun _ _ calm => calm) fun loaded => .suppose ?_
  rintro ⟨same, valid, held⟩
  obtain ⟨status, known, recorded⟩ := checkRecord_status valid
  refine .ite (fun isUnknown => ?_) fun notUnknown => .ite (fun _ => ?_) fun notPending => ?_
  · exact (ends_resumeOrder call (held isUnknown)).weaken (fun _ _ start => ⟨start.1.calm, start.2⟩)
      (fun _ _ _ ended => ended) fun _ _ calm => calm
  · exact ends_leave fun _ _ start => start.1.calm
  · have admitting : pyGet loaded.2 "state" = .str orderSubmissionReserved
        ∨ pyGet loaded.2 "state" = .str orderSubmissionTerminal := by
      rw [recorded] at notUnknown notPending ⊢
      simp only [Value.isStr_str] at notUnknown notPending
      simp only [List.mem_cons, List.not_mem_nil, or_false] at known
      rcases known with rfl | rfl | rfl | rfl
      · exact .inl rfl
      · exact .inr rfl
      · exact absurd rfl notPending
      · exact absurd rfl notUnknown
    refine Conversation.Keeps.bind (ends_reserveState same admitting) fun value => .suppose fun reserved => ?_
    exact .ite (fun _ => ends_submitEarn call reserved) fun _ => ends_submitOrder call reserved

/-- A call with an order or Earn effect. -/
theorem ends_runtimeCallClient (call : Client.ClientCall) (funding : call.isFundingMutation = true) :
    Ends first origin (Having first (QuietSince origin) fun _ => True)
      (Client.runtimeCallClient settings sha256 call) fun _ => Calm first := by
  refine .ite (fun _ => .pure fun _ _ start => start.1.calm) fun _ => ?_
  refine Conversation.Keeps.bind (ends_requireOwner (stable_quiet origin) settings) fun _ => ?_
  refine .ite (fun _ => ends_leave fun _ _ start => start.1.1.calm) fun _ => ?_
  refine .ite (fun _ => ends_leave fun _ _ start => start.1.1.calm) fun _ => ?_
  refine .ite (fun _ => ?_) fun other => absurd funding other
  exact (ends_callFunding call).weaken (fun _ _ start => start.1) (fun _ _ _ ended => ended) fun _ _ calm => calm

end Calls

end BinancePlatform.Guarantees.RequestCall
