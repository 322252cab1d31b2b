import BinancePlatform.Guarantees.RequestCall

/-!
# A request is submitted once

Cycles share one stored document, each as its owner, and may stop anywhere. A request is
sent only right after the successful write of a `SUBMISSION_UNKNOWN` record that names
it, over a record that admitted a submission, and once per call; between two requests
the store has had a record that is settled. A `SUBMISSION_UNKNOWN` record is settled only
by an answer that tells its outcome.

Main results:
- `requests_submitted_once`: where a request stands among the exchanges of all processes
- `unknown_outcomes_are_known`: what a save over a record of unknown outcome knows
-/

set_option autoImplicit false

namespace BinancePlatform.Guarantees.SubmittedOnce
open BinancePlatform.Library BinancePlatform.Source
open BinancePlatform.Guarantees.RequestProtocol BinancePlatform.Guarantees.QuietPrograms
  BinancePlatform.Guarantees.RequestCall

/-! ## The rest of a cycle -/

section Cycle
variable [CharacterTable] {first : Document} {origin : List ClientEvent} {settings : ClientSettings}
  {state : Document}

/-- The record is the one before, or an accounted fill was settled. -/
def Settles (before after : Document) : Prop :=
  after.get? orderSubmissionStateKey = before.get? orderSubmissionStateKey
    ∨ submissionStatus before = .str orderSubmissionFilledAccountingPending
      ∧ submissionStatus after = .str orderSubmissionTerminal

omit [CharacterTable] in
/-- Only the record of the submission counts. -/
theorem Settles.congr {before after later : Document} (settles : Settles before after)
    (same : later.get? orderSubmissionStateKey = after.get? orderSubmissionStateKey) : Settles before later := by
  rcases settles with kept | ⟨pending, terminal⟩
  · exact .inl (same.trans kept)
  · exact .inr ⟨pending, (submissionStatus_congr same).trans terminal⟩

omit [CharacterTable] in
/-- Fuel is pending only behind a filled order that is not yet accounted. -/
theorem fuelPending_status (pending : Client.fuelPending settings state = true) :
    submissionStatus state = .str orderSubmissionFilledAccountingPending := by
  unfold Client.fuelPending pyGet at pending
  unfold submissionStatus
  cases found : state.get? orderSubmissionStateKey with
  | none =>
    rw [found] at pending
    cases pending
  | some value =>
    rw [found] at pending
    cases value with
    | dict record => exact Value.eq_str_of_isStr (Bool.and_eq_true_iff.mp pending).1
    | _ => cases pending

omit [CharacterTable] in
theorem submissionStatus_terminal (state : Document) :
    submissionStatus (Client.withTerminal state) = .str orderSubmissionTerminal :=
  submissionStatus_withRecord _ _

/-- The fuel that is settled leaves a terminal record, or the record as it was. -/
theorem settledFuel_settles {observations : List (String × PyFloat)} {next : Document}
    (settled : Client.settledFuel settings state observations = .ok next) : Settles state next := by
  unfold Client.settledFuel at settled
  split at settled
  next pending =>
    dsimp only at settled
    obtain ⟨complete, _, settled⟩ := bind_ok settled
    obtain ⟨-, settled⟩ := require_bind settled
    obtain ⟨-, settled⟩ := require_bind settled
    obtain ⟨accounted, -, settled⟩ := bind_ok settled
    cases settled
    exact .inr ⟨fuelPending_status pending, submissionStatus_terminal accounted⟩
  next =>
    cases settled
    exact .inl rfl

omit [CharacterTable] in
/-- The refreshed snapshot does not touch the record. -/
theorem refreshedSnapshot_record {observations : List (String × PyFloat)} {next : Document}
    (refreshed : Client.refreshedSnapshot state observations = .ok next) :
    next.get? orderSubmissionStateKey = state.get? orderSubmissionStateKey := by
  obtain ⟨snapshot, -, refreshed⟩ := bind_ok refreshed
  cases refreshed
  exact Dict.get?_set_ne _ _ (by decide)

omit [CharacterTable] in
/-- The owner's state moves to one that it settles. -/
theorem sound_settles {F : List ClientEvent → Prop} {runtime next : ClientRuntime} {heard : List ClientEvent}
    {after : Document} (sound : Sound first F runtime heard) (held : runtime.tradeState = some state)
    (moved : next.tradeState = some after) (owner : next.stateOwnerHeld = runtime.stateOwnerHeld)
    (settles : Settles state after) : Sound first F next heard := by
  obtain ⟨status, known⟩ := sound.known state held
  refine sound.holding ?_ ?_ ?_
  · rw [moved]
    rintro _ ⟨⟩
    rcases settles with same | ⟨-, terminal⟩
    · exact ⟨status, (submissionStatus_congr same).trans known⟩
    · exact ⟨_, terminal⟩
  · rw [moved, owner]
    rintro owned _ ⟨⟩ reserved
    rcases settles with same | ⟨-, terminal⟩
    · exact sound.reserved owned state held ((submissionStatus_congr same).symm.trans reserved)
    · rw [terminal] at reserved
      exact absurd (Value.str.inj reserved) (by decide)
  · rw [moved, owner]
    rintro owned _ ⟨⟩ record unknown
    have tracks := sound.tracks owned state held
    rcases settles with same | ⟨pending, -⟩
    · rw [same]
      exact tracks record unknown
    · exact (tracks.settled pending (by decide) record unknown).elim

/-- What is observed of the cash changes the record only by settling it. -/
theorem ends_observeCashEffects {F : List ClientEvent → Prop} (stable : Stable F) (assets : List String) :
    Ends first origin (At first F state) (Client.observeCashEffects settings state assets)
      fun observed r h => At first F state r h ∧ Settles state observed.2 := by
  refine .ite (fun _ => ?_) fun _ => ?_
  · refine Conversation.Keeps.bind
      (ends_passive stable (Client.reads_prospectiveObservations settings state assets)) fun found => ?_
    refine .pure fun _ _ start => ⟨start, ?_⟩
    split
    next pending => exact .inr ⟨fuelPending_status pending, submissionStatus_terminal _⟩
    next => exact .inl rfl
  · refine Conversation.Keeps.bind
      (ends_passive stable (.raising (Client.reads_readManagedBalances assets))) fun observations => ?_
    refine Conversation.Keeps.bind (ends_evaluate fun _ _ start => start.1.calm) fun accounted =>
      .suppose fun settled => ?_
    exact .pure fun _ _ start => ⟨start, settledFuel_settles settled⟩

/-- So does what is written of the cash effects. -/
theorem ends_reconcileRuntimeCashEffects {F : List ClientEvent → Prop} (stable : Stable F) :
    Ends first origin (At first F state) (Client.reconcileRuntimeCashEffects settings state)
      fun value r h => At first F value r h ∧ Settles state value := by
  refine Conversation.Keeps.get_bind fun runtime => .ite (fun _ => ?_) fun _ => ?_
  · exact .pure fun _ _ start => ⟨start.1, .inl rfl⟩
  · refine Conversation.Keeps.bind (Q := fun _ => At first F state)
      ((ends_requireOwner stable settings).weaken (fun _ _ start => start.1)
        (fun _ _ _ ended => ended.1) fun _ _ calm => calm) fun _ => ?_
    refine Conversation.Keeps.bind (ends_observeCashEffects stable _) fun observed => .suppose fun settles => ?_
    refine Conversation.Keeps.bind (ends_evaluate fun _ _ start => start.1.calm) fun refreshed =>
      .suppose fun same => ?_
    have after : Settles state refreshed := settles.congr (refreshedSnapshot_record same)
    refine Conversation.Keeps.bind (Q := fun _ => At first F refreshed)
      (.update fun _ _ start => ⟨sound_settles start.1 start.2 rfl rfl after, rfl⟩)
      fun _ => .pure fun _ _ start => ⟨start, after⟩

/-- The recovery of a funding submission leaves the runtime calm. -/
theorem ends_reconcilePendingFundingSubmission :
    Ends first origin (Having first (fun _ => True) fun _ => True)
      (Client.reconcilePendingFundingSubmission settings) fun _ => Calm first := by
  refine .ite (fun _ => .pure fun _ _ start => start.1) fun _ => ?_
  refine Conversation.Keeps.bind (Q := fun _ => Having first (fun _ => True) fun _ => True)
    ((ends_requireOwner stable_true settings).weaken (fun _ _ start => start)
      (fun _ _ _ ended => ended.1) fun _ _ calm => calm) fun _ => ?_
  refine Conversation.Keeps.bind (Q := fun loaded r h => At first (fun _ => True) loaded.1 r h
      ∧ ((pyGet loaded.2 "state").isStr orderSubmissionUnknown = true →
        loaded.1.get? orderSubmissionStateKey = some (.dict loaded.2)))
    ((ends_loadOrderSubmission stable_true).weaken (fun _ _ start => start)
      (fun _ _ _ ended => ⟨ended.1, ended.2.2.2⟩) fun _ _ calm => calm) fun loaded => .suppose fun held => ?_
  refine .ite (fun _ => .pure fun _ _ start => start.1) fun recoverable => ?_
  split
  next opening receipt _ receipted =>
    have unknown : (pyGet loaded.2 "state").isStr orderSubmissionUnknown = true := by
      simp only [Bool.or_eq_true, Bool.not_eq_true', not_or, Bool.not_eq_false] at recoverable
      exact recoverable.1
    replace held := held unknown
    refine Conversation.Keeps.bind (ends_confirmFundingSettlement _ _) fun _ => ?_
    refine Conversation.Keeps.bind
      (ends_addPending fun _ _ start => ⟨start.1.sameState rfl fun owner => owner, start.2⟩) fun _ => ?_
    refine Conversation.Keeps.bind (ends_reconcileRuntimeCashEffects (stable_confirmed _ _)) fun refreshed =>
      .suppose fun settles => ?_
    have same : (Client.withSnapshot refreshed opening).get? orderSubmissionStateKey
        = refreshed.get? orderSubmissionStateKey := Dict.get?_set_ne _ _ (by decide)
    have restored : (Client.withSnapshot refreshed opening).get? orderSubmissionStateKey
        = some (.dict loaded.2) := by
      rcases settles with kept | ⟨pending, -⟩
      · rw [same, kept, held]
      · rw [submissionStatus_unknown ⟨held, Value.eq_str_of_isStr unknown⟩] at pending
        exact absurd (Value.str.inj pending) (by decide)
    refine Conversation.Keeps.get_bind fun runtime => ?_
    refine Conversation.Keeps.bind
      (Q := fun _ => At first (Confirmed (textOrEmpty loaded.2 "method_name") receipt)
        (Client.withSnapshot refreshed opening))
      (.update fun _ _ start => ⟨sound_settles start.1.1 start.1.2 rfl rfl (.inl same), rfl⟩)
      fun _ => .ite (fun _ => ?_) fun _ => ?_
    · refine Conversation.Keeps.bind (ends_persistRecord (stable_confirmed _ _) orderSubmissionTerminal rfl
        fun _ tracks confirmed => settling_confirmed tracks restored receipted confirmed) fun _ => ?_
      exact Conversation.Keeps.bind (Q := fun _ => Calm first)
        (.update fun _ _ start => start.1.1.calm.sameState rfl fun owner => owner) fun _ => .pure fun _ _ calm => calm
    · exact Conversation.Keeps.bind (Q := fun _ => Calm first)
        (.update fun _ _ start => start.1.calm.sameState rfl fun owner => owner)
        fun _ => ends_leave fun _ _ calm => calm
  next => exact ends_leave fun _ _ start => start.1

/-- The write of the owner's state. -/
theorem ends_runtimeSetTradeState (accounted : PendingItem → Bool) (reason : String) (interval : Bool) :
    Ends first origin (At first (fun _ => True) state)
      (Client.runtimeSetTradeState settings accounted state reason interval) fun _ => Calm first := by
  refine .ite (fun _ => .pure fun _ _ start => start.1) fun _ => ?_
  refine Conversation.Keeps.bind (ends_requireOwner stable_true settings) fun _ => .ite (fun _ => ?_) fun _ => ?_
  · refine Conversation.Keeps.bind (Q := fun _ => Calm first) (.update fun r _ start => ?_)
      fun _ => ends_leave fun _ _ calm => calm
    exact start.1.1.sameState rfl fun lost => nomatch lost
  have write (known : ∃ status, submissionStatus state = .str status) :
      Ends first origin
        (Having first (fun _ => True) fun r => r.tradeState = some state ∧ r.stateOwnerHeld = true) (do
        Client.persistRuntimeState interval state
        Conversation.update fun runtime =>
          { runtime with tradeState := some state,
                         pendingFunds := runtime.pendingFunds.filter fun item => !accounted item })
        fun _ => Calm first := by
    obtain ⟨status, known⟩ := known
    refine Conversation.Keeps.bind
      (ends_persist stable_true (R := fun r => r.tradeState = some state ∧ r.stateOwnerHeld = true) known
        fun r h start _ => (start.1.tracks start.2.2 state start.2.1).settling) fun _ => .update ?_
    rintro r h ⟨⟨earlier, document, rfl, sound, commits⟩, current, held⟩
    obtain ⟨text, left, closed, -⟩ := sound.saved stable_true (.saved document) known rfl commits
    refine ⟨text, closed, ?_, ?_, ?_, trivial⟩
    · rintro _ ⟨⟩
      exact ⟨status, known⟩
    · rintro owner _ ⟨⟩ reserved
      rw [left, admitsRequest, commits.status known]
      split
      · exact sound.reserved owner state current reserved
      · rw [known] at reserved
        cases reserved
        rfl
    · rintro owner _ ⟨⟩
      rw [left]
      exact commits.tracks known fun _ => sound.tracks held state current
  refine (Conversation.Keeps.suppose write).weaken ?_ (fun _ _ _ ended => ended) fun _ _ calm => calm
  exact fun r h start => ⟨⟨start.1.1, start.1.2, start.2⟩, start.1.1.known state start.1.2⟩

/-- The load that opens a cycle. -/
theorem ends_loadCycleState (trendUniverse : TrendUniverse) :
    Ends first origin (Calm first) (Client.loadCycleState trendUniverse) fun _ => Calm first := by
  refine Conversation.Keeps.bind ((ends_loading stable_true (R := fun _ => True)).weaken
    (fun _ _ calm => ⟨calm, trivial⟩) (fun _ _ _ ended => ended) fun _ _ calm => calm) fun reply => ?_
  refine Conversation.Keeps.bind (ends_evaluate fun _ _ start => start.1.1) fun found => .suppose fun read => ?_
  refine Conversation.Keeps.bind (ends_evaluate fun _ _ start => start.1.1) fun normalized =>
    .suppose fun normal => .update ?_
  rintro r h ⟨⟨sound, -⟩, loaded⟩
  rw [loaded found read] at normal
  obtain ⟨status, known⟩ := sound.text
  have same := status_normalized normal known
  refine sound.holding ?_ ?_ ?_
  · rintro _ ⟨⟩
    exact ⟨status, same⟩
  · rintro - _ ⟨⟩ reserved
    rw [same] at reserved
    rw [admitsRequest, known, reserved]
    rfl
  · rintro - _ ⟨⟩
    exact tracks_normalized normal

theorem ends_acquireRuntimeStateOwner :
    Ends first origin (Calm first) (Client.acquireRuntimeStateOwner settings) fun _ => Calm first := by
  refine .ite (fun _ => .pure fun _ _ calm => calm) fun _ => Conversation.Keeps.get_bind fun runtime => ?_
  refine .ite (fun _ => ends_leave fun _ _ start => start.1) fun _ => ?_
  refine Conversation.Keeps.bind (Q := fun _ => Having first (fun _ => True) fun _ => True)
    ((ends_passive stable_true (Client.reads_reading (show ClientRequest.claimOwner.Reply = _ from rfl) trivial)).weaken
      (fun _ _ start => ⟨start.1, trivial⟩) (fun _ _ _ ended => ended) fun _ _ calm => calm) fun reply => ?_
  split
  · exact ends_leave fun _ _ start => start.1
  · refine Conversation.Keeps.bind (Q := fun _ => Calm first) (.update fun _ _ start => ?_)
      fun _ => .pure fun _ _ calm => calm
    exact start.1.holding nofun nofun nofun
  · exact .pure fun _ _ start => start.1

theorem ends_releaseRuntimeStateOwner :
    Ends first origin (Calm first) (Client.releaseRuntimeStateOwner settings) fun _ => Calm first := by
  refine Conversation.Keeps.bind (Q := fun _ => Calm first)
    ((ends_requireOwner stable_true settings (R := fun _ => True)).weaken (fun _ _ calm => ⟨calm, trivial⟩)
      (fun _ _ _ ended => ended.1.1) fun _ _ calm => calm) fun _ => ?_
  refine Conversation.Keeps.get_bind fun runtime => .ite (fun _ => .pure fun _ _ start => start.1) fun _ => ?_
  refine Conversation.Keeps.bind (Q := fun _ => Having first (fun _ => True) fun _ => True)
    ((ends_passive stable_true (Client.reads_reading (show ClientRequest.releaseOwner.Reply = _ from rfl) trivial)).weaken
      (fun _ _ start => ⟨start.1, trivial⟩) (fun _ _ _ ended => ended) fun _ _ calm => calm) fun reply => ?_
  refine Conversation.Keeps.bind (Q := fun _ => Calm first) (.update fun _ _ start => ?_) fun _ => ?_
  · exact start.1.sameState rfl fun lost => nomatch lost
  split
  · exact ends_leave fun _ _ calm => calm
  · exact .pure fun _ _ calm => calm
  · exact ends_leave fun _ _ calm => calm

end Cycle

/-! ## Cycles that share a document -/

section Shared
variable [CharacterTable] (sha256 : Document → String)

/-- The programs of a cycle that touch the shared document or the broker, from a runtime. -/
inductive CycleProgram (runtime : ClientRuntime) : {α : Type} → ClientProgram α → Prop where
  | acquire (settings : ClientSettings) : CycleProgram runtime (Client.acquireRuntimeStateOwner settings)
  | load (trendUniverse : TrendUniverse) : CycleProgram runtime (Client.loadCycleState trendUniverse)
  | recover (settings : ClientSettings) :
      CycleProgram runtime (Client.reconcilePendingFundingSubmission settings)
  | call (settings : ClientSettings) (call : Client.ClientCall) (funding : call.isFundingMutation = true) :
      CycleProgram runtime (Client.runtimeCallClient settings sha256 call)
  | cashEffects (settings : ClientSettings) (state : Document) (held : runtime.tradeState = some state) :
      CycleProgram runtime (Client.reconcileRuntimeCashEffects settings state)
  | write (settings : ClientSettings) (accounted : PendingItem → Bool) (state : Document) (reason : String)
      (interval : Bool) (held : runtime.tradeState = some state) :
      CycleProgram runtime (Client.runtimeSetTradeState settings accounted state reason interval)
  | release (settings : ClientSettings) : CycleProgram runtime (Client.releaseRuntimeStateOwner settings)

def startedRuntime : ClientRuntime := ⟨false, none, [], .empty⟩

/-- Processes one after another, each with a runtime of its own. -/
inductive SharedRun : List ClientEvent → ClientRuntime → Prop where
  | start : SharedRun [] startedRuntime
  | ran {events exchanges : List ClientEvent} {runtime after : ClientRuntime} {α : Type}
      {program : ClientProgram α} {outcome : Except PyException α} (earlier : SharedRun events runtime)
      (taken : CycleProgram sha256 runtime program)
      (trace : Dialogue.Trace (program runtime) exchanges (some (outcome, after))) :
      SharedRun (events ++ exchanges) after
  -- what a cycle does with its state between two of these programs
  | edited {events : List ClientEvent} {runtime : ClientRuntime} {state next : Document}
      (earlier : SharedRun events runtime) (held : runtime.tradeState = some state) (settles : Settles state next) :
      SharedRun events { runtime with tradeState := some next }
  -- the process ends anywhere in a program and another begins
  | crashed {events exchanges : List ClientEvent} {runtime : ClientRuntime} {α : Type}
      {program : ClientProgram α} {outcome : Option (Except PyException α × ClientRuntime)}
      (earlier : SharedRun events runtime) (taken : CycleProgram sha256 runtime program)
      (trace : Dialogue.Trace (program runtime) exchanges outcome) :
      SharedRun (events ++ exchanges) startedRuntime

variable {sha256} {first : Document} {origin : List ClientEvent}

/-- Every program of a cycle keeps to what is allowed, and ends calm. -/
theorem CycleProgram.ends {runtime : ClientRuntime} {α : Type} {program : ClientProgram α}
    (taken : CycleProgram sha256 runtime program) {events : List ClientEvent} (calm : Calm first runtime events) :
    (program runtime).Abides (Answers first) (Allows first events) events fun ended => Calm first ended.2 := by
  have ends {P : ClientRuntime → List ClientEvent → Prop} (spec : Ends first events P program fun _ => Calm first)
      (start : P runtime events) :
      (program runtime).Abides (Answers first) (Allows first events) events fun ended => Calm first ended.2 := by
    refine (spec.abides start).imp ?_
    rintro ⟨outcome, after⟩ reached ended
    cases outcome <;> exact ended
  cases taken with
  | acquire settings => exact ends ends_acquireRuntimeStateOwner calm
  | load trendUniverse => exact ends (ends_loadCycleState trendUniverse) calm
  | recover settings => exact ends ends_reconcilePendingFundingSubmission ⟨calm, trivial⟩
  | call settings call funding =>
    exact ends (ends_runtimeCallClient call funding)
      ⟨calm.framed (QuietSince.refl events), trivial⟩
  | cashEffects settings state held =>
    exact ends ((ends_reconcileRuntimeCashEffects stable_true).weaken (fun _ _ start => start)
      (fun _ _ _ ended => ended.1.1) fun _ _ calm => calm) ⟨calm, held⟩
  | write settings accounted state reason interval held =>
    exact ends (ends_runtimeSetTradeState accounted reason interval) ⟨calm, held⟩
  | release settings => exact ends ends_releaseRuntimeStateOwner calm

/-- After allowed calls, an unsettled request blocks the store. -/
theorem fresh_calm {status : String} (text : submissionStatus first = .str status) {events : List ClientEvent}
    (answered : Dialogue.Answered (Answers first) [] events)
    (allowed : Dialogue.Allowed (fun heard call => ∃ origin, Allows first origin heard call) [] events) :
    Calm first startedRuntime events := by
  induction events using List.reverseRecOn with
  | nil => exact ⟨⟨status, text⟩, nofun, nofun, nofun, nofun, trivial⟩
  | append_singleton earlier event ih =>
    have calm := ih answered.append.1 allowed.append.1
    obtain ⟨call, answer⟩ := event
    have admitted : Answers first earlier call answer := by simpa using answered earlier call answer [] rfl
    have called : ∃ origin, Allows first origin earlier call := by simpa using allowed earlier call answer [] rfl
    cases call with
    | send methodName payload =>
      obtain ⟨origin, submits⟩ := called
      obtain ⟨written, data, document, rfl, names, -, -, -⟩ := submits
      obtain ⟨named, blocked⟩ := names.blocked
      have left : stored first (written ++ [⟨.saveState false data, SaveReply.saved document⟩]
          ++ [⟨.send methodName payload, answer⟩]) = document := by
        rw [stored_snoc, stored_snoc]
        rfl
      rw [← left] at named blocked
      exact ⟨named, fun _ => blocked, nofun, nofun, nofun, trivial⟩
    | saveState interval data =>
      obtain ⟨origin, ⟨status, known⟩, -⟩ := called
      cases written : committedBy ⟨.saveState interval data, answer⟩ with
      | none => exact calm.read stable_true rfl written
      | some document =>
        obtain ⟨text, -, closed, -⟩ := calm.saved stable_true answer known written (admitted document written)
        exact ⟨text, closed, nofun, nofun, nofun, trivial⟩
    | _ => exact calm.read stable_true rfl rfl

/-- Every run of the processes keeps the store and makes allowed calls. -/
theorem SharedRun.calm {status : String} (text : submissionStatus first = .str status)
    {events : List ClientEvent} {runtime : ClientRuntime} (run : SharedRun sha256 events runtime)
    (answered : Dialogue.Answered (Answers first) [] events) :
    Calm first runtime events
      ∧ Dialogue.Allowed (fun heard call => ∃ origin, Allows first origin heard call) [] events := by
  induction run with
  | start => exact ⟨⟨⟨status, text⟩, nofun, nofun, nofun, nofun, trivial⟩, .nil _⟩
  | ran earlier taken trace ih =>
    obtain ⟨calm, allowed⟩ := ih answered.append.1
    obtain ⟨more, ended⟩ := Dialogue.abides_trace trace (taken.ends calm) answered.append.2
    exact ⟨ended _ rfl, allowed.join fun front call reply back same => ⟨_, more front call reply back same⟩⟩
  | edited earlier held settles ih =>
    obtain ⟨calm, allowed⟩ := ih answered
    exact ⟨sound_settles calm held rfl rfl settles, allowed⟩
  | crashed earlier taken trace ih =>
    obtain ⟨calm, allowed⟩ := ih answered.append.1
    obtain ⟨more, -⟩ := Dialogue.abides_trace trace (taken.ends calm) answered.append.2
    have all := allowed.join fun front call reply back same => ⟨_, more front call reply back same⟩
    exact ⟨fresh_calm text answered all, all⟩

/-- Over all processes, a request is sent only right after the store took a record that
names it in place of one that admits a request, and since every earlier request the store
took a document that admits another. -/
theorem requests_submitted_once {status : String} (text : submissionStatus first = .str status)
    {events : List ClientEvent} {runtime : ClientRuntime} (run : SharedRun sha256 events runtime)
    (answered : Dialogue.Answered (Answers first) [] events) {before after : List ClientEvent}
    {methodName : String} {payload : Document} {reply : Except PyException Value}
    (sent : events = before ++ ⟨.send methodName payload, reply⟩ :: after) :
    ∃ earlier data document, before = earlier ++ [⟨.saveState false data, SaveReply.saved document⟩]
      ∧ Names methodName payload document ∧ admitsRequest (stored first earlier) = true
      ∧ ∀ front request back, earlier = front ++ request :: back → isRequest request = true →
        ∃ write ∈ back, ∃ settled, committedBy write = some settled ∧ admitsRequest settled = true := by
  obtain ⟨-, allowed⟩ := run.calm text answered
  obtain ⟨origin, earlier, data, document, wrote, names, admits, settled, -⟩ :=
    allowed before (.send methodName payload) reply after sent
  exact ⟨earlier, data, document, wrote, names, admits, fun front request back split requests =>
    settled_since settled split requests⟩

/-- Over all processes, a record of unknown outcome leaves the store only for one of the
same identity or once the exchanges tell its outcome. -/
theorem unknown_outcomes_are_known {status : String} (text : submissionStatus first = .str status)
    {events : List ClientEvent} {runtime : ClientRuntime} (run : SharedRun sha256 events runtime)
    (answered : Dialogue.Answered (Answers first) [] events) {before after : List ClientEvent}
    {interval : Bool} {data document record : Document} {reply : SaveReply}
    (saved : events = before ++ ⟨.saveState interval data, reply⟩ :: after)
    (committed : committedBy ⟨.saveState interval data, reply⟩ = some document)
    (unknown : IsUnknown (stored first before) record) :
    (∃ kept, IsUnknown document kept ∧ pyGet kept "identity_sha256" = pyGet record "identity_sha256")
      ∨ OutcomeKnown record before := by
  obtain ⟨-, allowed⟩ := run.calm text answered
  obtain ⟨origin, -, settling⟩ := allowed before (.saveState interval data) reply after saved
  have commits := answered before (.saveState interval data) reply after saved document committed
  cases commits with
  | ordinary merged =>
    rcases settling rfl record unknown with ⟨kept, held, same⟩ | outcome
    · obtain ⟨written, found, entries⟩ := record_ordinary merged held.1 (isSome_state held.2)
      refine .inl ⟨written, ⟨found, ?_⟩, ?_⟩
      · rw [pyGet, entries, ← pyGet, held.2]
      · rw [pyGet, entries, ← pyGet, same]
    · exact .inr outcome
  | @interval trendUniverse normalized normal =>
    have unpatched : (patchOf normalized).get? orderSubmissionStateKey = none := by
      simp [patchOf, patchFields, Dict.get?, Dict.find, orderSubmissionStateKey]
    refine .inl ⟨record, ⟨?_, unknown.2⟩, rfl⟩
    rw [Dict.get?_update, unpatched, Option.none_or]
    exact unknown.1

end Shared

/-! ## An order that expires and is submitted again -/

section Buy

local instance : CharacterTable := asciiTable

def liveSettings : ClientSettings := ⟨false, true, "owner", false, true, "run", "BNBUSDT", "BNB"⟩

def oneDigest : String := String.ofList (List.replicate 64 'a')

def buyPayload : Document := ⟨[("symbol", .str "BTCUSDT"), ("quantity", .int 1)]⟩

def buyCall : Client.ClientCall := ⟨"order_market_buy", buyPayload, "order_buy", 0, .none⟩

def buyOrder : Document :=
  buyPayload.set "newClientOrderId" (.str (orderClientIdPrefix ++ String.ofList (List.replicate 28 'a')))

def buyRecorded : Document := withRecord .empty (unknownRecord oneDigest ("symbol", "BTCUSDT"))

def buySettled : Document := withRecord buyRecorded (statusRecord orderSubmissionTerminal)

def timeout : PyException := ⟨.runtimeError, "timeout"⟩

def owningRuntime : ClientRuntime := ⟨true, none, [], .empty⟩

def buyClaim : List ClientEvent := [⟨.claimOwner, Except.ok (.bool true)⟩]

def buyRecording (committed : Document) : List ClientEvent :=
  [⟨.ensureActive, true⟩, ⟨.loadState, Except.ok (.dict .empty)⟩, ⟨.ensureActive, true⟩,
    ⟨.saveState false buyRecorded, SaveReply.saved committed⟩]

/-- A process without the state submits the order over the settled document. -/
def buyReserved (settled : Document) : Document := withRecord settled (statusRecord orderSubmissionReserved)

def buyAgain (settled : Document) : Document :=
  withRecord (buyReserved settled) (unknownRecord oneDigest ("symbol", "BTCUSDT"))

def resubmitting (settled reserved again : Document) : List ClientEvent :=
  [⟨.ensureActive, true⟩, ⟨.loadState, Except.ok (.dict settled)⟩, ⟨.ensureActive, true⟩,
    ⟨.saveState false (buyReserved settled), SaveReply.saved reserved⟩, ⟨.ensureActive, true⟩,
    ⟨.saveState false (buyAgain settled), SaveReply.saved again⟩]

theorem none_suffixed : ∀ symbol ∈ ([] : List String), endsWithUSDT symbol = true := nofun

def noUniverse : TrendUniverse := ⟨[], List.nodup_nil, none_suffixed⟩

/-- What the store makes of the four saves. -/
def buySaves : Except PyException Document := do
  let committed ← ordinarySave noUniverse false .empty buyRecorded
  let settled ← ordinarySave noUniverse false committed buySettled
  let reserved ← ordinarySave noUniverse false settled (buyReserved settled)
  ordinarySave noUniverse false reserved (buyAgain settled)

theorem buy_saves : ∃ committed settled reserved again,
    ordinarySave noUniverse false .empty buyRecorded = .ok committed
      ∧ ordinarySave noUniverse false committed buySettled = .ok settled
      ∧ ordinarySave noUniverse false settled (buyReserved settled) = .ok reserved
      ∧ ordinarySave noUniverse false reserved (buyAgain settled) = .ok again := by
  have returned : buySaves.isOk = true := by decide +kernel
  cases outcome : buySaves with
  | ok again =>
    obtain ⟨committed, recorded, outcome⟩ := bind_ok outcome
    obtain ⟨settled, saved, outcome⟩ := bind_ok outcome
    obtain ⟨reserved, prepared, resubmitted⟩ := bind_ok outcome
    exact ⟨committed, settled, reserved, again, recorded, saved, prepared, resubmitted⟩
  | error raised =>
    rw [outcome] at returned
    cases returned

/-! The broker expires the order with nothing executed. -/

def expiredOrder : Document :=
  ⟨[("type", .str "MARKET"), ("symbol", .str "BTCUSDT"), ("side", .str "BUY"), ("status", .str "EXPIRED"),
    ("clientOrderId", .str (orderClientIdPrefix ++ String.ofList (List.replicate 28 'a'))),
    ("origQty", .str "1"), ("executedQty", .str "0")]⟩

def buyExpiring (committed : Document) : List ClientEvent :=
  buyRecording committed ++ [⟨.send "order_market_buy" buyOrder, Except.ok (.dict expiredOrder)⟩,
    ⟨.ensureActive, true⟩]

theorem expired_trace {order : Client.SubmittedOrder} {mismatch : String} {held : Option Document}
    {items : List PendingItem} {observation : Dict String PyFloat} {settled : Document}
    (reconciled : Client.reconciledOrderMatchesRequest (.dict expiredOrder) order.association = true) :
    Dialogue.Trace
      (Client.settleOrder liveSettings order (.dict expiredOrder) mismatch ⟨true, held, items, observation⟩)
      [⟨.ensureActive, true⟩,
        ⟨.saveState false (withRecord order.state (statusRecord orderSubmissionTerminal)), SaveReply.saved settled⟩]
      none := by
  have expired : Client.orderStatus (.dict expiredOrder) = "EXPIRED" := by decide +kernel
  have unfilled : Client.noFill (.dict expiredOrder) = true := by decide +kernel
  have terminal : Client.terminalRecord order.state (.dict expiredOrder) true
      = statusRecord orderSubmissionTerminal := by
    rw [Client.terminalRecord, expired]
    rfl
  rw [Client.settleOrder, if_pos reconciled, Client.completeOrderResponse, expired, unfilled, terminal]
  exact .ask _ (.ask _ (.stopped _))

/-- The first process, up to the save that it does not hear of. -/
def buyExpired (committed settled : Document) : List ClientEvent :=
  buyClaim ++ (buyExpiring committed ++ [⟨.saveState false buySettled, SaveReply.saved settled⟩])

theorem buy_claims : Dialogue.Trace (Client.acquireRuntimeStateOwner liveSettings startedRuntime) buyClaim
    (some (Except.ok true, owningRuntime)) :=
  .ask _ (.done _)

theorem expired_run (committed settled : Document) :
    SharedRun (fun _ => oneDigest) (buyExpired committed settled) startedRuntime := by
  have submission : Dialogue.Trace
      (Client.runtimeCallClient liveSettings (fun _ => oneDigest) buyCall owningRuntime)
      (buyExpiring committed ++ [⟨.saveState false buySettled, SaveReply.saved settled⟩]) none :=
    .ask _ (.ask _ (.ask _ (.ask _ (.ask _ (expired_trace (by decide +kernel))))))
  exact .crashed (.ran .start (.acquire liveSettings) buy_claims) (.call liveSettings buyCall (by decide)) submission

/-- The call over a settled document reserves it and names the order again. -/
theorem resubmission_trace {settled : Document} (reserved again : Document)
    (found : settled.get? orderSubmissionStateKey = some (.dict (statusRecord orderSubmissionTerminal))) :
    Dialogue.Trace (Client.runtimeCallClient liveSettings (fun _ => oneDigest) buyCall owningRuntime)
      (resubmitting settled reserved again ++ [⟨.send "order_market_buy" buyOrder, Except.error timeout⟩])
      none := by
  have loads : loadOrderSubmission (.dict settled) = .ok (settled, statusRecord orderSubmissionTerminal) := by
    rw [loadOrderSubmission, found]
    rfl
  refine .ask _ (.ask _ ?_)
  dsimp only [Dialogue.bind, pure, eqRec_eq_cast, cast_eq]
  rw [loads]
  exact .ask _ (.ask _ (.ask _ (.ask _ (.ask _ (.stopped _)))))

/-- A process loses the answer of the store to the expired order, and another one submits the
order again. -/
theorem resubmitted_run {settled : Document} (committed reserved again : Document)
    (found : settled.get? orderSubmissionStateKey = some (.dict (statusRecord orderSubmissionTerminal))) :
    SharedRun (fun _ => oneDigest) (buyExpired committed settled ++ buyClaim
      ++ (resubmitting settled reserved again ++ [⟨.send "order_market_buy" buyOrder, Except.error timeout⟩]))
      startedRuntime :=
  .crashed (.ran (expired_run committed settled) (.acquire liveSettings) buy_claims)
    (.call liveSettings buyCall (by decide)) (resubmission_trace reserved again found)

/-- The settled record is stored as it is. -/
theorem settled_terminal {committed settled : Document}
    (saved : ordinarySave noUniverse false committed buySettled = .ok settled) :
    settled.get? orderSubmissionStateKey = some (.dict (statusRecord orderSubmissionTerminal)) := by
  obtain ⟨normalized, normal, rfl⟩ := ordinarySave_ok saved
  rw [intendedDocument, Dict.get?_update, record_normalized normal, buySettled, withRecord, Dict.get?_set_self]
  rfl

theorem requests_submitted_once_buy : ∃ committed settled reserved again earlier data document,
    buyExpired committed settled ++ buyClaim ++ resubmitting settled reserved again
        = earlier ++ [⟨.saveState false data, SaveReply.saved document⟩]
      ∧ Names "order_market_buy" buyOrder document ∧ admitsRequest (stored .empty earlier) = true
      ∧ ∀ front request back, earlier = front ++ request :: back → isRequest request = true →
        ∃ write ∈ back, ∃ settled, committedBy write = some settled ∧ admitsRequest settled = true := by
  obtain ⟨committed, settled, reserved, again, recorded, saved, prepared, resubmitted⟩ := buy_saves
  refine ⟨committed, settled, reserved, again, requests_submitted_once
    (show submissionStatus .empty = .str orderSubmissionReserved from rfl)
    (resubmitted_run committed reserved again (settled_terminal saved)) ?_ (List.append_assoc _ _ _).symm⟩
  refine .cons trivial <| .cons trivial <| .cons ?_ <| .cons trivial <| .cons ?_ <| .cons trivial <|
    .cons trivial <| .cons ?_ <| .cons trivial <| .cons trivial <| .cons ?_ <| .cons trivial <| .cons ?_ <|
    .cons trivial <| .cons ?_ <| .cons trivial <| .nil _
  · rintro _ ⟨⟩
    rfl
  · rintro _ ⟨⟩
    exact .ordinary recorded
  · rintro _ ⟨⟩
    exact .ordinary saved
  · rintro _ ⟨⟩
    rfl
  · rintro _ ⟨⟩
    exact .ordinary prepared
  · rintro _ ⟨⟩
    exact .ordinary resubmitted

theorem unknown_outcomes_are_known_expired :
    ∃ committed settled record, IsUnknown (stored .empty (buyClaim ++ buyExpiring committed)) record
      ∧ ((∃ kept, IsUnknown settled kept ∧ pyGet kept "identity_sha256" = pyGet record "identity_sha256")
        ∨ OutcomeKnown record (buyClaim ++ buyExpiring committed)) := by
  obtain ⟨committed, settled, -, -, recorded, saved, -, -⟩ := buy_saves
  obtain ⟨record, found, entries⟩ :=
    record_ordinary recorded (by rw [buyRecorded, withRecord, Dict.get?_set_self]) rfl
  have unknown : IsUnknown (stored .empty (buyClaim ++ buyExpiring committed)) record := by
    refine ⟨found, ?_⟩
    rw [pyGet, entries]
    rfl
  refine ⟨committed, settled, record, unknown, unknown_outcomes_are_known
    (show submissionStatus .empty = .str orderSubmissionReserved from rfl) (expired_run committed settled) ?_
    (List.append_assoc _ _ _).symm rfl unknown⟩
  refine .cons trivial <| .cons trivial <| .cons ?_ <| .cons trivial <| .cons ?_ <| .cons trivial <|
    .cons trivial <| .cons ?_ <| .nil _
  · rintro _ ⟨⟩
    rfl
  · rintro _ ⟨⟩
    exact .ordinary recorded
  · rintro _ ⟨⟩
    exact .ordinary saved

end Buy

end BinancePlatform.Guarantees.SubmittedOnce
