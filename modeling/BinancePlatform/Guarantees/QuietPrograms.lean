import BinancePlatform.Guarantees.RequestProtocol

/-!
# The programs that send nothing

The claim and the release of the owner, the reads, the confirmation of a settlement, the
accounting and the recovery keep the protocol without a request.
-/

set_option autoImplicit false

namespace BinancePlatform.Guarantees.QuietPrograms
open BinancePlatform.Library BinancePlatform.Source BinancePlatform.Guarantees.RequestProtocol

/-! ## The programs that send nothing -/

section Programs
variable [CharacterTable] {first : Document} {origin : List ClientEvent} {F : List ClientEvent → Prop}
  {α : Type} {R : ClientRuntime → Prop}

/-- `Keeps` for the answers and the calls of this store. -/
abbrev Ends (first : Document) (origin : List ClientEvent) (P : ClientRuntime → List ClientEvent → Prop)
    (program : ClientProgram α) (Q : α → ClientRuntime → List ClientEvent → Prop) : Prop :=
  Conversation.Keeps (Answers first) (Allows first origin) P program Q (Calm first)

/-- The state of the runtime is sound, and the runtime meets `R`. -/
abbrev Having (first : Document) (F : List ClientEvent → Prop) (R : ClientRuntime → Prop) :
    ClientRuntime → List ClientEvent → Prop :=
  fun runtime heard => Sound first F runtime heard ∧ R runtime

theorem ends_leave {P : ClientRuntime → List ClientEvent → Prop} {raised : PyException}
    {Q : α → ClientRuntime → List ClientEvent → Prop} (calm : ∀ r h, P r h → Calm first r h) :
    Ends first origin P (Conversation.leave raised) Q :=
  .leave calm

theorem ends_evaluate {P : ClientRuntime → List ClientEvent → Prop} {outcome : Except PyException α}
    (calm : ∀ r h, P r h → Calm first r h) :
    Ends first origin P (Conversation.evaluate outcome) fun value r h => P r h ∧ outcome = .ok value :=
  .evaluate (fun _ same _ _ start => ⟨start, same⟩) fun _ _ r h start => calm r h start

theorem allows_read {heard : List ClientEvent} {call : ClientRequest} (read : Client.IsRead call) :
    Allows first origin heard call := by
  cases call with
  | send _ _ => cases read
  | saveState _ _ => cases read
  | _ => trivial

omit [CharacterTable] in
theorem not_request {call : ClientRequest} {answer : call.Reply} (read : Client.IsRead call) :
    isRequest ⟨call, answer⟩ = false := by
  cases call with
  | send _ _ => cases read
  | _ => rfl

omit [CharacterTable] in
theorem not_committed {call : ClientRequest} {answer : call.Reply} (read : Client.IsRead call) :
    committedBy ⟨call, answer⟩ = none := by
  cases call with
  | saveState _ _ => cases read
  | _ => rfl

/-- What a passive program keeps. -/
theorem ends_passive (stable : Stable F) {program : ClientProgram α}
    (reads : Conversation.Passive Client.IsRead program) :
    Ends first origin (Having first F R) program fun _ => Having first F R :=
  reads _ _ _ _ (fun _ _ read => allows_read read)
    (fun _ _ _ _ read start => ⟨start.1.read stable (not_request read) (not_committed read), start.2⟩)
    fun _ _ start => start.1.calm

theorem ends_requireOwner (stable : Stable F) (settings : ClientSettings) :
    Ends first origin (Having first F R) (Client.requireRuntimeStateOwner settings)
      fun _ r h => Having first F R r h ∧ r.stateOwnerHeld = true := by
  refine Conversation.Keeps.get_bind fun runtime => .ite ?_ ?_
  · exact fun _ => ends_leave fun _ _ start => start.1.1.calm
  · intro held
    have owner : runtime.stateOwnerHeld = true := by
      cases holds : runtime.stateOwnerHeld with
      | true => rfl
      | false => simp [holds] at held
    refine Conversation.Keeps.bind
      (Q := fun _ r h => Having first F R r h ∧ r = runtime)
      (.ask (fun _ _ _ => trivial) fun _ _ _ start _ => ⟨⟨start.1.1.read stable rfl rfl, start.1.2⟩, start.2⟩)
      fun active => .ite ?_ ?_
    · exact fun _ => .pure fun _ _ start => ⟨start.1, start.2 ▸ owner⟩
    · intro _
      refine Conversation.Keeps.bind (Q := fun _ => Calm first) (.update fun r _ start => ?_)
        fun _ => ends_leave fun _ _ calm => calm
      exact start.1.1.calm.sameState rfl fun lost => nomatch lost

/-- The last exchange is the successful write of `data`. -/
def Wrote (first : Document) (F : List ClientEvent → Prop) (interval : Bool) (data : Document)
    (runtime : ClientRuntime) (heard : List ClientEvent) : Prop :=
  ∃ earlier document, heard = earlier ++ [⟨.saveState interval data, SaveReply.saved document⟩]
    ∧ Sound first F runtime earlier ∧ Commits (stored first earlier) data interval document

theorem ends_persist (stable : Stable F) {interval : Bool} {data : Document} {status : String}
    (known : submissionStatus data = .str status)
    (settles : ∀ r h, Having first F R r h → interval = false → Settling (stored first h) data h) :
    Ends first origin (Having first F R) (Client.persistRuntimeState interval data)
      fun _ r h => Wrote first F interval data r h ∧ R r := by
  refine Conversation.Keeps.bind
    (Q := fun reply r h => ∃ earlier, h = earlier ++ [⟨.saveState interval data, reply⟩]
      ∧ Having first F R r earlier
      ∧ ∀ document, committedBy ⟨.saveState interval data, reply⟩ = some document →
        Commits (stored first earlier) data interval document)
    (.ask (fun r heard start => ⟨⟨status, known⟩, settles r heard start⟩)
      fun _ heard _ start admitted => ⟨heard, rfl, start, admitted⟩)
    fun reply => ?_
  cases reply with
  | saved document =>
    refine .pure ?_
    rintro r h ⟨earlier, rfl, start, admitted⟩
    exact ⟨⟨earlier, document, rfl, start.1, admitted document rfl⟩, start.2⟩
  | failed document =>
    refine Conversation.Keeps.bind (Q := fun _ => Calm first) (.update ?_)
      fun _ => ends_leave fun _ _ calm => calm
    rintro r h ⟨earlier, rfl, start, admitted⟩
    cases document with
    | none =>
      refine (start.1.calm.read (fun _ _ _ _ => trivial) rfl rfl).sameState rfl ?_
      exact fun lost => nomatch lost
    | some document =>
      obtain ⟨text, -, closed, -⟩ := start.1.saved stable (.failed (some document)) known rfl
        (admitted document rfl)
      exact ⟨text, closed, start.1.known, (fun lost => nomatch lost), (fun lost => nomatch lost), trivial⟩

/-- A write of a record over the state of an owner. -/
theorem ends_persistOrderSubmission (stable : Stable F) (settings : ClientSettings) {state record : Document}
    {status : String} (known : pyGet record "state" = .str status)
    (settles : ∀ h, Tracks state (stored first h) → F h → Settling (stored first h) (withRecord state record) h) :
    Ends first origin (Having first F fun r => r.tradeState = some state)
      (Client.persistOrderSubmissionState settings state record)
      fun value r h => (value = withRecord state record ∧ Having first F (fun r => r.tradeState = some value) r h)
        ∧ ∃ earlier document, h = earlier ++ [⟨.saveState false (withRecord state record), SaveReply.saved document⟩]
          ∧ Commits (stored first earlier) (withRecord state record) false document ∧ F earlier
          ∧ (submissionStatus state = .str orderSubmissionReserved →
            admitsRequest (stored first earlier) = true ∧ unsettled earlier = false) := by
  have written : submissionStatus (withRecord state record) = .str status := by
    rw [submissionStatus_withRecord, known]
  refine Conversation.Keeps.bind (ends_requireOwner stable settings) fun _ => ?_
  refine Conversation.Keeps.bind
    (Q := fun _ r h => Wrote first F false (withRecord state record) r h
      ∧ r.tradeState = some state ∧ r.stateOwnerHeld = true) ?_ fun _ => ?_
  · refine (ends_persist stable written (R := fun r => r.tradeState = some state ∧ r.stateOwnerHeld = true)
      fun r h start _ => settles h (start.1.tracks start.2.2 state start.2.1) start.1.frame).weaken
      (fun _ _ start => ⟨start.1.1, start.1.2, start.2⟩) (fun _ _ _ ended => ended) fun _ _ calm => calm
  · refine Conversation.Keeps.bind (Q := fun _ r h =>
      Having first F (fun r => r.tradeState = some (withRecord state record)) r h
        ∧ ∃ earlier document, h = earlier ++ [⟨.saveState false (withRecord state record), SaveReply.saved document⟩]
          ∧ Commits (stored first earlier) (withRecord state record) false document ∧ F earlier
          ∧ (submissionStatus state = .str orderSubmissionReserved →
            admitsRequest (stored first earlier) = true ∧ unsettled earlier = false))
      (.update ?_) fun _ => .pure fun _ _ start => ⟨⟨rfl, start.1⟩, start.2⟩
    rintro r h ⟨⟨earlier, document, rfl, sound, commits⟩, held, owner⟩
    obtain ⟨text, left, closed, frame⟩ := sound.saved stable (.saved document) written rfl commits
    refine ⟨⟨⟨text, closed, ?_, ?_, ?_, frame⟩, rfl⟩, earlier, document, rfl, commits, sound.frame, ?_⟩
    · rintro _ ⟨⟩
      exact ⟨status, written⟩
    · rintro - _ ⟨⟩ reserved
      rw [left, admitsRequest, commits.status written]
      rw [written] at reserved
      simp [reserved, Value.isStr]
    · rintro - _ ⟨⟩
      rw [left]
      exact commits.tracks written fun interval => absurd interval (by decide)
    · intro reserved
      have admits := sound.reserved owner state held reserved
      refine ⟨admits, ?_⟩
      cases sent : unsettled earlier with
      | false => rfl
      | true => rw [sound.closed sent] at admits; cases admits

/-- A valid record has one of the four statuses. -/
theorem checkRecord_status {record : Document} (valid : checkRecord record = .ok ()) :
    ∃ status ∈ [orderSubmissionReserved, orderSubmissionTerminal, orderSubmissionFilledAccountingPending,
      orderSubmissionUnknown], pyGet record "state" = .str status := by
  unfold checkRecord at valid
  dsimp only at valid
  split at valid
  · cases valid
  split at valid
  next settled =>
    rcases Bool.or_eq_true_iff.mp settled with reserved | terminal
    · exact ⟨_, by simp, Value.eq_str_of_isStr reserved⟩
    · exact ⟨_, by simp, Value.eq_str_of_isStr terminal⟩
  split at valid
  next pending => exact ⟨_, by simp, Value.eq_str_of_isStr pending⟩
  split at valid
  next unknown => exact ⟨_, by simp, Value.eq_str_of_isStr unknown⟩
  · cases valid

theorem orderSubmissionRecord_dict {kept record : Document}
    (valid : orderSubmissionRecord (.dict kept) = .ok record) : record = kept ∧ checkRecord record = .ok () := by
  obtain ⟨⟨⟩, checked, rfl⟩ := map_ok (show (checkRecord kept).map (fun _ => kept) = .ok record from valid)
  exact ⟨rfl, checked⟩

theorem loadOrderSubmission_status {stored : Value} {state record : Document}
    (loaded : loadOrderSubmission stored = .ok (state, record)) :
    stored = .dict state ∧ submissionStatus state = pyGet record "state" ∧ checkRecord record = .ok () := by
  cases stored with
  | dict found =>
    obtain ⟨accepted, valid, same⟩ := map_ok (show Except.map _ _ = _ from loaded)
    cases same
    refine ⟨rfl, ?_⟩
    unfold submissionStatus
    cases entry : state.get? orderSubmissionStateKey with
    | none =>
      rw [entry, Option.getD_none] at valid
      obtain ⟨rfl, checked⟩ := orderSubmissionRecord_dict valid
      exact ⟨rfl, checked⟩
    | some value =>
      rw [entry, Option.getD_some] at valid
      cases value with
      | dict kept =>
        obtain ⟨rfl, checked⟩ := orderSubmissionRecord_dict valid
        exact ⟨rfl, checked⟩
      | _ => cases valid
  | _ => cases loaded

theorem loadOrderSubmission_unknown {state record : Document}
    (loads : loadOrderSubmission (.dict state) = .ok (state, record))
    (unknown : (pyGet record "state").isStr orderSubmissionUnknown = true) :
    state.get? orderSubmissionStateKey = some (.dict record) := by
  obtain ⟨accepted, valid, same⟩ := map_ok (show Except.map _ _ = _ from loads)
  cases same
  cases entry : state.get? orderSubmissionStateKey with
  | none =>
    rw [entry, Option.getD_none] at valid
    obtain ⟨rfl, -⟩ := orderSubmissionRecord_dict valid
    cases unknown
  | some value =>
    rw [entry, Option.getD_some] at valid
    cases value with
    | dict kept =>
      obtain ⟨rfl, -⟩ := orderSubmissionRecord_dict valid
      rfl
    | _ => cases valid

/-- The document a session loads is the stored one. -/
theorem ends_loading (stable : Stable F) :
    Ends first origin (Having first F R) (Client.reading .loadState rfl)
      fun reply r h => Having first F R r h ∧ ∀ value, reply = .ok value → value = .dict (stored first h) := by
  refine Conversation.Keeps.bind (Q := fun (reply : Except PyException Value) r h => Having first F R r h
    ∧ ∀ value, reply = .ok value → value = .dict (stored first h))
    (.ask (fun _ _ _ => trivial) ?_) fun _ => .pure fun _ _ start => start
  intro r h reply start admitted
  refine ⟨⟨start.1.read stable rfl rfl, start.2⟩, fun value answered => ?_⟩
  rw [stored_snoc]
  exact admitted value answered

theorem ends_loadOrderSubmission (stable : Stable F) :
    Ends first origin (Having first F fun _ => True) Client.loadOrderSubmissionState
      fun value r h => Having first F (fun r => r.tradeState = some value.1) r h
        ∧ submissionStatus value.1 = pyGet value.2 "state" ∧ checkRecord value.2 = .ok ()
        ∧ ((pyGet value.2 "state").isStr orderSubmissionUnknown = true →
          value.1.get? orderSubmissionStateKey = some (.dict value.2)) := by
  refine Conversation.Keeps.bind (Q := fun value r h => Sound first F r h
    ∧ (r.tradeState = none → value = .dict (stored first h))
    ∧ ∀ state, r.tradeState = some state → value = .dict state) ?_ fun value => ?_
  · refine Conversation.Keeps.get_bind fun runtime => ?_
    cases held : runtime.tradeState with
    | some state =>
      refine .pure fun r h start => ⟨start.1.1, ?_, ?_⟩
      · rw [start.2, held]
        exact nofun
      · rw [start.2, held]
        rintro _ ⟨⟩
        rfl
    | none =>
      refine Conversation.Keeps.bind ((ends_loading stable (R := fun r => r = runtime)).weaken
        (fun _ _ start => ⟨start.1.1, start.2⟩) (fun _ _ _ ended => ended) fun _ _ calm => calm) fun reply => ?_
      cases reply with
      | error raised => exact ends_leave fun _ _ start => start.1.1.calm
      | ok found =>
        refine .pure fun r h start => ⟨start.1.1, fun _ => start.2 found rfl, ?_⟩
        rw [start.1.2, held]
        exact nofun
  · refine Conversation.Keeps.bind (Q := fun loaded r h => Sound first F r h
      ∧ (submissionStatus loaded.1 = pyGet loaded.2 "state" ∧ checkRecord loaded.2 = .ok ()
        ∧ ((pyGet loaded.2 "state").isStr orderSubmissionUnknown = true →
          loaded.1.get? orderSubmissionStateKey = some (.dict loaded.2)))
      ∧ (r.tradeState = none → loaded.1 = stored first h)
      ∧ ∀ state, r.tradeState = some state → loaded.1 = state)
      (.evaluate ?_ fun _ _ _ _ start => start.1.calm) fun loaded => ?_
    · rintro ⟨state, record⟩ loads r h ⟨sound, absent, present⟩
      obtain ⟨rfl, same, valid⟩ := loadOrderSubmission_status loads
      exact ⟨sound, ⟨same, valid, loadOrderSubmission_unknown loads⟩, fun none => Value.dict.inj (absent none),
        fun held known => Value.dict.inj (present held known)⟩
    · refine Conversation.Keeps.bind (Q := fun _ r h => Having first F (fun r => r.tradeState = some loaded.1) r h
        ∧ submissionStatus loaded.1 = pyGet loaded.2 "state" ∧ checkRecord loaded.2 = .ok ()
        ∧ ((pyGet loaded.2 "state").isStr orderSubmissionUnknown = true →
          loaded.1.get? orderSubmissionStateKey = some (.dict loaded.2)))
        (.update ?_) fun _ => .pure fun _ _ start => start
      rintro r h ⟨sound, ⟨same, valid, kept⟩, absent, present⟩
      obtain ⟨status, -, recorded⟩ := checkRecord_status valid
      refine ⟨⟨sound.holding ?_ ?_ ?_, rfl⟩, same, valid, kept⟩
      · rintro _ ⟨⟩
        exact ⟨status, same.trans recorded⟩
      · rintro owner _ ⟨⟩ reserved
        cases held : r.tradeState with
        | some state =>
          rw [present state held] at reserved
          exact sound.reserved owner state held reserved
        | none =>
          rw [absent held] at reserved
          simp [admitsRequest, reserved, Value.isStr]
      · rintro owner _ ⟨⟩
        cases held : r.tradeState with
        | some state =>
          rw [present state held]
          exact sound.tracks owner state held
        | none =>
          rw [absent held]
          exact .refl _

end Programs

end BinancePlatform.Guarantees.QuietPrograms
