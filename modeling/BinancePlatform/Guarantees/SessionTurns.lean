import BinancePlatform.Guarantees.StaleRelease

/-!
# Sessions take turns

From one write of a session to its next, nobody else takes the owner document, writes the
ledger or sends a request, whatever the other sessions, operators and programs do. The
system is the one of the stale release: sessions, operators and the other programs over
one store.

Main results:
- `undisturbed_step`, `undisturbed_run`: the writer keeps what it wrote, until it is ousted
- `writes_are_undisturbed`: between two writes it was not
-/

set_option autoImplicit false

namespace BinancePlatform.Guarantees.SessionTurns
open BinancePlatform.Library BinancePlatform.Source BinancePlatform.Guarantees.StaleRelease

section Turns
variable [CharacterTable] {trendUniverse : TrendUniverse} {receiptEnabled : Bool}
  {activated : Document → Bool} {ownerIds : ℕ → String} {writer : ℕ}

/-- The writer has the owner document, and the ledger is as it left it. -/
structure Undisturbed (ownerIds : ℕ → String) (writer : ℕ) (left : OwnedStore) (system : OwnerSystem) : Prop where
  claimed : (system.sessions writer).phase ≠ .unclaimed
  owned : ownedBy (ownerIds writer) system.store.owner = true
  owner : system.store.owner = left.owner
  ledger : system.store.ledger = left.ledger

/-- The session that owns the document writes, releases it or leaves the store as it is. -/
theorem own_step {ownerId : String} {store after : OwnedStore} {session next : StateSession}
    {event : SessionEvent}
    (moves : SessionStep trendUniverse receiptEnabled ownerId store session event after next) :
    event = .ledgerWrite ∨ store.owner = none ∨ after.owner = none
      ∨ after.owner = store.owner ∧ after.ledger = store.ledger := by
  cases moves with
  | claim _ _ absent => exact .inr (.inl absent)
  | commit => exact .inl rfl
  | release => exact .inr (.inr (.inl rfl))
  | _ => exact .inr (.inr (.inr ⟨rfl, rfl⟩))

/-- A session without the owner document does nothing visible while another has it. -/
theorem other_step {ownerId : String} {store after : OwnedStore} {session next : StateSession}
    {event : SessionEvent} (guarded : Guarded ownerId store session)
    (foreign : ownedBy ownerId store.owner = false) (present : store.owner ≠ none)
    (moves : SessionStep trendUniverse receiptEnabled ownerId store session event after next) :
    event = .quiet ∧ after = store := by
  cases moves with
  | claim _ _ absent => exact absurd absent present
  | post sending =>
    have request : InRequest session := by simp [InRequest, sending]
    have owned := (guarded.holds (guarded.request request)).owned
    rw [foreign] at owned
    cases owned
  | commit _ _ _ _ owned =>
    rw [foreign] at owned
    cases owned
  | release _ _ _ _ owned =>
    rw [foreign] at owned
    cases owned
  | _ => exact ⟨rfl, rfl⟩

/-- While the document is the writer's, the step of another session is quiet. -/
theorem undisturbed_step (distinct : Function.Injective ownerIds) {left : OwnedStore}
    {system next : OwnerSystem} {event : OwnerEvent} (sound : Sound activated ownerIds system)
    (undisturbed : Undisturbed ownerIds writer left system)
    (taken : OwnerStep trendUniverse receiptEnabled activated ownerIds system event next)
    (unwritten : event ≠ .session writer .ledgerWrite) :
    (∀ other done, event = .session other done → other ≠ writer → done = .quiet)
      ∧ (Undisturbed ownerIds writer left next ∨ Ousted ownerIds writer next) := by
  obtain ⟨claimed, owned, owner, ledger⟩ := undisturbed
  have present : system.store.owner ≠ none := by
    intro absent
    rw [absent] at owned
    cases owned
  cases taken with
  | @session who event store moved moves =>
    by_cases same : who = writer
    · subst same
      refine ⟨fun other done shown different => by cases shown; exact absurd rfl different, ?_⟩
      have after : (Function.update system.sessions who moved who).phase ≠ .unclaimed := by
        rw [Function.update_self]
        exact claimed_of_step moves
      rcases own_step moves with wrote | absent | released | ⟨kept, same⟩
      · rw [wrote] at unwritten
        exact absurd rfl unwritten
      · exact absurd absent present
      · exact .inr ⟨after, by rw [released]; rfl⟩
      · exact .inl ⟨after, by rw [kept]; exact owned, kept.trans owner, same.trans ledger⟩
    · have foreign : ownedBy (ownerIds who) system.store.owner = false := by
        rw [Bool.eq_false_iff]
        exact fun shared => same (distinct (ownedBy_unique shared owned))
      obtain ⟨quiet, rfl⟩ := other_step (sound.sessions who) foreign present moves
      refine ⟨fun other done shown _ => by cases shown; exact quiet, .inl ⟨?_, owned, owner, ledger⟩⟩
      dsimp only
      rw [Function.update_of_ne (Ne.symm same)]
      exact claimed
  | operator => exact ⟨nofun, .inl ⟨claimed, owned, owner, ledger⟩⟩
  | released decided committed =>
    obtain ⟨-, rfl, -⟩ := releaseStaleOwner_ok committed
    exact ⟨nofun, .inr ⟨claimed, rfl⟩⟩
  | migrate absent => exact absurd absent present
  | control => exact ⟨nofun, .inl ⟨claimed, owned, owner, ledger⟩⟩

/-- The induction over the steps between two writes. -/
theorem undisturbed_run (distinct : Function.Injective ownerIds) {left : OwnedStore}
    {first last : OwnerSystem} {events : List OwnerEvent} (sound : Sound activated ownerIds first)
    (undisturbed : Undisturbed ownerIds writer left first)
    (run : Run (OwnerStep trendUniverse receiptEnabled activated ownerIds) first events last)
    (unwritten : .session writer .ledgerWrite ∉ events) :
    Sound activated ownerIds last
      ∧ (Ousted ownerIds writer last
        ∨ Undisturbed ownerIds writer left last
          ∧ ∀ other done, .session other done ∈ events → other ≠ writer → done = .quiet) := by
  induction run with
  | start => exact ⟨sound, .inr ⟨undisturbed, fun _ _ member => absurd member List.not_mem_nil⟩⟩
  | @next labels label before after earlier taken ih =>
    simp only [List.mem_append, List.mem_singleton, not_or] at unwritten
    obtain ⟨sound, held⟩ := ih unwritten.1
    refine ⟨sound_step distinct sound taken, ?_⟩
    rcases held with ousted | ⟨held, quiet⟩
    · exact .inl (ousted_system distinct sound ousted taken).2
    · obtain ⟨now, next⟩ := undisturbed_step distinct sound held taken (Ne.symm unwritten.2)
      rcases next with held | ousted
      · refine .inr ⟨held, fun other done member different => ?_⟩
        rcases List.mem_append.mp member with before | final
        · exact quiet other done before different
        · exact now other done (List.mem_singleton.mp final).symm different
      · exact .inl ousted

/-- A system in which no session has claimed is sound. -/
theorem sound_start {first : OwnerSystem} (opened : ∀ who, first.sessions who = openSession)
    (started : ∀ who, first.operators who = .start) (unowned : first.store.owner = none) :
    Sound activated ownerIds first := by
  refine ⟨fun who => ?_, by rw [unowned]; nofun, fun who => ?_⟩
  · rw [opened]
    exact ⟨nofun, fun request => request.elim, nofun⟩
  · rw [started]
    trivial

/-- The write of a session leaves it as the owner of what it wrote. -/
theorem undisturbed_write {before after : OwnerSystem}
    (wrote : OwnerStep trendUniverse receiptEnabled activated ownerIds before (.session writer .ledgerWrite) after) :
    Undisturbed ownerIds writer after.store after ∧ ownedBy (ownerIds writer) before.store.owner = true := by
  cases wrote with
  | @session _ _ store moved moves =>
    have claimed := claimed_of_step moves
    cases moves with
    | commit _ _ _ _ owned =>
      refine ⟨⟨?_, owned, rfl, rfl⟩, owned⟩
      dsimp only
      rw [Function.update_self]
      exact claimed

/-- Everywhere between two writes of a session the store is the one it left, and no other
session writes or sends. -/
theorem writes_are_undisturbed (distinct : Function.Injective ownerIds)
    {first before wrote here again final : OwnerSystem} {front middle later : List OwnerEvent}
    (opened : ∀ who, first.sessions who = openSession) (started : ∀ who, first.operators who = .start)
    (unowned : first.store.owner = none)
    (earlier : Run (OwnerStep trendUniverse receiptEnabled activated ownerIds) first front before)
    (write : OwnerStep trendUniverse receiptEnabled activated ownerIds before (.session writer .ledgerWrite) wrote)
    (between : Run (OwnerStep trendUniverse receiptEnabled activated ownerIds) wrote middle here)
    (onward : Run (OwnerStep trendUniverse receiptEnabled activated ownerIds) here later again)
    (next : OwnerStep trendUniverse receiptEnabled activated ownerIds again (.session writer .ledgerWrite) final)
    (unwritten : .session writer .ledgerWrite ∉ middle ++ later) :
    here.store.owner = wrote.store.owner ∧ here.store.ledger = wrote.store.ledger
      ∧ ∀ other done, .session other done ∈ middle ++ later → other ≠ writer → done = .quiet := by
  rw [List.mem_append, not_or] at unwritten
  have sound : Sound activated ownerIds before :=
    earlier.invariant (sound_start opened started unowned) fun _ _ _ sound taken => sound_step distinct sound taken
  obtain ⟨left, -⟩ := undisturbed_write write
  obtain ⟨-, owned⟩ := undisturbed_write next
  -- Ousted on the way, the session could not write again.
  have kept : ¬Ousted ownerIds writer again := by
    intro ousted
    rw [ousted.unowned] at owned
    cases owned
  obtain ⟨soundHere, ousted | ⟨held, quiet⟩⟩ :=
    undisturbed_run distinct (sound_step distinct sound write) left between unwritten.1
  · exact absurd (ousted_run distinct soundHere ousted onward).2.2 kept
  obtain ⟨-, ousted | ⟨-, after⟩⟩ := undisturbed_run distinct soundHere held onward unwritten.2
  · exact absurd ousted kept
  refine ⟨held.owner, held.ledger, fun other done member different => ?_⟩
  rcases List.mem_append.mp member with inMiddle | inLater
  · exact quiet other done inMiddle different
  · exact after other done inLater different

end Turns

/-! ## Two writes of one session -/

section Lone

local instance : CharacterTable := asciiTable

/-- The first session among others, in a store. -/
def systemOf (others : ℕ → StateSession) (operators : ℕ → OperatorPhase) (store : OwnedStore)
    (session : StateSession) : OwnerSystem :=
  { store, sessions := Function.update others 0 session, operators }

/-- The first session alone. -/
abbrev loneSystem : OwnedStore → StateSession → OwnerSystem := systemOf (fun _ => openSession) fun _ => .start

/-- The second session has been stopped, and an operator has read the owner document. -/
abbrev watchedSystem : OwnedStore → StateSession → OwnerSystem :=
  systemOf (Function.update (fun _ => openSession) 1 { openSession with phase := .stopped })
    (Function.update (fun _ => .start) 0 (.ownerRead staleOwner))

abbrev LoneStep : OwnerSystem → OwnerEvent → OwnerSystem → Prop :=
  OwnerStep noTrends false (fun _ => true) repeatedId

theorem own_move {others : ℕ → StateSession} {operators : ℕ → OperatorPhase} {store after : OwnedStore}
    {session next : StateSession} {event : SessionEvent}
    (moves : SessionStep noTrends false (repeatedId 0) store session event after next) :
    LoneStep (systemOf others operators store session) (.session 0 event) (systemOf others operators after next) := by
  have taken : LoneStep (systemOf others operators store session) (.session 0 event)
      { systemOf others operators store session with
        store := after
        sessions := Function.update (systemOf others operators store session).sessions 0 next } := by
    apply OwnerStep.session
    simpa [systemOf] using moves
  have same : { systemOf others operators store session with
      store := after
      sessions := Function.update (systemOf others operators store session).sessions 0 next }
        = systemOf others operators after next := by
    simp [systemOf, Function.update_idem]
  rwa [same] at taken

/-- What a save commits has a canonical text, which reads back as itself. -/
theorem sameJson_saved {source data committed : Document}
    (saved : ordinarySave noTrends false source data = .ok committed) : sameJson committed committed = true := by
  unfold ordinarySave at saved
  split at saved
  next written success =>
    cases saved
    unfold attemptSave at success
    obtain ⟨normalized, -, success⟩ := bind_ok success
    obtain ⟨text, -, success⟩ := bind_ok success
    obtain ⟨json, written, success⟩ := bind_ok success
    cases success
    simp [sameJson, written]
  next => split at saved <;> cases saved

theorem settledLedger_saved : ∃ committed,
    ordinarySave noTrends false settledLedger.value settledLedger.value = .ok committed := by
  have returned : (ordinarySave noTrends false settledLedger.value settledLedger.value).isOk = true := by
    decide +kernel
  cases outcome : ordinarySave noTrends false settledLedger.value settledLedger.value with
  | ok committed => exact ⟨committed, rfl⟩
  | error raised =>
    rw [outcome] at returned
    cases returned

def claimedStore : OwnedStore := { unclaimedSystem.store with owner := some staleOwner }

def idleSession : StateSession := { openSession with phase := .idle }

def loadedSession : StateSession :=
  { idleSession with tradeState := settledLedger.value, source := some settledLedger, loaded := true }

section Writes
variable (committed : Document)

def writtenStore : OwnedStore := { claimedStore with ledger := some ⟨committed, 2⟩ }

/-- The first write is about to be read back. -/
def wroteSession : StateSession :=
  { loadedSession with phase := .readback settledLedger.value committed .ordinary }

def publishedSession : StateSession := { loadedSession with source := some ⟨committed, 2⟩ }

/-- The second write is about to be made. -/
def savingSession (intended : Document) : StateSession :=
  { publishedSession committed with phase := .saving settledLedger.value intended .ordinary }

end Writes

/-- An operator and the second session move while the first has the owner document. -/
theorem watched_moves {store : OwnedStore} (owned : store.owner = some staleOwner) (session : StateSession) :
    Run LoneStep (loneSystem store session) [.operator 0, .session 1 .quiet] (watchedSystem store session) := by
  have read : LoneStep (loneSystem store session) (.operator 0)
      (systemOf (fun _ => openSession) (Function.update (fun _ => .start) 0 (.ownerRead staleOwner)) store
        session) :=
    .operator (.readOwner owned (by decide +kernel))
  have seats : Function.update (Function.update (fun _ => openSession) 1 { openSession with phase := .stopped })
      0 session = Function.update (Function.update (fun _ => openSession) 0 session) 1
        { openSession with phase := .stopped } := Function.update_comm (by decide) _ _ _
  refine (Run.start.next read).next ?_
  unfold watchedSystem
  rw [systemOf, systemOf, seats]
  exact OwnerStep.session SessionStep.fail

theorem lone_owned : ownedBy (repeatedId 0) claimedStore.owner = true := ownedBy_self _ _

theorem lone_source : matchesSource (some settledLedger) (some settledLedger) = true := by decide +kernel

theorem lone_claim : LoneStep unclaimedSystem (.session 0 .quiet) (loneSystem claimedStore idleSession) := by
  have started : unclaimedSystem = loneSystem unclaimedSystem.store openSession := by
    unfold loneSystem systemOf
    rw [Function.update_eq_self]
    rfl
  rw [started]
  exact own_move (.claim 2 rfl rfl)

theorem lone_load : LoneStep (loneSystem claimedStore idleSession) (.session 0 .quiet)
    (loneSystem claimedStore loadedSession) :=
  own_move (.load settledLedger.value rfl rfl lone_owned)

theorem lone_write {committed : Document}
    (saved : ordinarySave noTrends false settledLedger.value settledLedger.value = .ok committed) :
    ∃ front before, Run LoneStep unclaimedSystem front before
      ∧ LoneStep before (.session 0 .ledgerWrite) (loneSystem (writtenStore committed) (wroteSession committed)) := by
  have saving : LoneStep (loneSystem claimedStore loadedSession) (.session 0 .quiet) (loneSystem claimedStore
      { loadedSession with phase := .saving settledLedger.value committed .ordinary }) :=
    own_move (.setTradeState rfl rfl (.ordinary saved))
  refine ⟨_, _, ((Run.start.next lone_claim).next lone_load).next saving, ?_⟩
  refine own_move (.commit 2 .empty rfl rfl lone_owned lone_source ?_)
  rintro old ⟨⟩
  exact ⟨⟨committed, 2⟩, rfl, .inr Nat.one_lt_two⟩

theorem lone_write_again {committed : Document}
    (saved : ordinarySave noTrends false settledLedger.value settledLedger.value = .ok committed) :
    ∃ intended final, Run LoneStep (loneSystem (writtenStore committed) (wroteSession committed))
        [.session 0 .quiet, .operator 0, .session 1 .quiet]
        (watchedSystem (writtenStore committed) (publishedSession committed))
      ∧ Run LoneStep (watchedSystem (writtenStore committed) (publishedSession committed)) [.session 0 .quiet]
        (watchedSystem (writtenStore committed) (savingSession committed intended))
      ∧ LoneStep (watchedSystem (writtenStore committed) (savingSession committed intended))
        (.session 0 .ledgerWrite) final := by
  have same := sameJson_saved saved
  obtain ⟨normalized, normal, -⟩ := ordinarySave_ok saved
  have published : LoneStep (loneSystem (writtenStore committed) (wroteSession committed)) (.session 0 .quiet)
      (loneSystem (writtenStore committed)
        { wroteSession committed with
          phase := SaveKind.ordinary.next, tradeState := settledLedger.value, source := some ⟨committed, 2⟩
          pendingFunds := false }) := by
    refine own_move (.readback false rfl lone_owned rfl same ?_)
    intro submits
    cases submits
  have saving : LoneStep (watchedSystem (writtenStore committed) (publishedSession committed)) (.session 0 .quiet)
      (watchedSystem (writtenStore committed)
        (savingSession committed (committed.update (patchOf normalized)))) :=
    own_move (.setTradeState rfl rfl (.interval rfl normal rfl))
  refine ⟨_, _, (Run.start.next published).append (watched_moves rfl _), Run.start.next saving,
    own_move (.commit 3 .empty rfl rfl lone_owned ?_ ?_)⟩
  · simp [writtenStore, savingSession, publishedSession, matchesSource, same]
  · rintro old ⟨⟩
    exact ⟨⟨committed.update (patchOf normalized), 3⟩, rfl, .inr (Nat.lt_succ_self 2)⟩

theorem writes_are_undisturbed_lone : ∃ committed,
    (watchedSystem (writtenStore committed) (publishedSession committed)).store.owner
        = (loneSystem (writtenStore committed) (wroteSession committed)).store.owner
      ∧ (watchedSystem (writtenStore committed) (publishedSession committed)).store.ledger
        = (loneSystem (writtenStore committed) (wroteSession committed)).store.ledger
      ∧ ∀ other done, .session other done
          ∈ [OwnerEvent.session 0 .quiet, .operator 0, .session 1 .quiet] ++ [.session 0 .quiet] →
        other ≠ 0 → done = .quiet := by
  obtain ⟨committed, saved⟩ := settledLedger_saved
  obtain ⟨front, before, earlier, write⟩ := lone_write saved
  obtain ⟨intended, final, between, onward, next⟩ := lone_write_again saved
  exact ⟨committed, writes_are_undisturbed repeatedId_injective (fun _ => rfl) (fun _ => rfl) rfl
    earlier write between onward next (by simp)⟩

end Lone
end BinancePlatform.Guarantees.SessionTurns
