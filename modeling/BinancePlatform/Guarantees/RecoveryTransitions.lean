import BinancePlatform.Source.RecoveryControl

/-!
# The recovery control among concurrent writers

Over every run of controllers, sessions and other writers:

* an `ACTIVE_LKG` control is written only over the `RECONCILE_ONLY` control that
  the activating controller read, with its identity, candidate and source, while
  no owner exists and the ledger and archive have the candidate's digests;
* neither function replaces a control that is not `RECONCILE_ONLY`;
* a second controller that read the same control commits only if an equal
  control was put back in between (`control_transitions`).

Without that exception the last point fails: another writer of the control can
restore it between the two transactions (`restored_control_is_replaced_twice`).
-/

set_option autoImplicit false

namespace BinancePlatform.Guarantees.RecoveryTransitions
open BinancePlatform.Library BinancePlatform.Source

section Runs
variable {digest : Document → String} {candidateLedgerSha256 : Value → Except PyException String}

/-- What an activation carries over from the control that its controller verified. -/
structure Activates (digest : Document → String)
    (candidateLedgerSha256 : Value → Except PyException String) (write : ControlWrite)
    (previous : Document) : Prop where
  read : write.previous = some previous
  reconcileOnly : isReconcileOnly previous = true
  carried : ∀ name ∈ ["recovery_id", "candidate", "source"],
    write.nextValue.get? name = previous.get? name
  ledger : candidateLedgerSha256 (pyGet previous "candidate") = .ok write.ledgerSha256
  archive : isPostRebaseSource previous = true → ∃ name sha256,
    write.archive = some (name, sha256) ∧ (sourceField previous "archive_sha256").isStr sha256 = true

/-- The two values a controller decides to write. -/
def Decided (digest : Document → String)
    (candidateLedgerSha256 : Value → Except PyException String) (write : ControlWrite) : Prop :=
  isReconcileOnly write.nextValue = true
    ∨ ∃ previous, Activates digest candidateLedgerSha256 write previous

/-- The control a controller holds, if it has read one. -/
def heldControl : Controller → Option (Option Document)
  | .idle | .stopped => none
  | .controlRead _ previous | .ledgerRead _ previous _ | .ownerAbsent _ previous _
  | .started _ previous _ _ => some previous
  | .verified previous _ _ | .reread previous _ _ | .unowned previous _ _ => some (some previous)
  | .writing write => some write.previous

/-- What a controller has established at its point of `run`. -/
def Established (digest : Document → String)
    (candidateLedgerSha256 : Value → Except PyException String) : Controller → Prop
  | .verified previous sha256 _ | .reread previous sha256 _ | .unowned previous sha256 _ =>
    isReconcileOnly previous = true ∧ candidateLedgerSha256 (pyGet previous "candidate") = .ok sha256
  | .writing write => Decided digest candidateLedgerSha256 write
  | _ => True

theorem carried_activateValue (previous : Document) (transitionPlan confirmation : Value)
    {name : String} (member : name ∈ ["recovery_id", "candidate", "source"]) :
    (activateValue previous transitionPlan confirmation).get? name = previous.get? name := by
  have others : name ≠ "state" ∧ name ≠ "transition_plan" ∧ name ≠ "confirmation" := by
    simp only [List.mem_cons, List.not_mem_nil, or_false] at member
    rcases member with rfl | rfl | rfl <;> decide
  rw [activateValue, Dict.get?_set_ne _ _ others.2.2, Dict.get?_set_ne _ _ others.2.1,
    Dict.get?_set_ne _ _ others.1]

theorem isReconcileOnly_prepareValue (recoveryId : String) (candidate source : Value) :
    isReconcileOnly (prepareValue recoveryId candidate source) = true := by
  simp [isReconcileOnly, prepareValue, pyGet, Dict.get?, Dict.find, Value.isStr]

theorem established_step {store : RecoveryStore} {controller next : Controller}
    (before : Established digest candidateLedgerSha256 controller)
    (moves : ControllerStep digest candidateLedgerSha256 store controller next) :
    Established digest candidateLedgerSha256 next := by
  cases moves with
  | readLedger | readOwner | readArchive | abandon => trivial
  | prepared => exact .inl (isReconcileOnly_prepareValue _ _ _)
  | verified requested validated =>
    exact ⟨((Bool.and_eq_true _ _).mp requested).2, validated⟩
  | rereadLedger | rereadOwner => exact before
  | activatePlain plain =>
    refine .inr ⟨_, rfl, before.1, fun _ member => carried_activateValue _ _ _ member, before.2, ?_⟩
    intro rebased
    rw [plain] at rebased
    cases rebased
  | activateRebased rebased found bound =>
    exact .inr ⟨_, rfl, before.1, fun _ member => carried_activateValue _ _ _ member, before.2,
      fun _ => ⟨_, _, rfl, bound⟩⟩

theorem heldControl_step {store : RecoveryStore} {controller next : Controller}
    {previous : Option Document} (held : heldControl next = some previous)
    (moves : ControllerStep digest candidateLedgerSha256 store controller next) :
    heldControl controller = some previous := by
  cases moves with
  | abandon => cases held
  | _ => exact held

/-- Every controller stands where its steps have led it. -/
def AllEstablished (digest : Document → String)
    (candidateLedgerSha256 : Value → Except PyException String) (system : RecoverySystem) : Prop :=
  ∀ who, Established digest candidateLedgerSha256 (system.controllers who)

theorem setController_self (system : RecoverySystem) (who : ℕ) (controller : Controller) :
    (system.setController who controller).controllers who = controller := if_pos rfl

theorem setController_other (system : RecoverySystem) {who other : ℕ} (controller : Controller)
    (different : other ≠ who) :
    (system.setController who controller).controllers other = system.controllers other :=
  if_neg different

theorem allEstablished_set {system : RecoverySystem} {who : ℕ} {controller : Controller}
    (before : AllEstablished digest candidateLedgerSha256 system)
    (established : Established digest candidateLedgerSha256 controller) :
    AllEstablished digest candidateLedgerSha256 (system.setController who controller) := by
  intro other
  by_cases same : other = who
  · rw [same, setController_self]
    exact established
  · rw [setController_other system controller same]
    exact before other

theorem allEstablished_step {system next : RecoverySystem} {event : RecoveryEvent}
    (before : AllEstablished digest candidateLedgerSha256 system)
    (taken : RecoveryStep digest candidateLedgerSha256 system event next) :
    AllEstablished digest candidateLedgerSha256 next := by
  cases taken with
  | readControl => exact allEstablished_set before trivial
  | controller moves => exact allEstablished_set before (established_step (before _) moves)
  | commit =>
    exact @allEstablished_set digest candidateLedgerSha256 { system with store := _ } _ _ before trivial
  | owner | ledger | archives | control => exact before

/-- A controller that holds a control has read it. -/
theorem read_of_held {first system : RecoverySystem} {events : List RecoveryEvent}
    (idle : ∀ who, first.controllers who = .idle)
    (run : Run (RecoveryStep digest candidateLedgerSha256) first events system) {who : ℕ}
    {previous : Option Document} (held : heldControl (system.controllers who) = some previous) :
    .read who previous ∈ events := by
  induction run with
  | start =>
    rw [idle] at held
    cases held
  | @next events event before after earlier taken ih =>
    rw [List.mem_append]
    cases taken with
    | @readControl reader action =>
      by_cases same : who = reader
      · rw [same, setController_self] at held
        cases held
        rw [same]
        exact .inr List.mem_cons_self
      · rw [setController_other _ _ same] at held
        exact .inl (ih held)
    | @controller mover next moves =>
      by_cases same : who = mover
      · rw [same, setController_self] at held
        exact .inl (same ▸ ih (same ▸ heldControl_step held moves))
      · rw [setController_other _ _ same] at held
        exact .inl (ih held)
    | @commit committer write store =>
      by_cases same : who = committer
      · rw [same, setController_self] at held
        cases held
      · rw [setController_other _ _ same] at held
        exact .inl (ih held)
    | owner | ledger | archives | control => exact .inl (ih held)

/-! ## One commit -/

theorem not_active_of_reconcileOnly {control : Document} (reconcile : isReconcileOnly control = true) :
    isActiveLkg control = false := by
  unfold isReconcileOnly at reconcile
  unfold isActiveLkg
  cases state : pyGet control "state" with
  | str s =>
    rw [state, Value.isStr_str] at reconcile
    rw [← reconcile]
    decide
  | _ =>
    rw [state] at reconcile
    cases reconcile

/-- The transaction that wrote the control over what it read. -/
structure SafeCommit (digest : Document → String)
    (candidateLedgerSha256 : Value → Except PyException String) (write : ControlWrite)
    (base : RecoveryStore) : Prop where
  replaced : ∀ actual, base.control = some actual →
    isReconcileOnly actual = true ∧ isActiveLkg actual = false
  activation : isActiveLkg write.nextValue = true → ∃ previous actual ledger,
    write.previous = some previous ∧ base.control = some actual
      ∧ Value.equalsDict actual previous = true ∧ isReconcileOnly previous = true
      ∧ (∀ name ∈ ["recovery_id", "candidate", "source"],
          write.nextValue.get? name = previous.get? name)
      ∧ base.owner = none ∧ base.ledger = some ledger
      ∧ candidateLedgerSha256 (pyGet previous "candidate") = .ok (digest ledger)
      ∧ (isPostRebaseSource previous = true → ∃ name archive, base.archives.get? name = some archive
          ∧ (sourceField previous "archive_sha256").isStr (digest archive) = true)

theorem replaced_of_saw {base : RecoveryStore} {write : ControlWrite}
    (saw : SawPreconditions digest base write) {actual : Document} (found : base.control = some actual) :
    isReconcileOnly actual = true := by
  have replaces := saw.replaceable
  rw [found] at replaces
  exact replaces

theorem safeCommit_of_saw {base : RecoveryStore} {write : ControlWrite}
    (decided : Decided digest candidateLedgerSha256 write)
    (saw : SawPreconditions digest base write) :
    SafeCommit digest candidateLedgerSha256 write base := by
  refine ⟨fun actual found => ?_, fun active => ?_⟩
  · have reconcile := replaced_of_saw saw found
    exact ⟨reconcile, not_active_of_reconcileOnly reconcile⟩
  rcases decided with prepared | ⟨previous, activates⟩
  · rw [not_active_of_reconcileOnly prepared] at active
    cases active
  obtain ⟨ledger, stored, ledgerDigest⟩ := saw.ledger
  have control := saw.control
  rw [activates.read] at control
  cases found : base.control with
  | none =>
    rw [found] at control
    cases control
  | some actual =>
    rw [found] at control
    refine ⟨previous, actual, ledger, activates.read, rfl, control, activates.reconcileOnly,
      activates.carried, saw.unowned, stored, ?_, ?_⟩
    · rw [ledgerDigest]
      exact activates.ledger
    · intro rebased
      obtain ⟨name, sha256, named, bound⟩ := activates.archive rebased
      obtain ⟨archive, kept, archiveDigest⟩ := saw.archive name sha256 named
      exact ⟨name, archive, kept, archiveDigest ▸ bound⟩

/-! ## Two commits over one control -/

/-- The event leaves a control equal to the given one. -/
def PutsBack (previous : Option Document) : RecoveryEvent → Prop
  | .commit _ write _ => sameControl (some write.nextValue) previous = true
  | .otherControl value => sameControl value previous = true
  | _ => False

theorem control_step {system next : RecoverySystem} {event : RecoveryEvent}
    (taken : RecoveryStep digest candidateLedgerSha256 system event next) :
    next.store.control = system.store.control
      ∨ (∃ who write, event = .commit who write system.store
          ∧ next.store.control = some write.nextValue ∧ replaceable system.store.control = true)
      ∨ ∃ value, event = .otherControl value ∧ next.store.control = value := by
  cases taken with
  | readControl | controller | owner | ledger | archives => exact .inl rfl
  | @commit who write store decided committed =>
    obtain ⟨saw, stored⟩ := saveControl_ok committed
    refine .inr (.inl ⟨who, write, rfl, ?_, saw.replaceable⟩)
    change store.control = _
    rw [stored]
  | control value => exact .inr (.inr ⟨value, rfl, rfl⟩)

/-- A control equal to a given one is there only if it was left or put back. -/
theorem put_back {first system : RecoverySystem} {events : List RecoveryEvent}
    {previous : Option Document}
    (run : Run (RecoveryStep digest candidateLedgerSha256) first events system)
    (now : sameControl system.store.control previous = true) :
    sameControl first.store.control previous = true ∨ ∃ event ∈ events, PutsBack previous event := by
  induction run with
  | start => exact .inl now
  | @next events event before after earlier taken ih =>
    rcases control_step taken with same | ⟨who, write, rfl, written, -⟩ | ⟨value, rfl, written⟩
    · rw [same] at now
      rcases ih now with initial | ⟨other, member, puts⟩
      · exact .inl initial
      · exact .inr ⟨other, List.mem_append_left _ member, puts⟩
    · rw [written] at now
      exact .inr ⟨_, List.mem_append_right _ List.mem_cons_self, now⟩
    · rw [written] at now
      exact .inr ⟨_, List.mem_append_right _ List.mem_cons_self, now⟩

/-- An active control stays until another writer of the control replaces it. -/
theorem active_stays {first system : RecoverySystem} {events : List RecoveryEvent}
    {active : Document} (isActive : isActiveLkg active = true)
    (run : Run (RecoveryStep digest candidateLedgerSha256) first events system)
    (start : first.store.control = some active)
    (undisturbed : ∀ value, .otherControl value ∉ events) : system.store.control = some active := by
  induction run with
  | start => exact start
  | @next events event before after earlier taken ih =>
    have stays := ih fun value member => undisturbed value (List.mem_append_left _ member)
    rcases control_step taken with same | ⟨who, write, rfl, -, replaces⟩ | ⟨value, rfl, -⟩
    · rw [same]
      exact stays
    · rw [stays] at replaces
      have inactive := not_active_of_reconcileOnly (show isReconcileOnly active = true from replaces)
      rw [isActive] at inactive
      cases inactive
    · exact absurd (List.mem_append_right _ List.mem_cons_self) (undisturbed value)

/-- Recovery control over every interleaving. -/
theorem control_transitions {first last : RecoverySystem} {events : List RecoveryEvent}
    (idle : ∀ who, first.controllers who = .idle)
    (run : Run (RecoveryStep digest candidateLedgerSha256) first events last) :
    (∀ front who write base back, events = front ++ .commit who write base :: back →
      .read who write.previous ∈ front
        ∧ SafeCommit digest candidateLedgerSha256 write base)
    ∧ ∀ front who write base middle other second again back,
        events = front ++ .commit who write base :: (middle ++ .commit other second again :: back) →
          second.previous = write.previous →
            (sameControl (some write.nextValue) write.previous = true
              ∨ ∃ event ∈ middle, PutsBack write.previous event)
            ∧ (isActiveLkg write.nextValue = true → ∃ value, .otherControl value ∈ middle) := by
  have safe : ∀ front who write base back, events = front ++ .commit who write base :: back →
      .read who write.previous ∈ front ∧ SafeCommit digest candidateLedgerSha256 write base
        ∧ ∃ after, after.store.control = some write.nextValue
          ∧ Run (RecoveryStep digest candidateLedgerSha256) after back last := by
    rintro front who write base back rfl
    obtain ⟨before, after, earlier, taken, rest⟩ := run.split
    have established : AllEstablished digest candidateLedgerSha256 before :=
      earlier.invariant (fun other => by rw [idle]; trivial) fun _ _ _ held moved =>
        allEstablished_step held moved
    cases taken with
    | @commit _ _ store decided committed =>
      obtain ⟨saw, stored⟩ := saveControl_ok committed
      have held : heldControl (before.controllers who) = some write.previous := by
        rw [decided]
        rfl
      have read := read_of_held idle earlier held
      have decidedWrite := established who
      rw [decided] at decidedWrite
      refine ⟨read, safeCommit_of_saw decidedWrite saw, _, ?_, rest⟩
      change store.control = _
      rw [stored]
  refine ⟨fun front who write base back split =>
    ⟨(safe front who write base back split).1, (safe front who write base back split).2.1⟩, ?_⟩
  intro front who write base middle other second again back split samePrevious
  obtain ⟨-, -, after, written, rest⟩ := safe front who write base _ split
  obtain ⟨reached, next, run, taken, -⟩ := rest.split
  cases taken with
  | @commit _ _ store decided committed =>
    obtain ⟨saw, -⟩ := saveControl_ok committed
    constructor
    · have now := saw.control
      rw [samePrevious] at now
      rw [← written]
      exact put_back run now
    · intro active
      by_contra undisturbed
      have stays := active_stays active run written fun value member => undisturbed ⟨value, member⟩
      have reconcile := replaced_of_saw saw stays
      rw [not_active_of_reconcileOnly reconcile] at active
      cases active

/-! ## A control that is put back -/

theorem setController_set (system : RecoverySystem) (who : ℕ) (earlier later : Controller) :
    (system.setController who earlier).setController who later = system.setController who later := by
  have controllers : ∀ other,
      ((system.setController who earlier).setController who later).controllers other
        = (system.setController who later).controllers other := by
    intro other
    by_cases same : other = who
    · rw [same, setController_self, setController_self]
    · rw [setController_other _ _ same, setController_other _ _ same, setController_other _ _ same]
  exact congrArg (RecoverySystem.mk system.store) (funext controllers)

/-- A step of one controller at the end of a run. -/
theorem controller_moves {first system : RecoverySystem} {who : ℕ} {events : List RecoveryEvent}
    {earlier later : Controller}
    (run : Run (RecoveryStep digest candidateLedgerSha256) first events (system.setController who earlier))
    (moves : ControllerStep digest candidateLedgerSha256 system.store earlier later) :
    Run (RecoveryStep digest candidateLedgerSha256) first (events ++ [.quiet]) (system.setController who later) := by
  rw [← setController_set system who earlier later]
  refine .next run (.controller ?_)
  rw [setController_self]
  exact moves

/-- A prepare controller that nobody disturbs reaches its transaction. -/
theorem prepare_reaches {system : RecoverySystem} {who : ℕ} {ledger : Document}
    {recoveryId sha256 : String} {candidate source : Value}
    (idle : system.controllers who = .idle) (found : system.store.ledger = some ledger)
    (unowned : system.store.owner = none) (replaces : replaceable system.store.control = true)
    (validated : candidateLedgerSha256 candidate = .ok sha256) :
    ∃ events, Run (RecoveryStep digest candidateLedgerSha256) system events
      (system.setController who (.writing
        { previous := system.store.control, nextValue := prepareValue recoveryId candidate source
          ledgerSha256 := sha256
          archive := (system.store.archives.get? (archiveDocumentOf ledger)).map fun document =>
            (archiveDocumentOf ledger, digest document) })) := by
  have opened : Run (RecoveryStep digest candidateLedgerSha256) system
      ([] ++ [.read who system.store.control])
      (system.setController who (.controlRead .prepare system.store.control)) :=
    .next .start (.readControl idle)
  have read := controller_moves (controller_moves opened (.readLedger found)) (.readOwner unowned)
  exact ⟨_, controller_moves (controller_moves read .readArchive) (.prepared replaces validated)⟩

/-- So does an activation whose source is not one of a rebase. -/
theorem activate_reaches {system : RecoverySystem} {who : ℕ} {previous ledger : Document}
    {recoveryId sha256 : String} {transitionPlan confirmation : Value}
    (idle : system.controllers who = .idle) (stored : system.store.control = some previous)
    (found : system.store.ledger = some ledger) (unowned : system.store.owner = none)
    (requested : requestMatches previous recoveryId = true)
    (validated : candidateLedgerSha256 (pyGet previous "candidate") = .ok sha256)
    (plain : isPostRebaseSource previous = false) :
    ∃ events, Run (RecoveryStep digest candidateLedgerSha256) system events
      (system.setController who (.writing
        { previous := some previous, nextValue := activateValue previous transitionPlan confirmation
          ledgerSha256 := sha256, archive := none })) := by
  have opened : Run (RecoveryStep digest candidateLedgerSha256) system ([] ++ [.read who system.store.control])
      (system.setController who (.controlRead (.activate recoveryId) system.store.control)) :=
    .next .start (.readControl idle)
  rw [stored] at opened
  have read := controller_moves (controller_moves opened (.readLedger found)) (.readOwner unowned)
  have verified := controller_moves (controller_moves read .readArchive) (.verified requested validated fun rebased => by
    rw [plain] at rebased
    cases rebased)
  have again := controller_moves (controller_moves verified (.rereadLedger found)) (.rereadOwner unowned)
  exact ⟨_, controller_moves again (.activatePlain plain)⟩

end Runs

local instance : CharacterTable := asciiTable

/-- The text of a document as its digest. -/
def textDigest (document : Document) : String := String.ofList (Value.dict document).repr

def ledgerShaOf : Value → Except PyException String
  | .dict candidate =>
    match pyGet candidate "local_execution_ledger_sha256" with
    | .str sha256 => .ok sha256
    | _ => .error (valueError "")
  | _ => .error (valueError "")

def heldLedger : Document := ⟨[("value", .int 1)]⟩

def ledgerCandidate : Value :=
  .dict ⟨[("local_execution_ledger_sha256", .str (textDigest heldLedger))]⟩

def openStore : RecoveryStore :=
  { control := none, owner := none, ledger := some heldLedger, archives := .empty }

def openSystem : RecoverySystem := { store := openStore, controllers := fun _ => .idle }

def preparation (recoveryId : String) : ControlWrite :=
  { previous := none, nextValue := prepareValue recoveryId ledgerCandidate .none
    ledgerSha256 := textDigest heldLedger, archive := none }

/-- A transaction over no control commits. -/
theorem saveControl_preparation (recoveryId : String) :
    saveControl textDigest openStore (preparation recoveryId)
      = .ok { openStore with control := some (preparation recoveryId).nextValue } := by
  simp [saveControl, compareAndSetControl, preparation, openStore, hasDigest, sameControl, replaceable,
    require, bind, Except.bind, pure, Except.pure]

theorem two_preparations : ∃ events last,
    Run (RecoveryStep textDigest ledgerShaOf) openSystem events last
      ∧ .commit 0 (preparation "binance-1-1") openStore ∈ events
      ∧ .commit 1 (preparation "binance-2-1") openStore ∈ events := by
  obtain ⟨firstEvents, firstRun⟩ : ∃ events, Run (RecoveryStep textDigest ledgerShaOf) openSystem events
      (openSystem.setController 0 (.writing (preparation "binance-1-1"))) :=
    prepare_reaches rfl rfl rfl rfl rfl
  obtain ⟨secondEvents, secondRun⟩ : ∃ events, Run (RecoveryStep textDigest ledgerShaOf)
      (openSystem.setController 0 (.writing (preparation "binance-1-1"))) events
      ((openSystem.setController 0 (.writing (preparation "binance-1-1"))).setController 1
        (.writing (preparation "binance-2-1"))) :=
    prepare_reaches rfl rfl rfl rfl rfl
  have both := firstRun.append secondRun
  have committed := Run.next both
    (@RecoveryStep.commit textDigest ledgerShaOf _ 0 (preparation "binance-1-1") _ rfl
      (saveControl_preparation "binance-1-1"))
  -- another writer of the control takes the document away again
  have restored := Run.next committed (.control none)
  have again := Run.next restored
    (@RecoveryStep.commit textDigest ledgerShaOf _ 1 (preparation "binance-2-1") _ rfl
      (saveControl_preparation "binance-2-1"))
  refine ⟨_, _, again, ?_, ?_⟩
  · simp only [List.mem_append]
    exact .inl (.inl (.inr List.mem_cons_self))
  · exact List.mem_append_right _ List.mem_cons_self

def prepared : Document := (preparation "binance-1-1").nextValue

def preparedStore : RecoveryStore := { openStore with control := some prepared }

def activation : ControlWrite where
  previous := some prepared
  nextValue := activateValue prepared (.str "plan") (.str "confirmed")
  ledgerSha256 := textDigest heldLedger
  archive := none

theorem saveControl_activation : saveControl textDigest preparedStore activation
    = .ok { preparedStore with control := some activation.nextValue } := by
  have passed : (preparedStore.owner.isNone && hasDigest textDigest preparedStore.ledger activation.ledgerSha256
      && sameControl preparedStore.control activation.previous && replaceable preparedStore.control) = true := by
    decide +kernel
  unfold saveControl
  exact require_bind_of passed

/-- The first controller has committed its preparation. -/
def preparedSystem : RecoverySystem :=
  { (openSystem.setController 0 (.writing (preparation "binance-1-1"))) with
    store := preparedStore }.setController 0 .stopped

/-- One controller prepares, and a second one activates what it has prepared. -/
theorem control_transitions_activated : ∃ events last,
    Run (RecoveryStep textDigest ledgerShaOf) openSystem events last
      ∧ .read 1 (some prepared) ∈ events ∧ isActiveLkg activation.nextValue = true
      ∧ SafeCommit textDigest ledgerShaOf activation preparedStore := by
  obtain ⟨firstEvents, firstRun⟩ : ∃ events, Run (RecoveryStep textDigest ledgerShaOf) openSystem events
      (openSystem.setController 0 (.writing (preparation "binance-1-1"))) :=
    prepare_reaches rfl rfl rfl rfl rfl
  have committed := Run.next firstRun
    (@RecoveryStep.commit textDigest ledgerShaOf _ 0 (preparation "binance-1-1") _ rfl
      (saveControl_preparation "binance-1-1"))
  obtain ⟨secondEvents, secondRun⟩ : ∃ events, Run (RecoveryStep textDigest ledgerShaOf) preparedSystem events
      (preparedSystem.setController 1 (.writing activation)) :=
    activate_reaches rfl rfl rfl rfl
      (show requestMatches prepared "binance-1-1" = true by decide +kernel) rfl (by decide +kernel)
  have activated := Run.next (committed.append secondRun)
    (@RecoveryStep.commit textDigest ledgerShaOf _ 1 activation _ rfl saveControl_activation)
  obtain ⟨read, safe⟩ := (control_transitions (fun _ => rfl) activated).1 _ 1 activation preparedStore [] rfl
  exact ⟨_, _, activated, List.mem_append_left _ read, by decide +kernel, safe⟩

/-- Two controllers read the same absent control and both commit, with different values. -/
theorem restored_control_is_replaced_twice : ∃ events last who other write second base again,
    Run (RecoveryStep textDigest ledgerShaOf) openSystem events last
      ∧ (∀ controller, openSystem.controllers controller = .idle)
      ∧ who ≠ other ∧ .commit who write base ∈ events ∧ .commit other second again ∈ events
      ∧ write.previous = second.previous
      ∧ pyGet write.nextValue "recovery_id" ≠ pyGet second.nextValue "recovery_id" := by
  obtain ⟨events, last, run, committed, again⟩ := two_preparations
  refine ⟨events, last, 0, 1, _, _, _, _, run, fun _ => rfl, by decide, committed, again, rfl, ?_⟩
  simp [preparation, prepareValue, pyGet, Dict.get?, Dict.find]

end BinancePlatform.Guarantees.RecoveryTransitions
