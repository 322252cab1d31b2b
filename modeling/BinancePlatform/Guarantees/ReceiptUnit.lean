import BinancePlatform.Guarantees.ReceiptPlans

/-!
# Receipt and ledger patch are one unit

Over every interleaving of the calls for one plan with other writers of the owner
and the ledger (`receipt_and_patch_are_one`):

* a stored receipt is the planned one, and its transaction left the ledger in the
  planned post-state;
* a ledger patched by a call is never without the receipt;
* no step alters a stored receipt, and a replay writes nothing;
* a call returns only after it read owner, receipt and ledger together, with the
  planned contents, later than its own transaction.
-/

set_option autoImplicit false

namespace BinancePlatform.Guarantees.ReceiptUnit
open BinancePlatform.Library BinancePlatform.Source

section Plan
variable {sha256 : List Char → String} {plan : IntervalReceiptPlan}

/-! ## What a transaction saw -/

theorem readOwned_ok {ownerId : String} {store : ReceiptStore} {ledger : Document}
    {version : UpdateTime} (success : readOwned ownerId store = .ok (ledger, version)) :
    ∃ owner, store.owner = some owner ∧ (pyGet owner "owner_id").isStr ownerId = true
      ∧ store.ledger = some (ledger, version) := by
  unfold readOwned at success
  split at success
  case h_1 owner found ownedBy held =>
    split at success
    case isTrue named =>
      cases success
      exact ⟨owner, ownedBy, named, held⟩
    case isFalse => cases success
  case h_2 => cases success

theorem loadsMapping_ok {raised : ReceiptError} {text : List Char} {d : Document}
    (success : loadsMapping raised text = .ok d) : jsonLoads text = .ok (.dict d) := by
  unfold loadsMapping at success
  split at success
  case h_1 found loaded =>
    cases success
    exact loaded
  case h_2 => cases success

/-- The digests that a built plan binds. -/
theorem buildIntervalReceiptPlan_digests {ledgerPath : String} {updateTime : UpdateTime}
    {old new : Document} {interval : Value} {built : IntervalReceiptPlan}
    (success : buildIntervalReceiptPlan sha256 ledgerPath updateTime old new interval = .ok built) :
    receiptDigest sha256 (.dict old) = .ok built.ledgerBeforeSha256
      ∧ receiptDigest sha256 (.dict new) = .ok built.ledgerAfterSha256 := by
  obtain ⟨-, success⟩ := require_bind success
  obtain ⟨material, -, success⟩ := bind_ok success
  obtain ⟨-, -, success⟩ := bind_ok success
  obtain ⟨whole, -, success⟩ := bind_ok success
  obtain ⟨next, -, success⟩ := bind_ok success
  obtain ⟨-, success⟩ := require_bind success
  obtain ⟨before, oldDigest, success⟩ := bind_ok success
  obtain ⟨after, newDigest, success⟩ := bind_ok success
  obtain ⟨payload, -, success⟩ := bind_ok success
  obtain ⟨receipt, -, success⟩ := bind_ok success
  obtain ⟨patchText, -, success⟩ := bind_ok success
  obtain ⟨receiptText, -, success⟩ := bind_ok success
  cases success
  exact ⟨oldDigest, newDigest⟩

/-- The store over which a receipt is created, and the two documents written. -/
structure Creates (sha256 : List Char → String) (plan : IntervalReceiptPlan) (base : ReceiptStore)
    (receipt ledger : Document) : Prop where
  fresh : base.receipt = none
  planned : jsonLoads plan.receiptJson = .ok (.dict receipt)
  before : ∃ old version patch payload, base.ledger = some (old, version)
    ∧ validatePlan sha256 plan = .ok (patch, payload)
    ∧ receiptDigest sha256 (.dict old) = .ok plan.ledgerBeforeSha256
    ∧ ledger = old.update patch
  after : receiptDigest sha256 (.dict ledger) = .ok plan.ledgerAfterSha256

/-- Owner, receipt and ledger as planned, in one read. -/
structure HoldsPlanned (sha256 : List Char → String) (plan : IntervalReceiptPlan) (ownerId : String)
    (store : ReceiptStore) : Prop where
  owner : ∃ owner, store.owner = some owner ∧ (pyGet owner "owner_id").isStr ownerId = true
  receipt : ∃ receipt, store.receipt = some receipt
    ∧ Source.receiptJson (.dict receipt) = .ok plan.receiptJson
  ledger : ∃ ledger version, store.ledger = some (ledger, version)
    ∧ receiptDigest sha256 (.dict ledger) = .ok plan.ledgerAfterSha256

theorem stage_created {patch payload receipt ledger : Document} {ownerId : String}
    {expected : UpdateTime} {store : ReceiptStore} (valid : validatePlan sha256 plan = .ok (patch, payload))
    (success : stage sha256 plan patch payload ownerId expected store
      = .ok (.created, some (receipt, ledger))) : Creates sha256 plan store receipt ledger := by
  unfold stage at success
  obtain ⟨⟨old, version⟩, read, success⟩ := bind_ok success
  obtain ⟨owner, -, -, held⟩ := readOwned_ok read
  obtain ⟨-, success⟩ := require_bind success
  split at success
  case h_1 existing found =>
    obtain ⟨text, -, success⟩ := bind_ok success
    obtain ⟨-, success⟩ := require_bind success
    obtain ⟨digest, -, success⟩ := bind_ok success
    obtain ⟨-, success⟩ := require_bind success
    obtain ⟨-, success⟩ := require_bind success
    obtain ⟨patchText, -, success⟩ := bind_ok success
    obtain ⟨-, success⟩ := require_bind success
    cases success
  case h_2 fresh =>
    obtain ⟨-, success⟩ := require_bind success
    obtain ⟨digest, digested, success⟩ := bind_ok success
    obtain ⟨same, success⟩ := require_bind success
    obtain ⟨regenerated, built, success⟩ := bind_ok success
    obtain ⟨equal, success⟩ := require_bind success
    obtain ⟨loaded, loads, success⟩ := bind_ok success
    cases success
    rw [decide_eq_true_eq] at same equal
    subst equal
    refine ⟨fresh, loadsMapping_ok loads, ⟨old, version, patch, payload, held, valid, ?_, rfl⟩,
      (buildIntervalReceiptPlan_digests built).2⟩
    rw [digested, same]

theorem stage_identical {patch payload : Document} {ownerId : String} {expected : UpdateTime}
    {store : ReceiptStore} (success : stage sha256 plan patch payload ownerId expected store
      = .ok (.identical, none)) : HoldsPlanned sha256 plan ownerId store := by
  unfold stage at success
  obtain ⟨⟨old, version⟩, read, success⟩ := bind_ok success
  obtain ⟨owner, ownedBy, named, held⟩ := readOwned_ok read
  obtain ⟨-, success⟩ := require_bind success
  split at success
  case h_1 existing found =>
    obtain ⟨text, written, success⟩ := bind_ok success
    obtain ⟨same, success⟩ := require_bind success
    obtain ⟨digest, digested, success⟩ := bind_ok success
    obtain ⟨post, success⟩ := require_bind success
    rw [decide_eq_true_eq] at same post
    exact ⟨⟨owner, ownedBy, named⟩, ⟨existing, found, same ▸ written⟩,
      ⟨old, version, held, post ▸ digested⟩⟩
  case h_2 =>
    obtain ⟨-, success⟩ := require_bind success
    obtain ⟨digest, -, success⟩ := bind_ok success
    obtain ⟨-, success⟩ := require_bind success
    obtain ⟨regenerated, -, success⟩ := bind_ok success
    obtain ⟨-, success⟩ := require_bind success
    obtain ⟨loaded, -, success⟩ := bind_ok success
    cases success

theorem readback_ok {ownerId : String} {store : ReceiptStore}
    (success : readback sha256 plan ownerId store = .ok ()) :
    HoldsPlanned sha256 plan ownerId store := by
  unfold readback at success
  obtain ⟨⟨ledger, version⟩, read, success⟩ := bind_ok success
  obtain ⟨owner, ownedBy, named, held⟩ := readOwned_ok read
  dsimp only at success
  split at success
  case h_1 existing found =>
    obtain ⟨text, written, success⟩ := bind_ok success
    obtain ⟨digest, digested, success⟩ := bind_ok success
    rw [require_ok, Bool.and_eq_true, decide_eq_true_eq, decide_eq_true_eq] at success
    exact ⟨⟨owner, ownedBy, named⟩, ⟨existing, found, success.1 ▸ written⟩,
      ⟨ledger, version, held, success.2 ▸ digested⟩⟩
  case h_2 => cases success

/-! ## One step -/

theorem setCall_self (system : ReceiptSystem) (who : ℕ) (call : PersistCall) :
    (system.setCall who call).calls who = call := if_pos rfl

theorem setCall_other (system : ReceiptSystem) {who other : ℕ} (call : PersistCall)
    (different : other ≠ who) : (system.setCall who call).calls other = system.calls other :=
  if_neg different

/-- The receipt changes only by a creation over a store without one. -/
theorem receipt_step {system next : ReceiptSystem} {event : ReceiptEvent}
    (taken : ReceiptStep sha256 plan system event next) :
    next.store.receipt = system.store.receipt
      ∨ ∃ who receipt ledger, event = .created who system.store receipt ledger
        ∧ Creates sha256 plan system.store receipt ledger ∧ next.store.receipt = some receipt := by
  cases taken with
  | created outcome ready valid staged known =>
    exact .inr ⟨_, _, _, rfl, stage_created valid staged, rfl⟩
  | begin | identical | readback | raised | owner | ledger => exact .inl rfl

theorem receipt_kept {system next : ReceiptSystem} {event : ReceiptEvent} {receipt : Document}
    (taken : ReceiptStep sha256 plan system event next) (stored : system.store.receipt = some receipt) :
    next.store.receipt = some receipt := by
  rcases receipt_step taken with same | ⟨who, written, ledger, -, creates, -⟩
  · rw [same]
    exact stored
  · rw [creates.fresh] at stored
    cases stored

theorem created_step {system next : ReceiptSystem} {who : ℕ} {base : ReceiptStore}
    {receipt ledger : Document}
    (taken : ReceiptStep sha256 plan system (.created who base receipt ledger) next) :
    base = system.store ∧ Creates sha256 plan system.store receipt ledger
      ∧ next.store.receipt = some receipt ∧ ∃ version, next.store.ledger = some (ledger, version) := by
  cases taken with
  | created outcome ready valid staged known =>
    exact ⟨rfl, stage_created valid staged, rfl, _, rfl⟩

theorem identical_step {system next : ReceiptSystem} {who : ℕ} {base : ReceiptStore}
    (taken : ReceiptStep sha256 plan system (.identical who base) next) :
    next.store = system.store ∧ ∃ ownerId, HoldsPlanned sha256 plan ownerId base := by
  cases taken with
  | identical ready valid staged => exact ⟨rfl, _, stage_identical staged⟩

/-! ## Runs -/

theorem receipt_kept_run {first last : ReceiptSystem} {events : List ReceiptEvent}
    {receipt : Document} (run : Run (ReceiptStep sha256 plan) first events last)
    (stored : first.store.receipt = some receipt) : last.store.receipt = some receipt :=
  @Run.invariant _ _ _ _ _ _ (fun system => system.store.receipt = some receipt) stored
    (fun _ _ _ held taken => receipt_kept taken held) run

theorem created_of_stored {first last : ReceiptSystem} {events : List ReceiptEvent}
    {receipt : Document} (fresh : first.store.receipt = none)
    (run : Run (ReceiptStep sha256 plan) first events last)
    (stored : last.store.receipt = some receipt) :
    ∃ who base ledger, .created who base receipt ledger ∈ events
      ∧ Creates sha256 plan base receipt ledger := by
  induction run with
  | start =>
    rw [fresh] at stored
    cases stored
  | @next events event before after earlier taken ih =>
    rcases receipt_step taken with same | ⟨who, written, ledger, rfl, creates, written'⟩
    · rw [same] at stored
      obtain ⟨who, base, ledger, member, creates⟩ := ih stored
      exact ⟨who, base, ledger, List.mem_append_left _ member, creates⟩
    · rw [written'] at stored
      cases stored
      exact ⟨who, before.store, ledger, List.mem_append_right _ List.mem_cons_self, creates⟩

/-- The transaction of a call that committed or found everything in place. -/
def OwnTransaction (who : ℕ) : ReceiptEvent → Prop
  | .created caller _ _ _ => caller = who
  | .identical caller _ => caller = who
  | _ => False

/-- A call stands behind its transaction, and has returned only behind its readback. -/
def Behind (sha256 : List Char → String) (plan : IntervalReceiptPlan) (events : List ReceiptEvent)
    (who : ℕ) : PersistCall → Prop
  | .staged _ _ => ∃ event ∈ events, OwnTransaction who event
  | .returned _ => ∃ front transaction middle ownerId store back,
      events = front ++ transaction :: (middle ++ .readback who ownerId store :: back)
        ∧ OwnTransaction who transaction ∧ HoldsPlanned sha256 plan ownerId store
  | _ => True

theorem behind_append {events : List ReceiptEvent} {who : ℕ} {call : PersistCall}
    (behind : Behind sha256 plan events who call) (event : ReceiptEvent) :
    Behind sha256 plan (events ++ [event]) who call := by
  cases call with
  | staged ownerId mode =>
    obtain ⟨own, member, isOwn⟩ := behind
    exact ⟨own, List.mem_append_left _ member, isOwn⟩
  | returned mode =>
    obtain ⟨front, transaction, middle, ownerId, store, back, rfl, isOwn, holds⟩ := behind
    exact ⟨front, transaction, middle, ownerId, store, back ++ [event], by simp, isOwn, holds⟩
  | idle | validated | raised => trivial

/-- A step of one call leaves the others where they stand. -/
theorem behind_set {events : List ReceiptEvent} {event : ReceiptEvent} {system : ReceiptSystem}
    {who : ℕ} {call : PersistCall}
    (before : ∀ other, Behind sha256 plan events other (system.calls other))
    (now : Behind sha256 plan (events ++ [event]) who call) (other : ℕ) :
    Behind sha256 plan (events ++ [event]) other ((system.setCall who call).calls other) := by
  by_cases same : other = who
  · rw [same, setCall_self]
    exact now
  · rw [setCall_other system call same]
    exact behind_append (before other) event

theorem behind_run {first last : ReceiptSystem} {events : List ReceiptEvent}
    (idle : ∀ who, first.calls who = .idle)
    (run : Run (ReceiptStep sha256 plan) first events last) (who : ℕ) :
    Behind sha256 plan events who (last.calls who) := by
  induction run generalizing who with
  | start =>
    rw [idle]
    trivial
  | @next events event before after earlier taken ih =>
    cases taken with
    | begin | raised =>
      refine behind_set ih ?_ who
      trivial
    | @created caller ownerId expected version patch payload receipt ledger outcome ready valid staged
        known =>
      refine @behind_set sha256 plan _ _ { before with store := _ } _ _ ih ?_ who
      rcases known with known | lost
      · rw [known]
        exact ⟨_, List.mem_append_right _ List.mem_cons_self, rfl⟩
      · rw [lost]
        trivial
    | @identical caller ownerId expected patch payload ready valid staged =>
      refine behind_set ih ?_ who
      exact ⟨_, List.mem_append_right _ List.mem_cons_self, rfl⟩
    | @readback caller ownerId mode ready verified =>
      have stagedBehind := ih caller
      rw [ready] at stagedBehind
      obtain ⟨transaction, member, isOwn⟩ := stagedBehind
      obtain ⟨front, middle, rfl⟩ := List.append_of_mem member
      refine behind_set ih ?_ who
      exact ⟨front, transaction, middle, ownerId, before.store, [], by simp, isOwn,
        readback_ok verified⟩
    | owner | ledger => exact behind_append (ih who) .quiet

/-- Receipt and ledger patch are one unit. -/
theorem receipt_and_patch_are_one {first last : ReceiptSystem} {events : List ReceiptEvent}
    (idle : ∀ who, first.calls who = .idle) (fresh : first.store.receipt = none)
    (run : Run (ReceiptStep sha256 plan) first events last) :
    (∀ receipt, last.store.receipt = some receipt → ∃ front who base ledger back after version,
        events = front ++ .created who base receipt ledger :: back
          ∧ Creates sha256 plan base receipt ledger
          ∧ Run (ReceiptStep sha256 plan) first (front ++ [.created who base receipt ledger]) after
          ∧ after.store.receipt = some receipt ∧ after.store.ledger = some (ledger, version))
    ∧ (∀ who base receipt ledger, .created who base receipt ledger ∈ events →
        Creates sha256 plan base receipt ledger ∧ last.store.receipt = some receipt)
    ∧ (∀ before event after receipt, ReceiptStep sha256 plan before event after →
        before.store.receipt = some receipt → after.store.receipt = some receipt)
    ∧ (∀ before who base after, ReceiptStep sha256 plan before (.identical who base) after →
        after.store = before.store ∧ ∃ ownerId, HoldsPlanned sha256 plan ownerId base)
    ∧ ∀ who mode, last.calls who = .returned mode → ∃ front transaction middle ownerId store back,
        events = front ++ transaction :: (middle ++ .readback who ownerId store :: back)
          ∧ OwnTransaction who transaction ∧ HoldsPlanned sha256 plan ownerId store := by
  have committed : ∀ who base receipt ledger front back,
      events = front ++ .created who base receipt ledger :: back → ∃ after version,
        Creates sha256 plan base receipt ledger
          ∧ Run (ReceiptStep sha256 plan) first (front ++ [.created who base receipt ledger]) after
          ∧ after.store.receipt = some receipt ∧ after.store.ledger = some (ledger, version)
          ∧ Run (ReceiptStep sha256 plan) after back last := by
    rintro who base receipt ledger front back rfl
    obtain ⟨before, after, earlier, taken, rest⟩ := run.split
    obtain ⟨sameStore, creates, stored, version, patched⟩ := created_step taken
    exact ⟨after, version, sameStore ▸ creates, .next earlier taken, stored, patched, rest⟩
  refine ⟨fun receipt stored => ?_, fun who base receipt ledger member => ?_,
    fun before event after receipt taken stored => receipt_kept taken stored,
    fun before who base after taken => identical_step taken, fun who mode returned => ?_⟩
  · obtain ⟨who, base, ledger, member, -⟩ := created_of_stored fresh run stored
    obtain ⟨front, back, split⟩ := List.append_of_mem member
    obtain ⟨after, version, creates, earlier, receiptThere, ledgerThere, -⟩ :=
      committed who base receipt ledger front back split
    exact ⟨front, who, base, ledger, back, after, version, split, creates, earlier, receiptThere,
      ledgerThere⟩
  · obtain ⟨front, back, split⟩ := List.append_of_mem member
    obtain ⟨after, version, creates, -, receiptThere, -, rest⟩ :=
      committed who base receipt ledger front back split
    exact ⟨creates, receipt_kept_run rest receiptThere⟩
  · have behind := behind_run idle run who
    rw [returned] at behind
    exact behind

end Plan
/-! ## A first call -/

def firstStore : ReceiptStore :=
  { owner := some ⟨[("owner_id", .str "o")]⟩, ledger := some (ledgerOn "2026-09-12T14Z", firstVersion)
    receipt := none }

/-- The first transaction of the plan and what it stages. -/
def firstStage : Except ReceiptError (WriteMode × Bool) := do
  let plan ← firstPlan
  let (patch, payload) ← validatePlan constantHash plan
  let (mode, writes) ← stage constantHash plan patch payload "o" firstVersion firstStore
  return (mode, writes.isSome)

theorem firstStage_creates : firstStage.toOption = some (.created, true) := by
  obtain ⟨plan, success⟩ := ReceiptPlans.built_of_isSome ReceiptPlans.builds_mapped
  obtain ⟨material, same, built⟩ := ReceiptPlans.built_ok success
  have valid := (ReceiptPlans.validatePlan_eq _ _).mpr (ReceiptPlans.checkPlan_built
    ReceiptPlans.hexDigests_constant ReceiptPlans.native_mapped built ⟨_, ⟨[("BNB", .none)]⟩, rfl, rfl⟩)
  have sorted : Value.canonDict material.payload = material.payload := by
    rw [← Value.dict.inj same]
    rfl
  obtain ⟨receipt, staged⟩ := @ReceiptPlans.stage_built constantHash _ "o" _ _ _ _ _ _ firstStore success rfl rfl rfl
    rfl rfl
  have planned : firstPlan = .ok plan := success
  rw [firstStage, bind_of planned, bind_of valid]
  dsimp only
  rw [sorted, ← Value.dict.inj same, bind_of staged]
  rfl

def firstSystem : ReceiptSystem := { store := firstStore, calls := fun _ => .idle }

theorem first_call_creates : ∃ plan receipt ledger last,
    Run (ReceiptStep constantHash plan) firstSystem
      ([.quiet] ++ [.created 0 firstStore receipt ledger]) last
      ∧ last.store.receipt = some receipt := by
  have success : firstStage = .ok (.created, true) := by
    have evaluated := firstStage_creates
    cases outcome : firstStage with
    | error raised =>
      rw [outcome] at evaluated
      cases evaluated
    | ok found =>
      rw [outcome] at evaluated
      exact congrArg Except.ok (Option.some.inj evaluated)
  obtain ⟨plan, -, success⟩ := bind_ok success
  obtain ⟨⟨patch, payload⟩, valid, success⟩ := bind_ok success
  obtain ⟨⟨mode, writes⟩, staged, success⟩ := bind_ok success
  simp only [pure, Except.pure, Except.ok.injEq, Prod.mk.injEq] at success
  obtain ⟨rfl, isSome⟩ := success
  obtain ⟨⟨receipt, ledger⟩, rfl⟩ := Option.isSome_iff_exists.mp isSome
  have begun : Run (ReceiptStep constantHash plan) firstSystem ([] ++ [.quiet])
      (firstSystem.setCall 0 (.validated "o" firstVersion)) :=
    .next .start (.begin rfl (by decide) valid)
  exact ⟨plan, receipt, ledger, _, .next begun (@ReceiptStep.created constantHash plan _ 0 "o"
    firstVersion firstVersion patch payload receipt ledger .raised rfl valid staged (.inr rfl)), rfl⟩

/-- A call that never learns that its transaction committed. -/
theorem receipt_and_patch_are_one_first : ∃ plan receipt ledger last,
    Run (ReceiptStep constantHash plan) firstSystem
      ([.quiet] ++ [.created 0 firstStore receipt ledger]) last
      ∧ Creates constantHash plan firstStore receipt ledger
      ∧ last.store.receipt = some receipt := by
  obtain ⟨plan, receipt, ledger, last, run, -⟩ := first_call_creates
  have one := (receipt_and_patch_are_one (fun _ => rfl) rfl run).2.1 0 firstStore receipt ledger
    (List.mem_append_right _ List.mem_cons_self)
  exact ⟨plan, receipt, ledger, last, run, one.1, one.2⟩

end BinancePlatform.Guarantees.ReceiptUnit
