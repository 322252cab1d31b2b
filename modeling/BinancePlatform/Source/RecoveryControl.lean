import BinancePlatform.Source.Equality
import BinancePlatform.Library.Runs

/-!
# The recovery controller

`compare_and_set_control`, `compare_and_set_post_rebase_control` and the reads
around them in `run` of `binance_recovery_controller.py`, with the four documents
as other programs change them. A read and a transaction are one step each; a
transaction whose commit outcome the client does not learn has committed or not.
The validators, the console and the broker are the environment: a check that
fails stops the controller, and a candidate is what the validators return.
-/

set_option autoImplicit false

namespace BinancePlatform.Source
open BinancePlatform.Library

structure RecoveryStore where
  control : Option Document
  owner : Option Document
  ledger : Option Document
  archives : Dict String Document

def archiveDocument : String := "MULTI_ASSET_STATE__before_rebase_34601984051"
def prospectiveArchiveDocument : String := "MULTI_ASSET_STATE__before_rebase_34690028846"
def prospectiveArchivePrefix : String := "MULTI_ASSET_STATE__before_rebase_"

/-- `^[1-9][0-9]{0,19}$`. -/
def isProposalRunId (text : List Char) : Bool :=
  match text with
  | first :: rest => '1' ≤ first && first ≤ '9' && rest.all Char.isDigit && rest.length ≤ 19
  | [] => false

def isProspectiveArchiveDocument : Value → Bool
  | .str name =>
    if name = archiveDocument then false
    else if name = prospectiveArchiveDocument then true
    else prospectiveArchivePrefix.toList.isPrefixOf name.toList
      && isProposalRunId (name.toList.drop prospectiveArchivePrefix.toList.length)
  | _ => false

/-- The archive the ledger names when it is a prospective one, else the approved one. -/
def archiveDocumentOf (ledger : Document) : String :=
  match pyGet ledger "accounting_rebase" with
  | .dict marker =>
    match pyGet marker "archive_document" with
    | .str name => if isProspectiveArchiveDocument (.str name) then name else archiveDocument
    | _ => archiveDocument
  | _ => archiveDocument

/-- `actual == previous` of two optional documents. -/
def sameControl : Option Document → Option Document → Bool
  | none, none => true
  | some actual, some previous => Value.equalsDict actual previous
  | _, _ => false

def isReconcileOnly (control : Document) : Bool := (pyGet control "state").isStr "RECONCILE_ONLY"
def isActiveLkg (control : Document) : Bool := (pyGet control "state").isStr "ACTIVE_LKG"

/-- Neither function replaces a control in another state. -/
def replaceable (actual : Option Document) : Bool := actual.all isReconcileOnly

/-- A control write that a controller has decided on; on the rebase path with the
archive and its digest. -/
structure ControlWrite where
  previous : Option Document
  nextValue : Document
  ledgerSha256 : String
  archive : Option (String × String)

section Transactions
variable (digest : Document → String)

def hasDigest (stored : Option Document) (sha256 : String) : Bool :=
  stored.any fun document => digest document = sha256

def compareAndSetControl (store : RecoveryStore) (previous : Option Document) (nextValue : Document)
    (ledgerSha256 : String) : Except PyException RecoveryStore := do
  require (store.owner.isNone && hasDigest digest store.ledger ledgerSha256
      && sameControl store.control previous && replaceable store.control)
    (valueError "recovery_atomic_precondition_changed")
  return { store with control := some nextValue }

def compareAndSetPostRebaseControl (store : RecoveryStore) (archiveName : String)
    (previous : Option Document) (nextValue : Document) (ledgerSha256 archiveSha256 : String) :
    Except PyException RecoveryStore := do
  require (store.owner.isNone && hasDigest digest store.ledger ledgerSha256
      && hasDigest digest (store.archives.get? archiveName) archiveSha256
      && sameControl store.control previous && replaceable store.control)
    (valueError "post_rebase_atomic_precondition_changed")
  return { store with control := some nextValue }

/-- The transaction of `_save_control` or of `save_post_rebase_control`. -/
def saveControl (store : RecoveryStore) (write : ControlWrite) : Except PyException RecoveryStore :=
  match write.archive with
  | none => compareAndSetControl digest store write.previous write.nextValue write.ledgerSha256
  | some (archiveName, archiveSha256) =>
    compareAndSetPostRebaseControl digest store archiveName write.previous write.nextValue
      write.ledgerSha256 archiveSha256

/-! ## What `run` decides -/

inductive Action where
  | prepare
  | activate (recoveryId : String)

/-- `{"state": "RECONCILE_ONLY", "recovery_id": …, **package}`. -/
def prepareValue (recoveryId : String) (candidate source : Value) : Document :=
  ⟨[("state", .str "RECONCILE_ONLY"), ("recovery_id", .str recoveryId), ("candidate", candidate),
    ("source", source)]⟩

/-- The request names the control that was read. -/
def requestMatches (previous : Document) (recoveryId : String) : Bool :=
  (pyGet previous "recovery_id").isStr recoveryId && isReconcileOnly previous

def sourceField (previous : Document) (name : String) : Value :=
  match pyGet previous "source" with
  | .dict source => pyGet source name
  | _ => .none

def isPostRebaseSource (previous : Document) : Bool :=
  ["post_rebase", "prospective_rebase", "historical_continuity"].any
    (sourceField previous "kind").isStr

/-- `{**previous, "state": "ACTIVE_LKG", "transition_plan": …, "confirmation": …}`. -/
def activateValue (previous : Document) (transitionPlan confirmation : Value) : Document :=
  ((previous.set "state" (.str "ACTIVE_LKG")).set "transition_plan" transitionPlan).set
    "confirmation" confirmation

/-- The archive is the one the source was collected from. -/
def archiveBound (previous archive : Document) : Bool :=
  (sourceField previous "archive_sha256").isStr (digest archive)

/-! ## Controllers among other writers -/

/-- Where a controller stands, with what it has read. -/
inductive Controller where
  | idle
  | controlRead (action : Action) (previous : Option Document)
  | ledgerRead (action : Action) (previous : Option Document) (ledger : Document)
  | ownerAbsent (action : Action) (previous : Option Document) (ledger : Document)
  | started (action : Action) (previous : Option Document) (archiveName : String)
      (archive : Option Document)
  | verified (previous : Document) (ledgerSha256 archiveName : String)
  | reread (previous : Document) (ledgerSha256 archiveName : String)
  | unowned (previous : Document) (ledgerSha256 archiveName : String)
  | writing (write : ControlWrite)
  | stopped

-- `local_execution_ledger_sha256` of `BrokerReconciliationBaselineCandidate.from_dict`
variable (candidateLedgerSha256 : Value → Except PyException String)

/-- One step of a controller between its reads and its transaction. -/
inductive ControllerStep (store : RecoveryStore) : Controller → Controller → Prop where
  | readLedger {action : Action} {previous : Option Document} {ledger : Document}
      (found : store.ledger = some ledger) :
      ControllerStep store (.controlRead action previous) (.ledgerRead action previous ledger)
  | readOwner {action : Action} {previous : Option Document} {ledger : Document}
      (absent : store.owner = none) :
      ControllerStep store (.ledgerRead action previous ledger) (.ownerAbsent action previous ledger)
  | readArchive {action : Action} {previous : Option Document} {ledger : Document} :
      ControllerStep store (.ownerAbsent action previous ledger)
        (.started action previous (archiveDocumentOf ledger)
          (store.archives.get? (archiveDocumentOf ledger)))
  | prepared {previous archive : Option Document} {archiveName recoveryId sha256 : String}
      {candidate source : Value} (replaces : replaceable previous = true)
      (validated : candidateLedgerSha256 candidate = .ok sha256) :
      ControllerStep store (.started .prepare previous archiveName archive)
        (.writing { previous, nextValue := prepareValue recoveryId candidate source
                    ledgerSha256 := sha256
                    archive := archive.map fun document => (archiveName, digest document) })
  | verified {previous : Document} {archive : Option Document} {archiveName recoveryId sha256 : String}
      (requested : requestMatches previous recoveryId = true)
      (validated : candidateLedgerSha256 (pyGet previous "candidate") = .ok sha256)
      (bound : isPostRebaseSource previous = true → archive.any (archiveBound digest previous) = true) :
      ControllerStep store (.started (.activate recoveryId) (some previous) archiveName archive)
        (.verified previous sha256 archiveName)
  | rereadLedger {previous ledger : Document} {sha256 archiveName : String}
      (found : store.ledger = some ledger) :
      ControllerStep store (.verified previous sha256 archiveName) (.reread previous sha256 archiveName)
  | rereadOwner {previous : Document} {sha256 archiveName : String} (absent : store.owner = none) :
      ControllerStep store (.reread previous sha256 archiveName) (.unowned previous sha256 archiveName)
  | activatePlain {previous : Document} {sha256 archiveName : String}
      {transitionPlan confirmation : Value} (plain : isPostRebaseSource previous = false) :
      ControllerStep store (.unowned previous sha256 archiveName)
        (.writing { previous := some previous
                    nextValue := activateValue previous transitionPlan confirmation
                    ledgerSha256 := sha256, archive := none })
  | activateRebased {previous archive : Document} {sha256 archiveName : String}
      {transitionPlan confirmation : Value} (rebased : isPostRebaseSource previous = true)
      (found : store.archives.get? archiveName = some archive)
      (bound : archiveBound digest previous archive = true) :
      ControllerStep store (.unowned previous sha256 archiveName)
        (.writing { previous := some previous
                    nextValue := activateValue previous transitionPlan confirmation
                    ledgerSha256 := sha256, archive := some (archiveName, digest archive) })
  | abandon {controller : Controller} : ControllerStep store controller .stopped

structure RecoverySystem where
  store : RecoveryStore
  controllers : ℕ → Controller

def RecoverySystem.setController (system : RecoverySystem) (who : ℕ) (controller : Controller) :
    RecoverySystem :=
  { system with controllers := fun other => if other = who then controller else system.controllers other }

inductive RecoveryEvent where
  | read (who : ℕ) (previous : Option Document)
  | commit (who : ℕ) (write : ControlWrite) (base : RecoveryStore)
  | otherControl (value : Option Document)
  | quiet

/-- Any controller moves, a controller's transaction commits, or another program
writes one of the documents. -/
inductive RecoveryStep : RecoverySystem → RecoveryEvent → RecoverySystem → Prop where
  | readControl {system : RecoverySystem} {who : ℕ} {action : Action}
      (idle : system.controllers who = .idle) :
      RecoveryStep system (.read who system.store.control)
        (system.setController who (.controlRead action system.store.control))
  | controller {system : RecoverySystem} {who : ℕ} {next : Controller}
      (moves : ControllerStep digest candidateLedgerSha256 system.store (system.controllers who) next) :
      RecoveryStep system .quiet (system.setController who next)
  | commit {system : RecoverySystem} {who : ℕ} {write : ControlWrite} {store : RecoveryStore}
      (decided : system.controllers who = .writing write)
      (committed : saveControl digest system.store write = .ok store) :
      RecoveryStep system (.commit who write system.store)
        ({ system with store }.setController who .stopped)
  | owner {system : RecoverySystem} (value : Option Document) :
      RecoveryStep system .quiet { system with store := { system.store with owner := value } }
  | ledger {system : RecoverySystem} (value : Option Document) :
      RecoveryStep system .quiet { system with store := { system.store with ledger := value } }
  | archives {system : RecoverySystem} (value : Dict String Document) :
      RecoveryStep system .quiet { system with store := { system.store with archives := value } }
  | control {system : RecoverySystem} (value : Option Document) :
      RecoveryStep system (.otherControl value)
        { system with store := { system.store with control := value } }

end Transactions

/-! ## What a committed transaction saw -/

theorem hasDigest_true {digest : Document → String} {stored : Option Document} {sha256 : String}
    (matched : hasDigest digest stored sha256 = true) :
    ∃ document, stored = some document ∧ digest document = sha256 := by
  cases stored with
  | none => cases matched
  | some document => exact ⟨document, rfl, of_decide_eq_true matched⟩

/-- The reads of a transaction that wrote the control. -/
structure SawPreconditions (digest : Document → String) (base : RecoveryStore) (write : ControlWrite) :
    Prop where
  unowned : base.owner = none
  ledger : ∃ ledger, base.ledger = some ledger ∧ digest ledger = write.ledgerSha256
  archive : ∀ name sha256, write.archive = some (name, sha256) →
    ∃ archive, base.archives.get? name = some archive ∧ digest archive = sha256
  control : sameControl base.control write.previous = true
  replaceable : replaceable base.control = true

theorem saveControl_ok {digest : Document → String} {store next : RecoveryStore}
    {write : ControlWrite} (success : saveControl digest store write = .ok next) :
    SawPreconditions digest store write ∧ next = { store with control := some write.nextValue } := by
  unfold saveControl at success
  split at success
  case h_1 plain =>
    obtain ⟨passed, success⟩ := require_bind success
    simp only [Bool.and_eq_true, Option.isNone_iff_eq_none] at passed
    obtain ⟨⟨⟨unowned, ledger⟩, control⟩, replaces⟩ := passed
    refine ⟨⟨unowned, hasDigest_true ledger, ?_, control, replaces⟩, (Except.ok.inj success).symm⟩
    intro name sha256 rebased
    rw [plain] at rebased
    cases rebased
  case h_2 archiveName archiveSha256 rebased =>
    obtain ⟨passed, success⟩ := require_bind success
    simp only [Bool.and_eq_true, Option.isNone_iff_eq_none] at passed
    obtain ⟨⟨⟨⟨unowned, ledger⟩, archive⟩, control⟩, replaces⟩ := passed
    refine ⟨⟨unowned, hasDigest_true ledger, ?_, control, replaces⟩, (Except.ok.inj success).symm⟩
    intro name sha256 named
    rw [rebased] at named
    cases named
    exact hasDigest_true archive

end BinancePlatform.Source
