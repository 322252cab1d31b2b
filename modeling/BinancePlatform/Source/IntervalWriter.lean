import BinancePlatform.Source.IntervalReader
import BinancePlatform.Source.JsonReader
import BinancePlatform.Source.Equality
import BinancePlatform.Library.Runs

/-!
# Writing an interval receipt

`build_interval_receipt_plan` and `persist_interval_source_receipt` of
`application/interval_source_receipt_candidate.py`. One transaction creates the
receipt and patches the ledger, a second one reads both back. The documents are
those of one backend; the identity checks of the client objects are left out.
-/

set_option autoImplicit false

namespace BinancePlatform.Source
open BinancePlatform.Library

/-! ## Versions -/

/-- A Firestore update time, in nanoseconds; `%Y` has four digits from year 1000 on. -/
structure UpdateTime where
  nanos : ℤ
  lower : -30610224000000000000 ≤ nanos
  upper : nanos < 253402300800000000000

def UpdateTime.instant (t : UpdateTime) : Instant := t.nanos / 1000

/-- `_version`. -/
def UpdateTime.version (t : UpdateTime) : String :=
  let seconds := ((t.instant % DateTime.dayMicros) / 1000000).toNat
  String.ofList (DateTime.dateText (DateTime.dateOf t.instant) ++ 'T' ::
    DateTime.padded 2 (seconds / 3600) ++ ':' :: DateTime.padded 2 (seconds / 60 % 60) ++ ':' ::
    DateTime.padded 2 (seconds % 60) ++ '.' :: DateTime.padded 9 (t.nanos % 1000000000).toNat ++ ['Z'])

/-! ## The plan -/

structure IntervalReceiptPlan where
  ledgerPath : String
  receiptPath : String
  sourceLedgerVersion : String
  ledgerBeforeSha256 : String
  ledgerAfterSha256 : String
  payloadSha256 : String
  patchJson : List Char
  receiptJson : List Char
  deriving DecidableEq

def planInvalid : ReceiptError := .blocked "interval_receipt_plan_invalid"
def transitionInvalid : ReceiptError := .blocked "interval_receipt_transition_invalid"

/-- `value[key]`, where the caller turns the exception into its own. -/
def fieldOr (raised : ReceiptError) (value : Value) (key : String) : Except ReceiptError Value :=
  match item value key with
  | .ok found => .ok found
  | .error _ => .error raised

def loadsMapping (raised : ReceiptError) (text : List Char) : Except ReceiptError Document :=
  match jsonLoads text with
  | .ok (.dict d) => .ok d
  | _ => .error raised

/-- `{asset: "0" for asset in assets}`. -/
def zeroChanges (assets : Document) : Value := .dict ⟨assets.keys.map fun asset => (asset, .str "0")⟩

/-- `{key: new[key] for key in _PATCH_FIELDS}`. -/
def patchOf (next : Document) : Document := ⟨patchFields.map fun key => (key, pyGet next key)⟩

section Digests
variable (sha256 : List Char → String)

/-- `_receipt_material`. -/
def receiptMaterial (ledgerPath sourceVersion beforeDigest afterDigest : String)
    (patch payload : Document) : Except ReceiptError Value := do
  let material ← payloadMaterial sha256 (.dict payload)
  let payloadDigest ← receiptDigest sha256 (.dict payload)
  let patchDigest ← receiptDigest sha256 (.dict patch)
  return .dict ⟨[("schema_version", .str receiptSchema),
    ("interval_id_sha256", .str material.logicalId), ("payload_sha256", .str payloadDigest),
    ("source", .dict ⟨[("ledger_path", .str ledgerPath), ("ledger_before_version", .str sourceVersion),
      ("ledger_before_sha256", .str beforeDigest), ("ledger_after_sha256", .str afterDigest),
      ("patch_sha256", .str patchDigest)]⟩),
    ("interval", .dict payload)]⟩

/-- The body of `_validate_plan`: the patch and the payload. -/
def checkPlan (plan : IntervalReceiptPlan) : Except ReceiptError (Document × Document) := do
  require (validPath plan.ledgerPath) planInvalid
  let patch ← loadsMapping planInvalid plan.patchJson
  let receipt ← loadsMapping planInvalid plan.receiptJson
  require (sameKeySet patch.keys patchFields) planInvalid
  let patchText ← receiptJson (.dict patch)
  require (patchText = plan.patchJson) planInvalid
  require (isVersion (.str plan.sourceLedgerVersion) && isHexDigest (.str plan.ledgerBeforeSha256)
    && isHexDigest (.str plan.ledgerAfterSha256) && isHexDigest (.str plan.payloadSha256)) planInvalid
  let _ ← receiptTime (.str (String.ofList (plan.sourceLedgerVersion.toList.take 19 ++ ['Z'])))
  let interval ← fieldOr planInvalid (.dict receipt) "interval"
  let material ← payloadMaterial sha256 interval
  let checkpoint ← fieldOr planInvalid (.dict patch) "earn_accrual_checkpoint"
  let assets ← receiptMapping planInvalid (← fieldOr planInvalid checkpoint "assets")
  let scope ← fieldOr planInvalid checkpoint "account_scope_sha256"
  require (scope.equals (pyGet material.payload "account_scope_sha256")) planInvalid
  require (isFalse (← fieldOr planInvalid checkpoint "execution_authority_granted")) planInvalid
  let observed ← receiptTime (← fieldOr planInvalid checkpoint "observed_at")
  let cursor ← fieldOr planInvalid (.dict patch) "external_cash_flow_cursor"
  let cursorAt ← receiptTime (← fieldOr planInvalid cursor "observed_at")
  require (observed = material.finish && cursorAt = material.finish) planInvalid
  require (!assets.items.isEmpty
    && (pyGet patch "earn_accounted_net_changes").equals (zeroChanges assets)) planInvalid
  require (plan.receiptPath = receiptPath plan.ledgerPath material.logicalId) planInvalid
  let payloadDigest ← receiptDigest sha256 (.dict material.payload)
  require (payloadDigest = plan.payloadSha256) planInvalid
  let expected ← receiptMaterial sha256 plan.ledgerPath plan.sourceLedgerVersion
    plan.ledgerBeforeSha256 plan.ledgerAfterSha256 patch material.payload
  let expectedText ← receiptJson expected
  require (expectedText = plan.receiptJson) planInvalid
  return (patch, material.payload)

/-- `_validate_plan`. -/
def validatePlan (plan : IntervalReceiptPlan) : Except ReceiptError (Document × Document) :=
  match checkPlan sha256 plan with
  | .ok material => .ok material
  | .error _ => .error planInvalid

/-- The key is missing on one side, or its two values are written differently. -/
def changedField (old new : Document) (key : String) : Except ReceiptError Bool :=
  match old.get? key, new.get? key with
  | some before, some after => do
    let beforeText ← receiptJson before
    let afterText ← receiptJson after
    return decide (beforeText ≠ afterText)
  | _, _ => .ok true

/-- `set(value)` where it can equal a set of texts. -/
def elementTexts : Value → Except ReceiptError (List String)
  | .dict d => .ok d.keys
  | .list items => items.mapM fun
    | .str s => .ok s
    | _ => .error transitionInvalid
  | .str s => .ok (s.toList.map fun c => String.ofList [c])
  | _ => .error transitionInvalid

/-- The checkpoint and cursor conditions of the transition, and the changed fields. -/
def checkTransition (scope : Value) (start finish : Instant) (old new : Document) :
    Except ReceiptError Unit := do
  let before ← fieldOr transitionInvalid (.dict old) "earn_accrual_checkpoint"
  let after ← fieldOr transitionInvalid (.dict new) "earn_accrual_checkpoint"
  require ((← fieldOr transitionInvalid before "account_scope_sha256").equals scope) transitionInvalid
  require ((← fieldOr transitionInvalid after "account_scope_sha256").equals scope) transitionInvalid
  require (isFalse (← fieldOr transitionInvalid before "execution_authority_granted")) transitionInvalid
  require (isFalse (← fieldOr transitionInvalid after "execution_authority_granted")) transitionInvalid
  require ((← receiptTime (← fieldOr transitionInvalid before "observed_at")) = start) transitionInvalid
  require ((← receiptTime (← fieldOr transitionInvalid after "observed_at")) = finish) transitionInvalid
  let oldCursor ← fieldOr transitionInvalid (.dict old) "external_cash_flow_cursor"
  require ((← receiptTime (← fieldOr transitionInvalid oldCursor "observed_at")) = start) transitionInvalid
  let newCursor ← fieldOr transitionInvalid (.dict new) "external_cash_flow_cursor"
  require ((← receiptTime (← fieldOr transitionInvalid newCursor "observed_at")) = finish) transitionInvalid
  let assets ← receiptMapping transitionInvalid (← fieldOr transitionInvalid before "assets")
  require (!assets.items.isEmpty) transitionInvalid
  let afterAssets ← fieldOr transitionInvalid after "assets"
  require (sameKeySet assets.keys (← elementTexts afterAssets)) transitionInvalid
  require ((← fieldOr transitionInvalid (.dict new) "earn_accounted_net_changes").equals
    (zeroChanges assets)) transitionInvalid
  let submission ← fieldOr transitionInvalid (.dict old) "order_submission"
  let status ← fieldOr transitionInvalid submission "state"
  require (status.isStr "RESERVED" || status.isStr "TERMINAL") transitionInvalid
  let changed ← (old.keys ++ new.keys).filterM (changedField old new)
  require (changed.all (· ∈ patchFields) && patchFields.all new.contains) transitionInvalid

/-- Every failure of the transition block is one error. -/
def requireTransition (scope : Value) (start finish : Instant) (old new : Document) :
    Except ReceiptError Unit :=
  match checkTransition scope start finish old new with
  | .ok () => .ok ()
  | .error _ => .error transitionInvalid

/-- `build_interval_receipt_plan`. -/
def buildIntervalReceiptPlan (ledgerPath : String) (updateTime : UpdateTime) (old new : Document)
    (interval : Value) : Except ReceiptError IntervalReceiptPlan := do
  require (validPath ledgerPath) (.blocked "interval_receipt_reference_invalid")
  let material ← payloadMaterial sha256 interval
  requireTransition (pyGet material.payload "account_scope_sha256") material.start material.finish old new
  let patch := patchOf new
  require ((← receiptJson (.dict (old.update patch))) = (← receiptJson (.dict new))) transitionInvalid
  let beforeDigest ← receiptDigest sha256 (.dict old)
  let afterDigest ← receiptDigest sha256 (.dict new)
  let payloadDigest ← receiptDigest sha256 (.dict material.payload)
  let receipt ← receiptMaterial sha256 ledgerPath updateTime.version beforeDigest afterDigest patch
    material.payload
  let patchText ← receiptJson (.dict patch)
  let receiptText ← receiptJson receipt
  return { ledgerPath, receiptPath := receiptPath ledgerPath material.logicalId,
           sourceLedgerVersion := updateTime.version, ledgerBeforeSha256 := beforeDigest,
           ledgerAfterSha256 := afterDigest, payloadSha256 := payloadDigest,
           patchJson := patchText, receiptJson := receiptText }

/-! ## The two transactions -/

/-- The three documents, the receipt at the plan's path. -/
structure ReceiptStore where
  owner : Option Document
  ledger : Option (Document × UpdateTime)
  receipt : Option Document

/-- `_read`: the ledger and the receipt of an owned store. -/
def readOwned (ownerId : String) (store : ReceiptStore) :
    Except ReceiptError (Document × UpdateTime) :=
  match store.owner, store.ledger with
  | some owner, some ledger =>
    if (pyGet owner "owner_id").isStr ownerId then .ok ledger
    else .error (.blocked "interval_receipt_owner_or_ledger_changed")
  | _, _ => .error (.blocked "interval_receipt_owner_or_ledger_changed")

inductive WriteMode where
  | created
  | identical
  deriving DecidableEq, Repr

/-- What a staged transaction writes: the receipt and the patched ledger, or nothing. -/
abbrev StagedWrites := Option (Document × Document)

/-- `stage`: `transaction.update` replaces the named fields. -/
def stage (plan : IntervalReceiptPlan) (patch payload : Document) (ownerId : String)
    (expected : UpdateTime) (store : ReceiptStore) :
    Except ReceiptError (WriteMode × StagedWrites) := do
  let (ledger, version) ← readOwned ownerId store
  require (version.version = expected.version) (.blocked "interval_receipt_ledger_version_changed")
  match store.receipt with
  | some receipt => do
    require ((← receiptJson (.dict receipt)) = plan.receiptJson)
      (.conflict "interval_receipt_existing_conflict")
    require ((← receiptDigest sha256 (.dict ledger)) = plan.ledgerAfterSha256)
      (.blocked "interval_receipt_replay_poststate_unverified")
    require (patchFields.all ledger.contains) (.uncertain "interval_receipt_commit_uncertain")
    require ((← receiptJson (.dict (patchOf ledger))) = plan.patchJson)
      (.blocked "interval_receipt_replay_patch_unverified")
    return (.identical, none)
  | none => do
    require (expected.version = plan.sourceLedgerVersion)
      (.blocked "interval_receipt_ledger_source_changed")
    require ((← receiptDigest sha256 (.dict ledger)) = plan.ledgerBeforeSha256)
      (.blocked "interval_receipt_ledger_source_changed")
    let regenerated ← buildIntervalReceiptPlan sha256 plan.ledgerPath version ledger
      (ledger.update patch) (.dict payload)
    require (regenerated = plan) (.blocked "interval_receipt_plan_source_mismatch")
    let receipt ← loadsMapping (.uncertain "interval_receipt_commit_uncertain") plan.receiptJson
    return (.created, some (receipt, ledger.update patch))

/-- `readback`. -/
def readback (plan : IntervalReceiptPlan) (ownerId : String) (store : ReceiptStore) :
    Except ReceiptError Unit := do
  let (ledger, _) ← readOwned ownerId store
  match store.receipt with
  | some receipt =>
    require ((← receiptJson (.dict receipt)) = plan.receiptJson
        && (← receiptDigest sha256 (.dict ledger)) = plan.ledgerAfterSha256)
      (.blocked "interval_receipt_readback_mismatch")
  | none => .error (.blocked "interval_receipt_readback_mismatch")

/-! ## Calls among other writers -/

/-- Where one call of `persist_interval_source_receipt` stands. -/
inductive PersistCall where
  | idle
  | validated (ownerId : String) (expected : UpdateTime)
  | staged (ownerId : String) (mode : WriteMode)
  | returned (mode : WriteMode)
  | raised

structure ReceiptSystem where
  store : ReceiptStore
  calls : ℕ → PersistCall

def ReceiptSystem.setCall (system : ReceiptSystem) (who : ℕ) (call : PersistCall) : ReceiptSystem :=
  { system with calls := fun other => if other = who then call else system.calls other }

inductive ReceiptEvent where
  | created (who : ℕ) (base : ReceiptStore) (receipt ledger : Document)
  | identical (who : ℕ) (base : ReceiptStore)
  | readback (who : ℕ) (ownerId : String) (base : ReceiptStore)
  | quiet

/-- `not owner_id or owner_id != owner_id.strip()` is refused. -/
def validOwnerId (ownerId : String) : Bool := ownerId ≠ "" && ownerId = strip ownerId

/-- A transaction is one step. Its commit may stay unknown to the caller, who then
raises; any call may also stop without having written. -/
inductive ReceiptStep (plan : IntervalReceiptPlan) : ReceiptSystem → ReceiptEvent → ReceiptSystem → Prop where
  | begin {system : ReceiptSystem} {who : ℕ} {ownerId : String} {expected : UpdateTime}
      {material : Document × Document} (idle : system.calls who = .idle)
      (owner : validOwnerId ownerId = true) (valid : validatePlan sha256 plan = .ok material) :
      ReceiptStep plan system .quiet (system.setCall who (.validated ownerId expected))
  | created {system : ReceiptSystem} {who : ℕ} {ownerId : String} {expected version : UpdateTime}
      {patch payload receipt ledger : Document} (outcome : PersistCall)
      (ready : system.calls who = .validated ownerId expected)
      (valid : validatePlan sha256 plan = .ok (patch, payload))
      (staged : stage sha256 plan patch payload ownerId expected system.store
        = .ok (.created, some (receipt, ledger)))
      (known : outcome = .staged ownerId .created ∨ outcome = .raised) :
      ReceiptStep plan system (.created who system.store receipt ledger)
        ({ system with store := { system.store with ledger := some (ledger, version)
                                                    receipt := some receipt } }.setCall who outcome)
  | identical {system : ReceiptSystem} {who : ℕ} {ownerId : String} {expected : UpdateTime}
      {patch payload : Document} (ready : system.calls who = .validated ownerId expected)
      (valid : validatePlan sha256 plan = .ok (patch, payload))
      (staged : stage sha256 plan patch payload ownerId expected system.store = .ok (.identical, none)) :
      ReceiptStep plan system (.identical who system.store)
        (system.setCall who (.staged ownerId .identical))
  | readback {system : ReceiptSystem} {who : ℕ} {ownerId : String} {mode : WriteMode}
      (ready : system.calls who = .staged ownerId mode)
      (verified : readback sha256 plan ownerId system.store = .ok ()) :
      ReceiptStep plan system (.readback who ownerId system.store) (system.setCall who (.returned mode))
  | raised {system : ReceiptSystem} {who : ℕ} :
      ReceiptStep plan system .quiet (system.setCall who .raised)
  | owner {system : ReceiptSystem} (value : Option Document) :
      ReceiptStep plan system .quiet { system with store := { system.store with owner := value } }
  | ledger {system : ReceiptSystem} (value : Option (Document × UpdateTime)) :
      ReceiptStep plan system .quiet { system with store := { system.store with ledger := value } }

end Digests
end BinancePlatform.Source
