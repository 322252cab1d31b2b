import BinancePlatform.Source.EarnAccrual
import BinancePlatform.Source.OrderSubmission
import BinancePlatform.Source.RecoveryControl

/-!
# The prospective accounting migration

The writer, `scripts/migrate_daily_accounting_state.py`: the gate of an approved
proposal, the preflight and the one transaction that archives the ledger and patches
it. The readers, `application/rebased_recovery.py`: `prospective_migration_binding`
and `validate_prospective_rebase_material`. `digest` is the SHA-256 of a canonical
document, a function of the shared platform kit; what the broker and the recovery
package show in the preflight is given.
-/

set_option autoImplicit false

namespace BinancePlatform.Source
open BinancePlatform.Library

/-! ## The approval -/

def proposalInvalid : PyException := valueError "proposal_run_id_invalid"
def approvalMismatch : PyException := valueError "prospective_approval_mismatch"

def approvedProspectiveSha256 : String :=
  "cad5cd02ebc554835492cc99f78b0639656a4261617dc8492fbc65c16f1d56a2"
def prospectiveApprovedProposalRunId : String := "34690028846"
def prospectiveLedgerSha256 : String :=
  "8c02ec9b5aa716edbffed7e98eb67bbdbf2b951d09588652478564d5e82c63b1"
def prospectiveArchiveSha256 : String :=
  "375a38c47bf47e64ae16f6a7ba0ea6e97a70ec48d9a361264ce9ea27693fcce5"

/-- `_PROSPECTIVE_PROPOSED_FIELD_KEYS`. -/
def proposedFieldKeys : List String :=
  ["daily_trend_pnl_basis", "daily_trend_cash_flow_usdt", "daily_trend_net_invested_usdt",
   "daily_trend_risk_base_usdt", "daily_trend_third_fee_usdt", "last_balance_snapshot",
   "daily_equity_base", "daily_trend_equity_base", "last_reset_date", "earn_accrual_checkpoint",
   "earn_accounted_net_changes", "external_cash_flow_cursor"]

/-- A text that `re.fullmatch` finds to be `length` lower-case hexadecimal digits. -/
def isHexText (length : ℕ) : Value → Bool
  | .str s => fullMatch lowerHex length length s
  | _ => false

section Approval
variable [CharacterTable]

/-- `_proposal_run_id`. -/
def proposalRunId (raw : Value) : Except PyException String :=
  let text := strip (if raw.truthy then raw.toStr else "")
  if isProposalRunId text.toList then .ok text else .error proposalInvalid

/-- `prospective_archive_document`. -/
def prospectiveArchiveDocumentFor (raw : Value) : Except PyException String := do
  let runId ← proposalRunId raw
  return prospectiveArchivePrefix ++ runId

variable (digest : Document → String)

/-- `_validate_prospective_approval`: the approval and its proposed fields. -/
def validateProspectiveApproval (value : Value) : Except PyException (Document × Document) := do
  let approved ← asMapping approvalMismatch value
  require (digest approved ≠ approvedProspectiveSha256) approvalMismatch
  let runId ← (proposalRunId (pyGet approved "proposal_run_id")).mapError fun _ => approvalMismatch
  require (isTrue (pyGet approved "historical_difference_unresolved")
    && (pyGet approved "opening_mode").isStr "prospective"
    && isFalse (pyGet approved "executable_candidate")
    && isHexText 40 (pyGet approved "source_sha")
    && isHexText 64 (pyGet approved "ledger_sha256")
    && isHexText 64 (pyGet approved "control_sha256")) approvalMismatch
  require (match pyGet approved "ledger_update_time" with
    | .str s => s ≠ ""
    | _ => false) approvalMismatch
  let proposed ← asMapping approvalMismatch (pyGet approved "proposed_fields")
  require (sameKeySet proposed.keys proposedFieldKeys) approvalMismatch
  let archive ← prospectiveArchiveDocumentFor (.str runId)
  require ((pyGet approved "archive_document").isStr archive) approvalMismatch
  let checkpoint ← asMapping approvalMismatch (pyGet proposed "earn_accrual_checkpoint")
  let assets ← asMapping approvalMismatch (pyGet checkpoint "assets")
  require (!assets.items.isEmpty) approvalMismatch
  let nets ← asMapping approvalMismatch (pyGet proposed "earn_accounted_net_changes")
  require (sameKeySet nets.keys assets.keys && nets.items.all fun e => e.2.isStr "0") approvalMismatch
  let _ ← asMapping approvalMismatch (pyGet proposed "external_cash_flow_cursor")
  return (approved, proposed)

end Approval

/-! ## The store -/

/-- The documents of the migration; the update time is the text `_timestamp` makes of it. -/
structure MigrationStore where
  owner : Option Document
  ledger : Option (Document × String)
  control : Option Document
  archives : Dict String Document

def unsafeOrderState : PyException := valueError "unsafe_order_state"
def controlNotReconcileOnly : PyException := valueError "recovery_control_not_reconcile_only"
def sourceChanged : PyException := valueError "prospective_source_changed"
def openingChanged : PyException := valueError "prospective_opening_identity_or_time_changed"
def continuityUnverified : PyException := valueError "prospective_continuity_unverified"
def preconditionChanged : PyException := valueError "prospective_atomic_precondition_changed"
def numericEvidenceInvalid : PyException := valueError "numeric_evidence_invalid"

section Checks
variable [CharacterTable]

/-- `_validate_safe_order_state`. -/
def validateSafeOrderState (ledger : Document) : Except PyException Unit := do
  let record ← asMapping unsafeOrderState (pyGet ledger "order_submission")
  require (hasExactly record ["state"]) unsafeOrderState
  let status := pyGet record "state"
  let text := if status.truthy then status.toStr else ""
  require (text = orderSubmissionReserved || text = orderSubmissionTerminal) unsafeOrderState

end Checks

/-- `_validate_control`. -/
def validateControl : Option Document → Except PyException Unit
  | none => .ok ()
  | some control => require (isReconcileOnly control) controlNotReconcileOnly

/-- `_finite`. -/
def finiteNumber (value : Value) : Except PyException PyFloat :=
  match value.toFloat with
  | .ok (.finite negative magnitude) =>
    if negative && magnitude ≠ 0 then .error numericEvidenceInvalid else .ok (.finite negative magnitude)
  | .ok _ => .error numericEvidenceInvalid
  | .error raised =>
    if raised.cls = .typeError || raised.cls = .valueError then .error numericEvidenceInvalid
    else .error raised

/-! ## The preflight -/

/-- What the preflight is shown: the approved account scope, the scope proven by the
control, the fresh opening of the broker, the observations since the opening, and the
two readings of the clock. -/
structure PreflightEvidence where
  expectedScope : Value
  controlScope : Document → Except PyException Value
  fresh : Except PyException Document
  observedScope : String
  openOrders : Bool
  recentExecutions : Bool
  now : Instant
  decision : Instant

def migrationTtl : ℤ := 10 * 60 * 1000000

section Preflight
variable [CharacterTable] (digest : Document → String)

/-- The part of the preflight whose every exception blocks: the end of the observation. -/
def verifyContinuity (evidence : PreflightEvidence) (previous fields : Document) (opened : Instant) :
    Except PyException Unit := do
  let fresh ← evidence.fresh
  let finished ← earnTime (← item (.dict fresh) "observation_completed_at")
  let current ← item (.dict fresh) "earn_accrual_checkpoint"
  let nets ← item (.dict fields) "earn_accounted_net_changes"
  let _ ← compareEarnCheckpoints (.dict previous) current nets
  let freshCursor ← item (.dict fresh) "external_cash_flow_cursor"
  let cursor ← item (.dict fields) "external_cash_flow_cursor"
  require ((← item freshCursor "records").equals (← item cursor "records")) continuityUnverified
  require ((pyGet previous "account_scope_sha256").isStr evidence.observedScope
    && !evidence.openOrders && !evidence.recentExecutions) continuityUnverified
  require (finished ≤ evidence.decision && evidence.decision ≤ evidence.now + migrationTtl
    && DateTime.dayOf evidence.decision = DateTime.dayOf opened) continuityUnverified

/-- `_prospective_preflight` over the documents it read: the decision time. -/
def prospectivePreflight (evidence : PreflightEvidence) (approval : Value) (store : MigrationStore) :
    Except PyException Instant := do
  let (approved, fields) ← validateProspectiveApproval digest approval
  match store.owner, store.ledger with
  | none, some (ledger, updateTime) => do
    validateControl store.control
    validateSafeOrderState ledger
    require ((pyGet approved "ledger_sha256").isStr (digest ledger)
      && store.control.any (fun control => (pyGet approved "control_sha256").isStr (digest control))
      && (pyGet approved "ledger_update_time").isStr updateTime) sourceChanged
    let principal ← finiteNumber ((ledger.get? "daily_external_principal_usdt").getD (.int 0))
    require (match principal with
      | .finite _ magnitude => magnitude = 0
      | _ => false) sourceChanged
    let controlScope ← evidence.controlScope (store.control.getD .empty)
    let previous ← asMapping approvalMismatch (pyGet fields "earn_accrual_checkpoint")
    let opened ← earnTime (← item (.dict previous) "observed_at")
    let scope ← item (.dict previous) "account_scope_sha256"
    require (opened < evidence.now && evidence.now ≤ opened + 24 * 3600 * 1000000
      && DateTime.dayOf opened = DateTime.dayOf evidence.now
      && scope.equals evidence.expectedScope && scope.equals controlScope) openingChanged
    (verifyContinuity evidence previous fields opened).mapError fun _ => continuityUnverified
    return evidence.decision
  | _, _ => .error (valueError "ledger_unavailable_or_owned")

/-! ## The transaction -/

/-- What a transaction writes: the archive under its name, and the patched fields. -/
structure MigrationWrite where
  archiveName : String
  patch : Document
  backup : Document

def migrationMarker (archiveName startedAt : String) (observedAt : Value) (runId approvalDigest : String) :
    Document :=
  ⟨[("archive_document", .str archiveName), ("started_at", .str startedAt),
    ("opening_balance_observed_at", observedAt), ("historical_difference_unresolved", .bool true),
    ("approved_proposal_run_id", .str runId), ("approved_proposal_sha256", .str approvalDigest)]⟩

/-- The archived document. -/
def migrationBackup (ledger control approved marker : Document) (updateTime newDigest : String) : Document :=
  (Dict.update ⟨[("ledger", .dict ledger), ("recovery_control", .dict control),
    ("ledger_update_time", .str updateTime)]⟩ marker).setAll [("approved_proposal", .dict approved),
      ("new_ledger_sha256", .str newDigest),
      ("valuation_price_source", .str "binance_get_avg_price_estimate")]

/-- `_prospective_transaction` over the documents of its reads. -/
def prospectiveTransaction (store : MigrationStore) (approval : Value) (startedAt : String) :
    Except PyException MigrationWrite := do
  let (approved, fields) ← validateProspectiveApproval digest approval
  let runId ← proposalRunId (pyGet approved "proposal_run_id")
  let archiveName ← prospectiveArchiveDocumentFor (.str runId)
  match store.owner, store.archives.get? archiveName, store.ledger, store.control with
  | none, none, some (ledger, updateTime), some control => do
    require ((pyGet approved "ledger_sha256").isStr (digest ledger)
      && (pyGet approved "control_sha256").isStr (digest control)
      && (pyGet approved "ledger_update_time").isStr updateTime) preconditionChanged
    validateSafeOrderState ledger
    validateControl (some control)
    let checkpoint ← item (.dict fields) "earn_accrual_checkpoint"
    let observedAt ← item checkpoint "observed_at"
    let marker := migrationMarker archiveName startedAt observedAt runId (digest approved)
    let patch := fields.set "accounting_rebase" (.dict marker)
    return {
      archiveName := archiveName
      patch := patch
      backup := migrationBackup ledger control approved marker updateTime (digest (ledger.update patch)) }
  | _, _, _, _ => .error preconditionChanged

end Preflight

/-- A committed transaction: the archive is created and the named fields are replaced. -/
def MigrationStore.commit (store : MigrationStore) (write : MigrationWrite) (updateTime : String) :
    MigrationStore :=
  { store with
    ledger := store.ledger.map fun ledger => (ledger.1.update write.patch, updateTime)
    archives := store.archives.set write.archiveName write.backup }

/-! ## The readers -/

def archiveInvalid : PyException := valueError "prospective_rebase_archive_invalid"
def ledgerInvalid : PyException := valueError "prospective_rebase_ledger_invalid"
def postRebaseLedgerInvalid : PyException := valueError "post_rebase_ledger_invalid"

structure MigrationBinding where
  runId : ℕ
  headSha : String
  archiveDocument : String
  archiveSha256 : String
  ledgerSha256 : String
  approvalSha256 : String
  proposalRunId : String
  historical : Bool

section Readers
variable [CharacterTable] (digest : Document → String)

/-- `prospective_migration_binding`. -/
def prospectiveMigrationBinding (archive : Document) : Except PyException MigrationBinding := do
  let name := pyGet archive "archive_document"
  if name.isStr prospectiveArchiveDocument then do
    require (digest archive = prospectiveArchiveSha256) archiveInvalid
    return {
      runId := 34690695663
      headSha := "a3ef5660e6d25fcfd5a7dedd10536a32eedde203"
      archiveDocument := prospectiveArchiveDocument
      archiveSha256 := prospectiveArchiveSha256
      ledgerSha256 := prospectiveLedgerSha256
      approvalSha256 := approvedProspectiveSha256
      proposalRunId := prospectiveApprovedProposalRunId
      historical := true }
  else do
    require (isProspectiveArchiveDocument name) archiveInvalid
    let approved ← asMapping archiveInvalid (pyGet archive "approved_proposal")
    let raw := pyGet approved "proposal_run_id"
    let runId := strip (if raw.truthy then raw.toStr else "")
    let expected ← (prospectiveArchiveDocumentFor (.str runId)).mapError fun _ => archiveInvalid
    require (name.isStr expected
      && (pyGet archive "approved_proposal_run_id").isStr runId
      && (pyGet archive "approved_proposal_sha256").isStr (digest approved)
      && (pyGet approved "archive_document").equals name
      && isHexText 40 (pyGet approved "source_sha")) archiveInvalid
    match pyGet approved "source_sha", pyGet archive "new_ledger_sha256" with
    | .str sourceSha, .str ledgerDigest => do
      require (ledgerDigest.length = 64) archiveInvalid
      return {
        runId := NumberText.ofDigits (runId.toList.filterMap NumberText.digitOf?)
        headSha := sourceSha
        archiveDocument := expected
        archiveSha256 := digest archive
        ledgerSha256 := ledgerDigest
        approvalSha256 := digest approved
        proposalRunId := runId
        historical := false }
    | _, _ => .error archiveInvalid

/-- The digests and the run id that an archive is held to. -/
structure RequiredRoots where
  approvalDigest : Value
  runId : Value
  ledgerDigest : Value

/-- A digest text of the archive. -/
def isDigestText : Value → Bool
  | .str s => s.length = 64
  | _ => false

def requiredRoots (ledger archive : Document) : Except PyException RequiredRoots := do
  let name := pyGet archive "archive_document"
  if name.isStr prospectiveArchiveDocument then do
    require (digest archive = prospectiveArchiveSha256) archiveInvalid
    require (digest ledger = prospectiveLedgerSha256) ledgerInvalid
    return ⟨.str approvedProspectiveSha256, .str prospectiveApprovedProposalRunId,
      .str prospectiveLedgerSha256⟩
  else do
    require (isProspectiveArchiveDocument name) archiveInvalid
    let roots : RequiredRoots := ⟨pyGet archive "approved_proposal_sha256",
      pyGet archive "approved_proposal_run_id", pyGet archive "new_ledger_sha256"⟩
    let expected ← (prospectiveArchiveDocumentFor roots.runId).mapError fun _ => archiveInvalid
    require (isDigestText roots.approvalDigest && name.isStr expected && isDigestText roots.ledgerDigest
      && roots.ledgerDigest.isStr (digest ledger)) archiveInvalid
    return roots

def markerKeys : List String :=
  ["archive_document", "started_at", "opening_balance_observed_at", "historical_difference_unresolved",
   "approved_proposal_run_id", "approved_proposal_sha256"]

/-- `_amount`. -/
def openingAmount (value : Value) : Except PyException Decimal :=
  match value.toDecimal with
  | .ok (.finite d) =>
    if d.lt .zero then .error (valueError "post_rebase_balance_amount_invalid") else .ok d
  | _ => .error (valueError "post_rebase_balance_amount_invalid")

/-- `opening_quantities`, before the rounding of `_quantity`. -/
def openingQuantities (opening : Value) : Except PyException (List (String × Decimal)) := do
  let opening ← asMapping ledgerInvalid opening
  require (!opening.items.isEmpty && opening.keys.all fun asset => asset ≠ "") ledgerInvalid
  let amounts ← opening.items.mapM fun e => do
    let amount ← openingAmount e.2
    return (upperText e.1, amount)
  require (decide (amounts.map Prod.fst).Nodup) ledgerInvalid
  return amounts

/-- `_utc`. -/
def utcTime : Value → Except PyException Instant
  | .str s =>
    match (DateTime.fromIsoformat (zuluReplaced s)).bind DateTime.Parsed.instant? with
    | none => .error postRebaseLedgerInvalid
    | some t =>
      if DateTime.minInstant ≤ t ∧ t < DateTime.endInstant then .ok t else .error overflowError
  | _ => .error postRebaseLedgerInvalid

structure ProspectiveMaterial where
  openingAt : Instant
  openingQuantities : List (String × Decimal)
  managedAssets : List String
  archivedControl : Document

/-- `validate_prospective_rebase_material`. -/
def validateProspectiveRebaseMaterial (ledger archive : Document) :
    Except PyException ProspectiveMaterial := do
  let name := pyGet archive "archive_document"
  let roots ← requiredRoots digest ledger archive
  let oldLedger ← asMapping archiveInvalid (pyGet archive "ledger")
  let control ← asMapping archiveInvalid (pyGet archive "recovery_control")
  let approved ← asMapping archiveInvalid (pyGet archive "approved_proposal")
  let proposed ← asMapping archiveInvalid (pyGet approved "proposed_fields")
  let marker ← asMapping archiveInvalid (pyGet ledger "accounting_rebase")
  let expectedMarker : Document := ⟨markerKeys.map fun key => (key, pyGet archive key)⟩
  require (roots.approvalDigest.isStr (digest approved)
    && isTrue (pyGet approved "historical_difference_unresolved")
    && (pyGet approved "ledger_sha256").isStr (digest oldLedger)
    && (pyGet approved "control_sha256").isStr (digest control)
    && (pyGet archive "approved_proposal_run_id").equals roots.runId
    && (pyGet archive "approved_proposal_sha256").equals roots.approvalDigest
    && isTrue (pyGet archive "historical_difference_unresolved")
    && (pyGet archive "new_ledger_sha256").equals roots.ledgerDigest
    && (pyGet archive "valuation_price_source").isStr "binance_get_avg_price_estimate") archiveInvalid
  require (name.isStr prospectiveArchiveDocument
    || (pyGet approved "proposal_run_id").equals roots.runId
      && (pyGet approved "archive_document").equals name) archiveInvalid
  require (Value.equalsDict marker expectedMarker) ledgerInvalid
  let checkpoint ← asMapping attributeError
    ((proposed.get? "earn_accrual_checkpoint").getD (.dict .empty))
  require ((pyGet marker "opening_balance_observed_at").equals (pyGet checkpoint "observed_at")
    && Value.equalsDict ledger ((oldLedger.update proposed).set "accounting_rebase" (.dict expectedMarker)))
    ledgerInvalid
  let submission ← asMapping attributeError
    ((ledger.get? "order_submission").getD (.dict .empty))
  require ((pyGet submission "state").isStr orderSubmissionReserved
    || (pyGet submission "state").isStr orderSubmissionTerminal) ledgerInvalid
  let quantities ← openingQuantities (pyGet ledger "last_balance_snapshot")
  let openingAt ← utcTime (← item (.dict marker) "opening_balance_observed_at")
  let assets ← asMapping typeError (← item (.dict checkpoint) "assets")
  return {
    openingAt := openingAt
    openingQuantities := quantities
    managedAssets := assets.keys
    archivedControl := control }

end Readers

/-! ## Every interleaving -/

inductive MigrationEvent where
  | committed (approval : Value) (write : MigrationWrite) (store : MigrationStore)
  | failed (approval : Value)
  | other

/-- An attempt whose preflight accepted its approval, on whatever it read then, is one
transaction; any other program writes the owner, the ledger, the control, or creates an
archive of another name. -/
inductive MigrationStep [CharacterTable] (digest : Document → String) :
    MigrationStore → MigrationEvent → MigrationStore → Prop where
  | commit {store seen : MigrationStore} {approval : Value} {evidence : PreflightEvidence}
      {decision : Instant} {updateTime : String} {write : MigrationWrite}
      (preflight : prospectivePreflight digest evidence approval seen = .ok decision)
      (written : prospectiveTransaction digest store approval (DateTime.isoformat decision) = .ok write) :
      MigrationStep digest store (.committed approval write store) (store.commit write updateTime)
  | fail {store : MigrationStore} {approval : Value} {startedAt : String} {raised : PyException}
      (refused : prospectiveTransaction digest store approval startedAt = .error raised) :
      MigrationStep digest store (.failed approval) store
  | refuse {store seen : MigrationStore} {approval : Value} {evidence : PreflightEvidence}
      {raised : PyException}
      (refused : prospectivePreflight digest evidence approval seen = .error raised) :
      MigrationStep digest store (.failed approval) store
  | owner {store : MigrationStore} (value : Option Document) :
      MigrationStep digest store .other { store with owner := value }
  | ledger {store : MigrationStore} (value : Option (Document × String)) :
      MigrationStep digest store .other { store with ledger := value }
  | control {store : MigrationStore} (value : Option Document) :
      MigrationStep digest store .other { store with control := value }
  | archive {store : MigrationStore} {name : String} (value : Document)
      (fresh : store.archives.get? name = none) :
      MigrationStep digest store .other { store with archives := store.archives.set name value }

end BinancePlatform.Source
