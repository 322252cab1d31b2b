import BinancePlatform.Source.ProspectiveMigration

/-!
# The migration writer and the recovery validators

Every committed migration archives the ledger and the control as they were and changes
only the proposed fields and the marker. Its two documents are accepted by both readers
if and only if the approval carries its run id as the plain text that the archive is
named by, the id is not one of the two retired ones, its balance snapshot is readable,
and no NaN is kept in the ledger. An approval commits at most once.

* What the gate and the transaction of the writer establish (`validate_ok`,
  `transaction_ok`, `preflight_ok`).
* What each reader asks of the two documents (`readable_of_validated`,
  `validated_of_readable`, `binding_of_readable`), and when they accept (`accepted_iff`).
* An archive is never rewritten in a run (`archive_kept_run`), and every commit of a run has
  these properties (`migrations_accepted_iff`).

The digest is a parameter.
-/

set_option autoImplicit false

namespace BinancePlatform.Guarantees.ProspectiveArchive
open BinancePlatform.Library BinancePlatform.Source

/-! ## Equality with itself -/

/-- The comparison reads the fields, not their order. -/
theorem equalsDict_congr {d e f : Document} (same : e.Same f) :
    Value.equalsDict d e = Value.equalsDict d f := by
  have keys : e.keys.Perm f.keys := by
    apply (List.perm_ext_iff_of_nodup e.keys_nodup f.keys_nodup).mpr
    intro key
    rw [Dict.mem_keys, Dict.mem_keys, same key]
  have sizes : e.items.length = f.items.length := by
    rw [← Dict.length_keys, ← Dict.length_keys, keys.length_eq]
  rw [equalsDict_eq, equalsDict_eq, allEqual, allEqual, sizes]
  simp only [same _]

/-! ## Reading back a field -/

theorem get?_of_pyGet {d e : Document} {key : String} (found : pyGet d key = .dict e) :
    d.get? key = some (.dict e) := by
  unfold pyGet at found
  cases stored : d.get? key with
  | none =>
    rw [stored] at found
    cases found
  | some value =>
    rw [stored] at found
    exact congrArg some found

/-! ## Run ids -/

theorem digit_not_space {c : Char} (low : '0' ≤ c) (high : c ≤ '9') : NumberText.isSpace c = false := by
  have lower : 48 ≤ c.toNat := low
  have upper : c.toNat ≤ 57 := high
  apply NumberText.Printed.not_space
  refine .inl ⟨c.toNat - 48, by omega, ?_⟩
  rw [NumberText.digitChar, Nat.add_sub_cancel' lower, Char.ofNat_toNat]

theorem runId_not_space {cs : List Char} (valid : isProposalRunId cs = true) :
    ∀ c ∈ cs, NumberText.isSpace c = false := by
  cases cs with
  | nil => cases valid
  | cons first rest =>
    simp only [isProposalRunId, Bool.and_eq_true, decide_eq_true_eq, List.all_eq_true] at valid
    obtain ⟨⟨⟨low, high⟩, digits⟩, -⟩ := valid
    intro c member
    rcases List.mem_cons.mp member with rfl | later
    · have lower : 49 ≤ c.toNat := low
      exact digit_not_space (show 48 ≤ c.toNat by omega) high
    · have digit := digits c later
      rw [Char.isDigit, Bool.and_eq_true, decide_eq_true_eq, decide_eq_true_eq] at digit
      exact digit_not_space digit.1 digit.2

/-- A run id has no space to strip. -/
theorem strip_runId {text : String} (valid : isProposalRunId text.toList = true) : strip text = text := by
  rw [strip, NumberText.strip_eq_self (runId_not_space valid), String.ofList_toList]

/-- Every name the writer makes is a prospective one, except that of the approved rebase. -/
theorem isProspective_name {runId : String} (valid : isProposalRunId runId.toList = true)
    (current : prospectiveArchivePrefix ++ runId ≠ archiveDocument) :
    isProspectiveArchiveDocument (.str (prospectiveArchivePrefix ++ runId)) = true := by
  rw [isProspectiveArchiveDocument, if_neg current]
  by_cases retired : prospectiveArchivePrefix ++ runId = prospectiveArchiveDocument
  · rw [if_pos retired]
  · rw [if_neg retired, String.toList_append, List.drop_left, valid, Bool.and_true,
      List.isPrefixOf_iff_prefix]
    exact List.prefix_append _ _

/-! ## The order state -/

theorem printed_ne {c : Char} (printed : NumberText.Printed c) : c ≠ 'R' ∧ c ≠ 'T' := by
  rcases printed with ⟨d, small, rfl⟩ | mark
  · interval_cases d <;> decide
  · simp only [List.mem_cons, List.not_mem_nil, or_false] at mark
    rcases mark with rfl | rfl | rfl | rfl <;> decide

/-- A text that starts like neither of the two statuses. -/
def Unlike (cs : List Char) : Prop := ∀ c rest, cs = c :: rest → c ≠ 'R' ∧ c ≠ 'T'

theorem unlike_cons {c : Char} {rest : List Char} (unlike : c ≠ 'R' ∧ c ≠ 'T') : Unlike (c :: rest) := by
  intro d more same
  rw [← (List.cons.inj same).1]
  exact unlike

theorem unlike_printed {cs : List Char} (printed : ∀ c ∈ cs, NumberText.Printed c) (more : List Char)
    (nonempty : cs ≠ []) : Unlike (cs ++ more) := by
  obtain ⟨first, rest, rfl⟩ := List.exists_cons_of_ne_nil nonempty
  exact unlike_cons (printed_ne (printed first List.mem_cons_self))

theorem unlike_signed {cs : List Char} (negative : Bool) (unlike : Unlike cs) :
    Unlike (NumberText.signText negative ++ cs) := by
  cases negative with
  | false => exact unlike
  | true => exact unlike_cons (by decide)

/-- No float is printed like one of the two statuses. -/
theorem unlike_float (x : PyFloat) : Unlike x.repr := by
  cases x with
  | nan => exact unlike_cons (by decide)
  | infinite negative => exact unlike_signed negative (unlike_cons (by decide))
  | finite negative magnitude =>
    unfold PyFloat.repr
    dsimp only
    have digits := NumberText.decimalDigits_lt (PyFloat.shortest magnitude).1
    have nonempty := NumberText.decimalDigits_ne_nil (PyFloat.shortest magnitude).1
    split_ifs
    · exact unlike_signed negative (unlike_cons (by decide))
    all_goals
      apply unlike_signed
      first
      | exact unlike_printed (NumberText.printed_pointed digits _) _
          (NumberText.pointed_ne_nil nonempty _)
      | exact unlike_printed (NumberText.printed_digitText digits) _
          (by simpa [NumberText.digitText] using nonempty)

/-! ## What the readers read -/

/-- The ledger that the transaction leaves, field by field. -/
theorem get?_written (ledger proposed marker : Document) (key : String) :
    (ledger.update (proposed.set "accounting_rebase" (.dict marker))).get? key
      = if key = "accounting_rebase" then some (.dict marker) else (ledger.update proposed).get? key := by
  rw [Dict.get?_update, Dict.get?_set, Dict.get?_update]
  split
  · rfl
  · rfl

/-- The marker is written over the proposed fields in either order. -/
theorem written_same (ledger proposed marker : Document) :
    (ledger.update (proposed.set "accounting_rebase" (.dict marker))).Same
      ((ledger.update proposed).set "accounting_rebase" (.dict marker)) := by
  intro key
  rw [get?_written, Dict.get?_set]

/-- A time of Earn is read alike by the other reader. -/
theorem utcTime_of_earnTime {value : Value} {t : Instant} (timed : earnTime value = .ok t) :
    (∃ s, value = .str s) ∧ utcTime value = .ok t := by
  cases value with
  | str s =>
    refine ⟨⟨s, rfl⟩, ?_⟩
    unfold earnTime at timed
    unfold utcTime
    dsimp only at timed ⊢
    cases read : (DateTime.fromIsoformat (zuluReplaced s)).bind DateTime.Parsed.instant? with
    | none =>
      rw [read] at timed
      cases timed
    | some instant =>
      rw [read] at timed
      exact timed
  | _ => cases timed

section Backup
variable {ledger control approved : Document} {name startedAt runId sha256 updateTime newDigest : String}
  {observedAt : Value}

def backupFields (ledger control approved : Document) (name startedAt : String) (observedAt : Value)
    (runId sha256 newDigest : String) : List (String × Value) :=
  [("ledger", .dict ledger), ("recovery_control", .dict control), ("archive_document", .str name),
   ("started_at", .str startedAt), ("opening_balance_observed_at", observedAt),
   ("historical_difference_unresolved", .bool true), ("approved_proposal_run_id", .str runId),
   ("approved_proposal_sha256", .str sha256), ("approved_proposal", .dict approved),
   ("new_ledger_sha256", .str newDigest),
   ("valuation_price_source", .str "binance_get_avg_price_estimate")]

/-- Every field of the backup is read back. -/
theorem get?_backup (entry : String × Value)
    (member : entry ∈ backupFields ledger control approved name startedAt observedAt runId sha256 newDigest) :
    pyGet (migrationBackup ledger control approved
      (migrationMarker name startedAt observedAt runId sha256) updateTime newDigest) entry.1
        = entry.2 := by
  unfold pyGet migrationBackup
  rw [Dict.get?_setAll _ (by simp), Dict.get?_update]
  simp only [backupFields, List.mem_cons, List.not_mem_nil, or_false] at member
  rcases member with rfl | rfl | rfl | rfl | rfl | rfl | rfl | rfl | rfl | rfl | rfl <;> rfl

/-- The marker that the reader puts together from the archive is the one written. -/
theorem markerKeys_backup :
    markerKeys.map (fun key => (key, pyGet (migrationBackup ledger control approved
      (migrationMarker name startedAt observedAt runId sha256) updateTime newDigest) key))
      = (migrationMarker name startedAt observedAt runId sha256).entries := by
  have read := @get?_backup ledger control approved name startedAt runId sha256 updateTime newDigest
    observedAt
  unfold markerKeys
  simp only [List.map_cons, List.map_nil]
  rw [read ("archive_document", .str name) (by simp [backupFields]),
    read ("started_at", .str startedAt) (by simp [backupFields]),
    read ("opening_balance_observed_at", observedAt) (by simp [backupFields]),
    read ("historical_difference_unresolved", .bool true) (by simp [backupFields]),
    read ("approved_proposal_run_id", .str runId) (by simp [backupFields]),
    read ("approved_proposal_sha256", .str sha256) (by simp [backupFields])]
  rfl

end Backup

/-- A marker with a text for its time equals itself. -/
theorem marker_self {name startedAt runId sha256 : String} (s : String) :
    Value.equalsDict (migrationMarker name startedAt (.str s) runId sha256)
      (migrationMarker name startedAt (.str s) runId sha256) = true := by
  apply equalsDict_self.mpr
  intro key value stored
  have member := Dict.mem_of_find stored
  simp only [migrationMarker, List.mem_cons, List.not_mem_nil, or_false, Prod.mk.injEq] at member
  rcases member with ⟨-, rfl⟩ | ⟨-, rfl⟩ | ⟨-, rfl⟩ | ⟨-, rfl⟩ | ⟨-, rfl⟩ | ⟨-, rfl⟩
  · exact equals_self_str _
  · exact equals_self_str _
  · exact equals_self_str _
  · rfl
  · exact equals_self_str _
  · exact equals_self_str _

section Texts
variable [CharacterTable]

/-- What is accepted as a run id, before and after the conversion to a text. -/
theorem proposalRunId_ok {raw : Value} {runId : String} (success : proposalRunId raw = .ok runId) :
    isProposalRunId runId.toList = true
      ∧ strip (if raw.truthy then raw.toStr else "") = runId := by
  unfold proposalRunId at success
  dsimp only at success
  by_cases valid : isProposalRunId (strip (if raw.truthy then raw.toStr else "")).toList = true
  · rw [if_pos valid] at success
    obtain rfl := Except.ok.inj success
    exact ⟨valid, rfl⟩
  · rw [if_neg valid] at success
    cases success

/-- A valid text is its own run id. -/
theorem proposalRunId_text {runId : String} (valid : isProposalRunId runId.toList = true) :
    proposalRunId (.str runId) = .ok runId := by
  have nonempty : runId ≠ "" := by
    rintro rfl
    cases valid
  have truthy : (Value.str runId).truthy = true := by simp [Value.truthy, nonempty]
  unfold proposalRunId
  simp only [truthy, if_true, Value.toStr, strip_runId valid, valid]

/-- The archive of a valid text is named by it. -/
theorem archiveFor_text {runId : String} (valid : isProposalRunId runId.toList = true) :
    prospectiveArchiveDocumentFor (.str runId) = .ok (prospectiveArchivePrefix ++ runId) := by
  rw [prospectiveArchiveDocumentFor, proposalRunId_text valid]
  rfl

/-- Only a text and `True` can be printed like one of them. -/
theorem unlike_repr {value : Value} (notText : ∀ s, value ≠ .str s) (notTrue : value ≠ .bool true) :
    Unlike value.repr := by
  cases value with
  | none =>
    rw [Value.repr]
    exact unlike_cons (by decide)
  | bool b =>
    cases b with
    | false =>
      rw [Value.repr, if_neg (by decide)]
      exact unlike_cons (by decide)
    | true => exact absurd rfl notTrue
  | int n =>
    rw [Value.repr, NumberText.intText]
    split
    · exact unlike_cons (by decide)
    · have printed := NumberText.printed_digitText (NumberText.decimalDigits_lt n.natAbs)
      have nonempty : NumberText.digitText (NumberText.decimalDigits n.natAbs) ≠ [] := by
        simpa [NumberText.digitText] using NumberText.decimalDigits_ne_nil n.natAbs
      rw [← List.append_nil (NumberText.natText n.natAbs)]
      exact unlike_printed printed _ nonempty
  | float x =>
    rw [Value.repr]
    exact unlike_float x
  | str s => exact absurd rfl (notText s)
  | list items =>
    rw [Value.repr]
    exact unlike_cons (by decide)
  | dict entries =>
    obtain ⟨entries⟩ := entries
    rw [Value.repr, Value.reprDict]
    exact unlike_cons (by decide)

/-- The writer reads the text of the status, the reader the status. -/
theorem status_text {status : Value}
    (known : (if status.truthy then status.toStr else "") = orderSubmissionReserved
      ∨ (if status.truthy then status.toStr else "") = orderSubmissionTerminal) :
    status.isStr orderSubmissionReserved = true ∨ status.isStr orderSubmissionTerminal = true := by
  have truthy : status.truthy = true := by
    by_contra falsy
    rw [if_neg falsy] at known
    rcases known with empty | empty
    · exact absurd empty (by decide)
    · exact absurd empty (by decide)
  rw [if_pos truthy] at known
  by_cases isText : ∃ s, status = .str s
  · obtain ⟨s, rfl⟩ := isText
    rw [Value.isStr_str, Value.isStr_str]
    exact known.imp Eq.symm Eq.symm
  · have notText : ∀ s, status ≠ .str s := fun s same => isText ⟨s, same⟩
    have printed : status.toStr = String.ofList status.repr := by
      cases status with
      | str s => exact absurd rfl (notText s)
      | _ => rfl
    have letters : status.repr = orderSubmissionReserved.toList
        ∨ status.repr = orderSubmissionTerminal.toList := by
      rw [printed] at known
      rcases known with same | same
      · exact .inl (by rw [← same, String.toList_ofList])
      · exact .inr (by rw [← same, String.toList_ofList])
    by_cases isTrue : status = .bool true
    · rw [isTrue, Value.repr, if_pos rfl] at letters
      rcases letters with same | same
      · exact absurd same (by decide)
      · exact absurd same (by decide)
    · have unlike := unlike_repr notText isTrue
      rcases letters with same | same
      · exact absurd rfl (unlike 'R' _ same).1
      · exact absurd rfl (unlike 'T' _ same).2

/-! ## What the gate and the transaction establish -/

variable {digest : Document → String}

/-- What the gate of an approved proposal shows. -/
structure Gated (digest : Document → String) (approved proposed : Document) (runId : String) : Prop where
  notApproved : digest approved ≠ approvedProspectiveSha256
  named : proposalRunId (pyGet approved "proposal_run_id") = .ok runId
  unresolved : isTrue (pyGet approved "historical_difference_unresolved") = true
  sourceSha : isHexText 40 (pyGet approved "source_sha") = true
  fields : pyGet approved "proposed_fields" = .dict proposed
  keys : sameKeySet proposed.keys proposedFieldKeys = true
  archived : pyGet approved "archive_document" = .str (prospectiveArchivePrefix ++ runId)
  checkpoint : ∃ checkpoint assets, pyGet proposed "earn_accrual_checkpoint" = .dict checkpoint
    ∧ checkpoint.get? "assets" = some (.dict assets)

/-- What an approval that passes the gate has been checked for. -/
theorem validate_ok {approval : Value} {approved proposed : Document}
    (success : validateProspectiveApproval digest approval = .ok (approved, proposed)) :
    approval = .dict approved ∧ ∃ runId, Gated digest approved proposed runId := by
  unfold validateProspectiveApproval at success
  obtain ⟨fields, isMapping, success⟩ := bind_ok success
  obtain ⟨notApproved, success⟩ := require_bind success
  obtain ⟨runId, named, success⟩ := bind_ok success
  obtain ⟨roots, success⟩ := require_bind success
  obtain ⟨-, success⟩ := require_bind success
  obtain ⟨found, areFields, success⟩ := bind_ok success
  obtain ⟨keys, success⟩ := require_bind success
  obtain ⟨archive, archiveName, success⟩ := bind_ok success
  obtain ⟨archived, success⟩ := require_bind success
  obtain ⟨checkpoint, isCheckpoint, success⟩ := bind_ok success
  obtain ⟨assets, areAssets, success⟩ := bind_ok success
  obtain ⟨-, success⟩ := require_bind success
  obtain ⟨nets, -, success⟩ := bind_ok success
  obtain ⟨-, success⟩ := require_bind success
  obtain ⟨cursor, -, success⟩ := bind_ok success
  cases success
  have named := mapError_ok named
  rw [archiveFor_text (proposalRunId_ok named).1] at archiveName
  cases archiveName
  simp only [Bool.and_eq_true] at roots
  exact ⟨asMapping_ok isMapping, runId, {
    notApproved := of_decide_eq_true notApproved
    named := named
    unresolved := roots.1.1.1.1.1
    sourceSha := roots.1.1.2
    fields := asMapping_ok areFields
    keys := keys
    archived := Value.eq_str_of_isStr archived
    checkpoint := ⟨checkpoint, assets, asMapping_ok isCheckpoint,
      get?_of_pyGet (asMapping_ok areAssets)⟩ }⟩

/-- What a transaction that writes has read, and the two documents it writes. -/
structure Writes (digest : Document → String) (store : MigrationStore) (startedAt : String)
    (approved proposed : Document) (runId : String) (ledger control : Document) (write : MigrationWrite) :
    Prop where
  gated : Gated digest approved proposed runId
  fresh : store.archives.get? write.archiveName = none
  ledgerRead : ∃ updateTime, store.ledger = some (ledger, updateTime)
  controlRead : store.control = some control
  ledgerDigest : pyGet approved "ledger_sha256" = .str (digest ledger)
  controlDigest : pyGet approved "control_sha256" = .str (digest control)
  safe : validateSafeOrderState ledger = .ok ()
  name : write.archiveName = prospectiveArchivePrefix ++ runId
  documents : ∃ checkpoint observedAt updateTime,
    proposed.get? "earn_accrual_checkpoint" = some (.dict checkpoint)
      ∧ checkpoint.get? "observed_at" = some observedAt
      ∧ write.patch = proposed.set "accounting_rebase" (.dict
        (migrationMarker write.archiveName startedAt observedAt runId (digest approved)))
      ∧ write.backup = migrationBackup ledger control approved
        (migrationMarker write.archiveName startedAt observedAt runId (digest approved)) updateTime
        (digest (ledger.update write.patch))

/-- What the transaction has checked of the store before it writes. -/
theorem transaction_ok {store : MigrationStore} {approval : Value} {startedAt : String}
    {write : MigrationWrite} (success : prospectiveTransaction digest store approval startedAt = .ok write) :
    ∃ approved proposed runId ledger control,
      validateProspectiveApproval digest approval = .ok (approved, proposed)
        ∧ Writes digest store startedAt approved proposed runId ledger control write := by
  unfold prospectiveTransaction at success
  obtain ⟨⟨approved, proposed⟩, accepted, success⟩ := bind_ok success
  obtain ⟨-, runId, gated⟩ := validate_ok accepted
  obtain ⟨text, named, success⟩ := bind_ok success
  have sameText : runId = text := Except.ok.inj (gated.named.symm.trans named)
  subst sameText
  obtain ⟨archiveName, named, success⟩ := bind_ok success
  rw [archiveFor_text (proposalRunId_ok gated.named).1] at named
  cases named
  cases owned : store.owner with
  | some owner =>
    rw [owned] at success
    cases success
  | none =>
  cases archived : store.archives.get? (prospectiveArchivePrefix ++ runId) with
  | some document =>
    rw [owned, archived] at success
    cases success
  | none =>
  cases ledgerRead : store.ledger with
  | none =>
    rw [owned, archived, ledgerRead] at success
    cases success
  | some current =>
  cases controlRead : store.control with
  | none =>
    rw [owned, archived, ledgerRead, controlRead] at success
    cases success
  | some control =>
  obtain ⟨ledger, updateTime⟩ := current
  rw [owned, archived, ledgerRead, controlRead] at success
  obtain ⟨bound, success⟩ := require_bind success
  obtain ⟨⟨⟩, safe, success⟩ := bind_ok success
  obtain ⟨⟨⟩, -, success⟩ := bind_ok success
  obtain ⟨checkpoint, isCheckpoint, success⟩ := bind_ok success
  obtain ⟨observedAt, observed, success⟩ := bind_ok success
  cases success
  obtain ⟨fields, same, isCheckpoint⟩ := item_ok isCheckpoint
  cases same
  obtain ⟨checkpoint, rfl, found⟩ := item_ok observed
  simp only [Bool.and_eq_true] at bound
  exact ⟨approved, proposed, runId, ledger, control, accepted, {
    gated := gated
    fresh := archived
    ledgerRead := ⟨updateTime, ledgerRead⟩
    controlRead := controlRead
    ledgerDigest := Value.eq_str_of_isStr bound.1.1
    controlDigest := Value.eq_str_of_isStr bound.1.2
    safe := safe
    name := rfl
    documents := ⟨checkpoint, observedAt, updateTime, isCheckpoint, found, rfl, rfl⟩ }⟩

/-- The part of the preflight that the readers depend on: the opening has a time. -/
theorem preflight_ok {evidence : PreflightEvidence} {approval : Value} {store : MigrationStore}
    {decision : Instant} {approved proposed checkpoint : Document}
    (success : prospectivePreflight digest evidence approval store = .ok decision)
    (accepted : validateProspectiveApproval digest approval = .ok (approved, proposed))
    (stored : proposed.get? "earn_accrual_checkpoint" = some (.dict checkpoint)) :
    ∃ observedAt opened, checkpoint.get? "observed_at" = some observedAt
      ∧ earnTime observedAt = .ok opened := by
  unfold prospectivePreflight at success
  obtain ⟨⟨own, fields⟩, again, success⟩ := bind_ok success
  cases Except.ok.inj (accepted.symm.trans again)
  cases owned : store.owner with
  | some owner =>
    rw [owned] at success
    cases success
  | none =>
  cases ledgerRead : store.ledger with
  | none =>
    rw [owned, ledgerRead] at success
    cases success
  | some current =>
  rw [owned, ledgerRead] at success
  obtain ⟨⟨⟩, -, success⟩ := bind_ok success
  obtain ⟨⟨⟩, -, success⟩ := bind_ok success
  obtain ⟨-, success⟩ := require_bind success
  obtain ⟨principal, -, success⟩ := bind_ok success
  obtain ⟨-, success⟩ := require_bind success
  obtain ⟨scope, -, success⟩ := bind_ok success
  obtain ⟨previous, isCheckpoint, success⟩ := bind_ok success
  obtain ⟨observedAt, observed, success⟩ := bind_ok success
  obtain ⟨opened, timed, success⟩ := bind_ok success
  have same := asMapping_ok isCheckpoint
  rw [pyGet, stored] at same
  cases same
  obtain ⟨found, same, observed⟩ := item_ok observed
  cases same
  exact ⟨observedAt, opened, observed, timed⟩

/-- A balance snapshot with named assets and amounts that are numbers. -/
def OpeningReadable (snapshot : Value) : Prop :=
  ∃ d, snapshot = .dict d ∧ d.items ≠ [] ∧ (∀ key ∈ d.keys, key ≠ "") ∧ (d.keys.map upperText).Nodup
    ∧ ∀ key value, d.get? key = some value →
      ∃ amount, value.toDecimal = .ok (.finite amount) ∧ amount.lt .zero = false

/-- An opening amount is finite and not negative. -/
theorem openingAmount_ok {value : Value} {amount : Decimal} :
    openingAmount value = .ok amount ↔ value.toDecimal = .ok (.finite amount) ∧ amount.lt .zero = false := by
  unfold openingAmount
  cases read : value.toDecimal with
  | error raised => simp
  | ok numeral =>
    cases numeral with
    | finite d =>
      by_cases negative : d.lt .zero = true
      · simp only [if_pos negative]
        constructor
        · intro impossible
          cases impossible
        · rintro ⟨same, positive⟩
          cases same
          rw [positive] at negative
          cases negative
      · simp only [if_neg negative, Except.ok.injEq, NumberText.Numeral.finite.injEq]
        constructor
        · rintro rfl
          exact ⟨rfl, by simpa using negative⟩
        · exact fun both => both.1
    | _ => simp

theorem openingQuantities_iff {snapshot : Value} :
    (∃ quantities, openingQuantities snapshot = .ok quantities) ↔ OpeningReadable snapshot := by
  constructor
  · rintro ⟨quantities, success⟩
    unfold openingQuantities at success
    obtain ⟨d, isMapping, success⟩ := bind_ok success
    obtain ⟨shape, success⟩ := require_bind success
    obtain ⟨amounts, read, success⟩ := bind_ok success
    obtain ⟨unique, -⟩ := require_bind success
    have each := mapM_ok read
    have names : amounts.map Prod.fst = d.keys.map upperText := by
      rw [Dict.keys, List.map_map]
      apply mapM_kept read
      intro entry _ out taken
      obtain ⟨amount, -, taken⟩ := bind_ok taken
      cases taken
      rfl
    rw [Bool.and_eq_true, List.all_eq_true] at shape
    refine ⟨d, asMapping_ok isMapping, by simpa using shape.1,
      fun key member => of_decide_eq_true (shape.2 key member), ?_, ?_⟩
    · rw [← names]
      exact of_decide_eq_true unique
    · intro key value stored
      obtain ⟨out, -, taken⟩ := forall₂_exists each ((Dict.mem_items _ _ _).mpr stored)
      obtain ⟨amount, converted, -⟩ := bind_ok taken
      exact ⟨amount, openingAmount_ok.mp converted⟩
  · rintro ⟨d, rfl, nonempty, named, unique, amounts⟩
    unfold openingQuantities
    have each : ∀ entry ∈ d.items, ∃ out : String × Decimal, (do
        let amount ← openingAmount entry.2
        return (upperText entry.1, amount)) = Except.ok out := by
      intro entry member
      obtain ⟨amount, shown⟩ := amounts entry.1 entry.2 ((Dict.mem_items _ _ _).mp member)
      rw [openingAmount_ok.mpr shown]
      exact ⟨_, rfl⟩
    obtain ⟨read, all⟩ := mapM_total each
    have names : read.map Prod.fst = d.keys.map upperText := by
      rw [Dict.keys, List.map_map]
      apply mapM_kept all
      intro entry _ out taken
      obtain ⟨amount, -, taken⟩ := bind_ok taken
      cases taken
      rfl
    have shape : (!d.items.isEmpty && d.keys.all fun asset => asset ≠ "") = true := by
      rw [Bool.and_eq_true, List.all_eq_true]
      exact ⟨by simpa using nonempty, fun key member => decide_eq_true (named key member)⟩
    refine ⟨read, ?_⟩
    change (require _ _ >>= _) = _
    rw [require_bind_of shape, all]
    change (require _ _ >>= _) = _
    rw [require_bind_of (decide_eq_true (by rw [names]; exact unique))]
    rfl

/-! ## What the readers accept -/

/-- Both readers accept the two documents. -/
def Accepted (digest : Document → String) (ledger archive : Document) : Prop :=
  (∃ binding, prospectiveMigrationBinding digest archive = .ok binding)
    ∧ ∃ material, validateProspectiveRebaseMaterial digest ledger archive = .ok material

/-- What the readers ask of an approval and a ledger beyond what the writer checks: the
run id is kept as the text it is read as and is not retired, the new balance snapshot is
readable, and every field of the new ledger equals itself. -/
structure Readable (approved proposed ledger : Document) : Prop where
  plain : ∃ runId, pyGet approved "proposal_run_id" = .str runId ∧ isProposalRunId runId.toList = true
  current : pyGet approved "archive_document" ≠ .str archiveDocument
  unretired : pyGet approved "archive_document" ≠ .str prospectiveArchiveDocument
  opening : OpeningReadable (pyGet proposed "last_balance_snapshot")
  numbers : ∀ key value, key ≠ "accounting_rebase" → (ledger.update proposed).get? key = some value →
    value.equals value = true

section Accepts
variable {store : MigrationStore} {startedAt : String} {approved proposed ledger control : Document}
  {runId : String} {write : MigrationWrite}

/-- A proposed field is one of the twelve. -/
theorem Gated.present (gated : Gated digest approved proposed runId) {key : String}
    (named : key ∈ proposedFieldKeys) : ∃ value, proposed.get? key = some value := by
  have keys := gated.keys
  rw [sameKeySet, Bool.and_eq_true, List.all_eq_true, List.all_eq_true] at keys
  exact Option.isSome_iff_exists.mp
    ((Dict.mem_keys _ _).mp (of_decide_eq_true (keys.2 key named)))

/-- The approval proposes no other fields. -/
theorem Gated.absent (gated : Gated digest approved proposed runId) {key : String}
    (other : key ∉ proposedFieldKeys) : proposed.get? key = none := by
  have keys := gated.keys
  rw [sameKeySet, Bool.and_eq_true, List.all_eq_true, List.all_eq_true] at keys
  cases stored : proposed.get? key with
  | none => rfl
  | some value =>
    have member := (Dict.mem_keys proposed key).mpr (by rw [stored]; rfl)
    exact absurd (of_decide_eq_true (keys.1 key member)) other

/-- The documents of a write as the readers look at them. -/
theorem Writes.read (writes : Writes digest store startedAt approved proposed runId ledger control write) :
    ∃ checkpoint observedAt, proposed.get? "earn_accrual_checkpoint" = some (.dict checkpoint)
      ∧ checkpoint.get? "observed_at" = some observedAt
      ∧ (∃ marker, marker = migrationMarker write.archiveName startedAt observedAt runId (digest approved)
        ∧ write.patch = proposed.set "accounting_rebase" (.dict marker)
        ∧ markerKeys.map (fun key => (key, pyGet write.backup key)) = marker.entries)
      ∧ ∀ entry ∈ backupFields ledger control approved write.archiveName startedAt observedAt runId
          (digest approved) (digest (ledger.update write.patch)), pyGet write.backup entry.1 = entry.2 := by
  obtain ⟨checkpoint, observedAt, updateTime, stored, observed, patched, archived⟩ := writes.documents
  refine ⟨checkpoint, observedAt, stored, observed, ⟨_, rfl, patched, ?_⟩, ?_⟩
  · rw [archived]
    exact markerKeys_backup
  · rw [archived]
    exact get?_backup

/-- The recovery validator accepts readable documents only. -/
theorem readable_of_validated
    (writes : Writes digest store startedAt approved proposed runId ledger control write)
    {material : ProspectiveMaterial}
    (success : validateProspectiveRebaseMaterial digest (ledger.update write.patch) write.backup
      = .ok material) :
    Readable approved proposed ledger := by
  obtain ⟨checkpoint, observedAt, -, -, ⟨marker, -, patched, keys⟩, read⟩ := writes.read
  have gated := writes.gated
  have name : pyGet write.backup "archive_document" = .str write.archiveName :=
    read ("archive_document", .str write.archiveName) (by simp [backupFields])
  have numbered : pyGet write.backup "approved_proposal_run_id" = .str runId :=
    read ("approved_proposal_run_id", .str runId) (by simp [backupFields])
  have named : (⟨markerKeys.map fun key => (key, pyGet write.backup key)⟩ : Document) = marker := by
    rw [keys]
  unfold validateProspectiveRebaseMaterial at success
  dsimp only at success
  rw [named, name] at success
  obtain ⟨roots, rooted, success⟩ := bind_ok success
  obtain ⟨oldLedger, isOld, success⟩ := bind_ok success
  rw [read ("ledger", .dict ledger) (by simp [backupFields])] at isOld
  cases Except.ok.inj isOld
  obtain ⟨oldControl, -, success⟩ := bind_ok success
  obtain ⟨approval, isApproval, success⟩ := bind_ok success
  rw [read ("approved_proposal", .dict approved) (by simp [backupFields])] at isApproval
  cases Except.ok.inj isApproval
  obtain ⟨fields, areFields, success⟩ := bind_ok success
  rw [gated.fields] at areFields
  cases Except.ok.inj areFields
  obtain ⟨shown, -, success⟩ := bind_ok success
  obtain ⟨checks, success⟩ := require_bind success
  obtain ⟨bound, success⟩ := require_bind success
  obtain ⟨-, success⟩ := require_bind success
  obtain ⟨point, -, success⟩ := bind_ok success
  obtain ⟨same, success⟩ := require_bind success
  obtain ⟨submission, -, success⟩ := bind_ok success
  obtain ⟨-, success⟩ := require_bind success
  obtain ⟨quantities, opened, -⟩ := bind_ok success
  simp only [Bool.and_eq_true] at checks same
  unfold requiredRoots at rooted
  dsimp only at rooted
  rw [name] at rooted
  by_cases retired : (Value.str write.archiveName).isStr prospectiveArchiveDocument = true
  · -- the retired archive is held to the approval that the gate turns away
    rw [if_pos retired] at rooted
    obtain ⟨-, rooted⟩ := require_bind rooted
    obtain ⟨-, rooted⟩ := require_bind rooted
    cases rooted
    exact absurd ((Value.isStr_str _ _).mp checks.1.1.1.1.1.1.1.1) gated.notApproved
  · rw [if_neg retired] at rooted
    obtain ⟨prospective, rooted⟩ := require_bind rooted
    obtain ⟨expected, -, rooted⟩ := bind_ok rooted
    obtain ⟨-, rooted⟩ := require_bind rooted
    cases rooted
    have unretired : write.archiveName ≠ prospectiveArchiveDocument := by
      intro same
      rw [same, (Value.isStr_str _ _).mpr rfl] at retired
      exact retired rfl
    have current : write.archiveName ≠ archiveDocument := by
      intro same
      rw [same, isProspectiveArchiveDocument, if_pos rfl] at prospective
      cases prospective
    rw [Bool.eq_false_iff.mpr retired, Bool.false_or, Bool.and_eq_true] at bound
    rw [numbered] at bound
    refine ⟨⟨runId, str_equals bound.1, (proposalRunId_ok gated.named).1⟩, ?_, ?_, ?_, ?_⟩
    · rw [gated.archived, ← writes.name]
      exact fun same => current (Value.str.inj same)
    · rw [gated.archived, ← writes.name]
      exact fun same => unretired (Value.str.inj same)
    · apply openingQuantities_iff.mp
      refine ⟨quantities, ?_⟩
      rw [← opened, pyGet, pyGet, patched, get?_written, if_neg (by decide), Dict.get?_update]
      obtain ⟨snapshot, found⟩ := gated.present (show "last_balance_snapshot" ∈ proposedFieldKeys by decide)
      rw [found]
      rfl
    · intro key value other stored
      have equal := same.2
      rw [patched, ← equalsDict_congr (written_same ledger proposed marker)] at equal
      apply equalsDict_self.mp equal key
      rw [get?_written, if_neg other]
      exact stored

/-- The order record of the new ledger is the one the writer found safe. -/
theorem submission_safe
    (writes : Writes digest store startedAt approved proposed runId ledger control write) (marker : Document) :
    ∃ submission,
      (ledger.update (proposed.set "accounting_rebase" (.dict marker))).get? "order_submission"
          = some (.dict submission)
        ∧ ((pyGet submission "state").isStr orderSubmissionReserved
          || (pyGet submission "state").isStr orderSubmissionTerminal) = true := by
  have safe := writes.safe
  unfold validateSafeOrderState at safe
  obtain ⟨record, isRecord, safe⟩ := bind_ok safe
  obtain ⟨-, safe⟩ := require_bind safe
  have known := require_ok.mp safe
  rw [Bool.or_eq_true, decide_eq_true_eq, decide_eq_true_eq] at known
  refine ⟨record, ?_, (Bool.or_eq_true _ _).mpr (status_text known)⟩
  rw [get?_written, if_neg (by decide), Dict.get?_update, writes.gated.absent (by decide), Option.none_or]
  exact get?_of_pyGet (asMapping_ok isRecord)

theorem Writes.unretired (writes : Writes digest store startedAt approved proposed runId ledger control write)
    (readable : Readable approved proposed ledger) :
    ¬ (Value.str write.archiveName).isStr prospectiveArchiveDocument = true := by
  intro same
  apply readable.unretired
  rw [writes.gated.archived, ← writes.name, (Value.isStr_str _ _).mp same]

theorem Writes.prospective (writes : Writes digest store startedAt approved proposed runId ledger control write)
    (readable : Readable approved proposed ledger) :
    isProspectiveArchiveDocument (.str write.archiveName) = true := by
  rw [writes.name]
  apply isProspective_name (proposalRunId_ok writes.gated.named).1
  intro same
  apply readable.current
  rw [writes.gated.archived, same]

/-- The binding reads the same text of the run id as the writer. -/
theorem binding_of_readable (hexDigest : ∀ d, (digest d).length = 64)
    (writes : Writes digest store startedAt approved proposed runId ledger control write)
    (readable : Readable approved proposed ledger) :
    ∃ binding, prospectiveMigrationBinding digest write.backup = .ok binding := by
  obtain ⟨checkpoint, observedAt, -, -, -, read⟩ := writes.read
  have gated := writes.gated
  have valid := (proposalRunId_ok gated.named).1
  have name : pyGet write.backup "archive_document" = .str write.archiveName :=
    read ("archive_document", .str write.archiveName) (by simp [backupFields])
  obtain ⟨sourceSha, isSha⟩ : ∃ s, pyGet approved "source_sha" = .str s := by
    have hex := gated.sourceSha
    cases text : pyGet approved "source_sha" with
    | str s => exact ⟨s, rfl⟩
    | _ =>
      rw [text] at hex
      cases hex
  have roots : ((Value.str write.archiveName).isStr (prospectiveArchivePrefix ++ runId)
      && (Value.str runId).isStr runId && (Value.str (digest approved)).isStr (digest approved)
      && (Value.str (prospectiveArchivePrefix ++ runId)).equals (.str write.archiveName)
      && isHexText 40 (pyGet approved "source_sha")) = true := by
    simp only [Bool.and_eq_true, gated.sourceSha, writes.name, Value.isStr_str, equals_self_str, and_self]
  have found : asMapping archiveInvalid (pyGet write.backup "approved_proposal") = .ok approved := by
    rw [read ("approved_proposal", .dict approved) (by simp [backupFields])]
    rfl
  have text := (proposalRunId_ok gated.named).2
  have expected : (prospectiveArchiveDocumentFor (.str runId)).mapError (fun _ => archiveInvalid)
      = .ok (prospectiveArchivePrefix ++ runId) := by
    rw [archiveFor_text valid]
    rfl
  unfold prospectiveMigrationBinding
  dsimp only
  rw [name, if_neg (writes.unretired readable), require_bind_of (writes.prospective readable),
    bind_of found, text, bind_of expected,
    read ("approved_proposal_run_id", .str runId) (by simp [backupFields]),
    read ("approved_proposal_sha256", .str (digest approved)) (by simp [backupFields]), gated.archived,
    require_bind_of roots, isSha,
    read ("new_ledger_sha256", .str (digest (ledger.update write.patch))) (by simp [backupFields])]
  dsimp only
  rw [require_bind_of (decide_eq_true (hexDigest _))]
  exact ⟨_, rfl⟩

/-- The archive is held to the digests and the run id that it carries itself. -/
theorem requiredRoots_of_readable (hexDigest : ∀ d, (digest d).length = 64)
    (writes : Writes digest store startedAt approved proposed runId ledger control write)
    (readable : Readable approved proposed ledger) :
    requiredRoots digest (ledger.update write.patch) write.backup
      = .ok ⟨.str (digest approved), .str runId, .str (digest (ledger.update write.patch))⟩ := by
  obtain ⟨checkpoint, observedAt, -, -, -, read⟩ := writes.read
  have valid := (proposalRunId_ok writes.gated.named).1
  have expected : (prospectiveArchiveDocumentFor (.str runId)).mapError (fun _ => archiveInvalid)
      = .ok (prospectiveArchivePrefix ++ runId) := by
    rw [archiveFor_text valid]
    rfl
  have digests : (isDigestText (.str (digest approved))
      && (Value.str write.archiveName).isStr (prospectiveArchivePrefix ++ runId)
      && isDigestText (.str (digest (ledger.update write.patch)))
      && (Value.str (digest (ledger.update write.patch))).isStr (digest (ledger.update write.patch)))
        = true := by
    simp only [isDigestText, hexDigest, writes.name, Value.isStr_str, decide_true,
      Bool.and_eq_true, and_self]
  unfold requiredRoots
  dsimp only
  rw [read ("archive_document", .str write.archiveName) (by simp [backupFields]),
    if_neg (writes.unretired readable), require_bind_of (writes.prospective readable),
    read ("approved_proposal_run_id", .str runId) (by simp [backupFields]),
    read ("approved_proposal_sha256", .str (digest approved)) (by simp [backupFields]),
    read ("new_ledger_sha256", .str (digest (ledger.update write.patch))) (by simp [backupFields]),
    bind_of expected, require_bind_of digests]
  rfl

/-- It accepts all of them, when the times of the checkpoint can be read. -/
theorem validated_of_readable (hexDigest : ∀ d, (digest d).length = 64)
    (writes : Writes digest store startedAt approved proposed runId ledger control write)
    (readable : Readable approved proposed ledger)
    (timed : ∀ checkpoint observedAt, proposed.get? "earn_accrual_checkpoint" = some (.dict checkpoint) →
      checkpoint.get? "observed_at" = some observedAt → ∃ opened, earnTime observedAt = .ok opened) :
    ∃ material, validateProspectiveRebaseMaterial digest (ledger.update write.patch) write.backup
      = .ok material := by
  obtain ⟨checkpoint, observedAt, stored, observed, ⟨marker, isMarker, patched, keys⟩, read⟩ := writes.read
  have gated := writes.gated
  obtain ⟨opened, instant⟩ := timed checkpoint observedAt stored observed
  obtain ⟨⟨observedText, rfl⟩, opening⟩ := utcTime_of_earnTime instant
  obtain ⟨number, plain, valid⟩ := readable.plain
  have sameText := gated.named
  rw [plain, proposalRunId_text valid] at sameText
  cases sameText
  have digests := requiredRoots_of_readable hexDigest writes readable
  have named : (⟨markerKeys.map fun key => (key, pyGet write.backup key)⟩ : Document) = marker := by
    rw [keys]
  have oldLedger : asMapping archiveInvalid (pyGet write.backup "ledger") = .ok ledger := by
    rw [read ("ledger", .dict ledger) (by simp [backupFields])]
    rfl
  have oldControl : asMapping archiveInvalid (pyGet write.backup "recovery_control") = .ok control := by
    rw [read ("recovery_control", .dict control) (by simp [backupFields])]
    rfl
  have approval : asMapping archiveInvalid (pyGet write.backup "approved_proposal") = .ok approved := by
    rw [read ("approved_proposal", .dict approved) (by simp [backupFields])]
    rfl
  have fields : asMapping archiveInvalid (pyGet approved "proposed_fields") = .ok proposed := by
    rw [gated.fields]
    rfl
  have marked : asMapping archiveInvalid (pyGet (ledger.update write.patch) "accounting_rebase")
      = .ok marker := by
    rw [patched, pyGet, get?_written, if_pos rfl]
    rfl
  have point : asMapping attributeError
      ((proposed.get? "earn_accrual_checkpoint").getD (.dict .empty)) = .ok checkpoint := by
    rw [stored]
    rfl
  have snapshot : pyGet (ledger.update write.patch) "last_balance_snapshot"
      = pyGet proposed "last_balance_snapshot" := by
    obtain ⟨value, found⟩ := gated.present (show "last_balance_snapshot" ∈ proposedFieldKeys by decide)
    rw [patched, pyGet, pyGet, get?_written, if_neg (by decide), Dict.get?_update, found]
    rfl
  have self : Value.equalsDict marker marker = true := by
    rw [isMarker]
    exact marker_self observedText
  have observation : marker.get? "opening_balance_observed_at" = some (.str observedText) := by
    rw [isMarker]
    rfl
  have kept : Value.equalsDict (ledger.update write.patch)
      ((ledger.update proposed).set "accounting_rebase" (.dict marker)) = true := by
    rw [patched, ← equalsDict_congr (written_same ledger proposed marker)]
    apply equalsDict_self.mpr
    intro key value found
    rw [get?_written] at found
    by_cases isMarkerKey : key = "accounting_rebase"
    · rw [if_pos isMarkerKey] at found
      cases found
      rw [Value.equals]
      exact self
    · rw [if_neg isMarkerKey] at found
      exact readable.numbers key value isMarkerKey found
  obtain ⟨submission, isSubmission, safe⟩ := submission_safe writes marker
  have order : asMapping attributeError
      (((ledger.update write.patch).get? "order_submission").getD (.dict .empty)) = .ok submission := by
    rw [patched, isSubmission]
    rfl
  obtain ⟨quantities, readable⟩ := openingQuantities_iff.mpr readable.opening
  obtain ⟨held, assets, isHeld, areAssets⟩ := gated.checkpoint
  have sameCheckpoint := get?_of_pyGet isHeld
  rw [stored] at sameCheckpoint
  cases sameCheckpoint
  have checks : ((Value.str (digest approved)).isStr (digest approved)
      && isTrue (pyGet approved "historical_difference_unresolved")
      && (pyGet approved "ledger_sha256").isStr (digest ledger)
      && (pyGet approved "control_sha256").isStr (digest control)
      && (pyGet write.backup "approved_proposal_run_id").equals (.str runId)
      && (pyGet write.backup "approved_proposal_sha256").equals (.str (digest approved))
      && isTrue (pyGet write.backup "historical_difference_unresolved")
      && (pyGet write.backup "new_ledger_sha256").equals (.str (digest (ledger.update write.patch)))
      && (pyGet write.backup "valuation_price_source").isStr "binance_get_avg_price_estimate") = true := by
    rw [read ("approved_proposal_run_id", .str runId) (by simp [backupFields]),
      read ("approved_proposal_sha256", .str (digest approved)) (by simp [backupFields]),
      read ("historical_difference_unresolved", .bool true) (by simp [backupFields]),
      read ("new_ledger_sha256", .str (digest (ledger.update write.patch))) (by simp [backupFields]),
      read ("valuation_price_source", .str "binance_get_avg_price_estimate") (by simp [backupFields]),
      writes.ledgerDigest, writes.controlDigest]
    simp only [Bool.and_eq_true, gated.unresolved, Value.isStr_str, equals_self_str,
      show Source.isTrue (.bool true) = true from rfl, and_self]
  have bound : ((pyGet write.backup "archive_document").isStr prospectiveArchiveDocument
      || (pyGet approved "proposal_run_id").equals (.str runId)
        && (pyGet approved "archive_document").equals (pyGet write.backup "archive_document")) = true := by
    rw [read ("archive_document", .str write.archiveName) (by simp [backupFields]), plain, gated.archived,
      writes.name, equals_self_str, equals_self_str, Bool.and_self, Bool.or_true]
  have observedEqual : ((pyGet marker "opening_balance_observed_at").equals (pyGet checkpoint "observed_at")
      && Value.equalsDict (ledger.update write.patch)
        ((ledger.update proposed).set "accounting_rebase" (.dict marker))) = true := by
    rw [kept, Bool.and_true, pyGet, pyGet, observation, observed]
    exact equals_self_str observedText
  have observationItem : item (.dict marker) "opening_balance_observed_at" = .ok (.str observedText) := by
    rw [item, observation]
    rfl
  have assetsItem : item (.dict checkpoint) "assets" = .ok (.dict assets) := by
    rw [item, areAssets]
    rfl
  unfold validateProspectiveRebaseMaterial
  dsimp only
  rw [named, bind_of digests, bind_of oldLedger, bind_of oldControl, bind_of approval, bind_of fields,
    bind_of marked, require_bind_of checks, require_bind_of bound, require_bind_of self, bind_of point,
    require_bind_of observedEqual, bind_of order, require_bind_of safe, snapshot, bind_of readable,
    bind_of observationItem, bind_of opening, bind_of assetsItem]
  exact ⟨_, rfl⟩

/-- Both readers accept the two written documents if and only if they are readable. -/
theorem accepted_iff (hexDigest : ∀ d, (digest d).length = 64)
    (writes : Writes digest store startedAt approved proposed runId ledger control write)
    (timed : ∀ checkpoint observedAt, proposed.get? "earn_accrual_checkpoint" = some (.dict checkpoint) →
      checkpoint.get? "observed_at" = some observedAt → ∃ opened, earnTime observedAt = .ok opened) :
    Accepted digest (ledger.update write.patch) write.backup ↔ Readable approved proposed ledger := by
  constructor
  · rintro ⟨-, material, success⟩
    exact readable_of_validated writes success
  · intro readable
    exact ⟨binding_of_readable hexDigest writes readable,
      validated_of_readable hexDigest writes readable timed⟩

end Accepts

/-! ## Runs -/

section Runs
variable {first last store : MigrationStore} {events : List MigrationEvent}

/-- No step replaces an archive. -/
theorem archive_kept {next : MigrationStore} {event : MigrationEvent} {name : String} {document : Document}
    (archived : store.archives.get? name = some document) (taken : MigrationStep digest store event next) :
    next.archives.get? name = some document := by
  have different : ∀ other, store.archives.get? other = none → name ≠ other := by
    rintro other fresh rfl
    rw [archived] at fresh
    cases fresh
  cases taken with
  | commit preflight written =>
    obtain ⟨approved, proposed, runId, ledger, control, -, writes⟩ := transaction_ok written
    exact (Dict.get?_set_ne _ _ (different _ writes.fresh)).trans archived
  | archive value fresh => exact (Dict.get?_set_ne _ _ (different _ fresh)).trans archived
  | _ => exact archived

/-- No step of a run rewrites an archive. -/
theorem archive_kept_run {name : String} {document : Document}
    (archived : store.archives.get? name = some document) (run : Run (MigrationStep digest) store events last) :
    last.archives.get? name = some document := by
  induction run with
  | start => exact archived
  | next earlier taken ih => exact archive_kept ih taken

/-- What a commit of a run wrote, and what its readers make of it. -/
structure Committed (digest : Document → String) (approval : Value) (write : MigrationWrite)
    (store last : MigrationStore) : Prop where
  documents : ∃ approved proposed ledger control,
    approval = .dict approved ∧ pyGet approved "proposed_fields" = .dict proposed
      ∧ (∃ updateTime, store.ledger = some (ledger, updateTime)) ∧ store.control = some control
      ∧ pyGet write.backup "ledger" = .dict ledger
      ∧ pyGet write.backup "recovery_control" = .dict control
      ∧ (∀ key, key ∉ proposedFieldKeys → key ≠ "accounting_rebase" →
        (ledger.update write.patch).get? key = ledger.get? key)
      ∧ (Accepted digest (ledger.update write.patch) write.backup ↔ Readable approved proposed ledger)
  archived : last.archives.get? write.archiveName = some write.backup

theorem committed_of_step {after : MigrationStore} {approval : Value} {write : MigrationWrite}
    (hexDigest : ∀ d, (digest d).length = 64) {store' : MigrationStore}
    (taken : MigrationStep digest store (.committed approval write store') after)
    (rest : Run (MigrationStep digest) after events last) :
    store' = store ∧ (∃ updateTime, after = store.commit write updateTime)
      ∧ Committed digest approval write store last := by
  cases taken with
  | commit preflight written =>
    obtain ⟨approved, proposed, runId, ledger, control, accepted, writes⟩ := transaction_ok written
    refine ⟨rfl, ⟨_, rfl⟩, ⟨approved, proposed, ledger, control, (validate_ok accepted).1,
      writes.gated.fields, writes.ledgerRead, writes.controlRead, ?_, ?_, ?_, ?_⟩, ?_⟩
    · obtain ⟨checkpoint, observedAt, -, -, -, read⟩ := writes.read
      exact read ("ledger", .dict ledger) (by simp [backupFields])
    · obtain ⟨checkpoint, observedAt, -, -, -, read⟩ := writes.read
      exact read ("recovery_control", .dict control) (by simp [backupFields])
    · intro key other notMarker
      obtain ⟨checkpoint, observedAt, -, -, ⟨marker, -, patched, -⟩, -⟩ := writes.read
      rw [patched, get?_written, if_neg notMarker, Dict.get?_update, writes.gated.absent other,
        Option.none_or]
    · apply accepted_iff hexDigest writes
      intro checkpoint observedAt stored observed
      obtain ⟨text, opened, found, timed⟩ := preflight_ok preflight accepted stored
      cases observed.symm.trans found
      exact ⟨opened, timed⟩
    · exact archive_kept_run (Dict.get?_set_self _ _ _) rest

/-- **The migration.** In every run, each commit leaves the old ledger and control in the
archive it creates for good and touches only the proposed fields and the marker; the
readers accept its documents if and only if the approval and the ledger are `Readable`.
No approval commits twice, and a failed attempt leaves the store as it was. -/
theorem migrations_accepted_iff (hexDigest : ∀ d, (digest d).length = 64)
    (run : Run (MigrationStep digest) first events last) :
    (∀ front back approval write store, events = front ++ .committed approval write store :: back →
      Committed digest approval write store last
        ∧ Run (MigrationStep digest) first front store
        ∧ ∃ updateTime, Run (MigrationStep digest) (store.commit write updateTime) back last)
    ∧ (∀ front middle back approval other write again store later,
      events = front ++ .committed approval write store :: (middle ++ .committed other again later :: back) →
        approval ≠ other)
    ∧ ∀ front back approval, events = front ++ .failed approval :: back →
      ∃ store, Run (MigrationStep digest) first front store ∧ Run (MigrationStep digest) store back last := by
  refine ⟨?_, ?_, ?_⟩
  · rintro front back approval write store rfl
    obtain ⟨before, after, earlier, taken, rest⟩ := run.split
    obtain ⟨rfl, ⟨updateTime, rfl⟩, committed⟩ := committed_of_step hexDigest taken rest
    exact ⟨committed, earlier, updateTime, rest⟩
  · rintro front middle back approval other write again store later rfl rfl
    obtain ⟨before, after, -, taken, rest⟩ := run.split
    obtain ⟨between, final, middleRun, second, -⟩ := rest.split
    cases taken with
    | commit preflight written =>
    cases second with
    | commit preflight' written' =>
      obtain ⟨approved, proposed, runId, ledger, control, accepted, writes⟩ := transaction_ok written
      obtain ⟨approved', proposed', runId', ledger', control', accepted', writes'⟩ :=
        transaction_ok written'
      cases Except.ok.inj (accepted.symm.trans accepted')
      cases Except.ok.inj (writes.gated.named.symm.trans writes'.gated.named)
      have archived := archive_kept_run (Dict.get?_set_self _ _ _) middleRun
      rw [writes.name, ← writes'.name, writes'.fresh] at archived
      cases archived
  · rintro front back approval rfl
    obtain ⟨before, after, earlier, taken, rest⟩ := run.split
    cases taken with
    | fail => exact ⟨_, earlier, rest⟩
    | refuse => exact ⟨_, earlier, rest⟩

end Runs

end Texts

/-! ## An approval whose run id is a number -/

local instance : CharacterTable := asciiTable

def exampleScope : String := String.ofList (List.replicate 64 'e')

/-- A digest that tells the five documents apart. -/
def exampleDigest (d : Document) : String :=
  String.ofList (List.replicate 64
    (if d.contains "proposed_fields" then 'a' else if d.contains "recovery_control" then 'b'
      else if d.contains "accounting_rebase" then 'c' else if d.contains "order_submission" then 'd' else 'f'))

def exampleLedger : Document :=
  ⟨[("order_submission", .dict ⟨[("state", .str "TERMINAL")]⟩),
    ("last_balance_snapshot", .dict ⟨[("USDT", .float (.finite false 80))]⟩),
    ("strategy_note", .str "kept")]⟩

def exampleControl : Document := ⟨[("state", .str "RECONCILE_ONLY")]⟩

def exampleStore : MigrationStore where
  owner := none
  ledger := some (exampleLedger, "2026-09-30T23:00:00+00:00")
  control := some exampleControl
  archives := .empty

def exampleCheckpoint (observedAt : String) : Value :=
  .dict ⟨[("account_scope_sha256", .str exampleScope), ("observed_at", .str observedAt),
    ("execution_authority_granted", .bool false),
    ("assets", .dict ⟨[("USDT", .dict ⟨[("quantity", .str "100"), ("spot_free", .str "100"),
      ("spot_locked", .str "0"), ("products", .dict .empty)]⟩)]⟩)]⟩

def exampleCursor : Value := .dict ⟨[("records", .dict .empty)]⟩

theorem hundred_atLeastTwo : Nat.AtLeastTwo 100 := inferInstance
attribute [local instance] hundred_atLeastTwo

def exampleFields : Document :=
  ⟨[("daily_trend_pnl_basis", .str "cash_flow"), ("daily_trend_cash_flow_usdt", .int 0),
    ("daily_trend_net_invested_usdt", .int 0), ("daily_trend_risk_base_usdt", .int 0),
    ("daily_trend_third_fee_usdt", .int 0),
    ("last_balance_snapshot", .dict ⟨[("USDT", .float (.finite false 100))]⟩),
    ("daily_equity_base", .int 100), ("daily_trend_equity_base", .int 100),
    ("last_reset_date", .str "2026-10-01"),
    ("earn_accrual_checkpoint", exampleCheckpoint "2026-10-01T00:00:00+00:00"),
    ("earn_accounted_net_changes", .dict ⟨[("USDT", .str "0")]⟩),
    ("external_cash_flow_cursor", exampleCursor)]⟩

def exampleApproval (runId : Value) : Document :=
  ⟨[("proposal_run_id", runId), ("historical_difference_unresolved", .bool true),
    ("opening_mode", .str "prospective"), ("executable_candidate", .bool false),
    ("source_sha", .str (String.ofList (List.replicate 40 '9'))),
    ("ledger_sha256", .str (exampleDigest exampleLedger)),
    ("control_sha256", .str (exampleDigest exampleControl)),
    ("ledger_update_time", .str "2026-09-30T23:00:00+00:00"),
    ("archive_document", .str "MULTI_ASSET_STATE__before_rebase_35525044419"),
    ("proposed_fields", .dict exampleFields)]⟩

def exampleNow : Instant := (earnTime (.str "2026-10-01T01:00:00+00:00")).toOption.getD 0

def exampleEvidence : PreflightEvidence where
  expectedScope := .str exampleScope
  controlScope := fun _ => .ok (.str exampleScope)
  fresh := .ok ⟨[("observation_completed_at", .str "2026-10-01T01:00:05+00:00"),
    ("earn_accrual_checkpoint", exampleCheckpoint "2026-10-01T01:00:04+00:00"),
    ("external_cash_flow_cursor", exampleCursor)]⟩
  observedScope := exampleScope
  openOrders := false
  recentExecutions := false
  now := exampleNow
  decision := exampleNow + 10000000

theorem length_exampleDigest (d : Document) : (exampleDigest d).length = 64 := by
  rw [exampleDigest, String.length_ofList, List.length_replicate]

/-- An attempt that passes its preflight and writes is one step. -/
theorem example_commits {approval : Document}
    (decided : (prospectivePreflight exampleDigest exampleEvidence (.dict approval) exampleStore).toOption
      = some exampleEvidence.decision)
    (written : (prospectiveTransaction exampleDigest exampleStore (.dict approval)
      (DateTime.isoformat exampleEvidence.decision)).isOk = true) :
    ∃ write, Run (MigrationStep exampleDigest) exampleStore
      ([] ++ [.committed (.dict approval) write exampleStore])
      (exampleStore.commit write "2026-10-01T01:00:10+00:00") := by
  cases preflight : prospectivePreflight exampleDigest exampleEvidence (.dict approval) exampleStore with
  | error raised =>
    rw [preflight] at decided
    cases decided
  | ok decision =>
    rw [preflight] at decided
    cases Option.some.inj decided
    cases outcome : prospectiveTransaction exampleDigest exampleStore (.dict approval)
        (DateTime.isoformat exampleEvidence.decision) with
    | error raised =>
      rw [outcome] at written
      cases written
    | ok write => exact ⟨write, .next .start (.commit preflight outcome)⟩

theorem text_run_id_commits : ∃ write, Run (MigrationStep exampleDigest) exampleStore
    ([] ++ [.committed (.dict (exampleApproval (.str "35525044419"))) write exampleStore])
    (exampleStore.commit write "2026-10-01T01:00:10+00:00") :=
  example_commits (by decide +kernel) (by decide +kernel)

theorem migrations_accepted_iff_text : ∃ write last,
    Committed exampleDigest (.dict (exampleApproval (.str "35525044419"))) write exampleStore last := by
  obtain ⟨write, run⟩ := text_run_id_commits
  exact ⟨write, _, ((migrations_accepted_iff length_exampleDigest run).1 [] [] _ write exampleStore rfl).1⟩

/-- The number commits like its text, but no validator takes the two documents back. -/
theorem numeric_run_id_is_unreadable : ∃ write, Run (MigrationStep exampleDigest) exampleStore
    ([] ++ [.committed (.dict (exampleApproval (.int 35525044419))) write exampleStore])
    (exampleStore.commit write "2026-10-01T01:00:10+00:00")
      ∧ ¬ Accepted exampleDigest (exampleLedger.update write.patch) write.backup := by
  obtain ⟨write, run⟩ := example_commits (show _ = _ by decide +kernel)
    (show (prospectiveTransaction exampleDigest exampleStore (.dict (exampleApproval (.int 35525044419)))
      (DateTime.isoformat exampleEvidence.decision)).isOk = true by decide +kernel)
  refine ⟨write, run, ?_⟩
  obtain ⟨before, after, -, taken, -⟩ := run.split
  obtain ⟨rfl, -, committed⟩ := committed_of_step length_exampleDigest taken .start
  obtain ⟨approved, proposed, ledger, control, same, -, ⟨updateTime, ledgerRead⟩, -, -, -, -, accepted⟩ :=
    committed.documents
  cases same
  cases ledgerRead
  intro taken
  obtain ⟨text, plain, -⟩ := (accepted.mp taken).plain
  cases plain

end BinancePlatform.Guarantees.ProspectiveArchive
