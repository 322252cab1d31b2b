import BinancePlatform.Source.IntervalReceipt

/-!
# Reading retained receipts

`application/interval_receipt_reader_candidate.py`: one supplied receipt is checked
against the producer's own validation, and a batch is accepted when its distinct
intervals follow one another from the start to the end of the cutover.
-/

set_option autoImplicit false

namespace BinancePlatform.Source
open BinancePlatform.Library

/-- What `_read_receipt` returns. -/
structure ReceiptMaterial where
  payload : Document
  start : Instant
  finish : Instant
  logicalId : String
  version : String
  serialized : List Char
  encodedBytes : ℕ

def receiptKeys : List String :=
  ["interval", "interval_id_sha256", "payload_sha256", "schema_version", "source"]

def sourceKeys : List String :=
  ["ledger_after_sha256", "ledger_before_sha256", "ledger_before_version", "ledger_path", "patch_sha256"]

def readerReceiptInvalid : ReceiptError := .blocked "interval_reader_receipt_invalid"
def readerConflict : ReceiptError := .conflict "interval_reader_existing_conflict"

/-- A text that a pattern describes, where `d` stands for a decimal digit. -/
def matchesPattern : List Char → List Char → Bool
  | [], [] => true
  | p :: pattern, c :: cs =>
    (if p = 'd' then (NumberText.digitOf? c).isSome else p = c) && matchesPattern pattern cs
  | _, _ => false

def versionPattern : List Char := "dddd-dd-ddTdd:dd:dd.dddddddddZ".toList

def isVersion : Value → Bool
  | .str s => matchesPattern versionPattern s.toList
  | _ => false

def isShortText : Value → Bool
  | .str s => s.length ≤ 80
  | _ => false

def stringOf : Value → String
  | .str s => s
  | _ => ""

def receiptPath (ledgerPath logicalId : String) : String := ledgerPath ++ "__interval_receipt_" ++ logicalId

section Digests
variable (sha256 : List Char → String)

/-- `_read_receipt`; an entry is a path and a receipt. -/
def readReceipt (ledgerPath scope : String) (entry : Value × Value) :
    Except ReceiptError ReceiptMaterial := do
  require (match entry.1 with | .str _ => true | _ => false) readerReceiptInvalid
  let receipt ← receiptMapping readerReceiptInvalid entry.2
  require (sameKeySet receipt.keys receiptKeys && (pyGet receipt "schema_version").isStr receiptSchema)
    readerReceiptInvalid
  let source ← receiptMapping readerReceiptInvalid (pyGet receipt "source")
  let interval ← receiptMapping readerReceiptInvalid (pyGet receipt "interval")
  require (sameKeySet interval.keys intervalFields && interval.items.all fun e => isShortText e.2)
    readerReceiptInvalid
  let material ← payloadMaterial sha256 (.dict interval)
  let payloadDigest ← receiptDigest sha256 (.dict material.payload)
  require ((pyGet receipt "interval_id_sha256").isStr material.logicalId
    && (pyGet receipt "payload_sha256").isStr payloadDigest) readerReceiptInvalid
  require (sameKeySet source.keys sourceKeys) readerReceiptInvalid
  require ((pyGet source "ledger_path").isStr ledgerPath
    && (pyGet material.payload "account_scope_sha256").isStr scope
    && entry.1.isStr (receiptPath ledgerPath material.logicalId))
    (.blocked "interval_reader_binding_mismatch")
  let version := stringOf (pyGet source "ledger_before_version")
  require (isVersion (pyGet source "ledger_before_version")
    && isHexDigest (pyGet source "ledger_before_sha256")
    && isHexDigest (pyGet source "ledger_after_sha256") && isHexDigest (pyGet source "patch_sha256"))
    readerReceiptInvalid
  let _ ← receiptTime (.str (String.ofList (version.toList.take 19 ++ ['Z'])))
  let serialized ← receiptJson (.dict receipt)
  return { payload := material.payload, start := material.start, finish := material.finish,
           logicalId := material.logicalId, version, serialized,
           encodedBytes := (stringOf entry.1).utf8ByteSize + serialized.length }

end Digests

/-! ## The batch -/

structure Cutover where
  maxReceipts : ℕ
  maxBytes : ℕ
  ledgerPath : String
  scope : String
  strategyProfile : String
  lifecycleStreamId : String
  start : Instant
  finish : Instant

/-- The arguments of `prepare_retained_interval_preview` other than the receipts. -/
structure PreviewRequest where
  ledgerPath : Value
  accountScope : Value
  cutoverStartAt : Value
  cutoverEndAt : Value
  strategyProfile : Value
  lifecycleStreamId : Value
  maxReceipts : Value
  maxBytes : Value

def labelChar (c : Char) : Bool :=
  ('A' ≤ c && c ≤ 'Z') || ('a' ≤ c && c ≤ 'z') || ('0' ≤ c && c ≤ '9') || c = '_' || c = '-'

def isLabel : Value → Bool
  | .str s => fullMatch labelChar 1 100 s
  | _ => false

def readLimit (top : ℤ) : Value → Except ReceiptError ℕ
  | .int n => do
    require (decide (1 ≤ n) && decide (n ≤ top)) (.blocked "interval_reader_limits_invalid")
    return n.toNat
  | _ => .error (.blocked "interval_reader_limits_invalid")

/-- The checks that do not look into the receipts. -/
def readRequest (request : PreviewRequest) (count : ℕ) : Except ReceiptError Cutover := do
  let maxReceipts ← readLimit 1000 request.maxReceipts
  let maxBytes ← readLimit 1048576 request.maxBytes
  require (count ≤ maxReceipts) (.blocked "interval_reader_count_limit")
  let ledgerPath ← requirePath request.ledgerPath
  require (isHexDigest request.accountScope && isLabel request.strategyProfile
    && isLabel request.lifecycleStreamId) (.blocked "interval_reader_binding_invalid")
  let start ← receiptTime request.cutoverStartAt
  let finish ← receiptTime request.cutoverEndAt
  require (decide (start < finish)) (.blocked "interval_reader_cutover_invalid")
  return { maxReceipts, maxBytes, ledgerPath, scope := stringOf request.accountScope,
           strategyProfile := stringOf request.strategyProfile,
           lifecycleStreamId := stringOf request.lifecycleStreamId, start, finish }

/-- The loop's variables: `by_id` in insertion order, `by_end`, and the two counts. -/
structure Batch where
  kept : List ReceiptMaterial
  byEnd : Dict Instant Instant
  totalBytes : ℕ
  duplicates : ℕ

def Batch.empty : Batch := ⟨[], .empty, 0, 0⟩

/-- One round of the loop over the supplied receipts. -/
def takeReceipt (cutover : Cutover) (batch : Batch) (material : ReceiptMaterial) :
    Except ReceiptError Batch := do
  let totalBytes := batch.totalBytes + material.encodedBytes
  require (totalBytes ≤ cutover.maxBytes) (.blocked "interval_reader_bytes_limit")
  require (decide (cutover.start ≤ material.start) && decide (material.finish ≤ cutover.finish))
    (.blocked "interval_reader_coverage_outside_cutover")
  match batch.kept.find? fun m => m.logicalId = material.logicalId with
  | some previous => do
    require (previous.serialized = material.serialized) readerConflict
    return { batch with totalBytes, duplicates := batch.duplicates + 1 }
  | none => do
    require ((batch.byEnd.get? material.finish).all fun start => start = material.start) readerConflict
    return { kept := batch.kept ++ [material],
             byEnd := batch.byEnd.set material.finish material.start,
             totalBytes, duplicates := batch.duplicates }

/-- `sorted(..., key=lambda material: (material[1], material[2]))`. -/
def sortedReceipts (kept : List ReceiptMaterial) : List ReceiptMaterial :=
  kept.insertionSort fun a b => a.start < b.start ∨ (a.start = b.start ∧ a.finish ≤ b.finish)

/-- The loop over the sorted receipts: the final cursor. -/
def followReceipts : Instant → Option String → List ReceiptMaterial → Except ReceiptError Instant
  | cursor, _, [] => .ok cursor
  | cursor, lastVersion, material :: rest => do
    require (decide (cursor ≤ material.start)) (.blocked "interval_reader_coverage_overlap")
    require (decide (material.start = cursor)) (.blocked "interval_reader_coverage_gap")
    require (lastVersion.all fun last => decide (last < material.version))
      (.blocked "interval_reader_source_order_invalid")
    followReceipts material.finish (some material.version) rest

def previewRecord (cutover : Cutover) (material : ReceiptMaterial) : Value :=
  .dict ⟨[("strategy_profile", .str cutover.strategyProfile), ("domain", .str "crypto"),
    ("record_kind", .str "execution"), ("recorded_at", .str (DateTime.isoformat material.finish)),
    ("lifecycle_stream_id", .str cutover.lifecycleStreamId),
    ("execution_result", .dict ⟨[("external_cash_flow_interval", .dict material.payload)]⟩)]⟩

structure IntervalReceiptPreview where
  recordsJson : List (List Char)
  intervalIds : List String
  payloadSha256s : List String
  inputCount : ℕ
  duplicateCount : ℕ
  encodedBytes : ℕ

section Digests
variable (sha256 : List Char → String)

/-- `_prepare`. -/
def prepare (request : PreviewRequest) (receipts : List (Value × Value)) :
    Except ReceiptError IntervalReceiptPreview := do
  let cutover ← readRequest request receipts.length
  let batch ← receipts.foldlM (fun batch entry => do
    let material ← readReceipt sha256 cutover.ledgerPath cutover.scope entry
    takeReceipt cutover batch material) Batch.empty
  let ordered := sortedReceipts batch.kept
  let cursor ← followReceipts cutover.start none ordered
  require (decide (cursor = cutover.finish)) (.blocked "interval_reader_coverage_gap")
  let recordsJson ← ordered.mapM fun material => receiptJson (previewRecord cutover material)
  let payloadSha256s ← ordered.mapM fun material => receiptDigest sha256 (.dict material.payload)
  return { recordsJson, intervalIds := ordered.map ReceiptMaterial.logicalId, payloadSha256s,
           inputCount := receipts.length, duplicateCount := batch.duplicates,
           encodedBytes := batch.totalBytes }

/-- `re.fullmatch(r"interval_reader_[a-z_]+", reason)`. -/
def isReaderReason (reason : String) : Bool :=
  let stem := "interval_reader_".toList
  stem.isPrefixOf reason.toList && stem.length < reason.toList.length
    && (reason.toList.drop stem.length).all fun c => ('a' ≤ c && c ≤ 'z') || c = '_'

def prepareRetainedIntervalPreview (request : PreviewRequest) (receipts : List (Value × Value)) :
    Except ReceiptError IntervalReceiptPreview :=
  match prepare sha256 request receipts with
  | .ok preview => .ok preview
  | .error (.conflict _) => .error readerConflict
  | .error (.blocked reason) =>
    .error (.blocked (if isReaderReason reason then reason else "interval_reader_receipt_invalid"))
  | .error (.uncertain _) => .error (.blocked "interval_reader_material_invalid")

end Digests
end BinancePlatform.Source
