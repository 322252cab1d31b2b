import BinancePlatform.Library.CasLoop
import BinancePlatform.Source.EarnAccrual
import Mathlib.Data.List.Sort

/-!
# The daily candidate

`update_window` of `notifications/unified_producer.py`: the reports and events of one
window are merged into one stored document, a row for each run. `project_reports` and
the validation of an execution receipt are taken as given. The scalars that are only
carried or compared stand for the JSON values they are; a digest, the rest of an event
and the rest of a projected row stay opaque.
-/

set_option autoImplicit false

namespace BinancePlatform.Source
open BinancePlatform.Library

/-- What `identity` returns. -/
structure NotificationScope where
  platformId : String
  targetId : String
  opaqueAccountUid : String
  strategyProfile : String
  deriving DecidableEq

/-- A runtime report; `errors`, `error_summary.errors`, `execution_blocked_reason` and
`circuit_breaker_triggered` by their truth values, the receipt by its outcome. -/
structure RuntimeReport (Digest Target : Type) where
  runId : String
  startedAt : String
  status : String
  dryRun : Bool
  runtimeTarget : Target
  strategyProfile : String
  errors : Bool
  summaryErrors : Bool
  executionBlocked : Bool
  breakerTriggered : Bool
  receiptOutcome : Option String
  digest : Option Digest
  routine : Bool

/-- A source fact; `summary` is `{"notification_digest": …}` or, after a conflict, `{}`,
`errors` the messages of `error_summary`. -/
structure SourceFact (Digest : Type) where
  runId : String
  startedAt : String
  status : String
  dryRun : Bool
  archived : Bool
  summary : Option (Option Digest)
  evidenceIssue : Option String
  errors : List String
  deriving DecidableEq

structure WindowEvent (Body : Type) where
  dedupeKey : String
  incidentReason : Option String
  sourceRunId : Option String
  scope : NotificationScope
  businessDay : String
  occurredAt : Instant
  body : Body
  deriving DecidableEq

/-- A row that `project_reports` returns. -/
structure ProjectedRow (Rest : Type) where
  orderCount : Option ℤ
  fillCount : Option ℤ
  cycleCount : Option ℤ
  status : String
  reasonCode : Option String
  rest : Rest
  deriving DecidableEq

/-- A row of the candidate; an absent `source_run_id`, as older producers leave it, is
the empty text. `known` is `field_status`. -/
structure CandidateRow (Digest Body Rest : Type) where
  projected : ProjectedRow Rest
  sourceRunId : String
  sourceFact : Option (SourceFact Digest)
  events : List (WindowEvent Body)
  known : Bool × Bool × Bool
  archivePending : Bool
  deriving DecidableEq

/-- The document of a window. `source_facts` and `notification_events` are those of the
draft that came before; `legacy_evidence` is empty where it is absent. -/
structure WindowCandidate (Digest Body Rest : Type) where
  windowId : String
  reportDate : String
  runs : List (CandidateRow Digest Body Rest)
  legacyEvidence : List (CandidateRow Digest Body Rest)
  sourceFacts : Dict String (SourceFact Digest)
  notificationEvents : Dict String (WindowEvent Body)
  deriving DecidableEq

/-- What the environment and the window fix, and the functions taken as given. -/
structure CandidateWindow (Digest Target Rest : Type) where
  runtimeTarget : Target
  dryRunOnly : Bool
  scope : NotificationScope
  businessDay : String
  start : Instant
  finish : Instant
  windowId : String
  reportDate : String
  projectReport : RuntimeReport Digest Target → Except PyException Unit
  projectFact : SourceFact Digest → Except PyException (ProjectedRow Rest)
  receiptAttaches : RuntimeReport Digest Target → Bool

structure WindowCall (Digest Target Body : Type) where
  reports : List (RuntimeReport Digest Target)
  events : List (WindowEvent Body)
  archived : Bool
  completeArchive : Bool
  day : Option String

section Producer
variable {Digest Target Body Rest : Type}

/-! ## A report and its fact -/

/-- `report_issue`, without the severity. -/
def reportIssue (attaches : RuntimeReport Digest Target → Bool) (report : RuntimeReport Digest Target) :
    Option String :=
  if report.status ≠ "ok" ∨ report.errors ∨ report.summaryErrors then some "real_error"
  else if report.breakerTriggered ∨ report.executionBlocked then some "risk_escalation"
  else
    match report.receiptOutcome with
    | none => some "receipt_missing"
    | some outcome =>
      if !attaches report then some "receipt_unacceptable"
      else if outcome ∈ ["submitted", "broker_acknowledged", "partially_filled", "reconciliation_required"] then
        some "order_status_unknown"
      else if outcome ∉ ["no_action", "no_signal", "no_rebalance", "filled"] then some "receipt_unacceptable"
      else if !report.routine then some "receipt_unacceptable"
      else none

/-- The issue of an archived report; a live report has none. -/
def evidenceIssue (attaches : RuntimeReport Digest Target → Bool) (archived : Bool)
    (report : RuntimeReport Digest Target) : Option String :=
  if archived then reportIssue attaches report else none

/-- The report carries an error, an execution block, a breaker trigger or an issue. -/
def carriesAlert (attaches : RuntimeReport Digest Target → Bool) (archived : Bool)
    (report : RuntimeReport Digest Target) : Bool :=
  report.errors || report.summaryErrors || report.executionBlocked || report.breakerTriggered
    || (evidenceIssue attaches archived report).isSome

/-- `_source`. -/
def sourceOf (attaches : RuntimeReport Digest Target → Bool) (archived : Bool)
    (report : RuntimeReport Digest Target) : SourceFact Digest :=
  let issue := evidenceIssue attaches archived report
  { runId := report.runId, startedAt := report.startedAt, status := report.status,
    dryRun := report.dryRun, archived,
    summary := some (if archived && issue.isNone then report.digest else none),
    evidenceIssue := issue,
    errors := if carriesAlert attaches archived report then ["source_cycle_alert"] else [] }

/-! ## The call before the loop -/

/-- `datetime.fromisoformat(started_at.replace("Z", "+00:00"))`, with a zone. -/
def reportStamp (startedAt : String) : Except PyException Instant :=
  match (DateTime.fromIsoformat (zuluReplaced startedAt)).bind DateTime.Parsed.instant? with
  | some stamp => .ok stamp
  | none => .error (valueError "candidate_source_time_invalid")

variable [DecidableEq Digest] [DecidableEq Target] [DecidableEq Body]

/-- One round of the loop over the reports. -/
def takeReport (w : CandidateWindow Digest Target Rest) (now : Instant) (archived : Bool)
    (incoming : Dict String (SourceFact Digest)) (report : RuntimeReport Digest Target) :
    Except PyException (Dict String (SourceFact Digest)) := do
  require (report.runtimeTarget = w.runtimeTarget && report.strategyProfile = w.scope.strategyProfile
    && report.dryRun = w.dryRunOnly) (valueError "notification_target_mismatch")
  let stamp ← reportStamp report.startedAt
  require (decide (stamp ≤ now)) (valueError "candidate_source_time_invalid")
  require (decide (w.start ≤ stamp) && decide (stamp < w.finish))
    (valueError "candidate_source_outside_window")
  w.projectReport report
  let source := sourceOf w.receiptAttaches archived report
  require ((incoming.get? report.runId).all fun other => other = source)
    (valueError "candidate_duplicate_run_conflict")
  return incoming.set report.runId source

/-- Everything before the loop, for a call of this window: the incoming facts. -/
def prepareCall (w : CandidateWindow Digest Target Rest) (now : Instant)
    (call : WindowCall Digest Target Body) : Except PyException (Dict String (SourceFact Digest)) := do
  let stamps ← call.reports.mapM fun report => reportStamp report.startedAt
  -- The days of the events and of the reports, and the given one, are this one.
  require ((!call.reports.isEmpty || !call.events.isEmpty || call.day.isSome)
    && call.day.all (fun day => day = w.businessDay)
    && call.events.all (fun event => event.businessDay = w.businessDay)
    && stamps.all fun stamp => decide (w.start ≤ stamp) && decide (stamp < w.finish))
    (valueError "candidate_window_ambiguous")
  let incoming ← call.reports.foldlM (takeReport w now call.archived) .empty
  require (call.events.all fun event => decide (event.occurredAt ≤ now))
    (valueError "candidate_source_time_invalid")
  return incoming

/-! ## One merge -/

/-- The entry of the ledger that a row carries. -/
def CandidateRow.source (row : CandidateRow Digest Body Rest) : Option (String × SourceFact Digest) :=
  if row.sourceRunId = "" then none else row.sourceFact.map fun fact => (row.sourceRunId, fact)

/-- The ledger of the draft, else the facts of the rows. -/
def sourcesOf (previous : WindowCandidate Digest Body Rest) : Dict String (SourceFact Digest) :=
  if previous.sourceFacts.items.isEmpty then Dict.empty.setAll (previous.runs.filterMap CandidateRow.source)
  else previous.sourceFacts

/-- A later fact of a run over the one that is held. -/
def combineFacts (prior source : SourceFact Digest) : SourceFact Digest :=
  if prior.archived && !source.archived then prior
  else
    -- Contradictory completed revisions keep the incident and lose their counts.
    let revised := if prior.archived && source.archived && prior ≠ source then
        { source with status := "error", summary := none, errors := ["candidate_source_conflict"] }
      else source
    if prior.errors.isEmpty then revised else { revised with errors := prior.errors }

def mergeFact (sources : Dict String (SourceFact Digest)) (incoming : String × SourceFact Digest) :
    Dict String (SourceFact Digest) :=
  sources.set incoming.1 ((sources.get? incoming.1).elim incoming.2 fun prior => combineFacts prior incoming.2)

def mergeSources (sources incoming : Dict String (SourceFact Digest)) : Dict String (SourceFact Digest) :=
  incoming.items.foldl mergeFact sources

section Digests
variable (sha256 : String → String)

/-- The dedupe key, and the digest of an incident's reason. -/
def eventKey (event : WindowEvent Body) : String :=
  match event.incidentReason with
  | some reason => if reason = "" then event.dedupeKey else event.dedupeKey ++ ":" ++ sha256 reason
  | none => event.dedupeKey

/-- The events of the draft and of the rows. -/
def eventsOf (previous : WindowCandidate Digest Body Rest) : Dict String (WindowEvent Body) :=
  previous.notificationEvents.setAll
    ((previous.runs.flatMap CandidateRow.events).map fun event => (eventKey sha256 event, event))

/-- One round of the loop over the events. -/
def addEvent (scope : NotificationScope) (sources : Dict String (SourceFact Digest))
    (facts : Dict String (WindowEvent Body)) (event : WindowEvent Body) :
    Except PyException (Dict String (WindowEvent Body)) := do
  require (event.dedupeKey ≠ "" && event.scope = scope) (valueError "candidate_event_identity_unknown")
  require (event.sourceRunId.any sources.contains) (valueError "candidate_business_run_unverified")
  require ((facts.get? (eventKey sha256 event)).all fun other => other = event)
    (valueError "candidate_event_conflict")
  return facts.set (eventKey sha256 event) event

end Digests

/-- `sorted(sources.items())`. -/
def sortedSources (sources : Dict String (SourceFact Digest)) : List (String × SourceFact Digest) :=
  sources.items.insertionSort fun a b => a.1 ≤ b.1

/-- The events of one run, in the order of the facts. -/
def eventsOn (facts : Dict String (WindowEvent Body)) (run : String) : List (WindowEvent Body) :=
  (facts.items.map Prod.snd).filter fun event => event.sourceRunId = some run

/-- One row of the payload. That `project_reports` refuses an empty run is stated here. -/
def candidateRow (w : CandidateWindow Digest Target Rest) (facts : Dict String (WindowEvent Body))
    (entry : String × SourceFact Digest) : Except PyException (CandidateRow Digest Body Rest) := do
  require (entry.2.runId ≠ "") (valueError "candidate_run_id_missing")
  let projected ← w.projectFact entry.2
  return { projected, sourceRunId := entry.1, sourceFact := some entry.2, events := eventsOn facts entry.1,
           known := (projected.orderCount.isSome, projected.fillCount.isSome, projected.cycleCount.isSome),
           archivePending := !entry.2.archived }

/-- The rows of an older producer, which stay as evidence until a complete archive. -/
def legacyOf (previous : WindowCandidate Digest Body Rest) : List (CandidateRow Digest Body Rest) :=
  if previous.sourceFacts.items.isEmpty && previous.runs.any (fun row => row.sourceFact.isNone) then previous.runs
  else previous.legacyEvidence

def coverageUnknown (row : CandidateRow Digest Body Rest) : CandidateRow Digest Body Rest :=
  { row with projected :=
      ⟨none, none, none, "alert", some "candidate_legacy_coverage_unknown", row.projected.rest⟩ }

/-- The payload without legacy evidence. -/
def plainCandidate (w : CandidateWindow Digest Target Rest) (rows : List (CandidateRow Digest Body Rest)) :
    WindowCandidate Digest Body Rest :=
  { windowId := w.windowId, reportDate := w.reportDate, runs := rows, legacyEvidence := [],
    sourceFacts := .empty, notificationEvents := .empty }

def noCandidate : WindowCandidate Digest Body Rest := ⟨"", "", [], [], .empty, .empty⟩

/-- A call as the loop takes it: with its incoming facts. -/
structure PreparedCall (Digest Target Body : Type) where
  call : WindowCall Digest Target Body
  incoming : Dict String (SourceFact Digest)

/-- The body of the loop up to the payload. -/
def mergeWindow (w : CandidateWindow Digest Target Rest) (sha256 : String → String)
    (stored : Option (WindowCandidate Digest Body Rest)) (request : PreparedCall Digest Target Body) :
    Except PyException (WindowCandidate Digest Body Rest) := do
  let previous := stored.getD noCandidate
  let sources := mergeSources (sourcesOf previous) request.incoming
  let facts ← request.call.events.foldlM (addEvent sha256 w.scope sources) (eventsOf sha256 previous)
  let rows ← (sortedSources sources).mapM (candidateRow w facts)
  require (decide (sources.items.length ≤ 10000) && decide (facts.items.length ≤ 20000))
    (valueError "candidate_window_budget_exceeded")
  if (legacyOf previous).isEmpty || request.call.completeArchive then return plainCandidate w rows
  else return { plainCandidate w (rows.map coverageUnknown) with legacyEvidence := legacyOf previous }

/-- The calls that reach the loop. -/
def Prepared (w : CandidateWindow Digest Target Rest) (request : PreparedCall Digest Target Body) : Prop :=
  ∃ now, prepareCall w now request.call = .ok request.incoming

/-- `update_window` of any number of callers: eight attempts each. -/
abbrev WindowStep (w : CandidateWindow Digest Target Rest) (sha256 : String → String) :
    CasLoop.System (WindowCandidate Digest Body Rest) (PreparedCall Digest Target Body) →
      CasLoop.Event (WindowCandidate Digest Body Rest) (PreparedCall Digest Target Body) →
        CasLoop.System (WindowCandidate Digest Body Rest) (PreparedCall Digest Target Body) → Prop :=
  CasLoop.Step (mergeWindow w sha256) (Prepared w) 8

end Producer
end BinancePlatform.Source
