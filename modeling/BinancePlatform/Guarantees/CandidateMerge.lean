import BinancePlatform.Guarantees.RunFacts
import BinancePlatform.Guarantees.CandidateLedger

/-!
# The daily candidate over any run

Any number of callers merge their reports and events into the stored candidate. While
every merge is steady, no fact and no event is lost or doubled, every alert stays, and a
repeated call changes nothing.

* What the stored rows say of the merged calls is an invariant of the merge
  (`history_start`, `history_step`, `history_run`).
* It makes a repeated call idle (`History.repeats`) and the stored candidate intact
  (`History.intact`, `candidate_intact`).
* A live report with an alert that arrives after the archived report of its run is dropped
  (`late_alert_dropped`).

The store swaps by generation; `project_reports` and `attach_execution_receipt` are
parameters.
-/

set_option autoImplicit false

namespace BinancePlatform.Guarantees.CandidateMerge
open BinancePlatform.Library BinancePlatform.Source RunFacts CandidateLedger

variable {Digest Target Body Rest : Type} [DecidableEq Digest] [DecidableEq Target] [DecidableEq Body]

/-! ## Reports and facts -/

section Window
variable {w : CandidateWindow Digest Target Rest}

theorem takeReport_ok {now : Instant} {archived : Bool} {incoming next : Dict String (SourceFact Digest)}
    {report : RuntimeReport Digest Target} (success : takeReport w now archived incoming report = .ok next) :
    ((incoming.get? report.runId).all fun other =>
        other = sourceOf w.receiptAttaches archived report) = true
      ∧ next = incoming.set report.runId (sourceOf w.receiptAttaches archived report) := by
  obtain ⟨-, success⟩ := require_bind success
  obtain ⟨stamp, -, success⟩ := bind_ok success
  obtain ⟨-, success⟩ := require_bind success
  obtain ⟨-, success⟩ := require_bind success
  obtain ⟨_, -, success⟩ := bind_ok success
  obtain ⟨agreed, success⟩ := require_bind success
  cases success
  exact ⟨agreed, rfl⟩

theorem takeReports_ok {now : Instant} {archived : Bool} {reports : List (RuntimeReport Digest Target)}
    {incoming last : Dict String (SourceFact Digest)}
    (success : reports.foldlM (takeReport w now archived) incoming = .ok last) (run : String)
    (x : SourceFact Digest) : last.get? run = some x ↔ incoming.get? run = some x
      ∨ ∃ report ∈ reports, report.runId = run ∧ x = sourceOf w.receiptAttaches archived report := by
  induction reports generalizing incoming with
  | nil =>
    cases success
    simp
  | cons report rest ih =>
    rw [List.foldlM_cons] at success
    obtain ⟨next, taken, success⟩ := bind_ok success
    obtain ⟨agreed, rfl⟩ := takeReport_ok taken
    have here : ∀ other, incoming.get? report.runId = some other →
        other = sourceOf w.receiptAttaches archived report := by
      intro other stored
      simpa [stored] using agreed
    rw [ih success, Dict.get?_set]
    by_cases same : run = report.runId
    · subst same
      rw [if_pos rfl]
      constructor
      · rintro (first | ⟨later, member, named, rfl⟩)
        · exact .inr ⟨report, List.mem_cons_self, rfl, (Option.some.inj first).symm⟩
        · exact .inr ⟨later, List.mem_cons_of_mem _ member, named, rfl⟩
      · rintro (stored | ⟨later, member, named, rfl⟩)
        · exact .inl (congrArg some (here x stored).symm)
        · rcases List.mem_cons.mp member with rfl | inRest
          · exact .inl rfl
          · exact .inr ⟨later, inRest, named, rfl⟩
    · rw [if_neg same]
      constructor
      · rintro (stored | ⟨later, member, named, rfl⟩)
        · exact .inl stored
        · exact .inr ⟨later, List.mem_cons_of_mem _ member, named, rfl⟩
      · rintro (stored | ⟨later, member, named, rfl⟩)
        · exact .inl stored
        · rcases List.mem_cons.mp member with rfl | inRest
          · exact absurd named.symm same
          · exact .inr ⟨later, inRest, named, rfl⟩

omit [DecidableEq Body] in
/-- The incoming facts of a prepared call are those of its reports. -/
theorem incoming_iff {request : PreparedCall Digest Target Body} (prepared : Prepared w request)
    (run : String) (x : SourceFact Digest) : request.incoming.get? run = some x
      ↔ ∃ report ∈ request.call.reports, report.runId = run
        ∧ x = sourceOf w.receiptAttaches request.call.archived report := by
  obtain ⟨now, success⟩ := prepared
  obtain ⟨stamps, -, success⟩ := bind_ok success
  obtain ⟨-, success⟩ := require_bind success
  obtain ⟨incoming, taken, success⟩ := bind_ok success
  obtain ⟨-, success⟩ := require_bind success
  cases success
  rw [takeReports_ok taken, Dict.get?_empty]
  simp

omit [DecidableEq Body] in
theorem incoming_named {request : PreparedCall Digest Target Body} (prepared : Prepared w request) {run : String}
    {x : SourceFact Digest} (arrives : request.incoming.get? run = some x) : x.runId = run := by
  obtain ⟨report, -, named, rfl⟩ := (incoming_iff prepared run x).mp arrives
  exact named

end Window

/-! ## The calls merged so far -/

/-- The fact was merged for the run. -/
def Past (merged : List (PreparedCall Digest Target Body)) (run : String) (x : SourceFact Digest) : Prop :=
  ∃ request ∈ merged, request.incoming.get? run = some x

omit [DecidableEq Digest] [DecidableEq Target] [DecidableEq Body] in
theorem past_append (merged : List (PreparedCall Digest Target Body)) (request : PreparedCall Digest Target Body)
    (run : String) (x : SourceFact Digest) :
    Past (merged ++ [request]) run x ↔ Past merged run x ∨ request.incoming.get? run = some x := by
  simp [Past, or_and_right, exists_or]

/-- Every incoming fact of the call is steady over what is held of its run. -/
def SteadyCall (stored : Option (WindowCandidate Digest Body Rest))
    (request : PreparedCall Digest Target Body) : Prop :=
  ∀ run x held, request.incoming.get? run = some x →
    (sourcesOf (stored.getD noCandidate)).get? run = some held → Steady held x

/-- What is stored after the calls merged so far. -/
structure History (w : CandidateWindow Digest Target Rest) (sha256 : String → String)
    (merged : List (PreparedCall Digest Target Body)) (stored : Option (WindowCandidate Digest Body Rest)) : Prop where
  settled : ∀ doc, stored = some doc → Settled w sha256 doc
  begun : stored = none → merged = []
  held : ∀ run held, (sourcesOf (stored.getD noCandidate)).get? run = some held →
    (∃ x, Past merged run x) ∧ Held (Past merged run) held
  absent : ∀ run, (sourcesOf (stored.getD noCandidate)).get? run = none → ∀ x, ¬ Past merged run x
  events : ∀ k x, (eventsOf sha256 (stored.getD noCandidate)).get? k = some x
    ↔ (∃ request ∈ merged, x ∈ request.call.events) ∧ k = eventKey sha256 x
  checked : ∀ request ∈ merged, ∀ event ∈ request.call.events,
    (event.dedupeKey ≠ "" && event.scope = w.scope) = true

section Window
variable {w : CandidateWindow Digest Target Rest} {sha256 : String → String}
  {merged : List (PreparedCall Digest Target Body)} {request : PreparedCall Digest Target Body}
  {stored : Option (WindowCandidate Digest Body Rest)}

omit [DecidableEq Digest] [DecidableEq Target] [DecidableEq Body] in
/-- Nothing is stored before the first call. -/
theorem history_start : History w sha256 ([] : List (PreparedCall Digest Target Body))
    (none : Option (WindowCandidate Digest Body Rest)) := by
  refine ⟨fun _ same => (nomatch same), fun _ => rfl, fun run held same => (nomatch same), fun run _ x => ?_,
    fun k x => ?_, fun _ member => (nomatch member)⟩
  · rintro ⟨request, member, -⟩
    cases member
  · constructor
    · exact fun same => nomatch same
    · rintro ⟨⟨request, member, -⟩, -⟩
      cases member

omit [DecidableEq Body] [DecidableEq Digest] [DecidableEq Target] in
/-- No rows of an older producer are left. -/
theorem History.legacy (history : History w sha256 merged stored) :
    legacyOf (stored.getD noCandidate) = [] := by
  cases stored with
  | none => rfl
  | some doc =>
    have settled := history.settled doc rfl
    have own : doc.runs.any (fun row => row.sourceFact.isNone) = false := by
      rw [List.any_eq_false]
      intro row member
      obtain ⟨entry, -, made⟩ := forall₂_exists (mapM_ok settled.rendered).flip member
      rw [(candidateRow_ok made).2.2.1]
      simp
    rw [Option.getD_some, legacyOf, own, Bool.and_false, if_neg (by simp), settled.plain]
    rfl

omit [DecidableEq Digest] [DecidableEq Target] [DecidableEq Body] in
theorem History.keyed (history : History w sha256 merged stored) :
    Keyed sha256 (sourcesOf (stored.getD noCandidate)) (eventsOf sha256 (stored.getD noCandidate)) := by
  cases stored with
  | none => exact ⟨fun _ _ same => (nomatch same), fun _ _ same => (nomatch same), fun _ _ same => (nomatch same)⟩
  | some doc => exact (history.settled doc rfl).keyed

/-- What one merge makes of the document before it. -/
structure MergedOver (w : CandidateWindow Digest Target Rest) (sha256 : String → String)
    (stored : Option (WindowCandidate Digest Body Rest)) (request : PreparedCall Digest Target Body)
    (sources : Dict String (SourceFact Digest)) (facts : Dict String (WindowEvent Body))
    (next : WindowCandidate Digest Body Rest) : Prop where
  ledger : sources = mergeSources (sourcesOf (stored.getD noCandidate)) request.incoming
  added : request.call.events.foldlM (addEvent sha256 w.scope sources)
    (eventsOf sha256 (stored.getD noCandidate)) = .ok facts
  rendered : (sortedSources sources).mapM (candidateRow w facts) = .ok next.runs
  small : sources.items.length ≤ 10000 ∧ facts.items.length ≤ 20000
  plain : next = plainCandidate w next.runs

omit [DecidableEq Target] in
theorem mergeWindow_ok (legacy : legacyOf (stored.getD noCandidate) = []) {next : WindowCandidate Digest Body Rest}
    (success : mergeWindow w sha256 stored request = .ok next) :
    ∃ sources facts, MergedOver w sha256 stored request sources facts next := by
  obtain ⟨facts, added, success⟩ := bind_ok success
  obtain ⟨rows, rendered, success⟩ := bind_ok success
  obtain ⟨small, success⟩ := require_bind success
  rw [Bool.and_eq_true, decide_eq_true_eq, decide_eq_true_eq] at small
  dsimp only at success
  rw [legacy, List.isEmpty_nil, Bool.true_or, if_pos rfl] at success
  cases success
  exact ⟨_, facts, rfl, added, rendered, small, rfl⟩

/-- The events of the call join those of the document, each on a run of the ledger. -/
theorem MergedOver.keyed {sources : Dict String (SourceFact Digest)} {facts : Dict String (WindowEvent Body)}
    {next : WindowCandidate Digest Body Rest} (merging : MergedOver w sha256 stored request sources facts next)
    (prepared : Prepared w request)
    (before : Keyed sha256 (sourcesOf (stored.getD noCandidate)) (eventsOf sha256 (stored.getD noCandidate))) :
    Keyed sha256 sources facts := by
  obtain ⟨each, entries⟩ := addEvents_ok merging.added
  refine ⟨fun run fact found => ?_, fun k event found => ?_, fun k event found => ?_⟩
  · rw [merging.ledger, get?_mergeSources] at found
    cases arrives : request.incoming.get? run with
    | none =>
      rw [arrives] at found
      exact before.named run fact found
    | some x =>
      have named := incoming_named prepared arrives
      rw [arrives] at found
      cases held : (sourcesOf (stored.getD noCandidate)).get? run with
      | none =>
        rw [held] at found
        cases found
        exact named
      | some prior =>
        rw [held] at found
        cases found
        exact combine_runId (before.named run prior held) named
  · rcases (entries k event).mp found with earlier | ⟨-, key⟩
    · exact before.key k event earlier
    · exact key
  · rcases (entries k event).mp found with earlier | ⟨member, -⟩
    · obtain ⟨run, named, inLedger⟩ := before.run k event earlier
      refine ⟨run, named, ?_⟩
      rw [merging.ledger, get?_mergeSources]
      cases request.incoming.get? run with
      | none => exact inLedger
      | some x => rfl
    · have verified := (each event member).2
      cases named : event.sourceRunId with
      | none =>
        rw [named] at verified
        cases verified
      | some run =>
        rw [named] at verified
        exact ⟨run, rfl, verified⟩

omit [DecidableEq Digest] in
theorem held_congr {past other : SourceFact Digest → Prop} {held : SourceFact Digest}
    (same : ∀ x, past x ↔ other x) (inv : Held past held) : Held other held := by
  rwa [← funext fun x => propext (same x)]

/-- A steady merge extends the history by its call. -/
theorem history_step (history : History w sha256 merged stored) {after : Option (WindowCandidate Digest Body Rest)}
    (merges : CasLoop.Merges (mergeWindow w sha256) stored request after)
    (prepared : Prepared w request) (steady : SteadyCall stored request) :
    History w sha256 (merged ++ [request]) after := by
  obtain ⟨next, success, rfl⟩ := merges
  obtain ⟨sources, facts, merging⟩ := mergeWindow_ok history.legacy success
  have keyed := merging.keyed prepared history.keyed
  obtain ⟨each, entries⟩ := addEvents_ok merging.added
  have rendered := merging.rendered
  have ledger : ∀ run, (sourcesOf next).get? run = sources.get? run := by
    rw [merging.plain]
    exact get?_sourcesOf_plain keyed rendered
  have events : ∀ k, (eventsOf sha256 next).get? k = facts.get? k := by
    rw [merging.plain]
    exact get?_eventsOf_plain keyed rendered
  refine ⟨?_, fun none => (nomatch none), fun run held found => ?_, fun run found x => ?_, fun k x => ?_, ?_⟩
  · rintro doc ⟨⟩
    rw [merging.plain]
    exact settled_plain keyed rendered merging.small
  · rw [Option.getD_some, ledger, merging.ledger, get?_mergeSources] at found
    cases arrives : request.incoming.get? run with
    | none =>
      rw [arrives] at found
      obtain ⟨⟨x, known⟩, inv⟩ := history.held run held found
      refine ⟨⟨x, (past_append _ _ _ _).mpr (.inl known)⟩, held_congr (fun y => ?_) inv⟩
      rw [past_append, arrives]
      simp
    | some x =>
      rw [arrives, Option.elim_some] at found
      have here : Past (merged ++ [request]) run x := (past_append _ _ _ _).mpr (.inr arrives)
      refine ⟨⟨x, here⟩, ?_⟩
      cases before : (sourcesOf (stored.getD noCandidate)).get? run with
      | none =>
        rw [before] at found
        cases found
        refine held_congr (fun y => ?_) (held_first x)
        rw [past_append, arrives]
        constructor
        · rintro rfl
          exact .inr rfl
        · rintro (known | same)
          · exact absurd known (history.absent run before y)
          · exact (Option.some.inj same).symm
      | some prior =>
        rw [before] at found
        cases found
        obtain ⟨-, inv⟩ := history.held run prior before
        refine held_congr (fun y => ?_) (held_step inv (steady run x prior arrives before))
        rw [past_append, arrives, Option.some.injEq, eq_comm]
  · rw [Option.getD_some, ledger, merging.ledger, get?_mergeSources] at found
    rw [past_append]
    cases arrives : request.incoming.get? run with
    | none =>
      rw [arrives] at found
      rintro (known | same)
      · exact history.absent run found x known
      · cases same
    | some y =>
      rw [arrives] at found
      cases found
  · rw [Option.getD_some, events, entries, history.events]
    simp only [List.mem_append, List.mem_singleton, or_and_right, exists_or, exists_eq_left]
  · intro earlier member event inEvents
    rcases List.mem_append.mp member with known | last
    · exact history.checked earlier known event inEvents
    · rw [List.mem_singleton.mp last] at inEvents
      exact (each event inEvents).1

omit [DecidableEq Target] in
/-- A call that was merged, merged again, changes nothing. -/
theorem History.repeats {doc : WindowCandidate Digest Body Rest} (history : History w sha256 merged (some doc))
    (known : request ∈ merged) : mergeWindow w sha256 (some doc) request = .ok doc := by
  have settled := history.settled doc rfl
  have legacy := history.legacy
  rw [Option.getD_some] at legacy
  have ledger : mergeSources (sourcesOf doc) request.incoming = sourcesOf doc := by
    refine mergeSources_known fun run x arrives => ?_
    cases before : (sourcesOf doc).get? run with
    | none => exact absurd ⟨request, known, arrives⟩ (history.absent run before x)
    | some held => exact ⟨held, rfl, (history.held run held before).2.repeats ⟨request, known, arrives⟩⟩
  have facts : request.call.events.foldlM (addEvent sha256 w.scope (sourcesOf doc)) (eventsOf sha256 doc)
      = .ok (eventsOf sha256 doc) := by
    refine addEvents_known fun event member => ?_
    have stored := (history.events (eventKey sha256 event) event).mpr ⟨⟨request, known, member⟩, rfl⟩
    rw [Option.getD_some] at stored
    obtain ⟨run, named, inLedger⟩ := settled.keyed.run _ _ stored
    refine ⟨history.checked request known event member, ?_, stored⟩
    rw [named]
    exact inLedger
  have small : (decide ((sourcesOf doc).items.length ≤ 10000)
      && decide ((eventsOf sha256 doc).items.length ≤ 20000)) = true := by
    rw [Bool.and_eq_true, decide_eq_true_eq, decide_eq_true_eq]
    exact settled.small
  rw [mergeWindow, Option.getD_some]
  dsimp only
  rw [ledger, bind_of facts, bind_of settled.rendered, require_bind_of small, legacy, List.isEmpty_nil,
    Bool.true_or, if_pos rfl]
  exact congrArg Except.ok settled.plain.symm

/-- The induction over the merges of a run. -/
theorem history_run
    (run : Run (fun before request after => CasLoop.Merges (mergeWindow w sha256) before request after
      ∧ Prepared w request ∧ SteadyCall before request) none merged stored) :
    History w sha256 merged stored ∧ ∀ request ∈ merged, Prepared w request := by
  induction run with
  | start => exact ⟨history_start, fun _ member => (nomatch member)⟩
  | next earlier taken ih =>
    obtain ⟨history, prepared⟩ := ih
    obtain ⟨merges, accepted, steady⟩ := taken
    refine ⟨history_step history merges accepted steady, fun request member => ?_⟩
    rcases List.mem_append.mp member with known | last
    · exact prepared request known
    · rw [List.mem_singleton.mp last]
      exact accepted

end Window

section Window
variable {w : CandidateWindow Digest Target Rest} {sha256 : String → String}

/-! ## The stored candidate -/

/-- A report of the run was merged. -/
def MergedReport (merged : List (PreparedCall Digest Target Body)) (run : String) (archived : Bool)
    (report : RuntimeReport Digest Target) : Prop :=
  ∃ request ∈ merged, request.call.archived = archived ∧ report ∈ request.call.reports ∧ report.runId = run

omit [DecidableEq Body] in
theorem past_iff {merged : List (PreparedCall Digest Target Body)}
    (prepared : ∀ request ∈ merged, Prepared w request) (run : String) (x : SourceFact Digest) :
    Past merged run x ↔ ∃ archived report, MergedReport merged run archived report
      ∧ x = sourceOf w.receiptAttaches archived report := by
  constructor
  · rintro ⟨request, member, arrives⟩
    obtain ⟨report, inCall, named, rfl⟩ := (incoming_iff (prepared request member) run x).mp arrives
    exact ⟨_, report, ⟨request, member, rfl, inCall, named⟩, rfl⟩
  · rintro ⟨archived, report, ⟨request, member, rfl, inCall, named⟩, rfl⟩
    exact ⟨request, member, (incoming_iff (prepared request member) run _).mpr ⟨report, inCall, named, rfl⟩⟩

/-- The source facts of the document, with their runs. -/
def storedFacts (doc : WindowCandidate Digest Body Rest) : List (String × SourceFact Digest) :=
  doc.runs.filterMap CandidateRow.source

/-- Nothing of the merged calls is lost or doubled, and merging one of them again
changes nothing. -/
structure Intact (w : CandidateWindow Digest Target Rest) (sha256 : String → String)
    (merged : List (PreparedCall Digest Target Body)) (doc : WindowCandidate Digest Body Rest) : Prop where
  rows : ∀ row ∈ doc.runs, row.source.isSome = true
  one : ((storedFacts doc).map Prod.fst).Nodup
  runs : ∀ run, run ∈ (storedFacts doc).map Prod.fst ↔ ∃ archived report, MergedReport merged run archived report
  once : (doc.runs.flatMap CandidateRow.events).Nodup
  events : ∀ event, event ∈ doc.runs.flatMap CandidateRow.events
    ↔ ∃ request ∈ merged, event ∈ request.call.events
  archived : ∀ run fact, (run, fact) ∈ storedFacts doc →
    (fact.archived = true ↔ ∃ report, MergedReport merged run true report)
  alerts : ∀ run fact, (run, fact) ∈ storedFacts doc → ∀ archived report, MergedReport merged run archived report →
    carriesAlert w.receiptAttaches archived report = true → fact.errors ≠ []
  conflicts : ∀ run fact, (run, fact) ∈ storedFacts doc → ∀ report other, MergedReport merged run true report →
    MergedReport merged run true other →
      sourceOf w.receiptAttaches true report ≠ sourceOf w.receiptAttaches true other → fact.errors ≠ []
  repeats : ∀ request ∈ merged, mergeWindow w sha256 (some doc) request = .ok doc

omit [DecidableEq Digest] [DecidableEq Target] in
theorem sourceOf_archived (attaches : RuntimeReport Digest Target → Bool) (archived : Bool)
    (report : RuntimeReport Digest Target) : (sourceOf attaches archived report).archived = archived := rfl

omit [DecidableEq Digest] [DecidableEq Target] in
theorem sourceOf_errors {attaches : RuntimeReport Digest Target → Bool} {archived : Bool}
    {report : RuntimeReport Digest Target} (alert : carriesAlert attaches archived report = true) :
    (sourceOf attaches archived report).errors ≠ [] := by
  simp [sourceOf, alert]

omit [DecidableEq Digest] [DecidableEq Target] [DecidableEq Body] in
theorem mem_storedFacts {doc : WindowCandidate Digest Body Rest} (settled : Settled w sha256 doc) (run : String)
    (fact : SourceFact Digest) : (run, fact) ∈ storedFacts doc ↔ (sourcesOf doc).get? run = some fact := by
  rw [storedFacts, (rows_read settled.keyed settled.rendered).1, ← get?_congr_sorted,
    Dict.find_eq_some_iff_mem _ (sorted_nodup _)]

/-- A stored candidate with a history has every fact, event and alert of its calls. -/
theorem History.intact {merged : List (PreparedCall Digest Target Body)} {doc : WindowCandidate Digest Body Rest}
    (history : History w sha256 merged (some doc)) (prepared : ∀ request ∈ merged, Prepared w request) :
    Intact w sha256 merged doc := by
  have settled := history.settled doc rfl
  have held : ∀ {run : String} {fact : SourceFact Digest}, (run, fact) ∈ storedFacts doc →
      (∃ x, Past merged run x) ∧ Held (Past merged run) fact := fun member =>
    history.held _ _ ((mem_storedFacts settled _ _).mp member)
  have past : ∀ {run : String} {archived : Bool} {report : RuntimeReport Digest Target},
      MergedReport merged run archived report → Past merged run (sourceOf w.receiptAttaches archived report) :=
    fun known => (past_iff prepared _ _).mpr ⟨_, _, known, rfl⟩
  have readEvents := (rows_read settled.keyed settled.rendered).2
  refine ⟨?_, ?_, fun run => ?_, ?_, fun event => ?_, fun run fact member => ?_,
    fun run fact member archived report known alert => ?_,
    fun run fact member report other known another different => ?_, fun request known => history.repeats known⟩
  · intro row member
    obtain ⟨entry, inLedger, made⟩ := forall₂_exists (mapM_ok settled.rendered).flip member
    rw [candidateRow_source (sorted_named settled.keyed inLedger) made]
    rfl
  · rw [storedFacts, (rows_read settled.keyed settled.rendered).1]
    exact sorted_nodup _
  · constructor
    · intro member
      obtain ⟨⟨name, fact⟩, inFacts, rfl⟩ := List.mem_map.mp member
      obtain ⟨⟨x, known⟩, -⟩ := held inFacts
      obtain ⟨archived, report, merges, -⟩ := (past_iff prepared _ _).mp known
      exact ⟨archived, report, merges⟩
    · rintro ⟨archived, report, known⟩
      cases found : (sourcesOf doc).get? run with
      | none => exact absurd (past known) (history.absent run found _)
      | some fact => exact List.mem_map.mpr ⟨(run, fact), (mem_storedFacts settled _ _).mpr found, rfl⟩
  · rw [readEvents]
    exact List.Nodup.of_map _ (rowEvents_keys settled.keyed)
  · rw [readEvents, mem_rowEvents settled.keyed]
    constructor
    · rintro ⟨k, stored⟩
      exact ((history.events k event).mp stored).1
    · intro known
      exact ⟨_, (history.events _ event).mpr ⟨known, rfl⟩⟩
  · rw [(held member).2.archived]
    constructor
    · rintro ⟨x, known, archived⟩
      obtain ⟨_, report, merges, rfl⟩ := (past_iff prepared _ _).mp known
      rw [sourceOf_archived] at archived
      subst archived
      exact ⟨report, merges⟩
    · rintro ⟨report, known⟩
      exact ⟨_, past known, rfl⟩
  · exact (held member).2.errors _ (past known) (sourceOf_errors alert)
  · have inv := (held member).2
    rcases (inv.revisions _ (past known) rfl).2 with same | ⟨some, -⟩
    · rcases (inv.revisions _ (past another) rfl).2 with again | ⟨some, -⟩
      · exact absurd (same.trans again.symm) different
      · exact some
    · exact some

/-- In every run from no document whose merges are all steady, the stored document is
intact. -/
theorem candidate_intact
    {first last : CasLoop.System (WindowCandidate Digest Body Rest) (PreparedCall Digest Target Body)}
    {events : List (CasLoop.Event (WindowCandidate Digest Body Rest) (PreparedCall Digest Target Body))}
    (idle : ∀ who, first.callers who = .idle) (fresh : first.stored = none)
    (run : Run (WindowStep w sha256) first events last) (steady : CasLoop.EachMerge SteadyCall events) :
    (∀ doc, last.stored = some doc → Intact w sha256 (CasLoop.mergedRequests events) doc)
      ∧ (last.stored = none → CasLoop.mergedRequests events = []) := by
  have merges := CasLoop.merges_of_run idle run steady
  rw [fresh] at merges
  obtain ⟨history, prepared⟩ := history_run merges
  refine ⟨fun doc stored => ?_, history.begun⟩
  rw [stored] at history
  exact history.intact prepared

end Window

/-! ## A run and its two reports -/

def exampleProjection (fact : SourceFact Unit) : ProjectedRow Unit :=
  let known := fact.summary = some (some ())
  let count := if known then some 0 else none
  ⟨count, count, some 1, if known ∧ fact.errors = [] then "ok" else "alert", none, ()⟩

def exampleWindow : CandidateWindow Unit Unit Unit where
  runtimeTarget := ()
  dryRunOnly := false
  scope := ⟨"binance", "target", "account", "profile"⟩
  businessDay := "2026-09-13"
  start := 1789250400000000
  finish := 1789336800000000
  windowId := "sgt-0600:2026-09-13"
  reportDate := "2026-09-14"
  projectReport := fun _ => .ok ()
  projectFact := fun fact => .ok (exampleProjection fact)
  receiptAttaches := fun _ => true

def healthyReport : RuntimeReport Unit Unit where
  runId := "run"
  startedAt := "2026-09-13T02:00:00Z"
  status := "ok"
  dryRun := false
  runtimeTarget := ()
  strategyProfile := "profile"
  errors := false
  summaryErrors := false
  executionBlocked := false
  breakerTriggered := false
  receiptOutcome := some "no_action"
  digest := some ()
  routine := true

def failedReport : RuntimeReport Unit Unit := { healthyReport with errors := true }

/-- A call with the one report. -/
def exampleCall (archived : Bool) (report : RuntimeReport Unit Unit) : PreparedCall Unit Unit Unit where
  call := ⟨[report], [], archived, false, none⟩
  incoming := ⟨[("run", sourceOf exampleWindow.receiptAttaches archived report)]⟩

/-- The document with the one fact. -/
def exampleCandidate (fact : SourceFact Unit) : WindowCandidate Unit Unit Unit :=
  let projected := exampleProjection fact
  plainCandidate exampleWindow [⟨projected, "run", some fact, [],
    (projected.orderCount.isSome, projected.fillCount.isSome, projected.cycleCount.isSome), !fact.archived⟩]

def opening : CasLoop.System (WindowCandidate Unit Unit Unit) (PreparedCall Unit Unit Unit) :=
  ⟨none, 0, fun _ => .idle⟩

theorem healthy_prepared (archived : Bool) : Prepared exampleWindow (exampleCall archived healthyReport) := by
  cases archived <;> exact ⟨exampleWindow.finish, rfl⟩

theorem failed_prepared (archived : Bool) : Prepared exampleWindow (exampleCall archived failedReport) := by
  cases archived <;> exact ⟨exampleWindow.finish, rfl⟩

theorem get?_single {ν : Type} {key run : String} {value x : ν} (found : (Dict.mk [(key, value)]).get? run = some x) :
    x = value := by
  rw [Dict.get?, Dict.find] at found
  split at found
  · exact (Option.some.inj found).symm
  · cases found

/-- The incident that both callers tell of the run. -/
def incident : WindowEvent Unit :=
  ⟨"incident", some "breaker", some "run", exampleWindow.scope, "2026-09-13", 1789300000000000, ()⟩

/-- A call with the failed report and the incident. -/
def incidentCall (archived : Bool) : PreparedCall Unit Unit Unit where
  call := ⟨[failedReport], [incident], archived, false, none⟩
  incoming := ⟨[("run", sourceOf exampleWindow.receiptAttaches archived failedReport)]⟩

/-- The document with the one fact and the incident. -/
def incidentCandidate (archived : Bool) : WindowCandidate Unit Unit Unit :=
  let fact := sourceOf exampleWindow.receiptAttaches archived failedReport
  let projected := exampleProjection fact
  plainCandidate exampleWindow [⟨projected, "run", some fact, [incident],
    (projected.orderCount.isSome, projected.fillCount.isSome, projected.cycleCount.isSome), !archived⟩]

theorem incident_prepared (archived : Bool) : Prepared exampleWindow (incidentCall archived) := by
  cases archived <;> exact ⟨exampleWindow.finish, rfl⟩

theorem incident_merged (archived : Bool) :
    mergeWindow exampleWindow id none (incidentCall archived) = .ok (incidentCandidate archived) := by
  cases archived <;> rfl

theorem incident_completed : mergeWindow exampleWindow id (some (incidentCandidate false)) (incidentCall true)
    = .ok (incidentCandidate true) := rfl

/-- Two callers load no document; the one with the archived report finds the live one stored, and
merges again. -/
theorem candidate_intact_archived :
    Intact exampleWindow id [incidentCall false, incidentCall true] (incidentCandidate true) := by
  have begun : Run (WindowStep exampleWindow id) opening [] opening := .start
  have live := begun.next (.begin (show CasLoop.System.callers _ 0 = _ from rfl) (incident_prepared false))
  have both := live.next (.begin (show CasLoop.System.callers _ 1 = _ from rfl) (incident_prepared true))
  have loaded := both.next (.load (show CasLoop.System.callers _ 0 = _ from rfl) (incident_merged false) nofun)
  have loadedBoth := loaded.next (.load (show CasLoop.System.callers _ 1 = _ from rfl) (incident_merged true) nofun)
  have swapped := loadedBoth.next (.swap .returned (show CasLoop.System.callers _ 0 = _ from rfl) (.inl rfl))
  have stale := swapped.next (.stale (show CasLoop.System.callers _ 1 = _ from rfl) Nat.zero_ne_one)
  have again := stale.next (.load (show CasLoop.System.callers _ 1 = _ from rfl) incident_completed (by decide))
  have completed := again.next (.swap .returned (show CasLoop.System.callers _ 1 = _ from rfl) (.inl rfl))
  refine (candidate_intact (fun _ => rfl) rfl completed ?_).1 _ rfl
  intro request before member
  rcases (by simpa using member) with ⟨rfl, rfl⟩ | ⟨rfl, rfl⟩
  · exact fun _ _ _ _ none => nomatch none
  · intro run x held arrives stored
    have live : (Dict.mk [("run", sourceOf exampleWindow.receiptAttaches false failedReport)]).get? run
        = some held := stored
    rw [get?_single arrives, get?_single live]
    exact fun _ => rfl

/-- A live report with an alert, after the healthy archived report of its run. -/
theorem late_alert_dropped : ∃ events last doc, Run (WindowStep exampleWindow id) opening events last
    ∧ last.stored = some doc ∧ MergedReport (CasLoop.mergedRequests events) "run" false failedReport
    ∧ carriesAlert exampleWindow.receiptAttaches false failedReport = true
    ∧ (∃ fact, storedFacts doc = [("run", fact)] ∧ fact.errors = [])
    ∧ ¬ Intact exampleWindow id (CasLoop.mergedRequests events) doc := by
  have begun : Run (WindowStep exampleWindow id) opening [] opening := .start
  obtain ⟨middle, first, stored, others⟩ := CasLoop.swapped begun (show opening.callers 0 = .idle from rfl)
    (healthy_prepared true) (show mergeWindow exampleWindow id none _ = .ok (exampleCandidate
      (sourceOf exampleWindow.receiptAttaches true healthyReport)) from rfl) nofun
  have merged : mergeWindow exampleWindow id middle.stored (exampleCall false failedReport)
      = .ok (exampleCandidate (sourceOf exampleWindow.receiptAttaches true healthyReport)) := by
    rw [stored]
    rfl
  obtain ⟨last, run, kept⟩ := CasLoop.unswapped first (others 1 (by decide)) (failed_prepared false) merged stored
  have report : MergedReport [exampleCall true healthyReport, exampleCall false failedReport] "run" false
      failedReport :=
    ⟨exampleCall false failedReport, List.mem_cons_of_mem _ List.mem_cons_self, rfl, List.mem_cons_self, rfl⟩
  exact ⟨_, last, _, run, kept, report, rfl, ⟨_, rfl, rfl⟩,
    fun intact => intact.alerts "run" _ List.mem_cons_self false failedReport report rfl rfl⟩

end BinancePlatform.Guarantees.CandidateMerge
