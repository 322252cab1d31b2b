import BinancePlatform.Source.WindowMerge
import BinancePlatform.Library.DictTotal
import Mathlib.Data.String.Basic

/-!
# The ledger of the candidate

The rows of a candidate carry the facts and the events it was made from, and the next
merge reads them back.

* What is stored of a run after one call is the fold of its facts (`get?_mergeFacts`,
  `get?_mergeSources`).
* The rows that were written are read as the facts and the events they came from
  (`rows_read`, `sourcesOf_plain`, `eventsOf_plain`, together in `settled_plain`).
* An event is added once, and a known one changes nothing (`addEvents_ok`,
  `addEvents_known`).

The free-form fields of a row stay opaque.
-/

set_option autoImplicit false

namespace BinancePlatform.Guarantees.CandidateLedger
open BinancePlatform.Library BinancePlatform.Source

variable {Digest Target Body Rest : Type}

/-! ## The ledger of the runs -/

section Merge
variable [DecidableEq Digest]

/-- What is held of a run after a fold over facts with distinct runs. -/
theorem get?_mergeFacts {entries : List (String × SourceFact Digest)} (nodup : (entries.map Prod.fst).Nodup)
    (sources : Dict String (SourceFact Digest)) (run : String) :
    (entries.foldl mergeFact sources).get? run = (Dict.find run entries).elim (sources.get? run) fun x =>
      some ((sources.get? run).elim x fun prior => combineFacts prior x) := by
  induction entries generalizing sources with
  | nil => rfl
  | cons entry rest ih =>
    obtain ⟨key, x⟩ := entry
    obtain ⟨fresh, tail⟩ := List.nodup_cons.mp nodup
    rw [List.foldl_cons, ih tail, Dict.find, mergeFact, Dict.get?_set]
    by_cases same : key = run
    · subst same
      have absent : Dict.find key rest = none := (Dict.find_eq_none rest key).mpr fresh
      simp [absent]
    · simp [same, Ne.symm same]

/-- What is held of a run after the merge of one call. -/
theorem get?_mergeSources (sources incoming : Dict String (SourceFact Digest)) (run : String) :
    (mergeSources sources incoming).get? run = (incoming.get? run).elim (sources.get? run) fun x =>
      some ((sources.get? run).elim x fun prior => combineFacts prior x) := by
  rw [mergeSources, get?_mergeFacts incoming.items_nodup, Dict.find_items]

theorem mergeSources_known {sources incoming : Dict String (SourceFact Digest)}
    (known : ∀ run x, incoming.get? run = some x → ∃ held, sources.get? run = some held
      ∧ combineFacts held x = held) : mergeSources sources incoming = sources := by
  have all : ∀ entries : List (String × SourceFact Digest), (∀ e ∈ entries, ∃ held,
      sources.get? e.1 = some held ∧ combineFacts held e.2 = held) →
        entries.foldl mergeFact sources = sources := by
    intro entries
    induction entries with
    | nil => exact fun _ => rfl
    | cons entry rest ih =>
      intro each
      obtain ⟨held, stored, same⟩ := each entry List.mem_cons_self
      have kept : mergeFact sources entry = sources := by
        rw [mergeFact, stored]
        exact Dict.set_of_get? (by rw [stored]; exact congrArg some same.symm)
      rw [List.foldl_cons, kept]
      exact ih fun e member => each e (List.mem_cons_of_mem _ member)
  exact all _ fun e member => known e.1 e.2 ((Dict.mem_items _ _ _).mp member)

end Merge

theorem get?_congr_sorted (sources : Dict String (SourceFact Digest)) (run : String) :
    Dict.find run (sortedSources sources) = sources.get? run := by
  have perm : (sortedSources sources).Perm sources.items := List.perm_insertionSort _ _
  have distinct : ((sortedSources sources).map Prod.fst).Nodup :=
    (perm.map Prod.fst).nodup_iff.mpr sources.items_nodup
  apply Option.ext
  intro x
  rw [Dict.find_eq_some_iff_mem _ distinct, perm.mem_iff, Dict.mem_items]

theorem sorted_nodup (sources : Dict String (SourceFact Digest)) :
    ((sortedSources sources).map Prod.fst).Nodup :=
  ((List.perm_insertionSort _ _).map Prod.fst).nodup_iff.mpr sources.items_nodup

/-- What is sorted already is in its order. -/
theorem sortedSources_sorted (sources : Dict String (SourceFact Digest)) :
    sortedSources ⟨sortedSources sources⟩ = sortedSources sources := by
  have total : Std.Total fun a b : String × SourceFact Digest => a.1 ≤ b.1 := ⟨fun a b => le_total a.1 b.1⟩
  have trans : IsTrans (String × SourceFact Digest) fun a b => a.1 ≤ b.1 := ⟨fun a b c => le_trans⟩
  have items : (Dict.mk (sortedSources sources)).items = sortedSources sources :=
    Dict.items_eq_entries (sorted_nodup sources)
  rw [sortedSources, items]
  exact List.Pairwise.insertionSort_eq (List.pairwise_insertionSort _ _)

/-! ## The rows -/

/-- Every fact and every event is kept under its key, and the run of an event is in the
ledger. -/
structure Keyed (sha256 : String → String) (sources : Dict String (SourceFact Digest))
    (facts : Dict String (WindowEvent Body)) : Prop where
  named : ∀ run fact, sources.get? run = some fact → fact.runId = run
  key : ∀ k event, facts.get? k = some event → k = eventKey sha256 event
  run : ∀ k event, facts.get? k = some event → ∃ run, event.sourceRunId = some run
    ∧ (sources.get? run).isSome = true

theorem mem_facts {facts : Dict String (WindowEvent Body)} {event : WindowEvent Body} :
    event ∈ facts.items.map Prod.snd ↔ ∃ k, facts.get? k = some event := by
  simp [List.mem_map, Dict.mem_items]

theorem mem_eventsOn {facts : Dict String (WindowEvent Body)} {run : String} {event : WindowEvent Body} :
    event ∈ eventsOn facts run ↔ (∃ k, facts.get? k = some event) ∧ event.sourceRunId = some run := by
  rw [eventsOn, List.mem_filter, mem_facts, decide_eq_true_eq]

section Rendered
variable {sha256 : String → String} {sources : Dict String (SourceFact Digest)}
  {facts : Dict String (WindowEvent Body)}

theorem sorted_named (keyed : Keyed sha256 sources facts) {entry : String × SourceFact Digest}
    (member : entry ∈ sortedSources sources) : entry.2.runId = entry.1 := by
  rw [← Dict.find_eq_some_iff_mem _ (sorted_nodup sources), get?_congr_sorted] at member
  exact keyed.named entry.1 entry.2 member

theorem keys_eventsOn (keyed : Keyed sha256 sources facts) (run : String) :
    ((eventsOn facts run).map (eventKey sha256)).Nodup := by
  have keys : (facts.items.map Prod.snd).map (eventKey sha256) = facts.items.map Prod.fst := by
    rw [List.map_map]
    refine List.map_congr_left fun e member => ?_
    exact (keyed.key e.1 e.2 ((Dict.mem_items _ _ _).mp member)).symm
  have distinct : ((facts.items.map Prod.snd).map (eventKey sha256)).Nodup := keys ▸ facts.items_nodup
  exact distinct.sublist (List.filter_sublist.map _)

theorem event_of_key (keyed : Keyed sha256 sources facts) {a b : WindowEvent Body} {j k : String}
    (left : facts.get? j = some a) (right : facts.get? k = some b)
    (same : eventKey sha256 a = eventKey sha256 b) : a = b := by
  rw [keyed.key j a left, same, ← keyed.key k b right, right] at left
  exact (Option.some.inj left).symm

/-- The events of all runs, row by row. -/
def rowEvents (sources : Dict String (SourceFact Digest)) (facts : Dict String (WindowEvent Body)) :
    List (WindowEvent Body) := (sortedSources sources).flatMap fun e => eventsOn facts e.1

theorem rowEvents_keys (keyed : Keyed sha256 sources facts) :
    ((rowEvents sources facts).map (eventKey sha256)).Nodup := by
  rw [rowEvents, List.map_flatMap, List.nodup_flatMap]
  refine ⟨fun e _ => keys_eventsOn keyed e.1, ?_⟩
  have distinct := sorted_nodup sources
  rw [List.Nodup, List.pairwise_map] at distinct
  refine distinct.imp fun {a b} other => ?_
  rw [Function.onFun, List.disjoint_left]
  intro key inA inB
  obtain ⟨x, memberX, rfl⟩ := List.mem_map.mp inA
  obtain ⟨y, memberY, same⟩ := List.mem_map.mp inB
  obtain ⟨⟨j, storedX⟩, runX⟩ := mem_eventsOn.mp memberX
  obtain ⟨⟨k, storedY⟩, runY⟩ := mem_eventsOn.mp memberY
  obtain rfl := event_of_key keyed storedY storedX same
  exact other (Option.some.inj (runX.symm.trans runY))

theorem mem_rowEvents (keyed : Keyed sha256 sources facts) {event : WindowEvent Body} :
    event ∈ rowEvents sources facts ↔ ∃ k, facts.get? k = some event := by
  rw [rowEvents, List.mem_flatMap]
  constructor
  · rintro ⟨e, -, member⟩
    exact (mem_eventsOn.mp member).1
  · rintro ⟨k, stored⟩
    obtain ⟨run, named, inLedger⟩ := keyed.run k event stored
    obtain ⟨x, held⟩ := Option.isSome_iff_exists.mp inLedger
    rw [← get?_congr_sorted] at held
    exact ⟨(run, x), Dict.mem_of_find held, mem_eventsOn.mpr ⟨⟨k, stored⟩, named⟩⟩

theorem eventsOn_rowEvents {run : String} (inLedger : (sources.get? run).isSome = true) :
    (rowEvents sources facts).filter (fun event => event.sourceRunId = some run) = eventsOn facts run := by
  have single : ∀ entries : List (String × SourceFact Digest), (entries.map Prod.fst).Nodup →
      run ∈ entries.map Prod.fst →
      (entries.flatMap fun e => eventsOn facts e.1).filter (fun event => event.sourceRunId = some run)
        = eventsOn facts run := by
    have own : ∀ name, (eventsOn facts name).filter (fun event => event.sourceRunId = some run)
        = if name = run then eventsOn facts run else [] := by
      intro name
      split
      case isTrue same =>
        rw [same, List.filter_eq_self]
        exact fun event member => decide_eq_true (mem_eventsOn.mp member).2
      case isFalse other =>
        rw [List.filter_eq_nil_iff]
        intro event member named
        have both := (mem_eventsOn.mp member).2
        rw [of_decide_eq_true named] at both
        exact other (Option.some.inj both).symm
    intro entries
    induction entries with
    | nil => intro _ member; cases member
    | cons e rest ih =>
      intro nodup member
      obtain ⟨fresh, tail⟩ := List.nodup_cons.mp nodup
      rw [List.flatMap_cons, List.filter_append, own]
      by_cases same : e.1 = run
      · rw [if_pos same]
        have none : (rest.flatMap fun e => eventsOn facts e.1).filter (fun event => event.sourceRunId = some run)
            = [] := by
          rw [List.filter_eq_nil_iff]
          intro event inRest named
          obtain ⟨f, later, on⟩ := List.mem_flatMap.mp inRest
          have both := (mem_eventsOn.mp on).2
          rw [of_decide_eq_true named] at both
          exact fresh (same ▸ Option.some.inj both ▸ List.mem_map_of_mem later)
        rw [none, List.append_nil]
      · rw [if_neg same, List.nil_append]
        refine ih tail ?_
        rcases List.mem_cons.mp member with first | later
        · exact absurd first.symm same
        · exact later
  obtain ⟨x, held⟩ := Option.isSome_iff_exists.mp inLedger
  rw [← get?_congr_sorted] at held
  exact single _ (sorted_nodup sources) (List.mem_map_of_mem (Dict.mem_of_find held))

end Rendered

theorem mapM_congr_left {α β ε : Type} {f g : α → Except ε β} {xs : List α} (same : ∀ x ∈ xs, f x = g x) :
    xs.mapM f = xs.mapM g := by
  have maps : ∀ h : α → Except ε β, (xs.map h).mapM id = xs.mapM h := fun h => List.mapM_map
  rw [← maps f, List.map_congr_left same, maps g]

section Window
variable {w : CandidateWindow Digest Target Rest} {sha256 : String → String}
  {sources : Dict String (SourceFact Digest)} {facts : Dict String (WindowEvent Body)}
  {rows : List (CandidateRow Digest Body Rest)}

theorem candidateRow_ok {entry : String × SourceFact Digest} {row : CandidateRow Digest Body Rest}
    (success : candidateRow w facts entry = .ok row) :
    entry.2.runId ≠ "" ∧ row.sourceRunId = entry.1 ∧ row.sourceFact = some entry.2
      ∧ row.events = eventsOn facts entry.1 := by
  obtain ⟨named, success⟩ := require_bind success
  obtain ⟨projected, -, success⟩ := bind_ok success
  cases success
  exact ⟨of_decide_eq_true named, rfl, rfl, rfl⟩

theorem candidateRow_source {entry : String × SourceFact Digest} {row : CandidateRow Digest Body Rest}
    (named : entry.2.runId = entry.1) (success : candidateRow w facts entry = .ok row) :
    row.source = some entry := by
  obtain ⟨nonempty, run, fact, -⟩ := candidateRow_ok success
  rw [named] at nonempty
  rw [CandidateRow.source, run, if_neg nonempty, fact]
  rfl

/-- The rows read back the ledger they were made from. -/
theorem rows_read (keyed : Keyed sha256 sources facts)
    (rendered : (sortedSources sources).mapM (candidateRow w facts) = .ok rows) :
    rows.filterMap CandidateRow.source = sortedSources sources
      ∧ rows.flatMap CandidateRow.events = rowEvents sources facts := by
  have named : ∀ e ∈ sortedSources sources, e.2.runId = e.1 := fun e member => sorted_named keyed member
  rw [rowEvents]
  have paired := mapM_ok rendered
  clear rendered
  generalize sortedSources sources = entries at paired named ⊢
  induction paired with
  | nil => exact ⟨rfl, rfl⟩
  | cons head _ ih =>
    obtain ⟨first, later⟩ := List.forall_mem_cons.mp named
    obtain ⟨-, -, -, events⟩ := candidateRow_ok head
    rw [List.filterMap_cons, candidateRow_source first head, (ih later).1, List.flatMap_cons, List.flatMap_cons,
      events, (ih later).2]
    exact ⟨rfl, rfl⟩

/-- The facts of the rendered rows are those they were rendered from. -/
theorem sourcesOf_plain (keyed : Keyed sha256 sources facts)
    (rendered : (sortedSources sources).mapM (candidateRow w facts) = .ok rows) :
    sourcesOf (plainCandidate w rows) = ⟨sortedSources sources⟩ := by
  have fresh : (Dict.empty : Dict String (SourceFact Digest)).items.isEmpty = true := rfl
  rw [sourcesOf, plainCandidate, if_pos fresh]
  dsimp only
  rw [(rows_read keyed rendered).1, Dict.setAll_empty (sorted_nodup sources)]

/-- So are the events, each under the key it was stored by. -/
theorem eventsOf_plain (keyed : Keyed sha256 sources facts)
    (rendered : (sortedSources sources).mapM (candidateRow w facts) = .ok rows) :
    eventsOf sha256 (plainCandidate w rows)
      = ⟨(rowEvents sources facts).map fun event => (eventKey sha256 event, event)⟩ := by
  rw [eventsOf, plainCandidate]
  dsimp only
  rw [(rows_read keyed rendered).2, Dict.setAll_empty]
  rw [List.map_map]
  exact rowEvents_keys keyed

/-- A document as the merge leaves it. -/
structure Settled (w : CandidateWindow Digest Target Rest) (sha256 : String → String)
    (doc : WindowCandidate Digest Body Rest) : Prop where
  plain : doc = plainCandidate w doc.runs
  rendered : (sortedSources (sourcesOf doc)).mapM (candidateRow w (eventsOf sha256 doc)) = .ok doc.runs
  keyed : Keyed sha256 (sourcesOf doc) (eventsOf sha256 doc)
  small : (sourcesOf doc).items.length ≤ 10000 ∧ (eventsOf sha256 doc).items.length ≤ 20000

theorem get?_sourcesOf_plain (keyed : Keyed sha256 sources facts)
    (rendered : (sortedSources sources).mapM (candidateRow w facts) = .ok rows) (run : String) :
    (sourcesOf (plainCandidate w rows)).get? run = sources.get? run := by
  rw [sourcesOf_plain keyed rendered]
  exact get?_congr_sorted sources run

theorem get?_eventsOf_plain (keyed : Keyed sha256 sources facts)
    (rendered : (sortedSources sources).mapM (candidateRow w facts) = .ok rows) (k : String) :
    (eventsOf sha256 (plainCandidate w rows)).get? k = facts.get? k := by
  have distinct : (((rowEvents sources facts).map fun event => (eventKey sha256 event, event)).map
      Prod.fst).Nodup := by
    rw [List.map_map]
    exact rowEvents_keys keyed
  rw [eventsOf_plain keyed rendered]
  apply Option.ext
  intro event
  rw [Dict.get?, Dict.find_eq_some_iff_mem _ distinct, List.mem_map]
  constructor
  · rintro ⟨found, member, same⟩
    obtain ⟨rfl, rfl⟩ := Prod.mk.inj same
    obtain ⟨j, stored⟩ := (mem_rowEvents keyed).mp member
    rwa [← keyed.key j found stored]
  · intro stored
    exact ⟨event, (mem_rowEvents keyed).mpr ⟨k, stored⟩, by rw [keyed.key k event stored]⟩

/-- What the merge renders reads back what it was rendered from. -/
theorem settled_plain (keyed : Keyed sha256 sources facts)
    (rendered : (sortedSources sources).mapM (candidateRow w facts) = .ok rows)
    (small : sources.items.length ≤ 10000 ∧ facts.items.length ≤ 20000) :
    Settled w sha256 (plainCandidate w rows) := by
  have ledger := get?_sourcesOf_plain keyed rendered
  have events := get?_eventsOf_plain keyed rendered
  refine ⟨rfl, ?_, ⟨fun run fact stored => ?_, fun k event stored => ?_, fun k event stored => ?_⟩, ?_, ?_⟩
  · have distinct : (Dict.mk ((rowEvents sources facts).map fun event =>
        (eventKey sha256 event, event))).keyList.Nodup := by
      rw [Dict.keyList, List.map_map]
      exact rowEvents_keys keyed
    have own : ∀ e ∈ sortedSources sources, candidateRow w (eventsOf sha256 (plainCandidate w rows)) e
        = candidateRow w facts e := by
      intro e member
      have inLedger : (sources.get? e.1).isSome = true := by
        rw [← get?_congr_sorted, (Dict.find_eq_some_iff_mem _ (sorted_nodup sources) _ _).mpr member]
        rfl
      have same : eventsOn (eventsOf sha256 (plainCandidate w rows)) e.1 = eventsOn facts e.1 := by
        have values : ((Dict.mk ((rowEvents sources facts).map fun event =>
            (eventKey sha256 event, event))).items.map Prod.snd) = rowEvents sources facts := by
          rw [Dict.items_eq_entries distinct, List.map_map]
          exact List.map_id _
        rw [eventsOf_plain keyed rendered, eventsOn, values]
        exact eventsOn_rowEvents inLedger
      rw [candidateRow, candidateRow, same]
    rw [sourcesOf_plain keyed rendered, sortedSources_sorted, mapM_congr_left own, rendered]
    rfl
  · rw [ledger] at stored
    exact keyed.named run fact stored
  · rw [events] at stored
    exact keyed.key k event stored
  · rw [events] at stored
    rw [funext ledger] at *
    exact keyed.run k event stored
  · exact (Dict.items_perm ledger).length_eq.trans_le small.1
  · exact (Dict.items_perm events).length_eq.trans_le small.2

/-! ## The loop over the events -/

variable [DecidableEq Body]

theorem addEvent_ok {facts next : Dict String (WindowEvent Body)} {event : WindowEvent Body}
    (success : addEvent sha256 w.scope sources facts event = .ok next) :
    (event.dedupeKey ≠ "" && event.scope = w.scope) = true ∧ event.sourceRunId.any sources.contains = true
      ∧ ((facts.get? (eventKey sha256 event)).all fun other => other = event) = true
      ∧ next = facts.set (eventKey sha256 event) event := by
  obtain ⟨known, success⟩ := require_bind success
  obtain ⟨verified, success⟩ := require_bind success
  obtain ⟨agreed, success⟩ := require_bind success
  cases success
  exact ⟨known, verified, agreed, rfl⟩

/-- Accepted events belong to the scope and to known runs, and no other event is added. -/
theorem addEvents_ok {events : List (WindowEvent Body)} {facts last : Dict String (WindowEvent Body)}
    (success : events.foldlM (addEvent sha256 w.scope sources) facts = .ok last) :
    (∀ event ∈ events, (event.dedupeKey ≠ "" && event.scope = w.scope) = true
        ∧ event.sourceRunId.any sources.contains = true)
      ∧ ∀ k x, last.get? k = some x ↔ facts.get? k = some x ∨ x ∈ events ∧ k = eventKey sha256 x := by
  induction events generalizing facts with
  | nil =>
    cases success
    simp
  | cons event rest ih =>
    rw [List.foldlM_cons] at success
    obtain ⟨next, added, success⟩ := bind_ok success
    obtain ⟨known, verified, agreed, rfl⟩ := addEvent_ok added
    obtain ⟨each, entries⟩ := ih success
    refine ⟨List.forall_mem_cons.mpr ⟨⟨known, verified⟩, each⟩, fun k x => ?_⟩
    have here : ∀ other, facts.get? (eventKey sha256 event) = some other → other = event := by
      intro other stored
      simpa [stored] using agreed
    rw [entries, Dict.get?_set, List.mem_cons]
    by_cases same : k = eventKey sha256 event
    · rw [if_pos same]
      constructor
      · rintro (first | later)
        · cases first
          exact .inr ⟨.inl rfl, same⟩
        · exact .inr ⟨.inr later.1, later.2⟩
      · rintro (stored | ⟨rfl | later, key⟩)
        · exact .inl (congrArg some (here x (same ▸ stored)).symm)
        · exact .inl rfl
        · exact .inr ⟨later, key⟩
    · rw [if_neg same]
      constructor
      · rintro (stored | later)
        · exact .inl stored
        · exact .inr ⟨.inr later.1, later.2⟩
      · rintro (stored | ⟨rfl | later, key⟩)
        · exact .inl stored
        · exact absurd key same
        · exact .inr ⟨later, key⟩

/-- Events that are kept already are added without a change. -/
theorem addEvents_known {events : List (WindowEvent Body)}
    (known : ∀ event ∈ events, (event.dedupeKey ≠ "" && event.scope = w.scope) = true
      ∧ event.sourceRunId.any sources.contains = true ∧ facts.get? (eventKey sha256 event) = some event) :
    events.foldlM (addEvent sha256 w.scope sources) facts = .ok facts := by
  induction events with
  | nil => rfl
  | cons event rest ih =>
    obtain ⟨⟨checked, verified, stored⟩, later⟩ := List.forall_mem_cons.mp known
    have added : addEvent sha256 w.scope sources facts event = .ok facts := by
      have agreed : ((some event : Option (WindowEvent Body)).all fun other => other = event) = true :=
        decide_eq_true rfl
      rw [addEvent, require_bind_of checked, require_bind_of verified, stored, require_bind_of agreed,
        Dict.set_of_get? stored]
      rfl
    rw [List.foldlM_cons, bind_of added]
    exact ih later

end Window

end BinancePlatform.Guarantees.CandidateLedger
