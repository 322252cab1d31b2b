import BinancePlatform.Source.WindowMerge

/-!
# The facts of one run

What is held of a run after any merges of its facts, as long as no merge drops an alert
or takes an earlier observation for a new one. A fact of the past, merged again,
changes nothing.

* Each way that two facts can meet keeps the invariant (`held_dropped`, `held_same`,
  `held_revised`, `held_live`, `held_completed`, together in `held_step`).
* What is held explains every later repetition (`Held.repeats`).
-/

set_option autoImplicit false

namespace BinancePlatform.Guarantees.RunFacts
open BinancePlatform.Source

variable {Digest : Type} [DecidableEq Digest]

/-- The two facts agree in everything but status, summary and errors. -/
def SameRevision (source prior : SourceFact Digest) : Prop :=
  { source with status := prior.status, summary := prior.summary, errors := prior.errors } = prior

/-- The two facts agree in everything but errors. -/
def SameObservation (source prior : SourceFact Digest) : Prop := { source with errors := prior.errors } = prior

/-- The incoming fact can be merged over the held one without losing an alert, and
without making an earlier one look new. -/
def Steady (prior source : SourceFact Digest) : Prop :=
  match prior.archived, source.archived with
  | true, false => source.errors ≠ [] → prior.errors ≠ []
  | true, true => SameRevision source prior
  | false, false => SameObservation source prior
  | false, true => prior.errors ≠ [] → source.errors = prior.errors

/-- What is held of a run after the facts of the past. -/
structure Held (past : SourceFact Digest → Prop) (held : SourceFact Digest) : Prop where
  archived : held.archived = true ↔ ∃ x, past x ∧ x.archived = true
  errors : ∀ x, past x → x.errors ≠ [] → held.errors ≠ []
  revisions : ∀ x, past x → x.archived = true → SameRevision x held
    ∧ (x = held ∨ held.errors ≠ [] ∧ held.status = "error" ∧ held.summary = none)
  live : held.archived = false → ∀ x, past x → SameObservation x held

omit [DecidableEq Digest] in
theorem held_first (x : SourceFact Digest) : Held (fun y => y = x) x := by
  refine ⟨?_, ?_, ?_, ?_⟩
  · exact ⟨fun archived => ⟨x, rfl, archived⟩, fun ⟨y, same, archived⟩ => same ▸ archived⟩
  · rintro y rfl some
    exact some
  · rintro y rfl -
    exact ⟨rfl, .inl rfl⟩
  · rintro - y rfl
    rfl

theorem combine_dropped {held x : SourceFact Digest} (kept : held.archived = true) (live : x.archived = false) :
    combineFacts held x = held := by
  simp [combineFacts, kept, live]

theorem combine_over_live {held x : SourceFact Digest} (live : held.archived = false) :
    combineFacts held x = if held.errors = [] then x else { x with errors := held.errors } := by
  simp [combineFacts, live]

theorem combine_runId {prior source : SourceFact Digest} {run : String} (held : prior.runId = run)
    (arriving : source.runId = run) : (combineFacts prior source).runId = run := by
  unfold combineFacts
  repeat' split
  all_goals assumption

theorem combine_self (x : SourceFact Digest) : combineFacts x x = x := by
  simp [combineFacts]

theorem combine_revised {held x : SourceFact Digest} (kept : held.archived = true)
    (completed : x.archived = true) (other : held ≠ x) : combineFacts held x
      = { x with status := "error", summary := none,
                 errors := if held.errors = [] then ["candidate_source_conflict"] else held.errors } := by
  by_cases none : held.errors = []
  · simp [combineFacts, kept, completed, other, none]
  · simp [combineFacts, kept, completed, other, none]

omit [DecidableEq Digest] in
theorem Held.all_live {past : SourceFact Digest → Prop} {held : SourceFact Digest} (inv : Held past held)
    (live : held.archived = false) {x : SourceFact Digest} (known : past x) : x.archived = false := by
  by_contra archived
  have above := inv.archived.mpr ⟨x, known, by simpa using archived⟩
  rw [live] at above
  cases above

/-- A fact of the past, merged again, changes nothing. -/
theorem Held.repeats {past : SourceFact Digest → Prop} {held : SourceFact Digest} (inv : Held past held)
    {x : SourceFact Digest} (known : past x) : combineFacts held x = held := by
  cases kept : held.archived with
  | false =>
    have same := inv.live kept x known
    rw [combine_over_live kept]
    split
    case isTrue none =>
      have own : x.errors = [] := by
        by_contra some
        exact inv.errors x known some none
      rwa [SameObservation, none, ← own] at same
    case isFalse => exact same
  | true =>
    cases completed : x.archived with
    | false => exact combine_dropped kept completed
    | true =>
      by_cases other : held = x
      · rw [← other, combine_self]
      · obtain ⟨revision, same | ⟨some, status, summary⟩⟩ := inv.revisions x known completed
        · exact absurd same.symm other
        · rw [combine_revised kept completed other, if_neg some]
          rwa [SameRevision, status, summary] at revision

/-! ### A further fact -/

omit [DecidableEq Digest] in
/-- A live fact behind an archived one is dropped, without an alert of its own. -/
theorem held_dropped {past : SourceFact Digest → Prop} {held x : SourceFact Digest} (inv : Held past held)
    (kept : held.archived = true) (live : x.archived = false)
    (alert : x.errors ≠ [] → held.errors ≠ []) : Held (fun y => past y ∨ y = x) held := by
  refine ⟨⟨fun _ => ?_, fun _ => kept⟩, ?_, ?_, fun unkept => ?_⟩
  · obtain ⟨y, known, archived⟩ := inv.archived.mp kept
    exact ⟨y, .inl known, archived⟩
  · rintro y (known | rfl)
    · exact inv.errors y known
    · exact alert
  · rintro y (known | rfl) archived
    · exact inv.revisions y known archived
    · rw [live] at archived
      cases archived
  · rw [kept] at unkept
    cases unkept

omit [DecidableEq Digest] in
/-- The archived fact that is held already. -/
theorem held_same {past : SourceFact Digest → Prop} {held : SourceFact Digest} (inv : Held past held)
    (kept : held.archived = true) : Held (fun y => past y ∨ y = held) held := by
  refine ⟨⟨fun _ => ⟨held, .inr rfl, kept⟩, fun _ => kept⟩, ?_, ?_, fun unkept => ?_⟩
  · rintro y (known | rfl)
    · exact inv.errors y known
    · exact id
  · rintro y (known | rfl) archived
    · exact inv.revisions y known archived
    · exact ⟨rfl, .inl rfl⟩
  · rw [kept] at unkept
    cases unkept

/-- Two completed revisions leave a conflict. -/
theorem held_revised {past : SourceFact Digest → Prop} {held x : SourceFact Digest} (inv : Held past held)
    (kept : held.archived = true) (completed : x.archived = true) (other : held ≠ x)
    (revision : SameRevision x held) : Held (fun y => past y ∨ y = x) (combineFacts held x) := by
  have result := combine_revised kept completed other
  have filled : (if held.errors = [] then ["candidate_source_conflict"] else held.errors) ≠ [] := by
    split
    · simp
    · assumption
  generalize (if held.errors = [] then ["candidate_source_conflict"] else held.errors) = errors at result filled
  rw [result]
  refine ⟨⟨fun _ => ⟨x, .inr rfl, completed⟩, fun _ => completed⟩, fun _ _ _ => filled, ?_, fun unkept => ?_⟩
  · rintro y (known | rfl) archived
    · refine ⟨?_, .inr ⟨filled, rfl, rfl⟩⟩
      have before := (inv.revisions y known archived).1
      have agree := Eq.trans before (Eq.symm revision)
      exact congrArg (fun fact : SourceFact Digest =>
        { fact with status := "error", summary := none, errors := errors }) agree
    · exact ⟨rfl, .inr ⟨filled, rfl, rfl⟩⟩
  · exact absurd (completed.symm.trans unkept) (by decide)

/-- A live fact of the same observation. -/
theorem held_live {past : SourceFact Digest → Prop} {held x : SourceFact Digest} (inv : Held past held)
    (live : held.archived = false) (incoming : x.archived = false)
    (same : SameObservation x held) :
    Held (fun y => past y ∨ y = x) (combineFacts held x) := by
  have result := @combine_over_live _ _ held x live
  have kept : (combineFacts held x).archived = false := by
    rw [result]
    split <;> exact incoming
  refine ⟨⟨fun archived => ?_, ?_⟩, ?_, ?_, fun _ => ?_⟩
  · rw [kept] at archived
    cases archived
  · rintro ⟨y, known | rfl, archived⟩
    · rw [inv.all_live live known] at archived
      cases archived
    · rw [incoming] at archived
      cases archived
  · rintro y (known | rfl) some
    · have before := inv.errors y known some
      rw [result, if_neg before]
      exact before
    · rw [result]
      split
      · exact some
      · assumption
  · rintro y (known | rfl) archived
    · rw [inv.all_live live known] at archived
      cases archived
    · rw [incoming] at archived
      cases archived
  · rintro y (known | rfl)
    · have before := inv.live live y known
      rw [result]
      split
      case isTrue none =>
        have agree := Eq.trans before (Eq.symm same)
        exact congrArg (fun fact : SourceFact Digest => { fact with errors := x.errors }) agree
      case isFalse => exact Eq.trans before (Eq.symm same)
    · rw [result]
      split <;> rfl

/-- The archived fact that completes a live one. -/
theorem held_completed {past : SourceFact Digest → Prop} {held x : SourceFact Digest} (inv : Held past held)
    (live : held.archived = false) (completed : x.archived = true)
    (same : held.errors ≠ [] → x.errors = held.errors) :
    Held (fun y => past y ∨ y = x) (combineFacts held x) := by
  have result : combineFacts held x = x := by
    rw [combine_over_live live]
    split
    · rfl
    case isFalse some => rw [← same some]
  rw [result]
  refine ⟨⟨fun _ => ⟨x, .inr rfl, completed⟩, fun _ => completed⟩, ?_, ?_, fun unkept => ?_⟩
  · rintro y (known | rfl) some
    · have before := inv.errors y known some
      rw [same before]
      exact before
    · exact some
  · rintro y (known | rfl) archived
    · rw [inv.all_live live known] at archived
      cases archived
    · exact ⟨rfl, .inl rfl⟩
  · exact absurd (completed.symm.trans unkept) (by decide)

/-- A steady merge keeps the invariant, whichever way the two facts meet. -/
theorem held_step {past : SourceFact Digest → Prop} {held x : SourceFact Digest} (inv : Held past held)
    (steady : Steady held x) : Held (fun y => past y ∨ y = x) (combineFacts held x) := by
  unfold Steady at steady
  cases kept : held.archived with
  | true =>
    cases completed : x.archived with
    | true =>
      rw [kept, completed] at steady
      by_cases other : held = x
      · subst other
        rw [combine_self]
        exact held_same inv kept
      · exact held_revised inv kept completed other steady
    | false =>
      rw [kept, completed] at steady
      rw [combine_dropped kept completed]
      exact held_dropped inv kept completed steady
  | false =>
    cases completed : x.archived with
    | true =>
      rw [kept, completed] at steady
      exact held_completed inv kept completed steady
    | false =>
      rw [kept, completed] at steady
      exact held_live inv kept completed steady

end BinancePlatform.Guarantees.RunFacts
