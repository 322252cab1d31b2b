import BinancePlatform.Source.OrderSubmission

/-!
# The submission gate behind loading

`load_cycle_state` normalizes the stored document before the strict validator of
the order-submission record reads it. Normalization overlays a stored mapping on
the default `{"state": "RESERVED"}`, so the two functions decide together:

* a non-empty stored mapping keeps the verdict of the strict validator
  (`reload_mapping`);
* an empty mapping and every non-mapping become the default and are admitted
  (`reload_defaulted`);
* the gate therefore fails closed exactly on the documents of
  `reload_failsClosed_iff`.
-/

set_option autoImplicit false

namespace BinancePlatform.Guarantees.SubmissionGate
open BinancePlatform.Library BinancePlatform.Source

/-- Exactly `{"state": "RESERVED"}` or `{"state": "TERMINAL"}`. -/
def ExactAdmitting (stored : Value) : Prop :=
  ∃ record status, stored = .dict record ∧ admittingStatus status
    ∧ record.Same (statusRecord status)

/-- The record allows a new POST. -/
def Admits (outcome : Except PyException (Document × Document)) : Prop :=
  ∃ state record status, outcome = .ok (state, record) ∧ admittingStatus status
    ∧ record.get? "state" = some (.str status)

/-- Absent, or a non-empty mapping whose status can be hashed. -/
def Interpretable (stored : Document) : Prop :=
  ∀ value, stored.get? orderSubmissionStateKey = some value →
    ∃ record, value = .dict record ∧ (∃ key, (record.get? key).isSome = true)
      ∧ ((record.get? "state").getD .none).hashable = true

/-- The default record overlaid by a stored mapping. -/
def overlaid (record : Document) : Document := (statusRecord orderSubmissionReserved).update record

theorem get?_overlaid (record : Document) (key : String) :
    (overlaid record).get? key
      = (record.get? key).or (if key = "state" then some (.str orderSubmissionReserved) else none) := by
  rw [overlaid, Dict.get?_update, get?_statusRecord]

theorem overlaid_same {record : Document} (status : (record.get? "state").isSome = true) :
    (overlaid record).Same record := by
  intro key
  rw [get?_overlaid]
  by_cases atState : key = "state"
  · obtain ⟨value, found⟩ := Option.isSome_iff_exists.mp status
    simp [atState, found]
  · simp [atState]

section Gate
variable [CharacterTable]

/-- A stored document as the next mutating request sees it. -/
def reload (trendUniverse : TrendUniverse) (stored : Document) :
    Except PyException (Document × Document) := do
  let state ← normalizeTradeState trendUniverse (.dict stored)
  loadOrderSubmission (.dict state)

/-- A stored record that the strict validator refuses. -/
def Malformed (stored : Document) : Prop :=
  ∃ value, stored.get? orderSubmissionStateKey = some value
    ∧ ∀ record, orderSubmissionRecord value ≠ .ok record

structure FailsClosed (stored : Document) (outcome : Except PyException (Document × Document)) :
    Prop where
  admitted : Admits outcome →
    ∀ value, stored.get? orderSubmissionStateKey = some value → ExactAdmitting value
  refused : Malformed stored → outcome = .error submissionStateInvalid

theorem reload_eq {trendUniverse : TrendUniverse} {stored normalized : Document}
    (success : normalizeTradeState trendUniverse (.dict stored) = .ok normalized) :
    reload trendUniverse stored
      = (orderSubmissionRecord (mergeDefault (.dict (statusRecord orderSubmissionReserved))
          (stored.get? orderSubmissionStateKey))).map fun record => (normalized, record) := by
  have field : normalized.get? orderSubmissionStateKey
      = some (mergeDefault (.dict (statusRecord orderSubmissionReserved))
          (stored.get? orderSubmissionStateKey)) :=
    get?_normalized_default success (by rfl) (not_symbol_of_suffix _ (by decide)) (by decide) (by decide)
  simp [reload, success, bind, Except.bind, loadOrderSubmission, field]

/-- The outcome for a record the validator is shown. -/
theorem admits_record_iff {normalized record : Document} :
    Admits ((orderSubmissionRecord (.dict record)).map fun r => (normalized, r))
      ↔ checkRecord record = .ok () ∧ ∃ status, admittingStatus status
          ∧ record.get? "state" = some (.str status) := by
  constructor
  · rintro ⟨state, shown, status, outcome, admitting, recorded⟩
    cases check : checkRecord record with
    | error raised => simp [orderSubmissionRecord, check, Except.map] at outcome
    | ok _ =>
      simp only [orderSubmissionRecord, check, Except.map, Except.ok.injEq, Prod.mk.injEq] at outcome
      exact ⟨rfl, status, admitting, outcome.2 ▸ recorded⟩
  · rintro ⟨check, status, admitting, recorded⟩
    exact ⟨normalized, record, status, by simp [orderSubmissionRecord, check, Except.map],
      admitting, recorded⟩

/-- A default record, however it came about, is admitted. -/
theorem reload_defaulted {normalized record : Document}
    (same : record.Same (statusRecord orderSubmissionReserved)) :
    Admits ((orderSubmissionRecord (.dict record)).map fun r => (normalized, r)) := by
  rw [admits_record_iff, checkRecord_congr same]
  exact ⟨rfl, orderSubmissionReserved, .inl rfl, by rw [same, get?_statusRecord, if_pos rfl]⟩

/-- Without a status of its own, a non-empty mapping is never accepted. -/
theorem overlaid_refused {record : Document} (noStatus : record.get? "state" = none) {key : String}
    (entry : (record.get? key).isSome = true) :
    checkRecord (overlaid record) = .error submissionStateInvalid := by
  have recorded : (overlaid record).get? "state" = some (.str orderSubmissionReserved) := by
    simp [get?_overlaid, noStatus]
  cases check : checkRecord (overlaid record) with
  | error raised =>
    rw [checkRecord_error (by rw [recorded]; rfl) check]
  | ok _ =>
    have alone := checkRecord_admits (.inl rfl) recorded check key
    obtain ⟨value, found⟩ := Option.isSome_iff_exists.mp entry
    have other : key ≠ "state" := by
      rintro rfl
      simp [noStatus] at found
    simp [get?_overlaid, found, other] at alone

/-- A non-empty mapping keeps the verdict of the strict validator, where that verdict
is not an exception of its own. -/
theorem reload_mapping {record : Document} {key : String}
    (entry : (record.get? key).isSome = true)
    (hashable : ((record.get? "state").getD .none).hashable = true) :
    checkRecord (overlaid record) = checkRecord record := by
  cases status : record.get? "state" with
  | some value => exact checkRecord_congr (overlaid_same (by simp [status]))
  | none =>
    rw [overlaid_refused status entry]
    cases check : checkRecord record with
    | error raised => rw [checkRecord_error hashable check]
    | ok _ => simp [checkRecord, status, Value.hashable, Value.isStr] at check

theorem malformed_of_not_interpretable {stored : Document} (h : ¬ Interpretable stored) :
    Malformed stored := by
  simp only [Interpretable, not_forall] at h
  obtain ⟨value, found, bad⟩ := h
  refine ⟨value, found, ?_⟩
  intro accepted success
  cases value with
  | dict record =>
    have check : checkRecord record = .ok () := by
      cases check : checkRecord record with
      | error raised => simp [orderSubmissionRecord, check, Except.map] at success
      | ok _ => rfl
    refine bad ⟨record, rfl, ?_, ?_⟩
    · by_contra empty
      have noStatus : record.get? "state" = none := by
        simpa using fun present => empty ⟨"state", present⟩
      simp [checkRecord, noStatus, Value.hashable, Value.isStr] at check
    · by_contra unhashable
      rw [checkRecord_unhashable (by simpa using unhashable)] at check
      cases check
  | _ => cases success

/-- Once the document is normalized, interpretable records are what the gate needs. -/
theorem failsClosed_of_normalized {trendUniverse : TrendUniverse} {stored normalized : Document}
    (success : normalizeTradeState trendUniverse (.dict stored) = .ok normalized)
    (interpretable : Interpretable stored) : FailsClosed stored (reload trendUniverse stored) := by
  rw [reload_eq success]
  cases found : stored.get? orderSubmissionStateKey with
  | none =>
    refine ⟨fun _ value present => by simp [found] at present, ?_⟩
    rintro ⟨value, present, -⟩
    simp [found] at present
  | some value =>
    obtain ⟨record, rfl, ⟨key, entry⟩, hashable⟩ := interpretable value found
    have shown : mergeDefault (.dict (statusRecord orderSubmissionReserved)) (some (.dict record))
        = .dict (overlaid record) := rfl
    have verdict := reload_mapping entry hashable
    rw [shown]
    constructor
    · intro admits value present
      obtain ⟨check, status, admitting, recorded⟩ := admits_record_iff.mp admits
      rw [verdict] at check
      cases own : record.get? "state" with
      | none =>
        rw [← verdict, overlaid_refused own entry] at check
        cases check
      | some _ =>
        rw [overlaid_same (by simp [own])] at recorded
        obtain rfl : Value.dict record = value := Option.some.inj (found.symm.trans present)
        exact ⟨record, status, rfl, admitting, checkRecord_admits admitting recorded check⟩
    · rintro ⟨value, present, refused⟩
      obtain rfl : Value.dict record = value := Option.some.inj (found.symm.trans present)
      cases check : checkRecord record with
      | ok _ => exact absurd (by simp [orderSubmissionRecord, check, Except.map]) (refused record)
      | error raised =>
        rw [orderSubmissionRecord, verdict, check, checkRecord_error hashable check]
        rfl

theorem interpretable_of_failsClosed {trendUniverse : TrendUniverse} {stored normalized : Document}
    (success : normalizeTradeState trendUniverse (.dict stored) = .ok normalized)
    (closed : FailsClosed stored (reload trendUniverse stored)) : Interpretable stored := by
  by_contra bad
  have refused := closed.refused (malformed_of_not_interpretable bad)
  simp only [Interpretable, not_forall] at bad
  obtain ⟨value, found, bad⟩ := bad
  rw [reload_eq success, found] at refused
  have default : Admits ((orderSubmissionRecord
      (.dict (statusRecord orderSubmissionReserved))).map fun r => (normalized, r)) :=
    reload_defaulted (Dict.Same.refl _)
  cases value with
  | dict record =>
    have shown : mergeDefault (.dict (statusRecord orderSubmissionReserved)) (some (.dict record))
        = .dict (overlaid record) := rfl
    rw [shown] at refused
    by_cases entry : ∃ key, (record.get? key).isSome = true
    · have unhashable : ((record.get? "state").getD .none).hashable = false := by
        simpa using fun hashable => bad ⟨record, rfl, entry, hashable⟩
      have status : (record.get? "state").isSome = true := by
        cases own : record.get? "state" with
        | none => simp [own, Value.hashable] at unhashable
        | some _ => rfl
      rw [orderSubmissionRecord, checkRecord_congr (overlaid_same status),
        checkRecord_unhashable unhashable] at refused
      simp [Except.map, typeError, submissionStateInvalid] at refused
    · have same : (overlaid record).Same (statusRecord orderSubmissionReserved) := by
        intro key
        have absent : record.get? key = none := by simpa using fun present => entry ⟨key, present⟩
        rw [get?_overlaid, absent, get?_statusRecord]
        rfl
      simp [orderSubmissionRecord, checkRecord_congr same] at refused
      cases refused
  | _ =>
    obtain ⟨state, record, status, outcome, -⟩ := default
    have clash : Except.ok (state, record) = .error submissionStateInvalid :=
      outcome.symm.trans refused
    cases clash

/-- The gate fails closed exactly on interpretable records, with a malformed one named
as such where the document can be normalized at all. -/
theorem reload_failsClosed_iff (trendUniverse : TrendUniverse) (stored : Document) :
    FailsClosed stored (reload trendUniverse stored)
      ↔ Interpretable stored ∧ (Malformed stored → AccountingReadable stored) := by
  rw [← normalizeTradeState_returns_iff trendUniverse]
  cases success : normalizeTradeState trendUniverse (.dict stored) with
  | ok normalized =>
    constructor
    · intro closed
      exact ⟨interpretable_of_failsClosed success closed, fun _ => ⟨normalized, rfl⟩⟩
    · rintro ⟨interpretable, -⟩
      exact failsClosed_of_normalized success interpretable
  | error raised =>
    have outcome : reload trendUniverse stored = .error overflowError := by
      simp [reload, success, normalizeTradeState_error success, bind, Except.bind]
    rw [outcome]
    constructor
    · intro closed
      have wellFormed : ¬ Malformed stored := fun malformed => by
        simpa [overflowError, submissionStateInvalid] using closed.refused malformed
      refine ⟨?_, fun malformed => absurd malformed wellFormed⟩
      by_contra bad
      exact wellFormed (malformed_of_not_interpretable bad)
    · rintro ⟨-, returns⟩
      refine ⟨?_, fun malformed => ?_⟩
      · rintro ⟨state, record, status, admitted, -⟩
        cases admitted
      · obtain ⟨normalized, impossible⟩ := returns malformed
        cases impossible

end Gate

/-- The stored record `{}` is admitted. -/
theorem reload_admits_empty_record :
    ¬ ∀ [CharacterTable] (trendUniverse : TrendUniverse) (stored : Document),
      FailsClosed stored (reload trendUniverse stored) := by
  intro closed
  have : CharacterTable := asciiTable
  let trendUniverse : TrendUniverse := ⟨[], by simp, by simp⟩
  let stored : Document := ⟨[(orderSubmissionStateKey, emptyDict)]⟩
  have readable : AccountingReadable stored := fun recorded => by cases recorded
  obtain ⟨normalized, success⟩ := (normalizeTradeState_returns_iff trendUniverse stored).mpr readable
  have admits : Admits (reload trendUniverse stored) := by
    rw [reload_eq success]
    have default : (overlaid .empty).Same (statusRecord orderSubmissionReserved) := Dict.Same.refl _
    exact reload_defaulted default
  obtain ⟨record, status, shape, -, same⟩ :=
    (closed trendUniverse stored).admitted admits emptyDict rfl
  cases shape
  simpa using same "state"

end BinancePlatform.Guarantees.SubmissionGate
