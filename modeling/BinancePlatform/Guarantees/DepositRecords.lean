import BinancePlatform.Source.ExternalCashFlows
import Mathlib.Data.Set.Function

/-!
# What the cursor remembers of a deposit

One accepted collector call, from its rows to its records. A deposit is known by the
identity of its id: its record is written by the first row that names it, a final
record is left alone (`RowOutcome`), withdrawals never touch it, and pruning drops
it only when it is final and its insert time has left the window. `remembered_step` is
what one call preserves.
-/

set_option autoImplicit false

namespace BinancePlatform.Guarantees.DepositsOnce
open BinancePlatform.Library BinancePlatform.Source

/-- One call: its observation time and the two history responses. -/
structure Call where
  now : Instant
  deposits : Except PyException Value
  withdrawals : Except PyException Value

/-- A deposit row as the collector reads it. -/
structure Sighting where
  deposit : Deposit
  completion : Option Completion
  deriving DecidableEq

def Sighting.isFinal (sighting : Sighting) : Bool := sighting.completion.isSome

def rowsOf (response : Except PyException Value) : List Document :=
  match externalCashFlowRows response with
  | .ok rows => rows
  | .error _ => []

section Threading
variable [CharacterTable] (digest : Document → String)

def sighting? (startMs endMs : ℤ) (row : Document) : Option Sighting :=
  match readDeposit startMs endMs row with
  | .error _ => none
  | .ok deposit =>
    if deposit.isFinal then
      match readCompletion endMs deposit row with
      | .ok completion => some ⟨deposit, some completion⟩
      | .error _ => none
    else some ⟨deposit, none⟩

def sightings (call : Call) : List Sighting :=
  (rowsOf call.deposits).filterMap (sighting? (windowStart call.now) (windowEnd call.now))

def identityOf (sighting : Sighting) : String :=
  externalIdentity digest "deposit" sighting.deposit.id

/-- A supported deposit, observed final, that is not final in the records of the cursor. -/
def counts (bootstrap : Bool) (records : Records) (sighting : Sighting) : Bool :=
  !bootstrap && sighting.isFinal && sighting.deposit.isSupported
    && !hasStatus (records.get? (identityOf digest sighting)) "final"

/-! ## One row -/

omit [CharacterTable] in
theorem optionOr_ok {α : Type} {raised : PyException} {value : Option α} {x : α}
    (success : optionOr raised value = .ok x) : value = some x := by
  cases value with
  | none => cases success
  | some y => exact congrArg some (Except.ok.inj success)

theorem readDeposit_window {startMs endMs : ℤ} {row : Document} {deposit : Deposit}
    (success : readDeposit startMs endMs row = .ok deposit) : startMs ≤ deposit.insertTime := by
  obtain ⟨id, -, success⟩ := bind_ok success
  obtain ⟨-, success⟩ := require_bind success
  obtain ⟨status, -, success⟩ := bind_ok success
  obtain ⟨-, success⟩ := require_bind success
  obtain ⟨insertTime, -, success⟩ := bind_ok success
  obtain ⟨window, success⟩ := require_bind success
  obtain ⟨amount, -, success⟩ := bind_ok success
  obtain ⟨coin, -, success⟩ := bind_ok success
  obtain ⟨-, success⟩ := require_bind success
  obtain ⟨walletType, -, success⟩ := bind_ok success
  obtain ⟨transferType, -, success⟩ := bind_ok success
  cases success
  simp only [Bool.and_eq_true, decide_eq_true_eq] at window
  exact window.1

/-- The record that a sighting leaves behind. -/
structure Matches (sighting : Sighting) (record : Document) : Prop where
  kind : (pyGet record "kind").isStr "deposit" = true
  payload : (pyGet record "payload_sha256").isStr (digest sighting.deposit.core) = true
  source : pyGet record "source_time_ms" = .int sighting.deposit.insertTime
  status : (pyGet record "status").isStr (if sighting.isFinal then "final" else "pending") = true
  final : ∀ completion, sighting.completion = some completion →
    (pyGet record "final_sha256").isStr (digest (finalPayload sighting.deposit completion)) = true

/-- The record that a sighting writes. -/
def recordOf (sighting : Sighting) : Document :=
  match sighting.completion with
  | some completion => finalRecord digest sighting.deposit completion
  | none => pendingRecord digest sighting.deposit

/-- What one row does to the record of its identity. -/
structure RowOutcome (previous next : Option Document) (sighting : Sighting) : Prop where
  payload : ∀ record, previous = some record →
    (pyGet record "payload_sha256").isStr (digest sighting.deposit.core) = true
  kept : hasStatus previous "final" = true → next = previous ∧ ∃ completion,
    sighting.completion = some completion ∧ ∀ record, previous = some record →
      (pyGet record "final_sha256").isStr (digest (finalPayload sighting.deposit completion)) = true
  written : hasStatus previous "final" = false → next = some (recordOf digest sighting)

/-- What a row adds to the totals. -/
structure RowTotals (counted : Bool) (deposit : Deposit) (scan next : Scan) : Prop where
  count : next.count = scan.count + (if counted then 1 else 0)
  credited : counted = true →
    scan.principal.add defaultContext deposit.amount = some next.principal
  unchanged : counted = false → next.principal = scan.principal

omit [CharacterTable] in
theorem creditDeposit_ok {bootstrap : Bool} {deposit : Deposit} {completion : Completion}
    {scan next : Scan} (success : creditDeposit bootstrap deposit completion scan = .ok next) :
    next.records = scan.records ∧ next.observed = scan.observed
      ∧ RowTotals (!bootstrap && deposit.isSupported) deposit scan next := by
  unfold creditDeposit at success
  split at success
  case isTrue first =>
    cases success
    exact ⟨rfl, rfl, by simp [first], by simp [first], fun _ => rfl⟩
  case isFalse later =>
    split at success
    case isTrue supported =>
      obtain ⟨principal, computed, success⟩ := bind_ok success
      cases success
      exact ⟨rfl, rfl, by simp [later, supported], fun _ => checked_ok computed,
        by simp [later, supported]⟩
    case isFalse unsupported =>
      cases success
      exact ⟨rfl, rfl, by simp [unsupported], by simp [unsupported], fun _ => rfl⟩

/-- Everything one accepted row does. -/
structure RowEffect (bootstrap : Bool) (startMs endMs : ℤ) (scan next : Scan) (row : Document)
    (sighting : Sighting) : Prop where
  seen : sighting? startMs endMs row = some sighting
  window : startMs ≤ sighting.deposit.insertTime
  fresh : identityOf digest sighting ∉ scan.observed
  observed : next.observed = identityOf digest sighting :: scan.observed
  outcome : RowOutcome digest (scan.records.get? (identityOf digest sighting))
    (next.records.get? (identityOf digest sighting)) sighting
  others : ∀ key, key ≠ identityOf digest sighting → next.records.get? key = scan.records.get? key
  totals : RowTotals (counts digest bootstrap scan.records sighting) sighting.deposit scan next

theorem scanDeposit_ok {bootstrap : Bool} {startMs endMs : ℤ} {scan next : Scan} {row : Document}
    (success : scanDeposit digest bootstrap startMs endMs scan row = .ok next) :
    ∃ sighting, RowEffect digest bootstrap startMs endMs scan next row sighting := by
  obtain ⟨deposit, read, success⟩ := bind_ok success
  obtain ⟨fresh, success⟩ := require_bind success
  obtain ⟨payload, success⟩ := require_bind success
  have window := readDeposit_window read
  have samePayload : ∀ record,
      scan.records.get? (externalIdentity digest "deposit" deposit.id) = some record →
      (pyGet record "payload_sha256").isStr (digest deposit.core) = true := by
    intro record found
    simpa [found] using payload
  split at success
  case isTrue final =>
    obtain ⟨completion, readCompletion, success⟩ := bind_ok success
    refine ⟨⟨deposit, some completion⟩, ?_⟩
    have seen : sighting? startMs endMs row = some ⟨deposit, some completion⟩ := by
      simp [sighting?, read, final, readCompletion]
    split at success
    case isTrue already =>
      obtain ⟨sameFinal, success⟩ := require_bind success
      cases success
      have notCounted : counts digest bootstrap scan.records ⟨deposit, some completion⟩ = false := by
        simp [counts, identityOf, already]
      refine ⟨seen, window, of_decide_eq_true fresh, rfl, ⟨samePayload, fun _ => ⟨rfl, completion, rfl,
        fun record found => ?_⟩, fun notFinal => ?_⟩, fun _ _ => rfl, ?_⟩
      · have found' : scan.records.get? (externalIdentity digest "deposit" deposit.id)
            = some record := found
        simpa [found'] using sameFinal
      · rw [identityOf, already] at notFinal
        cases notFinal
      · rw [notCounted]
        exact ⟨rfl, (by intro counted; cases counted), fun _ => rfl⟩
    case isFalse notYet =>
      obtain ⟨credited, creditOk, success⟩ := bind_ok success
      cases success
      obtain ⟨records, observed, totals⟩ := creditDeposit_ok creditOk
      have counted : counts digest bootstrap scan.records ⟨deposit, some completion⟩
          = (!bootstrap && deposit.isSupported) := by
        simp [counts, identityOf, notYet, Sighting.isFinal]
      refine ⟨seen, window, of_decide_eq_true fresh, observed, ⟨samePayload, fun isFinal => ?_,
        fun _ => ?_⟩, fun key other => ?_, ?_⟩
      · exact absurd isFinal notYet
      · rw [records]
        exact Dict.get?_set_self _ _ _
      · rw [records]
        exact Dict.get?_set_ne _ _ other
      · rw [counted]
        exact ⟨totals.count, totals.credited, totals.unchanged⟩
  case isFalse notFinal =>
    obtain ⟨notBefore, success⟩ := require_bind success
    cases success
    have pending : hasStatus (scan.records.get? (externalIdentity digest "deposit" deposit.id))
        "final" = false := by simpa using notBefore
    have notCounted : counts digest bootstrap scan.records ⟨deposit, none⟩ = false := by
      simp [counts, Sighting.isFinal]
    refine ⟨⟨deposit, none⟩, by simp [sighting?, read, notFinal], window, of_decide_eq_true fresh, rfl,
      ⟨samePayload, fun isFinal => ?_, fun _ => Dict.get?_set_self _ _ _⟩,
      fun key other => Dict.get?_set_ne _ _ other, ?_⟩
    · rw [identityOf, pending] at isFinal
      cases isFinal
    · rw [notCounted]
      exact ⟨rfl, (by intro counted; cases counted), fun _ => rfl⟩

/-! ## One call -/

/-- Everything the accepted deposit rows do together. -/
structure LoopEffect (bootstrap : Bool) (startMs : ℤ) (scan next : Scan) (seen : List Sighting) :
    Prop where
  distinct : (seen.map (identityOf digest)).Nodup
  fresh : ∀ sighting ∈ seen, identityOf digest sighting ∉ scan.observed
  window : ∀ sighting ∈ seen, startMs ≤ sighting.deposit.insertTime
  outcome : ∀ sighting ∈ seen, RowOutcome digest (scan.records.get? (identityOf digest sighting))
    (next.records.get? (identityOf digest sighting)) sighting
  others : ∀ key, key ∉ seen.map (identityOf digest) →
    next.records.get? key = scan.records.get? key
  count : next.count = scan.count + (seen.filter (counts digest bootstrap scan.records)).length
  principal : Decimal.sum defaultContext scan.principal
    ((seen.filter (counts digest bootstrap scan.records)).map fun s => s.deposit.amount)
      = some next.principal

omit [CharacterTable] in
/-- A row of another identity does not change whether a deposit counts. -/
theorem counts_congr {bootstrap : Bool} {records other : Records} {sighting : Sighting}
    (same : other.get? (identityOf digest sighting) = records.get? (identityOf digest sighting)) :
    counts digest bootstrap other sighting = counts digest bootstrap records sighting := by
  rw [counts, counts, same]

theorem scanDeposits_ok {bootstrap : Bool} {startMs endMs : ℤ} {scan next : Scan}
    {rows : List Document}
    (success : rows.foldlM (scanDeposit digest bootstrap startMs endMs) scan = .ok next) :
    LoopEffect digest bootstrap startMs scan next (rows.filterMap (sighting? startMs endMs)) := by
  induction rows generalizing scan with
  | nil =>
    cases success
    exact ⟨List.nodup_nil, by simp, by simp, by simp, fun _ _ => rfl, rfl, rfl⟩
  | cons row rest ih =>
    rw [List.foldlM_cons] at success
    obtain ⟨middle, head, success⟩ := bind_ok success
    obtain ⟨sighting, effect⟩ := scanDeposit_ok digest head
    have tail := ih success
    rw [List.filterMap_cons_some effect.seen]
    generalize rest.filterMap (sighting? startMs endMs) = seen at tail
    have apart : ∀ other ∈ seen, identityOf digest other ≠ identityOf digest sighting := by
      intro other member same
      refine tail.fresh other member ?_
      rw [effect.observed, same]
      exact List.mem_cons_self
    have untouched : identityOf digest sighting ∉ seen.map (identityOf digest) := by
      intro member
      obtain ⟨other, inSeen, same⟩ := List.mem_map.mp member
      exact apart other inSeen same
    have sameCounts : seen.filter (counts digest bootstrap middle.records)
        = seen.filter (counts digest bootstrap scan.records) :=
      List.filter_congr fun other member =>
        counts_congr digest (effect.others _ (apart other member))
    refine ⟨?_, ?_, ?_, ?_, ?_, ?_, ?_⟩
    · exact List.nodup_cons.mpr ⟨untouched, tail.distinct⟩
    · intro other member
      rcases List.mem_cons.mp member with rfl | inSeen
      · exact effect.fresh
      · intro inScan
        exact tail.fresh other inSeen (effect.observed ▸ List.mem_cons_of_mem _ inScan)
    · intro other member
      rcases List.mem_cons.mp member with rfl | inSeen
      · exact effect.window
      · exact tail.window other inSeen
    · intro other member
      rcases List.mem_cons.mp member with rfl | inSeen
      · rw [tail.others _ untouched]
        exact effect.outcome
      · rw [← effect.others _ (apart other inSeen)]
        exact tail.outcome other inSeen
    · intro key absent
      rw [List.map_cons, List.mem_cons, not_or] at absent
      rw [tail.others key absent.2, effect.others key absent.1]
    · rw [tail.count, sameCounts, effect.totals.count, List.filter_cons]
      split <;> simp_all [Nat.add_assoc, Nat.add_comm]
    · rw [List.filter_cons]
      have after := tail.principal
      rw [sameCounts] at after
      split
      case isTrue counted =>
        rw [List.map_cons, Decimal.sum, effect.totals.credited counted]
        exact after
      case isFalse notCounted =>
        rw [← effect.totals.unchanged (by simpa using notCounted)]
        exact after

end Threading

section Threading
variable (digest : Document → String)

def withdrawalId (row : Document) : Option String := textOf (pyGet row "id")

theorem scanWithdrawal_ok {bootstrap : Bool} {scan next : Scan} {row : Document}
    (success : scanWithdrawal digest bootstrap scan row = .ok next) :
    next.count = scan.count ∧ next.principal = scan.principal
      ∧ ∃ id, withdrawalId row = some id
        ∧ ∀ key, next.records.get? key = scan.records.get? key
          ∨ (key = externalIdentity digest "withdrawal" id
            ∧ hasStatus (next.records.get? key) "final" = false) := by
  obtain ⟨id, read, success⟩ := bind_ok success
  obtain ⟨-, success⟩ := require_bind success
  obtain ⟨status, -, success⟩ := bind_ok success
  obtain ⟨-, success⟩ := require_bind success
  have found := optionOr_ok read
  by_cases unchanged : ((scan.records.get? (externalIdentity digest "withdrawal" id)).any
      fun record => (pyGet record "payload_sha256").isStr (digest row)) = true
  · obtain rfl := Except.ok.inj ((if_pos unchanged).symm.trans success)
    exact ⟨rfl, rfl, id, found, fun key => .inl rfl⟩
  · obtain rfl := Except.ok.inj ((if_neg unchanged).symm.trans success)
    refine ⟨rfl, rfl, id, found, fun key => ?_⟩
    by_cases same : key = externalIdentity digest "withdrawal" id
    · refine .inr ⟨same, ?_⟩
      rw [same, Dict.get?_set_self]
      simp [hasStatus, pyGet, Dict.get?, Dict.find, Value.isStr]
    · exact .inl (Dict.get?_set_ne _ _ same)

/-- The withdrawal rows write only their own identities, and never a final record. -/
theorem scanWithdrawals_ok {bootstrap : Bool} {scan next : Scan} {rows : List Document}
    (success : rows.foldlM (scanWithdrawal digest bootstrap) scan = .ok next) :
    next.count = scan.count ∧ next.principal = scan.principal
      ∧ ∀ key, next.records.get? key = scan.records.get? key
        ∨ ((∃ id ∈ rows.filterMap withdrawalId,
            key = externalIdentity digest "withdrawal" id)
          ∧ hasStatus (next.records.get? key) "final" = false) := by
  induction rows generalizing scan with
  | nil =>
    cases success
    exact ⟨rfl, rfl, fun key => .inl rfl⟩
  | cons row rest ih =>
    rw [List.foldlM_cons] at success
    obtain ⟨middle, head, success⟩ := bind_ok success
    obtain ⟨count, principal, id, found, step⟩ := scanWithdrawal_ok digest head
    obtain ⟨countRest, principalRest, others⟩ := ih success
    refine ⟨countRest.trans count, principalRest.trans principal, fun key => ?_⟩
    rw [List.filterMap_cons_some found]
    rcases others key with same | ⟨⟨other, member, isKey⟩, notFinal⟩
    · rcases step key with before | ⟨isKey, notFinal⟩
      · exact .inl (same.trans before)
      · exact .inr ⟨⟨id, List.mem_cons_self, isKey⟩, same ▸ notFinal⟩
    · exact .inr ⟨⟨other, List.mem_cons_of_mem id member, isKey⟩, notFinal⟩

theorem get?_prune (observed : List String) (startMs : ℤ) (records : Records) (key : String) :
    (prune observed startMs records).get? key
      = (records.get? key).filter (retains observed startMs key) := by
  rw [← records.find_items, ← Dict.find_filter _ _ records.items_nodup]
  rfl

theorem readRecord_ok {entry : String × Value} {read : String × Document}
    (success : readRecord entry = .ok read) : entry = (read.1, .dict read.2) := by
  obtain ⟨-, success⟩ := require_bind success
  obtain ⟨record, mapping, success⟩ := bind_ok success
  obtain ⟨kind, -, success⟩ := bind_ok success
  obtain ⟨-, success⟩ := require_bind success
  obtain ⟨status, -, success⟩ := bind_ok success
  obtain ⟨-, success⟩ := require_bind success
  obtain ⟨-, success⟩ := require_bind success
  cases success
  exact Prod.ext rfl (asMapping_ok mapping)

theorem readRecords_ok {entries : List (String × Document)} {read : List (String × Document)}
    (success : (entries.map fun e => (e.1, Value.dict e.2)).mapM readRecord = .ok read) :
    read = entries := by
  have paired := mapM_ok success
  rw [List.forall₂_map_left_iff] at paired
  clear success
  induction paired with
  | nil => rfl
  | cons head _ ih =>
    have same := readRecord_ok head
    simp only [Prod.mk.injEq, Value.dict.injEq] at same
    rw [ih, Prod.ext same.1.symm same.2.symm]

end Threading

section Calls
variable [CharacterTable] (digest : Document → String)

/-- The cursor a call returns. -/
def cursorValue (now : Instant) (records : Records) : Value :=
  .dict ⟨[("version", .int externalCashFlowCursorVersion),
    ("observed_at", .str (DateTime.isoformat now)), ("records", recordsValue records)]⟩

theorem cursorValue_read {now later : Instant} {records read : Records} {bootstrap : Bool}
    (success : externalCashFlowCursor later (cursorValue now records) = .ok (bootstrap, read)) :
    bootstrap = false ∧ ∀ key, read.get? key = records.get? key := by
  obtain ⟨-, success⟩ := require_bind success
  split at success
  case h_1 => cases success
  case h_2 observed _ =>
    obtain ⟨-, success⟩ := require_bind success
    obtain ⟨-, success⟩ := require_bind success
    obtain ⟨stored, mapping, success⟩ := bind_ok success
    obtain ⟨-, success⟩ := require_bind success
    obtain ⟨normalized, readAll, success⟩ := bind_ok success
    cases success
    cases mapping
    refine ⟨rfl, fun key => ?_⟩
    have unique : (records.items.map fun e => (e.1, Value.dict e.2)).map Prod.fst
        = records.items.map Prod.fst := by simp [List.map_map, Function.comp_def]
    have kept : Dict.items ⟨records.items.map fun e => (e.1, Value.dict e.2)⟩
        = records.items.map fun e => (e.1, Value.dict e.2) :=
      Dict.items_eq_entries (by rw [Dict.keyList, unique]; exact records.items_nodup)
    rw [kept] at readAll
    rw [readRecords_ok readAll, ← records.find_items]
    rfl

/-- An accepted call: what it read, scanned and returned. -/
structure Accepted (call : Call) (cursor : Value) (result : Document) (bootstrap : Bool)
    (records : Records) (deposits final : Scan) : Prop where
  read : externalCashFlowCursor call.now cursor = .ok (bootstrap, records)
  scanned : LoopEffect digest bootstrap (windowStart call.now) (emptyScan records) deposits
    (sightings call)
  count : final.count = deposits.count
  principal : final.principal = deposits.principal
  withdrawn : ∀ key, final.records.get? key = deposits.records.get? key
    ∨ ((∃ id ∈ (rowsOf call.withdrawals).filterMap withdrawalId,
        key = externalIdentity digest "withdrawal" id)
      ∧ hasStatus (final.records.get? key) "final" = false)
  returned : result = cashFlows bootstrap call.now final
    (prune final.observed (windowStart call.now) final.records)

theorem collect_ok {call : Call} {cursor : Value} {result : Document}
    (success : collectSpotUsdtExternalCashFlows digest call.now cursor call.deposits call.withdrawals
      = .ok result) :
    ∃ bootstrap records deposits final,
      Accepted digest call cursor result bootstrap records deposits final := by
  obtain ⟨⟨bootstrap, records⟩, read, success⟩ := bind_ok success
  obtain ⟨-, success⟩ := require_bind success
  obtain ⟨depositRows, depositsOk, success⟩ := bind_ok success
  obtain ⟨withdrawalRows, withdrawalsOk, success⟩ := bind_ok success
  obtain ⟨deposits, depositScan, success⟩ := bind_ok success
  obtain ⟨final, withdrawalScan, success⟩ := bind_ok success
  obtain ⟨-, success⟩ := require_bind success
  have scanned := scanDeposits_ok digest depositScan
  obtain ⟨count, principal, withdrawn⟩ := scanWithdrawals_ok digest withdrawalScan
  refine ⟨bootstrap, records, deposits, final, read, ?_, count, principal, ?_,
    (Except.ok.inj success).symm⟩
  · rwa [sightings, rowsOf, depositsOk]
  · rwa [rowsOf, withdrawalsOk]

/-! ## What the records remember -/

/-- The documents whose digests a call compares. -/
def hashed (call : Call) : Set Document :=
  {payload | (∃ sighting ∈ sightings call, payload = identityPayload "deposit" sighting.deposit.id
      ∨ payload = sighting.deposit.core
      ∨ ∃ completion, sighting.completion = some completion
        ∧ payload = finalPayload sighting.deposit completion)
    ∨ ∃ id ∈ (rowsOf call.withdrawals).filterMap withdrawalId,
      payload = identityPayload "withdrawal" id}

end Calls

section Records
variable (digest : Document → String)

/-- The last sighting of a deposit id. -/
def lastOf (past : List Sighting) (id : String) : Option Sighting :=
  past.reverse.find? fun sighting => sighting.deposit.id = id

/-- The broker never gives a deposit id a second insert time. -/
def StableInsertTime (past : List Sighting) : Prop :=
  ∀ first ∈ past, ∀ second ∈ past, first.deposit.id = second.deposit.id →
    first.deposit.insertTime = second.deposit.insertTime

theorem StableInsertTime.initial {past seen : List Sighting} (stable : StableInsertTime (past ++ seen)) :
    StableInsertTime past := fun first inFirst second inSecond =>
  stable first (List.mem_append_left _ inFirst) second (List.mem_append_left _ inSecond)

structure Remembered (startMs : ℤ) (records : Records) (past : List Sighting) : Prop where
  last : ∀ sighting, lastOf past sighting.deposit.id = some sighting →
    ∀ record, records.get? (identityOf digest sighting) = some record → Matches digest sighting record
  final : ∀ key, hasStatus (records.get? key) "final" = true →
    ∃ sighting ∈ past, sighting.isFinal = true ∧ identityOf digest sighting = key
  settled : StableInsertTime past → ∀ sighting ∈ past, sighting.isFinal = true →
    hasStatus (records.get? (identityOf digest sighting)) "final" = true
      ∨ sighting.deposit.insertTime < startMs

theorem matches_recordOf (sighting : Sighting) :
    Matches digest sighting (recordOf digest sighting) := by
  obtain ⟨deposit, completion⟩ := sighting
  cases completion with
  | none =>
    refine ⟨?_, ?_, ?_, ?_, nofun⟩ <;>
      simp [recordOf, pendingRecord, pyGet, Dict.get?, Dict.find, Value.isStr, Sighting.isFinal]
  | some completion =>
    refine ⟨?_, ?_, ?_, ?_, fun other same => ?_⟩
    case refine_5 =>
      cases same
      simp [recordOf, finalRecord, pyGet, Dict.get?, Dict.find, Value.isStr]
    all_goals
      simp [recordOf, finalRecord, pyGet, Dict.get?, Dict.find, Value.isStr, Sighting.isFinal]

theorem Matches.hasStatus_final {sighting : Sighting} {record : Document}
    (h : Matches digest sighting record) :
    hasStatus (some record) "final" = sighting.isFinal := by
  have status := h.status
  have isText : (pyGet record "status").isStr "final" = true ↔ sighting.isFinal = true := by
    cases shown : pyGet record "status" with
    | str s =>
      rw [shown, Value.isStr_str] at status
      rw [Value.isStr_str, ← status]
      cases sighting.isFinal <;> simp
    | _ => rw [shown] at status; cases status
  rw [Bool.eq_iff_iff]
  exact isText

theorem lastOf_mem {past : List Sighting} {id : String} {sighting : Sighting}
    (found : lastOf past id = some sighting) : sighting ∈ past ∧ sighting.deposit.id = id := by
  refine ⟨List.mem_reverse.mp (List.mem_of_find?_eq_some found), ?_⟩
  simpa using List.find?_some found

theorem exists_lastOf {past : List Sighting} {sighting : Sighting} (member : sighting ∈ past) :
    ∃ last, lastOf past sighting.deposit.id = some last := by
  rw [← Option.isSome_iff_exists, lastOf, List.find?_isSome]
  exact ⟨sighting, List.mem_reverse.mpr member, by simp⟩

theorem lastOf_append (past seen : List Sighting) (id : String) :
    lastOf (past ++ seen) id = (lastOf seen id).or (lastOf past id) := by
  rw [lastOf, List.reverse_append, List.find?_append]
  rfl

theorem insertTime_of_core {first second : Deposit} (same : first.core = second.core) :
    first.insertTime = second.insertTime := by
  simp only [Deposit.core, Dict.mk.injEq, List.cons.injEq, Prod.mk.injEq, Value.int.injEq] at same
  exact same.2.2.2.2.2.2.1.2

theorem isStr_unique {value : Value} {s t : String} (first : value.isStr s = true)
    (second : value.isStr t = true) : s = t := by
  cases value with
  | str u => exact (Value.isStr_str u s).mp first |>.trans ((Value.isStr_str u t).mp second).symm
  | _ => cases first

/-- A record of a deposit that is pending, or whose insert time is inside the window,
is not discarded. -/
theorem retains_of_matches {sighting : Sighting} {record : Document}
    (matched : Matches digest sighting record) (observed : List String) {startMs : ℤ} (key : String)
    (inside : sighting.isFinal = true → startMs ≤ sighting.deposit.insertTime) :
    retains observed startMs key record = true := by
  have notWithdrawal : (pyGet record "kind").isStr "withdrawal" = false := by
    by_contra other
    have clash := isStr_unique matched.kind (by simpa using other)
    revert clash
    decide
  rw [retains, notWithdrawal, Bool.false_and, if_neg (by decide), matched.hasStatus_final digest,
    matched.source]
  cases final : sighting.isFinal with
  | false => rfl
  | true => simpa [intOf] using inside final

theorem get?_of_prune {observed : List String} {startMs : ℤ} {records : Records} {key : String}
    {record : Document} (found : (prune observed startMs records).get? key = some record) :
    records.get? key = some record := by
  rw [get?_prune] at found
  exact (Option.filter_eq_some_iff.mp found).1

theorem lastOf_unseen {seen : List Sighting} {sighting : Sighting}
    (last : lastOf seen sighting.deposit.id = none) :
    ∀ other ∈ seen, other.deposit.id ≠ sighting.deposit.id := by
  intro other inSeen same
  obtain ⟨found, isLast⟩ := exists_lastOf inSeen
  rw [same, last] at isLast
  cases isLast

theorem get?_prune_of_retains {observed : List String} {startMs : ℤ} {records : Records}
    {key : String} {record : Document} (found : records.get? key = some record)
    (retained : retains observed startMs key record = true) :
    (prune observed startMs records).get? key = some record := by
  rw [get?_prune, found]
  exact Option.filter_eq_some_iff.mpr ⟨rfl, retained⟩

theorem windowStart_mono {earlier later : Instant} (order : earlier ≤ later) :
    windowStart earlier ≤ windowStart later :=
  DateTime.timestampMs_mono (sub_le_sub_right order _)

theorem remembered_nothing (startMs : ℤ) : Remembered digest startMs .empty [] where
  last := by simp
  final := fun key isFinal => by simp [hasStatus] at isFinal
  settled := by simp

theorem hasStatus_some {found : Option Document} {status : String}
    (recorded : hasStatus found status = true) :
    ∃ record, found = some record ∧ hasStatus (some record) status = true := by
  cases found with
  | none => cases recorded
  | some record => exact ⟨record, rfl, recorded⟩

end Records

section Steps
variable [CharacterTable] {digest : Document → String}

/-- The digests of a set of documents, among them those of the past deposits and of one
call, do not collide. -/
structure CollisionFree (digest : Document → String) (payloads : Set Document)
    (past : List Sighting) (call : Call) : Prop where
  free : Set.InjOn digest payloads
  past : ∀ sighting ∈ past, identityPayload "deposit" sighting.deposit.id ∈ payloads
    ∧ sighting.deposit.core ∈ payloads
  call : hashed call ⊆ payloads

section Free
variable {payloads : Set Document} {past : List Sighting} {call : Call}
  (free : CollisionFree digest payloads past call)

include free

theorem CollisionFree.all {sighting : Sighting} (member : sighting ∈ past ++ sightings call) :
    identityPayload "deposit" sighting.deposit.id ∈ payloads ∧ sighting.deposit.core ∈ payloads := by
  rcases List.mem_append.mp member with earlier | now
  · exact free.past sighting earlier
  · exact ⟨free.call (.inl ⟨sighting, now, .inl rfl⟩), free.call (.inl ⟨sighting, now, .inr (.inl rfl)⟩)⟩

theorem CollisionFree.sameId {first second : Sighting} (inFirst : first ∈ past ++ sightings call)
    (inSecond : second ∈ past ++ sightings call)
    (same : identityOf digest first = identityOf digest second) :
    first.deposit.id = second.deposit.id := by
  have payload := free.free (free.all inFirst).1 (free.all inSecond).1 same
  simpa [identityPayload] using payload

theorem CollisionFree.sameCore {first second : Sighting} (inFirst : first ∈ past ++ sightings call)
    (inSecond : second ∈ past ++ sightings call)
    (same : digest first.deposit.core = digest second.deposit.core) :
    first.deposit.core = second.deposit.core :=
  free.free (free.all inFirst).2 (free.all inSecond).2 same

theorem CollisionFree.notWithdrawal {sighting : Sighting} (member : sighting ∈ past ++ sightings call) :
    ¬ ∃ id ∈ (rowsOf call.withdrawals).filterMap withdrawalId,
      identityOf digest sighting = externalIdentity digest "withdrawal" id := by
  rintro ⟨id, inRows, same⟩
  have payload := free.free (free.all member).1 (free.call (.inr ⟨id, inRows, rfl⟩)) same
  simp [identityPayload] at payload

end Free

section Step
variable {payloads : Set Document} {past : List Sighting} {call : Call} {cursor : Value}
  {result : Document} {bootstrap : Bool} {records : Records} {deposits final : Scan} {startMs : ℤ}
  (free : CollisionFree digest payloads past call)
  (before : Remembered digest startMs records past)
  (done : Accepted digest call cursor result bootstrap records deposits final)

include free done

/-- The withdrawal rows leave the deposits alone. -/
theorem final_deposit {sighting : Sighting} (member : sighting ∈ past ++ sightings call) :
    final.records.get? (identityOf digest sighting)
      = deposits.records.get? (identityOf digest sighting) := by
  rcases done.withdrawn (identityOf digest sighting) with same | ⟨withdrawal, -⟩
  · exact same
  · exact absurd withdrawal (free.notWithdrawal member)

/-- A deposit that was final before, or is final now, is final after the scan. -/
theorem final_scanned {sighting : Sighting} (member : sighting ∈ sightings call)
    (isFinal : hasStatus (records.get? (identityOf digest sighting)) "final" = true
      ∨ sighting.isFinal = true) :
    hasStatus (final.records.get? (identityOf digest sighting)) "final" = true := by
  have inBoth : sighting ∈ past ++ sightings call := List.mem_append_right past member
  rw [final_deposit free done inBoth]
  have outcome := done.scanned.outcome sighting member
  cases already : hasStatus (records.get? (identityOf digest sighting)) "final" with
  | true =>
    have unchanged := (outcome.kept already).1
    rw [unchanged]
    exact already
  | false =>
    rw [outcome.written already, (matches_recordOf digest sighting).hasStatus_final]
    exact isFinal.resolve_left (by simp [already])

/-- A key that no deposit row names keeps its record, apart from withdrawals. -/
theorem final_untouched {sighting : Sighting} (member : sighting ∈ past)
    (unseen : ∀ other ∈ sightings call, other.deposit.id ≠ sighting.deposit.id) :
    final.records.get? (identityOf digest sighting)
      = records.get? (identityOf digest sighting) := by
  have inBoth : sighting ∈ past ++ sightings call := List.mem_append_left _ member
  rw [final_deposit free done inBoth]
  refine done.scanned.others _ fun named => ?_
  obtain ⟨other, inCall, sameKey⟩ := List.mem_map.mp named
  exact unseen other inCall (free.sameId (List.mem_append_right past inCall) inBoth sameKey)

include before

/-- After the rows are scanned, the record of every observed deposit is its own. -/
theorem matches_scanned {sighting : Sighting} (member : sighting ∈ sightings call)
    {record : Document} (found : final.records.get? (identityOf digest sighting) = some record) :
    Matches digest sighting record := by
  have inBoth : sighting ∈ past ++ sightings call := List.mem_append_right past member
  rw [final_deposit free done inBoth] at found
  have outcome := done.scanned.outcome sighting member
  cases already : hasStatus (records.get? (identityOf digest sighting)) "final" with
  | false =>
    obtain rfl : recordOf digest sighting = record :=
      Option.some.inj ((outcome.written already).symm.trans found)
    exact matches_recordOf digest sighting
  | true =>
    obtain ⟨unchanged, completion, completed, sameFinal⟩ := outcome.kept already
    rw [found] at unchanged
    obtain ⟨written, inPast, -, sameKey⟩ := before.final _ already
    have sameId := free.sameId (List.mem_append_left _ inPast) inBoth sameKey
    obtain ⟨last, isLast⟩ := exists_lastOf inPast
    obtain ⟨lastInPast, lastId⟩ := lastOf_mem isLast
    have lastKey : identityOf digest last = identityOf digest sighting := by
      rw [identityOf, identityOf, lastId, sameId]
    have matched := before.last last (by rwa [lastId]) record (by rw [lastKey]; exact unchanged.symm)
    have payload := outcome.payload record unchanged.symm
    have sameCore := free.sameCore (List.mem_append_left _ lastInPast) inBoth
      (isStr_unique matched.payload payload)
    refine ⟨matched.kind, payload, ?_, ?_, fun other isOther => ?_⟩
    · rw [matched.source, insertTime_of_core sameCore]
    · have isFinal : hasStatus (some record) "final" = true := unchanged ▸ already
      simpa [Sighting.isFinal, completed, hasStatus] using isFinal
    · cases completed.symm.trans isOther
      exact sameFinal record unchanged.symm

/-- One accepted call extends what the records remember by what it has seen. -/
theorem remembered_step (order : startMs ≤ windowStart call.now) :
    Remembered digest (windowStart call.now)
      (prune final.observed (windowStart call.now) final.records) (past ++ sightings call) where
  last := by
    intro sighting isLast record found
    have scanned := get?_of_prune found
    rw [lastOf_append] at isLast
    cases inCall : lastOf (sightings call) sighting.deposit.id with
    | some other =>
      rw [inCall, Option.some_or] at isLast
      cases isLast
      exact matches_scanned free before done (lastOf_mem inCall).1 scanned
    | none =>
      rw [inCall, Option.none_or] at isLast
      rw [final_untouched free done (lastOf_mem isLast).1
        (lastOf_unseen inCall)] at scanned
      exact before.last sighting isLast record scanned
  final := by
    intro key isFinal
    obtain ⟨record, found, recorded⟩ := hasStatus_some isFinal
    have scanned := get?_of_prune found
    have written : deposits.records.get? key = some record := by
      rcases done.withdrawn key with same | ⟨-, notFinal⟩
      · rw [← same, scanned]
      · rw [scanned, recorded] at notFinal
        cases notFinal
    by_cases named : key ∈ (sightings call).map (identityOf digest)
    · obtain ⟨sighting, inCall, rfl⟩ := List.mem_map.mp named
      have outcome := done.scanned.outcome sighting inCall
      cases already : hasStatus (records.get? (identityOf digest sighting)) "final" with
      | true =>
        obtain ⟨earlier, inPast, earlierFinal, sameKey⟩ := before.final _ already
        exact ⟨earlier, List.mem_append_left _ inPast, earlierFinal, sameKey⟩
      | false =>
        obtain rfl : recordOf digest sighting = record :=
          Option.some.inj ((outcome.written already).symm.trans written)
        rw [(matches_recordOf digest sighting).hasStatus_final] at recorded
        exact ⟨sighting, List.mem_append_right past inCall, recorded, rfl⟩
    · have same : deposits.records.get? key = records.get? key := done.scanned.others key named
      obtain ⟨earlier, inPast, earlierFinal, sameKey⟩ :=
        before.final key (by rw [← same, written]; exact recorded)
      exact ⟨earlier, List.mem_append_left _ inPast, earlierFinal, sameKey⟩
  settled := by
    intro stable sighting inBoth isFinal
    have pastStable := stable.initial
    by_cases seen : ∃ other ∈ sightings call, other.deposit.id = sighting.deposit.id
    · obtain ⟨other, inCall, sameId⟩ := seen
      have sameTime := stable other (List.mem_append_right past inCall) sighting inBoth sameId
      have sameKey : identityOf digest other = identityOf digest sighting := by
        rw [identityOf, identityOf, sameId]
      have window := done.scanned.window other inCall
      have wasFinal : hasStatus (records.get? (identityOf digest other)) "final" = true
          ∨ other.isFinal = true := by
        rcases List.mem_append.mp inBoth with inPast | now
        · rcases before.settled pastStable sighting inPast isFinal with recorded | aged
          · exact .inl (sameKey ▸ recorded)
          · omega
        · obtain rfl := List.inj_on_of_nodup_map done.scanned.distinct inCall now sameKey
          exact .inr isFinal
      obtain ⟨record, found, recorded⟩ := hasStatus_some (final_scanned free done inCall wasFinal)
      have matched := matches_scanned free before done inCall found
      have retained := get?_prune_of_retains found
        (retains_of_matches digest matched final.observed _ fun _ => window)
      rw [← sameKey, retained]
      exact .inl recorded
    · have unseen : ∀ other ∈ sightings call, other.deposit.id ≠ sighting.deposit.id :=
        fun other inCall same => seen ⟨other, inCall, same⟩
      have inPast : sighting ∈ past := by
        rcases List.mem_append.mp inBoth with inPast | now
        · exact inPast
        · exact absurd rfl (unseen sighting now)
      have untouched := final_untouched free done inPast unseen
      rcases before.settled pastStable sighting inPast isFinal with recorded | aged
      · obtain ⟨record, found, recorded⟩ := hasStatus_some recorded
        obtain ⟨last, isLast⟩ := exists_lastOf inPast
        obtain ⟨lastInPast, lastId⟩ := lastOf_mem isLast
        have sameTime := pastStable last lastInPast sighting inPast lastId
        have lastKey : identityOf digest last = identityOf digest sighting := by
          rw [identityOf, identityOf, lastId]
        have matched := before.last last (by rwa [lastId]) record (by rw [lastKey, found])
        by_cases aged : sighting.deposit.insertTime < windowStart call.now
        · exact .inr aged
        · have inside : windowStart call.now ≤ last.deposit.insertTime := by omega
          have retained := get?_prune_of_retains (untouched.trans found)
            (retains_of_matches digest matched final.observed _ fun _ => inside)
          rw [retained]
          exact .inl recorded
      · exact .inr (aged.trans_le order)

end Step
end Steps

end BinancePlatform.Guarantees.DepositsOnce
