import BinancePlatform.Guarantees.DepositRecords

/-!
# Deposits are counted once

Any sequence of collector calls that threads the returned cursor, from the bootstrap
call on; a call that raises leaves the cursor as it was.

* While its record is retained, a changed deposit makes the call raise
  (`changed_raises`), and a final one is never counted again.
* A final record is pruned once its insert time has left the window, and a row of that
  insert time is then refused. This needs that the broker never gives an id a second
  insert time (`StableInsertTime`): `recounted_after_prune` is the run where it does.
-/

set_option autoImplicit false

namespace BinancePlatform.Guarantees.DepositsOnce
open BinancePlatform.Library BinancePlatform.Source

/-- One attempted call: the cursor it was given and how it ended. -/
structure Entry where
  call : Call
  cursor : Value
  outcome : Except PyException Document

section Threading
variable [CharacterTable] (digest : Document → String)

def attempt (cursor : Value) (call : Call) : Entry :=
  ⟨call, cursor,
    collectSpotUsdtExternalCashFlows digest call.now cursor call.deposits call.withdrawals⟩

def nextCursor (entry : Entry) : Value :=
  match entry.outcome with
  | .ok result => pyGet result "cursor"
  | .error _ => entry.cursor

def cursorAfter (cursor : Value) (calls : List Call) : Value :=
  calls.foldl (fun current call => nextCursor (attempt digest current call)) cursor

/-- The calls in order, each given the cursor the ones before it left. -/
def thread : Value → List Call → List Entry
  | _, [] => []
  | cursor, call :: rest =>
    attempt digest cursor call :: thread (nextCursor (attempt digest cursor call)) rest

/-- What an accepted call adds to the new principal. -/
def contributions (entry : Entry) : List Sighting :=
  match externalCashFlowCursor entry.call.now entry.cursor, entry.outcome with
  | .ok (bootstrap, records), .ok _ => (sightings entry.call).filter (counts digest bootstrap records)
  | _, _ => []

/-- The deposits an accepted call observed. -/
def accepted (entry : Entry) : List Sighting :=
  match entry.outcome with
  | .ok _ => sightings entry.call
  | .error _ => []

def history (entries : List Entry) : List Sighting := entries.flatMap accepted

theorem thread_append (cursor : Value) (xs ys : List Call) :
    thread digest cursor (xs ++ ys)
      = thread digest cursor xs ++ thread digest (cursorAfter digest cursor xs) ys := by
  induction xs generalizing cursor with
  | nil => rfl
  | cons call rest ih =>
    rw [List.cons_append, thread, ih, thread, List.cons_append]
    rfl

end Threading

section Sequence
variable [CharacterTable] {digest : Document → String}

/-- The digests that the calls compare do not collide. -/
def NoCollisions (digest : Document → String) (calls : List Call) : Prop :=
  Set.InjOn digest {payload | ∃ call ∈ calls, payload ∈ hashed call}

theorem NoCollisions.initial {calls after : List Call} (free : NoCollisions digest (calls ++ after)) :
    NoCollisions digest calls := by
  refine Set.InjOn.mono ?_ free
  rintro payload ⟨other, member, inside⟩
  exact ⟨other, List.mem_append_left _ member, inside⟩

def InOrder (calls : List Call) : Prop := calls.Pairwise fun first second => first.now ≤ second.now

/-- The deposits that the accepted calls observed. -/
def observedBy (digest : Document → String) (calls : List Call) : List Sighting :=
  history (thread digest .none calls)

theorem cursorAfter_concat (cursor : Value) (calls : List Call) (call : Call) :
    cursorAfter digest cursor (calls ++ [call])
      = nextCursor (attempt digest (cursorAfter digest cursor calls) call) := by
  simp [cursorAfter]

theorem thread_concat (calls : List Call) (call : Call) :
    thread digest .none (calls ++ [call])
      = thread digest .none calls ++ [attempt digest (cursorAfter digest .none calls) call] := by
  rw [thread_append]
  rfl

theorem observedBy_concat (calls : List Call) (call : Call) :
    observedBy digest (calls ++ [call])
      = observedBy digest calls
        ++ accepted (attempt digest (cursorAfter digest .none calls) call) := by
  simp [observedBy, history, thread_concat]

theorem observedBy_mem {calls : List Call} {sighting : Sighting}
    (member : sighting ∈ observedBy digest calls) : ∃ call ∈ calls, sighting ∈ sightings call := by
  induction calls using List.reverseRecOn with
  | nil => cases member
  | append_singleton calls call ih =>
    rw [observedBy_concat] at member
    rcases List.mem_append.mp member with earlier | now
    · obtain ⟨other, inCalls, seen⟩ := ih earlier
      exact ⟨other, List.mem_append_left _ inCalls, seen⟩
    · refine ⟨call, by simp, ?_⟩
      unfold accepted at now
      split at now
      · exact now
      · cases now

/-- Collision freedom at one call of a sequence. -/
theorem NoCollisions.at_call {calls before after : List Call} {call : Call}
    (free : NoCollisions digest calls) (split : calls = before ++ call :: after) :
    CollisionFree digest {payload | ∃ call ∈ calls, payload ∈ hashed call}
      (observedBy digest before) call where
  free := free
  past := by
    intro sighting member
    obtain ⟨other, inBefore, seen⟩ := observedBy_mem member
    have inCalls : other ∈ calls := by simp [split, inBefore]
    exact ⟨⟨other, inCalls, .inl ⟨sighting, seen, .inl rfl⟩⟩,
      ⟨other, inCalls, .inl ⟨sighting, seen, .inr (.inl rfl)⟩⟩⟩
  call := fun payload member => ⟨call, by simp [split], member⟩

/-- A cursor as the sequence reaches it. -/
inductive Reached (digest : Document → String) (calls : List Call) : Value → Prop where
  | bootstrap (nothing : observedBy digest calls = []) : Reached digest calls .none
  | returned {call : Call} {records : Records} (member : call ∈ calls)
      (remembered : Remembered digest (windowStart call.now) records (observedBy digest calls)) :
      Reached digest calls (cursorValue call.now records)

/-- What the next accepted call finds in the records it reads. -/
theorem Reached.read {calls : List Call} {call : Call} {cursor : Value} {bootstrap : Bool}
    {records : Records} (reached : Reached digest calls cursor)
    (ordered : InOrder (calls ++ [call]))
    (read : externalCashFlowCursor call.now cursor = .ok (bootstrap, records)) :
    (bootstrap = true ↔ cursor = .none)
      ∧ ∃ startMs, startMs ≤ windowStart call.now
        ∧ Remembered digest startMs records (observedBy digest calls) := by
  cases reached with
  | bootstrap nothing =>
    cases read
    rw [nothing]
    exact ⟨by simp, windowStart call.now, le_refl _, remembered_nothing digest _⟩
  | returned member remembered =>
    rename_i earlier stored
    obtain ⟨rfl, same⟩ := cursorValue_read read
    have time : earlier.now ≤ call.now :=
      (List.pairwise_append.mp ordered).2.2 earlier member call (by simp)
    refine ⟨by simp [cursorValue], windowStart earlier.now, windowStart_mono time, ?_⟩
    exact ⟨fun sighting last record found => remembered.last sighting last record (by rw [← same, found]),
      fun key isFinal => remembered.final key (by rwa [← same]),
      fun stable sighting inPast isFinal => by
        rw [same]
        exact remembered.settled stable sighting inPast isFinal⟩

theorem Reached.after_raise {calls : List Call} {cursor : Value} (reached : Reached digest calls cursor)
    (call : Call) (unchanged : observedBy digest (calls ++ [call]) = observedBy digest calls) :
    Reached digest (calls ++ [call]) cursor := by
  cases reached with
  | bootstrap nothing => exact .bootstrap (unchanged.trans nothing)
  | returned member remembered =>
    exact .returned (List.mem_append_left _ member) (unchanged.symm ▸ remembered)

theorem reached {calls : List Call} (free : NoCollisions digest calls) (ordered : InOrder calls) :
    Reached digest calls (cursorAfter digest .none calls) := by
  induction calls using List.reverseRecOn with
  | nil => exact .bootstrap rfl
  | append_singleton calls call ih =>
    have before := ih free.initial (List.pairwise_append.mp ordered).1
    rw [cursorAfter_concat]
    cases outcome : (attempt digest (cursorAfter digest .none calls) call).outcome with
    | error raised =>
      have unchanged : observedBy digest (calls ++ [call]) = observedBy digest calls := by
        rw [observedBy_concat, accepted, outcome, List.append_nil]
      rw [nextCursor, outcome]
      exact before.after_raise call unchanged
    | ok result =>
      obtain ⟨bootstrap, records, deposits, final, done⟩ := collect_ok digest outcome
      obtain ⟨-, startMs, order, remembered⟩ := before.read ordered done.read
      have observed : observedBy digest (calls ++ [call])
          = observedBy digest calls ++ sightings call := by
        rw [observedBy_concat, accepted, outcome]
        rfl
      have step := remembered_step (free.at_call rfl) remembered done order
      rw [nextCursor, outcome, done.returned]
      exact .returned (List.mem_append_right _ List.mem_cons_self) (observed ▸ step)

theorem contributions_eq {call : Call} {cursor : Value} {result : Document} {bootstrap : Bool}
    {records : Records} {deposits final : Scan}
    (outcome : (attempt digest cursor call).outcome = .ok result)
    (done : Accepted digest call cursor result bootstrap records deposits final) :
    contributions digest (attempt digest cursor call)
      = (sightings call).filter (counts digest bootstrap records) := by
  have read : externalCashFlowCursor (attempt digest cursor call).call.now
      (attempt digest cursor call).cursor = .ok (bootstrap, records) := done.read
  rw [contributions, read, outcome]
  rfl

/-- The totals of an accepted call are those of its contributions. -/
structure Totals (digest : Document → String) (entry : Entry) (result : Document) : Prop where
  count : pyGet result "new_confirmed_deposit_count" = .int (contributions digest entry).length
  principal : ∃ total, Decimal.sum defaultContext .zero
      ((contributions digest entry).map fun s => s.deposit.amount) = some total
    ∧ pyGet result "new_deposit_principal_usdt" = .str (principalText total)

theorem attempt_totals {call : Call} {cursor : Value} {result : Document}
    (outcome : (attempt digest cursor call).outcome = .ok result) :
    Totals digest (attempt digest cursor call) result := by
  obtain ⟨bootstrap, records, deposits, final, done⟩ := collect_ok digest outcome
  have contributed := contributions_eq outcome done
  have count := done.scanned.count
  have principal := done.scanned.principal
  simp only [emptyScan, Nat.zero_add] at count principal
  refine ⟨?_, final.principal, ?_, ?_⟩
  · rw [contributed, ← count, ← done.count, done.returned]
    rfl
  · rw [contributed, done.principal]
    exact principal
  · rw [done.returned]
    rfl

/-- A deposit that contributes was observed final, and its record was not. -/
theorem contributions_mem {entry : Entry} {sighting : Sighting}
    (member : sighting ∈ contributions digest entry) :
    sighting ∈ accepted entry ∧ sighting.isFinal = true := by
  unfold contributions at member
  split at member
  case h_2 => cases member
  case h_1 bootstrap records result _ outcome =>
    obtain ⟨seen, counted⟩ := List.mem_filter.mp member
    simp only [counts, Bool.and_eq_true] at counted
    exact ⟨by rwa [accepted, outcome], counted.1.1.2⟩

theorem contributions_observed {calls : List Call} {sighting : Sighting}
    (member : sighting ∈ (thread digest .none calls).flatMap (contributions digest)) :
    sighting ∈ observedBy digest calls ∧ sighting.isFinal = true := by
  obtain ⟨entry, inThread, contributed⟩ := List.mem_flatMap.mp member
  obtain ⟨seen, final⟩ := contributions_mem contributed
  exact ⟨List.mem_flatMap.mpr ⟨entry, inThread, seen⟩, final⟩

/-- A deposit that contributes now has never been observed final before. -/
theorem contributes_first {calls : List Call} {call : Call} (free : NoCollisions digest (calls ++ [call]))
    (ordered : InOrder (calls ++ [call])) (stable : StableInsertTime (observedBy digest (calls ++ [call])))
    {sighting earlier : Sighting}
    (contributed : sighting ∈ contributions digest (attempt digest (cursorAfter digest .none calls) call))
    (observed : earlier ∈ observedBy digest calls) (final : earlier.isFinal = true) :
    earlier.deposit.id ≠ sighting.deposit.id := by
  intro sameId
  cases outcome : (attempt digest (cursorAfter digest .none calls) call).outcome with
  | error raised =>
    have seen := (contributions_mem contributed).1
    rw [accepted, outcome] at seen
    cases seen
  | ok result =>
    obtain ⟨bootstrap, records, deposits, finalScan, done⟩ := collect_ok digest outcome
    obtain ⟨-, startMs, order, remembered⟩ :=
      (reached free.initial (List.pairwise_append.mp ordered).1).read ordered done.read
    rw [contributions_eq outcome done] at contributed
    obtain ⟨seen, counted⟩ := List.mem_filter.mp contributed
    have allObserved : observedBy digest (calls ++ [call])
        = observedBy digest calls ++ sightings call := by
      rw [observedBy_concat, accepted, outcome]
      rfl
    rw [allObserved] at stable
    have sameTime := stable earlier (List.mem_append_left _ observed) sighting
      (List.mem_append_right _ seen) sameId
    have window := done.scanned.window sighting seen
    have sameKey : identityOf digest earlier = identityOf digest sighting := by
      rw [identityOf, identityOf, sameId]
    rcases remembered.settled stable.initial earlier observed final with recorded | aged
    · simp only [counts, Bool.and_eq_true, Bool.not_eq_true', ← sameKey, recorded] at counted
      cases counted.2
    · omega

/-- No id occurs twice in one call. -/
theorem contributions_nodup (call : Call) (cursor : Value) :
    ((contributions digest (attempt digest cursor call)).map fun s => s.deposit.id).Nodup := by
  cases outcome : (attempt digest cursor call).outcome with
  | error raised =>
    have nothing : contributions digest (attempt digest cursor call) = [] := by
      refine List.eq_nil_iff_forall_not_mem.mpr fun sighting member => ?_
      have seen := (contributions_mem member).1
      rw [accepted, outcome] at seen
      cases seen
    rw [nothing]
    exact List.nodup_nil
  | ok result =>
    obtain ⟨bootstrap, records, deposits, final, done⟩ := collect_ok digest outcome
    rw [contributions_eq outcome done]
    have distinct : ((sightings call).map fun s => s.deposit.id).Nodup := by
      refine List.Nodup.of_map (externalIdentity digest "deposit") ?_
      rw [List.map_map]
      exact done.scanned.distinct
    exact distinct.sublist (List.filter_sublist.map _)

theorem atMostOnce {calls : List Call} (free : NoCollisions digest calls) (ordered : InOrder calls)
    (stable : StableInsertTime (observedBy digest calls)) :
    (((thread digest .none calls).flatMap (contributions digest)).map fun s => s.deposit.id).Nodup := by
  induction calls using List.reverseRecOn with
  | nil => exact List.nodup_nil
  | append_singleton calls call ih =>
    have stableBefore : StableInsertTime (observedBy digest calls) := by
      rw [observedBy_concat] at stable
      exact stable.initial
    have before := ih free.initial (List.pairwise_append.mp ordered).1 stableBefore
    rw [thread_concat, List.flatMap_append, List.map_append, List.flatMap_singleton]
    refine before.append (contributions_nodup call _) ?_
    · intro id earlier now
      obtain ⟨first, inEarlier, rfl⟩ := List.mem_map.mp earlier
      obtain ⟨second, inNow, sameId⟩ := List.mem_map.mp now
      obtain ⟨observed, final⟩ := contributions_observed inEarlier
      exact contributes_first free ordered stable inNow observed final sameId.symm

/-- A supported deposit that is observed final for the first time counts. -/
theorem counts_when_first {calls : List Call} {call : Call} {result : Document}
    (free : NoCollisions digest (calls ++ [call])) (ordered : InOrder (calls ++ [call]))
    (outcome : (attempt digest (cursorAfter digest .none calls) call).outcome = .ok result)
    (later : cursorAfter digest .none calls ≠ .none) {sighting : Sighting}
    (seen : sighting ∈ sightings call) (final : sighting.isFinal = true)
    (supported : sighting.deposit.isSupported = true)
    (first : ∀ earlier ∈ observedBy digest calls, earlier.deposit.id = sighting.deposit.id →
      earlier.isFinal = false) :
    sighting ∈ contributions digest (attempt digest (cursorAfter digest .none calls) call) := by
  obtain ⟨bootstrap, records, deposits, finalScan, done⟩ := collect_ok digest outcome
  obtain ⟨isBootstrap, startMs, order, remembered⟩ :=
    (reached free.initial (List.pairwise_append.mp ordered).1).read ordered done.read
  have notBootstrap : bootstrap = false := by
    by_contra other
    exact later (isBootstrap.mp (by simpa using other))
  have notFinal : hasStatus (records.get? (identityOf digest sighting)) "final" = false := by
    by_contra other
    obtain ⟨earlier, observed, earlierFinal, sameKey⟩ := remembered.final _ (by simpa using other)
    have sameId := (free.at_call rfl).sameId (List.mem_append_left _ observed)
      (List.mem_append_right _ seen) sameKey
    rw [first earlier observed sameId] at earlierFinal
    cases earlierFinal
  rw [contributions_eq outcome done]
  exact List.mem_filter.mpr ⟨seen, by simp [counts, notBootstrap, final, supported, notFinal]⟩

/-- The core fields, or what a final deposit was completed with, are no longer the same. -/
def Changed (earlier now : Sighting) : Prop :=
  earlier.deposit.core ≠ now.deposit.core
    ∨ (earlier.isFinal = true ∧ now.completion ≠ earlier.completion)

omit [CharacterTable] in
theorem completion_of_payload {first second : Deposit} {completion other : Completion}
    (same : finalPayload first completion = finalPayload second other) : completion = other := by
  obtain ⟨completeTime, txId⟩ := completion
  obtain ⟨otherTime, otherId⟩ := other
  simp only [finalPayload, Deposit.core, Dict.mk.injEq, List.cons_append, List.nil_append,
    List.cons.injEq, Prod.mk.injEq, Value.int.injEq, Value.str.injEq, true_and, and_true] at same
  rw [same.2.2.2.2.2.2.2.1, same.2.2.2.2.2.2.2.2]

/-- While its record is retained, a changed deposit makes the call raise. -/
theorem changed_raises {calls : List Call} {call : Call} (free : NoCollisions digest (calls ++ [call]))
    (ordered : InOrder (calls ++ [call])) {sighting earlier : Sighting}
    (seen : sighting ∈ sightings call)
    (last : lastOf (observedBy digest calls) sighting.deposit.id = some earlier)
    (changed : Changed earlier sighting) {bootstrap : Bool} {records : Records}
    (read : externalCashFlowCursor call.now (cursorAfter digest .none calls)
      = .ok (bootstrap, records))
    (retained : (records.get? (identityOf digest sighting)).isSome = true) :
    ∃ raised, (attempt digest (cursorAfter digest .none calls) call).outcome = .error raised := by
  cases outcome : (attempt digest (cursorAfter digest .none calls) call).outcome with
  | error raised => exact ⟨raised, rfl⟩
  | ok result =>
    exfalso
    obtain ⟨_, _, deposits, finalScan, done⟩ := collect_ok digest outcome
    cases read.symm.trans done.read
    obtain ⟨-, startMs, order, remembered⟩ :=
      (reached free.initial (List.pairwise_append.mp ordered).1).read ordered done.read
    obtain ⟨observed, lastId⟩ := lastOf_mem last
    have sameKey : identityOf digest earlier = identityOf digest sighting := by
      rw [identityOf, identityOf, lastId]
    obtain ⟨record, found⟩ := Option.isSome_iff_exists.mp retained
    have matched := remembered.last earlier (by rwa [lastId]) record (by rw [sameKey, found])
    have rowOutcome := done.scanned.outcome sighting seen
    have collision := free.at_call (show calls ++ [call] = calls ++ call :: [] from rfl)
    rcases changed with coreChanged | ⟨final, completionChanged⟩
    · exact coreChanged (collision.sameCore (List.mem_append_left _ observed)
        (List.mem_append_right _ seen) (isStr_unique matched.payload (rowOutcome.payload record found)))
    · have already : hasStatus (records.get? (identityOf digest sighting)) "final" = true := by
        rw [found, matched.hasStatus_final, final]
      obtain ⟨-, completion, completed, sameFinal⟩ := rowOutcome.kept already
      obtain ⟨before, wasCompleted⟩ := Option.isSome_iff_exists.mp final
      have sameDigest := isStr_unique (matched.final before wasCompleted) (sameFinal record found)
      obtain ⟨other, inCalls, inOther⟩ := observedBy_mem observed
      have samePayload := free
        ⟨other, List.mem_append_left _ inCalls, .inl ⟨earlier, inOther, .inr (.inr ⟨before, wasCompleted, rfl⟩)⟩⟩
        ⟨call, by simp, .inl ⟨sighting, seen, .inr (.inr ⟨completion, completed, rfl⟩)⟩⟩ sameDigest
      rw [completed, wasCompleted, completion_of_payload samePayload] at completionChanged
      exact completionChanged rfl

/-- The cursor, and with it every later call, is as if a raising call had not been made. -/
theorem cursorAfter_raise {calls : List Call} {call : Call} {raised : PyException}
    (outcome : (attempt digest (cursorAfter digest .none calls) call).outcome = .error raised) :
    cursorAfter digest .none (calls ++ [call]) = cursorAfter digest .none calls := by
  rw [cursorAfter_concat, nextCursor, outcome]
  rfl

/-- What the collector guarantees over a sequence of calls. -/
structure CountsOnce (digest : Document → String) (calls : List Call) : Prop where
  atMostOnce : (((thread digest .none calls).flatMap (contributions digest)).map
    fun s => s.deposit.id).Nodup
  totals : ∀ before call after, calls = before ++ call :: after → ∀ result,
    (attempt digest (cursorAfter digest .none before) call).outcome = .ok result →
    Totals digest (attempt digest (cursorAfter digest .none before) call) result
  countsFirst : ∀ before call after, calls = before ++ call :: after → ∀ result,
    (attempt digest (cursorAfter digest .none before) call).outcome = .ok result →
    cursorAfter digest .none before ≠ .none →
    ∀ sighting ∈ sightings call, sighting.isFinal = true → sighting.deposit.isSupported = true →
    (∀ earlier ∈ observedBy digest before, earlier.deposit.id = sighting.deposit.id →
      earlier.isFinal = false) →
    sighting ∈ contributions digest (attempt digest (cursorAfter digest .none before) call)
  changeRaises : ∀ before call after, calls = before ++ call :: after →
    ∀ sighting ∈ sightings call, ∀ earlier,
    lastOf (observedBy digest before) sighting.deposit.id = some earlier → Changed earlier sighting →
    ∀ bootstrap records, externalCashFlowCursor call.now (cursorAfter digest .none before)
      = .ok (bootstrap, records) → (records.get? (identityOf digest sighting)).isSome = true →
    ∃ raised, (attempt digest (cursorAfter digest .none before) call).outcome = .error raised
  raiseKeepsCursor : ∀ before call after, calls = before ++ call :: after → ∀ raised,
    (attempt digest (cursorAfter digest .none before) call).outcome = .error raised →
    cursorAfter digest .none (before ++ [call]) = cursorAfter digest .none before

/-- With stable insert times every deposit is counted once. -/
theorem deposits_counted_once {calls : List Call} (free : NoCollisions digest calls)
    (ordered : InOrder calls) (stable : StableInsertTime (observedBy digest calls)) :
    CountsOnce digest calls := by
  have upTo : ∀ {before call after}, calls = before ++ call :: after →
      NoCollisions digest (before ++ [call]) ∧ InOrder (before ++ [call]) := by
    rintro before call after split
    have regrouped : calls = (before ++ [call]) ++ after := by simp [split]
    subst regrouped
    exact ⟨free.initial, (List.pairwise_append.mp ordered).1⟩
  refine ⟨atMostOnce free ordered stable, ?_, ?_, ?_, ?_⟩
  · intro before call after split result outcome
    exact attempt_totals outcome
  · intro before call after split result outcome later sighting seen final supported first
    exact counts_when_first (upTo split).1 (upTo split).2 outcome later seen final supported first
  · intro before call after split sighting seen earlier last changed bootstrap records read retained
    exact changed_raises (upTo split).1 (upTo split).2 seen last changed read retained
  · intro before call after split raised outcome
    exact cursorAfter_raise outcome

end Sequence

/-! ## A deposit id with two insert times -/

local instance : CharacterTable := asciiTable

/-- 2026-09-12T14:00:00Z. -/
def openedAt : Instant := 1789221600000000

def firstInsert : ℤ := 1789221700000
def secondInsert : ℤ := 1789221700000 + 9 * 86400000

def depositRow (insertTime : ℤ) : Value :=
  .dict ⟨[("id", .str "D1"), ("status", .int 1), ("insertTime", .int insertTime),
    ("completeTime", .int (insertTime + 1000)), ("txId", .str "T1"), ("amount", .str "25"),
    ("coin", .str "USDT"), ("walletType", .int 0), ("transferType", .int 0)]⟩

def callAfter (days : ℤ) (deposits : List Value) : Call :=
  ⟨openedAt + days * DateTime.dayMicros, .ok (.list deposits), .ok (.list [])⟩

def deposited (insertTime : ℤ) : Sighting :=
  ⟨⟨"D1", 1, insertTime, ⟨false, 25, 0⟩, "USDT", 0, 0⟩, some ⟨insertTime + 1000, "T1"⟩⟩

def onceCalls : List Call := [callAfter 0 [], callAfter 1 [depositRow firstInsert]]

/-- The record is pruned on the ninth day, before the id comes back. -/
def laterCalls : List Call := [callAfter 9 [], callAfter 10 [depositRow secondInsert]]

def twiceCalls : List Call := onceCalls ++ laterCalls

/-- The next call still sees the deposit. -/
def repeatedCalls : List Call := onceCalls ++ [callAfter 2 [depositRow firstInsert]]

/-- A digest of the five documents that these calls compare. -/
def sampleDigest (payload : Document) : String :=
  let first := intOf (pyGet payload "insert_time") = some firstInsert
  String.ofList (List.replicate 64
    (if payload.contains "provider_id" then 'a'
    else if payload.contains "complete_time" then (if first then 'b' else 'c')
    else if first then 'd' else 'e'))

def samplePayload (text : String) : Document :=
  match text.toList.head? with
  | some 'a' => identityPayload "deposit" "D1"
  | some 'b' => finalPayload (deposited firstInsert).deposit ⟨firstInsert + 1000, "T1"⟩
  | some 'c' => finalPayload (deposited secondInsert).deposit ⟨secondInsert + 1000, "T1"⟩
  | some 'd' => (deposited firstInsert).deposit.core
  | _ => (deposited secondInsert).deposit.core

/-- No withdrawals, and no other deposits than the two. -/
def TwoDeposits (calls : List Call) : Prop :=
  ∀ call ∈ calls, (rowsOf call.withdrawals).isEmpty = true
    ∧ ∀ sighting ∈ sightings call,
      sighting = deposited firstInsert ∨ sighting = deposited secondInsert

instance (calls : List Call) : Decidable (TwoDeposits calls) :=
  inferInstanceAs (Decidable (∀ call ∈ calls, _ ∧ ∀ sighting ∈ sightings call, _ ∨ _))

theorem noCollisions_sample {calls : List Call} (two : TwoDeposits calls) : NoCollisions sampleDigest calls := by
  suffices inverse : Set.LeftInvOn samplePayload sampleDigest
      {payload | ∃ call ∈ calls, payload ∈ hashed call} from inverse.injOn
  rintro payload ⟨call, inCalls, hashed⟩
  obtain ⟨noWithdrawals, deposits⟩ := two call inCalls
  rcases hashed with ⟨sighting, seen, rfl | rfl | ⟨completion, completed, rfl⟩⟩ | ⟨id, inRows, -⟩
  · rcases deposits sighting seen with rfl | rfl <;> rfl
  · rcases deposits sighting seen with rfl | rfl <;> rfl
  · rcases deposits sighting seen with rfl | rfl <;> cases completed <;> rfl
  · rw [List.isEmpty_iff.mp noWithdrawals] at inRows
    cases inRows

theorem repeatedCalls_observed :
    observedBy sampleDigest repeatedCalls = [deposited firstInsert, deposited firstInsert] := by
  decide +kernel

/-- The deposit is seen by two calls. -/
theorem deposits_counted_once_sample : CountsOnce sampleDigest repeatedCalls :=
  deposits_counted_once (noCollisions_sample (by decide +kernel))
    (by simp [InOrder, repeatedCalls, onceCalls, callAfter, DateTime.dayMicros])
    (by simp [repeatedCalls_observed, StableInsertTime])

/-- The same id is counted in the second and in the fourth call. -/
theorem recounted_after_prune :
    ¬ ∀ [CharacterTable] (digest : Document → String) (calls : List Call),
      NoCollisions digest calls → InOrder calls →
      (((thread digest .none calls).flatMap (contributions digest)).map
        fun s => s.deposit.id).Nodup := by
  intro counted
  have ordered : InOrder twiceCalls := by
    simp [InOrder, twiceCalls, onceCalls, laterCalls, callAfter, DateTime.dayMicros]
  have ids : ((thread sampleDigest .none twiceCalls).flatMap (contributions sampleDigest)).map
      (fun s => s.deposit.id) = ["D1", "D1"] := by decide +kernel
  have distinct := counted sampleDigest twiceCalls (noCollisions_sample (by decide +kernel)) ordered
  rw [ids] at distinct
  revert distinct
  decide

end BinancePlatform.Guarantees.DepositsOnce
