import BinancePlatform.Source.BtcAttribution
import BinancePlatform.Source.DecimalText

/-!
# The attribution replay is exact

`reconstruct` adds in the ambient context of 28 digits. Spot and Earn stay below ten
billion with at most 18 decimals between the checks, so no change of them is rounded and a
snapshot is accepted just when its exact replay keeps the bounds and ends at the observed
quantities. Nothing bounds the fee totals: they are exact when their running sums fit in
the context.

* An event moves the replay exactly or is refused (`move_exact`, `step_reached`), and so do
  all of them (`replay_reached`).
* When a snapshot is accepted (`accepted_iff`), and when its totals are exact
  (`exactTotals`).
* The order of the lists is immaterial (`sortEvents_perm`, `reconstruct_reordered`).
* `attribution_exact` states the three; `fee_total_rounded` is a total of more digits.
-/

set_option autoImplicit false

namespace BinancePlatform.Guarantees.AttributionReplay
open BinancePlatform.Library BinancePlatform.Source BinancePlatform.Source.BtcAttribution

/-! ## The exact replay -/

/-- What an event adds to Spot. -/
def spotChange : Movement → ℚ
  | .fill .buy quantity asset fee => quantity.value - (if asset = "BTC" then fee.value else 0)
  | .fill .sell quantity asset fee => -quantity.value - (if asset = "BTC" then fee.value else 0)
  | .transfer true quantity => -quantity.value
  | .transfer false quantity => quantity.value

/-- What an event adds to Earn. -/
def earnChange : Movement → ℚ
  | .fill _ _ _ _ => 0
  | .transfer true quantity => quantity.value
  | .transfer false quantity => -quantity.value

/-- The fee of an event in this asset. -/
def feeIn (asset : String) : Movement → Option Decimal
  | .fill _ _ feeAsset fee => if feeAsset = asset then some fee else none
  | .transfer _ _ => none

def feesIn (asset : String) (movements : List Movement) : List Decimal :=
  movements.filterMap (feeIn asset)

/-- A snapshot that passed every check that is not about a running balance. -/
structure Ledger where
  spot : Decimal
  earn : Decimal
  movements : List Movement
  observedSpot : Decimal
  observedEarn : Decimal

def spotAfter (ledger : Ledger) (taken : List Movement) : ℚ :=
  ledger.spot.value + (taken.map spotChange).sum

def earnAfter (ledger : Ledger) (taken : List Movement) : ℚ :=
  ledger.earn.value + (taken.map earnChange).sum

def Bounded (x : ℚ) : Prop := 0 ≤ x ∧ x ≤ 10 ^ 9

def BoundedAfter (ledger : Ledger) (taken : List Movement) : Prop :=
  Bounded (spotAfter ledger taken) ∧ Bounded (earnAfter ledger taken)

/-- The exact replay keeps the bounds after each event and ends at the observed quantities. -/
structure Conserves (ledger : Ledger) : Prop where
  bounds : ∀ before movement after, ledger.movements = before ++ movement :: after →
    BoundedAfter ledger (before ++ [movement])
  spot : spotAfter ledger ledger.movements = ledger.observedSpot.value
  earn : earnAfter ledger ledger.movements = ledger.observedEarn.value

/-- The shape and identity checks. -/
def readLedger (snapshot : Value) (request : Request) : Except PyException Ledger := do
  let snapshot ← asMapping blocked snapshot
  let opening ← readOpening snapshot request
  let movements ← opening.events.mapM readMovement
  let (spot, earn) ← readObserved snapshot
  return ⟨opening.spot, opening.earn, movements, spot, earn⟩

/-! ## Amounts -/

/-- A decimal with at most 18 decimals. -/
def Fine (d : Decimal) : Prop := -18 ≤ d.exp

/-- An amount that `_amount` returns. -/
structure Small (d : Decimal) : Prop where
  fine : Fine d
  bounded : Bounded d.value

theorem limit_value : amountLimit.value = 10 ^ 9 := by
  norm_num [amountLimit, Decimal.value, Decimal.signed]

theorem inBounds_iff (d : Decimal) : inBounds d = true ↔ Bounded d.value := by
  rw [inBounds, Bool.and_eq_true, Decimal.le_iff, Decimal.le_iff, limit_value, Decimal.value_zero]
  rfl

theorem boundedAmount_small {d out : Decimal} (success : boundedAmount d = .ok out) : Small out := by
  obtain ⟨passed, success⟩ := require_bind success
  cases success
  rw [Bool.and_eq_true, decide_eq_true_eq] at passed
  exact ⟨passed.2, (inBounds_iff d).mp passed.1⟩

theorem amount_small {value : Value} {d : Decimal} (success : BtcAttribution.amount value = .ok d) : Small d := by
  cases value with
  | str s =>
    unfold BtcAttribution.amount at success
    dsimp only at success
    split at success
    · exact boundedAmount_small success
    · cases success
  | int n => exact boundedAmount_small success
  | _ => cases success

/-- A movement whose amounts passed `_amount`. -/
def Sound : Movement → Prop
  | .fill _ quantity _ fee => Small quantity ∧ Small fee
  | .transfer _ quantity => Small quantity

theorem readMovement_sound {event : Event} {movement : Movement}
    (success : readMovement event = .ok movement) : Sound movement := by
  obtain ⟨quantity, read, success⟩ := bind_ok success
  have small := amount_small read
  obtain ⟨-, success⟩ := require_bind success
  split at success
  · obtain ⟨asset, -, success⟩ := bind_ok success
    obtain ⟨-, success⟩ := require_bind success
    obtain ⟨fee, readFee, success⟩ := bind_ok success
    split at success
    · cases success
      exact ⟨small, amount_small readFee⟩
    · split at success <;> cases success
      exact ⟨small, amount_small readFee⟩
  · split at success
    · cases success
      exact small
    · split at success <;> cases success
      exact small

/-! ## Additions that do not round -/

theorem plus_exact {a b : Decimal} (fineA : Fine a) (fineB : Fine b)
    (bound : |a.value + b.value| < 10 ^ 10) :
    ∃ out, plus a b = .ok out ∧ out.value = a.value + b.value ∧ Fine out := by
  obtain ⟨out, added, value, fine⟩ := Decimal.add_exact defaultContext a b (-18) 10 fineA fineB
    (by exact_mod_cast bound) (by decide) (by decide) (by decide) (by decide)
  exact ⟨out, by rw [plus, added]; rfl, value, fine⟩

theorem minus_exact {a b : Decimal} (fineA : Fine a) (fineB : Fine b)
    (bound : |a.value - b.value| < 10 ^ 10) :
    ∃ out, minus a b = .ok out ∧ out.value = a.value - b.value ∧ Fine out := by
  have sum := plus_exact fineA (show Fine b.neg from fineB)
    (by rwa [Decimal.value_neg, ← sub_eq_add_neg])
  rwa [Decimal.value_neg, ← sub_eq_add_neg] at sum

/-- A fee total never traps: each addition at most doubles it. -/
theorem plus_total {total fee : Decimal} {n : ℕ} (fineTotal : Fine total) (small : Small fee)
    (nonneg : 0 ≤ total.value) (bound : total.value ≤ 10 ^ (9 + n)) (count : n ≤ 10000) :
    ∃ out, total.add defaultContext fee = some out ∧ Fine out ∧ 0 ≤ out.value
      ∧ out.value ≤ 10 ^ (9 + (n + 1)) := by
  have grows : (10 : ℚ) ^ 9 ≤ 10 ^ (9 + n) := pow_le_pow_right₀ (by norm_num) (by omega)
  have some : (0 : ℚ) < 10 ^ (9 + n) := by positivity
  have next : (10 : ℚ) ^ (9 + (n + 1)) = 10 * 10 ^ (9 + n) := by
    rw [← add_assoc, pow_succ]
    ring
  have feeBound := small.bounded
  have exact : (total.exactAdd fee).value = total.value + fee.value := Decimal.value_exactAdd total fee
  have strict : (total.exactAdd fee).value < (10 : ℚ) ^ (20000 : ℤ) := by
    rw [exact]
    have reach : (10 : ℚ) ^ (9 + (n + 1)) ≤ 10 ^ (20000 : ℤ) := by
      rw [← zpow_natCast]
      exact zpow_le_zpow_right₀ (by norm_num) (by push_cast; omega)
    refine lt_of_lt_of_le ?_ reach
    rw [next]
    linarith [feeBound.2]
  obtain ⟨out, added, fine, positive, double⟩ := @Decimal.fix_double defaultContext _ (-18) _
    (le_min fineTotal small.fine) (by rw [exact]; linarith [feeBound.1]) strict
    (by decide) (by decide) (by decide) (by decide)
  refine ⟨out, added, fine, positive, double.trans ?_⟩
  rw [exact, next]
  linarith [feeBound.2]

/-! ## One event -/

/-- The ledger's state after the first movements. -/
structure Reached (ledger : Ledger) (taken : List Movement) (state : Attribution) : Prop where
  spot : state.spot.value = spotAfter ledger taken
  earn : state.earn.value = earnAfter ledger taken
  fineSpot : Fine state.spot
  fineEarn : Fine state.earn
  bounded : BoundedAfter ledger taken
  fees : ∀ asset, state.fees.get? asset
    = if feesIn asset taken = [] then none else Decimal.sum defaultContext .zero (feesIn asset taken)
  total : ∀ asset, ∃ total, Decimal.sum defaultContext .zero (feesIn asset taken) = some total
    ∧ Fine total ∧ 0 ≤ total.value ∧ total.value ≤ 10 ^ (9 + taken.length)

theorem spotAfter_concat (ledger : Ledger) (taken : List Movement) (movement : Movement) :
    spotAfter ledger (taken ++ [movement]) = spotAfter ledger taken + spotChange movement := by
  simp [spotAfter, add_assoc]

theorem earnAfter_concat (ledger : Ledger) (taken : List Movement) (movement : Movement) :
    earnAfter ledger (taken ++ [movement]) = earnAfter ledger taken + earnChange movement := by
  simp [earnAfter, add_assoc]

/-- What the change of one event leaves behind. -/
structure Moved (state : Attribution) (movement : Movement) (next : Attribution) : Prop where
  spot : next.spot.value = state.spot.value + spotChange movement
  earn : next.earn.value = state.earn.value + earnChange movement
  fineSpot : Fine next.spot
  fineEarn : Fine next.earn
  fees : ∀ asset, next.fees.get? asset = match feeIn asset movement with
    | some fee => ((state.fees.get? asset).getD .zero).add defaultContext fee
    | none => state.fees.get? asset

theorem abs_lt_of_bounded {x y : ℚ} (first : Bounded x) (second : Bounded y) :
    |x + y| < 10 ^ 10 ∧ |x - y| < 10 ^ 10 := by
  obtain ⟨lowX, highX⟩ := first
  obtain ⟨lowY, highY⟩ := second
  constructor <;> rw [abs_lt] <;> constructor <;> linarith

/-- No change of Spot or Earn is rounded. -/
theorem move_exact {state : Attribution} {movement : Movement} (sound : Sound movement)
    (spot : Small state.spot) (earn : Small state.earn)
    (charged : ∀ asset fee, feeIn asset movement = some fee →
      ∃ total, ((state.fees.get? asset).getD .zero).add defaultContext fee = some total) :
    ∃ next, move state movement = .ok next ∧ Moved state movement next := by
  cases movement with
  | fill side quantity asset fee =>
    obtain ⟨quantitySmall, feeSmall⟩ := sound
    obtain ⟨total, added⟩ := charged asset fee (if_pos rfl)
    have plusTotal : plus ((state.fees.get? asset).getD .zero) fee = .ok total := by
      rw [plus, added]
      rfl
    have near := abs_lt_of_bounded spot.bounded quantitySmall.bounded
    -- The fee leaves Spot after the trade, still within ten billion.
    have charge : ∀ traded : Decimal, Fine traded → -(10 ^ 9) ≤ traded.value →
        traded.value ≤ 2 * 10 ^ 9 → ∃ out, afterFee traded asset fee = .ok out
          ∧ out.value = traded.value - (if asset = "BTC" then fee.value else 0) ∧ Fine out := by
      intro traded fine low high
      have feeBound := feeSmall.bounded
      unfold afterFee
      split
      · refine minus_exact fine feeSmall.fine ?_
        rw [abs_lt]
        constructor <;> linarith [feeBound.1, feeBound.2]
      · exact ⟨traded, rfl, (sub_zero _).symm, fine⟩
    have fees : ∀ name, (state.fees.set asset total).get? name
        = match feeIn name (.fill side quantity asset fee) with
          | some fee => ((state.fees.get? name).getD .zero).add defaultContext fee
          | none => state.fees.get? name := by
      intro name
      rw [Dict.get?_set, feeIn]
      by_cases same : asset = name
      · subst same
        simp [added]
      · simp [same, Ne.symm same]
    have bounds := spot.bounded
    have quantityBounds := quantitySmall.bounded
    cases side with
    | buy =>
      obtain ⟨traded, bought, value, fine⟩ := plus_exact spot.fine quantitySmall.fine near.1
      obtain ⟨out, charged, outValue, outFine⟩ := charge traded fine
        (by linarith [bounds.1, quantityBounds.1]) (by linarith [bounds.2, quantityBounds.2])
      refine ⟨⟨out, state.earn, state.fees.set asset total⟩, ?_, ?_, ?_, outFine, earn.fine, fees⟩
      · rw [move, bind_of plusTotal, bind_of (show afterTrade _ .buy _ = _ from bought), bind_of charged]
        rfl
      · rw [outValue, value, spotChange]
        ring
      · exact (add_zero _).symm
    | sell =>
      obtain ⟨traded, sold, value, fine⟩ := minus_exact spot.fine quantitySmall.fine near.2
      obtain ⟨out, charged, outValue, outFine⟩ := charge traded fine
        (by linarith [bounds.1, quantityBounds.2]) (by linarith [bounds.2, quantityBounds.1])
      refine ⟨⟨out, state.earn, state.fees.set asset total⟩, ?_, ?_, ?_, outFine, earn.fine, fees⟩
      · rw [move, bind_of plusTotal, bind_of (show afterTrade _ .sell _ = _ from sold), bind_of charged]
        rfl
      · rw [outValue, value, spotChange]
        ring
      · exact (add_zero _).symm
  | transfer toEarn quantity =>
    have small : Small quantity := sound
    have nearSpot := abs_lt_of_bounded spot.bounded small.bounded
    have nearEarn := abs_lt_of_bounded earn.bounded small.bounded
    cases toEarn with
    | true =>
      obtain ⟨left, taken, leftValue, leftFine⟩ := minus_exact spot.fine small.fine nearSpot.2
      obtain ⟨held, given, heldValue, heldFine⟩ := plus_exact earn.fine small.fine nearEarn.1
      refine ⟨⟨left, held, state.fees⟩, ?_, ?_, heldValue, leftFine, heldFine, fun _ => rfl⟩
      · rw [move, bind_of taken, bind_of given]
        rfl
      · rw [leftValue, spotChange]
        ring
    | false =>
      obtain ⟨held, taken, heldValue, heldFine⟩ := minus_exact earn.fine small.fine nearEarn.2
      obtain ⟨left, given, leftValue, leftFine⟩ := plus_exact spot.fine small.fine nearSpot.1
      refine ⟨⟨left, held, state.fees⟩, ?_, leftValue, ?_, leftFine, heldFine, fun _ => rfl⟩
      · rw [move, bind_of taken, bind_of given]
        rfl
      · rw [heldValue, earnChange]
        ring

theorem feesIn_concat (asset : String) (taken : List Movement) (movement : Movement) :
    feesIn asset (taken ++ [movement]) = feesIn asset taken ++ (feeIn asset movement).toList := by
  rw [feesIn, List.filterMap_append]
  cases charged : feeIn asset movement <;> simp [feesIn, charged]

theorem sum_concat {amounts : List Decimal} {total last : Decimal}
    (summed : Decimal.sum defaultContext .zero amounts = some total) :
    Decimal.sum defaultContext .zero (amounts ++ [last]) = total.add defaultContext last := by
  rw [Decimal.sum_append, summed]
  simp [Decimal.sum]

theorem feeIn_small {movement : Movement} (sound : Sound movement) {asset : String} {fee : Decimal}
    (charged : feeIn asset movement = some fee) : Small fee := by
  cases movement with
  | fill side quantity feeAsset paid =>
    unfold feeIn at charged
    dsimp only at charged
    split at charged
    · cases charged
      exact sound.2
    · cases charged
  | transfer toEarn quantity => cases charged

/-- One event is refused just when it leaves the bounds, and else reaches the exact sums. -/
theorem step_reached {ledger : Ledger} {taken : List Movement} {state : Attribution}
    {movement : Movement} (reached : Reached ledger taken state) (sound : Sound movement)
    (count : taken.length ≤ 10000) :
    ∃ next, (BoundedAfter ledger (taken ++ [movement]) → Reached ledger (taken ++ [movement]) next)
      ∧ (∀ done, replayEvent state movement = .ok done ↔
        done = next ∧ BoundedAfter ledger (taken ++ [movement])) := by
  have total : ∀ asset, ∃ total,
      Decimal.sum defaultContext .zero (feesIn asset (taken ++ [movement])) = some total
        ∧ Fine total ∧ 0 ≤ total.value ∧ total.value ≤ 10 ^ (9 + (taken ++ [movement]).length)
        ∧ ∀ fee, feeIn asset movement = some fee →
          ((state.fees.get? asset).getD .zero).add defaultContext fee = some total := by
    intro asset
    obtain ⟨before, summed, fine, nonneg, bound⟩ := reached.total asset
    have held : (state.fees.get? asset).getD .zero = before := by
      rw [reached.fees asset]
      split
      · rename_i nothing
        rw [nothing] at summed
        exact Option.some.inj summed
      · rw [summed]
        rfl
    rw [feesIn_concat, List.length_append, List.length_singleton]
    cases charged : feeIn asset movement with
    | none =>
      refine ⟨before, by simpa using summed, fine, nonneg, bound.trans ?_, by simp⟩
      exact pow_le_pow_right₀ (by norm_num) (by omega)
    | some fee =>
      obtain ⟨after, added, fineAfter, positive, most⟩ :=
        plus_total fine (feeIn_small sound charged) nonneg bound count
      refine ⟨after, (sum_concat summed).trans added, fineAfter, positive, most, ?_⟩
      rintro other same
      cases same
      rw [held]
      exact added
  obtain ⟨next, moves, moved⟩ := move_exact sound ⟨reached.fineSpot, reached.spot ▸ reached.bounded.1⟩
    ⟨reached.fineEarn, reached.earn ▸ reached.bounded.2⟩ fun asset fee charged => by
      obtain ⟨sum, -, -, -, -, added⟩ := total asset
      exact ⟨sum, added fee charged⟩
  have spot : next.spot.value = spotAfter ledger (taken ++ [movement]) := by
    rw [moved.spot, reached.spot, spotAfter_concat]
  have earn : next.earn.value = earnAfter ledger (taken ++ [movement]) := by
    rw [moved.earn, reached.earn, earnAfter_concat]
  refine ⟨next, fun bounded => ⟨spot, earn, moved.fineSpot, moved.fineEarn, bounded, ?_, ?_⟩, ?_⟩
  · intro asset
    obtain ⟨sum, summed, -, -, -, added⟩ := total asset
    rw [moved.fees asset]
    cases charged : feeIn asset movement with
    | none => simp only [feesIn_concat, charged, Option.toList_none, List.append_nil, reached.fees asset]
    | some fee =>
      rw [if_neg (by simp [feesIn_concat, charged]), summed]
      exact added fee charged
  · intro asset
    obtain ⟨sum, summed, fine, nonneg, bound, -⟩ := total asset
    exact ⟨sum, summed, fine, nonneg, bound⟩
  · intro done
    have checks : (inBounds next.spot && inBounds next.earn) = true
        ↔ BoundedAfter ledger (taken ++ [movement]) := by
      rw [Bool.and_eq_true, inBounds_iff, inBounds_iff, spot, earn]
      rfl
    rw [replayEvent, bind_of moves, ← checks]
    cases (inBounds next.spot && inBounds next.earn) with
    | true =>
      change Except.ok next = _ ↔ _
      simp [eq_comm]
    | false =>
      change (Except.error blocked : Except PyException Attribution) = _ ↔ _
      simp

/-! ## A whole replay -/

/-- The bounds after each of the later events. -/
def KeepsBounds (ledger : Ledger) (taken rest : List Movement) : Prop :=
  ∀ before movement after, rest = before ++ movement :: after →
    BoundedAfter ledger (taken ++ before ++ [movement])

theorem keepsBounds_cons {ledger : Ledger} {taken rest : List Movement} {movement : Movement} :
    KeepsBounds ledger taken (movement :: rest)
      ↔ BoundedAfter ledger (taken ++ [movement]) ∧ KeepsBounds ledger (taken ++ [movement]) rest := by
  constructor
  · intro keeps
    refine ⟨by simpa using keeps [] movement rest rfl, fun before later after split => ?_⟩
    have := keeps (movement :: before) later after (by rw [split]; rfl)
    simpa using this
  · rintro ⟨first, keeps⟩ before later after split
    cases before with
    | nil =>
      cases split
      simpa using first
    | cons head before =>
      obtain ⟨rfl, tail⟩ := List.cons.inj split
      simpa using keeps before later after tail

/-- The induction over the movements: the replay ends exactly when the exact one keeps its bounds.
-/
theorem replay_reached {ledger : Ledger} {taken rest : List Movement} {state : Attribution}
    (reached : Reached ledger taken state) (sound : ∀ movement ∈ rest, Sound movement)
    (count : taken.length + rest.length ≤ 10000) :
    ∃ final, (KeepsBounds ledger taken rest → Reached ledger (taken ++ rest) final)
      ∧ (∀ done, rest.foldlM replayEvent state = .ok done ↔ done = final ∧ KeepsBounds ledger taken rest) := by
  induction rest generalizing taken state with
  | nil =>
    refine ⟨state, fun _ => by simpa using reached, fun done => ?_⟩
    have none : KeepsBounds ledger taken [] := by
      intro before movement after split
      simp at split
    simp [none, pure, Except.pure, eq_comm]
  | cons movement rest ih =>
    rw [List.length_cons] at count
    obtain ⟨next, nextReached, step⟩ :=
      step_reached reached (sound movement List.mem_cons_self) (by omega)
    by_cases bounded : BoundedAfter ledger (taken ++ [movement])
    · have stepped := (step next).mpr ⟨rfl, bounded⟩
      obtain ⟨final, finalReached, run⟩ := ih (nextReached bounded)
        (fun later member => sound later (List.mem_cons_of_mem movement member))
        (by rw [List.length_append, List.length_singleton]; omega)
      refine ⟨final, fun keeps => ?_, fun done => ?_⟩
      · simpa using finalReached (keepsBounds_cons.mp keeps).2
      · rw [List.foldlM_cons, bind_of stepped, run done, keepsBounds_cons]
        simp [bounded]
    · refine ⟨next, fun keeps => absurd (keepsBounds_cons.mp keeps).1 bounded, fun done => ?_⟩
      constructor
      · intro finished
        rw [List.foldlM_cons] at finished
        obtain ⟨middle, stepped, -⟩ := bind_ok finished
        exact absurd ((step middle).mp stepped).2 bounded
      · rintro ⟨-, keeps⟩
        exact absurd (keepsBounds_cons.mp keeps).1 bounded

/-- A ledger as `readLedger` returns it. -/
structure Ledger.Sound (ledger : Ledger) : Prop where
  spot : Small ledger.spot
  earn : Small ledger.earn
  movements : ∀ movement ∈ ledger.movements, AttributionReplay.Sound movement
  count : ledger.movements.length ≤ 10000

theorem Ledger.Sound.opening {ledger : Ledger} (sound : ledger.Sound) :
    Reached ledger [] ⟨ledger.spot, ledger.earn, .empty⟩ where
  spot := by simp [spotAfter]
  earn := by simp [earnAfter]
  fineSpot := sound.spot.fine
  fineEarn := sound.earn.fine
  bounded := ⟨by simpa [spotAfter] using sound.spot.bounded,
    by simpa [earnAfter] using sound.earn.bounded⟩
  fees := fun _ => rfl
  total := fun _ => ⟨.zero, rfl, show (-18 : ℤ) ≤ 0 by decide, by rw [Decimal.value_zero],
    by rw [Decimal.value_zero]; positivity⟩

theorem collectEvent_ok {window : Window} {isFill : Bool} {values : List Value}
    {start final : List String × List Event} :
    values.foldlM (collectEvent window isFill) start = .ok final
      ↔ ∃ pairs, values.mapM (readEvent window isFill) = .ok pairs
        ∧ ((pairs.map Prod.fst).Nodup ∧ ∀ id ∈ pairs.map Prod.fst, id ∉ start.1)
        ∧ final = ((pairs.map Prod.fst).reverse ++ start.1, start.2 ++ pairs.map Prod.snd) := by
  have body : collectEvent window isFill = fun gathered value => readEvent window isFill value
      >>= fun pair => (do
        require (pair.1 ∉ gathered.1) blocked
        return (pair.1 :: gathered.1, gathered.2 ++ [pair.2])) := rfl
  rw [body, foldlM_read_ok]
  refine exists_congr fun pairs => and_congr_right fun read => ?_
  clear body read
  induction pairs generalizing start with
  | nil => simp [pure, Except.pure, eq_comm]
  | cons pair rest ih =>
    rw [List.foldlM_cons]
    by_cases fresh : pair.1 ∈ start.1
    · rw [show (require (decide (pair.1 ∉ start.1)) blocked : Except PyException Unit)
        = .error blocked by simp [fresh, require]]
      change (Except.error blocked : Except PyException (List String × List Event)) = _ ↔ _
      simp [fresh]
    · rw [require_bind_of (by simpa using fresh)]
      refine (@ih (pair.1 :: start.1, start.2 ++ [pair.2])).trans ?_
      simp only [List.map_cons, List.nodup_cons, List.mem_cons, List.reverse_cons, List.append_assoc,
        List.cons_append, List.nil_append]
      constructor
      · rintro ⟨⟨distinct, others⟩, rfl⟩
        refine ⟨⟨⟨fun again => (others _ again) (.inl rfl), distinct⟩, ?_⟩, rfl⟩
        rintro id (rfl | later)
        · exact fresh
        · exact fun seen => others id later (.inr seen)
      · rintro ⟨⟨⟨once, distinct⟩, others⟩, rfl⟩
        refine ⟨⟨distinct, fun id later => ?_⟩, rfl⟩
        rintro (rfl | seen)
        · exact once later
        · exact others id (.inr later) seen

theorem collectEvents_ok {window : Window} {fills transfers : List Value} {events : List Event} :
    collectEvents window fills transfers = .ok events
      ↔ ∃ filled moved, fills.mapM (readEvent window true) = .ok filled
        ∧ transfers.mapM (readEvent window false) = .ok moved
        ∧ ((filled ++ moved).map Prod.fst).Nodup ∧ events = (filled ++ moved).map Prod.snd := by
  constructor
  · intro success
    obtain ⟨first, collected, success⟩ := bind_ok success
    obtain ⟨second, gathered, success⟩ := bind_ok success
    cases success
    obtain ⟨filled, readFills, ⟨distinct, -⟩, rfl⟩ := collectEvent_ok.mp collected
    obtain ⟨moved, readMoves, ⟨distinctMoves, apart⟩, rfl⟩ := collectEvent_ok.mp gathered
    refine ⟨filled, moved, readFills, readMoves, ?_, by simp⟩
    rw [List.map_append, List.nodup_append]
    refine ⟨distinct, distinctMoves, fun id inFills other inMoves same => ?_⟩
    exact apart other inMoves (by simpa [← same] using inFills)
  · rintro ⟨filled, moved, readFills, readMoves, distinct, rfl⟩
    rw [List.map_append, List.nodup_append] at distinct
    have first := (@collectEvent_ok _ _ _ ([], []) _).mpr ⟨filled, readFills, ⟨distinct.1, by simp⟩, rfl⟩
    have second := (@collectEvent_ok _ _ _ ((filled.map Prod.fst).reverse ++ [],
      [] ++ filled.map Prod.snd) _).mpr ⟨moved, readMoves, ⟨distinct.2.1, fun id inMoves inFills =>
        distinct.2.2 id (by simpa using inFills) id inMoves rfl⟩, rfl⟩
    rw [collectEvents, bind_of first, bind_of second]
    simp [pure, Except.pure]

theorem readLedger_sound {snapshot : Value} {request : Request} {ledger : Ledger}
    (success : readLedger snapshot request = .ok ledger) : ledger.Sound := by
  obtain ⟨document, -, success⟩ := bind_ok success
  obtain ⟨opening, opened, success⟩ := bind_ok success
  obtain ⟨movements, moved, success⟩ := bind_ok success
  obtain ⟨⟨spot, earn⟩, -, success⟩ := bind_ok success
  cases success
  obtain ⟨window, -, opened⟩ := bind_ok opened
  obtain ⟨fills, -, opened⟩ := bind_ok opened
  obtain ⟨transfers, -, opened⟩ := bind_ok opened
  obtain ⟨unsettled, -, opened⟩ := bind_ok opened
  obtain ⟨few, opened⟩ := require_bind opened
  obtain ⟨openingSpot, readSpot, opened⟩ := bind_ok opened
  obtain ⟨openingEarn, readEarn, opened⟩ := bind_ok opened
  obtain ⟨events, collected, opened⟩ := bind_ok opened
  obtain ⟨-, opened⟩ := require_bind opened
  cases opened
  have paired := mapM_ok moved
  refine ⟨amount_small readSpot, amount_small readEarn, fun movement member => ?_, ?_⟩
  · obtain ⟨event, -, read⟩ := forall₂_exists paired.flip member
    exact readMovement_sound read
  · obtain ⟨filled, moves, readFills, readMoves, -, rfl⟩ := collectEvents_ok.mp collected
    have sizes := paired.length_eq
    rw [sortEvents, List.length_insertionSort, List.length_map, List.length_append,
      ← (mapM_ok readFills).length_eq, ← (mapM_ok readMoves).length_eq] at sizes
    rw [Bool.and_eq_true, decide_eq_true_eq] at few
    dsimp only
    omega

theorem reconstruct_ok {snapshot : Value} {request : Request} {final : Attribution} :
    reconstruct snapshot request = .ok final
      ↔ ∃ ledger, readLedger snapshot request = .ok ledger
        ∧ ledger.movements.foldlM replayEvent ⟨ledger.spot, ledger.earn, .empty⟩ = .ok final
        ∧ final.spot.value = ledger.observedSpot.value ∧ final.earn.value = ledger.observedEarn.value := by
  constructor
  · intro success
    obtain ⟨document, mapped, success⟩ := bind_ok success
    obtain ⟨opening, opened, success⟩ := bind_ok success
    obtain ⟨final, replayed, success⟩ := bind_ok success
    obtain ⟨⟨spot, earn⟩, observed, success⟩ := bind_ok success
    obtain ⟨same, success⟩ := require_bind success
    cases success
    obtain ⟨movements, moved, replayed⟩ := foldlM_read_ok.mp replayed
    rw [Bool.and_eq_true, Decimal.eqv_iff, Decimal.eqv_iff] at same
    refine ⟨⟨opening.spot, opening.earn, movements, spot, earn⟩, ?_, replayed, same.1, same.2⟩
    rw [readLedger, bind_of mapped, bind_of opened, bind_of moved, bind_of observed]
    rfl
  · rintro ⟨ledger, success, replayed, sameSpot, sameEarn⟩
    obtain ⟨document, mapped, success⟩ := bind_ok success
    obtain ⟨opening, opened, success⟩ := bind_ok success
    obtain ⟨movements, moved, success⟩ := bind_ok success
    obtain ⟨⟨spot, earn⟩, observed, success⟩ := bind_ok success
    cases success
    have whole := foldlM_read_ok.mpr ⟨movements, moved, replayed⟩
    rw [reconstruct, bind_of mapped, bind_of opened, bind_of whole, bind_of observed]
    refine require_bind_of ?_
    rw [Bool.and_eq_true, Decimal.eqv_iff, Decimal.eqv_iff]
    exact ⟨sameSpot, sameEarn⟩

/-! ## The totals -/

/-- The total that the result holds for an asset. -/
def feeTotal (final : Attribution) (asset : String) : ℚ := ((final.fees.get? asset).getD .zero).value

/-- Every running fee sum has its digits in one window of the ambient context. -/
def FeesFit (ledger : Ledger) : Prop :=
  ∀ asset, Decimal.RunningSumsFit defaultContext 0 (feesIn asset ledger.movements)

/-- The result of an accepted replay. -/
structure ExactTotals (ledger : Ledger) (final : Attribution) : Prop where
  spot : final.spot.value = spotAfter ledger ledger.movements
  earn : final.earn.value = earnAfter ledger ledger.movements
  charged : ∀ asset, (final.fees.get? asset).isSome = true ↔ feesIn asset ledger.movements ≠ []
  fees : FeesFit ledger →
    ∀ asset, feeTotal final asset = Decimal.exactSum (feesIn asset ledger.movements)

/-- A sound ledger is accepted if and only if its exact replay ends at what was observed. -/
theorem accepted_iff {ledger : Ledger} (sound : ledger.Sound) :
    (∃ final, ledger.movements.foldlM replayEvent ⟨ledger.spot, ledger.earn, .empty⟩ = .ok final
      ∧ final.spot.value = ledger.observedSpot.value ∧ final.earn.value = ledger.observedEarn.value)
      ↔ Conserves ledger := by
  obtain ⟨final, reached, run⟩ := replay_reached sound.opening sound.movements
    (by simpa using sound.count)
  constructor
  · rintro ⟨done, replayed, spot, earn⟩
    obtain ⟨rfl, keeps⟩ := (run done).mp replayed
    have exact := reached keeps
    exact ⟨by simpa [KeepsBounds] using keeps, exact.spot.symm.trans spot, exact.earn.symm.trans earn⟩
  · intro conserves
    have keeps : KeepsBounds ledger [] ledger.movements := by
      simpa [KeepsBounds] using conserves.bounds
    have exact := reached keeps
    exact ⟨final, (run final).mpr ⟨rfl, keeps⟩, exact.spot.trans conserves.spot,
      exact.earn.trans conserves.earn⟩

/-- Each running total of an accepted replay is exact where its sums fit. -/
theorem exactTotals {ledger : Ledger} {final : Attribution} (sound : ledger.Sound)
    (replayed : ledger.movements.foldlM replayEvent ⟨ledger.spot, ledger.earn, .empty⟩ = .ok final) :
    ExactTotals ledger final := by
  obtain ⟨last, reached, run⟩ := replay_reached sound.opening sound.movements
    (by simpa using sound.count)
  obtain ⟨rfl, keeps⟩ := (run final).mp replayed
  have exact := reached keeps
  rw [List.nil_append] at exact
  refine ⟨exact.spot, exact.earn, fun asset => ?_, fun fit asset => ?_⟩
  · obtain ⟨total, summed, -⟩ := exact.total asset
    rw [exact.fees asset, summed]
    split <;> simp_all
  · obtain ⟨total, summed, value⟩ := @Decimal.sumsExactly_of_fit _ .zero _
      (by rw [Decimal.value_zero]; exact fit asset)
    rw [Decimal.value_zero, zero_add] at value
    rw [feeTotal, exact.fees asset, summed, ← value]
    split
    · rename_i nothing
      rw [nothing] at summed
      cases summed
      rfl
    · rfl

/-- The attributed Spot is an amount. -/
theorem reconstruct_small {snapshot : Value} {request : Request} {final : Attribution}
    (success : reconstruct snapshot request = .ok final) : Small final.spot := by
  obtain ⟨ledger, read, replayed, -⟩ := reconstruct_ok.mp success
  have sound := readLedger_sound read
  obtain ⟨last, reached, run⟩ := replay_reached sound.opening sound.movements
    (by simpa using sound.count)
  obtain ⟨rfl, keeps⟩ := (run final).mp replayed
  have exact := reached keeps
  exact ⟨exact.fineSpot, exact.spot ▸ exact.bounded.1⟩

/-! ## The order of the lists -/

/-- Events with distinct times are sorted alike in any order. -/
theorem sortEvents_perm {events others : List Event} (perm : events.Perm others)
    (distinct : ((sortEvents events).map Event.time).Nodup) : sortEvents events = sortEvents others := by
  have sorted : (sortEvents events).Perm (sortEvents others) :=
    (List.perm_insertionSort _ events).trans (perm.trans (List.perm_insertionSort _ others).symm)
  have ordered : ∀ list : List Event, (sortEvents list).Pairwise fun a b => a.time ≤ b.time := by
    intro list
    have : Std.Total fun a b : Event => a.time ≤ b.time := ⟨fun a b => le_total a.time b.time⟩
    have : IsTrans Event fun a b => a.time ≤ b.time := ⟨fun _ _ _ => le_trans⟩
    exact List.pairwise_insertionSort _ list
  refine sorted.eq_of_pairwise (fun a b inFirst inSecond le ge => ?_) (ordered events) (ordered others)
  exact List.inj_on_of_nodup_map distinct inFirst (sorted.symm.subset inSecond) (le_antisymm le ge)

/-- Two snapshots that differ in the order of their fills and of their transfers. -/
structure Reordered (snapshot other : Document) : Prop where
  rest : ∀ key, key ≠ "fills" → key ≠ "transfers" → other.get? key = snapshot.get? key
  fills : ∃ xs ys, snapshot.get? "fills" = some (.list xs) ∧ other.get? "fills" = some (.list ys)
    ∧ ys.Perm xs
  transfers : ∃ xs ys, snapshot.get? "transfers" = some (.list xs)
    ∧ other.get? "transfers" = some (.list ys) ∧ ys.Perm xs

theorem Reordered.symm {snapshot other : Document} (reordered : Reordered snapshot other) :
    Reordered other snapshot := by
  obtain ⟨fills, others, listed, listedOther, permFills⟩ := reordered.fills
  obtain ⟨transfers, moves, listedMoves, listedOtherMoves, permMoves⟩ := reordered.transfers
  exact ⟨fun key notFills notTransfers => (reordered.rest key notFills notTransfers).symm,
    ⟨others, fills, listedOther, listed, permFills.symm⟩,
    ⟨moves, transfers, listedOtherMoves, listedMoves, permMoves.symm⟩⟩

theorem Reordered.pyGet {snapshot other : Document} (reordered : Reordered snapshot other) {key : String}
    (outside : key ≠ "fills" ∧ key ≠ "transfers") :
    Source.pyGet other key = Source.pyGet snapshot key := by
  rw [Source.pyGet, reordered.rest key outside.1 outside.2, Source.pyGet]

theorem Reordered.hasExactly {snapshot other : Document} (reordered : Reordered snapshot other)
    (names : List String) : Source.hasExactly other names = Source.hasExactly snapshot names := by
  have present : ∀ key, (other.get? key).isSome = (snapshot.get? key).isSome := by
    intro key
    obtain ⟨fills, others, listed, listedOther, -⟩ := reordered.fills
    obtain ⟨transfers, moves, listedMoves, listedOtherMoves, -⟩ := reordered.transfers
    by_cases isFills : key = "fills"
    · rw [isFills, listed, listedOther]
      rfl
    by_cases isTransfers : key = "transfers"
    · rw [isTransfers, listedMoves, listedOtherMoves]
      rfl
    · rw [reordered.rest key isFills isTransfers]
  rw [Bool.eq_iff_iff, hasExactly_iff, hasExactly_iff]
  simp only [present]

theorem asList_of_get? {snapshot : Document} {key : String} {items : List Value}
    (listed : snapshot.get? key = some (.list items)) : asList (pyGet snapshot key) = .ok items := by
  rw [pyGet, listed]
  rfl

theorem readOpening_reordered {snapshot other : Document} {request : Request} {opening : Opening}
    (reordered : Reordered snapshot other) (opened : readOpening snapshot request = .ok opening) :
    readOpening other request = .ok opening := by
  have header : readHeader other request = readHeader snapshot request := by
    unfold readHeader
    rw [reordered.hasExactly]
    simp only [reordered.pyGet, ne_eq, String.reduceEq, not_false_eq_true, and_self]
  obtain ⟨fills, others, listed, listedOther, permFills⟩ := reordered.fills
  obtain ⟨transfers, moves, listedMoves, listedOtherMoves, permMoves⟩ := reordered.transfers
  unfold readOpening at opened ⊢
  obtain ⟨window, read, opened⟩ := bind_ok opened
  rw [bind_of (asList_of_get? listed), bind_of (asList_of_get? listedMoves)] at opened
  obtain ⟨unsettled, orders, opened⟩ := bind_ok opened
  obtain ⟨few, opened⟩ := require_bind opened
  obtain ⟨spot, readSpot, opened⟩ := bind_ok opened
  obtain ⟨earn, readEarn, opened⟩ := bind_ok opened
  obtain ⟨events, collected, opened⟩ := bind_ok opened
  obtain ⟨distinct, opened⟩ := require_bind opened
  cases opened
  obtain ⟨filled, moved, readFills, readMoves, ids, rfl⟩ := collectEvents_ok.mp collected
  obtain ⟨newFilled, readNewFills, permFilled⟩ := mapM_perm permFills readFills
  obtain ⟨newMoved, readNewMoves, permMoved⟩ := mapM_perm permMoves readMoves
  have together := permFilled.append permMoved
  have gathered := collectEvents_ok.mpr ⟨newFilled, newMoved, readNewFills, readNewMoves,
    (together.map Prod.fst).nodup_iff.mpr ids, rfl⟩
  have same := sortEvents_perm (together.map Prod.snd).symm (of_decide_eq_true distinct)
  rw [permFills.length_eq.symm, permMoves.length_eq.symm] at few
  rw [header, bind_of read, bind_of (asList_of_get? listedOther), bind_of (asList_of_get? listedOtherMoves)]
  simp only [reordered.pyGet, ne_eq, String.reduceEq, not_false_eq_true, and_self]
  rw [bind_of orders, require_bind_of few, bind_of readSpot, bind_of readEarn, bind_of gathered]
  refine (require_bind_of (by rw [← same]; exact distinct)).trans ?_
  rw [same]
  rfl

/-- Reordering the lists of a snapshot does not change what is reconstructed. -/
theorem reconstruct_reordered {snapshot other : Document} {request : Request} {final : Attribution}
    (reordered : Reordered snapshot other)
    (success : reconstruct (.dict snapshot) request = .ok final) :
    reconstruct (.dict other) request = .ok final := by
  obtain ⟨document, mapped, success⟩ := bind_ok success
  cases mapped
  obtain ⟨opening, opened, success⟩ := bind_ok success
  have observed : readObserved other = readObserved snapshot := by
    unfold readObserved
    simp only [reordered.pyGet, ne_eq, String.reduceEq, not_false_eq_true, and_self]
  unfold reconstruct
  rw [bind_of (show asMapping blocked (.dict other) = .ok other from rfl),
    bind_of (readOpening_reordered reordered opened), observed]
  exact success

/-! ## The guarantee -/

/-- What a call of `reconstruct` guarantees. -/
structure ExactReplay (snapshot : Value) (request : Request) : Prop where
  accepts : (∃ final, reconstruct snapshot request = .ok final)
    ↔ ∃ ledger, readLedger snapshot request = .ok ledger ∧ Conserves ledger
  totals : ∀ final, reconstruct snapshot request = .ok final →
    ∃ ledger, readLedger snapshot request = .ok ledger ∧ ExactTotals ledger final
  order : ∀ document other, snapshot = .dict document → Reordered document other →
    ∀ final, reconstruct snapshot request = .ok final ↔ reconstruct (.dict other) request = .ok final
  running : ∀ ledger, readLedger snapshot request = .ok ledger →
    ((∀ asset taken, taken <+: feesIn asset ledger.movements →
      Decimal.SumsExactly defaultContext .zero taken) ↔ FeesFit ledger)

/-- The replay accepts exactly the conserved ledgers, with the exact Spot and Earn and, where
the running fee sums fit, the exact fee totals. -/
theorem attribution_exact (snapshot : Value) (request : Request) : ExactReplay snapshot request := by
  refine ⟨⟨?_, ?_⟩, ?_, ?_, ?_⟩
  · rintro ⟨final, success⟩
    obtain ⟨ledger, read, replayed, spot, earn⟩ := reconstruct_ok.mp success
    exact ⟨ledger, read, (accepted_iff (readLedger_sound read)).mp ⟨final, replayed, spot, earn⟩⟩
  · rintro ⟨ledger, read, conserves⟩
    obtain ⟨final, replayed, spot, earn⟩ := (accepted_iff (readLedger_sound read)).mpr conserves
    exact ⟨final, reconstruct_ok.mpr ⟨ledger, read, replayed, spot, earn⟩⟩
  · intro final success
    obtain ⟨ledger, read, replayed, -⟩ := reconstruct_ok.mp success
    exact ⟨ledger, read, exactTotals (readLedger_sound read) replayed⟩
  · rintro document other rfl reordered final
    exact ⟨reconstruct_reordered reordered, reconstruct_reordered reordered.symm⟩
  · intro ledger read
    have opening : Decimal.Fits defaultContext Decimal.zero.value := by
      rw [Decimal.value_zero]
      exact Decimal.Fits.zero default_proper
    have steps := fun asset => Decimal.sumsExactly_iff default_proper opening
      (feesIn asset ledger.movements)
    rw [Decimal.value_zero] at steps
    exact forall_congr' steps

/-! ## A fee total of more than 28 digits -/

def feeFill (second : String) (fee : String) : Value :=
  .dict ⟨[("id", .str ("F" ++ second)), ("at", .str ("2026-01-02T00:00:" ++ second ++ "+00:00")),
    ("side", .str "BUY"), ("btc_qty", .str "1"), ("fee_asset", .str "BNB"), ("fee_qty", .str fee)]⟩

def feeSnapshot : Document :=
  ⟨[("contract_version", .str "btc-attribution/v1"), ("account_scope", .str "main"),
    ("account_selector", .str "primary"), ("strategy_profile", .str "crypto_btc_dca"),
    ("source", .str "ledger"), ("source_version", .str "1"),
    ("opening_at", .str "2026-01-01T00:00:00+00:00"),
    ("observed_through", .str "2026-01-03T00:00:00+00:00"),
    ("available_at", .str "2026-01-03T00:00:00+00:00"), ("complete", .bool true),
    ("opening_spot_btc", .str "0"), ("opening_earn_btc", .str "0"),
    ("fills", .list (feeFill "20" "0.000000000000000001" ::
      ["10", "11", "12", "13", "14", "15", "16", "17", "18", "19"].map fun second =>
        feeFill second "1000000000")),
    ("transfers", .list []), ("unsettled_orders", .list []),
    ("observed_spot_free_btc", .str "11"), ("observed_earn_btc", .str "0")]⟩

def feeRequest : Request := ⟨.str "2026-01-03T00:00:00+00:00", .str "main", .str "primary"⟩

theorem feeSnapshot_total : (reconstruct (.dict feeSnapshot) feeRequest).toOption.any (fun final =>
    decide (final.fees.get? "BNB" = some ⟨false, 1000000000000000000000000000, -17⟩)) = true := by
  decide +kernel

theorem feeSnapshot_fees : (readLedger (.dict feeSnapshot) feeRequest).toOption.any (fun ledger =>
    decide (feesIn "BNB" ledger.movements
      = List.replicate 10 ⟨false, 1000000000, 0⟩ ++ [⟨false, 1, -18⟩])) = true := by
  decide +kernel

/-- Eleven fees of ten billion and one 18th decimal: the total holds ten billion. -/
theorem fee_total_rounded :
    ¬ ∀ (snapshot : Value) (request : Request) (final : Attribution) (ledger : Ledger),
      reconstruct snapshot request = .ok final → readLedger snapshot request = .ok ledger →
      ∀ asset, feeTotal final asset = Decimal.exactSum (feesIn asset ledger.movements) := by
  intro exact
  have total := feeSnapshot_total
  have fees := feeSnapshot_fees
  cases accepted : reconstruct (.dict feeSnapshot) feeRequest with
  | error raised =>
    rw [accepted] at total
    cases total
  | ok final =>
    cases read : readLedger (.dict feeSnapshot) feeRequest with
    | error raised =>
      rw [read] at fees
      cases fees
    | ok ledger =>
      rw [accepted] at total
      rw [read] at fees
      have held : final.fees.get? "BNB" = _ := of_decide_eq_true total
      have charged : feesIn "BNB" ledger.movements = _ := of_decide_eq_true fees
      have same := exact _ _ final ledger accepted read "BNB"
      rw [feeTotal, held, charged] at same
      norm_num [Decimal.exactSum, Decimal.value, Decimal.signed] at same

end BinancePlatform.Guarantees.AttributionReplay
