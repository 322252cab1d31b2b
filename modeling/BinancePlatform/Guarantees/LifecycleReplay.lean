import BinancePlatform.Guarantees.RewardAddition

/-!
# Lifecycle rewards replayed exactly

The replay takes the events of one product a millisecond at a time: it adds what was
subscribed and credited and subtracts what was redeemed.

* A subtraction writes the exact remainder when `str` can write its digits
  (`subtractLifecycleQuantity_value`, `subtractLifecycleQuantity_run`).
* One batch moves the balance by the sum of its events, and is refused only when a reward is
  not that of the balance before it or a redemption is not covered (`replayBatch_run`,
  `replayBatch_ok`).
* When the operations that are reached fit, the whole replay succeeds if and only if every
  event passes against the exact balances before and through its millisecond (`replay_iff`).

Nothing is said of a replay that reaches an addition which rounds.
-/

set_option autoImplicit false

namespace BinancePlatform.Guarantees.LifecycleReplay
open BinancePlatform.Library BinancePlatform.Source
open BinancePlatform.Library.Decimal (Multiple)
open BinancePlatform.Guarantees.RewardAddition

/-! ## Exact remainders -/

/-- The difference has no more digits than `str` writes. -/
def RemainderFits (left right : Decimal) : Prop :=
  Decimal.numDigits (left.scaled (min left.exp right.exp) - right.scaled (min left.exp right.exp)).natAbs
    ≤ maxStrDigits

/-- A subtraction that returns is exact. -/
theorem subtractLifecycleQuantity_value {left right rest : Decimal}
    (found : subtractLifecycleQuantity left right = some rest) : rest.value = left.value - right.value := by
  rw [Decimal.value_eq_scaled left (min_le_left left.exp right.exp),
    Decimal.value_eq_scaled right (min_le_right left.exp right.exp)]
  unfold subtractLifecycleQuantity at found
  dsimp only at found
  split at found
  · rename_i same
    cases found
    rw [Decimal.value_zero, ← sub_mul, ← Int.cast_sub, same]
    simp
  · split at found
    · cases found
    · cases found
      rw [Decimal.value, Decimal.signed_of_natAbs _ _ fun _ => rfl]
      push_cast
      ring

/-- It returns when the difference can be written. -/
theorem subtractLifecycleQuantity_run {left right : Decimal} (fits : RemainderFits left right) :
    ∃ rest, subtractLifecycleQuantity left right = some rest := by
  unfold subtractLifecycleQuantity
  dsimp only
  split
  · exact ⟨_, rfl⟩
  · rw [if_neg (not_lt.mpr fits)]
    exact ⟨_, rfl⟩

/-- An emptied product has exponent 0. -/
theorem subtractLifecycleQuantity_low {left right rest : Decimal} {low : ℤ} (units : low ≤ 0)
    (lowLeft : low ≤ left.exp) (lowRight : low ≤ right.exp)
    (found : subtractLifecycleQuantity left right = some rest) : low ≤ rest.exp := by
  unfold subtractLifecycleQuantity at found
  dsimp only at found
  split at found
  · cases found
    exact units
  · split at found
    · cases found
    · cases found
      exact le_min lowLeft lowRight

/-- Exponents from `low` on leave 4300 digits below `low + 4300`. -/
theorem remainderFits_of_low {held amount : Decimal} {low : ℤ} (lowHeld : low ≤ held.exp)
    (lowAmount : low ≤ amount.exp) (bound : |held.value - amount.value| < (10 : ℚ) ^ (low + maxStrDigits)) :
    RemainderFits held amount := by
  let e := min held.exp amount.exp
  let rest : Decimal := ⟨false, (held.scaled e - amount.scaled e).natAbs, e⟩
  have value : |rest.value| = |held.value - amount.value| := by
    rw [Decimal.abs_value, Decimal.value_eq_scaled held (min_le_left held.exp amount.exp),
      Decimal.value_eq_scaled amount (min_le_right held.exp amount.exp), ← sub_mul, ← Int.cast_sub, abs_mul,
      abs_of_pos (Decimal.ten_zpow_pos _), ← Int.cast_abs, Int.abs_eq_natAbs]
    rfl
  by_cases zero : rest.coeff = 0
  · have none : (held.scaled e - amount.scaled e).natAbs = 0 := zero
    rw [RemainderFits, none]
    decide
  · have digits := Decimal.numDigits_le_of_lt zero (value ▸ bound)
    have least : low ≤ rest.exp := le_min lowHeld lowAmount
    have few : (Decimal.numDigits rest.coeff : ℤ) ≤ maxStrDigits := by omega
    exact_mod_cast few

/-! ## The runs of one millisecond -/

/-- Each batch has one time, and the times of the batches increase. -/
structure Separated (bs : List (List LifecycleEvent)) : Prop where
  nonempty : ∀ b ∈ bs, b ≠ []
  sameTime : ∀ b ∈ bs, ∀ x ∈ b, ∀ y ∈ b, x.time = y.time
  increasing : bs.Pairwise fun b c => ∀ x ∈ b, ∀ y ∈ c, x.time < y.time

theorem batches_flatten (events : List LifecycleEvent) : (batches events).flatten = events := by
  induction events with
  | nil => rfl
  | cons event rest ih =>
    unfold batches
    split
    · rename_i next same later found
      rw [found, List.flatten_cons] at ih
      split
      · rw [List.flatten_cons, List.cons_append, ih]
      · rw [List.flatten_cons, List.flatten_cons, ih]
        rfl
    · rw [List.flatten_cons, ih]
      rfl

theorem batches_separated {events : List LifecycleEvent}
    (sorted : events.Pairwise fun a b => a.time ≤ b.time) : Separated (batches events) := by
  induction events with
  | nil => exact ⟨by simp [batches], by simp [batches], by simp [batches]⟩
  | cons event rest ih =>
    obtain ⟨first, sorted⟩ := List.pairwise_cons.mp sorted
    have separated := ih sorted
    have members : ∀ b ∈ batches rest, ∀ x ∈ b, event.time ≤ x.time := by
      intro b inBatches x inB
      apply first
      rw [← batches_flatten rest]
      exact List.mem_flatten.mpr ⟨b, inBatches, inB⟩
    unfold batches
    split
    · rename_i next same later found
      rw [found] at separated members
      obtain ⟨after, increasing⟩ := List.pairwise_cons.mp separated.increasing
      have group := separated.sameTime _ List.mem_cons_self
      split
      · rename_i together
        refine ⟨?_, ?_, List.pairwise_cons.mpr ⟨?_, increasing⟩⟩
        · intro b member
          rcases List.mem_cons.mp member with rfl | inLater
          · simp
          · exact separated.nonempty b (List.mem_cons_of_mem _ inLater)
        · intro b member
          rcases List.mem_cons.mp member with rfl | inLater
          · have all : ∀ x ∈ event :: next :: same, x.time = next.time := by
              intro x inGroup
              rcases List.mem_cons.mp inGroup with rfl | inGroup
              · exact together.symm
              · exact group x inGroup next List.mem_cons_self
            intro x inX y inY
            rw [all x inX, all y inY]
          · exact separated.sameTime b (List.mem_cons_of_mem _ inLater)
        · intro c inLater x inGroup y inC
          rcases List.mem_cons.mp inGroup with rfl | inGroup
          · rw [← together]
            exact after c inLater next List.mem_cons_self y inC
          · exact after c inLater x inGroup y inC
      · rename_i apart
        have earlier : event.time < next.time :=
          lt_of_le_of_ne (members _ List.mem_cons_self next List.mem_cons_self) fun same => apart same.symm
        refine ⟨?_, ?_, List.pairwise_cons.mpr ⟨?_, separated.increasing⟩⟩
        · intro b member
          rcases List.mem_cons.mp member with rfl | inRest
          · simp
          · exact separated.nonempty b inRest
        · intro b member
          rcases List.mem_cons.mp member with rfl | inRest
          · simp
          · exact separated.sameTime b inRest
        · intro c inRest x isEvent y inC
          rw [List.mem_singleton.mp isEvent]
          rcases List.mem_cons.mp inRest with rfl | inLater
          · rwa [group y inC next List.mem_cons_self]
          · exact earlier.trans (after c inLater next List.mem_cons_self y inC)
    · rename_i noGroup
      have none : batches rest = [] := by
        cases listed : batches rest with
        | nil => rfl
        | cons b more =>
          cases b with
          | nil => exact absurd rfl (separated.nonempty [] (by rw [listed]; exact List.mem_cons_self))
          | cons next same => exact (noGroup next same more listed).elim
      rw [none]
      exact ⟨by simp, by simp, by simp⟩

/-! ## The events of one batch -/

/-- What an event adds to the quantity of its product. -/
def added (event : LifecycleEvent) : ℚ :=
  match event.kind with
  | .subscribe => event.fact.amount.value
  | .reward => if event.fact.kind = some "REALTIME" then event.fact.amount.value else 0
  | .redeem => 0

/-- What an event takes from it. -/
def taken (event : LifecycleEvent) : ℚ :=
  match event.kind with
  | .redeem => event.fact.amount.value
  | _ => 0

def delta (event : LifecycleEvent) : ℚ := added event - taken event

theorem amount_nonneg (fact : LifecycleFact) : 0 ≤ fact.amount.value := by
  have notNegative := fact.notNegative
  rwa [Bool.eq_false_iff, ne_eq, Decimal.lt_iff, Decimal.value_zero, not_lt] at notNegative

theorem added_nonneg (event : LifecycleEvent) : 0 ≤ added event := by
  have nonneg := amount_nonneg event.fact
  unfold added
  split
  · exact nonneg
  · split
    · exact nonneg
    · exact le_rfl
  · exact le_rfl

theorem sum_added_nonneg (events : List LifecycleEvent) : 0 ≤ (events.map added).sum := by
  apply List.sum_nonneg
  intro x member
  obtain ⟨event, -, rfl⟩ := List.mem_map.mp member
  exact added_nonneg event

theorem ensure_some {ok : Bool} {u : Unit} : ensure ok = some u ↔ ok = true := by
  cases ok <;> simp [ensure]

/-- The subscriptions of a millisecond, each of which fits what is held by then. -/
theorem subscribe_fold {es : List LifecycleEvent} (subs : ∀ e ∈ es, e.kind = .subscribe) {held : Decimal}
    (pending : List String) (fits : ∀ reached e quantity, Reaches subscribe ⟨some held, pending⟩ es reached e →
      reached.available = some quantity → SumFits quantity e.fact.amount) :
    ∃ sum, es.foldlM subscribe ⟨some held, pending⟩ = some ⟨some sum, pending⟩
      ∧ sum.value = held.value + (es.map added).sum := by
  induction es generalizing held with
  | nil => exact ⟨held, rfl, by simp⟩
  | cons e rest ih =>
    have isAdded : added e = e.fact.amount.value := by
      rw [added, subs e List.mem_cons_self]
    obtain ⟨next, sum, value⟩ := (addsExactly_iff held e.fact.amount).mpr (fits _ e held .head rfl)
    have ran : subscribe ⟨some held, pending⟩ e = some ⟨some next, pending⟩ := by
      simp only [subscribe, sum, bind, Option.bind, pure]
    obtain ⟨final, folded, total⟩ := ih (fun x member => subs x (List.mem_cons_of_mem e member))
      fun reached x quantity reaches => fits reached x quantity (reaches.tail ran)
    refine ⟨final, ?_, by rw [total, value, List.map_cons, List.sum_cons, isAdded, add_assoc]⟩
    rw [List.foldlM_cons, ran]
    exact folded

/-- What a reward needs, with the known quantity before its millisecond. -/
def RewardOk (events : List LifecycleEvent) (isOpening : Bool) (prior : ℚ) (e : LifecycleEvent) : Prop :=
  (e.fact.kind = some "BONUS" ∨ e.fact.kind = some "REALTIME") ∧ 0 < prior
    ∧ (isOpening = true ∨ ∃ s ∈ events, s.kind = .subscribe ∧ s.time < e.time)

theorem credit_checks {events : List LifecycleEvent} {isOpening : Bool} {prior held : Decimal}
    {pending : List String} {e : LifecycleEvent} {s : Replay}
    (credited : creditLifecycleReward events isOpening (some prior) ⟨some held, pending⟩ e = some s) :
    RewardOk events isOpening prior.value e := by
  unfold creditLifecycleReward at credited
  simp only [Option.bind_eq_bind, Option.bind_eq_some_iff, ensure_some, Bool.or_eq_true,
    decide_eq_true_eq, Decimal.lt_iff, Decimal.value_zero, List.any_eq_true, Bool.and_eq_true] at credited
  obtain ⟨-, kind, -, positive, -, sub, -⟩ := credited
  exact ⟨kind, positive, sub⟩

/-- The code of a success. -/
def successCode (isOpening : Bool) : String :=
  if isOpening then "opening_approved" else "lifecycle_subscription_proven"

theorem credit_run {events : List LifecycleEvent} {isOpening : Bool} {prior held : Decimal}
    {pending : List String} {e : LifecycleEvent} (ok : RewardOk events isOpening prior.value e) :
    creditLifecycleReward events isOpening (some prior) ⟨some held, pending⟩ e
      = (accrue (some held) e.fact).map fun available =>
        ⟨available, pending ++ [successCode isOpening]⟩ := by
  obtain ⟨kind, positive, sub⟩ := ok
  have first : ensure (e.fact.kind = some "BONUS" || e.fact.kind = some "REALTIME") = some () := by
    rw [ensure_some]
    simpa using kind
  have second : ensure (Decimal.zero.lt prior) = some () := by
    rw [ensure_some, Decimal.lt_iff, Decimal.value_zero]
    exact positive
  have third : ensure (isOpening || events.any fun s => s.kind = .subscribe && s.time < e.time)
      = some () := by
    rw [ensure_some]
    simpa using sub
  unfold creditLifecycleReward
  simp only [first, second, third, Option.bind_eq_bind, Option.bind_some]
  cases accrue (some held) e.fact with
  | none => rfl
  | some available => rfl

theorem accrue_run {e : LifecycleEvent} (reward : e.kind = .reward) {held : Decimal}
    (fits : e.fact.kind = some "REALTIME" → SumFits held e.fact.amount) :
    ∃ sum, accrue (some held) e.fact = some (some sum) ∧ sum.value = held.value + added e := by
  rw [added, reward]
  unfold accrue
  by_cases realtime : e.fact.kind = some "REALTIME"
  · obtain ⟨sum, found, value⟩ := (addsExactly_iff held e.fact.amount).mpr (fits realtime)
    refine ⟨sum, ?_, ?_⟩
    · simp only [if_pos realtime, found, Option.map_some]
    · simpa only [if_pos realtime] using value
  · refine ⟨held, ?_, ?_⟩
    · simp only [if_neg realtime]
    · simp only [if_neg realtime, add_zero]

/-- The rewards of a millisecond; those that accrue fit what is held by then. -/
theorem credit_fold {es events : List LifecycleEvent} {isOpening : Bool} {prior : Decimal}
    (rewards : ∀ e ∈ es, e.kind = .reward) {held : Decimal} (pending : List String)
    (fits : ∀ reached e quantity,
      Reaches (creditLifecycleReward events isOpening (some prior)) ⟨some held, pending⟩ es reached e →
      e.fact.kind = some "REALTIME" → reached.available = some quantity → SumFits quantity e.fact.amount)
    (ok : ∀ e ∈ es, RewardOk events isOpening prior.value e) :
    ∃ sum, es.foldlM (creditLifecycleReward events isOpening (some prior)) ⟨some held, pending⟩
        = some ⟨some sum, pending ++ List.replicate es.length (successCode isOpening)⟩
      ∧ sum.value = held.value + (es.map added).sum := by
  induction es generalizing held pending with
  | nil => exact ⟨held, by simp [pure], by simp⟩
  | cons e rest ih =>
    have fitting : e.fact.kind = some "REALTIME" → SumFits held e.fact.amount :=
      fun realtime => fits _ e held .head realtime rfl
    obtain ⟨sum, accrued, value⟩ := accrue_run (rewards e List.mem_cons_self) fitting
    have ran : creditLifecycleReward events isOpening (some prior) ⟨some held, pending⟩ e
        = some ⟨some sum, pending ++ [successCode isOpening]⟩ := by
      rw [credit_run (ok e List.mem_cons_self), accrued]
      rfl
    obtain ⟨final, folded, total⟩ := ih (fun x member => rewards x (List.mem_cons_of_mem e member))
      (pending ++ [successCode isOpening])
      (fun reached x quantity reaches => fits reached x quantity (reaches.tail ran))
      fun x member => ok x (List.mem_cons_of_mem e member)
    refine ⟨final, ?_, by rw [total, value, List.map_cons, List.sum_cons, add_assoc]⟩
    rw [List.foldlM_cons, ran]
    simp only [Option.bind_eq_bind, Option.bind_some, folded, List.append_assoc, List.length_cons,
      List.replicate_succ, List.singleton_append]

theorem credit_fold_checks {es events : List LifecycleEvent} {isOpening : Bool}
    {prior held : Decimal} {pending : List String} {s : Replay}
    (folded : es.foldlM (creditLifecycleReward events isOpening (some prior)) ⟨some held, pending⟩
      = some s) : ∀ e ∈ es, RewardOk events isOpening prior.value e := by
  induction es generalizing held pending with
  | nil => simp
  | cons e rest ih =>
    rw [List.foldlM_cons, Option.bind_eq_bind, Option.bind_eq_some_iff] at folded
    obtain ⟨next, credited, folded⟩ := folded
    have ok := credit_checks credited
    rw [credit_run ok, Option.map_eq_some_iff] at credited
    obtain ⟨available, accrued, rfl⟩ := credited
    have known : ∃ sum, available = some sum := by
      unfold accrue at accrued
      dsimp only at accrued
      split at accrued
      · obtain ⟨sum, -, rfl⟩ := Option.map_eq_some_iff.mp accrued
        exact ⟨sum, rfl⟩
      · exact ⟨held, (Option.some.inj accrued).symm⟩
    obtain ⟨sum, rfl⟩ := known
    intro x member
    rcases List.mem_cons.mp member with rfl | inRest
    · exact ok
    · exact ih folded x inRest

theorem redeem_some {held : Decimal} {pending : List String} {e : LifecycleEvent} {s : Replay}
    (ran : redeem ⟨some held, pending⟩ e = some s) : e.fact.amount.value ≤ held.value
      ∧ ∃ rest, s = ⟨some rest, pending⟩ ∧ subtractLifecycleQuantity held e.fact.amount = some rest := by
  unfold redeem at ran
  simp only [Option.bind_eq_bind, Option.bind_some, Option.bind_eq_some_iff, ensure_some, Bool.not_eq_true',
    Bool.eq_false_iff, ne_eq, Decimal.lt_iff, not_lt] at ran
  obtain ⟨-, enough, rest, found, -, -, done⟩ := ran
  cases done
  exact ⟨enough, rest, rfl, found⟩

theorem redeem_run {held : Decimal} {e : LifecycleEvent} (pending : List String)
    (enough : e.fact.amount.value ≤ held.value) (fits : RemainderFits held e.fact.amount) :
    ∃ rest, redeem ⟨some held, pending⟩ e = some ⟨some rest, pending⟩
      ∧ rest.value = held.value - e.fact.amount.value := by
  obtain ⟨rest, found⟩ := subtractLifecycleQuantity_run fits
  have value := subtractLifecycleQuantity_value found
  have first : ensure (!held.lt e.fact.amount) = some () := by
    rw [ensure_some, Bool.not_eq_true', Bool.eq_false_iff, ne_eq, Decimal.lt_iff, not_lt]
    exact enough
  have second : ensure (!rest.lt .zero) = some () := by
    rw [ensure_some, Bool.not_eq_true', Bool.eq_false_iff, ne_eq, Decimal.lt_iff, not_lt, Decimal.value_zero, value]
    linarith
  refine ⟨rest, ?_, value⟩
  unfold redeem
  simp only [first, found, second, Option.bind_eq_bind, Option.bind_some]
  rfl

/-- The redemptions of a millisecond; each that what is held covers leaves a short remainder. -/
theorem redeem_fold {es : List LifecycleEvent} (redeems : ∀ e ∈ es, e.kind = .redeem) {held : Decimal}
    (pending : List String) (enough : (es.map taken).sum ≤ held.value)
    (fits : ∀ reached e quantity, Reaches redeem ⟨some held, pending⟩ es reached e →
      reached.available = some quantity → e.fact.amount.value ≤ quantity.value →
      RemainderFits quantity e.fact.amount) :
    ∃ rest, es.foldlM redeem ⟨some held, pending⟩ = some ⟨some rest, pending⟩
      ∧ rest.value = held.value - (es.map taken).sum := by
  induction es generalizing held with
  | nil => exact ⟨held, rfl, by simp⟩
  | cons e rest ih =>
    have isTaken : taken e = e.fact.amount.value := by
      rw [taken, redeems e List.mem_cons_self]
    have nonnegRest : 0 ≤ (rest.map taken).sum := by
      apply List.sum_nonneg
      intro x member
      obtain ⟨event, inRest, rfl⟩ := List.mem_map.mp member
      rw [taken, redeems event (List.mem_cons_of_mem e inRest)]
      exact amount_nonneg event.fact
    rw [List.map_cons, List.sum_cons, isTaken] at enough ⊢
    have covered : e.fact.amount.value ≤ held.value := by linarith
    obtain ⟨left, ran, value⟩ := redeem_run pending covered (fits _ e held .head rfl covered)
    obtain ⟨final, folded, total⟩ := ih (fun x member => redeems x (List.mem_cons_of_mem e member))
      (by rw [value]; linarith) fun reached x quantity reaches => fits reached x quantity (reaches.tail ran)
    refine ⟨final, ?_, by rw [total, value]; ring⟩
    rw [List.foldlM_cons, ran]
    exact folded

theorem redeem_fold_enough {es : List LifecycleEvent} (redeems : ∀ e ∈ es, e.kind = .redeem)
    {held : Decimal} {pending : List String} {s : Replay} (nonneg : 0 ≤ held.value)
    (folded : es.foldlM redeem ⟨some held, pending⟩ = some s) : (es.map taken).sum ≤ held.value := by
  induction es generalizing held with
  | nil => simpa using nonneg
  | cons e rest ih =>
    have isTaken : taken e = e.fact.amount.value := by
      rw [taken, redeems e List.mem_cons_self]
    rw [List.foldlM_cons, Option.bind_eq_bind, Option.bind_eq_some_iff] at folded
    obtain ⟨next, ran, folded⟩ := folded
    obtain ⟨enough, left, rfl, found⟩ := redeem_some ran
    have value := subtractLifecycleQuantity_value found
    have more := ih (fun x member => redeems x (List.mem_cons_of_mem e member))
      (by rw [value]; linarith) folded
    rw [List.map_cons, List.sum_cons, isTaken]
    linarith

/-! ## A batch -/

theorem sum_added_kinds (b : List LifecycleEvent) :
    (b.map added).sum = ((b.filter (·.kind = .subscribe)).map added).sum
      + ((b.filter (·.kind = .reward)).map added).sum := by
  induction b with
  | nil => simp
  | cons e rest ih =>
    cases kind : e.kind <;>
      simp only [List.filter_cons, List.map_cons, List.sum_cons, kind, decide_true, if_true, ih,
        reduceCtorEq, decide_false, Bool.false_eq_true, if_false]
    · ring
    · ring
    · rw [added, kind, zero_add]

theorem sum_taken_kinds (b : List LifecycleEvent) :
    (b.map taken).sum = ((b.filter (·.kind = .redeem)).map taken).sum := by
  induction b with
  | nil => simp
  | cons e rest ih =>
    cases kind : e.kind <;>
      simp only [List.filter_cons, List.map_cons, List.sum_cons, kind, decide_true, if_true, ih,
        reduceCtorEq, decide_false, Bool.false_eq_true, if_false]
    · rw [taken, kind, zero_add]
    · rw [taken, kind, zero_add]

theorem sum_delta (b : List LifecycleEvent) :
    (b.map delta).sum = (b.map added).sum - (b.map taken).sum := by
  induction b with
  | nil => simp
  | cons e rest ih =>
    simp only [List.map_cons, List.sum_cons, ih, delta]
    ring

theorem kind_of_filter {b : List LifecycleEvent} {kind : LifecycleKind} :
    ∀ e ∈ b.filter (·.kind = kind), e.kind = kind := by
  intro e member
  simpa using (List.mem_filter.mp member).2

/-- What the events of one millisecond need of the quantity before it. -/
structure BatchOk (events : List LifecycleEvent) (isOpening : Bool) (prior : ℚ)
    (b : List LifecycleEvent) : Prop where
  apart : b.filter (·.kind = .reward) = [] ∨ b.filter (·.kind = .subscribe) = []
  rewards : ∀ e ∈ b, e.kind = .reward → RewardOk events isOpening prior e
  covered : 0 ≤ prior + (b.map delta).sum

/-- A sum or a difference that the replay forms of what is held and an amount. -/
inductive Operation where
  | add (held amount : Decimal)
  | subtract (held amount : Decimal)

/-- It is formed without rounding and without an exception. -/
def Operation.Fits : Operation → Prop
  | .add held amount => SumFits held amount
  | .subtract held amount => RemainderFits held amount

/-- What the replay of one millisecond forms. A reward accrues only past its checks, and a
redemption is subtracted only from what covers it. -/
inductive BatchForms (events : List LifecycleEvent) (isOpening : Bool) (state : Replay)
    (b : List LifecycleEvent) : Operation → Prop
  | subscribe {reached : Replay} {e : LifecycleEvent} {held : Decimal}
      (comes : Reaches subscribe state (b.filter (·.kind = .subscribe)) reached e)
      (known : reached.available = some held) :
      BatchForms events isOpening state b (.add held e.fact.amount)
  | reward {subscribed reached : Replay} {e : LifecycleEvent} {prior held : Decimal}
      (ran : (b.filter (·.kind = .subscribe)).foldlM subscribe state = some subscribed)
      (apart : b.filter (·.kind = .reward) = [] ∨ b.filter (·.kind = .subscribe) = [])
      (comes : Reaches (creditLifecycleReward events isOpening state.available) subscribed
        (b.filter (·.kind = .reward)) reached e)
      (earlier : state.available = some prior) (checked : RewardOk events isOpening prior.value e)
      (realtime : e.fact.kind = some "REALTIME") (known : reached.available = some held) :
      BatchForms events isOpening state b (.add held e.fact.amount)
  | redeem {subscribed credited reached : Replay} {e : LifecycleEvent} {held : Decimal}
      (ran : (b.filter (·.kind = .subscribe)).foldlM subscribe state = some subscribed)
      (apart : b.filter (·.kind = .reward) = [] ∨ b.filter (·.kind = .subscribe) = [])
      (rewarded : (b.filter (·.kind = .reward)).foldlM (creditLifecycleReward events isOpening state.available)
        subscribed = some credited)
      (comes : Reaches redeem credited (b.filter (·.kind = .redeem)) reached e)
      (known : reached.available = some held) (covered : e.fact.amount.value ≤ held.value) :
      BatchForms events isOpening state b (.subtract held e.fact.amount)

section Batch
variable {events b : List LifecycleEvent} {isOpening : Bool} {held : Decimal} {pending : List String}
  (fits : ∀ operation, BatchForms events isOpening ⟨some held, pending⟩ b operation → operation.Fits)
include fits

/-- The subscriptions of a batch go through. -/
theorem subscribed_run :
    ∃ more, (b.filter (·.kind = .subscribe)).foldlM subscribe ⟨some held, pending⟩ = some ⟨some more, pending⟩
      ∧ more.value = held.value + ((b.filter (·.kind = .subscribe)).map added).sum :=
  subscribe_fold kind_of_filter pending fun _ _ _ comes known => fits _ (.subscribe comes known)

/-- Past their checks, its rewards go through. -/
theorem credited_run {more : Decimal}
    (subscribed : (b.filter (·.kind = .subscribe)).foldlM subscribe ⟨some held, pending⟩ = some ⟨some more, pending⟩)
    (apart : b.filter (·.kind = .reward) = [] ∨ b.filter (·.kind = .subscribe) = [])
    (rewards : ∀ e ∈ b.filter (·.kind = .reward), RewardOk events isOpening held.value e) :
    ∃ sum, (b.filter (·.kind = .reward)).foldlM (creditLifecycleReward events isOpening (some held))
        ⟨some more, pending⟩ = some ⟨some sum, pending
          ++ List.replicate (b.filter (·.kind = .reward)).length (successCode isOpening)⟩
      ∧ sum.value = more.value + ((b.filter (·.kind = .reward)).map added).sum :=
  credit_fold kind_of_filter pending (fun _ e _ comes realtime known =>
    fits _ (.reward subscribed apart comes rfl (rewards e comes.mem) realtime known)) rewards

/-- A batch that passes its checks moves the balance by its sum and notes each reward. -/
theorem replayBatch_run (ok : BatchOk events isOpening held.value b) :
    ∃ rest, replayBatch events isOpening ⟨some held, pending⟩ b
        = some ⟨some rest, pending ++ List.replicate (b.filter (·.kind = .reward)).length
          (successCode isOpening)⟩
      ∧ rest.value = held.value + (b.map delta).sum := by
  have kinds := sum_added_kinds b
  obtain ⟨more, subscribed, value⟩ := subscribed_run fits
  have rewards : ∀ e ∈ b.filter (·.kind = .reward), RewardOk events isOpening held.value e :=
    fun e member => ok.rewards e (List.mem_of_mem_filter member) (kind_of_filter e member)
  obtain ⟨credit, credited, total⟩ := credited_run fits subscribed ok.apart rewards
  have apart : ensure ((b.filter (·.kind = .reward)).isEmpty || (b.filter (·.kind = .subscribe)).isEmpty)
      = some () := by
    rw [ensure_some, Bool.or_eq_true, List.isEmpty_iff, List.isEmpty_iff]
    exact ok.apart
  have covered := ok.covered
  have sum := sum_delta b
  have takes := sum_taken_kinds b
  have enough : ((b.filter (·.kind = .redeem)).map taken).sum ≤ credit.value := by linarith
  obtain ⟨rest, redeemed, left⟩ := redeem_fold kind_of_filter (pending
    ++ List.replicate (b.filter (·.kind = .reward)).length (successCode isOpening)) enough
    fun _ _ _ comes known covered => fits _ (.redeem subscribed ok.apart credited comes known covered)
  refine ⟨rest, ?_, by linarith⟩
  unfold replayBatch
  simp only [subscribed, apart, credited, redeemed, Option.bind_eq_bind, Option.bind_some]

/-- A batch that is replayed passes its checks. -/
theorem replayBatch_ok (nonneg : 0 ≤ held.value) {s : Replay}
    (ran : replayBatch events isOpening ⟨some held, pending⟩ b = some s) :
    BatchOk events isOpening held.value b := by
  have kinds := sum_added_kinds b
  have nonnegRewards := sum_added_nonneg (b.filter (·.kind = .reward))
  have nonnegSubs := sum_added_nonneg (b.filter (·.kind = .subscribe))
  obtain ⟨more, subscribed, value⟩ := subscribed_run fits
  unfold replayBatch at ran
  simp only [subscribed, Option.bind_eq_bind, Option.bind_some, Option.bind_eq_some_iff, ensure_some,
    Bool.or_eq_true, List.isEmpty_iff] at ran
  obtain ⟨-, apart, credit, credited, redeemed⟩ := ran
  have rewards := credit_fold_checks credited
  obtain ⟨sum, folded, total⟩ := credited_run fits subscribed apart rewards
  rw [folded] at credited
  cases credited
  have enough := redeem_fold_enough kind_of_filter (by linarith) redeemed
  have takes := sum_taken_kinds b
  have deltas := sum_delta b
  exact {
    apart := apart
    rewards := fun e member reward => rewards e (List.mem_filter.mpr ⟨member, by simpa using reward⟩)
    covered := by linarith }

end Batch

/-! ## The whole replay -/

/-- The exact balance of a product before a time. -/
def balanceBefore (opening : ℚ) (events : List LifecycleEvent) (t : ℤ) : ℚ :=
  opening + ((events.filter (·.time < t)).map delta).sum

/-- The exact balance of a product after all events up to a time. -/
def balanceThrough (opening : ℚ) (events : List LifecycleEvent) (t : ℤ) : ℚ :=
  opening + ((events.filter (·.time ≤ t)).map delta).sum

/-- What the exact replay needs at each event. -/
structure EventOk (events : List LifecycleEvent) (isOpening : Bool) (opening : ℚ)
    (e : LifecycleEvent) : Prop where
  apart : e.kind = .subscribe → ∀ r ∈ events, r.kind = .reward → r.time ≠ e.time
  reward : e.kind = .reward → RewardOk events isOpening (balanceBefore opening events e.time) e
  covered : 0 ≤ balanceThrough opening events e.time

section Whole
variable {events done b later : List LifecycleEvent} {isOpening : Bool} {opening : ℚ} {t : ℤ}

theorem balanceBefore_split (split : events = done ++ (b ++ later)) (before : ∀ e ∈ done, e.time < t)
    (same : ∀ e ∈ b, e.time = t) (after : ∀ e ∈ later, t < e.time) :
    balanceBefore opening events t = opening + (done.map delta).sum := by
  have none : (b ++ later).filter (·.time < t) = [] := by
    rw [List.filter_eq_nil_iff]
    intro e member
    rcases List.mem_append.mp member with inB | inLater
    · simp [same e inB]
    · simpa using (after e inLater).le
  have all : done.filter (·.time < t) = done := List.filter_eq_self.mpr fun e member => by
    simpa using before e member
  rw [balanceBefore, split, List.filter_append, none, all, List.append_nil]

theorem balanceThrough_split (split : events = done ++ (b ++ later)) (before : ∀ e ∈ done, e.time < t)
    (same : ∀ e ∈ b, e.time = t) (after : ∀ e ∈ later, t < e.time) :
    balanceThrough opening events t = opening + (done.map delta).sum + (b.map delta).sum := by
  have none : later.filter (·.time ≤ t) = [] := by
    rw [List.filter_eq_nil_iff]
    intro e member
    simpa using after e member
  have all : (done ++ b).filter (·.time ≤ t) = done ++ b := List.filter_eq_self.mpr fun e member => by
    rcases List.mem_append.mp member with inDone | inB
    · simpa using (before e inDone).le
    · simp [same e inB]
  rw [balanceThrough, split, ← List.append_assoc, List.filter_append, none, all, List.append_nil,
    List.map_append, List.sum_append, add_assoc]

theorem batchOk_iff (split : events = done ++ (b ++ later)) (before : ∀ e ∈ done, e.time < t)
    (same : ∀ e ∈ b, e.time = t) (after : ∀ e ∈ later, t < e.time) (nonempty : b ≠ []) :
    BatchOk events isOpening (opening + (done.map delta).sum) b
      ↔ ∀ e ∈ b, EventOk events isOpening opening e := by
  have isBefore : balanceBefore opening events t = opening + (done.map delta).sum :=
    balanceBefore_split split before same after
  have isThrough : balanceThrough opening events t
      = opening + (done.map delta).sum + (b.map delta).sum :=
    balanceThrough_split split before same after
  have inEvents : ∀ e ∈ b, e ∈ events := by
    intro e member
    rw [split]
    simp [member]
  constructor
  · intro ok e member
    refine ⟨?_, ?_, ?_⟩
    · intro isSub r inAll isReward together
      have inB : r ∈ b := by
        rw [split] at inAll
        rcases List.mem_append.mp inAll with inDone | inAll
        · have := before r inDone
          rw [together, same e member] at this
          exact absurd this (lt_irrefl t)
        · rcases List.mem_append.mp inAll with inB | inLater
          · exact inB
          · have := after r inLater
            rw [together, same e member] at this
            exact absurd this (lt_irrefl t)
      rcases ok.apart with none | none
      · have found : r ∈ b.filter (·.kind = .reward) := List.mem_filter.mpr ⟨inB, by simpa using isReward⟩
        rw [none] at found
        cases found
      · have found : e ∈ b.filter (·.kind = .subscribe) := List.mem_filter.mpr ⟨member, by simpa using isSub⟩
        rw [none] at found
        cases found
    · intro isReward
      rw [same e member, isBefore]
      exact ok.rewards e member isReward
    · rw [same e member, isThrough]
      exact ok.covered
  · intro ok
    refine ⟨?_, ?_, ?_⟩
    · by_contra neither
      rw [not_or] at neither
      obtain ⟨r, inRewards⟩ := List.exists_mem_of_ne_nil _ neither.1
      obtain ⟨e, inSubs⟩ := List.exists_mem_of_ne_nil _ neither.2
      have inB := List.mem_of_mem_filter inRewards
      have inB' := List.mem_of_mem_filter inSubs
      refine (ok e inB').apart (kind_of_filter e inSubs) r (inEvents r inB) (kind_of_filter r inRewards) ?_
      rw [same r inB, same e inB']
    · intro e member isReward
      have need := (ok e member).reward isReward
      rwa [same e member, isBefore] at need
    · obtain ⟨e, member⟩ := List.exists_mem_of_ne_nil _ nonempty
      have covered := (ok e member).covered
      rwa [same e member, isThrough] at covered

/-- From a known quantity on, the replay goes through exactly when every event is fine. -/
theorem replay_iff {bs : List (List LifecycleEvent)} (split : events = done ++ bs.flatten)
    (separated : Separated bs) (earlier : ∀ x ∈ done, ∀ y ∈ bs.flatten, x.time < y.time)
    {held : Decimal} (value : held.value = opening + (done.map delta).sum) (nonneg : 0 ≤ held.value)
    (pending : List String)
    (fits : ∀ state b operation, Reaches (replayBatch events isOpening) ⟨some held, pending⟩ bs state b →
      BatchForms events isOpening state b operation → operation.Fits) :
    (∃ s, bs.foldlM (replayBatch events isOpening) ⟨some held, pending⟩ = some s)
      ↔ ∀ e ∈ bs.flatten, EventOk events isOpening opening e := by
  induction bs generalizing done held pending with
  | nil => simp [pure]
  | cons b rest ih =>
    obtain ⟨e, inB⟩ := List.exists_mem_of_ne_nil b (separated.nonempty b List.mem_cons_self)
    obtain ⟨next, increasing⟩ := List.pairwise_cons.mp separated.increasing
    rw [List.flatten_cons] at split earlier ⊢
    have same : ∀ x ∈ b, x.time = e.time := fun x inX =>
      separated.sameTime b List.mem_cons_self x inX e inB
    have before : ∀ x ∈ done, x.time < e.time := fun x inDone =>
      earlier x inDone e (List.mem_append_left _ inB)
    have after : ∀ x ∈ rest.flatten, e.time < x.time := by
      intro x member
      obtain ⟨c, inRest, inC⟩ := List.mem_flatten.mp member
      exact next c inRest e inB x inC
    have batch : BatchOk events isOpening (opening + (done.map delta).sum) b
        ↔ ∀ x ∈ b, EventOk events isOpening opening x :=
      batchOk_iff split before same after (separated.nonempty b List.mem_cons_self)
    rw [← value] at batch
    have fitsB : ∀ operation, BatchForms events isOpening ⟨some held, pending⟩ b operation → operation.Fits :=
      fun operation => fits _ b operation .head
    have rest_iff : ∀ {left : Decimal} {pending' : List String}, BatchOk events isOpening held.value b →
        replayBatch events isOpening ⟨some held, pending⟩ b = some ⟨some left, pending'⟩ →
        left.value = held.value + (b.map delta).sum →
        ((∃ s, rest.foldlM (replayBatch events isOpening) ⟨some left, pending'⟩ = some s)
          ↔ ∀ x ∈ rest.flatten, EventOk events isOpening opening x) := by
      intro left pending' ok ran isLeft
      have split' : events = (done ++ b) ++ rest.flatten := by rw [split, List.append_assoc]
      refine ih split' ?_ ?_ ?_ ?_ pending' fun state c operation comes => fits state c operation (comes.tail ran)
      · exact ⟨fun c inRest => separated.nonempty c (List.mem_cons_of_mem b inRest),
          fun c inRest => separated.sameTime c (List.mem_cons_of_mem b inRest), increasing⟩
      · intro x member y inRest
        rcases List.mem_append.mp member with inDone | inB'
        · exact earlier x inDone y (List.mem_append_right b inRest)
        · rw [same x inB']
          exact after y inRest
      · rw [isLeft, value, List.map_append, List.sum_append, add_assoc]
      · rw [isLeft]
        exact ok.covered
    rw [List.foldlM_cons]
    constructor
    · rintro ⟨s, ran⟩
      rw [Option.bind_eq_bind, Option.bind_eq_some_iff] at ran
      obtain ⟨middle, ranB, ranRest⟩ := ran
      have ok := replayBatch_ok fitsB nonneg ranB
      obtain ⟨left, found, isLeft⟩ := replayBatch_run fitsB ok
      rw [found] at ranB
      cases ranB
      intro x member
      rcases List.mem_append.mp member with inB' | inRest
      · exact batch.mp ok x inB'
      · exact (rest_iff ok found isLeft).mp ⟨s, ranRest⟩ x inRest
    · intro all
      have ok := batch.mpr fun x inB' => all x (List.mem_append_left _ inB')
      obtain ⟨left, found, isLeft⟩ := replayBatch_run fitsB ok
      obtain ⟨s, ranRest⟩ := (rest_iff ok found isLeft).mpr fun x inRest => all x (List.mem_append_right b inRest)
      refine ⟨s, ?_⟩
      rw [found]
      exact ranRest

end Whole

end BinancePlatform.Guarantees.LifecycleReplay
