import BinancePlatform.Guarantees.LifecycleReplay

/-!
# A product within a thousand digits

A condition on the quantities alone under which everything that a replay forms fits: they
are multiples of one power of ten, written at most 3300 digits below it, and what is held
with all that may still be added stays below a thousand digits above it.

Main results:
- `subscribe_within`, `credit_within`, `redeem_within`: a subscription and a reward spend
  what they add, a redemption keeps the window
- `replayBatch_within`: so does a batch
- `replay_fits`: in a window every sum and every difference of the replay fits
-/

set_option autoImplicit false

namespace BinancePlatform.Guarantees.LifecycleWindow
open BinancePlatform.Library BinancePlatform.Source
open BinancePlatform.Library.Decimal (Multiple)
open BinancePlatform.Guarantees.RewardAddition BinancePlatform.Guarantees.LifecycleReplay

/-- The last digit that a quantity of the window may be written with: 4300 digits from it
reach the thousand of the window. -/
def lowest (lo : ℤ) : ℤ := lo - 3300

/-- A window of sums whose differences `str` writes; an emptied product has exponent 0. -/
structure Room (lo : ℤ) : Prop extends Window lo where
  units : lowest lo ≤ 0

/-- The quantities of the events are multiples of one power of ten. -/
structure Aligned (lo : ℤ) (events : List LifecycleEvent) : Prop where
  multiple : ∀ event ∈ events, Multiple lo event.fact.amount.value
  low : ∀ event ∈ events, lowest lo ≤ event.fact.amount.exp

/-- A known quantity lies in the window, together with what may still be added. -/
structure InWindow (lo : ℤ) (held : Decimal) (more : ℚ) : Prop where
  multiple : Multiple lo held.value
  low : lowest lo ≤ held.exp
  nonneg : 0 ≤ held.value
  bound : held.value + more < (10 : ℚ) ^ (lo + 1000)

/-- `InWindow` of a quantity that is known. -/
def Within (lo : ℤ) (state : Replay) (more : ℚ) : Prop :=
  ∀ held, state.available = some held → InWindow lo held more

section Steps
variable {lo : ℤ} (room : Room lo)
include room

/-- An amount that is part of what may be added is added exactly. -/
theorem InWindow.adds {held amount : Decimal} {more : ℚ} (inWindow : InWindow lo held (amount.value + more))
    (multiple : Multiple lo amount.value) (low : lowest lo ≤ amount.exp) (nonneg : 0 ≤ amount.value)
    (rest : 0 ≤ more) :
    SumFits held amount
      ∧ ∃ sum, addRewardQuantity held amount = some sum ∧ InWindow lo sum more := by
  have bound := inWindow.bound
  obtain ⟨sum, found, value⟩ := addRewardQuantity_exact room.toWindow inWindow.multiple multiple inWindow.nonneg
    nonneg (by linarith)
  refine ⟨(addsExactly_iff held amount).mp ⟨sum, found, value⟩, sum, found, ?_, ?_, ?_, ?_⟩
  · rw [value]
    exact inWindow.multiple.add multiple
  · refine Decimal.fix_low found (le_min inWindow.low low) (room.units.trans ?_)
    simp only [defaultContext]
    norm_num
  · rw [value]
    exact add_nonneg inWindow.nonneg nonneg
  · rw [value]
    linarith

/-- A subscription spends what it adds. -/
theorem subscribe_within {state next : Replay} {e : LifecycleEvent} {more : ℚ} (sub : e.kind = .subscribe)
    (multiple : Multiple lo e.fact.amount.value) (low : lowest lo ≤ e.fact.amount.exp) (rest : 0 ≤ more)
    (within : Within lo state (added e + more)) (ran : subscribe state e = some next) : Within lo next more := by
  unfold subscribe at ran
  simp only [Option.bind_eq_bind, Option.bind_eq_some_iff] at ran
  obtain ⟨held, known, sum, found, done⟩ := ran
  cases done
  have inWindow := within held known
  rw [added, sub] at inWindow
  obtain ⟨-, sum', found', within'⟩ := inWindow.adds room multiple low (LifecycleReplay.amount_nonneg e.fact) rest
  rw [found] at found'
  cases found'
  rintro _ ⟨⟩
  exact within'

/-- So does a reward. -/
theorem credit_within {events : List LifecycleEvent} {isOpening : Bool} {prior : Option Decimal}
    {state next : Replay} {e : LifecycleEvent} {more : ℚ} (reward : e.kind = .reward)
    (multiple : Multiple lo e.fact.amount.value) (low : lowest lo ≤ e.fact.amount.exp) (rest : 0 ≤ more)
    (within : Within lo state (added e + more)) (ran : creditLifecycleReward events isOpening prior state e = some next) : Within lo next more := by
  have accrued : accrue state.available e.fact = some next.available := by
    unfold creditLifecycleReward at ran
    cases prior with
    | none =>
      simp only [Option.bind_eq_bind, Option.bind_eq_some_iff] at ran
      obtain ⟨-, -, -, -, -, -, available, found, done⟩ := ran
      cases done
      exact found
    | some held =>
      simp only [Option.bind_eq_bind, Option.bind_eq_some_iff] at ran
      obtain ⟨-, -, -, -, -, -, available, found, done⟩ := ran
      cases done
      exact found
  intro final known
  rw [known] at accrued
  cases before : state.available with
  | none =>
    rw [before] at accrued
    cases accrued
  | some held =>
    have inWindow := within held before
    rw [before] at accrued
    unfold accrue at accrued
    rw [added, reward] at inWindow
    dsimp only at accrued inWindow
    split at accrued
    · rename_i realtime
      rw [if_pos realtime] at inWindow
      obtain ⟨-, sum, found, within'⟩ := inWindow.adds room multiple low (LifecycleReplay.amount_nonneg e.fact) rest
      rw [found] at accrued
      cases accrued
      exact within'
    · rename_i other
      rw [if_neg other, zero_add] at inWindow
      cases accrued
      exact inWindow

omit room in
theorem added_redeem {e : LifecycleEvent} (isRedeem : e.kind = .redeem) : added e = 0 := by
  rw [added, isRedeem]

omit room in
/-- What covers a redemption leaves a difference that is written. -/
theorem InWindow.subtracts {held amount : Decimal} {more : ℚ} (inWindow : InWindow lo held more)
    (low : lowest lo ≤ amount.exp) (nonneg : 0 ≤ amount.value) (rest : 0 ≤ more)
    (covered : amount.value ≤ held.value) : RemainderFits held amount := by
  have bound := inWindow.bound
  refine remainderFits_of_low inWindow.low low ?_
  rw [abs_of_nonneg (by linarith), show lowest lo + maxStrDigits = lo + 1000 by simp [lowest, maxStrDigits]; ring]
  linarith

/-- A redemption spends nothing of the window. -/
theorem redeem_within {state next : Replay} {e : LifecycleEvent} {more : ℚ}
    (multiple : Multiple lo e.fact.amount.value) (low : lowest lo ≤ e.fact.amount.exp)
    (within : Within lo state more) (ran : redeem state e = some next) : Within lo next more := by
  obtain ⟨available, pending⟩ := state
  cases available with
  | none => cases ran
  | some held =>
    have inWindow := within held rfl
    obtain ⟨enough, left, rfl, found⟩ := redeem_some ran
    have value := subtractLifecycleQuantity_value found
    have nonneg := LifecycleReplay.amount_nonneg e.fact
    have bound := inWindow.bound
    rintro _ ⟨⟩
    refine ⟨?_, subtractLifecycleQuantity_low room.units inWindow.low low found, ?_, ?_⟩
    · rw [value]
      exact inWindow.multiple.sub multiple
    · rw [value]
      linarith
    · rw [value]
      linarith

end Steps

/-! ## Loops -/

section Loops
variable {lo : ℤ} {α : Type} {weight : α → ℚ} {step : Replay → α → Option Replay} {xs : List α}
  (nonneg : ∀ x ∈ xs, 0 ≤ weight x)
  (spends : ∀ x ∈ xs, ∀ state next more, 0 ≤ more → Within lo state (weight x + more) →
    step state x = some next → Within lo next more)
include nonneg spends

theorem foldlM_within {state next : Replay} {more : ℚ} (rest : 0 ≤ more)
    (within : Within lo state ((xs.map weight).sum + more)) (ran : xs.foldlM step state = some next) :
    Within lo next more := by
  induction xs generalizing state with
  | nil =>
    cases ran
    simpa using within
  | cons x later ih =>
    rw [List.foldlM_cons, Option.bind_eq_bind, Option.bind_eq_some_iff] at ran
    obtain ⟨middle, first, ran⟩ := ran
    obtain ⟨-, others⟩ := List.forall_mem_cons.mp nonneg
    obtain ⟨spendsX, spendsLater⟩ := List.forall_mem_cons.mp spends
    have laterSum : 0 ≤ (later.map weight).sum := List.sum_nonneg fun y member => by
      obtain ⟨z, inLater, rfl⟩ := List.mem_map.mp member
      exact others z inLater
    rw [List.map_cons, List.sum_cons, add_assoc] at within
    exact ih others spendsLater (spendsX state middle _ (add_nonneg laterSum rest) within first) ran

/-- Where a loop comes to an element, the window has room for it. -/
theorem reaches_within {state reached : Replay} {x : α} {more : ℚ} (rest : 0 ≤ more)
    (within : Within lo state ((xs.map weight).sum + more)) (comes : Reaches step state xs reached x) :
    ∃ room, 0 ≤ room ∧ Within lo reached (weight x + room) := by
  obtain ⟨before, after, rfl, ran⟩ := comes
  have afterSum : 0 ≤ (after.map weight).sum := List.sum_nonneg fun y member => by
    obtain ⟨z, inAfter, rfl⟩ := List.mem_map.mp member
    exact nonneg z (by simp [inAfter])
  refine ⟨(after.map weight).sum + more, add_nonneg afterSum rest, ?_⟩
  refine foldlM_within (fun y member => nonneg y (by simp [member]))
    (fun y member => spends y (by simp [member])) ?_ ?_ ran
  · exact add_nonneg (nonneg x (by simp)) (add_nonneg afterSum rest)
  · convert within using 1
    simp only [List.map_append, List.map_cons, List.sum_append, List.sum_cons]
    ring

end Loops

/-! ## Batches -/

section Batches
variable {lo : ℤ} (room : Room lo) {events b : List LifecycleEvent} {isOpening : Bool}
include room

theorem subs_spend (aligned : Aligned lo b) : ∀ e ∈ b.filter (·.kind = .subscribe), ∀ state next more,
    0 ≤ more → Within lo state (added e + more) → subscribe state e = some next → Within lo next more := by
  intro e member _ _ _ rest within ran
  have inB := List.mem_of_mem_filter member
  exact subscribe_within room (kind_of_filter e member) (aligned.multiple e inB) (aligned.low e inB) rest within ran

theorem rewards_spend (aligned : Aligned lo b) (prior : Option Decimal) :
    ∀ e ∈ b.filter (·.kind = .reward), ∀ state next more, 0 ≤ more → Within lo state (added e + more) →
      creditLifecycleReward events isOpening prior state e = some next → Within lo next more := by
  intro e member _ _ _ rest within ran
  have inB := List.mem_of_mem_filter member
  exact credit_within room (kind_of_filter e member) (aligned.multiple e inB) (aligned.low e inB) rest within ran

theorem redeems_keep (aligned : Aligned lo b) : ∀ e ∈ b.filter (·.kind = .redeem), ∀ state next more,
    0 ≤ more → Within lo state (added e + more) → redeem state e = some next → Within lo next more := by
  intro e member _ _ _ _ within ran
  have inB := List.mem_of_mem_filter member
  rw [added_redeem (kind_of_filter e member), zero_add] at within
  exact redeem_within room (aligned.multiple e inB) (aligned.low e inB) within ran

theorem subscribed_within (aligned : Aligned lo b) {state subscribed : Replay} {more : ℚ} (rest : 0 ≤ more)
    (within : Within lo state ((b.map added).sum + more))
    (ran : (b.filter (·.kind = .subscribe)).foldlM subscribe state = some subscribed) :
    Within lo subscribed (((b.filter (·.kind = .reward)).map added).sum + more) := by
  rw [sum_added_kinds, add_assoc] at within
  exact foldlM_within (fun e _ => added_nonneg e) (subs_spend room aligned)
    (add_nonneg (sum_added_nonneg _) rest) within ran

/-- The redemptions of a batch come last, and they add nothing. -/
theorem credited_within (aligned : Aligned lo b) {prior : Option Decimal} {state subscribed credited : Replay}
    {more : ℚ} (rest : 0 ≤ more) (within : Within lo state ((b.map added).sum + more))
    (ran : (b.filter (·.kind = .subscribe)).foldlM subscribe state = some subscribed)
    (rewarded : (b.filter (·.kind = .reward)).foldlM (creditLifecycleReward events isOpening prior) subscribed
      = some credited) :
    Within lo credited (((b.filter (·.kind = .redeem)).map added).sum + more) := by
  have noneAdded : ((b.filter (·.kind = .redeem)).map added).sum = 0 := List.sum_eq_zero fun x member => by
    obtain ⟨e, inRedeems, rfl⟩ := List.mem_map.mp member
    exact added_redeem (kind_of_filter e inRedeems)
  rw [noneAdded, zero_add]
  exact foldlM_within (fun e _ => added_nonneg e) (rewards_spend room aligned prior) rest
    (subscribed_within room aligned rest within ran) rewarded

/-- A batch spends the additions of its events. -/
theorem replayBatch_within (aligned : Aligned lo b) {state next : Replay} {more : ℚ} (rest : 0 ≤ more)
    (within : Within lo state ((b.map added).sum + more))
    (ran : replayBatch events isOpening state b = some next) : Within lo next more := by
  unfold replayBatch at ran
  simp only [Option.bind_eq_bind, Option.bind_eq_some_iff] at ran
  obtain ⟨subscribed, subs, -, -, credited, rewards, redeems⟩ := ran
  exact foldlM_within (fun e _ => added_nonneg e) (redeems_keep room aligned) rest
    (credited_within room aligned rest within subs rewards) redeems

theorem batchForms_fits (aligned : Aligned lo b) {state : Replay} {more : ℚ} (rest : 0 ≤ more)
    (within : Within lo state ((b.map added).sum + more)) {operation : Operation}
    (forms : BatchForms events isOpening state b operation) : operation.Fits := by
  cases forms with
  | @subscribe reached e held comes known =>
    have inB := List.mem_of_mem_filter comes.mem
    rw [sum_added_kinds, add_assoc] at within
    obtain ⟨spare, spares, inside⟩ := reaches_within (fun e _ => added_nonneg e) (subs_spend room aligned)
      (add_nonneg (sum_added_nonneg _) rest) within comes
    have inWindow := inside held known
    rw [added, kind_of_filter e comes.mem] at inWindow
    exact (inWindow.adds room (aligned.multiple e inB) (aligned.low e inB)
      (LifecycleReplay.amount_nonneg e.fact) spares).1
  | @reward subscribed reached e prior held ran apart comes earlier checked realtime known =>
    have inB := List.mem_of_mem_filter comes.mem
    obtain ⟨spare, spares, inside⟩ := reaches_within (fun e _ => added_nonneg e)
      (rewards_spend room aligned _) rest (subscribed_within room aligned rest within ran) comes
    have inWindow := inside held known
    rw [added, kind_of_filter e comes.mem] at inWindow
    dsimp only at inWindow
    rw [if_pos realtime] at inWindow
    exact (inWindow.adds room (aligned.multiple e inB) (aligned.low e inB)
      (LifecycleReplay.amount_nonneg e.fact) spares).1
  | @redeem subscribed credited reached e held ran apart rewarded comes known covered =>
    have inB := List.mem_of_mem_filter comes.mem
    obtain ⟨spare, spares, inside⟩ := reaches_within (fun e _ => added_nonneg e) (redeems_keep room aligned) rest
      (credited_within room aligned rest within ran rewarded) comes
    exact (inside held known).subtracts (aligned.low e inB) (LifecycleReplay.amount_nonneg e.fact)
      (add_nonneg (added_nonneg e) spares) covered

/-- In a window everything that the replay forms fits. -/
theorem replay_fits {bs : List (List LifecycleEvent)} (aligned : ∀ b ∈ bs, Aligned lo b) {start state : Replay}
    (within : Within lo start (bs.flatten.map added).sum) {operation : Operation}
    (comes : Reaches (replayBatch events isOpening) start bs state b)
    (forms : BatchForms events isOpening state b operation) : operation.Fits := by
  have total : (bs.flatten.map added).sum = (bs.map fun c => (c.map added).sum).sum + 0 := by
    rw [List.map_flatten, List.sum_flatten, List.map_map, add_zero]
    rfl
  rw [total] at within
  obtain ⟨spare, spares, inside⟩ := reaches_within (fun c _ => sum_added_nonneg c)
    (fun c member _ _ _ rest within ran => replayBatch_within room (aligned c member) rest within ran)
    le_rfl within comes
  exact batchForms_fits room (aligned b comes.mem) spares inside forms

end Batches

end BinancePlatform.Guarantees.LifecycleWindow
