import BinancePlatform.Guarantees.LifecycleWindow
import Mathlib.Data.List.MinMax

/-!
# The classification of lifecycle rewards

`finalizeLifecycleRewardClassification` on any evidence, in any order of its facts. Its
sums are rounded to a thousand digits and its differences end at 4300, so what it says of
the ledger holds while everything that it forms fits (`OperationsFit`).

Main results:
- `replayProduct_iff`: a product goes through exactly when its exact replay does
- `classify_reordered`: the order of the facts is immaterial
- `replaysSoundly_of_classify`: a success replays soundly
- `rewards_classified`: both, with counts that agree with the rewards in every case
- `operationsFit_of_window`: quantities of a thousand digits always fit
- `over_redemption_passes`: where a sum is rounded, an over-redemption passes
-/

set_option autoImplicit false

namespace BinancePlatform.Guarantees.LifecycleOutcome
open BinancePlatform.Library BinancePlatform.Source
open BinancePlatform.Library.Decimal (Multiple)
open BinancePlatform.Guarantees.RewardAddition BinancePlatform.Guarantees.LifecycleReplay
open BinancePlatform.Guarantees.LifecycleWindow

/-! ## Pending successes -/

def rewardsOf (events : List LifecycleEvent) : List LifecycleEvent := events.filter (·.kind = .reward)

theorem subscribe_pending {state next : Replay} {e : LifecycleEvent}
    (ran : subscribe state e = some next) : next.pending = state.pending := by
  unfold subscribe at ran
  simp only [Option.bind_eq_bind, Option.bind_eq_some_iff] at ran
  obtain ⟨held, -, sum, -, done⟩ := ran
  cases done
  rfl

theorem redeem_pending {state next : Replay} {e : LifecycleEvent}
    (ran : redeem state e = some next) : next.pending = state.pending := by
  unfold redeem at ran
  simp only [Option.bind_eq_bind, Option.bind_eq_some_iff] at ran
  obtain ⟨held, -, -, -, rest, -, -, -, done⟩ := ran
  cases done
  rfl

theorem credit_pending {events : List LifecycleEvent} {isOpening : Bool} {prior : Option Decimal}
    {state next : Replay} {e : LifecycleEvent}
    (ran : creditLifecycleReward events isOpening prior state e = some next) :
    next.pending = state.pending ++ [successCode isOpening] := by
  unfold creditLifecycleReward at ran
  cases prior with
  | none =>
    simp only [Option.bind_eq_bind, Option.bind_eq_some_iff] at ran
    obtain ⟨-, -, -, -, -, -, available, -, done⟩ := ran
    cases done
    rfl
  | some held =>
    simp only [Option.bind_eq_bind, Option.bind_eq_some_iff] at ran
    obtain ⟨-, -, -, -, -, -, available, -, done⟩ := ran
    cases done
    rfl

theorem foldlM_pending (codes : List String) {step : Replay → LifecycleEvent → Option Replay}
    (each : ∀ state next e, step state e = some next → next.pending = state.pending ++ codes)
    {es : List LifecycleEvent} {state next : Replay} (ran : es.foldlM step state = some next) :
    next.pending = state.pending ++ (List.replicate es.length codes).flatten := by
  induction es generalizing state with
  | nil =>
    cases ran
    simp
  | cons e rest ih =>
    rw [List.foldlM_cons, Option.bind_eq_bind, Option.bind_eq_some_iff] at ran
    obtain ⟨middle, first, ran⟩ := ran
    rw [ih ran, each _ _ _ first, List.length_cons, List.replicate_succ, List.flatten_cons,
      List.append_assoc]

theorem replayBatch_pending {events b : List LifecycleEvent} {isOpening : Bool} {state next : Replay}
    (ran : replayBatch events isOpening state b = some next) :
    next.pending = state.pending ++ List.replicate (rewardsOf b).length (successCode isOpening) := by
  unfold replayBatch at ran
  simp only [Option.bind_eq_bind, Option.bind_eq_some_iff] at ran
  obtain ⟨subscribed, subs, -, -, credited, rewards, redeems⟩ := ran
  have first := foldlM_pending [] (fun _ _ _ ran => by simp [subscribe_pending ran]) subs
  have second := foldlM_pending [successCode isOpening] (fun _ _ _ => credit_pending) rewards
  have third := foldlM_pending [] (fun _ _ _ ran => by simp [redeem_pending ran]) redeems
  rw [third, second, first]
  simp [rewardsOf, List.flatten_replicate_singleton]

theorem replay_pending {events : List LifecycleEvent} {isOpening : Bool} {state next : Replay}
    {bs : List (List LifecycleEvent)} (ran : bs.foldlM (replayBatch events isOpening) state = some next) :
    next.pending = state.pending
      ++ List.replicate (rewardsOf bs.flatten).length (successCode isOpening) := by
  induction bs generalizing state with
  | nil =>
    cases ran
    simp [rewardsOf]
  | cons b rest ih =>
    rw [List.foldlM_cons, Option.bind_eq_bind, Option.bind_eq_some_iff] at ran
    obtain ⟨middle, first, ran⟩ := ran
    rw [ih ran, replayBatch_pending first, List.append_assoc, List.replicate_append_replicate,
      List.flatten_cons, rewardsOf, rewardsOf, rewardsOf, List.filter_append, List.length_append]

/-! ## An opening product of unknown total -/

/-- A reward of a kind that is known, with no redemption up to its time. -/
structure UnknownOk (events : List LifecycleEvent) (e : LifecycleEvent) : Prop where
  reward : e.kind = .reward
  kind : e.fact.kind = some "BONUS" ∨ e.fact.kind = some "REALTIME"
  held : ∀ r ∈ events, r.kind = .redeem → e.time < r.time

theorem credit_unknown (events : List LifecycleEvent) (pending : List String) (e : LifecycleEvent) :
    (creditLifecycleReward events true none ⟨none, pending⟩ e
        = some ⟨none, pending ++ [successCode true]⟩
      ∧ (e.fact.kind = some "BONUS" ∨ e.fact.kind = some "REALTIME")
      ∧ ∀ r ∈ events, r.kind = .redeem → e.time < r.time)
    ∨ (creditLifecycleReward events true none ⟨none, pending⟩ e = none
      ∧ ¬((e.fact.kind = some "BONUS" ∨ e.fact.kind = some "REALTIME")
        ∧ ∀ r ∈ events, r.kind = .redeem → e.time < r.time)) := by
  by_cases kind : e.fact.kind = some "BONUS" ∨ e.fact.kind = some "REALTIME"
  · by_cases held : ∀ r ∈ events, r.kind = .redeem → e.time < r.time
    · refine Or.inl ⟨?_, kind, held⟩
      have first : ensure (e.fact.kind = some "BONUS" || e.fact.kind = some "REALTIME") = some () := by
        rw [ensure_some]
        simpa using kind
      have second : ensure (true && !events.any fun r => r.kind = .redeem && r.time ≤ e.time)
          = some () := by
        rw [ensure_some]
        simpa using held
      unfold creditLifecycleReward
      simp only [first, second, Option.bind_eq_bind, Option.bind_some, Bool.true_or]
      rfl
    · refine Or.inr ⟨?_, fun both => held both.2⟩
      have second : ensure (true && !events.any fun r => r.kind = .redeem && r.time ≤ e.time)
          = none := by
        unfold ensure
        rw [if_neg]
        simpa using held
      unfold creditLifecycleReward
      simp only [second, Option.bind_eq_bind, Option.bind_none]
      cases ensure (e.fact.kind = some "BONUS" || e.fact.kind = some "REALTIME") <;> rfl
  · refine Or.inr ⟨?_, fun both => kind both.1⟩
    have first : ensure (e.fact.kind = some "BONUS" || e.fact.kind = some "REALTIME") = none := by
      unfold ensure
      rw [if_neg]
      simpa using kind
    unfold creditLifecycleReward
    simp only [first, Option.bind_eq_bind, Option.bind_none]

/-- Rewards over an unknown balance are of a known kind and come before every redemption. -/
theorem credit_unknown_fold {events es : List LifecycleEvent} (pending : List String) :
    (∃ s, es.foldlM (creditLifecycleReward events true none) ⟨none, pending⟩ = some s)
      ↔ ∀ e ∈ es, (e.fact.kind = some "BONUS" ∨ e.fact.kind = some "REALTIME")
        ∧ ∀ r ∈ events, r.kind = .redeem → e.time < r.time := by
  induction es generalizing pending with
  | nil => simp [pure]
  | cons e rest ih =>
    rw [List.foldlM_cons, List.forall_mem_cons]
    rcases credit_unknown events pending e with
      ⟨credited, ok⟩ | ⟨refused, wrong⟩
    · rw [credited]
      exact (ih (pending ++ [successCode true])).trans (and_iff_right ok).symm
    · rw [refused]
      simp [wrong]

theorem credit_unknown_available {events es : List LifecycleEvent} {pending : List String} {s : Replay}
    (ran : es.foldlM (creditLifecycleReward events true none) ⟨none, pending⟩ = some s) :
    s.available = none := by
  induction es generalizing pending with
  | nil =>
    cases ran
    rfl
  | cons e rest ih =>
    rw [List.foldlM_cons] at ran
    rcases credit_unknown events pending e with
      ⟨credited, -⟩ | ⟨refused, -⟩
    · rw [credited] at ran
      exact ih ran
    · rw [refused] at ran
      cases ran

/-- Nothing is subscribed over an unknown balance. -/
theorem subscribe_unknown {es : List LifecycleEvent} {pending : List String} {s : Replay} :
    es.foldlM subscribe ⟨none, pending⟩ = some s ↔ es = [] ∧ s = ⟨none, pending⟩ := by
  cases es with
  | nil => simp [pure, eq_comm]
  | cons e rest => simp [List.foldlM_cons, subscribe]

/-- Nothing is redeemed from an unknown balance. -/
theorem redeem_unknown {es : List LifecycleEvent} {pending : List String} {s : Replay} :
    es.foldlM redeem ⟨none, pending⟩ = some s ↔ es = [] ∧ s = ⟨none, pending⟩ := by
  cases es with
  | nil => simp [pure, eq_comm]
  | cons e rest => simp [List.foldlM_cons, redeem]

theorem filter_kind_eq_nil {b : List LifecycleEvent} {kind : LifecycleKind} :
    b.filter (·.kind = kind) = [] ↔ ∀ e ∈ b, e.kind ≠ kind := by
  simp [List.filter_eq_nil_iff]

/-- A batch over an unknown balance, event by event. -/
theorem replayBatch_unknown {events b : List LifecycleEvent} (pending : List String) :
    (∃ s, replayBatch events true ⟨none, pending⟩ b = some s) ↔ ∀ e ∈ b, UnknownOk events e := by
  unfold replayBatch
  simp only [Option.bind_eq_bind, Option.bind_eq_some_iff, subscribe_unknown, ensure_some,
    Bool.or_eq_true, List.isEmpty_iff]
  constructor
  · rintro ⟨s, -, ⟨noSubs, rfl⟩, -, -, credited, rewards, redeemed⟩
    have unknown := credit_unknown_available rewards
    obtain ⟨available, codes⟩ := credited
    cases unknown
    obtain ⟨noRedeems, -⟩ := redeem_unknown.mp redeemed
    have each := (credit_unknown_fold _).mp ⟨_, rewards⟩
    intro e member
    have reward : e.kind = .reward := by
      cases kind : e.kind with
      | subscribe => exact absurd kind (filter_kind_eq_nil.mp noSubs e member)
      | reward => rfl
      | redeem => exact absurd kind (filter_kind_eq_nil.mp noRedeems e member)
    have ok := each e (List.mem_filter.mpr ⟨member, by simpa using reward⟩)
    exact ⟨reward, ok.1, ok.2⟩
  · intro all
    have noSubs : b.filter (·.kind = .subscribe) = [] := filter_kind_eq_nil.mpr fun e member => by
      rw [(all e member).reward]
      decide
    have noRedeems : b.filter (·.kind = .redeem) = [] := filter_kind_eq_nil.mpr fun e member => by
      rw [(all e member).reward]
      decide
    obtain ⟨credited, rewards⟩ := (credit_unknown_fold pending).mpr fun e member =>
      have ok := all e (List.mem_of_mem_filter member)
      ⟨ok.kind, ok.held⟩
    have unknown := credit_unknown_available rewards
    obtain ⟨available, codes⟩ := credited
    cases unknown
    exact ⟨⟨none, codes⟩, ⟨none, pending⟩, ⟨noSubs, rfl⟩, (), Or.inr noSubs, ⟨none, codes⟩, rewards,
      redeem_unknown.mpr ⟨noRedeems, rfl⟩⟩

theorem replayBatch_unknown_available {events b : List LifecycleEvent} {pending : List String}
    {s : Replay} (ran : replayBatch events true ⟨none, pending⟩ b = some s) : s.available = none := by
  unfold replayBatch at ran
  simp only [Option.bind_eq_bind, Option.bind_eq_some_iff, subscribe_unknown] at ran
  obtain ⟨-, ⟨-, rfl⟩, -, -, credited, rewards, redeemed⟩ := ran
  have unknown := credit_unknown_available rewards
  obtain ⟨available, codes⟩ := credited
  cases unknown
  obtain ⟨-, rfl⟩ := redeem_unknown.mp redeemed
  rfl

/-- An unknown balance stays unknown. -/
theorem replay_unknown_available {events : List LifecycleEvent} {bs : List (List LifecycleEvent)}
    {state s : Replay} (unknown : state.available = none)
    (ran : bs.foldlM (replayBatch events true) state = some s) : s.available = none := by
  induction bs generalizing state with
  | nil =>
    cases ran
    exact unknown
  | cons b rest ih =>
    rw [List.foldlM_cons, Option.bind_eq_bind, Option.bind_eq_some_iff] at ran
    obtain ⟨middle, first, ran⟩ := ran
    obtain ⟨available, pending⟩ := state
    cases unknown
    exact ih (replayBatch_unknown_available first) ran

/-- The whole replay over an unknown balance. -/
theorem replay_unknown {events : List LifecycleEvent} {bs : List (List LifecycleEvent)}
    (pending : List String) :
    (∃ s, bs.foldlM (replayBatch events true) ⟨none, pending⟩ = some s)
      ↔ ∀ e ∈ bs.flatten, UnknownOk events e := by
  induction bs generalizing pending with
  | nil => simp [pure]
  | cons b rest ih =>
    rw [List.flatten_cons, List.forall_mem_append, ← replayBatch_unknown pending,
      List.foldlM_cons]
    constructor
    · rintro ⟨s, ran⟩
      rw [Option.bind_eq_bind, Option.bind_eq_some_iff] at ran
      obtain ⟨⟨available, codes⟩, first, ran⟩ := ran
      cases replayBatch_unknown_available first
      exact ⟨⟨_, first⟩, (ih codes).mp ⟨s, ran⟩⟩
    · rintro ⟨⟨⟨available, codes⟩, first⟩, all⟩
      cases replayBatch_unknown_available first
      obtain ⟨s, ran⟩ := (ih codes).mpr all
      refine ⟨s, ?_⟩
      rw [first]
      exact ran

/-! ## One product -/

instance : Std.Total LifecycleEvent.precedes := ⟨fun a b => by
  unfold LifecycleEvent.precedes
  omega⟩

instance : IsTrans LifecycleEvent LifecycleEvent.precedes := ⟨fun a b c => by
  unfold LifecycleEvent.precedes
  omega⟩

/-- The replay of a whole list of events. -/
theorem replay_opening {events : List LifecycleEvent} {isOpening : Bool} {held : Decimal}
    (separated : Separated (batches events)) (nonneg : 0 ≤ held.value)
    (fits : ∀ state b operation, Reaches (replayBatch events isOpening) ⟨some held, []⟩ (batches events)
      state b → BatchForms events isOpening state b operation → operation.Fits) :
    (∃ s, (batches events).foldlM (replayBatch events isOpening) ⟨some held, []⟩ = some s)
      ↔ ∀ e ∈ events, EventOk events isOpening held.value e := by
  have flat := batches_flatten events
  have split : events = [] ++ (batches events).flatten := flat.symm
  have start : held.value = held.value + (([] : List LifecycleEvent).map delta).sum := by simp
  rw [replay_iff split separated (by simp) start nonneg [] fits, flat]

/-- What the exact replay needs of the events of a product, with its opening quantity. -/
def ProductOk (events : List LifecycleEvent) (isOpening : Bool) : Option Decimal → Prop
  | some total => ∀ e ∈ events, EventOk events isOpening total.value e
  | none => ∀ e ∈ events, UnknownOk events e

theorem balanceBefore_perm {events others : List LifecycleEvent} (same : events.Perm others)
    (opening : ℚ) (t : ℤ) : balanceBefore opening events t = balanceBefore opening others t := by
  unfold balanceBefore
  rw [((same.filter _).map delta).sum_eq]

theorem balanceThrough_perm {events others : List LifecycleEvent} (same : events.Perm others)
    (opening : ℚ) (t : ℤ) : balanceThrough opening events t = balanceThrough opening others t := by
  unfold balanceThrough
  rw [((same.filter _).map delta).sum_eq]

theorem eventOk_perm {events others : List LifecycleEvent} (same : events.Perm others)
    {isOpening : Bool} {opening : ℚ} {e : LifecycleEvent} (ok : EventOk events isOpening opening e) :
    EventOk others isOpening opening e where
  apart isSub r member := ok.apart isSub r (same.mem_iff.mpr member)
  reward isReward := by
    obtain ⟨kind, positive, sub⟩ := ok.reward isReward
    rw [balanceBefore_perm same] at positive
    exact ⟨kind, positive, sub.imp_right fun ⟨s, member, earlier⟩ => ⟨s, same.mem_iff.mp member, earlier⟩⟩
  covered := balanceThrough_perm same opening e.time ▸ ok.covered

/-- The checks of a product do not depend on the order of its events. -/
theorem ProductOk.perm {events others : List LifecycleEvent} (same : events.Perm others)
    {isOpening : Bool} {opening : Option Decimal} (ok : ProductOk events isOpening opening) :
    ProductOk others isOpening opening := by
  cases opening with
  | some total => exact fun e member => eventOk_perm same (ok e (same.mem_iff.mpr member))
  | none =>
    intro e member
    have fine := ok e (same.mem_iff.mpr member)
    exact ⟨fine.reward, fine.kind, fun r inOthers => fine.held r (same.mem_iff.mpr inOthers)⟩

section Product
variable (evidence : LifecycleEvidence) (key : ProductKey)

/-- The events of a product in the order of the replay. -/
def sortedEvents : List LifecycleEvent := (evidence.eventsOf key).insertionSort LifecycleEvent.precedes

/-- What the replay of a product forms, all batches before gone through. -/
def ProductForms (operation : Operation) : Prop :=
  ∃ state b, Reaches (replayBatch (sortedEvents evidence key) (evidence.isOpening key))
      ⟨evidence.openingAvailable key, []⟩ (batches (sortedEvents evidence key)) state b
    ∧ BatchForms (sortedEvents evidence key) (evidence.isOpening key) state b operation

/-- An opening balance is not negative. -/
theorem openingAvailable_nonneg {total : Decimal} (found : evidence.openingAvailable key = some total) :
    0 ≤ total.value := by
  unfold LifecycleEvidence.openingAvailable at found
  split at found
  · rename_i listed
    cases found
    have notNegative := evidence.totalsNotNegative key total listed
    rwa [Bool.eq_false_iff, ne_eq, Decimal.lt_iff, Decimal.value_zero, not_lt] at notNegative
  · split at found
    · cases found
    · cases found
      rw [Decimal.value_zero]

theorem isOpening_of_unknown (unknown : evidence.openingAvailable key = none) :
    evidence.isOpening key = true := by
  unfold LifecycleEvidence.openingAvailable at unknown
  split at unknown
  · cases unknown
  · split at unknown
    · assumption
    · cases unknown

theorem sorted_perm : (sortedEvents evidence key).Perm (evidence.eventsOf key) := List.perm_insertionSort _ _

/-- The sorted events fall into batches of increasing times. -/
theorem sorted_separated : Separated (batches (sortedEvents evidence key)) := by
  refine batches_separated ((List.pairwise_insertionSort LifecycleEvent.precedes _).imp ?_)
  intro a b precedes
  unfold LifecycleEvent.precedes at precedes
  omega

/-- The replay of a product goes through exactly when the exact one does. -/
theorem replayProduct_iff (fits : ∀ operation, ProductForms evidence key operation → operation.Fits) :
    (∃ pending, evidence.replayProduct key = some pending)
      ↔ ProductOk (evidence.eventsOf key) (evidence.isOpening key) (evidence.openingAvailable key) := by
  have perm := sorted_perm evidence key
  have flat := batches_flatten (sortedEvents evidence key)
  have runs : (∃ pending, evidence.replayProduct key = some pending)
      ↔ ∃ s, (batches (sortedEvents evidence key)).foldlM (replayBatch (sortedEvents evidence key)
          (evidence.isOpening key)) ⟨evidence.openingAvailable key, []⟩ = some s := by
    unfold LifecycleEvidence.replayProduct
    simp only [Option.map_eq_some_iff]
    exact ⟨fun ⟨_, s, ran, _⟩ => ⟨s, ran⟩, fun ⟨s, ran⟩ => ⟨s.pending, s, ran, rfl⟩⟩
  unfold ProductForms at fits
  rw [runs]
  cases opening : evidence.openingAvailable key with
  | some total =>
    rw [opening] at fits
    rw [replay_opening (sorted_separated evidence key) (openingAvailable_nonneg evidence key opening)
      fun state b operation comes forms => fits operation ⟨state, b, comes, forms⟩]
    change ProductOk _ _ (some total) ↔ _
    exact ⟨ProductOk.perm perm, ProductOk.perm perm.symm⟩
  | none =>
    rw [isOpening_of_unknown evidence key opening, replay_unknown, flat]
    change ProductOk _ true none ↔ _
    exact ⟨ProductOk.perm perm, ProductOk.perm perm.symm⟩

theorem rewardsOf_eventsOf : (rewardsOf (evidence.eventsOf key)).length
    = (evidence.rewards.filter (·.key = key)).length := by
  have none : ∀ (kind : LifecycleKind) (facts : List LifecycleFact), kind ≠ .reward →
      (facts.map (LifecycleEvent.mk kind)).filter (·.kind = .reward) = [] := by
    intro kind facts other
    simp [List.filter_eq_nil_iff, other]
  unfold rewardsOf LifecycleEvidence.eventsOf
  rw [List.filter_append, List.filter_append, none _ _ (by decide), none _ _ (by decide),
    List.filter_eq_self.mpr ?_]
  · simp
  · intro e member
    obtain ⟨fact, -, rfl⟩ := List.mem_map.mp member
    rfl

/-- A product that goes through has one pending success for each of its rewards. -/
theorem replayProduct_pending {pending : List String}
    (ran : evidence.replayProduct key = some pending) :
    pending = List.replicate (evidence.rewards.filter (·.key = key)).length
      (successCode (evidence.isOpening key)) := by
  unfold LifecycleEvidence.replayProduct at ran
  obtain ⟨s, replayed, rfl⟩ := Option.map_eq_some_iff.mp ran
  have codes := replay_pending replayed
  rw [batches_flatten] at codes
  have same : (rewardsOf (sortedEvents evidence key)).length = (rewardsOf (evidence.eventsOf key)).length :=
    ((sorted_perm evidence key).filter _).length_eq
  rw [codes, ← rewardsOf_eventsOf, ← same]
  rfl

end Product

/-! ## What a classification forms -/

section Operations
variable (evidence : LifecycleEvidence) (managedAssets : Option (List String))

/-- A product of an asset that is not managed is refused before its replay. -/
def Managed (key : ProductKey) : Prop :=
  ¬(managedAssets.any fun managed => !managed.contains (ofLex key).1) = true

/-- The body of the loop over the products. -/
def classifyStep (pending : List String) (key : ProductKey) : Except String (List String) := do
  let more ← evidence.classifyProduct managedAssets key
  return pending ++ more

/-- A sum or a difference that the classification forms: the products before have gone
through, and in this one all events before. -/
def Forms (operation : Operation) : Prop :=
  (evidence.facts.all fun fact => fact.asset ≠ "" && fact.productId ≠ "") = true
    ∧ ∃ pending key, Reaches (classifyStep evidence managedAssets) [] evidence.productKeys pending key
      ∧ Managed managedAssets key ∧ ProductForms evidence key operation

end Operations

/-! ## The order of the facts -/

/-- The same opening, and the same facts in any order. -/
structure Reordered (evidence others : LifecycleEvidence) : Prop where
  openingProducts : others.openingProducts = evidence.openingProducts
  openingTotals : others.openingTotals = evidence.openingTotals
  subscriptions : evidence.subscriptions.Perm others.subscriptions
  redemptions : evidence.redemptions.Perm others.redemptions
  rewards : evidence.rewards.Perm others.rewards

theorem Reordered.refl (evidence : LifecycleEvidence) : Reordered evidence evidence :=
  ⟨rfl, rfl, .rfl, .rfl, .rfl⟩

/-- In no order of the facts does the classification come to a sum that does not fit the
precision `_reward_sum_prec` gives it, or to a difference longer than `str` writes. -/
def OperationsFit (evidence : LifecycleEvidence) (managedAssets : Option (List String)) : Prop :=
  ∀ others, Reordered evidence others → ∀ operation, Forms others managedAssets operation → operation.Fits

section Reordered
variable {evidence others : LifecycleEvidence} (reordered : Reordered evidence others)
include reordered

theorem eventsOf_reordered (key : ProductKey) :
    (evidence.eventsOf key).Perm (others.eventsOf key) := by
  unfold LifecycleEvidence.eventsOf
  exact (((reordered.subscriptions.filter _).map _).append ((reordered.redemptions.filter _).map _)).append
    ((reordered.rewards.filter _).map _)

theorem isOpening_reordered (key : ProductKey) : others.isOpening key = evidence.isOpening key := by
  unfold LifecycleEvidence.isOpening
  rw [reordered.openingProducts]

theorem openingAvailable_reordered (key : ProductKey) :
    others.openingAvailable key = evidence.openingAvailable key := by
  unfold LifecycleEvidence.openingAvailable
  rw [reordered.openingTotals, isOpening_reordered reordered]

theorem facts_reordered : evidence.facts.Perm others.facts :=
  (reordered.subscriptions.append reordered.redemptions).append reordered.rewards

theorem productKeys_reordered : others.productKeys = evidence.productKeys := by
  have same : (evidence.openingProducts ++ evidence.facts.map LifecycleFact.key).Perm
      (others.openingProducts ++ others.facts.map LifecycleFact.key) := by
    rw [reordered.openingProducts]
    exact ((facts_reordered reordered).map _).append_left _
  unfold LifecycleEvidence.productKeys
  refine List.Perm.eq_of_pairwise' (List.pairwise_insertionSort (· ≤ ·) _)
    (List.pairwise_insertionSort (· ≤ ·) _) ?_
  exact ((List.perm_insertionSort _ _).trans same.dedup.symm).trans (List.perm_insertionSort _ _).symm

/-- A product is replayed alike from reordered evidence, where its operations fit. -/
theorem replayProduct_reordered {key : ProductKey}
    (fits : ∀ operation, ProductForms evidence key operation → operation.Fits)
    (fitsOthers : ∀ operation, ProductForms others key operation → operation.Fits) :
    others.replayProduct key = evidence.replayProduct key := by
  have same : (∃ pending, others.replayProduct key = some pending)
      ↔ ∃ pending, evidence.replayProduct key = some pending := by
    rw [replayProduct_iff others key fitsOthers, replayProduct_iff evidence key fits,
      isOpening_reordered reordered, openingAvailable_reordered reordered]
    have perm := eventsOf_reordered reordered key
    exact ⟨ProductOk.perm perm.symm, ProductOk.perm perm⟩
  cases found : evidence.replayProduct key with
  | some pending =>
    obtain ⟨codes, ran⟩ := same.mpr ⟨pending, found⟩
    rw [ran, replayProduct_pending evidence key found, replayProduct_pending others key ran,
      isOpening_reordered reordered, (reordered.rewards.filter _).length_eq]
  | none =>
    cases ran : others.replayProduct key with
    | none => rfl
    | some codes =>
      obtain ⟨pending, impossible⟩ := same.mp ⟨codes, ran⟩
      rw [found] at impossible
      cases impossible

/-- Both classifications come to the same products, with the same codes before them. -/
theorem classifySteps_reordered {managedAssets : Option (List String)} {keys : List ProductKey}
    {start : List String}
    (fits : ∀ pending key operation, Reaches (classifyStep evidence managedAssets) start keys pending key →
      Managed managedAssets key → ProductForms evidence key operation → operation.Fits)
    (fitsOthers : ∀ pending key operation, Reaches (classifyStep others managedAssets) start keys pending key →
      Managed managedAssets key → ProductForms others key operation → operation.Fits) :
    keys.foldlM (classifyStep others managedAssets) start
      = keys.foldlM (classifyStep evidence managedAssets) start := by
  induction keys generalizing start with
  | nil => rfl
  | cons key rest ih =>
    have same : others.classifyProduct managedAssets key = evidence.classifyProduct managedAssets key := by
      unfold LifecycleEvidence.classifyProduct
      split
      · rfl
      · rename_i managed
        rw [replayProduct_reordered reordered (fun operation => fits start key operation .head managed)
          fun operation => fitsOthers start key operation .head managed]
    have step : classifyStep others managedAssets start key = classifyStep evidence managedAssets start key := by
      rw [classifyStep, same, classifyStep]
    rw [List.foldlM_cons, List.foldlM_cons, step]
    cases ran : classifyStep evidence managedAssets start key with
    | error code => rfl
    | ok next =>
      exact ih (fun pending key' operation comes => fits pending key' operation (comes.tail ran))
        fun pending key' operation comes => fitsOthers pending key' operation (comes.tail (step.trans ran))

/-- The classification does not depend on the order of the evidence. -/
theorem classify_reordered {managedAssets : Option (List String)} (fits : OperationsFit evidence managedAssets) :
    others.classify managedAssets = evidence.classify managedAssets := by
  have checked : (others.facts.all fun fact => fact.asset ≠ "" && fact.productId ≠ "")
      = evidence.facts.all fun fact => fact.asset ≠ "" && fact.productId ≠ "" :=
    (facts_reordered reordered).symm.all_eq
  unfold LifecycleEvidence.classify
  rw [checked, productKeys_reordered reordered]
  cases named : evidence.facts.all fun fact => fact.asset ≠ "" && fact.productId ≠ "" with
  | false => rfl
  | true =>
    refine classifySteps_reordered reordered (fun pending key operation comes managed forms =>
      fits evidence (.refl evidence) operation ⟨named, pending, key, comes, managed, forms⟩)
      fun pending key operation comes managed forms =>
        fits others reordered operation ⟨checked.trans named, pending, key, ?_, managed, forms⟩
    rwa [productKeys_reordered reordered]

end Reordered

/-! ## The counts -/

section Counts
variable {evidence : LifecycleEvidence} {managedAssets : Option (List String)}

/-- A classified product is managed and was replayed. -/
theorem classifyProduct_ok {key : ProductKey} {pending : List String}
    (found : evidence.classifyProduct managedAssets key = .ok pending) :
    Managed managedAssets key ∧ evidence.replayProduct key = some pending := by
  unfold LifecycleEvidence.classifyProduct at found
  split at found
  · cases found
  · rename_i managed
    split at found
    · rename_i replayed
      cases found
      exact ⟨managed, replayed⟩
    · cases found

/-- The products that went through, in order. -/
theorem classify_keys {keys : List ProductKey} {start pending : List String}
    (found : keys.foldlM (fun pending key => do
      let more ← evidence.classifyProduct managedAssets key
      return pending ++ more) start = .ok pending) :
    (∀ key ∈ keys, ∃ codes, evidence.replayProduct key = some codes)
      ∧ pending = start ++ keys.flatMap fun key =>
        List.replicate (evidence.rewards.filter (·.key = key)).length (successCode (evidence.isOpening key)) := by
  induction keys generalizing start with
  | nil =>
    cases found
    simp
  | cons key rest ih =>
    rw [List.foldlM_cons] at found
    obtain ⟨next, first, found⟩ := bind_ok found
    obtain ⟨more, classified, first⟩ := bind_ok first
    cases first
    have replayed := (classifyProduct_ok classified).2
    obtain ⟨later, total⟩ := ih found
    refine ⟨List.forall_mem_cons.mpr ⟨⟨more, replayed⟩, later⟩, ?_⟩
    rw [total, List.flatMap_cons, ← replayProduct_pending evidence key replayed, List.append_assoc]

theorem sum_indicator {keys : List ProductKey} (nodup : keys.Nodup) {key : ProductKey} (member : key ∈ keys) :
    (keys.map fun k => if key = k then 1 else 0).sum = 1 := by
  induction keys with
  | nil => cases member
  | cons k rest ih =>
    obtain ⟨fresh, nodup⟩ := List.nodup_cons.mp nodup
    rw [List.map_cons, List.sum_cons]
    by_cases same : key = k
    · have none : (rest.map fun k => if key = k then 1 else 0) = rest.map fun _ => 0 := by
        apply List.map_congr_left
        intro x inRest
        rw [if_neg]
        rintro rfl
        exact fresh (same ▸ inRest)
      rw [if_pos same, none]
      simp
    · rw [if_neg same, ih nodup ((List.mem_cons.mp member).resolve_left same), zero_add]

/-- The rewards of the distinct products are all rewards. -/
theorem sum_rewards {keys : List ProductKey} (nodup : keys.Nodup) {rewards : List LifecycleFact}
    (covered : ∀ r ∈ rewards, r.key ∈ keys) :
    (keys.map fun key => (rewards.filter (·.key = key)).length).sum = rewards.length := by
  induction rewards with
  | nil => simp
  | cons r rest ih =>
    have each : (fun key => ((r :: rest).filter (·.key = key)).length)
        = fun key => (if r.key = key then 1 else 0) + (rest.filter (·.key = key)).length := by
      funext key
      by_cases same : r.key = key
      · simp [same, add_comm]
      · simp [same]
    rw [each, List.sum_map_add, sum_indicator nodup (covered r List.mem_cons_self),
      ih fun x member => covered x (List.mem_cons_of_mem r member), List.length_cons, add_comm]

theorem productKeys_nodup : evidence.productKeys.Nodup :=
  (List.perm_insertionSort _ _).nodup_iff.mpr (List.nodup_dedup _)

/-- The products are those with an opening balance or a fact. -/
theorem mem_productKeys {key : ProductKey} :
    key ∈ evidence.productKeys ↔ key ∈ evidence.openingProducts ∨ ∃ fact ∈ evidence.facts, fact.key = key := by
  unfold LifecycleEvidence.productKeys
  rw [(List.perm_insertionSort _ _).mem_iff, List.mem_dedup, List.mem_append, List.mem_map]

/-- Classified evidence gives one code of success to every reward. -/
theorem classify_ok {pending : List String} (found : evidence.classify managedAssets = .ok pending) :
    (∀ key ∈ evidence.productKeys, ∃ codes, evidence.replayProduct key = some codes)
      ∧ pending.length = evidence.rewards.length
      ∧ ∀ code ∈ pending, code = "opening_approved" ∨ code = "lifecycle_subscription_proven" := by
  unfold LifecycleEvidence.classify at found
  obtain ⟨-, found⟩ := require_bind found
  obtain ⟨replayed, listed⟩ := classify_keys found
  refine ⟨replayed, ?_, ?_⟩
  · rw [listed, List.nil_append, List.length_flatMap]
    simp only [List.length_replicate]
    refine sum_rewards productKeys_nodup fun r member => mem_productKeys.mpr (Or.inr ⟨r, ?_, rfl⟩)
    exact List.mem_append_right _ member
  · intro code member
    rw [listed, List.nil_append, List.mem_flatMap] at member
    obtain ⟨key, -, inCodes⟩ := member
    rw [List.eq_of_mem_replicate inCodes]
    unfold successCode
    split
    · exact Or.inl rfl
    · exact Or.inr rfl

/-- The two codes of a failure. -/
theorem classify_error {code : String} (failed : evidence.classify managedAssets = .error code) :
    code = "out_of_scope_asset" ∨ code = "lifecycle_evidence_incomplete" := by
  have each : ∀ key raised, evidence.classifyProduct managedAssets key = .error raised →
      raised = "out_of_scope_asset" ∨ raised = "lifecycle_evidence_incomplete" := by
    intro key raised found
    unfold LifecycleEvidence.classifyProduct at found
    split at found
    · exact Or.inl (Except.error.inj found).symm
    · split at found
      · cases found
      · exact Or.inr (Except.error.inj found).symm
  have fold : ∀ (keys : List ProductKey) (start : List String) (raised : String),
      (keys.foldlM (fun pending key => do
        let more ← evidence.classifyProduct managedAssets key
        return pending ++ more) start) = .error raised →
      raised = "out_of_scope_asset" ∨ raised = "lifecycle_evidence_incomplete" := by
    intro keys
    induction keys with
    | nil =>
      intro start raised found
      cases found
    | cons key rest ih =>
      intro start raised found
      rw [List.foldlM_cons] at found
      cases classified : evidence.classifyProduct managedAssets key with
      | error code =>
        rw [classified] at found
        cases found
        exact each key _ classified
      | ok more =>
        rw [classified] at found
        exact ih (start ++ more) raised found
  unfold LifecycleEvidence.classify at failed
  cases checked : require (evidence.facts.all fun fact => fact.asset ≠ "" && fact.productId ≠ "")
      "lifecycle_evidence_incomplete" with
  | error raised =>
    have isRaised := (require_error checked).1
    rw [checked] at failed
    cases failed
    exact Or.inr isRaised
  | ok _ =>
    rw [checked] at failed
    exact fold _ _ _ failed

end Counts

/-- `opening_approved + lifecycle_subscription_proven`. -/
def approvedCount (counts : Dict String ℕ) : ℕ :=
  (counts.get? "opening_approved").getD 0 + (counts.get? "lifecycle_subscription_proven").getD 0

/-- A code of success counts one reward as approved. -/
theorem approvedCount_success {code : String}
    (success : code = "opening_approved" ∨ code = "lifecycle_subscription_proven") (counts : Dict String ℕ) :
    approvedCount (countCode counts code) = approvedCount counts + 1 := by
  unfold approvedCount countCode
  rcases success with rfl | rfl
  · rw [Dict.get?_set_self, Dict.get?_set_ne _ _ (by decide), Option.getD_some]
    omega
  · rw [Dict.get?_set_self, Dict.get?_set_ne _ _ (by decide), Option.getD_some]
    omega

/-- A code of failure counts none. -/
theorem approvedCount_failure {code : String}
    (failure : code = "out_of_scope_asset" ∨ code = "lifecycle_evidence_incomplete")
    (counts : Dict String ℕ) : approvedCount (countCode counts code) = approvedCount counts := by
  unfold approvedCount countCode
  rcases failure with rfl | rfl
  · rw [Dict.get?_set_ne _ _ (by decide), Dict.get?_set_ne _ _ (by decide)]
  · rw [Dict.get?_set_ne _ _ (by decide), Dict.get?_set_ne _ _ (by decide)]

theorem approvedCount_foldl {pending : List String}
    (successes : ∀ code ∈ pending, code = "opening_approved" ∨ code = "lifecycle_subscription_proven")
    (counts : Dict String ℕ) :
    approvedCount (pending.foldl countCode counts) = approvedCount counts + pending.length := by
  induction pending generalizing counts with
  | nil => rfl
  | cons code rest ih =>
    rw [List.foldl_cons, ih fun x member => successes x (List.mem_cons_of_mem code member),
      approvedCount_success (successes code List.mem_cons_self), List.length_cons]
    omega

theorem approvedCount_zeroed (counts : Dict String ℕ) :
    approvedCount (rewardProductClassificationCodes.foldl (fun counts code => counts.set code 0) counts)
      = 0 := by
  simp [approvedCount, rewardProductClassificationCodes, Dict.get?_set]

/-! ## What a success says -/

/-- Replayed exactly in time order, the balance of each product is never negative and every
reward falls strictly after a time of a positive balance; an opening product of unknown
total is never redeemed. -/
structure ReplaysSoundly (evidence : LifecycleEvidence) : Prop where
  neverNegative : ∀ key total, evidence.openingAvailable key = some total →
    ∀ t, 0 ≤ balanceThrough total.value (evidence.eventsOf key) t
  rewarded : ∀ r ∈ evidence.rewards, ∀ total, evidence.openingAvailable r.key = some total →
    ∃ t < r.time, 0 < balanceThrough total.value (evidence.eventsOf r.key) t
  unknown : ∀ key, evidence.openingAvailable key = none →
    evidence.isOpening key = true ∧ ∀ r ∈ evidence.redemptions, r.key ≠ key

/-- The balance changes at the events only. -/
theorem balanceThrough_nonneg {events : List LifecycleEvent} {opening : ℚ} (nonneg : 0 ≤ opening)
    (each : ∀ e ∈ events, 0 ≤ balanceThrough opening events e.time) (t : ℤ) :
    0 ≤ balanceThrough opening events t := by
  cases latest : (events.filter (·.time ≤ t)).argmax LifecycleEvent.time with
  | none =>
    rw [balanceThrough, List.argmax_eq_none.mp latest]
    simpa using nonneg
  | some e =>
    have member := List.mem_filter.mp (List.argmax_mem latest)
    have upTo : e.time ≤ t := by simpa using member.2
    have same : events.filter (·.time ≤ t) = events.filter (·.time ≤ e.time) := by
      apply List.filter_congr
      intro x inEvents
      rw [decide_eq_decide]
      constructor
      · intro early
        exact List.le_of_mem_argmax (List.mem_filter.mpr ⟨inEvents, by simpa using early⟩) latest
      · intro early
        exact early.trans upTo
    rw [balanceThrough, same]
    exact each e member.1

theorem balanceThrough_pred (opening : ℚ) (events : List LifecycleEvent) (t : ℤ) :
    balanceThrough opening events (t - 1) = balanceBefore opening events t := by
  unfold balanceThrough balanceBefore
  congr 4
  funext e
  rw [decide_eq_decide]
  omega

section Sound
variable {evidence : LifecycleEvidence} {managedAssets : Option (List String)} {pending : List String}

/-- Every product of classified evidence passes its checks. -/
theorem productOk_of_classify (fits : OperationsFit evidence managedAssets)
    (found : evidence.classify managedAssets = .ok pending) (key : ProductKey) :
    ProductOk (evidence.eventsOf key) (evidence.isOpening key) (evidence.openingAvailable key) := by
  by_cases listed : key ∈ evidence.productKeys
  · have replays := (classify_ok found).1 key listed
    obtain ⟨named, steps⟩ := require_bind (by unfold LifecycleEvidence.classify at found; exact found)
    obtain ⟨before, after, comes, stepped⟩ := reaches_of_ok steps listed
    obtain ⟨more, classified, -⟩ := bind_ok stepped
    have managed := (classifyProduct_ok classified).1
    exact (replayProduct_iff evidence key fun operation forms =>
      fits evidence (.refl evidence) operation ⟨named, before, key, comes, managed, forms⟩).mp replays
  · rw [mem_productKeys, not_or] at listed
    have none : evidence.eventsOf key = [] := by
      have absent : ∀ facts : List LifecycleFact, (∀ fact ∈ facts, fact ∈ evidence.facts) →
          facts.filter (·.key = key) = [] := by
        intro facts among
        rw [List.filter_eq_nil_iff]
        intro fact member
        simpa using fun same => listed.2 ⟨fact, among fact member, same⟩
      unfold LifecycleEvidence.eventsOf
      rw [absent evidence.subscriptions fun fact member => by simp [LifecycleEvidence.facts, member],
        absent evidence.redemptions fun fact member => by simp [LifecycleEvidence.facts, member],
        absent evidence.rewards fun fact member => by simp [LifecycleEvidence.facts, member]]
      rfl
    rw [none]
    cases evidence.openingAvailable key <;> simp [ProductOk]

/-- Classified evidence keeps every balance nonnegative, and each reward follows a positive one. -/
theorem replaysSoundly_of_classify (fits : OperationsFit evidence managedAssets)
    (found : evidence.classify managedAssets = .ok pending) : ReplaysSoundly evidence where
  neverNegative key total known := by
    have ok := productOk_of_classify fits found key
    rw [known] at ok
    exact balanceThrough_nonneg (openingAvailable_nonneg evidence key known) fun e member =>
      (ok e member).covered
  rewarded r member total known := by
    have ok := productOk_of_classify fits found r.key
    rw [known] at ok
    have inEvents : ⟨.reward, r⟩ ∈ evidence.eventsOf r.key := by
      unfold LifecycleEvidence.eventsOf
      refine List.mem_append_right _ (List.mem_map.mpr ⟨r, List.mem_filter.mpr ⟨member, ?_⟩, rfl⟩)
      simp
    obtain ⟨-, positive, -⟩ := (ok ⟨.reward, r⟩ inEvents).reward rfl
    refine ⟨r.time - 1, by omega, ?_⟩
    rw [balanceThrough_pred]
    exact positive
  unknown key unknown := by
    refine ⟨isOpening_of_unknown evidence key unknown, ?_⟩
    rintro r member rfl
    have ok := productOk_of_classify fits found r.key
    rw [unknown] at ok
    have inEvents : ⟨.redeem, r⟩ ∈ evidence.eventsOf r.key := by
      unfold LifecycleEvidence.eventsOf
      refine List.mem_append_left _ (List.mem_append_right _
        (List.mem_map.mpr ⟨r, List.mem_filter.mpr ⟨member, ?_⟩, rfl⟩))
      simp
    have reward := (ok ⟨.redeem, r⟩ inEvents).reward
    cases reward

end Sound

/-- The counts agree with the rewards. While everything fits that the classification
forms, a success replays soundly and the order of the facts is immaterial. -/
theorem rewards_classified (evidence : LifecycleEvidence) (managedAssets : Option (List String))
    (counts : Dict String ℕ) :
    ((finalizeLifecycleRewardClassification evidence managedAssets counts).1 = .ok () →
      approvedCount (finalizeLifecycleRewardClassification evidence managedAssets counts).2
        = evidence.rewards.length)
    ∧ (∀ raised, (finalizeLifecycleRewardClassification evidence managedAssets counts).1
        = .error raised →
      approvedCount (finalizeLifecycleRewardClassification evidence managedAssets counts).2 = 0)
    ∧ (OperationsFit evidence managedAssets →
      ((finalizeLifecycleRewardClassification evidence managedAssets counts).1 = .ok () →
        ReplaysSoundly evidence)
      ∧ ∀ others, Reordered evidence others →
        finalizeLifecycleRewardClassification others managedAssets counts
          = finalizeLifecycleRewardClassification evidence managedAssets counts) := by
  unfold finalizeLifecycleRewardClassification
  cases found : evidence.classify managedAssets with
  | ok pending =>
    obtain ⟨-, counted, successes⟩ := classify_ok found
    refine ⟨fun _ => ?_, ?_, fun fits => ⟨fun _ => replaysSoundly_of_classify fits found, ?_⟩⟩
    · dsimp only
      rw [approvedCount_foldl successes, approvedCount_zeroed, zero_add, counted]
    · intro raised failed
      cases failed
    · intro others reordered
      rw [classify_reordered reordered fits, found]
  | error code =>
    refine ⟨?_, fun raised _ => ?_, fun fits => ⟨?_, ?_⟩⟩
    · intro succeeded
      cases succeeded
    · dsimp only
      rw [approvedCount_failure (classify_error found), approvedCount_zeroed]
    · intro succeeded
      cases succeeded
    · intro others reordered
      rw [classify_reordered reordered fits, found]

/-! ## Quantities of a thousand digits -/

/-- The quantities of a product fit a window of a thousand digits. -/
def Fits (events : List LifecycleEvent) (opening : Decimal) : Prop :=
  ∃ lo, Room lo ∧ Multiple lo opening.value ∧ lowest lo ≤ opening.exp ∧ Aligned lo events
    ∧ opening.value + (events.map added).sum < (10 : ℚ) ^ (lo + 1000)

theorem Fits.perm {events others : List LifecycleEvent} (same : events.Perm others)
    {opening : Decimal} (fits : Fits events opening) : Fits others opening := by
  obtain ⟨lo, room, multiple, low, aligned, bound⟩ := fits
  refine ⟨lo, room, multiple, low, ⟨fun e member => aligned.multiple e (same.mem_iff.mpr member),
    fun e member => aligned.low e (same.mem_iff.mpr member)⟩, ?_⟩
  rwa [← (same.map added).sum_eq]

/-- Nothing is added to an unknown quantity, or taken from it. -/
theorem batchForms_known {events b : List LifecycleEvent} {state : Replay} {operation : Operation}
    (forms : BatchForms events true state b operation) : state.available ≠ none := by
  intro unknown
  obtain ⟨available, pending⟩ := state
  cases unknown
  cases forms with
  | subscribe comes known =>
    obtain ⟨before, after, -, ran⟩ := comes
    obtain ⟨-, rfl⟩ := subscribe_unknown.mp ran
    cases known
  | reward _ _ _ earlier => cases earlier
  | @redeem subscribed credited reached e held ran apart rewarded comes known covered =>
    obtain ⟨-, rfl⟩ := subscribe_unknown.mp ran
    have unknown := credit_unknown_available rewarded
    obtain ⟨available, codes⟩ := credited
    cases unknown
    obtain ⟨before, after, -, redeemed⟩ := comes
    obtain ⟨-, rfl⟩ := redeem_unknown.mp redeemed
    cases known

theorem productForms_fits {evidence : LifecycleEvidence} {key : ProductKey}
    (fits : ∀ total, evidence.openingAvailable key = some total → Fits (evidence.eventsOf key) total)
    {operation : Operation} (forms : ProductForms evidence key operation) : operation.Fits := by
  obtain ⟨state, b, comes, forms⟩ := forms
  cases opening : evidence.openingAvailable key with
  | none =>
    obtain ⟨before, after, -, ran⟩ := comes
    rw [isOpening_of_unknown evidence key opening] at ran forms
    rw [opening] at ran
    exact absurd (replay_unknown_available rfl ran) (batchForms_known forms)
  | some total =>
    obtain ⟨lo, room, multiple, low, aligned, bound⟩ :=
      (fits total opening).perm (sorted_perm evidence key).symm
    have flat := batches_flatten (sortedEvents evidence key)
    have listed : ∀ c ∈ batches (sortedEvents evidence key), ∀ e ∈ c, e ∈ sortedEvents evidence key := by
      intro c member e inC
      rw [← flat]
      exact List.mem_flatten.mpr ⟨c, member, inC⟩
    rw [opening] at comes
    refine replay_fits room (fun c member => ⟨fun e inC => aligned.multiple e (listed c member e inC),
      fun e inC => aligned.low e (listed c member e inC)⟩) ?_ comes forms
    rintro _ ⟨⟩
    rw [flat]
    exact ⟨multiple, low, openingAvailable_nonneg evidence key opening, bound⟩

/-- A condition on the quantities alone under which everything fits. -/
theorem operationsFit_of_window {evidence : LifecycleEvidence} (managedAssets : Option (List String))
    (fits : ∀ key total, evidence.openingAvailable key = some total → Fits (evidence.eventsOf key) total) :
    OperationsFit evidence managedAssets := by
  rintro others reordered operation ⟨-, pending, key, -, -, forms⟩
  refine productForms_fits (fun total known => ?_) forms
  rw [openingAvailable_reordered reordered] at known
  exact (fits key total known).perm (eventsOf_reordered reordered key)

/-! ## Two ledgers -/

def bnbFact (amount : Decimal) (time : ℤ) (kind : Option String) (notNegative : amount.lt .zero = false) :
    LifecycleFact := ⟨"BNB", "BNB001", amount, time, kind, notNegative⟩

def bnbKey : ProductKey := toLex ("BNB", "BNB001")

/-- An opening product with a total of one. -/
def openingOne (subscriptions redemptions rewards : List LifecycleFact) : LifecycleEvidence where
  openingProducts := [bnbKey]
  openingTotals := ⟨[(bnbKey, ⟨false, 1, 0⟩)]⟩
  subscriptions := subscriptions
  redemptions := redemptions
  rewards := rewards
  totalsNotNegative key total found := by
    have stated : total = ⟨false, 1, 0⟩ :=
      (Prod.mk.inj (List.mem_singleton.mp (Dict.mem_of_find found))).2
    rw [stated]
    decide

/-- Redeems `1E-1100`, subscribes `1E-1200` and redeems `1`. -/
def overRedeemed : LifecycleEvidence :=
  openingOne [bnbFact ⟨false, 1, -1200⟩ 2 none (by decide +kernel)]
    [bnbFact ⟨false, 1, -1100⟩ 1 none (by decide +kernel), bnbFact ⟨false, 1, 0⟩ 3 none (by decide +kernel)] []

/-- The sum after the subscription is rounded up to one, and the last redemption passes. -/
theorem over_redemption_passes :
    (finalizeLifecycleRewardClassification overRedeemed (some ["BNB"]) .empty).1 = .ok ()
    ∧ ¬ReplaysSoundly overRedeemed := by
  constructor
  · decide +kernel
  · intro sound
    have covered := sound.neverNegative bnbKey ⟨false, 1, 0⟩ rfl 3
    have negative : balanceThrough (⟨false, 1, 0⟩ : Decimal).value (overRedeemed.eventsOf bnbKey) 3 < 0 := by
      decide +kernel
    exact absurd covered (not_le.mpr negative)

/-- A subscription of one and a later reward of a hundredth. -/
def rewardedOnce : LifecycleEvidence :=
  openingOne [bnbFact ⟨false, 1, 0⟩ 1 none (by decide +kernel)] []
    [bnbFact ⟨false, 1, -2⟩ 2 (some "REALTIME") (by decide +kernel)]

theorem rewardedOnce_fits : ∀ key total, rewardedOnce.openingAvailable key = some total →
    Fits (rewardedOnce.eventsOf key) total := by
  intro key total found
  have hundredth : ∀ n : ℤ, Multiple (-2) (n / 100 : ℚ) := fun n => ⟨n, by norm_num; ring⟩
  by_cases same : key = bnbKey
  · subst same
    have stated : total = ⟨false, 1, 0⟩ := (Option.some.inj found).symm
    have one : (⟨false, 1, 0⟩ : Decimal).value = 1 := by norm_num [Decimal.value, Decimal.signed]
    have cent : (⟨false, 1, -2⟩ : Decimal).value = 1 / 100 := by norm_num [Decimal.value, Decimal.signed]
    have listed : rewardedOnce.eventsOf bnbKey
        = [⟨.subscribe, bnbFact ⟨false, 1, 0⟩ 1 none (by decide +kernel)⟩,
          ⟨.reward, bnbFact ⟨false, 1, -2⟩ 2 (some "REALTIME") (by decide +kernel)⟩] := by rfl
    subst stated
    refine ⟨-2, ⟨⟨by norm_num, by norm_num⟩, by decide⟩, ?_, by decide, ⟨?_, ?_⟩, ?_⟩
    · rw [one]
      simpa using hundredth 100
    · intro e member
      rw [listed] at member
      rcases List.mem_cons.mp member with rfl | member
      · change Multiple (-2) (⟨false, 1, 0⟩ : Decimal).value
        rw [one]
        simpa using hundredth 100
      · rw [List.mem_singleton.mp member]
        change Multiple (-2) (⟨false, 1, -2⟩ : Decimal).value
        rw [cent]
        simpa using hundredth 1
    · intro e member
      rw [listed] at member
      rcases List.mem_cons.mp member with rfl | member
      · change lowest (-2) ≤ 0
        decide
      · rw [List.mem_singleton.mp member]
        change lowest (-2) ≤ -2
        decide
    · rw [listed]
      simp only [List.map_cons, List.map_nil, List.sum_cons, List.sum_nil, added, bnbFact, one, cent, if_true]
      have wide : (10 : ℚ) ^ (1 : ℤ) ≤ 10 ^ ((-2 : ℤ) + 1000) :=
        zpow_le_zpow_right₀ (by norm_num) (by norm_num)
      refine lt_of_lt_of_le ?_ wide
      norm_num
  · have absent : rewardedOnce.eventsOf key = [] := by
      have other : bnbKey ≠ key := fun isKey => same isKey.symm
      simp [LifecycleEvidence.eventsOf, rewardedOnce, openingOne, bnbFact, LifecycleFact.key,
        show toLex ("BNB", "BNB001") ≠ key from other]
    have stated : total = .zero := by
      have other : bnbKey ≠ key := fun isKey => same isKey.symm
      simp [LifecycleEvidence.openingAvailable, LifecycleEvidence.isOpening, rewardedOnce, openingOne,
        Dict.get?, Dict.find, other, same] at found
      exact found.symm
    subst stated
    rw [absent]
    refine ⟨-2, ⟨⟨by norm_num, by norm_num⟩, by decide⟩, ?_, by decide, ⟨by simp, by simp⟩, ?_⟩
    · rw [Decimal.value_zero]
      exact Multiple.zero _
    · simp

theorem rewards_classified_once :
    (finalizeLifecycleRewardClassification rewardedOnce (some ["BNB"]) .empty).1 = .ok ()
    ∧ approvedCount (finalizeLifecycleRewardClassification rewardedOnce (some ["BNB"]) .empty).2 = 1
    ∧ ReplaysSoundly rewardedOnce
    ∧ ∀ others, Reordered rewardedOnce others →
      finalizeLifecycleRewardClassification others (some ["BNB"]) .empty
        = finalizeLifecycleRewardClassification rewardedOnce (some ["BNB"]) .empty :=
  have succeeded : (finalizeLifecycleRewardClassification rewardedOnce (some ["BNB"]) .empty).1 = .ok () := by
    decide +kernel
  have classified := rewards_classified rewardedOnce (some ["BNB"]) .empty
  have fits := operationsFit_of_window (some ["BNB"]) rewardedOnce_fits
  ⟨succeeded, classified.1 succeeded, (classified.2.2 fits).1 succeeded, (classified.2.2 fits).2⟩

end BinancePlatform.Guarantees.LifecycleOutcome
