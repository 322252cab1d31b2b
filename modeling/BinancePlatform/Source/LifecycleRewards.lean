import BinancePlatform.Source.BalanceHistory
import Mathlib.Data.Prod.Lex
import Mathlib.Data.String.Basic
import Mathlib.Data.List.Sort

/-!
# Rewards of products with a lifecycle

`_finalize_lifecycle_reward_classification` of `broker_reconciliation.py` on the evidence
that the history readers have validated: a fact carries the amount that its text reads as.
-/

set_option autoImplicit false

namespace BinancePlatform.Source
open BinancePlatform.Library

/-! ## The evidence -/

/-- A subscription, a redemption or a reward; only a reward has a `kind`. -/
structure LifecycleFact where
  asset : String
  productId : String
  amount : Decimal
  time : ℤ
  kind : Option String
  notNegative : amount.lt .zero = false

/-- `(asset, product_id)`, in the order of Python tuples. -/
abbrev ProductKey := Lex (String × String)

def LifecycleFact.key (fact : LifecycleFact) : ProductKey := toLex (fact.asset, fact.productId)

structure LifecycleEvidence where
  openingProducts : List ProductKey
  openingTotals : Dict ProductKey Decimal
  subscriptions : List LifecycleFact
  redemptions : List LifecycleFact
  rewards : List LifecycleFact
  totalsNotNegative : ∀ key total, openingTotals.get? key = some total → total.lt .zero = false

inductive LifecycleKind where
  | subscribe
  | reward
  | redeem
  deriving DecidableEq, Repr

def LifecycleKind.rank : LifecycleKind → ℕ
  | .subscribe => 0
  | .reward => 1
  | .redeem => 2

structure LifecycleEvent where
  kind : LifecycleKind
  fact : LifecycleFact

def LifecycleEvent.time (event : LifecycleEvent) : ℤ := event.fact.time

/-- The order of the sort key. -/
def LifecycleEvent.precedes (a b : LifecycleEvent) : Prop :=
  a.time < b.time ∨ a.time = b.time ∧ a.kind.rank ≤ b.kind.rank

instance (a b : LifecycleEvent) : Decidable (a.precedes b) :=
  inferInstanceAs (Decidable (_ ∨ _ ∧ _))

/-! ## Quantities -/

/-- A quantity text of at most 80 characters. -/
def quantityOfText (raised : PyException) (admits : Decimal → Bool) : Value → Except PyException Decimal
  | .str s => do
    require (s ≠ "" && s.length ≤ 80) raised
    match decimalOfText s with
    | .ok (.finite amount) => do
      require (admits amount) raised
      return amount
    | _ => .error raised
  | _ => .error raised

/-- `_lifecycle_amount`. -/
def lifecycleAmount : Value → Except PyException Decimal :=
  quantityOfText (valueError "lifecycle_row_invalid") fun amount => Decimal.zero.lt amount

/-- The longest integer that `str` of the interpreter writes. -/
def maxStrDigits : ℕ := 4300

/-- `_subtract_lifecycle_quantity`; `str(abs(total))` raises past its limit of digits. -/
def subtractLifecycleQuantity (left right : Decimal) : Option Decimal :=
  let e := min left.exp right.exp
  let total := left.scaled e - right.scaled e
  if total = 0 then some .zero
  else if maxStrDigits < Decimal.numDigits total.natAbs then none
  else some ⟨decide (total < 0), total.natAbs, e⟩

/-! ## The replay of one product

`none` is `lifecycle_evidence_incomplete`, with which every check of the replay fails. -/

/-- The available quantity, unknown as `none`, and the pending successes. -/
structure Replay where
  available : Option Decimal
  pending : List String

/-- `if not ok: raise`. -/
def ensure (ok : Bool) : Option Unit := if ok then some () else none

def subscribe (state : Replay) (event : LifecycleEvent) : Option Replay := do
  let held ← state.available
  let sum ← addRewardQuantity held event.fact.amount
  return { state with available := some sum }

/-- `_add_reward_quantity` of a `REALTIME` reward to a known quantity. -/
def accrue (available : Option Decimal) (fact : LifecycleFact) : Option (Option Decimal) :=
  match available with
  | some held =>
    if fact.kind = some "REALTIME" then (addRewardQuantity held fact.amount).map some
    else some (some held)
  | none => some none

def creditLifecycleReward (events : List LifecycleEvent) (isOpening : Bool) (prior : Option Decimal)
    (state : Replay) (event : LifecycleEvent) : Option Replay := do
  ensure (event.fact.kind = some "BONUS" || event.fact.kind = some "REALTIME")
  match prior with
  | none => ensure (isOpening && !events.any fun e => e.kind = .redeem && e.time ≤ event.time)
  | some held => ensure (Decimal.zero.lt held)
  ensure (isOpening || events.any fun e => e.kind = .subscribe && e.time < event.time)
  let available ← accrue state.available event.fact
  return ⟨available, state.pending
    ++ [if isOpening then "opening_approved" else "lifecycle_subscription_proven"]⟩

def redeem (state : Replay) (event : LifecycleEvent) : Option Replay := do
  let held ← state.available
  ensure (!held.lt event.fact.amount)
  let rest ← subtractLifecycleQuantity held event.fact.amount
  ensure (!rest.lt .zero)
  return { state with available := some rest }

/-- The events of one millisecond. -/
def replayBatch (events : List LifecycleEvent) (isOpening : Bool) (state : Replay)
    (batch : List LifecycleEvent) : Option Replay := do
  let subs := batch.filter (·.kind = .subscribe)
  let rewards := batch.filter (·.kind = .reward)
  let subscribed ← subs.foldlM subscribe state
  ensure (rewards.isEmpty || subs.isEmpty)
  let credited ← rewards.foldlM (creditLifecycleReward events isOpening state.available) subscribed
  (batch.filter (·.kind = .redeem)).foldlM redeem credited

/-- The runs of events of one millisecond, as the `while` loop takes them. -/
def batches : List LifecycleEvent → List (List LifecycleEvent)
  | [] => []
  | event :: rest =>
    match batches rest with
    | (next :: same) :: later =>
      if next.time = event.time then (event :: next :: same) :: later
      else [event] :: (next :: same) :: later
    | later => [event] :: later

namespace LifecycleEvidence
variable (evidence : LifecycleEvidence) (managedAssets : Option (List String))

def facts : List LifecycleFact := evidence.subscriptions ++ evidence.redemptions ++ evidence.rewards

/-- `events` of a product, before the sort. -/
def eventsOf (key : ProductKey) : List LifecycleEvent :=
  ((evidence.subscriptions.filter (·.key = key)).map (.mk .subscribe))
    ++ ((evidence.redemptions.filter (·.key = key)).map (.mk .redeem))
    ++ ((evidence.rewards.filter (·.key = key)).map (.mk .reward))

def isOpening (key : ProductKey) : Bool := evidence.openingProducts.contains key

/-- `available` before the first event. -/
def openingAvailable (key : ProductKey) : Option Decimal :=
  match evidence.openingTotals.get? key with
  | some total => some total
  | none => if evidence.isOpening key then none else some .zero

/-- `sorted(product_keys)`. -/
def productKeys : List ProductKey :=
  (evidence.openingProducts ++ evidence.facts.map LifecycleFact.key).dedup.insertionSort (· ≤ ·)

/-- The replay of one product: its pending successes. -/
def replayProduct (key : ProductKey) : Option (List String) :=
  let events := (evidence.eventsOf key).insertionSort LifecycleEvent.precedes
  ((batches events).foldlM (replayBatch events (evidence.isOpening key))
    ⟨evidence.openingAvailable key, []⟩).map Replay.pending

/-- One product: its pending successes, or the code of its failure. -/
def classifyProduct (key : ProductKey) : Except String (List String) :=
  if managedAssets.any fun managed => !managed.contains (ofLex key).1 then .error "out_of_scope_asset"
  else match evidence.replayProduct key with
    | some pending => .ok pending
    | none => .error "lifecycle_evidence_incomplete"

/-- The checks and the products in their order. -/
def classify : Except String (List String) := do
  require (evidence.facts.all fun fact => fact.asset ≠ "" && fact.productId ≠ "")
    "lifecycle_evidence_incomplete"
  evidence.productKeys.foldlM (fun pending key => do
    let more ← classifyProduct evidence managedAssets key
    return pending ++ more) []

end LifecycleEvidence

/-- `_REWARD_PRODUCT_CLASSIFICATION_CODES`. -/
def rewardProductClassificationCodes : List String :=
  ["opening_approved", "lifecycle_subscription_proven", "out_of_scope_asset",
    "lifecycle_evidence_incomplete", "product_mapping_ambiguous", "unexplained_managed_impact"]

/-- `classification_counts[code] += 1`. -/
def countCode (counts : Dict String ℕ) (code : String) : Dict String ℕ :=
  counts.set code ((counts.get? code).getD 0 + 1)

/-- `_finalize_lifecycle_reward_classification`: what is raised, and the counts. -/
def finalizeLifecycleRewardClassification (evidence : LifecycleEvidence)
    (managedAssets : Option (List String)) (classificationCounts : Dict String ℕ) :
    Except PyException Unit × Dict String ℕ :=
  let counts := rewardProductClassificationCodes.foldl (fun counts code => counts.set code 0)
    classificationCounts
  match evidence.classify managedAssets with
  | .ok pending => (.ok (), pending.foldl countCode counts)
  | .error code => (.error (valueError "unapproved_reward_product"), countCode counts code)

end BinancePlatform.Source
