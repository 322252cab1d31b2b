import BinancePlatform.Source.KnownFill
import Mathlib.Data.List.DropRight

/-!
# Forward Earn accounting conserves quantity

A run mixes fills accounted by `account_known_fill_for_earn` with accepted
`prepare_forward_earn_state` steps; between them the rest of the document (the
order-submission record, snapshots, other fields) may change freely.

* The net changes hold, for every asset, exactly the deltas of the fills since the
  last checkpoint, as long as they can be read at all (`Conserves.pending`).
* The quantities of the last checkpoint are those of the first plus rewards, the
  fills before it, deposits and dividends (`run_conserves`).
-/

set_option autoImplicit false

namespace BinancePlatform.Guarantees.EarnConservation
open BinancePlatform.Library BinancePlatform.Source

inductive Event where
  | fill (record : Document)
  | forward (current : Value) (cashFlows : Document)

namespace Event

def isFill : Event → Bool
  | .fill _ => true
  | .forward _ _ => false

def delta (asset : String) : Event → ℚ
  | .fill record => fillDelta record asset
  | .forward _ _ => 0

def principal : Event → ℚ
  | .fill _ => 0
  | .forward _ cashFlows => principalOf cashFlows

def dividend : Event → ℚ
  | .fill _ => 0
  | .forward _ cashFlows => dividendOf cashFlows

end Event

/-- The events up to the last checkpoint. -/
def beforeLastCheckpoint (events : List Event) : List Event := events.rdropWhile Event.isFill

def sinceLastCheckpoint (events : List Event) : List Event := events.rtakeWhile Event.isFill

def fillTotal (asset : String) (events : List Event) : ℚ := (events.map (Event.delta asset)).sum

/-- Deposits of USDT and dividends of BNB. -/
def flowTotal (asset : String) (events : List Event) : ℚ :=
  (if asset = "USDT" then (events.map Event.principal).sum else 0)
    + if asset = "BNB" then (events.map Event.dividend).sum else 0

def checkpointOf (state : Document) : Value := pyGet state "earn_accrual_checkpoint"

/-- Neither of the two fields that the Earn accounting owns has changed. -/
structure KeepsEarnFields (state next : Document) : Prop where
  checkpoint : next.get? "earn_accrual_checkpoint" = state.get? "earn_accrual_checkpoint"
  net : next.get? "earn_accounted_net_changes" = state.get? "earn_accounted_net_changes"

/-- What holds between the first state of a run and the state it has reached. -/
structure Conserves (first : Document) (events : List Event) (state : Document) : Prop where
  assets : assetsIn (checkpointOf state) = assetsIn (checkpointOf first)
  present : state.contains "earn_accrual_checkpoint" = true
  products : ∀ asset ∈ assetsIn (checkpointOf first),
    productsIn (checkpointOf state) asset = productsIn (checkpointOf first) asset
  quantity : ∀ asset ∈ assetsIn (checkpointOf first),
    quantityIn (checkpointOf state) asset - quantityIn (checkpointOf first) asset
      = rewardsBetween (checkpointOf first) (checkpointOf state) asset
        + fillTotal asset (beforeLastCheckpoint events) + flowTotal asset events
  pending : ∀ net, state.get? "earn_accounted_net_changes" = some (.dict net) →
    ∀ asset ∈ assetsIn (checkpointOf first), ∀ d,
      amount earnContext true (pyGet net asset) = .ok d →
      d.value = fillTotal asset (sinceLastCheckpoint events)

theorem fillTotal_append (asset : String) (events : List Event) (event : Event) :
    fillTotal asset (events ++ [event]) = fillTotal asset events + event.delta asset := by
  simp [fillTotal]

theorem flowTotal_append (asset : String) (events : List Event) (event : Event) :
    flowTotal asset (events ++ [event]) = flowTotal asset events
      + ((if asset = "USDT" then event.principal else 0)
        + if asset = "BNB" then event.dividend else 0) := by
  simp only [flowTotal, List.map_append, List.map_cons, List.map_nil, List.sum_append,
    List.sum_singleton]
  split <;> split <;> ring

/-- Every fill lies either before the last checkpoint or after it. -/
theorem fillTotal_split (asset : String) (events : List Event) :
    fillTotal asset (beforeLastCheckpoint events) + fillTotal asset (sinceLastCheckpoint events)
      = fillTotal asset events := by
  rw [fillTotal, fillTotal, ← List.sum_append, ← List.map_append, beforeLastCheckpoint,
    sinceLastCheckpoint, List.rdropWhile_append_rtakeWhile, fillTotal]

theorem rewardsBetween_trans {first middle last : Value} {asset : String}
    (same : productsIn middle asset = productsIn first asset) :
    rewardsBetween first last asset
      = rewardsBetween first middle asset + rewardsBetween middle last asset := by
  rw [rewardsBetween, rewardsBetween, rewardsBetween, same, ← Finset.sum_add_distrib]
  exact Finset.sum_congr rfl fun product _ => by ring

theorem rewardsBetween_self (checkpoint : Value) (asset : String) :
    rewardsBetween checkpoint checkpoint asset = 0 := by
  simp [rewardsBetween]

theorem checkpointOf_eq {state : Document} {checkpoint : Value}
    (stored : state.get? "earn_accrual_checkpoint" = some checkpoint) :
    checkpointOf state = checkpoint := by
  simp [checkpointOf, pyGet, stored]

theorem checkpointOf_keeps {state next : Document} (keeps : KeepsEarnFields state next) :
    checkpointOf next = checkpointOf state := by
  rw [checkpointOf, checkpointOf, pyGet, pyGet, keeps.checkpoint]

theorem conserves_other {first state next : Document} {events : List Event}
    (before : Conserves first events state) (keeps : KeepsEarnFields state next) :
    Conserves first events next where
  assets := by rw [checkpointOf_keeps keeps, before.assets]
  present := by rw [Dict.contains, keeps.checkpoint]; exact before.present
  products := by rw [checkpointOf_keeps keeps]; exact before.products
  quantity := by rw [checkpointOf_keeps keeps]; exact before.quantity
  pending := by rw [keeps.net]; exact before.pending

/-- Net changes that are all the text `0`. -/
theorem value_of_zeros {net : Document}
    (zeros : ∀ asset value, net.get? asset = some value → value = .str "0") {asset : String}
    {d : Decimal} (read : amount earnContext true (pyGet net asset) = .ok d) : d.value = 0 := by
  have zeroText : quantityOf (.str "0") = 0 := by decide +kernel
  cases entry : net.get? asset with
  | none =>
    rw [pyGet, entry] at read
    cases read
  | some value =>
    obtain rfl := zeros asset value entry
    rw [pyGet, entry] at read
    rw [← (amount_ok read).2.1]
    exact zeroText

section Run
variable [CharacterTable]

/-- A valid checkpoint and all-zero accounted net changes. -/
structure Opening (state : Document) : Prop where
  valid : validate (checkpointOf state) = .ok ()
  zero : ∀ net, state.get? "earn_accounted_net_changes" = some (.dict net) →
    ∀ asset d, amount earnContext true (pyGet net asset) = .ok d → d.value = 0

inductive Run (first : Document) : List Event → Document → Prop where
  | start : Run first [] first
  | other {events : List Event} {state next : Document} (run : Run first events state)
      (keeps : KeepsEarnFields state next) : Run first events next
  | fill {events : List Event} {state record next : Document} (run : Run first events state)
      (awaits : AwaitsAccounting state record)
      (accounted : accountKnownFillForEarn state = .ok next) :
      Run first (events ++ [.fill record]) next
  | forward {events : List Event} {state next : Document} {current : Value} {cashFlows : Document}
      (run : Run first events state)
      (accepted : prepareForwardEarnState state current cashFlows = .ok next) :
      Run first (events ++ [.forward current cashFlows]) next

theorem Opening.present {state : Document} (opening : Opening state) :
    state.contains "earn_accrual_checkpoint" = true := by
  obtain ⟨fields, mapping, -⟩ := bind_ok opening.valid
  have shape := asMapping_ok mapping
  by_contra absent
  have missing : state.get? "earn_accrual_checkpoint" = none := by
    simpa [Dict.contains] using absent
  simp [checkpointOf, pyGet, missing] at shape

theorem conserves_start {first : Document} (opening : Opening first) :
    Conserves first [] first where
  assets := rfl
  present := opening.present
  products := fun _ _ => rfl
  quantity := fun asset _ => by
    rw [rewardsBetween_self]
    simp [fillTotal, flowTotal, beforeLastCheckpoint]
  pending := fun net stored asset _ d read => by
    rw [opening.zero net stored asset d read]
    simp [fillTotal, sinceLastCheckpoint]

/-- A fill moves nothing but the pending changes, each by its own delta. -/
theorem conserves_fill {first state record next : Document} {events : List Event}
    (before : Conserves first events state) (awaits : AwaitsAccounting state record)
    (accounted : accountKnownFillForEarn state = .ok next) :
    Conserves first (events ++ [.fill record]) next := by
  obtain ⟨net', computed, rfl⟩ := accountKnownFillForEarn_ok accounted awaits before.present
  obtain ⟨checkpoint, net, checkpointAt, netAt, law⟩ := accountedNetChanges_ok computed
  have untouched : (state.set "earn_accounted_net_changes" (.dict net')).get?
      "earn_accrual_checkpoint" = state.get? "earn_accrual_checkpoint" :=
    Dict.get?_set_ne _ _ (by decide)
  have same : checkpointOf (state.set "earn_accounted_net_changes" (.dict net'))
      = checkpointOf state := by rw [checkpointOf, checkpointOf, pyGet, pyGet, untouched]
  refine ⟨by rw [same, before.assets], by rw [Dict.contains, untouched]; exact before.present,
    by rw [same]; exact before.products, ?_, ?_⟩
  · intro asset managed
    have settled : beforeLastCheckpoint (events ++ [.fill record]) = beforeLastCheckpoint events :=
      List.rdropWhile_concat_pos _ _ _ rfl
    rw [same, settled, flowTotal_append, before.quantity asset managed]
    simp [Event.principal, Event.dividend]
  · intro net'' stored asset managed d' read'
    rw [Dict.get?_set_self] at stored
    cases stored
    have inCheckpoint : asset ∈ assetsIn checkpoint := by
      rwa [← checkpointOf_eq checkpointAt, before.assets]
    obtain ⟨d, read, moved⟩ := law asset inCheckpoint d' read'
    have since : sinceLastCheckpoint (events ++ [.fill record])
        = sinceLastCheckpoint events ++ [.fill record] := List.rtakeWhile_concat_pos _ _ _ rfl
    rw [moved, since, fillTotal_append, before.pending net netAt asset managed d read]
    rfl

/-- An accepted checkpoint settles what was pending. -/
theorem conserves_forward {first state next : Document} {current : Value} {cashFlows : Document}
    {events : List Event} (before : Conserves first events state)
    (accepted : prepareForwardEarnState state current cashFlows = .ok next) :
    Conserves first (events ++ [.forward current cashFlows]) next := by
  obtain ⟨previous, net, previousAt, netAt, currentAt, ⟨zeros, zerosAt, zero⟩, sameAssets, law⟩ :=
    prepareForwardEarnState_ok accepted
  have atState := checkpointOf_eq previousAt
  have atNext := checkpointOf_eq currentAt
  have assets := before.assets
  have products := before.products
  have quantity := before.quantity
  rw [atState] at assets products quantity
  refine ⟨by rw [atNext, ← sameAssets, assets], by simp [Dict.contains, currentAt], ?_, ?_, ?_⟩
  · intro asset managed
    rw [atNext, ← products asset managed]
    exact (law asset (assets ▸ managed)).1.symm
  · intro asset managed
    obtain ⟨-, accounted, read, moved⟩ := law asset (assets ▸ managed)
    have settled : beforeLastCheckpoint (events ++ [.forward current cashFlows])
        = events ++ [.forward current cashFlows] :=
      List.rdropWhile_concat_neg _ _ _ (by simp [Event.isFill])
    have carried := before.pending net netAt asset managed accounted read
    have earlier := quantity asset managed
    rw [atNext, settled, fillTotal_append, flowTotal_append, ← fillTotal_split,
      rewardsBetween_trans (products asset managed), ← carried]
    simp only [Event.delta, Event.principal, Event.dividend]
    linarith
  · intro net'' stored asset _ d read
    rw [zerosAt] at stored
    cases stored
    have since : sinceLastCheckpoint (events ++ [.forward current cashFlows]) = [] :=
      List.rtakeWhile_concat_neg _ _ _ (by simp [Event.isFill])
    rw [since, value_of_zeros zero read]
    rfl

/-- Every run conserves. -/
theorem conserves_run {first last : Document} {events : List Event} (opening : Opening first)
    (run : Run first events last) : Conserves first events last := by
  induction run with
  | start => exact conserves_start opening
  | other _ keeps ih => exact conserves_other ih keeps
  | fill _ awaits accounted ih => exact conserves_fill ih awaits accounted
  | forward _ accepted ih => exact conserves_forward ih accepted

/-- The change of every managed quantity from the first to the last checkpoint: the
increases of its products' reward counters, every fill before the last checkpoint, the
deposits of USDT and the dividends of BNB, each exactly once. -/
theorem run_conserves {first last : Document} {events : List Event} (opening : Opening first)
    (run : Run first events last) {asset : String} (managed : asset ∈ assetsIn (checkpointOf first)) :
    quantityIn (checkpointOf last) asset - quantityIn (checkpointOf first) asset
      = ∑ product ∈ productsIn (checkpointOf first) asset,
          (counterIn (checkpointOf last) asset product - counterIn (checkpointOf first) asset product)
        + ((beforeLastCheckpoint events).map (Event.delta asset)).sum
        + (if asset = "USDT" then (events.map Event.principal).sum else 0)
        + if asset = "BNB" then (events.map Event.dividend).sum else 0 := by
  have law := (conserves_run opening run).quantity asset managed
  rw [law, rewardsBetween, fillTotal, flowTotal, ← add_assoc]

end Run

/-! ## A buy between two checkpoints -/

def assetRow (spot quantity : String) (products : List (String × Value)) : Value :=
  .dict ⟨[("spot_free", .str spot), ("spot_locked", .str "0"), ("products", .dict ⟨products⟩),
    ("quantity", .str quantity)]⟩

def product (total rewards : String) : Value :=
  .dict ⟨[("total", .str total), ("realtime_rewards", .str rewards), ("auto_subscribe", .bool true),
    ("can_redeem", .bool true)]⟩

def checkpointAt (time : String) (assets : List (String × Value)) : Value :=
  .dict ⟨[("account_scope_sha256", .str (String.ofList (List.replicate 64 'a'))),
    ("observed_at", .str time), ("execution_authority_granted", .bool false),
    ("assets", .dict ⟨assets⟩)]⟩

def openedAt : String := "2026-09-12T14:00:00+00:00"
def closedAt : String := "2026-09-13T14:00:00+00:00"

def openingState : Document :=
  ⟨[("earn_accrual_checkpoint", checkpointAt openedAt
      [("USDT", assetRow "100" "100" []), ("BNB", assetRow "1" "3" [("BNB001", product "2" "0.1")])]),
    ("earn_accounted_net_changes", .dict ⟨[("USDT", .str "0"), ("BNB", .str "0")]⟩),
    ("last_balance_snapshot", .dict ⟨[("USDT", .int 100), ("BNB", .int 3)]⟩),
    ("external_cash_flow_cursor", .dict ⟨[("observed_at", .str openedAt)]⟩),
    ("order_submission", .dict (statusRecord orderSubmissionReserved))]⟩

def buyRecord : Document :=
  ⟨[("state", .str orderSubmissionFilledAccountingPending), ("symbol", .str "BNBUSDT"),
    ("known_fill", .dict ⟨[("side", .str "BUY"), ("executed_qty", .str "0.02"),
      ("cummulative_quote_qty", .str "10"),
      ("commissions", .list [.dict ⟨[("price", .str "500"), ("qty", .str "0.02"),
        ("commission", .str "0.00001"), ("commission_asset", .str "BNB")]⟩])]⟩)]⟩

/-- The Flexible position earned 0.001 BNB meanwhile. -/
def closingCheckpoint : Value :=
  checkpointAt closedAt
    [("USDT", assetRow "90" "90" []),
      ("BNB", assetRow "1.01999" "3.02099" [("BNB001", product "2.001" "0.101")])]

def noFlows : Document :=
  ⟨[("cursor", .dict ⟨[("observed_at", .str closedAt)]⟩), ("new_confirmed_deposit_count", .int 0),
    ("new_unsupported_deposit_count", .int 0), ("new_or_changed_withdrawal_count", .int 0),
    ("new_deposit_principal_usdt", .str "0"), ("new_deposit_completed_at", .list [])]⟩

local instance : CharacterTable := asciiTable

def bought : Document := openingState.set orderSubmissionStateKey (.dict buyRecord)

def boughtAccounted : Document := ((accountKnownFillForEarn bought).toOption).getD bought

def settled : Document :=
  boughtAccounted.set orderSubmissionStateKey (.dict (statusRecord orderSubmissionTerminal))

theorem exists_of_isOk {ε α : Type} {result : Except ε α} (ok : result.isOk = true) :
    ∃ value, result = .ok value := by
  cases result with
  | error raised => cases ok
  | ok value => exact ⟨value, rfl⟩

theorem opening_openingState : Opening openingState where
  valid := by
    obtain ⟨⟨⟩, valid⟩ := exists_of_isOk
      (show (validate (checkpointOf openingState)).isOk = true by decide +kernel)
    exact valid
  zero := by
    rintro net ⟨⟩ asset d read
    refine value_of_zeros (fun key value stored => ?_) read
    have entry := Dict.mem_of_find stored
    simp only [List.mem_cons, Prod.mk.injEq, List.not_mem_nil, or_false] at entry
    rcases entry with ⟨-, rfl⟩ | ⟨-, rfl⟩ <;> rfl

theorem run_buy : ∃ last,
    Run openingState [.fill buyRecord, .forward closingCheckpoint noFlows] last := by
  obtain ⟨next, accounted⟩ := exists_of_isOk
    (show (accountKnownFillForEarn bought).isOk = true by decide +kernel)
  obtain ⟨last, accepted⟩ := exists_of_isOk
    (show (prepareForwardEarnState settled closingCheckpoint noFlows).isOk = true by decide +kernel)
  have reached : boughtAccounted = next := by rw [boughtAccounted, accounted]; rfl
  have opened : Run openingState [] bought :=
    .other .start ⟨Dict.get?_set_ne _ _ (by decide), Dict.get?_set_ne _ _ (by decide)⟩
  have filled : Run openingState ([] ++ [.fill buyRecord]) next :=
    .fill opened ⟨Dict.get?_set_self _ _ _, by decide⟩ accounted
  have terminal : Run openingState ([] ++ [.fill buyRecord]) settled := by
    refine .other filled ?_
    rw [settled, reached]
    exact ⟨Dict.get?_set_ne _ _ (by decide), Dict.get?_set_ne _ _ (by decide)⟩
  exact ⟨last, .forward terminal accepted⟩

theorem run_conserves_buy : ∃ last,
    Run openingState [.fill buyRecord, .forward closingCheckpoint noFlows] last
      ∧ quantityIn (checkpointOf last) "BNB" - quantityIn (checkpointOf openingState) "BNB"
        = ∑ name ∈ productsIn (checkpointOf openingState) "BNB",
            (counterIn (checkpointOf last) "BNB" name
              - counterIn (checkpointOf openingState) "BNB" name)
          + ((beforeLastCheckpoint [.fill buyRecord, .forward closingCheckpoint noFlows]).map
              (Event.delta "BNB")).sum
          + (if "BNB" = "USDT" then
              ([.fill buyRecord, .forward closingCheckpoint noFlows].map Event.principal).sum else 0)
          + if "BNB" = "BNB" then
              ([.fill buyRecord, .forward closingCheckpoint noFlows].map Event.dividend).sum else 0 := by
  obtain ⟨last, run⟩ := run_buy
  exact ⟨last, run, run_conserves opening_openingState run (by decide +kernel)⟩

end BinancePlatform.Guarantees.EarnConservation
