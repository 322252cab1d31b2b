import BinancePlatform.Guarantees.TradeEffects

/-!
# The exits of the circuit breaker

When the circuit breaker latches, each position worth more than ten USDT is to be
sold, or its exit tried again while the latch is set. A later cycle of the day ends
at the latch and orders nothing, so whatever the first attempt leaves is left for
the day. `exits_taken_iff` says when the first attempt sells a position: a positive
formatted quantity, a free Spot balance that covers it, and a fill that is booked.
-/

set_option autoImplicit false

namespace BinancePlatform.Guarantees.CircuitExits
open BinancePlatform.Library BinancePlatform.Library.Program BinancePlatform.Source
open BinancePlatform.Guarantees.TradeEffects

/-- `state.get("is_circuit_broken")`. -/
def latched (state : Document) : Bool := (pyGet state "is_circuit_broken").truthy

/-! ## A later cycle -/

/-- A cycle while the latch is set: it starts with the latch, and no stage before the
check of it, on the same day, edits it away. -/
structure LatchedCycle where
  runtime : ExecutionRuntime
  inputs : CycleInputs
  start : TradingState
  startLatched : latched start.account.state = true
  opens : ∀ account edited, latched account.state = true →
    Request.edit edited ∈ (inputs.openingStages account).1 → latched edited.state = true
  sameDay : ∀ account edited, latched account.state = true →
    Request.edit edited ∈ (inputs.dailyState account).1 → latched edited.state = true

def IsCall : Effect → Prop
  | .clientCall _ _ => True
  | _ => False

/-- The latch is set and no order was placed since `before`. -/
def Holds (before : List Effect) (s : TradingState) : Prop :=
  latched s.account.state = true ∧ ∃ added, s.effects = before ++ added ∧ ∀ effect ∈ added, ¬IsCall effect

section Latch
variable {before : List Effect} {α β : Type}

theorem holds_effect {effect : Effect} (other : ¬IsCall effect) :
    Meets (Holds before) (recordEffect effect) (Holds before) (Holds before) := by
  refine Meets.update fun s ⟨set, added, same, others⟩ => ⟨set, added ++ [effect], ?_, ?_⟩
  · change s.effects ++ [effect] = before ++ (added ++ [effect])
    rw [same, List.append_assoc]
  · intro e member
    rcases List.mem_append.mp member with early | last
    · exact others e early
    · rw [List.mem_singleton.mp last]
      exact other

theorem holds_returns (outcome : Except PyException α) :
    Meets (Holds before) (returns outcome) (Holds before) (Holds before) := by
  intro s start
  cases outcome with
  | ok value => exact start
  | error raised => exact start

/-- What is read is an account with the latch. -/
theorem holds_getAccount {next : Account → Trading β}
    (rest : ∀ account, latched account.state = true →
      Meets (Holds before) (next account) (Holds before) (Holds before)) :
    Meets (Holds before) (getAccount >>= next) (Holds before) (Holds before) :=
  fun s start => rest s.account start.1 s start

theorem holds_notification (runtime : ExecutionRuntime) (text : String) :
    Meets (Holds before) (notification runtime text) (Holds before) (Holds before) :=
  (holds_effect (by exact id)).bind fun _ => holds_getAccount fun _ _ => holds_returns _

theorem holds_setTradeState (runtime : ExecutionRuntime) (reason : String) :
    Meets (Holds before) (setTradeState runtime reason) (Holds before) (Holds before) := by
  unfold setTradeState
  apply Meets.ite
  · exact holds_effect (by exact id)
  · exact (holds_effect (by exact id)).bind fun _ => holds_getAccount fun _ _ => holds_returns _

theorem holds_forEach {body : α → Trading Unit} {xs : List α}
    (each : ∀ x ∈ xs, Meets (Holds before) (body x) (Holds before) (Holds before)) :
    Meets (Holds before) (forEach body xs) (Holds before) (Holds before) := by
  induction xs with
  | nil => exact Meets.pure
  | cons x xs ih =>
    exact (each x List.mem_cons_self).bind fun _ => ih fun y member => each y (List.mem_cons_of_mem x member)

theorem holds_performStage (runtime : ExecutionRuntime) (stageCall : StageCall α)
    (keeps : ∀ account edited, latched account.state = true →
      Request.edit edited ∈ (stageCall account).1 → latched edited.state = true) :
    Meets (Holds before) (performStage runtime stageCall) (Holds before) (Holds before) := by
  refine holds_getAccount fun account set => Meets.bind (holds_forEach fun asked member => ?_)
    fun _ => holds_returns _
  cases asked with
  | read method subject => exact holds_effect (by exact id)
  | setTradeState reason => exact holds_setTradeState runtime reason
  | notify text => exact holds_notification runtime text
  | edit edited => exact Meets.update fun s ⟨_, rest⟩ => ⟨keeps account edited set member, rest⟩

theorem holds_computeAllocation (inputs : CycleInputs) (evaluation : Evaluation) :
    Meets (Holds before) (computeAllocation inputs evaluation) (Holds before) (Holds before) := by
  refine Meets.bind ?_ fun _ => holds_returns _
  refine holds_getAccount fun account _ => (holds_returns _).bind fun raw => ?_
  exact (holds_effect (by exact id)).bind fun _ => Meets.pure

/-- The cycle ends at the latch. -/
theorem latched_cycle_orders_nothing [CharacterTable] (trendUniverse : TrendUniverse)
    (cycle : LatchedCycle) :
    ∃ added, (tradingCycle cycle.runtime trendUniverse cycle.inputs cycle.start).2.effects
        = cycle.start.effects ++ added ∧ ∀ effect ∈ added, ¬IsCall effect := by
  have meets : Meets (Holds cycle.start.effects) (tradingCycle cycle.runtime trendUniverse cycle.inputs)
      (Holds cycle.start.effects) (Holds cycle.start.effects) := by
    refine Meets.bind ?_ fun _ => Meets.ite ?_ Meets.pure
    · refine Meets.ite Meets.pure ?_
      exact (holds_effect (by exact id)).bind fun _ => holds_getAccount fun _ _ => holds_returns _
    · refine (holds_performStage _ _ cycle.opens).bind fun _ => Meets.ite ?_ Meets.pure
      refine (holds_computeAllocation _ _).bind fun _ => Meets.ite ?_ Meets.pure
      refine (holds_performStage _ _ cycle.sameDay).bind fun _ => holds_getAccount fun account set => ?_
      refine (holds_returns _).bind fun _ => ?_
      rw [if_pos (show (pyGet account.state "is_circuit_broken").truthy = true from set)]
      exact Meets.pure
  exact (meets.ended ⟨cycle.startLatched, [], by simp, by simp⟩ fun _ => id).2

end Latch

/-! ## One position at its turn -/

/-- The accounting of a fill records no effect. -/
def Unseen (s t : TradingState) : Prop := t.effects = s.effects

section Turn
variable {α β : Type}

theorem unseen_bind {program : Trading α} {next : α → Trading β} (first : Leads Unseen program)
    (rest : ∀ value, Leads Unseen (next value)) : Leads Unseen (program >>= next) :=
  Leads.bind (fun _ _ _ one two => two.trans one) first rest

theorem unseen_read : Leads Unseen getAccount := fun _ => rfl

theorem unseen_returns (outcome : Except PyException α) : Leads Unseen (returns outcome) := fun _ => rfl

theorem unseen_edit (f : Account → Account) : Leads Unseen (onAccount f) := fun _ => rfl

theorem unseen_setField (key : String) (value : Document → Except PyException PyFloat) :
    Leads Unseen (setField key value) :=
  unseen_bind unseen_read fun _ => unseen_bind (unseen_returns _) fun _ => unseen_edit _

variable [CharacterTable]

theorem unseen_accountTrendFill (trendUniverse : TrendUniverse) (fill : Fill) (side symbol baseAsset : String)
    (position : Value) :
    Leads Unseen (accountTrendFill trendUniverse fill side symbol baseAsset position) := by
  unfold accountTrendFill applyFill recordLiveTrendFill prepareAccounting
  refine unseen_bind ?_ fun _ => unseen_bind ?_ fun _ => unseen_bind ?_ fun _ => ?_
  · exact unseen_bind unseen_read fun _ => unseen_bind (unseen_returns _) fun _ =>
      unseen_bind (unseen_edit _) fun _ => fun _ => rfl
  · exact unseen_bind (unseen_setField _ _) fun _ => unseen_bind (unseen_setField _ _) fun _ =>
      unseen_bind (unseen_setField _ _) fun _ => unseen_setField _ _
  · refine unseen_bind unseen_read fun _ => unseen_bind (unseen_returns _) fun _ =>
      unseen_bind (unseen_edit _) fun _ => ?_
    exact unseen_bind unseen_read fun _ => unseen_bind (unseen_returns _) fun _ => unseen_edit _
  · exact unseen_bind unseen_read fun _ => unseen_bind (unseen_returns _) fun _ => unseen_edit _

end Turn

/-! ## The sale of a position -/

def sellOrder (symbol : String) (qty : PyFloat) : OrderRequest :=
  ⟨"order_market_sell", symbol, .quantity qty, none⟩

section Sale
variable [CharacterTable] (runtime : ExecutionRuntime) (prices : Document) (trendUniverse : TrendUniverse)

/-- From `s` to `t` the position was sold: its order was filled, the fill was booked
without an exception, and nothing came after. -/
def SoldWithFill (entry : String × String) (s t : TradingState) : Prop :=
  ∃ qty fill filled added,
    filled.effects = s.effects ++ added ++ [.filled (sellOrder entry.1 qty) fill]
      ∧ accountTrendFill trendUniverse fill "SELL" entry.1 entry.2 closedPosition filled = (.ok (), t)

/-- The order can be placed and its answer is a fill. -/
def Fillable (entry : String × String) (qty price : PyFloat) (account : Account) (fill : Fill) : Prop :=
  qty.le .zero = false ∧ checkAvailable qty (runtime.spotFree entry.2 account) = .ok true
    ∧ ∃ response, (runtime.submit (sellOrder entry.1 qty) account).1 = .ok response
      ∧ resolveFill runtime prices response entry.1 "SELL" qty price = .ok fill

/-- The state in which a fill is booked, after the two reads and the order. -/
def filledState (entry : String × String) (qty : PyFloat) (fill : Fill) (s : TradingState) : TradingState where
  account := (runtime.submit (sellOrder entry.1 qty) s.account).2
  orderSequence := s.orderSequence
  effects := s.effects ++ [.clientRead "get_symbol_info" entry.1, .clientRead "get_asset_balance" entry.2,
    .clientCall true (sellOrder entry.1 qty)] ++ [.filled (sellOrder entry.1 qty) fill]

/-- At its turn the position is worth more than ten USDT, its quantity formats to a
positive one that the free Spot balance covers, and the order's fill can be booked. -/
def Sellable (entry : String × String) (s : TradingState) : Prop :=
  ∃ held price qty fill, balanceOf s.account.balances entry.1 = .ok held
    ∧ priceOf prices entry.1 = .ok price ∧ (held.mul price).le (.literal 10000) = false
    ∧ runtime.formatQty entry.1 held s.account = .ok qty
    ∧ Fillable runtime prices entry qty price s.account fill
    ∧ (accountTrendFill trendUniverse fill "SELL" entry.1 entry.2 closedPosition
        (filledState runtime entry qty fill s)).1 = .ok ()

def IsFill : Effect → Prop
  | .filled _ _ => True
  | _ => False

variable {runtime prices trendUniverse} {entry : String × String} {s t : TradingState}

/-- A sale records a fill, as its last effect. -/
theorem SoldWithFill.effects (sold : SoldWithFill trendUniverse entry s t) :
    ∃ added order fill, t.effects = s.effects ++ (added ++ [.filled order fill]) := by
  obtain ⟨qty, fill, filled, added, same, booked⟩ := sold
  have unseen := unseen_accountTrendFill trendUniverse fill "SELL" entry.1 entry.2 closedPosition filled
  rw [booked] at unseen
  exact ⟨added, _, fill, by rw [show t.effects = filled.effects from unseen, same, List.append_assoc]⟩

theorem not_sold_of_no_fill {added : List Effect} (same : t.effects = s.effects ++ added)
    (others : ∀ effect ∈ added, ¬IsFill effect) : ¬SoldWithFill trendUniverse entry s t := by
  intro sold
  obtain ⟨front, order, fill, filled⟩ := sold.effects
  rw [same, List.append_cancel_left_eq] at filled
  exact others (.filled order fill) (filled ▸ List.mem_append_right _ (List.mem_singleton.mpr rfl)) trivial

theorem not_sold_of_notified {added : List Effect} {text : String}
    (same : t.effects = s.effects ++ (added ++ [.notification text])) :
    ¬SoldWithFill trendUniverse entry s t := by
  intro sold
  obtain ⟨front, order, fill, filled⟩ := sold.effects
  rw [same, List.append_cancel_left_eq] at filled
  cases (List.append_inj' filled rfl).2

omit [CharacterTable] in
/-- A handler that was entered and returned has notified. -/
theorem handled_effects {body : Trading Unit} {text : String} {raised : PyException} {u : TradingState}
    (ran : body s = (.error raised, u))
    (returned : (exceptFailed body (notification runtime text) s).1 = .ok ()) :
    (exceptFailed body (notification runtime text) s).2.effects = u.effects ++ [.notification text] := by
  unfold exceptFailed at returned ⊢
  rw [ran] at returned ⊢
  dsimp only at returned ⊢
  split at returned
  · cases returned
  next caught =>
    rw [if_neg caught]
    rfl

omit [CharacterTable] in
theorem ensureAssetAvailable_run (asset : String) (required : PyFloat) (s : TradingState) :
    ensureAssetAvailable runtime asset required s
      = (checkAvailable required (runtime.spotFree asset s.account),
        { s with effects := s.effects ++ [.clientRead "get_asset_balance" asset] }) := rfl

/-- The state after the two reads. -/
def checkedState (entry : String × String) (s : TradingState) : TradingState where
  account := s.account
  orderSequence := s.orderSequence
  effects := s.effects ++ [.clientRead "get_symbol_info" entry.1] ++ [.clientRead "get_asset_balance" entry.2]

/-- The state after the broker call. -/
def calledState (runtime : ExecutionRuntime) (order : OrderRequest) (s : TradingState) : TradingState where
  account := (runtime.submit order s.account).2
  orderSequence := s.orderSequence
  effects := s.effects ++ [.clientCall true order]

omit [CharacterTable] in
theorem runtimeCallClient_run (live : runtime.suppressed = false) (order : OrderRequest) (s : TradingState) :
    runtimeCallClient runtime order s
      = ((runtime.submit order s.account).1, calledState runtime order s) := by
  unfold runtimeCallClient
  rw [live]
  rfl

section Turn
variable (live : runtime.suppressed = false) {qty price : PyFloat} {fill : Fill}
include live

theorem placeOrder_ok (s : TradingState) {order : OrderRequest} {side : String} {response : Value}
    (answered : (runtime.submit order s.account).1 = .ok response)
    (resolved : resolveFill runtime prices response order.symbol side qty price = .ok fill) :
    placeOrder runtime prices order side qty price s = (.ok fill,
      { calledState runtime order s with
        effects := s.effects ++ [.clientCall true order] ++ [.filled order fill] }) := by
  unfold placeOrder
  rw [run_bind_ok ((runtimeCallClient_run live order s).trans (by rw [answered])), resolved]
  rfl

theorem placeOrder_error (s : TradingState) {order : OrderRequest} {side : String}
    (failed : ∀ response, (runtime.submit order s.account).1 = .ok response →
      ∀ fill, resolveFill runtime prices response order.symbol side qty price ≠ .ok fill) :
    ∃ raised, placeOrder runtime prices order side qty price s = (.error raised, calledState runtime order s) := by
  unfold placeOrder
  cases answered : (runtime.submit order s.account).1 with
  | error raised =>
    exact ⟨raised, run_bind_error ((runtimeCallClient_run live order s).trans (by rw [answered]))⟩
  | ok response =>
    rw [run_bind_ok ((runtimeCallClient_run live order s).trans (by rw [answered]))]
    cases resolved : resolveFill runtime prices response order.symbol side qty price with
    | error raised => exact ⟨raised, rfl⟩
    | ok fill => exact absurd resolved (failed response answered fill)

variable (trendUniverse) in
/-- The order is placed and filled. -/
theorem breakerOrder_filled (fillable : Fillable runtime prices entry qty price s.account fill) :
    breakerOrder runtime prices trendUniverse entry.1 entry.2 qty price
        { s with effects := s.effects ++ [.clientRead "get_symbol_info" entry.1] }
      = accountTrendFill trendUniverse fill "SELL" entry.1 entry.2 closedPosition
          (filledState runtime entry qty fill s) := by
  obtain ⟨positive, available, response, answered, resolved⟩ := fillable
  unfold breakerOrder
  rw [if_neg (by simp [positive]), run_bind_ok (ensureAssetAvailable_run _ _ _ |>.trans (by rw [available])),
    if_pos rfl]
  refine (run_bind_ok (placeOrder_ok live (checkedState entry s) answered resolved)).trans ?_
  simp [filledState, calledState, checkedState, sellOrder]

variable (trendUniverse) in
/-- Otherwise no fill is recorded. -/
theorem breakerOrder_unfilled (unfillable : ∀ fill, ¬Fillable runtime prices entry qty price s.account fill) :
    ∃ added, (breakerOrder runtime prices trendUniverse entry.1 entry.2 qty price
        { s with effects := s.effects ++ [.clientRead "get_symbol_info" entry.1] }).2.effects = s.effects ++ added
      ∧ ∀ effect ∈ added, ¬IsFill effect := by
  unfold breakerOrder
  split
  · exact ⟨[.clientRead "get_symbol_info" entry.1, .notification "circuit_breaker_sell_skipped"],
      List.append_assoc _ _ _, by simp [IsFill]⟩
  next positive =>
    cases available : checkAvailable qty (runtime.spotFree entry.2 s.account) with
    | error raised =>
      rw [run_bind_error (ensureAssetAvailable_run _ _ _ |>.trans (by rw [available]))]
      exact ⟨[.clientRead "get_symbol_info" entry.1, .clientRead "get_asset_balance" entry.2],
        List.append_assoc _ _ _, by simp [IsFill]⟩
    | ok covered =>
      rw [run_bind_ok (ensureAssetAvailable_run _ _ _ |>.trans (by rw [available]))]
      cases covered with
      | false =>
        exact ⟨[.clientRead "get_symbol_info" entry.1, .clientRead "get_asset_balance" entry.2],
          List.append_assoc _ _ _, by simp [IsFill]⟩
      | true =>
        have failed : ∀ response, (runtime.submit (sellOrder entry.1 qty) s.account).1 = .ok response →
            ∀ fill, resolveFill runtime prices response entry.1 "SELL" qty price ≠ .ok fill :=
          fun response answered fill resolved =>
            unfillable fill ⟨by simpa using positive, available, response, answered, resolved⟩
        obtain ⟨raised, ran⟩ := placeOrder_error live (checkedState entry s) failed
        refine ⟨[.clientRead "get_symbol_info" entry.1, .clientRead "get_asset_balance" entry.2,
          .clientCall true (sellOrder entry.1 qty)], ?_, by simp [IsFill]⟩
        rw [if_pos rfl]
        refine (congrArg (fun run : Except PyException Unit × TradingState => run.2.effects)
          (run_bind_error ran)).trans ?_
        simp [calledState, checkedState]

end Turn

variable (trendUniverse) in
/-- The step past the size of the position. -/
theorem breakerSell_run {held price qty : PyFloat} (kept : balanceOf s.account.balances entry.1 = .ok held)
    (quoted : priceOf prices entry.1 = .ok price) (large : (held.mul price).le (.literal 10000) = false)
    (formats : runtime.formatQty entry.1 held s.account = .ok qty) :
    breakerSell runtime prices trendUniverse entry s
      = exceptFailed (breakerOrder runtime prices trendUniverse entry.1 entry.2 qty price)
          (notification runtime "circuit_breaker_sell_failed")
          { s with effects := s.effects ++ [.clientRead "get_symbol_info" entry.1] } := by
  simp [breakerSell, formatQty, recordEffect, getAccount, returns, Program.update, bind, kept, quoted, large,
    formats]

omit [CharacterTable] in
theorem exceptFailed_ok {body failed : Trading Unit} {u : TradingState} (ran : body s = (.ok (), u)) :
    exceptFailed body failed s = (.ok (), u) := by
  unfold exceptFailed
  rw [ran]

section Handled
variable (live : runtime.suppressed = false) {qty price : PyFloat} {fill : Fill}
  (returned : (exceptFailed (breakerOrder runtime prices trendUniverse entry.1 entry.2 qty price)
    (notification runtime "circuit_breaker_sell_failed")
    { s with effects := s.effects ++ [.clientRead "get_symbol_info" entry.1] }).1 = .ok ())
include live returned

/-- Without a fill the step ends unsold, whatever the handler does. -/
theorem not_sold_unfillable (unfillable : ∀ fill, ¬Fillable runtime prices entry qty price s.account fill) :
    ¬SoldWithFill trendUniverse entry s
      (exceptFailed (breakerOrder runtime prices trendUniverse entry.1 entry.2 qty price)
        (notification runtime "circuit_breaker_sell_failed")
        { s with effects := s.effects ++ [.clientRead "get_symbol_info" entry.1] }).2 := by
  obtain ⟨added, same, others⟩ := breakerOrder_unfilled trendUniverse live unfillable
  cases ran : breakerOrder runtime prices trendUniverse entry.1 entry.2 qty price
      { s with effects := s.effects ++ [.clientRead "get_symbol_info" entry.1] } with
  | mk outcome u =>
    rw [ran] at same
    cases outcome with
    | ok _ =>
      rw [exceptFailed_ok ran]
      exact not_sold_of_no_fill same others
    | error raised =>
      have notified := handled_effects ran returned
      rw [show u.effects = _ from same, List.append_assoc] at notified
      exact not_sold_of_notified notified

/-- A fill whose booking raises leaves the handler's notification last. -/
theorem booked_of_sold (fillable : Fillable runtime prices entry qty price s.account fill)
    (sold : SoldWithFill trendUniverse entry s
      (exceptFailed (breakerOrder runtime prices trendUniverse entry.1 entry.2 qty price)
        (notification runtime "circuit_breaker_sell_failed")
        { s with effects := s.effects ++ [.clientRead "get_symbol_info" entry.1] }).2) :
    (accountTrendFill trendUniverse fill "SELL" entry.1 entry.2 closedPosition
      (filledState runtime entry qty fill s)).1 = .ok () := by
  have ran := breakerOrder_filled trendUniverse live fillable
  cases booked : accountTrendFill trendUniverse fill "SELL" entry.1 entry.2 closedPosition
      (filledState runtime entry qty fill s) with
  | mk outcome u =>
    cases outcome with
    | ok _ => rfl
    | error raised =>
      rw [booked] at ran
      have unseen := unseen_accountTrendFill trendUniverse fill "SELL" entry.1 entry.2 closedPosition
        (filledState runtime entry qty fill s)
      rw [booked] at unseen
      have notified := handled_effects ran returned
      rw [show u.effects = _ from unseen, filledState, List.append_assoc, List.append_assoc,
        ← List.append_assoc _ [_] [_]] at notified
      exact absurd sold (not_sold_of_notified notified)

end Handled

/-- A step that returns sells the position if and only if it is sellable. -/
theorem sold_iff (live : runtime.suppressed = false)
    (returned : (breakerSell runtime prices trendUniverse entry s).1 = .ok ()) :
    SoldWithFill trendUniverse entry s (breakerSell runtime prices trendUniverse entry s).2
      ↔ Sellable runtime prices trendUniverse entry s := by
  constructor
  · intro sold
    cases kept : balanceOf s.account.balances entry.1 with
    | error raised => simp [breakerSell, getAccount, returns, bind, kept] at returned
    | ok held =>
      cases quoted : priceOf prices entry.1 with
      | error raised => simp [breakerSell, getAccount, returns, bind, kept, quoted] at returned
      | ok price =>
        cases large : (held.mul price).le (.literal 10000) with
        | true =>
          have same : (breakerSell runtime prices trendUniverse entry s).2 = s := by
            simp [breakerSell, getAccount, returns, bind, kept, quoted, large, pure]
          rw [same] at sold
          exact absurd sold (not_sold_of_no_fill (List.append_nil _).symm (by simp))
        | false =>
          cases formats : runtime.formatQty entry.1 held s.account with
          | error raised =>
            simp [breakerSell, formatQty, recordEffect, Program.update, getAccount, returns, bind, kept,
              quoted, large, formats] at returned
          | ok qty =>
            rw [breakerSell_run trendUniverse kept quoted large formats] at sold returned
            by_cases reached : ∃ fill, Fillable runtime prices entry qty price s.account fill
            · obtain ⟨fill, fillable⟩ := reached
              exact ⟨held, price, qty, fill, kept, quoted, large, formats, fillable,
                booked_of_sold live returned fillable sold⟩
            · exact absurd sold (not_sold_unfillable live returned fun fill fillable =>
                reached ⟨fill, fillable⟩)
  · rintro ⟨held, price, qty, fill, kept, quoted, large, formats, fillable, booked⟩
    have ran := breakerOrder_filled trendUniverse live fillable
    rw [breakerSell_run trendUniverse kept quoted large formats]
    cases accounted : accountTrendFill trendUniverse fill "SELL" entry.1 entry.2 closedPosition
        (filledState runtime entry qty fill s) with
    | mk outcome u =>
      rw [accounted] at ran booked
      cases booked
      rw [exceptFailed_ok ran]
      exact ⟨qty, fill, filledState runtime entry qty fill s, _, rfl, accounted⟩

/-! ## The loop -/

omit [CharacterTable] in
/-- A loop that returned has returned from each of its steps. -/
theorem forEach_returned {α : Type} {body : α → Trading Unit} {before after : List α} {x : α}
    {s : TradingState} (returned : (forEach body (before ++ x :: after) s).1 = .ok ()) :
    (body x (forEach body before s).2).1 = .ok () := by
  induction before generalizing s with
  | nil =>
    cases ran : body x s with
    | mk outcome u =>
      cases outcome with
      | ok _ => exact congrArg Prod.fst ran
      | error raised =>
        rw [List.nil_append, forEach, run_bind_error ran] at returned
        cases returned
  | cons y before ih =>
    cases ran : body y s with
    | mk outcome u =>
      rw [List.cons_append, forEach] at returned
      cases outcome with
      | ok _ =>
        rw [run_bind_ok ran] at returned
        rw [forEach, run_bind_ok ran]
        exact ih returned
      | error raised =>
        rw [run_bind_error ran] at returned
        cases returned

omit [CharacterTable] in
theorem forEach_front {α : Type} {body : α → Trading Unit} {before after : List α} {s : TradingState}
    (returned : (forEach body (before ++ after) s).1 = .ok ()) : (forEach body before s).1 = .ok () := by
  induction before generalizing s with
  | nil => rfl
  | cons y before ih =>
    cases ran : body y s with
    | mk outcome u =>
      rw [List.cons_append, forEach] at returned
      cases outcome with
      | ok _ =>
        rw [run_bind_ok ran] at returned
        rw [forEach, run_bind_ok ran]
        exact ih returned
      | error raised =>
        rw [run_bind_error ran] at returned
        cases returned

variable (runtime prices trendUniverse)

/-- The state when the positions in `before` have had their turn. -/
def stateAfter (before : List (String × String)) (s : TradingState) : TradingState :=
  (forEach (breakerSell runtime prices trendUniverse) before s).2

/-- `balances[symbol] * prices[symbol] > 10`. -/
def WorthSelling (s : TradingState) (entry : String × String) : Prop :=
  ∃ held price, balanceOf s.account.balances entry.1 = .ok held ∧ priceOf prices entry.1 = .ok price
    ∧ (held.mul price).le (.literal 10000) = false

/-- A later cycle orders something of the symbol. -/
def Attempts (cycle : LatchedCycle) (symbol : String) : Prop :=
  ∃ added executed order,
    (tradingCycle cycle.runtime trendUniverse cycle.inputs cycle.start).2.effects
        = cycle.start.effects ++ added
      ∧ .clientCall executed order ∈ added ∧ order.symbol = symbol

/-- The position is sold at its turn, or its exit is tried in one of the later cycles. -/
def ExitTaken (later : List LatchedCycle) (s : TradingState) (before : List (String × String))
    (entry : String × String) : Prop :=
  SoldWithFill trendUniverse entry (stateAfter runtime prices trendUniverse before s)
      (stateAfter runtime prices trendUniverse (before ++ [entry]) s)
    ∨ ∃ cycle ∈ later, Attempts trendUniverse cycle entry.1

variable {runtime prices trendUniverse}

theorem not_attempts (cycle : LatchedCycle) (symbol : String) : ¬Attempts trendUniverse cycle symbol := by
  rintro ⟨added, executed, order, same, called, -⟩
  obtain ⟨others, same', uncalled⟩ := latched_cycle_orders_nothing trendUniverse cycle
  rw [same, List.append_cancel_left_eq] at same'
  exact uncalled (.clientCall executed order) (same' ▸ called) trivial

theorem stateAfter_snoc {before : List (String × String)} {s : TradingState}
    (returned : (forEach (breakerSell runtime prices trendUniverse) before s).1 = .ok ()) :
    stateAfter runtime prices trendUniverse (before ++ [entry]) s
      = (breakerSell runtime prices trendUniverse entry (stateAfter runtime prices trendUniverse before s)).2 := by
  unfold stateAfter
  induction before generalizing s with
  | nil =>
    cases ran : breakerSell runtime prices trendUniverse entry s with
    | mk outcome u => cases outcome <;> simp [forEach, bind, ran, pure]
  | cons y before ih =>
    cases ran : breakerSell runtime prices trendUniverse y s with
    | mk outcome u =>
      cases outcome with
      | ok _ =>
        rw [forEach, run_bind_ok ran] at returned
        rw [List.cons_append, forEach, run_bind_ok ran, forEach, run_bind_ok ran]
        exact ih returned
      | error raised =>
        rw [forEach, run_bind_error ran] at returned
        cases returned

/-- A circuit breaker that triggered has returned from its loop and latched. -/
theorem triggered_ok {configured : UniverseMapping} {pnl pct : PyFloat}
    (triggered : runDailyCircuitBreaker runtime prices trendUniverse configured pnl pct s = (.ok true, t)) :
    (forEach (breakerSell runtime prices trendUniverse) configured.items s).1 = .ok ()
      ∧ latched t.account.state = true := by
  unfold runDailyCircuitBreaker at triggered
  split at triggered
  · cases triggered
  · cases ran : forEach (breakerSell runtime prices trendUniverse) configured.items s with
    | mk outcome u =>
      cases outcome with
      | error raised =>
        rw [run_bind_error ran] at triggered
        cases triggered
      | ok _ =>
        rw [run_bind_ok ran] at triggered
        refine ⟨rfl, ?_⟩
        have keeps : Meets (Holds u.effects) (setTradeState runtime "daily_circuit_breaker" >>= fun _ =>
            notification runtime "circuit_msg" >>= fun _ => (pure true : Trading Bool))
            (Holds u.effects) (Holds u.effects) :=
          (holds_setTradeState _ _).bind fun _ => (holds_notification _ _).bind fun _ => Meets.pure
        have set : latched (breakCircuit configured u.account).state = true := by
          unfold latched breakCircuit
          rw [pyGet, Dict.get?_set_ne _ _ (by decide), Dict.get?_set_self]
          rfl
        have reached := keeps.ended (show Holds u.effects { u with account := breakCircuit configured u.account }
          from ⟨set, [], by simp, by simp⟩) fun _ => id
        rw [run_bind_ok (show onAccount (breakCircuit configured) u
          = (.ok (), { u with account := breakCircuit configured u.account }) from rfl)] at triggered
        rw [triggered] at reached
        exact reached.1

/-- Once the circuit breaker has latched, the exits of all positions worth selling are
taken, then or later, if and only if each was sellable at its turn. -/
theorem exits_taken_iff (live : runtime.suppressed = false) {configured : UniverseMapping} {pnl pct : PyFloat}
    (triggered : runDailyCircuitBreaker runtime prices trendUniverse configured pnl pct s = (.ok true, t))
    (later : List LatchedCycle) :
    (∀ before entry after, configured.items = before ++ entry :: after → WorthSelling prices s entry →
        ExitTaken runtime prices trendUniverse later s before entry)
      ↔ ∀ before entry after, configured.items = before ++ entry :: after → WorthSelling prices s entry →
        Sellable runtime prices trendUniverse entry (stateAfter runtime prices trendUniverse before s) := by
  have exit_iff : ∀ before entry after, configured.items = before ++ entry :: after →
      (ExitTaken runtime prices trendUniverse later s before entry
        ↔ Sellable runtime prices trendUniverse entry (stateAfter runtime prices trendUniverse before s)) := by
    intro before entry after split
    have looped := (triggered_ok triggered).1
    rw [split] at looped
    rw [ExitTaken, stateAfter_snoc (forEach_front looped)]
    refine (or_iff_left ?_).trans (sold_iff live (forEach_returned looped))
    rintro ⟨cycle, -, attempts⟩
    exact not_attempts cycle entry.1 attempts
  constructor
  · intro taken before entry after split worth
    exact (exit_iff before entry after split).mp (taken before entry after split worth)
  · intro sellable before entry after split worth
    exact (exit_iff before entry after split).mpr (sellable before entry after split worth)

end Sale

/-! ## One ether at a loss -/

local instance : CharacterTable := asciiTable

def etherSale : Value :=
  .dict ⟨[("status", .str "FILLED"), ("symbol", .str "ETHUSDT"), ("side", .str "SELL"),
    ("executedQty", .str "1"), ("cummulativeQuoteQty", .str "2000"),
    ("fills", .list [.dict ⟨[("price", .str "2000"), ("qty", .str "1"), ("commission", .str "2"),
      ("commissionAsset", .str "USDT")]⟩])]⟩

/-- A runtime whose free Spot balance of any asset is given. -/
def exitRuntime (spotFree : PyFloat) : ExecutionRuntime where
  dryRun := false
  standardExecutionPermitted := true
  safeRunId := "run"
  formatQty := fun _ qty _ => .ok qty
  spotFree := fun _ _ => .ok spotFree
  submit := fun _ account => (.ok etherSale, account)
  persist := fun _ _ => .ok ()
  notify := fun _ _ => .ok ()

theorem hundred_atLeastTwo : Nat.AtLeastTwo 100 := inferInstance
attribute [local instance] hundred_atLeastTwo

def etherPrices : Document := ⟨[("ETHUSDT", .float (.finite false 2000))]⟩

def etherMapping : UniverseMapping := ⟨[("ETHUSDT", "ETH")]⟩

theorem ether_suffixed : ∀ symbol ∈ ["ETHUSDT"], endsWithUSDT symbol = true := by decide

def etherTrend : TrendUniverse := ⟨["ETHUSDT"], List.nodup_singleton "ETHUSDT", ether_suffixed⟩

/-- One ether, in Spot or in Flexible Earn. -/
def etherHeld : TradingState := ⟨⟨.empty, ⟨[("ETHUSDT", .finite false 1)]⟩, .finite false 100⟩, 0, []⟩

def etherBreak (spotFree : PyFloat) : Except PyException Bool × TradingState :=
  runDailyCircuitBreaker (exitRuntime spotFree) etherPrices etherTrend etherMapping
    (PyFloat.literal 100).neg (PyFloat.literal 50).neg etherHeld

theorem ok_of_toOption {α : Type} {outcome : Except PyException α} {value : α}
    (found : outcome.toOption = some value) : outcome = .ok value := by
  cases outcome with
  | error raised => cases found
  | ok other => rw [Option.some.inj found]

theorem etherBreak_eq {spotFree : PyFloat} (ok : (etherBreak spotFree).1.toOption = some true) :
    etherBreak spotFree = (.ok true, (etherBreak spotFree).2) :=
  Prod.ext (ok_of_toOption ok) rfl

/-- The ether is in Flexible Earn: the latch is set, and the exit is never tried again. -/
theorem earn_position_kept : ∃ t, etherBreak .zero = (.ok true, t)
    ∧ WorthSelling etherPrices etherHeld ("ETHUSDT", "ETH")
    ∧ ∀ later, ¬ExitTaken (exitRuntime .zero) etherPrices etherTrend later etherHeld [] ("ETHUSDT", "ETH") := by
  have triggered := etherBreak_eq (show (etherBreak .zero).1.toOption = some true by decide +kernel)
  refine ⟨_, triggered, ⟨_, _, rfl, rfl, by decide +kernel⟩, ?_⟩
  rintro later (sold | ⟨cycle, -, attempts⟩)
  · have looped : (forEach (breakerSell (exitRuntime .zero) etherPrices etherTrend)
        ([] ++ [("ETHUSDT", "ETH")]) etherHeld).1 = .ok () := (triggered_ok triggered).1
    rw [stateAfter_snoc (forEach_front looped)] at sold
    obtain ⟨held, price, qty, fill, kept, -, -, formats, ⟨-, available, -⟩, -⟩ :=
      (sold_iff rfl (forEach_returned looped)).mp sold
    cases kept
    cases formats
    have refused : (checkAvailable (.finite false 1) (.ok .zero)).toOption = some false := by decide +kernel
    rw [show checkAvailable (.finite false 1) (.ok .zero) = .ok true from available] at refused
    cases refused
  · exact not_attempts cycle "ETHUSDT" attempts

def etherResolved : Except PyException Fill :=
  resolveFill (exitRuntime (.finite false 1)) etherPrices etherSale "ETHUSDT" "SELL" (.finite false 1)
    (.finite false 2000)

def etherFill : Fill := etherResolved.toOption.getD (estimatedFill "ETHUSDT" .zero .zero)

theorem etherResolved_eq : etherResolved = .ok etherFill := by
  have ok : etherResolved.toOption.isSome = true := by decide +kernel
  obtain ⟨fill, found⟩ := Option.isSome_iff_exists.mp ok
  rw [etherFill, found]
  exact ok_of_toOption found

theorem ether_sellable : Sellable (exitRuntime (.finite false 1)) etherPrices etherTrend ("ETHUSDT", "ETH")
    etherHeld :=
  ⟨.finite false 1, .finite false 2000, .finite false 1, etherFill, rfl, rfl, by decide +kernel, rfl,
    ⟨by decide +kernel, ok_of_toOption (by decide +kernel), etherSale, rfl, etherResolved_eq⟩,
    ok_of_toOption (by decide +kernel)⟩

/-- The ether is in Spot: it is sold. -/
theorem exits_taken_ether : ∃ t, etherBreak (.finite false 1) = (.ok true, t)
    ∧ ∀ before entry after, etherMapping.items = before ++ entry :: after →
      WorthSelling etherPrices etherHeld entry →
      ExitTaken (exitRuntime (.finite false 1)) etherPrices etherTrend [] etherHeld before entry := by
  have triggered := etherBreak_eq (show (etherBreak (.finite false 1)).1.toOption = some true by decide +kernel)
  refine ⟨_, triggered, (exits_taken_iff rfl triggered []).mpr fun before entry after split _ => ?_⟩
  cases before with
  | nil =>
    obtain ⟨rfl, -⟩ := List.cons.inj split
    exact ether_sellable
  | cons first front =>
    obtain ⟨-, rest⟩ := List.cons.inj split
    exact absurd (show [] = front ++ entry :: after from rest) (by simp)

end BinancePlatform.Guarantees.CircuitExits
