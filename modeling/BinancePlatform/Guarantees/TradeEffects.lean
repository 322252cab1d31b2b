import BinancePlatform.Source.TradingCycle

/-!
# What the execution functions ask for

A relation between the state before and after that every read, notification and
suppressed or permitted write keeps is kept by a whole execution function as soon
as its orders keep it. Each function is given with the orders it can place: the
symbol, the bounds that were tested and the quantity that was formatted.
-/

set_option autoImplicit false

namespace BinancePlatform.Guarantees.TradeEffects
open BinancePlatform.Library BinancePlatform.Library.Program BinancePlatform.Source

/-- Effects of every execution function, whatever it trades. -/
def Routine (runtime : ExecutionRuntime) : Effect → Prop
  | .clientRead _ _ | .notification _ => True
  | .stateWrite executed _ => executed = !runtime.suppressed
  | _ => False

/-- A relation that depends on the effects and is kept by routine ones. -/
structure Frame (runtime : ExecutionRuntime) (R : TradingState → TradingState → Prop) : Prop where
  same : ∀ s t, t.effects = s.effects → R s t
  trans : ∀ r s t, R r s → R s t → R r t
  routine : ∀ effect, Routine runtime effect → ∀ s, R s { s with effects := s.effects ++ [effect] }

section Frame
variable {runtime : ExecutionRuntime} {R : TradingState → TradingState → Prop} {α β : Type}

section Steps
variable (frame : Frame runtime R)
include frame

theorem Frame.pure {value : α} : Leads R (Pure.pure value : Trading α) := fun s => frame.same s s rfl

theorem Frame.leave {left : PyException} : Leads R (Program.leave left : Trading α) :=
  fun s => frame.same s s rfl

theorem Frame.bind {program : Trading α} {next : α → Trading β} (first : Leads R program)
    (rest : ∀ value, Leads R (next value)) : Leads R (program >>= next) :=
  Leads.bind frame.trans first rest

theorem Frame.bind_of {program : Trading α} {next : α → Trading β} (first : Leads R program)
    (rest : ∀ value, (∃ s t, program s = (.ok value, t)) → Leads R (next value)) :
    Leads R (program >>= next) :=
  Leads.bind_of frame.trans first rest

theorem Frame.getAccount : Leads R getAccount := fun s => frame.same s s rfl

theorem Frame.onAccount (f : Account → Account) : Leads R (onAccount f) := fun s =>
  frame.same s { s with account := f s.account } rfl

theorem Frame.returns (outcome : Except PyException α) : Leads R (returns outcome) := fun s =>
  frame.same s s rfl

theorem Frame.nextOrderId (runId label symbol : String) : Leads R (nextOrderId runId label symbol) :=
  fun s => frame.same s { s with orderSequence := s.orderSequence + 1 } rfl

theorem Frame.exceptFailed {body failed : Trading α} (first : Leads R body) (second : Leads R failed) :
    Leads R (exceptFailed body failed) := by
  intro s
  have reached := first s
  unfold Source.exceptFailed
  cases ran : body s with
  | mk outcome t =>
    rw [ran] at reached
    cases outcome with
    | ok value => exact reached
    | error raised =>
      dsimp only
      split
      · exact reached
      · exact frame.trans _ _ _ reached (second t)

theorem Frame.forEach {body : α → Trading Unit} {xs : List α} (each : ∀ x ∈ xs, Leads R (body x)) :
    Leads R (forEach body xs) := by
  induction xs with
  | nil => exact frame.pure
  | cons x xs ih =>
    apply frame.bind (each x List.mem_cons_self)
    intro _
    exact ih fun y member => each y (List.mem_cons_of_mem x member)

theorem Frame.recordEffect (effect : Effect) (routine : Routine runtime effect) :
    Leads R (recordEffect effect) :=
  frame.routine effect routine

theorem Frame.notification (text : String) : Leads R (notification runtime text) := by
  apply frame.bind (frame.recordEffect (.notification text) trivial)
  intro _
  exact frame.bind frame.getAccount fun account => frame.returns (runtime.notify text account)

theorem Frame.setTradeState (reason : String) : Leads R (setTradeState runtime reason) := by
  apply Leads.ite
  · intro suppressed
    apply frame.recordEffect (.stateWrite false reason)
    simp [Routine, suppressed]
  · intro permitted
    apply frame.bind (frame.recordEffect (.stateWrite true reason) ?_)
    · intro _
      exact frame.bind frame.getAccount fun account => frame.returns (runtime.persist reason account)
    · simpa [Routine] using permitted

theorem Frame.formatQty (symbol : String) (qty : PyFloat) : Leads R (formatQty runtime symbol qty) := by
  apply frame.bind (frame.recordEffect (.clientRead "get_symbol_info" symbol) trivial)
  intro _
  exact frame.bind frame.getAccount fun account => frame.returns (runtime.formatQty symbol qty account)

theorem Frame.ensureAssetAvailable (asset : String) (required : PyFloat) :
    Leads R (ensureAssetAvailable runtime asset required) := by
  apply frame.bind (frame.recordEffect (.clientRead "get_asset_balance" asset) trivial)
  intro _
  exact frame.bind frame.getAccount fun account =>
    frame.returns (checkAvailable required (runtime.spotFree asset account))

theorem Frame.setField (key : String) (value : Document → Except PyException PyFloat) :
    Leads R (setField key value) := by
  apply frame.bind frame.getAccount
  intro account
  exact frame.bind (frame.returns _) fun _ => frame.onAccount _

theorem Frame.applyFill (fill : Fill) (side symbol : String) : Leads R (applyFill fill side symbol) := by
  apply frame.bind frame.getAccount
  intro account
  apply frame.bind (frame.returns _)
  intro applied
  exact frame.bind (frame.onAccount _) fun _ => frame.pure

theorem Frame.recordLiveTrendFill (fill : Fill) (quoteDelta : PyFloat) :
    Leads R (recordLiveTrendFill fill quoteDelta) := by
  apply frame.bind (frame.setField _ _)
  intro _
  apply frame.bind (frame.setField _ _)
  intro _
  exact frame.bind (frame.setField _ _) fun _ => frame.setField _ _

theorem Frame.prepareAccounting [CharacterTable] (symbol baseAsset : String) :
    Leads R (prepareAccounting symbol baseAsset) := by
  apply frame.bind frame.getAccount
  intro account
  apply frame.bind (frame.returns _)
  intro snapshot
  apply frame.bind (frame.onAccount _)
  intro _
  apply frame.bind frame.getAccount
  intro refreshed
  exact frame.bind (frame.returns _) fun _ => frame.onAccount _

theorem Frame.accountTrendFill [CharacterTable] (trendUniverse : TrendUniverse) (fill : Fill)
    (side symbol baseAsset : String) (position : Value) :
    Leads R (accountTrendFill trendUniverse fill side symbol baseAsset position) := by
  apply frame.bind (frame.applyFill fill side symbol)
  intro quoteDelta
  apply frame.bind (frame.recordLiveTrendFill fill quoteDelta)
  intro _
  apply frame.bind (frame.prepareAccounting symbol baseAsset)
  intro _
  apply frame.bind frame.getAccount
  intro account
  exact frame.bind (frame.returns _) fun _ => frame.onAccount _

theorem Frame.recordAction (symbol action todayId : String) :
    Leads R (recordAction runtime symbol action todayId) := by
  apply frame.bind (frame.onAccount _)
  intro _
  apply frame.bind (frame.setTradeState _)
  intro _
  exact frame.notification _

theorem Frame.performStage (stageCall : StageCall α) : Leads R (performStage runtime stageCall) := by
  apply frame.bind frame.getAccount
  intro account
  apply frame.bind
  · apply frame.forEach
    intro asked _
    cases asked with
    | read method subject => exact frame.recordEffect (.clientRead method subject) trivial
    | setTradeState reason => exact frame.setTradeState reason
    | notify text => exact frame.notification text
    | edit account => exact frame.onAccount _
  · intro _
    exact frame.returns _

end Steps

/-! ## What was computed on the way -/

theorem returned_ok {outcome : Except PyException β} {value : β}
    (ran : ∃ s t, returns outcome s = (.ok value, t)) : outcome = .ok value := by
  obtain ⟨s, t, same⟩ := ran
  exact congrArg Prod.fst same

theorem formatted {symbol : String} {size qty : PyFloat}
    (ran : ∃ s t, formatQty runtime symbol size s = (.ok qty, t)) :
    ∃ account, runtime.formatQty symbol size account = .ok qty := by
  obtain ⟨s, t, same⟩ := ran
  exact ⟨s.account, congrArg Prod.fst same⟩

/-- The quantity was formatted from `0.985` of the amount over the price, and is positive. -/
structure Sized (runtime : ExecutionRuntime) (prices : Document) (symbol : String)
    (amount qty price : PyFloat) : Prop where
  quoted : priceOf prices symbol = .ok price
  formatted : ∃ size account, (amount.mul (.literal 985)).div price = .ok size ∧
    runtime.formatQty symbol size account = .ok qty
  positive : qty.le .zero = false

/-! ## The execution functions -/

section Legs
variable [CharacterTable] (prices : Document) (trendUniverse : TrendUniverse) (frame : Frame runtime R)
include frame

/-- An order keeps the relation, whatever answers it. -/
abbrev Places (runtime : ExecutionRuntime) (prices : Document) (R : TradingState → TradingState → Prop)
    (order : OrderRequest) : Prop :=
  ∀ side qty price, Leads R (placeOrder runtime prices order side qty price)

theorem Frame.breakerOrder (symbol baseAsset : String) (qty price : PyFloat)
    (allowed : Places runtime prices R ⟨"order_market_sell", symbol, .quantity qty, none⟩) :
    Leads R (breakerOrder runtime prices trendUniverse symbol baseAsset qty price) := by
  apply Leads.ite
  · intro _
    exact frame.notification _
  · intro _
    apply frame.bind (frame.ensureAssetAvailable _ _)
    intro available
    apply Leads.ite
    · intro _
      apply frame.bind (allowed _ _ _)
      intro fill
      exact frame.accountTrendFill trendUniverse _ _ _ _ _
    · intro _
      exact frame.leave

theorem Frame.runDailyCircuitBreaker (runtimeTrendUniverse : UniverseMapping) (pnl pct : PyFloat)
    (allowed : ∀ entry ∈ runtimeTrendUniverse.items, ∀ qty,
      Places runtime prices R ⟨"order_market_sell", entry.1, .quantity qty, none⟩) :
    Leads R (runDailyCircuitBreaker runtime prices trendUniverse runtimeTrendUniverse pnl pct) := by
  apply Leads.ite
  · intro _
    exact frame.pure
  · intro _
    apply frame.bind
    · apply frame.forEach
      intro entry member
      apply frame.bind frame.getAccount
      intro account
      apply frame.bind (frame.returns _)
      intro tradableQty
      apply frame.bind (frame.returns _)
      intro price
      apply Leads.ite
      · intro _
        exact frame.pure
      · intro _
        apply frame.bind (frame.formatQty _ _)
        intro qty
        apply frame.exceptFailed
        · exact frame.breakerOrder prices trendUniverse _ _ _ _ (allowed entry member qty)
        · exact frame.notification _
    · intro _
      apply frame.bind (frame.onAccount _)
      intro _
      apply frame.bind (frame.setTradeState _)
      intro _
      exact frame.bind (frame.notification _) fun _ => frame.pure

theorem Frame.trendSellOrder (symbol baseAsset todayId : String) (qty price : PyFloat)
    (allowed : ∀ id, Places runtime prices R ⟨"order_market_sell", symbol, .quantity qty, some id⟩) :
    Leads R (trendSellOrder runtime prices trendUniverse symbol baseAsset todayId qty price) := by
  apply Leads.ite
  · intro _
    exact frame.notification _
  · intro _
    apply frame.bind (frame.ensureAssetAvailable _ _)
    intro available
    apply Leads.ite
    · intro _
      apply frame.bind (frame.nextOrderId _ _ _)
      intro id
      apply frame.bind (allowed id _ _ _)
      intro fill
      apply frame.bind (frame.accountTrendFill trendUniverse _ _ _ _ _)
      intro _
      exact frame.recordAction _ _ _
    · intro _
      exact frame.leave

/-- A sell needs a reason. -/
theorem Frame.executeTrendSells (runtimeTrendUniverse : UniverseMapping)
    (sellReasons : Dict String String) (todayId : String)
    (allowed : ∀ symbol reason, sellReasons.get? symbol = some reason → ∀ qty id,
      Places runtime prices R ⟨"order_market_sell", symbol, .quantity qty, some id⟩) :
    Leads R (executeTrendSells runtime prices trendUniverse runtimeTrendUniverse sellReasons todayId) := by
  apply frame.forEach
  intro entry _
  apply frame.bind frame.getAccount
  intro account
  apply frame.bind (frame.returns _)
  intro price
  apply Leads.ite
  · intro _
    exact frame.pure
  · intro reasoned
    apply Leads.ite
    · intro _
      exact frame.pure
    · intro _
      apply frame.bind (frame.returns _)
      intro held
      apply frame.bind (frame.formatQty _ _)
      intro qty
      cases found : sellReasons.get? entry.1 with
      | none =>
        rw [found] at reasoned
        exact absurd (by decide +kernel) reasoned
      | some reason =>
        apply frame.exceptFailed
        · exact frame.trendSellOrder prices trendUniverse _ _ _ _ _ (allowed _ reason found qty)
        · exact frame.notification _

theorem Frame.trendBuyOrder (symbol todayId : String) (qty price : PyFloat)
    (allowed : qty.le .zero = false → ∀ id,
      Places runtime prices R ⟨"order_market_buy", symbol, .quantity qty, some id⟩) :
    Leads R (trendBuyOrder runtime prices trendUniverse symbol todayId qty price) := by
  apply Leads.ite
  · intro _
    exact frame.notification _
  · intro positive
    rw [Bool.or_eq_true, not_or, Bool.not_eq_true, Bool.not_eq_true] at positive
    apply frame.bind (frame.ensureAssetAvailable _ _)
    intro available
    apply Leads.ite
    · intro _
      apply frame.bind (frame.nextOrderId _ _ _)
      intro id
      apply frame.bind (allowed positive.1 id _ _ _)
      intro fill
      apply frame.bind (frame.accountTrendFill trendUniverse _ _ _ _ _)
      intro _
      exact frame.recordAction _ _ _
    · intro _
      exact frame.leave

/-- A buy is for an eligible symbol with a planned amount of more than fifteen. -/
theorem Frame.executeTrendBuys {Candidate : Type} (selectedCandidates : Dict String Candidate)
    (eligibleBuySymbols : List String) (plannedTrendBuys : Dict String PyFloat) (todayId : String)
    (allowed : ∀ symbol ∈ eligibleBuySymbols, ∀ amount qty price,
      plannedTrendBuys.get? symbol = some amount → amount.le (.literal 15000) = false →
      Sized runtime prices symbol amount qty price → ∀ id,
      Places runtime prices R ⟨"order_market_buy", symbol, .quantity qty, some id⟩) :
    Leads R (executeTrendBuys runtime prices trendUniverse selectedCandidates eligibleBuySymbols
      plannedTrendBuys todayId) := by
  apply frame.forEach
  intro symbol eligible
  apply frame.bind frame.getAccount
  intro account
  apply frame.bind_of (frame.returns _)
  intro price priced
  apply frame.bind (frame.returns _)
  intro _
  apply Leads.ite
  · intro _
    exact frame.pure
  · intro large
    apply Leads.ite
    · intro _
      exact frame.pure
    · intro _
      apply frame.bind_of (frame.returns _)
      intro size sizing
      apply frame.bind_of (frame.formatQty _ _)
      intro qty formatting
      rw [Bool.not_eq_true] at large
      cases planned : plannedTrendBuys.get? symbol with
      | none =>
        rw [planned] at large
        exact absurd large (by decide +kernel)
      | some amount =>
        have sized := returned_ok sizing
        rw [planned, Option.getD_some] at large sized
        obtain ⟨before, rounded⟩ := formatted formatting
        apply frame.exceptFailed
        · apply frame.trendBuyOrder
          intro positive
          exact allowed symbol eligible amount qty price planned large
            ⟨returned_ok priced, ⟨size, before, sized, rounded⟩, positive⟩
        · exact frame.notification _

theorem Frame.btcBuyOrder (todayId : String) (qty price : PyFloat)
    (allowed : qty.le .zero = false → ∀ id,
      Places runtime prices R ⟨"order_market_buy", "BTCUSDT", .quantity qty, some id⟩) :
    Leads R (btcBuyOrder runtime prices todayId qty price) := by
  apply Leads.ite
  · intro _
    exact frame.notification _
  · intro positive
    rw [Bool.or_eq_true, not_or, Bool.not_eq_true, Bool.not_eq_true] at positive
    apply frame.bind (frame.ensureAssetAvailable _ _)
    intro available
    apply Leads.ite
    · intro _
      apply frame.bind (frame.nextOrderId _ _ _)
      intro id
      apply frame.bind (allowed positive.1 id _ _ _)
      intro fill
      apply frame.bind (frame.applyFill _ _ _)
      intro _
      apply frame.bind (frame.prepareAccounting _ _)
      intro _
      apply frame.bind (frame.onAccount _)
      intro _
      exact frame.bind (frame.notification _) fun _ => frame.setTradeState _
    · intro _
      exact frame.leave

/-- The one order of the Bitcoin leg buys from the budget. -/
theorem Frame.executeBtcDcaCycle (dcaUsdtPool dcaVal btcBaseOrderUsdt : PyFloat) (btc : BtcSnapshot)
    (todayId : String)
    (allowed : ∀ qty price,
      Sized runtime prices "BTCUSDT" (btcBuyBudget dcaUsdtPool btcBaseOrderUsdt btc.ahr999) qty price →
      ∀ id, Places runtime prices R ⟨"order_market_buy", "BTCUSDT", .quantity qty, some id⟩) :
    Leads R (executeBtcDcaCycle runtime prices dcaUsdtPool dcaVal btcBaseOrderUsdt btc todayId) := by
  apply Leads.ite
  · intro _
    exact frame.pure
  · intro _
    apply frame.bind_of (frame.returns _)
    intro price priced
    apply frame.bind
    · apply frame.bind frame.getAccount
      intro account
      apply Leads.ite
      · intro _
        apply frame.bind_of (frame.returns _)
        intro size sizing
        apply frame.bind_of (frame.formatQty _ _)
        intro qty formatting
        obtain ⟨before, rounded⟩ := formatted formatting
        apply frame.exceptFailed
        · apply frame.btcBuyOrder
          intro positive
          exact allowed qty price
            ⟨returned_ok priced, ⟨size, before, returned_ok sizing, rounded⟩, positive⟩
        · exact frame.notification _
      · intro _
        exact frame.pure
    · intro _
      apply frame.bind frame.getAccount
      intro account
      apply Leads.ite
      · intro _
        exact frame.leave
      · intro _
        exact frame.pure

theorem Frame.topUpBnbFuel (fuelVal minBnbValue buyBnbAmount : PyFloat)
    (allowed : Leads R (runtimeCallClient runtime
      ⟨"order_market_buy", bnbFuelSymbol, .quoteOrderQty buyBnbAmount, none⟩)) :
    Leads R (topUpBnbFuel runtime fuelVal minBnbValue buyBnbAmount) := by
  apply frame.bind frame.getAccount
  intro account
  apply Leads.ite
  · intro _
    exact frame.pure
  · intro _
    apply frame.exceptFailed
    · apply frame.bind (frame.ensureAssetAvailable _ _)
      intro available
      apply Leads.ite
      · intro _
        exact frame.bind allowed fun _ => frame.pure
      · intro _
        exact frame.leave
    · exact frame.bind (frame.notification _) fun _ => frame.pure

end Legs

end Frame

/-! ## Effects one by one -/

/-- The effects grow by effects that satisfy `holds`. -/
def Extends (holds : Effect → Prop) (s t : TradingState) : Prop :=
  ∃ added, t.effects = s.effects ++ added ∧ ∀ effect ∈ added, holds effect

section Extends
variable {holds : Effect → Prop} {runtime : ExecutionRuntime}

theorem extends_frame (routine : ∀ effect, Routine runtime effect → holds effect) :
    Frame runtime (Extends holds) where
  same s t same := ⟨[], by rw [same, List.append_nil], by simp⟩
  trans r s t := by
    rintro ⟨xs, left, each⟩ ⟨ys, right, rest⟩
    refine ⟨xs ++ ys, by rw [right, left, List.append_assoc], ?_⟩
    intro effect member
    rcases List.mem_append.mp member with early | late
    · exact each effect early
    · exact rest effect late
  routine effect shown s := ⟨[effect], rfl, by simpa using routine effect shown⟩

theorem extends_call (order : OrderRequest) (allowed : holds (.clientCall (!runtime.suppressed) order)) :
    Leads (Extends holds) (runtimeCallClient runtime order) := by
  intro s
  unfold runtimeCallClient
  split
  · rename_i suppressed
    exact ⟨[.clientCall false order], rfl, by simpa [suppressed] using allowed⟩
  · rename_i permitted
    exact ⟨[.clientCall true order], rfl, by simpa [permitted] using allowed⟩

theorem extends_places [CharacterTable] {prices : Document} {order : OrderRequest}
    (routine : ∀ effect, Routine runtime effect → holds effect)
    (filled : ∀ fill, holds (.filled order fill))
    (allowed : holds (.clientCall (!runtime.suppressed) order)) :
    Places runtime prices (Extends holds) order := by
  intro side qty price
  have frame := extends_frame routine
  apply frame.bind (extends_call order allowed)
  intro response
  apply frame.bind (frame.returns _)
  intro fill
  apply frame.bind
  · exact fun s => ⟨[.filled order fill], rfl, by simpa using filled fill⟩
  · intro _
    exact frame.pure

end Extends

end BinancePlatform.Guarantees.TradeEffects
