import BinancePlatform.Source.ExactBacktest
import Mathlib.Algebra.BigOperators.Group.List.Basic
import Mathlib.Algebra.Order.Field.Rat
import Mathlib.Tactic.FieldSimp
import Mathlib.Tactic.Linarith
import Mathlib.Tactic.Positivity

/-!
# The ledger of the backtest accounts for the cash and the positions

In exact arithmetic every state that the loop passes has the cash and the positions its
trade ledger adds up to, none of them negative, and every equity point it appends is the
cash and the positions at the marks then in use.

* A trade moves the cash and the position by its ledger entry (`Conserved.trade`,
  `advances_liquidate`, `advances_purchase`); any other step moves neither
  (`Conserved.frame`).
* Each stage of a bar keeps that in every state it passes (`walks_trendTrades`,
  `walks_dcaTrades`, `walks_simulateBar`), and so does the loop
  (`simulateWindow_conserves`).

The strategy package is a parameter; `OrdersAmounts` says that its base order is no negative
amount.
-/

set_option autoImplicit false

namespace BinancePlatform.Guarantees.BacktestConservation
open BinancePlatform.Library BinancePlatform.Source.Exact
open BinancePlatform.Source (BarTime Strategy PyException allSymbols trendSymbols)

variable {K : Type} [Field K] [LinearOrder K]

/-! ## The accounts -/

/-- What a trade adds to the position of its symbol. -/
def signedQuantity (trade : Trade K) : K := if trade.side = "buy" then trade.quantity else -trade.quantity

def ledgerPosition (symbol : String) (ledger : List (Trade K)) : K :=
  (ledger.map fun trade => if trade.symbol = symbol then signedQuantity trade else 0).sum

structure Conserved (s : BacktestState K) : Prop where
  cash : s.cashUsdt = initialCapital + (s.tradeLedger.map Trade.cashDelta).sum
  position : ∀ symbol, s.positions symbol = ledgerPosition symbol s.tradeLedger
  solvent : 0 ≤ s.cashUsdt
  long : ∀ symbol, 0 ≤ s.positions symbol
  counted : s.tradeCount = s.tradeLedger.length

/-- The cash and the positions at the marks in use. -/
def markedEquity (s : BacktestState K) : K := s.cashUsdt + positionTotal allSymbols s.positions s.marks

/-- Whatever point is appended is the equity at the marks in use. -/
def RecordsEquity (s t : BacktestState K) : Prop :=
  t.equityCurve = s.equityCurve ∨ ∃ time, t.equityCurve = s.equityCurve ++ [(time, markedEquity t)]

/-- What one step keeps. -/
def Advances (s t : BacktestState K) : Prop := (Conserved s → Conserved t) ∧ RecordsEquity s t

/-- A step that leaves the accounts, the curve and the marks. -/
structure SameAccounts (s t : BacktestState K) : Prop where
  ledger : t.tradeLedger = s.tradeLedger
  cash : t.cashUsdt = s.cashUsdt
  positions : t.positions = s.positions
  count : t.tradeCount = s.tradeCount
  curve : t.equityCurve = s.equityCurve
  marks : t.marks = s.marks

omit [Field K] [LinearOrder K] in
theorem SameAccounts.refl (s : BacktestState K) : SameAccounts s s := ⟨rfl, rfl, rfl, rfl, rfl, rfl⟩

omit [Field K] [LinearOrder K] in
theorem SameAccounts.trans {s t u : BacktestState K} (first : SameAccounts s t) (second : SameAccounts t u) :
    SameAccounts s u where
  ledger := second.ledger.trans first.ledger
  cash := second.cash.trans first.cash
  positions := second.positions.trans first.positions
  count := second.count.trans first.count
  curve := second.curve.trans first.curve
  marks := second.marks.trans first.marks

omit [LinearOrder K] in
theorem SameAccounts.totalEquity {s t : BacktestState K} (same : SameAccounts s t) :
    t.totalEquity = s.totalEquity := by
  simp only [BacktestState.totalEquity, BacktestState.trendVal, BacktestState.dcaVal, same.cash,
    same.positions, same.marks]

/-- A step that leaves the ledger, the cash and the positions conserves them. -/
theorem Conserved.frame {s t : BacktestState K} (conserved : Conserved s) (ledger : t.tradeLedger = s.tradeLedger)
    (cash : t.cashUsdt = s.cashUsdt) (held : t.positions = s.positions) (count : t.tradeCount = s.tradeCount) :
    Conserved t where
  cash := by rw [cash, ledger, conserved.cash]
  position := by rw [held, ledger]; exact conserved.position
  solvent := by rw [cash]; exact conserved.solvent
  long := by rw [held]; exact conserved.long
  counted := by rw [count, ledger]; exact conserved.counted

/-- One trade, with what it moves. -/
theorem Conserved.trade {s t : BacktestState K} {trade : Trade K} (conserved : Conserved s)
    (ledger : t.tradeLedger = s.tradeLedger ++ [trade]) (cash : t.cashUsdt = s.cashUsdt + trade.cashDelta)
    (held : t.positions = Function.update s.positions trade.symbol
      (s.positions trade.symbol + signedQuantity trade))
    (count : t.tradeCount = s.tradeCount + 1) (solvent : 0 ≤ s.cashUsdt + trade.cashDelta)
    (long : 0 ≤ s.positions trade.symbol + signedQuantity trade) : Conserved t where
  cash := by
    rw [cash, ledger, conserved.cash, List.map_append, List.sum_append, List.map_singleton, List.sum_singleton]
    ring
  position := by
    intro symbol
    rw [held, ledger, ledgerPosition, List.map_append, List.sum_append, List.map_singleton, List.sum_singleton]
    by_cases same : symbol = trade.symbol
    · subst same
      rw [Function.update_self, if_pos rfl, conserved.position, ledgerPosition]
    · rw [Function.update_of_ne same, if_neg (Ne.symm same), add_zero, conserved.position, ledgerPosition]
  solvent := by rw [cash]; exact solvent
  long := by
    intro symbol
    rw [held]
    by_cases same : symbol = trade.symbol
    · subst same
      rwa [Function.update_self]
    · rw [Function.update_of_ne same]
      exact conserved.long symbol
  counted := by rw [count, ledger, List.length_append, conserved.counted, List.length_singleton]

/-! ## Steps that trade nothing -/

theorem Advances.same {s t : BacktestState K} (same : SameAccounts s t) : Advances s t :=
  ⟨fun conserved => conserved.frame same.ledger same.cash same.positions same.count, .inl same.curve⟩

theorem Advances.followed {s t u : BacktestState K} (first : Advances s t) (same : SameAccounts t u) :
    Advances s u := by
  refine ⟨fun conserved => (first.1 conserved).frame same.ledger same.cash same.positions same.count, ?_⟩
  rcases first.2 with unchanged | ⟨time, appended⟩
  · exact .inl (same.curve.trans unchanged)
  · refine .inr ⟨time, ?_⟩
    rw [same.curve, appended, markedEquity, markedEquity, same.cash, same.positions, same.marks]

theorem Advances.preceded {s t u : BacktestState K} (same : SameAccounts s t) (second : Advances t u) :
    Advances s u := by
  refine ⟨fun conserved => second.1 (conserved.frame same.ledger same.cash same.positions same.count), ?_⟩
  rcases second.2 with unchanged | ⟨time, appended⟩
  · exact .inl (unchanged.trans same.curve)
  · exact .inr ⟨time, by rw [appended, same.curve]⟩

theorem advances_seeRows (view : BarView K) (s : BacktestState K) : Advances s (seeRows view s) :=
  ⟨fun conserved => conserved.frame rfl rfl rfl rfl, .inl rfl⟩

omit [LinearOrder K] in
theorem sameAccounts_resetDay (view : BarView K) (s : BacktestState K) :
    SameAccounts s (resetDay view s) := by
  unfold resetDay
  split <;> exact ⟨rfl, rfl, rfl, rfl, rfl, rfl⟩

theorem sameAccounts_breakCircuit (s : BacktestState K) : SameAccounts s (breakCircuit s) := by
  unfold breakCircuit
  dsimp only
  generalize (if s.dailyTrendEquityBase = 0 then (0 : K) else _) = trendDailyPnl
  split <;> exact ⟨rfl, rfl, rfl, rfl, rfl, rfl⟩

theorem sameAccounts_dailyRisk (view : BarView K) (s : BacktestState K) :
    SameAccounts s (breakCircuit (resetDay view s)) :=
  (sameAccounts_resetDay view s).trans (sameAccounts_breakCircuit _)

omit [LinearOrder K] in
/-- The total equity of a bar is the cash and the positions at its marks. -/
theorem totalEquity_eq (s : BacktestState K) : s.totalEquity = markedEquity s := by
  unfold BacktestState.totalEquity markedEquity BacktestState.trendVal BacktestState.dcaVal positionTotal
  rw [show allSymbols = "BTCUSDT" :: trendSymbols from rfl, List.map_cons, List.sum_cons]
  ring

theorem advances_markClose (closing : BarClose K) (s : BacktestState K) :
    Advances s (markClose closing s) :=
  ⟨fun conserved => conserved.frame rfl rfl rfl rfl, .inr ⟨closing.published, rfl⟩⟩

/-- Without rows nothing is sold. -/
theorem sameAccounts_circuitExit {rates : Rates K} {view : BarView K} (noRows : view.rows = none) (symbol : String)
    (s : BacktestState K) :
    SameAccounts s (circuitExit rates view symbol s) := by
  unfold circuitExit
  rw [noRows]
  split
  · exact .refl s
  · split
    · exact ⟨rfl, rfl, rfl, rfl, rfl, rfl⟩
    · split
      · rename_i found
        cases found
      · exact .refl s

open Trail (Walks)

section Rules
variable {core : StrategyCore K} {strategy : Strategy}

def Anywhere (_ : BacktestState K) : Prop := True

theorem walks_evaluate {α : Type} {outcome : Except PyException α} :
    Walks Advances Anywhere (Trail.evaluate outcome : Backtest K α) fun _ => Anywhere :=
  Walks.evaluate

theorem walks_read : Walks Advances Anywhere (Trail.get : Backtest K (BacktestState K)) fun _ => Anywhere :=
  fun _ _ => ⟨.nil _, fun _ _ => trivial⟩

theorem walks_pure {α : Type} {value : α} :
    Walks Advances Anywhere (pure value : Backtest K α) fun _ => Anywhere :=
  Walks.pure fun _ _ => trivial

theorem walks_step {f : BacktestState K → BacktestState K} (advances : ∀ s, Advances s (f s)) :
    Walks Advances Anywhere (Trail.step f : Backtest K Unit) fun _ => Anywhere :=
  Walks.step (fun s _ => advances s) fun _ _ => trivial

theorem walks_allocation : Walks Advances Anywhere (allocation core) fun _ => Anywhere :=
  walks_read.bind fun _ => walks_evaluate

theorem walks_getCandidatePool (rows : SignalRows K) :
    Walks Advances Anywhere (getCandidatePool core strategy rows) fun _ => Anywhere := by
  apply Walks.ite
  · intro _
    exact walks_pure
  · intro _
    apply walks_read.bind
    intro s
    apply Walks.ite
    · intro _
      exact walks_pure
    · intro _
      apply walks_evaluate.bind
      intro indicators
      apply walks_evaluate.bind
      intro ranking
      apply Walks.ite
      · intro _
        exact walks_pure
      · intro _
        refine Walks.bind (walks_step fun s => .same ⟨rfl, rfl, rfl, rfl, rfl, rfl⟩) fun _ => walks_pure

theorem walks_selectRotationWeights (rows : SignalRows K) (gate : Bool) :
    Walks Advances Anywhere (selectRotationWeights core strategy rows gate) fun _ => Anywhere := by
  apply Walks.ite
  · intro _
    exact walks_pure
  · intro _
    apply (walks_getCandidatePool rows).bind
    intro pool
    apply walks_evaluate.bind
    intro prices
    apply walks_evaluate.bind
    intro indicators
    exact walks_evaluate

end Rules

/-! ## Trades -/

/-- The cash of a buy is its cost. -/
theorem cashDelta_buy (rates : Rates K) (view : BarView K) (rows : SignalRows K) (symbol reason : String)
    (quantity price : K) (s : BacktestState K) :
    (recordTrade rates view rows symbol "buy" reason quantity price s).1 = -costOf rates quantity price := by
  simp only [recordTrade, costOf, if_true]
  ring

theorem cashDelta_sell (rates : Rates K) (view : BarView K) (rows : SignalRows K) (symbol reason : String)
    (quantity price : K) (s : BacktestState K) :
    (recordTrade rates view rows symbol "sell" reason quantity price s).1
      = quantity * price * (1 - rates.slippageRate) * (1 - rates.feeRate) := by
  simp only [recordTrade, show ¬("sell" = "buy") by decide, if_false]
  ring

/-- Per-side fractions. -/
def ProperRates (rates : Rates K) : Prop :=
  (0 ≤ rates.feeRate ∧ rates.feeRate < 1) ∧ 0 ≤ rates.slippageRate ∧ rates.slippageRate < 1

theorem executablePrice_pos {view : BarView K} {symbol : String} {price : K}
    (quoted : view.executablePrice symbol = some price) : 0 < price := by
  unfold BarView.executablePrice at quoted
  simpa using (Option.filter_eq_some_iff.mp quoted).2

variable [IsStrictOrderedRing K]

theorem conserved_initial (start : BarTime) : Conserved (initialBacktest start : BacktestState K) where
  cash := by simp [initialBacktest]
  position := fun _ => rfl
  solvent := by
    change (0 : K) ≤ 10000
    norm_num
  long := fun _ => le_refl 0
  counted := rfl

section Trades
variable {rates : Rates K} {view : BarView K} {rows : SignalRows K}

/-- A sale moves the cash and the position by its ledger entry. -/
theorem advances_liquidate (proper : ProperRates rates) {symbol reason : String} {price : K}
    (positive : 0 < price) (s : BacktestState K) :
    Advances s (liquidate rates view rows symbol reason price s) := by
  obtain ⟨⟨-, fee⟩, -, slip⟩ := proper
  have proceeds := cashDelta_sell rates view rows symbol reason (s.positions symbol) price s
  refine ⟨fun conserved => ?_, .inl rfl⟩
  have gained : 0 ≤ (recordTrade rates view rows symbol "sell" reason (s.positions symbol) price s).1 := by
    rw [proceeds]
    have held := conserved.long symbol
    have keptSlip : 0 ≤ 1 - rates.slippageRate := by linarith
    have keptFee : 0 ≤ 1 - rates.feeRate := by linarith
    positivity
  refine conserved.trade rfl rfl ?_ rfl (add_nonneg conserved.solvent gained) ?_
  · change Function.update s.positions symbol 0 = Function.update s.positions symbol _
    congr 1
    exact (add_neg_cancel _).symm
  · exact (add_neg_cancel (s.positions symbol)).ge

theorem advances_circuitExit (proper : ProperRates rates) (symbol : String) (s : BacktestState K) :
    Advances s (circuitExit rates view symbol s) := by
  unfold circuitExit
  split
  · exact .same (.refl s)
  · split
    · exact .same ⟨rfl, rfl, rfl, rfl, rfl, rfl⟩
    · split
      · rename_i price rows quoted _
        split
        · exact (advances_liquidate proper (executablePrice_pos quoted) s).followed ⟨rfl, rfl, rfl, rfl, rfl, rfl⟩
        · exact .same (.refl s)
      · exact .same (.refl s)

theorem advances_trendExit (proper : ProperRates rates) {activeWeights : List (String × K)}
    (symbol : String) (s : BacktestState K) :
    Advances s (trendExit rates view rows activeWeights symbol s) := by
  unfold trendExit
  split
  · exact .same (.refl s)
  · split
    · exact .same (.refl s)
    · dsimp only
      split
      · rename_i fillPrice quoted
        split
        · refine Advances.preceded ?_ (advances_liquidate proper (executablePrice_pos quoted) _)
          exact ⟨rfl, rfl, rfl, rfl, rfl, rfl⟩
        · exact .same ⟨rfl, rfl, rfl, rfl, rfl, rfl⟩
      · exact .same ⟨rfl, rfl, rfl, rfl, rfl, rfl⟩

/-- What a budget buys costs it less the reserve. -/
theorem boughtQuantity_nonneg (proper : ProperRates rates) {budget price : K} (funded : 0 ≤ budget)
    (positive : 0 < price) : 0 ≤ boughtQuantity rates budget price := by
  obtain ⟨⟨fee, -⟩, slip, -⟩ := proper
  unfold boughtQuantity
  positivity

/-- So does a purchase that its budget pays for. -/
theorem advances_purchase (proper : ProperRates rates) {symbol reason : String} {budget price : K}
    {after : BacktestState K → BacktestState K} (funded : 0 ≤ budget) (positive : 0 < price)
    (later : ∀ t, SameAccounts t (after t)) (s : BacktestState K) :
    Advances s (purchase rates view rows symbol reason budget price after s) := by
  unfold purchase
  dsimp only
  split
  · rename_i affordable
    refine Advances.followed ?_ (later _)
    refine ⟨fun conserved => ?_, .inl rfl⟩
    refine conserved.trade rfl rfl rfl rfl ?_ ?_
    · change 0 ≤ s.cashUsdt + (recordTrade rates view rows symbol "buy" reason
        (boughtQuantity rates budget price) price s).1
      rw [cashDelta_buy]
      linarith
    · exact add_nonneg (conserved.long symbol) (boughtQuantity_nonneg proper funded positive)
  · exact .same (.refl s)

theorem sellShare_bounds (zscore : K) : 0 ≤ sellShare zscore ∧ sellShare zscore ≤ 1 := by
  unfold sellShare
  split
  · norm_num
  · split <;> norm_num

theorem advances_dcaReduce (proper : ProperRates rates) {dcaVal fillPrice : K} (positive : 0 < fillPrice)
    (s : BacktestState K) : Advances s (dcaReduce rates view rows dcaVal fillPrice s) := by
  unfold dcaReduce
  split
  · rename_i zscore sellTrigger _ _
    dsimp only
    split
    · rename_i allowed
      obtain ⟨⟨-, fee⟩, -, slip⟩ := proper
      have some := allowed.2.2.2
      have share := (sellShare_bounds zscore).2
      refine ⟨fun conserved => ?_, .inl rfl⟩
      refine conserved.trade rfl rfl ?_ rfl ?_ ?_
      · exact congrArg (Function.update s.positions "BTCUSDT") (sub_eq_add_neg _ _)
      · change 0 ≤ s.cashUsdt + (recordTrade rates view rows "BTCUSDT" "sell" "dca_reduce" _ fillPrice s).1
        rw [cashDelta_sell]
        have keptSlip : 0 ≤ 1 - rates.slippageRate := by linarith
        have keptFee : 0 ≤ 1 - rates.feeRate := by linarith
        have held := conserved.solvent
        positivity
      · change 0 ≤ s.positions "BTCUSDT" + -(s.positions "BTCUSDT" * sellShare zscore)
        have held := conserved.long "BTCUSDT"
        nlinarith
    · exact .same (.refl s)
  · exact .same (.refl s)

end Trades

/-! ## Runs -/

section Runs
variable {core : StrategyCore K} {strategy : Strategy} {rates : Rates K} {view : BarView K}

theorem walks_trendEntry (proper : ProperRates rates) (rows : SignalRows K) (planned : List (String × K))
    (symbol : String) :
    Walks Advances Anywhere (trendEntry rates view rows planned symbol) fun _ => Anywhere := by
  apply Walks.ite
  · intro funded
    split
    · exact walks_evaluate
    · rename_i price quoted
      apply walks_step
      apply advances_purchase proper (by linarith) (executablePrice_pos quoted)
      intro t
      exact ⟨rfl, rfl, rfl, rfl, rfl, rfl⟩
  · intro _
    exact walks_pure

/-- Every state that the trend trades pass accounts for its cash and positions. -/
theorem walks_trendTrades (proper : ProperRates rates) (rows : SignalRows K)
    (activeWeights : List (String × K)) :
    Walks Advances Anywhere (trendTrades core rates view rows activeWeights) fun _ => Anywhere := by
  apply Walks.bind
  · exact Walks.each (fun symbol => walks_step (advances_trendExit proper symbol)) trendSymbols
  · intro _
    apply walks_allocation.bind
    intro budgets
    apply walks_read.bind
    intro s
    apply walks_evaluate.bind
    intro eligible
    apply walks_evaluate.bind
    intro planned
    exact Walks.each (walks_trendEntry proper rows planned) eligible

/-- The base order of the strategy package is an amount. -/
def OrdersAmounts (core : StrategyCore K) : Prop :=
  ∀ equity order, core.getDynamicBtcBaseOrder equity = .ok order → 0 ≤ order

theorem walks_dcaBuy (proper : ProperRates rates) (amounts : OrdersAmounts core) (rows : SignalRows K)
    (pool equity : K) {btcPrice fillPrice : K} (positive : 0 < fillPrice) :
    Walks Advances Anywhere (dcaBuy core rates view rows pool equity btcPrice fillPrice)
      fun _ => Anywhere := by
  apply walks_read.bind
  intro s
  split
  · exact walks_pure
  · apply Walks.ite
    · intro allowed
      cases ordered : core.getDynamicBtcBaseOrder equity with
      | error raised => exact fun _ _ => ⟨.nil _, fun _ returned => nomatch returned⟩
      | ok baseOrder =>
        have funded := amounts equity baseOrder ordered
        have spent : 0 < pool := by linarith [allowed.2.1]
        apply walks_step
        apply advances_purchase proper ?_ positive
        · intro t
          exact ⟨rfl, rfl, rfl, rfl, rfl, rfl⟩
        · exact le_min spent.le (by positivity)
    · intro _
      exact walks_pure

/-- So does every state of the DCA trades, when no base order is negative. -/
theorem walks_dcaTrades (proper : ProperRates rates) (amounts : OrdersAmounts core) (rows : SignalRows K) :
    Walks Advances Anywhere (dcaTrades core rates view rows) fun _ => Anywhere := by
  apply walks_read.bind
  intro s
  apply walks_allocation.bind
  intro budgets
  split
  · rename_i fillPrice btcPrice quoted _
    have positive := executablePrice_pos quoted
    apply Walks.ite
    · intro _
      apply (walks_dcaBuy proper amounts rows _ _ positive).bind
      intro _
      exact walks_step (advances_dcaReduce proper positive)
    · intro _
      exact walks_pure
  · exact walks_pure

theorem walks_signalTrades (proper : ProperRates rates) (amounts : OrdersAmounts core) (rows : SignalRows K) :
    Walks Advances Anywhere (signalTrades core strategy rates view rows) fun _ => Anywhere := by
  apply (walks_selectRotationWeights rows _).bind
  intro activeWeights
  apply (walks_getCandidatePool rows).bind
  intro pool
  apply walks_read.bind
  intro s
  apply Walks.ite
  · intro _
    exact walks_dcaTrades proper amounts rows
  · intro _
    apply (walks_trendTrades proper rows activeWeights).bind
    intro _
    exact walks_dcaTrades proper amounts rows

omit [IsStrictOrderedRing K] in
theorem walks_firstBar (noRows : view.rows = none) (closing : BarClose K) (s : BacktestState K) :
    Walks Advances (fun t => SameAccounts s t)
      ((do
        Trail.step fun t => breakCircuit (resetDay view t)
        Trail.each (fun symbol => Trail.step (circuitExit rates view symbol)) trendSymbols
        Trail.step fun t =>
          { t with equityCurve := t.equityCurve ++ [(closing.published, s.totalEquity)] }) : Backtest K Unit)
      fun _ => Anywhere := by
  apply Walks.bind (Q := fun _ t => SameAccounts s t)
  · apply Walks.step
    · intro t _
      exact .same (sameAccounts_dailyRisk view t)
    · intro t same
      exact same.trans (sameAccounts_dailyRisk view t)
  · intro _
    apply Walks.bind (Q := fun _ t => SameAccounts s t)
    · apply Walks.each
      intro symbol
      apply Walks.step
      · intro t _
        exact .same (sameAccounts_circuitExit noRows symbol t)
      · intro t same
        exact same.trans (sameAccounts_circuitExit noRows symbol t)
    · intro _
      apply Walks.step
      · intro t same
        refine ⟨fun conserved => conserved.frame rfl rfl rfl rfl, .inr ⟨closing.published, ?_⟩⟩
        rw [← same.totalEquity, totalEquity_eq]
        rfl
      · intro _ _
        trivial

/-- And every state of one bar. -/
theorem walks_simulateBar (proper : ProperRates rates) (amounts : OrdersAmounts core) (closing : BarClose K) :
    Walks Advances Anywhere (simulateBar core strategy rates view closing) fun _ => Anywhere := by
  apply (walks_step (advances_seeRows view)).bind
  intro _
  apply Walks.get.bind
  intro s
  apply Walks.bind (Q := fun _ t => SameAccounts s t)
  · rintro t ⟨-, rfl⟩
    refine Walks.bind (P := fun t => SameAccounts s t) (Q := fun _ t => SameAccounts s t) ?_ ?_ s (.refl s)
    · intro t same
      exact ⟨.nil _, fun value returned => by cases returned; exact same⟩
    · intro t
      exact Walks.evaluate
  · intro budgets
    cases known : view.rows with
    | none => exact walks_firstBar known closing s
    | some rows =>
      have loosened : ∀ {program : Backtest K Unit}, Walks Advances Anywhere program (fun _ => Anywhere) →
          Walks Advances (fun t => SameAccounts s t) program fun _ => Anywhere :=
        fun walks t _ => walks t trivial
      apply loosened
      apply Walks.bind
      · exact walks_step fun t => .same (sameAccounts_dailyRisk view t)
      · intro _
        apply Walks.bind
        · exact Walks.each (fun symbol => walks_step (advances_circuitExit proper symbol)) trendSymbols
        · intro _
          apply (walks_signalTrades proper amounts rows).bind
          intro _
          exact walks_step (advances_markClose closing)

omit [IsStrictOrderedRing K] in
theorem properRates_of_checked {start finish : BarTime} {marketData : String → List (Bar K)}
    (checked : checkWindow rates start finish marketData = .ok ()) : ProperRates rates := by
  have valid := (require_bind checked).1
  simp only [validRate, Bool.and_eq_true, decide_eq_true_eq] at valid
  exact valid

/-- In every state of the loop the ledger accounts for the cash and the positions, and each equity
point is the cash and the positions at the marks then in use. -/
theorem simulateWindow_conserves (amounts : OrdersAmounts core) (start finish : BarTime)
    (marketData : String → List (Bar K)) :
    (∀ s ∈ simulateWindow core strategy rates start finish marketData, Conserved s)
      ∧ (simulateWindow core strategy rates start finish marketData).IsChain RecordsEquity
      ∧ ∀ s, (simulateWindow core strategy rates start finish marketData).head? = some s →
        s.equityCurve = [(start, markedEquity s)] := by
  unfold simulateWindow
  split
  · exact ⟨by simp, .nil, by simp⟩
  · rename_i checked
    have proper := properRates_of_checked checked
    have walks := Walks.each (fun idx => @walks_simulateBar _ _ _ _ core strategy rates
      (barView marketData idx) proper amounts (barClose marketData idx)) (windowBars marketData start finish)
    have route := (walks (initialBacktest start) trivial).1
    refine ⟨?_, ?_, ?_⟩
    · exact route.forall_mem (fun s t advances => advances.1) (conserved_initial start)
    · exact route.isChain.imp fun s t advances => advances.2
    · rintro s ⟨⟩
      simp [initialBacktest, markedEquity, positionTotal]

end Runs

/-! ## A run that buys -/

/-- A strategy package that only buys bitcoin. -/
def dcaOnly : StrategyCore ℚ where
  buildRotationPoolRanking := fun _ _ _ _ => .ok []
  selectRotationWeights := fun _ _ _ _ _ _ => .ok []
  computeAllocationBudgets := fun _ cash _ _ => .ok ⟨0, cash / 10⟩
  allocateTrendBuyBudget := fun _ _ _ => .ok []
  getDynamicBtcBaseOrder := fun equity => .ok (max 15 (equity / 1000))
  month := fun _ => ""

def steadyBar (time : BarTime) : Bar ℚ where
  time := time
  openPrice := some 100
  close := some 100
  availableAt := none
  quoteObserved := none
  indicators := fun field => if field = "geom200" then some 200 else none

def steadyMarket : String → List (Bar ℚ) := fun _ => [0, 3600000, 7200000].map steadyBar

def gatedFixedPool : Strategy := ⟨"fixed", 5, true, .empty⟩

theorem dcaOnly_amounts : OrdersAmounts dcaOnly := by
  rintro equity order ⟨⟩
  exact (by norm_num : (0 : ℚ) ≤ 15).trans (le_max_left _ _)

/-- The purchase of the second bar is accounted for. -/
theorem simulateWindow_conserves_purchase :
    ∃ s ∈ simulateWindow dcaOnly gatedFixedPool ⟨1 / 1000, 1 / 1000⟩ 0 10800000 steadyMarket,
      s.tradeCount = 1 ∧ s.cashUsdt = initialCapital + (s.tradeLedger.map Trade.cashDelta).sum := by
  have bought : ∃ s ∈ simulateWindow dcaOnly gatedFixedPool ⟨1 / 1000, 1 / 1000⟩ 0 10800000 steadyMarket,
      s.tradeCount = 1 := by decide +kernel
  obtain ⟨s, passed, once⟩ := bought
  have conserved := (simulateWindow_conserves dcaOnly_amounts 0 10800000 steadyMarket).1 s passed
  exact ⟨s, passed, once, conserved.cash⟩

end BinancePlatform.Guarantees.BacktestConservation
