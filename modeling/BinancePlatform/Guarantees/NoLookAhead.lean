import BinancePlatform.Source.Backtest

/-!
# No look-ahead in the backtest

Two runs over data that agree on what is known by an instant record the same fills and
the same equity points up to it, when no bar of the window is published after that
instant and before a later bar that opens by it. Else the marks of the later bar
include closes that were not available.

* A bar records only at its own opening and its own publication (`openBar_records`,
  `simulateBar_ok`), so a late bar records nothing by the instant (`late_bar`,
  `late_bars`).
* Data that agree by the instant give the same view of a bar that opens by it
  (`KnownAlike.barView`, `KnownAlike.barClose`).
* Hence the runs agree (`alike_bars`, `no_look_ahead`); `late_publication_looks_ahead` is a
  market outside the condition.

The strategy package is a parameter.
-/

set_option autoImplicit false

namespace BinancePlatform.Guarantees.NoLookAhead
open BinancePlatform.Library BinancePlatform.Source Program

/-! ## What a bar records -/

/-- New entries of the ledger are filled at the bar, and no equity point is added. -/
def Fills (ts : BarTime) (s t : BacktestState) : Prop :=
  (∃ fresh, t.tradeLedger = s.tradeLedger ++ fresh ∧ ∀ trade ∈ fresh, trade.fillTime = ts)
    ∧ t.equityCurve = s.equityCurve

variable {ts : BarTime}

theorem Fills.same {s t : BacktestState} (ledger : t.tradeLedger = s.tradeLedger)
    (curve : t.equityCurve = s.equityCurve) : Fills ts s t := by
  refine ⟨⟨[], ?_, ?_⟩, curve⟩
  · rw [List.append_nil]
    exact ledger
  · intro trade member
    cases member

theorem Fills.trans (r s t : BacktestState) (first : Fills ts r s) (second : Fills ts s t) :
    Fills ts r t := by
  obtain ⟨⟨xs, left, filledLeft⟩, curveLeft⟩ := first
  obtain ⟨⟨ys, right, filledRight⟩, curveRight⟩ := second
  refine ⟨⟨xs ++ ys, by rw [right, left, List.append_assoc], ?_⟩, curveRight.trans curveLeft⟩
  intro trade member
  rcases List.mem_append.mp member with early | late
  · exact filledLeft trade early
  · exact filledRight trade late

section Rules
variable {α β : Type}

theorem fills_pure {value : α} : Leads (Fills ts) (pure value : Backtest α) := fun _ => .same rfl rfl

theorem fills_read : Leads (Fills ts) Backtest.read := fun _ => .same rfl rfl

theorem fills_evaluate {outcome : Except PyException α} : Leads (Fills ts) (Backtest.evaluate outcome) :=
  fun _ => .same rfl rfl

theorem fills_bind {program : Backtest α} {next : α → Backtest β} (first : Leads (Fills ts) program)
    (rest : ∀ value, Leads (Fills ts) (next value)) : Leads (Fills ts) (program >>= next) :=
  Leads.bind Fills.trans first rest

theorem fills_each {body : α → Backtest Unit} (step : ∀ x, Leads (Fills ts) (body x)) (xs : List α) :
    Leads (Fills ts) (Backtest.each body xs) := by
  induction xs with
  | nil => exact fills_pure
  | cons x xs ih => exact fills_bind (step x) fun _ => ih

theorem fills_update {f : BacktestState → BacktestState}
    (kept : ∀ s, (f s).tradeLedger = s.tradeLedger ∧ (f s).equityCurve = s.equityCurve) :
    Leads (Fills ts) (.update f : Backtest Unit) :=
  fun s => .same (kept s).1 (kept s).2

end Rules

section Bar
variable (core : StrategyCore) (strategy : Strategy) (rates : Rates) (view : BarView)

/-- An entry of the ledger carries the time of the view. -/
theorem fills_recordTrade {rates : Rates} {view : BarView} {rows : SignalRows}
    {symbol side reason : String} {quantity referencePrice : PyFloat} :
    Leads (Fills view.ts) (recordTrade rates view rows symbol side reason quantity referencePrice) := by
  intro s
  refine ⟨⟨_, rfl, ?_⟩, rfl⟩
  intro trade member
  rw [List.mem_singleton] at member
  rw [member]

theorem fills_holdPosition {symbol : String} {quantity : PyFloat} {trend : TrendPosition} :
    Leads (Fills ts) (holdPosition symbol quantity trend) :=
  fills_update fun _ => ⟨rfl, rfl⟩

theorem fills_allocation : Leads (Fills ts) (allocation core view) :=
  fills_bind fills_read fun _ => fills_evaluate

theorem fills_getCandidatePool (rows : SignalRows) :
    Leads (Fills ts) (getCandidatePool core strategy rows) := by
  apply Leads.ite
  · intro _
    exact fills_pure
  · intro _
    apply fills_bind fills_read
    intro s
    apply Leads.ite
    · intro _
      exact fills_pure
    · intro _
      apply fills_bind fills_evaluate
      intro indicators
      apply fills_bind fills_evaluate
      intro ranking
      apply Leads.ite
      · intro _
        exact fills_pure
      · intro _
        dsimp only
        apply fills_bind
        · exact fills_update fun _ => ⟨rfl, rfl⟩
        · intro _
          exact fills_pure

theorem fills_selectRotationWeights (rows : SignalRows) (gate : Bool) :
    Leads (Fills ts) (selectRotationWeights core strategy rows gate) := by
  apply Leads.ite
  · intro _
    exact fills_pure
  · intro _
    apply fills_bind (fills_getCandidatePool core strategy rows)
    intro pool
    apply fills_bind fills_evaluate
    intro prices
    exact fills_bind fills_evaluate fun _ => fills_evaluate

theorem fills_seeRows : Leads (Fills ts) (seeRows view) := fills_update fun _ => ⟨rfl, rfl⟩

/-- The daily risk records nothing. -/
theorem fills_dailyRisk : Leads (Fills ts) (dailyRisk view) := by
  have reset : ∀ s, (view.resetDay s).tradeLedger = s.tradeLedger
      ∧ (view.resetDay s).equityCurve = s.equityCurve := by
    intro s
    unfold BarView.resetDay
    split <;> exact ⟨rfl, rfl⟩
  have latched : ∀ s, (view.breakCircuit s).tradeLedger = s.tradeLedger
      ∧ (view.breakCircuit s).equityCurve = s.equityCurve := by
    intro s
    unfold BarView.breakCircuit
    split <;> exact ⟨rfl, rfl⟩
  apply fills_update
  intro s
  exact ⟨(latched _).1.trans (reset s).1, (latched _).2.trans (reset s).2⟩

/-- An exit of the circuit breaker is filled at the opening. -/
theorem fills_circuitExit (symbol : String) : Leads (Fills view.ts) (circuitExit rates view symbol) := by
  apply fills_bind fills_read
  intro s
  apply Leads.ite
  · intro _
    exact fills_pure
  · intro _
    apply Leads.ite
    · intro _
      exact fills_update fun _ => ⟨rfl, rfl⟩
    · intro _
      split
      · apply Leads.ite
        · intro _
          apply fills_bind fills_recordTrade
          intro _
          exact fills_bind fills_holdPosition fun _ => fills_update fun _ => ⟨rfl, rfl⟩
        · intro _
          exact fills_pure
      · exact fills_pure

theorem fills_trendExit (rows : SignalRows) (activeWeights : List (String × PyFloat)) (symbol : String) :
    Leads (Fills view.ts) (trendExit rates view rows activeWeights symbol) := by
  apply fills_bind fills_read
  intro s
  apply Leads.ite
  · intro _
    exact fills_pure
  · intro _
    dsimp only
    apply fills_bind
    · exact fills_update fun _ => ⟨rfl, rfl⟩
    · intro _
      split
      · apply Leads.ite
        · intro _
          exact fills_bind fills_recordTrade fun _ => fills_holdPosition
        · intro _
          exact fills_pure
      · exact fills_pure

theorem fills_trendEntry (rows : SignalRows) (planned : List (String × PyFloat)) (symbol : String) :
    Leads (Fills view.ts) (trendEntry rates view rows planned symbol) := by
  apply Leads.ite
  · intro _
    split
    · exact fills_evaluate
    · apply fills_bind fills_evaluate
      intro quantity
      apply fills_bind fills_read
      intro s
      apply Leads.ite
      · intro _
        exact fills_bind fills_recordTrade fun _ => fills_holdPosition
      · intro _
        exact fills_pure
  · intro _
    exact fills_pure

theorem fills_trendTrades (rows : SignalRows) (activeWeights : List (String × PyFloat)) :
    Leads (Fills view.ts) (trendTrades core rates view rows activeWeights) := by
  apply fills_bind (fills_each (fills_trendExit rates view rows activeWeights) _)
  intro _
  apply fills_bind (fills_allocation core view)
  intro budgets
  apply fills_bind fills_read
  intro s
  apply fills_bind fills_evaluate
  intro eligible
  apply fills_bind fills_evaluate
  intro planned
  exact fills_each (fills_trendEntry rates view rows planned) _

theorem fills_dcaBuy (rows : SignalRows) (dcaUsdtPool totalEquity price : PyFloat) :
    Leads (Fills view.ts) (dcaBuy core rates view rows dcaUsdtPool totalEquity price) := by
  apply fills_bind fills_read
  intro s
  apply Leads.ite
  · intro _
    exact fills_pure
  · intro _
    apply Leads.ite
    · intro _
      apply fills_bind fills_evaluate
      intro baseOrder
      apply fills_bind fills_evaluate
      intro quantity
      apply Leads.ite
      · intro _
        exact fills_bind fills_recordTrade fun _ => fills_update fun _ => ⟨rfl, rfl⟩
      · intro _
        exact fills_pure
    · intro _
      exact fills_pure

theorem fills_dcaReduce (rows : SignalRows) (dcaVal price : PyFloat) :
    Leads (Fills view.ts) (dcaReduce rates view rows dcaVal price) := by
  apply fills_bind fills_read
  intro s
  apply Leads.ite
  · intro _
    apply Leads.ite
    · intro _
      exact fills_bind fills_recordTrade fun _ => fills_update fun _ => ⟨rfl, rfl⟩
    · intro _
      exact fills_pure
  · intro _
    exact fills_pure

theorem fills_dcaTrades (rows : SignalRows) : Leads (Fills view.ts) (dcaTrades core rates view rows) := by
  apply fills_bind fills_read
  intro s
  apply fills_bind (fills_allocation core view)
  intro budgets
  split
  · exact fills_pure
  · apply Leads.ite
    · intro _
      exact fills_bind (fills_dcaBuy core rates view rows _ _ _) fun _ => fills_dcaReduce rates view rows _ _
    · intro _
      exact fills_pure

/-- So are all trades that the signals lead to. -/
theorem fills_signalTrades (rows : SignalRows) :
    Leads (Fills view.ts) (signalTrades core strategy rates view rows) := by
  apply fills_bind (fills_selectRotationWeights core strategy rows _)
  intro activeWeights
  apply fills_bind (fills_getCandidatePool core strategy rows)
  intro _
  apply fills_bind fills_read
  intro s
  apply Leads.ite
  · intro _
    exact fills_dcaTrades core rates view rows
  · intro _
    exact fills_bind (fills_trendTrades core rates view rows activeWeights) fun _ =>
      fills_dcaTrades core rates view rows

/-- Every trade of a bar is filled at its opening time. -/
theorem fills_openBar : Leads (Fills view.ts) (openBar core strategy rates view) := by
  apply fills_bind (fills_seeRows view)
  intro _
  apply fills_bind (fills_allocation core view)
  intro _
  apply fills_bind fills_read
  intro s
  apply fills_bind (fills_dailyRisk view)
  intro _
  apply fills_bind (fills_each (fills_circuitExit rates view) _)
  intro _
  dsimp only
  split
  · exact fills_pure
  · exact fills_bind (fills_signalTrades core strategy rates view _) fun _ => fills_pure

end Bar

/-! ## What is recorded by an instant -/

/-- The ledger entries filled by an instant. -/
def ledgerBy (T : BarTime) (s : BacktestState) : List Trade :=
  s.tradeLedger.filter fun trade => trade.fillTime ≤ T

/-- The equity points stamped by an instant. -/
def curveBy (T : BarTime) (s : BacktestState) : List (BarTime × PyFloat) :=
  s.equityCurve.filter fun point => point.1 ≤ T

/-- The same fills and the same equity points by the instant. -/
def RecordsAlike (T : BarTime) (s t : BacktestState) : Prop :=
  ledgerBy T s = ledgerBy T t ∧ curveBy T s = curveBy T t

section Bars
variable {core : StrategyCore} {strategy : Strategy} {rates : Rates} {view : BarView} {closing : BarClose}
  {T : BarTime} {s t : BacktestState}

/-- A bar is its opening and then one equity point at its publication. -/
theorem simulateBar_ok (ran : simulateBar core strategy rates view closing s = (.ok (), t)) :
    ∃ value u, openBar core strategy rates view s = (.ok value, u) ∧ t.tradeLedger = u.tradeLedger
      ∧ ∃ equity, t.equityCurve = u.equityCurve ++ [(closing.published, equity)] := by
  unfold simulateBar at ran
  cases opened : openBar core strategy rates view s with
  | mk outcome u =>
    cases outcome with
    | error raised =>
      rw [run_bind_error opened] at ran
      cases ran
    | ok value =>
      rw [run_bind_ok opened] at ran
      refine ⟨value, u, rfl, ?_⟩
      cases rows : view.rows with
      | none =>
        simp only [rows, Program.update, Prod.mk.injEq, true_and] at ran
        subst ran
        exact ⟨rfl, _, rfl⟩
      | some _ =>
        simp only [rows, markClose, Program.update, Prod.mk.injEq, true_and] at ran
        subst ran
        exact ⟨rfl, _, rfl⟩

/-- The opening of a bar records fills at that opening only. -/
theorem openBar_records {value : PyFloat} (opened : openBar core strategy rates view s = (.ok value, t)) :
    Fills view.ts s t := by
  have fills := fills_openBar core strategy rates view s
  rw [opened] at fills
  exact fills

/-- A bar that opens and is published later records nothing by the instant. -/
theorem late_bar (opens : T < view.ts) (published : T < closing.published)
    (ran : simulateBar core strategy rates view closing s = (.ok (), t)) : RecordsAlike T t s := by
  obtain ⟨value, u, opened, ledger, equity, curve⟩ := simulateBar_ok ran
  obtain ⟨⟨fresh, filled, times⟩, kept⟩ := openBar_records opened
  have later : fresh.filter (fun trade => decide (trade.fillTime ≤ T)) = [] := by
    rw [List.filter_eq_nil_iff]
    intro trade member
    rw [times trade member, decide_eq_true_eq]
    exact not_le.mpr opens
  refine ⟨?_, ?_⟩
  · rw [ledgerBy, ledger, filled, List.filter_append, later, List.append_nil]
    rfl
  · rw [curveBy, curve, kept, List.filter_append]
    simp [curveBy, published]

theorem each_cons_ok {α : Type} {body : α → Backtest Unit} {x : α} {xs : List α}
    (ran : Backtest.each body (x :: xs) s = (.ok (), t)) :
    ∃ u, body x s = (.ok (), u) ∧ Backtest.each body xs u = (.ok (), t) := by
  rw [Backtest.each] at ran
  cases first : body x s with
  | mk outcome u =>
    cases outcome with
    | error raised =>
      rw [run_bind_error first] at ran
      cases ran
    | ok _ =>
      rw [run_bind_ok first] at ran
      exact ⟨u, rfl, ran⟩

end Bars

/-! ## Two data sets -/

abbrev openTime (marketData : MarketData) (idx : ℕ) : BarTime := (barAt marketData "BTCUSDT" idx).time

/-- The two data sets share the columns of times and observations and agree on what is
known by the instant. -/
structure KnownAlike (T : BarTime) (left right : MarketData) : Prop where
  time : ∀ symbol, (left symbol).map Bar.time = (right symbol).map Bar.time
  availableAt : ∀ symbol idx, (barAt left symbol idx).availableAt = (barAt right symbol idx).availableAt
  quoteObserved : ∀ symbol idx,
    (barAt left symbol idx).quoteObserved = (barAt right symbol idx).quoteObserved
  opens : ∀ symbol idx, (barAt left symbol idx).time ≤ T →
    (barAt left symbol idx).openPrice = (barAt right symbol idx).openPrice
  closes : ∀ symbol idx available, (barAt left symbol idx).available = some available → available ≤ T →
    (barAt left symbol idx).close = (barAt right symbol idx).close
  indicators : ∀ symbol idx, (barAt left symbol idx).time ≤ T →
    (barAt left symbol idx).indicators = (barAt right symbol idx).indicators

/-- `available_at` is never before `time`. -/
def NeverBefore (marketData : MarketData) : Prop :=
  ∀ symbol idx available, (barAt marketData symbol idx).available = some available →
    (barAt marketData symbol idx).time ≤ available

/-- A bar that opens by the instant follows a row that opened by it, and every bar of
the window before it was published by it. -/
def PublishedInOrder (T start end_ : BarTime) (marketData : MarketData) : Prop :=
  (∀ idx ∈ windowBars marketData start end_, openTime marketData idx ≤ T →
    openTime marketData (idx - 1) ≤ T)
  ∧ (windowBars marketData start end_).Pairwise fun earlier later =>
    openTime marketData later ≤ T → publishedAt marketData earlier ≤ T

theorem time_getD (bars : List Bar) (idx : ℕ) :
    (bars.getD idx missingBar).time = (bars.map Bar.time).getD idx 0 := by
  simp only [List.getD_eq_getElem?_getD, List.getElem?_map]
  cases bars[idx]? <;> rfl

section Data
variable {T : BarTime} {left right marketData : MarketData}

/-- Aligned data have one column of times. -/
theorem time_of_aligned (times : aligned marketData = true) {symbol : String} (member : symbol ∈ allSymbols)
    (idx : ℕ) : (barAt marketData symbol idx).time = openTime marketData idx := by
  have same := of_decide_eq_true (List.all_eq_true.mp times symbol member)
  rw [openTime, barAt, barAt, if_pos member, if_pos (by simp [allSymbols]), time_getD, time_getD, same]

theorem KnownAlike.barTime (alike : KnownAlike T left right) (symbol : String) (idx : ℕ) :
    (barAt left symbol idx).time = (barAt right symbol idx).time := by
  unfold barAt
  split
  · rw [time_getD, time_getD, alike.time]
  · rfl

theorem KnownAlike.available (alike : KnownAlike T left right) (symbol : String) (idx : ℕ) :
    (barAt left symbol idx).available = (barAt right symbol idx).available := by
  rw [Bar.available, Bar.available, alike.availableAt, alike.barTime]

theorem KnownAlike.published (alike : KnownAlike T left right) (idx : ℕ) :
    publishedAt left idx = publishedAt right idx := by
  rw [publishedAt, publishedAt, alike.available]

theorem barAt_outside {symbol : String} (outside : symbol ∉ allSymbols) (idx : ℕ) :
    barAt marketData symbol idx = missingBar := if_neg outside

/-- A row that is known by the instant is the same in both. -/
theorem KnownAlike.signalRow (alike : KnownAlike T left right) {symbol : String} {idx : ℕ} {ts : BarTime}
    (known : ts ≤ T) (earlier : (barAt left symbol idx).time ≤ T) :
    signalRow ts (barAt left symbol idx) = signalRow ts (barAt right symbol idx) := by
  have close : (Source.signalRow ts (barAt left symbol idx)).close
      = (Source.signalRow ts (barAt right symbol idx)).close := by
    dsimp only [Source.signalRow]
    rw [← alike.available]
    cases published : (barAt left symbol idx).available with
    | none => rfl
    | some available =>
      dsimp only
      by_cases seen : available ≤ ts
      · have same := alike.closes symbol idx available published (seen.trans known)
        rw [if_pos seen, if_pos seen, Bar.observed, Bar.observed, alike.quoteObserved, same]
      · rw [if_neg seen, if_neg seen]
  have available := alike.available symbol idx
  have indicators := alike.indicators symbol idx earlier
  unfold Source.signalRow at close ⊢
  dsimp only at close
  rw [SignalRow.mk.injEq]
  exact ⟨close, available, indicators⟩

/-- What the trades of a bar see is known when it opens. -/
theorem KnownAlike.barView (alike : KnownAlike T left right) (times : aligned left = true) {idx : ℕ}
    (known : openTime left idx ≤ T) (before : openTime left (idx - 1) ≤ T) :
    barView left idx = barView right idx := by
  have opens : ∀ symbol, (barAt left symbol idx).openPrice = (barAt right symbol idx).openPrice := by
    intro symbol
    by_cases member : symbol ∈ allSymbols
    · apply alike.opens
      rw [time_of_aligned times member]
      exact known
    · rw [barAt_outside member, barAt_outside member]
  have rows : ∀ symbol, Source.signalRow (openTime left idx) (barAt left symbol (idx - 1))
      = Source.signalRow (openTime left idx) (barAt right symbol (idx - 1)) := by
    intro symbol
    by_cases member : symbol ∈ allSymbols
    · apply alike.signalRow known
      rw [time_of_aligned times member]
      exact before
    · rw [barAt_outside member, barAt_outside member]
  unfold Source.barView
  rw [← alike.barTime "BTCUSDT" idx, ← alike.barTime "BTCUSDT" (idx - 1)]
  simp only [opens, rows]

/-- The closes of a bar are known once it is published. -/
theorem KnownAlike.barClose (alike : KnownAlike T left right) {idx : ℕ} (known : publishedAt left idx ≤ T) :
    barClose left idx = barClose right idx := by
  have closes : ∀ symbol, (Source.barClose left idx).closes symbol = (Source.barClose right idx).closes symbol := by
    intro symbol
    unfold Source.barClose
    dsimp only
    rw [← alike.published, ← alike.available]
    cases published : (barAt left symbol idx).available with
    | none => rfl
    | some available =>
      dsimp only
      by_cases seen : available ≤ publishedAt left idx
      · rw [if_pos seen, if_pos seen, alike.closes symbol idx available published (seen.trans known)]
      · rw [if_neg seen, if_neg seen]
  unfold Source.barClose at closes ⊢
  rw [← alike.published] at closes ⊢
  rw [BarClose.mk.injEq]
  exact ⟨rfl, funext closes⟩

/-- The window has the same bars in both. -/
theorem windowBars_alike (alike : KnownAlike T left right) (start end_ : BarTime) :
    windowBars left start end_ = windowBars right start end_ := by
  have length : (left "BTCUSDT").length = (right "BTCUSDT").length := by
    have lengths := congrArg List.length (alike.time "BTCUSDT")
    rwa [List.length_map, List.length_map] at lengths
  unfold windowBars
  rw [length]
  congr 1
  funext idx
  dsimp only
  rw [alike.barTime, alike.available]

/-- A bar of the window is published no earlier than it opens. -/
theorem opened_before_published (never : NeverBefore marketData) {start end_ : BarTime} {idx : ℕ}
    (member : idx ∈ windowBars marketData start end_) :
    openTime marketData idx ≤ publishedAt marketData idx := by
  have inWindow := (List.mem_filter.mp member).2
  dsimp only at inWindow
  rw [Bool.and_eq_true] at inWindow
  cases available : (barAt marketData "BTCUSDT" idx).available with
  | none =>
    rw [available] at inWindow
    cases inWindow.2
  | some published =>
    rw [publishedAt, available]
    exact never "BTCUSDT" idx published available

end Data

/-! ## Two runs -/

section Runs
variable {core : StrategyCore} {strategy : Strategy} {rates : Rates} {T : BarTime}
  {left right marketData : MarketData} {idxs : List ℕ} {s t : BacktestState}

/-- Bars that open later record nothing by the instant. -/
theorem late_bars (late : ∀ idx ∈ idxs, T < openTime marketData idx)
    (never : ∀ idx ∈ idxs, openTime marketData idx ≤ publishedAt marketData idx)
    (ran : simulateBars core strategy rates marketData idxs s = (.ok (), t)) : RecordsAlike T t s := by
  induction idxs generalizing s with
  | nil =>
    cases ran
    exact ⟨rfl, rfl⟩
  | cons idx idxs ih =>
    obtain ⟨u, first, rest⟩ := each_cons_ok ran
    have opens := late idx List.mem_cons_self
    have published := opens.trans_le (never idx List.mem_cons_self)
    have bar : RecordsAlike T u s := late_bar opens published first
    have bars := ih (fun other member => late other (List.mem_cons_of_mem _ member))
      (fun other member => never other (List.mem_cons_of_mem _ member)) rest
    exact ⟨bars.1.trans bar.1, bars.2.trans bar.2⟩

/-- A bar published later records its opening only, whatever it closes at. -/
theorem records_of_opening {view : BarView} {closing other : BarClose} {u v : BacktestState}
    (published : T < closing.published) (same : other.published = closing.published)
    (first : simulateBar core strategy rates view closing s = (.ok (), u))
    (second : simulateBar core strategy rates view other s = (.ok (), v)) : RecordsAlike T u v := by
  obtain ⟨value, reached, opened, ledger, equity, curve⟩ := simulateBar_ok first
  obtain ⟨value', reached', opened', ledger', equity', curve'⟩ := simulateBar_ok second
  rw [opened] at opened'
  cases opened'
  refine ⟨?_, ?_⟩
  · rw [ledgerBy, ledgerBy, ledger, ledger']
  · rw [curveBy, curveBy, curve, curve', List.filter_append, List.filter_append]
    simp [same, published]

/-- The induction over the bars: the two runs are in the same state until a bar is
published after the instant, and all later bars open after it. -/
theorem alike_bars (alike : KnownAlike T left right) (times : aligned left = true)
    (never : ∀ idx ∈ idxs, openTime left idx ≤ publishedAt left idx)
    (before : ∀ idx ∈ idxs, openTime left idx ≤ T → openTime left (idx - 1) ≤ T)
    (order : idxs.Pairwise fun earlier later => openTime left later ≤ T → publishedAt left earlier ≤ T)
    {a b : BacktestState} (first : simulateBars core strategy rates left idxs s = (.ok (), a))
    (second : simulateBars core strategy rates right idxs s = (.ok (), b)) : RecordsAlike T a b := by
  induction idxs generalizing s with
  | nil =>
    cases first
    cases second
    exact ⟨rfl, rfl⟩
  | cons idx idxs ih =>
    obtain ⟨u, bar, bars⟩ := each_cons_ok first
    obtain ⟨v, bar', bars'⟩ := each_cons_ok second
    obtain ⟨later, order⟩ := List.pairwise_cons.mp order
    have opened := never idx List.mem_cons_self
    have never' := fun other member => never other (List.mem_cons_of_mem idx member)
    by_cases published : publishedAt left idx ≤ T
    · have known := opened.trans published
      have view := alike.barView times known (before idx List.mem_cons_self known)
      rw [← view, ← alike.barClose published, bar] at bar'
      cases bar'
      exact ih never' (fun other member => before other (List.mem_cons_of_mem idx member)) order bars bars'
    · rw [not_le] at published
      have late : ∀ other ∈ idxs, T < openTime left other := by
        intro other member
        by_contra early
        exact absurd (later other member (not_lt.mp early)) (not_le.mpr published)
      have late' : ∀ other ∈ idxs, T < openTime right other := by
        intro other member
        rw [openTime, ← alike.barTime]
        exact late other member
      have never'' : ∀ other ∈ idxs, openTime right other ≤ publishedAt right other := by
        intro other member
        rw [openTime, ← alike.barTime, ← alike.published]
        exact never' other member
      have rest := late_bars late never' bars
      have rest' := late_bars late' never'' bars'
      have here : RecordsAlike T u v := by
        by_cases opens : openTime left idx ≤ T
        · have view := alike.barView times opens (before idx List.mem_cons_self opens)
          rw [← view] at bar'
          exact records_of_opening published (alike.published idx).symm bar bar'
        · rw [not_le] at opens
          have quiet : RecordsAlike T u s := late_bar opens published bar
          have quiet' : RecordsAlike T v s := by
            apply late_bar _ _ bar'
            · rw [Source.barView, ← alike.barTime]
              exact opens
            · rw [Source.barClose, ← alike.published]
              exact published
          exact ⟨quiet.1.trans quiet'.1.symm, quiet.2.trans quiet'.2.symm⟩
      exact ⟨rest.1.trans (here.1.trans rest'.1.symm), rest.2.trans (here.2.trans rest'.2.symm)⟩

/-- A run that returns has checked the alignment and passed every bar. -/
theorem simulateWindow_ok {start end_ : BarTime} {a : BacktestState}
    (ran : simulateWindow core strategy rates start end_ marketData = .ok a) :
    aligned marketData = true
      ∧ simulateBars core strategy rates marketData (windowBars marketData start end_)
          (initialBacktest start) = (.ok (), a) := by
  unfold simulateWindow at ran
  obtain ⟨-, ran⟩ := require_bind ran
  obtain ⟨-, ran⟩ := require_bind ran
  obtain ⟨times, ran⟩ := require_bind ran
  refine ⟨times, ?_⟩
  cases bars : simulateBars core strategy rates marketData (windowBars marketData start end_)
      (initialBacktest start) with
  | mk outcome reached =>
    rw [bars] at ran
    cases outcome with
    | error raised => cases ran
    | ok _ => cases ran; rfl

/-- No value that becomes known after an instant reaches the records by it. -/
theorem no_look_ahead (alike : KnownAlike T left right) (never : NeverBefore left)
    {start end_ : BarTime} (order : PublishedInOrder T start end_ left) {a b : BacktestState}
    (first : simulateWindow core strategy rates start end_ left = .ok a)
    (second : simulateWindow core strategy rates start end_ right = .ok b) :
    ledgerBy T a = ledgerBy T b ∧ curveBy T a = curveBy T b := by
  obtain ⟨times, bars⟩ := simulateWindow_ok first
  obtain ⟨-, bars'⟩ := simulateWindow_ok second
  rw [← windowBars_alike alike] at bars'
  exact alike_bars alike times (fun _ member => opened_before_published never member) order.1 order.2
    bars bars'

end Runs

/-! ## A close that is published late -/

def quietBar (hour : ℤ) : Bar :=
  ⟨hour * hourLength, .nan, .nan, some (some ((hour + 1) * hourLength)), some true, fun _ => .nan⟩

def hundred : PyFloat := .literal 100000

/-- Ether trades for an hour; its second close has a value and is available late, and
the second bar of bitcoin is published at a given hour. -/
def etherMarket (published : ℤ) (close : PyFloat) : MarketData := fun symbol =>
  if symbol = "ETHUSDT" then
    [⟨0, hundred, hundred, some (some hourLength), some true, fun _ => one⟩,
     ⟨hourLength, hundred, close, some (some (50 * hourLength)), some true, fun _ => one⟩,
     quietBar 2]
  else if symbol = "BTCUSDT" then
    [quietBar 0, { quietBar 1 with availableAt := some (some (published * hourLength)) }, quietBar 2]
  else [quietBar 0, quietBar 1, quietBar 2]

def etherCore : StrategyCore where
  buildRotationPoolRanking := fun _ _ _ _ => .ok []
  selectRotationWeights := fun _ _ _ _ _ _ => .ok [("ETHUSDT", one)]
  computeAllocationBudgets := fun _ _ _ _ => .ok ⟨hundred, .zero⟩
  allocateTrendBuyBudget := fun _ eligible pool => .ok (eligible.map fun symbol => (symbol, pool))
  getDynamicBtcBaseOrder := fun _ => .ok .zero
  month := fun _ => "1970-01"

def etherStrategy : Strategy := ⟨"fixed", 5, false, .empty⟩

def etherRun (published : ℤ) (close : PyFloat) : Except PyException BacktestState :=
  simulateWindow etherCore etherStrategy ⟨.zero, .zero⟩ 0 (100 * hourLength) (etherMarket published close)

def etherCurve (published : ℤ) (close : PyFloat) : Option (List (BarTime × PyFloat)) :=
  (etherRun published close).toOption.map (curveBy (3 * hourLength))

theorem etherMarket_alike (published : ℤ) (close other : PyFloat) :
    KnownAlike (3 * hourLength) (etherMarket published close) (etherMarket published other) := by
  have elsewhere : ∀ symbol idx, symbol ≠ "ETHUSDT" ∨ idx ≠ 1 →
      barAt (etherMarket published close) symbol idx = barAt (etherMarket published other) symbol idx := by
    intro symbol idx different
    by_cases ether : symbol = "ETHUSDT"
    · subst ether
      rcases idx with _ | _ | _ | idx
      · rfl
      · simp at different
      · rfl
      · rfl
    · simp only [barAt, etherMarket, if_neg ether]
  refine ⟨?_, ?_, ?_, ?_, ?_, ?_⟩
  · intro symbol
    by_cases ether : symbol = "ETHUSDT"
    · subst ether
      rfl
    · simp only [etherMarket, if_neg ether]
  · intro symbol idx
    by_cases here : symbol = "ETHUSDT" ∧ idx = 1
    · obtain ⟨rfl, rfl⟩ := here
      rfl
    · rw [elsewhere symbol idx (not_and_or.mp here)]
  · intro symbol idx
    by_cases here : symbol = "ETHUSDT" ∧ idx = 1
    · obtain ⟨rfl, rfl⟩ := here
      rfl
    · rw [elsewhere symbol idx (not_and_or.mp here)]
  · intro symbol idx _
    by_cases here : symbol = "ETHUSDT" ∧ idx = 1
    · obtain ⟨rfl, rfl⟩ := here
      rfl
    · rw [elsewhere symbol idx (not_and_or.mp here)]
  · intro symbol idx available published known
    by_cases here : symbol = "ETHUSDT" ∧ idx = 1
    · obtain ⟨rfl, rfl⟩ := here
      -- this close is not available by the instant
      cases published
      exact absurd known (by decide)
    · rw [elsewhere symbol idx (not_and_or.mp here)]
  · intro symbol idx _
    by_cases here : symbol = "ETHUSDT" ∧ idx = 1
    · obtain ⟨rfl, rfl⟩ := here
      rfl
    · rw [elsewhere symbol idx (not_and_or.mp here)]

theorem etherMarket_never (published : ℤ) (later : 1 ≤ published) (close : PyFloat) :
    NeverBefore (etherMarket published close) := by
  have listed : ∀ symbol, ∀ bar ∈ etherMarket published close symbol, ∀ available,
      bar.available = some available → bar.time ≤ available := by
    intro symbol bar member available shown
    have hours : ∀ hour : ℤ, (quietBar hour).time ≤ (hour + 1) * hourLength := by
      intro hour
      change (hour * 3600000 : ℤ) ≤ (hour + 1) * 3600000
      omega
    unfold etherMarket at member
    split at member
    · simp only [List.mem_cons, List.not_mem_nil, or_false] at member
      rcases member with rfl | rfl | rfl <;> cases shown
      · exact hours 0
      · exact show (hourLength : ℤ) ≤ 50 * hourLength by decide
      · exact hours 2
    · split at member
      · simp only [List.mem_cons, List.not_mem_nil, or_false] at member
        rcases member with rfl | rfl | rfl <;> cases shown
        · exact hours _
        · change (1 * 3600000 : ℤ) ≤ published * 3600000
          omega
        · exact hours _
      · simp only [List.mem_cons, List.not_mem_nil, or_false] at member
        rcases member with rfl | rfl | rfl <;> cases shown <;> exact hours _
  intro symbol idx available shown
  have inside : ∀ bar, (bar = missingBar ∨ bar ∈ etherMarket published close symbol) →
      bar.available = some available → bar.time ≤ available := by
    rintro bar (rfl | member) shown
    · cases shown
      decide
    · exact listed symbol bar member available shown
  apply inside _ _ shown
  unfold barAt
  split
  · rw [List.getD_eq_getElem?_getD]
    cases found : (etherMarket published close symbol)[idx]? with
    | none => exact .inl rfl
    | some bar => exact .inr (List.mem_of_getElem? found)
  · exact .inl rfl

theorem etherMarket_order (close : PyFloat) :
    PublishedInOrder (3 * hourLength) 0 (100 * hourLength) (etherMarket 2 close) := by
  have bars : windowBars (etherMarket 2 close) 0 (100 * hourLength) = [0, 1, 2] := rfl
  have known : ∀ idx ∈ [0, 1, 2], openTime (etherMarket 2 close) idx ≤ 3 * hourLength
      ∧ publishedAt (etherMarket 2 close) idx ≤ 3 * hourLength := by
    intro idx member
    simp only [List.mem_cons, List.not_mem_nil, or_false] at member
    rcases member with rfl | rfl | rfl
    · exact show (0 * hourLength : ℤ) ≤ 3 * hourLength ∧ ((0 + 1) * hourLength : ℤ) ≤ 3 * hourLength by decide
    · exact show (1 * hourLength : ℤ) ≤ 3 * hourLength ∧ (2 * hourLength : ℤ) ≤ 3 * hourLength by decide
    · exact show (2 * hourLength : ℤ) ≤ 3 * hourLength ∧ ((2 + 1) * hourLength : ℤ) ≤ 3 * hourLength by decide
  rw [PublishedInOrder, bars]
  refine ⟨?_, ?_⟩
  · intro idx member _
    apply (known _ _).1
    simp only [List.mem_cons, List.not_mem_nil, or_false] at member ⊢
    omega
  · refine .cons ?_ (.cons ?_ (.cons nofun .nil))
    · exact fun _ _ _ => (known 0 (by decide)).2
    · exact fun _ _ _ => (known 1 (by decide)).2

/-- With the second hour of bitcoin published on time, the late close of ether does not
show. -/
theorem no_look_ahead_ether : ∃ a b, etherRun 2 hundred = .ok a ∧ etherRun 2 (.literal 200000) = .ok b
    ∧ ledgerBy (3 * hourLength) a = ledgerBy (3 * hourLength) b
    ∧ curveBy (3 * hourLength) a = curveBy (3 * hourLength) b := by
  have runs : (etherCurve 2 hundred).isSome = true ∧ (etherCurve 2 (.literal 200000)).isSome = true := by
    decide +kernel
  unfold etherCurve at runs
  cases left : etherRun 2 hundred with
  | error raised =>
    rw [left] at runs
    cases runs.1
  | ok a =>
    cases right : etherRun 2 (.literal 200000) with
    | error raised =>
      rw [right] at runs
      cases runs.2
    | ok b =>
      exact ⟨a, b, rfl, rfl, no_look_ahead (etherMarket_alike 2 hundred (.literal 200000))
        (etherMarket_never 2 (by decide) hundred) (etherMarket_order hundred) left right⟩

/-- The close of the second hour is available after the instant and changes a point
stamped by it. -/
theorem late_publication_looks_ahead :
    KnownAlike (3 * hourLength) (etherMarket 100 hundred) (etherMarket 100 (.literal 200000))
      ∧ NeverBefore (etherMarket 100 hundred) ∧ NeverBefore (etherMarket 100 (.literal 200000))
      ∧ ∃ a b, etherRun 100 hundred = .ok a ∧ etherRun 100 (.literal 200000) = .ok b
        ∧ curveBy (3 * hourLength) a ≠ curveBy (3 * hourLength) b := by
  refine ⟨etherMarket_alike .., etherMarket_never _ (by decide) _, etherMarket_never _ (by decide) _, ?_⟩
  have curves : (etherCurve 100 hundred).isSome = true ∧ (etherCurve 100 (.literal 200000)).isSome = true
      ∧ etherCurve 100 hundred ≠ etherCurve 100 (.literal 200000) := by
    decide +kernel
  unfold etherCurve at curves
  cases left : etherRun 100 hundred with
  | error raised =>
    rw [left] at curves
    cases curves.1
  | ok a =>
    cases right : etherRun 100 (.literal 200000) with
    | error raised =>
      rw [right] at curves
      cases curves.2.1
    | ok b =>
      refine ⟨a, b, rfl, rfl, ?_⟩
      intro same
      rw [left, right] at curves
      exact curves.2.2 (congrArg some same)

end BinancePlatform.Guarantees.NoLookAhead
