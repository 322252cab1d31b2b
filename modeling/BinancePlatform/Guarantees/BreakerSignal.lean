import BinancePlatform.Source.DailyAccounting
import Mathlib.Algebra.Order.Ring.Rat
import Mathlib.Tactic.FieldSimp
import Mathlib.Tactic.Linarith
import Mathlib.Tactic.Ring

/-!
# The breaker signal in the backtest and live

One trading day seen by both programs: opening holdings, then marks and trades in
any order, fills at the mark and without fees. The backtest compares marked
holdings with the opening value; live adds the day's cash flow and divides by a
risk base that grows with the peak of the net principal.

* `live_of_run`: what the live accounting holds after any run;
* `breakerSignals_agree_iff`: the exact relation between opening value, marked
  value, net principal and its peak under which the two signals are equal.
-/

set_option autoImplicit false

namespace BinancePlatform.Guarantees.BreakerSignal
open BinancePlatform.Source

/-- Prices at one moment; an absent one is a missing quote. -/
structure Marks (σ : Type) where
  price : σ → Option ℚ
  positive : ∀ symbol p, price symbol = some p → 0 < p

structure Holdings (σ : Type) where
  quantity : σ → ℚ
  nonneg : ∀ symbol, 0 ≤ quantity symbol

inductive Side where
  | buy
  | sell
  deriving DecidableEq, Repr

inductive DayEvent (σ : Type) where
  | mark (marks : Marks σ)
  | trade (side : Side) (symbol : σ) (quantity : {q : ℚ // 0 < q})

/-- The live state before the first cycle of a day. -/
structure DayStart where
  yesterday : DailyState ℚ
  today : String
  newDay : yesterday.lastResetDate ≠ today

/-- Both programs at one moment of the day. -/
structure TradingDay (σ : Type) where
  positions : σ → ℚ
  marks : Marks σ
  dailyTrendEquityBase : ℚ
  live : DailyState ℚ

def Side.sign : Side → ℚ
  | .buy => 1
  | .sell => -1

section Day
variable {σ : Type} [DecidableEq σ]

/-- A trade fills at the mark; without a quote there is no fill. -/
def step (day : TradingDay σ) : DayEvent σ → TradingDay σ
  | .mark marks => { day with marks := marks }
  | .trade side symbol quantity =>
    match day.marks.price symbol with
    | none => day
    | some price =>
      { day with
        positions := Function.update day.positions symbol
          (day.positions symbol + side.sign * quantity.val)
        live := recordTrendFill day.live ⟨quantity.val * price, 0⟩
          (-(side.sign * (quantity.val * price))) }

def runDay (day : TradingDay σ) (events : List (DayEvent σ)) : TradingDay σ := events.foldl step day

def TradingDay.trendVal (day : TradingDay σ) (symbols : List σ) : ℚ :=
  positionValue symbols day.positions day.marks.price

omit [DecidableEq σ] in
theorem positionValue_nonneg (symbols : List σ) (opening : Holdings σ) (marks : Marks σ) :
    0 ≤ positionValue symbols opening.quantity marks.price := by
  have fromTotal : ∀ total : ℚ, 0 ≤ total → 0 ≤ symbols.foldl (fun total symbol =>
      (marks.price symbol).elim total fun price => total + opening.quantity symbol * price) total := by
    induction symbols with
    | nil => exact fun total nonneg => nonneg
    | cons head tail ih =>
      intro total nonneg
      refine ih _ ?_
      dsimp only
      cases quoted : marks.price head with
      | none => exact nonneg
      | some price =>
        exact add_nonneg nonneg (mul_nonneg (opening.nonneg head) (marks.positive head price quoted).le)
  exact fromTotal 0 le_rfl

/-- Both programs take the marked opening holdings as the day's base. -/
def openDay (symbols : List σ) (start : DayStart) (opening : Holdings σ) (marks : Marks σ)
    (totalEquity : ℚ) : TradingDay σ :=
  let base := positionValue symbols opening.quantity marks.price
  { positions := opening.quantity
    marks := marks
    dailyTrendEquityBase := base
    live := match maybeResetDailyState start.yesterday start.today totalEquity base with
      | .ok (state, _) => state
      | .error _ => start.yesterday }

/-! ## Net principal -/

/-- What an event adds to the net principal of the day. -/
def principalFlow (marks : Marks σ) : DayEvent σ → ℚ
  | .mark _ => 0
  | .trade side symbol quantity =>
    match marks.price symbol with
    | none => 0
    | some price => side.sign * (quantity.val * price)

def marksAfter (marks : Marks σ) : DayEvent σ → Marks σ
  | .mark next => next
  | .trade _ _ _ => marks

/-- The net principal of the day and its peak, which starts at zero. -/
structure Principal where
  net : ℚ
  peak : ℚ

def Principal.add (principal : Principal) (flow : ℚ) : Principal :=
  ⟨principal.net + flow, max principal.peak (principal.net + flow)⟩

def principalAlong (marks : Marks σ) (principal : Principal) : List (DayEvent σ) → Principal
  | [] => principal
  | event :: rest =>
    principalAlong (marksAfter marks event) (principal.add (principalFlow marks event)) rest

/-- The live accounting of a day as a function of opening value and principal. -/
structure Accounts (base : ℚ) (day : TradingDay σ) (principal : Principal) : Prop where
  baseLive : day.live.dailyTrendEquityBase = base
  baseBacktest : day.dailyTrendEquityBase = base
  cashFlow : day.live.dailyTrendCashFlow = -principal.net
  netInvested : day.live.dailyTrendNetInvested = principal.net
  riskBase : day.live.dailyTrendRiskBase = base + principal.peak
  thirdFee : day.live.dailyTrendThirdFee = 0
  peakNonneg : 0 ≤ principal.peak
  netLePeak : principal.net ≤ principal.peak

omit [DecidableEq σ] in
theorem accounts_open (symbols : List σ) (start : DayStart) (opening : Holdings σ) (marks : Marks σ)
    (totalEquity : ℚ) :
    Accounts (positionValue symbols opening.quantity marks.price)
      (openDay symbols start opening marks totalEquity) ⟨0, 0⟩ := by
  have nonneg := positionValue_nonneg symbols opening marks
  constructor <;> simp [openDay, maybeResetDailyState, start.newDay, nonneg]

theorem accounts_step {base : ℚ} {day : TradingDay σ} {principal : Principal}
    (before : Accounts base day principal) (event : DayEvent σ) :
    Accounts base (step day event) (principal.add (principalFlow day.marks event))
      ∧ (step day event).marks = marksAfter day.marks event := by
  have idle : principal.add 0 = principal := by
    simp [Principal.add, before.netLePeak]
  cases event with
  | mark next =>
    rw [principalFlow, idle]
    exact ⟨⟨before.baseLive, before.baseBacktest, before.cashFlow, before.netInvested,
      before.riskBase, before.thirdFee, before.peakNonneg, before.netLePeak⟩, rfl⟩
  | trade side symbol quantity =>
    cases quoted : day.marks.price symbol with
    | none =>
      simp only [step, principalFlow, quoted, idle, marksAfter, and_true]
      exact before
    | some price =>
      have notional : 0 < quantity.val * price :=
        mul_pos quantity.property (day.marks.positive symbol price quoted)
      have principalDelta : (if -(side.sign * (quantity.val * price)) < 0 then quantity.val * price
          else -(quantity.val * price)) = side.sign * (quantity.val * price) := by
        cases side with
        | buy => simp [Side.sign, notional]
        | sell => simp [Side.sign, notional.le]
      refine ⟨?_, by simp [step, quoted, marksAfter]⟩
      have risk : max (base + principal.peak)
          (base + max 0 (principal.net + side.sign * (quantity.val * price)))
            = base + max principal.peak (principal.net + side.sign * (quantity.val * price)) := by
        rw [max_add_add_left, ← max_assoc, max_eq_left before.peakNonneg]
      constructor
      · simpa [step, quoted, recordTrendFill] using before.baseLive
      · simpa [step, quoted] using before.baseBacktest
      · simp only [step, quoted, recordTrendFill, before.cashFlow, Principal.add, principalFlow]
        ring
      · simp only [step, quoted, recordTrendFill, before.netInvested, principalDelta, Principal.add,
          principalFlow]
      · simp only [step, quoted, recordTrendFill, before.netInvested, before.riskBase,
          before.baseLive, principalDelta, Principal.add, principalFlow, risk]
      · simp [step, quoted, recordTrendFill, before.thirdFee]
      · exact le_max_of_le_left before.peakNonneg
      · exact le_max_right _ _

theorem accounts_run {base : ℚ} {day : TradingDay σ} {principal : Principal}
    (before : Accounts base day principal) (events : List (DayEvent σ)) :
    Accounts base (runDay day events) (principalAlong day.marks principal events) := by
  induction events generalizing day principal with
  | nil => exact before
  | cons event rest ih =>
    obtain ⟨after, marks⟩ := accounts_step before event
    have tail := ih after
    rw [marks] at tail
    exact tail

/-! ## Agreement -/

/-- The trend PnL that live compares with the breaker threshold. -/
def liveTrendPnl (symbols : List σ) (day : TradingDay σ) (totalEquity : ℚ) : Except PyException ℚ :=
  (computeDailyPnls day.live totalEquity (day.trendVal symbols)).map Prod.snd

def SignalsAgree (symbols : List σ) (day : TradingDay σ) (totalEquity : ℚ) : Prop :=
  liveTrendPnl symbols day totalEquity
    = .ok (backtestTrendPnl day.dailyTrendEquityBase (day.trendVal symbols))

/-- The relation between opening value, marked value, net principal and its peak. -/
def Neutral (base value : ℚ) (principal : Principal) : Prop :=
  if base = 0 then
    if principal.peak = 0 then value = 0 ∧ principal.net = 0 else value = principal.net
  else principal.peak * (value - base) = -(principal.net * base)

omit [DecidableEq σ] in
theorem signalsAgree_of_accounts {base : ℚ} {day : TradingDay σ} {principal : Principal}
    (accounts : Accounts base day principal) (baseNonneg : 0 ≤ base) (symbols : List σ)
    (totalEquity : ℚ) :
    SignalsAgree symbols day totalEquity ↔ Neutral base (day.trendVal symbols) principal := by
  have peak := accounts.peakNonneg
  simp only [SignalsAgree, liveTrendPnl, computeDailyPnls, accounts.baseLive, accounts.baseBacktest,
    accounts.cashFlow, accounts.netInvested, accounts.riskBase, accounts.thirdFee, Neutral,
    backtestTrendPnl]
  by_cases zeroBase : base = 0
  · subst zeroBase
    by_cases zeroPeak : principal.peak = 0
    · simp only [zeroPeak, add_zero, le_refl, if_true]
      by_cases still : day.trendVal symbols = 0 ∧ principal.net = 0
      · simp [still, Except.map]
      · have moved : (0 : ℚ) ≠ 0 ∨ day.trendVal symbols ≠ 0 ∨ -principal.net ≠ 0
            ∨ principal.net ≠ 0 ∨ (0 : ℚ) ≠ 0 := by
          rw [not_and_or] at still
          tauto
        rw [if_pos moved]
        simpa [Except.map] using still
    · have positive : ¬ (0 + principal.peak ≤ 0) := by
        rw [zero_add, not_le]
        exact lt_of_le_of_ne peak (Ne.symm zeroPeak)
      rw [if_neg positive]
      simp only [if_true, if_neg zeroPeak, Except.map, Except.ok.injEq, zero_add, sub_zero]
      rw [div_eq_zero_iff, or_iff_left zeroPeak]
      constructor <;> intro h <;> linarith
  · have positiveBase : 0 < base := lt_of_le_of_ne baseNonneg (Ne.symm zeroBase)
    have positiveRisk : 0 < base + principal.peak := by linarith
    rw [if_neg (not_le.mpr positiveRisk), if_neg zeroBase, if_neg zeroBase]
    simp only [Except.map, Except.ok.injEq]
    rw [div_eq_div_iff positiveRisk.ne' zeroBase]
    constructor <;> intro h <;> linarith

/-- The two signals are equal exactly where the day's trades were neutral. -/
theorem breakerSignals_agree_iff (symbols : List σ) (start : DayStart) (opening : Holdings σ)
    (marks : Marks σ) (openingEquity totalEquity : ℚ) (events : List (DayEvent σ)) :
    SignalsAgree symbols (runDay (openDay symbols start opening marks openingEquity) events) totalEquity
      ↔ Neutral (positionValue symbols opening.quantity marks.price)
          ((runDay (openDay symbols start opening marks openingEquity) events).trendVal symbols)
          (principalAlong marks ⟨0, 0⟩ events) :=
  signalsAgree_of_accounts
    (accounts_run (accounts_open symbols start opening marks openingEquity) events)
    (positionValue_nonneg symbols opening marks) symbols totalEquity

end Day

/-- Selling the whole sleeve at its opening mark leaves live at zero and the backtest at
minus one. -/
theorem breakerSignals_differ :
    ¬ ∀ (symbols : List Unit) (start : DayStart) (opening : Holdings Unit) (marks : Marks Unit)
        (openingEquity totalEquity : ℚ) (events : List (DayEvent Unit)),
      SignalsAgree symbols (runDay (openDay symbols start opening marks openingEquity) events)
        totalEquity := by
  intro agree
  let opening : Holdings Unit := ⟨fun _ => 1, by simp⟩
  let marks : Marks Unit := ⟨fun _ => some 100, by simp⟩
  let start : DayStart := ⟨⟨0, 0, 0, 0, 0, 0, 0, "", false⟩, "2024-01-01", by decide⟩
  have equal := agree [()] start opening marks 100 100 [.trade .sell () ⟨1, by norm_num⟩]
  have live : liveTrendPnl [()] (runDay (openDay [()] start opening marks 100)
      [.trade .sell () ⟨1, by norm_num⟩]) 100 = .ok 0 := by decide +kernel
  have backtest : backtestTrendPnl (runDay (openDay [()] start opening marks 100)
      [.trade .sell () ⟨1, by norm_num⟩]).dailyTrendEquityBase
      ((runDay (openDay [()] start opening marks 100)
        [.trade .sell () ⟨1, by norm_num⟩]).trendVal [()]) = -1 := by decide +kernel
  rw [SignalsAgree, live, backtest] at equal
  cases equal

end BinancePlatform.Guarantees.BreakerSignal
