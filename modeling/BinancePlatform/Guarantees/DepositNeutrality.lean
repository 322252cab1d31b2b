import BinancePlatform.Library.Runs
import BinancePlatform.Source.BalanceRebase
import Mathlib.Algebra.BigOperators.Group.List.Basic
import Mathlib.Tactic.Ring

/-!
# Deposits and the daily PnL

Over every run of cycles and other writes, with failing writes and restarts from the
durable ledger: the daily PnL that a cycle reports is measured from the equity at the
last reset, less the principal accepted after it on the same day, each acceptance once.
A deposit that the resetting cycle accepts is part of the base. Arithmetic is exact, and
the collector of the cash flows is an input of each cycle.

Main results:
- `accounts_dailyCycle`: what a cycle does to the daily fields, and what it reports of them
- `collected_dailyCycle`: what a cycle accepts is what the collector reported to it
- `adds_run`: a run without a reset adds what it accepts
- `daily_pnl_neutral_to_deposits`: every report of a run
-/

set_option autoImplicit false

namespace BinancePlatform.Guarantees.DepositNeutrality
open BinancePlatform.Library BinancePlatform.Source

variable {γ : Type}

/-- The principal that a record has made durable on the given day. -/
def principalOn (today : String) : Option (CycleRecord ℚ) → ℚ
  | some record => if record.today = today then record.accepted.getD 0 else 0
  | none => 0

def principalsOn (today : String) (records : List (Option (CycleRecord ℚ))) : ℚ :=
  (records.map (principalOn today)).sum

/-- The reported PnL of a day with the given base and principal. -/
def pnlOf (base principal total : ℚ) : ℚ := if 0 < base then (total - base - principal) / base else 0

def noReset : Option (CycleRecord ℚ) → Prop
  | some record => record.reset = none
  | none => True

/-! ## One cycle -/

theorem computeDailyPnls_daily {daily : DailyState ℚ} {total trend : ℚ} {pnls : ℚ × ℚ}
    (success : computeDailyPnls daily total trend = .ok pnls) :
    pnls.1 = pnlOf daily.dailyEquityBase daily.dailyExternalPrincipal total := by
  unfold computeDailyPnls at success
  dsimp only at success
  by_cases risk : daily.dailyTrendRiskBase ≤ 0
  · rw [if_pos risk] at success
    by_cases active : daily.dailyTrendEquityBase ≠ 0 ∨ trend ≠ 0 ∨ daily.dailyTrendCashFlow ≠ 0
        ∨ daily.dailyTrendNetInvested ≠ 0 ∨ daily.dailyTrendThirdFee ≠ 0
    · rw [if_pos active] at success
      cases success
    · rw [if_neg active] at success
      cases success
      rfl
  · rw [if_neg risk] at success
    cases success
    rfl

/-- A rebase keeps the base and the date, and adds its principal if the day is open. -/
structure Adds (before after : DailyState ℚ) (today : String) (principal : ℚ) : Prop where
  base : after.dailyEquityBase = before.dailyEquityBase
  date : after.lastResetDate = before.lastResetDate
  principal : after.dailyExternalPrincipal = before.dailyExternalPrincipal
    + if before.lastResetDate = today then principal else 0

theorem adds_zero (daily : DailyState ℚ) (today : String) : Adds daily daily today 0 :=
  ⟨rfl, rfl, by simp⟩

theorem adds_withExternalPrincipal (daily : DailyState ℚ) (today : String) (principal : ℚ) :
    Adds daily (withExternalPrincipal daily today principal) today principal := by
  unfold withExternalPrincipal
  by_cases counts : principal ≠ 0 ∧ daily.lastResetDate = today
  · rw [if_pos counts]
    exact ⟨rfl, rfl, by rw [if_pos counts.2]⟩
  · rw [if_neg counts]
    refine ⟨rfl, rfl, ?_⟩
    by_cases open_ : daily.lastResetDate = today
    · have zero : principal = 0 := by
        by_contra nonzero
        exact counts ⟨nonzero, open_⟩
      rw [zero, if_pos open_, add_zero]
    · rw [if_neg open_, add_zero]

/-- What the reset leaves of the day. -/
structure Opened (daily : DailyState ℚ) (today : String) (equity : ℚ) : Prop where
  base : daily.dailyEquityBase = equity
  principal : daily.dailyExternalPrincipal = 0
  date : daily.lastResetDate = today

theorem opened_of_reset {ledger next : DailyLedger ℚ γ} {input : CycleInput ℚ γ}
    (success : maybeReset ledger input = .ok (some next)) : Opened next.daily input.today input.totalEquity := by
  unfold maybeReset at success
  obtain ⟨-, success⟩ := require_bind success
  obtain ⟨⟨daily, isReset⟩, reset, success⟩ := bind_ok success
  cases isReset with
  | false => cases success
  | true =>
    cases success
    unfold maybeResetDailyState at reset
    by_cases newDay : ledger.daily.lastResetDate ≠ input.today
    · rw [if_pos newDay] at reset
      cases reset
      exact ⟨rfl, rfl, rfl⟩
    · rw [if_neg newDay] at reset
      split_ifs at reset
      cases reset

theorem open_of_noReset {ledger : DailyLedger ℚ γ} {input : CycleInput ℚ γ}
    (success : maybeReset ledger input = .ok none) : ledger.daily.lastResetDate = input.today := by
  unfold maybeReset at success
  obtain ⟨-, success⟩ := require_bind success
  obtain ⟨⟨daily, isReset⟩, reset, success⟩ := bind_ok success
  cases isReset with
  | true => cases success
  | false =>
    unfold maybeResetDailyState at reset
    by_contra newDay
    rw [if_pos newDay] at reset
    cases reset

theorem report_ok {ledger : DailyLedger ℚ γ} {input : CycleInput ℚ γ} {total : ℚ} {pnls : ℚ × ℚ}
    (reported : reportOf ledger input = some (total, pnls)) :
    pnls.1 = pnlOf ledger.daily.dailyEquityBase ledger.daily.dailyExternalPrincipal total := by
  unfold reportOf at reported
  cases computed : computeDailyPnls ledger.daily input.totalEquity input.trendValEquity with
  | error raised =>
    rw [computed] at reported
    cases reported
  | ok found =>
    rw [computed] at reported
    cases reported
    exact computeDailyPnls_daily computed

/-- What a cycle does to the daily fields, and what it reports of them. -/
structure Accounts (before after : DailyState ℚ) (record : CycleRecord ℚ) : Prop where
  opened : ∀ equity, record.reset = some equity → Opened after record.today equity
  added : record.reset = none → Adds before after record.today (record.accepted.getD 0)
  reported : ∀ total pnls, record.report = some (total, pnls) → after.lastResetDate = record.today
    ∧ pnls.1 = pnlOf after.dailyEquityBase after.dailyExternalPrincipal total

theorem accounts_resetCycle {before : DailyState ℚ} {ledger : DailyLedger ℚ γ} {input : CycleInput ℚ γ}
    {accepted : Option ℚ} (write : WriteOutcome)
    (adds : Adds before ledger.daily input.today (accepted.getD 0)) :
    Accounts before (resetCycle ledger input accepted write).1.daily
      (resetCycle ledger input accepted write).2 := by
  unfold resetCycle
  cases outcome : maybeReset ledger input with
  | error raised => exact ⟨nofun, fun _ => adds, nofun⟩
  | ok decision =>
    cases decision with
    | none => exact ⟨nofun, fun _ => adds, fun _ _ shown => ⟨open_of_noReset outcome, report_ok shown⟩⟩
    | some next =>
      have opened := opened_of_reset outcome
      cases write with
      | lost => exact ⟨nofun, fun _ => adds, nofun⟩
      | applied =>
        refine ⟨?_, nofun, nofun⟩
        rintro equity ⟨⟩
        exact opened
      | returned =>
        refine ⟨?_, nofun, fun _ _ shown => ⟨opened.date, report_ok shown⟩⟩
        rintro equity ⟨⟩
        exact opened

section Cycle
variable [DecidableEq γ]

theorem adds_of_rebase {ledger : DailyLedger ℚ γ} {input : CycleInput ℚ γ} {rebased : Rebased ℚ γ}
    (success : maybeRebase ledger input = .ok (some rebased)) :
    Adds ledger.daily rebased.ledger.daily input.today rebased.principal := by
  unfold maybeRebase at success
  cases path : ledger.earnCheckpointAt with
  | some previousAt =>
    rw [path] at success
    obtain ⟨result, forward, same⟩ := map_ok success
    cases same
    unfold forwardRebase at forward
    obtain ⟨cash, -, forward⟩ := bind_ok forward
    obtain ⟨-, forward⟩ := require_bind forward
    obtain ⟨-, forward⟩ := require_bind forward
    obtain ⟨-, forward⟩ := require_bind forward
    obtain ⟨-, forward⟩ := require_bind forward
    obtain ⟨⟨⟩, -, forward⟩ := bind_ok forward
    obtain ⟨-, forward⟩ := require_bind forward
    cases forward
    exact adds_withExternalPrincipal _ _ _
  | none =>
    rw [path] at success
    unfold legacyRebase at success
    obtain ⟨-, success⟩ := require_bind success
    obtain ⟨-, success⟩ := require_bind success
    obtain ⟨cash, -, success⟩ := bind_ok success
    obtain ⟨cursor, -, success⟩ := bind_ok success
    by_cases deposited : cash.newDepositPrincipal ≠ 0
    · rw [if_pos deposited] at success
      obtain ⟨⟨⟩, -, success⟩ := bind_ok success
      cases success
      exact adds_withExternalPrincipal _ _ _
    · rw [if_neg deposited] at success
      split_ifs at success
      all_goals
        cases success
      all_goals exact adds_zero _ _

/-- What a daily cycle does to the daily fields and reports of them, for every outcome of its two
writes. -/
theorem accounts_dailyCycle (ledger : DailyLedger ℚ γ) (input : CycleInput ℚ γ)
    (rebaseWrite resetWrite : WriteOutcome) :
    Accounts ledger.daily (dailyCycle ledger input rebaseWrite resetWrite).1.daily
      (dailyCycle ledger input rebaseWrite resetWrite).2 := by
  unfold dailyCycle
  cases outcome : maybeRebase ledger input with
  | error raised => exact ⟨nofun, fun _ => adds_zero _ _, nofun⟩
  | ok decision =>
    cases decision with
    | none =>
      apply accounts_resetCycle resetWrite
      exact adds_zero _ _
    | some rebased =>
      have adds := adds_of_rebase outcome
      cases rebaseWrite with
      | lost => exact ⟨nofun, fun _ => adds_zero _ _, nofun⟩
      | applied => exact ⟨nofun, fun _ => adds, nofun⟩
      | returned =>
        apply accounts_resetCycle resetWrite
        exact adds

/-- The principal is what the collector reported from the durable cursor, and its cursor is
durable with it. -/
def Collected (before after : DailyLedger ℚ γ) (input : CycleInput ℚ γ) (principal : ℚ) : Prop :=
  ∃ cash, input.collectCashFlows before.cashFlowCursor = .ok cash ∧ cash.newDepositPrincipal = principal
    ∧ after.cashFlowCursor = cash.cursor

theorem collected_of_rebase {ledger : DailyLedger ℚ γ} {input : CycleInput ℚ γ} {rebased : Rebased ℚ γ}
    (success : maybeRebase ledger input = .ok (some rebased)) :
    Collected ledger rebased.ledger input rebased.principal := by
  unfold maybeRebase at success
  cases path : ledger.earnCheckpointAt with
  | some previousAt =>
    rw [path] at success
    obtain ⟨result, forward, same⟩ := map_ok success
    cases same
    unfold forwardRebase at forward
    obtain ⟨cash, collected, forward⟩ := bind_ok forward
    obtain ⟨-, forward⟩ := require_bind forward
    obtain ⟨-, forward⟩ := require_bind forward
    obtain ⟨-, forward⟩ := require_bind forward
    obtain ⟨-, forward⟩ := require_bind forward
    obtain ⟨⟨⟩, -, forward⟩ := bind_ok forward
    obtain ⟨-, forward⟩ := require_bind forward
    cases forward
    exact ⟨cash, mapError_ok collected, rfl, rfl⟩
  | none =>
    rw [path] at success
    unfold legacyRebase at success
    obtain ⟨-, success⟩ := require_bind success
    obtain ⟨-, success⟩ := require_bind success
    obtain ⟨cash, collected, success⟩ := bind_ok success
    obtain ⟨cursor, checked, success⟩ := bind_ok success
    have isCursor : some cursor = cash.cursor := by
      unfold checkLegacyCashFlows at checked
      obtain ⟨-, checked⟩ := require_bind checked
      cases found : cash.cursor with
      | none =>
        rw [found] at checked
        cases checked
      | some stored =>
        rw [found] at checked
        cases checked
        rfl
    by_cases deposited : cash.newDepositPrincipal ≠ 0
    · rw [if_pos deposited] at success
      obtain ⟨⟨⟩, -, success⟩ := bind_ok success
      cases success
      exact ⟨cash, mapError_ok collected, rfl, isCursor⟩
    · rw [if_neg deposited] at success
      split_ifs at success
      all_goals
        cases success
      all_goals exact ⟨cash, mapError_ok collected, not_not.mp deposited, isCursor⟩

omit [DecidableEq γ] in
/-- The reset leaves the cursor and what has been accepted. -/
theorem resetCycle_kept (ledger : DailyLedger ℚ γ) (input : CycleInput ℚ γ) (accepted : Option ℚ)
    (write : WriteOutcome) : (resetCycle ledger input accepted write).1.cashFlowCursor = ledger.cashFlowCursor
      ∧ (resetCycle ledger input accepted write).2.accepted = accepted := by
  unfold resetCycle
  cases outcome : maybeReset ledger input with
  | error raised => exact ⟨rfl, rfl⟩
  | ok decision =>
    cases decision with
    | none => exact ⟨rfl, rfl⟩
    | some next =>
      have kept : next.cashFlowCursor = ledger.cashFlowCursor := by
        unfold maybeReset at outcome
        obtain ⟨-, outcome⟩ := require_bind outcome
        obtain ⟨⟨daily, isReset⟩, -, outcome⟩ := bind_ok outcome
        cases isReset with
        | false => cases outcome
        | true =>
          cases outcome
          rfl
      cases write with
      | lost => exact ⟨rfl, rfl⟩
      | applied => exact ⟨kept, rfl⟩
      | returned => exact ⟨kept, rfl⟩

/-- An accepted principal is the collector's, from the durable cursor. -/
theorem collected_dailyCycle {ledger : DailyLedger ℚ γ} {input : CycleInput ℚ γ}
    {rebaseWrite resetWrite : WriteOutcome} {principal : ℚ}
    (accepted : (dailyCycle ledger input rebaseWrite resetWrite).2.accepted = some principal) :
    Collected ledger (dailyCycle ledger input rebaseWrite resetWrite).1 input principal := by
  unfold dailyCycle at accepted ⊢
  cases outcome : maybeRebase ledger input with
  | error raised =>
    rw [outcome] at accepted
    cases accepted
  | ok decision =>
    rw [outcome] at accepted
    cases decision with
    | none =>
      dsimp only at accepted
      rw [(resetCycle_kept _ _ _ _).2] at accepted
      cases accepted
    | some rebased =>
      have collected := collected_of_rebase outcome
      cases rebaseWrite with
      | lost => cases accepted
      | applied =>
        cases accepted
        exact collected
      | returned =>
        dsimp only at accepted ⊢
        obtain ⟨cursor, kept⟩ := resetCycle_kept rebased.ledger input (some rebased.principal) resetWrite
        rw [kept] at accepted
        cases accepted
        obtain ⟨cash, reported, isPrincipal, durable⟩ := collected
        exact ⟨cash, reported, isPrincipal, cursor.trans durable⟩

/-! ## Runs -/

variable {first start last : DailyLedger ℚ γ} {events : List (Option (CycleRecord ℚ))}

theorem accounts_step {before after : DailyLedger ℚ γ} {record : CycleRecord ℚ}
    (taken : DailyStep before (some record) after) : Accounts before.daily after.daily record := by
  cases taken with
  | cycle input rebaseWrite resetWrite => exact accounts_dailyCycle before input rebaseWrite resetWrite

theorem adds_step {before after : DailyLedger ℚ γ} {label : Option (CycleRecord ℚ)}
    (taken : DailyStep before label after) (quiet : noReset label) :
    after.daily.dailyEquityBase = before.daily.dailyEquityBase
      ∧ after.daily.lastResetDate = before.daily.lastResetDate
      ∧ after.daily.dailyExternalPrincipal
        = before.daily.dailyExternalPrincipal + principalOn before.daily.lastResetDate label := by
  cases label with
  | none =>
    cases taken with
    | trading base principal date => exact ⟨base, date, by rw [principal, principalOn, add_zero]⟩
  | some record =>
    have adds := (accounts_step taken).added quiet
    refine ⟨adds.base, adds.date, ?_⟩
    rw [adds.principal, principalOn]
    simp only [eq_comm]

/-- Without a reset, a run keeps the base and the date and adds what it accepts. -/
theorem adds_run (run : Run DailyStep start events last) (quiet : ∀ label ∈ events, noReset label) :
    last.daily.dailyEquityBase = start.daily.dailyEquityBase
      ∧ last.daily.lastResetDate = start.daily.lastResetDate
      ∧ last.daily.dailyExternalPrincipal
        = start.daily.dailyExternalPrincipal + principalsOn start.daily.lastResetDate events := by
  induction run with
  | start => exact ⟨rfl, rfl, by rw [principalsOn, List.map_nil, List.sum_nil, add_zero]⟩
  | @next labels label before after earlier taken ih =>
    obtain ⟨base, date, principal⟩ := ih fun other member => quiet other (List.mem_append_left _ member)
    obtain ⟨baseStep, dateStep, principalStep⟩ :=
      adds_step taken (quiet label (List.mem_append_right _ List.mem_cons_self))
    refine ⟨baseStep.trans base, dateStep.trans date, ?_⟩
    rw [principalStep, principal, date, principalsOn, principalsOn, List.map_append, List.sum_append,
      List.map_singleton, List.sum_singleton]
    ring

/-- A report of a run without a reset is measured from where the run starts. -/
theorem report_since {day back : List (Option (CycleRecord ℚ))} {record : CycleRecord ℚ} {total : ℚ}
    {pnls : ℚ × ℚ} (run : Run DailyStep start (day ++ back) last) (quiet : ∀ label ∈ day, noReset label)
    (reporter : day.getLast? = some (some record)) (report : record.report = some (total, pnls)) :
    record.today = start.daily.lastResetDate
      ∧ pnls.1 = pnlOf start.daily.dailyEquityBase
        (start.daily.dailyExternalPrincipal + principalsOn start.daily.lastResetDate day) total := by
  obtain ⟨earlier, rfl⟩ := List.getLast?_eq_some_iff.mp reporter
  rw [List.append_assoc] at run
  obtain ⟨before, after, opening, taken, -⟩ := run.split
  obtain ⟨base, date, principal⟩ := adds_run (Run.next opening taken) quiet
  obtain ⟨today, pnl⟩ := (accounts_step taken).reported total pnls report
  exact ⟨today.symm.trans date, by rw [pnl, base, principal]⟩

/-- **The daily PnL and deposits.** Every report is the PnL of the equity at the last reset
less the principal accepted since on that day; before the first reset of the run, of the
base and principal it starts with. A day that only gains its accepted deposits reports 0.
What a cycle accepts is what the collector reported to it. -/
theorem daily_pnl_neutral_to_deposits (run : Run DailyStep first events last) :
    (∀ front day back opening record equity total pnls,
      events = front ++ some opening :: (day ++ back) → opening.reset = some equity →
      (∀ label ∈ day, noReset label) → (some opening :: day).getLast? = some (some record) →
      record.report = some (total, pnls) →
        record.today = opening.today
          ∧ pnls.1 = pnlOf equity (principalsOn opening.today day) total
          ∧ (total = equity + principalsOn opening.today day → pnls.1 = 0))
    ∧ (∀ day back record total pnls, events = day ++ back → (∀ label ∈ day, noReset label) →
      day.getLast? = some (some record) → record.report = some (total, pnls) →
        record.today = first.daily.lastResetDate
          ∧ pnls.1 = pnlOf first.daily.dailyEquityBase
            (first.daily.dailyExternalPrincipal + principalsOn first.daily.lastResetDate day) total)
    ∧ ∀ front record back principal, events = front ++ some record :: back → record.accepted = some principal →
      ∃ before after input rebaseWrite resetWrite, Run DailyStep first front before
        ∧ dailyCycle before input rebaseWrite resetWrite = (after, record)
        ∧ Collected before after input principal := by
  refine ⟨?_, ?_, ?_⟩
  · rintro front day back opening record equity total pnls rfl reset quiet reporter report
    obtain ⟨before, after, -, taken, rest⟩ := run.split
    have accounts := accounts_step taken
    have opened := accounts.opened equity reset
    have measured : record.today = opening.today
        ∧ pnls.1 = pnlOf equity (principalsOn opening.today day) total := by
      cases day with
      | nil =>
        cases reporter
        obtain ⟨-, pnl⟩ := accounts.reported total pnls report
        exact ⟨rfl, by rw [pnl, opened.base, opened.principal]; rfl⟩
      | cons label others =>
        rw [List.getLast?_cons_cons] at reporter
        obtain ⟨today, pnl⟩ := report_since rest quiet reporter report
        rw [opened.date] at today pnl
        exact ⟨today, by rw [pnl, opened.base, opened.principal, zero_add]⟩
    refine ⟨measured.1, measured.2, ?_⟩
    intro gained
    rw [measured.2, gained, pnlOf]
    split_ifs
    · rw [add_sub_cancel_left, sub_self, zero_div]
    · rfl
  · rintro day back record total pnls rfl quiet reporter report
    exact report_since run quiet reporter report
  · rintro front record back principal rfl accepted
    obtain ⟨before, after, earlier, taken, -⟩ := run.split
    cases taken with
    | cycle input rebaseWrite resetWrite =>
      exact ⟨before, _, input, rebaseWrite, resetWrite, earlier, rfl, collected_dailyCycle accepted⟩

end Cycle

/-! ## A day with a deposit -/

def exampleLedger : DailyLedger ℚ ℕ where
  daily := ⟨900, 90, 0, 0, 90, 0, 7, "2026-11-03", false⟩
  trendPnlBasis := some trendPnlBasis
  lastBalanceSnapshot := ⟨[("USDT", 900), ("BTC", 0)]⟩
  cashFlowCursor := some 0
  earnCheckpointAt := none

/-- A cycle on 2026-11-04 at the given second that finds the given USDT and deposits. -/
def exampleInput (second : ℤ) (usdt : ℚ) (deposits : ℚ) : CycleInput ℚ ℕ where
  now := (20761 * 86400 + second) * 1000000
  totalEquity := usdt
  trendValEquity := 0
  balanceSnapshot := ⟨[("USDT", usdt), ("BTC", 0)]⟩
  collectCashFlows := fun _ => .ok ⟨deposits, if deposits = 0 then [] else [(20761 * 86400 + second) * 1000000],
    if deposits = 0 then 0 else 1, 0, 0, some second.toNat⟩
  earnVerified := fun _ => .ok ()

def exampleReset : DailyLedger ℚ ℕ × CycleRecord ℚ :=
  dailyCycle exampleLedger (exampleInput 60 900 0) .returned .returned

def exampleDeposit : DailyLedger ℚ ℕ × CycleRecord ℚ :=
  dailyCycle exampleReset.1 (exampleInput 120 950 50) .returned .returned

theorem daily_pnl_neutral_deposit_day :
    exampleDeposit.2.accepted = some 50 ∧ ∃ total pnls, exampleDeposit.2.report = some (total, pnls)
      ∧ pnls.1 = pnlOf 900 50 total
      ∧ ∃ (before after : DailyLedger ℚ ℕ) (input : CycleInput ℚ ℕ) (rebaseWrite resetWrite : WriteOutcome),
        dailyCycle before input rebaseWrite resetWrite = (after, exampleDeposit.2)
        ∧ Collected before after input 50 := by
  refine ⟨by decide +kernel, ?_⟩
  obtain ⟨⟨total, pnls⟩, report⟩ := Option.isSome_iff_exists.mp
    (show exampleDeposit.2.report.isSome = true by decide +kernel)
  refine ⟨total, pnls, report, ?_⟩
  have accepted : exampleDeposit.2.accepted = some 50 := by decide +kernel
  have opens : DailyStep exampleLedger (some exampleReset.2) exampleReset.1 := by
    unfold exampleReset
    exact .cycle (exampleInput 60 900 0) .returned .returned
  have deposits : DailyStep exampleReset.1 (some exampleDeposit.2) exampleDeposit.1 := by
    unfold exampleDeposit
    exact .cycle (exampleInput 120 950 50) .returned .returned
  have reset : exampleReset.2.reset = some 900 := by decide +kernel
  have quiet : exampleDeposit.2.reset = none := by decide +kernel
  have principal : principalsOn exampleReset.2.today [some exampleDeposit.2] = 50 := by decide +kernel
  -- the two records are only named from here on
  generalize exampleReset.2 = opening at opens reset principal
  generalize exampleDeposit.2 = record at deposits quiet principal report accepted ⊢
  have run : Run DailyStep exampleLedger (([] ++ [some opening]) ++ [some record]) exampleDeposit.1 :=
    .next (.next .start opens) deposits
  have measured := (daily_pnl_neutral_to_deposits run).1 [] [some record] [] opening record 900 total pnls
    rfl reset (by
      intro label member
      rw [List.mem_singleton.mp member]
      exact quiet) rfl report
  obtain ⟨before, after, input, rebaseWrite, resetWrite, -, cycle, collected⟩ :=
    (daily_pnl_neutral_to_deposits run).2.2 [some opening] record [] 50 rfl accepted
  exact ⟨by rw [measured.2.1, principal], before, after, input, rebaseWrite, resetWrite, cycle, collected⟩

end BinancePlatform.Guarantees.DepositNeutrality
