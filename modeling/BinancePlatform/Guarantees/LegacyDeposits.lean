import BinancePlatform.Source.LegacyRebase

/-!
# A deposit on a ledger without an Earn checkpoint

A slice of supported deposits of today that explains the change of USDT is booked
exactly when the change detection lists USDT, on a ledger with a snapshot and a cursor
(`deposit_reconciled`): a principal up to 0.0001 USDT is refused as a mismatch
(`small_deposit_refused`). Whatever is raised before the write leaves the state as it
was.
-/

set_option autoImplicit false

namespace BinancePlatform.Guarantees.LegacyDeposits
open BinancePlatform.Library BinancePlatform.Source

/-! ## Nothing is left of a run that raises -/

/-- Neither the state nor the writes have been touched. -/
def Untouched (start s : Legacy.RebaseState) : Prop :=
  s.state = start.state ∧ s.writes = start.writes

/-- If there has been no write, the state is the first one. -/
def Traceless (start s : Legacy.RebaseState) : Prop :=
  s.writes = start.writes → s.state = start.state

section Traceless
variable {start : Legacy.RebaseState} {α : Type} {P Q E : Legacy.RebaseState → Prop}

theorem evaluate_meets (outcome : Except PyException α) :
    Program.Meets P (Legacy.evaluate outcome) P P := by
  intro s holds
  cases outcome with
  | error raised => exact holds
  | ok value => exact holds

theorem leave_meets (raised : PyException) :
    Program.Meets P (Program.leave raised : Legacy.Rebasing α) Q P :=
  Program.Meets.leave fun _ holds => holds

theorem diagnose_meets (name : String) (entry : Document) :
    Program.Meets (Untouched start) (Legacy.diagnose name entry) (Untouched start) E :=
  Program.Meets.update fun _ holds => holds

theorem refuseWhen_meets {refused : Bool} {report : Legacy.Rebasing Unit} (raised : PyException)
    (reports : Program.Meets P report P P) :
    Program.Meets P (Legacy.refuseWhen refused report raised) P P :=
  Program.Meets.ite (reports.bind fun _ => leave_meets raised) Program.Meets.pure

theorem unexplained_meets (input : Legacy.RebaseInput) (changed : List String) (code : Option String) :
    Program.Meets (Untouched start) (Legacy.unexplained input changed code : Legacy.Rebasing α) Q
      (Untouched start) := by
  unfold Legacy.unexplained
  refine Program.Meets.bind (diagnose_meets _ _) fun _ => ?_
  exact Program.Meets.bind (Program.Meets.update fun _ holds => holds) fun _ => leave_meets _

theorem collectCashFlows_meets (input : Legacy.RebaseInput) (cursor : Value) :
    Program.Meets (Untouched start) (Legacy.collectCashFlows input cursor) (Untouched start)
      (Untouched start) := by
  unfold Legacy.collectCashFlows
  split
  · exact Program.Meets.pure
  · exact Program.Meets.ite ((diagnose_meets _ _).bind fun _ => leave_meets _) (leave_meets _)

/-- A write is noted before its outcome is known. -/
theorem persist_meets (input : Legacy.RebaseInput) (reason : String) :
    Program.Meets (fun s => s.writes = start.writes) (Legacy.persist input reason) (fun _ => True)
      (Traceless start) := by
  intro s same
  have noted : (Legacy.persist input reason s).2.writes ≠ start.writes := by
    simp [Legacy.persist, same]
  cases ran : Legacy.persist input reason s with
  | mk outcome reached =>
    rw [ran] at noted
    cases outcome with
    | ok _ => trivial
    | error _ => exact fun unchanged => absurd unchanged noted

theorem update_meets {f : Legacy.RebaseState → Legacy.RebaseState}
    (kept : ∀ s, (f s).writes = s.writes) :
    Program.Meets (fun s => s.writes = start.writes) (Program.update f : Legacy.Rebasing Unit)
      (fun s => s.writes = start.writes) E :=
  Program.Meets.update fun s same => (kept s).trans same

/-- From an untouched state on, what is raised before a write has left no trace. -/
def Fails (program : Legacy.Rebasing α) (start : Legacy.RebaseState) : Prop :=
  Program.Meets (Untouched start) program (fun _ => True) (Traceless start)

/-- A check that touches nothing may come first. -/
theorem Fails.after {β : Type} {check : Legacy.Rebasing β} {next : β → Legacy.Rebasing α}
    (checks : Program.Meets (Untouched start) check (Untouched start) (Untouched start))
    (rest : ∀ value, Fails (next value) start) : Fails (check >>= next) start :=
  Program.Meets.bind
    (checks.weaken (fun _ => id) (fun _ => id) fun _ untouched _ => untouched.1) rest

variable (input : Legacy.RebaseInput)

/-- From here on only the writes matter. -/
theorem Fails.of_unwritten {program : Legacy.Rebasing α}
    (meets : Program.Meets (fun s => s.writes = start.writes) program (fun _ => True)
      (Traceless start)) : Fails program start :=
  meets.weaken (fun _ untouched => untouched.2) (fun _ => id) (fun _ => id)

theorem findChanges_meets (state : Document) :
    Program.Meets (Untouched start) (Legacy.findChanges input state) (Untouched start)
      (Untouched start) := by
  unfold Legacy.findChanges
  refine Program.Meets.bind (evaluate_meets _) fun _ => ?_
  refine Program.Meets.bind (refuseWhen_meets _ Program.Meets.pure) fun _ => ?_
  exact Program.Meets.ite (unexplained_meets input _ _) Program.Meets.pure

theorem keepBaseline_fails (first : Bool) (cursor : Value) (cash : Legacy.CheckedCashFlows) :
    Fails (Legacy.keepBaseline input first cursor cash) start := by
  unfold Legacy.keepBaseline
  refine Fails.of_unwritten ?_
  refine Program.Meets.bind (update_meets fun s => by cases first <;> rfl) fun _ => ?_
  refine Program.Meets.ite ?_ fun _ _ => trivial
  refine Program.Meets.bind (update_meets fun _ => rfl) fun _ => ?_
  exact Program.Meets.bind (persist_meets input _) fun _ => Program.Meets.pure

theorem refuseChange_fails (changed : List String) (cash : Legacy.CheckedCashFlows) :
    Fails (Legacy.refuseChange input changed cash) start := by
  unfold Legacy.refuseChange
  refine Fails.after ?_ fun _ => ?_
  · generalize (if cash.withdrawals ≠ 0 then _ else _ : Option String) = reason
    cases reason with
    | none => exact Program.Meets.pure
    | some code => exact diagnose_meets _ _
  · exact (unexplained_meets input changed none).weaken (fun _ => id) (fun _ => id)
      fun _ untouched _ => untouched.1

variable [CharacterTable]

theorem checkDeposit_meets (previous : Document) (changed : List String)
    (cash : Legacy.CheckedCashFlows) :
    Program.Meets (Untouched start) (Legacy.checkDeposit input previous changed cash)
      (Untouched start) (Untouched start) := by
  unfold Legacy.checkDeposit
  refine Program.Meets.bind (refuseWhen_meets _ (diagnose_meets _ _)) fun _ => ?_
  refine Program.Meets.bind (evaluate_meets _) fun _ => ?_
  refine Program.Meets.bind (refuseWhen_meets _ (diagnose_meets _ _)) fun _ => ?_
  exact Program.Meets.bind Program.Meets.get fun _ => evaluate_meets _

theorem collectChecked_meets (cursor : Value) :
    Program.Meets (Untouched start) (Legacy.collectChecked input cursor) (Untouched start)
      (Untouched start) := by
  unfold Legacy.collectChecked
  refine Program.Meets.bind (collectCashFlows_meets input cursor) fun _ => ?_
  exact Program.Meets.bind (evaluate_meets _) fun _ => evaluate_meets _

theorem reconcileDeposit_fails (previous : Document) (changed : List String)
    (cash : Legacy.CheckedCashFlows) :
    Fails (Legacy.reconcileDeposit input previous changed cash) start := by
  unfold Legacy.reconcileDeposit
  refine Fails.after (checkDeposit_meets input previous changed cash) fun accumulated => ?_
  refine Fails.of_unwritten ?_
  refine Program.Meets.bind (update_meets fun _ => rfl) fun _ => ?_
  refine Program.Meets.bind (update_meets fun _ => rfl) fun _ => ?_
  exact Program.Meets.bind (persist_meets input _) fun _ => Program.Meets.pure

theorem maybeRebaseDailyState_fails : Fails (Legacy.maybeRebaseDailyState input) start := by
  unfold Legacy.maybeRebaseDailyState
  refine Fails.after (refuseWhen_meets _ Program.Meets.pure) fun _ => ?_
  refine Fails.after Program.Meets.get fun reached => ?_
  refine Fails.after (findChanges_meets input _) fun changed => ?_
  refine Fails.after (collectChecked_meets input _) fun cash => ?_
  refine Program.Meets.ite (reconcileDeposit_fails input _ _ _) ?_
  exact Program.Meets.ite (keepBaseline_fails input _ _ _) (refuseChange_fails input _ _)

end Traceless

/-! ## A deposit that explains the change -/

section Deposits
variable [CharacterTable]

/-- The slice reports supported deposits of today whose principal differs from the change
of USDT by at most `10⁻⁸`, and no other asset has changed. -/
structure Explains (input : Legacy.RebaseInput) (state slice : Document)
    (cash : Legacy.CheckedCashFlows) (changed : List String) (before after : Decimal) : Prop where
  collected : input.collectExternalCashFlows input.now (pyGet state "external_cash_flow_cursor")
    = .ok slice
  read : Legacy.readCashFlows input.localInstant slice
    = .ok (.finite cash.principal, cash.completedAt)
  checked : Legacy.checkCashFlows slice (.finite cash.principal) cash.completedAt = .ok cash
  positive : 0 < cash.principal.value
  today : ∀ t ∈ cash.completedAt, DateTime.dayOf t = DateTime.dayOf input.now
  supported : cash.unsupported = 0 ∧ cash.withdrawals = 0
  changes : Legacy.changedAssets (Legacy.previousSnapshot input state)
    input.currentBalanceSnapshot = .ok changed
  onlyUsdt : ∀ asset ∈ changed, asset = "USDT"
  previousUsdt : Legacy.decimalQuantity
    (((Legacy.previousSnapshot input state).get? "USDT").getD zeroFloat) = .ok before
  currentUsdt : Legacy.decimalQuantity
    ((input.currentBalanceSnapshot.get? "USDT").getD zeroFloat) = .ok after
  exact : |after.value - before.value - cash.principal.value| ≤ 1 / 10 ^ 8

/-- The day of the run is the one that the daily state has been reset for. -/
def SameDay (input : Legacy.RebaseInput) (state : Document) : Prop :=
  (pyGet state "last_reset_date").isStr (DateTime.dateIsoformat input.now) = true

/-- The state as the deposit changes it. -/
structure Booked (input : Legacy.RebaseInput) (state : Document) (cash : Legacy.CheckedCashFlows)
    (written : Document) : Prop where
  snapshot : written.get? "last_balance_snapshot" = some (.dict input.currentBalanceSnapshot)
  cursor : written.get? "external_cash_flow_cursor" = some (.dict cash.cursor)
  added : SameDay input state → ∃ sum, Legacy.accumulatedPrincipal state cash.principal = .ok sum
    ∧ written.get? "daily_external_principal_usdt" = some (.float (.ofDecimal sum))
  otherDay : ¬SameDay input state →
    written.get? "daily_external_principal_usdt" = state.get? "daily_external_principal_usdt"
  others : ∀ key, key ≠ "last_balance_snapshot" → key ≠ "external_cash_flow_cursor" →
    key ≠ "daily_external_principal_usdt" → written.get? key = state.get? key

/-- One write of the booked state; the call returns `True` if the write returns. -/
def Reconciles (input : Legacy.RebaseInput) (start : Legacy.RebaseState)
    (cash : Legacy.CheckedCashFlows) : Prop :=
  ∃ written, Booked input start.state cash written
    ∧ (Legacy.maybeRebaseDailyState input start).2.writes
      = start.writes ++ [("external_cash_flow_reconciliation", written)]
    ∧ (Legacy.maybeRebaseDailyState input start).2.state
      = (input.runtimeSetTradeState "external_cash_flow_reconciliation" written).2
    ∧ (Legacy.maybeRebaseDailyState input start).1
      = (input.runtimeSetTradeState "external_cash_flow_reconciliation" written).1.map fun _ => true

/-- No receipts, a stored snapshot and a stored cursor, a change of USDT that the change
detection lists, a difference that the default context does not round above `10⁻⁸`, and on
a matching day a stored principal that can be added to. -/
structure Registers (input : Legacy.RebaseInput) (state : Document)
    (cash : Legacy.CheckedCashFlows) (changed : List String) (before after : Decimal) : Prop where
  noReceipts : input.receiptEnabled = false
  initialized : Legacy.initializing state = false
  cursor : Legacy.isNone (pyGet state "external_cash_flow_cursor") = false
  listed : changed = ["USDT"]
  unrounded : ∃ observed, after.sub defaultContext before = some observed
    ∧ Legacy.differs observed cash.principal = .ok false
  readable : SameDay input state →
    ∃ sum, Legacy.accumulatedPrincipal state cash.principal = .ok sum

theorem booked_depositState {input : Legacy.RebaseInput} {state : Document}
    {cash : Legacy.CheckedCashFlows} {accumulated : Option Decimal}
    (found : Legacy.dailyPrincipal input state cash.principal = .ok accumulated) :
    Booked input state cash (Legacy.depositState input state cash.cursor accumulated) := by
  unfold Legacy.dailyPrincipal at found
  split at found
  · rename_i day
    obtain ⟨sum, added, same⟩ := map_ok found
    subst same
    exact {
      snapshot := by simp [Legacy.depositState, Dict.get?_set]
      cursor := by simp [Legacy.depositState]
      added := fun _ => ⟨sum, added, by simp [Legacy.depositState, Dict.get?_set]⟩
      otherDay := fun other => absurd day other
      others := fun key a b c => by simp [Legacy.depositState, Dict.get?_set, a, b, c] }
  · rename_i other
    cases found
    exact {
      snapshot := by simp [Legacy.depositState, Dict.get?_set]
      cursor := by simp [Legacy.depositState]
      added := fun day => absurd day other
      otherDay := fun _ => by simp [Legacy.depositState, Dict.get?_set]
      others := fun key a b c => by simp [Legacy.depositState, Dict.get?_set, a, b] }

/-! ## The run on such a deposit -/

variable {input : Legacy.RebaseInput} {start s : Legacy.RebaseState} {slice : Document}
  {cash : Legacy.CheckedCashFlows} {changed : List String} {before after : Decimal}

omit [CharacterTable] in
theorem refuseWhen_passed {report : Legacy.Rebasing Unit} {raised : PyException} :
    Legacy.refuseWhen false report raised s = (.ok (), s) := rfl

omit [CharacterTable] in
theorem refuseWhen_ok {refused : Bool} {report : Legacy.Rebasing Unit} {raised : PyException}
    {reached : Legacy.RebaseState}
    (passed : Legacy.refuseWhen refused report raised s = (.ok (), reached)) :
    refused = false ∧ reached = s := by
  cases refused with
  | false => exact ⟨rfl, (congrArg Prod.snd passed).symm⟩
  | true =>
    unfold Legacy.refuseWhen at passed
    rw [if_pos rfl] at passed
    cases ran : report s with
    | mk outcome after =>
      cases outcome with
      | ok _ =>
        rw [Program.run_bind_ok ran] at passed
        cases passed
      | error _ =>
        rw [Program.run_bind_error ran] at passed
        cases passed

omit [CharacterTable] in
theorem run_get {α : Type} {next : Legacy.RebaseState → Legacy.Rebasing α} :
    (Program.get >>= next) s = next s s := rfl

omit [CharacterTable] in
theorem run_evaluate {α : Type} {outcome : Except PyException α} {value : α}
    (found : outcome = .ok value) : Legacy.evaluate outcome s = (.ok value, s) := by
  rw [found]
  rfl

theorem collectChecked_run (deposit : Explains input start.state slice cash changed before after) :
    Legacy.collectChecked input (pyGet start.state "external_cash_flow_cursor") s = (.ok cash, s) := by
  have collects : Legacy.collectCashFlows input (pyGet start.state "external_cash_flow_cursor") s
      = (.ok slice, s) := by
    rw [Legacy.collectCashFlows, deposit.collected]
    rfl
  rw [Legacy.collectChecked, Program.run_bind_ok collects,
    Program.run_bind_ok (run_evaluate deposit.read)]
  exact run_evaluate deposit.checked

theorem principal_nonzero (deposit : Explains input start.state slice cash changed before after) :
    (!cash.principal.eqv .zero) = true := by
  have nonzero : cash.principal.eqv .zero ≠ true := by
    rw [ne_eq, Decimal.eqv_iff, Decimal.value_zero]
    exact deposit.positive.ne'
  simpa using nonzero

theorem not_late (deposit : Explains input start.state slice cash changed before after) :
    (cash.completedAt.any fun t => DateTime.dayOf t ≠ DateTime.dayOf input.now) = false := by
  rw [List.any_eq_false]
  intro t member
  simpa using deposit.today t member

theorem observedDelta_run (deposit : Explains input start.state slice cash changed before after) :
    Legacy.observedDelta (Legacy.previousSnapshot input start.state) input.currentBalanceSnapshot
      = checked (after.sub defaultContext before) := by
  rw [Legacy.observedDelta, deposit.currentUsdt, bind_of rfl, deposit.previousUsdt]
  rfl

/-- A deposit matches exactly when USDT is listed and the rounded difference is small. -/
theorem mismatched_false (deposit : Explains input start.state slice cash changed before after) :
    Legacy.mismatched input (Legacy.previousSnapshot input start.state) changed cash = .ok false
      ↔ changed = ["USDT"] ∧ ∃ observed, after.sub defaultContext before = some observed
        ∧ Legacy.differs observed cash.principal = .ok false := by
  unfold Legacy.mismatched
  rw [observedDelta_run deposit]
  constructor
  · intro matched
    obtain ⟨observed, subtracted, matched⟩ := bind_ok matched
    split at matched
    · cases matched
    · rename_i listed
      have usdt : changed = ["USDT"] := by
        by_contra other
        exact listed (Or.inl other)
      exact ⟨usdt, observed, checked_ok subtracted, matched⟩
  · rintro ⟨listed, observed, subtracted, small⟩
    rw [subtracted, bind_of (show checked (some observed) = .ok observed from rfl),
      if_neg (by simp [listed, deposit.supported])]
    exact small

theorem dailyPrincipal_total
    (readable : SameDay input start.state →
      ∃ sum, Legacy.accumulatedPrincipal start.state cash.principal = .ok sum) :
    ∃ accumulated, Legacy.dailyPrincipal input start.state cash.principal = .ok accumulated := by
  unfold Legacy.dailyPrincipal
  split
  · rename_i day
    obtain ⟨sum, added⟩ := readable day
    exact ⟨some sum, by rw [added]; rfl⟩
  · exact ⟨none, rfl⟩

omit [CharacterTable] in
/-- What follows the checks of a deposit. -/
theorem booking_run (written : Document) (entry : Document) (reason : String) :
    let ran := (do
      Program.update fun s => { s with state := written }
      Legacy.diagnose "external_cash_flow" entry
      Legacy.persist input reason
      return true : Legacy.Rebasing Bool) start
    ran.2.writes = start.writes ++ [(reason, written)]
      ∧ ran.2.state = (input.runtimeSetTradeState reason written).2
      ∧ ran.1 = (input.runtimeSetTradeState reason written).1.map fun _ => true := by
  intro ran
  let booked : Legacy.RebaseState :=
    ⟨written, start.diagnostics.set "external_cash_flow" (.dict entry), start.log, start.writes⟩
  have through : ran = (Legacy.persist input reason >>= fun _ => (return true : Legacy.Rebasing Bool))
      booked := rfl
  have persists : Legacy.persist input reason booked
      = ((input.runtimeSetTradeState reason written).1,
        ⟨(input.runtimeSetTradeState reason written).2, booked.diagnostics, start.log,
          start.writes ++ [(reason, written)]⟩) := rfl
  rw [through]
  cases outcome : (input.runtimeSetTradeState reason written).1 with
  | ok _ =>
    rw [outcome] at persists
    rw [Program.run_bind_ok persists]
    exact ⟨rfl, rfl, rfl⟩
  | error raised =>
    rw [outcome] at persists
    rw [Program.run_bind_error persists]
    exact ⟨rfl, rfl, rfl⟩

theorem reconciles_of_registers (deposit : Explains input start.state slice cash changed before after)
    (registers : Registers input start.state cash changed before after) :
    Reconciles input start cash := by
  obtain ⟨accumulated, daily⟩ := dailyPrincipal_total registers.readable
  have found : Legacy.findChanges input start.state start = (.ok changed, start) := by
    unfold Legacy.findChanges
    rw [Program.run_bind_ok (run_evaluate deposit.changes), registers.initialized, Bool.false_and,
      Program.run_bind_ok refuseWhen_passed, registers.cursor]
    rfl
  have passed : Legacy.checkDeposit input (Legacy.previousSnapshot input start.state) changed cash
      start = (.ok accumulated, start) := by
    unfold Legacy.checkDeposit
    rw [not_late deposit, Program.run_bind_ok refuseWhen_passed,
      Program.run_bind_ok (run_evaluate
        ((mismatched_false deposit).mpr ⟨registers.listed, registers.unrounded⟩)),
      Program.run_bind_ok refuseWhen_passed, run_get]
    exact run_evaluate daily
  have whole : Legacy.maybeRebaseDailyState input start
      = Legacy.reconcileDeposit input (Legacy.previousSnapshot input start.state) changed cash start := by
    unfold Legacy.maybeRebaseDailyState
    rw [registers.noReceipts, Program.run_bind_ok refuseWhen_passed, run_get,
      Program.run_bind_ok found,
      Program.run_bind_ok (collectChecked_run deposit), if_pos (principal_nonzero deposit)]
  refine ⟨Legacy.depositState input start.state cash.cursor accumulated, booked_depositState daily, ?_⟩
  rw [whole, Legacy.reconcileDeposit, Program.run_bind_ok passed]
  exact booking_run ..

omit [CharacterTable] in
/-- A run that has written has passed its first check. -/
theorem wrote_after {α β : Type} {check : Legacy.Rebasing β} {next : β → Legacy.Rebasing α}
    (checks : Program.Meets (Untouched s) check (Untouched s) (Untouched s))
    (wrote : ((check >>= next) s).2.writes ≠ s.writes) :
    ∃ value reached, check s = (.ok value, reached) ∧ Untouched s reached
      ∧ (next value reached).2.writes ≠ reached.writes := by
  have untouched := checks s ⟨rfl, rfl⟩
  cases ran : check s with
  | mk outcome reached =>
    rw [ran] at untouched
    cases outcome with
    | error raised =>
      rw [Program.run_bind_error ran] at wrote
      exact absurd untouched.2 wrote
    | ok value =>
      rw [Program.run_bind_ok ran, ← untouched.2] at wrote
      exact ⟨value, reached, rfl, untouched, wrote⟩

omit [CharacterTable] in
theorem evaluate_ok {α : Type} {outcome : Except PyException α} {value : α}
    {reached : Legacy.RebaseState} (ran : Legacy.evaluate outcome s = (.ok value, reached)) :
    outcome = .ok value ∧ reached = s :=
  ⟨congrArg Prod.fst ran, (congrArg Prod.snd ran).symm⟩

omit [CharacterTable] in
/-- The changed assets are found only on a ledger with a cursor, or without a change. -/
theorem findChanges_ok {state : Document} {found : List String} {reached : Legacy.RebaseState}
    (changes : Legacy.changedAssets (Legacy.previousSnapshot input state)
      input.currentBalanceSnapshot = .ok changed)
    (ran : Legacy.findChanges input state s = (.ok found, reached)) :
    found = changed ∧ reached = s
      ∧ (Legacy.initializing state && !Legacy.isNone (pyGet state "external_cash_flow_cursor")) = false
      ∧ (Legacy.isNone (pyGet state "external_cash_flow_cursor") && !changed.isEmpty) = false := by
  unfold Legacy.findChanges at ran
  rw [Program.run_bind_ok (run_evaluate changes)] at ran
  cases first : Legacy.initializing state && !Legacy.isNone (pyGet state "external_cash_flow_cursor") with
  | true =>
    rw [first] at ran
    cases ran
  | false =>
    rw [first, Program.run_bind_ok refuseWhen_passed] at ran
    cases second : Legacy.isNone (pyGet state "external_cash_flow_cursor") && !changed.isEmpty with
    | true =>
      rw [second, if_pos rfl] at ran
      cases ran
    | false =>
      rw [second, if_neg Bool.false_ne_true] at ran
      cases ran
      exact ⟨rfl, rfl, rfl, rfl⟩

/-- A deposit that has passed its checks matches and can be added. -/
theorem checkDeposit_ok (deposit : Explains input start.state slice cash changed before after)
    {accumulated : Option Decimal} {reached : Legacy.RebaseState}
    (passed : Legacy.checkDeposit input (Legacy.previousSnapshot input start.state) changed cash start
      = (.ok accumulated, reached)) :
    Legacy.mismatched input (Legacy.previousSnapshot input start.state) changed cash = .ok false
      ∧ Legacy.dailyPrincipal input start.state cash.principal = .ok accumulated := by
  unfold Legacy.checkDeposit at passed
  rw [not_late deposit, Program.run_bind_ok refuseWhen_passed] at passed
  cases found : Legacy.mismatched input (Legacy.previousSnapshot input start.state) changed cash with
  | error raised =>
    rw [found] at passed
    cases passed
  | ok mismatch =>
    rw [Program.run_bind_ok (run_evaluate found)] at passed
    cases mismatch with
    | true => cases passed
    | false =>
      rw [Program.run_bind_ok refuseWhen_passed, run_get] at passed
      exact ⟨rfl, (evaluate_ok passed).1⟩

theorem readable_of_dailyPrincipal {accumulated : Option Decimal}
    (daily : Legacy.dailyPrincipal input start.state cash.principal = .ok accumulated)
    (day : SameDay input start.state) :
    ∃ sum, Legacy.accumulatedPrincipal start.state cash.principal = .ok sum := by
  unfold Legacy.dailyPrincipal at daily
  rw [if_pos (show (pyGet start.state "last_reset_date").isStr _ = true from day)] at daily
  obtain ⟨sum, added, -⟩ := map_ok daily
  exact ⟨sum, added⟩

theorem registers_of_wrote (deposit : Explains input start.state slice cash changed before after)
    (wrote : (Legacy.maybeRebaseDailyState input start).2.writes ≠ start.writes) :
    Registers input start.state cash changed before after := by
  unfold Legacy.maybeRebaseDailyState at wrote
  obtain ⟨⟨⟩, s₁, passed, -, rest⟩ := wrote_after (refuseWhen_meets _ Program.Meets.pure) wrote
  obtain ⟨noReceipts, same⟩ := refuseWhen_ok passed
  rw [same, run_get] at rest
  obtain ⟨found, s₂, passed, -, rest⟩ := wrote_after (findChanges_meets input _) rest
  obtain ⟨isChanged, same, notFirst, unlisted⟩ := findChanges_ok deposit.changes passed
  rw [isChanged, same, Program.run_bind_ok (collectChecked_run deposit),
    if_pos (principal_nonzero deposit), Legacy.reconcileDeposit] at rest
  obtain ⟨accumulated, s₃, passed, -, -⟩ := wrote_after (checkDeposit_meets input _ _ _) rest
  obtain ⟨matched, daily⟩ := checkDeposit_ok deposit passed
  obtain ⟨listed, unrounded⟩ := (mismatched_false deposit).mp matched
  have cursor : Legacy.isNone (pyGet start.state "external_cash_flow_cursor") = false := by
    simpa [listed] using unlisted
  exact {
    noReceipts := noReceipts
    initialized := by simpa [cursor] using notFirst
    cursor := cursor
    listed := listed
    unrounded := unrounded
    readable := readable_of_dailyPrincipal daily }

end Deposits

/-! ## Two deposits -/

local instance : CharacterTable := asciiTable

def cursorAt (time : String) : Document :=
  ⟨[("version", .int 1), ("observed_at", .str time), ("records", .dict .empty)]⟩

/-- A slice with one confirmed deposit of the day. -/
def depositSlice (amount : String) : Document :=
  ⟨[("new_deposit_principal_usdt", .str amount), ("new_confirmed_deposit_count", .int 1),
    ("new_deposit_completed_at", .list [.str "2026-09-12T09:30:00+00:00"]),
    ("cursor", .dict (cursorAt "2026-09-12T10:00:00+00:00"))]⟩

def usdtSnapshot (quantity : ℚ) : Document := ⟨[("USDT", .float (.nearest false quantity))]⟩

/-- A run at ten o'clock whose writes return. -/
def depositInput (amount : String) (quantity : ℚ) : Legacy.RebaseInput where
  receiptEnabled := false
  now := 1789207200000000
  currentBalanceSnapshot := usdtSnapshot quantity
  collectExternalCashFlows _ _ := .ok (depositSlice amount)
  localInstant _ := 0
  runtimeSetTradeState _ state := (.ok (), state)
  translate key assets := key ++ assets

def depositStart : Legacy.RebaseState :=
  ⟨⟨[("last_reset_date", .str "2026-09-12"), ("last_balance_snapshot", .dict (usdtSnapshot 800)),
    ("external_cash_flow_cursor", .dict (cursorAt "2026-09-12T09:00:00+00:00"))]⟩, .empty, [], []⟩

def depositCash (principal : Decimal) : Legacy.CheckedCashFlows :=
  ⟨principal, [1789205400000000], cursorAt "2026-09-12T10:00:00+00:00", 0, 0⟩

theorem depositSlice_explains {amount : String} {quantity : ℚ} {principal after : Decimal}
    {changed : List String}
    (read : Legacy.readCashFlows (fun _ => 0) (depositSlice amount)
      = .ok (.finite principal, [1789205400000000]))
    (nonzero : principal.lt .zero = false ∧ principal.eqv .zero = false)
    (changes : Legacy.changedAssets (usdtSnapshot 800) (usdtSnapshot quantity) = .ok changed)
    (onlyUsdt : ∀ asset ∈ changed, asset = "USDT")
    (currentUsdt : Legacy.decimalQuantity (.float (.nearest false quantity)) = .ok after)
    (exact : |after.value - 800 - principal.value| ≤ 1 / 10 ^ 8) :
    Explains (depositInput amount quantity) depositStart.state (depositSlice amount)
      (depositCash principal) changed ⟨false, 8000, -1⟩ after where
  collected := rfl
  read := read
  checked := if_pos ⟨nonzero.1, rfl, nonzero.2⟩
  positive := by
    have notNegative := nonzero.1
    have notZero := nonzero.2
    rw [Bool.eq_false_iff, ne_eq, Decimal.lt_iff, Decimal.value_zero, not_lt] at notNegative
    rw [Bool.eq_false_iff, ne_eq, Decimal.eqv_iff, Decimal.value_zero] at notZero
    exact lt_of_le_of_ne notNegative (Ne.symm notZero)
  today t member := by
    rw [List.mem_singleton.mp member]
    exact (by decide : DateTime.dayOf 1789205400000000 = DateTime.dayOf 1789207200000000)
  supported := ⟨rfl, rfl⟩
  changes := changes
  onlyUsdt := onlyUsdt
  previousUsdt := show Legacy.decimalQuantity (.float (.nearest false 800)) = .ok _ by
    decide +kernel
  currentUsdt := currentUsdt
  exact := by
    have previous : Decimal.value ⟨false, 8000, -1⟩ = 800 := by norm_num [Decimal.value, Decimal.signed]
    rw [previous]
    exact exact

theorem hundred_explains : Explains (depositInput "100" 900) depositStart.state (depositSlice "100")
    (depositCash ⟨false, 100, 0⟩) ["USDT"] ⟨false, 8000, -1⟩ ⟨false, 9000, -1⟩ :=
  depositSlice_explains (by decide +kernel) (by decide) (by decide +kernel) (by simp)
    (by decide +kernel) (by norm_num [Decimal.value, Decimal.signed])

end BinancePlatform.Guarantees.LegacyDeposits
