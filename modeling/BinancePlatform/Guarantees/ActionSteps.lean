import BinancePlatform.Guarantees.ActionCooldown

/-!
# The execution functions take the steps of the ledger

Whatever the broker, the store and the notifier answer, the state that an execution
function ends in, also by an exception, is reached from its first by steps of a
cycle: so what is proved of every run of the ledger is proved of their runs. A
submission may change the account, but not the fields that the day's actions are
recorded in (`SubmitKeeps`).
-/

set_option autoImplicit false

namespace BinancePlatform.Guarantees.ActionSteps
open BinancePlatform.Library BinancePlatform.Library.Program BinancePlatform.Source
open BinancePlatform.Guarantees.ActionCooldown

/-- The fields that a day's actions and the breaker's latch are recorded in. -/
def ledgerFields : List String := "is_circuit_broken" :: actionFields

theorem ledgerFields_untouched : ∀ key ∈ ledgerFields, Untouched key := by decide

theorem actionFields_ledger : ∀ key ∈ actionFields, key ∈ ledgerFields := by decide

/-- The order record that a submission writes lies outside the ledger's fields. -/
def SubmitKeeps (runtime : ExecutionRuntime) : Prop :=
  ∀ order account, ∀ key ∈ ledgerFields,
    (runtime.submit order account).2.state.get? key = account.state.get? key

def KeepsFields (s t : TradingState) : Prop := ∀ key ∈ ledgerFields, t.state.get? key = s.state.get? key

theorem KeepsFields.refl (s : TradingState) : KeepsFields s s := fun _ _ => rfl

theorem KeepsFields.trans (r s t : TradingState) (first : KeepsFields r s) (second : KeepsFields s t) :
    KeepsFields r t :=
  fun key member => (second key member).trans (first key member)

/-! ## Relations that compose -/

section Relations
variable {α : Type} {R : TradingState → TradingState → Prop} (refl : ∀ s, R s s)
  (trans : ∀ r s t, R r s → R s t → R r t)
include trans

theorem leads_exceptFailed {body failed : Trading α} (first : Leads R body) (second : Leads R failed) :
    Leads R (exceptFailed body failed) := by
  intro s
  have reached := first s
  unfold exceptFailed
  cases ran : body s with
  | mk outcome t =>
    rw [ran] at reached
    cases outcome with
    | ok value => exact reached
    | error raised =>
      by_cases integrity : raised.cls.isA .executionIntegrityError = true
      · simp only [integrity, if_true]
        exact reached
      · simp only [integrity, Bool.false_eq_true, if_false]
        exact trans _ _ _ reached (second t)

include refl

theorem leads_forEach {body : α → Trading Unit} {xs : List α} (each : ∀ x ∈ xs, Leads R (body x)) :
    Leads R (forEach body xs) := by
  induction xs with
  | nil => exact refl
  | cons x xs ih =>
    apply Leads.bind trans (each x List.mem_cons_self)
    intro _
    exact ih fun y member => each y (List.mem_cons_of_mem x member)

end Relations

/-! ## Programs that keep the fields -/

section Keeps
variable {α β : Type}

theorem keeps_bind {program : Trading α} {next : α → Trading β} (first : Leads KeepsFields program)
    (rest : ∀ value, Leads KeepsFields (next value)) : Leads KeepsFields (program >>= next) :=
  Leads.bind KeepsFields.trans first rest

theorem keeps_state {program : Trading α} (same : ∀ s, (program s).2.state = s.state) :
    Leads KeepsFields program := by
  intro s key _
  rw [same]

theorem keeps_recordEffect (effect : Effect) : Leads KeepsFields (recordEffect effect) :=
  keeps_state fun _ => rfl

theorem keeps_read : Leads KeepsFields getAccount := keeps_state fun _ => rfl

theorem keeps_outcome (outcome : Except PyException α) : Leads KeepsFields (returns outcome) :=
  keeps_state fun _ => rfl

theorem keeps_nextOrderId (runId label symbol : String) : Leads KeepsFields (nextOrderId runId label symbol) :=
  keeps_state fun _ => rfl

/-- Reads the account and has an outcome, after one effect. -/
theorem keeps_call (effect : Effect) (outcome : Account → Except PyException α) :
    Leads KeepsFields (recordEffect effect >>= fun _ => getAccount >>= fun account => returns (outcome account)) :=
  keeps_bind (keeps_recordEffect effect) fun _ => keeps_bind keeps_read fun _ => keeps_outcome _

variable {runtime : ExecutionRuntime}

theorem keeps_notification (text : String) : Leads KeepsFields (notification runtime text) :=
  keeps_call _ _

theorem keeps_formatQty (symbol : String) (qty : PyFloat) : Leads KeepsFields (formatQty runtime symbol qty) :=
  keeps_call _ _

theorem keeps_ensureAssetAvailable (asset : String) (required : PyFloat) :
    Leads KeepsFields (ensureAssetAvailable runtime asset required) :=
  keeps_call _ _

theorem keeps_setTradeState (reason : String) : Leads KeepsFields (setTradeState runtime reason) := by
  apply Leads.ite
  · intro _
    exact keeps_recordEffect _
  · intro _
    exact keeps_call _ _

theorem keeps_runtimeCallClient (keeps : SubmitKeeps runtime) (order : OrderRequest) :
    Leads KeepsFields (runtimeCallClient runtime order) := by
  apply Leads.ite
  · intro _
    exact keeps_bind (keeps_recordEffect _) fun _ => keeps_state fun _ => rfl
  · intro _
    apply keeps_bind (keeps_recordEffect _)
    intro _ s key member
    exact keeps order s.account key member

variable [CharacterTable]

theorem keeps_placeOrder (keeps : SubmitKeeps runtime) (prices : Document) (order : OrderRequest)
    (side : String) (qty price : PyFloat) :
    Leads KeepsFields (placeOrder runtime prices order side qty price) := by
  apply keeps_bind (keeps_runtimeCallClient keeps order)
  intro response
  apply keeps_bind (keeps_outcome _)
  intro fill
  exact keeps_bind (keeps_recordEffect _) fun _ => keeps_state fun _ => rfl

theorem keeps_accountTrendFill (trendUniverse : TrendUniverse) (fill : Fill)
    (side symbol baseAsset : String) (position : Value) :
    Leads KeepsFields (accountTrendFill trendUniverse fill side symbol baseAsset position) :=
  fun s key member =>
    accountTrendFill_keeps trendUniverse (ledgerFields_untouched key member) fill side symbol baseAsset position s

end Keeps

/-! ## Steps of a cycle -/

section Follows
variable [CharacterTable] {trendUniverse : TrendUniverse} {todayId : String} {α β : Type}

/-- A cycle that is in the first state can come to the second, with the fills it then has. -/
def Follows (trendUniverse : TrendUniverse) (todayId : String) (s t : TradingState) : Prop :=
  ∀ fills, ∃ later, Relation.ReflTransGen (CycleStep trendUniverse)
    ⟨todayId, s, fills⟩ ⟨todayId, t, later⟩

theorem Follows.refl (s : TradingState) : Follows trendUniverse todayId s s := fun fills => ⟨fills, .refl⟩

theorem Follows.trans (r s t : TradingState) (first : Follows trendUniverse todayId r s)
    (second : Follows trendUniverse todayId s t) : Follows trendUniverse todayId r t := by
  intro fills
  obtain ⟨reached, before⟩ := first fills
  obtain ⟨later, after⟩ := second reached
  exact ⟨later, before.trans after⟩

theorem KeepsFields.follows {s t : TradingState} (kept : KeepsFields s t) :
    Follows trendUniverse todayId s t := by
  intro fills
  refine ⟨fills, .single (.other ⟨todayId, s, fills⟩ t ?_)⟩
  intro key member
  exact kept key (actionFields_ledger key member)

/-- From a state that has kept the fields of `start`, a program ends in one that follows it. -/
abbrev Continues (trendUniverse : TrendUniverse) (todayId : String) (start : TradingState)
    (P : TradingState → Prop) (program : Trading α) : Prop :=
  Yields P program (fun _ => Follows trendUniverse todayId start) (Follows trendUniverse todayId start)

variable {start : TradingState}

/-- A first part that keeps the fields may raise or go on. -/
theorem continues_bind {program : Trading α} {next : α → Trading β} (first : Leads KeepsFields program)
    (rest : ∀ value, Continues trendUniverse todayId start (KeepsFields start) (next value)) :
    Continues trendUniverse todayId start (KeepsFields start) (program >>= next) := by
  refine Yields.bind (first.yields ?_ ?_) rest
  · intro s value t kept moved _
    exact kept.trans _ _ _ moved
  · intro s t kept moved
    exact (kept.trans _ _ _ moved).follows

/-- Once the state follows, a program that keeps the fields keeps it so. -/
theorem continues_after {program : Trading α} (keeps : Leads KeepsFields program) :
    Continues trendUniverse todayId start (Follows trendUniverse todayId start) program := by
  apply keeps.yields
  · intro s _ t followed moved _
    exact followed.trans _ _ _ moved.follows
  · intro s t followed moved
    exact followed.trans _ _ _ moved.follows

theorem continues_keeping {program : Trading α} (keeps : Leads KeepsFields program) :
    Continues trendUniverse todayId start (KeepsFields start) program := by
  apply keeps.yields
  · intro s _ t kept moved _
    exact (kept.trans _ _ _ moved).follows
  · intro s t kept moved
    exact (kept.trans _ _ _ moved).follows

theorem continues_exceptFailed {P : TradingState → Prop} {body failed : Trading α}
    (first : Continues trendUniverse todayId start P body) (keeps : Leads KeepsFields failed) :
    Continues trendUniverse todayId start P (exceptFailed body failed) := by
  intro s before
  have reached := first s before
  unfold exceptFailed
  cases ran : body s with
  | mk outcome t =>
    rw [ran] at reached
    cases outcome with
    | ok value => exact reached
    | error raised =>
      by_cases integrity : raised.cls.isA .executionIntegrityError = true
      · simp only [integrity, if_true]
        exact reached
      · simp only [integrity, Bool.false_eq_true, if_false]
        exact continues_after keeps t reached

/-- A program that begins with a read of the account. -/
theorem follows_of_read {next : Account → Trading β}
    (rest : ∀ s, Continues trendUniverse todayId s (KeepsFields s) (next s.account)) :
    Leads (Follows trendUniverse todayId) (getAccount >>= next) :=
  fun s => (rest s).weaken (fun _ same => same) (fun _ _ followed => followed) (fun _ followed => followed)
    |>.ended (KeepsFields.refl s)

end Follows

/-! ## The trend rotation -/

section Rotation
variable [CharacterTable] {runtime : ExecutionRuntime} {trendUniverse : TrendUniverse} {todayId : String}
  {start : TradingState}

theorem shouldSkip_congr {state other : Document}
    (same : other.get? trendPoolActionHistoryKey = state.get? trendPoolActionHistoryKey)
    (symbol action date : String) :
    shouldSkipDuplicateTrendAction other symbol action date
      = shouldSkipDuplicateTrendAction state symbol action date := by
  rw [shouldSkipDuplicateTrendAction, shouldSkipDuplicateTrendAction, same]

/-- The accounting of a fill and the record of its action are one step of the ledger. -/
theorem continues_accounted {symbol : String} (action : TrendAction) (fill : Fill) (baseAsset : String)
    (position : Value)
    (due : shouldSkipDuplicateTrendAction start.state symbol action.text todayId = false) :
    Continues trendUniverse todayId start (KeepsFields start)
      (accountTrendFill trendUniverse fill (tradeSide action) symbol baseAsset position >>= fun _ =>
        recordAction runtime symbol action.text todayId) := by
  intro s kept
  have accounting := keeps_accountTrendFill trendUniverse fill (tradeSide action) symbol baseAsset position s
  cases ran : accountTrendFill trendUniverse fill (tradeSide action) symbol baseAsset position s with
  | mk outcome t =>
    rw [ran] at accounting
    cases outcome with
    | error raised =>
      rw [run_bind_error ran]
      exact (kept.trans _ _ _ accounting).follows
    | ok _ =>
      rw [run_bind_ok ran]
      have stillDue : shouldSkipDuplicateTrendAction s.state symbol action.text todayId = false := by
        rw [shouldSkip_congr (kept _ (by decide)), due]
      have recorded : Follows trendUniverse todayId start
          (t.setState (recordTrendAction t.state symbol action.text todayId)) := by
        apply Follows.trans _ s _ kept.follows
        intro fills
        exact ⟨_, .single (.rotationFill ⟨todayId, s, fills⟩ fill symbol baseAsset action position t
          stillDue ran)⟩
      have written : Leads KeepsFields (setTradeState runtime ("trend_" ++ action.text ++ ":" ++ symbol) >>=
          fun _ => notification runtime ("trend_" ++ action.text)) :=
        keeps_bind (keeps_setTradeState _) fun _ => keeps_notification _
      exact continues_after written _ recorded

theorem trendSell_follows (keeps : SubmitKeeps runtime) (prices : Document)
    (sellReasons : Dict String String) (entry : String × String) :
    Leads (Follows trendUniverse todayId) (trendSell runtime prices trendUniverse sellReasons todayId entry) := by
  apply follows_of_read
  intro s
  apply continues_bind (keeps_outcome _)
  intro price
  apply Yields.ite
  · intro _
    exact continues_keeping (keeps_state fun _ => rfl)
  · intro _
    apply Yields.ite
    · intro _
      exact continues_keeping (keeps_state fun _ => rfl)
    · intro due
      apply continues_bind (keeps_outcome _)
      intro held
      apply continues_bind (keeps_formatQty _ _)
      intro qty
      refine continues_exceptFailed ?_ (keeps_notification _)
      apply Yields.ite
      · intro _
        exact continues_keeping (keeps_notification _)
      · intro _
        apply continues_bind (keeps_ensureAssetAvailable _ _)
        intro available
        apply Yields.ite
        · intro _
          apply continues_bind (keeps_nextOrderId _ _ _)
          intro id
          apply continues_bind (keeps_placeOrder keeps _ _ _ _ _)
          intro fill
          exact continues_accounted .sell fill entry.2 closedPosition (Bool.eq_false_iff.mpr due)
        · intro _
          exact continues_keeping (keeps_state fun _ => rfl)

theorem trendBuy_follows {Candidate : Type} (keeps : SubmitKeeps runtime) (prices : Document)
    (selectedCandidates : Dict String Candidate) (plannedTrendBuys : Dict String PyFloat) (symbol : String) :
    Leads (Follows trendUniverse todayId)
      (trendBuy runtime prices trendUniverse selectedCandidates plannedTrendBuys todayId symbol) := by
  apply follows_of_read
  intro s
  apply continues_bind (keeps_outcome _)
  intro price
  apply continues_bind (keeps_outcome _)
  intro candidate
  apply Yields.ite
  · intro _
    exact continues_keeping (keeps_state fun _ => rfl)
  · intro _
    apply Yields.ite
    · intro _
      exact continues_keeping (keeps_state fun _ => rfl)
    · intro due
      apply continues_bind (keeps_outcome _)
      intro size
      apply continues_bind (keeps_formatQty _ _)
      intro qty
      refine continues_exceptFailed ?_ (keeps_notification _)
      apply Yields.ite
      · intro _
        exact continues_keeping (keeps_notification _)
      · intro _
        apply continues_bind (keeps_ensureAssetAvailable _ _)
        intro available
        apply Yields.ite
        · intro _
          apply continues_bind (keeps_nextOrderId _ _ _)
          intro id
          apply continues_bind (keeps_placeOrder keeps _ _ _ _ _)
          intro fill
          exact continues_accounted .buy fill fill.baseAsset (openedPosition fill.averagePrice)
            (Bool.eq_false_iff.mpr due)
        · intro _
          exact continues_keeping (keeps_state fun _ => rfl)

/-- The sells of a cycle are steps of its ledger. -/
theorem executeTrendSells_follows (keeps : SubmitKeeps runtime) (prices : Document)
    (runtimeTrendUniverse : UniverseMapping) (sellReasons : Dict String String) :
    Leads (Follows trendUniverse todayId)
      (executeTrendSells runtime prices trendUniverse runtimeTrendUniverse sellReasons todayId) :=
  leads_forEach Follows.refl Follows.trans fun entry _ => trendSell_follows keeps prices sellReasons entry

/-- The buys of a cycle are steps of its ledger. -/
theorem executeTrendBuys_follows {Candidate : Type} (keeps : SubmitKeeps runtime) (prices : Document)
    (selectedCandidates : Dict String Candidate) (eligibleBuySymbols : List String)
    (plannedTrendBuys : Dict String PyFloat) :
    Leads (Follows trendUniverse todayId)
      (executeTrendBuys runtime prices trendUniverse selectedCandidates eligibleBuySymbols
        plannedTrendBuys todayId) :=
  leads_forEach Follows.refl Follows.trans fun symbol _ =>
    trendBuy_follows keeps prices selectedCandidates plannedTrendBuys symbol

end Rotation

/-! ## The circuit breaker -/

section Breaker
variable [CharacterTable] {runtime : ExecutionRuntime} {trendUniverse : TrendUniverse} {todayId : String}
  {start : TradingState}

/-- `not state.get("is_circuit_broken")`. -/
def Unlatched (s : TradingState) : Prop := (pyGet s.state "is_circuit_broken").truthy = false

omit [CharacterTable] in
theorem Unlatched.kept {s t : TradingState} (unlatched : Unlatched s) (kept : KeepsFields s t) :
    Unlatched t := by
  have latch := kept "is_circuit_broken" (by decide)
  rw [Unlatched, pyGet, latch]
  exact unlatched

/-- What a breaker order does: it leaves the fields alone and, while the latch is
open, its fills are the ledger's. -/
structure Exits (trendUniverse : TrendUniverse) (todayId : String) (s t : TradingState) : Prop where
  kept : KeepsFields s t
  follows : Unlatched s → Follows trendUniverse todayId s t

theorem Exits.trans (r s t : TradingState) (first : Exits trendUniverse todayId r s)
    (second : Exits trendUniverse todayId s t) : Exits trendUniverse todayId r t where
  kept := first.kept.trans _ _ _ second.kept
  follows unlatched := (first.follows unlatched).trans _ _ _ (second.follows (unlatched.kept first.kept))

theorem KeepsFields.exits {s t : TradingState} (kept : KeepsFields s t) : Exits trendUniverse todayId s t :=
  ⟨kept, fun _ => kept.follows⟩

theorem exits_of_keeps {α : Type} {program : Trading α} (keeps : Leads KeepsFields program) :
    Leads (Exits trendUniverse todayId) program :=
  fun s => (keeps s).exits

theorem exits_accounted (fill : Fill) (symbol baseAsset : String) :
    Leads (Exits trendUniverse todayId)
      (accountTrendFill trendUniverse fill "SELL" symbol baseAsset closedPosition) := by
  intro s
  have kept := keeps_accountTrendFill trendUniverse fill "SELL" symbol baseAsset closedPosition s
  cases ran : accountTrendFill trendUniverse fill "SELL" symbol baseAsset closedPosition s with
  | mk outcome t =>
    rw [ran] at kept
    cases outcome with
    | error raised => exact kept.exits
    | ok _ =>
      refine ⟨kept, fun unlatched fills => ?_⟩
      exact ⟨_, .single (.breakerFill ⟨todayId, s, fills⟩ fill symbol baseAsset t unlatched ran)⟩

theorem breakerSell_exits (keeps : SubmitKeeps runtime) (prices : Document) (entry : String × String) :
    Leads (Exits trendUniverse todayId) (breakerSell runtime prices trendUniverse entry) := by
  apply Leads.bind Exits.trans (exits_of_keeps keeps_read)
  intro account
  apply Leads.bind Exits.trans (exits_of_keeps (keeps_outcome _))
  intro held
  apply Leads.bind Exits.trans (exits_of_keeps (keeps_outcome _))
  intro price
  apply Leads.ite
  · intro _
    exact exits_of_keeps (keeps_state fun _ => rfl)
  · intro _
    apply Leads.bind Exits.trans (exits_of_keeps (keeps_formatQty _ _))
    intro qty
    refine leads_exceptFailed Exits.trans ?_ (exits_of_keeps (keeps_notification _))
    apply Leads.ite
    · intro _
      exact exits_of_keeps (keeps_notification _)
    · intro _
      apply Leads.bind Exits.trans (exits_of_keeps (keeps_ensureAssetAvailable _ _))
      intro available
      apply Leads.ite
      · intro _
        apply Leads.bind Exits.trans (exits_of_keeps (keeps_placeOrder keeps _ _ _ _ _))
        intro fill
        exact exits_accounted fill entry.1 entry.2
      · intro _
        exact exits_of_keeps (keeps_state fun _ => rfl)

/-- The circuit breaker's sells are steps of the ledger, taken with its latch open. -/
theorem runDailyCircuitBreaker_follows (keeps : SubmitKeeps runtime) (prices : Document)
    (runtimeTrendUniverse : UniverseMapping) (trendDailyPnl circuitBreakerPct : PyFloat)
    (unlatched : Unlatched start) :
    Follows trendUniverse todayId start
      (runDailyCircuitBreaker runtime prices trendUniverse runtimeTrendUniverse trendDailyPnl
        circuitBreakerPct start).2 := by
  have sells : Leads (Exits trendUniverse todayId)
      (forEach (breakerSell runtime prices trendUniverse) runtimeTrendUniverse.items) :=
    leads_forEach (fun s => (KeepsFields.refl s).exits) Exits.trans fun entry _ =>
      breakerSell_exits keeps prices entry
  have latched : Leads (Follows trendUniverse todayId) (onAccount (breakCircuit runtimeTrendUniverse)) := by
    intro s fills
    refine ⟨fills, .single (.other ⟨todayId, s, fills⟩ _ ?_)⟩
    intro key member
    have others : key ≠ lastBalanceSnapshotKey ∧ key ≠ "is_circuit_broken" := by
      simp only [actionFields, List.mem_cons, List.not_mem_nil, or_false] at member
      rcases member with rfl | rfl <;> decide
    change ((s.account.state.set _ _).set _ _).get? key = _
    rw [Dict.get?_set_ne _ _ others.1, Dict.get?_set_ne _ _ others.2]
    rfl
  unfold runDailyCircuitBreaker
  split
  · exact Follows.refl start
  · cases ran : forEach (breakerSell runtime prices trendUniverse) runtimeTrendUniverse.items start with
    | mk outcome t =>
      have sold := (sells start).follows unlatched
      rw [ran] at sold
      cases outcome with
      | error raised =>
        rw [run_bind_error ran]
        exact sold
      | ok _ =>
        rw [run_bind_ok ran]
        apply sold.trans
        have written : Leads KeepsFields (setTradeState runtime "daily_circuit_breaker" >>= fun _ =>
            notification runtime "circuit_msg" >>= fun _ => (pure true : Trading Bool)) :=
          keeps_bind (keeps_setTradeState _) fun _ =>
            keeps_bind (keeps_notification _) fun _ => keeps_state fun _ => rfl
        exact Leads.bind Follows.trans latched (fun _ s => (written s).follows) t

end Breaker

/-! ## The DCA buys -/

section Dca
variable [CharacterTable] {runtime : ExecutionRuntime} {trendUniverse : TrendUniverse} {todayId : String}
  {start : TradingState}

theorem keeps_accountDcaFill_error {fill : Fill} {s t : TradingState} {raised : PyException}
    (ran : accountDcaFill fill todayId s = (.error raised, t)) : KeepsFields s t := by
  intro key member
  rw [accountDcaFill_keeps (ledgerFields_untouched key member) ran, if_neg]
  rintro ⟨impossible, -⟩
  cases impossible

theorem continues_dca (fill : Fill) (rest : Trading Unit) (keeps : Leads KeepsFields rest)
    (due : (pyGet start.state "dca_last_buy_date").isStr todayId = false) :
    Continues trendUniverse todayId start (KeepsFields start)
      (accountDcaFill fill todayId >>= fun _ => rest) := by
  intro s kept
  cases ran : accountDcaFill fill todayId s with
  | mk outcome t =>
    cases outcome with
    | error raised =>
      rw [run_bind_error ran]
      exact (kept.trans _ _ _ (keeps_accountDcaFill_error ran)).follows
    | ok _ =>
      rw [run_bind_ok ran]
      have stillDue : (pyGet s.state "dca_last_buy_date").isStr todayId = false := by
        rw [pyGet, kept "dca_last_buy_date" (by decide)]
        exact due
      have recorded : Follows trendUniverse todayId start t := by
        apply Follows.trans _ s _ kept.follows
        intro fills
        exact ⟨_, .single (.dcaFill ⟨todayId, s, fills⟩ fill t stillDue ran)⟩
      exact continues_after keeps _ recorded

theorem btcBuy_follows (keeps : SubmitKeeps runtime) (prices : Document)
    (dcaUsdtPool btcBaseOrderUsdt ahr price : PyFloat) :
    Leads (Follows trendUniverse todayId)
      (btcBuy runtime prices dcaUsdtPool btcBaseOrderUsdt ahr todayId price) := by
  apply follows_of_read
  intro s
  apply Yields.ite
  · intro allowed
    have due : (pyGet s.state "dca_last_buy_date").isStr todayId = false := by
      simp only [Bool.and_eq_true, Bool.not_eq_true'] at allowed
      exact allowed.2
    apply continues_bind (keeps_outcome _)
    intro size
    apply continues_bind (keeps_formatQty _ _)
    intro qty
    refine continues_exceptFailed ?_ (keeps_notification _)
    apply Yields.ite
    · intro _
      exact continues_keeping (keeps_notification _)
    · intro _
      apply continues_bind (keeps_ensureAssetAvailable _ _)
      intro available
      apply Yields.ite
      · intro _
        apply continues_bind (keeps_nextOrderId _ _ _)
        intro id
        apply continues_bind (keeps_placeOrder keeps _ _ _ _ _)
        intro fill
        have reported : Leads KeepsFields
            (notification runtime "btc_dca_buy" >>= fun _ => setTradeState runtime "btc_dca_buy") :=
          keeps_bind (keeps_notification _) fun _ => keeps_setTradeState _
        have accounted : Continues trendUniverse todayId s (KeepsFields s)
            (accountDcaFill fill todayId >>= fun _ => _) := continues_dca fill _ reported due
        rw [accountDcaFill, Program.bind_assoc] at accounted
        simpa only [Program.bind_assoc] using accounted
      · intro _
        exact continues_keeping (keeps_state fun _ => rfl)
  · intro _
    exact continues_keeping (keeps_state fun _ => rfl)

/-- The Bitcoin leg of a cycle is steps of its ledger. -/
theorem executeBtcDcaCycle_follows (keeps : SubmitKeeps runtime) (prices : Document)
    (dcaUsdtPool dcaVal btcBaseOrderUsdt : PyFloat) (btc : BtcSnapshot) :
    Leads (Follows trendUniverse todayId)
      (executeBtcDcaCycle runtime prices dcaUsdtPool dcaVal btcBaseOrderUsdt btc todayId) := by
  apply Leads.ite
  · intro _
    exact Follows.refl
  · intro _
    apply Leads.bind Follows.trans fun s => (keeps_outcome _ s).follows
    intro price
    apply Leads.bind Follows.trans (btcBuy_follows keeps prices _ _ _ price)
    intro _
    have trimmed : Leads KeepsFields (btcTrim btc dcaVal todayId) := by
      apply keeps_bind keeps_read
      intro account
      apply Leads.ite
      · intro _
        exact keeps_state fun _ => rfl
      · intro _
        exact keeps_state fun _ => rfl
    exact fun s => (trimmed s).follows

end Dca

/-! ## Runs of the ledger -/

section Runs
variable [CharacterTable] {trendUniverse : TrendUniverse} {todayId : String}

/-- The steps of a cycle are steps of its ledger. -/
theorem ledger_of_cycle {stored : AccountedState} {before after : RunningCycle}
    (steps : Relation.ReflTransGen (CycleStep trendUniverse) before after) :
    Relation.ReflTransGen (LedgerStep trendUniverse) ⟨stored, some before⟩ ⟨stored, some after⟩ := by
  induction steps with
  | refl => exact .refl
  | tail _ step ih => exact ih.tail (.cycle _ _ _ rfl step)

theorem fills_extend {before after : RunningCycle}
    (steps : Relation.ReflTransGen (CycleStep trendUniverse) before after) : before.fills <+: after.fills := by
  induction steps with
  | refl => exact List.prefix_rfl
  | tail _ step ih =>
    apply ih.trans
    cases step with
    | other => exact List.prefix_rfl
    | rotationFill => exact List.prefix_append _ _
    | breakerFill => exact List.prefix_append _ _
    | dcaFill => exact List.prefix_append _ _

/-- A program that follows the ledger takes a run of it to another run, whether it
returns or raises, and forgets no fill. -/
theorem run_program {α : Type} {program : Trading α} (follows : Leads (Follows trendUniverse todayId) program)
    {first : Document} {stored : AccountedState} {trading : TradingState} {fills : List AccountedFill}
    (run : LedgerRun trendUniverse first ⟨stored, some ⟨todayId, trading, fills⟩⟩) :
    ∃ later, fills <+: later
      ∧ LedgerRun trendUniverse first ⟨stored, some ⟨todayId, (program trading).2, later⟩⟩ := by
  obtain ⟨later, steps⟩ := follows trading fills
  exact ⟨later, fills_extend steps, Relation.ReflTransGen.trans run (ledger_of_cycle steps)⟩

/-- The two legs of the rotation one after the other, the plan between them aside. -/
theorem rotation_runs {Candidate : Type} {runtime : ExecutionRuntime} (keeps : SubmitKeeps runtime)
    (prices : Document) (runtimeTrendUniverse : UniverseMapping) (sellReasons : Dict String String)
    (selectedCandidates : Dict String Candidate) (eligibleBuySymbols : List String)
    (plannedTrendBuys : Dict String PyFloat) {first : Document} {stored : AccountedState}
    {trading : TradingState} {fills : List AccountedFill}
    (run : LedgerRun trendUniverse first ⟨stored, some ⟨todayId, trading, fills⟩⟩) :
    ∃ later, fills <+: later ∧ LedgerRun trendUniverse first ⟨stored, some ⟨todayId,
      ((executeTrendSells runtime prices trendUniverse runtimeTrendUniverse sellReasons todayId >>=
        fun _ => executeTrendBuys runtime prices trendUniverse selectedCandidates eligibleBuySymbols
          plannedTrendBuys todayId) trading).2, later⟩⟩ :=
  run_program (Leads.bind Follows.trans
    (executeTrendSells_follows keeps prices runtimeTrendUniverse sellReasons)
    fun _ => executeTrendBuys_follows keeps prices selectedCandidates eligibleBuySymbols plannedTrendBuys) run

end Runs

end BinancePlatform.Guarantees.ActionSteps
