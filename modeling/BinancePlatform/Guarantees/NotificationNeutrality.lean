import BinancePlatform.Source.NotifiedCycle

/-!
# What a notifier can change

The commits with their reasons, the pending funds and the release of the owner are
those of the cycle with a notifier that always succeeds and acknowledges the status
report alike (`notifications_change_nothing`), if no notification raises where something
is left to do. What a `try` block sends as its last act may raise, since its handler
finds nothing to undo, and so may the crash report; the routing itself hides what a
routine notice of a live run or a reserved incident raises.

The status report is repeated until it is acknowledged, so its answer is in the
committed state. The circuit breaker's message and the notice of a failed order are sent
as they are while the unified notifications are off: what they raise ends the cycle, and
the owner is kept (`notifications_change_commits`).
-/

set_option autoImplicit false

namespace BinancePlatform.Guarantees.NotificationNeutrality
open BinancePlatform.Library BinancePlatform.Library.Telling
open BinancePlatform.Source BinancePlatform.Source.Notified

/-- What outlives the cycle and its process. -/
structure Durable where
  commits : List Commit
  pendingFunds : List PendingFund
  stateOwnerReleased : Bool

def durable (ledger : Ledger) : Durable :=
  ⟨ledger.commits, ledger.pendingFunds, ledger.stateOwnerReleased⟩

/-- The answers of a notifier that always succeeds. -/
def answer (acknowledged : Bool) : Notice → Bool
  | .statusReport => acknowledged
  | _ => true

/-- An answer that makes no difference: a return, the given one where it is read, or an
exception where nothing is left to do. -/
def tolerated (acknowledged : Bool) : Notice → Except PyException Bool → Bool
  | .statusReport, .ok delivered => delivered == acknowledged
  | _, .ok _ => true
  | .orderSkipped _, .error raised => handled raised
  | .tradeMade _, .error raised => handled raised
  | .btcBuyMade, .error raised => handled raised
  | .coverageFailure, .error _ => true
  | .reserved _, .error _ => true
  | .systemCrash, .error _ => true
  | _, .error _ => false

/-- With tolerated answers the program ends as with the notifier that always succeeds. -/
abbrev Neutral (acknowledged : Bool) {α : Type} (program : Notifier → Notifying α) : Prop :=
  Unmoved (answer acknowledged) (tolerated acknowledged) program

/-- The program may raise as its last act what its handler catches. -/
abbrev NearlyNeutral (acknowledged : Bool) (program : Notifier → Notifying Unit) : Prop :=
  Nearly (answer acknowledged) (tolerated acknowledged) handled program

section Neutral
variable {acknowledged : Bool}

/-! ## Where a notification is sent -/

/-- A routine notice is the last act of its `try` block, or its exceptions are hidden. -/
theorem nearly_routine (runtime : DurableRuntime) {notice : Notice}
    (lenient : ∀ raised, tolerated acknowledged notice (.error raised) = true → handled raised = true) :
    NearlyNeutral acknowledged fun notifier => routineNotification notifier runtime notice :=
  .ite (.tell lenient) (Unmoved.attempt _ _).nearly

theorem nearly_orderSkipped (runtime : DurableRuntime) (text : String) :
    NearlyNeutral acknowledged fun notifier => routineNotification notifier runtime (.orderSkipped text) :=
  nearly_routine runtime fun _ lenient => lenient

theorem nearly_breakerSkipped (runtime : DurableRuntime) (text : String) :
    NearlyNeutral acknowledged fun notifier => immediateNotification notifier runtime (.orderSkipped text) :=
  .ite (Unmoved.attempt _ _).nearly (.tell fun _ lenient => lenient)

/-- An immediate notice that may not raise. -/
theorem unmoved_immediate (runtime : DurableRuntime) {notice : Notice}
    (never : ∀ raised, tolerated acknowledged notice (.error raised) = false) :
    Neutral acknowledged fun notifier => immediateNotification notifier runtime notice :=
  .ite (.attempt _ _) (.tell never)

theorem steady_immediate (runtime : DurableRuntime) {notice : Notice}
    (never : ∀ raised, tolerated acknowledged notice (.error raised) = false) :
    Steady (tolerated acknowledged) fun notifier : Notifier => immediateNotification notifier runtime notice :=
  .ite (.attempt _ _) (.tell never)

/-- A `try` block that nearly returns, with a notification in its handler. -/
theorem rescued (runtime : DurableRuntime) {body : Notifier → Notifying Unit} (text : String)
    (tried : NearlyNeutral acknowledged body) :
    Neutral acknowledged fun notifier =>
      rescue handled (body notifier) (immediateNotification notifier runtime (.orderFailed text)) :=
  tried.rescue (unmoved_immediate runtime fun _ => rfl) (steady_immediate runtime fun _ => rfl)

theorem unmoved_setTradeState (runtime : DurableRuntime) (reason : String) :
    Neutral acknowledged fun _ : Notifier => Notified.setTradeState runtime reason := by
  unfold Notified.setTradeState
  exact .ite (.pure ()) (.bind (.onState _) fun _ => .onState _)

/-! ## The execution functions -/

section Execution
variable [CharacterTable] (runtime : DurableRuntime) (prices : Document) (trendUniverse : TrendUniverse)

omit [CharacterTable] in
theorem unmoved_runtimeCallClient (order : OrderRequest) :
    Neutral acknowledged fun _ : Notifier => Notified.runtimeCallClient runtime order := by
  unfold Notified.runtimeCallClient
  exact .ite (.pure _) (.onState _)

theorem unmoved_placeOrder (order : OrderRequest) (side : String) (qty price : PyFloat) :
    Neutral acknowledged fun _ : Notifier => Notified.placeOrder runtime prices order side qty price :=
  .bind (unmoved_runtimeCallClient runtime order) fun _ => .onState _

theorem nearly_breakerOrder (symbol baseAsset : String) (qty price : PyFloat) :
    NearlyNeutral acknowledged fun notifier =>
      Notified.breakerOrder notifier runtime prices trendUniverse symbol baseAsset qty price := by
  unfold Notified.breakerOrder
  refine .ite (nearly_breakerSkipped runtime _) (.bind (.onState _) fun _ => ?_)
  refine .ite ?_ (Unmoved.onState _).nearly
  exact .bind (unmoved_placeOrder runtime prices _ _ _ _) fun _ => (Unmoved.onState _).nearly

theorem unmoved_breakerSell (entry : String × String) :
    Neutral acknowledged fun notifier =>
      Notified.breakerSell notifier runtime prices trendUniverse entry := by
  unfold Notified.breakerSell
  refine .bind (.onState _) fun _ => .bind (.onState _) fun _ => .bind (.onState _) fun _ => ?_
  refine .ite (.pure ()) (.bind (.onState _) fun _ => ?_)
  exact rescued runtime _ (nearly_breakerOrder runtime prices trendUniverse _ _ _ _)

theorem unmoved_runDailyCircuitBreaker (runtimeTrendUniverse : UniverseMapping)
    (trendDailyPnl circuitBreakerPct : PyFloat) :
    Neutral acknowledged fun notifier => Notified.runDailyCircuitBreaker notifier runtime prices
      trendUniverse runtimeTrendUniverse trendDailyPnl circuitBreakerPct := by
  unfold Notified.runDailyCircuitBreaker
  refine .ite (.pure false) (.bind ?_ fun _ => .bind (.onState _) fun _ => ?_)
  · exact .each (unmoved_breakerSell runtime prices trendUniverse) _
  · refine .bind (unmoved_setTradeState runtime _) fun _ => ?_
    exact .bind (unmoved_immediate runtime fun _ => rfl) fun _ => .pure true

omit [CharacterTable] in
theorem nearly_recordAction (symbol action todayId : String) :
    NearlyNeutral acknowledged fun notifier =>
      Notified.recordAction notifier runtime symbol action todayId := by
  unfold Notified.recordAction
  refine .bind (.onState _) fun _ => .bind (unmoved_setTradeState runtime _) fun _ => ?_
  exact nearly_routine runtime fun _ lenient => lenient

theorem nearly_trendSellOrder (symbol baseAsset todayId : String) (qty price : PyFloat) :
    NearlyNeutral acknowledged fun notifier =>
      Notified.trendSellOrder notifier runtime prices trendUniverse symbol baseAsset todayId qty price := by
  unfold Notified.trendSellOrder
  refine .ite (nearly_orderSkipped runtime _) (.bind (.onState _) fun _ => ?_)
  refine .ite (.bind (.onState _) fun _ => ?_) (Unmoved.onState _).nearly
  refine .bind (unmoved_placeOrder runtime prices _ _ _ _) fun _ => .bind (.onState _) fun _ => ?_
  exact nearly_recordAction runtime symbol "sell" todayId

theorem unmoved_trendSell (sellReasons : Dict String String) (todayId : String) (entry : String × String) :
    Neutral acknowledged fun notifier =>
      Notified.trendSell notifier runtime prices trendUniverse sellReasons todayId entry := by
  unfold Notified.trendSell
  refine .bind (.onState _) fun _ => .bind (.onState _) fun _ => .ite (.pure ()) (.ite (.pure ()) ?_)
  refine .bind (.onState _) fun _ => .bind (.onState _) fun _ => ?_
  exact rescued runtime _ (nearly_trendSellOrder runtime prices trendUniverse _ _ _ _ _)

theorem nearly_trendBuyOrder (symbol todayId : String) (qty price : PyFloat) :
    NearlyNeutral acknowledged fun notifier =>
      Notified.trendBuyOrder notifier runtime prices trendUniverse symbol todayId qty price := by
  unfold Notified.trendBuyOrder
  refine .ite (nearly_orderSkipped runtime _) (.bind (.onState _) fun _ => ?_)
  refine .ite (.bind (.onState _) fun _ => ?_) (Unmoved.onState _).nearly
  refine .bind (unmoved_placeOrder runtime prices _ _ _ _) fun _ => .bind (.onState _) fun _ => ?_
  exact nearly_recordAction runtime symbol "buy" todayId

theorem unmoved_trendBuy {Candidate : Type} (selectedCandidates : Dict String Candidate)
    (plannedTrendBuys : Dict String PyFloat) (todayId symbol : String) :
    Neutral acknowledged fun notifier => Notified.trendBuy notifier runtime prices trendUniverse
      selectedCandidates plannedTrendBuys todayId symbol := by
  unfold Notified.trendBuy
  refine .bind (.onState _) fun _ => .bind (.onState _) fun _ => .bind (.onState _) fun _ => ?_
  refine .ite (.pure ()) (.ite (.pure ()) (.bind (.onState _) fun _ => .bind (.onState _) fun _ => ?_))
  exact rescued runtime _ (nearly_trendBuyOrder runtime prices trendUniverse _ _ _ _)

omit [CharacterTable] in
/-- Here the notification comes before the write. In a live run it hides what is raised, and
in a dry run nothing is written. -/
theorem nearly_btcBuyTold : NearlyNeutral acknowledged fun notifier =>
    routineNotification notifier runtime .btcBuyMade >>= fun _ =>
      Notified.setTradeState runtime "btc_dca_buy" := by
  cases dry : runtime.dryRun with
  | true =>
    have unwritten : Notified.setTradeState runtime "btc_dca_buy" = pure () := by
      unfold Notified.setTradeState
      exact if_pos (by rw [DurableRuntime.suppressed, dry]; rfl)
    simp only [routineNotification, dry, if_true, unwritten]
    exact Nearly.tell_pure fun _ lenient => lenient
  | false =>
    simp only [routineNotification, dry, Bool.false_eq_true, if_false]
    exact .bind (.attempt _ _) fun _ => (unmoved_setTradeState runtime _).nearly

theorem nearly_btcBuyOrder (todayId : String) (qty price : PyFloat) :
    NearlyNeutral acknowledged fun notifier =>
      Notified.btcBuyOrder notifier runtime prices todayId qty price := by
  unfold Notified.btcBuyOrder
  refine .ite (nearly_orderSkipped runtime _) (.bind (.onState _) fun _ => ?_)
  refine .ite (.bind (.onState _) fun _ => ?_) (Unmoved.onState _).nearly
  refine .bind (unmoved_placeOrder runtime prices _ _ _ _) fun _ => .bind (.onState _) fun _ => ?_
  exact .bind (.onState _) fun _ => .bind (.onState _) fun _ => nearly_btcBuyTold runtime

theorem unmoved_btcBuy (dcaUsdtPool btcBaseOrderUsdt ahr : PyFloat) (todayId : String) (price : PyFloat) :
    Neutral acknowledged fun notifier => Notified.btcBuy notifier runtime prices dcaUsdtPool
      btcBaseOrderUsdt ahr todayId price := by
  unfold Notified.btcBuy
  refine .bind (.onState _) fun _ => .ite ?_ (.pure ())
  refine .bind (.onState _) fun _ => .bind (.onState _) fun _ => ?_
  exact rescued runtime _ (nearly_btcBuyOrder runtime prices _ _ _)

theorem unmoved_executeBtcDcaCycle (dcaUsdtPool dcaVal btcBaseOrderUsdt : PyFloat) (btc : BtcSnapshot)
    (todayId : String) :
    Neutral acknowledged fun notifier => Notified.executeBtcDcaCycle notifier runtime prices dcaUsdtPool
      dcaVal btcBaseOrderUsdt btc todayId := by
  unfold Notified.executeBtcDcaCycle
  refine .ite (.pure ()) (.bind (.onState _) fun _ => ?_)
  exact .bind (unmoved_btcBuy runtime prices _ _ _ _ _) fun _ => .onState _

theorem unmoved_topUpBnbFuel (fuelVal minBnbValue buyBnbAmount : PyFloat) :
    Neutral acknowledged fun notifier =>
      Notified.topUpBnbFuel notifier runtime fuelVal minBnbValue buyBnbAmount := by
  unfold Notified.topUpBnbFuel
  refine .bind (.onState _) fun _ => .ite (.pure _) (.rescue ?_ ?_)
  · unfold Notified.fuelOrder
    refine .bind (.onState _) fun _ => .ite ?_ (.onState _)
    exact .bind (unmoved_runtimeCallClient runtime _) fun _ => .pure _
  · exact .bind (.tell fun _ => rfl) fun _ => .pure _

end Execution

/-! ## The cycle -/

section Cycle
variable [CharacterTable] (runtime : DurableRuntime) (trendUniverse : TrendUniverse) (inputs : CycleInputs)

omit [CharacterTable] in
theorem unmoved_stageRequest (request : Request) :
    Neutral acknowledged fun notifier => Notified.stageRequest notifier runtime request := by
  cases request with
  | read method subject => exact .pure ()
  | setTradeState reason => exact unmoved_setTradeState runtime reason
  | notify text => exact .tell fun _ => rfl
  | edit account => exact .onState _

omit [CharacterTable] in
theorem unmoved_performStage {α : Type} (stageCall : StageCall α) :
    Neutral acknowledged fun notifier => Notified.performStage notifier runtime stageCall := by
  unfold Notified.performStage
  refine .bind (.onState _) fun _ => .bind ?_ fun _ => .onState _
  exact .each (unmoved_stageRequest runtime) _

omit [CharacterTable] in
theorem unmoved_acquireOwner :
    Neutral acknowledged fun _ : Notifier => Notified.acquireOwner runtime inputs := by
  unfold Notified.acquireOwner
  refine .ite (.pure true) (.bind (.onState _) fun _ => .ite (.onState _) (.bind (.onState _) fun _ => ?_))
  exact .bind (.onState _) fun _ => .pure _

theorem unmoved_executeTrendRotation :
    Neutral acknowledged fun notifier =>
      Notified.executeTrendRotation notifier runtime trendUniverse inputs := by
  unfold Notified.executeTrendRotation
  refine .bind (.onState _) fun _ => .bind ?_ fun _ => .bind (.onState _) fun _ => ?_
  · exact .each (unmoved_trendSell runtime _ trendUniverse _ _) _
  · exact .each (unmoved_trendBuy runtime _ trendUniverse _ _ _) _

omit [CharacterTable] in
theorem unmoved_fuelPending (fuelStatus : String) :
    Neutral acknowledged fun notifier => Notified.fuelPending notifier runtime inputs fuelStatus := by
  unfold Notified.fuelPending
  refine .ite ?_ (.onState _)
  exact .bind (unmoved_performStage runtime _) fun _ => unmoved_setTradeState runtime _

omit [CharacterTable] in
theorem unmoved_maybeSendPeriodicBtcStatusReport :
    Neutral acknowledged fun notifier => Notified.maybeSendPeriodicBtcStatusReport notifier runtime := by
  unfold Notified.maybeSendPeriodicBtcStatusReport
  refine .bind (.onState _) fun _ => .ite (.pure ()) (.bind (.ask ?_) fun _ => .ite (.onState _) (.pure ()))
  intro reply accepted
  cases reply with
  | ok delivered => exact congrArg Except.ok (beq_iff_eq.mp accepted)
  | error raised => simp [tolerated] at accepted

theorem unmoved_postTradeStages :
    Neutral acknowledged fun notifier => Notified.postTradeStages notifier runtime inputs := by
  unfold Notified.postTradeStages
  refine .bind (.onState _) fun _ => .bind (.onState _) fun _ => .ite ?_ (.pure ())
  refine .bind (.onState _) fun _ => .bind (.onState _) fun _ => ?_
  refine .bind (unmoved_executeBtcDcaCycle runtime _ _ _ _ _ _) fun _ => .bind (.onState _) fun _ => ?_
  refine .bind (unmoved_maybeSendPeriodicBtcStatusReport runtime) fun _ => .bind (.onState _) fun _ => ?_
  refine .bind (unmoved_performStage runtime _) fun _ => ?_
  exact .bind (unmoved_performStage runtime _) fun _ => unmoved_setTradeState runtime _

theorem unmoved_fuelAndTrend :
    Neutral acknowledged fun notifier => Notified.fuelAndTrend notifier runtime trendUniverse inputs := by
  unfold Notified.fuelAndTrend
  refine .bind (.onState _) fun _ => .bind (unmoved_topUpBnbFuel runtime _ _ _) fun status => ?_
  refine .ite (.bind (.onState _) fun _ => ?_) (unmoved_fuelPending runtime inputs status)
  exact .bind (unmoved_executeTrendRotation runtime trendUniverse inputs) fun _ =>
    unmoved_postTradeStages runtime inputs

theorem unmoved_permittedStages :
    Neutral acknowledged fun notifier => Notified.permittedStages notifier runtime trendUniverse inputs := by
  unfold Notified.permittedStages
  refine .bind (.onState _) fun _ => .bind (unmoved_performStage runtime _) fun _ => ?_
  refine .bind (.onState _) fun _ => .bind (.onState _) fun _ => .ite (.pure ()) ?_
  refine .bind (.onState _) fun _ => .bind ?_ fun _ => .ite (.pure ()) ?_
  · exact unmoved_runDailyCircuitBreaker runtime _ trendUniverse _ _ _
  · exact unmoved_fuelAndTrend runtime trendUniverse inputs

theorem unmoved_tradingCycle :
    Neutral acknowledged fun notifier => Notified.tradingCycle notifier runtime trendUniverse inputs := by
  unfold Notified.tradingCycle
  refine .bind (unmoved_acquireOwner runtime inputs) fun _ => .ite (.bind (.onState _) fun _ => ?_) (.pure ())
  refine .bind (unmoved_performStage runtime _) fun _ => .ite (.bind (.onState _) fun _ => ?_) (.pure ())
  refine .bind (.onState _) fun _ => .bind (.onState _) fun _ => .ite ?_ (.pure ())
  exact unmoved_permittedStages runtime trendUniverse inputs

omit [CharacterTable] in
/-- What the crash report raises, its own handler catches. -/
theorem unmoved_crashed : Neutral acknowledged Notified.crashed := by
  refine .bind (.onState _) fun _ => ?_
  exact Nearly.rescue (.tell fun _ _ => rfl) (.pure ()) (.pure)

theorem unmoved_executeStrategyCycle :
    Neutral acknowledged fun notifier =>
      Notified.executeStrategyCycle notifier runtime trendUniverse inputs := by
  unfold Notified.executeStrategyCycle
  refine .bind (.onState _) fun _ => .bind (.rescue ?_ unmoved_crashed) fun _ => .onState _
  exact unmoved_tradingCycle runtime trendUniverse inputs

/-- A notifier whose every answer is tolerated changes nothing that outlives the cycle. -/
theorem notifications_change_nothing (acknowledged : Bool) (notifier : Notifier) (ledger : Ledger)
    (answers : ∀ call ∈ (Notified.run notifier runtime trendUniverse inputs ledger).calls,
      tolerated acknowledged call.1 call.2 = true) :
    durable (Notified.run notifier runtime trendUniverse inputs ledger).state
      = durable (Notified.run (answering (answer acknowledged)) runtime trendUniverse inputs ledger).state := by
  obtain ⟨added, calls, same⟩ := unmoved_executeStrategyCycle runtime trendUniverse inputs notifier
    ⟨ledger, []⟩ ⟨ledger, []⟩ rfl
  have made : (Notified.run notifier runtime trendUniverse inputs ledger).calls = added := by
    rw [Notified.run, calls, List.nil_append]
  rw [made] at answers
  exact congrArg durable (same answers).2

end Cycle

end Neutral

/-! ## A cycle that ends with a status report -/

local instance : CharacterTable := asciiTable

def bitcoinOrder : Value :=
  .dict ⟨[("status", .str "FILLED"), ("symbol", .str "BTCUSDT"), ("side", .str "BUY"),
    ("executedQty", .str "0.01"), ("cummulativeQuoteQty", .str "500"),
    ("fills", .list [.dict ⟨[("price", .str "50000"), ("qty", .str "0.01"), ("commission", .str "0"),
      ("commissionAsset", .str "BTC")]⟩])]⟩

/-- The order is submitted and filled, and its accounting is pending. -/
def submitFilled (order : OrderRequest) (ledger : Ledger) : Except PyException Value × Ledger :=
  let state := ledger.account.state.set orderSubmissionStateKey (.dict ⟨[
    ("state", .str orderSubmissionFilledAccountingPending), ("identity_sha256", .str ""),
    ("symbol", .str order.symbol)]⟩)
  (.ok bitcoinOrder, { ledger with
    account := { ledger.account with state := state }
    commits := ledger.commits ++ [⟨"order_submission", state⟩]
    pendingFunds := ledger.pendingFunds ++ [⟨true, "buy", some order.symbol, none⟩] })

def deskRuntime (qty : PyFloat) : DurableRuntime where
  dryRun := false
  standardExecutionPermitted := true
  safeRunId := "run"
  formatQty := fun _ _ _ => .ok qty
  spotFree := fun _ account => .ok account.uTotal
  submit := submitFilled
  boundStateAccess := true
  ensureActive := fun _ => true
  persist := fun _ _ => true
  today := "20260101"
  nowHour := 8
  btcStatusReportIntervalHours := 8
  cashBalanceObservation := fun _ => .empty
  stateOwnerRelease := fun _ => true
  pureDailyStateFailure := fun _ => false
  unifiedNotifications := false
  eventKnown := fun _ => true
  candidatePersisted := fun _ _ => true
  incidentReserved := fun _ _ => true

theorem hundred_atLeastTwo : Nat.AtLeastTwo 100 := inferInstance
theorem thousand_atLeastTwo : Nat.AtLeastTwo 1000 := inferInstance
theorem five_thousand_atLeastTwo : Nat.AtLeastTwo 5000 := inferInstance
theorem fifty_thousand_atLeastTwo : Nat.AtLeastTwo 50000 := inferInstance
attribute [local instance] hundred_atLeastTwo thousand_atLeastTwo five_thousand_atLeastTwo fifty_thousand_atLeastTwo

def poolDecision : StrategyDecision where
  positions := []
  budgets := [("btc_core_dca_pool", some (.finite false 1000))]
  riskFlags := []
  diagnostics := ⟨[("member_risk_assessment", .dict ⟨[("outcome", .str "APPROVE")]⟩),
    ("btc_base_order_usdt", .float (.finite false 100))]⟩

def deskInputs : CycleInputs where
  strategy := {
    evaluate := fun _ _ => .ok poolDecision
    portfolioLossStoplossEnabled := false
    unrealizedPnlPct := fun _ _ => none
    stopLossThreshold := .zero }
  claimOwner := fun _ => .ok true
  openingStages := fun _ => ([], .ok true)
  prices := ⟨[("BTCUSDT", .float (.finite false 50000))]⟩
  runtimeTrendUniverse := .empty
  btcSnapshot := ⟨.literal 300, .zero, .literal 3000⟩
  fuelVal := .literal 20000
  dailyState := fun _ => ([], .ok ())
  trendDailyPnl := fun _ => .ok .zero
  dcaVal := fun _ => .zero
  reconcileRuntimeCashEffects := fun _ => ([], .ok ())
  closingStages := fun _ => ([], .ok ())
  todayId := "20260101"

def desk : Ledger where
  account := ⟨.empty, ⟨[("BTCUSDT", .zero)]⟩, .finite false 5000⟩
  orderSequence := 0
  commits := []
  pendingFunds := []
  stateOwnerHeld := false
  stateOwnerReleased := false
  stateHealthy := false
  failureStage := .stateOwnerClaim

theorem none_suffixed : ∀ symbol ∈ ([] : List String), endsWithUSDT symbol = true := nofun

def noSymbols : TrendUniverse := ⟨[], List.nodup_nil, none_suffixed⟩

def deskRun (runtime : DurableRuntime) (inputs : CycleInputs) (notifier : Notifier) : Ledger :=
  (Notified.run notifier runtime noSymbols inputs desk).state

/-- The day has lost a tenth. -/
def fallenInputs : CycleInputs :=
  { deskInputs with trendDailyPnl := fun _ => .ok (PyFloat.literal 100).neg }

def telegramDown : PyException := ⟨.runtimeError, "telegram"⟩

/-- No report is acknowledged. -/
def unacknowledging : Notifier := fun _ _ => .ok false

/-- The notice of a failed order raises, and so does the circuit breaker's message. -/
def losesUrgent : Notifier
  | .orderFailed _, _ => .error telegramDown
  | .circuitBroken, _ => .error telegramDown
  | _, _ => .ok true

/-- The bucket in the last committed state. -/
def committedBucket (ledger : Durable) : Option String :=
  ledger.commits.getLast?.bind fun commit =>
    match commit.state.get? reportBucketKey with
    | some (.str bucket) => some bucket
    | _ => none

/-- An unacknowledged report leaves the committed state without its bucket. A failure notice
or a circuit breaker's message that raises leaves the owner held: here 1 BTC cannot be paid,
and there the day has lost a tenth. -/
theorem notifications_change_commits :
    durable (deskRun (deskRuntime (.literal 10)) deskInputs unacknowledging)
      ≠ durable (deskRun (deskRuntime (.literal 10)) deskInputs (answering (answer true)))
    ∧ durable (deskRun (deskRuntime (.literal 1000)) deskInputs losesUrgent)
      ≠ durable (deskRun (deskRuntime (.literal 1000)) deskInputs (answering (answer true)))
    ∧ durable (deskRun (deskRuntime (.literal 10)) fallenInputs losesUrgent)
      ≠ durable (deskRun (deskRuntime (.literal 10)) fallenInputs (answering (answer true))) := by
  refine ⟨fun same => ?_, fun same => ?_, fun same => ?_⟩
  · have buckets := congrArg committedBucket same
    exact absurd buckets (by decide +kernel)
  · have released := congrArg Durable.stateOwnerReleased same
    exact absurd released (by decide +kernel)
  · have released := congrArg Durable.stateOwnerReleased same
    exact absurd released (by decide +kernel)

/-- The unified notifications are on, and no candidate is written. -/
def guardedRuntime (qty : PyFloat) : DurableRuntime :=
  { deskRuntime qty with
    unifiedNotifications := true
    candidatePersisted := fun _ _ => false }

/-- What the routing hides raises, and the report is not acknowledged. -/
def losesHidden : Notifier
  | .coverageFailure, _ => .error telegramDown
  | .reserved _, _ => .error telegramDown
  | .statusReport, _ => .ok false
  | _, _ => .ok true

/-- A buy that is filled and one that fails, each with a notice that raises. -/
theorem notifications_change_nothing_hidden :
    durable (deskRun (guardedRuntime (.literal 10)) deskInputs losesHidden)
      = durable (deskRun (guardedRuntime (.literal 10)) deskInputs (answering (answer false)))
    ∧ durable (deskRun (guardedRuntime (.literal 1000)) deskInputs losesHidden)
      = durable (deskRun (guardedRuntime (.literal 1000)) deskInputs (answering (answer false))) :=
  ⟨notifications_change_nothing (guardedRuntime (.literal 10)) noSymbols deskInputs false losesHidden desk
      (by decide +kernel),
    notifications_change_nothing (guardedRuntime (.literal 1000)) noSymbols deskInputs false losesHidden desk
      (by decide +kernel)⟩

end BinancePlatform.Guarantees.NotificationNeutrality
