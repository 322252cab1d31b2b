import BinancePlatform.Guarantees.TradeEffects

/-!
# Suppressed execution

With `dry_run` set or `standard_execution_permitted` unset a cycle executes no
order, no state write and no owner claim. The two flags part when an order is
answered: the call layer suppresses for either, `_resolve_fill` estimates a fill
for `dry_run` alone. Without `dry_run` the answer `suppressed` is parsed as a
filled order, and the first order of an execution function ends it in an
`ExecutionIntegrityError`.

* No stage executes anything (`unexecuted_trading`, `unexecuted_cycle`).
* The suppressed answer is no fill (`suppressed_unverifiable`, `stops_placeOrder`).
* What each leg comes to decides whether its function is stopped (`fares_breakerSell`,
  `fares_trendSell`, `fares_trendBuy`, `fares_btcBuy`, `stopped_iff_of_parts`).
* A suppressed cycle only monitors if and only if it is a dry run or no execution function
  reaches an order (`monitoring_only_iff`).
-/

set_option autoImplicit false

namespace BinancePlatform.Guarantees.SuppressedExecution
open BinancePlatform.Library BinancePlatform.Library.Program BinancePlatform.Source
open BinancePlatform.Guarantees.TradeEffects

/-! ## Nothing is executed -/

def Unexecuted : Effect → Prop
  | .clientCall executed _ | .stateWrite executed _ => executed = false
  | .ownerClaim => False
  | _ => True

section Cycle
variable [CharacterTable] {runtime : ExecutionRuntime} {trendUniverse : TrendUniverse}
  {inputs : CycleInputs} (suppressed : runtime.suppressed = true)
include suppressed

omit [CharacterTable] in
theorem unexecuted_routine (effect : Effect) (routine : Routine runtime effect) : Unexecuted effect := by
  cases effect with
  | stateWrite executed _ =>
    rw [Routine, suppressed] at routine
    exact routine
  | clientCall _ _ => exact routine.elim
  | ownerClaim => exact routine.elim
  | _ => trivial

omit [CharacterTable] in
theorem unexecuted_frame : Frame runtime (Extends Unexecuted) :=
  extends_frame (unexecuted_routine suppressed)

theorem unexecuted_places (prices : Document) (order : OrderRequest) :
    Places runtime prices (Extends Unexecuted) order := by
  apply extends_places (unexecuted_routine suppressed)
  · intro _
    trivial
  · simp [Unexecuted, suppressed]

omit [CharacterTable] in
theorem unexecuted_evaluate (evaluation : Evaluation) :
    Leads (Extends Unexecuted) (evaluateStrategy inputs evaluation) := by
  have frame := unexecuted_frame suppressed
  apply frame.bind frame.getAccount
  intro account
  apply frame.bind (frame.returns _)
  intro raw
  apply frame.bind
  · exact fun s => ⟨[.evaluated evaluation _], rfl, by simp [Unexecuted]⟩
  · intro _
    exact frame.pure

theorem unexecuted_plan (evaluation : Evaluation) :
    Leads (Extends Unexecuted) (resolveStrategyPlan inputs evaluation) := by
  have frame := unexecuted_frame suppressed
  apply frame.bind (unexecuted_evaluate suppressed evaluation)
  intro decision
  apply frame.bind (frame.returns _)
  intro plan
  exact frame.bind (frame.returns _) fun _ => frame.pure

omit [CharacterTable] in
theorem unexecuted_allocation (evaluation : Evaluation) :
    Leads (Extends Unexecuted) (computeAllocation inputs evaluation) := by
  have frame := unexecuted_frame suppressed
  exact frame.bind (unexecuted_evaluate suppressed evaluation) fun _ => frame.returns _

theorem unexecuted_rotation :
    Leads (Extends Unexecuted) (executeTrendRotation runtime trendUniverse inputs) := by
  have frame := unexecuted_frame suppressed
  have places := unexecuted_places suppressed inputs.prices
  apply frame.bind (unexecuted_plan suppressed _)
  intro plan
  apply frame.bind (frame.executeTrendSells _ _ _ _ _ fun _ _ _ _ _ => places _)
  intro _
  apply frame.bind (unexecuted_plan suppressed _)
  intro postSell
  exact frame.executeTrendBuys _ _ _ _ _ _ fun _ _ _ _ _ _ _ _ _ => places _

theorem unexecuted_postTrade : Leads (Extends Unexecuted) (postTradeStages runtime inputs) := by
  have frame := unexecuted_frame suppressed
  apply frame.bind (unexecuted_allocation suppressed _)
  intro allocation
  apply Leads.ite
  · intro _
    apply frame.bind frame.getAccount
    intro account
    apply frame.bind
    · exact frame.executeBtcDcaCycle _ _ _ _ _ _ fun _ _ _ _ =>
        unexecuted_places suppressed inputs.prices _
    · intro _
      apply frame.bind (frame.performStage _)
      intro _
      apply frame.bind (frame.performStage _)
      intro _
      exact frame.setTradeState _
  · intro _
    exact frame.pure

/-- The fuel and trend stages execute nothing. -/
theorem unexecuted_trading : Leads (Extends Unexecuted) (fuelAndTrend runtime trendUniverse inputs) := by
  have frame := unexecuted_frame suppressed
  apply frame.bind
  · apply frame.topUpBnbFuel
    apply extends_call
    simp [Unexecuted, suppressed]
  · intro fuelStatus
    apply Leads.ite
    · intro _
      exact frame.bind (unexecuted_rotation suppressed) fun _ => unexecuted_postTrade suppressed
    · intro _
      apply Leads.ite
      · intro _
        exact frame.bind (frame.performStage _) fun _ => frame.setTradeState _
      · intro _
        exact frame.pure

/-- No order, no state write and no owner claim of a suppressed cycle is executed. -/
theorem unexecuted_cycle : Leads (Extends Unexecuted) (tradingCycle runtime trendUniverse inputs) := by
  have frame := unexecuted_frame suppressed
  apply frame.bind
  · apply Leads.ite
    · intro _
      exact frame.pure
    · intro executed
      exact absurd suppressed executed
  · intro acquired
    apply Leads.ite
    · intro _
      apply frame.bind (frame.performStage _)
      intro opened
      apply Leads.ite
      · intro _
        apply frame.bind (unexecuted_allocation suppressed _)
        intro allocation
        apply Leads.ite
        · intro _
          apply frame.bind (frame.performStage _)
          intro _
          apply frame.bind frame.getAccount
          intro account
          apply frame.bind (frame.returns _)
          intro trendDailyPnl
          apply Leads.ite
          · intro _
            exact frame.pure
          · intro _
            apply frame.bind
            · exact frame.runDailyCircuitBreaker _ _ _ _ _ fun _ _ _ => unexecuted_places suppressed _ _
            · intro triggered
              apply Leads.ite
              · intro _
                exact frame.pure
              · intro _
                exact unexecuted_trading suppressed
        · intro _
          exact frame.pure
      · intro _
        exact frame.pure
    · intro _
      exact frame.pure

end Cycle

/-! ## An answer that stops a function -/

/-- An `ExecutionIntegrityError` is raised before the answer to a suppressed order gives
a fill. -/
def StoppedBySuppression {α : Type} (result : Except PyException α × TradingState) : Prop :=
  ∃ raised before order, result.1 = .error raised ∧
    raised.cls.isA .executionIntegrityError = true ∧
    result.2.effects = before ++ [.clientCall false order]

/-- An order is never the last effect. -/
def Settles (s t : TradingState) : Prop :=
  ∃ added, t.effects = s.effects ++ added ∧
    ∀ before executed order, added ≠ before ++ [.clientCall executed order]

theorem settles_frame (runtime : ExecutionRuntime) : Frame runtime Settles where
  same s t same := ⟨[], by rw [same, List.append_nil], by simp⟩
  trans r s t := by
    rintro ⟨xs, left, first⟩ ⟨ys, right, second⟩
    refine ⟨xs ++ ys, by rw [right, left, List.append_assoc], ?_⟩
    intro before executed order same
    rcases List.eq_nil_or_concat ys with rfl | ⟨rest, last, rfl⟩
    · rw [List.append_nil] at same
      exact first before executed order same
    · rw [List.concat_eq_append, ← List.append_assoc] at same
      obtain ⟨-, final⟩ := List.append_inj' same rfl
      rw [List.singleton_inj] at final
      exact second rest executed order (by rw [final, List.concat_eq_append])
  routine effect routine s := by
    refine ⟨[effect], rfl, ?_⟩
    intro before executed order same
    rw [← List.nil_append [effect]] at same
    obtain ⟨-, final⟩ := List.append_inj' same rfl
    rw [List.singleton_inj] at final
    subst final
    exact routine

theorem suppressed_call {runtime : ExecutionRuntime} (suppressed : runtime.suppressed = true)
    (order : OrderRequest) : runtimeCallClient runtime order = (do
      recordEffect (.clientCall false order)
      pure (suppressedResponse order)) := by
  rw [runtimeCallClient, if_pos suppressed]

/-- A dry run estimates a fill for each order. -/
theorem settles_places [CharacterTable] {runtime : ExecutionRuntime} (dryRun : runtime.dryRun = true)
    (prices : Document) (order : OrderRequest) : Places runtime prices Settles order := by
  intro side qty price s
  have suppressed : runtime.suppressed = true := by simp [ExecutionRuntime.suppressed, dryRun]
  have estimated : ∀ response, resolveFill runtime prices response order.symbol side qty price
      = .ok (estimatedFill order.symbol qty price) := by
    intro response
    rw [resolveFill, if_pos dryRun]
  have ran : placeOrder runtime prices order side qty price s =
      (.ok (estimatedFill order.symbol qty price), { s with effects := (s.effects ++
        [.clientCall false order]) ++ [.filled order (estimatedFill order.symbol qty price)] }) := by
    unfold placeOrder
    rw [suppressed_call suppressed]
    simp only [estimated]
    rfl
  rw [ran]
  refine ⟨[.clientCall false order] ++ [.filled order (estimatedFill order.symbol qty price)],
    List.append_assoc _ _ _, ?_⟩
  intro before executed other same
  obtain ⟨-, final⟩ := List.append_inj' same rfl
  cases List.singleton_inj.mp final

theorem not_stopped_of_settles {α : Type} {program : Trading α} (settles : Leads Settles program)
    {s : TradingState} (fresh : s.effects = []) : ¬StoppedBySuppression (program s) := by
  rintro ⟨raised, before, order, -, -, last⟩
  obtain ⟨added, same, never⟩ := settles s
  rw [fresh, List.nil_append] at same
  rw [same] at last
  exact never before false order last

/-! ## What a leg comes to -/

/-- A leg of a function before its first order: passed over, brought to its order, or
ended by an exception. -/
inductive LegFate where
  | skipped
  | submits
  | aborts
  deriving DecidableEq

/-- Some leg reaches its order before any other ends the function. -/
def firstSubmits {α : Type} (fate : α → LegFate) : List α → Bool
  | [] => false
  | x :: xs => match fate x with
    | .skipped => firstSubmits fate xs
    | .submits => true
    | .aborts => false

/-- An expression that may raise comes before the rest of a leg. -/
def okFate {α : Type} (outcome : Except PyException α) (fate : α → LegFate) : LegFate :=
  match outcome with
  | .ok value => fate value
  | .error _ => .aborts

section Fates
variable (runtime : ExecutionRuntime) (account : Account)

def notified (text : String) : LegFate :=
  match runtime.notify text account with
  | .ok _ => .skipped
  | .error _ => .aborts

/-- What the handlers make of an exception in the `try` block. -/
def handled (failText : String) : Except PyException Unit → LegFate
  | .ok _ => .skipped
  | .error raised => if raised.cls.isA .executionIntegrityError then .aborts else notified runtime account failText

/-- A `try` block up to its order. -/
def orderFate (tooSmall : Bool) (skipText failText unavailableText asset : String) (required : PyFloat) :
    LegFate :=
  if tooSmall then handled runtime account failText (runtime.notify skipText account)
  else match checkAvailable required (runtime.spotFree asset account) with
    | .ok true => .submits
    | .ok false => handled runtime account failText (.error (unavailable unavailableText))
    | .error raised => handled runtime account failText (.error raised)

/-! ### The execution functions before their first order -/

section Functions
variable [CharacterTable] (prices : Document)

def breakerFate (entry : String × String) : LegFate :=
  okFate (balanceOf account.balances entry.1) fun tradableQty =>
  okFate (priceOf prices entry.1) fun price =>
    if (tradableQty.mul price).le (.literal 10000) then .skipped
    else okFate (runtime.formatQty entry.1 tradableQty account) fun qty =>
      orderFate runtime account (qty.le .zero) "circuit_breaker_sell_skipped"
        "circuit_breaker_sell_failed" "asset_unavailable_for_circuit_breaker_sell" entry.2 qty

def sellFate (sellReasons : Dict String String) (todayId : String) (entry : String × String) : LegFate :=
  okFate (priceOf prices entry.1) fun _ =>
    if strip ((sellReasons.get? entry.1).getD "") = "" then .skipped
    else if shouldSkipDuplicateTrendAction account.state entry.1 "sell" todayId then .skipped
    else okFate (balanceOf account.balances entry.1) fun held =>
      okFate (runtime.formatQty entry.1 held account) fun qty =>
        orderFate runtime account (qty.le .zero) "trend_sell_skipped" "trend_sell_failed"
          "asset_unavailable_for_trend_sell" entry.2 qty

def buyFate {Candidate : Type} (selectedCandidates : Dict String Candidate)
    (plannedTrendBuys : Dict String PyFloat) (todayId symbol : String) : LegFate :=
  okFate (priceOf prices symbol) fun price =>
  okFate ((selectedCandidates.get? symbol).elim (.error keyError) .ok) fun _ =>
    let buyU := (plannedTrendBuys.get? symbol).getD .zero
    if buyU.le (.literal 15000) then .skipped
    else if shouldSkipDuplicateTrendAction account.state symbol "buy" todayId then .skipped
    else okFate ((buyU.mul (.literal 985)).div price) fun size =>
      okFate (runtime.formatQty symbol size account) fun qty =>
        orderFate runtime account (qty.le .zero || (qty.mul price).le .zero) "trend_buy_skipped"
          "trend_buy_failed" "usdt_unavailable_for_trend_buy" "USDT" (qty.mul price)

omit [CharacterTable] in
def btcBuyFate (dcaUsdtPool btcBaseOrderUsdt ahr : PyFloat) (todayId : String) (price : PyFloat) :
    LegFate :=
  if 0 < resolveBtcBuyMultiplier ahr && (PyFloat.literal 15000).lt dcaUsdtPool
      && !(pyGet account.state "dca_last_buy_date").isStr todayId then
    okFate (((btcBuyBudget dcaUsdtPool btcBaseOrderUsdt ahr).mul (.literal 985)).div price) fun size =>
    okFate (runtime.formatQty "BTCUSDT" size account) fun qty =>
      orderFate runtime account (qty.le .zero || (qty.mul price).le .zero) "btc_dca_buy_skipped"
        "btc_dca_buy_failed" "usdt_unavailable_for_btc_dca_buy" "USDT" (qty.mul price)
  else .skipped

omit [CharacterTable] in
def btcFate (dcaUsdtPool dcaVal btcBaseOrderUsdt : PyFloat) (btc : BtcSnapshot) (todayId : String) :
    LegFate :=
  if dcaUsdtPool.le (.literal 10000) && dcaVal.le (.literal 10000) then .skipped
  else okFate (priceOf prices "BTCUSDT")
    (btcBuyFate runtime account dcaUsdtPool btcBaseOrderUsdt btc.ahr999 todayId)

end Functions

end Fates

/-- Effects before any order. -/
def NoOrder (effects : List Effect) : Prop :=
  ∀ effect ∈ effects, ∀ executed order, effect ≠ .clientCall executed order

section Legs
variable {α β : Type} {account : Account}

/-- On this account the program asks for no order and ends in the outcome, with the
account untouched. -/
def Asks (account : Account) (program : Trading α) (outcome : Except PyException α) : Prop :=
  ∀ s, s.account = account → ∃ added, NoOrder added ∧
    program s = (outcome, { s with effects := s.effects ++ added })

/-- On this account the program is stopped by a suppressed order. -/
def Stops (account : Account) (program : Trading α) : Prop :=
  ∀ s, s.account = account → StoppedBySuppression (program s)

theorem noOrder_nil : NoOrder [] := by
  intro effect member
  cases member

theorem asks_returns (outcome : Except PyException α) : Asks account (returns outcome) outcome :=
  fun s _ => ⟨[], noOrder_nil, by rw [List.append_nil]; rfl⟩

theorem asks_pure (value : α) : Asks account (pure value) (.ok value) := asks_returns (.ok value)

theorem asks_leave (raised : PyException) : Asks account (Program.leave raised : Trading α) (.error raised) :=
  asks_returns (.error raised)

theorem asks_getAccount : Asks account getAccount (.ok account) := by
  rintro s rfl
  exact ⟨[], noOrder_nil, by rw [List.append_nil]; rfl⟩

theorem asks_recordEffect (effect : Effect) (none : ∀ executed order, effect ≠ .clientCall executed order) :
    Asks account (recordEffect effect) (.ok ()) :=
  fun s _ => ⟨[effect], by simpa [NoOrder] using none, rfl⟩

theorem asks_bind {program : Trading α} {next : α → Trading β} {value : α} {outcome : Except PyException β}
    (first : Asks account program (.ok value)) (rest : Asks account (next value) outcome) :
    Asks account (program >>= next) outcome := by
  intro s same
  obtain ⟨xs, none, ran⟩ := first s same
  obtain ⟨ys, still, continued⟩ := rest { s with effects := s.effects ++ xs } same
  refine ⟨xs ++ ys, ?_, ?_⟩
  · intro effect member
    rcases List.mem_append.mp member with early | late
    · exact none effect early
    · exact still effect late
  · rw [run_bind_ok ran, continued]
    simp

theorem asks_bind_error {program : Trading α} {next : α → Trading β} {raised : PyException}
    (first : Asks account program (.error raised)) : Asks account (program >>= next) (.error raised) := by
  intro s same
  obtain ⟨xs, none, ran⟩ := first s same
  exact ⟨xs, none, run_bind_error ran⟩

theorem stops_bind {program : Trading α} {next : α → Trading β} {value : α}
    (first : Asks account program (.ok value)) (rest : Stops account (next value)) :
    Stops account (program >>= next) := by
  intro s same
  obtain ⟨xs, -, ran⟩ := first s same
  rw [run_bind_ok ran]
  exact rest { s with effects := s.effects ++ xs } same

theorem stops_bind_left {program : Trading α} {next : α → Trading β} (stops : Stops account program) :
    Stops account (program >>= next) := by
  intro s same
  obtain ⟨raised, before, order, outcome, integrity, last⟩ := stops s same
  cases ran : program s with
  | mk result reached =>
    rw [ran] at outcome last
    obtain rfl : result = .error raised := outcome
    rw [run_bind_error ran]
    exact ⟨raised, before, order, rfl, integrity, last⟩

/-- A program fares on the account as the fate says. -/
def Fares (account : Account) (program : Trading Unit) : LegFate → Prop
  | .skipped => Asks account program (.ok ())
  | .submits => Stops account program
  | .aborts => ∃ raised, Asks account program (.error raised)

theorem fares_bind {program : Trading α} {next : α → Trading Unit} {value : α} {fate : LegFate}
    (first : Asks account program (.ok value)) (rest : Fares account (next value) fate) :
    Fares account (program >>= next) fate := by
  cases fate with
  | skipped => exact asks_bind first rest
  | submits => exact stops_bind first rest
  | aborts =>
    obtain ⟨raised, asks⟩ := rest
    exact ⟨raised, asks_bind first asks⟩

theorem fares_bind_error {program : Trading α} {next : α → Trading Unit} {raised : PyException}
    (first : Asks account program (.error raised)) : Fares account (program >>= next) .aborts :=
  ⟨raised, asks_bind_error first⟩

theorem fares_returns {outcome : Except PyException α} {next : α → Trading Unit} {fate : α → LegFate}
    (rest : ∀ value, Fares account (next value) (fate value)) :
    Fares account (returns outcome >>= next) (okFate outcome fate) := by
  cases outcome with
  | ok value => exact fares_bind (asks_returns _) (rest value)
  | error raised => exact fares_bind_error (asks_returns _)

theorem fares_ite {condition : Prop} [Decidable condition] {yes no : Trading Unit} {first second : LegFate}
    (left : Fares account yes first) (right : Fares account no second) :
    Fares account (if condition then yes else no) (if condition then first else second) := by
  split
  · exact left
  · exact right

theorem fares_skip : Fares account (pure () : Trading Unit) .skipped := asks_pure ()

section Runtime
variable {runtime : ExecutionRuntime}

theorem asks_notification (text : String) :
    Asks account (notification runtime text) (runtime.notify text account) := by
  apply asks_bind (asks_recordEffect (.notification text) (by simp))
  exact asks_bind asks_getAccount (asks_returns _)

theorem asks_formatQty (symbol : String) (size : PyFloat) :
    Asks account (formatQty runtime symbol size) (runtime.formatQty symbol size account) := by
  apply asks_bind (asks_recordEffect (.clientRead "get_symbol_info" symbol) (by simp))
  exact asks_bind asks_getAccount (asks_returns _)

theorem asks_ensureAssetAvailable (asset : String) (required : PyFloat) :
    Asks account (ensureAssetAvailable runtime asset required)
      (checkAvailable required (runtime.spotFree asset account)) := by
  apply asks_bind (asks_recordEffect (.clientRead "get_asset_balance" asset) (by simp))
  exact asks_bind asks_getAccount (asks_returns _)

theorem fares_formatQty {symbol : String} {size : PyFloat} {next : PyFloat → Trading Unit}
    {fate : PyFloat → LegFate} (rest : ∀ qty, Fares account (next qty) (fate qty)) :
    Fares account (formatQty runtime symbol size >>= next)
      (okFate (runtime.formatQty symbol size account) fate) := by
  have asks : Asks account (formatQty runtime symbol size) _ := asks_formatQty symbol size
  cases formatted : runtime.formatQty symbol size account with
  | ok qty =>
    rw [formatted] at asks
    exact fares_bind asks (rest qty)
  | error raised =>
    rw [formatted] at asks
    exact fares_bind_error asks

/-- A `try` block that asks for no order. -/
theorem fares_handled {body : Trading Unit} {outcome : Except PyException Unit} (failText : String)
    (asks : Asks account body outcome) :
    Fares account (exceptFailed body (notification runtime failText))
      (handled runtime account failText outcome) := by
  cases outcome with
  | ok value =>
    intro s same
    obtain ⟨added, none, ran⟩ := asks s same
    exact ⟨added, none, by rw [exceptFailed, ran]⟩
  | error raised =>
    rw [handled]
    split
    · rename_i integrity
      refine ⟨raised, fun s same => ?_⟩
      obtain ⟨added, none, ran⟩ := asks s same
      exact ⟨added, none, by rw [exceptFailed, ran]; exact if_pos integrity⟩
    · rename_i other
      have failing : Asks account (exceptFailed body (notification runtime failText))
          (runtime.notify failText account) := by
        intro s same
        obtain ⟨xs, none, ran⟩ := asks s same
        obtain ⟨ys, still, told⟩ := asks_notification failText { s with effects := s.effects ++ xs } same
        refine ⟨xs ++ ys, ?_, ?_⟩
        · intro effect member
          rcases List.mem_append.mp member with early | late
          · exact none effect early
          · exact still effect late
        · rw [exceptFailed, ran]
          dsimp only
          rw [if_neg other, told]
          simp
      rw [notified]
      cases told : runtime.notify failText account with
      | ok _ =>
        rw [told] at failing
        exact failing
      | error sending =>
        rw [told] at failing
        exact ⟨sending, failing⟩

theorem stops_exceptFailed {body failed : Trading Unit} (stops : Stops account body) :
    Stops account (exceptFailed body failed) := by
  intro s same
  obtain ⟨raised, before, order, outcome, integrity, last⟩ := stops s same
  cases ran : body s with
  | mk result reached =>
    rw [ran] at outcome last
    obtain rfl : result = .error raised := outcome
    have kept : exceptFailed body failed s = (.error raised, reached) := by
      rw [exceptFailed, ran]
      exact if_pos integrity
    rw [kept]
    exact ⟨raised, before, order, rfl, integrity, last⟩

/-- A `try` block whose order stops it. -/
theorem fares_order {tooSmall : Bool} {skipText failText unavailableText asset : String}
    {required : PyFloat} {order : Trading Unit} (stops : Stops account order) :
    Fares account (exceptFailed
        (if tooSmall then notification runtime skipText
        else do
          let available ← ensureAssetAvailable runtime asset required
          if available then order else .leave (unavailable unavailableText))
        (notification runtime failText))
      (orderFate runtime account tooSmall skipText failText unavailableText asset required) := by
  rw [orderFate]
  split
  · exact fares_handled failText (asks_notification skipText)
  · have asks : Asks account (ensureAssetAvailable runtime asset required) _ :=
      asks_ensureAssetAvailable asset required
    cases checked : checkAvailable required (runtime.spotFree asset account) with
    | error raised =>
      rw [checked] at asks
      exact fares_handled failText (asks_bind_error asks)
    | ok available =>
      rw [checked] at asks
      cases available with
      | true => exact stops_exceptFailed (stops_bind asks stops)
      | false => exact fares_handled failText (asks_bind asks (asks_leave _))

theorem stops_nextOrderId {runId label symbol : String} {next : String → Trading α}
    (rest : ∀ id, Stops account (next id)) : Stops account (nextOrderId runId label symbol >>= next) := by
  intro s same
  exact rest _ { s with orderSequence := s.orderSequence + 1 } same

end Runtime

/-- The program is stopped by an order if it submits one, and else asks for none. -/
def Parts (account : Account) (program : Trading α) (submits : Bool) : Prop :=
  (submits = true → Stops account program) ∧
    (submits = false → ∃ outcome, Asks account program outcome)

theorem parts_of_asks {program : Trading α} {outcome : Except PyException α}
    (asks : Asks account program outcome) : Parts account program false :=
  ⟨nofun, fun _ => ⟨outcome, asks⟩⟩

theorem parts_of_stops {program : Trading α} (stops : Stops account program) :
    Parts account program true :=
  ⟨fun _ => stops, nofun⟩

theorem parts_forEach {body : α → Trading Unit} {fate : α → LegFate} (xs : List α)
    (each : ∀ x, Fares account (body x) (fate x)) :
    Parts account (forEach body xs) (firstSubmits fate xs) := by
  induction xs with
  | nil => exact parts_of_asks (asks_pure ())
  | cons x xs ih =>
    have first := each x
    rw [firstSubmits]
    cases shown : fate x with
    | skipped =>
      rw [shown] at first
      constructor
      · intro later
        exact stops_bind first (ih.1 later)
      · intro never
        obtain ⟨outcome, asks⟩ := ih.2 never
        exact ⟨outcome, asks_bind first asks⟩
    | submits =>
      rw [shown] at first
      exact parts_of_stops (stops_bind_left first)
    | aborts =>
      rw [shown] at first
      obtain ⟨raised, asks⟩ := first
      exact parts_of_asks (asks_bind_error asks)

end Legs

/-! ## The suppressed answer is no fill -/

section Suppressed
variable [CharacterTable] {runtime : ExecutionRuntime} (suppressed : runtime.suppressed = true)
  (live : runtime.dryRun = false) (upper : upperText "suppressed" = "SUPPRESSED")
include suppressed live upper

omit suppressed live in
/-- The suppressed answer is refused as a fill: its status is not `FILLED`. -/
theorem suppressed_unverifiable (order : OrderRequest) (symbol side : String) (prices : Document) :
    parseFilledOrder (suppressedResponse order) symbol side prices = .error filledOrderUnverifiable := by
  have status : ((pyGet ⟨[("status", .str "suppressed"), ("method", .str order.methodName),
      ("payload", .dict order.payload)]⟩ "status").orElse (.str "")).toStr = "suppressed" := rfl
  have unlike : decide (upperText "suppressed" = "FILLED") = false := by
    rw [upper]
    decide
  unfold parseFilledOrder suppressedResponse
  rw [bind_of (by rfl : asMapping filledOrderUnverifiable (.dict _) = .ok _), status, unlike]
  rfl

/-- Without `dry_run` an order is stopped by its own suppression. -/
theorem stops_placeOrder (account : Account) (prices : Document) (order : OrderRequest) (side : String)
    (qty price : PyFloat) : Stops account (placeOrder runtime prices order side qty price) := by
  intro s _
  have resolved : resolveFill runtime prices (suppressedResponse order) order.symbol side qty price
      = .error filledOrderUnverifiable := by
    rw [resolveFill, live]
    exact suppressed_unverifiable upper order _ _ _
  have ran : placeOrder runtime prices order side qty price s =
      (.error filledOrderUnverifiable, { s with effects := s.effects ++ [.clientCall false order] }) := by
    have called : runtimeCallClient runtime order s =
        (.ok (suppressedResponse order), { s with effects := s.effects ++ [.clientCall false order] }) := by
      rw [suppressed_call suppressed]
      rfl
    rw [placeOrder, run_bind_ok called, resolved]
    rfl
  rw [ran]
  exact ⟨_, s.effects, order, rfl, by decide, rfl⟩

/-! ### One leg of each function -/

variable (account : Account) (prices : Document) (trendUniverse : TrendUniverse)

/-- One exit of the circuit breaker. -/
theorem fares_breakerSell (entry : String × String) :
    Fares account (breakerSell runtime prices trendUniverse entry) (breakerFate runtime account prices entry) := by
  apply fares_bind asks_getAccount
  apply fares_returns
  intro tradableQty
  apply fares_returns
  intro price
  apply fares_ite fares_skip
  apply fares_formatQty
  intro qty
  apply fares_order
  exact stops_bind_left (stops_placeOrder suppressed live upper account prices _ _ _ _)

/-- One sale of the rotation. -/
theorem fares_trendSell (sellReasons : Dict String String) (todayId : String) (entry : String × String) :
    Fares account (trendSell runtime prices trendUniverse sellReasons todayId entry)
      (sellFate runtime account prices sellReasons todayId entry) := by
  apply fares_bind asks_getAccount
  apply fares_returns
  intro price
  apply fares_ite fares_skip
  apply fares_ite fares_skip
  apply fares_returns
  intro held
  apply fares_formatQty
  intro qty
  apply fares_order
  apply stops_nextOrderId
  intro id
  exact stops_bind_left (stops_placeOrder suppressed live upper account prices _ _ _ _)

/-- One buy of the rotation. -/
theorem fares_trendBuy {Candidate : Type} (selectedCandidates : Dict String Candidate)
    (plannedTrendBuys : Dict String PyFloat) (todayId symbol : String) :
    Fares account (trendBuy runtime prices trendUniverse selectedCandidates plannedTrendBuys todayId symbol)
      (buyFate runtime account prices selectedCandidates plannedTrendBuys todayId symbol) := by
  apply fares_bind asks_getAccount
  apply fares_returns
  intro price
  apply fares_returns
  intro _
  apply fares_ite fares_skip
  apply fares_ite fares_skip
  apply fares_returns
  intro size
  apply fares_formatQty
  intro qty
  apply fares_order
  apply stops_nextOrderId
  intro id
  exact stops_bind_left (stops_placeOrder suppressed live upper account prices _ _ _ _)

/-- The DCA buy of Bitcoin. -/
theorem fares_btcBuy (dcaUsdtPool btcBaseOrderUsdt ahr : PyFloat) (todayId : String) (price : PyFloat) :
    Fares account (btcBuy runtime prices dcaUsdtPool btcBaseOrderUsdt ahr todayId price)
      (btcBuyFate runtime account dcaUsdtPool btcBaseOrderUsdt ahr todayId price) := by
  apply fares_bind asks_getAccount
  apply fares_ite _ fares_skip
  apply fares_returns
  intro size
  apply fares_formatQty
  intro qty
  apply fares_order
  apply stops_nextOrderId
  intro id
  exact stops_bind_left (stops_placeOrder suppressed live upper account prices _ _ _ _)

omit [CharacterTable] suppressed live upper in
theorem asks_btcTrim (btc : BtcSnapshot) (dcaVal : PyFloat) (todayId : String) :
    ∃ outcome, Asks account (btcTrim btc dcaVal todayId) outcome := by
  by_cases triggered : (btc.sellTrigger.lt btc.zscore && (PyFloat.literal 20000).lt dcaVal
      && !(pyGet account.state "dca_last_sell_date").isStr todayId) = true
  · refine ⟨.error btcStrategyAttributionUnavailable, asks_bind asks_getAccount ?_⟩
    rw [if_pos triggered]
    exact asks_leave _
  · refine ⟨.ok (), asks_bind asks_getAccount ?_⟩
    rw [if_neg triggered]
    exact asks_pure ()

theorem parts_executeBtcDcaCycle (dcaUsdtPool dcaVal btcBaseOrderUsdt : PyFloat) (btc : BtcSnapshot)
    (todayId : String) :
    Parts account (executeBtcDcaCycle runtime prices dcaUsdtPool dcaVal btcBaseOrderUsdt btc todayId)
      (btcFate runtime account prices dcaUsdtPool dcaVal btcBaseOrderUsdt btc todayId = .submits) := by
  obtain ⟨trimmed, trims⟩ := asks_btcTrim account btc dcaVal todayId
  rw [btcFate, executeBtcDcaCycle]
  by_cases small : (dcaUsdtPool.le (.literal 10000) && dcaVal.le (.literal 10000)) = true
  · rw [if_pos small, if_pos small]
    exact parts_of_asks (asks_pure ())
  rw [if_neg small, if_neg small]
  cases quoted : priceOf prices "BTCUSDT" with
  | error raised => exact parts_of_asks (asks_bind_error (asks_returns _))
  | ok price =>
    rw [okFate]
    have fares := fares_btcBuy suppressed live upper account prices dcaUsdtPool btcBaseOrderUsdt btc.ahr999
      todayId price
    cases fate : btcBuyFate runtime account dcaUsdtPool btcBaseOrderUsdt btc.ahr999 todayId price with
    | submits =>
      rw [fate] at fares
      exact parts_of_stops (stops_bind (asks_returns _) (stops_bind_left fares))
    | skipped =>
      rw [fate] at fares
      exact parts_of_asks (asks_bind (asks_returns _) (asks_bind fares trims))
    | aborts =>
      rw [fate] at fares
      obtain ⟨raised, asks⟩ := fares
      exact parts_of_asks (asks_bind (asks_returns _) (asks_bind_error asks))

end Suppressed

/-! ## When a suppressed cycle only monitors -/

/-- On this account the program asks for no order. -/
def Quiet {α : Type} (account : Account) (program : Trading α) : Prop :=
  ∀ s, s.account = account → ∃ added, NoOrder added ∧ (program s).2.effects = s.effects ++ added

section Iff
variable {α β : Type} {account : Account}

theorem quiet_of_asks {program : Trading α} {outcome : Except PyException α}
    (asks : Asks account program outcome) : Quiet account program := by
  intro s same
  obtain ⟨added, none, ran⟩ := asks s same
  exact ⟨added, none, by rw [ran]⟩

theorem stopped_iff {program : Trading α} {submits : Bool} (n : ℕ)
    (stops : submits = true → Stops account program) (quiet : submits = false → Quiet account program) :
    StoppedBySuppression (program ⟨account, n, []⟩) ↔ submits = true := by
  cases submits with
  | true => exact ⟨fun _ => rfl, fun _ => stops rfl _ rfl⟩
  | false =>
    refine ⟨?_, fun h => by cases h⟩
    rintro ⟨raised, before, order, -, -, last⟩
    obtain ⟨added, none, same⟩ := quiet rfl ⟨account, n, []⟩ rfl
    rw [same] at last
    have member : Effect.clientCall false order ∈ added := by
      have inside : Effect.clientCall false order ∈ [] ++ added := last ▸ by simp
      simpa using inside
    exact absurd rfl (none _ member false order)

/-- A function is stopped if and only if one of its legs submits. -/
theorem stopped_iff_of_parts {program : Trading α} {submits : Bool} (n : ℕ)
    (parts : Parts account program submits) :
    StoppedBySuppression (program ⟨account, n, []⟩) ↔ submits = true :=
  stopped_iff n parts.1 fun never => quiet_of_asks (parts.2 never).choose_spec

end Iff

/-- The arguments of the four execution functions. -/
structure ExecutionInputs where
  account : Account
  orderSequence : ℕ
  prices : Document
  runtimeTrendUniverse : UniverseMapping
  trendDailyPnl : PyFloat
  circuitBreakerPct : PyFloat
  sellReasons : Dict String String
  selectedCandidates : Dict String Candidate
  eligibleBuySymbols : List String
  plannedTrendBuys : Dict String PyFloat
  dcaUsdtPool : PyFloat
  dcaVal : PyFloat
  btcBaseOrderUsdt : PyFloat
  btcSnapshot : BtcSnapshot
  todayId : String

section Main
variable [CharacterTable] (runtime : ExecutionRuntime) (trendUniverse : TrendUniverse)

namespace ExecutionInputs
variable (x : ExecutionInputs)

def start : TradingState := ⟨x.account, x.orderSequence, []⟩

/-- The breaker is triggered and reaches the order of a symbol. -/
def breakerSubmits : Bool :=
  !x.circuitBreakerPct.lt x.trendDailyPnl
    && firstSubmits (breakerFate runtime x.account x.prices) x.runtimeTrendUniverse.items

def sellsSubmit : Bool :=
  firstSubmits (sellFate runtime x.account x.prices x.sellReasons x.todayId) x.runtimeTrendUniverse.items

def buysSubmit : Bool :=
  firstSubmits (buyFate runtime x.account x.prices x.selectedCandidates x.plannedTrendBuys x.todayId)
    x.eligibleBuySymbols

def btcSubmits : Bool :=
  btcFate runtime x.account x.prices x.dcaUsdtPool x.dcaVal x.btcBaseOrderUsdt x.btcSnapshot x.todayId
    = .submits

/-- Some function reaches an order. -/
def submits : Bool :=
  x.breakerSubmits runtime || x.sellsSubmit runtime || x.buysSubmit runtime || x.btcSubmits runtime

/-- Some function is stopped by the suppression of its own order. -/
def Stopped : Prop :=
  StoppedBySuppression (runDailyCircuitBreaker runtime x.prices trendUniverse x.runtimeTrendUniverse
    x.trendDailyPnl x.circuitBreakerPct x.start) ∨
  StoppedBySuppression (executeTrendSells runtime x.prices trendUniverse x.runtimeTrendUniverse
    x.sellReasons x.todayId x.start) ∨
  StoppedBySuppression (executeTrendBuys runtime x.prices trendUniverse x.selectedCandidates
    x.eligibleBuySymbols x.plannedTrendBuys x.todayId x.start) ∨
  StoppedBySuppression (executeBtcDcaCycle runtime x.prices x.dcaUsdtPool x.dcaVal x.btcBaseOrderUsdt
    x.btcSnapshot x.todayId x.start)

end ExecutionInputs

variable {runtime trendUniverse} {x : ExecutionInputs}

/-- A dry run stops nothing. -/
theorem not_stopped_of_dryRun (dryRun : runtime.dryRun = true) : ¬x.Stopped runtime trendUniverse := by
  have frame := settles_frame runtime
  have places := settles_places dryRun x.prices
  rintro (breaker | sells | buys | btc)
  · refine not_stopped_of_settles (frame.runDailyCircuitBreaker _ _ _ _ _ ?_) rfl breaker
    exact fun _ _ _ => places _
  · refine not_stopped_of_settles (frame.executeTrendSells _ _ _ _ _ ?_) rfl sells
    exact fun _ _ _ _ _ => places _
  · refine not_stopped_of_settles (frame.executeTrendBuys _ _ _ _ _ _ ?_) rfl buys
    exact fun _ _ _ _ _ _ _ _ _ => places _
  · refine not_stopped_of_settles (frame.executeBtcDcaCycle _ _ _ _ _ _ ?_) rfl btc
    exact fun _ _ _ _ => places _

omit [CharacterTable] in
theorem notOrder_routine (effect : Effect) (routine : Routine runtime effect) :
    ∀ executed order, effect ≠ .clientCall executed order := by
  rintro executed order rfl
  exact routine.elim

/-- A breaker whose sells ask for no order asks for none afterwards. -/
theorem quiet_breaker {outcome : Except PyException Unit} (account : Account) (prices : Document)
    (runtimeTrendUniverse : UniverseMapping) (trendDailyPnl circuitBreakerPct : PyFloat)
    (asks : Asks account (forEach (breakerSell runtime prices trendUniverse) runtimeTrendUniverse.items)
      outcome) :
    Quiet account (runDailyCircuitBreaker runtime prices trendUniverse runtimeTrendUniverse trendDailyPnl
      circuitBreakerPct) := by
  unfold runDailyCircuitBreaker
  split
  · exact quiet_of_asks (asks_pure false)
  cases outcome with
  | error raised => exact quiet_of_asks (asks_bind_error asks)
  | ok _ =>
    have frame : Frame runtime (Extends fun e => ∀ executed order, e ≠ .clientCall executed order) :=
      extends_frame notOrder_routine
    have latched := frame.bind (frame.onAccount (breakCircuit runtimeTrendUniverse)) fun _ =>
      frame.bind (frame.setTradeState "daily_circuit_breaker") fun _ =>
        frame.bind (frame.notification "circuit_msg") fun _ =>
          (frame.pure : Leads _ (pure true : Trading Bool))
    intro s same
    obtain ⟨xs, none, ran⟩ := asks s same
    rw [run_bind_ok ran]
    obtain ⟨ys, grown, still⟩ := latched { s with effects := s.effects ++ xs }
    refine ⟨xs ++ ys, ?_, grown.trans (List.append_assoc _ _ _)⟩
    intro effect member
    rcases List.mem_append.mp member with early | late
    · exact none effect early
    · exact still effect late

theorem breaker_stopped (suppressed : runtime.suppressed = true) (live : runtime.dryRun = false)
    (upper : upperText "suppressed" = "SUPPRESSED") :
    StoppedBySuppression (runDailyCircuitBreaker runtime x.prices trendUniverse x.runtimeTrendUniverse
      x.trendDailyPnl x.circuitBreakerPct x.start) ↔ x.breakerSubmits runtime = true := by
  have loop := parts_forEach x.runtimeTrendUniverse.items
    (fares_breakerSell suppressed live upper x.account x.prices trendUniverse)
  apply stopped_iff
  · intro submits
    rw [ExecutionInputs.breakerSubmits, Bool.and_eq_true, Bool.not_eq_true'] at submits
    unfold runDailyCircuitBreaker
    rw [if_neg (by simp [submits.1])]
    exact stops_bind_left (loop.1 submits.2)
  · intro never
    rw [ExecutionInputs.breakerSubmits, Bool.and_eq_false_iff, Bool.not_eq_false'] at never
    rcases never with calm | passed
    · unfold runDailyCircuitBreaker
      rw [if_pos calm]
      exact quiet_of_asks (asks_pure false)
    · exact quiet_breaker _ _ _ _ _ (loop.2 passed).choose_spec

/-- Without `dry_run` a function is stopped exactly when it reaches an order. -/
theorem stopped_iff_submits (suppressed : runtime.suppressed = true) (live : runtime.dryRun = false)
    (upper : upperText "suppressed" = "SUPPRESSED") :
    x.Stopped runtime trendUniverse ↔ x.submits runtime = true := by
  have sells : StoppedBySuppression (executeTrendSells runtime x.prices trendUniverse
      x.runtimeTrendUniverse x.sellReasons x.todayId x.start) ↔ x.sellsSubmit runtime = true :=
    stopped_iff_of_parts _ (parts_forEach _
      (fares_trendSell suppressed live upper x.account x.prices trendUniverse x.sellReasons x.todayId))
  have buys : StoppedBySuppression (executeTrendBuys runtime x.prices trendUniverse x.selectedCandidates
      x.eligibleBuySymbols x.plannedTrendBuys x.todayId x.start) ↔ x.buysSubmit runtime = true :=
    stopped_iff_of_parts _ (parts_forEach _
      (fares_trendBuy suppressed live upper x.account x.prices trendUniverse x.selectedCandidates
        x.plannedTrendBuys x.todayId))
  have btc : StoppedBySuppression (executeBtcDcaCycle runtime x.prices x.dcaUsdtPool x.dcaVal
      x.btcBaseOrderUsdt x.btcSnapshot x.todayId x.start) ↔ x.btcSubmits runtime = true :=
    stopped_iff_of_parts _ (parts_executeBtcDcaCycle suppressed live upper x.account x.prices _ _ _ _ _)
  rw [ExecutionInputs.Stopped, breaker_stopped suppressed live upper, sells, buys, btc,
    ExecutionInputs.submits]
  simp only [Bool.or_eq_true, or_assoc]

variable (runtime trendUniverse) in
/-- Suppressed execution is monitoring only: nothing of a cycle is executed, and no
execution function is stopped by the suppression of its own order. -/
def MonitoringOnly (cycle : CycleInputs) (start : TradingState) (x : ExecutionInputs) : Prop :=
  Extends Unexecuted start (tradingCycle runtime trendUniverse cycle start).2 ∧
    ¬x.Stopped runtime trendUniverse

/-- A suppressed cycle only monitors if and only if it is a dry run or no execution
function reaches an order. -/
theorem monitoring_only_iff (suppressed : runtime.suppressed = true)
    (upper : upperText "suppressed" = "SUPPRESSED") (cycle : CycleInputs) (start : TradingState) :
    MonitoringOnly runtime trendUniverse cycle start x ↔
      (runtime.dryRun = true ∨ x.submits runtime = false) := by
  have unexecuted : Extends Unexecuted start (tradingCycle runtime trendUniverse cycle start).2 :=
    unexecuted_cycle suppressed start
  rw [MonitoringOnly]
  cases dryRun : runtime.dryRun with
  | true => exact ⟨fun _ => .inl rfl, fun _ => ⟨unexecuted, not_stopped_of_dryRun dryRun⟩⟩
  | false =>
    rw [stopped_iff_submits suppressed dryRun upper]
    simp [unexecuted]

end Main

section Example

local instance : CharacterTable := asciiTable

theorem five_atLeastTwo : Nat.AtLeastTwo 5 := inferInstance
theorem two_thousand_atLeastTwo : Nat.AtLeastTwo 2000 := inferInstance
attribute [local instance] five_atLeastTwo two_thousand_atLeastTwo

/-- A target whose standard execution is not permitted. -/
def disabledRuntime (dryRun : Bool) : ExecutionRuntime where
  dryRun := dryRun
  standardExecutionPermitted := false
  safeRunId := "run"
  formatQty _ size _ := .ok size
  spotFree _ _ := .ok (.finite false 5)
  submit _ account := (.error ⟨.clientCallError, "order_submission_failed"⟩, account)
  persist _ _ := .ok ()
  notify _ _ := .ok ()

theorem ether_suffixed : ∀ symbol ∈ ["ETHUSDT"], endsWithUSDT symbol = true := by decide

def soldUniverse : TrendUniverse where
  symbols := ["ETHUSDT"]
  nodup := List.nodup_singleton "ETHUSDT"
  suffixed := ether_suffixed

/-- One ether with a reason to sell it. -/
def reasonedSell : ExecutionInputs where
  account := ⟨.empty, ⟨[("ETHUSDT", .finite false 1)]⟩, .zero⟩
  orderSequence := 0
  prices := ⟨[("ETHUSDT", .float (.finite false 2000))]⟩
  runtimeTrendUniverse := ⟨[("ETHUSDT", "ETH")]⟩
  trendDailyPnl := .zero
  circuitBreakerPct := (PyFloat.literal 50).neg
  sellReasons := ⟨[("ETHUSDT", "trend_exit")]⟩
  selectedCandidates := .empty
  eligibleBuySymbols := []
  plannedTrendBuys := .empty
  dcaUsdtPool := .zero
  dcaVal := .zero
  btcBaseOrderUsdt := .zero
  btcSnapshot := ⟨.zero, .zero, .zero⟩
  todayId := "20260101"

/-- A cycle that stops before its first evaluation. -/
def unopenedCycle : CycleInputs where
  strategy := ⟨fun _ _ => .error typeError, false, fun _ _ => none, .zero⟩
  claimOwner _ := .ok true
  openingStages _ := ([], .ok false)
  prices := reasonedSell.prices
  runtimeTrendUniverse := reasonedSell.runtimeTrendUniverse
  btcSnapshot := reasonedSell.btcSnapshot
  fuelVal := .zero
  dailyState _ := ([], .ok ())
  trendDailyPnl _ := .ok .zero
  dcaVal _ := .zero
  reconcileRuntimeCashEffects _ := ([], .ok ())
  closingStages _ := ([], .ok ())
  todayId := "20260101"

theorem upper_suppressed : upperText "suppressed" = "SUPPRESSED" := by decide +kernel

/-- A dry run of the sell only monitors. -/
theorem monitoring_only_dry_run :
    MonitoringOnly (disabledRuntime true) soldUniverse unopenedCycle reasonedSell.start reasonedSell :=
  (monitoring_only_iff rfl upper_suppressed unopenedCycle reasonedSell.start).mpr (.inl rfl)

/-- Where execution is not permitted, the sell is suppressed and then ends the cycle. -/
theorem disabled_sell_stops : (disabledRuntime false).suppressed = true ∧
    ¬MonitoringOnly (disabledRuntime false) soldUniverse unopenedCycle reasonedSell.start reasonedSell := by
  refine ⟨rfl, fun monitoring => monitoring.2 ?_⟩
  rw [stopped_iff_submits rfl rfl upper_suppressed]
  decide +kernel

end Example

end BinancePlatform.Guarantees.SuppressedExecution
