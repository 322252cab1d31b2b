import BinancePlatform.Source.StrategyCycle

/-!
# When a cycle releases the state owner

For every callback and every way to leave the `try` block, the trace of a cycle
carries what happened in it. Its counters are tallies of that trace:

* the owner is released only with no pending funds and with a recorded status that
  is neither `SUBMISSION_UNKNOWN` nor `FILLED_ACCOUNTING_PENDING`;
* after an `Exception` it is released only if no submission, order id or order or
  Earn side effect happened anywhere in the cycle, and from the daily stage on no
  intent, no state write and no persistent side effect.
-/

set_option autoImplicit false

namespace BinancePlatform.Guarantees.OwnerRelease
open BinancePlatform.Library BinancePlatform.Source Program

/-! ## Tallies of a trace -/

def isSubmission : CycleEvent → Bool
  | .action .submission => true
  | _ => false

def isOrderId : CycleEvent → Bool
  | .action .orderId => true
  | _ => false

def sideEffect? : CycleEvent → Option SideEffect
  | .action (.sideEffect effect) => some effect
  | _ => none

def stateWrite? : CycleEvent → Option String
  | .action (.stateWriteIntent reason) => some reason
  | _ => none

def intent? (key : IntentKey) : CycleEvent → Option Value
  | .action (.intent other entry) => if other = key then some entry else none
  | _ => none

def isRelease : CycleEvent → Bool
  | .release => true
  | _ => false

def entersDaily : CycleEvent → Bool
  | .stage .dailyState => true
  | _ => false

/-- The part of the state that the counters and the trace make up. -/
structure Tracked where
  report : CycleReport
  orderSequence : ℕ
  sideEffectLog : List SideEffect
  cycle : Option CycleStart
  daily : Option DailyStart
  trace : List CycleEvent

def tracked (s : CycleState) : Tracked :=
  ⟨s.report, s.runtime.orderSequence, s.runtime.sideEffectLog, s.frame.cycle, s.frame.daily, s.trace⟩

/-- The counters of a state are those of the start with the tallies of its trace. -/
structure Counted (base s : CycleState) : Prop where
  submission : s.report.submissionAttemptedCount
    = base.report.submissionAttemptedCount + s.trace.countP isSubmission
  orderSequence : s.runtime.orderSequence = base.runtime.orderSequence + s.trace.countP isOrderId
  sideEffects : s.runtime.sideEffectLog
    = base.runtime.sideEffectLog ++ s.trace.filterMap sideEffect?
  stateWrites : s.report.stateWriteIntents
    = base.report.stateWriteIntents ++ s.trace.filterMap stateWrite?
  intents : ∀ key, s.report.intents key = base.report.intents key ++ s.trace.filterMap (intent? key)
  unreleased : s.trace.any isRelease = false

def startOf (base : CycleState) : CycleStart where
  submission := base.report.submissionAttemptedCount
  orderSequence := base.runtime.orderSequence
  sideEffects := base.runtime.sideEffectLog.length

/-- The counters once the events of `front` have happened. -/
def dailyOf (base : CycleState) (front : List CycleEvent) : DailyStart where
  stateWriteIntents := base.report.stateWriteIntents.length + (front.filterMap stateWrite?).length
  submission := base.report.submissionAttemptedCount + front.countP isSubmission
  sideEffects := base.runtime.sideEffectLog.length + (front.filterMap sideEffect?).length
  orderSequence := base.runtime.orderSequence + front.countP isOrderId
  intentLengths := fun key =>
    (base.report.intents key).length + (front.filterMap (intent? key)).length

variable {base s : CycleState}

theorem counted_congr {t : CycleState} (same : tracked t = tracked s) (counted : Counted base s) :
    Counted base t := by
  simp only [tracked, Tracked.mk.injEq] at same
  obtain ⟨report, orderSequence, sideEffectLog, -, -, trace⟩ := same
  constructor
  · rw [report, trace]; exact counted.submission
  · rw [orderSequence, trace]; exact counted.orderSequence
  · rw [sideEffectLog, trace]; exact counted.sideEffects
  · rw [report, trace]; exact counted.stateWrites
  · rw [report, trace]; exact counted.intents
  · rw [trace]; exact counted.unreleased

theorem counted_act (counted : Counted base s) (action : RuntimeAction) :
    Counted base (s.act action) := by
  obtain ⟨submission, orderSequence, sideEffects, stateWrites, intents, unreleased⟩ := counted
  constructor
  case intents =>
    intro key
    cases action with
    | intent other entry =>
      by_cases same : other = key
      · subst same
        simp [CycleState.act, RuntimeAction.perform, addIntent, intent?, intents]
      · simp [CycleState.act, RuntimeAction.perform, addIntent, intent?, intents, same, Ne.symm same]
    | _ => simp [CycleState.act, RuntimeAction.perform, intent?, intents]
  all_goals
    cases action <;>
      simp [CycleState.act, RuntimeAction.perform, isSubmission, isOrderId, sideEffect?, stateWrite?,
        isRelease, submission, orderSequence, sideEffects, stateWrites, unreleased, Nat.add_assoc]

theorem counted_stage (counted : Counted base s) (stage : Stage) :
    Counted base { s with trace := s.trace ++ [.stage stage] } := by
  obtain ⟨submission, orderSequence, sideEffects, stateWrites, intents, unreleased⟩ := counted
  constructor <;>
    simp [isSubmission, isOrderId, sideEffect?, stateWrite?, intent?, isRelease, submission,
      orderSequence, sideEffects, stateWrites, intents, unreleased]

/-! ## The phases of a cycle -/

/-- Between the claim and the daily stage. -/
structure Running (base s : CycleState) : Prop where
  counted : Counted base s
  cycle : s.frame.cycle = some (startOf base)
  daily : s.frame.daily = none
  before : s.trace.any entersDaily = false

/-- From the daily stage on: `front` happened before it. -/
structure Daily (base s : CycleState) : Prop where
  counted : Counted base s
  cycle : s.frame.cycle = some (startOf base)
  daily : ∃ front back, s.trace = front ++ .stage .dailyState :: back
    ∧ front.any entersDaily = false ∧ s.frame.daily = some (dailyOf base front)

/-- Wherever the `try` block is left. -/
def Left (base s : CycleState) : Prop :=
  s.trace.any isRelease = false ∧ s.frame.cycle = none ∨ Running base s ∨ Daily base s

/-- Kept by every action, by every later stage, and by what is not tracked. -/
structure Steady (holds : CycleState → Prop) : Prop where
  congr : ∀ {s t : CycleState}, tracked t = tracked s → holds s → holds t
  act : ∀ {s : CycleState} (action : RuntimeAction), holds s → holds (s.act action)
  stage : ∀ {s : CycleState} {stage : Stage}, stage ≠ .dailyState → holds s →
    holds { s with trace := s.trace ++ [.stage stage] }

theorem act_frame (s : CycleState) (action : RuntimeAction) :
    (s.act action).frame.cycle = s.frame.cycle ∧ (s.act action).frame.daily = s.frame.daily
      ∧ (s.act action).trace = s.trace ++ [.action action] := by
  cases action <;> exact ⟨rfl, rfl, rfl⟩

theorem frame_congr {s t : CycleState} (same : tracked t = tracked s) :
    t.frame.cycle = s.frame.cycle ∧ t.frame.daily = s.frame.daily ∧ t.trace = s.trace := by
  simp only [tracked, Tracked.mk.injEq] at same
  exact ⟨same.2.2.2.1, same.2.2.2.2.1, same.2.2.2.2.2⟩

theorem entersDaily_stage {stage : Stage} (later : stage ≠ .dailyState) :
    entersDaily (.stage stage) = false := by
  cases stage <;> first | rfl | exact absurd rfl later

theorem running_steady (base : CycleState) : Steady (Running base) where
  congr := by
    intro s t same ⟨counted, cycle, daily, before⟩
    obtain ⟨sameCycle, sameDaily, sameTrace⟩ := frame_congr same
    exact ⟨counted_congr same counted, sameCycle.trans cycle, sameDaily.trans daily,
      by rw [sameTrace, before]⟩
  act := by
    intro s action ⟨counted, cycle, daily, before⟩
    obtain ⟨sameCycle, sameDaily, grown⟩ := act_frame s action
    refine ⟨counted_act counted action, sameCycle.trans cycle, sameDaily.trans daily, ?_⟩
    simp [grown, before, entersDaily]
  stage := by
    intro s stage later ⟨counted, cycle, daily, before⟩
    refine ⟨counted_stage counted stage, cycle, daily, ?_⟩
    simp [before, entersDaily_stage later]

theorem daily_steady (base : CycleState) : Steady (Daily base) where
  congr := by
    intro s t same ⟨counted, cycle, daily⟩
    obtain ⟨sameCycle, sameDaily, sameTrace⟩ := frame_congr same
    refine ⟨counted_congr same counted, sameCycle.trans cycle, ?_⟩
    rw [sameTrace, sameDaily]
    exact daily
  act := by
    intro s action ⟨counted, cycle, front, back, split, before, daily⟩
    obtain ⟨sameCycle, sameDaily, grown⟩ := act_frame s action
    refine ⟨counted_act counted action, sameCycle.trans cycle, front, back ++ [.action action], ?_,
      before, sameDaily.trans daily⟩
    rw [grown, split, List.append_assoc]
    rfl
  stage := by
    intro s stage later ⟨counted, cycle, front, back, split, before, daily⟩
    refine ⟨counted_stage counted stage, cycle, front, back ++ [.stage stage], ?_, before, daily⟩
    rw [split, List.append_assoc]
    rfl

theorem unclaimed_steady :
    Steady (fun s => s.trace.any isRelease = false ∧ s.frame.cycle = none) where
  congr := by
    intro s t same ⟨unreleased, cycle⟩
    obtain ⟨sameCycle, -, sameTrace⟩ := frame_congr same
    exact ⟨by rw [sameTrace, unreleased], sameCycle.trans cycle⟩
  act := by
    intro s action ⟨unreleased, cycle⟩
    obtain ⟨sameCycle, -, grown⟩ := act_frame s action
    exact ⟨by simp [grown, unreleased, isRelease], sameCycle.trans cycle⟩
  stage := by
    intro s stage later ⟨unreleased, cycle⟩
    exact ⟨by simp [unreleased, isRelease], cycle⟩

/-! ## Programs that keep a phase -/

abbrev Keeps (holds : CycleState → Prop) {α : Type} (program : Source.Cycle α) : Prop :=
  Meets holds program holds holds

section Keeps
variable {holds : CycleState → Prop} {α : Type}

theorem keeps_call (act : ∀ {s : CycleState} (action : RuntimeAction), holds s → holds (s.act action))
    (callback : Callback α) : Keeps holds (Source.call callback) := by
  intro s start
  have folded : ∀ (actions : List RuntimeAction) (s : CycleState), holds s →
      holds (actions.foldl CycleState.act s) := by
    intro actions
    induction actions with
    | nil => exact fun _ start => start
    | cons action rest ih => exact fun s start => ih _ (act action start)
  have reached := folded (callback s).1 s start
  unfold Source.call
  cases (callback s).2 with
  | error => exact reached
  | ok => exact reached

theorem Steady.call (steady : Steady holds) (callback : Callback α) :
    Keeps holds (Source.call callback) :=
  keeps_call steady.act callback

theorem Steady.perform (steady : Steady holds) (action : RuntimeAction) :
    Keeps holds (Source.perform action) :=
  .update fun _ start => steady.act action start

theorem Steady.enter (steady : Steady holds) {stage : Stage} (later : stage ≠ .dailyState) :
    Keeps holds (Source.enter stage) :=
  .update fun s start => steady.congr
    (show tracked _ = tracked { s with trace := s.trace ++ [.stage stage] } from rfl)
    (steady.stage later start)

theorem Steady.update (steady : Steady holds) {f : CycleState → CycleState}
    (untracked : ∀ s, tracked (f s) = tracked s) : Keeps holds (.update f) :=
  .update fun s start => steady.congr (untracked s) start

theorem Steady.setStateHealthy (steady : Steady holds) (healthy : Bool) :
    Keeps holds (Source.setStateHealthy healthy) :=
  steady.update fun _ => rfl

theorem Steady.adoptState (steady : Steady holds) (state : Value) :
    Keeps holds (Source.adoptState state) :=
  steady.update fun _ => rfl

theorem keeps_evaluate (outcome : Except CycleExit α) : Keeps holds (evaluate outcome) := by
  intro s start
  cases outcome with
  | error => exact start
  | ok => exact start

/-- What follows an evaluation knows its outcome. -/
theorem evaluate_bind {outcome : Except CycleExit α} {β : Type} {next : α → Source.Cycle β}
    {after left : CycleState → Prop} (leads : ∀ s, holds s → left s)
    (rest : ∀ value, outcome = .ok value → Meets holds (next value) after left) :
    Meets holds (evaluate outcome >>= next) after left := by
  cases outcome with
  | error => exact fun s start => leads s start
  | ok value => exact rest value rfl

theorem keeps_leave (left : CycleExit) : Keeps holds (.leave left : Source.Cycle α) :=
  .leave fun _ start => start

end Keeps

section Stages
variable (callbacks : CycleCallbacks) {holds : CycleState → Prop} (steady : Steady holds)

theorem keeps_leaveIf (condition : Bool) (left : CycleExit) : Keeps holds (leaveIf condition left) :=
  .ite (keeps_leave left) .pure

include steady

theorem loseOwnerIf_keeps (condition : Bool) : Keeps holds (loseOwnerIf condition) := by
  apply Meets.ite ?_ .pure
  apply (steady.perform .loseOwner).bind
  intro _
  exact keeps_leave .exception

theorem requireRuntimeStateOwner_keeps : Keeps holds (requireRuntimeStateOwner callbacks) := by
  apply Meets.get.bind
  intro s
  apply (keeps_leaveIf _ _).bind
  intro _
  apply (keeps_evaluate _).bind
  intro active
  exact loseOwnerIf_keeps steady _

theorem runtimeSetTradeState_keeps (state : Value) (reason : String) (interval : Bool) :
    Keeps holds (runtimeSetTradeState callbacks state reason interval) := by
  apply (steady.perform _).bind
  intro _
  apply Meets.get.bind
  intro s
  apply Meets.ite (steady.perform _)
  apply (requireRuntimeStateOwner_keeps callbacks steady).bind
  intro _
  apply (loseOwnerIf_keeps steady _).bind
  intro _
  apply (loseOwnerIf_keeps steady _).bind
  intro _
  apply (keeps_evaluate _).bind
  intro persisted
  apply (loseOwnerIf_keeps steady _).bind
  intro _
  apply (keeps_leaveIf _ _).bind
  intro _
  apply (steady.perform _).bind
  intro _
  exact steady.perform _

theorem loadStage_keeps : Keeps holds (loadStage callbacks) := by
  apply (steady.enter (by decide)).bind
  intro _
  apply (steady.call _).bind
  intro loaded
  cases loaded with
  | none => exact keeps_leave .returned
  | some state =>
    apply (steady.adoptState state).bind
    intro _
    apply (keeps_evaluate _).bind
    intro initialOrderState
    exact steady.update fun _ => rfl

theorem reconciliationStage_keeps : Keeps holds (reconciliationStage callbacks) := by
  apply (steady.enter (by decide)).bind
  intro _
  apply (steady.call _).bind
  intro _
  apply Meets.get.bind
  intro s
  apply (keeps_evaluate _).bind
  intro status
  apply Meets.ite ?_ (keeps_leaveIf _ _)
  apply (steady.call _).bind
  intro _
  exact keeps_leave .exception

theorem openingStages_keeps : Keeps holds (openingStages callbacks) := by
  apply (steady.enter (by decide)).bind
  intro _
  apply (steady.call _).bind
  intro connected
  apply (keeps_leaveIf _ _).bind
  intro _
  apply (loadStage_keeps callbacks steady).bind
  intro _
  apply (reconciliationStage_keeps callbacks steady).bind
  intro _
  apply (steady.enter (by decide)).bind
  intro _
  apply (steady.call _).bind
  intro _
  apply (steady.enter (by decide)).bind
  intro _
  apply (steady.call _).bind
  intro _
  apply (steady.setStateHealthy true).bind
  intro _
  apply (steady.enter (by decide)).bind
  intro _
  apply (steady.call _).bind
  intro permitted
  exact keeps_leaveIf _ _

theorem dailyStage_keeps : Keeps holds (dailyStage callbacks) := by
  apply (steady.call _).bind
  intro _
  apply (steady.call _).bind
  intro _
  apply (steady.call _).bind
  intro _
  apply (steady.call _).bind
  intro _
  apply (steady.call _).bind
  intro _
  apply Meets.get.bind
  intro s
  apply (keeps_evaluate _).bind
  intro broken
  exact keeps_leaveIf _ _

theorem fuelStage_keeps : Keeps holds (fuelStage callbacks) := by
  apply (steady.enter (by decide)).bind
  intro _
  apply (steady.call _).bind
  intro fuelStatus
  apply Meets.ite .pure
  apply Meets.ite
  · apply (steady.call _).bind
    intro _
    apply Meets.get.bind
    intro s
    apply (runtimeSetTradeState_keeps callbacks steady _ _ _).bind
    intro _
    exact keeps_leave .returned
  · apply (steady.setStateHealthy false).bind
    intro _
    exact keeps_leave .returned

theorem tradingStages_keeps : Keeps holds (tradingStages callbacks) := by
  apply (steady.enter (by decide)).bind
  intro _
  apply (steady.call _).bind
  intro triggered
  apply (keeps_leaveIf _ _).bind
  intro _
  apply (fuelStage_keeps callbacks steady).bind
  intro _
  apply (steady.enter (by decide)).bind
  intro _
  apply (steady.call _).bind
  intro _
  apply (steady.enter (by decide)).bind
  intro _
  apply (steady.call _).bind
  intro permitted
  apply (keeps_leaveIf _ _).bind
  intro _
  apply (steady.call _).bind
  intro _
  apply (steady.enter (by decide)).bind
  intro _
  apply (steady.call _).bind
  intro _
  apply (steady.enter (by decide)).bind
  intro _
  apply (steady.call _).bind
  intro _
  apply (steady.enter (by decide)).bind
  intro _
  apply (steady.call _).bind
  intro _
  apply (steady.enter (by decide)).bind
  intro _
  apply (steady.call _).bind
  intro _
  apply (steady.call _).bind
  intro _
  apply Meets.get.bind
  intro s
  exact runtimeSetTradeState_keeps callbacks steady _ _ _

end Stages

/-! ## The `try` block -/

section Body
variable (callbacks : CycleCallbacks) (claimable : Bool) (runtime : CycleRuntime)
  (report : CycleReport)

theorem counted_opened : Counted (opened runtime report) (opened runtime report) := by
  constructor <;> simp [opened]

theorem acquire_untracked : Keeps (fun s => tracked s = tracked (opened runtime report))
    (acquireRuntimeStateOwner callbacks claimable) := by
  apply Meets.get.bind
  intro s
  apply Meets.ite .pure
  apply (keeps_leaveIf _ _).bind
  intro _
  apply Meets.bind (Q := fun s => tracked s = tracked (opened runtime report))
  · exact Meets.update fun _ same => same
  intro _
  cases callbacks.stateOwnerClaim s with
  | error left => exact keeps_leave left
  | ok held =>
    cases held with
    | false | true =>
      apply Meets.bind (Q := fun s => tracked s = tracked (opened runtime report))
      · exact Meets.update fun _ same => same
      · exact fun _ => .pure

theorem unclaimed_left {s : CycleState} (same : tracked s = tracked (opened runtime report)) :
    Left (opened runtime report) s := by
  obtain ⟨cycle, -, trace⟩ := frame_congr same
  exact .inl ⟨by rw [trace]; rfl, cycle⟩

theorem captureCycleStart_running : Meets (fun s => tracked s = tracked (opened runtime report))
    captureCycleStart (Running (opened runtime report)) (Left (opened runtime report)) := by
  apply Meets.update
  intro s same
  have counted := counted_congr same (counted_opened runtime report)
  simp only [tracked, Tracked.mk.injEq] at same
  obtain ⟨sameReport, sameSequence, sameLog, -, daily, trace⟩ := same
  have claimed : Counted (opened runtime report)
      { s with frame := { s.frame with cycle := some (startOf (opened runtime report)) } } :=
    ⟨counted.submission, counted.orderSequence, counted.sideEffects, counted.stateWrites,
      counted.intents, counted.unreleased⟩
  refine ⟨counted_congr ?_ claimed, ?_, daily, by rw [trace]; rfl⟩
  · simp only [tracked, sameReport, sameSequence, sameLog]
    rfl
  · simp only [sameReport, sameSequence, sameLog]
    rfl

/-- The daily stage has been entered, and its counters are not captured yet. -/
def AtDaily (base s : CycleState) : Prop :=
  Counted base s ∧ s.frame.cycle = some (startOf base)
    ∧ ∃ front, s.trace = front ++ [.stage .dailyState] ∧ front.any entersDaily = false

theorem captureDailyStart_daily {base : CycleState} :
    Meets (AtDaily base) captureDailyStart (Daily base) (Left base) := by
  apply Meets.update
  rintro s ⟨counted, cycle, front, split, before⟩
  obtain ⟨submission, orderSequence, sideEffects, stateWrites, intents, unreleased⟩ := counted
  refine ⟨⟨submission, orderSequence, sideEffects, stateWrites, intents, unreleased⟩, cycle, front, [],
    split, before, ?_⟩
  rw [split] at submission orderSequence sideEffects stateWrites intents
  simp only [dailyOf, Option.some.injEq, DailyStart.mk.injEq]
  refine ⟨?_, ?_, ?_, ?_, funext fun key => ?_⟩
  · simp [stateWrites, stateWrite?]
  · simp [submission, isSubmission]
  · simp [sideEffects, sideEffect?]
  · simp [orderSequence, isOrderId]
  · simp [intents, intent?]

theorem cycleBody_meets : Meets (fun s => s = opened runtime report) (cycleBody callbacks claimable)
    (Daily (opened runtime report)) (Left (opened runtime report)) := by
  have acquired : Meets (fun s => s = opened runtime report)
      (acquireRuntimeStateOwner callbacks claimable)
      (fun s => tracked s = tracked (opened runtime report)) (Left (opened runtime report)) := by
    apply (acquire_untracked callbacks claimable runtime report).weaken
    · rintro s rfl
      rfl
    · exact fun _ same => same
    · exact fun _ same => unclaimed_left runtime report same
  apply acquired.bind
  intro held
  apply Meets.bind ((keeps_leaveIf _ _).weaken (fun _ same => same) (fun _ same => same)
    fun _ same => unclaimed_left runtime report same)
  intro _
  apply (captureCycleStart_running runtime report).bind
  intro _
  apply Meets.bind ((openingStages_keeps callbacks (running_steady _)).weaken (fun _ running => running)
    (fun _ running => running) fun _ running => .inr (.inl running))
  intro _
  have entered : Meets (Running (opened runtime report)) (enter .dailyState)
      (AtDaily (opened runtime report)) (Left (opened runtime report)) := by
    apply Meets.update
    intro s running
    refine ⟨counted_congr ?_ (counted_stage running.counted .dailyState), running.cycle, s.trace, rfl,
      running.before⟩
    rfl
  apply entered.bind
  intro _
  apply captureDailyStart_daily.bind
  intro _
  apply Meets.bind ((dailyStage_keeps callbacks (daily_steady _)).weaken (fun _ daily => daily)
    (fun _ daily => daily) fun _ daily => .inr (.inr daily))
  intro _
  exact (tradingStages_keeps callbacks (daily_steady _)).weaken (fun _ daily => daily)
    (fun _ daily => daily) fun _ daily => .inr (.inr daily)

end Body

/-! ## The release -/

/-- The state after a release from `s`: the owner is gone, all else is as it was. -/
structure ReleasedFrom (s t : CycleState) : Prop where
  trace : t.trace = s.trace ++ [.release, .action .loseOwner]
  funds : t.runtime.pendingFunds = s.runtime.pendingFunds ∧ s.runtime.pendingFunds = []
  tradeState : t.runtime.tradeState = s.runtime.tradeState
  status : ∃ status, recordedStatus s.runtime.tradeState = some status ∧ isUnsettled status = false

/-- A release happens only as `ReleasedFrom` says. -/
def ReleasedOnly (s t : CycleState) : Prop := t.trace.any isRelease = true → ReleasedFrom s t

section Release
variable (callbacks : CycleCallbacks) {s : CycleState} (unreleased : s.trace.any isRelease = false)
include unreleased

theorem releasedOnly_self : ReleasedOnly s s := by
  intro released
  rw [unreleased] at released
  cases released

theorem left_unreleased (left : CycleExit) {α : Type} :
    Meets (fun t => t = s) (.leave left : Source.Cycle α) (fun t => t = s) (ReleasedOnly s) := by
  apply Meets.leave
  rintro t rfl
  exact releasedOnly_self unreleased

theorem evaluate_unreleased {α : Type} (outcome : Except CycleExit α) :
    Meets (fun t => t = s) (evaluate outcome) (fun t => t = s) (ReleasedOnly s) := by
  apply (keeps_evaluate outcome).weaken (fun _ same => same) fun _ same => same
  rintro t rfl
  exact releasedOnly_self unreleased

theorem requireRuntimeStateOwner_unreleased :
    Meets (fun t => t = s) (requireRuntimeStateOwner callbacks) (fun t => t = s) (ReleasedOnly s) := by
  apply Meets.get_bind
  rintro t rfl
  apply Meets.bind (Q := fun u => u = t)
  · exact .ite (left_unreleased unreleased .exception) .pure
  intro _
  apply (evaluate_unreleased unreleased _).bind
  intro active
  apply Meets.ite ?_ .pure
  apply Meets.bind (Q := fun u => u.trace.any isRelease = false)
  · apply Meets.update
    rintro u rfl
    simp [CycleState.act, unreleased, isRelease]
  · intro _
    apply Meets.leave
    intro u kept released
    rw [kept] at released
    cases released

theorem releaseRuntimeStateOwner_only :
    Meets (fun t => t = s) (releaseRuntimeStateOwner callbacks) (ReleasedOnly s) (ReleasedOnly s) := by
  have refused : Meets (fun t => t = s) (pure false : Source.Cycle Bool) (ReleasedOnly s) (ReleasedOnly s) := by
    apply Meets.pure.weaken (fun _ same => same) ?_ fun _ only => only
    rintro t rfl
    exact releasedOnly_self unreleased
  apply (requireRuntimeStateOwner_unreleased callbacks unreleased).bind
  intro _
  apply Meets.get_bind
  rintro t rfl
  by_cases pending : (!t.runtime.pendingFunds.isEmpty) = true
  · rw [if_pos pending]
    exact refused
  rw [if_neg pending]
  have empty : t.runtime.pendingFunds = [] := by simpa using pending
  cases recorded : recordedStatus t.runtime.tradeState with
  | none =>
    apply Meets.leave
    rintro u rfl
    exact releasedOnly_self unreleased
  | some status =>
    by_cases unsettled : isUnsettled status = true
    · simp only [unsettled, if_true]
      exact refused
    simp only [unsettled]
    apply Meets.bind (Q := fun u => u = { t with trace := t.trace ++ [.release] })
    · exact .update fun u same => by rw [same]
    intro _
    apply Meets.bind (Q := ReleasedFrom t)
    · apply Meets.update
      rintro u rfl
      refine ⟨?_, ⟨rfl, empty⟩, rfl, status, recorded, by simpa using unsettled⟩
      simp [CycleState.act]
    intro _
    apply Meets.bind (Q := ReleasedFrom t)
    · exact (keeps_evaluate _).weaken (fun _ gone => gone) (fun _ gone => gone) fun _ gone _ => gone
    intro released
    apply Meets.bind (Q := ReleasedFrom t)
    · exact (keeps_leaveIf _ _).weaken (fun _ gone => gone) (fun _ gone => gone) fun _ gone _ => gone
    intro _
    exact Meets.pure.weaken (fun _ gone => gone) (fun _ gone _ => gone) fun _ only => only

/-- What the `finally` block found before it released the owner. -/
def Decided (s : CycleState) : Prop :=
  s.frame.stateHealthy = false ∧ s.frame.failureStage = .dailyState
      ∧ (∃ current, settledOrderState (s.runtime.tradeState.orElse s.frame.state) = .ok current
        ∧ fundingUntouched s current = true)
    ∨ s.frame.stateHealthy = true

theorem finallyRelease_only : (finallyRelease callbacks s).2.trace.any isRelease = true →
    ReleasedFrom s (finallyRelease callbacks s).2 ∧ Decided s := by
  have quiet : ∀ t, t = s → t.trace.any isRelease = true → ReleasedFrom s t ∧ Decided s := by
    rintro t rfl released
    rw [unreleased] at released
    cases released
  have meets : Meets (fun t => t = s) (finallyRelease callbacks)
      (fun t => t.trace.any isRelease = true → ReleasedFrom s t ∧ Decided s)
      (fun t => t.trace.any isRelease = true → ReleasedFrom s t ∧ Decided s) := by
    apply Meets.get_bind
    rintro t rfl
    apply evaluate_bind quiet
    intro current settled
    apply evaluate_bind quiet
    intro forwardReason forward
    by_cases decided : (forwardReason && fundingUntouched t current
        || t.frame.stateHealthy && t.runtime.stateOwnerHeld) = true
    · have found : Decided t := by
        simp only [Bool.or_eq_true, Bool.and_eq_true] at decided
        rcases decided with ⟨reason, untouched⟩ | ⟨healthy, -⟩
        · subst reason
          split at forward
          next failed =>
            simp only [Bool.and_eq_true, Bool.not_eq_true', decide_eq_true_eq] at failed
            exact .inl ⟨failed.1, failed.2, current, settled, untouched⟩
          next => cases forward
        · exact .inr healthy
      rw [if_pos decided]
      apply Meets.bind ((releaseRuntimeStateOwner_only callbacks unreleased).weaken
        (fun _ same => same) (fun _ only => only) fun _ only released => ⟨only released, found⟩)
      intro _
      exact Meets.pure.weaken (fun _ only => only) (fun _ only released => ⟨only released, found⟩)
        fun _ only => only
    · rw [if_neg decided]
      exact Meets.pure.weaken (fun _ same => same) quiet fun _ only => only
  exact meets.ended rfl fun _ only => only

end Release

/-! ## The whole cycle -/

/-- The actions that may move funds or leave an order behind. -/
def movesFunds : CycleEvent → Bool
  | .action .submission => true
  | .action .orderId => true
  | .action (.sideEffect effect) => effect.isFunding
  | _ => false

/-- The actions after which the durable document may no longer describe all funds. -/
def touchesState : CycleEvent → Bool
  | .action (.intent _ _) => true
  | .action (.stateWriteIntent _) => true
  | .action (.sideEffect effect) => effect.isPersistent
  | _ => false

/-- No intent, state write or persistent side effect from the daily stage on. -/
def DailyUntouched (trace : List CycleEvent) : Prop :=
  ∃ front back, trace = front ++ .stage .dailyState :: back ∧ front.any entersDaily = false
    ∧ back.any touchesState = false

theorem any_movesFunds {trace : List CycleEvent} (submissions : trace.countP isSubmission = 0)
    (orderIds : trace.countP isOrderId = 0)
    (sideEffects : (trace.filterMap sideEffect?).all (!·.isFunding) = true) :
    trace.any movesFunds = false := by
  rw [List.any_eq_false]
  intro event member moves
  rw [List.countP_eq_zero] at submissions orderIds
  rw [List.all_eq_true] at sideEffects
  cases event with
  | stage | release => cases moves
  | action performed =>
    cases performed with
    | submission => exact submissions _ member rfl
    | orderId => exact orderIds _ member rfl
    | sideEffect effect =>
      have absent := sideEffects effect (List.mem_filterMap.mpr ⟨_, member, rfl⟩)
      simp only [movesFunds] at moves
      simp [moves] at absent
    | _ => cases moves

theorem any_touchesState {trace : List CycleEvent}
    (intents : ∀ key, (trace.filterMap (intent? key)).length = 0)
    (stateWrites : (trace.filterMap stateWrite?).length = 0)
    (sideEffects : (trace.filterMap sideEffect?).all (!·.isPersistent) = true) :
    trace.any touchesState = false := by
  rw [List.any_eq_false]
  intro event member touches
  rw [List.all_eq_true] at sideEffects
  cases event with
  | stage | release => cases touches
  | action performed =>
    cases performed with
    | intent key entry =>
      have none := List.eq_nil_of_length_eq_zero (intents key)
      have found : entry ∈ trace.filterMap (intent? key) :=
        List.mem_filterMap.mpr ⟨_, member, if_pos rfl⟩
      rw [none] at found
      cases found
    | stateWriteIntent reason =>
      have none := List.eq_nil_of_length_eq_zero stateWrites
      have found : reason ∈ trace.filterMap stateWrite? := List.mem_filterMap.mpr ⟨_, member, rfl⟩
      rw [none] at found
      cases found
    | sideEffect effect =>
      have absent := sideEffects effect (List.mem_filterMap.mpr ⟨_, member, rfl⟩)
      simp only [touchesState] at touches
      simp [touches] at absent
    | _ => cases touches

/-- The tests of `pure_daily_state_failure`, read back from the tallies. -/
theorem untouched_of_left {base s : CycleState} {current : Option String} (left : Left base s)
    (untouched : fundingUntouched s current = true) :
    s.trace.any movesFunds = false ∧ DailyUntouched s.trace
      ∧ isSettled s.frame.initialOrderState = true ∧ isSettled current = true := by
  simp only [fundingUntouched, Bool.and_eq_true, decide_eq_true_eq] at untouched
  obtain ⟨⟨⟨⟨⟨⟨⟨⟨⟨⟨⟨⟨-, initial⟩, settled⟩, -⟩, dailySubmission⟩, cycleSubmission⟩, intents⟩,
    dailySequence⟩, cycleSequence⟩, -⟩, cycleEffects⟩, dailyEffects⟩, writes⟩ := untouched
  rcases left with ⟨-, unclaimed⟩ | running | ⟨counted, cycle, front, back, split, before, daily⟩
  · rw [unclaimed] at cycleSubmission
    cases cycleSubmission
  · rw [running.daily] at dailySubmission
    cases dailySubmission
  · obtain ⟨submission, orderSequence, sideEffects, stateWrites, intentsNow, -⟩ := counted
    rw [cycle] at cycleSubmission cycleSequence cycleEffects
    rw [daily] at intents dailyEffects writes
    refine ⟨any_movesFunds ?_ ?_ ?_, ⟨front, back, split, before, any_touchesState ?_ ?_ ?_⟩, initial,
      settled⟩
    · simp only [Option.map_some, startOf, Option.some.injEq] at cycleSubmission
      omega
    · simp only [Option.map_some, startOf, Option.some.injEq] at cycleSequence
      omega
    · simpa [sideEffectsFrom, startOf, sideEffects] using cycleEffects
    · intro key
      have counts : (s.report.intents key).length = (dailyOf base front).intentLengths key := by
        simp only [Option.elim_some, List.all_cons, List.all_nil, Bool.and_true, Bool.and_eq_true,
          decide_eq_true_eq] at intents
        cases key with
        | buySell => exact intents.1
        | btcDca => exact intents.2.1
        | redemptionSubscription => exact intents.2.2
      rw [intentsNow, split] at counts
      simp only [dailyOf, List.length_append, List.filterMap_append, List.filterMap_cons, intent?] at counts
      omega
    · simp only [Option.map_some, dailyOf, Option.some.injEq, stateWrites, split, List.length_append,
        List.filterMap_append, List.filterMap_cons, stateWrite?] at writes
      omega
    · have later : s.runtime.sideEffectLog.drop (dailyOf base front).sideEffects
          = back.filterMap sideEffect? := by
        rw [sideEffects, split, List.filterMap_append, ← List.append_assoc]
        exact List.drop_left' (by simp [dailyOf])
      simpa [sideEffectsFrom, later] using dailyEffects

section Whole
variable (callbacks : CycleCallbacks)

theorem unreleased_of_left {base s : CycleState} (left : Left base s) :
    s.trace.any isRelease = false := by
  rcases left with ⟨unreleased, -⟩ | running | daily
  · exact unreleased
  · exact running.counted.unreleased
  · exact daily.counted.unreleased

theorem handleException_left {base : CycleState} : Meets (Left base) (handleException callbacks)
    (fun s => Left base s ∧ s.frame.stateHealthy = false)
    (fun s => Left base s ∧ s.frame.stateHealthy = false) := by
  apply Meets.bind (Q := fun s => Left base s ∧ s.frame.stateHealthy = false)
  · apply Meets.update
    rintro s (unclaimed | running | daily)
    · exact ⟨.inl (unclaimed_steady.congr rfl unclaimed), rfl⟩
    · refine ⟨.inr (.inl ((running_steady base).congr ?_ running)), rfl⟩
      rfl
    · refine ⟨.inr (.inr ((daily_steady base).congr ?_ daily)), rfl⟩
      rfl
  · intro _
    apply keeps_call
    rintro s action ⟨left, unhealthy⟩
    have kept : (s.act action).frame.stateHealthy = false := by
      cases action <;> exact unhealthy
    refine ⟨?_, kept⟩
    rcases left with unclaimed | running | daily
    · exact .inl (unclaimed_steady.act action unclaimed)
    · exact .inr (.inl ((running_steady base).act action running))
    · exact .inr (.inr ((daily_steady base).act action daily))

/-- A record that is absent, `RESERVED` or `TERMINAL`. -/
def RecordSettled (tradeState : Value) : Prop :=
  ∃ status, recordedStatus tradeState = some status
    ∧ (status = .none ∨ status = .str orderSubmissionReserved ∨ status = .str orderSubmissionTerminal)

theorem recordSettled_of_current {tradeState state : Value} {current : Option String}
    (found : settledOrderState (tradeState.orElse state) = .ok current)
    (settled : isSettled current = true) : RecordSettled tradeState := by
  by_cases present : tradeState.truthy = true
  · rw [Value.orElse, if_pos present] at found
    unfold RecordSettled recordedStatus
    rw [Value.orElse, if_pos present]
    cases tradeState with
    | dict document =>
      simp only [settledOrderState, pyGet] at found
      cases stored : document.get? "order_submission" with
      | none =>
        rw [stored] at found
        cases found
        cases settled
      | some record =>
        rw [stored] at found
        cases record with
        | dict entries =>
          simp only [Option.getD_some] at found ⊢
          cases status : (entries.get? "state").getD .none with
          | str text =>
            rw [status] at found
            cases found
            have recorded : pyGet entries "state" = .str text := status
            refine ⟨.str text, by rw [stored]; simp [recorded, Value.hashable], .inr ?_⟩
            by_cases known : text = orderSubmissionReserved ∨ text = orderSubmissionTerminal
            · rcases known with rfl | rfl
              · exact .inl rfl
              · exact .inr rfl
            · rw [if_neg known] at settled
              cases settled
          | list | dict =>
            rw [status] at found
            cases found
          | _ =>
            rw [status] at found
            cases found
            cases settled
        | _ =>
          cases found
          cases settled
    | _ =>
      cases found
      cases settled
  · unfold RecordSettled recordedStatus
    rw [Value.orElse, if_neg present]
    exact ⟨.none, rfl, .inl rfl⟩

/-- What a release leaves in the state. -/
theorem settled_of_released {s : CycleState} (unreleased : s.trace.any isRelease = false)
    (released : (finallyRelease callbacks s).2.trace.any isRelease = true) :
    (finallyRelease callbacks s).2.runtime.pendingFunds = []
      ∧ ∃ status, recordedStatus (finallyRelease callbacks s).2.runtime.tradeState = some status
        ∧ isUnsettled status = false := by
  obtain ⟨-, ⟨same, none⟩, tradeState, status, recorded, known⟩ :=
    (finallyRelease_only callbacks unreleased released).1
  exact ⟨same.trans none, status, by rw [tradeState, recorded], known⟩

/-- An unhealthy cycle that releases has left everything untouched. -/
theorem untouched_of_released {base s : CycleState} (left : Left base s)
    (unhealthy : s.frame.stateHealthy = false)
    (released : (finallyRelease callbacks s).2.trace.any isRelease = true) :
    RecordSettled (finallyRelease callbacks s).2.runtime.tradeState
      ∧ (finallyRelease callbacks s).2.trace.any movesFunds = false
      ∧ DailyUntouched (finallyRelease callbacks s).2.trace := by
  obtain ⟨after, decided⟩ := finallyRelease_only callbacks (unreleased_of_left left) released
  rcases decided with ⟨-, -, current, found, untouched⟩ | healthy
  · obtain ⟨moves, ⟨front, back, split, before, touches⟩, -, settled⟩ := untouched_of_left left untouched
    rw [after.tradeState, after.trace]
    refine ⟨recordSettled_of_current found settled, ?_, front,
      back ++ [.release, .action .loseOwner], ?_, before, ?_⟩
    · simp [moves, movesFunds]
    · rw [split, List.append_assoc, List.cons_append]
    · simp [touches, touchesState]
  · rw [unhealthy] at healthy
    cases healthy

/-- Whatever the callbacks do, a released owner left nothing behind. -/
theorem release_discipline (callbacks : CycleCallbacks) (claimable : Bool) (runtime : CycleRuntime)
    (report : CycleReport) {exit : Option CycleExit} {last : CycleState}
    (run : executeStrategyCycle callbacks claimable runtime report = (exit, last))
    (released : last.trace.any isRelease = true) :
    last.runtime.pendingFunds = []
      ∧ (∃ status, recordedStatus last.runtime.tradeState = some status ∧ isUnsettled status = false)
      ∧ (exit = some .exception → RecordSettled last.runtime.tradeState
          ∧ last.trace.any movesFunds = false ∧ DailyUntouched last.trace) := by
  have left : Left (opened runtime report)
      (cycleBody callbacks claimable (opened runtime report)).2 :=
    (cycleBody_meets callbacks claimable runtime report).ended rfl fun _ daily => .inr (.inr daily)
  unfold executeStrategyCycle at run
  cases body : cycleBody callbacks claimable (opened runtime report) with
  | mk outcome s =>
    rw [body] at run left
    have handled := (handleException_left callbacks).ended left fun _ kept => kept
    cases outcome with
    | ok =>
      cases run
      obtain ⟨funds, status⟩ := settled_of_released callbacks (unreleased_of_left left) released
      exact ⟨funds, status, fun impossible => nomatch impossible⟩
    | error ended =>
      cases ended with
      | returned | interrupt =>
        cases run
        obtain ⟨funds, status⟩ := settled_of_released callbacks (unreleased_of_left left) released
        exact ⟨funds, status, fun impossible => nomatch impossible⟩
      | exception =>
        cases run
        obtain ⟨funds, status⟩ :=
          settled_of_released callbacks (unreleased_of_left handled.1) released
        exact ⟨funds, status, fun _ => untouched_of_released callbacks handled.1 handled.2 released⟩

end Whole

/-! ## Single cycles -/

def idleCallback : Callback Unit := fun _ => ([], .ok ())

/-- A state with one order-submission status. -/
def stateWith (status : String) : Value := .dict ⟨[("order_submission", .dict (statusRecord status))]⟩

/-- A cycle in which nothing happens. -/
def idleCallbacks : CycleCallbacks where
  stateOwnerId := "owner"
  stateOwnerClaim := fun _ => .ok true
  stateOwnerRelease := fun _ => .ok true
  boundStateAccess := none
  ensureActive := fun _ => .ok ()
  persist := fun _ => .ok true
  accountedFunds := fun _ _ _ => false
  ensureRuntimeClient := fun _ => ([], .ok true)
  loadCycleState := fun _ => ([], .ok (some (stateWith "RESERVED")))
  reconcilePendingFundingSubmission := idleCallback
  consultUnknownNewCycle := idleCallback
  appendTrendPoolSourceLogs := idleCallback
  captureMarketSnapshot := idleCallback
  computePortfolioAllocation := fun _ => ([], .ok true)
  buildBalanceSnapshot := idleCallback
  maybeRebaseDailyStateForBalanceChange := idleCallback
  maybeResetDailyState := idleCallback
  computeDailyPnls := idleCallback
  appendPortfolioReport := idleCallback
  runDailyCircuitBreaker := fun _ => ([], .ok false)
  topUpBnbFuel := fun _ => ([], .ok "ready")
  reconcileRuntimeCashEffects := idleCallback
  executeTrendRotation := idleCallback
  executeBtcDcaCycle := idleCallback
  manageUsdtEarnBufferRuntime := idleCallback
  maybeSendPeriodicBtcStatusReport := idleCallback
  runtimeNotify := idleCallback

def freshRuntime : CycleRuntime where
  dryRun := false
  standardExecutionPermitted := true
  stateOwnerHeld := false
  stateOwnerId := ""
  tradeState := .none
  pendingFunds := []
  orderSequence := 0
  sideEffectLog := []

def freshReport : CycleReport where
  submissionAttemptedCount := 0
  intents := fun _ => []
  stateWriteIntents := []
  earnReasonCode := .none

/-- The rebase of the daily state finds a reset reward counter. -/
def counterReset : Callback Unit :=
  fun _ => ([.earnReasonCode (.str "earn_counter_reset")], .error .exception)

def dailyFailure : CycleCallbacks :=
  { idleCallbacks with maybeRebaseDailyStateForBalanceChange := counterReset }

theorem release_discipline_daily : (executeStrategyCycle dailyFailure true freshRuntime freshReport).1
      = some .exception
    ∧ (executeStrategyCycle dailyFailure true freshRuntime freshReport).2.trace.any movesFunds = false :=
  ⟨by decide +kernel, ((release_discipline dailyFailure true freshRuntime freshReport rfl
    (by decide +kernel)).2.2 (by decide +kernel)).2.1⟩

/-- What `runtime_set_trade_state` performs for a state of its caller. -/
def written (state : Value) (s : CycleState) : List RuntimeAction :=
  [.stateWriteIntent "callback", .assign state s.frame.state s.runtime.pendingFunds,
    .sideEffect ⟨"state_write", "firestore"⟩]

/-- A callback writes another state, and the allocation is not permitted. -/
def otherStatusWritten : CycleCallbacks :=
  { idleCallbacks with
    captureMarketSnapshot := fun s => (written (stateWith "ACCEPTED") s, .ok ())
    computePortfolioAllocation := fun _ => ([], .ok false) }

/-- The interpreter is interrupted after an order was submitted. -/
def interruptedRotation : CycleCallbacks :=
  { idleCallbacks with
    executeTrendRotation := fun _ =>
      ([.orderId, .intent .buySell .none, .submission, .sideEffect ⟨"order_market_buy", "binance"⟩],
        .error .interrupt) }

/-- An intent is noted before the daily stage fails. -/
def earlyIntent : CycleCallbacks :=
  { dailyFailure with
    captureMarketSnapshot := fun _ => ([.intent .buySell .none], .ok ()) }

def isIntent : CycleEvent → Bool
  | .action (.intent _ _) => true
  | _ => false

/-- A status that is none of the known ones is released; so is a cycle whose order was
cut off by an interrupt; and an intent before the daily stage is not looked at. -/
theorem release_beyond_settled :
    ((executeStrategyCycle otherStatusWritten true freshRuntime freshReport).2.trace.any isRelease = true
      ∧ ¬ RecordSettled
        (executeStrategyCycle otherStatusWritten true freshRuntime freshReport).2.runtime.tradeState)
    ∧ ((executeStrategyCycle interruptedRotation true freshRuntime freshReport).1 = some .interrupt
      ∧ (executeStrategyCycle interruptedRotation true freshRuntime freshReport).2.trace.any isRelease = true
      ∧ (executeStrategyCycle interruptedRotation true freshRuntime freshReport).2.trace.any movesFunds
        = true)
    ∧ (executeStrategyCycle earlyIntent true freshRuntime freshReport).1 = some .exception
      ∧ (executeStrategyCycle earlyIntent true freshRuntime freshReport).2.trace.any isRelease = true
      ∧ (executeStrategyCycle earlyIntent true freshRuntime freshReport).2.trace.any isIntent = true := by
  refine ⟨⟨by decide +kernel, ?_⟩, ⟨by decide +kernel, by decide +kernel, by decide +kernel⟩,
    by decide +kernel, by decide +kernel, by decide +kernel⟩
  have written : (executeStrategyCycle otherStatusWritten true freshRuntime freshReport).2.runtime.tradeState
      = stateWith "ACCEPTED" := rfl
  rw [written]
  rintro ⟨status, recorded, settled⟩
  have accepted : recordedStatus (stateWith "ACCEPTED") = some (.str "ACCEPTED") := by
    simp [recordedStatus, stateWith, Value.orElse, Value.truthy, pyGet, Dict.get?, Dict.find, statusRecord,
      Value.hashable]
  rw [accepted, Option.some.injEq] at recorded
  subst recorded
  rcases settled with impossible | impossible | impossible
  · cases impossible
  · exact absurd (Value.str.inj impossible) (by decide)
  · exact absurd (Value.str.inj impossible) (by decide)

end BinancePlatform.Guarantees.OwnerRelease
