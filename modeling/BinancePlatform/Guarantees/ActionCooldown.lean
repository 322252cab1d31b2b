import BinancePlatform.Library.Spacing
import BinancePlatform.Source.ActionLedger

/-!
# One trend action and one DCA buy a day

The record of a symbol's last action travels with the fills that are accounted in a
trade state. So the trend rotation never accounts an action of a symbol on a day
that its last one already had, whatever is written, lost or reloaded in between
(`rotation_is_spaced`), and the DCA date does the same for the Bitcoin buys. The
circuit breaker neither asks for the record nor writes it, and a day that comes
back is a new day to a record that holds one: `cooldown_has_gaps`.
-/

set_option autoImplicit false

namespace BinancePlatform.Guarantees.ActionCooldown
open BinancePlatform.Library BinancePlatform.Library.Program BinancePlatform.Source
open BinancePlatform.Library.Spacing

/-! ## The fields a fill leaves alone -/

/-- The fields that the accounting of a fill writes, away from the positions. -/
def fillFields : List String :=
  ["daily_trend_cash_flow_usdt", "daily_trend_net_invested_usdt", "daily_trend_risk_base_usdt",
   "daily_trend_third_fee_usdt", lastBalanceSnapshotKey, orderSubmissionStateKey,
   "earn_accounted_net_changes", retiredTrendPositionsKey]

/-- No field of a fill and, having no `USDT` at its end, no symbol. -/
structure Untouched (key : String) : Prop where
  field : key ∉ fillFields
  suffix : endsWithUSDT key = false

instance (key : String) : Decidable (Untouched key) :=
  decidable_of_iff (key ∉ fillFields ∧ endsWithUSDT key = false)
    ⟨fun h => ⟨h.1, h.2⟩, fun h => ⟨h.field, h.suffix⟩⟩

def Keeps (key : String) (s t : TradingState) : Prop := t.state.get? key = s.state.get? key

theorem Keeps.trans {key : String} (r s t : TradingState) (first : Keeps key r s) (second : Keeps key s t) :
    Keeps key r t :=
  Eq.trans second first

section Programs
variable {key : String} {α β : Type}

theorem keeps_getAccount {next : Account → Trading β} {s : TradingState}
    (rest : Keeps key s (next s.account s).2) : Keeps key s ((getAccount >>= next) s).2 := rest

theorem keeps_returns {outcome : Except PyException α} {next : α → Trading β} {s : TradingState}
    (rest : ∀ value, outcome = .ok value → Keeps key s (next value s).2) :
    Keeps key s ((returns outcome >>= next) s).2 := by
  cases outcome with
  | ok value => exact rest value rfl
  | error raised => exact (rfl : s.state.get? key = s.state.get? key)

theorem keeps_onAccount {f : Account → Account} {s : TradingState}
    (kept : (f s.account).state.get? key = s.account.state.get? key) :
    Keeps key s ((onAccount f) s).2 := kept

theorem keeps_onAccount_bind {f : Account → Account} {next : Unit → Trading β} {s : TradingState}
    (kept : (f s.account).state.get? key = s.account.state.get? key)
    (rest : Leads (Keeps key) (next ())) : Keeps key s ((onAccount f >>= next) s).2 :=
  Keeps.trans s (onAccount f s).2 _ kept (rest _)

theorem setField_keeps {name : String} (other : key ≠ name)
    (value : Document → Except PyException PyFloat) : Leads (Keeps key) (setField name value) := by
  intro s
  apply keeps_getAccount
  apply keeps_returns
  intro x _
  exact keeps_onAccount (Dict.get?_set_ne _ _ other)

theorem recordLiveTrendFill_keeps (untouched : Untouched key) (fill : Fill) (quoteDelta : PyFloat) :
    Leads (Keeps key) (recordLiveTrendFill fill quoteDelta) := by
  have fields := untouched.field
  simp only [fillFields, List.mem_cons, not_or] at fields
  apply Leads.bind Keeps.trans (setField_keeps fields.1 _)
  intro _
  apply Leads.bind Keeps.trans (setField_keeps fields.2.1 _)
  intro _
  apply Leads.bind Keeps.trans (setField_keeps fields.2.2.1 _)
  intro _
  exact setField_keeps fields.2.2.2.1 _

theorem applyFill_keeps (fill : Fill) (side symbol : String) :
    Leads (Keeps key) (applyFill fill side symbol) := by
  intro s
  apply keeps_getAccount
  apply keeps_returns
  intro applied _
  exact (rfl : s.state.get? key = s.state.get? key)

variable [CharacterTable]

theorem accountKnownFillForEarn_keeps (untouched : Untouched key) {state next : Document}
    (success : accountKnownFillForEarn state = .ok next) : next.get? key = state.get? key := by
  have other : key ≠ "earn_accounted_net_changes" := by
    rintro rfl
    exact untouched.field (by decide)
  unfold accountKnownFillForEarn at success
  split at success
  · obtain ⟨record, -, success⟩ := bind_ok success
    split at success
    · split at success
      · cases success
        exact Dict.get?_set_ne _ _ other
      · cases success
    · cases success
      rfl
  · cases success
    rfl

theorem settleKnownFill_keeps_field (untouched : Untouched key) {state next : Document}
    (success : settleKnownFill state = .ok next) : next.get? key = state.get? key := by
  have other : key ≠ orderSubmissionStateKey := by
    rintro rfl
    exact untouched.field (by decide)
  unfold settleKnownFill at success
  obtain ⟨record, -, success⟩ := bind_ok success
  split at success
  · obtain ⟨accounted, known, success⟩ := bind_ok success
    cases success
    rw [Dict.get?_set_ne _ _ other]
    exact accountKnownFillForEarn_keeps untouched known
  · cases success
    rfl

theorem prepareAccounting_keeps (untouched : Untouched key) (symbol baseAsset : String) :
    Leads (Keeps key) (prepareAccounting symbol baseAsset) := by
  have other : key ≠ lastBalanceSnapshotKey := by
    rintro rfl
    exact untouched.field (by decide)
  intro s
  apply keeps_getAccount
  apply keeps_returns
  intro snapshot _
  apply keeps_onAccount_bind
  · exact Dict.get?_set_ne _ _ other
  · intro t
    apply keeps_getAccount
    apply keeps_returns
    intro settled success
    exact keeps_onAccount (settleKnownFill_keeps_field untouched success)

theorem setSymbolTradeState_keeps {trendUniverse : TrendUniverse} (untouched : Untouched key)
    {state next : Document} {symbol : String} {value : Value}
    (success : setSymbolTradeState trendUniverse state symbol value = .ok next) :
    next.get? key = state.get? key := by
  have notRetired : key ≠ retiredTrendPositionsKey := by
    rintro rfl
    exact untouched.field (by decide)
  obtain ⟨others, -, -, outside⟩ := setSymbolTradeState_ok success
  by_cases own : key = symbol
  · subst own
    have notSymbol := not_symbol_of_suffix trendUniverse untouched.suffix
    exact (outside notSymbol).1 notRetired
  · exact others key own notRetired

/-- The whole accounting of a trend fill, also one that raises on the way. -/
theorem accountTrendFill_keeps (trendUniverse : TrendUniverse) (untouched : Untouched key) (fill : Fill)
    (side symbol baseAsset : String) (position : Value) :
    Leads (Keeps key) (accountTrendFill trendUniverse fill side symbol baseAsset position) := by
  apply Leads.bind Keeps.trans (applyFill_keeps fill side symbol)
  intro quoteDelta
  apply Leads.bind Keeps.trans (recordLiveTrendFill_keeps untouched fill quoteDelta)
  intro _
  apply Leads.bind Keeps.trans (prepareAccounting_keeps untouched symbol baseAsset)
  intro _ s
  apply keeps_getAccount
  apply keeps_returns
  intro next success
  exact keeps_onAccount (setSymbolTradeState_keeps untouched success)

theorem accountTrendFill_ok_keeps {trendUniverse : TrendUniverse} (untouched : Untouched key) {fill : Fill}
    {side symbol baseAsset : String} {position : Value} {s t : TradingState}
    (accounted : accountTrendFill trendUniverse fill side symbol baseAsset position s = (.ok (), t)) :
    t.state.get? key = s.state.get? key := by
  have kept := accountTrendFill_keeps trendUniverse untouched fill side symbol baseAsset position s
  rw [accounted] at kept
  exact kept

/-- The accounting of a DCA buy before its day is recorded. -/
def settleDcaFill (fill : Fill) : Trading Unit :=
  applyFill fill "BUY" "BTCUSDT" >>= fun _ => prepareAccounting "BTCUSDT" "BTC"

theorem accountDcaFill_eq (fill : Fill) (todayId : String) :
    accountDcaFill fill todayId = settleDcaFill fill >>= fun _ => onAccount fun account =>
      { account with state := account.state.set "dca_last_buy_date" (.str todayId) } :=
  (Program.bind_assoc _ _ _).symm

/-- A DCA buy that was accounted has its day in the record; up to there, and where it
raised, the other fields are left alone. -/
theorem accountDcaFill_keeps (untouched : Untouched key) {fill : Fill} {todayId : String}
    {s t : TradingState} {outcome : Except PyException Unit}
    (ran : accountDcaFill fill todayId s = (outcome, t)) :
    t.state.get? key = if outcome.isOk ∧ key = "dca_last_buy_date" then some (.str todayId)
      else s.state.get? key := by
  have kept : Keeps key s (settleDcaFill fill s).2 :=
    Leads.bind Keeps.trans (applyFill_keeps fill "BUY" "BTCUSDT")
      (fun _ => prepareAccounting_keeps untouched "BTCUSDT" "BTC") s
  rw [accountDcaFill_eq] at ran
  cases settled : settleDcaFill fill s with
  | mk first reached =>
    rw [settled] at kept
    cases first with
    | error raised =>
      rw [run_bind_error settled] at ran
      cases ran
      rw [if_neg (by simp [Except.isOk, Except.toBool])]
      exact kept
    | ok _ =>
      rw [run_bind_ok settled] at ran
      cases ran
      by_cases day : key = "dca_last_buy_date"
      · rw [if_pos ⟨rfl, day⟩, day]
        exact Dict.get?_set_self _ _ _
      · rw [if_neg (fun both => day both.2)]
        exact (Dict.get?_set_ne _ _ day).trans kept

end Programs

/-! ## The records of a trade state -/

/-- What a record is kept for: a trend symbol, or the DCA buys. -/
inductive Slot where
  | trend (symbol : String)
  | btcDca
  deriving DecidableEq

/-- The slot, the action and the day of a fill; the breaker's fills have none. -/
def slotOf (fill : AccountedFill) : Option (Slot × TrendAction × String) :=
  match fill.placedBy with
  | .trendRotation => some (.trend fill.symbol, fill.action, fill.date)
  | .btcDca => some (.btcDca, .buy, fill.date)
  | .circuitBreaker => none

def slotsOf (fills : List AccountedFill) : List (Slot × TrendAction × String) := fills.filterMap slotOf

section Records
variable [CharacterTable]

/-- The record of a slot shows this action and day. -/
def Shows (state : Document) : Slot → TrendAction × String → Prop
  | .trend symbol, (action, date) => shouldSkipDuplicateTrendAction state symbol action.text date = true
  | .btcDca, (action, date) => action = .buy ∧ (pyGet state "dca_last_buy_date").isStr date = true

omit [CharacterTable] in
theorem text_injective : Function.Injective TrendAction.text := by
  intro first second same
  cases first <;> cases second <;> first | rfl | exact absurd same (by decide)

theorem shouldSkip_iff (state : Document) (symbol action date : String) :
    shouldSkipDuplicateTrendAction state symbol action date = true
      ↔ ∃ history last, (state.get? trendPoolActionHistoryKey).getD (.dict .empty) = .dict history
        ∧ (history.get? symbol).getD (.dict .empty) = .dict last
        ∧ ((last.get? "action").getD (.str "")).toStr = action
        ∧ ((last.get? "date").getD (.str "")).toStr = date := by
  unfold shouldSkipDuplicateTrendAction
  constructor
  · intro shown
    split at shown
    case h_1 history stored =>
      split at shown
      case h_1 last entry =>
        simp only [Bool.and_eq_true, decide_eq_true_eq] at shown
        exact ⟨history, last, stored, entry, shown.1, shown.2⟩
      case h_2 => cases shown
    case h_2 => cases shown
  · rintro ⟨history, last, stored, entry, rfl, rfl⟩
    simp only [stored, entry, decide_true, Bool.and_self]

/-- A record shows one action at most. -/
theorem Shows.unique {state : Document} {slot : Slot} {first second : TrendAction × String}
    (one : Shows state slot first) (two : Shows state slot second) : first = second := by
  obtain ⟨action, date⟩ := first
  obtain ⟨other, day⟩ := second
  cases slot with
  | btcDca =>
    obtain ⟨rfl, atDate⟩ := one
    obtain ⟨rfl, atDay⟩ := two
    have same : date = day := by
      cases recorded : pyGet state "dca_last_buy_date" with
      | str text =>
        rw [recorded, Value.isStr_str] at atDate atDay
        rw [atDate, atDay]
      | _ =>
        rw [recorded] at atDate
        cases atDate
    rw [same]
  | trend symbol =>
    obtain ⟨history, last, stored, entry, named, dated⟩ := (shouldSkip_iff _ _ _ _).mp one
    obtain ⟨history', last', stored', entry', named', dated'⟩ := (shouldSkip_iff _ _ _ _).mp two
    rw [stored] at stored'
    cases stored'
    rw [entry] at entry'
    cases entry'
    rw [text_injective (named.symm.trans named'), dated.symm.trans dated']

open Classical in
/-- The record of a state, slot by slot. -/
noncomputable def recordOf (state : Document) (slot : Slot) : Option (TrendAction × String) :=
  if shown : ∃ value, Shows state slot value then some shown.choose else none

theorem recordOf_eq_some (state : Document) (slot : Slot) (value : TrendAction × String) :
    recordOf state slot = some value ↔ Shows state slot value := by
  unfold recordOf
  split
  case isTrue shown =>
    have chosen := shown.choose_spec
    constructor
    · intro same
      rw [← Option.some.inj same]
      exact chosen
    · intro shows
      rw [chosen.unique shows]
  case isFalse hidden =>
    constructor
    · intro impossible
      cases impossible
    · intro shows
      exact absurd ⟨value, shows⟩ hidden

/-- The action fields decide every record. -/
theorem recordOf_congr {state other : Document}
    (same : ∀ key ∈ actionFields, other.get? key = state.get? key) : recordOf other = recordOf state := by
  have history := same trendPoolActionHistoryKey (by decide)
  have dca := same "dca_last_buy_date" (by decide)
  funext slot
  apply Option.ext
  intro value
  rw [recordOf_eq_some, recordOf_eq_some]
  cases slot with
  | trend symbol => simp only [Shows, shouldSkipDuplicateTrendAction, history]
  | btcDca => simp only [Shows, pyGet, dca]

omit [CharacterTable] in
theorem recordTrendAction_history (state : Document) (symbol action date : String) :
    ∃ history, (recordTrendAction state symbol action date).get? trendPoolActionHistoryKey
        = some (.dict (history.set symbol (.dict ⟨[("action", .str action), ("date", .str date)]⟩)))
      ∧ ∀ stored, (state.get? trendPoolActionHistoryKey).getD (.dict .empty) = .dict stored →
        history = stored := by
  refine ⟨_, Dict.get?_set_self _ _ _, ?_⟩
  intro stored found
  cases present : state.get? trendPoolActionHistoryKey with
  | none =>
    rw [present] at found
    cases found
    rfl
  | some value =>
    rw [present, Option.getD_some] at found
    rw [found]

/-- The action that `record_trend_action` writes is the one that its symbol shows. -/
theorem recordTrendAction_shows (state : Document) (symbol : String) (action : TrendAction) (date : String) :
    Shows (recordTrendAction state symbol action.text date) (.trend symbol) (action, date) := by
  obtain ⟨history, written, -⟩ := recordTrendAction_history state symbol action.text date
  refine (shouldSkip_iff _ _ _ _).mpr ⟨_, ⟨[("action", .str action.text), ("date", .str date)]⟩,
    by rw [written, Option.getD_some], ?_, ?_, ?_⟩
  · rw [Dict.get?_set_self, Option.getD_some]
  · rfl
  · rfl

/-- The other slots show what they showed. -/
theorem recordTrendAction_others {state : Document} {symbol action date : String} {slot : Slot}
    {value : TrendAction × String} (other : slot ≠ .trend symbol) (shows : Shows state slot value) :
    Shows (recordTrendAction state symbol action date) slot value := by
  cases slot with
  | btcDca =>
    refine ⟨shows.1, ?_⟩
    rw [pyGet, recordTrendAction, Dict.get?_set_ne _ _ (by decide)]
    exact shows.2
  | trend queried =>
    obtain ⟨stored, last, present, entry, named, dated⟩ := (shouldSkip_iff _ _ _ _).mp shows
    obtain ⟨history, written, kept⟩ := recordTrendAction_history state symbol action date
    obtain rfl := kept stored present
    refine (shouldSkip_iff _ _ _ _).mpr ⟨_, last, by rw [written, Option.getD_some], ?_, named, dated⟩
    rw [Dict.get?_set_ne _ _ (fun same => other (by rw [same])), entry]

theorem normalized_shows {trendUniverse : TrendUniverse} {state normalized : Document} {slot : Slot}
    {value : TrendAction × String}
    (loaded : normalizeTradeState trendUniverse (.dict state) = .ok normalized)
    (shows : Shows state slot value) : Shows normalized slot value := by
  cases slot with
  | btcDca =>
    have field := get?_normalized_default loaded (by rfl : Dict.find "dca_last_buy_date" defaultFields = _)
      (not_symbol_of_suffix _ (by decide)) (by decide) (by decide)
    obtain ⟨action, atDate⟩ := shows
    refine ⟨action, ?_⟩
    rw [pyGet] at atDate ⊢
    rw [field]
    cases stored : state.get? "dca_last_buy_date" with
    | none =>
      rw [stored] at atDate
      cases atDate
    | some recorded =>
      rw [stored] at atDate
      exact atDate
  | trend symbol =>
    have field := get?_normalized_default loaded
      (by rfl : Dict.find trendPoolActionHistoryKey defaultFields = some emptyDict)
      (not_symbol_of_suffix _ (by decide)) (by decide) (by decide)
    obtain ⟨history, last, present, entry, named, dated⟩ := (shouldSkip_iff _ _ _ _).mp shows
    -- The default of the history is the empty mapping, so a stored mapping keeps its entries.
    have merged : mergeDefault emptyDict (state.get? trendPoolActionHistoryKey)
        = .dict (Dict.empty.update history) := by
      have shape : (state.get? trendPoolActionHistoryKey).getD emptyDict = .dict history := present
      simp only [mergeDefault, emptyDict] at shape ⊢
      rw [shape]
    refine (shouldSkip_iff _ _ _ _).mpr ⟨_, last, by rw [field, merged, Option.getD_some], ?_, named, dated⟩
    rw [Dict.get?_update, Dict.get?_empty, Option.or_none, entry]

end Records

/-! ## The invariant -/

section Ledger
variable [CharacterTable] {trendUniverse : TrendUniverse}

/-- No accounted fill repeats the last one of its slot, and the trade state shows the
last one of every slot. -/
structure Recorded (state : Document) (fills : List AccountedFill) : Prop where
  spaced : Spaced (fun _ => none) (slotsOf fills)
  shown : Holds (recordOf state) (lastOf (fun _ => none) (slotsOf fills))

theorem Recorded.congr {state other : Document} {fills : List AccountedFill} (recorded : Recorded state fills)
    (same : ∀ key ∈ actionFields, other.get? key = state.get? key) : Recorded other fills where
  spaced := recorded.spaced
  shown := by
    rw [recordOf_congr same]
    exact recorded.shown

omit [CharacterTable] in
theorem slotsOf_concat (fills : List AccountedFill) {fill : AccountedFill}
    {write : Slot × TrendAction × String} (placed : slotOf fill = some write) :
    slotsOf (fills ++ [fill]) = slotsOf fills ++ [write] := by
  simp [slotsOf, placed]

/-- A fill that the record did not show, with the record that shows it afterwards. -/
theorem Recorded.concat {state next : Document} {fills : List AccountedFill} {fill : AccountedFill}
    {slot : Slot} {value : TrendAction × String} (recorded : Recorded state fills)
    (placed : slotOf fill = some (slot, value)) (due : ¬ Shows state slot value)
    (written : Shows next slot value)
    (others : ∀ other found, other ≠ slot → Shows state other found → Shows next other found) :
    Recorded next (fills ++ [fill]) := by
  have same := slotsOf_concat fills placed
  constructor
  · rw [same]
    exact recorded.spaced.concat recorded.shown fun shown => due ((recordOf_eq_some _ _ _).mp shown)
  · rw [same, lastOf_concat]
    apply recorded.shown.update ((recordOf_eq_some _ _ _).mpr written)
    intro other found distinct shown
    rw [recordOf_eq_some] at shown ⊢
    exact others other found distinct shown

/-- The breaker's fills have no slot. -/
theorem Recorded.unslotted {state : Document} {fills : List AccountedFill} {fill : AccountedFill}
    (recorded : Recorded state fills) (unplaced : slotOf fill = none) : Recorded state (fills ++ [fill]) := by
  have same : slotsOf (fills ++ [fill]) = slotsOf fills := by simp [slotsOf, unplaced]
  constructor
  · rw [same]
    exact recorded.spaced
  · rw [same]
    exact recorded.shown

omit [CharacterTable] in
theorem actionFields_untouched : ∀ key ∈ actionFields, Untouched key := by decide

theorem cycleStep_recorded {before after : RunningCycle} (step : CycleStep trendUniverse before after)
    (recorded : Recorded before.trading.state before.fills) : Recorded after.trading.state after.fills := by
  cases step with
  | other after kept => exact recorded.congr kept
  | rotationFill fill symbol baseAsset action position after due accounted =>
    have accountedFields : Recorded after.state before.fills :=
      recorded.congr fun key member => accountTrendFill_ok_keeps (actionFields_untouched key member) accounted
    have history := accountTrendFill_ok_keeps
      (by decide : Untouched trendPoolActionHistoryKey) accounted
    apply accountedFields.concat
      (by rfl : slotOf ⟨.trendRotation, symbol, action, before.todayId⟩ = some (.trend symbol, _))
    · intro shown
      simp only [Shows, shouldSkipDuplicateTrendAction, history] at shown due
      rw [shown] at due
      cases due
    · exact recordTrendAction_shows _ _ _ _
    · intro other found distinct shown
      exact recordTrendAction_others distinct shown
  | breakerFill fill symbol baseAsset after unlatched accounted =>
    apply Recorded.unslotted _ rfl
    exact recorded.congr fun key member =>
      accountTrendFill_ok_keeps (actionFields_untouched key member) accounted
  | dcaFill fill after due accounted =>
    have written : after.state.get? "dca_last_buy_date" = some (.str before.todayId) := by
      rw [accountDcaFill_keeps (by decide) accounted, if_pos ⟨rfl, rfl⟩]
    have history : after.state.get? trendPoolActionHistoryKey
        = before.trading.state.get? trendPoolActionHistoryKey := by
      rw [accountDcaFill_keeps (by decide) accounted, if_neg (by decide)]
    apply recorded.concat
      (by rfl : slotOf ⟨.btcDca, "BTCUSDT", .buy, before.todayId⟩ = some (.btcDca, _))
    · rintro ⟨-, shown⟩
      rw [shown] at due
      cases due
    · exact ⟨rfl, by rw [pyGet, written, Option.getD_some, Value.isStr_str]⟩
    · intro other found distinct shown
      cases other with
      | btcDca => exact absurd rfl distinct
      | trend queried => simpa only [Shows, shouldSkipDuplicateTrendAction, history] using shown

/-- What is stored and what runs are both recorded. -/
structure LedgerRecorded (ledger : ActionLedger) : Prop where
  stored : Recorded ledger.stored.state ledger.stored.fills
  running : ∀ cycle, ledger.running = some cycle → Recorded cycle.trading.state cycle.fills

theorem ledgerStep_recorded {before after : ActionLedger} (step : LedgerStep trendUniverse before after)
    (recorded : LedgerRecorded before) : LedgerRecorded after := by
  cases step with
  | load todayId trading normalized idle loaded =>
    refine ⟨recorded.stored, ?_⟩
    intro cycle running
    cases running
    refine ⟨recorded.stored.spaced, ?_⟩
    intro slot value last
    have shown := recorded.stored.shown slot value last
    rw [recordOf_eq_some] at shown ⊢
    exact normalized_shows loaded shown
  | cycle start reached running step =>
    refine ⟨recorded.stored, ?_⟩
    intro cycle same
    cases same
    exact cycleStep_recorded step (recorded.running start running)
  | write cycle running => exact ⟨recorded.running cycle running, recorded.running⟩
  | stop =>
    refine ⟨recorded.stored, ?_⟩
    intro cycle running
    cases running

theorem ledgerRun_recorded {stored : Document} {ledger : ActionLedger}
    (run : LedgerRun trendUniverse stored ledger) : LedgerRecorded ledger := by
  induction run with
  | refl =>
    refine ⟨⟨trivial, ?_⟩, ?_⟩
    · intro slot value impossible
      cases impossible
    · intro cycle impossible
      cases impossible
  | tail _ step ih => exact ledgerStep_recorded step ih

end Ledger

/-! ## No repeated action -/

/-- Two fills of one log, the second after the first, with what lies between them. -/
structure Pair (fills : List AccountedFill) where
  first : AccountedFill
  between : List AccountedFill
  second : AccountedFill
  ordered : ∃ front back, fills = front ++ first :: between ++ second :: back

/-- No trend fill that counts repeats the symbol, the action and the day of an earlier
one without a fill of the opposite action between them, and no DCA buy the day of an
earlier one. -/
structure NoRepeats (counts : PlacedBy → Prop) (fills : List AccountedFill) : Prop where
  trend : ∀ pair : Pair fills, counts pair.first.placedBy → counts pair.second.placedBy →
    pair.second.symbol = pair.first.symbol → pair.second.action = pair.first.action →
    pair.second.date = pair.first.date →
    ∃ fill ∈ pair.between, counts fill.placedBy ∧ fill.symbol = pair.first.symbol
      ∧ fill.action ≠ pair.first.action
  dca : ∀ pair : Pair fills, pair.first.placedBy = .btcDca → pair.second.placedBy = .btcDca →
    pair.second.date ≠ pair.first.date

/-- Every order of a trend symbol, by whichever function it was placed. -/
def anyTrend (placedBy : PlacedBy) : Prop := placedBy ≠ .btcDca

def rotationOnly (placedBy : PlacedBy) : Prop := placedBy = .trendRotation

/-- Equal fills of a slot have one of the slot between them that is not equal to them,
whatever days the cycles ran on. -/
def Alternates (fills : List AccountedFill) : Prop :=
  ∀ pair : Pair fills, ∀ slot value, slotOf pair.first = some (slot, value) →
    slotOf pair.second = some (slot, value) →
    ∃ fill ∈ pair.between, ∃ other, slotOf fill = some (slot, other) ∧ other ≠ value

def DatesAdvance (fills : List AccountedFill) : Prop := fills.Pairwise fun earlier later => earlier.date ≤ later.date

/-- The fills accounted in the store and, while a cycle runs, in its memory. -/
def logs (ledger : ActionLedger) : List (List AccountedFill) :=
  ledger.stored.fills :: (ledger.running.map RunningCycle.fills).toList

theorem alternates_of_spaced {fills : List AccountedFill} (spaced : Spaced (fun _ => none) (slotsOf fills)) :
    Alternates fills := by
  intro pair slot value first second
  obtain ⟨front, back, same⟩ := pair.ordered
  rw [same] at spaced
  simp only [slotsOf, List.filterMap_append, List.filterMap_cons, first, second] at spaced
  obtain ⟨other, member, differs⟩ := spaced.separated
  obtain ⟨fill, found, placed⟩ := List.mem_filterMap.mp member
  exact ⟨fill, found, other, placed, differs⟩

/-- A day between two equal ones is that day. -/
theorem DatesAdvance.between {fills : List AccountedFill} (advance : DatesAdvance fills) (pair : Pair fills)
    (sameDay : pair.second.date = pair.first.date) {fill : AccountedFill} (member : fill ∈ pair.between) :
    fill.date = pair.first.date := by
  obtain ⟨front, back, same⟩ := pair.ordered
  rw [DatesAdvance, same, List.append_assoc, List.pairwise_append] at advance
  obtain ⟨-, advance, -⟩ := advance
  rw [List.cons_append, List.pairwise_cons, List.pairwise_append] at advance
  obtain ⟨after, -, -, before⟩ := advance
  have lower := after fill (List.mem_append_left _ member)
  have upper := before fill member pair.second List.mem_cons_self
  rw [sameDay] at upper
  exact String.le_antisymm upper lower

theorem Alternates.noRepeats {fills : List AccountedFill} (alternates : Alternates fills)
    (advance : DatesAdvance fills) : NoRepeats rotationOnly fills := by
  constructor
  · intro pair first second symbol action sameDay
    have firstSlot : slotOf pair.first
        = some (.trend pair.first.symbol, pair.first.action, pair.first.date) := by
      rw [slotOf, first]
    have secondSlot : slotOf pair.second
        = some (.trend pair.first.symbol, pair.first.action, pair.first.date) := by
      rw [slotOf, second, symbol, action, sameDay]
    obtain ⟨fill, member, other, placed, differs⟩ := alternates pair _ _ firstSlot secondSlot
    have day := advance.between pair sameDay member
    unfold slotOf at placed
    split at placed
    case h_1 rotation =>
      simp only [Option.some.injEq, Prod.mk.injEq, Slot.trend.injEq] at placed
      obtain ⟨sameSymbol, rfl⟩ := placed
      refine ⟨fill, member, rotation, sameSymbol, fun sameAction => differs ?_⟩
      rw [sameAction, day]
    case h_2 => simp at placed
    case h_3 => cases placed
  · intro pair first second sameDay
    have firstSlot : slotOf pair.first = some (.btcDca, .buy, pair.first.date) := by
      rw [slotOf, first]
    have secondSlot : slotOf pair.second = some (.btcDca, .buy, pair.first.date) := by
      rw [slotOf, second, sameDay]
    obtain ⟨fill, member, other, placed, differs⟩ := alternates pair _ _ firstSlot secondSlot
    have day := advance.between pair sameDay member
    unfold slotOf at placed
    split at placed
    case h_1 => simp at placed
    case h_2 =>
      simp only [Option.some.injEq, Prod.mk.injEq, true_and] at placed
      apply differs
      rw [← placed, day]
    case h_3 => cases placed

section Runs
variable [CharacterTable]

/-- In every sequence of cycles, with every loss of a write and every crash, the
rotation's actions and the DCA buys alternate, and while the days do not go back none
of them is repeated. -/
theorem rotation_never_repeats {trendUniverse : TrendUniverse} {stored : Document} {ledger : ActionLedger}
    (run : LedgerRun trendUniverse stored ledger) :
    ∀ fills ∈ logs ledger,
      Alternates fills ∧ (DatesAdvance fills → NoRepeats rotationOnly fills) := by
  have recorded := ledgerRun_recorded run
  have each : ∀ fills ∈ logs ledger, Alternates fills := by
    intro fills member
    rcases List.mem_cons.mp member with rfl | member
    · exact alternates_of_spaced recorded.stored.spaced
    · obtain ⟨cycle, running, rfl⟩ := by simpa using member
      exact alternates_of_spaced (recorded.running cycle running).spaced
  intro fills member
  exact ⟨each fills member, fun advance => (each fills member).noRepeats advance⟩

end Runs

/-! ## A market with one coin -/

section Ether

abbrev etherUniverse : TrendUniverse := ⟨["ETHUSDT"], by simp, by decide⟩

/-- A sale of one ether for one dollar. -/
def etherSale : Fill where
  executedQty := .literal 1000
  quoteQty := .literal 1000
  averagePrice := .literal 1000
  baseAsset := "ETH"
  baseFee := .zero
  quoteFee := .zero
  thirdFees := .empty
  thirdFeeUsdt := .zero

/-- The broker shows one ether, left over or deposited, when a cycle begins. -/
def etherHeld : TradingState where
  account :=
    { state := .empty
      balances := ⟨[("ETHUSDT", .literal 1000)]⟩
      uTotal := .literal 1000 }
  orderSequence := 0
  effects := []

local instance : CharacterTable := asciiTable

/-- The document a cycle works on. -/
def opened (stored : Document) : Document :=
  ((normalizeTradeState etherUniverse (.dict stored)).toOption).getD .empty

def sale (stored : Document) : Except PyException Unit × TradingState :=
  accountTrendFill etherUniverse etherSale "SELL" "ETHUSDT" "ETH" closedPosition
    (etherHeld.setState (opened stored))

def afterSale (stored : Document) (todayId : String) : Document :=
  recordTrendAction (sale stored).2.state "ETHUSDT" "sell" todayId

/-- What a cycle needs of the stored document to load it and account a sale. -/
def canSell (stored : Document) : Bool :=
  (normalizeTradeState etherUniverse (.dict stored)).toOption.isSome && (sale stored).1.toOption.isSome

theorem canSell_spec {stored : Document} (able : canSell stored = true) :
    normalizeTradeState etherUniverse (.dict stored) = .ok (opened stored)
      ∧ sale stored = (.ok (), (sale stored).2) := by
  rw [canSell, Bool.and_eq_true] at able
  constructor
  · unfold opened
    cases loaded : normalizeTradeState etherUniverse (.dict stored) with
    | ok normalized => rfl
    | error raised => simp [loaded, Except.toOption] at able
  · cases sold : sale stored with
    | mk outcome reached =>
      cases outcome with
      | ok _ => rfl
      | error raised => simp [sold, Except.toOption] at able

/-- One cycle that sells, writes and ends. -/
theorem run_rotation {start stored : Document} {fills : List AccountedFill} {todayId : String}
    (run : LedgerRun etherUniverse start ⟨⟨stored, fills⟩, none⟩) (able : canSell stored = true)
    (due : shouldSkipDuplicateTrendAction (opened stored) "ETHUSDT" "sell" todayId = false) :
    LedgerRun etherUniverse start
      ⟨⟨afterSale stored todayId, fills ++ [⟨.trendRotation, "ETHUSDT", .sell, todayId⟩]⟩, none⟩ := by
  obtain ⟨loaded, sold⟩ := canSell_spec able
  refine (((run.tail (.load _ todayId etherHeld (opened stored) rfl loaded)).tail
    (.cycle _ _ _ rfl (.rotationFill _ etherSale "ETHUSDT" "ETH" .sell closedPosition _ due sold))).tail
    (.write _ _ rfl)).tail (.stop _)

/-- One cycle whose circuit breaker sells, writes and ends. -/
theorem run_breaker {start stored : Document} {fills : List AccountedFill} {todayId : String}
    (run : LedgerRun etherUniverse start ⟨⟨stored, fills⟩, none⟩) (able : canSell stored = true)
    (unlatched : (pyGet (opened stored) "is_circuit_broken").truthy = false) :
    LedgerRun etherUniverse start
      ⟨⟨(sale stored).2.state, fills ++ [⟨.circuitBreaker, "ETHUSDT", .sell, todayId⟩]⟩, none⟩ := by
  obtain ⟨loaded, sold⟩ := canSell_spec able
  refine (((run.tail (.load _ todayId etherHeld (opened stored) rfl loaded)).tail
    (.cycle _ _ _ rfl (.breakerFill _ etherSale "ETHUSDT" "ETH" _ unlatched sold))).tail
    (.write _ _ rfl)).tail (.stop _)

/-- The day after a sale is another day to its record. -/
theorem due_after {stored : Document} {soldOn todayId : String} (able : canSell (afterSale stored soldOn) = true)
    (other : soldOn ≠ todayId) :
    shouldSkipDuplicateTrendAction (opened (afterSale stored soldOn)) "ETHUSDT" "sell" todayId = false := by
  have shown : Shows (opened (afterSale stored soldOn)) (.trend "ETHUSDT") (.sell, soldOn) :=
    normalized_shows (canSell_spec able).1 (recordTrendAction_shows _ "ETHUSDT" .sell soldOn)
  rw [Bool.eq_false_iff]
  intro again
  have repeated : Shows (opened (afterSale stored soldOn)) (.trend "ETHUSDT") (.sell, todayId) := again
  exact other (Prod.mk.inj (shown.unique repeated)).2

def soldOnce : Document := afterSale .empty "20260302"

theorem run_soldOnce : LedgerRun etherUniverse .empty
    ⟨⟨soldOnce, [⟨.trendRotation, "ETHUSDT", .sell, "20260302"⟩]⟩, none⟩ :=
  run_rotation .refl (by decide +kernel) (by decide +kernel)

theorem soldOnce_sells : canSell soldOnce = true := by decide +kernel

/-- The sales of two days. -/
def twoDays : List AccountedFill :=
  [⟨.trendRotation, "ETHUSDT", .sell, "20260302"⟩, ⟨.trendRotation, "ETHUSDT", .sell, "20260303"⟩]

theorem run_soldTwice : LedgerRun etherUniverse .empty ⟨⟨afterSale soldOnce "20260303", twoDays⟩, none⟩ :=
  run_rotation run_soldOnce soldOnce_sells (due_after soldOnce_sells (by decide : "20260302" ≠ "20260303"))

theorem rotation_never_repeats_twice : Alternates twoDays ∧ NoRepeats rotationOnly twoDays :=
  have both := rotation_never_repeats run_soldTwice _ List.mem_cons_self
  ⟨both.1, both.2 (by simp [DatesAdvance, twoDays])⟩

/-- Two equal sales with nothing of the other side between them. -/
theorem repeats (counts : PlacedBy → Prop) (first second : AccountedFill) (between : List AccountedFill)
    (one : counts first.placedBy) (two : counts second.placedBy) (symbol : second.symbol = first.symbol)
    (action : second.action = first.action) (date : second.date = first.date)
    (oneSided : ∀ fill ∈ between, fill.action = first.action) :
    ¬ NoRepeats counts (first :: between ++ [second]) := by
  intro none
  obtain ⟨fill, member, -, -, opposite⟩ :=
    none.trend ⟨first, between, second, [], [], by simp⟩ one two symbol action date
  exact opposite (oneSided fill member)

/-- The breaker repeats a sale of the rotation on the same day, and a day that comes
back after another one is sold on again. -/
theorem cooldown_has_gaps :
    (¬ ∀ [CharacterTable] (trendUniverse : TrendUniverse) (stored : Document) (ledger : ActionLedger),
      LedgerRun trendUniverse stored ledger → DatesAdvance ledger.stored.fills →
        NoRepeats anyTrend ledger.stored.fills)
    ∧ ¬ ∀ [CharacterTable] (trendUniverse : TrendUniverse) (stored : Document) (ledger : ActionLedger),
      LedgerRun trendUniverse stored ledger → NoRepeats rotationOnly ledger.stored.fills := by
  constructor
  · intro claimed
    have run : LedgerRun etherUniverse .empty ⟨⟨(sale soldOnce).2.state,
        [⟨.trendRotation, "ETHUSDT", .sell, "20260302"⟩, ⟨.circuitBreaker, "ETHUSDT", .sell, "20260302"⟩]⟩,
        none⟩ :=
      run_breaker run_soldOnce soldOnce_sells (by decide +kernel)
    have advance : DatesAdvance [⟨.trendRotation, "ETHUSDT", .sell, "20260302"⟩,
        ⟨.circuitBreaker, "ETHUSDT", .sell, "20260302"⟩] := by
      simp [DatesAdvance]
    exact repeats anyTrend ⟨.trendRotation, "ETHUSDT", .sell, "20260302"⟩
      ⟨.circuitBreaker, "ETHUSDT", .sell, "20260302"⟩ [] (by simp [anyTrend]) (by simp [anyTrend])
      rfl rfl rfl (by simp) (claimed etherUniverse .empty _ run advance)
  · intro claimed
    have able : canSell (afterSale soldOnce "20260303") = true := by decide +kernel
    have back := run_rotation run_soldTwice able (due_after able (by decide : "20260303" ≠ "20260302"))
    exact repeats rotationOnly ⟨.trendRotation, "ETHUSDT", .sell, "20260302"⟩
      ⟨.trendRotation, "ETHUSDT", .sell, "20260302"⟩ [⟨.trendRotation, "ETHUSDT", .sell, "20260303"⟩]
      rfl rfl rfl rfl rfl (by simp) (claimed etherUniverse .empty _ back)

end Ether

end BinancePlatform.Guarantees.ActionCooldown
