import BinancePlatform.Source.FillAccounting
import Mathlib.Tactic.Tauto

/-!
# The persisted snapshot follows the balances

`_prepare_accounting_state` writes the snapshot under `symbol[:-4]`, and
`build_balance_snapshot` under the configured base asset; the former never
writes BTC after a trade of another symbol. The two agree after every fill as
long as the configured assets are the symbols' own and no such trade pays its
commission in BTC (`snapshot_tracks`); a BTC commission or another configured
asset separates them (`snapshot_left_behind`).
-/

set_option autoImplicit false

namespace BinancePlatform.Guarantees.SnapshotTracking
open BinancePlatform.Library BinancePlatform.Source

/-! ## Runs of accounted fills -/

/-- The state, the balances and `u_total` of a cycle. -/
structure Accounts where
  state : Document
  balances : Balances
  uTotal : PyFloat

structure Trade where
  response : Value
  symbol : String
  side : String
  baseAsset : String
  prices : Document

/-- The base asset is `config["base_asset"]` of a trend sell, the parsed prefix of a
trend buy, or `BTC` of a DCA order. -/
def Trade.Placed (trendUniverse : UniverseMapping) (trade : Trade) : Prop :=
  (trendUniverse.contains trade.symbol = true ∨ trade.symbol = "BTCUSDT")
    ∧ (trendUniverse.get? trade.symbol = some trade.baseAsset
      ∨ trade.baseAsset = inferBaseAsset trade.symbol)

section Runs
variable [CharacterTable]

/-- The balances first, then the state: as the execution functions account a fill. -/
def accountFill (trade : Trade) (accounts : Accounts) : Except PyException Accounts := do
  let fill ← parseFilledOrder trade.response trade.symbol trade.side trade.prices
  let (balances, uTotal, _) ← applyFillBalances fill trade.side trade.symbol accounts.balances
    accounts.uTotal
  let state ← prepareAccountingState accounts.state trade.symbol trade.baseAsset balances uTotal
  return { state, balances, uTotal }

/-- Between the fills the cycle may change the state outside the snapshot, as
`_record_trend_fill` and the position updates do. -/
inductive Reaches (trendUniverse : UniverseMapping) (opening : Accounts) :
    List Trade → Accounts → Prop where
  | start : Reaches trendUniverse opening [] opening
  | fill {trades : List Trade} {accounts next : Accounts} {trade : Trade}
      (before : Reaches trendUniverse opening trades accounts)
      (placed : trade.Placed trendUniverse) (success : accountFill trade accounts = .ok next) :
      Reaches trendUniverse opening (trade :: trades) next
  | other {trades : List Trade} {accounts : Accounts} {state : Document}
      (before : Reaches trendUniverse opening trades accounts)
      (same : state.get? lastBalanceSnapshotKey = accounts.state.get? lastBalanceSnapshotKey) :
      Reaches trendUniverse opening trades { accounts with state }

/-- Some part of the fill pays its commission in an asset. -/
def Trade.PaysIn (trade : Trade) (asset : String) : Prop :=
  ∃ order fills fill, trade.response = .dict order ∧ pyGet order "fills" = .list fills
    ∧ Value.dict fill ∈ fills ∧ commissionAsset fill = asset

end Runs

/-- The balances map covers the universe, BTC and BNB. -/
def Covers (trendUniverse : UniverseMapping) (balances : Balances) : Prop :=
  ∀ symbol, balances.contains symbol = true
    ↔ trendUniverse.contains symbol = true ∨ symbol = "BTCUSDT" ∨ symbol = "BNBUSDT"

/-- The snapshot in the state is the one built from the balances, key for key. -/
def Tracked (trendUniverse : UniverseMapping) (accounts : Accounts) : Prop :=
  ∃ snapshot, accounts.state.get? lastBalanceSnapshotKey = some (.dict snapshot)
    ∧ snapshot.Same (buildBalanceSnapshot trendUniverse accounts.balances accounts.uTotal)

/-- Every configured base asset is its symbol without `USDT`. -/
def NamedBySymbol (trendUniverse : UniverseMapping) : Prop :=
  ∀ symbol baseAsset, trendUniverse.get? symbol = some baseAsset → baseAsset = inferBaseAsset symbol

/-! ## What a tracked snapshot holds -/

/-- The balance of `asset + "USDT"`, and under `USDT` the cash where no symbol claims it. -/
def trackedValue (balances : Balances) (uTotal : PyFloat) (asset : String) : Option Value :=
  match balances.get? (asset ++ "USDT") with
  | some quantity => some (roundedBalance quantity)
  | none => if asset = "USDT" then some (roundedBalance uTotal) else none

theorem trackedValue_of_held {balances : Balances} {uTotal : PyFloat} {asset : String}
    {quantity : PyFloat} (held : balances.get? (asset ++ "USDT") = some quantity) :
    trackedValue balances uTotal asset = some (roundedBalance quantity) := by
  rw [trackedValue, held]

/-- What the entries of the configuration write at one asset. -/
theorem get?_addConfigured {balances : Balances} {entries : List (String × String)}
    (named : ∀ e ∈ entries, e.1 = e.2 ++ "USDT") (snapshot : Document) (asset : String) :
    (entries.foldl (addConfigured balances) snapshot).get? asset
      = if asset ++ "USDT" ∈ entries.map Prod.fst then
          some (roundedBalance ((balances.get? (asset ++ "USDT")).getD .zero))
        else snapshot.get? asset := by
  induction entries generalizing snapshot with
  | nil => simp
  | cons e rest ih =>
    have head := named e List.mem_cons_self
    rw [List.foldl_cons, ih (fun f member => named f (List.mem_cons_of_mem _ member))]
    by_cases later : asset ++ "USDT" ∈ rest.map Prod.fst
    · rw [if_pos later, if_pos (by simp [later])]
    · rw [if_neg later, addConfigured, Dict.get?_set]
      by_cases same : asset = e.2
      · rw [if_pos same, if_pos (by simp [head, same]), head, same]
      · have other : asset ++ "USDT" ≠ e.1 := by
          rw [head]
          exact fun equal => same (append_usdt_inj equal)
        rw [if_neg same, if_neg (by simpa [other] using later)]

/-- The built snapshot is the tracked value of every asset, where the symbols name them. -/
theorem get?_buildBalanceSnapshot {trendUniverse : UniverseMapping} {balances : Balances}
    (uTotal : PyFloat) (suffixed : ∀ symbol, trendUniverse.contains symbol = true →
      endsWithUSDT symbol = true)
    (named : NamedBySymbol trendUniverse) (covers : Covers trendUniverse balances) (asset : String) :
    (buildBalanceSnapshot trendUniverse balances uTotal).get? asset
      = trackedValue balances uTotal asset := by
  have entriesNamed : ∀ e ∈ trendUniverse.items, e.1 = e.2 ++ "USDT" := by
    rintro ⟨symbol, baseAsset⟩ member
    have configured := (Dict.mem_items _ _ _).mp member
    have ends := suffixed symbol (by rw [Dict.contains, configured]; rfl)
    rw [named symbol baseAsset configured]
    exact eq_append_of_suffixed ends
  have held : ∀ symbol, balances.contains symbol = true →
      balances.get? symbol = some ((balances.get? symbol).getD .zero) := by
    intro symbol present
    obtain ⟨quantity, found⟩ := Option.isSome_iff_exists.mp present
    rw [found, Option.getD_some]
  have configured : ∀ symbol, symbol ∈ trendUniverse.items.map Prod.fst
      ↔ trendUniverse.contains symbol = true := fun symbol => Dict.mem_keys _ _
  obtain ⟨bnb, bnbHeld⟩ := Option.isSome_iff_exists.mp ((covers "BNBUSDT").mpr (by simp))
  have btcHeld := held "BTCUSDT" ((covers "BTCUSDT").mpr (by simp))
  simp only [buildBalanceSnapshot, bnbHeld]
  rw [Dict.get?_set]
  by_cases isBnb : asset = "BNB"
  · rw [if_pos isBnb, isBnb, trackedValue_of_held bnbHeld]
  rw [if_neg isBnb, get?_addConfigured entriesNamed]
  by_cases inUniverse : asset ++ "USDT" ∈ trendUniverse.items.map Prod.fst
  · have present := (covers _).mpr (.inl ((configured _).mp inUniverse))
    rw [if_pos inUniverse, trackedValue_of_held (held _ present)]
  rw [if_neg inUniverse, Dict.get?_set]
  by_cases isBtc : asset = "BTC"
  · rw [if_pos isBtc, isBtc, trackedValue_of_held btcHeld]
  -- no symbol of the balances map is named after this asset
  have unheld : balances.get? (asset ++ "USDT") = none := by
    cases found : balances.get? (asset ++ "USDT") with
    | none => rfl
    | some quantity =>
      rcases (covers _).mp (by rw [Dict.contains, found]; rfl) with inside | btc | bnbSymbol
      · exact absurd ((configured _).mpr inside) inUniverse
      · exact absurd (append_usdt_inj (b := "BTC") btc) isBtc
      · exact absurd (append_usdt_inj (b := "BNB") bnbSymbol) isBnb
  rw [if_neg isBtc, Dict.get?_set, trackedValue, unheld]
  rfl

/-! ## One fill -/

/-- What the refresh writes at the assets that were not traded: all but BTC. -/
theorem get?_refreshOthers {symbol : String} {entries : List (String × PyFloat)}
    (unique : (entries.map Prod.fst).Nodup) (snapshot : Document) (asset : String) :
    (refreshOthers symbol snapshot entries).get? asset
      = if asset ++ "USDT" ≠ symbol ∧ asset ≠ "BTC" then
          ((Dict.find (asset ++ "USDT") entries).map roundedBalance).or (snapshot.get? asset)
        else snapshot.get? asset := by
  induction entries generalizing snapshot with
  | nil => simp [refreshOthers, Dict.find]
  | cons e rest ih =>
    obtain ⟨feeSymbol, quantity⟩ := e
    obtain ⟨fresh, unique⟩ := List.nodup_cons.mp unique
    rw [refreshOthers, ih unique]
    by_cases written : asset ++ "USDT" ≠ symbol ∧ asset ≠ "BTC"
    · rw [if_pos written, if_pos written]
      by_cases here : feeSymbol = asset ++ "USDT"
      · have absent : Dict.find (asset ++ "USDT") rest = none := by
          rw [Dict.find_eq_none, ← here]
          exact fresh
        have eligible : endsWithUSDT feeSymbol = true ∧ feeSymbol ≠ symbol
            ∧ feeSymbol ≠ "BTCUSDT" := by
          rw [here]
          exact ⟨suffixed_append asset, written.1,
            fun btc => written.2 (append_usdt_inj (b := "BTC") btc)⟩
        rw [absent, if_pos eligible, here, inferBaseAsset_append, Dict.get?_set_self]
        simp [Dict.find]
      · have kept : (if endsWithUSDT feeSymbol = true ∧ feeSymbol ≠ symbol ∧ feeSymbol ≠ "BTCUSDT" then
            snapshot.set (inferBaseAsset feeSymbol) (roundedBalance quantity)
            else snapshot).get? asset = snapshot.get? asset := by
          split
          · rename_i eligible
            rw [Dict.get?_set_ne]
            intro same
            exact here ((inferBaseAsset_eq_iff eligible.1).mp same.symm)
          · rfl
        rw [kept]
        simp [Dict.find, here]
    · rw [if_neg written, if_neg written]
      split
      · rename_i eligible
        rw [Dict.get?_set_ne]
        intro same
        have spelled := (inferBaseAsset_eq_iff eligible.1).mp same.symm
        apply written
        constructor
        · rw [← spelled]
          exact eligible.2.1
        · intro btc
          apply eligible.2.2
          rw [spelled, btc]
          rfl
      · rfl

/-- The refreshed snapshot at one asset, in the order of the writes. -/
theorem get?_refreshSnapshot {snapshot refreshed : Document} {symbol : String}
    {balances : Balances} {uTotal : PyFloat} (suffixed : endsWithUSDT symbol = true)
    (success : refreshSnapshot snapshot symbol (inferBaseAsset symbol) balances uTotal
      = .ok refreshed) (asset : String) :
    refreshed.get? asset
      = if asset ++ "USDT" ≠ symbol ∧ asset = "BTC" then
          if asset = "USDT" then some (roundedBalance uTotal) else snapshot.get? asset
        else ((balances.get? (asset ++ "USDT")).map roundedBalance).or
          (if asset = "USDT" then some (roundedBalance uTotal) else snapshot.get? asset) := by
  obtain ⟨traded, held, success⟩ := bind_ok success
  cases success
  have tradedHeld : balances.get? symbol = some traded := by
    cases found : balances.get? symbol with
    | none =>
      rw [found] at held
      cases held
    | some quantity =>
      rw [found] at held
      exact congrArg some (Except.ok.inj held)
  rw [get?_refreshOthers balances.items_nodup, Dict.find_items, Dict.get?_set, Dict.get?_set]
  by_cases here : asset ++ "USDT" = symbol
  · have named : asset = inferBaseAsset symbol := ((inferBaseAsset_eq_iff suffixed).mpr here.symm).symm
    have skipped : ¬ (asset ++ "USDT" ≠ symbol ∧ asset ≠ "BTC") := fun both => both.1 here
    have written : ¬ (asset ++ "USDT" ≠ symbol ∧ asset = "BTC") := fun both => both.1 here
    rw [if_neg skipped, if_neg written, if_pos named, here, tradedHeld]
    rfl
  · have other : asset ≠ inferBaseAsset symbol := by
      intro named
      exact here ((inferBaseAsset_eq_iff suffixed).mp named.symm).symm
    by_cases btc : asset = "BTC"
    · have skipped : ¬ (asset ++ "USDT" ≠ symbol ∧ asset ≠ "BTC") := fun both => both.2 btc
      rw [if_neg skipped, if_pos (show asset ++ "USDT" ≠ symbol ∧ asset = "BTC" from ⟨here, btc⟩),
        if_neg other]
    · have written : ¬ (asset ++ "USDT" ≠ symbol ∧ asset = "BTC") := fun both => btc both.2
      rw [if_pos (show asset ++ "USDT" ≠ symbol ∧ asset ≠ "BTC" from ⟨here, btc⟩), if_neg written,
        if_neg other]

theorem contains_set {α : Type} (d : Dict String α) (k : String) (v : α) (q : String) :
    (d.set k v).contains q = true ↔ q = k ∨ d.contains q = true := by
  rw [Dict.contains, Dict.contains, Dict.get?_set]
  split <;> simp_all

theorem get?_of_erase {α : Type} {d : Dict String α} {k q : String} {v : α}
    (found : (d.erase k).get? q = some v) : d.get? q = some v := by
  rw [Dict.get?_erase] at found
  split at found
  · cases found
  · exact found

/-- A third fee is charged in the asset of some commission. -/
theorem addThirdFee_contains {prices : Document} {entries : List (String × PyFloat)}
    {start sums : Dict String PyFloat × PyFloat}
    (success : entries.foldlM (addThirdFee prices) start = .ok sums) {feeSymbol : String}
    (charged : sums.1.contains feeSymbol = true) :
    start.1.contains feeSymbol = true ∨ ∃ e ∈ entries, feeSymbol = e.1 ++ "USDT" := by
  induction entries generalizing start with
  | nil =>
    cases success
    exact .inl charged
  | cons e rest ih =>
    rw [List.foldlM_cons] at success
    obtain ⟨next, stepped, others⟩ := bind_ok success
    obtain ⟨price, -, stepped⟩ := bind_ok stepped
    cases stepped
    rcases ih others with before | ⟨later, member, named⟩
    · rcases (contains_set _ _ _ _).mp before with here | before
      · exact .inr ⟨e, List.mem_cons_self, here⟩
      · exact .inl before
    · exact .inr ⟨later, List.mem_cons_of_mem _ member, named⟩

section Parse
variable [CharacterTable]

/-- A commission is that of one of the fills. -/
theorem addFill_contains {fills : List Value} {start sums : FillSums}
    (success : fills.foldlM addFill start = .ok sums) {asset : String}
    (charged : sums.commissions.contains asset = true) :
    start.commissions.contains asset = true
      ∨ ∃ fill, Value.dict fill ∈ fills ∧ commissionAsset fill = asset := by
  induction fills generalizing start with
  | nil =>
    cases success
    exact .inl charged
  | cons first rest ih =>
    rw [List.foldlM_cons] at success
    obtain ⟨next, stepped, others⟩ := bind_ok success
    cases first with
    | dict fill =>
      obtain ⟨price, -, stepped⟩ := bind_ok stepped
      obtain ⟨qty, -, stepped⟩ := bind_ok stepped
      obtain ⟨commission, -, stepped⟩ := bind_ok stepped
      obtain ⟨-, stepped⟩ := require_bind stepped
      cases stepped
      rcases ih others with before | ⟨later, member, named⟩
      · rcases (contains_set _ _ _ _).mp before with here | before
        · exact .inr ⟨fill, List.mem_cons_self, here.symm⟩
        · exact .inl before
      · exact .inr ⟨later, List.mem_cons_of_mem _ member, named⟩
    | _ => cases stepped

/-- Third fees come from the commissions of the response. -/
theorem parseFilledOrder_thirdFees {trade : Trade} {fill : Fill}
    (success : parseFilledOrder trade.response trade.symbol trade.side trade.prices = .ok fill)
    {feeSymbol : String} (charged : fill.thirdFees.contains feeSymbol = true) :
    ∃ asset, feeSymbol = asset ++ "USDT" ∧ trade.PaysIn asset := by
  unfold parseFilledOrder at success
  obtain ⟨order, mapping, success⟩ := bind_ok success
  obtain ⟨-, success⟩ := require_bind success
  obtain ⟨-, success⟩ := require_bind success
  obtain ⟨-, success⟩ := require_bind success
  obtain ⟨executedQty, -, success⟩ := bind_ok success
  obtain ⟨quoteQty, -, success⟩ := bind_ok success
  obtain ⟨fills, listed, success⟩ := bind_ok success
  obtain ⟨sums, summed, success⟩ := bind_ok success
  obtain ⟨-, success⟩ := require_bind success
  obtain ⟨-, success⟩ := require_bind success
  obtain ⟨⟨thirdFees, thirdFeeUsdt⟩, thirds, success⟩ := bind_ok success
  obtain ⟨averagePrice, -, success⟩ := bind_ok success
  cases success
  have stored : pyGet order "fills" = .list fills := by
    unfold nonemptyFills at listed
    split at listed
    case h_1 first rest found =>
      cases listed
      exact found
    case h_2 => cases listed
  rcases addThirdFee_contains thirds charged with impossible | ⟨⟨asset, quantity⟩, member, named⟩
  · cases impossible
  have unpaid := (Dict.mem_items _ _ _).mp member
  have commissioned : sums.commissions.contains asset = true := by
    rw [Dict.contains, get?_of_erase (get?_of_erase unpaid)]
    rfl
  rcases addFill_contains summed commissioned with impossible | ⟨part, inFills, pays⟩
  · cases impossible
  · exact ⟨asset, named, order, fills, part, asMapping_ok mapping, stored, inFills, pays⟩

end Parse

/-- A third fee updates a balance that exists. -/
theorem thirdUpdate_contains {balances start updates : Balances} {fees : List (String × PyFloat)}
    (success : fees.foldlM (thirdUpdate balances) start = .ok updates) {symbol : String}
    (updated : updates.contains symbol = true) :
    start.contains symbol = true
      ∨ symbol ∈ fees.map Prod.fst ∧ balances.contains symbol = true := by
  induction fees generalizing start with
  | nil =>
    cases success
    exact .inl updated
  | cons fee rest ih =>
    rw [List.foldlM_cons] at success
    obtain ⟨next, stepped, others⟩ := bind_ok success
    obtain ⟨held, found, stepped⟩ := bind_ok stepped
    obtain ⟨-, stepped⟩ := require_bind stepped
    cases stepped
    rcases ih others with before | ⟨member, present⟩
    · rcases (contains_set _ _ _ _).mp before with here | before
      · refine .inr ⟨by simp [here], ?_⟩
        rw [here, Dict.contains]
        cases stored : balances.get? fee.1 with
        | none =>
          rw [stored] at found
          cases found
        | some quantity => rfl
      · exact .inl before
    · exact .inr ⟨List.mem_cons_of_mem _ member, present⟩

/-- A fill changes the balances of its symbol and of its third fees, and adds no symbol. -/
theorem applyFillBalances_ok {fill : Fill} {side symbol : String} {balances next : Balances}
    {uTotal total quoteDelta : PyFloat}
    (success : applyFillBalances fill side symbol balances uTotal = .ok (next, total, quoteDelta)) :
    (∀ other, other ≠ symbol → fill.thirdFees.contains other = false →
        next.get? other = balances.get? other)
      ∧ ∀ other, next.contains other = true ↔ other = symbol ∨ balances.contains other = true := by
  unfold applyFillBalances at success
  obtain ⟨-, success⟩ := require_bind success
  obtain ⟨updates, updated, success⟩ := bind_ok success
  simp only [pure, Except.pure, Except.ok.injEq, Prod.mk.injEq] at success
  obtain ⟨changed, -, -⟩ := success
  subst changed
  have charged : ∀ other, updates.contains other = true →
      fill.thirdFees.contains other = true ∧ balances.contains other = true := by
    intro other present
    rcases thirdUpdate_contains updated present with impossible | ⟨member, held⟩
    · cases impossible
    · exact ⟨(Dict.mem_keys _ _).mp member, held⟩
  constructor
  · intro other notTraded notFee
    have untouched : updates.get? other = none := by
      cases found : updates.get? other with
      | none => rfl
      | some quantity =>
        have fee := (charged other (by rw [Dict.contains, found]; rfl)).1
        rw [notFee] at fee
        cases fee
    rw [Dict.get?_update, untouched, Option.none_or, Dict.get?_set_ne _ _ notTraded]
  · intro other
    rw [Dict.contains, Dict.get?_update, Option.isSome_or, Bool.or_eq_true]
    constructor
    · rintro (fee | kept)
      · exact .inr (charged other fee).2
      · exact (contains_set _ _ _ _).mp kept
    · intro held
      exact .inr ((contains_set _ _ _ _).mpr held)

section Steps
variable [CharacterTable]

/-- Settling a known fill leaves the snapshot alone. -/
theorem settleKnownFill_keeps {state next : Document} (success : settleKnownFill state = .ok next) :
    next.get? lastBalanceSnapshotKey = state.get? lastBalanceSnapshotKey := by
  unfold settleKnownFill at success
  obtain ⟨record, -, success⟩ := bind_ok success
  split at success
  · obtain ⟨accounted, known, success⟩ := bind_ok success
    cases success
    rw [Dict.get?_set_ne _ _ (by decide)]
    unfold accountKnownFillForEarn at known
    split at known
    · obtain ⟨read, -, known⟩ := bind_ok known
      split at known
      · split at known
        · cases known
          rw [Dict.get?_set_ne _ _ (by decide)]
        · cases known
      · cases known
        rfl
    · cases known
      rfl
  · cases success
    rfl

/-- The prepared state has the refreshed snapshot. -/
theorem prepareAccountingState_ok {state next snapshot : Document} {symbol baseAsset : String}
    {balances : Balances} {uTotal : PyFloat}
    (stored : state.get? lastBalanceSnapshotKey = some (.dict snapshot))
    (success : prepareAccountingState state symbol baseAsset balances uTotal = .ok next) :
    ∃ refreshed, refreshSnapshot snapshot symbol baseAsset balances uTotal = .ok refreshed
      ∧ next.get? lastBalanceSnapshotKey = some (.dict refreshed) := by
  unfold prepareAccountingState at success
  rw [stored] at success
  obtain ⟨value, mapped, success⟩ := bind_ok success
  obtain ⟨refreshed, written, shown⟩ := map_ok mapped
  subst shown
  refine ⟨refreshed, written, ?_⟩
  rw [settleKnownFill_keeps success, Dict.get?_set_self]

/-- What every state of a run keeps. -/
structure Follows (trendUniverse : UniverseMapping) (accounts : Accounts) : Prop where
  covers : Covers trendUniverse accounts.balances
  tracked : ∃ snapshot, accounts.state.get? lastBalanceSnapshotKey = some (.dict snapshot)
    ∧ ∀ asset, snapshot.get? asset = trackedValue accounts.balances accounts.uTotal asset

/-- A commission in BTC is taken from a balance that the snapshot of another
symbol's trade leaves out. -/
def Trade.SparesBtc (trade : Trade) : Prop := trade.symbol ≠ "BTCUSDT" → ¬ trade.PaysIn "BTC"

/-- One fill, from the refresh at every asset. -/
theorem follows_fill {trendUniverse : UniverseMapping} {accounts next : Accounts} {trade : Trade}
    (suffixed : ∀ symbol, trendUniverse.contains symbol = true → endsWithUSDT symbol = true)
    (named : NamedBySymbol trendUniverse) (spares : trade.SparesBtc)
    (placed : trade.Placed trendUniverse) (before : Follows trendUniverse accounts)
    (success : accountFill trade accounts = .ok next) : Follows trendUniverse next := by
  unfold accountFill at success
  obtain ⟨fill, parsed, success⟩ := bind_ok success
  obtain ⟨⟨balances, uTotal, quoteDelta⟩, applied, success⟩ := bind_ok success
  obtain ⟨state, prepared, success⟩ := bind_ok success
  cases success
  obtain ⟨untouched, domain⟩ := applyFillBalances_ok applied
  obtain ⟨snapshot, stored, values⟩ := before.tracked
  obtain ⟨refreshed, written, found⟩ := prepareAccountingState_ok stored prepared
  have ends : endsWithUSDT trade.symbol = true := by
    rcases placed.1 with inside | btc
    · exact suffixed _ inside
    · rw [btc]
      decide
  have baseAsset : trade.baseAsset = inferBaseAsset trade.symbol := by
    rcases placed.2 with configured | inferred
    · exact named _ _ configured
    · exact inferred
  have traded : trendUniverse.contains trade.symbol = true ∨ trade.symbol = "BTCUSDT"
      ∨ trade.symbol = "BNBUSDT" := by
    rcases placed.1 with inside | btc
    · exact .inl inside
    · exact .inr (.inl btc)
  rw [baseAsset] at written
  have sameDomain : ∀ symbol, balances.contains symbol = true
      ↔ accounts.balances.contains symbol = true := by
    intro symbol
    rw [domain symbol]
    constructor
    · rintro (rfl | kept)
      · exact (before.covers _).mpr traded
      · exact kept
    · exact .inr
  refine ⟨fun symbol => (sameDomain symbol).trans (before.covers symbol), refreshed, found, ?_⟩
  intro asset
  rw [get?_refreshSnapshot ends written]
  by_cases leftOut : asset ++ "USDT" ≠ trade.symbol ∧ asset = "BTC"
  · obtain ⟨other, rfl⟩ := leftOut
    -- BTC is not rewritten, and no commission was taken from it
    have noFee : fill.thirdFees.contains "BTCUSDT" = false := by
      by_contra charged
      obtain ⟨feeAsset, symbolOfFee, pays⟩ :=
        parseFilledOrder_thirdFees parsed (Bool.eq_true_of_not_eq_false charged)
      have isBtc : feeAsset = "BTC" := (append_usdt_inj (a := "BTC") symbolOfFee).symm
      exact spares (Ne.symm other) (isBtc ▸ pays)
    obtain ⟨quantity, held⟩ := Option.isSome_iff_exists.mp
      ((before.covers "BTCUSDT").mpr (by simp))
    have same : balances.get? ("BTC" ++ "USDT") = some quantity :=
      (untouched "BTCUSDT" other noFee).trans held
    rw [if_pos ⟨other, rfl⟩, if_neg (by decide), values, trackedValue_of_held held,
      trackedValue_of_held same]
  · rw [if_neg leftOut, trackedValue]
    cases held : balances.get? (asset ++ "USDT") with
    | some quantity => rfl
    | none =>
      have unheld : accounts.balances.get? (asset ++ "USDT") = none := by
        cases earlier : accounts.balances.get? (asset ++ "USDT") with
        | none => rfl
        | some quantity =>
          have present := (sameDomain (asset ++ "USDT")).mpr (by rw [Dict.contains, earlier]; rfl)
          rw [Dict.contains, held] at present
          cases present
      rw [Option.map_none, Option.none_or, values, trackedValue, unheld]
      split <;> rfl

/-- The induction over the fills. -/
theorem follows_run {trendUniverse : UniverseMapping} {opening accounts : Accounts}
    {trades : List Trade}
    (suffixed : ∀ symbol, trendUniverse.contains symbol = true → endsWithUSDT symbol = true)
    (named : NamedBySymbol trendUniverse) (spares : ∀ trade ∈ trades, trade.SparesBtc)
    (start : Follows trendUniverse opening)
    (run : Reaches trendUniverse opening trades accounts) : Follows trendUniverse accounts := by
  induction run with
  | start => exact start
  | @fill trades accounts next trade before placed success ih =>
    apply follows_fill suffixed named (spares trade List.mem_cons_self) placed _ success
    exact ih fun earlier member => spares earlier (List.mem_cons_of_mem _ member)
  | other before same ih =>
    obtain ⟨covers, snapshot, stored, values⟩ := ih spares
    exact ⟨covers, snapshot, same.trans stored, values⟩

/-- A parsed universe has USDT symbols only. -/
theorem parseTrendUniverseMapping_suffixed (payload : Value) {symbol : String}
    (parsed : (parseTrendUniverseMapping payload).contains symbol = true) :
    endsWithUSDT symbol = true := by
  have admitted : ∀ (universeSoFar : UniverseMapping) (name : String) (configured : Value),
      (∀ s, universeSoFar.contains s = true → endsWithUSDT s = true) →
        ∀ s, (admitEntry universeSoFar name configured).contains s = true →
          endsWithUSDT s = true := by
    intro universeSoFar name configured before s present
    unfold admitEntry at present
    split at present
    · rename_i base found
      rcases (contains_set _ _ _ _).mp present with here | kept
      · rw [here]
        unfold configuredBase at found
        split at found
        · assumption
        · cases found
      · exact before s kept
    · exact before s present
  have folded : ∀ {α : Type} (step : UniverseMapping → α → UniverseMapping) (xs : List α),
      (∀ soFar x, (∀ s, soFar.contains s = true → endsWithUSDT s = true) →
        ∀ s, (step soFar x).contains s = true → endsWithUSDT s = true) →
      ∀ s, (xs.foldl step .empty).contains s = true → endsWithUSDT s = true := by
    intro α step xs keeps
    apply List.foldlRecOn (motive := fun soFar : UniverseMapping =>
      ∀ s, soFar.contains s = true → endsWithUSDT s = true) xs step
    · intro s impossible
      cases impossible
    · intro soFar before x _
      exact keeps soFar x before
  unfold parseTrendUniverseMapping at parsed
  split at parsed
  · dsimp only at parsed
    split at parsed
    · exact folded _ _ (fun soFar e before => admitted soFar _ _ before) _ parsed
    · refine folded _ _ (fun soFar name before => ?_) _ parsed
      split
      · exact admitted soFar _ _ before
      · exact before
    · cases parsed
  · cases parsed

/-- A cycle that stops after any fill leaves the snapshot of its balances. -/
theorem snapshot_tracks (payload : Value) {opening accounts : Accounts} {trades : List Trade}
    (covers : Covers (parseTrendUniverseMapping payload) opening.balances)
    (start : Tracked (parseTrendUniverseMapping payload) opening)
    (run : Reaches (parseTrendUniverseMapping payload) opening trades accounts)
    (named : NamedBySymbol (parseTrendUniverseMapping payload))
    (spares : ∀ trade ∈ trades, trade.SparesBtc) :
    Tracked (parseTrendUniverseMapping payload) accounts := by
  have suffixed := fun symbol => @parseTrendUniverseMapping_suffixed _ payload symbol
  obtain ⟨snapshot, stored, same⟩ := start
  have follows : Follows (parseTrendUniverseMapping payload) opening :=
    ⟨covers, snapshot, stored, fun asset =>
      (same asset).trans (get?_buildBalanceSnapshot opening.uTotal suffixed named covers asset)⟩
  obtain ⟨coversNow, snapshotNow, storedNow, values⟩ := follows_run suffixed named spares follows run
  exact ⟨snapshotNow, storedNow, fun asset =>
    (values asset).trans (get?_buildBalanceSnapshot accounts.uTotal suffixed named coversNow asset).symm⟩

end Steps

/-! ## An ETH buy, with its commission in BNB and in BTC -/

local instance : CharacterTable := asciiTable

def one : PyFloat := .finite false 1

def orderResponse (symbol commissionAsset : String) : Value :=
  .dict ⟨[("status", .str "FILLED"), ("symbol", .str symbol), ("side", .str "BUY"),
    ("executedQty", .str "1"), ("cummulativeQuoteQty", .str "2000"),
    ("fills", .list [.dict ⟨[("price", .str "2000"), ("qty", .str "1"), ("commission", .str "0.5"),
      ("commissionAsset", .str commissionAsset)]⟩])]⟩

def quotedPrices : Document := ⟨[("BTCUSDT", .float (.finite false 60000)),
  ("BNBUSDT", .float (.finite false 600))]⟩

def buy (symbol baseAsset commissionAsset : String) : Trade :=
  { response := orderResponse symbol commissionAsset, symbol, side := "BUY", baseAsset
    prices := quotedPrices }

def openingAccounts (trendUniverse : UniverseMapping) (symbol : String) : Accounts :=
  let balances : Balances := ⟨[(symbol, one), ("BTCUSDT", one), ("BNBUSDT", one)]⟩
  let uTotal := .finite false 5000
  { state := ⟨[(lastBalanceSnapshotKey, .dict (buildBalanceSnapshot trendUniverse balances uTotal))]⟩
    balances, uTotal }

def afterFill (trade : Trade) (accounts : Accounts) : Accounts :=
  ((accountFill trade accounts).toOption).getD accounts

theorem accountFill_eq {trade : Trade} {accounts : Accounts}
    (ok : (accountFill trade accounts).isOk = true) :
    accountFill trade accounts = .ok (afterFill trade accounts) := by
  unfold afterFill
  cases outcome : accountFill trade accounts with
  | error raised => simp [outcome, Except.isOk, Except.toBool] at ok
  | ok next => rfl

def floatAt (document : Document) (key : String) : Option PyFloat :=
  match document.get? key with
  | some (.float x) => some x
  | _ => none

def snapshotAt (accounts : Accounts) (asset : String) : Option PyFloat :=
  match accounts.state.get? lastBalanceSnapshotKey with
  | some (.dict snapshot) => floatAt snapshot asset
  | _ => none

theorem snapshotAt_of_tracked {trendUniverse : UniverseMapping} {accounts : Accounts}
    (tracked : Tracked trendUniverse accounts) (asset : String) :
    snapshotAt accounts asset
      = floatAt (buildBalanceSnapshot trendUniverse accounts.balances accounts.uTotal) asset := by
  obtain ⟨snapshot, stored, same⟩ := tracked
  have read : snapshotAt accounts asset = floatAt snapshot asset := by
    rw [snapshotAt, stored]
  rw [read, floatAt, floatAt, same]

theorem tracked_opening (trendUniverse : UniverseMapping) (symbol : String) :
    Tracked trendUniverse (openingAccounts trendUniverse symbol) := ⟨_, rfl, fun _ => rfl⟩

theorem covers_opening (symbol baseAsset : String) :
    Covers ⟨[(symbol, baseAsset)]⟩ (openingAccounts ⟨[(symbol, baseAsset)]⟩ symbol).balances := by
  intro other
  by_cases traded : symbol = other
  · simp [openingAccounts, Dict.contains, Dict.get?, Dict.find, traded]
  · by_cases btc : other = "BTCUSDT"
    · simp [openingAccounts, Dict.contains, Dict.get?, Dict.find, btc]
    · by_cases bnb : other = "BNBUSDT"
      · simp [openingAccounts, Dict.contains, Dict.get?, Dict.find, bnb]
      · simp [openingAccounts, Dict.contains, Dict.get?, Dict.find, traded, btc, bnb, Ne.symm btc,
          Ne.symm bnb]

def ethPayload : Value := .dict ⟨[("symbols", .list [.str "ETHUSDT"])]⟩

/-- A configured base asset of another name. -/
def renamedPayload : Value :=
  .dict ⟨[("symbols", .dict ⟨[("AAVEUSDT", .dict ⟨[("base_asset", .str "LEND")]⟩)]⟩)]⟩

theorem ethPayload_parsed : parseTrendUniverseMapping ethPayload = ⟨[("ETHUSDT", "ETH")]⟩ := by
  rfl

theorem renamedPayload_parsed :
    parseTrendUniverseMapping renamedPayload = ⟨[("AAVEUSDT", "LEND")]⟩ := by
  rfl

theorem snapshot_tracks_bnb_commission :
    Tracked (parseTrendUniverseMapping ethPayload)
      (afterFill (buy "ETHUSDT" "ETH" "BNB") (openingAccounts ⟨[("ETHUSDT", "ETH")]⟩ "ETHUSDT")) := by
  have run : Reaches ⟨[("ETHUSDT", "ETH")]⟩ (openingAccounts ⟨[("ETHUSDT", "ETH")]⟩ "ETHUSDT")
      [buy "ETHUSDT" "ETH" "BNB"] (afterFill (buy "ETHUSDT" "ETH" "BNB")
        (openingAccounts ⟨[("ETHUSDT", "ETH")]⟩ "ETHUSDT")) :=
    .fill .start ⟨.inl (by decide), .inl (by decide)⟩ (accountFill_eq (by decide +kernel))
  apply snapshot_tracks ethPayload
  · rw [ethPayload_parsed]
    exact covers_opening "ETHUSDT" "ETH"
  · rw [ethPayload_parsed]
    exact tracked_opening _ _
  · rw [ethPayload_parsed]
    exact run
  · rw [ethPayload_parsed]
    intro symbol baseAsset configured
    simp only [Dict.get?, Dict.find] at configured
    split at configured
    · rename_i same
      rw [← same, ← Option.some.inj configured]
      decide
    · cases configured
  · intro trade member other
    rw [List.mem_singleton.mp member]
    rintro ⟨order, fills, fill, response, listed, inFills, pays⟩
    cases response
    cases listed
    cases Value.dict.inj (List.mem_singleton.mp inFills)
    exact absurd pays (by decide +kernel)

/-- An ETH buy with its commission in BTC keeps the old BTC entry, and any fill adds
an entry for a symbol whose configured base asset has another name. -/
theorem snapshot_left_behind :
    (∃ next, Reaches (parseTrendUniverseMapping ethPayload)
        (openingAccounts (parseTrendUniverseMapping ethPayload) "ETHUSDT")
        [buy "ETHUSDT" "ETH" "BTC"] next
      ∧ Covers (parseTrendUniverseMapping ethPayload)
        (openingAccounts (parseTrendUniverseMapping ethPayload) "ETHUSDT").balances
      ∧ Tracked (parseTrendUniverseMapping ethPayload)
        (openingAccounts (parseTrendUniverseMapping ethPayload) "ETHUSDT")
      ∧ ¬ Tracked (parseTrendUniverseMapping ethPayload) next)
    ∧ ∃ next, Reaches (parseTrendUniverseMapping renamedPayload)
        (openingAccounts (parseTrendUniverseMapping renamedPayload) "AAVEUSDT")
        [buy "BTCUSDT" "BTC" "BNB"] next
      ∧ Covers (parseTrendUniverseMapping renamedPayload)
        (openingAccounts (parseTrendUniverseMapping renamedPayload) "AAVEUSDT").balances
      ∧ Tracked (parseTrendUniverseMapping renamedPayload)
        (openingAccounts (parseTrendUniverseMapping renamedPayload) "AAVEUSDT")
      ∧ ¬ Tracked (parseTrendUniverseMapping renamedPayload) next := by
  rw [ethPayload_parsed, renamedPayload_parsed]
  constructor
  · refine ⟨afterFill (buy "ETHUSDT" "ETH" "BTC") _, .fill .start ⟨.inl (by decide), .inl (by decide)⟩
      (accountFill_eq (by decide +kernel)), covers_opening _ _, tracked_opening _ _, ?_⟩
    intro tracked
    exact absurd (snapshotAt_of_tracked tracked "BTC") (by decide +kernel)
  · refine ⟨afterFill (buy "BTCUSDT" "BTC" "BNB") _, .fill .start ⟨.inr rfl, .inr (by decide)⟩
      (accountFill_eq (by decide +kernel)), covers_opening _ _, tracked_opening _ _, ?_⟩
    intro tracked
    exact absurd (snapshotAt_of_tracked tracked "AAVE") (by decide +kernel)

end BinancePlatform.Guarantees.SnapshotTracking
