import BinancePlatform.Guarantees.DepositNeutrality
import BinancePlatform.Source.DailyMigration
import Mathlib.Tactic.FieldSimp
import Mathlib.Tactic.Linarith
import Mathlib.Tactic.NormNum

/-!
# The accounting migration and the live reset

After a committed migration, a live cycle of the same day over the same quantities and
prices sees no changed asset and is neither reset nor rejected. On the day of the last
reset its trend PnL is that of the old trend base. On a new day both PnLs are 0 if and
only if the old ledger held no external principal: the reset clears that field, the
migration does not.

* The written quantities are those the live snapshot reads (`quantity_normalized`,
  `value_eq_live`, `totalEquity_eq`), so no asset has changed (`changedAssets_eq_nil`).
* The two patches and the reset (`newDayPatch_ok`, `sameDayPatch_ok`, `maybeReset_kept`)
  give `migration_goes_on_iff`.
* A kept principal distorts the day (`kept_principal_distorts_day`).

`SameMarket` says that the cycle sees what the migration was approved for.
-/

set_option autoImplicit false

namespace BinancePlatform.Guarantees.MigrationReset
open BinancePlatform.Library BinancePlatform.Source DepositNeutrality

/-! ## Rounding -/

theorem round8_of_int (n : ℤ) : round8 (n / 10 ^ 8) = n / 10 ^ 8 := by
  have scaled : (n : ℚ) / 10 ^ 8 * 10 ^ 8 = n := by field_simp
  unfold round8
  dsimp only
  rw [scaled, Int.floor_intCast, sub_self, if_pos (.inl (by norm_num))]

theorem round8_round8 (q : ℚ) : round8 (round8 q) = round8 q := by
  obtain ⟨n, rounded⟩ : ∃ n : ℤ, round8 q = n / 10 ^ 8 := ⟨_, rfl⟩
  rw [rounded, round8_of_int]

theorem round8_nonneg {q : ℚ} (nonneg : 0 ≤ q) : 0 ≤ round8 q := by
  have floor : 0 ≤ ⌊q * 10 ^ 8⌋ := Int.floor_nonneg.mpr (by positivity)
  unfold round8
  dsimp only
  split_ifs
  · positivity
  · push_cast
    positivity

/-! ## The same market -/

/-- The live cycle holds the migrated quantities at the migrated prices, and trades the
migrated assets other than USDT, BTC and BNB. -/
structure SameMarket (portfolio : Portfolio) (balances prices : Dict String ℚ) : Prop where
  quantity : ∀ asset value, balances.get? asset = some value → portfolio.quantity asset = round8 value
  price : ∀ symbol value, prices.get? symbol = some value → portfolio.price symbol = value
  symbols : ∀ e ∈ portfolio.trendUniverse, e.1 = e.2 ++ "USDT"
  distinct : (portfolio.trendUniverse.map Prod.snd).Nodup
  assets : ∀ asset, asset ∈ portfolio.trendUniverse.map Prod.snd
    ↔ balances.contains asset = true ∧ asset ∉ coreAssets

/-- The value of an asset in the live portfolio. -/
def liveValue (portfolio : Portfolio) (asset : String) : ℚ :=
  if asset = "USDT" then portfolio.quantity asset
  else portfolio.quantity asset * portfolio.price (asset ++ "USDT")

/-- The migrated snapshot: the balances, rounded, under the same assets. -/
theorem normalized_ok {balances normalized : Dict String ℚ}
    (success : normalizedBalances balances = .ok normalized) :
    (∀ asset value, balances.get? asset = some value → 0 ≤ value)
      ∧ (∀ asset, normalized.get? asset = (balances.get? asset).map round8)
      ∧ normalized.keyList.Nodup := by
  unfold normalizedBalances at success
  obtain ⟨nonneg, success⟩ := require_bind success
  cases success
  rw [List.all_eq_true] at nonneg
  refine ⟨?_, ?_, ?_⟩
  · intro asset value stored
    exact of_decide_eq_true (nonneg (asset, value) ((Dict.mem_items _ _ _).mpr stored))
  · intro asset
    exact (Dict.find_map round8 balances.items asset).trans (congrArg _ (Dict.find_items balances asset))
  · rw [Dict.keyList, List.map_map]
    exact balances.keys_nodup

section Market
variable {portfolio : Portfolio} {balances prices normalized : Dict String ℚ}

/-- A stored quantity is the live one and is rounded to eight places already. -/
theorem quantity_normalized (market : SameMarket portfolio balances prices)
    (success : normalizedBalances balances = .ok normalized) {asset : String} {quantity : ℚ}
    (stored : normalized.get? asset = some quantity) :
    portfolio.quantity asset = quantity ∧ 0 ≤ quantity ∧ round8 quantity = quantity := by
  obtain ⟨nonneg, values, -⟩ := normalized_ok success
  rw [values] at stored
  obtain ⟨value, held, rfl⟩ := Option.map_eq_some_iff.mp stored
  exact ⟨market.quantity asset value held, round8_nonneg (nonneg asset value held), round8_round8 value⟩

/-- An asset that the migration can value has that value in the live portfolio. -/
theorem value_eq_live (market : SameMarket portfolio balances prices)
    (success : normalizedBalances balances = .ok normalized) {asset : String} {quantity value : ℚ}
    (stored : normalized.get? asset = some quantity) (valued : assetValue prices asset quantity = .ok value) :
    value = liveValue portfolio asset ∧ 0 ≤ value := by
  obtain ⟨held, nonneg, -⟩ := quantity_normalized market success stored
  unfold assetValue at valued
  unfold liveValue
  rw [held]
  by_cases cash : asset = "USDT"
  · rw [if_pos cash] at valued ⊢
    cases valued
    exact ⟨rfl, nonneg⟩
  · rw [if_neg cash] at valued ⊢
    by_cases empty : quantity = 0
    · rw [if_pos empty] at valued
      cases valued
      rw [empty, zero_mul]
      exact ⟨rfl, le_rfl⟩
    · rw [if_neg empty] at valued
      cases quoted : prices.get? (asset ++ "USDT") with
      | none =>
        rw [quoted] at valued
        cases valued
      | some price =>
        rw [quoted] at valued
        dsimp only at valued
        split_ifs at valued with negative
        cases valued
        rw [market.price _ _ quoted]
        exact ⟨rfl, mul_nonneg nonneg (not_lt.mp negative)⟩

theorem contains_normalized (success : normalizedBalances balances = .ok normalized) (asset : String) :
    asset ∈ normalized.keys ↔ balances.contains asset = true := by
  obtain ⟨-, values, -⟩ := normalized_ok success
  rw [Dict.mem_keys, values, Option.isSome_map]
  rfl

theorem trendVal_eq (market : SameMarket portfolio balances prices)
    (success : normalizedBalances balances = .ok normalized) :
    portfolio.trendVal
      = ((normalized.keys.filter fun asset => asset ∉ coreAssets).map (liveValue portfolio)).sum := by
  have permuted : (portfolio.trendUniverse.map Prod.snd).Perm
      (normalized.keys.filter fun asset => asset ∉ coreAssets) := by
    apply (List.perm_ext_iff_of_nodup market.distinct (normalized.keys_nodup.filter _)).mpr
    intro asset
    rw [market.assets, List.mem_filter, contains_normalized success, decide_eq_true_eq]
  rw [← (permuted.map (liveValue portfolio)).sum_eq, Portfolio.trendVal, List.map_map]
  apply congrArg List.sum
  apply List.map_congr_left
  intro e member
  have listed := (market.assets e.2).mp (List.mem_map.mpr ⟨e, member, rfl⟩)
  have notCash : e.2 ≠ "USDT" := by
    intro cash
    exact listed.2 (by rw [cash]; decide)
  rw [Function.comp_apply, liveValue, if_neg notCash, market.symbols e member]

/-- The live equity is that of the stored quantities. -/
theorem totalEquity_eq (market : SameMarket portfolio balances prices)
    (success : normalizedBalances balances = .ok normalized)
    (complete : ∀ asset ∈ coreAssets, asset ∈ normalized.keys) :
    portfolio.totalEquity = (normalized.keys.map (liveValue portfolio)).sum := by
  have core : (normalized.keys.filter fun asset => asset ∈ coreAssets).Perm coreAssets := by
    apply (List.perm_ext_iff_of_nodup (normalized.keys_nodup.filter _) (by decide)).mpr
    intro asset
    rw [List.mem_filter, decide_eq_true_eq]
    exact ⟨fun both => both.2, fun member => ⟨complete asset member, member⟩⟩
  have parts := List.filter_append_perm (fun asset => decide (asset ∈ coreAssets)) normalized.keys
  rw [← (parts.map (liveValue portfolio)).sum_eq, List.map_append, List.sum_append,
    (core.map (liveValue portfolio)).sum_eq, Portfolio.totalEquity, trendVal_eq market success]
  have others : (normalized.keys.filter fun asset => !decide (asset ∈ coreAssets))
      = normalized.keys.filter fun asset => asset ∉ coreAssets := by
    simp
  rw [others]
  simp only [coreAssets, List.map_cons, List.map_nil, List.sum_cons, List.sum_nil, liveValue, if_pos,
    show ("BTC" : String) ≠ "USDT" by decide, show ("BNB" : String) ≠ "USDT" by decide, if_false,
    show "BTC" ++ "USDT" = "BTCUSDT" by decide, show "BNB" ++ "USDT" = "BNBUSDT" by decide]
  ring

/-- The patch of a new day carries the live equity. -/
theorem newDayPatch_ok (market : SameMarket portfolio balances prices)
    (success : normalizedBalances balances = .ok normalized)
    (complete : ∀ asset ∈ coreAssets, asset ∈ normalized.keys) {today : String} {patch : AccountingPatch}
    (patched : newDayPatch prices normalized today = .ok patch) :
    patch = ⟨portfolio.trendVal, some (portfolio.totalEquity, portfolio.trendVal, today)⟩
      ∧ 0 < portfolio.totalEquity ∧ 0 ≤ portfolio.trendVal := by
  unfold newDayPatch at patched
  obtain ⟨values, valued, patched⟩ := bind_ok patched
  obtain ⟨positive, patched⟩ := require_bind patched
  cases patched
  have each : ∀ e ∈ normalized.items, ∀ out,
      (assetValue prices e.1 e.2).map (fun value => (e.1, value)) = .ok out →
        out = (e.1, liveValue portfolio e.1) ∧ 0 ≤ liveValue portfolio e.1 := by
    intro e member out taken
    obtain ⟨value, found, rfl⟩ := map_ok taken
    obtain ⟨rfl, nonneg⟩ := value_eq_live market success ((Dict.mem_items _ _ _).mp member) found
    exact ⟨rfl, nonneg⟩
  have live : values = normalized.keys.map fun asset => (asset, liveValue portfolio asset) := by
    have kept := mapM_kept (g := fun e : String × ℚ => (e.1, liveValue portfolio e.1)) (h := id) valued
      fun e member out taken => (each e member out taken).1
    rw [List.map_id] at kept
    rw [kept, Dict.keys, List.map_map]
    rfl
  have total : (values.map Prod.snd).sum = portfolio.totalEquity := by
    rw [totalEquity_eq market success complete, live, List.map_map]
    rfl
  have trend : ((values.filter fun e => e.1 ∉ coreAssets).map Prod.snd).sum = portfolio.trendVal := by
    rw [trendVal_eq market success, live, List.filter_map, List.map_map]
    rfl
  rw [total] at positive ⊢
  rw [trend]
  refine ⟨rfl, of_decide_eq_true positive, ?_⟩
  rw [trendVal_eq market success]
  apply List.sum_nonneg
  intro value member
  obtain ⟨asset, kept, rfl⟩ := List.mem_map.mp member
  obtain ⟨e, inItems, rfl⟩ := List.mem_map.mp (List.mem_filter.mp kept).1
  obtain ⟨out, -, taken⟩ := forall₂_exists (mapM_ok valued) inItems
  exact (each e inItems out taken).2

/-- A migration on the day of the last reset keeps the trend base, and demands one if a trend is
held. -/
theorem sameDayPatch_ok {γ : Type} {ledger : DailyLedger ℚ γ} (market : SameMarket portfolio balances prices)
    (success : normalizedBalances balances = .ok normalized) {patch : AccountingPatch}
    (patched : sameDayPatch ledger normalized = .ok patch) :
    patch = ⟨ledger.daily.dailyTrendEquityBase, none⟩ ∧ 0 ≤ ledger.daily.dailyTrendEquityBase
      ∧ (ledger.daily.dailyTrendEquityBase = 0 → portfolio.trendVal = 0) := by
  unfold sameDayPatch at patched
  obtain ⟨-, patched⟩ := require_bind patched
  obtain ⟨-, patched⟩ := require_bind patched
  obtain ⟨-, patched⟩ := require_bind patched
  obtain ⟨bases, patched⟩ := require_bind patched
  obtain ⟨basis, patched⟩ := require_bind patched
  cases patched
  rw [Bool.and_eq_true, decide_eq_true_eq, decide_eq_true_eq] at bases
  refine ⟨rfl, bases.2, ?_⟩
  intro zero
  rw [zero] at basis
  rw [Bool.and_eq_true, Bool.not_eq_true', Bool.and_eq_false_iff, decide_eq_false_iff_not] at basis
  have nothing := basis.2.resolve_left (not_not.mpr le_rfl)
  rw [List.any_eq_false] at nothing
  rw [trendVal_eq market success]
  apply List.sum_eq_zero
  intro value member
  obtain ⟨asset, kept, rfl⟩ := List.mem_map.mp member
  obtain ⟨listed, notCore⟩ := List.mem_filter.mp kept
  obtain ⟨⟨asset, quantity⟩, inItems, rfl⟩ := List.mem_map.mp listed
  obtain ⟨held, nonneg, -⟩ := quantity_normalized market success ((Dict.mem_items _ _ _).mp inItems)
  have notPositive := nothing _ inItems
  have empty : quantity = 0 := by
    apply le_antisymm _ nonneg
    apply not_lt.mp
    intro positive
    apply notPositive
    rw [Bool.and_eq_true, decide_eq_true_eq]
    exact ⟨positive, notCore⟩
  have notCash : asset ≠ "USDT" := by
    rintro rfl
    exact of_decide_eq_true notCore (show "USDT" ∈ coreAssets by decide)
  rw [liveValue, if_neg notCash, held, empty, zero_mul]

/-! ## The live snapshot -/

theorem find_universe (universe_ : List (String × String)) (f : String → ℚ) (asset : String) :
    Dict.find asset (universe_.map fun e => (e.2, f e.2))
      = if asset ∈ universe_.map Prod.snd then some (f asset) else none := by
  induction universe_ with
  | nil => rfl
  | cons e rest ih =>
    rw [List.map_cons, Dict.find, ih, List.map_cons]
    by_cases same : e.2 = asset
    · rw [if_pos same, if_pos (List.mem_cons.mpr (.inl same.symm)), same]
    · rw [if_neg same]
      simp only [List.mem_cons, Ne.symm same, false_or]

theorem get?_balanceSnapshot (market : SameMarket portfolio balances prices)
    (success : normalizedBalances balances = .ok normalized)
    (complete : ∀ asset ∈ coreAssets, asset ∈ normalized.keys) (asset : String) :
    portfolio.balanceSnapshot.get? asset = normalized.get? asset := by
  have nodup : ((portfolio.trendUniverse.map fun e => (e.2, round8 (portfolio.quantity e.2))).map
      Prod.fst).Nodup := by
    rw [List.map_map]
    exact market.distinct
  have rounded : ∀ asset quantity, normalized.get? asset = some quantity →
      round8 (portfolio.quantity asset) = quantity := by
    intro asset quantity stored
    obtain ⟨held, -, fixed⟩ := quantity_normalized market success stored
    rw [held, fixed]
  have stored : ∀ asset, asset ∈ normalized.keys →
      normalized.get? asset = some (round8 (portfolio.quantity asset)) := by
    intro asset member
    obtain ⟨quantity, found⟩ := Option.isSome_iff_exists.mp ((Dict.mem_keys _ _).mp member)
    rw [found, rounded asset quantity found]
  rw [Portfolio.balanceSnapshot, Dict.get?_set, Dict.get?_setAll _ nodup,
    find_universe portfolio.trendUniverse fun asset => round8 (portfolio.quantity asset)]
  by_cases fuel : asset = "BNB"
  · rw [if_pos fuel, fuel, stored "BNB" (complete _ (by decide))]
  · rw [if_neg fuel]
    by_cases traded : asset ∈ portfolio.trendUniverse.map Prod.snd
    · have listed := (market.assets asset).mp traded
      rw [if_pos traded, Option.some_or, stored asset ((contains_normalized success asset).mpr listed.1)]
    · rw [if_neg traded, Option.none_or]
      by_cases cash : asset = "USDT"
      · rw [cash, stored "USDT" (complete _ (by decide))]
        rfl
      · by_cases coin : asset = "BTC"
        · rw [coin, stored "BTC" (complete _ (by decide))]
          rfl
        · have absent : asset ∉ normalized.keys := by
            intro member
            apply traded
            rw [market.assets]
            exact ⟨(contains_normalized success asset).mp member, by simp [coreAssets, cash, coin, fuel]⟩
          have missing : normalized.get? asset = none := by
            rw [Dict.mem_keys, Option.not_isSome_iff_eq_none] at absent
            exact absent
          rw [missing]
          simp [Dict.get?, Dict.find, Ne.symm cash, Ne.symm coin]

/-- Snapshots with equal quantities list no changed asset. -/
theorem changedAssets_eq_nil {previous current : Dict String ℚ}
    (same : ∀ asset, current.get? asset = previous.get? asset) : changedAssets previous current = [] := by
  unfold changedAssets
  rw [List.filter_eq_nil_iff]
  intro asset _
  rw [same, sub_self, abs_zero, decide_eq_true_eq, not_lt]
  split_ifs <;> positivity

end Market

/-! ## The committed migration -/

/-- The live cycle after the migration goes on as after its own reset. -/
structure GoesOn {γ : Type} (mode : MigrationMode) (migrated : DailyLedger ℚ γ) (portfolio : Portfolio)
    (input : CycleInput ℚ γ) : Prop where
  unchanged : changedAssets migrated.lastBalanceSnapshot portfolio.balanceSnapshot = []
  kept : maybeReset migrated input = .ok none
  newDay : mode = .newUtcDayZeroActivity →
    computeDailyPnls migrated.daily portfolio.totalEquity portfolio.trendVal = .ok (0, 0)
      ∧ ∀ stale reset : DailyLedger ℚ γ, maybeReset stale input = .ok (some reset) →
        computeDailyPnls reset.daily portfolio.totalEquity portfolio.trendVal = .ok (0, 0)
  sameDay : mode = .sameUtcDayZeroActivity → ∃ dailyPnl,
    computeDailyPnls migrated.daily portfolio.totalEquity portfolio.trendVal
      = .ok (dailyPnl, if migrated.daily.dailyTrendEquityBase = 0 then 0 else
        (portfolio.trendVal - migrated.daily.dailyTrendEquityBase)
          / migrated.daily.dailyTrendEquityBase)

section Commit
variable {γ δ : Type} {buildGates applyGates : Except PyException Unit}
  {ledgerDigest : DailyLedger ℚ γ → δ} {snapshotDigest : Dict String ℚ → δ}
  {ledger current migrated : DailyLedger ℚ γ} {updateTime currentTime : String}
  {balances current_ prices : Dict String ℚ} {observedAt : Instant} {candidate : MigrationCandidate δ}
  {portfolio : Portfolio} {input : CycleInput ℚ γ}

theorem build_ok
    (built : buildCandidate buildGates ledgerDigest snapshotDigest ledger updateTime balances prices
      observedAt = .ok candidate) :
    ∃ normalized, normalizedBalances balances = .ok normalized
      ∧ (∀ asset ∈ coreAssets, asset ∈ normalized.keys)
      ∧ candidate.ledgerDigest = ledgerDigest ledger
      ∧ candidate.balanceSnapshotDigest = snapshotDigest normalized
      ∧ ((ledger.daily.lastResetDate = DateTime.dateIsoformat observedAt
          ∧ candidate.mode = .sameUtcDayZeroActivity
          ∧ sameDayPatch ledger normalized = .ok candidate.patch)
        ∨ (candidate.mode = .newUtcDayZeroActivity
          ∧ newDayPatch prices normalized (DateTime.dateIsoformat observedAt) = .ok candidate.patch)) := by
  unfold buildCandidate at built
  obtain ⟨⟨⟩, -, built⟩ := bind_ok built
  obtain ⟨-, built⟩ := require_bind built
  obtain ⟨normalized, success, built⟩ := bind_ok built
  obtain ⟨complete, built⟩ := require_bind built
  dsimp only at built
  cases parsed : strptimeDate ledger.daily.lastResetDate with
  | none =>
    rw [parsed] at built
    cases built
  | some reset =>
  rw [parsed] at built
  obtain ⟨-, built⟩ := require_bind built
  obtain ⟨patch, patched, built⟩ := bind_ok built
  obtain rfl := Except.ok.inj built
  unfold accountingPatch at patched
  refine ⟨normalized, success, ?_, rfl, rfl, ?_⟩
  · intro asset member
    exact (Dict.mem_keys _ _).mpr (List.all_eq_true.mp complete asset member)
  · by_cases sameDay : ledger.daily.lastResetDate = DateTime.dateIsoformat observedAt
    · rw [if_pos sameDay] at patched
      exact .inl ⟨sameDay, by rw [if_pos sameDay], patched⟩
    · rw [if_neg sameDay] at patched
      exact .inr ⟨by rw [if_neg sameDay], patched⟩

theorem apply_ok [DecidableEq δ]
    (committed : compareAndApply applyGates ledgerDigest snapshotDigest current currentTime candidate
      current_ = .ok migrated) :
    ∃ snapshot, ledgerDigest current = candidate.ledgerDigest
      ∧ snapshotDigest snapshot = candidate.balanceSnapshotDigest
      ∧ migrated = patchedLedger current candidate.patch snapshot := by
  unfold compareAndApply at committed
  obtain ⟨⟨⟩, -, committed⟩ := bind_ok committed
  obtain ⟨bound, committed⟩ := require_bind committed
  obtain ⟨-, committed⟩ := require_bind committed
  obtain ⟨snapshot, -, committed⟩ := bind_ok committed
  obtain ⟨same, committed⟩ := require_bind committed
  cases committed
  rw [Bool.and_eq_true, decide_eq_true_eq, decide_eq_true_eq] at bound
  exact ⟨snapshot, bound.2, of_decide_eq_true same, rfl⟩

/-- On the day of its reset a ledger with a consistent risk base is kept as it is. -/
theorem maybeReset_kept (basis : migrated.trendPnlBasis = some trendPnlBasis)
    (today : migrated.daily.lastResetDate = input.today) (risk : 0 ≤ migrated.daily.dailyTrendRiskBase)
    (quiet : migrated.daily.dailyTrendRiskBase ≤ 0 → input.trendValEquity = 0
      ∧ migrated.daily.dailyTrendEquityBase = 0 ∧ migrated.daily.dailyTrendCashFlow = 0
      ∧ migrated.daily.dailyTrendNetInvested = 0 ∧ migrated.daily.dailyTrendThirdFee = 0) :
    maybeReset migrated input = .ok none := by
  have accepted : maybeResetDailyState migrated.daily input.today input.totalEquity input.trendValEquity
      = .ok (migrated.daily, false) := by
    unfold maybeResetDailyState
    rw [if_neg (not_not.mpr today), if_neg (not_lt.mpr risk), if_neg]
    rintro ⟨none_, active⟩
    obtain ⟨value, base, flow, net, fee⟩ := quiet none_
    rcases active with active | active | active | active | active
    · exact active value
    · exact active base
    · exact active flow
    · exact active net
    · exact active fee
  unfold maybeReset
  rw [basis, require_bind_of (by simp), accepted]
  rfl

/-- The live reset itself leaves two zero PnLs. -/
theorem pnls_of_reset {stale reset : DailyLedger ℚ γ} (positive : 0 < input.totalEquity)
    (nonneg : 0 ≤ input.trendValEquity) (success : maybeReset stale input = .ok (some reset)) :
    computeDailyPnls reset.daily input.totalEquity input.trendValEquity = .ok (0, 0) := by
  unfold maybeReset at success
  obtain ⟨-, success⟩ := require_bind success
  obtain ⟨⟨daily, isReset⟩, resets, success⟩ := bind_ok success
  cases isReset with
  | false => cases success
  | true =>
    cases success
    unfold maybeResetDailyState at resets
    by_cases newDay : stale.daily.lastResetDate ≠ input.today
    · rw [if_pos newDay] at resets
      cases resets
      unfold computeDailyPnls
      simp only [if_pos positive, sub_self, zero_div, add_zero, sub_zero, max_eq_right nonneg]
      by_cases zero : input.trendValEquity ≤ 0
      · simp [le_antisymm zero nonneg]
      · rw [if_neg zero]
    · rw [if_neg newDay] at resets
      split_ifs at resets
      cases resets

/-- **The migration and the reset.** After a committed migration a live cycle of that day
over the same market goes on as after its own reset exactly if, on a new day, the old
ledger held no external principal. -/
theorem migration_goes_on_iff [DecidableEq δ] (ledgers : Function.Injective ledgerDigest)
    (snapshots : Function.Injective snapshotDigest)
    (built : buildCandidate buildGates ledgerDigest snapshotDigest ledger updateTime balances prices
      observedAt = .ok candidate)
    (committed : compareAndApply applyGates ledgerDigest snapshotDigest current currentTime candidate
      current_ = .ok migrated)
    (market : SameMarket portfolio balances prices) (today : input.today = DateTime.dateIsoformat observedAt)
    (equity : input.totalEquity = portfolio.totalEquity) (trend : input.trendValEquity = portfolio.trendVal) :
    GoesOn candidate.mode migrated portfolio input
      ↔ (candidate.mode = .newUtcDayZeroActivity → current.daily.dailyExternalPrincipal = 0) := by
  obtain ⟨normalized, success, complete, ledgerSame, snapshotSame, modes⟩ := build_ok built
  obtain ⟨snapshot, boundLedger, boundSnapshot, rfl⟩ := apply_ok committed
  have sameLedger : current = ledger := ledgers (boundLedger.trans ledgerSame)
  have sameSnapshot : normalized = snapshot := (snapshots (boundSnapshot.trans snapshotSame)).symm
  subst sameLedger sameSnapshot
  have unchanged : changedAssets normalized portfolio.balanceSnapshot = [] :=
    changedAssets_eq_nil (get?_balanceSnapshot market success complete)
  rcases modes with ⟨sameDay, mode, patched⟩ | ⟨mode, patched⟩
  · obtain ⟨patch, nonneg, quiet⟩ := sameDayPatch_ok market success patched
    rw [mode, patch]
    refine ⟨fun _ => nofun, fun _ => ⟨unchanged, ?_, nofun, fun _ => ?_⟩⟩
    · refine maybeReset_kept rfl (sameDay.trans today.symm) nonneg fun none_ => ?_
      have zero : current.daily.dailyTrendEquityBase = 0 := le_antisymm none_ nonneg
      exact ⟨trend.trans (quiet zero), zero, rfl, rfl, rfl⟩
    · by_cases zero : current.daily.dailyTrendEquityBase = 0
      · refine ⟨pnlOf current.daily.dailyEquityBase current.daily.dailyExternalPrincipal
          portfolio.totalEquity, ?_⟩
        rw [if_pos (show (patchedLedger current ⟨current.daily.dailyTrendEquityBase, none⟩
          normalized).daily.dailyTrendEquityBase = 0 from zero), quiet zero]
        unfold computeDailyPnls patchedLedger
        simp only [Option.elim_none, zero, le_refl, if_true, ne_eq, not_true_eq_false, or_self, if_false]
        rfl
      · have positive : 0 < current.daily.dailyTrendEquityBase := lt_of_le_of_ne nonneg (Ne.symm zero)
        refine ⟨pnlOf current.daily.dailyEquityBase current.daily.dailyExternalPrincipal
          portfolio.totalEquity, ?_⟩
        rw [if_neg (show ¬ (patchedLedger current ⟨current.daily.dailyTrendEquityBase, none⟩
          normalized).daily.dailyTrendEquityBase = 0 from zero)]
        unfold computeDailyPnls patchedLedger
        simp only [Option.elim_none, not_le.mpr positive, if_false, add_zero, sub_zero]
        rfl
  · obtain ⟨patch, positive, nonneg⟩ := newDayPatch_ok market success complete patched
    rw [mode, patch]
    have pnls : computeDailyPnls (patchedLedger current ⟨portfolio.trendVal,
          some (portfolio.totalEquity, portfolio.trendVal, DateTime.dateIsoformat observedAt)⟩ normalized).daily
          portfolio.totalEquity portfolio.trendVal
        = .ok (-current.daily.dailyExternalPrincipal / portfolio.totalEquity, 0) := by
      unfold computeDailyPnls patchedLedger
      simp only [Option.elim_some, if_pos positive, sub_self, zero_sub, add_zero, sub_zero, zero_div]
      by_cases zero : portfolio.trendVal ≤ 0
      · have none_ : portfolio.trendVal = 0 := le_antisymm zero nonneg
        simp [none_]
      · rw [if_neg zero]
    constructor
    · intro goesOn _
      have both := Except.ok.inj (pnls.symm.trans (goesOn.newDay rfl).1)
      have quotient := congrArg Prod.fst both
      rw [div_eq_zero_iff, neg_eq_zero] at quotient
      exact quotient.resolve_right positive.ne'
    · intro cleared
      refine ⟨unchanged, ?_, fun _ => ⟨?_, ?_⟩, nofun⟩
      · refine maybeReset_kept rfl today.symm nonneg fun none_ => ?_
        have zero : portfolio.trendVal = 0 := le_antisymm none_ nonneg
        exact ⟨trend.trans zero, zero, rfl, rfl, rfl⟩
      · rw [pnls, cleared rfl, neg_zero, zero_div]
      · intro stale reset resets
        rw [← equity, ← trend]
        exact pnls_of_reset (equity ▸ positive) (trend ▸ nonneg) resets

end Commit

/-! ## A ledger with yesterday's deposits -/

def exampleBalances : Dict String ℚ := ⟨[("USDT", 700), ("BTC", 0), ("BNB", 1), ("ETH", 2)]⟩
def examplePrices : Dict String ℚ := ⟨[("BNBUSDT", 100), ("ETHUSDT", 100)]⟩

def examplePortfolio : Portfolio where
  trendUniverse := [("ETHUSDT", "ETH")]
  quantity := fun asset => (exampleBalances.get? asset).getD 0
  price := fun symbol => (examplePrices.get? symbol).getD 1

/-- The ledger of 2026-11-03, with the principal deposited that day. -/
def staleLedger (principal : ℚ) : DailyLedger ℚ ℕ where
  daily := ⟨900, 150, 10, 10, 160, 1, principal, "2026-11-03", false⟩
  trendPnlBasis := some "trend_val"
  lastBalanceSnapshot := ⟨[("USDT", 650)]⟩
  cashFlowCursor := some 0
  earnCheckpointAt := none

def exampleNoon : Instant := (20761 * 86400 + 43200) * 1000000

abbrev ExampleDigest : Type := DailyLedger ℚ ℕ ⊕ Dict String ℚ

/-- The migration at noon of 2026-11-04: its candidate and the ledger it leaves. -/
def exampleMigration (principal : ℚ) :
    Except PyException (MigrationCandidate ExampleDigest × DailyLedger ℚ ℕ) := do
  let candidate ← buildCandidate (.ok ()) Sum.inl Sum.inr (staleLedger principal) "t" exampleBalances
    examplePrices exampleNoon
  let migrated ← compareAndApply (.ok ()) Sum.inl Sum.inr (staleLedger principal) "t" candidate
    exampleBalances
  return (candidate, migrated)

/-- A cycle half an hour later over the same market. -/
def exampleCycle : CycleInput ℚ ℕ where
  now := exampleNoon + 1800000000
  totalEquity := examplePortfolio.totalEquity
  trendValEquity := examplePortfolio.trendVal
  balanceSnapshot := examplePortfolio.balanceSnapshot
  collectCashFlows := fun _ => .ok ⟨0, [], 0, 0, 0, some 0⟩
  earnVerified := fun _ => .ok ()

theorem sameMarket_example : SameMarket examplePortfolio exampleBalances examplePrices where
  quantity := by
    intro asset value stored
    have listed := Dict.mem_of_find stored
    simp only [exampleBalances, List.mem_cons, List.not_mem_nil, or_false, Prod.mk.injEq] at listed
    rcases listed with ⟨rfl, rfl⟩ | ⟨rfl, rfl⟩ | ⟨rfl, rfl⟩ | ⟨rfl, rfl⟩ <;> decide +kernel
  price := by
    intro symbol value stored
    change (examplePrices.get? symbol).getD 1 = value
    rw [stored]
    rfl
  symbols := by decide
  distinct := by decide
  assets := by
    intro asset
    simp only [examplePortfolio, List.map_cons, List.map_nil, coreAssets,
      exampleBalances, Dict.contains, Dict.get?, Dict.find, List.mem_cons, List.not_mem_nil, or_false]
    constructor
    · rintro rfl
      decide
    · rintro ⟨held, notCore⟩
      by_contra other
      push Not at notCore
      simp [Ne.symm notCore.1, Ne.symm notCore.2.1, Ne.symm notCore.2.2, Ne.symm other] at held

theorem exampleMigration_ok {principal : ℚ} {result : MigrationCandidate ExampleDigest × DailyLedger ℚ ℕ}
    (success : exampleMigration principal = .ok result) :
    buildCandidate (.ok ()) Sum.inl Sum.inr (staleLedger principal) "t" exampleBalances examplePrices
        exampleNoon = .ok result.1
      ∧ compareAndApply (.ok ()) Sum.inl Sum.inr (staleLedger principal) "t" result.1 exampleBalances
        = .ok result.2 := by
  unfold exampleMigration at success
  obtain ⟨candidate, built, success⟩ := bind_ok success
  obtain ⟨migrated, committed, success⟩ := bind_ok success
  cases success
  exact ⟨built, committed⟩

theorem migration_goes_on_cleared : ∃ candidate migrated,
    exampleMigration 0 = .ok (candidate, migrated)
      ∧ GoesOn candidate.mode migrated examplePortfolio exampleCycle := by
  cases outcome : exampleMigration 0 with
  | error raised =>
    have committed : (exampleMigration 0).toOption.isSome = true := by decide +kernel
    rw [outcome] at committed
    cases committed
  | ok result =>
    obtain ⟨built, committed⟩ := exampleMigration_ok outcome
    exact ⟨result.1, result.2, rfl, (migration_goes_on_iff Sum.inl_injective Sum.inr_injective built committed
      sameMarket_example (by decide +kernel) rfl rfl).mpr fun _ => rfl⟩

/-- Yesterday's deposit of 50 makes the cycle report a loss of a twentieth. -/
theorem kept_principal_distorts_day : ∃ candidate migrated,
    exampleMigration 50 = .ok (candidate, migrated)
      ∧ ¬ GoesOn candidate.mode migrated examplePortfolio exampleCycle := by
  have seen : (exampleMigration 50).toOption.map (fun result => (result.1.mode,
      (computeDailyPnls result.2.daily examplePortfolio.totalEquity examplePortfolio.trendVal).toOption))
        = some (.newUtcDayZeroActivity, some (-1 / 20, 0)) := by decide +kernel
  cases outcome : exampleMigration 50 with
  | error raised =>
    rw [outcome] at seen
    exact absurd seen.symm (Option.some_ne_none _)
  | ok result =>
    rw [outcome] at seen
    obtain ⟨mode, pnls⟩ := Prod.mk.inj (Option.some.inj seen)
    refine ⟨result.1, result.2, rfl, ?_⟩
    intro goesOn
    rw [(goesOn.newDay mode).1] at pnls
    exact absurd (Option.some.inj pnls) (by decide +kernel)

end BinancePlatform.Guarantees.MigrationReset
