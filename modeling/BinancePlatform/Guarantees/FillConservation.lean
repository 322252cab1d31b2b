import BinancePlatform.Guarantees.SnapshotTracking
import BinancePlatform.Source.ExactFill
import Mathlib.Algebra.Order.BigOperators.Group.List
import Mathlib.Tactic.FieldSimp

/-!
# What a fill does to the account

In exact arithmetic, `u_total` and the value of the balances change by the gain on the
executed quantity less the fees, up to the clamp of the balances that the fill touches.
An order that cannot be applied leaves the balances as they are.

* What a parsed fill has passed (`parseFilledOrder_accepted`).
* What each balance becomes (`applyFillBalances_ok`), and that an error keeps them
  (`applyFillBalances_error`).
* A clamp moves a balance by at most its tolerance (`clamped_bounds`), and the worth of all
  balances changes by the gain less the fees, up to the clamps (`applied_conserves`,
  `fill_conserves`).

Amounts are elements of an ordered field: the rounding of floats is left out here.
-/

set_option autoImplicit false

namespace BinancePlatform.Guarantees.FillConservation
open BinancePlatform.Library BinancePlatform.Source SnapshotTracking

variable {K : Type} [Field K] [LinearOrder K]

/-! ## The parsed fill -/

/-- The given price of a symbol, and zero where none is given. -/
def priceOf (read : Value → Option K) (prices : Document) (symbol : String) : K :=
  (read (pyGet prices symbol)).getD 0

section Parse
variable {read : Value → Option K} {prices : Document}

theorem requiredNumber_ok {positive : Bool} {value : Value} {number : K}
    (success : Exact.requiredNumber read positive value = .ok number) :
    read value = some number ∧ 0 ≤ number ∧ (positive = true → 0 < number) := by
  unfold Exact.requiredNumber at success
  split at success
  next found shown =>
    split at success
    next => cases success
    next inside =>
      cases success
      rw [not_or, not_lt, not_and, not_le] at inside
      exact ⟨shown, inside.1, inside.2⟩
  next => cases success

/-- The third fees of different assets, and their value at the given prices. -/
theorem addThirdFee_total {entries : List (String × K)} {start sums : Dict String K × K}
    (success : entries.foldlM (Exact.addThirdFee read prices) start = .ok sums)
    (nodup : (entries.map Prod.fst).Nodup)
    (fresh : ∀ e ∈ entries, start.1.get? (e.1 ++ "USDT") = none)
    (totalled : start.2 = start.1.total (priceOf read prices)) :
    sums.2 = sums.1.total (priceOf read prices) := by
  induction entries generalizing start with
  | nil =>
    cases success
    exact totalled
  | cons e rest ih =>
    rw [List.foldlM_cons] at success
    obtain ⟨next, stepped, others⟩ := bind_ok success
    obtain ⟨price, priced, stepped⟩ := bind_ok stepped
    cases stepped
    rw [List.map_cons, List.nodup_cons] at nodup
    have value : priceOf read prices (e.1 ++ "USDT") = price := by
      rw [priceOf, (requiredNumber_ok priced).1, Option.getD_some]
    refine ih others nodup.2 (fun e' member => ?_) ?_
    · have apart : e'.1 ++ "USDT" ≠ e.1 ++ "USDT" := fun same =>
        nodup.1 (append_usdt_inj same ▸ List.mem_map_of_mem member)
      rw [Dict.get?_set_ne _ _ apart]
      exact fresh e' (List.mem_cons_of_mem _ member)
    · rw [Dict.total_set, fresh e List.mem_cons_self, totalled, value, Option.getD_none, sub_zero]

theorem addThirdFee_keys {entries : List (String × K)} {start sums : Dict String K × K}
    (success : entries.foldlM (Exact.addThirdFee read prices) start = .ok sums) {symbol : String}
    (absent : start.1.get? symbol = none) (unpaid : ∀ e ∈ entries, symbol ≠ e.1 ++ "USDT") :
    sums.1.get? symbol = none := by
  induction entries generalizing start with
  | nil =>
    cases success
    exact absent
  | cons e rest ih =>
    rw [List.foldlM_cons] at success
    obtain ⟨next, stepped, others⟩ := bind_ok success
    obtain ⟨price, -, stepped⟩ := bind_ok stepped
    cases stepped
    refine ih others ?_ fun e' member => unpaid e' (List.mem_cons_of_mem _ member)
    rw [Dict.get?_set_ne _ _ (unpaid e List.mem_cons_self)]
    exact absent

/-- What the accounting of an accepted order relies on. -/
structure Accepted (price : String → K) (symbol : String) (fill : Exact.Fill K) : Prop where
  executed : 0 < fill.executedQty
  average : fill.averagePrice = fill.quoteQty / fill.executedQty
  thirdFeeUsdt : fill.thirdFeeUsdt = fill.thirdFees.total price
  otherAssets : fill.thirdFees.get? symbol = none

/-- A parsed fill has a positive quantity and its third fees valued at their marks. -/
theorem parseFilledOrder_accepted [CharacterTable] {response : Value} {symbol side : String}
    {fill : Exact.Fill K}
    (success : Exact.parseFilledOrder read response symbol side prices = .ok fill) :
    Accepted (priceOf read prices) symbol fill := by
  unfold Exact.parseFilledOrder at success
  obtain ⟨order, -, success⟩ := bind_ok success
  obtain ⟨-, success⟩ := require_bind success
  obtain ⟨-, success⟩ := require_bind success
  obtain ⟨-, success⟩ := require_bind success
  obtain ⟨executedQty, executed, success⟩ := bind_ok success
  obtain ⟨quoteQty, -, success⟩ := bind_ok success
  obtain ⟨fills, -, success⟩ := bind_ok success
  obtain ⟨sums, -, success⟩ := bind_ok success
  obtain ⟨-, success⟩ := require_bind success
  obtain ⟨named, success⟩ := require_bind success
  obtain ⟨⟨thirdFees, thirdFeeUsdt⟩, thirds, success⟩ := bind_ok success
  cases success
  have suffixed : endsWithUSDT symbol = true := by
    by_contra other
    simp [other] at named
  rw [if_pos suffixed] at thirds
  refine ⟨(requiredNumber_ok executed).2.2 rfl, rfl, ?_, ?_⟩
  · exact addThirdFee_total thirds (Dict.items_nodup _) (fun _ _ => rfl) rfl
  · refine addThirdFee_keys thirds rfl fun e member same => ?_
    have base : e.1 = inferBaseAsset symbol := ((inferBaseAsset_eq_iff suffixed).mpr same).symm
    have held := (Dict.mem_items _ _ _).mp member
    rw [base, Dict.get?_erase, Dict.get?_erase] at held
    split at held
    next => cases held
    next =>
      rw [if_pos rfl] at held
      cases held

end Parse

/-! ## The balances -/

/-- The balance of a third fee after the fill, before the clamp. -/
def afterFee (balances : Dict String K) (fee : String × K) : K :=
  (balances.get? fee.1).getD 0 - fee.2

theorem thirdUpdates_ok {balances start updates : Dict String K} {fees : List (String × K)}
    (success : fees.foldlM (Exact.thirdUpdate balances) start = .ok updates)
    (nodup : (fees.map Prod.fst).Nodup) (fresh : ∀ fee ∈ fees, start.get? fee.1 = none) :
    updates.entries = start.entries ++ fees.map (fun fee => (fee.1, max 0 (afterFee balances fee)))
      ∧ ∀ fee ∈ fees, -Exact.clampBound ≤ afterFee balances fee := by
  induction fees generalizing start with
  | nil =>
    cases success
    exact ⟨by simp, by simp⟩
  | cons fee rest ih =>
    rw [List.foldlM_cons] at success
    obtain ⟨next, stepped, others⟩ := bind_ok success
    obtain ⟨held, found, stepped⟩ := bind_ok stepped
    obtain ⟨covered, stepped⟩ := require_bind stepped
    cases stepped
    have balance : balances.get? fee.1 = some held := by
      cases stored : balances.get? fee.1 with
      | none =>
        rw [stored] at found
        cases found
      | some quantity =>
        rw [stored] at found
        exact congrArg some (Except.ok.inj found)
    have own : afterFee balances fee = held - fee.2 := by rw [afterFee, balance, Option.getD_some]
    rw [List.map_cons, List.nodup_cons] at nodup
    obtain ⟨entries, bounds⟩ := ih others nodup.2 fun other member => by
      have apart : other.1 ≠ fee.1 := fun same => nodup.1 (same ▸ List.mem_map_of_mem member)
      rw [Dict.get?_set_ne _ _ apart]
      exact fresh other (List.mem_cons_of_mem _ member)
    constructor
    · rw [entries, Dict.entries_set_absent (fresh fee List.mem_cons_self), List.map_cons, own,
        List.append_assoc, List.singleton_append]
    · intro other member
      rcases List.mem_cons.mp member with rfl | later
      · rw [own]
        exact of_decide_eq_true covered
      · exact bounds other later

/-- The balances after a fill, of the traded symbol, of the third fees and of the others. -/
structure Applied (fill : Exact.Fill K) (side symbol : String) (balances after : Dict String K) : Prop where
  covered : -Exact.clampBound ≤ (balances.get? symbol).getD 0 + fill.baseDelta side
  fees : ∀ fee ∈ fill.thirdFees.items, -Exact.clampBound ≤ afterFee balances fee
  result : ∃ updates : Dict String K,
    updates.items = fill.thirdFees.items.map (fun fee => (fee.1, max 0 (afterFee balances fee)))
      ∧ after = (balances.set symbol
        (max 0 ((balances.get? symbol).getD 0 + fill.baseDelta side))).update updates

/-- The booked quote amount and the balances that a fill which applies leaves. -/
theorem applyFillBalances_ok {symbol side : String} {fill : Exact.Fill K} {uTotal : K}
    {balances after : Dict String K} {booked : K × K}
    (success : Exact.applyFillBalances fill side symbol uTotal balances = (.ok booked, after)) :
    booked = (uTotal + fill.quoteDelta side, fill.quoteDelta side)
      ∧ Applied fill side symbol balances after := by
  rw [Exact.applyFillBalances,
    Program.run_bind_ok (show Program.get balances = (.ok balances, balances) from rfl)] at success
  by_cases overdrawn : (balances.get? symbol).getD 0 + fill.baseDelta side < -Exact.clampBound
  · rw [if_pos overdrawn] at success
    cases success
  · rw [if_neg overdrawn] at success
    cases updated : fill.thirdFees.items.foldlM (Exact.thirdUpdate balances) .empty with
    | error raised =>
      rw [updated] at success
      cases success
    | ok updates =>
      rw [updated] at success
      cases success
      obtain ⟨entries, bounds⟩ := thirdUpdates_ok updated (Dict.items_nodup _) fun _ _ => rfl
      have entries : updates.entries
          = fill.thirdFees.items.map fun fee => (fee.1, max 0 (afterFee balances fee)) := entries
      have keys : updates.keyList = fill.thirdFees.items.map Prod.fst := by
        rw [Dict.keyList, entries, List.map_map]
        rfl
      have items : updates.items = updates.entries :=
        Dict.items_eq_entries (keys ▸ Dict.items_nodup fill.thirdFees)
      exact ⟨rfl, not_lt.mp overdrawn, bounds, updates, items.trans entries, rfl⟩

/-- Nothing is written before the last check. -/
theorem applyFillBalances_error {symbol side : String} {fill : Exact.Fill K} {uTotal : K}
    {balances after : Dict String K} {raised : PyException}
    (failed : Exact.applyFillBalances fill side symbol uTotal balances = (.error raised, after)) :
    after = balances := by
  rw [Exact.applyFillBalances,
    Program.run_bind_ok (show Program.get balances = (.ok balances, balances) from rfl)] at failed
  by_cases overdrawn : (balances.get? symbol).getD 0 + fill.baseDelta side < -Exact.clampBound
  · rw [if_pos overdrawn] at failed
    cases failed
    rfl
  · rw [if_neg overdrawn] at failed
    cases updated : fill.thirdFees.items.foldlM (Exact.thirdUpdate balances) .empty with
    | error other =>
      rw [updated] at failed
      cases failed
      rfl
    | ok updates =>
      rw [updated] at failed
      cases failed

section Applied
variable {fill : Exact.Fill K} {side symbol : String} {balances after : Dict String K}
  (applied : Applied fill side symbol balances after)
include applied

theorem Applied.other {other : String} (notSymbol : other ≠ symbol)
    (notFee : fill.thirdFees.get? other = none) : after.get? other = balances.get? other := by
  obtain ⟨updates, items, rfl⟩ := applied.result
  have absent : updates.get? other = none := by
    rw [← Option.not_isSome_iff_eq_none, ← Dict.mem_keys, Dict.keys, items, List.map_map]
    intro member
    obtain ⟨fee, charged, rfl⟩ := List.mem_map.mp member
    have none : fill.thirdFees.get? fee.1 = none := notFee
    rw [(Dict.mem_items _ _ _).mp charged] at none
    cases none
  rw [Dict.get?_update, absent, Option.none_or, Dict.get?_set_ne _ _ notSymbol]

theorem Applied.fee {feeSymbol : String} {qty : K} (charged : fill.thirdFees.get? feeSymbol = some qty) :
    after.get? feeSymbol = some (max 0 (afterFee balances (feeSymbol, qty))) := by
  obtain ⟨updates, items, rfl⟩ := applied.result
  have updated : updates.get? feeSymbol = some (max 0 (afterFee balances (feeSymbol, qty))) := by
    rw [← Dict.mem_items, items]
    exact List.mem_map.mpr ⟨(feeSymbol, qty), (Dict.mem_items _ _ _).mpr charged, rfl⟩
  rw [Dict.get?_update, updated, Option.some_or]

theorem Applied.traded (otherAssets : fill.thirdFees.get? symbol = none) :
    after.get? symbol = some (max 0 ((balances.get? symbol).getD 0 + fill.baseDelta side)) := by
  obtain ⟨updates, items, rfl⟩ := applied.result
  have absent : updates.get? symbol = none := by
    rw [← Option.not_isSome_iff_eq_none, ← Dict.mem_keys, Dict.keys, items, List.map_map]
    intro member
    obtain ⟨fee, charged, same⟩ := List.mem_map.mp member
    have here : fee.1 = symbol := same
    rw [← here, (Dict.mem_items _ _ _).mp charged] at otherAssets
    cases otherAssets
  rw [Dict.get?_update, absent, Option.none_or, Dict.get?_set_self]

end Applied

/-- What raising a quantity to zero adds. -/
def clamped (quantity : K) : K := max 0 quantity - quantity

/-- `u_total` and the value of the balances. -/
def worth (price : String → K) (account : K × Dict String K) : K :=
  account.1 + account.2.total price

/-- The gain on the executed quantity less every fee. -/
def gain (price : String → K) (fill : Exact.Fill K) (side symbol : String) : K :=
  (if side = "SELL" then -1 else 1) * (fill.executedQty * (price symbol - fill.averagePrice))
    - fill.baseFee * price symbol - fill.quoteFee - fill.thirdFeeUsdt

/-- Nothing but the touched balances changes, and the worth changes by the gain and by a
clamp of at most `1e-10` for each of them. -/
structure Conserves (price : String → K) (fill : Exact.Fill K) (side symbol : String)
    (before after : K × Dict String K) : Prop where
  frame : ∀ other, other ≠ symbol → fill.thirdFees.get? other = none →
    after.2.get? other = before.2.get? other
  value : ∃ clamp : String → K, (∀ k, 0 ≤ clamp k ∧ clamp k ≤ 1 / 10 ^ 10)
    ∧ worth price after = worth price before + gain price fill side symbol
      + clamp symbol * price symbol
      + (fill.thirdFees.items.map fun fee => clamp fee.1 * price fee.1).sum

variable [IsStrictOrderedRing K]

/-- A balance that passed the check is clamped by at most `1e-10`. -/
theorem clamped_bounds {quantity : K} (held : -Exact.clampBound ≤ quantity) :
    0 ≤ clamped quantity ∧ clamped quantity ≤ 1 / 10 ^ 10 := by
  rw [Exact.clampBound] at held
  have bound : (0 : K) < 1 / 10 ^ 10 := by positivity
  constructor
  · exact sub_nonneg.mpr (le_max_right _ _)
  · rw [clamped, sub_le_iff_le_add]
    exact max_le (by linarith) (by linarith)


/-- The clamp of each touched balance. -/
def clampOf (fill : Exact.Fill K) (side symbol : String) (balances : Dict String K) (k : String) : K :=
  if k = symbol then clamped ((balances.get? symbol).getD 0 + fill.baseDelta side)
  else (fill.thirdFees.get? k).elim 0 fun qty => clamped (afterFee balances (k, qty))

/-- A fill that was applied changes the worth by its gain less its fees, up to the clamps. -/
theorem applied_conserves {price : String → K} {symbol side : String} {fill : Exact.Fill K}
    (accepted : Accepted price symbol fill) {balances after : Dict String K} {uTotal : K}
    (applied : Applied fill side symbol balances after) :
    Conserves price fill side symbol (uTotal, balances) (uTotal + fill.quoteDelta side, after) := by
  have apart : ∀ fee ∈ fill.thirdFees.items, fee.1 ≠ symbol := by
    intro fee member same
    have charged := (Dict.mem_items _ _ _).mp member
    rw [same, accepted.otherAssets] at charged
    cases charged
  constructor
  · exact fun other notSymbol notFee => applied.other notSymbol notFee
  · refine ⟨clampOf fill side symbol balances, fun k => ?_, ?_⟩
    · unfold clampOf
      split
      · exact clamped_bounds applied.covered
      · cases charged : fill.thirdFees.get? k with
        | none => exact ⟨le_refl _, by positivity⟩
        | some qty => exact clamped_bounds (applied.fees (k, qty) ((Dict.mem_items _ _ _).mpr charged))
    · obtain ⟨updates, items, rfl⟩ := applied.result
      have thirds : (updates.items.map fun e => (e.2 - (((balances.set symbol
            (max 0 ((balances.get? symbol).getD 0 + fill.baseDelta side))).get? e.1).getD 0))
              * price e.1).sum
          = (fill.thirdFees.items.map fun fee => clampOf fill side symbol balances fee.1 * price fee.1).sum
            - fill.thirdFeeUsdt := by
        rw [items, List.map_map, accepted.thirdFeeUsdt, Dict.total, eq_sub_iff_add_eq,
          ← List.sum_map_add]
        refine congrArg List.sum (List.map_congr_left fun fee member => ?_)
        have charged := (Dict.mem_items _ _ _).mp member
        simp only [Function.comp_apply]
        rw [Dict.get?_set_ne _ _ (apart fee member), clampOf, if_neg (apart fee member), charged,
          Option.elim_some, clamped, afterFee]
        ring
      have average : fill.executedQty * fill.averagePrice = fill.quoteQty := by
        rw [accepted.average]
        have := accepted.executed.ne'
        field_simp
      rw [worth, worth, Dict.total_update, Dict.total_set, thirds, gain, clampOf, if_pos rfl, clamped,
        Exact.Fill.quoteDelta, ← average]
      dsimp only
      by_cases sells : side = "SELL"
      · simp only [Exact.Fill.baseDelta, if_pos sells]
        ring
      · simp only [Exact.Fill.baseDelta, if_neg sells]
        ring

/-- A fill that is applied conserves the worth; one that is refused changes nothing. -/
def Settles (price : String → K) (fill : Exact.Fill K) (side symbol : String)
    (before : K × Dict String K) : Except PyException (K × K) × Dict String K → Prop
  | (.error _, after) => after = before.2
  | (.ok (total, _), after) => Conserves price fill side symbol before (total, after)

/-- For every order that the parser accepts and all balances, a fill that is applied
conserves the worth up to its gain and the clamps, and one that is refused changes nothing. -/
theorem fill_conserves [CharacterTable] {read : Value → Option K} {prices : Document}
    {response : Value} {symbol side : String} {fill : Exact.Fill K}
    (parsed : Exact.parseFilledOrder read response symbol side prices = .ok fill)
    (balances : Dict String K) (uTotal : K) :
    Settles (priceOf read prices) fill side symbol (uTotal, balances)
      (Exact.applyFillBalances fill side symbol uTotal balances) := by
  cases ran : Exact.applyFillBalances fill side symbol uTotal balances with
  | mk outcome after =>
    cases outcome with
    | error raised => exact applyFillBalances_error ran
    | ok booked =>
      obtain ⟨rfl, applied⟩ := applyFillBalances_ok ran
      exact applied_conserves (parseFilledOrder_accepted parsed) applied

/-! ## A buy with a fee in BNB -/

section Example
local instance : CharacterTable := asciiTable

def etherBuy : Value := .dict ⟨[("status", .str "FILLED"), ("executedQty", .str "2"),
  ("cummulativeQuoteQty", .str "198"), ("fills", .list [.dict ⟨[("price", .str "99"), ("qty", .str "2"),
    ("commission", .str "0.5"), ("commissionAsset", .str "BNB")]⟩])]⟩

def etherPrices : Document := ⟨[("ETHUSDT", .float (.finite false 100)), ("BNBUSDT", .float (.finite false 8))]⟩

def etherFill : Exact.Fill ℚ := ⟨2, 198, 99, "ETH", 0, 0, ⟨[("BNBUSDT", 1 / 2)]⟩, 4⟩

def etherBalances : Dict String ℚ := ⟨[("ETHUSDT", 1), ("BNBUSDT", 3)]⟩

/-- The balances after the buy. -/
def etherBought : Dict String ℚ := ⟨[("ETHUSDT", 3), ("BNBUSDT", 5 / 2)]⟩

/-- The fill is applied: 198 USDT are paid, two ethers come in and half a BNB goes out. -/
theorem fill_conserves_ether :
    Exact.applyFillBalances etherFill "BUY" "ETHUSDT" 500 etherBalances = (.ok (302, -198), etherBought)
      ∧ Conserves (priceOf Exact.floatValue etherPrices) etherFill "BUY" "ETHUSDT" (500, etherBalances)
        (302, etherBought) := by
  have parsed : Exact.parseFilledOrder Exact.floatValue etherBuy "ETHUSDT" "BUY" etherPrices
      = .ok etherFill := by decide +kernel
  have applied : Exact.applyFillBalances etherFill "BUY" "ETHUSDT" 500 etherBalances
      = (.ok (302, -198), etherBought) := by decide +kernel
  have settles := fill_conserves parsed etherBalances 500
  rw [applied] at settles
  exact ⟨applied, settles⟩

end Example

end BinancePlatform.Guarantees.FillConservation
