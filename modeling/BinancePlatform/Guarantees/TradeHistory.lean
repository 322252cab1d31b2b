import BinancePlatform.Source.RecentTrades
import BinancePlatform.Library.Tiling

/-!
# The bounded trade history

`_collect_bounded_recent_trades` walks a time range in windows of at most a day. The windows do not
depend on the answers, so what is asked of the service is known before it answers.

* The windows tile the range, whatever its length (`tradeWindows_tile`, `mem_tradeWindows`).
* A call against any client requests a first part of these windows, all of them when it
  returns (`walkTrades_requests`, `walkTrades_partitions`).
* With a service that answers every window from one log, a result holds every trade of the
  range exactly once, and two records of one id that differ are never both in it
  (`holdsOnce_of_reflects`, `HoldsOnce.uncontradicted`).
* With short windows, rows that can be read and no two that contradict each other, the call
  returns (`walkTrades_run`); `bounded_history_partitions` puts these together.

A client may answer any window with any value or raise; only the last two speak of a
faithful one.
-/

set_option autoImplicit false

namespace BinancePlatform.Guarantees.TradeHistory
open BinancePlatform.Library BinancePlatform.Source

/-! ## Equal records -/

/-- Where a float stands among those it can be equal to. -/
def point : PyFloat → Option (Bool ⊕ ℚ)
  | .nan => none
  | .infinite negative => some (.inl negative)
  | .finite negative magnitude => some (.inr (if negative then -(magnitude : ℚ) else magnitude))

theorem equalsFloat_iff (x y : PyFloat) :
    equalsFloat x (.float y) = true ↔ ∃ p, point x = some p ∧ point y = some p := by
  cases x <;> cases y <;> simp [equalsFloat, equalsNumber, point, eq_comm]

theorem equalsFloat_shared {x y z : PyFloat} (first : equalsFloat x (.float y) = true)
    (second : equalsFloat x (.float z) = true) : equalsFloat y (.float z) = true := by
  obtain ⟨p, atX, atY⟩ := (equalsFloat_iff x y).mp first
  obtain ⟨q, atX', atZ⟩ := (equalsFloat_iff x z).mp second
  obtain rfl : p = q := Option.some.inj (atX.symm.trans atX')
  exact (equalsFloat_iff y z).mpr ⟨p, atY, atZ⟩

theorem equalsFloat_finite {x : PyFloat} (finite : x.isFinite = true) :
    equalsFloat x (.float x) = true := by
  cases x with
  | finite negative magnitude => exact (equalsFloat_iff _ _).mpr ⟨_, rfl, rfl⟩
  | _ => cases finite

theorem same_iff (a b : RecentTrade) : a.same b = true ↔
    (a.tradeId = b.tradeId ∧ a.orderId = b.orderId ∧ a.symbol = b.symbol
      ∧ a.commissionAsset = b.commissionAsset ∧ a.time = b.time ∧ a.isBuyer = b.isBuyer)
    ∧ equalsFloat a.qty (.float b.qty) = true ∧ equalsFloat a.price (.float b.price) = true
    ∧ equalsFloat a.commission (.float b.commission) = true := by
  simp only [RecentTrade.same, Bool.and_eq_true, decide_eq_true_eq]
  tauto

/-- Two records equal to a third are equal. -/
theorem same_shared {a b c : RecentTrade} (first : a.same b = true) (second : a.same c = true) :
    b.same c = true := by
  rw [same_iff] at first second ⊢
  obtain ⟨⟨id, order, symbol, asset, time, buyer⟩, qty, price, commission⟩ := first
  obtain ⟨⟨id', order', symbol', asset', time', buyer'⟩, qty', price', commission'⟩ := second
  exact ⟨⟨id.symm.trans id', order.symm.trans order', symbol.symm.trans symbol',
    asset.symm.trans asset', time.symm.trans time', buyer.symm.trans buyer'⟩,
    equalsFloat_shared qty qty', equalsFloat_shared price price',
    equalsFloat_shared commission commission'⟩

theorem finiteNumber_ok {fieldName : String} {value : Value} {x : PyFloat}
    (success : RecentTrade.finiteNumber fieldName value = .ok x) : x.isFinite = true := by
  unfold RecentTrade.finiteNumber at success
  split at success
  case h_1 parsed _ =>
    obtain ⟨finite, success⟩ := require_bind success
    cases success
    exact finite
  case h_2 raised _ => split at success <;> cases success

/-! ## The windows -/

/-- The windows of a walk that nothing stops. -/
def tradeWindows (endMs windowStartMs : ℤ) : List (ℤ × ℤ) :=
  if windowStartMs ≤ endMs then
    let window := tradeWindow endMs windowStartMs
    window :: tradeWindows endMs (window.2 + 1)
  else []
termination_by (endMs + 1 - windowStartMs).toNat
decreasing_by simp only [tradeWindow, maxMyTradesWindowMs]; omega

/-- Windows as half-open pieces between milliseconds. -/
abbrev TileMs : ℤ → List (ℤ × ℤ) → ℤ → Prop := Tiles (fun w : ℤ × ℤ => w.1) fun w => w.2 + 1

theorem tradeWindow_spec {endMs start : ℤ} (inside : start ≤ endMs) :
    (tradeWindow endMs start).1 = start ∧ start ≤ (tradeWindow endMs start).2
      ∧ (tradeWindow endMs start).2 ≤ endMs
      ∧ (tradeWindow endMs start).2 - start ≤ maxMyTradesWindowMs := by
  refine ⟨rfl, ?_⟩
  simp only [tradeWindow, maxMyTradesWindowMs]
  omega

/-- The windows tile the range. -/
theorem tradeWindows_tile {endMs start : ℤ} (inside : start ≤ endMs + 1) :
    TileMs start (tradeWindows endMs start) (endMs + 1) := by
  induction start using tradeWindows.induct endMs with
  | case1 start below window ih =>
    rw [tradeWindows, if_pos below]
    have spec := tradeWindow_spec below
    refine ⟨spec.1, ?_, ih ?_⟩
    · dsimp only
      omega
    · simp only [window]
      omega
  | case2 start above =>
    rw [tradeWindows, if_neg above]
    exact (by omega : start = endMs + 1)

theorem tradeWindows_short {endMs start : ℤ} :
    ∀ w ∈ tradeWindows endMs start, w.1 ≤ w.2 ∧ w.2 - w.1 ≤ maxMyTradesWindowMs := by
  induction start using tradeWindows.induct endMs with
  | case1 start below window ih =>
    rw [tradeWindows, if_pos below]
    intro w member
    rcases List.mem_cons.mp member with rfl | later
    · have spec := tradeWindow_spec below
      omega
    · exact ih w later
  | case2 start above =>
    rw [tradeWindows, if_neg above]
    simp

/-- The windows cover the milliseconds of the range. -/
theorem mem_tradeWindows {endMs startMs : ℤ} (order : startMs ≤ endMs) (t : ℤ) :
    (∃ w ∈ tradeWindows endMs startMs, w.1 ≤ t ∧ t ≤ w.2) ↔ startMs ≤ t ∧ t ≤ endMs := by
  have covered := (@tradeWindows_tile endMs startMs (by omega)).covers_iff t
  simpa only [Covers, Int.lt_add_one_iff] using covered

theorem filter_of_unique {α β : Type} [DecidableEq β] {f : α → β} {xs : List α} {x : α}
    (distinct : (xs.map f).Nodup) (member : x ∈ xs) : xs.filter (fun y => f y = f x) = [x] := by
  induction xs with
  | nil => cases member
  | cons first rest ih =>
    rw [List.map_cons, List.nodup_cons] at distinct
    obtain ⟨fresh, others⟩ := distinct
    rcases List.mem_cons.mp member with rfl | later
    · rw [List.filter_cons_of_pos (by simp), List.filter_eq_nil_iff.mpr]
      intro y inRest same
      exact fresh (List.mem_map.mpr ⟨y, inRest, by simpa using same⟩)
    · rw [List.filter_cons_of_neg, ih others later]
      simp only [decide_eq_true_eq]
      intro same
      exact fresh (List.mem_map.mpr ⟨x, later, same.symm⟩)

/-! ## A faithful service -/

/-- A trade of the symbol as the service has it. -/
structure LoggedTrade (symbol : String) where
  row : Document
  time : ℤ
  ofSymbol : pyGet row "symbol" = .str symbol
  atTime : pyGet row "time" = .int time

section Log
variable {symbol : String}

/-- The rows of the trades between two inclusive milliseconds. -/
def rowsWithin (log : List (LoggedTrade symbol)) (window : ℤ × ℤ) : List Document :=
  (log.filter fun trade => window.1 ≤ trade.time && trade.time ≤ window.2).map (·.row)

/-- A window of at most a day is answered with its trades in some order, or with a full
page of them. -/
def ServesTrades (client : TradeClient) (log : List (LoggedTrade symbol)) : Prop :=
  ∀ window : ℤ × ℤ, window.1 ≤ window.2 → window.2 - window.1 ≤ maxMyTradesWindowMs →
    ∃ rows, client symbol window.1 window.2 = .ok (.list (rows.map .dict))
      ∧ if (rowsWithin log window).length < maxMyTradesPageSize then rows.Perm (rowsWithin log window)
        else rows.length = maxMyTradesPageSize ∧ rows ⊆ rowsWithin log window

theorem mem_rowsWithin {log : List (LoggedTrade symbol)} {window : ℤ × ℤ} {row : Document} :
    row ∈ rowsWithin log window
      ↔ ∃ trade ∈ log, trade.row = row ∧ window.1 ≤ trade.time ∧ trade.time ≤ window.2 := by
  simp [rowsWithin]
  tauto

/-- A service that answers from its log. -/
def answerFrom (log : List (LoggedTrade symbol)) : TradeClient := fun _ startTime endTime =>
  .ok (.list (((rowsWithin log (startTime, endTime)).take maxMyTradesPageSize).map .dict))

theorem answerFrom_serves (log : List (LoggedTrade symbol)) : ServesTrades (answerFrom log) log := by
  intro window _ _
  refine ⟨_, rfl, ?_⟩
  split
  case isTrue few => rw [List.take_of_length_le few.le]
  case isFalse many =>
    exact ⟨List.length_take_of_le (not_lt.mp many), List.take_subset _ _⟩

end Log

section Records
variable [CharacterTable]

theorem normalizeTrade_ok {raw : Document} {trade : RecentTrade}
    (success : normalizeTrade raw = .ok trade) :
    trade.symbol = upperText (trimmedText (pyGet raw "symbol")) ∧ trade.same trade = true := by
  unfold normalizeTrade at success
  obtain ⟨-, success⟩ := require_bind success
  obtain ⟨qty, readQty, success⟩ := bind_ok success
  obtain ⟨price, readPrice, success⟩ := bind_ok success
  obtain ⟨commission, readCommission, success⟩ := bind_ok success
  obtain ⟨isBuyer, -, success⟩ := bind_ok success
  cases success
  exact ⟨rfl, (same_iff _ _).mpr ⟨⟨rfl, rfl, rfl, rfl, rfl, rfl⟩,
    equalsFloat_finite (finiteNumber_ok readQty), equalsFloat_finite (finiteNumber_ok readPrice),
    equalsFloat_finite (finiteNumber_ok readCommission)⟩⟩

/-- Two records of one id, of any two windows, differ. -/
def Contradicted (rows : List Document) : Prop :=
  ∃ row ∈ rows, ∃ other ∈ rows, ∃ trade contradicted, normalizeTrade row = .ok trade
    ∧ normalizeTrade other = .ok contradicted ∧ trade.tradeId = contradicted.tradeId
    ∧ trade.same contradicted = false

/-! ## The table of the rows read -/

/-- The table holds one record for every row read, and nothing else. -/
structure Reflects (known : TradeTable) (rows : List Document) : Prop where
  kept : ∀ row ∈ rows, ∃ trade stored, normalizeTrade row = .ok trade
    ∧ known.get? trade.key = some stored ∧ stored.same trade = true
  read : ∀ key stored, known.get? key = some stored → key = stored.key
    ∧ ∃ row ∈ rows, normalizeTrade row = .ok stored

theorem keepTrade_reflects {known next : TradeTable} {rows : List Document} {row : Document}
    (reflects : Reflects known rows) (success : keepTrade known row = .ok next) :
    Reflects next (rows ++ [row]) := by
  unfold keepTrade at success
  obtain ⟨normalized, shown, success⟩ := bind_ok success
  obtain ⟨agrees, success⟩ := require_bind success
  cases success
  have agrees : ∀ existing, known.get? normalized.key = some existing → existing.same normalized = true := by
    intro existing found
    simpa [found] using agrees
  have self := (normalizeTrade_ok shown).2
  refine ⟨fun old member => ?_, fun key stored found => ?_⟩
  · rcases List.mem_append.mp member with before | isRow
    · obtain ⟨trade, stored, readOld, found, equal⟩ := reflects.kept old before
      by_cases replaced : trade.key = normalized.key
      · rw [replaced] at found
        refine ⟨trade, normalized, readOld, ?_, same_shared (agrees stored found) equal⟩
        rw [Dict.get?_set, if_pos replaced]
      · refine ⟨trade, stored, readOld, ?_, equal⟩
        rw [Dict.get?_set_ne known normalized replaced, found]
    · obtain rfl := List.mem_singleton.mp isRow
      refine ⟨normalized, normalized, shown, ?_, self⟩
      rw [Dict.get?_set, if_pos rfl]
  · rw [Dict.get?_set] at found
    split at found
    case isTrue isKey =>
      cases found
      exact ⟨isKey, row, List.mem_append_right _ List.mem_cons_self, shown⟩
    case isFalse other =>
      obtain ⟨isKey, old, before, readOld⟩ := reflects.read key stored found
      exact ⟨isKey, old, List.mem_append_left _ before, readOld⟩

theorem keepTrades_reflect {known final : TradeTable} {before rows : List Document}
    (reflects : Reflects known before) (success : rows.foldlM keepTrade known = .ok final) :
    Reflects final (before ++ rows) := by
  induction rows generalizing known before with
  | nil =>
    cases success
    simpa using reflects
  | cons row rest ih =>
    rw [List.foldlM_cons] at success
    obtain ⟨next, kept, success⟩ := bind_ok success
    simpa using ih (keepTrade_reflects reflects kept) success

theorem Reflects.readable {known : TradeTable} {rows : List Document} (reflects : Reflects known rows) :
    ∀ row ∈ rows, ∃ trade, normalizeTrade row = .ok trade := by
  intro row member
  obtain ⟨trade, -, read, -⟩ := reflects.kept row member
  exact ⟨trade, read⟩

/-- A readable row is kept beside rows that it does not contradict. -/
theorem keepTrade_run {known : TradeTable} {before whole : List Document} {row : Document}
    (reflects : Reflects known before) (among : before ⊆ whole) (member : row ∈ whole)
    (readable : ∃ trade, normalizeTrade row = .ok trade) (agree : ¬Contradicted whole) :
    ∃ next, keepTrade known row = .ok next := by
  obtain ⟨trade, read⟩ := readable
  have agrees : (!(known.get? trade.key).any fun existing => !existing.same trade) = true := by
    cases found : known.get? trade.key with
    | none => rfl
    | some stored =>
      obtain ⟨isKey, old, inBefore, readOld⟩ := reflects.read trade.key stored found
      cases same : stored.same trade with
      | true => simp [same]
      | false =>
        refine absurd ⟨old, among inBefore, row, member, stored, trade, readOld, read, ?_, same⟩ agree
        exact (congrArg Prod.snd isKey).symm
  refine ⟨known.set trade.key trade, ?_⟩
  rw [keepTrade, read]
  change (require _ _ >>= fun _ => _) = _
  rw [agrees]
  rfl

theorem keepTrades_run {known : TradeTable} {before rows whole : List Document}
    (reflects : Reflects known before) (among : before ++ rows ⊆ whole)
    (readable : ∀ row ∈ whole, ∃ trade, normalizeTrade row = .ok trade) (agree : ¬Contradicted whole) :
    ∃ final, rows.foldlM keepTrade known = .ok final := by
  induction rows generalizing known before with
  | nil => exact ⟨known, rfl⟩
  | cons row rest ih =>
    have member : row ∈ whole := among (by simp)
    obtain ⟨next, kept⟩ := keepTrade_run reflects (List.append_subset.mp among).1 member
      (readable row member) agree
    obtain ⟨final, folded⟩ := ih (keepTrade_reflects reflects kept) (by simpa using among)
    exact ⟨final, by rw [List.foldlM_cons, kept]; exact folded⟩

/-! ## The walk -/

/-- A walk asks for the first windows, in order, and for all of them if it returns. -/
theorem walkTrades_requests (client : TradeClient) (symbol : String) (endMs start : ℤ)
    (known : TradeTable) :
    (walkTrades client symbol endMs start known).1 <+: tradeWindows endMs start
      ∧ ∀ final, (walkTrades client symbol endMs start known).2 = .ok final →
        (walkTrades client symbol endMs start known).1 = tradeWindows endMs start := by
  induction start, known using walkTrades.induct client symbol endMs with
  | case1 start known below window raised failed =>
    rw [walkTrades, if_pos below, tradeWindows, if_pos below]
    simp only [window] at failed
    simp only [failed]
    exact ⟨List.cons_prefix_cons.mpr ⟨rfl, List.nil_prefix⟩, fun final success => by cases success⟩
  | case2 start known below window next read ih =>
    rw [walkTrades, if_pos below, tradeWindows, if_pos below]
    simp only [window] at read
    simp only [read]
    exact ⟨List.cons_prefix_cons.mpr ⟨rfl, ih.1⟩, fun final success => congrArg _ (ih.2 final success)⟩
  | case3 start known above =>
    rw [walkTrades, if_neg above, tradeWindows, if_neg above]
    exact ⟨List.nil_prefix, fun _ _ => rfl⟩

theorem walkTrades_outcome (client : TradeClient) (symbol : String) (endMs start : ℤ)
    (known : TradeTable) : (walkTrades client symbol endMs start known).2
      = (tradeWindows endMs start).foldlM (readTradeWindow client symbol) known := by
  induction start, known using walkTrades.induct client symbol endMs with
  | case1 start known below window raised failed =>
    rw [walkTrades, if_pos below, tradeWindows, if_pos below]
    simp only [window] at failed
    simp only [failed, List.foldlM_cons]
    rfl
  | case2 start known below window next read ih =>
    rw [walkTrades, if_pos below, tradeWindows, if_pos below]
    simp only [window] at read
    simp only [read, List.foldlM_cons]
    exact ih
  | case3 start known above =>
    rw [walkTrades, if_neg above, tradeWindows, if_neg above]
    rfl

/-! ## Reading every window -/

variable {symbol : String}

omit [CharacterTable] in
theorem tradeRows_dicts (rows : List Document) : tradeRows (.list (rows.map .dict)) = .ok rows := by
  rw [tradeRows]
  induction rows with
  | nil => rfl
  | cons row rest ih =>
    rw [List.map_cons, List.mapM_cons, ih]
    rfl

section Served
variable {client : TradeClient} {log : List (LoggedTrade symbol)} (serves : ServesTrades client log)

include serves

/-- A window that is read had fewer trades than a page, and all of them are kept. -/
theorem readTradeWindow_ok {known next : TradeTable} {before : List Document} {window : ℤ × ℤ}
    (order : window.1 ≤ window.2) (short : window.2 - window.1 ≤ maxMyTradesWindowMs)
    (reflects : Reflects known before)
    (success : readTradeWindow client symbol known window = .ok next) :
    (rowsWithin log window).length < maxMyTradesPageSize
      ∧ ∃ rows, rows.Perm (rowsWithin log window) ∧ Reflects next (before ++ rows) := by
  obtain ⟨rows, answered, served⟩ := serves window order short
  rw [readTradeWindow, answered] at success
  obtain ⟨read, isRows, success⟩ := bind_ok success
  rw [tradeRows_dicts] at isRows
  cases isRows
  obtain ⟨below, success⟩ := require_bind success
  rw [decide_eq_true_eq] at below
  split at served
  case isTrue few => exact ⟨few, rows, served, keepTrades_reflect reflects success⟩
  case isFalse => exact absurd served.1 below.ne

theorem readTradeWindows_ok {windows : List (ℤ × ℤ)} {known final : TradeTable} {before : List Document}
    (each : ∀ w ∈ windows, w.1 ≤ w.2 ∧ w.2 - w.1 ≤ maxMyTradesWindowMs)
    (reflects : Reflects known before)
    (success : windows.foldlM (readTradeWindow client symbol) known = .ok final) :
    (∀ w ∈ windows, (rowsWithin log w).length < maxMyTradesPageSize)
      ∧ ∃ rows, (∀ row, row ∈ rows ↔ row ∈ before ∨ ∃ w ∈ windows, row ∈ rowsWithin log w)
        ∧ Reflects final rows := by
  induction windows generalizing known before with
  | nil =>
    cases success
    exact ⟨by simp, before, by simp, reflects⟩
  | cons w rest ih =>
    rw [List.foldlM_cons] at success
    obtain ⟨next, read, success⟩ := bind_ok success
    obtain ⟨order, short⟩ := each w List.mem_cons_self
    obtain ⟨few, own, perm, reflected⟩ := readTradeWindow_ok serves order short reflects read
    obtain ⟨others, rows, members, all⟩ :=
      ih (fun v member => each v (List.mem_cons_of_mem w member)) reflected success
    refine ⟨List.forall_mem_cons.mpr ⟨few, others⟩, rows, fun row => ?_, all⟩
    rw [members, List.mem_append, perm.mem_iff, List.exists_mem_cons_iff, or_assoc]

/-- A walk that returns has read exactly the trades of the range. -/
theorem walkTrades_ok {startMs endMs : ℤ} (order : startMs ≤ endMs) {final : TradeTable}
    (success : (walkTrades client symbol endMs startMs .empty).2 = .ok final) :
    (∀ w ∈ tradeWindows endMs startMs, (rowsWithin log w).length < maxMyTradesPageSize)
      ∧ Reflects final (rowsWithin log (startMs, endMs)) := by
  rw [walkTrades_outcome] at success
  have nothing : Reflects .empty [] := ⟨by simp, by simp⟩
  obtain ⟨few, rows, members, reflects⟩ :=
    readTradeWindows_ok serves tradeWindows_short nothing success
  have inRange : ∀ row, row ∈ rows ↔ row ∈ rowsWithin log (startMs, endMs) := by
    intro row
    rw [members, mem_rowsWithin]
    constructor
    · rintro (none | ⟨w, member, inWindow⟩)
      · cases none
      · obtain ⟨trade, logged, isRow, low, high⟩ := mem_rowsWithin.mp inWindow
        exact ⟨trade, logged, isRow, (mem_tradeWindows order trade.time).mp ⟨w, member, low, high⟩⟩
    · rintro ⟨trade, logged, isRow, inside⟩
      obtain ⟨w, member, within⟩ := (mem_tradeWindows order trade.time).mpr inside
      exact .inr ⟨w, member, mem_rowsWithin.mpr ⟨trade, logged, isRow, within⟩⟩
  refine ⟨few, fun row member => reflects.kept row ((inRange row).mpr member), fun key stored found => ?_⟩
  obtain ⟨isKey, row, member, read⟩ := reflects.read key stored found
  exact ⟨isKey, row, (inRange row).mp member, read⟩

/-- A window shorter than a page is read, if its rows agree with those read before. -/
theorem readTradeWindow_run {known : TradeTable} {before whole : List Document} {window : ℤ × ℤ}
    (order : window.1 ≤ window.2) (short : window.2 - window.1 ≤ maxMyTradesWindowMs)
    (reflects : Reflects known before) (few : (rowsWithin log window).length < maxMyTradesPageSize)
    (among : before ++ rowsWithin log window ⊆ whole)
    (readable : ∀ row ∈ whole, ∃ trade, normalizeTrade row = .ok trade) (agree : ¬Contradicted whole) :
    ∃ next, readTradeWindow client symbol known window = .ok next := by
  obtain ⟨rows, answered, served⟩ := serves window order short
  rw [if_pos few] at served
  have inWhole : before ++ rows ⊆ whole := fun row member => among <| by
    rwa [List.mem_append, ← served.mem_iff, ← List.mem_append]
  obtain ⟨next, kept⟩ := keepTrades_run reflects inWhole readable agree
  refine ⟨next, ?_⟩
  have below : decide (rows.length < maxMyTradesPageSize) = true := by
    rw [served.length_eq]
    exact decide_eq_true few
  rw [readTradeWindow, answered]
  dsimp only
  rw [tradeRows_dicts]
  change (require _ _ >>= fun _ => _) = _
  rw [below]
  exact kept

theorem readTradeWindows_run {windows : List (ℤ × ℤ)} {known : TradeTable} {before whole : List Document}
    (each : ∀ w ∈ windows, w.1 ≤ w.2 ∧ w.2 - w.1 ≤ maxMyTradesWindowMs)
    (few : ∀ w ∈ windows, (rowsWithin log w).length < maxMyTradesPageSize)
    (reflects : Reflects known before) (among : before ⊆ whole)
    (within : ∀ w ∈ windows, rowsWithin log w ⊆ whole)
    (readable : ∀ row ∈ whole, ∃ trade, normalizeTrade row = .ok trade) (agree : ¬Contradicted whole) :
    ∃ final, windows.foldlM (readTradeWindow client symbol) known = .ok final := by
  induction windows generalizing known before with
  | nil => exact ⟨known, rfl⟩
  | cons w rest ih =>
    obtain ⟨order, short⟩ := each w List.mem_cons_self
    obtain ⟨inWindow, later⟩ := List.forall_mem_cons.mp within
    obtain ⟨next, read⟩ := readTradeWindow_run serves order short reflects (few w List.mem_cons_self)
      (List.append_subset.mpr ⟨among, inWindow⟩) readable agree
    obtain ⟨-, rows, perm, reflected⟩ := readTradeWindow_ok serves order short reflects read
    obtain ⟨final, folded⟩ := ih (fun v member => each v (List.mem_cons_of_mem w member))
      (fun v member => few v (List.mem_cons_of_mem w member)) reflected
      (List.append_subset.mpr ⟨among, fun row member => inWindow (perm.mem_iff.mp member)⟩) later
    exact ⟨final, by rw [List.foldlM_cons, read]; exact folded⟩

/-- A walk over short windows of readable trades that agree returns. -/
theorem walkTrades_run {startMs endMs : ℤ} (order : startMs ≤ endMs)
    (few : ∀ w ∈ tradeWindows endMs startMs, (rowsWithin log w).length < maxMyTradesPageSize)
    (readable : ∀ row ∈ rowsWithin log (startMs, endMs), ∃ trade, normalizeTrade row = .ok trade)
    (agree : ¬Contradicted (rowsWithin log (startMs, endMs))) :
    ∃ final, (walkTrades client symbol endMs startMs .empty).2 = .ok final := by
  rw [walkTrades_outcome]
  have nothing : Reflects .empty [] := ⟨by simp, by simp⟩
  refine readTradeWindows_run serves tradeWindows_short few nothing (List.nil_subset _) ?_ readable agree
  intro w planned row member
  obtain ⟨trade, logged, isRow, low, high⟩ := mem_rowsWithin.mp member
  exact mem_rowsWithin.mpr ⟨trade, logged, isRow, (mem_tradeWindows order trade.time).mp ⟨w, planned, low, high⟩⟩

end Served

/-! ## The history is a partition -/

/-- Every trade of the rows stands in the result exactly once. -/
structure HoldsOnce (result : List RecentTrade) (rows : List Document) : Prop where
  once : ∀ row ∈ rows, ∃ trade stored, normalizeTrade row = .ok trade ∧ stored.same trade = true
    ∧ result.filter (fun other => other.tradeId = trade.tradeId) = [stored]
  only : ∀ stored ∈ result, ∃ row ∈ rows, normalizeTrade row = .ok stored

/-- The table of the rows read holds every one of them once. -/
theorem holdsOnce_of_reflects {known : TradeTable} {log : List (LoggedTrade symbol)} {window : ℤ × ℤ}
    (reflects : Reflects known (rowsWithin log window)) :
    HoldsOnce (known.items.map Prod.snd) (rowsWithin log window) := by
  -- every record has the symbol of the log, so its id is as good as its key
  have symbolOf : ∀ row ∈ rowsWithin log window, ∀ trade, normalizeTrade row = .ok trade →
      trade.symbol = upperText (trimmedText (.str symbol)) := by
    intro row member trade read
    obtain ⟨logged, -, rfl, -⟩ := mem_rowsWithin.mp member
    rw [(normalizeTrade_ok read).1, logged.ofSymbol]
  have entries : ∀ entry ∈ known.items, entry.1 = entry.2.key
      ∧ entry.2.symbol = upperText (trimmedText (.str symbol)) := by
    intro entry member
    obtain ⟨isKey, row, inRows, read⟩ := reflects.read entry.1 entry.2 ((Dict.mem_items _ _ _).mp member)
    exact ⟨isKey, symbolOf row inRows _ read⟩
  have ids : (known.items.map Prod.snd).map RecentTrade.tradeId = known.keys.map Prod.snd := by
    rw [Dict.keys, List.map_map, List.map_map]
    refine List.map_congr_left fun entry member => ?_
    rw [Function.comp_apply, Function.comp_apply, (entries entry member).1]
    rfl
  have distinct : ((known.items.map Prod.snd).map RecentTrade.tradeId).Nodup := by
    rw [ids]
    refine known.keys_nodup.map_on fun k isK l isL same => ?_
    obtain ⟨first, inFirst, rfl⟩ := List.mem_map.mp isK
    obtain ⟨second, inSecond, rfl⟩ := List.mem_map.mp isL
    refine Prod.ext ?_ same
    rw [(entries first inFirst).1, (entries second inSecond).1]
    exact (entries first inFirst).2.trans (entries second inSecond).2.symm
  refine ⟨fun row member => ?_, fun stored member => ?_⟩
  · obtain ⟨trade, stored, read, found, equal⟩ := reflects.kept row member
    have inItems : stored ∈ known.items.map Prod.snd :=
      List.mem_map.mpr ⟨(trade.key, stored), (Dict.mem_items _ _ _).mpr found, rfl⟩
    refine ⟨trade, stored, read, equal, ?_⟩
    rw [← ((same_iff _ _).mp equal).1.1]
    exact filter_of_unique distinct inItems
  · obtain ⟨entry, inItems, rfl⟩ := List.mem_map.mp member
    exact (reflects.read entry.1 entry.2 ((Dict.mem_items _ _ _).mp inItems)).2

/-- Two records of one id that differ are not both held. -/
theorem HoldsOnce.uncontradicted {result : List RecentTrade} {rows : List Document}
    (holds : HoldsOnce result rows) : ¬Contradicted rows := by
  rintro ⟨row, member, other, alsoMember, trade, contradicted, read, readOther, sameId, differ⟩
  obtain ⟨trade', stored, isTrade, equal, alone⟩ := holds.once row member
  obtain ⟨other', stored', isOther, equal', alone'⟩ := holds.once other alsoMember
  obtain rfl : trade = trade' := Except.ok.inj (read.symm.trans isTrade)
  obtain rfl : contradicted = other' := Except.ok.inj (readOther.symm.trans isOther)
  rw [sameId, alone'] at alone
  cases alone
  rw [same_shared equal equal'] at differ
  cases differ

/-- Two windows share no millisecond. -/
def ApartMs (v w : ℤ × ℤ) : Prop := v.2 < w.1 ∨ w.2 < v.1

/-- Short windows, apart from each other, that together are the milliseconds from `startMs`
to `through`. -/
structure Partitions (windows : List (ℤ × ℤ)) (startMs through : ℤ) : Prop where
  short : ∀ w ∈ windows, w.1 ≤ w.2 ∧ w.2 - w.1 ≤ 24 * 60 * 60 * 1000
  apart : windows.Pairwise ApartMs
  covers : ∀ t, (∃ w ∈ windows, w.1 ≤ t ∧ t ≤ w.2) ↔ startMs ≤ t ∧ t ≤ through

/-- What a walk requests before it returns or raises. -/
theorem walkTrades_partitions (client : TradeClient) (symbol : String) {startMs endMs : ℤ}
    (order : startMs ≤ endMs) (known : TradeTable) : ∃ through, startMs ≤ through ∧ through ≤ endMs
      ∧ Partitions (walkTrades client symbol endMs startMs known).1 startMs through
      ∧ ∀ final, (walkTrades client symbol endMs startMs known).2 = .ok final → through = endMs := by
  have requests := walkTrades_requests client symbol endMs startMs known
  have whole := @tradeWindows_tile endMs startMs (by omega)
  obtain ⟨reached, tiles, below⟩ := whole.initial requests.1
  have asked : (walkTrades client symbol endMs startMs known).1 ≠ [] := by
    rw [walkTrades, if_pos order]
    dsimp only
    split <;> exact List.cons_ne_nil _ _
  obtain ⟨w, member⟩ := List.exists_mem_of_ne_nil _ asked
  have inside := tiles.starts_after w member
  refine ⟨reached - 1, by omega, by omega, ⟨?_, ?_, fun t => ?_⟩, fun final success => ?_⟩
  · exact fun w member => tradeWindows_short w (requests.1.subset member)
  · refine tiles.pairwise.imp fun {v w} before => .inl ?_
    omega
  · have covered := tiles.covers_iff t
    simp only [Covers, Int.lt_add_one_iff] at covered
    rw [covered]
    omega
  · rw [requests.2 final success] at tiles
    have all := (tiles.covers_iff endMs).mp ((whole.covers_iff endMs).mpr ⟨order, by omega⟩)
    omega

/-- The requested windows, also of a call that raises, partition the range from its start on, and
partition all of it if the call returns. With a faithful service a result holds every trade of
the range exactly once, and the call returns exactly on short windows of readable trades that do
not contradict each other. -/
theorem bounded_history_partitions (client : TradeClient) (log : List (LoggedTrade symbol))
    (startMs endMs : ℤ) (order : startMs ≤ endMs) (serves : ServesTrades client log) :
    (∃ through, startMs ≤ through ∧ through ≤ endMs
      ∧ Partitions (collectBoundedRecentTrades client symbol startMs endMs).1 startMs through
      ∧ ((∃ result, (collectBoundedRecentTrades client symbol startMs endMs).2 = .ok result) →
        through = endMs))
    ∧ (∀ result, (collectBoundedRecentTrades client symbol startMs endMs).2 = .ok result →
        HoldsOnce result (rowsWithin log (startMs, endMs)))
    ∧ ((∃ w ∈ tradeWindows endMs startMs, maxMyTradesPageSize ≤ (rowsWithin log w).length)
        ∨ Contradicted (rowsWithin log (startMs, endMs)) →
      ∃ raised, (collectBoundedRecentTrades client symbol startMs endMs).2 = .error raised)
    ∧ ((∃ result, (collectBoundedRecentTrades client symbol startMs endMs).2 = .ok result)
      ↔ (∀ w ∈ tradeWindows endMs startMs, (rowsWithin log w).length < maxMyTradesPageSize)
        ∧ (∀ row ∈ rowsWithin log (startMs, endMs), ∃ trade, normalizeTrade row = .ok trade)
        ∧ ¬Contradicted (rowsWithin log (startMs, endMs))) := by
  have returned : ∀ result, (collectBoundedRecentTrades client symbol startMs endMs).2 = .ok result →
      ∃ final, (walkTrades client symbol endMs startMs .empty).2 = .ok final
        ∧ result = final.items.map Prod.snd := by
    intro result success
    simp only [collectBoundedRecentTrades] at success
    cases outcome : (walkTrades client symbol endMs startMs .empty).2 with
    | error raised =>
      rw [outcome] at success
      cases success
    | ok final =>
      rw [outcome] at success
      cases success
      exact ⟨final, rfl, rfl⟩
  have returns : (∃ result, (collectBoundedRecentTrades client symbol startMs endMs).2 = .ok result)
      ↔ (∀ w ∈ tradeWindows endMs startMs, (rowsWithin log w).length < maxMyTradesPageSize)
        ∧ (∀ row ∈ rowsWithin log (startMs, endMs), ∃ trade, normalizeTrade row = .ok trade)
        ∧ ¬Contradicted (rowsWithin log (startMs, endMs)) := by
    constructor
    · rintro ⟨result, success⟩
      obtain ⟨final, walked, -⟩ := returned result success
      obtain ⟨few, reflects⟩ := walkTrades_ok serves order walked
      exact ⟨few, reflects.readable, (holdsOnce_of_reflects reflects).uncontradicted⟩
    · rintro ⟨few, readable, agree⟩
      obtain ⟨final, walked⟩ := walkTrades_run serves order few readable agree
      refine ⟨final.items.map Prod.snd, ?_⟩
      rw [collectBoundedRecentTrades]
      dsimp only
      rw [walked]
      rfl
  obtain ⟨through, low, high, partitions, whole⟩ := walkTrades_partitions client symbol order .empty
  refine ⟨⟨through, low, high, partitions, ?_⟩, fun result success => ?_, fun wrong => ?_, returns⟩
  · rintro ⟨result, success⟩
    obtain ⟨final, walked, -⟩ := returned result success
    exact whole final walked
  · obtain ⟨final, walked, rfl⟩ := returned result success
    exact holdsOnce_of_reflects (walkTrades_ok serves order walked).2
  · cases outcome : (collectBoundedRecentTrades client symbol startMs endMs).2 with
    | error raised => exact ⟨raised, rfl⟩
    | ok result =>
      obtain ⟨few, -, agree⟩ := returns.mp ⟨result, outcome⟩
      rcases wrong with ⟨w, planned, full⟩ | contradicted
      · exact absurd (few w planned) (not_lt.mpr full)
      · exact absurd contradicted agree

end Records

/-! ## Two records over a midnight -/

def tradeAt (tradeId time : ℤ) (price : String) : LoggedTrade "BTCUSDT" where
  row := ⟨[("symbol", .str "BTCUSDT"), ("id", .int tradeId), ("orderId", .int 3), ("price", .str price),
    ("qty", .str "1"), ("commission", .str "0"), ("commissionAsset", .str "BNB"), ("time", .int time),
    ("isBuyer", .bool true)]⟩
  time := time
  ofSymbol := rfl
  atTime := rfl

/-- On the last millisecond of the first window and the first of the second. -/
def acrossMidnight (second : ℤ) : List (LoggedTrade "BTCUSDT") :=
  [tradeAt 7 86400000 "1", tradeAt second 86400001 "2"]

local instance : CharacterTable := asciiTable

theorem midnight_records (second : ℤ) : rowsWithin (acrossMidnight second) (0, 172800001)
    = [(tradeAt 7 86400000 "1").row, (tradeAt second 86400001 "2").row] := rfl

/-- Two trades are read; two records of one trade are contradictory. -/
theorem records_read (second : ℤ) (id : second = 7 ∨ second = 8) : ∃ first other,
    normalizeTrade (tradeAt 7 86400000 "1").row = .ok first
      ∧ normalizeTrade (tradeAt second 86400001 "2").row = .ok other
      ∧ (first.tradeId = other.tradeId ↔ second = 7) ∧ first.same other = false := by
  have evaluated : ((do
      let first ← normalizeTrade (tradeAt 7 86400000 "1").row
      let other ← normalizeTrade (tradeAt second 86400001 "2").row
      return (first.tradeId == other.tradeId, first.same other)) : Except PyException (Bool × Bool)).toOption
        = some (second == 7, false) := by
    rcases id with rfl | rfl <;> decide +kernel
  cases isFirst : normalizeTrade (tradeAt 7 86400000 "1").row with
  | error raised =>
    rw [isFirst] at evaluated
    cases evaluated
  | ok first =>
    cases isOther : normalizeTrade (tradeAt second 86400001 "2").row with
    | error raised =>
      rw [isFirst, isOther] at evaluated
      cases evaluated
    | ok other =>
      rw [isFirst, isOther] at evaluated
      obtain ⟨ids, differ⟩ := Prod.mk.inj (Option.some.inj evaluated)
      refine ⟨first, other, rfl, rfl, ?_, differ⟩
      rw [← beq_iff_eq, ids, beq_iff_eq]

theorem midnight_readable : ∀ row ∈ rowsWithin (acrossMidnight 8) (0, 172800001),
    ∃ trade, normalizeTrade row = .ok trade := by
  obtain ⟨first, other, isFirst, isOther, -⟩ := records_read 8 (.inr rfl)
  intro row member
  rw [midnight_records, List.mem_cons, List.mem_singleton] at member
  rcases member with rfl | rfl
  · exact ⟨first, isFirst⟩
  · exact ⟨other, isOther⟩

theorem midnight_agrees : ¬Contradicted (rowsWithin (acrossMidnight 8) (0, 172800001)) := by
  obtain ⟨first, other, isFirst, isOther, ids, -⟩ := records_read 8 (.inr rfl)
  have apart : first.tradeId ≠ other.tradeId := fun same => absurd (ids.mp same) (by decide)
  rintro ⟨row, member, next, alsoMember, trade, contradicted, read, readNext, sameId, differ⟩
  rw [midnight_records, List.mem_cons, List.mem_singleton] at member alsoMember
  rcases member with rfl | rfl <;> rcases alsoMember with rfl | rfl
  · cases read.symm.trans readNext
    rw [(normalizeTrade_ok read).2] at differ
    cases differ
  · cases read.symm.trans isFirst
    cases readNext.symm.trans isOther
    exact apart sameId
  · cases read.symm.trans isOther
    cases readNext.symm.trans isFirst
    exact apart sameId.symm
  · cases read.symm.trans readNext
    rw [(normalizeTrade_ok read).2] at differ
    cases differ

/-- Two trades on both sides of a window's end are each held once, and two records of one trade
there are raised. -/
theorem bounded_history_partitions_midnight :
    (∃ result, (collectBoundedRecentTrades (answerFrom (acrossMidnight 8)) "BTCUSDT" 0 172800001).2 = .ok result
      ∧ HoldsOnce result (rowsWithin (acrossMidnight 8) (0, 172800001)))
    ∧ ∃ raised, (collectBoundedRecentTrades (answerFrom (acrossMidnight 7)) "BTCUSDT" 0 172800001).2
      = .error raised := by
  constructor
  · obtain ⟨-, held, -, returns⟩ := bounded_history_partitions (answerFrom (acrossMidnight 8))
      (acrossMidnight 8) 0 172800001 (by decide) (answerFrom_serves _)
    have few : ∀ w ∈ tradeWindows 172800001 0,
        (rowsWithin (acrossMidnight 8) w).length < maxMyTradesPageSize := by
      intro w _
      rw [rowsWithin, List.length_map]
      exact (List.length_filter_le _ _).trans_lt (by decide)
    obtain ⟨result, success⟩ := returns.mpr ⟨few, midnight_readable, midnight_agrees⟩
    exact ⟨result, success, held result success⟩
  · obtain ⟨first, other, isFirst, isOther, ids, differ⟩ := records_read 7 (.inl rfl)
    refine (bounded_history_partitions (answerFrom (acrossMidnight 7)) (acrossMidnight 7) 0 172800001
      (by decide) (answerFrom_serves _)).2.2.1 (.inr ?_)
    exact ⟨_, by rw [midnight_records]; simp, _, by rw [midnight_records]; simp, first, other, isFirst, isOther,
      ids.mpr rfl, differ⟩

end BinancePlatform.Guarantees.TradeHistory
