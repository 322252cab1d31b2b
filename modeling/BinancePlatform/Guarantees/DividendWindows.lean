import BinancePlatform.Source.BnbDividends
import Mathlib.Algebra.BigOperators.Group.List.Lemmas
import Mathlib.Data.List.Perm.Basic
import Mathlib.Data.List.Nodup
import Mathlib.Tactic.Linarith

/-!
# Dividends over abutting windows

Both ends of a request are inclusive, and a row on the start millisecond is refused. So
the windows between increasing checkpoints include every dividend after the first
checkpoint once, and each of them succeeds, exactly when no dividend lies on the
millisecond where a window starts.

* A row of a faithful page is counted or stops the window (`dividendIdentity_of`,
  `dividendIdentity_start`).
* A window without a dividend on its start reports its rows (`collect_clear`), any other
  window is refused (`collect_blocked`).
* The rows of the windows are those of the whole range (`quantityOf_split`), which gives
  the equivalence (`dividends_counted_once`).

`Small` keeps a window within one page.
-/

set_option autoImplicit false

namespace BinancePlatform.Guarantees.DividendWindows
open BinancePlatform.Library BinancePlatform.Source DateTime

/-! ## A dividend log -/

/-- A positive dividend of BNB, as a row shows it. -/
structure Dividend where
  row : Document
  id : ℕ
  tranId : ℕ
  divTime : ℤ
  text : String
  amount : Decimal
  readsId : pyGet row "id" = .int id
  readsTranId : pyGet row "tranId" = .int tranId
  readsTime : pyGet row "divTime" = .int divTime
  readsAsset : pyGet row "asset" = .str "BNB"
  readsDirection : pyGet row "direction" = .int 1
  readsAmount : pyGet row "amount" = .str text
  short : text ≠ "" ∧ text.length ≤ 80
  decimal : decimalOfText text = .ok (.finite amount)
  positive : 0 < amount.value
  bounded : amount.value ≤ 10 ^ 30
  fine : -30 ≤ amount.exp

def Dividend.identity (d : Dividend) : DividendIdentity := ⟨d.id, d.tranId, d.divTime⟩

structure DividendLog where
  dividends : List Dividend
  distinct : (dividends.map Dividend.identity).Nodup

variable {log : DividendLog} {client : DividendClient}

/-- What a request asks for. -/
def requested (log : DividendLog) (startMs endMs : ℤ) : List Dividend :=
  log.dividends.filter fun d => startMs ≤ d.divTime && d.divTime ≤ endMs

/-- What a window accounts for. -/
def included (log : DividendLog) (startMs endMs : ℤ) : List Dividend :=
  log.dividends.filter fun d => startMs < d.divTime && d.divTime ≤ endMs

/-- The client answers from the log, in any order, every request below the page size. -/
def Serves (client : DividendClient) (log : DividendLog) : Prop :=
  ∀ startMs endMs, (requested log startMs endMs).length < bnbDividendPageSize →
    ∃ page, ∃ served : List Dividend, client ⟨startMs, endMs⟩ = .ok (.dict page)
      ∧ served.Perm (requested log startMs endMs)
      ∧ pyGet page "rows" = .list (served.map fun d => .dict d.row)
      ∧ dividendTotal (pyGet page "total") = some served.length

def quantityOf (dividends : List Dividend) : ℚ := (dividends.map fun d => d.amount.value).sum

/-! ## One row -/

theorem dividendAmount_of (d : Dividend) : dividendAmount (pyGet d.row "amount") = .ok d.amount := by
  have same : (⟨false, d.amount.coeff, d.amount.exp⟩ : Decimal).value = |d.amount.value| := by
    rw [Decimal.abs_value, Decimal.value, Decimal.signed]
    simp
  obtain ⟨magnitude, shown, value, -⟩ := Decimal.fix_exact dividendContext
    ⟨false, d.amount.coeff, d.amount.exp⟩ (-30) 31 d.fine
    (by
      rw [same, abs_abs, abs_of_pos d.positive]
      exact d.bounded.trans_lt (by norm_num)) (by decide) (by decide) (by decide) (by decide)
  have within : magnitude.le ⟨false, 1, 30⟩ = true := by
    rw [Decimal.le_iff, value, same, abs_of_pos d.positive]
    exact d.bounded.trans (by norm_num [Decimal.value, Decimal.signed])
  have positive : Decimal.zero.lt d.amount = true := by
    rw [Decimal.lt_iff, Decimal.value_zero]
    exact d.positive
  have absolute : d.amount.abs dividendContext = some magnitude := shown
  rw [d.readsAmount, dividendAmount, if_pos (by simp [d.short.1, d.short.2]), d.decimal]
  simp [positive, absolute, checked, within, d.fine, require, bind, Except.bind, pure, Except.pure]

/-- A dividend on the start millisecond is refused. -/
theorem dividendIdentity_start {startMs endMs : ℤ} {taken : List DividendIdentity} {d : Dividend}
    (starts : d.divTime = startMs) :
    dividendIdentity startMs endMs taken d.row = .error bnbDividendRowInvalid := by
  rw [dividendIdentity, d.readsId, d.readsTranId, d.readsTime]
  simp [starts, require, bind, Except.bind]

/-- A dividend after the start of the window is accepted when it is new. -/
theorem dividendIdentity_of {startMs endMs : ℤ} {taken : List DividendIdentity} {d : Dividend}
    (after : startMs < d.divTime) (before : d.divTime ≤ endMs) (fresh : d.identity ∉ taken) :
    dividendIdentity startMs endMs taken d.row = .ok d.identity := by
  have new : (⟨d.id, d.tranId, d.divTime⟩ : DividendIdentity) ∉ taken := fresh
  rw [dividendIdentity, d.readsId, d.readsTranId, d.readsTime, d.readsAsset, d.readsDirection]
  simp [after, before, new, isOne, Value.isStr, require, bind, Except.bind, pure, Except.pure,
    Dividend.identity]

/-! ## One page -/

/-- The rows of a page, all after the start, are added up exactly. -/
theorem foldlM_takeDividend {startMs endMs : ℤ} {rows : List Dividend}
    (quantity : Decimal) (taken : List DividendIdentity) (k : ℕ)
    (inside : ∀ d ∈ rows, startMs < d.divTime ∧ d.divTime ≤ endMs)
    (distinct : (rows.map Dividend.identity).Nodup)
    (fresh : ∀ d ∈ rows, d.identity ∉ taken)
    (nonneg : 0 ≤ quantity.value) (bound : quantity.value ≤ k * 10 ^ 30) (fine : -30 ≤ quantity.exp)
    (few : k + rows.length ≤ 500) :
    ∃ total, (rows.map fun d => Value.dict d.row).foldlM (takeDividend startMs endMs) (quantity, taken)
        = .ok (total, taken ++ rows.map Dividend.identity)
      ∧ total.value = quantity.value + quantityOf rows := by
  induction rows generalizing quantity taken k with
  | nil => exact ⟨quantity, by simp [pure, Except.pure], by simp [quantityOf]⟩
  | cons d rest ih =>
    rw [List.length_cons] at few
    have enough : (k : ℚ) + 1 ≤ 500 := by
      have : k + 1 ≤ 500 := by omega
      exact_mod_cast this
    have ofD := d.bounded
    have sumBound : quantity.value + d.amount.value ≤ (k + 1) * 10 ^ 30 := by linarith
    obtain ⟨sum, added, value, fineSum⟩ := Decimal.add_exact dividendContext quantity d.amount (-30) 40
      fine d.fine (by
        rw [abs_of_nonneg (add_nonneg nonneg d.positive.le)]
        calc quantity.value + d.amount.value ≤ (k + 1) * 10 ^ 30 := sumBound
          _ ≤ 500 * 10 ^ 30 := mul_le_mul_of_nonneg_right enough (by norm_num)
          _ < 10 ^ (40 : ℤ) := by norm_num)
      (by decide) (by decide) (by decide) (by decide)
    have own := inside d List.mem_cons_self
    rw [List.map_cons, List.nodup_cons] at distinct
    have step : takeDividend startMs endMs (quantity, taken) (.dict d.row)
        = .ok (sum, taken ++ [d.identity]) := by
      simp only [takeDividend, dividendIdentity_of own.1 own.2 (fresh d List.mem_cons_self),
        dividendAmount_of, added, checked, bind, Except.bind, pure, Except.pure]
    obtain ⟨total, folded, sums⟩ := ih sum (taken ++ [d.identity]) (k + 1)
      (fun e member => inside e (List.mem_cons_of_mem _ member)) distinct.2
      (fun e member => by
        rw [List.mem_append, List.mem_singleton, not_or]
        refine ⟨fresh e (List.mem_cons_of_mem _ member), fun same => distinct.1 ?_⟩
        exact same ▸ List.mem_map_of_mem member)
      (by rw [value]; exact add_nonneg nonneg d.positive.le)
      (by rw [value]; push_cast; exact sumBound) fineSum (by omega)
    refine ⟨total, ?_, ?_⟩
    · rw [List.map_cons, List.foldlM_cons, bind_of step, folded, List.map_cons, List.append_assoc,
        List.singleton_append]
    · rw [sums, value, quantityOf, quantityOf, List.map_cons, List.sum_cons]
      ring

/-- A page with a row on the start millisecond is refused. -/
theorem foldlM_start {startMs endMs : ℤ} {rows : List Dividend} {state : Decimal × List DividendIdentity}
    {value : Decimal × List DividendIdentity} (blocked : ∃ d ∈ rows, d.divTime = startMs) :
    (rows.map fun d => Value.dict d.row).foldlM (takeDividend startMs endMs) state ≠ .ok value := by
  intro success
  induction rows generalizing state with
  | nil => simp at blocked
  | cons d rest ih =>
    rw [List.map_cons, List.foldlM_cons] at success
    obtain ⟨next, taken, rest⟩ := bind_ok success
    rcases (List.exists_mem_cons_iff _ _ _).mp blocked with starts | later
    · obtain ⟨identity, read, -⟩ := bind_ok taken
      rw [dividendIdentity_start starts] at read
      cases read
    · exact ih later rest

/-! ## One window -/

/-- No dividend lies on the millisecond where the window starts. -/
def Clear (log : DividendLog) (w : Instant × Instant) : Prop :=
  ∀ d ∈ log.dividends, d.divTime ≠ timestampMs w.1

/-- The window is smaller than a page. -/
def Small (log : DividendLog) (w : Instant × Instant) : Prop :=
  (requested log (timestampMs w.1) (timestampMs w.2)).length < bnbDividendPageSize

/-- The window reports its dividends and their quantity. -/
def Reports (log : DividendLog) (w : Instant × Instant) (result : DividendWindow) : Prop :=
  result.identities.Perm ((included log (timestampMs w.1) (timestampMs w.2)).map Dividend.identity)
    ∧ result.quantity.value = quantityOf (included log (timestampMs w.1) (timestampMs w.2))

section Window
variable {w : Instant × Instant} (serves : Serves client log)
include serves

/-- A served window is the fold over its rows. -/
theorem collect_served (order : w.1 < w.2) (small : Small log w) :
    ∃ served : List Dividend, served.Perm (requested log (timestampMs w.1) (timestampMs w.2))
      ∧ collectBnbDividendQuantity client w.1 w.2
        = (do
          let (quantity, identities) ← (served.map fun d => Value.dict d.row).foldlM
            (takeDividend (timestampMs w.1) (timestampMs w.2)) (Decimal.zero, [])
          return { quantity, recordCount := identities.length, identities
                   directionValues := if identities = [] then [] else [1] }) := by
  obtain ⟨page, served, answered, same, rows, total⟩ := serves _ _ small
  have full : served.length < bnbDividendPageSize := by
    rw [same.length_eq]
    exact small
  refine ⟨served, same, ?_⟩
  have read : dividendRows page = .ok (served.map fun d => .dict d.row) := by
    rw [dividendRows, rows, total]
    simp [full]
  rw [collectBnbDividendQuantity, require_bind_of (by simpa using order)]
  dsimp only
  rw [answered]
  dsimp only
  rw [bind_of read]

/-- A window without a dividend on its start reports all of its dividends. -/
theorem collect_clear (order : w.1 < w.2) (small : Small log w) (clear : Clear log w) :
    ∃ result, collectBnbDividendQuantity client w.1 w.2 = .ok result ∧ Reports log w result := by
  have same : requested log (timestampMs w.1) (timestampMs w.2)
      = included log (timestampMs w.1) (timestampMs w.2) := by
    refine List.filter_congr fun d member => ?_
    have apart := clear d member
    have : timestampMs w.1 ≤ d.divTime ↔ timestampMs w.1 < d.divTime := by omega
    simp only [this]
  obtain ⟨served, perm, computes⟩ := collect_served serves order small
  rw [Small, ← perm.length_eq] at small
  rw [same] at perm
  have inside : ∀ d ∈ served, timestampMs w.1 < d.divTime ∧ d.divTime ≤ timestampMs w.2 := by
    intro d member
    have kept := List.of_mem_filter (perm.mem_iff.mp member)
    simpa using kept
  obtain ⟨total, folded, value⟩ := foldlM_takeDividend Decimal.zero [] 0 inside
    ((perm.map Dividend.identity).nodup_iff.mpr
      (log.distinct.sublist (List.filter_sublist.map Dividend.identity)))
    (by simp) (by simp) (by simp) (by decide)
    (by rw [Nat.zero_add]; exact small.le)
  rw [bind_of folded] at computes
  refine ⟨_, computes, ?_, ?_⟩
  · exact perm.map Dividend.identity
  · change total.value = _
    rw [value, Decimal.value_zero, zero_add]
    exact (perm.map fun d => d.amount.value).sum_eq

/-- A dividend on the start of a window makes the window fail. -/
theorem collect_blocked (order : w.1 < w.2) (small : Small log w) (blocked : ¬ Clear log w)
    (result : DividendWindow) : collectBnbDividendQuantity client w.1 w.2 ≠ .ok result := by
  intro success
  obtain ⟨served, perm, computes⟩ := collect_served serves order small
  rw [computes] at success
  obtain ⟨state, folded, -⟩ := bind_ok success
  refine foldlM_start ?_ folded
  simp only [Clear, not_forall, not_not] at blocked
  obtain ⟨d, member, starts⟩ := blocked
  have ends : timestampMs w.1 ≤ timestampMs w.2 := timestampMs_mono order.le
  exact ⟨d, perm.mem_iff.mpr (List.mem_filter.mpr ⟨member, by simp [starts, ends]⟩), starts⟩

end Window

/-! ## Abutting windows -/

/-- The windows between successive checkpoints. -/
def windows (times : List Instant) : List (Instant × Instant) := times.zip times.tail

theorem windows_cons (first next : Instant) (rest : List Instant) :
    windows (first :: next :: rest) = (first, next) :: windows (next :: rest) := rfl

theorem windows_increasing {times : List Instant} (increasing : times.Pairwise (· < ·))
    {w : Instant × Instant} (member : w ∈ windows times) : w.1 < w.2 := by
  cases times with
  | nil => cases member
  | cons first rest =>
    induction rest generalizing first with
    | nil => cases member
    | cons next rest ih =>
      rw [windows_cons] at member
      rcases List.mem_cons.mp member with rfl | later
      · exact List.rel_of_pairwise_cons increasing List.mem_cons_self
      · exact ih next (List.pairwise_cons.mp increasing).2 later

theorem le_getLastD {first : Instant} {rest : List Instant}
    (increasing : (first :: rest).Pairwise (· < ·)) : first ≤ rest.getLastD first := by
  cases rest with
  | nil => exact le_refl _
  | cons next rest =>
    rw [List.getLastD_cons]
    exact (List.rel_of_pairwise_cons increasing List.getLastD_mem_cons).le

/-- The quantities of two abutting windows are those of the whole. -/
theorem quantityOf_split {a b c : ℤ} (left : a ≤ b) (right : b ≤ c) :
    quantityOf (included log a b) + quantityOf (included log b c) = quantityOf (included log a c) := by
  unfold included
  generalize log.dividends = dividends
  induction dividends with
  | nil => simp [quantityOf]
  | cons d rest ih =>
    have cut : (a < d.divTime ∧ d.divTime ≤ c)
        ↔ (a < d.divTime ∧ d.divTime ≤ b) ∨ (b < d.divTime ∧ d.divTime ≤ c) := by omega
    have apart : ¬((a < d.divTime ∧ d.divTime ≤ b) ∧ (b < d.divTime ∧ d.divTime ≤ c)) := by omega
    simp only [List.filter_cons, Bool.and_eq_true, decide_eq_true_eq, quantityOf, cut] at ih ⊢
    by_cases early : a < d.divTime ∧ d.divTime ≤ b
    · have late : ¬(b < d.divTime ∧ d.divTime ≤ c) := fun late => apart ⟨early, late⟩
      simp only [early, late, and_self, or_false, if_true, if_false, List.map_cons, List.sum_cons]
      linarith
    · by_cases late : b < d.divTime ∧ d.divTime ≤ c
      · simp only [early, late, and_self, or_true, if_true, if_false, List.map_cons, List.sum_cons]
        linarith
      · simp only [early, late, or_self, if_false]
        linarith

/-- Every call succeeds, every dividend after the first checkpoint is in one of the
results, and together they report its quantity. -/
def CountedOnce (client : DividendClient) (log : DividendLog) (first : Instant) (rest : List Instant) :
    Prop :=
  ∃ results, List.Forall₂ (fun w result => collectBnbDividendQuantity client w.1 w.2 = .ok result)
      (windows (first :: rest)) results
    ∧ (∀ d ∈ log.dividends, (results.map fun result => result.identities.count d.identity).sum
        = if timestampMs first < d.divTime ∧ d.divTime ≤ timestampMs (rest.getLastD first) then 1 else 0)
    ∧ (results.map fun result => result.quantity.value).sum
        = quantityOf (included log (timestampMs first) (timestampMs (rest.getLastD first)))

theorem count_reported {w : Instant × Instant} {result : DividendWindow} (reports : Reports log w result)
    {d : Dividend} (member : d ∈ log.dividends) :
    result.identities.count d.identity
      = if timestampMs w.1 < d.divTime ∧ d.divTime ≤ timestampMs w.2 then 1 else 0 := by
  have unique : ((included log (timestampMs w.1) (timestampMs w.2)).map Dividend.identity).Nodup :=
    log.distinct.sublist (List.filter_sublist.map Dividend.identity)
  rw [reports.1.count_eq, unique.count]
  refine if_congr ⟨fun shown => ?_, fun inside => ?_⟩ rfl rfl
  · obtain ⟨e, kept, same⟩ := List.mem_map.mp shown
    have time : e.divTime = d.divTime := congrArg DividendIdentity.divTime same
    have inside := List.of_mem_filter kept
    rw [time] at inside
    simpa using inside
  · exact List.mem_map_of_mem (List.mem_filter.mpr ⟨member, by simpa using inside⟩)

theorem counted_of_clear (serves : Serves client log) {first : Instant} {rest : List Instant}
    (increasing : (first :: rest).Pairwise (· < ·))
    (small : ∀ w ∈ windows (first :: rest), Small log w)
    (clear : ∀ w ∈ windows (first :: rest), Clear log w) : CountedOnce client log first rest := by
  induction rest generalizing first with
  | nil =>
    have none : included log (timestampMs first) (timestampMs first) = [] :=
      List.filter_eq_nil_iff.mpr fun d _ => by simp
    refine ⟨[], .nil, fun d _ => ?_, ?_⟩
    · rw [if_neg (by rw [List.getLastD_nil]; omega)]
      rfl
    · rw [List.getLastD_nil, none]
      rfl
  | cons next rest ih =>
    rw [windows_cons] at small clear
    have later := (List.pairwise_cons.mp increasing).2
    have order : first < next := List.rel_of_pairwise_cons increasing List.mem_cons_self
    obtain ⟨result, collected, reports⟩ := collect_clear (w := (first, next)) serves order
      (small _ List.mem_cons_self) (clear _ List.mem_cons_self)
    obtain ⟨results, each, once, sums⟩ := ih later
      (fun w member => small w (List.mem_cons_of_mem _ member))
      (fun w member => clear w (List.mem_cons_of_mem _ member))
    have left : timestampMs first ≤ timestampMs next := timestampMs_mono order.le
    have right : timestampMs next ≤ timestampMs (rest.getLastD next) :=
      timestampMs_mono (le_getLastD later)
    refine ⟨result :: results, .cons collected each, fun d member => ?_, ?_⟩
    · rw [List.map_cons, List.sum_cons, once d member, count_reported reports member,
        List.getLastD_cons]
      dsimp only
      split_ifs <;> omega
    · rw [List.map_cons, List.sum_cons, sums, reports.2, List.getLastD_cons]
      exact quantityOf_split left right

/-- For every log and all increasing checkpoints with windows below the page size, the
dividends are counted once exactly when none lies on the millisecond where a window starts. -/
theorem dividends_counted_once (serves : Serves client log) {first : Instant} {rest : List Instant}
    (increasing : (first :: rest).Pairwise (· < ·))
    (small : ∀ w ∈ windows (first :: rest), Small log w) :
    CountedOnce client log first rest ↔ ∀ w ∈ windows (first :: rest), Clear log w := by
  refine ⟨fun counted w member => ?_, counted_of_clear serves increasing small⟩
  obtain ⟨results, each, -, -⟩ := counted
  obtain ⟨result, -, collected⟩ := forall₂_exists each member
  by_contra blocked
  exact collect_blocked serves (windows_increasing increasing member) (small w member) blocked result
    collected

/-! ## A dividend on a checkpoint -/

/-- The client that answers from the log, in its order. -/
def answers (log : DividendLog) : DividendClient := fun request =>
  .ok (.dict ⟨[
    ("rows", .list ((requested log request.startTime request.endTime).map fun d => .dict d.row)),
    ("total", .int (requested log request.startTime request.endTime).length)]⟩)

theorem serves_answers (log : DividendLog) : Serves (answers log) log :=
  fun _ _ _ => ⟨_, _, rfl, List.Perm.refl _, rfl, rfl⟩

def dividendAt (divTime : ℤ) : Dividend where
  row := ⟨[("id", .int 7), ("tranId", .int 8), ("asset", .str "BNB"), ("divTime", .int divTime),
    ("amount", .str "0.5"), ("direction", .int 1)]⟩
  id := 7
  tranId := 8
  divTime := divTime
  text := "0.5"
  amount := ⟨false, 5, -1⟩
  readsId := rfl
  readsTranId := rfl
  readsTime := rfl
  readsAsset := rfl
  readsDirection := rfl
  readsAmount := rfl
  short := by decide
  decimal := by decide
  positive := by norm_num [Decimal.value, Decimal.signed]
  bounded := by norm_num [Decimal.value, Decimal.signed]
  fine := by decide

def singleDividend (divTime : ℤ) : DividendLog := ⟨[dividendAt divTime], List.nodup_singleton _⟩

theorem small_single (divTime : ℤ) (w : Instant × Instant) : Small (singleDividend divTime) w :=
  (List.length_filter_le _ _).trans_lt (by decide : 1 < bnbDividendPageSize)

/-- Three checkpoints and a dividend inside the second window. -/
theorem dividends_counted_once_between :
    CountedOnce (answers (singleDividend 1500)) (singleDividend 1500) 0 [1000000, 2000000]
      ↔ ∀ w ∈ windows [0, 1000000, 2000000], Clear (singleDividend 1500) w :=
  dividends_counted_once (serves_answers _) (by decide) (fun w _ => small_single 1500 w)

/-- A dividend on the millisecond of the second checkpoint: the second window fails. -/
theorem dividend_on_checkpoint :
    Serves (answers (singleDividend 1000)) (singleDividend 1000)
      ∧ (∀ w ∈ windows [0, 1000000, 2000000], w.1 < w.2 ∧ Small (singleDividend 1000) w)
      ∧ timestampMs 1000000 = 1000
      ∧ ¬ CountedOnce (answers (singleDividend 1000)) (singleDividend 1000) 0 [1000000, 2000000] := by
  have starts : timestampMs 1000000 = 1000 := by decide +kernel
  refine ⟨serves_answers _, fun w member => ⟨windows_increasing (by decide) member, small_single _ w⟩,
    starts, fun counted => ?_⟩
  obtain ⟨results, each, -, -⟩ := counted
  obtain ⟨result, -, collected⟩ := forall₂_exists each
    (List.mem_cons_of_mem _ List.mem_cons_self : (1000000, 2000000) ∈ windows [0, 1000000, 2000000])
  refine collect_blocked (w := (1000000, 2000000)) (serves_answers _) (by decide) (small_single _ _)
    (fun clear => ?_) result collected
  exact clear (dividendAt 1000) List.mem_cons_self starts.symm

end BinancePlatform.Guarantees.DividendWindows
