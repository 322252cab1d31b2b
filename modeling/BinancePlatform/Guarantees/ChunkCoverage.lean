import BinancePlatform.Guarantees.PageWalk
import Mathlib.Data.List.Perm.Basic

/-!
# What a chunked history covers

Against a faithful client every surface of a window returns exactly the logged events
of the window, so a complete result reports the events of all windows of the walk
together. They are the events of the whole span, once each, for every log if and only
if every window that ends before the span is followed by the next millisecond
(`Abutting`). A window that ends within a millisecond of the span breaks this: its
last millisecond is skipped, or read twice.
-/

set_option autoImplicit false

namespace BinancePlatform.Guarantees.ChunkCoverage
open BinancePlatform.Library BinancePlatform.Source DateTime PageWalk

/-! ## A faithful client -/

structure HistoryEvent where
  timestamp : ℤ
  row : Document

abbrev HistoryLog := Surface → List HistoryEvent

def contains (w : ℤ × ℤ) (g : ℤ) : Bool := w.1 ≤ g && g ≤ w.2

theorem contains_iff {w : ℤ × ℤ} {g : ℤ} : contains w g = true ↔ w.1 ≤ g ∧ g ≤ w.2 := by
  simp [contains]

/-- The rows of the events in an inclusive range of milliseconds. -/
def inWindow (events : List HistoryEvent) (w : ℤ × ℤ) : List Document :=
  (events.filter fun event => contains w event.timestamp).map (·.row)

def pageOf (rows : List Document) (surface : Surface) (offset : ℕ) : List Value :=
  ((rows.drop offset).take surface.pageSize).map .dict

/-- The client answers every request from the log. -/
structure Serves (client : HistoryClient) (log : HistoryLog) : Prop where
  listed : ∀ surface ∈ historySurfaces, surface.isList = true → ∀ s e offset,
    client ⟨surface, s, e, offset⟩ = .ok (.list (pageOf (inWindow (log surface) (s, e)) surface offset))
  paged : ∀ surface ∈ historySurfaces, surface.isList = false → ∀ s e index,
    ∃ page, client ⟨surface, s, e, index + 1⟩ = .ok (.dict page)
      ∧ readTotal (pyGet page "total") = some (inWindow (log surface) (s, e)).length
      ∧ (page.get? "rows"
          = some (.list (pageOf (inWindow (log surface) (s, e)) surface (index * surface.pageSize)))
        ∨ inWindow (log surface) (s, e) = [] ∧ page.get? "rows" = none)

section Fetch
variable {client : HistoryClient} {surface : Surface} {s e : ℤ}

theorem fetchSurface_ok {log : HistoryLog} (serves : Serves client log)
    (known : surface ∈ historySurfaces) {seen after : List Value} {rows : List Document}
    (success : fetchSurface client surface s e seen = .ok (rows, after)) :
    rows = inWindow (log surface) (s, e) :=
  fetchPages_ok ⟨fun isList => serves.listed surface known isList s e,
    fun isPaged => serves.paged surface known isPaged s e⟩ success

end Fetch

/-! ## Complete windows -/

def countOf (state : HistoryState) (surface : Surface) : ℕ := (state.counts.get? surface).getD 0

theorem historySurfaces_nodup : historySurfaces.Nodup := by decide

def msWindow (w : Instant × Instant) : ℤ × ℤ := (timestampMs w.1, timestampMs w.2)

section Windows
variable [CharacterTable] {client : HistoryClient} {refusals : HistoryRefusals} {log : HistoryLog}

/-- What the surfaces of a window add to the state. -/
structure Added (log : HistoryLog) (w : ℤ × ℤ) (surfaces : List Surface)
    (before after : HistoryState) : Prop where
  counts : ∀ surface, after.counts.get? surface =
    if surface ∈ surfaces then some (countOf before surface + (inWindow (log surface) w).length)
    else before.counts.get? surface
  rewards : if .earnRewards ∈ surfaces then
      (inWindow (log .earnRewards) w).foldlM creditReward before.rewardSums = .ok after.rewardSums
    else after.rewardSums = before.rewardSums

theorem takeReward_ok {s e : ℤ} {before after : List (List Value) × Option (Dict String RewardSums)}
    {row : Document} (success : takeReward s e before row = .ok after) :
    creditReward before.2 row = .ok after.2 := by
  obtain ⟨-, success⟩ := require_bind success
  obtain ⟨-, success⟩ := require_bind success
  split at success
  · obtain ⟨-, success⟩ := require_bind success
    obtain ⟨-, success⟩ := require_bind success
    obtain ⟨sums, credited, success⟩ := bind_ok success
    cases success
    exact credited
  · cases success

theorem takeRewards_ok {s e : ℤ} {rows : List Document}
    {before after : List (List Value) × Option (Dict String RewardSums)}
    (success : rows.foldlM (takeReward s e) before = .ok after) :
    rows.foldlM creditReward before.2 = .ok after.2 := by
  induction rows generalizing before with
  | nil =>
    cases success
    rfl
  | cons row rest ih =>
    rw [List.foldlM_cons] at success ⊢
    obtain ⟨middle, taken, success⟩ := bind_ok success
    rw [takeReward_ok taken]
    exact ih success

theorem diagnoseSurface_ok (serves : Serves client log) {surface : Surface}
    (known : surface ∈ historySurfaces) {chunk : ℕ} {s e : ℤ} {before after : HistoryState}
    (success : diagnoseSurface client refusals chunk s e before surface = .ok after) :
    Added log (s, e) [surface] before after := by
  obtain ⟨⟨rows, seen⟩, fetched, success⟩ := bind_ok success
  obtain rfl := fetchSurface_ok serves known fetched
  obtain ⟨-, -, success⟩ := bind_ok success
  split at success
  next isRewards =>
    obtain ⟨⟨seenRewards, sums⟩, taken, success⟩ := bind_ok success
    cases success
    subst isRewards
    refine ⟨fun other => ?_, ?_⟩
    · simp [Dict.get?_set, countOf]
      split <;> simp_all
    · simpa using takeRewards_ok taken
  next other =>
    cases success
    refine ⟨fun other => ?_, ?_⟩
    · simp [Dict.get?_set, countOf]
      split <;> simp_all
    · simp [Ne.symm other]

theorem surfaces_ok (serves : Serves client log) {surfaces : List Surface}
    (known : ∀ surface ∈ surfaces, surface ∈ historySurfaces) (nodup : surfaces.Nodup) {chunk : ℕ}
    {s e : ℤ} {before after : HistoryState}
    (success : surfaces.foldlM (diagnoseSurface client refusals chunk s e) before = .ok after) :
    Added log (s, e) surfaces before after := by
  induction surfaces generalizing before with
  | nil =>
    cases success
    exact ⟨fun _ => rfl, rfl⟩
  | cons first rest ih =>
    rw [List.foldlM_cons] at success
    obtain ⟨middle, taken, success⟩ := bind_ok success
    obtain ⟨fresh, nodup⟩ := List.nodup_cons.mp nodup
    have head := diagnoseSurface_ok serves (known first List.mem_cons_self) taken
    have tail := ih (fun surface member => known surface (List.mem_cons_of_mem _ member)) nodup success
    constructor
    · intro surface
      rw [tail.counts surface]
      by_cases isFirst : surface = first
      · subst isFirst
        rw [if_neg fresh, head.counts]
        simp
      · have same : countOf middle surface = countOf before surface := by
          simp [countOf, head.counts, isFirst]
        rw [same, head.counts]
        simp [isFirst]
    · by_cases isFirst : Surface.earnRewards = first
      · subst isFirst
        have credited := head.rewards
        have kept := tail.rewards
        rw [if_neg fresh] at kept
        simp only [List.mem_singleton, if_true] at credited
        rw [if_pos List.mem_cons_self, kept]
        exact credited
      · have kept := head.rewards
        have credited := tail.rewards
        rw [if_neg (by simpa using isFirst)] at kept
        rw [kept] at credited
        simpa [isFirst] using credited

/-! ## The windows of the walk -/

/-- The windows that `walkChunks` reads. -/
def windowsFrom (finish : Instant) (maxChunk : ℤ) : ℕ → Instant → List (Instant × Instant)
  | 0, _ => []
  | rounds + 1, cursor =>
    if cursor < finish then
      (cursor, min (cursor + maxChunk) finish) ::
        (nextCursor (min (cursor + maxChunk) finish) finish).elim []
          (windowsFrom finish maxChunk rounds)
    else []

def rowsOf (events : List HistoryEvent) (windows : List (Instant × Instant)) : List Document :=
  windows.flatMap fun w => inWindow events (msWindow w)

/-- What the windows of a walk add to the state. -/
structure Walked (log : HistoryLog) (windows : List (Instant × Instant))
    (before after : HistoryState) : Prop where
  counts : ∀ surface ∈ historySurfaces,
    countOf after surface = countOf before surface + (rowsOf (log surface) windows).length
  present : ∀ surface ∈ historySurfaces,
    windows ≠ [] ∨ (before.counts.get? surface).isSome = true →
      (after.counts.get? surface).isSome = true
  rewards : (rowsOf (log .earnRewards) windows).foldlM creditReward before.rewardSums
    = .ok after.rewardSums

theorem walked_nil (state : HistoryState) : Walked log [] state state :=
  ⟨fun _ _ => rfl, fun _ _ present => present.resolve_left fun nonempty => nonempty rfl, rfl⟩

theorem walked_cons {w : Instant × Instant} {windows : List (Instant × Instant)}
    {before middle after : HistoryState}
    (first : Added log (msWindow w) historySurfaces before middle)
    (rest : Walked log windows middle after) : Walked log (w :: windows) before after := by
  constructor
  · intro surface known
    rw [rest.counts surface known, countOf, first.counts, if_pos known, Option.getD_some]
    simp only [rowsOf, List.flatMap_cons, List.length_append]
    omega
  · intro surface known _
    apply rest.present surface known
    right
    rw [first.counts, if_pos known]
    rfl
  · have credited := first.rewards
    rw [if_pos (by decide)] at credited
    simp only [rowsOf, List.flatMap_cons, List.foldlM_append]
    rw [credited]
    exact rest.rewards

theorem diagnose_ok (serves : Serves client log) {chunk : ℕ} {start finish : Instant}
    {before after : HistoryState}
    (success : diagnoseBalanceFlows client refusals chunk start finish before = .ok after) :
    Added log (msWindow (start, finish)) historySurfaces before after := by
  obtain ⟨-, success⟩ := require_bind success
  exact surfaces_ok serves (fun _ member => member) historySurfaces_nodup success

theorem walk_ok (serves : Serves client log) {finish : Instant} {maxChunk : ℤ} {rounds chunk : ℕ}
    {cursor : Instant} {before after : HistoryState}
    (success : walkChunks client refusals finish maxChunk rounds chunk cursor before = .ok after) :
    Walked log (windowsFrom finish maxChunk rounds cursor) before after := by
  induction rounds generalizing chunk cursor before with
  | zero =>
    cases success
    exact walked_nil _
  | succ rounds ih =>
    unfold walkChunks at success
    unfold windowsFrom
    split at success
    next continues =>
      rw [if_pos continues]
      obtain ⟨middle, read, success⟩ := bind_ok success
      apply walked_cons (diagnose_ok serves read)
      cases next : nextCursor (min (cursor + maxChunk) finish) finish with
      | none =>
        rw [next] at success
        cases success
        exact walked_nil _
      | some following =>
        rw [next] at success
        exact ih success
    next ends =>
      rw [if_neg ends]
      cases success
      exact walked_nil _

end Windows

/-! ## Windows that cover every millisecond once -/

/-- How many windows read the millisecond `g`. -/
def readings (windows : List (Instant × Instant)) (g : ℤ) : ℕ :=
  windows.countP fun w => contains (msWindow w) g

/-- Every millisecond of the span is read once, and no other. -/
def CoversOnce (windows : List (Instant × Instant)) (start finish : Instant) : Prop :=
  ∀ g, readings windows g = if contains (msWindow (start, finish)) g then 1 else 0

theorem rowsOf_cons (event : HistoryEvent) (events : List HistoryEvent)
    (windows : List (Instant × Instant)) :
    (rowsOf (event :: events) windows).Perm
      (List.replicate (readings windows event.timestamp) event.row ++ rowsOf events windows) := by
  induction windows with
  | nil => exact .refl _
  | cons w rest ih =>
    simp only [rowsOf, List.flatMap_cons, readings, List.countP_cons] at ih ⊢
    have split : inWindow (event :: events) (msWindow w)
        = (if contains (msWindow w) event.timestamp then [event.row] else [])
          ++ inWindow events (msWindow w) := by
      simp only [inWindow, List.filter_cons]
      split <;> rfl
    rw [split]
    by_cases held : contains (msWindow w) event.timestamp = true
    · simp only [held, if_true, List.replicate_succ, List.cons_append]
      refine (ih.append_left _).cons _ |>.trans (List.Perm.cons _ ?_)
      rw [← List.append_assoc, ← List.append_assoc]
      exact List.perm_append_comm.append_right _
    · simp only [held, if_neg, Bool.false_eq_true, not_false_eq_true, Nat.add_zero, List.nil_append]
      refine (ih.append_left _).trans ?_
      rw [← List.append_assoc, ← List.append_assoc]
      exact List.perm_append_comm.append_right _

theorem rowsOf_coversOnce {windows : List (Instant × Instant)} {start finish : Instant}
    (covers : CoversOnce windows start finish) (events : List HistoryEvent) :
    (rowsOf events windows).Perm (inWindow events (msWindow (start, finish))) := by
  induction events with
  | nil =>
    have none : rowsOf [] windows = [] := by simp [rowsOf, inWindow]
    rw [none]
    exact .refl _
  | cons event events ih =>
    refine (rowsOf_cons event events windows).trans ?_
    rw [covers event.timestamp]
    simp only [inWindow, List.filter_cons] at ih ⊢
    split
    · exact ih.cons _
    · simpa using ih

/-- A window that ends before the span is followed by the next millisecond: by the next
window, or, where none follows, by the end of the span in the same millisecond. -/
def Abutting (finish : Instant) (maxChunk : ℤ) (start : Instant) : Prop :=
  ∀ k : ℕ, start + k * (maxChunk + 1000) + maxChunk < finish →
    if start + k * (maxChunk + 1000) + maxChunk + 1000 < finish then
      timestampMs (start + k * (maxChunk + 1000) + maxChunk + 1000)
        = timestampMs (start + k * (maxChunk + 1000) + maxChunk) + 1
    else start + k * (maxChunk + 1000) + maxChunk + 1000 ≠ finish
      ∧ timestampMs finish = timestampMs (start + k * (maxChunk + 1000) + maxChunk)

section Walk
variable {finish : Instant} {maxChunk : ℤ} {cursor : Instant} {rounds : ℕ}

theorem abutting_next (abutting : Abutting finish maxChunk cursor) :
    Abutting finish maxChunk (cursor + maxChunk + 1000) := by
  intro k
  have here := abutting (k + 1)
  have same : cursor + maxChunk + 1000 + k * (maxChunk + 1000)
      = cursor + (k + 1 : ℕ) * (maxChunk + 1000) := by
    push_cast
    ring
  rw [same]
  exact here

theorem windowsFrom_last (within : cursor < finish) (reaches : finish ≤ cursor + maxChunk) :
    windowsFrom finish maxChunk (rounds + 1) cursor = [(cursor, finish)] := by
  rw [windowsFrom, if_pos within, min_eq_right reaches, nextCursor, if_pos rfl]
  rfl

theorem windowsFrom_step (positive : 0 < maxChunk) (short : cursor + maxChunk < finish) :
    windowsFrom finish maxChunk (rounds + 1) cursor = (cursor, cursor + maxChunk) ::
      (if cursor + maxChunk + 1000 < finish then
        windowsFrom finish maxChunk rounds (cursor + maxChunk + 1000)
      else if cursor + maxChunk + 1000 = finish then
        windowsFrom finish maxChunk rounds (cursor + maxChunk)
      else []) := by
  have within : cursor < finish := by
    have bound : (cursor : ℤ) < cursor + maxChunk := by linarith
    exact bound.trans short
  rw [windowsFrom, if_pos within, min_eq_left short.le, nextCursor, if_neg short.ne]
  split_ifs <;> rfl

/-- No window starts before the cursor. -/
theorem windowsFrom_from (positive : 0 < maxChunk) {w : Instant × Instant}
    (member : w ∈ windowsFrom finish maxChunk rounds cursor) : cursor ≤ w.1 := by
  induction rounds generalizing cursor with
  | zero => cases member
  | succ rounds ih =>
    by_cases within : cursor < finish
    · by_cases short : cursor + maxChunk < finish
      · rw [windowsFrom_step positive short] at member
        rcases List.mem_cons.mp member with rfl | later
        · exact le_refl _
        · split_ifs at later
          · have after := ih later
            have : (cursor : ℤ) ≤ cursor + maxChunk + 1000 := by linarith
            exact this.trans after
          · have after := ih later
            have : (cursor : ℤ) ≤ cursor + maxChunk := by linarith
            exact this.trans after
          · cases later
      · rw [windowsFrom_last within (not_lt.mp short)] at member
        obtain rfl := List.mem_singleton.mp member
        exact le_refl _
    · rw [windowsFrom, if_neg within] at member
      cases member

/-- The first window starts at the cursor. -/
theorem windowsFrom_first (within : cursor < finish) :
    ∃ rest, windowsFrom finish maxChunk (rounds + 1) cursor
      = (cursor, min (cursor + maxChunk) finish) :: rest :=
  ⟨_, by rw [windowsFrom, if_pos within]⟩

theorem contains_window {w : Instant × Instant} {g : ℤ} :
    contains (msWindow w) g = true ↔ timestampMs w.1 ≤ g ∧ g ≤ timestampMs w.2 := contains_iff

theorem readings_cons (w : Instant × Instant) (rest : List (Instant × Instant)) (g : ℤ) :
    readings (w :: rest) g = readings rest g + if contains (msWindow w) g then 1 else 0 := by
  simp only [readings, List.countP_cons]

theorem readings_before {g : ℤ} (positive : 0 < maxChunk) (before : g < timestampMs cursor) :
    readings (windowsFrom finish maxChunk rounds cursor) g = 0 := by
  rw [readings, List.countP_eq_zero]
  intro w member held
  have late := timestampMs_mono (windowsFrom_from positive member)
  have reached := (contains_window.mp held).1
  omega

theorem readings_first (positive : 0 < maxChunk) (within : cursor < finish) :
    1 ≤ readings (windowsFrom finish maxChunk (rounds + 1) cursor) (timestampMs cursor) := by
  obtain ⟨rest, split⟩ : ∃ rest, windowsFrom finish maxChunk (rounds + 1) cursor
      = (cursor, min (cursor + maxChunk) finish) :: rest := windowsFrom_first within
  have later : (cursor : ℤ) ≤ min (cursor + maxChunk) finish :=
    le_min (by linarith) within.le
  rw [split, readings_cons, if_pos (contains_window.mpr ⟨le_refl _, timestampMs_mono later⟩)]
  omega

/-- Enough rounds for the span that is left. -/
abbrev EnoughRounds (finish cursor : Instant) (rounds : ℕ) : Prop := (finish - cursor).toNat ≤ rounds

theorem enough_later {finish cursor later : ℤ} (enough : (finish - cursor).toNat ≤ rounds + 1)
    (grows : cursor < later) : (finish - later).toNat ≤ rounds := by
  omega

theorem coversOnce_of_abutting (positive : 0 < maxChunk) (enough : EnoughRounds finish cursor rounds)
    (within : cursor < finish) (abutting : Abutting finish maxChunk cursor) :
    CoversOnce (windowsFrom finish maxChunk rounds cursor) cursor finish := by
  induction rounds generalizing cursor with
  | zero =>
    have none : (finish - cursor).toNat = 0 := Nat.le_zero.mp enough
    have ended := Int.toNat_eq_zero.mp none
    exact absurd within (by linarith)
  | succ rounds ih =>
    intro g
    by_cases short : cursor + maxChunk < finish
    · have here := abutting 0
      simp only [Nat.cast_zero, zero_mul, add_zero] at here
      have here := here short
      have ordered : timestampMs cursor ≤ timestampMs (cursor + maxChunk) :=
        timestampMs_mono (by linarith)
      rw [windowsFrom_step positive short, readings_cons]
      by_cases follows : cursor + maxChunk + 1000 < finish
      · rw [if_pos follows] at here ⊢
        have left : EnoughRounds finish (cursor + maxChunk + 1000) rounds :=
          enough_later enough (by linarith)
        rw [ih left follows (abutting_next abutting) g]
        have ends : timestampMs (cursor + maxChunk + 1000) ≤ timestampMs finish :=
          timestampMs_mono follows.le
        simp only [contains_window]
        split_ifs <;> omega
      · rw [if_neg follows] at here ⊢
        rw [if_neg here.1]
        simp only [contains_window, here.2]
        simp [readings]
    · rw [windowsFrom_last within (not_lt.mp short), readings_cons]
      simp [readings]

theorem rounds_left {finish cursor : ℤ} (enough : (finish - cursor).toNat ≤ rounds)
    (within : cursor < finish) : ∃ r, rounds = r + 1 :=
  ⟨rounds - 1, by omega⟩

/-- The window after the first one starts in the next millisecond. -/
theorem abuts_of_readings {e : Instant} (positive : 0 < maxChunk)
    (enough : EnoughRounds finish (e + 1000) rounds) (follows : e + 1000 < finish)
    {lower : ℤ} (ordered : lower ≤ timestampMs e)
    (covers : ∀ g, readings (windowsFrom finish maxChunk rounds (e + 1000)) g
      + (if lower ≤ g ∧ g ≤ timestampMs e then 1 else 0)
        = if lower ≤ g ∧ g ≤ timestampMs finish then 1 else 0) :
    timestampMs (e + 1000) = timestampMs e + 1 := by
  have later : timestampMs e ≤ timestampMs (e + 1000) := timestampMs_mono (by linarith)
  have ends : timestampMs (e + 1000) ≤ timestampMs finish := timestampMs_mono follows.le
  obtain ⟨r, rfl⟩ := rounds_left enough follows
  rcases lt_trichotomy (timestampMs (e + 1000)) (timestampMs e + 1) with twice | same | skipped
  · -- both windows read the last millisecond of the first
    have equal : timestampMs (e + 1000) = timestampMs e := by omega
    have first : 1 ≤ readings (windowsFrom finish maxChunk (r + 1) (e + 1000)) (timestampMs (e + 1000)) :=
      readings_first positive follows
    rw [equal] at first
    have once := covers (timestampMs e)
    rw [if_pos ⟨ordered, le_refl _⟩] at once
    split_ifs at once
    omega
  · exact same
  · -- no window reads the millisecond after the first one
    have none : readings (windowsFrom finish maxChunk (r + 1) (e + 1000)) (timestampMs e + 1) = 0 :=
      readings_before positive skipped
    have once := covers (timestampMs e + 1)
    rw [none, if_neg (by omega), if_pos (by omega)] at once
    omega

theorem abutting_of_coversOnce (positive : 0 < maxChunk)
    (enough : EnoughRounds finish cursor rounds) (within : cursor < finish)
    (covers : CoversOnce (windowsFrom finish maxChunk rounds cursor) cursor finish) :
    Abutting finish maxChunk cursor := by
  induction rounds generalizing cursor with
  | zero =>
    have none : (finish - cursor).toNat = 0 := Nat.le_zero.mp enough
    have ended := Int.toNat_eq_zero.mp none
    exact absurd within (by linarith)
  | succ rounds ih =>
    -- a later chunk ends at least one step after the first
    have spaced : ∀ k : ℕ, cursor + maxChunk + 1000 + maxChunk
        ≤ cursor + (k + 1 : ℕ) * (maxChunk + 1000) + maxChunk := by
      intro k
      push_cast
      have grown : (0 : ℤ) ≤ k * (maxChunk + 1000) :=
        mul_nonneg (Int.natCast_nonneg k) (by linarith)
      linarith
    by_cases short : cursor + maxChunk < finish
    · have ordered : timestampMs cursor ≤ timestampMs (cursor + maxChunk) :=
        timestampMs_mono (by linarith)
      have upTo : timestampMs (cursor + maxChunk) ≤ timestampMs finish := timestampMs_mono short.le
      unfold CoversOnce at covers
      simp only [windowsFrom_step positive short, readings_cons, contains_window] at covers
      by_cases follows : cursor + maxChunk + 1000 < finish
      · simp only [if_pos follows] at covers
        have left : EnoughRounds finish (cursor + maxChunk + 1000) rounds :=
          enough_later enough (by linarith)
        have abuts := abuts_of_readings positive left follows ordered covers
        have rest : CoversOnce (windowsFrom finish maxChunk rounds (cursor + maxChunk + 1000))
            (cursor + maxChunk + 1000) finish := by
          intro g
          have once := covers g
          simp only [contains_window, abuts] at once ⊢
          split_ifs at once ⊢ <;> omega
        have tail := ih left follows rest
        intro k
        cases k with
        | zero =>
          intro _
          simpa [if_pos follows] using abuts
        | succ k =>
          have same : cursor + (k + 1 : ℕ) * (maxChunk + 1000)
              = cursor + maxChunk + 1000 + k * (maxChunk + 1000) := by
            push_cast
            ring
          rw [same]
          exact tail k
      · simp only [if_neg follows] at covers
        have apart : cursor + maxChunk + 1000 ≠ finish := by
          intro meets
          simp only [if_pos meets] at covers
          have left : EnoughRounds finish (cursor + maxChunk) rounds :=
            enough_later enough (by linarith)
          obtain ⟨r, rfl⟩ := rounds_left left short
          have first : 1 ≤ readings (windowsFrom finish maxChunk (r + 1) (cursor + maxChunk))
              (timestampMs (cursor + maxChunk)) := readings_first positive short
          have once := covers (timestampMs (cursor + maxChunk))
          rw [if_pos ⟨ordered, le_refl _⟩] at once
          split_ifs at once
          omega
        simp only [if_neg apart] at covers
        have ends : timestampMs finish = timestampMs (cursor + maxChunk) := by
          have once := covers (timestampMs finish)
          have spans : timestampMs cursor ≤ timestampMs finish := ordered.trans upTo
          simp only [readings, List.countP_nil] at once
          split_ifs at once <;> omega
        intro k reached
        cases k with
        | zero => simpa [if_neg follows, apart] using ends
        | succ k => exact absurd reached (by linarith [spaced k, not_lt.mp follows])
    · intro k reached
      cases k with
      | zero => exact absurd (by simpa using reached) short
      | succ k => exact absurd reached (by linarith [spaced k, not_lt.mp short])

end Walk

/-! ## A log with one event -/

/-- The client that answers from a log. -/
def serve (log : HistoryLog) : HistoryClient := fun r =>
  let rows := inWindow (log r.surface) (r.startTime, r.endTime)
  if r.surface.isList then .ok (.list (pageOf rows r.surface r.position))
  else .ok (.dict ⟨[("total", .int rows.length),
    ("rows", .list (pageOf rows r.surface ((r.position - 1) * r.surface.pageSize)))]⟩)

theorem serves_serve (log : HistoryLog) : Serves (serve log) log where
  listed := by
    intro surface _ isList s e offset
    simp only [serve, isList, if_true]
  paged := by
    intro surface _ isList s e index
    refine ⟨⟨[("total", .int (inWindow (log surface) (s, e)).length),
      ("rows", .list (pageOf (inWindow (log surface) (s, e)) surface (index * surface.pageSize)))]⟩,
      ?_, ?_, .inl ?_⟩
    · simp only [serve, isList, Bool.false_eq_true, if_false, Nat.add_sub_cancel]
    · simp [pyGet, Dict.get?, Dict.find, readTotal]
    · simp [Dict.get?, Dict.find]

/-- A deposit whose row has no `id`. -/
def plainDeposit : Document := ⟨[("coin", .str "USDT")]⟩

def singleDeposit (g : ℤ) : HistoryLog
  | .deposits => [⟨g, plainDeposit⟩]
  | _ => []

def noRefusals : HistoryRefusals := ⟨fun _ _ _ => none, none⟩

theorem inWindow_single (g : ℤ) (w : ℤ × ℤ) :
    inWindow (singleDeposit g .deposits) w = if contains w g then [plainDeposit] else [] := by
  simp only [singleDeposit, inWindow, List.filter_cons, List.filter_nil]
  split <;> rfl

theorem fetchSurface_single (g s e : ℤ) {surface : Surface} (known : surface ∈ historySurfaces)
    (seen : List Value) : fetchSurface (serve (singleDeposit g)) surface s e seen
      = .ok (inWindow (singleDeposit g surface) (s, e), seen) := by
  have taken : Surface.takeIdentity .deposits seen plainDeposit = .ok seen := rfl
  cases surface with
  | deposits =>
    simp only [fetchSurface, fetchPages, Surface.isList, if_true, maxHistoryPages, fetchList, request, serve,
      List.length_nil, inWindow_single, bind, Except.bind]
    by_cases held : contains (s, e) g = true
    · rw [if_pos held, pageOf, readRows_dicts]
      simp [Surface.pageSize, Surface.isList, List.foldlM_cons, taken, bind, Except.bind, pure,
        Except.pure]
    · rw [if_neg held, pageOf, readRows_dicts]
      simp [Surface.pageSize, Surface.isList, pure, Except.pure]
  | withdrawals => rfl
  | earnSubscriptions | earnRedemptions | earnRewards => rfl
  | transfer transferType => rfl

theorem rows_single (g : ℤ) (windows : List (Instant × Instant)) :
    (rowsOf (singleDeposit g .deposits) windows).length = readings windows g := by
  have counted := (rowsOf_cons ⟨g, plainDeposit⟩ [] windows).length_eq
  have none : rowsOf [] windows = [] := by simp [rowsOf, inWindow]
  rw [none, List.append_nil, List.length_replicate] at counted
  exact counted

section Single
variable [CharacterTable]

theorem diagnoseSurface_single (g s e : ℤ) (chunk : ℕ) {surface : Surface}
    (known : surface ∈ historySurfaces) (before : HistoryState) : ∃ after,
      diagnoseSurface (serve (singleDeposit g)) noRefusals chunk s e before surface = .ok after := by
  unfold diagnoseSurface
  rw [fetchSurface_single g s e known]
  by_cases isRewards : surface = .earnRewards
  · subst isRewards
    exact ⟨_, rfl⟩
  · simp only [bind, Except.bind, noRefusals, refuse, if_neg isRewards]
    exact ⟨_, rfl⟩

theorem surfaces_single (g s e : ℤ) (chunk : ℕ) {surfaces : List Surface}
    (known : ∀ surface ∈ surfaces, surface ∈ historySurfaces) (before : HistoryState) : ∃ after,
      surfaces.foldlM (diagnoseSurface (serve (singleDeposit g)) noRefusals chunk s e) before
        = .ok after := by
  induction surfaces generalizing before with
  | nil => exact ⟨before, rfl⟩
  | cons first rest ih =>
    obtain ⟨middle, taken⟩ :=
      diagnoseSurface_single g s e chunk (known first List.mem_cons_self) before
    rw [List.foldlM_cons, taken]
    exact ih (fun surface member => known surface (List.mem_cons_of_mem _ member)) middle

theorem walk_single (g : ℤ) {finish : Instant} {maxChunk : ℤ} (positive : 0 < maxChunk)
    (week : maxChunk ≤ 7 * dayMicros) (rounds chunk : ℕ) (cursor : Instant) (before : HistoryState) :
    ∃ after, walkChunks (serve (singleDeposit g)) noRefusals finish maxChunk rounds chunk cursor before
      = .ok after := by
  induction rounds generalizing chunk cursor before with
  | zero => exact ⟨before, rfl⟩
  | succ rounds ih =>
    unfold walkChunks
    by_cases within : cursor < finish
    · rw [if_pos within]
      have nonempty : (cursor : ℤ) < min (cursor + maxChunk) finish := lt_min (by linarith) within
      have bounded : min (cursor + maxChunk) finish - cursor ≤ 7 * dayMicros := by
        have least := min_le_left (cursor + maxChunk) finish
        linarith
      obtain ⟨middle, read⟩ := surfaces_single g (timestampMs cursor)
        (timestampMs (min (cursor + maxChunk) finish)) chunk (fun _ member => member) before
      have diagnosed : diagnoseBalanceFlows (serve (singleDeposit g)) noRefusals chunk cursor
          (min (cursor + maxChunk) finish) before = .ok middle := by
        unfold diagnoseBalanceFlows
        rw [require_bind_of (by simp only [Bool.and_eq_true, decide_eq_true_eq]; exact ⟨nonempty, bounded⟩)]
        exact read
      dsimp only
      rw [bind_of diagnosed]
      cases nextCursor (min (cursor + maxChunk) finish) finish with
      | none => exact ⟨middle, rfl⟩
      | some following => exact ih (chunk + 1) following middle
    · rw [if_neg within]
      exact ⟨before, rfl⟩

/-! ## Complete results -/

/-- A result that reports every logged event of the span once, and no other. -/
structure Exact (log : HistoryLog) (start finish : Instant) (managedRewardAssets : List String)
    (result : HistoryState) : Prop where
  counts : ∀ surface ∈ historySurfaces, result.counts.get? surface
    = some (inWindow (log surface) (msWindow (start, finish))).length
  rewards : ∃ rows : List Document, rows.Perm (inWindow (log .earnRewards) (msWindow (start, finish)))
    ∧ rows.foldlM creditReward (rewardSumsOf managedRewardAssets) = .ok result.rewardSums

/-- The windows of a whole call. -/
def windowsOf (start finish : Instant) (maxChunk : ℤ) : List (Instant × Instant) :=
  windowsFrom finish maxChunk (finish - start).toNat start

theorem chunked_ok {client : HistoryClient} {refusals : HistoryRefusals} {log : HistoryLog}
    (serves : Serves client log) {start finish now : Instant} {maxChunk : ℤ}
    {managedRewardAssets : List String} {result : HistoryState}
    (success : diagnoseChunkedBalanceFlows client refusals start finish now maxChunk managedRewardAssets
      = .ok result) :
    (∀ surface ∈ historySurfaces, result.counts.get? surface
        = some (rowsOf (log surface) (windowsOf start finish maxChunk)).length)
      ∧ (rowsOf (log .earnRewards) (windowsOf start finish maxChunk)).foldlM creditReward
          (rewardSumsOf managedRewardAssets) = .ok result.rewardSums := by
  obtain ⟨valid, success⟩ := require_bind success
  simp only [Bool.and_eq_true, decide_eq_true_eq] at valid
  obtain ⟨⟨⟨within, -⟩, -⟩, -⟩ := valid
  obtain ⟨last, walked, success⟩ := bind_ok success
  obtain ⟨-, -, success⟩ := bind_ok success
  cases success
  have walked := walk_ok serves walked
  refine ⟨fun surface known => ?_, walked.rewards⟩
  have nonempty : windowsOf start finish maxChunk ≠ [] := by
    obtain ⟨r, isSucc⟩ := rounds_left (le_refl (finish - start).toNat) within
    obtain ⟨rest, split⟩ : ∃ rest, windowsFrom finish maxChunk (r + 1) start
      = (start, min (start + maxChunk) finish) :: rest := windowsFrom_first within
    rw [windowsOf, isSucc, split]
    exact List.cons_ne_nil _ _
  obtain ⟨n, found⟩ := Option.isSome_iff_exists.mp (walked.present surface known (.inl nonempty))
  have counted := walked.counts surface known
  simp only [countOf, found, Option.getD_some, Dict.get?_empty, Option.getD_none, Nat.zero_add] at counted
  rw [found, counted]
  rfl

/-- A log with one deposit is always reported, with the number of windows that read it. -/
theorem chunked_single (g : ℤ) {start finish now : Instant} {maxChunk : ℤ} (within : start < finish)
    (past : finish ≤ now) (positive : 0 < maxChunk) (week : maxChunk ≤ 7 * dayMicros) :
    ∃ result, diagnoseChunkedBalanceFlows (serve (singleDeposit g)) noRefusals start finish now maxChunk []
        = .ok result
      ∧ result.counts.get? .deposits = some (readings (windowsOf start finish maxChunk) g) := by
  obtain ⟨result, walked⟩ : ∃ result, walkChunks (serve (singleDeposit g)) noRefusals finish maxChunk
      (finish - start).toNat 0 start { counts := .empty, seenIdentities := .empty, seenRewards := []
                                       rewardSums := rewardSumsOf [] } = .ok result :=
    walk_single g positive week _ _ _ _
  have success : diagnoseChunkedBalanceFlows (serve (singleDeposit g)) noRefusals start finish now
      maxChunk [] = .ok result := by
    unfold diagnoseChunkedBalanceFlows
    rw [require_bind_of (by
      simp only [Bool.and_eq_true, decide_eq_true_eq]
      exact ⟨⟨⟨within, past⟩, positive⟩, week⟩), walked]
    rfl
  refine ⟨result, success, ?_⟩
  rw [← rows_single]
  exact (chunked_ok (serves_serve _) success).1 .deposits (by decide)

/-- A complete result is exact for every log, if and only if the windows abut. -/
theorem chunked_exact_iff {start finish now : Instant} {maxChunk : ℤ} (within : start < finish)
    (past : finish ≤ now) (positive : 0 < maxChunk) (week : maxChunk ≤ 7 * dayMicros) :
    (∀ client log refusals managedRewardAssets result, Serves client log →
        diagnoseChunkedBalanceFlows client refusals start finish now maxChunk managedRewardAssets
          = .ok result → Exact log start finish managedRewardAssets result)
      ↔ Abutting finish maxChunk start := by
  constructor
  · intro exact
    apply abutting_of_coversOnce positive (le_refl _) within
    intro g
    obtain ⟨result, success, counted⟩ := chunked_single g within past positive week
    have reported := (exact _ _ _ _ _ (serves_serve (singleDeposit g)) success).counts .deposits
      (by decide)
    rw [counted, inWindow_single, Option.some.injEq] at reported
    rw [windowsOf] at reported
    rw [reported]
    split <;> rfl
  · intro abutting client log refusals managedRewardAssets result serves success
    have covers : CoversOnce (windowsOf start finish maxChunk) start finish :=
      coversOnce_of_abutting positive (le_refl _) within abutting
    obtain ⟨counts, rewards⟩ := chunked_ok serves success
    constructor
    · intro surface known
      rw [counts surface known, (rowsOf_coversOnce covers (log surface)).length_eq]
    · exact ⟨_, rowsOf_coversOnce covers (log .earnRewards), rewards⟩

end Single

/-! ## A span that ends within a millisecond of its first window -/

local instance : CharacterTable := asciiTable

/-- 2026-09-12T14:00:00.000999Z. -/
def lateStart : Instant := 1789221600000999

/-- One microsecond after the first window of seven days: 2026-09-19T14:00:00.001Z. -/
def lateFinish : Instant := lateStart + 7 * dayMicros + 1

/-- The beginning of that second. -/
def evenStart : Instant := 1789221600000000

def evenFinish : Instant := evenStart + 2 * dayMicros

/-- Two windows of a day, the second a millisecond after the first. -/
theorem chunked_exact_two_windows : evenStart + dayMicros + 1000 < evenFinish
    ∧ ∀ client log refusals managedRewardAssets result, Serves client log →
      diagnoseChunkedBalanceFlows client refusals evenStart evenFinish lateFinish dayMicros
        managedRewardAssets = .ok result → Exact log evenStart evenFinish managedRewardAssets result := by
  refine ⟨by decide, ?_⟩
  refine (chunked_exact_iff (by decide) (by decide) (by decide) (by decide)).mpr fun k inside => ?_
  have few : (1789221600000000 : ℤ) + k * 86400001000 + 86400000000 < 1789394400000000 := by
    simpa [evenFinish, evenStart, dayMicros] using inside
  obtain rfl : k = 0 := by omega
  rw [if_pos (by decide)]
  decide +kernel

theorem late_windows : windowsOf lateStart lateFinish (7 * dayMicros)
    = [(lateStart, lateStart + 7 * dayMicros)] := by
  obtain ⟨r, isSucc⟩ := rounds_left (le_refl (lateFinish - lateStart).toNat) (by decide)
  rw [windowsOf, isSucc, windowsFrom_step (by decide) (by decide), if_neg (by decide),
    if_neg (by decide)]

/-- The deposit of the last millisecond is not read, and the result is complete. -/
theorem last_millisecond_is_skipped : ∃ client log result, Serves client log
    ∧ diagnoseChunkedBalanceFlows client noRefusals lateStart lateFinish lateFinish (7 * dayMicros) []
        = .ok result
    ∧ (inWindow (log .deposits) (msWindow (lateStart, lateFinish))).length = 1
    ∧ result.counts.get? .deposits = some 0 := by
  obtain ⟨result, success, counted⟩ := chunked_single (timestampMs lateFinish)
    (show lateStart < lateFinish by decide) (le_refl lateFinish)
    (show (0 : ℤ) < 7 * dayMicros by decide) (le_refl _)
  refine ⟨_, _, result, serves_serve _, success, ?_, ?_⟩
  · have held : contains (msWindow (lateStart, lateFinish)) (timestampMs lateFinish) = true :=
      contains_window.mpr ⟨timestampMs_mono (by decide), le_refl _⟩
    rw [inWindow_single, if_pos held]
    rfl
  · have unread : contains (msWindow (lateStart, lateStart + 7 * dayMicros)) (timestampMs lateFinish)
        = false := by
      decide +kernel
    rw [counted, late_windows, readings_cons, unread]
    rfl

end BinancePlatform.Guarantees.ChunkCoverage
