import Mathlib.Data.List.Sort
import Mathlib.Data.List.Pairwise
import Mathlib.Order.Interval.Set.Basic

/-!
# Tilings of an interval

Half-open pieces `[start x, finish x)` over a linear order. A list tiles `[a, b)` when
each piece starts where the one before ends; for a sorted list of pieces this is the
same as covering `[a, b)` exactly with disjoint pieces (`tiles_iff`).
-/

set_option autoImplicit false

namespace BinancePlatform.Library

variable {ι τ : Type} [LinearOrder τ] (start finish : ι → τ)

def Tiles : τ → List ι → τ → Prop
  | a, [], b => a = b
  | a, x :: rest, b => start x = a ∧ start x < finish x ∧ Tiles (finish x) rest b

/-- A point lies in a piece. -/
def Covers (x : ι) (t : τ) : Prop := start x ≤ t ∧ t < finish x

/-- Two pieces share no point. -/
def Apart (x y : ι) : Prop := finish x ≤ start y ∨ finish y ≤ start x

variable {start finish}

namespace Tiles

theorem le {a b : τ} {pieces : List ι} (tiles : Tiles start finish a pieces b) : a ≤ b := by
  induction pieces generalizing a with
  | nil => exact le_of_eq tiles
  | cons x rest ih =>
    obtain ⟨rfl, grows, others⟩ := tiles
    exact grows.le.trans (ih others)

theorem covers_iff {a b : τ} {pieces : List ι} (tiles : Tiles start finish a pieces b) (t : τ) :
    (∃ x ∈ pieces, Covers start finish x t) ↔ a ≤ t ∧ t < b := by
  induction pieces generalizing a with
  | nil =>
    obtain rfl : a = b := tiles
    simp
  | cons x rest ih =>
    obtain ⟨rfl, grows, others⟩ := tiles
    rw [List.exists_mem_cons_iff, ih others, Covers]
    constructor
    · rintro (⟨low, high⟩ | ⟨low, high⟩)
      · exact ⟨low, high.trans_le others.le⟩
      · exact ⟨grows.le.trans low, high⟩
    · rintro ⟨low, high⟩
      by_cases first : t < finish x
      · exact .inl ⟨low, first⟩
      · exact .inr ⟨not_lt.mp first, high⟩

theorem starts_after {a b : τ} {pieces : List ι} (tiles : Tiles start finish a pieces b) :
    ∀ x ∈ pieces, a ≤ start x ∧ start x < finish x ∧ finish x ≤ b := by
  induction pieces generalizing a with
  | nil => simp
  | cons x rest ih =>
    obtain ⟨rfl, grows, others⟩ := tiles
    intro y member
    rcases List.mem_cons.mp member with rfl | inRest
    · exact ⟨le_rfl, grows, others.le⟩
    · obtain ⟨low, inner, high⟩ := ih others y inRest
      exact ⟨grows.le.trans low, inner, high⟩

theorem pairwise {a b : τ} {pieces : List ι} (tiles : Tiles start finish a pieces b) :
    pieces.Pairwise fun x y => finish x ≤ start y := by
  induction pieces generalizing a with
  | nil => exact .nil
  | cons x rest ih =>
    obtain ⟨rfl, grows, others⟩ := tiles
    exact .cons (fun y inRest => (others.starts_after y inRest).1) (ih others)

/-- The first pieces tile the interval up to where they end. -/
theorem initial {a b : τ} {front pieces : List ι} (tiles : Tiles start finish a pieces b)
    (first : front <+: pieces) : ∃ m, Tiles start finish a front m ∧ m ≤ b := by
  obtain ⟨rest, rfl⟩ := first
  induction front generalizing a with
  | nil => exact ⟨a, rfl, tiles.le⟩
  | cons x front ih =>
    obtain ⟨rfl, grows, others⟩ := tiles
    obtain ⟨m, tiled, below⟩ := ih others
    exact ⟨m, ⟨rfl, grows, tiled⟩, below⟩

/-- Ordered pieces that cover exactly `[a, b)` tile it. -/
theorem of_covers {a b : τ} {pieces : List ι} (order : a ≤ b)
    (grow : ∀ x ∈ pieces, start x < finish x)
    (ordered : pieces.Pairwise fun x y => finish x ≤ start y)
    (covered : ∀ t, (∃ x ∈ pieces, Covers start finish x t) ↔ a ≤ t ∧ t < b) :
    Tiles start finish a pieces b := by
  induction pieces generalizing a with
  | nil =>
    refine le_antisymm order (not_lt.mp fun inside => ?_)
    obtain ⟨x, member, -⟩ := (covered a).mpr ⟨le_rfl, inside⟩
    cases member
  | cons x rest ih =>
    obtain ⟨later, ordered⟩ := List.pairwise_cons.mp ordered
    have grows := grow x List.mem_cons_self
    have inside := (covered (start x)).mp ⟨x, List.mem_cons_self, le_rfl, grows⟩
    -- The point `a` is covered, and every later piece starts after the first one.
    have first : start x = a := by
      refine le_antisymm ?_ inside.1
      obtain ⟨y, member, low, -⟩ := (covered a).mpr ⟨le_rfl, inside.1.trans_lt inside.2⟩
      rcases List.mem_cons.mp member with rfl | inRest
      · exact low
      · exact (grows.le.trans (later y inRest)).trans low
    subst first
    have ends : finish x ≤ b := by
      by_contra short
      obtain ⟨y, member, low, high⟩ | outside := em (∃ y ∈ x :: rest, Covers start finish y b)
      · exact lt_irrefl b ((covered b).mp ⟨y, member, low, high⟩).2
      · exact outside ⟨x, List.mem_cons_self, order, not_le.mp short⟩
    refine ⟨rfl, grows, ih ends (fun y inRest => grow y (List.mem_cons_of_mem _ inRest)) ordered ?_⟩
    intro t
    constructor
    · rintro ⟨y, inRest, low, high⟩
      exact ⟨(later y inRest).trans low,
        ((covered t).mp ⟨y, List.mem_cons_of_mem _ inRest, low, high⟩).2⟩
    · rintro ⟨low, high⟩
      obtain ⟨y, member, inPiece⟩ := (covered t).mpr ⟨grows.le.trans low, high⟩
      rcases List.mem_cons.mp member with rfl | inRest
      · exact absurd inPiece.2 (not_lt.mpr low)
      · exact ⟨y, inRest, inPiece⟩

end Tiles

/-- Two members of an ordered list stand in one order or the other. -/
theorem either_order {R : ι → ι → Prop} {pieces : List ι} (ordered : pieces.Pairwise R) {x y : ι}
    (isX : x ∈ pieces) (isY : y ∈ pieces) (different : x ≠ y) : R x y ∨ R y x := by
  have symmetric : Std.Symm fun a b => R a b ∨ R b a := ⟨fun _ _ => Or.symm⟩
  have both : pieces.Pairwise fun a b => R a b ∨ R b a := ordered.imp Or.inl
  exact both.forall isX isY different

/-- Pieces sorted by their start that are apart follow one another. -/
theorem ordered_of_apart {pieces : List ι} (grow : ∀ x ∈ pieces, start x < finish x)
    (sorted : pieces.Pairwise fun x y => start x ≤ start y)
    (apart : pieces.Pairwise (Apart start finish)) :
    pieces.Pairwise fun x y => finish x ≤ start y := by
  refine (sorted.and apart).imp_of_mem fun {x y} _ inY both => ?_
  rcases both.2 with before | after
  · exact before
  · exact absurd (both.1.trans_lt (grow y inY)) (not_lt.mpr after)

/-- A list sorted by start tiles an interval exactly when its pieces are apart and cover it. -/
theorem tiles_iff {a b : τ} {pieces : List ι} (order : a ≤ b)
    (grow : ∀ x ∈ pieces, start x < finish x)
    (sorted : pieces.Pairwise fun x y => start x ≤ start y) :
    Tiles start finish a pieces b ↔ pieces.Pairwise (Apart start finish)
      ∧ ∀ t, (∃ x ∈ pieces, Covers start finish x t) ↔ a ≤ t ∧ t < b := by
  constructor
  · intro tiles
    exact ⟨tiles.pairwise.imp fun before => .inl before, tiles.covers_iff⟩
  · rintro ⟨apart, covered⟩
    exact .of_covers order grow (ordered_of_apart grow sorted apart) covered

end BinancePlatform.Library
