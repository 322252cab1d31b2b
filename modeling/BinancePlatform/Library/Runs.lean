import Mathlib.Data.List.Basic

/-!
# Runs of a labelled step relation

A run lists the labels of its steps. An invariant of the steps holds in every
state reached, and what the steps show of their labels under an invariant holds
of every label of the run.
-/

set_option autoImplicit false

namespace BinancePlatform.Library

inductive Run {σ ℓ : Type} (step : σ → ℓ → σ → Prop) (first : σ) : List ℓ → σ → Prop where
  | start : Run step first [] first
  | next {labels : List ℓ} {label : ℓ} {before after : σ} (earlier : Run step first labels before)
      (taken : step before label after) : Run step first (labels ++ [label]) after

namespace Run
variable {σ ℓ : Type} {step : σ → ℓ → σ → Prop} {first last : σ} {labels : List ℓ}

theorem invariant {holds : σ → Prop} (initial : holds first)
    (keeps : ∀ before label after, holds before → step before label after → holds after)
    (run : Run step first labels last) : holds last := by
  induction run with
  | start => exact initial
  | next earlier taken ih => exact keeps _ _ _ ih taken

/-- A run of steps is one of any relation that allows them. -/
theorem mono {allows : σ → ℓ → σ → Prop} (allowed : ∀ before label after, step before label after →
    allows before label after) (run : Run step first labels last) : Run allows first labels last := by
  induction run with
  | start => exact .start
  | next earlier taken ih => exact .next ih (allowed _ _ _ taken)

theorem append {middle : σ} {others : List ℓ} (run : Run step first labels middle)
    (rest : Run step middle others last) : Run step first (labels ++ others) last := by
  induction rest with
  | start =>
    rw [List.append_nil]
    exact run
  | next earlier taken ih =>
    rw [← List.append_assoc]
    exact .next ih taken

/-- The step that carries a given label of the run. -/
theorem split {front back : List ℓ} {label : ℓ} (run : Run step first (front ++ label :: back) last) :
    ∃ before after, Run step first front before ∧ step before label after
      ∧ Run step after back last := by
  generalize same : front ++ label :: back = labels at run
  induction run generalizing back with
  | start => simp at same
  | @next labels final before after earlier taken ih =>
    rcases List.eq_nil_or_concat back with rfl | ⟨init, tail, rfl⟩
    · obtain ⟨rfl, singles⟩ := List.append_inj' same rfl
      cases singles
      exact ⟨before, after, earlier, taken, .start⟩
    · rw [List.concat_eq_append, ← List.cons_append, ← List.append_assoc] at same
      obtain ⟨fronts, singles⟩ := List.append_inj' same rfl
      cases singles
      obtain ⟨source, target, run, labelled, rest⟩ := ih fronts
      refine ⟨source, target, run, labelled, ?_⟩
      rw [List.concat_eq_append]
      exact .next rest taken

end Run
end BinancePlatform.Library
