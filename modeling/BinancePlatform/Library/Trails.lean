import Mathlib.Data.List.Chain

/-!
# Programs whose states are all seen

A trail is a program over a state that also lists the states it passes: one for each
update, up to the exit where it ends in one. `Walks` is its triple: from `P`, each state
passed is related by `R` to the one before it, and a returned value meets `Q`.
-/

set_option autoImplicit false

namespace BinancePlatform.Library

structure Passage (ε σ α : Type) where
  passed : List σ
  outcome : Except ε α
  reached : σ

def Trail (ε σ α : Type) := σ → Passage ε σ α

/-- The states of a list follow one another from the first state to the last. -/
inductive Route {σ : Type} (R : σ → σ → Prop) : σ → List σ → σ → Prop where
  | nil (s : σ) : Route R s [] s
  | cons {s t u : σ} {rest : List σ} (first : R s t) (later : Route R t rest u) : Route R s (t :: rest) u

namespace Route
variable {σ : Type} {R : σ → σ → Prop}

theorem append {s t u : σ} {xs ys : List σ} (first : Route R s xs t) (second : Route R t ys u) :
    Route R s (xs ++ ys) u := by
  induction first with
  | nil => exact second
  | cons step _ ih => exact .cons step (ih second)

theorem isChain {s t : σ} {xs : List σ} (route : Route R s xs t) : (s :: xs).IsChain R := by
  induction route with
  | nil => exact .singleton _
  | cons step _ ih => exact .cons_cons step ih

/-- What each step keeps holds in every state of the route. -/
theorem forall_mem {I : σ → Prop} (keeps : ∀ s t, R s t → I s → I t) {s t : σ} {xs : List σ}
    (route : Route R s xs t) (start : I s) : ∀ u ∈ s :: xs, I u := by
  induction route with
  | nil =>
    intro u member
    rwa [List.mem_singleton.mp member]
  | cons step _ ih =>
    intro u member
    rcases List.mem_cons.mp member with rfl | later
    · exact start
    · exact ih (keeps _ _ step start) u later

end Route

namespace Trail
variable {ε σ α β : Type}

instance : Monad (Trail ε σ) where
  pure value := fun state => ⟨[], .ok value, state⟩
  bind program next := fun state =>
    let ran := program state
    match ran.outcome with
    | .ok value =>
      let after := next value ran.reached
      ⟨ran.passed ++ after.passed, after.outcome, after.reached⟩
    | .error left => ⟨ran.passed, .error left, ran.reached⟩

def get : Trail ε σ σ := fun state => ⟨[], .ok state, state⟩

def evaluate (outcome : Except ε α) : Trail ε σ α := fun state => ⟨[], outcome, state⟩

/-- One update, whose state is passed. -/
def step (f : σ → σ) : Trail ε σ Unit := fun state => ⟨[f state], .ok (), f state⟩

def each (body : β → Trail ε σ Unit) : List β → Trail ε σ Unit
  | [] => pure ()
  | x :: xs => do
    body x
    each body xs

/-- From `P`, the states passed are a route of `R`, and a returned value meets `Q`. -/
def Walks (R : σ → σ → Prop) (P : σ → Prop) (program : Trail ε σ α) (Q : α → σ → Prop) : Prop :=
  ∀ state, P state → Route R state (program state).passed (program state).reached
    ∧ ∀ value, (program state).outcome = .ok value → Q value (program state).reached

variable {R : σ → σ → Prop} {P : σ → Prop}

theorem Walks.bind {Q : α → σ → Prop} {T : β → σ → Prop} {program : Trail ε σ α} {next : α → Trail ε σ β}
    (first : Walks R P program Q) (rest : ∀ value, Walks R (Q value) (next value) T) :
    Walks R P (program >>= next) T := by
  intro state start
  obtain ⟨route, met⟩ := first state start
  cases ran : program state with
  | mk passed outcome reached =>
    rw [ran] at route met
    cases outcome with
    | error left =>
      simp only [Bind.bind, ran]
      exact ⟨route, fun _ returned => nomatch returned⟩
    | ok value =>
      obtain ⟨onward, ends⟩ := rest value reached (met value rfl)
      simp only [Bind.bind, ran]
      exact ⟨route.append onward, ends⟩

theorem Walks.pure {Q : α → σ → Prop} {value : α} (holds : ∀ state, P state → Q value state) :
    Walks R P (Pure.pure value : Trail ε σ α) Q := by
  intro state start
  refine ⟨.nil _, ?_⟩
  rintro _ ⟨⟩
  exact holds state start

theorem Walks.get : Walks R P (Trail.get : Trail ε σ σ) fun value state => P state ∧ value = state := by
  intro state start
  refine ⟨.nil _, ?_⟩
  rintro _ ⟨⟩
  exact ⟨start, rfl⟩

theorem Walks.evaluate {outcome : Except ε α} :
    Walks R P (Trail.evaluate outcome : Trail ε σ α) fun _ => P :=
  fun _ start => ⟨.nil _, fun _ _ => start⟩

theorem Walks.step {Q : σ → Prop} {f : σ → σ} (related : ∀ state, P state → R state (f state))
    (holds : ∀ state, P state → Q (f state)) :
    Walks R P (Trail.step f : Trail ε σ Unit) fun _ => Q :=
  fun state start => ⟨.cons (related state start) (.nil _), fun _ _ => holds state start⟩

theorem Walks.ite {Q : α → σ → Prop} {condition : Prop} [Decidable condition] {yes no : Trail ε σ α}
    (holds : condition → Walks R P yes Q) (fails : ¬condition → Walks R P no Q) :
    Walks R P (if condition then yes else no) Q := by
  by_cases known : condition
  · rw [if_pos known]
    exact holds known
  · rw [if_neg known]
    exact fails known

/-- A loop invariant. -/
theorem Walks.each {body : β → Trail ε σ Unit} (once : ∀ x, Walks R P (body x) fun _ => P) (xs : List β) :
    Walks R P (Trail.each body xs) fun _ => P := by
  induction xs with
  | nil => exact Walks.pure fun _ start => start
  | cons x xs ih => exact (once x).bind fun _ => ih

end Trail
end BinancePlatform.Library
