import Mathlib.Init

/-!
# Programs over a state

A program returns a value or ends in an exit, and either way leaves the state it
reached: what ran before an exit is not undone. `Meets` is its triple, with one
postcondition for a returned value and one for an exit; `Yields` lets the first
speak of the value. `Leads` relates the first state to the last.
-/

set_option autoImplicit false

namespace BinancePlatform.Library

def Program (ε σ α : Type) := σ → Except ε α × σ

namespace Program
variable {ε σ α β : Type}

instance : Monad (Program ε σ) where
  pure value := fun state => (.ok value, state)
  bind program next := fun state =>
    match program state with
    | (.ok value, reached) => next value reached
    | (.error left, reached) => (.error left, reached)

/-- End in an exit. -/
def leave (left : ε) : Program ε σ α := fun state => (.error left, state)

def get : Program ε σ σ := fun state => (.ok state, state)

def update (f : σ → σ) : Program ε σ Unit := fun state => (.ok (), f state)

theorem run_bind_ok {program : Program ε σ α} {next : α → Program ε σ β} {state reached : σ} {value : α}
    (ran : program state = (.ok value, reached)) : (program >>= next) state = next value reached := by
  simp [bind, ran]

theorem run_bind_error {program : Program ε σ α} {next : α → Program ε σ β} {state reached : σ} {left : ε}
    (ran : program state = (.error left, reached)) : (program >>= next) state = (.error left, reached) := by
  simp [bind, ran]

theorem bind_assoc (program : Program ε σ α) (next : α → Program ε σ β) {γ : Type}
    (last : β → Program ε σ γ) :
    (program >>= next) >>= last = program >>= fun value => next value >>= last := by
  funext state
  cases ran : program state with
  | mk outcome reached =>
    cases outcome with
    | ok value =>
      rw [run_bind_ok ran]
      simp only [bind, ran]
    | error left => rw [run_bind_error ran, run_bind_error (run_bind_error ran)]

/-- From `P`, the program returns in `Q` or leaves in `E`. -/
def Meets (P : σ → Prop) (program : Program ε σ α) (Q E : σ → Prop) : Prop :=
  ∀ state, P state →
    match program state with
    | (.ok _, reached) => Q reached
    | (.error _, reached) => E reached

variable {P Q R E : σ → Prop}

theorem Meets.bind {program : Program ε σ α} {next : α → Program ε σ β}
    (first : Meets P program Q E) (rest : ∀ value, Meets Q (next value) R E) :
    Meets P (program >>= next) R E := by
  intro state start
  have reached := first state start
  change match (match program state with
    | (.ok value, reached) => next value reached
    | (.error left, reached) => (.error left, reached)) with
    | (.ok _, reached) => R reached
    | (.error _, reached) => E reached
  cases ran : program state with
  | mk outcome after =>
    rw [ran] at reached
    cases outcome with
    | error left => exact reached
    | ok value => exact rest value after reached

theorem Meets.pure {value : α} : Meets P (Pure.pure value : Program ε σ α) P E :=
  fun _ start => start

theorem Meets.leave {left : ε} (leads : ∀ state, P state → E state) :
    Meets P (Program.leave left : Program ε σ α) Q E :=
  fun state start => leads state start

theorem Meets.get : Meets P (Program.get : Program ε σ σ) P E := fun _ start => start

/-- What is read is the state. -/
theorem Meets.get_bind {next : σ → Program ε σ β}
    (rest : ∀ state, P state → Meets (fun same => same = state) (next state) R E) :
    Meets P (Program.get >>= next) R E :=
  fun state start => rest state start state rfl

theorem Meets.update {f : σ → σ} (leads : ∀ state, P state → Q (f state)) :
    Meets P (Program.update f : Program ε σ Unit) Q E :=
  fun state start => leads state start

theorem Meets.ite {condition : Prop} [Decidable condition] {yes no : Program ε σ α}
    (first : Meets P yes Q E) (second : Meets P no Q E) :
    Meets P (if condition then yes else no) Q E := by
  split
  · exact first
  · exact second

theorem Meets.weaken {P' Q' E' : σ → Prop} {program : Program ε σ α} (meets : Meets P' program Q' E')
    (before : ∀ state, P state → P' state) (returned : ∀ state, Q' state → Q state)
    (left : ∀ state, E' state → E state) : Meets P program Q E := by
  intro state start
  have reached := meets state (before state start)
  cases ran : program state with
  | mk outcome after =>
    rw [ran] at reached
    cases outcome with
    | error _ => exact left after reached
    | ok _ => exact returned after reached

/-- Wherever the program ends, the state is as `E` says. -/
theorem Meets.ended {program : Program ε σ α} (meets : Meets P program Q E) {state : σ}
    (start : P state) (returned : ∀ reached, Q reached → E reached) : E (program state).2 := by
  have reached := meets state start
  cases ran : program state with
  | mk outcome after =>
    rw [ran] at reached
    cases outcome with
    | error left => exact reached
    | ok value => exact returned after reached

/-! ## Postconditions on the value -/

/-- From `P`, the program returns a value in `Q` or leaves in `E`. -/
def Yields (P : σ → Prop) (program : Program ε σ α) (Q : α → σ → Prop) (E : σ → Prop) : Prop :=
  ∀ state, P state →
    match program state with
    | (.ok value, reached) => Q value reached
    | (.error _, reached) => E reached

section Yields
variable {P E : σ → Prop} {Q : α → σ → Prop} {R : β → σ → Prop}

theorem Yields.bind {program : Program ε σ α} {next : α → Program ε σ β}
    (first : Yields P program Q E) (rest : ∀ value, Yields (Q value) (next value) R E) :
    Yields P (program >>= next) R E := by
  intro state start
  have reached := first state start
  change match (match program state with
    | (.ok value, reached) => next value reached
    | (.error left, reached) => (.error left, reached)) with
    | (.ok value, reached) => R value reached
    | (.error _, reached) => E reached
  cases ran : program state with
  | mk outcome after =>
    rw [ran] at reached
    cases outcome with
    | error left => exact reached
    | ok value => exact rest value after reached

theorem Yields.pure {value : α} (holds : ∀ state, P state → Q value state) :
    Yields P (Pure.pure value : Program ε σ α) Q E :=
  fun state start => holds state start

theorem Yields.ite {condition : Prop} [Decidable condition] {yes no : Program ε σ α}
    (first : condition → Yields P yes Q E) (second : ¬condition → Yields P no Q E) :
    Yields P (if condition then yes else no) Q E := by
  split
  · apply first
    assumption
  · apply second
    assumption

/-- A precondition that some index meets is met index by index. -/
theorem Yields.of_exists {ι : Type} {start : ι → σ → Prop} {program : Program ε σ α}
    (each : ∀ i, Yields (start i) program Q E) :
    Yields (fun state => ∃ i, start i state) program Q E := by
  rintro state ⟨i, first⟩
  exact each i state first

theorem Yields.weaken {P' E' : σ → Prop} {Q' : α → σ → Prop} {program : Program ε σ α}
    (yields : Yields P' program Q' E') (before : ∀ state, P state → P' state)
    (returned : ∀ value state, Q' value state → Q value state) (left : ∀ state, E' state → E state) :
    Yields P program Q E := by
  intro state start
  have reached := yields state (before state start)
  cases ran : program state with
  | mk outcome after =>
    rw [ran] at reached
    cases outcome with
    | error _ => exact left after reached
    | ok value => exact returned value after reached

/-- Wherever the program ends, the state is as `E` says. -/
theorem Yields.ended {program : Program ε σ α} (yields : Yields P program (fun _ => E) E) {state : σ}
    (start : P state) : E (program state).2 := by
  have reached := yields state start
  cases ran : program state with
  | mk outcome after =>
    rw [ran] at reached
    cases outcome with
    | error _ => exact reached
    | ok _ => exact reached

end Yields

/-! ## What a program leads to -/

/-- However the program ends, its last state is related to its first. -/
def Leads (R : σ → σ → Prop) (program : Program ε σ α) : Prop :=
  ∀ state, R state (program state).2

section Leads
variable {R : σ → σ → Prop}

theorem Leads.pure (refl : ∀ state, R state state) {value : α} :
    Leads R (Pure.pure value : Program ε σ α) := refl

theorem Leads.leave (refl : ∀ state, R state state) {left : ε} :
    Leads R (Program.leave left : Program ε σ α) := refl

/-- The rest may use that its value was returned. -/
theorem Leads.bind_of (trans : ∀ r s t, R r s → R s t → R r t) {program : Program ε σ α}
    {next : α → Program ε σ β} (first : Leads R program)
    (rest : ∀ value, (∃ state reached, program state = (.ok value, reached)) → Leads R (next value)) :
    Leads R (program >>= next) := by
  intro state
  have reached := first state
  change R state (match program state with
    | (.ok value, reached) => next value reached
    | (.error left, reached) => (.error left, reached)).2
  cases ran : program state with
  | mk outcome after =>
    rw [ran] at reached
    cases outcome with
    | error left => exact reached
    | ok value => exact trans _ _ _ reached (rest value ⟨state, after, ran⟩ after)

theorem Leads.bind (trans : ∀ r s t, R r s → R s t → R r t) {program : Program ε σ α}
    {next : α → Program ε σ β} (first : Leads R program) (rest : ∀ value, Leads R (next value)) :
    Leads R (program >>= next) :=
  Leads.bind_of trans first fun value _ => rest value

theorem Leads.ite {condition : Prop} [Decidable condition] {yes no : Program ε σ α}
    (first : condition → Leads R yes) (second : ¬condition → Leads R no) :
    Leads R (if condition then yes else no) := by
  split
  · apply first
    assumption
  · apply second
    assumption

theorem Leads.yields {P E : σ → Prop} {Q : α → σ → Prop} {program : Program ε σ α}
    (leads : Leads R program) (returned : ∀ state value reached, P state → R state reached →
      program state = (.ok value, reached) → Q value reached)
    (left : ∀ state reached, P state → R state reached → E reached) : Yields P program Q E := by
  intro state start
  have related := leads state
  cases ran : program state with
  | mk outcome after =>
    rw [ran] at related
    cases outcome with
    | error _ => exact left state after start related
    | ok value => exact returned state value after start related ran

end Leads

end Program

end BinancePlatform.Library
