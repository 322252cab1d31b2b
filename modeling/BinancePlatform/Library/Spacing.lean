import Mathlib.Logic.Function.Basic
import Mathlib.Data.List.Basic

/-!
# Logs that never repeat a slot's last value

A log lists values written to slots. It is spaced when no write repeats the value
its slot already holds; then two equal writes have a different one of that slot
between them. `Holds` is what a store of the last values must satisfy for the next
write to be judged by the store alone.
-/

set_option autoImplicit false

namespace BinancePlatform.Library.Spacing
variable {κ α : Type} [DecidableEq κ]

/-- The last value of every slot after a log. -/
def lastOf (held : κ → Option α) (log : List (κ × α)) : κ → Option α :=
  log.foldl (fun held write => Function.update held write.1 (some write.2)) held

/-- No write repeats the value that its slot holds. -/
def Spaced : (κ → Option α) → List (κ × α) → Prop
  | _, [] => True
  | held, (slot, value) :: rest =>
    held slot ≠ some value ∧ Spaced (Function.update held slot (some value)) rest

@[simp] theorem lastOf_nil (held : κ → Option α) : lastOf held [] = held := rfl

@[simp] theorem lastOf_cons (held : κ → Option α) (slot : κ) (value : α) (rest : List (κ × α)) :
    lastOf held ((slot, value) :: rest) = lastOf (Function.update held slot (some value)) rest := rfl

@[simp] theorem lastOf_concat (held : κ → Option α) (log : List (κ × α)) (slot : κ) (value : α) :
    lastOf held (log ++ [(slot, value)]) = Function.update (lastOf held log) slot (some value) := by
  simp [lastOf]

theorem spaced_append (held : κ → Option α) (log rest : List (κ × α)) :
    Spaced held (log ++ rest) ↔ Spaced held log ∧ Spaced (lastOf held log) rest := by
  induction log generalizing held with
  | nil => simp [Spaced]
  | cons write log ih =>
    obtain ⟨slot, value⟩ := write
    simp only [List.cons_append, Spaced, lastOf_cons, ih, and_assoc]

/-- A slot that holds a value takes another one before it takes that one again. -/
theorem Spaced.changes {held : κ → Option α} {slot : κ} {value : α} {between back : List (κ × α)}
    (holding : held slot = some value) (spaced : Spaced held (between ++ (slot, value) :: back)) :
    ∃ other, (slot, other) ∈ between ∧ other ≠ value := by
  induction between generalizing held with
  | nil => exact absurd holding spaced.1
  | cons write between ih =>
    obtain ⟨written, other⟩ := write
    obtain ⟨fresh, rest⟩ := spaced
    by_cases same : written = slot
    · subst same
      refine ⟨other, List.mem_cons_self, ?_⟩
      rintro rfl
      exact fresh holding
    · have kept : Function.update held written (some other) slot = some value := by
        rw [Function.update_of_ne (Ne.symm same), holding]
      obtain ⟨found, member, differs⟩ := ih kept rest
      exact ⟨found, List.mem_cons_of_mem _ member, differs⟩

/-- Two equal writes of a spaced log have a different one of their slot between them. -/
theorem Spaced.separated {held : κ → Option α} {slot : κ} {value : α}
    {front between back : List (κ × α)}
    (spaced : Spaced held (front ++ (slot, value) :: between ++ (slot, value) :: back)) :
    ∃ other, (slot, other) ∈ between ∧ other ≠ value := by
  rw [List.append_assoc, List.cons_append, spaced_append] at spaced
  exact Spaced.changes (by simp) spaced.2.2

/-- The store knows the last value of every slot that was written. -/
def Holds (store held : κ → Option α) : Prop := ∀ slot value, held slot = some value → store slot = some value

theorem Holds.update {store next held : κ → Option α} {slot : κ} {value : α} (holds : Holds store held)
    (written : next slot = some value)
    (others : ∀ other found, other ≠ slot → store other = some found → next other = some found) :
    Holds next (Function.update held slot (some value)) := by
  intro queried found last
  by_cases same : queried = slot
  · subst same
    rw [Function.update_self] at last
    rw [written, ← last]
  · rw [Function.update_of_ne same] at last
    exact others queried found same (holds queried found last)

/-- A write that the store does not already show keeps a log spaced. -/
theorem Spaced.concat {store : κ → Option α} {log : List (κ × α)} {slot : κ} {value : α}
    (spaced : Spaced (fun _ => none) log) (holds : Holds store (lastOf (fun _ => none) log))
    (fresh : store slot ≠ some value) : Spaced (fun _ => none) (log ++ [(slot, value)]) := by
  rw [spaced_append]
  refine ⟨spaced, ?_, trivial⟩
  intro last
  exact fresh (holds slot value last)

end BinancePlatform.Library.Spacing
