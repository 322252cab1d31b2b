import Mathlib.Data.List.Perm.Basic

/-!
# Programs that may raise

Inversion rules for `Except`: a successful sequence gives the value of each of
its steps, a successful loop the result of each iteration. `Reaches` says which
element a loop comes to before it ends or raises.
-/

set_option autoImplicit false

namespace BinancePlatform.Library

variable {ε α β : Type}

/-- `if not ok: raise raised`. -/
def require (ok : Bool) (raised : ε) : Except ε Unit := if ok then .ok () else .error raised

@[simp] theorem require_ok {ok : Bool} {raised : ε} : require ok raised = .ok () ↔ ok = true := by
  unfold require
  split <;> simp_all

theorem require_error {ok : Bool} {raised found : ε} (failed : require ok raised = .error found) :
    found = raised ∧ ok = false := by
  unfold require at failed
  split at failed
  · cases failed
  · cases failed
    exact ⟨rfl, by simp_all⟩

theorem bind_ok {step : Except ε α} {next : α → Except ε β} {value : β}
    (success : (step >>= next) = .ok value) : ∃ x, step = .ok x ∧ next x = .ok value := by
  cases step with
  | error raised => cases success
  | ok x => exact ⟨x, rfl, success⟩

theorem bind_of {step : Except ε α} {next : α → Except ε β} {value : α} (done : step = .ok value) :
    (step >>= next) = next value := by
  rw [done]
  rfl

theorem require_bind {ok : Bool} {raised : ε} {next : Unit → Except ε β} {value : β}
    (success : (require ok raised >>= next) = .ok value) : ok = true ∧ next () = .ok value := by
  obtain ⟨⟨⟩, passed, rest⟩ := bind_ok success
  exact ⟨require_ok.mp passed, rest⟩

theorem require_bind_of {ok : Bool} {raised : ε} {next : Unit → Except ε β} (passed : ok = true) :
    (require ok raised >>= next) = next () := by
  rw [passed]
  rfl

theorem map_ok {step : Except ε α} {f : α → β} {value : β} (success : step.map f = .ok value) :
    ∃ x, step = .ok x ∧ f x = value := by
  cases step with
  | error raised => cases success
  | ok x => exact ⟨x, rfl, Except.ok.inj success⟩

theorem mapError_ok {step : Except ε α} {f : ε → ε} {value : α} (success : step.mapError f = .ok value) :
    step = .ok value := by
  cases step with
  | error raised => cases success
  | ok x => exact success

theorem mapM_ok {f : α → Except ε β} {xs : List α} {ys : List β} (success : xs.mapM f = .ok ys) :
    List.Forall₂ (fun x y => f x = .ok y) xs ys := by
  induction xs generalizing ys with
  | nil =>
    cases success
    exact .nil
  | cons x rest ih =>
    rw [List.mapM_cons] at success
    obtain ⟨y, head, success⟩ := bind_ok success
    obtain ⟨tail, others, success⟩ := bind_ok success
    cases success
    exact .cons head (ih others)

theorem mapM_congr_map {f : α → Except ε β} {xs ys : List α}
    (same : xs.map f = ys.map f) : xs.mapM f = ys.mapM f := by
  have through : ∀ zs : List α, zs.mapM f = (zs.map f).mapM id := by
    intro zs
    rw [List.mapM_map]
    rfl
  rw [through, through, same]

/-- A loop that reads each element before it steps, as a loop over what was read. -/
theorem foldlM_read_ok {σ : Type} {read : α → Except ε β} {step : σ → β → Except ε σ} {xs : List α}
    {start final : σ} :
    xs.foldlM (fun s x => read x >>= step s) start = .ok final
      ↔ ∃ ys, xs.mapM read = .ok ys ∧ ys.foldlM step start = .ok final := by
  induction xs generalizing start with
  | nil => simp [pure, Except.pure]
  | cons x rest ih =>
    rw [List.foldlM_cons, List.mapM_cons]
    cases first : read x with
    | error raised => simp [bind, Except.bind]
    | ok y =>
      change (step start y >>= fun s => List.foldlM (fun s x => read x >>= step s) s rest) = _ ↔ _
      cases stepped : step start y with
      | error raised =>
        constructor
        · intro impossible
          cases impossible
        · rintro ⟨ys, all, folded⟩
          obtain ⟨z, isY, all⟩ := bind_ok all
          obtain ⟨zs, -, all⟩ := bind_ok all
          cases isY
          cases all
          rw [List.foldlM_cons, stepped] at folded
          cases folded
      | ok next =>
        refine Iff.trans ih ⟨?_, ?_⟩
        · rintro ⟨ys, all, folded⟩
          refine ⟨y :: ys, by rw [all]; rfl, ?_⟩
          rw [List.foldlM_cons, stepped]
          exact folded
        · rintro ⟨ys, all, folded⟩
          obtain ⟨z, isY, all⟩ := bind_ok all
          obtain ⟨zs, others, all⟩ := bind_ok all
          cases isY
          cases all
          rw [List.foldlM_cons, stepped] at folded
          exact ⟨zs, others, folded⟩

theorem forall₂_exists {r : α → β → Prop} {xs : List α} {ys : List β} (paired : List.Forall₂ r xs ys)
    {x : α} (member : x ∈ xs) : ∃ y, y ∈ ys ∧ r x y := by
  induction paired with
  | nil => cases member
  | cons head _ ih =>
    rcases List.mem_cons.mp member with rfl | inRest
    · exact ⟨_, List.mem_cons_self, head⟩
    · obtain ⟨y, inTail, related⟩ := ih inRest
      exact ⟨y, List.mem_cons_of_mem _ inTail, related⟩

theorem exists_error_of_mapM {f : α → Except ε β} {xs : List α} {raised : ε}
    (failed : xs.mapM f = .error raised) : ∃ x ∈ xs, f x = .error raised := by
  induction xs with
  | nil => simp [pure, Except.pure] at failed
  | cons head tail ih =>
    rw [List.mapM_cons] at failed
    cases first : f head with
    | error e =>
      simp only [first, bind, Except.bind, Except.error.injEq] at failed
      exact ⟨head, List.mem_cons_self, failed ▸ first⟩
    | ok y =>
      cases rest : tail.mapM f with
      | error e =>
        simp only [first, rest, bind, Except.bind, Except.error.injEq] at failed
        obtain ⟨x, member, raises⟩ := ih (rest.trans (congrArg _ failed))
        exact ⟨x, List.mem_cons_of_mem head member, raises⟩
      | ok ys => simp [first, rest, bind, Except.bind, pure, Except.pure] at failed

theorem mapM_total {f : α → Except ε β} {xs : List α} (each : ∀ x ∈ xs, ∃ y, f x = .ok y) :
    ∃ ys, xs.mapM f = .ok ys := by
  cases read : xs.mapM f with
  | ok ys => exact ⟨ys, rfl⟩
  | error raised =>
    obtain ⟨x, member, failed⟩ := exists_error_of_mapM read
    obtain ⟨y, worked⟩ := each x member
    rw [worked] at failed
    cases failed

/-- What the body of a loop keeps of each element. -/
theorem mapM_kept {γ : Type} {f : α → Except ε β} {xs : List α} {ys : List β} {g : α → γ} {h : β → γ}
    (success : xs.mapM f = .ok ys) (kept : ∀ x ∈ xs, ∀ y, f x = .ok y → h y = g x) :
    ys.map h = xs.map g := by
  have paired := mapM_ok success
  clear success
  induction paired with
  | nil => rfl
  | cons head _ ih =>
    rw [List.map_cons, List.map_cons, kept _ List.mem_cons_self _ head,
      ih fun x member => kept x (List.mem_cons_of_mem _ member)]

theorem mapM_of_forall₂ {f : α → Except ε β} {xs : List α} {ys : List β}
    (paired : List.Forall₂ (fun x y => f x = .ok y) xs ys) : xs.mapM f = .ok ys := by
  induction paired with
  | nil => rfl
  | cons head _ ih =>
    rw [List.mapM_cons, bind_of head, bind_of ih]
    rfl

theorem mapM_perm {f : α → Except ε β} {xs ys : List α} {us : List β}
    (perm : ys.Perm xs) (read : xs.mapM f = .ok us) : ∃ vs, ys.mapM f = .ok vs ∧ vs.Perm us := by
  obtain ⟨vs, paired, same⟩ := List.perm_comp_forall₂ perm (mapM_ok read)
  exact ⟨vs, mapM_of_forall₂ paired, same⟩

theorem forM_ok {xs : List α} {check : α → Except ε Unit} (success : xs.forM check = .ok ()) :
    ∀ x ∈ xs, check x = .ok () := by
  induction xs with
  | nil => simp
  | cons first rest ih =>
    change (check first >>= fun _ => rest.forM check) = .ok () at success
    obtain ⟨⟨⟩, checked, others⟩ := bind_ok success
    intro x member
    rcases List.mem_cons.mp member with rfl | later
    · exact checked
    · exact ih others x later

/-! ## What a loop comes to -/

section Reaches
variable {σ : Type} {m : Type → Type} [Monad m]

/-- The loop comes to an element, with all before it gone through, in a state. -/
def Reaches (step : σ → α → m σ) (start : σ) (xs : List α) (state : σ) (x : α) : Prop :=
  ∃ before after, xs = before ++ x :: after ∧ before.foldlM step start = pure state

variable {step : σ → α → m σ} {start state : σ} {xs : List α} {x y : α}

theorem Reaches.head : Reaches step start (x :: xs) start x := ⟨[], xs, rfl, List.foldlM_nil⟩

theorem Reaches.tail [LawfulMonad m] {next : σ} (ran : step start y = pure next)
    (reaches : Reaches step next xs state x) : Reaches step start (y :: xs) state x := by
  obtain ⟨before, after, rfl, folded⟩ := reaches
  exact ⟨y :: before, after, rfl, by rw [List.foldlM_cons, ran, pure_bind, folded]⟩

theorem Reaches.mem (reaches : Reaches step start xs state x) : x ∈ xs := by
  obtain ⟨before, after, rfl, -⟩ := reaches
  exact List.mem_append_right before List.mem_cons_self

/-- A loop that ends has come to each element, and gone through it. -/
theorem reaches_of_ok {step : σ → α → Except ε σ} {start final : σ} {xs : List α} {x : α}
    (ran : xs.foldlM step start = .ok final) (member : x ∈ xs) :
    ∃ state next, Reaches step start xs state x ∧ step state x = .ok next := by
  induction xs generalizing start with
  | nil => cases member
  | cons y rest ih =>
    rw [List.foldlM_cons] at ran
    obtain ⟨next, first, ran⟩ := bind_ok ran
    rcases List.mem_cons.mp member with rfl | later
    · exact ⟨start, next, .head, first⟩
    · obtain ⟨state, reached, comes, stepped⟩ := ih ran later
      exact ⟨state, reached, comes.tail first, stepped⟩

end Reaches

end BinancePlatform.Library
