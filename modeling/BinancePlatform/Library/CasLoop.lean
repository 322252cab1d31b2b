import BinancePlatform.Library.Runs

/-!
# Compare-and-swap loops

A caller loads a stored value with its generation, merges its request into what it
loaded, and swaps the result in if the generation is still the loaded one; otherwise it
tries again, as often as the limit allows. A merge that changes nothing needs no swap.
Whatever the interleaving of the callers, the stored value is the one that the merged
requests give one after the other (`merges_of_run`).
-/

set_option autoImplicit false

namespace BinancePlatform.Library.CasLoop

/-- Where one caller stands. -/
inductive Caller (σ γ : Type) where
  | idle
  | trying (request : γ) (attempts : ℕ)
  | holding (request : γ) (attempts generation : ℕ) (next : σ)
  | returned
  | raised

structure System (σ γ : Type) where
  stored : Option σ
  generation : ℕ
  callers : ℕ → Caller σ γ

inductive Event (σ γ : Type) where
  | merged (request : γ) (before : Option σ)
  | quiet

variable {σ γ ε : Type}

def System.setCaller (system : System σ γ) (who : ℕ) (caller : Caller σ γ) : System σ γ :=
  { system with callers := fun other => if other = who then caller else system.callers other }

/-- The requests that were merged, in the order of their merges. -/
def mergedRequests (events : List (Event σ γ)) : List γ :=
  events.filterMap fun
    | .merged request _ => some request
    | .quiet => none

section Loop
variable (merge : Option σ → γ → Except ε σ) (accepts : γ → Prop) (limit : ℕ)

/-- A swap is atomic; its outcome may stay unknown to the caller, who then raises. A
caller may stop at any time, in particular where its merge fails. -/
inductive Step : System σ γ → Event σ γ → System σ γ → Prop where
  | begin {system : System σ γ} {who : ℕ} {request : γ} (idle : system.callers who = .idle)
      (accepted : accepts request) : Step system .quiet (system.setCaller who (.trying request limit))
  | same {system : System σ γ} {who attempts : ℕ} {request : γ} {next : σ}
      (ready : system.callers who = .trying request (attempts + 1))
      (merged : merge system.stored request = .ok next) (unchanged : system.stored = some next) :
      Step system (.merged request system.stored) (system.setCaller who .returned)
  | load {system : System σ γ} {who attempts : ℕ} {request : γ} {next : σ}
      (ready : system.callers who = .trying request (attempts + 1))
      (merged : merge system.stored request = .ok next) (changed : system.stored ≠ some next) :
      Step system .quiet (system.setCaller who (.holding request attempts system.generation next))
  | swap {system : System σ γ} {who attempts : ℕ} {request : γ} {next : σ} (outcome : Caller σ γ)
      (ready : system.callers who = .holding request attempts system.generation next)
      (known : outcome = .returned ∨ outcome = .raised) :
      Step system (.merged request system.stored)
        ({ system with stored := some next, generation := system.generation + 1 }.setCaller who outcome)
  | stale {system : System σ γ} {who attempts generation : ℕ} {request : γ} {next : σ}
      (ready : system.callers who = .holding request attempts generation next)
      (other : generation ≠ system.generation) :
      Step system .quiet (system.setCaller who (.trying request attempts))
  | stopped {system : System σ γ} {who : ℕ} : Step system .quiet (system.setCaller who .raised)

/-- One request is merged into the stored value. -/
def Merges (before : Option σ) (request : γ) (after : Option σ) : Prop :=
  ∃ next, merge before request = .ok next ∧ after = some next

/-- What a caller holds was merged into the value of that generation, and it was accepted. -/
structure Sound (system : System σ γ) : Prop where
  accepted : ∀ who request attempts, system.callers who = .trying request attempts → accepts request
  held : ∀ who request attempts generation next,
    system.callers who = .holding request attempts generation next → accepts request
      ∧ generation ≤ system.generation
      ∧ (generation = system.generation → merge system.stored request = .ok next)

variable {merge accepts limit}

theorem setCaller_self (system : System σ γ) (who : ℕ) (caller : Caller σ γ) :
    (system.setCaller who caller).callers who = caller := if_pos rfl

theorem setCaller_other (system : System σ γ) {who other : ℕ} (caller : Caller σ γ) (different : other ≠ who) :
    (system.setCaller who caller).callers other = system.callers other := if_neg different

theorem sound_of_idle {system : System σ γ} (idle : ∀ who, system.callers who = .idle) :
    Sound merge accepts system := by
  constructor
  · intro who request attempts standing
    rw [idle who] at standing
    cases standing
  · intro who request attempts generation next standing
    rw [idle who] at standing
    cases standing

/-- Only the caller that moves changes, and the stored value stays. -/
theorem Sound.set {system : System σ γ} (sound : Sound merge accepts system) {who : ℕ} {caller : Caller σ γ}
    (trying : ∀ request attempts, caller = .trying request attempts → accepts request)
    (holding : ∀ request attempts generation next, caller = .holding request attempts generation next →
      accepts request ∧ generation ≤ system.generation
        ∧ (generation = system.generation → merge system.stored request = .ok next)) :
    Sound merge accepts (system.setCaller who caller) := by
  constructor
  · intro other request attempts standing
    by_cases same : other = who
    · subst same
      rw [setCaller_self] at standing
      exact trying request attempts standing
    · rw [setCaller_other _ _ same] at standing
      exact sound.accepted other request attempts standing
  · intro other request attempts generation next standing
    by_cases same : other = who
    · subst same
      rw [setCaller_self] at standing
      exact holding request attempts generation next standing
    · rw [setCaller_other _ _ same] at standing
      exact sound.held other request attempts generation next standing

/-- A write makes every held generation an old one. -/
theorem Sound.write {system : System σ γ} (sound : Sound merge accepts system) (next : σ) :
    Sound merge accepts { system with stored := some next, generation := system.generation + 1 } := by
  refine ⟨sound.accepted, fun who request attempts generation held standing => ?_⟩
  obtain ⟨accepted, old, -⟩ := sound.held who request attempts generation held standing
  exact ⟨accepted, Nat.le_trans old (Nat.le_succ _), fun same => absurd same (Nat.ne_of_lt (Nat.lt_succ_of_le old))⟩

theorem Sound.step {before after : System σ γ} {event : Event σ γ} (sound : Sound merge accepts before)
    (step : Step merge accepts limit before event after) : Sound merge accepts after := by
  cases step with
  | begin idle accepted =>
    exact sound.set (fun _ _ same => by cases same; exact accepted) (fun _ _ _ _ same => by cases same)
  | same ready merged unchanged =>
    exact sound.set (fun _ _ same => by cases same) (fun _ _ _ _ same => by cases same)
  | load ready merged changed =>
    refine sound.set (fun _ _ same => by cases same) (fun _ _ _ _ same => ?_)
    cases same
    exact ⟨sound.accepted _ _ _ ready, Nat.le_refl _, fun _ => merged⟩
  | swap outcome ready known =>
    refine (sound.write _).set (fun _ _ same => ?_) (fun _ _ _ _ same => ?_)
    · rcases known with rfl | rfl <;> cases same
    · rcases known with rfl | rfl <;> cases same
  | stale ready other =>
    refine sound.set (fun _ _ same => ?_) (fun _ _ _ _ same => by cases same)
    cases same
    exact (sound.held _ _ _ _ _ ready).1
  | stopped => exact sound.set (fun _ _ same => by cases same) (fun _ _ _ _ same => by cases same)

/-- A step merges the request of its event, or leaves the stored value. -/
theorem stored_step {before after : System σ γ} {event : Event σ γ} (sound : Sound merge accepts before)
    (step : Step merge accepts limit before event after) :
    (∃ request, event = .merged request before.stored ∧ accepts request
      ∧ Merges merge before.stored request after.stored)
    ∨ event = .quiet ∧ after.stored = before.stored := by
  cases step with
  | begin idle accepted => exact .inr ⟨rfl, rfl⟩
  | same ready merged unchanged =>
    exact .inl ⟨_, rfl, sound.accepted _ _ _ ready, _, merged, unchanged⟩
  | load ready merged changed => exact .inr ⟨rfl, rfl⟩
  | swap outcome ready known =>
    obtain ⟨accepted, -, current⟩ := sound.held _ _ _ _ _ ready
    exact .inl ⟨_, rfl, accepted, _, current rfl, rfl⟩
  | stale ready other => exact .inr ⟨rfl, rfl⟩
  | stopped => exact .inr ⟨rfl, rfl⟩

/-- Every merge of the run met the condition on what was stored before it. -/
def EachMerge (good : Option σ → γ → Prop) (events : List (Event σ γ)) : Prop :=
  ∀ request before, .merged request before ∈ events → good before request

/-- The stored value is the result of the merged requests, one after the other. -/
theorem merges_of_run {first last : System σ γ} {events : List (Event σ γ)} {good : Option σ → γ → Prop}
    (idle : ∀ who, first.callers who = .idle) (run : Run (Step merge accepts limit) first events last)
    (each : EachMerge good events) :
    Run (fun before request after => Merges merge before request after ∧ accepts request ∧ good before request)
      first.stored (mergedRequests events) last.stored := by
  have both : Sound merge accepts last ∧ (EachMerge good events → Run (fun before request after =>
      Merges merge before request after ∧ accepts request ∧ good before request) first.stored
        (mergedRequests events) last.stored) := by
    clear each
    induction run with
    | start => exact ⟨sound_of_idle idle, fun _ => .start⟩
    | @next labels label before after earlier taken ih =>
      obtain ⟨sound, merges⟩ := ih
      refine ⟨sound.step taken, fun each => ?_⟩
      have earlierMerges := merges fun request before member => each request before (List.mem_append_left _ member)
      rcases stored_step sound taken with ⟨request, rfl, accepted, merged⟩ | ⟨rfl, unchanged⟩
      · have met := each request before.stored (List.mem_append_right _ List.mem_cons_self)
        rw [mergedRequests, List.filterMap_append]
        exact .next earlierMerges ⟨merged, accepted, met⟩
      · rw [mergedRequests, List.filterMap_append, unchanged]
        simpa [mergedRequests] using earlierMerges
  exact both.2 each

/-! ## One caller at a time -/

/-- A caller that is alone loads, merges and swaps. -/
theorem swapped {first system : System σ γ} {events : List (Event σ γ)} {who attempts : ℕ} {request : γ}
    {next : σ} (run : Run (Step merge accepts (attempts + 1)) first events system)
    (idle : system.callers who = .idle) (accepted : accepts request)
    (merged : merge system.stored request = .ok next) (changed : system.stored ≠ some next) :
    ∃ last, Run (Step merge accepts (attempts + 1)) first
        (events ++ [.quiet] ++ [.quiet] ++ [.merged request system.stored]) last
      ∧ last.stored = some next ∧ ∀ other, other ≠ who → last.callers other = system.callers other := by
  let trying := system.setCaller who (.trying request (attempts + 1))
  let holding := trying.setCaller who (.holding request attempts system.generation next)
  have begun : Step merge accepts (attempts + 1) system .quiet trying := .begin idle accepted
  have loaded : Step merge accepts (attempts + 1) trying .quiet holding :=
    .load (setCaller_self _ _ _) merged changed
  have written : Step merge accepts (attempts + 1) holding (.merged request system.stored) _ :=
    .swap .returned (setCaller_self _ _ _) (.inl rfl)
  refine ⟨_, ((run.next begun).next loaded).next written, rfl, fun other different => ?_⟩
  rw [setCaller_other _ _ different]
  exact (setCaller_other _ _ different).trans (setCaller_other _ _ different)

/-- A caller that is alone and whose merge changes nothing returns. -/
theorem unswapped {first system : System σ γ} {events : List (Event σ γ)} {who attempts : ℕ} {request : γ}
    {next : σ} (run : Run (Step merge accepts (attempts + 1)) first events system)
    (idle : system.callers who = .idle) (accepted : accepts request)
    (merged : merge system.stored request = .ok next) (unchanged : system.stored = some next) :
    ∃ last, Run (Step merge accepts (attempts + 1)) first
        (events ++ [.quiet] ++ [.merged request system.stored]) last
      ∧ last.stored = some next := by
  let trying := system.setCaller who (.trying request (attempts + 1))
  have begun : Step merge accepts (attempts + 1) system .quiet trying := .begin idle accepted
  have returned : Step merge accepts (attempts + 1) trying (.merged request system.stored) _ :=
    .same (setCaller_self _ _ _) merged unchanged
  exact ⟨_, (run.next begun).next returned, unchanged⟩

end Loop
end BinancePlatform.Library.CasLoop
