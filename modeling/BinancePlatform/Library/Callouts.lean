import BinancePlatform.Library.Effects

/-!
# Programs that call a listener

A listener answers each call of a program from all that went before, with a flag or
an exception; it does not change the state. `answering` never raises and answers each
call with a fixed flag. A program is `Unmoved` when, as long as every answer is
tolerated, it ends with any listener as it ends with the answering one. `Nearly` allows
one difference: the program raises something that `catches` accepts where the answering
run has nothing left to do, which a `rescue` around it undoes. An `attempt` hides what
its call raises, and tolerates every answer.
-/

set_option autoImplicit false

namespace BinancePlatform.Library

/-- A state, and the calls made so far with their answers. -/
structure Heard (σ ι ε : Type) where
  state : σ
  calls : List (ι × Except ε Bool)

abbrev Listener (σ ι ε : Type) := ι → Heard σ ι ε → Except ε Bool

abbrev Telling (σ ι ε α : Type) := Program ε (Heard σ ι ε) α

namespace Telling
variable {σ ι ε α β : Type}

def answering (flags : ι → Bool) : Listener σ ι ε := fun call _ => .ok (flags call)

/-- What neither calls the listener nor reads the calls. -/
def onState (f : σ → Except ε α × σ) : Telling σ ι ε α := fun s =>
  ((f s.state).1, { s with state := (f s.state).2 })

def ask (listener : Listener σ ι ε) (call : ι) : Telling σ ι ε Bool := fun s =>
  (listener call s, { s with calls := s.calls ++ [(call, listener call s)] })

/-- A call whose answer is discarded. -/
def tell (listener : Listener σ ι ε) (call : ι) : Telling σ ι ε Unit := fun s =>
  ((listener call s).map fun _ => (), { s with calls := s.calls ++ [(call, listener call s)] })

/-- `try: body` and `except: failed`, for what is caught. -/
def rescue (catches : ε → Bool) (body failed : Telling σ ι ε α) : Telling σ ι ε α := fun s =>
  match body s with
  | (.ok value, reached) => (.ok value, reached)
  | (.error raised, reached) => if catches raised then failed reached else (.error raised, reached)

/-- A call that is made when it is due; what it raises is hidden. -/
def attempt (listener : Listener σ ι ε) (due : Heard σ ι ε → Bool) (call : ι) : Telling σ ι ε Unit := fun s =>
  if due s then rescue (fun _ => true) (tell listener call) (pure ()) s else (.ok (), s)

def each (body : β → Telling σ ι ε Unit) : List β → Telling σ ι ε Unit
  | [] => pure ()
  | x :: rest => do
    body x
    each body rest

theorem rescue_ok {catches : ε → Bool} {body failed : Telling σ ι ε α} {s : Heard σ ι ε} {value : α}
    (outcome : (body s).1 = .ok value) : rescue catches body failed s = body s := by
  unfold rescue
  cases ran : body s with
  | mk left reached =>
    rw [ran] at outcome
    cases outcome
    rfl

theorem rescue_error {catches : ε → Bool} {body failed : Telling σ ι ε α} {s : Heard σ ι ε} {raised : ε}
    (outcome : (body s).1 = .error raised) :
    rescue catches body failed s = if catches raised then failed (body s).2 else body s := by
  unfold rescue
  cases ran : body s with
  | mk left reached =>
    rw [ran] at outcome
    cases outcome
    rfl

theorem bind_ok {program : Telling σ ι ε α} {next : α → Telling σ ι ε β} {s : Heard σ ι ε} {value : α}
    (outcome : (program s).1 = .ok value) : (program >>= next) s = next value (program s).2 :=
  Program.run_bind_ok (Prod.ext outcome rfl)

theorem bind_error {program : Telling σ ι ε α} {next : α → Telling σ ι ε β} {s : Heard σ ι ε} {raised : ε}
    (outcome : (program s).1 = .error raised) : (program >>= next) s = (.error raised, (program s).2) :=
  Program.run_bind_error (Prod.ext outcome rfl)

theorem attempt_returns (listener : Listener σ ι ε) (due : Heard σ ι ε → Bool) (call : ι) (s : Heard σ ι ε) :
    (attempt listener due call s).1 = .ok () ∧ (attempt listener due call s).2.state = s.state
      ∧ ∃ added, (attempt listener due call s).2.calls = s.calls ++ added := by
  unfold attempt
  split
  · cases answer : listener call s with
    | ok flag =>
      have told : (tell listener call s).1 = .ok () := by rw [tell, answer]; rfl
      rw [rescue_ok told]
      exact ⟨told, rfl, _, rfl⟩
    | error raised =>
      have told : (tell listener call s).1 = .error raised := by rw [tell, answer]; rfl
      rw [rescue_error told, if_pos rfl]
      exact ⟨rfl, rfl, _, rfl⟩
  · exact ⟨rfl, rfl, [], by simp⟩

section Unmoved
variable (flags : ι → Bool) (tolerates : ι → Except ε Bool → Bool) (catches : ε → Bool)

/-- The calls added to `before` are `after`, and `conclusion` holds if they are tolerated. -/
def Adds (before after : List (ι × Except ε Bool)) (conclusion : Prop) : Prop :=
  ∃ added, after = before ++ added ∧
    ((∀ call ∈ added, tolerates call.1 call.2 = true) → conclusion)

def Unmoved (program : Listener σ ι ε → Telling σ ι ε α) : Prop :=
  ∀ listener s t, s.state = t.state → Adds tolerates s.calls (program listener s).2.calls
    ((program listener s).1 = (program (answering flags) t).1
      ∧ (program listener s).2.state = (program (answering flags) t).2.state)

/-- A last act of the program may have raised. -/
def Nearly (program : Listener σ ι ε → Telling σ ι ε Unit) : Prop :=
  ∀ listener s t, s.state = t.state → Adds tolerates s.calls (program listener s).2.calls
    ((program listener s).2.state = (program (answering flags) t).2.state
      ∧ ((program listener s).1 = (program (answering flags) t).1
        ∨ (∃ raised, catches raised = true ∧ (program listener s).1 = .error raised)
          ∧ (program (answering flags) t).1 = .ok ()))

/-- The program returns and leaves the state as it is. -/
def Steady (program : Listener σ ι ε → Telling σ ι ε Unit) : Prop :=
  ∀ listener s, Adds tolerates s.calls (program listener s).2.calls
    ((program listener s).1 = .ok () ∧ (program listener s).2.state = s.state)

variable {flags tolerates catches}

theorem Adds.none {calls : List (ι × Except ε Bool)} {conclusion : Prop} (holds : conclusion) :
    Adds tolerates calls calls conclusion :=
  ⟨[], by simp, fun _ => holds⟩

theorem Adds.one {calls : List (ι × Except ε Bool)} {call : ι} {answer : Except ε Bool}
    {conclusion : Prop} (holds : tolerates call answer = true → conclusion) :
    Adds tolerates calls (calls ++ [(call, answer)]) conclusion :=
  ⟨_, rfl, fun tolerated => holds (tolerated _ (List.mem_singleton.mpr rfl))⟩

/-- What follows a first run may use its conclusion; its calls are added in any case. -/
theorem Adds.andThen {before middle after : List (ι × Except ε Bool)} {first grown conclusion : Prop}
    (run : Adds tolerates before middle first) (grows : Adds tolerates middle after grown)
    (more : first → Adds tolerates middle after conclusion) : Adds tolerates before after conclusion := by
  obtain ⟨added, rfl, holds⟩ := run
  obtain ⟨further, rfl, _⟩ := grows
  refine ⟨added ++ further, by simp, fun tolerated => ?_⟩
  obtain ⟨same, calls, concluded⟩ :=
    more (holds fun call member => tolerated call (List.mem_append_left _ member))
  have unique := List.append_cancel_left calls
  exact concluded fun call member =>
    tolerated call (List.mem_append_right _ (unique ▸ member))

theorem Adds.imp {before after : List (ι × Except ε Bool)} {first conclusion : Prop}
    (run : Adds tolerates before after first) (leads : first → conclusion) :
    Adds tolerates before after conclusion := by
  obtain ⟨added, same, holds⟩ := run
  exact ⟨added, same, fun tolerated => leads (holds tolerated)⟩

theorem Unmoved.onState (f : σ → Except ε α × σ) :
    Unmoved flags tolerates fun _ : Listener σ ι ε => Telling.onState f := by
  intro listener s t same
  refine .none ⟨?_, ?_⟩ <;> simp only [Telling.onState, same]

theorem Unmoved.pure (value : α) :
    Unmoved flags tolerates fun _ : Listener σ ι ε => (Pure.pure value : Telling σ ι ε α) :=
  fun _ _ _ same => .none ⟨rfl, same⟩

theorem Unmoved.ask {call : ι} (only : ∀ answer, tolerates call answer = true → answer = .ok (flags call)) :
    Unmoved flags tolerates fun listener : Listener σ ι ε => Telling.ask listener call :=
  fun _ _ _ same => .one fun tolerated => ⟨only _ tolerated, same⟩

/-- A call that may not raise. -/
theorem Steady.tell {call : ι} (never : ∀ raised, tolerates call (.error raised) = false) :
    Steady tolerates fun listener : Listener σ ι ε => Telling.tell listener call := by
  intro listener s
  refine .one fun tolerated => ⟨?_, rfl⟩
  change (listener call s).map (fun _ => ()) = .ok ()
  cases answer : listener call s with
  | ok _ => rfl
  | error raised => simp [answer, never raised] at tolerated

theorem Steady.unmoved {program : Listener σ ι ε → Telling σ ι ε Unit} (steady : Steady tolerates program)
    (answered : ∀ t, (program (answering flags) t).1 = .ok () ∧ (program (answering flags) t).2.state = t.state) :
    Unmoved flags tolerates program :=
  fun listener s t same => (steady listener s).imp fun ⟨outcome, state⟩ =>
    ⟨outcome.trans (answered t).1.symm, state.trans (same.trans (answered t).2.symm)⟩

theorem Unmoved.tell {call : ι} (never : ∀ raised, tolerates call (.error raised) = false) :
    Unmoved flags tolerates fun listener : Listener σ ι ε => Telling.tell listener call :=
  (Steady.tell never).unmoved fun _ => ⟨rfl, rfl⟩

theorem Unmoved.attempt (due : Heard σ ι ε → Bool) (call : ι) :
    Unmoved flags tolerates fun listener : Listener σ ι ε => Telling.attempt listener due call := by
  intro listener s t same
  obtain ⟨outcome, state, added, calls⟩ := attempt_returns listener due call s
  obtain ⟨quietOutcome, quietState, -⟩ := attempt_returns (answering flags) due call t
  exact ⟨added, calls, fun _ => ⟨outcome.trans quietOutcome.symm, state.trans (same.trans quietState.symm)⟩⟩

theorem Steady.attempt (due : Heard σ ι ε → Bool) (call : ι) :
    Steady tolerates fun listener : Listener σ ι ε => Telling.attempt listener due call := by
  intro listener s
  obtain ⟨outcome, state, added, calls⟩ := attempt_returns listener due call s
  exact ⟨added, calls, fun _ => ⟨outcome, state⟩⟩

theorem Steady.pure : Steady tolerates fun _ : Listener σ ι ε => (Pure.pure () : Telling σ ι ε Unit) :=
  fun _ _ => .none ⟨rfl, rfl⟩

theorem Nearly.tell {call : ι}
    (lenient : ∀ raised, tolerates call (.error raised) = true → catches raised = true) :
    Nearly flags tolerates catches fun listener : Listener σ ι ε => Telling.tell listener call := by
  intro listener s t same
  refine .one fun tolerated => ⟨same, ?_⟩
  change (listener call s).map (fun _ => ()) = .ok ()
    ∨ (∃ raised, catches raised = true ∧ (listener call s).map (fun _ => ()) = .error raised) ∧ _
  cases answer : listener call s with
  | ok _ => exact .inl rfl
  | error raised => exact .inr ⟨⟨raised, lenient raised (answer ▸ tolerated), rfl⟩, rfl⟩

/-- Nothing follows a call that may raise. -/
theorem Nearly.tell_pure {call : ι}
    (lenient : ∀ raised, tolerates call (.error raised) = true → catches raised = true) :
    Nearly flags tolerates catches fun listener : Listener σ ι ε =>
      Telling.tell listener call >>= fun _ => Pure.pure () := by
  have same (listener : Listener σ ι ε) :
      (Telling.tell listener call >>= fun _ => Pure.pure ()) = Telling.tell listener call := by
    funext s
    cases told : (Telling.tell listener call s).1 with
    | ok value => exact (bind_ok told).trans (Prod.ext told.symm rfl)
    | error raised => exact (bind_error told).trans (Prod.ext told.symm rfl)
  simp only [same]
  exact .tell lenient

theorem Unmoved.nearly {program : Listener σ ι ε → Telling σ ι ε Unit} (unmoved : Unmoved flags tolerates program) :
    Nearly flags tolerates catches program :=
  fun listener s t same => (unmoved listener s t same).imp fun ⟨outcome, state⟩ => ⟨state, .inl outcome⟩

/-- Both runs of a sequence go on from equal states, or both have ended. -/
theorem Unmoved.andThen {program : Listener σ ι ε → Telling σ ι ε α}
    {next : Listener σ ι ε → α → Telling σ ι ε β} (first : Unmoved flags tolerates program)
    (alike : Except ε β × Heard σ ι ε → Except ε β × Heard σ ι ε → Prop)
    (ended : ∀ raised s t, s.state = t.state → alike (.error raised, s) (.error raised, t))
    {listener : Listener σ ι ε} {s t : Heard σ ι ε} (same : s.state = t.state)
    (rest : ∀ value s t, s.state = t.state → Adds tolerates s.calls (next listener value s).2.calls
      (alike (next listener value s) (next (answering flags) value t))) :
    Adds tolerates s.calls ((program listener >>= next listener) s).2.calls
      (alike ((program listener >>= next listener) s) ((program (answering flags) >>= next (answering flags)) t)) := by
  obtain ⟨added, calls, agree⟩ := first listener s t same
  cases outcome : (program listener s).1 with
  | error raised =>
    rw [bind_error outcome]
    refine ⟨added, calls, fun tolerated => ?_⟩
    obtain ⟨outcomes, states⟩ := agree tolerated
    rw [bind_error (outcomes ▸ outcome)]
    exact ended raised _ _ states
  | ok value =>
    rw [bind_ok outcome]
    refine Adds.andThen ⟨added, calls, agree⟩ (rest value _ _ rfl) fun ⟨outcomes, states⟩ => ?_
    rw [bind_ok (outcomes ▸ outcome)]
    exact rest value _ _ states

theorem Unmoved.bind {program : Listener σ ι ε → Telling σ ι ε α}
    {next : Listener σ ι ε → α → Telling σ ι ε β} (first : Unmoved flags tolerates program)
    (rest : ∀ value, Unmoved flags tolerates fun listener => next listener value) :
    Unmoved flags tolerates fun listener => program listener >>= next listener :=
  fun listener _ _ same => first.andThen
    (fun run quiet => run.1 = quiet.1 ∧ run.2.state = quiet.2.state)
    (fun _ _ _ states => ⟨rfl, states⟩) same fun value => rest value listener

theorem Nearly.bind {program : Listener σ ι ε → Telling σ ι ε α}
    {next : Listener σ ι ε → α → Telling σ ι ε Unit} (first : Unmoved flags tolerates program)
    (rest : ∀ value, Nearly flags tolerates catches fun listener => next listener value) :
    Nearly flags tolerates catches fun listener => program listener >>= next listener :=
  fun listener _ _ same => first.andThen
    (fun run quiet => run.2.state = quiet.2.state ∧ (run.1 = quiet.1
      ∨ (∃ raised, catches raised = true ∧ run.1 = .error raised) ∧ quiet.1 = .ok ()))
    (fun _ _ _ states => ⟨states, .inl rfl⟩) same fun value => rest value listener

theorem Unmoved.ite {condition : Prop} [Decidable condition]
    {yes no : Listener σ ι ε → Telling σ ι ε α} (first : Unmoved flags tolerates yes)
    (second : Unmoved flags tolerates no) :
    Unmoved flags tolerates fun listener => if condition then yes listener else no listener := by
  split
  · exact first
  · exact second

theorem Nearly.ite {condition : Prop} [Decidable condition]
    {yes no : Listener σ ι ε → Telling σ ι ε Unit} (first : Nearly flags tolerates catches yes)
    (second : Nearly flags tolerates catches no) :
    Nearly flags tolerates catches fun listener => if condition then yes listener else no listener := by
  split
  · exact first
  · exact second

theorem Steady.ite {condition : Prop} [Decidable condition]
    {yes no : Listener σ ι ε → Telling σ ι ε Unit} (first : Steady tolerates yes)
    (second : Steady tolerates no) :
    Steady tolerates fun listener => if condition then yes listener else no listener := by
  split
  · exact first
  · exact second

theorem Unmoved.each {body : Listener σ ι ε → β → Telling σ ι ε Unit}
    (step : ∀ x, Unmoved flags tolerates fun listener => body listener x) (items : List β) :
    Unmoved flags tolerates fun listener => Telling.each (body listener) items := by
  induction items with
  | nil => exact .pure ()
  | cons x rest ih => exact .bind (step x) fun _ => ih

/-- What the handler catches it catches in both runs. -/
theorem Unmoved.rescue {body failed : Listener σ ι ε → Telling σ ι ε α} (tried : Unmoved flags tolerates body)
    (handler : Unmoved flags tolerates failed) :
    Unmoved flags tolerates fun listener => Telling.rescue catches (body listener) (failed listener) := by
  intro listener s t same
  obtain ⟨added, calls, agree⟩ := tried listener s t same
  dsimp only
  cases outcome : (body listener s).1 with
  | ok value =>
    rw [rescue_ok outcome]
    refine ⟨added, calls, fun tolerated => ?_⟩
    rw [rescue_ok ((agree tolerated).1 ▸ outcome)]
    exact agree tolerated
  | error raised =>
    rw [rescue_error outcome]
    split
    next caught =>
      refine Adds.andThen ⟨added, calls, agree⟩ (handler listener _ _ rfl) fun ⟨outcomes, states⟩ => ?_
      rw [rescue_error (outcomes ▸ outcome), if_pos caught]
      exact handler listener _ _ states
    next escapes =>
      refine ⟨added, calls, fun tolerated => ?_⟩
      rw [rescue_error ((agree tolerated).1 ▸ outcome), if_neg escapes]
      exact agree tolerated

/-- A handler that returns hides that the body nearly returned. -/
theorem Nearly.rescue {body failed : Listener σ ι ε → Telling σ ι ε Unit}
    (tried : Nearly flags tolerates catches body) (handler : Unmoved flags tolerates failed)
    (returns : Steady tolerates failed) :
    Unmoved flags tolerates fun listener => Telling.rescue catches (body listener) (failed listener) := by
  intro listener s t same
  obtain ⟨added, calls, agree⟩ := tried listener s t same
  dsimp only
  cases outcome : (body listener s).1 with
  | ok value =>
    rw [rescue_ok outcome]
    refine ⟨added, calls, fun tolerated => ?_⟩
    obtain ⟨states, outcomes | ⟨⟨raised, _, failure⟩, _⟩⟩ := agree tolerated
    · rw [rescue_ok (outcomes ▸ outcome)]
      exact ⟨outcomes, states⟩
    · rw [outcome] at failure
      cases failure
  | error raised =>
    rw [rescue_error outcome]
    split
    next caught =>
      refine Adds.andThen ⟨added, calls, agree⟩ (handler listener _ _ rfl) fun ⟨states, cases⟩ => ?_
      obtain outcomes | ⟨_, ended⟩ := cases
      · rw [rescue_error (outcomes ▸ outcome), if_pos caught]
        exact handler listener _ _ states
      · -- only the run with this listener enters the handler
        rw [rescue_ok ended, ended]
        exact (returns listener _).imp fun back => ⟨back.1, back.2.trans states⟩
    next escapes =>
      refine ⟨added, calls, fun tolerated => ?_⟩
      obtain ⟨states, outcomes | ⟨⟨other, caught, failure⟩, _⟩⟩ := agree tolerated
      · rw [rescue_error (outcomes ▸ outcome), if_neg escapes]
        exact ⟨outcomes, states⟩
      · rw [outcome] at failure
        cases failure
        exact absurd caught escapes

end Unmoved

end Telling

end BinancePlatform.Library
