import Mathlib.Data.List.Basic

/-!
# Programs that ask their surroundings

A dialogue calls on its surroundings and goes on from what is answered; `Trace` lists
the exchanges of a run, which may stop between any two. `Abides` says that each call is
made after exchanges that allow it, whatever admitted answers come, and that the end
meets a postcondition; `abides_trace` turns it into a statement about the exchanges of a
run. A conversation is a dialogue over a state that may end in an exception.
-/

set_option autoImplicit false

namespace BinancePlatform.Library

inductive Dialogue (ι : Type) (ρ : ι → Type) (α : Type) where
  | done (value : α)
  | ask (call : ι) (next : ρ call → Dialogue ι ρ α)

/-- A call with its answer. -/
structure Exchange {ι : Type} (ρ : ι → Type) where
  call : ι
  answer : ρ call

namespace Dialogue
variable {ι α β : Type} {ρ : ι → Type}

def bind : Dialogue ι ρ α → (α → Dialogue ι ρ β) → Dialogue ι ρ β
  | .done value, rest => rest value
  | .ask call next, rest => .ask call fun answer => (next answer).bind rest

/-- The exchanges of a run, with its value if it came to its end. -/
inductive Trace : Dialogue ι ρ α → List (Exchange ρ) → Option α → Prop where
  | stopped (dialogue : Dialogue ι ρ α) : Trace dialogue [] none
  | done (value : α) : Trace (.done value) [] (some value)
  | ask {call : ι} {next : ρ call → Dialogue ι ρ α} (answer : ρ call) {rest : List (Exchange ρ)}
      {outcome : Option α} (later : Trace (next answer) rest outcome) :
      Trace (.ask call next) (⟨call, answer⟩ :: rest) outcome

/-- A run of at most so many exchanges, with answers that depend on the call. -/
def follow (answers : (call : ι) → ρ call) : ℕ → Dialogue ι ρ α → List (Exchange ρ) × Option α
  | _, .done value => ([], some value)
  | 0, .ask _ _ => ([], none)
  | n + 1, .ask call next =>
    let rest := follow answers n (next (answers call))
    (⟨call, answers call⟩ :: rest.1, rest.2)

theorem trace_follow (answers : (call : ι) → ρ call) (n : ℕ) (dialogue : Dialogue ι ρ α) :
    Trace dialogue (follow answers n dialogue).1 (follow answers n dialogue).2 := by
  induction dialogue generalizing n with
  | done value =>
    cases n <;> exact .done value
  | ask call next ih =>
    cases n with
    | zero => exact .stopped _
    | succ n => exact .ask _ (ih _ n)

section Abides
variable (admits : List (Exchange ρ) → (call : ι) → ρ call → Prop) (allows : List (Exchange ρ) → ι → Prop)

/-- Each call is allowed by the exchanges before it, and the end meets `Q`. -/
def Abides : Dialogue ι ρ α → List (Exchange ρ) → (α → List (Exchange ρ) → Prop) → Prop
  | .done value, heard, Q => Q value heard
  | .ask call next, heard, Q => allows heard call
      ∧ ∀ answer, admits heard call answer → (next answer).Abides (heard ++ [⟨call, answer⟩]) Q

/-- Every answer is admitted after the exchanges before it. -/
def Answered (before : List (Exchange ρ)) (events : List (Exchange ρ)) : Prop :=
  ∀ front call answer back, events = front ++ ⟨call, answer⟩ :: back → admits (before ++ front) call answer

/-- Every call is allowed after the exchanges before it. -/
abbrev Allowed (before : List (Exchange ρ)) (events : List (Exchange ρ)) : Prop :=
  Answered (fun heard call _ => allows heard call) before events

variable {admits allows}

theorem Answered.tail {before rest : List (Exchange ρ)} {event : Exchange ρ}
    (answered : Answered admits before (event :: rest)) : Answered admits (before ++ [event]) rest := by
  intro front call answer back same
  have shifted := answered (event :: front) call answer back (by rw [same, List.cons_append])
  rwa [List.append_assoc]

theorem Answered.append {before first second : List (Exchange ρ)}
    (answered : Answered admits before (first ++ second)) :
    Answered admits before first ∧ Answered admits (before ++ first) second := by
  constructor
  · intro front call answer back same
    exact answered front call answer (back ++ second) (by rw [same, List.append_assoc, List.cons_append])
  · intro front call answer back same
    rw [List.append_assoc]
    exact answered (first ++ front) call answer back (by rw [same, List.append_assoc])

theorem Answered.nil (before : List (Exchange ρ)) : Answered admits before [] := by
  intro front call answer back same
  simp at same

theorem Answered.cons {before rest : List (Exchange ρ)} {call : ι} {answer : ρ call}
    (first : admits before call answer) (later : Answered admits (before ++ [⟨call, answer⟩]) rest) :
    Answered admits before (⟨call, answer⟩ :: rest) := by
  intro front other reply back same
  cases front with
  | nil =>
    simp only [List.nil_append, List.cons.injEq] at same
    obtain ⟨⟨⟩, -⟩ := same
    rwa [List.append_nil]
  | cons event front =>
    simp only [List.cons_append, List.cons.injEq] at same
    obtain ⟨rfl, same⟩ := same
    have shifted := later front other reply back same
    rwa [List.append_assoc] at shifted

theorem Answered.join {before first second : List (Exchange ρ)} (front : Answered admits before first)
    (back : Answered admits (before ++ first) second) : Answered admits before (first ++ second) := by
  induction first generalizing before with
  | nil => simpa using back
  | cons event rest ih =>
    obtain ⟨call, answer⟩ := event
    refine .cons ?_ (ih front.tail ?_)
    · simpa using front [] call answer rest rfl
    · rwa [List.append_assoc]

/-- What abides makes only allowed calls in every run, and a whole run meets `Q`. -/
theorem abides_trace {dialogue : Dialogue ι ρ α} {events before : List (Exchange ρ)} {outcome : Option α}
    {Q : α → List (Exchange ρ) → Prop} (run : Trace dialogue events outcome)
    (abides : dialogue.Abides admits allows before Q) (answered : Answered admits before events) :
    Allowed allows before events ∧ ∀ value, outcome = some value → Q value (before ++ events) := by
  induction run generalizing before with
  | stopped dialogue => exact ⟨.nil _, by simp⟩
  | done value =>
    refine ⟨.nil _, ?_⟩
    rintro _ ⟨⟩
    rwa [List.append_nil]
  | @ask call next answer rest outcome later ih =>
    obtain ⟨first, onward⟩ := abides
    have admitted : admits before call answer := by simpa using answered [] call answer rest rfl
    obtain ⟨allowed, ends⟩ := ih (onward answer admitted) answered.tail
    refine ⟨.cons first allowed, fun value ended => ?_⟩
    have reached := ends value ended
    rwa [List.append_assoc] at reached

theorem Abides.bind {dialogue : Dialogue ι ρ α} {rest : α → Dialogue ι ρ β} {heard : List (Exchange ρ)}
    {Q : α → List (Exchange ρ) → Prop} {R : β → List (Exchange ρ) → Prop}
    (first : dialogue.Abides admits allows heard Q)
    (onward : ∀ value reached, Q value reached → (rest value).Abides admits allows reached R) :
    (dialogue.bind rest).Abides admits allows heard R := by
  induction dialogue generalizing heard with
  | done value => exact onward value heard first
  | ask call next ih => exact ⟨first.1, fun answer admitted => ih answer (first.2 answer admitted)⟩

theorem Abides.imp {dialogue : Dialogue ι ρ α} {heard : List (Exchange ρ)}
    {Q R : α → List (Exchange ρ) → Prop} (abides : dialogue.Abides admits allows heard Q)
    (leads : ∀ value reached, Q value reached → R value reached) :
    dialogue.Abides admits allows heard R := by
  induction dialogue generalizing heard with
  | done value => exact leads value heard abides
  | ask call next ih => exact ⟨abides.1, fun answer admitted => ih answer (abides.2 answer admitted)⟩

end Abides
end Dialogue

/-! ## Over a state, with exceptions -/

def Conversation (ι : Type) (ρ : ι → Type) (ε σ α : Type) := σ → Dialogue ι ρ (Except ε α × σ)

namespace Conversation
variable {ι ε σ α β : Type} {ρ : ι → Type}

instance : Monad (Conversation ι ρ ε σ) where
  pure value := fun state => .done (.ok value, state)
  bind program next := fun state => (program state).bind fun
    | (.ok value, reached) => next value reached
    | (.error raised, reached) => .done (.error raised, reached)

def leave (raised : ε) : Conversation ι ρ ε σ α := fun state => .done (.error raised, state)

def get : Conversation ι ρ ε σ σ := fun state => .done (.ok state, state)

def update (f : σ → σ) : Conversation ι ρ ε σ Unit := fun state => .done (.ok (), f state)

def evaluate (outcome : Except ε α) : Conversation ι ρ ε σ α := fun state => .done (outcome, state)

def ask (call : ι) : Conversation ι ρ ε σ (ρ call) := fun state =>
  .ask call fun answer => .done (.ok answer, state)

/-- `try: body` and `except Exception: raise raised`. -/
def raising (raised : ε) (body : Conversation ι ρ ε σ α) : Conversation ι ρ ε σ α := fun state =>
  (body state).bind fun
    | (.ok value, reached) => .done (.ok value, reached)
    | (.error _, reached) => .done (.error raised, reached)

section Keeps
variable (admits : List (Exchange ρ) → (call : ι) → ρ call → Prop) (allows : List (Exchange ρ) → ι → Prop)

/-- From `P`, only allowed calls are made, and the program returns in `Q` or raises in `E`. -/
def Keeps (P : σ → List (Exchange ρ) → Prop) (program : Conversation ι ρ ε σ α)
    (Q : α → σ → List (Exchange ρ) → Prop) (E : σ → List (Exchange ρ) → Prop) : Prop :=
  ∀ state heard, P state heard → (program state).Abides admits allows heard fun ended reached =>
    match ended with
    | (.ok value, after) => Q value after reached
    | (.error _, after) => E after reached

variable {admits allows} {P : σ → List (Exchange ρ) → Prop} {E : σ → List (Exchange ρ) → Prop}

theorem Keeps.abides {program : Conversation ι ρ ε σ α} {Q : α → σ → List (Exchange ρ) → Prop}
    (keeps : Keeps admits allows P program Q E) {state : σ} {heard : List (Exchange ρ)} (start : P state heard) :
    (program state).Abides admits allows heard fun ended reached =>
      match ended with
      | (.ok value, after) => Q value after reached
      | (.error _, after) => E after reached :=
  keeps state heard start

theorem Keeps.bind {program : Conversation ι ρ ε σ α} {next : α → Conversation ι ρ ε σ β}
    {Q : α → σ → List (Exchange ρ) → Prop} {R : β → σ → List (Exchange ρ) → Prop}
    (first : Keeps admits allows P program Q E) (rest : ∀ value, Keeps admits allows (Q value) (next value) R E) :
    Keeps admits allows P (program >>= next) R E := by
  intro state heard start
  refine (first state heard start).bind ?_
  rintro ⟨outcome, after⟩ reached ended
  cases outcome with
  | ok value => exact rest value after reached ended
  | error raised => exact ended

theorem Keeps.pure {Q : α → σ → List (Exchange ρ) → Prop} {value : α}
    (holds : ∀ state heard, P state heard → Q value state heard) :
    Keeps admits allows P (Pure.pure value : Conversation ι ρ ε σ α) Q E :=
  fun state heard start => holds state heard start

theorem Keeps.leave {Q : α → σ → List (Exchange ρ) → Prop} {raised : ε}
    (holds : ∀ state heard, P state heard → E state heard) :
    Keeps admits allows P (leave raised : Conversation ι ρ ε σ α) Q E :=
  fun state heard start => holds state heard start

theorem Keeps.get_bind {next : σ → Conversation ι ρ ε σ β} {R : β → σ → List (Exchange ρ) → Prop}
    (rest : ∀ value, Keeps admits allows (fun state heard => P state heard ∧ state = value) (next value) R E) :
    Keeps admits allows P (Conversation.get >>= next) R E :=
  fun state heard start => rest state state heard ⟨start, rfl⟩

theorem Keeps.update {Q : Unit → σ → List (Exchange ρ) → Prop} {f : σ → σ}
    (holds : ∀ state heard, P state heard → Q () (f state) heard) :
    Keeps admits allows P (Conversation.update f : Conversation ι ρ ε σ Unit) Q E :=
  fun state heard start => holds state heard start

theorem Keeps.evaluate {Q : α → σ → List (Exchange ρ) → Prop} {outcome : Except ε α}
    (returned : ∀ value, outcome = .ok value → ∀ state heard, P state heard → Q value state heard)
    (raised : ∀ error, outcome = .error error → ∀ state heard, P state heard → E state heard) :
    Keeps admits allows P (Conversation.evaluate outcome : Conversation ι ρ ε σ α) Q E := by
  intro state heard start
  cases outcome with
  | ok value => exact returned value rfl state heard start
  | error error => exact raised error rfl state heard start

theorem Keeps.ask {call : ι} {Q : ρ call → σ → List (Exchange ρ) → Prop}
    (allowed : ∀ state heard, P state heard → allows heard call)
    (answered : ∀ state heard answer, P state heard → admits heard call answer →
      Q answer state (heard ++ [⟨call, answer⟩])) :
    Keeps admits allows P (Conversation.ask call : Conversation ι ρ ε σ (ρ call)) Q E :=
  fun state heard start => ⟨allowed state heard start, fun answer admitted =>
    answered state heard answer start admitted⟩

theorem Keeps.raising {raised : ε} {body : Conversation ι ρ ε σ α} {Q : α → σ → List (Exchange ρ) → Prop}
    (tried : Keeps admits allows P body Q E) : Keeps admits allows P (raising raised body) Q E := by
  intro state heard start
  refine (tried state heard start).bind ?_
  rintro ⟨outcome, after⟩ reached ended
  cases outcome with
  | ok value => exact ended
  | error error => exact ended

/-- A fact of the precondition that speaks of neither the state nor the exchanges. -/
theorem Keeps.suppose {fact : Prop} {program : Conversation ι ρ ε σ α}
    {Q : α → σ → List (Exchange ρ) → Prop} (keeps : fact → Keeps admits allows P program Q E) :
    Keeps admits allows (fun state heard => P state heard ∧ fact) program Q E :=
  fun state heard start => keeps start.2 state heard start.1

theorem Keeps.ite {condition : Prop} [Decidable condition] {yes no : Conversation ι ρ ε σ α}
    {Q : α → σ → List (Exchange ρ) → Prop} (holds : condition → Keeps admits allows P yes Q E)
    (fails : ¬condition → Keeps admits allows P no Q E) :
    Keeps admits allows P (if condition then yes else no) Q E := by
  by_cases known : condition
  · rw [if_pos known]
    exact holds known
  · rw [if_neg known]
    exact fails known

theorem Keeps.weaken {P' : σ → List (Exchange ρ) → Prop} {E' : σ → List (Exchange ρ) → Prop}
    {program : Conversation ι ρ ε σ α} {Q Q' : α → σ → List (Exchange ρ) → Prop}
    (keeps : Keeps admits allows P' program Q' E') (before : ∀ state heard, P state heard → P' state heard)
    (returned : ∀ value state heard, Q' value state heard → Q value state heard)
    (raised : ∀ state heard, E' state heard → E state heard) : Keeps admits allows P program Q E := by
  intro state heard start
  refine (keeps state heard (before state heard start)).imp ?_
  rintro ⟨outcome, after⟩ reached ended
  cases outcome with
  | ok value => exact returned value after reached ended
  | error error => exact raised after reached ended

end Keeps

/-! ## Passive programs -/

section Passive
variable {passive : ι → Prop}

/-- The program makes only passive calls and leaves the state as it is: it keeps what no
passive call ends. -/
def Passive (passive : ι → Prop) (program : Conversation ι ρ ε σ α) : Prop :=
  ∀ (admits : List (Exchange ρ) → (call : ι) → ρ call → Prop) (allows : List (Exchange ρ) → ι → Prop)
    (P E : σ → List (Exchange ρ) → Prop), (∀ heard call, passive call → allows heard call) →
    (∀ state heard call answer, passive call → P state heard → P state (heard ++ [⟨call, answer⟩])) →
    (∀ state heard, P state heard → E state heard) → Keeps admits allows P program (fun _ => P) E

theorem Passive.bind {program : Conversation ι ρ ε σ α} {next : α → Conversation ι ρ ε σ β}
    (first : Passive passive program) (rest : ∀ value, Passive passive (next value)) :
    Passive passive (program >>= next) :=
  fun admits allows P E open_ stays ends =>
    (first admits allows P E open_ stays ends).bind fun value => rest value admits allows P E open_ stays ends

theorem Passive.pure {value : α} : Passive passive (Pure.pure value : Conversation ι ρ ε σ α) :=
  fun _ _ _ _ _ _ _ => .pure fun _ _ start => start

theorem Passive.leave {raised : ε} : Passive passive (leave raised : Conversation ι ρ ε σ α) :=
  fun _ _ _ _ _ _ ends => .leave ends

theorem Passive.evaluate {outcome : Except ε α} :
    Passive passive (Conversation.evaluate outcome : Conversation ι ρ ε σ α) :=
  fun _ _ _ _ _ _ ends => .evaluate (fun _ _ _ _ start => start) fun _ _ state heard start => ends state heard start

theorem Passive.ask {call : ι} (reads : passive call) :
    Passive passive (Conversation.ask call : Conversation ι ρ ε σ (ρ call)) :=
  fun _ _ P _ open_ stays _ => .ask (Q := fun _ => P) (fun _ heard _ => open_ heard call reads)
    fun state heard answer start _ => stays state heard call answer reads start

theorem Passive.raising {raised : ε} {body : Conversation ι ρ ε σ α} (tried : Passive passive body) :
    Passive passive (raising raised body) :=
  fun admits allows P E open_ stays ends => .raising (tried admits allows P E open_ stays ends)

theorem Passive.ite {condition : Prop} [Decidable condition] {yes no : Conversation ι ρ ε σ α}
    (first : Passive passive yes) (second : Passive passive no) :
    Passive passive (if condition then yes else no) := by
  split
  · exact first
  · exact second

end Passive

-- a triple is used through its rules; unfolded, it would run the program
attribute [irreducible] Keeps

end Conversation
end BinancePlatform.Library
