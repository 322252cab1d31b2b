import BinancePlatform.Library.Runs
import BinancePlatform.Source.IncidentAlerts

/-!
# Incident alerts over every run

However the calls interleave and wherever they break off, each generation of the marker
is reserved once, by an onset or a rise, and sent at most once, after its durable pending
marker. The index and the marker agree in the runs whose calls do not overlap and whose
recoveries, once the index has been written, go on to the marker.

Main results:
- `step_tracked`: a step keeps what is known of the reservations and sends (`Tracked`)
- `reserved_by_onset`: a step that reserves a generation observes an onset or a rise
- `step_serial`: a calm step keeps what is known of the index and the marker (`Serial`)
- `alerts_delivered`: what follows for every run
- `recovery_broken_off`: a recovery that breaks off between its two writes leaves an active
  marker under a recovered index, and the next onset is dropped as a duplicate
-/

set_option autoImplicit false

namespace BinancePlatform.Guarantees.AlertDelivery
open BinancePlatform.Library BinancePlatform.Source.Alerts
open BinancePlatform.Source (Instant)

variable {ι : Type} [DecidableEq ι] {digest : TransitionDigest}

/-! ## Decisions -/

theorem decideMarker_send {obs : Observation} {previous : Marker}
    (sends : (decideMarker digest obs previous).2 = .send) :
    (decideMarker digest obs previous).1.generation = previous.generation + 1 ∧ obs.recovered = false := by
  unfold decideMarker at sends ⊢
  split at sends
  · cases sends
  · rename_i active
    split at sends
    · cases sends
    · rename_i rises
      rw [if_neg active, if_neg rises]
      exact ⟨rfl, by simpa using active⟩

/-- The observation begins an incident, or raises it over the stored marker. -/
def OnsetOrRise (obs : Observation) (stored : Marker) : Prop :=
  obs.recovered = false ∧ (stored.active = false ∨ stored.severity < obs.severity)

theorem decideMarker_onsetOrRise {obs : Observation} {previous : Marker}
    (sends : (decideMarker digest obs previous).2 = .send) : OnsetOrRise obs previous := by
  refine ⟨(decideMarker_send sends).2, ?_⟩
  unfold decideMarker at sends
  split at sends
  · cases sends
  · split at sends
    · cases sends
    · rename_i rises
      cases active : previous.active with
      | false => exact .inl rfl
      | true => exact .inr (by simpa [active] using rises)

theorem decideMarker_quiet {obs : Observation} {previous : Marker}
    (quiet : (decideMarker digest obs previous).2 ≠ .send) :
    (decideMarker digest obs previous).1.generation = previous.generation := by
  unfold decideMarker at quiet ⊢
  split
  · rfl
  · rename_i active
    rw [if_neg active] at quiet
    split
    · rfl
    · rename_i rises
      rw [if_neg rises] at quiet
      exact absurd rfl quiet

/-- An active observation of an inactive marker is sent. -/
theorem decideMarker_onset {obs : Observation} {previous : Marker} (observed : obs.recovered = false)
    (inactive : previous.active = false) : (decideMarker digest obs previous).2 = .send := by
  simp [decideMarker, observed, inactive]

theorem decideMarker_recovered (digest : TransitionDigest) {obs : Observation} (previous : Marker)
    (observed : obs.recovered = true) :
    (decideMarker digest obs previous).1.active = false
      ∧ (decideMarker digest obs previous).2 = .recovered := by
  simp [decideMarker, observed]

theorem afterDecision_send {decided : Marker × AlertAction} {m : Marker}
    (sends : afterDecision decided = .send m) : decided.2 = .send ∧ decided.1 = m := by
  unfold afterDecision at sends
  split at sends
  · rename_i action
    cases sends
    exact ⟨action, rfl⟩
  · cases sends

theorem afterDecision_cases (decided : Marker × AlertAction) :
    afterDecision decided = .ended ∨ afterDecision decided = .send decided.1 := by
  unfold afterDecision
  split
  · exact Or.inr rfl
  · exact Or.inl rfl

/-- After a load of the marker a call has ended or is to write what it decided. -/
theorem afterMarkerLoad_cases (obs : Observation) (left : ℕ) (loaded : Loaded (Marker × Instant)) :
    afterMarkerLoad digest obs left loaded = .ended
      ∨ afterMarkerLoad digest obs left loaded = .observeWrite left loaded := by
  unfold afterMarkerLoad
  split
  · exact Or.inl rfl
  · dsimp only
    split
    · rename_i same
      rcases afterDecision_cases (decideMarker digest obs (previousMarker loaded)) with ended | sends
      · exact Or.inl ended
      · have raised := (decideMarker_send (afterDecision_send sends).1).1
        rw [same] at raised
        omega
    · exact Or.inr rfl

theorem afterDeliveryLoad_cases (obs : Observation) (reserved : Marker) (receiptId : Option String)
    (loaded : Loaded (Marker × Instant)) :
    afterDeliveryLoad obs reserved receiptId loaded = .ended
      ∨ ∃ marker, afterDeliveryLoad obs reserved receiptId loaded = .deliverWrite loaded marker
        ∧ marker.generation = (previousMarker loaded).generation
        ∧ marker.active = (previousMarker loaded).active := by
  unfold afterDeliveryLoad
  split
  · exact Or.inl rfl
  · cases found : loaded.value with
    | none => exact Or.inl rfl
    | some previous =>
      dsimp only
      split
      · refine Or.inr ⟨_, rfl, ?_, ?_⟩
        · simp [previousMarker, found]
        · simp [previousMarker, found]
      · exact Or.inl rfl

/-! ## Sends -/

def reservedIn (log : List AlertEvent) : List ℕ := log.filterMap fun
  | .reserved g => some g
  | .sent _ => none

def sentIn (log : List AlertEvent) : List ℕ := log.filterMap fun
  | .sent g => some g
  | .reserved _ => none

/-- Every send has its reservation earlier in the log. -/
def PendingFirst : List AlertEvent → Prop
  | [] => True
  | .reserved _ :: earlier => PendingFirst earlier
  | .sent g :: earlier => g ∈ reservedIn earlier ∧ PendingFirst earlier

theorem PendingFirst.reserved {log : List AlertEvent} (pending : PendingFirst log) {g : ℕ}
    (sent : g ∈ sentIn log) : g ∈ reservedIn log := by
  induction log with
  | nil => cases sent
  | cons event earlier ih =>
    cases event with
    | reserved h => exact List.mem_cons_of_mem h (ih pending sent)
    | sent h =>
      rcases List.mem_cons.mp (show g ∈ h :: sentIn earlier from sent) with rfl | before
      · exact pending.1
      · exact ih pending.2 before

/-- A loaded document is what is stored if its generation is. -/
def Current {α : Type} (loaded stored : Loaded α) : Prop :=
  loaded.generation ≤ stored.generation ∧ (loaded.generation = stored.generation → loaded = stored)

theorem Current.refl {α : Type} (stored : Loaded α) : Current stored stored := ⟨le_rfl, fun _ => rfl⟩

theorem Current.later {α : Type} {loaded stored next : Loaded α} (current : Current loaded stored)
    (later : stored.generation < next.generation) : Current loaded next := by
  refine ⟨current.1.trans later.le, fun same => ?_⟩
  have := current.1
  omega

/-- What is known of a phase that is not about to send. -/
def PhaseCurrent (stored : Loaded (Marker × Instant)) : Phase → Prop
  | .observeWrite _ loaded => Current loaded stored
  | .deliverWrite loaded marker => Current loaded stored
      ∧ marker.generation = (previousMarker loaded).generation
  | _ => True

theorem PhaseCurrent.later {stored next : Loaded (Marker × Instant)} {phase : Phase}
    (current : PhaseCurrent stored phase) (later : stored.generation < next.generation) :
    PhaseCurrent next phase := by
  cases phase with
  | observeWrite left loaded => exact Current.later current later
  | deliverWrite loaded marker => exact ⟨current.1.later later, current.2⟩
  | _ => trivial

/-- What is known of the reservations and the sends, of each call and of the stored marker. -/
structure Tracked (s : AlertSystem ι) : Prop where
  bounded : ∀ g ∈ reservedIn s.log, g ≤ (previousMarker s.store.marker).generation
  reservedOnce : (reservedIn s.log).Nodup
  sentOnce : (sentIn s.log).Nodup
  pendingFirst : PendingFirst s.log
  holding : ∀ i m, (s.processes i).phase = .send m →
    m.generation ∈ reservedIn s.log ∧ m.generation ∉ sentIn s.log
  apart : ∀ i j m n, (s.processes i).phase = .send m → (s.processes j).phase = .send n →
    m.generation = n.generation → i = j
  current : ∀ i, PhaseCurrent s.store.marker (s.processes i).phase

/-- The marker as it was, or a later one of the same or a greater generation of its own. -/
def Advances (stored next : Loaded (Marker × Instant)) : Prop :=
  next = stored ∨ stored.generation < next.generation
    ∧ (previousMarker stored).generation ≤ (previousMarker next).generation

theorem Advances.generation {stored next : Loaded (Marker × Instant)} (advances : Advances stored next) :
    (previousMarker stored).generation ≤ (previousMarker next).generation := by
  rcases advances with rfl | ⟨-, grown⟩
  · exact le_rfl
  · exact grown

theorem Advances.phase {stored next : Loaded (Marker × Instant)} (advances : Advances stored next)
    {phase : Phase} (current : PhaseCurrent stored phase) : PhaseCurrent next phase := by
  rcases advances with rfl | ⟨later, -⟩
  · exact current
  · exact current.later later

/-- The system after a step of a process. -/
def stepped (s : AlertSystem ι) (i : ι) (store : AlertStore) (obs : Observation) (phase : Phase)
    (log : List AlertEvent) (lastObserved : Instant) : AlertSystem ι :=
  ⟨store, Function.update s.processes i ⟨obs, phase⟩, lastObserved, log⟩

section Stepped
variable {s : AlertSystem ι} {i : ι} {store : AlertStore} {obs : Observation} {phase : Phase}
  {log : List AlertEvent} {lastObserved : Instant}

theorem stepped_phase (j : ι) :
    ((stepped s i store obs phase log lastObserved).processes j).phase
      = if j = i then phase else (s.processes j).phase := by
  unfold stepped
  dsimp only
  by_cases same : j = i
  · subst same
    rw [Function.update_self, if_pos rfl]
  · rw [Function.update_of_ne same, if_neg same]

theorem stepped_current (tracked : Tracked s) (advances : Advances s.store.marker store.marker)
    (own : PhaseCurrent store.marker phase) (j : ι) :
    PhaseCurrent store.marker ((stepped s i store obs phase log lastObserved).processes j).phase := by
  rw [stepped_phase]
  split
  · exact own
  · exact advances.phase (tracked.current j)

/-- A step without an event, to a phase that does not send. -/
theorem Tracked.quiet (tracked : Tracked s) (advances : Advances s.store.marker store.marker)
    (own : PhaseCurrent store.marker phase) (silent : ∀ m, phase ≠ .send m) :
    Tracked (stepped s i store obs phase s.log lastObserved) where
  bounded g member := (tracked.bounded g member).trans advances.generation
  reservedOnce := tracked.reservedOnce
  sentOnce := tracked.sentOnce
  pendingFirst := tracked.pendingFirst
  holding j m sends := by
    rw [stepped_phase] at sends
    split at sends
    · exact absurd sends (silent m)
    · exact tracked.holding j m sends
  apart j k m n first second := by
    rw [stepped_phase] at first second
    split at first
    · exact absurd first (silent m)
    · split at second
      · exact absurd second (silent n)
      · exact tracked.apart j k m n first second
  current := stepped_current tracked advances own

/-- A reservation of the next generation. -/
theorem Tracked.reserve (tracked : Tracked s) {g : ℕ}
    (advances : Advances s.store.marker store.marker)
    (fresh : (previousMarker s.store.marker).generation < g)
    (stored : (previousMarker store.marker).generation = g)
    (own : phase = .ended ∨ ∃ m, phase = .send m ∧ m.generation = g) :
    Tracked (stepped s i store obs phase (.reserved g :: s.log) lastObserved) where
  bounded h member := by
    rcases List.mem_cons.mp (show h ∈ g :: reservedIn s.log from member) with rfl | inLog
    · exact stored.ge
    · exact (tracked.bounded h inLog).trans advances.generation
  reservedOnce := List.nodup_cons.mpr ⟨fun member => by
    have := tracked.bounded g member
    omega, tracked.reservedOnce⟩
  sentOnce := tracked.sentOnce
  pendingFirst := tracked.pendingFirst
  holding j m sends := by
    rw [stepped_phase] at sends
    split at sends
    · rcases own with ended | ⟨n, isSend, generation⟩
      · rw [ended] at sends
        cases sends
      · rw [isSend] at sends
        cases sends
        rw [generation]
        refine ⟨List.mem_cons_self, fun sent => ?_⟩
        have := tracked.bounded g (tracked.pendingFirst.reserved sent)
        omega
    · exact (tracked.holding j m sends).imp_left (List.mem_cons_of_mem g)
  apart j k m n first second same := by
    have own_generation : ∀ x, phase = .send x → x.generation = g := by
      intro x isX
      rcases own with ended | ⟨y, isSend, generation⟩
      · rw [ended] at isX
        cases isX
      · rw [isSend] at isX
        cases isX
        exact generation
    have other_generation : ∀ l x, (s.processes l).phase = .send x → x.generation < g := by
      intro l x isX
      have := tracked.bounded _ (tracked.holding l x isX).1
      omega
    rw [stepped_phase] at first second
    split at first
    · rename_i isI
      split at second
      · rename_i isI'
        rw [isI, isI']
      · have := own_generation m first
        have := other_generation k n second
        omega
    · split at second
      · have := other_generation j m first
        have := own_generation n second
        omega
      · exact tracked.apart j k m n first second same
  current := by
    refine stepped_current tracked advances ?_
    rcases own with rfl | ⟨n, rfl, -⟩ <;> trivial

/-- The send of what the process holds. -/
theorem Tracked.send (tracked : Tracked s) {m : Marker} (holds : (s.processes i).phase = .send m)
    (receiptId : Option String) :
    Tracked (stepped s i s.store obs (.deliver m receiptId) (.sent m.generation :: s.log)
      lastObserved) where
  bounded := tracked.bounded
  reservedOnce := tracked.reservedOnce
  sentOnce := List.nodup_cons.mpr ⟨(tracked.holding i m holds).2, tracked.sentOnce⟩
  pendingFirst := ⟨(tracked.holding i m holds).1, tracked.pendingFirst⟩
  holding j n sends := by
    rw [stepped_phase] at sends
    split at sends
    · cases sends
    · rename_i other
      obtain ⟨reserved, unsent⟩ := tracked.holding j n sends
      refine ⟨reserved, fun sent => ?_⟩
      rcases List.mem_cons.mp (show n.generation ∈ m.generation :: sentIn s.log from sent) with same | sent
      · exact other (tracked.apart j i n m sends holds same)
      · exact unsent sent
  apart j k n o first second same := by
    rw [stepped_phase] at first second
    split at first
    · cases first
    · split at second
      · cases second
      · exact tracked.apart j k n o first second same
  current := stepped_current tracked (Or.inl rfl) trivial

end Stepped

theorem retry_cases (phase : ℕ → Phase) (left : ℕ) :
    retry phase left = .ended ∨ ∃ fewer, retry phase left = phase fewer := by
  cases left with
  | zero => exact Or.inl rfl
  | succ left => exact Or.inr ⟨left, rfl⟩

theorem moves_tracked {s : AlertSystem ι} {i : ι} {store : AlertStore} {phase : Phase} {returned : Bool}
    {events : List AlertEvent} (tracked : Tracked s)
    (step : CallStep digest (s.processes i).observation s.store (s.processes i).phase returned events
      store phase) :
    Tracked (stepped s i store (s.processes i).observation phase (events.reverse ++ s.log)
      s.lastObserved) := by
  have current := tracked.current i
  generalize from_phase : (s.processes i).phase = before at step current
  cases step with
  | stop => exact tracked.quiet (Or.inl rfl) trivial fun _ => nofun
  | loadIndex =>
    unfold afterIndexLoad
    split
    · exact tracked.quiet (Or.inl rfl) trivial fun _ => nofun
    · split
      · exact tracked.quiet (Or.inl rfl) trivial fun _ => nofun
      · exact tracked.quiet (Or.inl rfl) trivial fun _ => nofun
  | writeIndex matched later =>
    cases returned with
    | true => exact tracked.quiet (Or.inl rfl) trivial fun _ => nofun
    | false => exact tracked.quiet (Or.inl rfl) trivial fun _ => nofun
  | @refuseIndex left loaded differs =>
    rcases retry_cases .register left with ended | ⟨fewer, again⟩
    · rw [ended]
      exact tracked.quiet (Or.inl rfl) trivial fun _ => nofun
    · rw [again]
      exact tracked.quiet (Or.inl rfl) trivial fun _ => nofun
  | @loadMarker left =>
    rcases afterMarkerLoad_cases (s.processes i).observation left s.store.marker with ended | writes
    · rw [ended]
      exact tracked.quiet (Or.inl rfl) trivial fun _ => nofun
    · rw [writes]
      exact tracked.quiet (Or.inl rfl) (Current.refl _) fun _ => nofun
  | @writeMarker left next loaded _ matched later =>
    have isStored : loaded = s.store.marker := current.2 matched.symm
    subst isStored
    by_cases sends : (decideMarker digest (s.processes i).observation (previousMarker s.store.marker)).2
        = .send
    · have raised := (decideMarker_send sends).1
      have event : writeEvent (decideMarker digest (s.processes i).observation
          (previousMarker s.store.marker)) = [.reserved ((previousMarker s.store.marker).generation + 1)] := by
        unfold writeEvent
        rw [sends, raised]
      rw [event]
      refine tracked.reserve (Or.inr ⟨later, ?_⟩) (Nat.lt_succ_self _) raised ?_
      · exact (Nat.le_succ _).trans raised.ge
      · cases returned with
        | false => exact Or.inl rfl
        | true =>
          refine Or.inr ⟨_, ?_, raised⟩
          simp only [if_true, afterDecision, sends]
    · have kept := decideMarker_quiet sends
      have event : writeEvent (decideMarker digest (s.processes i).observation
          (previousMarker s.store.marker)) = [] := by
        unfold writeEvent
        split
        · rename_i isSend
          exact absurd isSend sends
        · rfl
      have ended : afterDecision (decideMarker digest (s.processes i).observation
          (previousMarker s.store.marker)) = .ended := by
        rcases afterDecision_cases (decideMarker digest (s.processes i).observation
          (previousMarker s.store.marker)) with ended | isSend
        · exact ended
        · exact absurd (afterDecision_send isSend).1 sends
      rw [event, ended, ite_self]
      exact tracked.quiet (Or.inr ⟨later, kept.ge⟩) trivial fun _ => nofun
  | @refuseMarker left loaded differs =>
    rcases retry_cases .observe left with ended | ⟨fewer, again⟩
    · rw [ended]
      exact tracked.quiet (Or.inl rfl) trivial fun _ => nofun
    · rw [again]
      exact tracked.quiet (Or.inl rfl) trivial fun _ => nofun
  | @send reserved receiptId => exact tracked.send from_phase receiptId
  | @loadDelivery reserved receiptId =>
    rcases afterDeliveryLoad_cases (s.processes i).observation reserved receiptId s.store.marker with
      ended | ⟨marker, writes, generation, -⟩
    · rw [ended]
      exact tracked.quiet (Or.inl rfl) trivial fun _ => nofun
    · rw [writes]
      exact tracked.quiet (Or.inl rfl) ⟨Current.refl _, generation⟩ fun _ => nofun
  | @writeDelivery next loaded marker _ matched later =>
    have isStored : loaded = s.store.marker := current.1.2 matched.symm
    refine tracked.quiet (Or.inr ⟨later, ?_⟩) trivial fun _ => nofun
    rw [← isStored]
    exact current.2.ge

/-- Every step keeps what is known, also a break-off in the middle of a call. -/
theorem step_tracked {s t : AlertSystem ι} {label : AlertLabel ι} (tracked : Tracked s)
    (step : AlertStep digest s label t) : Tracked t := by
  cases step with
  | begins i obs idle ordered =>
    change Tracked (stepped s i s.store obs (.register 7) s.log obs.occurredAt)
    exact tracked.quiet (Or.inl rfl) trivial fun _ => nofun
  | moves i returned step => exact moves_tracked tracked step
  | elsewhere later =>
    exact ⟨tracked.bounded, tracked.reservedOnce, tracked.sentOnce, tracked.pendingFirst,
      tracked.holding, tracked.apart, tracked.current⟩

theorem writeEvent_reserved {decided : Marker × AlertAction} {g : ℕ}
    (event : writeEvent decided = [.reserved g]) : decided.2 = .send ∧ decided.1.generation = g := by
  unfold writeEvent at event
  split at event
  · rename_i sends
    cases event
    exact ⟨sends, rfl⟩
  · cases event

/-- A generation is reserved only by a call that observes an onset or a rise. -/
theorem reserved_by_onset {s t : AlertSystem ι} {label : AlertLabel ι} {g : ℕ} (tracked : Tracked s)
    (step : AlertStep digest s label t) (reserves : t.log = .reserved g :: s.log) :
    ∃ i, OnsetOrRise (s.processes i).observation (previousMarker s.store.marker)
      ∧ g = (previousMarker s.store.marker).generation + 1 := by
  cases step with
  | begins => exact absurd reserves.symm (List.cons_ne_self _ _)
  | elsewhere => exact absurd reserves.symm (List.cons_ne_self _ _)
  | @moves store phase events i returned step =>
    have shown : events = [.reserved g] := by
      have same := List.append_cancel_right (reserves.trans (List.singleton_append).symm)
      rw [← List.reverse_reverse events, same]
      rfl
    have current := tracked.current i
    generalize (s.processes i).phase = before at step current
    cases step with
    | @writeMarker left next loaded _ matched later =>
      obtain rfl : loaded = s.store.marker := current.2 matched.symm
      obtain ⟨sends, generation⟩ := writeEvent_reserved shown
      exact ⟨i, decideMarker_onsetOrRise sends, generation ▸ (decideMarker_send sends).1⟩
    | _ => cases shown

/-! ## The index and the marker -/

/-- A recovery between its two writes. -/
def Midway (obs : Observation) : Phase → Prop
  | .observe _ | .observeWrite _ _ => obs.recovered = true
  | _ => False

/-- An active marker is unrecovered in the index. -/
def Unrecovered (store : AlertStore) : Prop :=
  (previousMarker store.marker).active = true →
    ∃ entry, store.index.value = some entry ∧ entry.recovered = false

/-- The index shows the observation of a call. -/
def InIndex (store : AlertStore) (obs : Observation) : Prop :=
  ∃ entry, store.index.value = some entry ∧ entry.recovered = obs.recovered
    ∧ entry.observedAt = obs.occurredAt

/-- What a call that no other overlaps knows in each phase. -/
def PhaseSound (store : AlertStore) (obs : Observation) : Phase → Prop
  | .registerWrite _ loaded => Current loaded store.index
      ∧ ∀ entry, loaded.value = some entry → entry.observedAt ≤ obs.occurredAt
  | .observe _ => InIndex store obs
  | .observeWrite _ loaded => InIndex store obs ∧ loaded = store.marker
  | .send _ | .deliver _ _ => InIndex store obs ∧ obs.recovered = false
  | .deliverWrite loaded marker => InIndex store obs ∧ obs.recovered = false
      ∧ loaded = store.marker ∧ marker.active = (previousMarker loaded).active
  | _ => True

/-- No marker is later than the entry of the index. -/
def Stamped (store : AlertStore) : Prop :=
  ∀ m stamp, store.marker.value = some (m, stamp) →
    ∃ entry, store.index.value = some entry ∧ stamp ≤ entry.observedAt

structure CallSound (store : AlertStore) (obs : Observation) (phase : Phase) : Prop where
  stamped : Stamped store
  own : PhaseSound store obs phase
  agrees : ¬Midway obs phase → Unrecovered store

section CallSteps
variable {store : AlertStore} {obs : Observation}

theorem unrecovered_of_entry (inIndex : InIndex store obs) (active : obs.recovered = false) :
    Unrecovered store := by
  intro _
  obtain ⟨entry, found, recovered, -⟩ := inIndex
  exact ⟨entry, found, recovered.trans active⟩

theorem loadIndex_sound {left : ℕ} (sound : CallSound store obs (.register left)) :
    CallSound store obs (afterIndexLoad obs left store.index) := by
  have agrees : Unrecovered store := sound.agrees id
  unfold afterIndexLoad
  split
  · exact ⟨sound.stamped, trivial, fun _ => agrees⟩
  · rename_i ordered
    split
    · rename_i same
      exact ⟨sound.stamped, ⟨obs.entry, same, rfl, rfl⟩, fun _ => agrees⟩
    · refine ⟨sound.stamped, ⟨Current.refl _, ?_⟩, fun _ => agrees⟩
      intro entry found
      rw [found] at ordered
      simpa using ordered

theorem writeIndex_sound {left next : ℕ} {loaded : Loaded IndexEntry} {returned : Bool}
    (sound : CallSound store obs (.registerWrite left loaded))
    (matched : store.index.generation = loaded.generation)
    (completes : returned = false → obs.recovered = false) :
    CallSound { store with index := ⟨some obs.entry, next⟩ } obs
      (if returned then .observe 7 else .ended) := by
  obtain ⟨current, ordered⟩ := sound.own
  have isStored : loaded = store.index := current.2 matched.symm
  have stamped : Stamped { store with index := ⟨some obs.entry, next⟩ } := by
    intro m stamp found
    obtain ⟨entry, listed, early⟩ := sound.stamped m stamp found
    exact ⟨obs.entry, rfl, early.trans (ordered entry (isStored ▸ listed))⟩
  have inIndex : InIndex { store with index := ⟨some obs.entry, next⟩ } obs :=
    ⟨obs.entry, rfl, rfl, rfl⟩
  cases returned with
  | true =>
    refine ⟨stamped, inIndex, fun notMidway => unrecovered_of_entry inIndex ?_⟩
    simpa [Midway] using notMidway
  | false => exact ⟨stamped, trivial, fun _ => unrecovered_of_entry inIndex (completes rfl)⟩

theorem loadMarker_sound {left : ℕ} (sound : CallSound store obs (.observe left)) :
    CallSound store obs (afterMarkerLoad digest obs left store.marker) := by
  rcases afterMarkerLoad_cases obs left store.marker with ended | writes
  · rw [ended]
    refine ⟨sound.stamped, trivial, fun _ => ?_⟩
    cases recovered : obs.recovered with
    | false => exact sound.agrees (by simp [Midway, recovered])
    | true =>
      -- a recovery ends here only when the marker is what it would write
      have fresh : isStale obs store.marker = false := by
        unfold isStale
        cases found : store.marker.value with
        | none => rfl
        | some stored =>
          obtain ⟨entry, listed, early⟩ := sound.stamped stored.1 stored.2 found
          obtain ⟨other, listed', -, observed⟩ := sound.own
          rw [listed] at listed'
          cases listed'
          rw [observed] at early
          simpa using early
      unfold afterMarkerLoad at ended
      rw [fresh, if_neg Bool.false_ne_true] at ended
      dsimp only at ended
      split at ended
      · rename_i same
        have inactive := (decideMarker_recovered digest (previousMarker store.marker) recovered).1
        rw [same] at inactive
        intro active
        rw [inactive] at active
        cases active
      · cases ended
  · rw [writes]
    exact ⟨sound.stamped, ⟨sound.own, rfl⟩, sound.agrees⟩

theorem writeMarker_sound {left next : ℕ} {loaded : Loaded (Marker × Instant)} {returned : Bool}
    (sound : CallSound store obs (.observeWrite left loaded)) :
    CallSound
      { store with
        marker := ⟨some ((decideMarker digest obs (previousMarker loaded)).1, obs.occurredAt), next⟩ }
      obs (if returned then afterDecision (decideMarker digest obs (previousMarker loaded)) else .ended) := by
  obtain ⟨inIndex, -⟩ := sound.own
  have stamped : Stamped { store with
      marker := ⟨some ((decideMarker digest obs (previousMarker loaded)).1, obs.occurredAt), next⟩ } := by
    intro m stamp found
    cases found
    obtain ⟨entry, listed, -, observed⟩ := inIndex
    exact ⟨entry, listed, observed.ge⟩
  have agrees : Unrecovered { store with
      marker := ⟨some ((decideMarker digest obs (previousMarker loaded)).1, obs.occurredAt), next⟩ } := by
    cases recovered : obs.recovered with
    | false =>
      intro _
      obtain ⟨entry, listed, isRecovered, -⟩ := inIndex
      exact ⟨entry, listed, isRecovered.trans recovered⟩
    | true =>
      intro active
      have inactive := (decideMarker_recovered digest (previousMarker loaded) recovered).1
      rw [show (previousMarker _).active = (decideMarker digest obs (previousMarker loaded)).1.active from rfl,
        inactive] at active
      cases active
  refine ⟨stamped, ?_, fun _ => agrees⟩
  cases returned with
  | false => trivial
  | true =>
    rw [if_pos rfl]
    rcases afterDecision_cases (decideMarker digest obs (previousMarker loaded)) with ended | sends
    · rw [ended]
      trivial
    · have active := (decideMarker_send (afterDecision_send sends).1).2
      rw [sends]
      exact ⟨inIndex, active⟩

/-- A step of a call keeps what is known, unless it breaks off a recovery between its
writes. -/
theorem callStep_sound {store' : AlertStore} {phase phase' : Phase} {returned : Bool}
    {events : List AlertEvent} (sound : CallSound store obs phase)
    (step : CallStep digest obs store phase returned events store' phase')
    (calm : returned = false → obs.recovered = true → ¬Midway obs phase ∧ store' = store) :
    CallSound store' obs phase' := by
  cases step with
  | stop running =>
    refine ⟨sound.stamped, trivial, fun _ => ?_⟩
    by_cases midway : Midway obs phase
    · have recovered : obs.recovered = true := by
        cases phase with
        | observe left => exact midway
        | observeWrite left loaded => exact midway
        | _ => exact midway.elim
      exact absurd midway (calm rfl recovered).1
    · exact sound.agrees midway
  | loadIndex => exact loadIndex_sound sound
  | @writeIndex left next loaded _ matched later =>
    refine writeIndex_sound sound matched fun broken => ?_
    cases recovered : obs.recovered with
    | false => rfl
    | true =>
      have unchanged := congrArg (fun s => s.index.generation) (calm broken recovered).2
      dsimp only at unchanged
      omega
  | @refuseIndex left loaded differs =>
    rcases retry_cases .register left with ended | ⟨fewer, again⟩
    · rw [ended]
      exact ⟨sound.stamped, trivial, fun _ => sound.agrees id⟩
    · rw [again]
      exact ⟨sound.stamped, trivial, fun _ => sound.agrees id⟩
  | loadMarker => exact loadMarker_sound sound
  | writeMarker matched later => exact writeMarker_sound sound
  | refuseMarker differs => exact absurd (congrArg Loaded.generation sound.own.2).symm differs
  | send receiptId => exact ⟨sound.stamped, sound.own, fun _ => sound.agrees id⟩
  | @loadDelivery reserved receiptId =>
    rcases afterDeliveryLoad_cases obs reserved receiptId store.marker with
      ended | ⟨marker, writes, -, active⟩
    · rw [ended]
      exact ⟨sound.stamped, trivial, fun _ => sound.agrees id⟩
    · rw [writes]
      exact ⟨sound.stamped, ⟨sound.own.1, sound.own.2, rfl, active⟩, fun _ => sound.agrees id⟩
  | @writeDelivery next loaded marker _ matched later =>
    obtain ⟨inIndex, -, isStored, active⟩ := sound.own
    have agrees := sound.agrees id
    refine ⟨?_, trivial, fun _ isActive => ?_⟩
    · intro m stamp found
      cases found
      obtain ⟨entry, listed, -, observed⟩ := inIndex
      exact ⟨entry, listed, observed.ge⟩
    · refine agrees ?_
      rw [← isStored, ← active]
      exact isActive

end CallSteps

/-! ## Calls that do not overlap -/

/-- Calls begin one after another, and a recovery breaks off neither between its writes nor
with a write of the index that took effect. -/
def Calm (s : AlertSystem ι) (label : AlertLabel ι) (t : AlertSystem ι) : Prop :=
  match label with
  | .begins _ => ∀ j, (s.processes j).phase = .ended
  | .breaks i => (s.processes i).observation.recovered = true →
    ¬Midway (s.processes i).observation (s.processes i).phase ∧ t.store = s.store
  | _ => True

def CalmStep (digest : TransitionDigest) (s : AlertSystem ι) (label : AlertLabel ι)
    (t : AlertSystem ι) : Prop := AlertStep digest s label t ∧ Calm s label t

/-- At most one call runs, and what it knows holds. -/
structure Serial (s : AlertSystem ι) : Prop where
  single : ∀ i j, (s.processes i).phase ≠ .ended → (s.processes j).phase ≠ .ended → i = j
  idle : (∀ i, (s.processes i).phase = .ended) → Stamped s.store ∧ Unrecovered s.store
  running : ∀ i, (s.processes i).phase ≠ .ended →
    CallSound s.store (s.processes i).observation (s.processes i).phase

theorem serial_of_stepped {s : AlertSystem ι} {i : ι} {store : AlertStore} {obs : Observation}
    {phase : Phase} {log : List AlertEvent} {lastObserved : Instant}
    (others : ∀ j, j ≠ i → (s.processes j).phase = .ended) (sound : CallSound store obs phase) :
    Serial (stepped s i store obs phase log lastObserved) where
  single j k first second := by
    rw [stepped_phase] at first second
    by_cases isI : j = i
    · by_cases isI' : k = i
      · rw [isI, isI']
      · rw [if_neg isI'] at second
        exact absurd (others k isI') second
    · rw [if_neg isI] at first
      exact absurd (others j isI) first
  idle all := by
    have ended := all i
    rw [stepped_phase, if_pos rfl] at ended
    refine ⟨sound.stamped, sound.agrees ?_⟩
    rw [ended]
    exact id
  running j runs := by
    have isI : j = i := by
      by_contra other
      rw [stepped_phase, if_neg other] at runs
      exact runs (others j other)
    subst isI
    unfold stepped
    dsimp only
    rw [Function.update_self]
    exact sound

theorem CallSound.elsewhere {store : AlertStore} {obs : Observation} {phase : Phase} {next : ℕ}
    (sound : CallSound store obs phase) (later : store.index.generation < next) :
    CallSound { store with index := ⟨store.index.value, next⟩ } obs phase where
  stamped := sound.stamped
  own := by
    have own := sound.own
    cases phase with
    | registerWrite left loaded => exact ⟨own.1.later later, own.2⟩
    | _ => exact own
  agrees := sound.agrees

/-- A step of a run without overlapping calls keeps index and marker in step. -/
theorem step_serial {s t : AlertSystem ι} {label : AlertLabel ι} (serial : Serial s)
    (step : CalmStep digest s label t) : Serial t := by
  obtain ⟨step, calm⟩ := step
  cases step with
  | begins i obs idle ordered =>
    have all : ∀ j, (s.processes j).phase = .ended := calm
    obtain ⟨stamped, agrees⟩ := serial.idle all
    change Serial (stepped s i s.store obs (.register 7) s.log obs.occurredAt)
    exact serial_of_stepped (fun j _ => all j) ⟨stamped, trivial, fun _ => agrees⟩
  | @moves store phase events i returned step =>
    have runs : (s.processes i).phase ≠ .ended := by
      intro ended
      rw [ended] at step
      cases step with
      | stop running => exact running rfl
    refine serial_of_stepped (fun j other => ?_) (callStep_sound (serial.running i runs) step ?_)
    · by_contra running
      exact other (serial.single j i running runs)
    · rintro rfl recovered
      exact calm recovered
  | elsewhere later =>
    exact {
      single := serial.single
      idle := serial.idle
      running := fun i runs => (serial.running i runs).elsewhere later }

/-- The index and the marker agree. -/
structure Agrees (store : AlertStore) : Prop where
  recovered : ∀ entry, store.index.value = some entry → entry.recovered = true →
    (previousMarker store.marker).active = false
  active : Unrecovered store

theorem agrees_of_unrecovered {store : AlertStore} (unrecovered : Unrecovered store) : Agrees store := by
  refine ⟨fun entry listed recovered => ?_, unrecovered⟩
  by_contra active
  obtain ⟨other, found, unrecoveredEntry⟩ := unrecovered (by simpa using active)
  rw [listed] at found
  cases found
  rw [recovered] at unrecoveredEntry
  cases unrecoveredEntry

omit [DecidableEq ι] in
theorem Serial.agrees {s : AlertSystem ι} (serial : Serial s)
    (settled : ∀ i, ¬Midway (s.processes i).observation (s.processes i).phase) : Agrees s.store := by
  by_cases all : ∀ i, (s.processes i).phase = .ended
  · exact agrees_of_unrecovered (serial.idle all).2
  · obtain ⟨i, runs⟩ := not_forall.mp all
    exact agrees_of_unrecovered ((serial.running i runs).agrees (settled i))

omit [DecidableEq ι] in
variable (ι) in
theorem initial_serial (obs : Observation) : Serial (AlertSystem.initial obs : AlertSystem ι) where
  single _ _ runs := absurd rfl runs
  idle _ := by
    constructor
    · intro m stamp found
      cases found
    · intro active
      cases active
  running _ runs := absurd rfl runs

omit [DecidableEq ι] in
variable (ι) in
theorem initial_tracked (obs : Observation) : Tracked (AlertSystem.initial obs : AlertSystem ι) where
  bounded _ member := nomatch member
  reservedOnce := .nil
  sentOnce := .nil
  pendingFirst := trivial
  holding _ _ sends := nomatch sends
  apart _ _ _ _ sends := nomatch sends
  current _ := trivial

/-- In every run each generation is reserved once, by an onset or a rise, and sent at most
once, after its reservation. In a run of calm steps the index and the marker agree wherever
no recovery is between its two writes, and the next active observation after a recovery is
sent. -/
theorem alerts_delivered (ι : Type) [DecidableEq ι] (digest : TransitionDigest) (obs : Observation) :
    (∀ labels (s : AlertSystem ι), Run (AlertStep digest) (.initial obs) labels s →
      ((reservedIn s.log).Nodup ∧ (sentIn s.log).Nodup ∧ PendingFirst s.log)
      ∧ ∀ label t g, AlertStep digest s label t → t.log = .reserved g :: s.log →
        ∃ i, OnsetOrRise (s.processes i).observation (previousMarker s.store.marker)
          ∧ g = (previousMarker s.store.marker).generation + 1)
    ∧ ∀ labels (s : AlertSystem ι), Run (CalmStep digest) (.initial obs) labels s →
      (∀ i, ¬Midway (s.processes i).observation (s.processes i).phase) →
      Agrees s.store
      ∧ ∀ entry, s.store.index.value = some entry → entry.recovered = true →
        ∀ next : Observation, next.recovered = false →
          (decideMarker digest next (previousMarker s.store.marker)).2 = .send := by
  constructor
  · intro labels s run
    have tracked := run.invariant (initial_tracked ι obs) fun _ _ _ => step_tracked
    exact ⟨⟨tracked.reservedOnce, tracked.sentOnce, tracked.pendingFirst⟩,
      fun _ _ _ => reserved_by_onset tracked⟩
  · intro labels s run settled
    have agrees := (run.invariant (initial_serial ι obs) fun _ _ _ => step_serial).agrees settled
    exact ⟨agrees, fun entry listed recovered next active =>
      decideMarker_onset active (agrees.recovered entry listed recovered)⟩

/-! ## A recovery that breaks off -/

def failureAt (t : Instant) : Observation := ⟨"real_error", t, "active", 1, false⟩

def healthyAt (t : Instant) : Observation := ⟨"healthy_heartbeat", t, "recovered", 0, true⟩

def emptyDigest : TransitionDigest := fun _ _ _ _ => ""

/-- The marker of the first onset. -/
def firstMarker : Marker := ⟨true, some "active", 1, 1, some "", .pending, none⟩

/-- One process: an onset is sent, and the crash of the recovery follows its index write. -/
def brokenOff : AlertSystem Unit where
  store := ⟨⟨some ⟨"healthy_heartbeat", 2, true⟩, 2⟩, ⟨some (firstMarker, 1), 1⟩⟩
  processes _ := ⟨healthyAt 2, .ended⟩
  lastObserved := 2
  log := [.sent 1, .reserved 1]

theorem update_unit (f : Unit → AlertProcess) (p : AlertProcess) : Function.update f () p = fun _ => p := by
  funext u
  cases u
  exact Function.update_self _ _ _

/-- A step of the only process. -/
theorem unit_moves {store next : AlertStore} {obs : Observation} {phase after : Phase} {t : Instant}
    {log events : List AlertEvent} (returned : Bool)
    (step : CallStep emptyDigest obs store phase returned events next after) :
    AlertStep emptyDigest (⟨store, fun _ => ⟨obs, phase⟩, t, log⟩ : AlertSystem Unit)
      (moveLabel () returned) ⟨next, fun _ => ⟨obs, after⟩, t, events.reverse ++ log⟩ := by
  have moved := AlertStep.moves (s := (⟨store, fun _ => ⟨obs, phase⟩, t, log⟩ : AlertSystem Unit)) ()
    returned step
  rw [update_unit] at moved
  exact moved

theorem unit_begins {store : AlertStore} {obs next : Observation} {t : Instant} {log : List AlertEvent}
    (ordered : t ≤ next.occurredAt) :
    AlertStep emptyDigest (⟨store, fun _ => ⟨obs, .ended⟩, t, log⟩ : AlertSystem Unit) (.begins ())
      ⟨store, fun _ => ⟨next, .register 7⟩, next.occurredAt, log⟩ := by
  have begun : AlertStep emptyDigest (⟨store, fun _ => ⟨obs, .ended⟩, t, log⟩ : AlertSystem Unit)
    (.begins ()) _ := .begins () next rfl ordered
  rw [update_unit] at begun
  exact begun

theorem calm_moves {store next : AlertStore} {obs : Observation} {phase after : Phase} {t : Instant}
    {log events : List AlertEvent} (step : CallStep emptyDigest obs store phase true events next after) :
    CalmStep emptyDigest (⟨store, fun _ => ⟨obs, phase⟩, t, log⟩ : AlertSystem Unit)
      (moveLabel () true) ⟨next, fun _ => ⟨obs, after⟩, t, events.reverse ++ log⟩ :=
  ⟨unit_moves true step, trivial⟩

theorem calm_begins {store : AlertStore} {obs next : Observation} {t : Instant} {log : List AlertEvent}
    (ordered : t ≤ next.occurredAt) :
    CalmStep emptyDigest (⟨store, fun _ => ⟨obs, .ended⟩, t, log⟩ : AlertSystem Unit) (.begins ())
      ⟨store, fun _ => ⟨next, .register 7⟩, next.occurredAt, log⟩ :=
  ⟨unit_begins ordered, fun _ => rfl⟩

/-- The call that alerts is about to write its marker. -/
def observedSystem : AlertSystem Unit where
  store := ⟨⟨some ⟨"real_error", 1, false⟩, 1⟩, ⟨none, 0⟩⟩
  processes _ := ⟨failureAt 1, .observeWrite 7 ⟨none, 0⟩⟩
  lastObserved := 1
  log := []

/-- It is about to send. -/
def reservedSystem : AlertSystem Unit where
  store := ⟨⟨some ⟨"real_error", 1, false⟩, 1⟩, ⟨some (firstMarker, 1), 1⟩⟩
  processes _ := ⟨failureAt 1, .send firstMarker⟩
  lastObserved := 1
  log := [.reserved 1]

theorem observed_run :
    ∃ labels, Run (CalmStep emptyDigest) (.initial (failureAt 0)) labels observedSystem := by
  have ordered : BinancePlatform.Source.DateTime.minInstant ≤ (failureAt 1).occurredAt := by decide
  have begun : Run (CalmStep emptyDigest) (.initial (failureAt 0) : AlertSystem Unit) _ _ :=
    Run.start.next (calm_begins ordered)
  have loaded := begun.next (calm_moves .loadIndex)
  have written := loaded.next (calm_moves (.writeIndex true rfl (by decide : (0 : ℕ) < 1)))
  exact ⟨_, written.next (calm_moves .loadMarker)⟩

theorem reserve_step : CalmStep emptyDigest observedSystem (moveLabel () true) reservedSystem :=
  calm_moves (.writeMarker true rfl (by decide : (0 : ℕ) < 1))

/-- The call that alerts, from its first load to a crash after the send. -/
theorem alert_run : ∃ labels, Run (CalmStep emptyDigest) (.initial (failureAt 0) : AlertSystem Unit) labels
    ⟨⟨⟨some ⟨"real_error", 1, false⟩, 1⟩, ⟨some (firstMarker, 1), 1⟩⟩, fun _ => ⟨failureAt 1, .ended⟩, 1,
      [.sent 1, .reserved 1]⟩ := by
  obtain ⟨labels, run⟩ := observed_run
  have sent := (run.next reserve_step).next (calm_moves (.send none))
  exact ⟨_, sent.next ⟨unit_moves false (.stop (by simp)), nofun⟩⟩

theorem broken_off_run :
    ∃ labels, Run (AlertStep emptyDigest) (.initial (failureAt 0)) labels brokenOff := by
  obtain ⟨labels, run⟩ := alert_run
  have ordered : (1 : Instant) ≤ (healthyAt 2).occurredAt := by decide
  have begun := (run.mono fun _ _ _ calm => calm.1).next (unit_begins ordered)
  have loaded := begun.next (unit_moves true .loadIndex)
  have written := loaded.next (unit_moves true (.writeIndex true rfl (by decide : (1 : ℕ) < 2)))
  exact ⟨_, written.next (unit_moves false (.stop (by simp)))⟩

/-- The onset is sent, and the recovery goes on to its marker. -/
def recoveredSystem : AlertSystem Unit where
  store := ⟨⟨some ⟨"healthy_heartbeat", 2, true⟩, 2⟩,
    ⟨some ({ firstMarker with active := false, state := some "recovered", severity := 0 }, 2), 2⟩⟩
  processes _ := ⟨healthyAt 2, .ended⟩
  lastObserved := 2
  log := [.sent 1, .reserved 1]

theorem recovered_run :
    ∃ labels, Run (CalmStep emptyDigest) (.initial (failureAt 0)) labels recoveredSystem := by
  obtain ⟨labels, run⟩ := alert_run
  have ordered : (1 : Instant) ≤ (healthyAt 2).occurredAt := by decide
  have begun := run.next (calm_begins ordered)
  have loaded := begun.next (calm_moves .loadIndex)
  have written := loaded.next (calm_moves (.writeIndex true rfl (by decide : (1 : ℕ) < 2)))
  have observed := written.next (calm_moves .loadMarker)
  exact ⟨_, observed.next (calm_moves (.writeMarker true rfl (by decide : (1 : ℕ) < 2)))⟩

theorem alerts_delivered_first :
    ((reservedIn recoveredSystem.log).Nodup ∧ (sentIn recoveredSystem.log).Nodup
      ∧ PendingFirst recoveredSystem.log)
    ∧ (∃ i, OnsetOrRise (observedSystem.processes i).observation (previousMarker observedSystem.store.marker)
      ∧ 1 = (previousMarker observedSystem.store.marker).generation + 1)
    ∧ Agrees recoveredSystem.store
    ∧ (decideMarker emptyDigest (failureAt 3) (previousMarker recoveredSystem.store.marker)).2 = .send := by
  obtain ⟨labels, observed⟩ := observed_run
  obtain ⟨longer, recovered⟩ := recovered_run
  obtain ⟨once, calm⟩ := alerts_delivered Unit emptyDigest (failureAt 0)
  obtain ⟨agrees, sends⟩ := calm longer recoveredSystem recovered fun _ => nofun
  refine ⟨(once longer _ (recovered.mono fun _ _ _ calm => calm.1)).1, ?_, agrees, ?_⟩
  · exact (once labels _ (observed.mono fun _ _ _ calm => calm.1)).2 _ _ 1 reserve_step.1 rfl
  · exact sends ⟨"healthy_heartbeat", 2, true⟩ rfl rfl (failureAt 3) rfl

/-- No call runs, the index shows the incident as recovered, its marker is active, and the
next onset is dropped as a duplicate. -/
theorem recovery_broken_off :
    (∃ labels, Run (AlertStep emptyDigest) (.initial (failureAt 0)) labels brokenOff)
    ∧ (brokenOff.processes ()).phase = .ended
    ∧ ¬Agrees brokenOff.store
    ∧ (decideMarker emptyDigest (failureAt 3) (previousMarker brokenOff.store.marker)).2 = .duplicate := by
  refine ⟨broken_off_run, rfl, fun agrees => ?_, by decide⟩
  have inactive := agrees.recovered ⟨"healthy_heartbeat", 2, true⟩ rfl rfl
  exact absurd inactive (by decide)

end BinancePlatform.Guarantees.AlertDelivery
