import BinancePlatform.Source.LiveAuthority
import Mathlib.Tactic.IntervalCases

/-!
# An interrupted authority reissue

The three writes come in one order, so an interrupted run leaves one of few states. The
loader ties the bytes to the digest variable and not to the source revision: it refuses
new bytes beside the old digest and accepts them beside the old source revision. A second
run with the same arguments finishes or raises before it writes.

* A submission reaches its stages in order and stops at a failed write (`submit_submits`,
  `runUpdate_ran`).
* What a run has reached decides what the loader does (`reached_staged`, `load_ok`).
* A retry ends with all three written or writes nothing (`retry_retried`); for every failure
  point `interrupted_reissue_recovers` puts these together.
* `source_failure_mixes_sides` is an accepted state with bytes and revision of two sides.

The remote store acknowledges or refuses each write; a digest is a parameter.
-/

set_option autoImplicit false

namespace BinancePlatform.Guarantees.ReissueRecovery
open BinancePlatform.Library BinancePlatform.Source Program

variable {digest : RawBytes → String} {request : UpdateRequest} {targets : UpdateTargets} {newRaw : RawBytes}

/-! ## What a run writes -/

/-- What a call would write, once its arguments and its bytes are checked. -/
structure Planned (digest : RawBytes → String) (request : UpdateRequest) (targets : UpdateTargets)
    (newRaw : RawBytes) : Prop where
  arguments : updateTargets request = .ok targets
  bytes : plannedBytes digest request targets = .ok newRaw

/-- The states between the writes of a run that began at `old`. -/
inductive Stage (digest : RawBytes → String) (old : AuthorityEnvironment) (raw newRaw : RawBytes)
    (source : String) : AuthorityEnvironment → Prop where
  | untouched : Stage digest old raw newRaw source old
  | secret : Stage digest old raw newRaw source { old with secret := newRaw }
  | sha256 : Stage digest old raw newRaw source { old with secret := newRaw, sha256 := digest newRaw }
  | sourceOnly (same : newRaw = raw) : Stage digest old raw newRaw source { old with sourceRevision := source }
  | source : Stage digest old raw newRaw source ⟨newRaw, digest newRaw, source⟩

/-- Every write is applied and acknowledged. -/
def Acknowledges (gateway : Gateway) : Prop :=
  gateway.secretWrite = .submitted ∧ gateway.sha256Write = .submitted ∧ gateway.sourceWrite = .submitted

/-- The environment after every write that the call needs. -/
def submitted (digest : RawBytes → String) (request : UpdateRequest) (targets : UpdateTargets)
    (newRaw : RawBytes) (s : AuthorityEnvironment) : AuthorityEnvironment where
  secret := if newRaw = request.rawAuthority then s.secret else newRaw
  sha256 := if newRaw = request.rawAuthority then s.sha256 else digest newRaw
  sourceRevision := if targets.expectedSource = targets.source then s.sourceRevision else targets.source

theorem remoteWrite_reached (outcome : RemoteWriteOutcome) (failure : String)
    (apply : AuthorityEnvironment → AuthorityEnvironment) (s : AuthorityEnvironment) :
    remoteWrite outcome failure apply s = (.ok (), apply s) ∧ outcome = .submitted
      ∨ (∃ raised, (remoteWrite outcome failure apply s).1 = .error raised) ∧ outcome ≠ .submitted
        ∧ ((remoteWrite outcome failure apply s).2 = s ∨ (remoteWrite outcome failure apply s).2 = apply s) := by
  cases outcome with
  | submitted => exact .inl ⟨rfl, rfl⟩
  | failed applied =>
    refine .inr ⟨⟨_, rfl⟩, nofun, ?_⟩
    cases applied with
    | false => exact .inl rfl
    | true => exact .inr rfl
  | uncertain applied =>
    refine .inr ⟨⟨_, rfl⟩, nofun, ?_⟩
    cases applied with
    | false => exact .inl rfl
    | true => exact .inr rfl

/-- A write is the last of a run, or it is applied and the run goes on. -/
theorem remoteWrite_bind {α : Type} (outcome : RemoteWriteOutcome) (failure : String)
    (apply : AuthorityEnvironment → AuthorityEnvironment) (next : Unit → Reissue α) (s : AuthorityEnvironment) :
    (remoteWrite outcome failure apply >>= next) s = next () (apply s)
      ∨ outcome ≠ .submitted ∧ (∃ raised, ((remoteWrite outcome failure apply >>= next) s).1 = .error raised)
        ∧ (((remoteWrite outcome failure apply >>= next) s).2 = s
          ∨ ((remoteWrite outcome failure apply >>= next) s).2 = apply s) := by
  rcases remoteWrite_reached outcome failure apply s with ⟨ran, -⟩ | ⟨⟨raised, left⟩, other, reached⟩
  · exact .inl (run_bind_ok ran)
  · have ran : remoteWrite outcome failure apply s = (.error raised, (remoteWrite outcome failure apply s).2) :=
      Prod.ext left rfl
    rw [run_bind_error ran]
    exact .inr ⟨other, ⟨raised, rfl⟩, reached⟩

/-- The states a submission passes, what it leaves when it returns, and when it does. -/
structure Submits (digest : RawBytes → String) (gateway : Gateway) (request : UpdateRequest)
    (targets : UpdateTargets) (newRaw : RawBytes) (s : AuthorityEnvironment)
    (ran : Except PyException Unit × AuthorityEnvironment) : Prop where
  stage : Stage digest s request.rawAuthority newRaw targets.source ran.2
  returned : ran.1 = .ok () → ran.2 = submitted digest request targets newRaw s
  acknowledged : Acknowledges gateway → ran.1 = .ok ()

/-- The three writes are made in order, up to the first that fails. -/
theorem submit_submits (gateway : Gateway) (s : AuthorityEnvironment) :
    Submits digest gateway request targets newRaw s (submit digest gateway request targets newRaw s) := by
  unfold submit
  by_cases same : newRaw = request.rawAuthority
  · rw [if_neg (not_not.mpr same)]
    by_cases settled : targets.expectedSource = targets.source
    · rw [if_neg (not_not.mpr settled)]
      refine ⟨.untouched, fun _ => ?_, fun _ => rfl⟩
      rw [submitted, if_pos same, if_pos same, if_pos settled]
      rfl
    · rw [if_pos settled]
      dsimp only
      rcases remoteWrite_reached gateway.sourceWrite _ _ s with ⟨ran, -⟩ | ⟨⟨raised, left⟩, other, reached⟩
      · rw [ran]
        exact ⟨.sourceOnly same, fun _ => by simp [submitted, same, settled], fun _ => rfl⟩
      · refine ⟨?_, ?_, fun acknowledges => absurd acknowledges.2.2 other⟩
        · rcases reached with reached | reached
          · rw [reached]
            exact .untouched
          · rw [reached]
            exact .sourceOnly same
        · rw [left]
          nofun
  · rw [if_pos same]
    rcases remoteWrite_bind gateway.secretWrite _ _ _ s with onward | ⟨other, ⟨raised, left⟩, reached⟩
    · rw [onward]
      rcases remoteWrite_bind gateway.sha256Write _ _ _ _ with onward | ⟨other, ⟨raised, left⟩, reached⟩
      · rw [onward]
        by_cases settled : targets.expectedSource = targets.source
        · rw [if_neg (not_not.mpr settled)]
          refine ⟨.sha256, fun _ => ?_, fun _ => rfl⟩
          rw [submitted, if_neg same, if_neg same, if_pos settled]
          rfl
        · rw [if_pos settled]
          dsimp only
          rcases remoteWrite_reached gateway.sourceWrite _ _ _ with ⟨ran, -⟩ | ⟨⟨raised, left⟩, other, reached⟩
          · rw [ran]
            exact ⟨.source, fun _ => by simp [submitted, same, settled], fun _ => rfl⟩
          · refine ⟨?_, ?_, fun acknowledges => absurd acknowledges.2.2 other⟩
            · rcases reached with reached | reached
              · rw [reached]
                exact .sha256
              · rw [reached]
                exact .source
            · rw [left]
              nofun
      · refine ⟨?_, ?_, fun acknowledges => absurd acknowledges.2.1 other⟩
        · rcases reached with reached | reached
          · rw [reached]
            exact .secret
          · rw [reached]
            exact .sha256
        · rw [left]
          nofun
    · refine ⟨?_, ?_, fun acknowledges => absurd acknowledges.1 other⟩
      · rcases reached with reached | reached
        · rw [reached]
          exact .untouched
        · rw [reached]
          exact .secret
      · rw [left]
        nofun

/-! ## One call -/

theorem lowerHex_plain {c : Char} (hex : lowerHex c = true) :
    NumberText.isSpace c = false ∧ NumberText.lower c = c := by
  simp only [lowerHex, Bool.or_eq_true, Bool.and_eq_true, decide_eq_true_eq, Char.le_def,
    UInt32.le_iff_toNat_le] at hex
  have digit : '0'.val.toNat = 48 ∧ '9'.val.toNat = 57 ∧ 'a'.val.toNat = 97 ∧ 'f'.val.toNat = 102 := by decide
  have code : (48 ≤ c.toNat ∧ c.toNat ≤ 57) ∨ (97 ≤ c.toNat ∧ c.toNat ≤ 102) := by
    simp only [Char.toNat]
    omega
  constructor
  · simp only [NumberText.isSpace, Bool.or_eq_false_iff, Bool.and_eq_false_iff, decide_eq_false_iff_not]
    omega
  · have other : ¬('A' ≤ c ∧ c ≤ 'Z') := by
      have capital : 'A'.val.toNat = 65 ∧ 'Z'.val.toNat = 90 := by decide
      simp only [Char.le_def, UInt32.le_iff_toNat_le]
      simp only [Char.toNat] at code
      omega
    rw [NumberText.lower, if_neg other]

/-- A hexadecimal text is its own normal form. -/
theorem normalized_of_hex {length : ℕ} {text : String} (hex : fullMatch lowerHex length length text = true) :
    normalized text = text := by
  simp only [fullMatch, Bool.and_eq_true, List.all_eq_true] at hex
  have plain := fun c member => lowerHex_plain (hex.1.1 c member)
  rw [normalized, strip, NumberText.strip_eq_self fun c member => (plain c member).1, String.toList_ofList,
    List.map_congr_left fun c member => (plain c member).2, List.map_id', String.ofList_toList]

theorem requireSha_ok {value fieldName text : String} {length : ℕ}
    (checked : requireSha value fieldName length = .ok text) :
    text = normalized value ∧ fullMatch lowerHex length length text = true := by
  obtain ⟨hex, returned⟩ := require_bind checked
  have same : normalized value = text := Except.ok.inj returned
  rw [← same]
  exact ⟨rfl, hex⟩

theorem evaluate_bind {α β : Type} {outcome : Except PyException α} {value : α} (next : α → Reissue β)
    (s : AuthorityEnvironment) (known : outcome = .ok value) :
    (Reissue.evaluate outcome >>= next) s = next value s := by
  rw [known]
  exact run_bind_ok rfl

theorem evaluate_bind_error {α β : Type} {outcome : Except PyException α} {raised : PyException}
    (next : α → Reissue β) (s : AuthorityEnvironment) (known : outcome = .error raised) :
    (Reissue.evaluate outcome >>= next) s = (.error raised, s) := by
  rw [known]
  exact run_bind_error rfl

/-- The two variables that a call expects. -/
structure Expected (request : UpdateRequest) (targets : UpdateTargets)
    (s : AuthorityEnvironment) : Prop where
  sha256 : normalized s.sha256 = normalized request.expectedAuthoritySha256
  source : normalized s.sourceRevision = normalized targets.expectedSource

theorem checkedRead_reached (gateway : Gateway) (n : ℕ) (s : AuthorityEnvironment) :
    (∃ raised, checkedRead gateway n request targets.expectedSource s = (.error raised, s))
      ∨ checkedRead gateway n request targets.expectedSource s = (.ok (), s)
        ∧ Expected request targets s := by
  unfold checkedRead
  have fetched : (Program.get : Reissue AuthorityEnvironment) s = (.ok s, s) := rfl
  rw [run_bind_ok fetched]
  cases read : gateway.reads n with
  | error raised => exact .inl ⟨raised, evaluate_bind_error _ s rfl⟩
  | ok flags =>
    rw [evaluate_bind _ s rfl]
    cases checked : assertPreconditions flags s request.expectedAuthoritySha256 targets.expectedSource with
    | error raised => exact .inl ⟨raised, rfl⟩
    | ok _ =>
      refine .inr ⟨rfl, ?_⟩
      obtain ⟨sha, shaChecked, checked⟩ := bind_ok checked
      obtain ⟨source, sourceChecked, checked⟩ := bind_ok checked
      obtain ⟨-, checked⟩ := require_bind checked
      obtain ⟨sameSha, checked⟩ := require_bind checked
      obtain ⟨sameSource, -⟩ := require_bind checked
      rw [(requireSha_ok shaChecked).1, decide_eq_true_eq] at sameSha
      rw [(requireSha_ok sourceChecked).1, decide_eq_true_eq] at sameSource
      exact ⟨sameSha, sameSource⟩

/-- What one call does. -/
inductive Ran (digest : RawBytes → String) (gateway : Gateway) (request : UpdateRequest)
    (s : AuthorityEnvironment) : Except PyException UpdateStatus × AuthorityEnvironment → Prop where
  | refused (raised : PyException) : Ran digest gateway request s (.error raised, s)
  | settled (targets : UpdateTargets) (planned : Planned digest request targets request.rawAuthority)
      (expected : Expected request targets s) (same : targets.expectedSource = targets.source) :
      Ran digest gateway request s (.ok .alreadyAtTarget, s)
  | planned (targets : UpdateTargets) (newRaw : RawBytes) (planned : Planned digest request targets newRaw)
      (mode : targets.mode = "plan") : Ran digest gateway request s (.ok .planOk, s)
  | submitted (targets : UpdateTargets) (newRaw : RawBytes) (planned : Planned digest request targets newRaw)
      (expected : Expected request targets s) (outcome : Except PyException Unit) (reached : AuthorityEnvironment)
      (ran : submit digest gateway request targets newRaw s = (outcome, reached)) :
      Ran digest gateway request s (outcome.map fun _ => .applySubmitted, reached)

/-- A call raises before it writes, finds nothing to do, only plans, or submits what it planned. -/
theorem runUpdate_ran (gateway : Gateway) (s : AuthorityEnvironment) :
    Ran digest gateway request s (runUpdate digest gateway request s) := by
  unfold runUpdate
  cases arguments : updateTargets request with
  | error raised =>
    rw [evaluate_bind_error _ s rfl]
    exact .refused raised
  | ok targets =>
    rw [evaluate_bind _ s rfl]
    rcases checkedRead_reached gateway 0 s with ⟨raised, read⟩ | ⟨read, expected⟩
    · rw [run_bind_error read]
      exact .refused raised
    · rw [run_bind_ok read]
      cases bytes : plannedBytes digest request targets with
      | error raised =>
        rw [evaluate_bind_error _ s rfl]
        exact .refused raised
      | ok newRaw =>
        rw [evaluate_bind _ s rfl]
        by_cases settled : newRaw = request.rawAuthority ∧ targets.expectedSource = targets.source
        · rw [if_pos settled]
          exact .settled targets ⟨arguments, by rw [bytes, settled.1]⟩ expected settled.2
        · rw [if_neg settled]
          by_cases mode : targets.mode = "plan"
          · rw [if_pos mode]
            exact .planned targets newRaw ⟨arguments, bytes⟩ mode
          · rw [if_neg mode]
            cases token : require request.writeTokenPresent
                (authorityUpdateError "apply requires BINANCE_AUTHORITY_UPDATE_TOKEN") with
            | error raised =>
              rw [evaluate_bind_error _ s rfl]
              exact .refused raised
            | ok _ =>
              rw [evaluate_bind _ s rfl]
              rcases checkedRead_reached gateway 1 s with ⟨raised, read⟩ | ⟨read, expected⟩
              · rw [run_bind_error read]
                exact .refused raised
              · rw [run_bind_ok read]
                cases ran : submit digest gateway request targets newRaw s with
                | mk outcome reached =>
                  cases outcome with
                  | error raised =>
                    rw [run_bind_error ran]
                    exact .submitted targets newRaw ⟨arguments, bytes⟩ expected (.error raised) reached ran
                  | ok _ =>
                    rw [run_bind_ok ran]
                    exact .submitted targets newRaw ⟨arguments, bytes⟩ expected (.ok ()) reached ran

theorem Planned.unique {targets' : UpdateTargets} {newRaw' : RawBytes} (planned : Planned digest request targets newRaw)
    (other : Planned digest request targets' newRaw') : targets' = targets ∧ newRaw' = newRaw := by
  obtain rfl : targets' = targets := Except.ok.inj (other.arguments.symm.trans planned.arguments)
  exact ⟨rfl, Except.ok.inj (other.bytes.symm.trans planned.bytes)⟩

theorem Planned.facts (planned : Planned digest request targets newRaw) :
    targets.mode = normalized request.mode ∧ normalized targets.source = targets.source
      ∧ normalized targets.expectedSource = targets.expectedSource
      ∧ normalized request.expectedAuthoritySha256 = digest request.rawAuthority := by
  obtain ⟨arguments, bytes⟩ := planned
  obtain ⟨-, arguments⟩ := require_bind arguments
  obtain ⟨_, -, arguments⟩ := bind_ok arguments
  obtain ⟨_, -, arguments⟩ := bind_ok arguments
  obtain ⟨_, -, arguments⟩ := bind_ok arguments
  obtain ⟨source, sourceHex, arguments⟩ := bind_ok arguments
  obtain ⟨expected, expectedHex, arguments⟩ := bind_ok arguments
  obtain rfl := Except.ok.inj arguments
  obtain ⟨sha, shaHex, bytes⟩ := bind_ok bytes
  obtain ⟨same, -⟩ := require_bind bytes
  rw [(requireSha_ok shaHex).1, decide_eq_true_eq] at same
  exact ⟨rfl, normalized_of_hex (requireSha_ok sourceHex).2, normalized_of_hex (requireSha_ok expectedHex).2,
    same.symm⟩

/-- Without a plan nothing is written; with one the run stops at a stage of it. -/
theorem reached_staged (gateway : Gateway) (s : AuthorityEnvironment) :
    (runUpdate digest gateway request s).2 = s ∨ ∃ targets newRaw, Planned digest request targets newRaw
      ∧ Stage digest s request.rawAuthority newRaw targets.source (runUpdate digest gateway request s).2 := by
  generalize ranIs : runUpdate digest gateway request s = ran
  have did := ranIs ▸ @runUpdate_ran digest request gateway s
  cases did with
  | refused | settled | planned => exact .inl rfl
  | submitted targets newRaw planned expected outcome reached submits =>
    have spec := @submit_submits digest request targets newRaw gateway s
    rw [submits] at spec
    exact .inr ⟨targets, newRaw, planned, spec.stage⟩

/-! ## The loader after a run -/

/-- The bytes are wholly old or wholly new and carry their digest and their approval; the new
source revision comes only with the new bytes. -/
structure LoadsWhole (digest : RawBytes → String) (request : UpdateRequest) (context : LoadContext)
    (old reached : AuthorityEnvironment) (authority : LiveRiskAuthority) : Prop where
  receipt : authority.authorityReceiptSha256 = digest reached.secret
  approval : validateAuthority context reached.secret
    = .ok (authority.runtimeTargetBinding, authority.mandate)
  side : reached.secret = old.secret ∧ authority.sourceRevision = normalized old.sourceRevision
    ∨ ∃ targets newRaw, Planned digest request targets newRaw ∧ reached.secret = newRaw
      ∧ (authority.sourceRevision = normalized old.sourceRevision ∨ authority.sourceRevision = targets.source)

/-- What the loader binds together. -/
theorem load_ok {context : LoadContext} {s : AuthorityEnvironment} {authority : LiveRiskAuthority}
    (loaded : loadLiveRiskAuthority digest context s = .ok (some authority)) :
    authority.authorityReceiptSha256 = digest s.secret ∧ authority.sourceRevision = normalized s.sourceRevision
      ∧ validateAuthority context s.secret = .ok (authority.runtimeTargetBinding, authority.mandate) := by
  unfold loadLiveRiskAuthority at loaded
  dsimp only at loaded
  split at loaded
  · cases loaded
  · obtain ⟨-, loaded⟩ := require_bind loaded
    obtain ⟨raw, sized, loaded⟩ := bind_ok loaded
    obtain ⟨receipt, -, loaded⟩ := bind_ok loaded
    obtain ⟨same, loaded⟩ := require_bind loaded
    obtain ⟨source, checked, loaded⟩ := bind_ok loaded
    obtain ⟨⟨binding, mandate⟩, approved, loaded⟩ := bind_ok loaded
    have fits : s.secret = raw := Except.ok.inj (require_bind sized).2
    have revision : normalized s.sourceRevision = source := Except.ok.inj (require_bind checked).2
    obtain rfl := Option.some.inj (Except.ok.inj loaded)
    rw [decide_eq_true_eq] at same
    rw [fits]
    exact ⟨same.symm, revision.symm, approved⟩

/-- A second call with every write acknowledged: it raises and writes nothing, or the environment
is the one the call asks for. -/
inductive Retried (digest : RawBytes → String) (request : UpdateRequest) (reached : AuthorityEnvironment) :
    Except PyException UpdateStatus × AuthorityEnvironment → Prop where
  | raises (raised : PyException) : Retried digest request reached (.error raised, reached)
  | finishes (status : UpdateStatus) (targets : UpdateTargets) (newRaw : RawBytes) (final : AuthorityEnvironment)
      (planned : Planned digest request targets newRaw) (secret : final.secret = newRaw)
      (sha256 : final.sha256 = digest newRaw ∨ normalized final.sha256 = digest newRaw)
      (source : normalized final.sourceRevision = targets.source) :
      Retried digest request reached (.ok status, final)

/-- A second call over the bytes of the first or over those it planned. -/
theorem retry_retried {reached : AuthorityEnvironment} (applies : normalized request.mode = "apply")
    (secret : reached.secret = request.rawAuthority
      ∨ ∃ targets newRaw, Planned digest request targets newRaw ∧ reached.secret = newRaw)
    {retry : Gateway} (acknowledged : Acknowledges retry) :
    Retried digest request reached (runUpdate digest retry request reached) := by
  -- When the bytes need no change, the secret holds them already.
  have kept : ∀ targets, Planned digest request targets request.rawAuthority →
      reached.secret = request.rawAuthority := by
    intro targets planned
    rcases secret with same | ⟨targets', newRaw, other, same⟩
    · exact same
    · rw [same, (planned.unique other).2]
  generalize ranIs : runUpdate digest retry request reached = ran
  have did := ranIs ▸ @runUpdate_ran digest request retry reached
  cases did with
  | refused raised => exact .raises raised
  | settled targets planned expected same =>
    obtain ⟨-, -, normal, sha⟩ := planned.facts
    refine .finishes _ targets _ reached planned (kept targets planned) (.inr (expected.sha256.trans sha)) ?_
    rw [expected.source, normal, same]
  | planned targets newRaw planned mode =>
    rw [planned.facts.1, applies] at mode
    exact absurd mode (by decide)
  | submitted targets newRaw planned expected outcome final submits =>
    have spec := @submit_submits digest request targets newRaw retry reached
    rw [submits] at spec
    obtain ⟨-, target, normal, sha⟩ := planned.facts
    have done := spec.acknowledged acknowledged
    have final := spec.returned done
    dsimp only at done final
    subst done final
    refine .finishes _ targets newRaw _ planned ?_ ?_ ?_
    · by_cases same : newRaw = request.rawAuthority
      · subst same
        exact (if_pos rfl).trans (kept targets planned)
      · exact if_neg same
    · by_cases same : newRaw = request.rawAuthority
      · have unchanged : (submitted digest request targets newRaw reached).sha256 = reached.sha256 := if_pos same
        refine .inr ?_
        rw [unchanged, expected.sha256, sha, same]
      · exact .inl (if_neg same)
    · by_cases same : targets.expectedSource = targets.source
      · have unchanged : (submitted digest request targets newRaw reached).sourceRevision
            = reached.sourceRevision := if_pos same
        rw [unchanged, expected.source, normal, same]
      · have written : (submitted digest request targets newRaw reached).sourceRevision = targets.source :=
          if_neg same
        rw [written, target]

/-- After a run that stops at any of its writes, the loader returns bytes that are wholly old or
wholly new with their digest, the new source revision only with the new bytes, and a second run
finishes or raises before it writes. -/
theorem interrupted_reissue_recovers {old : AuthorityEnvironment} (held : old.secret = request.rawAuthority)
    (applies : normalized request.mode = "apply") (first : Gateway) :
    (∀ context authority,
      loadLiveRiskAuthority digest context (runUpdate digest first request old).2 = .ok (some authority) →
      LoadsWhole digest request context old (runUpdate digest first request old).2 authority)
      ∧ ∀ retry, Acknowledges retry → Retried digest request (runUpdate digest first request old).2
        (runUpdate digest retry request (runUpdate digest first request old).2) := by
  have staged := @reached_staged digest request first old
  generalize (runUpdate digest first request old).2 = reached at staged ⊢
  refine ⟨fun context authority loaded => ?_, fun retry acknowledged => ?_⟩
  · obtain ⟨receipt, source, approval⟩ := load_ok loaded
    refine ⟨receipt, approval, ?_⟩
    rcases staged with rfl | ⟨targets, newRaw, planned, stage⟩
    · exact .inl ⟨rfl, source⟩
    · cases stage with
      | untouched => exact .inl ⟨rfl, source⟩
      | secret => exact .inr ⟨targets, newRaw, planned, rfl, .inl source⟩
      | sha256 => exact .inr ⟨targets, newRaw, planned, rfl, .inl source⟩
      | sourceOnly same =>
        refine .inr ⟨targets, newRaw, planned, held.trans same.symm, .inr ?_⟩
        rw [source, planned.facts.2.1]
      | source =>
        refine .inr ⟨targets, newRaw, planned, rfl, .inr ?_⟩
        rw [source, planned.facts.2.1]
  · apply retry_retried applies ?_ acknowledged
    rcases staged with rfl | ⟨targets, newRaw, planned, stage⟩
    · exact .inl held
    · cases stage with
      | untouched => exact .inl held
      | secret => exact .inr ⟨targets, newRaw, planned, rfl⟩
      | sha256 => exact .inr ⟨targets, newRaw, planned, rfl⟩
      | sourceOnly same => exact .inl held
      | source => exact .inr ⟨targets, newRaw, planned, rfl⟩

/-! ## New bytes beside the old source revision -/

def revisionOf (digit : Char) : String := String.ofList (List.replicate 40 digit)

/-- A digest of 64 places that tells the two authorities apart. -/
def checksum : RawBytes → String
  | .utf8 text => String.ofList (List.replicate 64 (Nat.digitChar ((text.map Char.toNat).sum % 10)))
  | .other _ => String.ofList (List.replicate 64 '0')

def authorityPieces (strategy : List Char) : List (List Char) :=
  ["\x7b\"decision\":".toList, "\"APPROVE\",".toList, "\"authority_scope\"".toList, ":\"LIVE\",".toList,
   "\"runtime_target\"".toList, ":\x7b\"platform_id\":".toList, "\"binance\",".toList, "\"strategy_profile\"".toList,
   ":\"live\",".toList, "\"account_scope\":".toList, "\"main\",".toList, "\"account_selector\"".toList,
   ":[\"primary\"],".toList, "\"deployment_selector\"".toList, ":\"runtime\"\x7d,".toList,
   "\"strategy_revision\"".toList, ":\"".toList, strategy, "\",\"runner_revision\"".toList, ":\"".toList,
   List.replicate 40 '3', "\",\"config_sha256\":\"".toList, List.replicate 64 '4',
   "\",\"continuous_inputs_".toList, "allowed\":true,".toList, "\"mandate\":\x7b".toList,
   "\"mandate_id\":\"m\",".toList, "\"mandate_version\":\"1\",".toList, "\"effective_at\":".toList,
   "\"2026-01-01T00:00:00Z\",".toList, "\"expires_at\":".toList, "\"2027-01-01T00:00:00Z\",".toList,
   "\"max_snapshot_age_".toList, "seconds\":60,".toList, "\"effective_exposure_".toList, "cap\":1,".toList,
   "\"loss_budget\":10,".toList, "\"product_caps\":1,".toList, "\"nominal_caps\":1,".toList,
   "\"product_leverage_".toList, "factors\":1,".toList, "\"allowed_nonzero_".toList,
   "assets\":[\"BTC\"]\x7d\x7d".toList]

/-- An authority whose strategy revision repeats one digit. -/
def authorityBytes (digit : Char) : RawBytes := .utf8 (authorityPieces (List.replicate 40 digit)).flatten

def reissue : UpdateRequest where
  mode := "apply"
  rawAuthority := authorityBytes '1'
  targetStrategyRevision := revisionOf '2'
  targetRunnerRevision := revisionOf '3'
  targetSourceRevision := revisionOf '6'
  expectedAuthoritySha256 := checksum (authorityBytes '1')
  expectedSourceRevision := revisionOf '5'
  maintenanceWorkflowSha := revisionOf '7'
  writeTokenPresent := true

def beforeReissue : AuthorityEnvironment :=
  ⟨authorityBytes '1', checksum (authorityBytes '1'), revisionOf '5'⟩

/-- The third write fails, or every write is acknowledged. -/
def gatewayWith (sourceWrite : RemoteWriteOutcome) : Gateway where
  reads := fun _ => .ok ("false", [])
  secretWrite := .submitted
  sha256Write := .submitted
  sourceWrite := sourceWrite

def afterFailure : AuthorityEnvironment :=
  ⟨authorityBytes '2', checksum (authorityBytes '2'), revisionOf '5'⟩

def newVersions : LoadContext where
  authorityFile := "authority.json"
  runtimeTarget := some ⟨"binance", "live", "main", ["primary"], "runtime"⟩
  strategyRevision := revisionOf '2'
  runnerRevision := revisionOf '3'
  configSha256 := String.ofList (List.replicate 64 '4')
  now := 1790000000000000

theorem fullMatch_replicate (length : ℕ) {digit : Char} (hex : lowerHex digit = true) :
    fullMatch lowerHex length length (String.ofList (List.replicate length digit)) = true := by
  simp [fullMatch, List.all_replicate, hex]

theorem requireSha_replicate (fieldName : String) (length : ℕ) {digit : Char} (hex : lowerHex digit = true) :
    requireSha (String.ofList (List.replicate length digit)) fieldName length
      = .ok (String.ofList (List.replicate length digit)) := by
  have matched := fullMatch_replicate length hex
  rw [requireSha, normalized_of_hex matched, require_bind_of matched]
  rfl

theorem checksum_hex (raw : RawBytes) :
    ∃ digit, lowerHex digit = true ∧ checksum raw = String.ofList (List.replicate 64 digit) := by
  cases raw with
  | utf8 text =>
    refine ⟨_, ?_, rfl⟩
    have small : (text.map Char.toNat).sum % 10 < 10 := Nat.mod_lt _ (by norm_num)
    generalize (text.map Char.toNat).sum % 10 = n at small ⊢
    interval_cases n <;> rfl
  | other bytes => exact ⟨'0', rfl, rfl⟩

theorem authority_sized : (decide (0 < (authorityBytes '2').size)
    && decide ((authorityBytes '2').size ≤ 64 * 1024)) = true := by
  decide +kernel

theorem patched_authority :
    (patchVersionFieldsBytes (authorityBytes '1') (revisionOf '2') (revisionOf '3')).toOption
      = some (authorityBytes '2') := by
  decide +kernel

theorem approved_authority : (validateAuthority newVersions (authorityBytes '2')).toBool = true := by
  decide +kernel

theorem reissue_targets : updateTargets reissue
    = .ok ⟨"apply", revisionOf '2', revisionOf '3', revisionOf '6', revisionOf '5'⟩ := by
  have mode : normalized reissue.mode = "apply" := rfl
  unfold updateTargets
  dsimp only
  rw [mode, require_bind_of (by decide)]
  simp only [reissue, revisionOf, requireSha_replicate _ 40 (show lowerHex '2' = true from rfl),
    requireSha_replicate _ 40 (show lowerHex '3' = true from rfl),
    requireSha_replicate _ 40 (show lowerHex '5' = true from rfl),
    requireSha_replicate _ 40 (show lowerHex '6' = true from rfl),
    requireSha_replicate _ 40 (show lowerHex '7' = true from rfl)]
  rfl

theorem reissue_read (sourceWrite : RemoteWriteOutcome) (n : ℕ) :
    checkedRead (gatewayWith sourceWrite) n reissue (revisionOf '5') beforeReissue = (.ok (), beforeReissue) := by
  have expected : assertPreconditions ("false", []) beforeReissue reissue.expectedAuthoritySha256 (revisionOf '5')
      = .ok () := by
    obtain ⟨digit, hex, sum⟩ := checksum_hex (authorityBytes '1')
    have five : lowerHex '5' = true := rfl
    have enabled : normalized "false" = "false" := rfl
    unfold assertPreconditions
    simp only [reissue, beforeReissue, sum, revisionOf, requireSha_replicate _ 64 hex, requireSha_replicate _ 40 five,
      normalized_of_hex (fullMatch_replicate 64 hex), normalized_of_hex (fullMatch_replicate 40 five), enabled,
      decide_true]
    rw [bind_of rfl, bind_of rfl, require_bind_of rfl, require_bind_of (decide_eq_true rfl),
      require_bind_of (decide_eq_true rfl)]
    rfl
  have fetched : (Program.get : Reissue AuthorityEnvironment) beforeReissue = (.ok beforeReissue, beforeReissue) :=
    rfl
  unfold checkedRead
  have flags : (gatewayWith sourceWrite).reads n = .ok ("false", []) := rfl
  rw [run_bind_ok fetched, evaluate_bind _ beforeReissue flags, expected]
  rfl

theorem reissue_bytes (targets : UpdateTargets) (strategy : targets.strategy = revisionOf '2')
    (runner : targets.runner = revisionOf '3') :
    plannedBytes checksum reissue targets = .ok (authorityBytes '2') := by
  obtain ⟨digit, hex, sum⟩ := checksum_hex (authorityBytes '1')
  have expected : requireSha reissue.expectedAuthoritySha256 "expected_authority_sha256" 64
      = .ok (checksum (authorityBytes '1')) := by
    rw [reissue, sum]
    exact requireSha_replicate _ 64 hex
  unfold plannedBytes
  have same : checksum reissue.rawAuthority = checksum (authorityBytes '1') := rfl
  rw [expected, bind_of rfl, require_bind_of (decide_eq_true same), strategy, runner]
  have patched := patched_authority
  change (patchVersionFieldsBytes (authorityBytes '1') _ _) = _
  cases found : patchVersionFieldsBytes (authorityBytes '1') (revisionOf '2') (revisionOf '3') with
  | error raised =>
    rw [found] at patched
    cases patched
  | ok raw =>
    rw [found] at patched
    exact congrArg Except.ok (Option.some.inj patched)

theorem bytes_differ : authorityBytes '2' ≠ authorityBytes '1' := by
  intro same
  have texts := RawBytes.utf8.inj same
  simp only [authorityPieces, List.flatten_cons, List.append_cancel_left_eq] at texts
  exact absurd (List.append_inj_left texts rfl) (by decide)

theorem revisions_differ : revisionOf '5' ≠ revisionOf '6' := by
  intro same
  have places := congrArg String.toList same
  rw [revisionOf, revisionOf, String.toList_ofList, String.toList_ofList] at places
  exact absurd places (by decide)

theorem reissue_submits (targets : UpdateTargets) (source : targets.source = revisionOf '6')
    (expected : targets.expectedSource = revisionOf '5') :
    submit checksum (gatewayWith (.failed false)) reissue targets (authorityBytes '2') beforeReissue
      = (.error (authorityUpdateError "environment source revision write failed; do not retry blindly"),
        afterFailure) := by
  have differ : authorityBytes '2' ≠ reissue.rawAuthority := bytes_differ
  have needed : targets.expectedSource ≠ targets.source := by
    rw [source, expected]
    exact revisions_differ
  unfold submit
  rw [if_pos differ, if_pos needed]
  rfl

/-- A run that reaches its writes ends as they do. -/
theorem runUpdate_stops {digest : RawBytes → String} {gateway : Gateway} {request : UpdateRequest}
    {targets : UpdateTargets} {newRaw : RawBytes} {before after : AuthorityEnvironment} {raised : PyException}
    (planned : updateTargets request = .ok targets)
    (reads : ∀ n, checkedRead gateway n request targets.expectedSource before = (.ok (), before))
    (edited : plannedBytes digest request targets = .ok newRaw) (fresh : newRaw ≠ request.rawAuthority)
    (applies : targets.mode ≠ "plan") (token : request.writeTokenPresent = true)
    (stopped : submit digest gateway request targets newRaw before = (.error raised, after)) :
    (runUpdate digest gateway request before).2 = after := by
  have permitted : require request.writeTokenPresent
      (authorityUpdateError "apply requires BINANCE_AUTHORITY_UPDATE_TOKEN") = .ok () := by
    rw [token]
    rfl
  unfold runUpdate
  rw [evaluate_bind _ _ planned, run_bind_ok (reads 0), evaluate_bind _ _ edited,
    if_neg fun settled => fresh settled.1, if_neg applies, evaluate_bind _ _ permitted, run_bind_ok (reads 1),
    run_bind_error stopped]

/-- The third write fails and its exception is raised. -/
theorem reissue_stops :
    (runUpdate checksum (gatewayWith (.failed false)) reissue beforeReissue).2 = afterFailure :=
  runUpdate_stops reissue_targets (reissue_read _) (reissue_bytes _ rfl rfl) bytes_differ (by decide) rfl
    (reissue_submits _ rfl rfl)

theorem strip_of_hex {length : ℕ} {text : String} (hex : fullMatch lowerHex length length text = true) :
    strip text = text := by
  simp only [fullMatch, Bool.and_eq_true, List.all_eq_true] at hex
  rw [strip, NumberText.strip_eq_self fun c member => (lowerHex_plain (hex.1.1 c member)).1, String.ofList_toList]

theorem ne_empty_of_hex {length : ℕ} {text : String} (hex : fullMatch lowerHex (length + 1) (length + 1) text = true) :
    text ≠ "" := by
  rintro rfl
  simp [fullMatch] at hex

theorem authorityDigest_of_hex (field : String) {length : ℕ} {text : String}
    (hex : fullMatch lowerHex length length text = true) :
    authorityDigest (normalized text) field length = .ok text := by
  rw [normalized_of_hex hex, authorityDigest, require_bind_of hex]
  rfl

/-- The loader accepts the new bytes beside the old source revision. -/
theorem failure_loads : ∃ authority,
    loadLiveRiskAuthority checksum newVersions afterFailure = .ok (some authority)
      ∧ authority.sourceRevision = revisionOf '5' := by
  have approved := approved_authority
  cases found : validateAuthority newVersions (authorityBytes '2') with
  | error raised =>
    rw [found] at approved
    cases approved
  | ok read =>
    obtain ⟨binding, mandate⟩ := read
    have sumHex : fullMatch lowerHex 64 64 (checksum (authorityBytes '2')) = true := by
      obtain ⟨digit, hex, sum⟩ := checksum_hex (authorityBytes '2')
      rw [sum]
      exact fullMatch_replicate 64 hex
    have sourceHex : fullMatch lowerHex 40 40 (revisionOf '5') = true := fullMatch_replicate 40 rfl
    refine ⟨⟨checksum (authorityBytes '2'), revisionOf '5', binding, revisionOf '2', revisionOf '3',
      String.ofList ((String.ofList (List.replicate 64 '4')).toList.map NumberText.lower), mandate⟩, ?_, rfl⟩
    have file : strip newVersions.authorityFile = "authority.json" := rfl
    have fits : regularFileBytes (authorityBytes '2') = .ok (authorityBytes '2') := by
      unfold regularFileBytes
      rw [require_bind_of authority_sized]
      rfl
    have named : "authority.json" ≠ "" := by decide
    unfold loadLiveRiskAuthority
    simp only [afterFailure, file, strip_of_hex sumHex, strip_of_hex sourceHex, List.all_cons, List.all_nil,
      decide_eq_false named, decide_eq_true named, decide_eq_true (ne_empty_of_hex sumHex),
      decide_eq_true (ne_empty_of_hex sourceHex), Bool.false_and, Bool.and_true, Bool.false_eq_true, if_false]
    rw [require_bind_of rfl, fits, bind_of rfl, authorityDigest_of_hex _ sumHex, bind_of rfl,
      require_bind_of (decide_eq_true rfl), authorityDigest_of_hex _ sourceHex, bind_of rfl, found, bind_of rfl]
    rfl

/-- The failed third write leaves whole bytes, and an acknowledged second run finishes. -/
theorem interrupted_reissue_recovers_source :
    (∃ authority, LoadsWhole checksum reissue newVersions beforeReissue
        (runUpdate checksum (gatewayWith (.failed false)) reissue beforeReissue).2 authority)
      ∧ Retried checksum reissue (runUpdate checksum (gatewayWith (.failed false)) reissue beforeReissue).2
        (runUpdate checksum (gatewayWith .submitted) reissue
          (runUpdate checksum (gatewayWith (.failed false)) reissue beforeReissue).2) := by
  obtain ⟨whole, retried⟩ := @interrupted_reissue_recovers checksum reissue beforeReissue rfl
    (by decide +kernel) (gatewayWith (.failed false))
  obtain ⟨authority, loaded, -⟩ := failure_loads
  exact ⟨⟨authority, whole newVersions authority (by rw [reissue_stops]; exact loaded)⟩,
    retried (gatewayWith .submitted) ⟨rfl, rfl, rfl⟩⟩

/-- The run leaves new bytes beside the old source revision, and the loader accepts them. -/
theorem source_failure_mixes_sides :
    ∃ authority, loadLiveRiskAuthority checksum newVersions
        (runUpdate checksum (gatewayWith (.failed false)) reissue beforeReissue).2 = .ok (some authority)
      ∧ (runUpdate checksum (gatewayWith (.failed false)) reissue beforeReissue).2.secret ≠ beforeReissue.secret
      ∧ authority.sourceRevision = beforeReissue.sourceRevision
      ∧ authority.sourceRevision ≠ reissue.targetSourceRevision := by
  rw [reissue_stops]
  obtain ⟨authority, loaded, source⟩ := failure_loads
  refine ⟨authority, loaded, bytes_differ, source, ?_⟩
  rw [source]
  exact revisions_differ

end BinancePlatform.Guarantees.ReissueRecovery
