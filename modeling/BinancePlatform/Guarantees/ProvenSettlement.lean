import BinancePlatform.Guarantees.SubmittedOnce

/-!
# A recovered submission is proven

The recovery of a funding submission sends nothing. It writes only the settled record
over the snapshot it opened with, and only once the history and the Spot balance confirm
the receipt and the managed balances it read equal that snapshot.

* Each program of the recovery asks only what `Permits` allows, and the facts it has
  heard last (`recovers_readManagedBalances`, `recovers_observeCashEffects`,
  `recovers_confirmFundingSettlement`, `recovers_persistOrderSubmission`).
* The balances it compares are those of every asset with pending funds, of the receipt's
  asset and of USDT (`subset_confirmedAssets`, `mem_balancesConserved`).
* The recovery as a whole is such a program
  (`recovers_reconcilePendingFundingSubmission`, `recovery_settles_proven`).

The client and the store answer every request with any reply.
-/

set_option autoImplicit false

namespace BinancePlatform.Guarantees.ProvenSettlement
open BinancePlatform.Library BinancePlatform.Source
open BinancePlatform.Guarantees.RequestProtocol BinancePlatform.Guarantees.QuietPrograms
  BinancePlatform.Guarantees.RequestCall BinancePlatform.Guarantees.SubmittedOnce

section Recovery
variable [CharacterTable]

/-! ## What is read -/

/-- The state the recovery works on: the runtime's, or the one it loads. -/
def Loaded (runtime : ClientRuntime) (heard : List ClientEvent) (state : Document) : Prop :=
  runtime.tradeState = some state
    ∨ runtime.tradeState = none ∧ ⟨.loadState, Except.ok (.dict state)⟩ ∈ heard

/-- The quantity of an asset as it was answered: Spot and Flexible, or a checkpoint. -/
def Observed (entry : String × PyFloat) (heard : List ClientEvent) : Prop :=
  (∃ spot earn spotParts earnParts, ⟨.getAssetBalance (.str entry.1), Except.ok spot⟩ ∈ heard
      ∧ ⟨.getFlexiblePosition entry.1, Except.ok earn⟩ ∈ heard
      ∧ Client.spotAmounts entry.1 spot = .ok spotParts ∧ Client.earnAmounts entry.1 earn = .ok earnParts
      ∧ Client.floatTotal (spotParts ++ earnParts) = .ok entry.2)
    ∨ ∃ previous current, ⟨.collectEarnCheckpoint previous, Except.ok current⟩ ∈ heard
      ∧ Client.checkpointQuantity current entry.1 = .ok entry

/-- An observed quantity is the one of the snapshot. -/
def Unchanged (opening : Document) (entry : String × PyFloat) : Prop :=
  ∃ before now, (opening.get? entry.1).map fundingAmount = some (.ok before)
    ∧ fundingAmount (.float entry.2) = .ok now ∧ before.value = now.value

/-- What a save of the recovery needs of the exchanges before it. The observations name the
asset of the receipt, USDT and every asset that was pending when the recovery began. -/
def Proven (runtime : ClientRuntime) (heard : List ClientEvent) (interval : Bool) (data : Document) : Prop :=
  interval = false ∧ ∃ (state record receipt opening : Document) (observations : List (String × PyFloat)),
    Loaded runtime heard state ∧ state.get? orderSubmissionStateKey = some (.dict record)
    ∧ pyGet record "state" = .str orderSubmissionUnknown ∧ pyGet record "funding_receipt" = .dict receipt
    ∧ pyGet state "last_balance_snapshot" = .dict opening
    ∧ Confirmed (textOrEmpty record "method_name") receipt heard
    ∧ (∃ asset, pyGet receipt "asset" = .str asset
      ∧ ∀ wanted ∈ asset :: "USDT" :: Client.confirmedAssets runtime.pendingFunds,
        ∃ observed, (wanted, observed) ∈ observations)
    ∧ (∀ entry ∈ observations, Observed entry heard ∧ Unchanged opening entry)
    ∧ submissionStatus data = .str orderSubmissionTerminal
    ∧ pyGet data "last_balance_snapshot" = .dict opening

/-- The recovery may read and write a proven record, and sends nothing. -/
def Permits (runtime : ClientRuntime) (heard : List ClientEvent) : ClientRequest → Prop
  | .send _ _ => False
  | .saveState interval data => Proven runtime heard interval data
  | _ => True

/-- `Keeps` for any answers, with nothing asked of an exception. -/
abbrev Recovers (runtime : ClientRuntime) {α : Type} (P : ClientRuntime → List ClientEvent → Prop)
    (program : ClientProgram α) (Q : α → ClientRuntime → List ClientEvent → Prop) : Prop :=
  Conversation.Keeps (fun _ _ _ => True) (Permits runtime) P program Q fun _ _ => True

/-- A fact of the exchanges that later ones do not end. -/
def Lasting (fact : List ClientEvent → Prop) : Prop := ∀ heard event, fact heard → fact (heard ++ [event])

variable {runtime : ClientRuntime} {settings : ClientSettings} {α : Type}
  {fact : ClientRuntime → List ClientEvent → Prop}

omit [CharacterTable] in
theorem lasting_loaded (state : Document) : Lasting fun heard => Loaded runtime heard state := by
  rintro heard event (held | ⟨unheld, loaded⟩)
  · exact .inl held
  · exact .inr ⟨unheld, List.mem_append_left _ loaded⟩

theorem lasting_confirmed (methodName : String) (receipt : Document) : Lasting (Confirmed methodName receipt) := by
  rintro heard event ⟨valid, history, spot, asked, row, read, cash⟩
  exact ⟨valid, history, spot, List.mem_append_left _ asked, row, List.mem_append_left _ read, cash⟩

theorem lasting_observed (entry : String × PyFloat) : Lasting (Observed entry) := by
  rintro heard event (⟨spot, earn, spotParts, earnParts, free, held, parts⟩ | ⟨previous, current, read, quantity⟩)
  · exact .inl ⟨spot, earn, spotParts, earnParts, List.mem_append_left _ free, List.mem_append_left _ held, parts⟩
  · exact .inr ⟨previous, current, List.mem_append_left _ read, quantity⟩

/-! ## The reads -/

theorem permits_read {heard : List ClientEvent} {call : ClientRequest} (read : Client.IsRead call) :
    Permits runtime heard call := by
  cases call with
  | send _ _ => cases read
  | saveState _ _ => cases read
  | _ => trivial

/-- What a passive program leaves of lasting facts. -/
theorem recovers_passive {program : ClientProgram α} (reads : Conversation.Passive Client.IsRead program)
    (lasts : ∀ r, Lasting (fact r)) : Recovers runtime fact program fun _ => fact :=
  reads _ _ _ _ (fun _ _ read => permits_read read) (fun r heard _ _ _ start => lasts r heard _ start)
    fun _ _ _ => trivial

theorem recovers_reading {call : ClientRequest} (same : call.Reply = Except PyException Value)
    (read : Client.IsRead call) (lasts : ∀ r, Lasting (fact r)) :
    Recovers runtime fact (Client.reading call same) fun reply r heard =>
      fact r heard ∧ ∀ value, reply = .ok value → ⟨call, same ▸ Except.ok value⟩ ∈ heard := by
  refine Conversation.Keeps.bind
    (Q := fun reply r heard => fact r heard ∧ (⟨call, reply⟩ : ClientEvent) ∈ heard)
    (.ask (fun _ _ _ => permits_read read) fun r heard answer start _ => ⟨lasts r heard _ start, by simp⟩)
    fun reply => .pure fun r heard start => ⟨start.1, fun value answered => ?_⟩
  have back : ∀ {β : Type} (same : β = Except PyException Value) (reply : β),
      same ▸ reply = Except.ok value → (same ▸ Except.ok value : β) = reply := by
    rintro _ rfl _ answered
    exact answered.symm
  rw [back same reply answered]
  exact start.2

theorem recovers_evaluate {outcome : Except PyException α} :
    Recovers runtime fact (Conversation.evaluate outcome) fun value r heard => fact r heard ∧ outcome = .ok value :=
  .evaluate (fun _ same _ _ start => ⟨start, same⟩) fun _ _ _ _ _ => trivial

theorem recovers_leave {raised : PyException} {Q : α → ClientRuntime → List ClientEvent → Prop} :
    Recovers runtime fact (Conversation.leave raised) Q :=
  .leave fun _ _ _ => trivial

theorem recovers_requireOwner (lasts : ∀ r, Lasting (fact r)) :
    Recovers runtime fact (Client.requireRuntimeStateOwner settings) fun _ => fact := by
  refine Conversation.Keeps.get_bind fun held => .ite (fun _ => recovers_leave) fun _ => ?_
  refine Conversation.Keeps.bind (Q := fun _ => fact)
    (.ask (fun _ _ _ => trivial) fun r heard _ start _ => lasts r heard _ start.1) fun active => ?_
  refine .ite (fun _ => .pure fun _ _ start => start) fun _ => ?_
  exact Conversation.Keeps.bind (Q := fun _ _ _ => True) (.update fun _ _ _ => trivial) fun _ => recovers_leave

theorem recovers_readManagedBalance (asset : String) (lasts : ∀ r, Lasting (fact r)) :
    Recovers runtime fact (Client.readManagedBalance asset) fun observed r heard =>
      fact r heard ∧ Observed (asset, observed) heard := by
  refine .raising ?_
  refine Conversation.Keeps.bind (recovers_reading rfl trivial lasts) fun spotReply => ?_
  refine Conversation.Keeps.bind recovers_evaluate fun spot => .suppose ?_
  rintro rfl
  refine Conversation.Keeps.bind recovers_evaluate fun spotParts => .suppose fun spotAmounts => ?_
  refine Conversation.Keeps.bind (recovers_reading rfl trivial fun r heard event start =>
    ⟨lasts r heard event start.1, fun value answered => List.mem_append_left _ (start.2 value answered)⟩)
    fun earnReply => ?_
  refine Conversation.Keeps.bind recovers_evaluate fun earn => .suppose ?_
  rintro rfl
  refine Conversation.Keeps.bind recovers_evaluate fun earnParts => .suppose fun earnAmounts => ?_
  refine .evaluate (fun observed total r heard start => ⟨start.1.1, .inl ?_⟩) fun _ _ _ _ _ => trivial
  exact ⟨spot, earn, spotParts, earnParts, start.1.2 spot rfl, start.2 earn rfl, spotAmounts, earnAmounts, total⟩

/-- The balances of the assets are read one by one, in their order. -/
theorem recovers_readManagedBalances (assets : List String) (lasts : ∀ r, Lasting (fact r)) :
    Recovers runtime fact (Client.readManagedBalances assets) fun observations r heard =>
      fact r heard ∧ observations.map Prod.fst = assets ∧ ∀ entry ∈ observations, Observed entry heard := by
  induction assets generalizing fact with
  | nil => exact .pure fun _ _ start => ⟨start, rfl, by simp⟩
  | cons asset rest ih =>
    refine Conversation.Keeps.bind (recovers_readManagedBalance asset lasts) fun observed => ?_
    refine Conversation.Keeps.bind (ih fun r heard event start =>
      ⟨lasts r heard event start.1, lasting_observed _ heard event start.2⟩) fun others => ?_
    refine .pure fun r heard start => ⟨start.1.1, by rw [List.map_cons, start.2.1], fun entry member => ?_⟩
    rcases List.mem_cons.mp member with rfl | later
    · exact start.1.2
    · exact start.2.2 entry later

omit [CharacterTable] in
theorem checkpointQuantity_fst {current : Value} {asset : String} {entry : String × PyFloat}
    (quantity : Client.checkpointQuantity current asset = .ok entry) : entry.1 = asset := by
  obtain ⟨row, -, quantity⟩ := bind_ok quantity
  obtain ⟨text, -, quantity⟩ := bind_ok quantity
  obtain ⟨number, -, quantity⟩ := bind_ok quantity
  obtain ⟨rounded, -, quantity⟩ := bind_ok quantity
  cases quantity
  rfl

theorem recovers_prospectiveObservations (state : Document) (assets : List String)
    (lasts : ∀ r, Lasting (fact r)) :
    Recovers runtime fact (Client.prospectiveObservations settings state assets) fun found r heard =>
      fact r heard ∧ found.1.map Prod.fst = assets ∧ ∀ entry ∈ found.1, Observed entry heard := by
  refine .raising ?_
  refine Conversation.Keeps.bind recovers_evaluate fun pendingState => .suppose fun _ => ?_
  refine Conversation.Keeps.bind recovers_evaluate fun previous => .suppose fun _ => ?_
  refine Conversation.Keeps.bind recovers_evaluate fun checkpoint => .suppose fun _ => ?_
  refine Conversation.Keeps.bind (recovers_reading rfl trivial lasts) fun reply => ?_
  refine Conversation.Keeps.bind recovers_evaluate fun current => .suppose ?_
  rintro rfl
  refine Conversation.Keeps.bind recovers_evaluate fun net => .suppose fun _ => ?_
  refine Conversation.Keeps.bind recovers_evaluate fun net => .suppose fun _ => ?_
  refine Conversation.Keeps.bind (recovers_passive (Client.reads_checkpointsConserve previous current net)
    fun r heard event start => ⟨lasts r heard event start.1, fun value answered =>
      List.mem_append_left _ (start.2 value answered)⟩) fun _ => ?_
  refine Conversation.Keeps.bind recovers_evaluate fun observations => .suppose fun quantities => ?_
  refine .pure fun r heard start => ⟨start.1, ?_, fun entry member => ?_⟩
  · have named := mapM_kept (g := id) (h := Prod.fst) quantities fun asset _ entry quantity =>
      checkpointQuantity_fst quantity
    simpa using named
  · obtain ⟨asset, -, quantity⟩ := forall₂_exists (mapM_ok quantities).flip member
    rw [← checkpointQuantity_fst quantity] at quantity
    exact .inr ⟨checkpoint, current, start.2 current rfl, quantity⟩

/-- The observations of the cash effects name the assets asked for, each with a balance that was
read. -/
theorem recovers_observeCashEffects (state : Document) (assets : List String) (lasts : ∀ r, Lasting (fact r)) :
    Recovers runtime fact (Client.observeCashEffects settings state assets) fun observed r heard =>
      fact r heard ∧ observed.1.map Prod.fst = assets ∧ ∀ entry ∈ observed.1, Observed entry heard := by
  refine .ite (fun _ => ?_) fun _ => ?_
  · exact Conversation.Keeps.bind (recovers_prospectiveObservations state assets lasts) fun found =>
      .pure fun _ _ start => start
  · refine Conversation.Keeps.bind (.raising (recovers_readManagedBalances assets lasts)) fun observations => ?_
    exact Conversation.Keeps.bind recovers_evaluate fun accounted => .pure fun _ _ start => start.1

/-- The refresh reads every asset of a confirmed item, and USDT. -/
theorem recovers_reconcileRuntimeCashEffects {known : List ClientEvent → Prop} (lasts : Lasting known)
    (state : Document) {asset : String} {assets : List String} :
    Recovers runtime (fun r heard => known heard ∧ asset :: assets ⊆ Client.confirmedAssets r.pendingFunds)
      (Client.reconcileRuntimeCashEffects settings state) fun _ r heard => known heard
        ∧ (∀ wanted ∈ asset :: "USDT" :: assets, ∃ observed, (wanted, observed) ∈ r.cashBalanceObservation.items)
        ∧ ∀ entry ∈ r.cashBalanceObservation.items, Observed entry heard := by
  refine Conversation.Keeps.get_bind fun held => ?_
  dsimp only
  refine .ite (fun empty => ?_) fun _ => ?_
  · refine .pure fun r heard start => ?_
    rw [List.isEmpty_iff, ← start.2] at empty
    have member := start.1.2 List.mem_cons_self
    rw [empty] at member
    cases member
  · have owner : Recovers runtime
        (fun _ heard => known heard ∧ asset :: assets ⊆ Client.confirmedAssets held.pendingFunds)
        (Client.requireRuntimeStateOwner settings)
        fun _ _ heard => known heard ∧ asset :: assets ⊆ Client.confirmedAssets held.pendingFunds :=
      recovers_requireOwner fun _ heard event start => ⟨lasts heard event start.1, start.2⟩
    refine Conversation.Keeps.bind (owner.weaken (fun r heard start => ⟨start.1.1, start.2 ▸ start.1.2⟩)
      (fun _ _ _ ended => ended) fun _ _ _ => trivial) fun _ => ?_
    refine Conversation.Keeps.bind (recovers_observeCashEffects _ _
      fun _ heard event start => ⟨lasts heard event start.1, start.2⟩) fun observed => ?_
    refine Conversation.Keeps.bind recovers_evaluate fun refreshed => .suppose fun _ => ?_
    refine Conversation.Keeps.bind (Q := fun _ r heard => known heard
      ∧ (∀ wanted ∈ asset :: "USDT" :: assets, ∃ observed, (wanted, observed) ∈ r.cashBalanceObservation.items)
      ∧ ∀ entry ∈ r.cashBalanceObservation.items, Observed entry heard) (.update ?_)
      fun _ => .pure fun _ _ start => start
    rintro r heard ⟨⟨seen, confirmed⟩, named, read⟩
    have whole : (⟨observed.1⟩ : Dict String PyFloat).items = observed.1 :=
      Dict.items_eq_entries (show (observed.1.map Prod.fst).Nodup from named ▸ List.nodup_dedup _)
    rw [whole]
    refine ⟨seen, fun wanted asked => ?_, read⟩
    have listed : wanted ∈ observed.1.map Prod.fst := by
      rw [named, List.mem_dedup, List.mem_append]
      rcases List.mem_cons.mp asked with rfl | asked
      · exact .inl (confirmed List.mem_cons_self)
      · rcases List.mem_cons.mp asked with rfl | pending
        · exact .inr List.mem_cons_self
        · exact .inl (confirmed (List.mem_cons_of_mem asset pending))
    obtain ⟨⟨name, quantity⟩, member, rfl⟩ := List.mem_map.mp listed
    exact ⟨quantity, member⟩

/-! ## The recovery -/

/-- Each compared balance equals that of the opening snapshot. -/
theorem mem_balancesConserved {opening : Document} {observations : List (String × PyFloat)}
    (conserved : Client.balancesConserved opening observations = true) {entry : String × PyFloat}
    (member : entry ∈ observations) : Unchanged opening entry := by
  induction observations with
  | nil => cases member
  | cons first rest ih =>
    obtain ⟨asset, observed⟩ := first
    simp only [Client.balancesConserved, Bool.and_eq_true] at conserved
    rcases List.mem_cons.mp member with rfl | later
    · obtain ⟨same, -⟩ := conserved
      split at same
      next before now known read => exact ⟨before, now, known, read, of_decide_eq_true same⟩
      next => cases same
    · exact ih conserved.2 later

theorem receipt_asset {receipt : Document} (valid : validFundingReceipt (.dict receipt) = true) :
    ∃ asset, pyGet receipt "asset" = .str asset ∧ asset ≠ "" := by
  simp only [validFundingReceipt, Bool.and_eq_true] at valid
  obtain ⟨⟨⟨⟨-, named⟩, -⟩, -⟩, -⟩ := valid
  split at named
  next asset stored =>
    refine ⟨asset, by rw [pyGet, stored, Option.getD_some], ?_⟩
    rintro rfl
    revert named
    decide
  next => cases named

/-- A confirmation has heard the receipt from the history and the balance. -/
theorem recovers_confirmFundingSettlement (lasts : ∀ r, Lasting (fact r)) (methodName : String)
    (receipt : Document) :
    Recovers runtime fact (Client.confirmFundingSettlement methodName receipt)
      fun _ r heard => fact r heard ∧ Confirmed methodName receipt heard := by
  refine .ite (fun _ => recovers_leave) fun valid => ?_
  rw [Bool.not_eq_true, Bool.not_eq_false'] at valid
  refine Conversation.Keeps.bind (recovers_reading rfl trivial lasts) fun reply => ?_
  cases reply with
  | error raised => exact recovers_leave
  | ok history =>
    refine .ite (fun settled => ?_) fun _ => recovers_leave
    refine Conversation.Keeps.bind (recovers_reading rfl trivial fun r heard event start =>
      ⟨lasts r heard event start.1, fun value answered => List.mem_append_left _ (start.2 value answered)⟩)
      fun reply => ?_
    cases reply with
    | error raised => exact recovers_leave
    | ok spot =>
      dsimp only
      cases cash : Client.settledCash (Client.isRedeem methodName) receipt spot with
      | error raised => exact recovers_leave
      | ok matched =>
        cases matched with
        | false => exact recovers_leave
        | true =>
          exact .pure fun _ heard start =>
            ⟨start.1.1, valid, history, spot, start.1.2 history rfl, settled, start.2 spot rfl, cash⟩

/-- What is loaded is the runtime's state or the loaded one, with its record; the pending
funds stay. -/
theorem recovers_loadOrderSubmission :
    Recovers runtime (fun r _ => r = runtime) Client.loadOrderSubmissionState fun loaded r heard =>
      (Loaded runtime heard loaded.1 ∧ r.pendingFunds = runtime.pendingFunds)
        ∧ ((pyGet loaded.2 "state").isStr orderSubmissionUnknown = true →
          loaded.1.get? orderSubmissionStateKey = some (.dict loaded.2)) := by
  refine Conversation.Keeps.bind (Q := fun value r heard =>
    (∀ state, value = .dict state → Loaded runtime heard state) ∧ r.pendingFunds = runtime.pendingFunds)
    ?_ fun value => ?_
  · refine Conversation.Keeps.get_bind fun held => ?_
    cases state : held.tradeState with
    | some state =>
      refine .pure ?_
      rintro r heard ⟨rfl, rfl⟩
      refine ⟨?_, rfl⟩
      rintro other ⟨⟩
      exact .inl state
    | none =>
      refine Conversation.Keeps.bind (recovers_reading rfl trivial fun _ _ _ start => start) fun reply => ?_
      cases reply with
      | error raised => exact recovers_leave
      | ok found =>
        refine .pure ?_
        rintro r heard ⟨⟨rfl, rfl⟩, answered⟩
        refine ⟨?_, rfl⟩
        rintro other rfl
        exact .inr ⟨state, answered _ rfl⟩
  · refine Conversation.Keeps.bind recovers_evaluate fun loaded => .suppose fun loads => ?_
    obtain ⟨rfl, -, -⟩ := loadOrderSubmission_status (show loadOrderSubmission value = .ok (loaded.1, loaded.2) from loads)
    refine Conversation.Keeps.bind
      (Q := fun _ r heard => Loaded runtime heard loaded.1 ∧ r.pendingFunds = runtime.pendingFunds)
      (.update fun _ _ start => ⟨start.1 loaded.1 rfl, start.2⟩) fun _ => .pure fun _ _ start => ?_
    exact ⟨start, loadOrderSubmission_unknown loads⟩

/-- The write of a proven record is the last thing that is heard. -/
theorem recovers_persistOrderSubmission {state record : Document}
    {known : List ClientEvent → Prop} (lasts : Lasting known)
    (proven : ∀ heard, known heard → Proven runtime heard false (withRecord state record)) :
    Recovers runtime (fun _ => known) (Client.persistOrderSubmissionState settings state record)
      fun _ _ heard => ∃ earlier data committed,
        heard = earlier ++ [⟨.saveState false data, SaveReply.saved committed⟩] := by
  refine Conversation.Keeps.bind (recovers_requireOwner fun _ => lasts) fun _ => ?_
  refine Conversation.Keeps.bind (Q := fun _ _ heard => ∃ earlier data committed,
    heard = earlier ++ [⟨.saveState false data, SaveReply.saved committed⟩]) ?_ fun _ => ?_
  · refine Conversation.Keeps.bind (Q := fun reply _ heard => ∃ earlier data,
      heard = earlier ++ [⟨.saveState false data, reply⟩])
      (.ask (fun _ heard start => proven heard start) fun _ heard _ _ _ => ⟨heard, _, rfl⟩) fun reply => ?_
    cases reply with
    | saved committed => exact .pure fun _ _ ⟨earlier, data, same⟩ => ⟨earlier, data, committed, same⟩
    | failed committed =>
      exact Conversation.Keeps.bind (Q := fun _ _ _ => True) (.update fun _ _ _ => trivial) fun _ => recovers_leave
  · exact Conversation.Keeps.bind (Q := fun _ _ heard => ∃ earlier data committed,
      heard = earlier ++ [⟨.saveState false data, SaveReply.saved committed⟩])
      (.update fun _ _ start => start) fun _ => .pure fun _ _ start => start

omit [CharacterTable] in
/-- The asset of the receipt is pending besides what was. -/
theorem subset_confirmedAssets {items : List PendingItem} {asset : String} (named : asset ≠ "") :
    asset :: Client.confirmedAssets items
      ⊆ Client.confirmedAssets (items ++ [⟨true, "funding", .none, .str asset⟩]) := by
  intro wanted member
  simp only [Client.confirmedAssets, List.mem_dedup, List.filterMap_append, List.mem_append]
  rcases List.mem_cons.mp member with rfl | before
  · exact .inr (by simp [named])
  · exact .inl (List.mem_dedup.mp before)

omit [CharacterTable] in
/-- The settled record over the opening snapshot. -/
theorem settled_fields (state opening : Document) :
    submissionStatus (withRecord (Client.withSnapshot state opening) (statusRecord orderSubmissionTerminal))
        = .str orderSubmissionTerminal
      ∧ pyGet (withRecord (Client.withSnapshot state opening) (statusRecord orderSubmissionTerminal))
        "last_balance_snapshot" = .dict opening := by
  constructor
  · rw [submissionStatus_withRecord]
    rfl
  · rw [withRecord, pyGet, Dict.get?_set_ne _ _ (by decide), Client.withSnapshot, Dict.get?_set_self,
      Option.getD_some]

/-- The recovery settles by a save of a proven record. -/
theorem recovers_reconcilePendingFundingSubmission :
    Recovers runtime (fun r _ => r = runtime) (Client.reconcilePendingFundingSubmission settings)
      fun settled _ heard => settled = true → ∃ earlier data committed,
        heard = earlier ++ [⟨.saveState false data, SaveReply.saved committed⟩] := by
  refine .ite (fun _ => .pure fun _ _ _ => nofun) fun _ => ?_
  refine Conversation.Keeps.bind (recovers_requireOwner fun _ _ _ start => start) fun _ => ?_
  refine Conversation.Keeps.bind recovers_loadOrderSubmission fun loaded => ?_
  refine .ite (fun _ => .pure fun _ _ _ => nofun) fun pending => ?_
  rw [Bool.or_eq_true, not_or, Bool.not_eq_true, Bool.not_eq_false'] at pending
  split
  next opening receipt snapshot funding =>
    let known (heard : List ClientEvent) : Prop :=
      (Loaded runtime heard loaded.1 ∧ loaded.1.get? orderSubmissionStateKey = some (.dict loaded.2))
        ∧ Confirmed (textOrEmpty loaded.2 "method_name") receipt heard
    have lasts : Lasting known := fun heard event start =>
      ⟨⟨lasting_loaded loaded.1 heard event start.1.1, start.1.2⟩, lasting_confirmed _ receipt heard event start.2⟩
    refine Conversation.Keeps.bind
      (Q := fun _ r heard => (known heard ∧ r.pendingFunds = runtime.pendingFunds)
        ∧ validFundingReceipt (.dict receipt) = true)
      ((recovers_confirmFundingSettlement (fun _ heard event start =>
          ⟨⟨lasting_loaded loaded.1 heard event start.1.1, start.1.2⟩, start.2⟩) _ receipt).weaken
        (fun _ _ start => start)
        (fun _ _ _ ended => ⟨⟨⟨⟨ended.1.1.1, ended.1.2 pending.1⟩, ended.2⟩, ended.1.1.2⟩, ended.2.1⟩)
        fun _ _ _ => trivial) fun _ => .suppose fun valid => ?_
    obtain ⟨asset, text, named⟩ := receipt_asset valid
    refine Conversation.Keeps.bind (Q := fun _ r heard => known heard
        ∧ asset :: Client.confirmedAssets runtime.pendingFunds ⊆ Client.confirmedAssets r.pendingFunds)
      (.update fun r heard start => ⟨start.1, text ▸ start.2 ▸ subset_confirmedAssets named⟩) fun _ => ?_
    refine Conversation.Keeps.bind (recovers_reconcileRuntimeCashEffects lasts loaded.1) fun refreshed => ?_
    refine Conversation.Keeps.get_bind fun observing => ?_
    let seen (heard : List ClientEvent) : Prop := known heard
      ∧ (∀ wanted ∈ asset :: "USDT" :: Client.confirmedAssets runtime.pendingFunds,
        ∃ observed, (wanted, observed) ∈ observing.cashBalanceObservation.items)
      ∧ ∀ entry ∈ observing.cashBalanceObservation.items, Observed entry heard
    have sees : Lasting seen := fun heard event start =>
      ⟨lasts heard event start.1, start.2.1, fun entry member => lasting_observed entry heard event (start.2.2 entry member)⟩
    refine Conversation.Keeps.bind (Q := fun _ _ => seen) (.update ?_) fun _ => ?_
    · rintro r heard ⟨start, same⟩
      rw [same] at start
      exact start
    refine .ite (fun conserved => ?_) fun _ => ?_
    · obtain ⟨status, snapshot'⟩ := settled_fields refreshed opening
      refine Conversation.Keeps.bind (recovers_persistOrderSubmission sees fun heard start => ⟨rfl, loaded.1,
        loaded.2, receipt, opening, observing.cashBalanceObservation.items, start.1.1.1, start.1.1.2,
        Value.eq_str_of_isStr pending.1, funding, snapshot, start.1.2, ⟨asset, text, start.2.1⟩,
        fun entry member => ⟨start.2.2 entry member, mem_balancesConserved conserved member⟩, status, snapshot'⟩)
        fun _ => ?_
      exact Conversation.Keeps.bind (Q := fun _ _ heard => ∃ earlier data committed,
        heard = earlier ++ [⟨.saveState false data, SaveReply.saved committed⟩]) (.update fun _ _ start => start)
        fun _ => .pure fun _ _ start _ => start
    · exact Conversation.Keeps.bind (Q := fun _ _ _ => True) (.update fun _ _ _ => trivial) fun _ => recovers_leave
  next => exact recovers_leave

/-- Every run of the recovery sends nothing, writes only what is proven, and answers `True`
only right after that write. -/
theorem recovery_settles_proven {events : List ClientEvent}
    {outcome : Option (Except PyException Bool × ClientRuntime)}
    (run : Dialogue.Trace (Client.reconcilePendingFundingSubmission settings runtime) events outcome) :
    (∀ event ∈ events, isRequest event = false)
      ∧ (∀ front interval data reply back, events = front ++ ⟨.saveState interval data, reply⟩ :: back →
        Proven runtime front interval data)
      ∧ ∀ after, outcome = some (.ok true, after) → ∃ earlier data committed,
        events = earlier ++ [⟨.saveState false data, SaveReply.saved committed⟩] := by
  have spec : Recovers runtime (fun r _ => r = runtime) (Client.reconcilePendingFundingSubmission settings) _ :=
    recovers_reconcilePendingFundingSubmission
  have answers : Dialogue.Answered (fun _ _ _ => True) [] events := fun _ _ _ _ _ => trivial
  obtain ⟨allowed, ended⟩ := Dialogue.abides_trace run (spec.abides rfl) answers
  refine ⟨fun event member => ?_, fun front interval data reply back split => ?_, fun after answered => ?_⟩
  · obtain ⟨front, back, rfl⟩ := List.append_of_mem member
    obtain ⟨call, answer⟩ := event
    cases call with
    | send methodName payload => exact (allowed front _ answer back rfl).elim
    | _ => rfl
  · exact allowed front _ reply back split
  · exact ended _ answered rfl

end Recovery

/-! ## A redemption -/

section Redemption

local instance : CharacterTable := asciiTable

def redeemReceipt : Document :=
  ⟨[("id", .int 7), ("asset", .str "BTC"), ("product_id", .str "BTC001"), ("amount", .str "1"),
    ("spot_before", .str "0")]⟩

def redeemRecord : Document :=
  ⟨[("state", .str orderSubmissionUnknown), ("identity_sha256", .str oneDigest),
    ("method_name", .str "redeem_simple_earn_flexible_product"), ("funding_receipt", .dict redeemReceipt)]⟩

def redeemState : Document :=
  ⟨[("last_balance_snapshot", .dict ⟨[("BTC", .int 1), ("ETH", .int 0), ("USDT", .int 0)]⟩),
    (orderSubmissionStateKey, .dict redeemRecord)]⟩

def redeemHistory : Value :=
  .dict ⟨[("total", .int 1), ("rows", .list [.dict ⟨[("redeemId", .int 7), ("asset", .str "BTC"),
    ("projectId", .str "BTC001"), ("status", .str "PAID"), ("destAccount", .str "SPOT"), ("amount", .str "1")]⟩])]⟩

/-- The redeemed coin is on Spot and nothing else is held. -/
def redeemAnswers : (call : ClientRequest) → call.Reply
  | .ensureActive => true
  | .saveState _ data => SaveReply.saved data
  | .loadState => Except.ok (.dict redeemState)
  | .flexibleHistory _ _ => Except.ok redeemHistory
  | .getAssetBalance asset => Except.ok (.dict
      ⟨[("free", .str (if asset.isStr "BTC" then "1" else "0")), ("locked", .str "0")]⟩)
  | .getFlexiblePosition _ => Except.ok (.dict ⟨[("rows", .list []), ("total", .int 0)]⟩)
  | .claimOwner => Except.ok .none
  | .releaseOwner => Except.ok .none
  | .send _ _ => Except.ok .none
  | .getOrder _ _ => Except.ok .none
  | .collectEarnCheckpoint _ => Except.ok .none
  | .collectBnbDividends _ _ => Except.ok .none

def isSave : ClientEvent → Bool
  | ⟨.saveState _ _, _⟩ => true
  | _ => false

/-- A confirmed purchase of ether waits for its snapshot. -/
def pendingRuntime : ClientRuntime :=
  { owningRuntime with pendingFunds := [⟨true, "buy", .str "ETHUSDT", .str "ETH"⟩] }

def redeemEvents : List ClientEvent :=
  (Dialogue.follow redeemAnswers 14 (Client.reconcilePendingFundingSubmission liveSettings pendingRuntime)).1

theorem redeemEvents_save : redeemEvents.any isSave = true := by decide +kernel

theorem recovery_settles_proven_redemption :
    ∃ front data reply back, redeemEvents = front ++ ⟨.saveState false data, reply⟩ :: back
      ∧ Proven pendingRuntime front false data := by
  obtain ⟨⟨call, reply⟩, member, saves⟩ := List.any_eq_true.mp redeemEvents_save
  obtain ⟨front, back, split⟩ := List.append_of_mem member
  cases call with
  | saveState interval data =>
    obtain ⟨-, proven, -⟩ := recovery_settles_proven (Dialogue.trace_follow redeemAnswers 14
      (Client.reconcilePendingFundingSubmission liveSettings pendingRuntime))
    have settled := proven front interval data reply back split
    obtain rfl := settled.1
    exact ⟨front, data, reply, back, split, settled⟩
  | _ => cases saves

end Redemption

end BinancePlatform.Guarantees.ProvenSettlement
