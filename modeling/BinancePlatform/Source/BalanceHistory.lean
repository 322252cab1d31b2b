import BinancePlatform.Source.EarnAccrual
import BinancePlatform.Source.Equality

/-!
# Balance history

`application/broker_reconciliation.py`: `diagnose_balance_flows`, which reads every
history surface of one window page by page, and `diagnose_chunked_balance_flows`,
which walks a longer span in windows of at most `max_chunk`.

The optional evidence (approved reward products with their lifecycle, an opening
account) can only refuse what a surface returned, so it is a predicate here. Every
result that is not complete is an `Except` error with its reason code; the shape
diagnostics of a failure are left out.
-/

set_option autoImplicit false

namespace BinancePlatform.Source
open BinancePlatform.Library

inductive Surface where
  | deposits
  | withdrawals
  | earnSubscriptions
  | earnRedemptions
  | earnRewards
  | transfer (transferType : String)
  deriving DecidableEq, Repr

def transferTypes : List String :=
  ["MAIN_FUNDING", "FUNDING_MAIN", "MAIN_MARGIN", "MARGIN_MAIN", "MAIN_UMFUTURE", "UMFUTURE_MAIN",
   "MAIN_CMFUTURE", "CMFUTURE_MAIN", "MAIN_OPTION", "OPTION_MAIN", "MAIN_PORTFOLIO_MARGIN",
   "PORTFOLIO_MARGIN_MAIN"]

def historySurfaces : List Surface :=
  [.deposits, .withdrawals, .earnSubscriptions, .earnRedemptions, .earnRewards]
    ++ transferTypes.map .transfer

namespace Surface

/-- A list answer with an offset; the other surfaces answer in numbered pages. -/
def isList : Surface → Bool
  | .deposits | .withdrawals => true
  | _ => false

def pageSize (surface : Surface) : ℕ := if surface.isList then 1000 else 100

def isTransfer : Surface → Bool
  | .transfer _ => true
  | _ => false

end Surface

def maxHistoryPages : ℕ := 20

structure HistoryRequest where
  surface : Surface
  startTime : ℤ
  endTime : ℤ
  /-- `offset` of a list surface, `current` of a paged one -/
  position : ℕ

/-- `client._request_margin_api`; an exception is an error. -/
abbrev HistoryClient := HistoryRequest → Except Unit Value

structure HistoryFailure where
  reasonCode : String
  failedSurface : Option Surface
  deriving DecidableEq, Repr

def historyWindowInvalid : HistoryFailure := ⟨"balance_history_window_invalid", none⟩

namespace Surface

def readFailed (surface : Surface) : HistoryFailure := ⟨"balance_history_read_failed", some surface⟩
def incomplete (surface : Surface) : HistoryFailure := ⟨"balance_history_incomplete", some surface⟩
def duplicateEvent (surface : Surface) : HistoryFailure :=
  ⟨"balance_history_duplicate_event", some surface⟩
def validationFailed (surface : Surface) : HistoryFailure :=
  ⟨"balance_history_reward_validation_failed", some surface⟩

/-- `type(identity) is int and identity >= 0`. -/
def naturalIdentity (identity : Value) : Option Value :=
  match identity with
  | .int n => if n < 0 then none else some (.int n)
  | _ => none

/-- `_surface_row_identity`, without the name that every identity of a surface carries. -/
def rowIdentity (surface : Surface) (row : Document) : Option Value :=
  match surface with
  | .deposits | .withdrawals =>
    match pyGet row "id" with
    | .none | .list _ | .dict _ => none
    | identity => if identity.isStr "" then none else some identity
  | .earnSubscriptions => naturalIdentity (pyGet row "purchaseId")
  | .earnRedemptions => naturalIdentity (pyGet row "redeemId")
  | .transfer _ => naturalIdentity (pyGet row "tranId")
  | .earnRewards => none

/-- One row of a page against `page_seen`. -/
def takeIdentity (surface : Surface) (seen : List Value) (row : Document) :
    Except HistoryFailure (List Value) :=
  match surface.rowIdentity row with
  | none => if surface.isTransfer then .error surface.incomplete else .ok seen
  | some identity =>
    if seen.any identity.equals then .error surface.incomplete else .ok (identity :: seen)

end Surface

/-! ## One surface -/

/-- `total`: an `int`, or a text for which `isdecimal()` holds. -/
def readTotal : Value → Option ℕ
  | .int n => if n < 0 then none else some n.toNat
  | .str s =>
    if s ≠ "" && s.toList.all fun c => (NumberText.digitOf? c).isSome then
      some (NumberText.ofDigits (s.toList.filterMap NumberText.digitOf?))
    else none
  | _ => none

/-- `rows` is a list of mappings. -/
def readRows (surface : Surface) : Value → Except HistoryFailure (List Document)
  | .list rows => rows.mapM fun row =>
    match row with
    | .dict document => .ok document
    | _ => .error surface.incomplete
  | _ => .error surface.incomplete

/-- The rows of one paged response, and its total, which is the same on every page. -/
def readPage (surface : Surface) (lockedTotal : Option ℕ) (response : Value) :
    Except HistoryFailure (List Document × ℕ) :=
  match response with
  | .dict page =>
    match readTotal (pyGet page "total") with
    | none => .error surface.incomplete
    | some total => do
      require (lockedTotal.all (· = total)) surface.incomplete
      let rows ← readRows surface (if total = 0 && (page.get? "rows").isNone then .list []
        else pyGet page "rows")
      return (rows, total)
  | _ => .error surface.incomplete

section Fetch
variable (client : HistoryClient) (surface : Surface) (startTime endTime : ℤ)

def request (position : ℕ) : Except HistoryFailure Value :=
  match client ⟨surface, startTime, endTime, position⟩ with
  | .ok response => .ok response
  | .error _ => .error surface.readFailed

section Pages
variable (pageSize : ℕ)

/-- The pages of a list surface, until a short one. -/
def fetchList : (pages : ℕ) → (collected : List Document) → (seen : List Value) →
    Except HistoryFailure (List Document × List Value)
  | 0, _, _ => .error surface.incomplete
  | pages + 1, collected, seen => do
    let response ← request client surface startTime endTime collected.length
    let rows ← readRows surface response
    let seen ← rows.foldlM surface.takeIdentity seen
    if rows.length < pageSize then .ok (collected ++ rows, seen)
    else fetchList pages (collected ++ rows) seen

/-- The numbered pages of a surface, until the announced total is collected. -/
def fetchPaged : (pages : ℕ) → (pageIndex : ℕ) → (lockedTotal : Option ℕ) →
    (collected : List Document) → (seen : List Value) →
    Except HistoryFailure (List Document × List Value)
  | 0, _, _, _, _ => .error surface.incomplete
  | pages + 1, pageIndex, lockedTotal, collected, seen => do
    let response ← request client surface startTime endTime pageIndex
    let (rows, total) ← readPage surface lockedTotal response
    let seen ← rows.foldlM surface.takeIdentity seen
    if (collected ++ rows).length = total then .ok (collected ++ rows, seen)
    else if rows.isEmpty || rows.length < pageSize || total < (collected ++ rows).length then
      .error surface.incomplete
    else fetchPaged pages (pageIndex + 1) (some total) (collected ++ rows) seen

/-- `_fetch_surface` with `parameters` that ask for pages of this size. -/
def fetchPages (seen : List Value) : Except HistoryFailure (List Document × List Value) :=
  if surface.isList then
    fetchList client surface startTime endTime pageSize maxHistoryPages [] seen
  else fetchPaged client surface startTime endTime pageSize maxHistoryPages 1 none [] seen

end Pages

/-- `_fetch_surface`. -/
def fetchSurface (seen : List Value) : Except HistoryFailure (List Document × List Value) :=
  fetchPages client surface startTime endTime surface.pageSize seen

end Fetch

/-! ## Rewards -/

structure RewardSums where
  bonus : Decimal
  realtime : Decimal

/-- `_reward_sum_prec` of two finite values. -/
def rewardSumPrec (left right : Decimal) : ℕ :=
  match [left, right].filter (·.coeff ≠ 0) with
  | [] => 50
  | first :: rest =>
    let maxMsd := rest.foldl (fun most d => max most d.adjusted) first.adjusted
    let minLsd := rest.foldl (fun least d => min least d.exp) first.exp
    (max 50 (min (maxMsd - minLsd + 1 + 8) 1000)).toNat

/-- `_add_reward_quantity`. -/
def addRewardQuantity (left right : Decimal) : Option Decimal :=
  left.add { defaultContext with prec := rewardSumPrec left right } right

section Rewards
variable [CharacterTable]

/-- The quantity of a reward row, added to the sums of its asset. Without managed
assets there are no sums. -/
def creditReward (sums : Option (Dict String RewardSums)) (row : Document) :
    Except HistoryFailure (Option (Dict String RewardSums)) :=
  match (pyGet row "rewards").toDecimal with
  | .ok (.finite quantity) => do
    require (!quantity.lt .zero) (Surface.validationFailed .earnRewards)
    match sums with
    | none => return none
    | some assets =>
      match pyGet row "asset" with
      | .str asset =>
        match assets.get? asset with
        | none => .error (Surface.validationFailed .earnRewards)
        | some held =>
          let isBonus := (pyGet row "type").isStr "BONUS"
          match addRewardQuantity (if isBonus then held.bonus else held.realtime) quantity with
          | none => .error (Surface.validationFailed .earnRewards)
          | some sum => return some (assets.set asset
              (if isBonus then { held with bonus := sum } else { held with realtime := sum }))
      | _ => .error (Surface.validationFailed .earnRewards)
  | _ => .error (Surface.validationFailed .earnRewards)

/-- `(asset, kind, project, timestamp)`. -/
def rewardIdentity (row : Document) : List Value :=
  [pyGet row "asset", pyGet row "type", pyGet row "projectId", pyGet row "time"]

/-- One reward row. The identities of the window itself are among those of all windows,
so its own set refuses nothing more. -/
def takeReward (startTime endTime : ℤ)
    (state : List (List Value) × Option (Dict String RewardSums)) (row : Document) :
    Except HistoryFailure (List (List Value) × Option (Dict String RewardSums)) := do
  require ((rewardIdentity row).all Value.hashable) (Surface.validationFailed .earnRewards)
  require (!state.1.any fun seen => (List.zipWith Value.equals seen (rewardIdentity row)).all id)
    (Surface.duplicateEvent .earnRewards)
  match pyGet row "time" with
  | .int time => do
    require (startTime ≤ time && time ≤ endTime) (Surface.validationFailed .earnRewards)
    require ((pyGet row "type").isStr "BONUS" || (pyGet row "type").isStr "REALTIME")
      (Surface.validationFailed .earnRewards)
    let sums ← creditReward state.2 row
    return (rewardIdentity row :: state.1, sums)
  | _ => .error (Surface.validationFailed .earnRewards)

/-! ## One window -/

/-- What is carried from window to window. -/
structure HistoryState where
  counts : Dict Surface ℕ
  seenIdentities : Dict Surface (List Value)
  seenRewards : List (List Value)
  rewardSums : Option (Dict String RewardSums)

/-- What the optional evidence refuses: the rows of a surface in a window, or the end. -/
structure HistoryRefusals where
  rows : ℕ → Surface → List Document → Option HistoryFailure
  finish : Option HistoryFailure

variable (client : HistoryClient) (refusals : HistoryRefusals)

def refuse {ε : Type} : Option ε → Except ε Unit
  | none => .ok ()
  | some raised => .error raised

/-- One surface of one window; its count is added to that of the windows before. -/
def diagnoseSurface (chunk : ℕ) (startTime endTime : ℤ) (state : HistoryState) (surface : Surface) :
    Except HistoryFailure HistoryState := do
  let (rows, seen) ← fetchSurface client surface startTime endTime
    ((state.seenIdentities.get? surface).getD [])
  refuse (refusals.rows chunk surface rows)
  let state := { state with
    counts := state.counts.set surface ((state.counts.get? surface).getD 0 + rows.length)
    seenIdentities := state.seenIdentities.set surface seen }
  if surface = .earnRewards then do
    let (seenRewards, rewardSums) ← rows.foldlM (takeReward startTime endTime)
      (state.seenRewards, state.rewardSums)
    return { state with seenRewards, rewardSums }
  else return state

/-- `diagnose_balance_flows` on a window of the walk, where `now` is its end. -/
def diagnoseBalanceFlows (chunk : ℕ) (start finish : Instant) (state : HistoryState) :
    Except HistoryFailure HistoryState := do
  require (start < finish && finish - start ≤ 7 * DateTime.dayMicros) historyWindowInvalid
  historySurfaces.foldlM (diagnoseSurface client refusals chunk (DateTime.timestampMs start)
    (DateTime.timestampMs finish)) state

/-! ## The walk -/

/-- `cursor` after a window, or `break`. -/
def nextCursor (chunkEnd finish : Instant) : Option Instant :=
  if chunkEnd = finish then none
  else if chunkEnd + 1000 < finish then some (chunkEnd + 1000)
  else if chunkEnd + 1000 = finish then some chunkEnd
  else none

/-- `while cursor < end`; the cursor grows, so the remaining span bounds the rounds. -/
def walkChunks (finish : Instant) (maxChunk : ℤ) : (rounds : ℕ) → (chunk : ℕ) → (cursor : Instant) →
    HistoryState → Except HistoryFailure HistoryState
  | 0, _, _, state => .ok state
  | rounds + 1, chunk, cursor, state =>
    if cursor < finish then do
      let chunkEnd := min (cursor + maxChunk) finish
      let state ← diagnoseBalanceFlows client refusals chunk cursor chunkEnd state
      match nextCursor chunkEnd finish with
      | none => .ok state
      | some cursor => walkChunks finish maxChunk rounds (chunk + 1) cursor state
    else .ok state

/-- `reward_assets`, with sums of zero. -/
def rewardSumsOf (managedRewardAssets : List String) : Option (Dict String RewardSums) :=
  match (managedRewardAssets.filter fun asset => strip asset ≠ "").map upperText with
  | [] => none
  | assets => some (Dict.empty.setAll (assets.map fun asset => (asset, ⟨.zero, .zero⟩)))

/-- `diagnose_chunked_balance_flows`: the counts and sums of a complete result. -/
def diagnoseChunkedBalanceFlows (start finish now : Instant) (maxChunk : ℤ)
    (managedRewardAssets : List String) : Except HistoryFailure HistoryState := do
  require (start < finish && finish ≤ now && 0 < maxChunk && maxChunk ≤ 7 * DateTime.dayMicros)
    historyWindowInvalid
  let state ← walkChunks client refusals finish maxChunk (finish - start).toNat 0 start
    { counts := .empty, seenIdentities := .empty, seenRewards := []
      rewardSums := rewardSumsOf managedRewardAssets }
  refuse refusals.finish
  return state

end Rewards

end BinancePlatform.Source
