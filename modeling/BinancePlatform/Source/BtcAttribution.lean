import BinancePlatform.Source.ExternalCashFlows
import Mathlib.Data.List.Sort

/-!
# BTC attribution

`infra/btc_attribution.py`: the ledger of a strategy's BTC is recomputed from its
opening quantities, fills and transfers, in the ambient decimal context. Every refusal
is the same exception. A time of the snapshot is given by its text.
-/

set_option autoImplicit false

namespace BinancePlatform.Source.BtcAttribution
open BinancePlatform.Library

/-- `_blocked`. -/
def blocked : PyException := valueError "btc_attribution_unavailable"

def amountLimit : Decimal := ⟨false, 1000000000, 0⟩

def boundedAmount (d : Decimal) : Except PyException Decimal := do
  require (Decimal.zero.le d && d.le amountLimit && -18 ≤ d.exp) blocked
  return d

/-- `_amount`. -/
def amount : Value → Except PyException Decimal
  | .str s =>
    match decimalOfText s with
    | .ok (.finite d) => boundedAmount d
    | _ => .error blocked
  | .int n => boundedAmount (Decimal.ofInt n)
  | _ => .error blocked

/-- `_utc`. -/
def utc : Value → Except PyException Instant
  | .str s => do
    let parsed ← optionOr blocked (DateTime.fromIsoformat (zuluReplaced s))
    require (parsed.offset = some 0) blocked
    optionOr blocked parsed.instant?
  | _ => .error blocked

/-- The text of a value that `_identity` accepts. -/
def identity : Value → Option String
  | .str s => if strip s ≠ "" ∧ s = strip s then some s else none
  | _ => none

/-- `value is True`. -/
def isTrue : Value → Bool
  | .bool b => b
  | _ => false

/-- `isinstance(value, list)` and its items. -/
def asList : Value → Except PyException (List Value)
  | .list items => .ok items
  | _ => .error blocked

structure Attribution where
  spot : Decimal
  earn : Decimal
  fees : Dict String Decimal
  deriving DecidableEq

structure Event where
  time : Instant
  isFill : Bool
  fields : Document

def snapshotKeys : List String :=
  ["contract_version", "account_scope", "account_selector", "strategy_profile", "source",
    "source_version", "opening_at", "observed_through", "available_at", "complete",
    "opening_spot_btc", "opening_earn_btc", "fills", "transfers", "unsettled_orders",
    "observed_spot_free_btc", "observed_earn_btc"]

def eventKeys (isFill : Bool) : List String :=
  if isFill then ["id", "at", "side", "btc_qty", "fee_asset", "fee_qty"]
  else ["id", "at", "direction", "btc_qty"]

/-- `x == name`, for a text `name`. -/
def isText (value : Value) (name : Option String) : Bool := name.any value.isStr

/-- The arguments of a call beside the snapshot. -/
structure Request where
  asOf : Value
  accountScope : Value
  accountSelector : Value

/-- The window of the events. -/
structure Window where
  opened : Instant
  now : Instant

/-- The checks of the header. -/
def readHeader (snapshot : Document) (request : Request) : Except PyException Window := do
  require (hasExactly snapshot snapshotKeys) blocked
  require ((pyGet snapshot "contract_version").isStr "btc-attribution/v1"
    && (pyGet snapshot "strategy_profile").isStr "crypto_btc_dca"
    && (identity (pyGet snapshot "source")).isSome
    && (identity (pyGet snapshot "source_version")).isSome
    && isText (pyGet snapshot "account_scope") (identity request.accountScope)
    && isText (pyGet snapshot "account_selector") (identity request.accountSelector)
    && isTrue (pyGet snapshot "complete")) blocked
  let now ← utc request.asOf
  let opened ← utc (pyGet snapshot "opening_at")
  let through ← utc (pyGet snapshot "observed_through")
  require (opened < through && through = now) blocked
  let available ← utc (pyGet snapshot "available_at")
  require (available = now) blocked
  return ⟨opened, now⟩

/-- An event of one of the two lists, and its id. -/
def readEvent (window : Window) (isFill : Bool) (value : Value) :
    Except PyException (String × Event) := do
  let fields ← asMapping blocked value
  require (hasExactly fields (eventKeys isFill)) blocked
  let id ← optionOr blocked (identity (pyGet fields "id"))
  let time ← utc (pyGet fields "at")
  require (window.opened < time && time ≤ window.now) blocked
  return (id, ⟨time, isFill, fields⟩)

/-- `ids` and `events`. -/
def collectEvent (window : Window) (isFill : Bool) (gathered : List String × List Event)
    (value : Value) : Except PyException (List String × List Event) := do
  let (id, event) ← readEvent window isFill value
  require (id ∉ gathered.1) blocked
  return (id :: gathered.1, gathered.2 ++ [event])

def collectEvents (window : Window) (fills transfers : List Value) :
    Except PyException (List Event) := do
  let gathered ← fills.foldlM (collectEvent window true) ([], [])
  let gathered ← transfers.foldlM (collectEvent window false) gathered
  return gathered.2

/-- `events.sort`, which is stable. -/
def sortEvents (events : List Event) : List Event :=
  events.insertionSort fun first second => first.time ≤ second.time

inductive Side where
  | buy
  | sell
  deriving DecidableEq

inductive Movement where
  | fill (side : Side) (quantity : Decimal) (asset : String) (fee : Decimal)
  | transfer (toEarn : Bool) (quantity : Decimal)

def isAssetCode (asset : String) : Bool := asset.toList.all upperOrDigit

/-- The checks of one event in the replay. -/
def readMovement (event : Event) : Except PyException Movement := do
  let quantity ← amount (pyGet event.fields "btc_qty")
  require (Decimal.zero.lt quantity) blocked
  if event.isFill then do
    let asset ← optionOr blocked (identity (pyGet event.fields "fee_asset"))
    require (isAssetCode asset) blocked
    let fee ← amount (pyGet event.fields "fee_qty")
    if (pyGet event.fields "side").isStr "BUY" then return .fill .buy quantity asset fee
    else if (pyGet event.fields "side").isStr "SELL" then return .fill .sell quantity asset fee
    else .error blocked
  else if (pyGet event.fields "direction").isStr "spot_to_earn" then return .transfer true quantity
  else if (pyGet event.fields "direction").isStr "earn_to_spot" then return .transfer false quantity
  else .error blocked

def plus (a b : Decimal) : Except PyException Decimal := checked (a.add defaultContext b)
def minus (a b : Decimal) : Except PyException Decimal := checked (a.sub defaultContext b)

def afterTrade (spot : Decimal) : Side → Decimal → Except PyException Decimal
  | .buy, quantity => plus spot quantity
  | .sell, quantity => minus spot quantity

/-- A fee in BTC leaves Spot. -/
def afterFee (spot : Decimal) (asset : String) (fee : Decimal) : Except PyException Decimal :=
  if asset = "BTC" then minus spot fee else .ok spot

/-- The changes of Spot, Earn and fees by one event. -/
def move (ledger : Attribution) : Movement → Except PyException Attribution
  | .fill side quantity asset fee => do
    let total ← plus ((ledger.fees.get? asset).getD .zero) fee
    let traded ← afterTrade ledger.spot side quantity
    let spot ← afterFee traded asset fee
    return { ledger with spot, fees := ledger.fees.set asset total }
  | .transfer true quantity => do
    let spot ← minus ledger.spot quantity
    let earn ← plus ledger.earn quantity
    return { ledger with spot, earn }
  | .transfer false quantity => do
    let earn ← minus ledger.earn quantity
    let spot ← plus ledger.spot quantity
    return { ledger with spot, earn }

def inBounds (d : Decimal) : Bool := Decimal.zero.le d && d.le amountLimit

/-- One event of the replay. The source checks the side and the direction where they
decide the change; the exception is the same. -/
def replayEvent (ledger : Attribution) (movement : Movement) : Except PyException Attribution := do
  let moved ← move ledger movement
  require (inBounds moved.spot && inBounds moved.earn) blocked
  return moved

/-- What the replay starts from: the opening quantities and the events in time order. -/
structure Opening where
  spot : Decimal
  earn : Decimal
  events : List Event

def readOpening (snapshot : Document) (request : Request) : Except PyException Opening := do
  let window ← readHeader snapshot request
  let fills ← asList (pyGet snapshot "fills")
  let transfers ← asList (pyGet snapshot "transfers")
  let unsettled ← asList (pyGet snapshot "unsettled_orders")
  require (unsettled.isEmpty && fills.length + transfers.length ≤ 10000) blocked
  let spot ← amount (pyGet snapshot "opening_spot_btc")
  let earn ← amount (pyGet snapshot "opening_earn_btc")
  let events ← collectEvents window fills transfers
  let sorted := sortEvents events
  require (sorted.map Event.time).Nodup blocked
  return ⟨spot, earn, sorted⟩

/-- The observed Spot and Earn quantities. -/
def readObserved (snapshot : Document) : Except PyException (Decimal × Decimal) := do
  let spot ← amount (pyGet snapshot "observed_spot_free_btc")
  let earn ← amount (pyGet snapshot "observed_earn_btc")
  return (spot, earn)

/-- `reconstruct`. -/
def reconstruct (snapshot : Value) (request : Request) : Except PyException Attribution := do
  let snapshot ← asMapping blocked snapshot
  let opening ← readOpening snapshot request
  let final ← opening.events.foldlM (fun ledger event => readMovement event >>= replayEvent ledger)
    ⟨opening.spot, opening.earn, .empty⟩
  let (spot, earn) ← readObserved snapshot
  require (final.spot.eqv spot && final.earn.eqv earn) blocked
  return final

end BinancePlatform.Source.BtcAttribution
