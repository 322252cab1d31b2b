import BinancePlatform.Source.Equality

/-!
# Recent trades

`_collect_bounded_recent_trades` of `application/broker_reconciliation.py`: the day
windows it asks for, the records it keeps and the conditions it refuses. The limit of
every request is the page size.
-/

set_option autoImplicit false

namespace BinancePlatform.Source
open BinancePlatform.Library

/-- `BinanceReconciliationReadError`. -/
def readError (message : String) : PyException := ⟨.runtimeError, message⟩

/-- `_MAX_MY_TRADES_WINDOW_MS`. -/
def maxMyTradesWindowMs : ℤ := 24 * 60 * 60 * 1000

/-- `_MAX_MY_TRADES_PAGE_SIZE`. -/
def maxMyTradesPageSize : ℕ := 1000

/-! ## Records -/

structure RecentTrade where
  tradeId : String
  orderId : String
  symbol : String
  qty : PyFloat
  price : PyFloat
  commission : PyFloat
  commissionAsset : String
  time : String
  isBuyer : Bool

def RecentTrade.key (trade : RecentTrade) : String × String := (trade.symbol, trade.tradeId)

/-- `==` of two records. -/
def RecentTrade.same (a b : RecentTrade) : Bool :=
  a.tradeId = b.tradeId && a.orderId = b.orderId && a.symbol = b.symbol
    && equalsFloat a.qty (.float b.qty) && equalsFloat a.price (.float b.price)
    && equalsFloat a.commission (.float b.commission) && a.commissionAsset = b.commissionAsset
    && a.time = b.time && a.isBuyer = b.isBuyer

/-- `_finite_number`; only a type or value error of `float` is renamed. -/
def RecentTrade.finiteNumber (fieldName : String) (value : Value) : Except PyException PyFloat :=
  match value.toFloat with
  | .ok parsed => do
    require parsed.isFinite (readError s!"Binance reconciliation has non-finite {fieldName}.")
    return parsed
  | .error raised =>
    if raised.cls = .overflowError then .error raised
    else .error (readError s!"Binance reconciliation is missing {fieldName}.")

/-- `_strict_bool`. -/
def RecentTrade.strictBool (fieldName : String) : Value → Except PyException Bool
  | .bool b => .ok b
  | _ => .error (readError s!"Binance reconciliation received an invalid {fieldName}.")

section Records
variable [CharacterTable]

/-- `_text`. -/
def trimmedText (value : Value) : String := strip (value.orElse (.str "")).toStr

/-- `_normalize_trade`. -/
def normalizeTrade (raw : Document) : Except PyException RecentTrade := do
  let tradeId := trimmedText (pyGet raw "id")
  let orderId := trimmedText (pyGet raw "orderId")
  let symbol := upperText (trimmedText (pyGet raw "symbol"))
  require (tradeId ≠ "" && orderId ≠ "" && symbol ≠ "")
    (readError "Binance reconciliation received an incomplete trade.")
  let qty ← RecentTrade.finiteNumber "trade quantity" (pyGet raw "qty")
  let price ← RecentTrade.finiteNumber "trade price" (pyGet raw "price")
  let commission ← RecentTrade.finiteNumber "trade commission" (pyGet raw "commission")
  let commissionAsset := upperText (trimmedText (pyGet raw "commissionAsset"))
  let time := trimmedText (pyGet raw "time")
  let isBuyer ← RecentTrade.strictBool "trade buyer flag" (pyGet raw "isBuyer")
  return { tradeId, orderId, symbol, qty, price, commission, commissionAsset, time, isBuyer }

/-! ## The walk -/

/-- `client.get_my_trades` for a symbol between two inclusive milliseconds. -/
abbrev TradeClient := String → ℤ → ℤ → Except PyException Value

/-- `normalized_by_trade_id`. -/
abbrev TradeTable := Dict (String × String) RecentTrade

/-- The rows of a response. -/
def tradeRows : Value → Except PyException (List Document)
  | .list items => items.mapM (asMapping (readError "Binance reconciliation received invalid recent trades."))
  | _ => .error (readError "Binance reconciliation received invalid recent trades.")

/-- One trade, against the record that its id already has. -/
def keepTrade (known : TradeTable) (raw : Document) : Except PyException TradeTable := do
  let normalized ← normalizeTrade raw
  require (!(known.get? normalized.key).any fun existing => !existing.same normalized)
    (readError "Binance reconciliation received conflicting recent trade records.")
  return known.set normalized.key normalized

/-- The body of the loop over one window. -/
def readTradeWindow (client : TradeClient) (symbol : String) (known : TradeTable) (window : ℤ × ℤ) :
    Except PyException TradeTable :=
  match client symbol window.1 window.2 with
  | .error _ => .error (readError "Binance reconciliation could not read recent trades.")
  | .ok trades => do
    let rows ← tradeRows trades
    require (rows.length < maxMyTradesPageSize)
      (readError "Binance reconciliation recent trades page is incomplete.")
    rows.foldlM keepTrade known

/-- The window that starts at a millisecond. -/
def tradeWindow (endMs windowStartMs : ℤ) : ℤ × ℤ :=
  (windowStartMs, min (windowStartMs + maxMyTradesWindowMs) endMs)

/-- The `while` loop: the windows it has requested, and its outcome. -/
def walkTrades (client : TradeClient) (symbol : String) (endMs windowStartMs : ℤ) (known : TradeTable) :
    List (ℤ × ℤ) × Except PyException TradeTable :=
  if windowStartMs ≤ endMs then
    let window := tradeWindow endMs windowStartMs
    match readTradeWindow client symbol known window with
    | .error raised => ([window], .error raised)
    | .ok next =>
      let later := walkTrades client symbol endMs (window.2 + 1) next
      (window :: later.1, later.2)
  else ([], .ok known)
termination_by (endMs + 1 - windowStartMs).toNat
decreasing_by simp only [tradeWindow, maxMyTradesWindowMs]; omega

/-- `_collect_bounded_recent_trades`: the requested windows, and the records or what is raised. -/
def collectBoundedRecentTrades (client : TradeClient) (symbol : String) (startMs endMs : ℤ) :
    List (ℤ × ℤ) × Except PyException (List RecentTrade) :=
  let walked := walkTrades client symbol endMs startMs .empty
  (walked.1, walked.2.map fun known => known.items.map Prod.snd)

end Records

end BinancePlatform.Source
