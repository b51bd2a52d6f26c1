import CopyTrading.Session

/-!
Signals that a user enters by hand.
-/

namespace CopyTrading

open Transaction DecimalArith

/-- A request the schema admits. The price is not constrained. -/
structure ManualSignalCreate where
  symbol : String
  side : OrderSide
  orderType : OrderType := .market
  price : Option Decimal := none
  quantity : Option Decimal := none
  targetPositionQuantity : Option Decimal := none
  symbol_length : 1 ≤ symbol.length ∧ symbol.length ≤ 40
  quantity_pos : ∀ value ∈ quantity, 0 < value.toRat
  target_nonneg : ∀ value ∈ targetPositionQuantity, 0 ≤ value.toRat
  quantity_or_target : quantity.isSome ∨ targetPositionQuantity.isSome

def manualSignal (py : Platform) (userId : String) (payload : ManualSignalCreate) (id : String)
    (price quantity targetPositionQuantity : Option Quantity) : TradingSignal where
  id := id
  userId := userId
  source := .manual
  symbol := py.upper payload.symbol
  side := payload.side
  orderType := payload.orderType
  price := price
  quantity := quantity
  targetPositionQuantity := targetPositionQuantity
  rawPayload := .obj [("source", .str SignalSource.manual.value)]

/-- `db.refresh(signal)`: load the row by its key. -/
def refreshSignal (id : String) : Service TradingSignal := do
  match ← Session.query (·.signals.find? (·.id = id)) with
  | none => throw .objectDeleted
  | some row => return row

def createManualSignal (py : Platform) (userId : String) (payload : ManualSignalCreate) :
    Service TradingSignal := do
  let id ← ask .newUuid
  let price ← toColumn? payload.price
  let quantity ← toColumn? payload.quantity
  let targetPositionQuantity ← toColumn? payload.targetPositionQuantity
  Session.add fun work =>
    { work with
      signals := work.signals ++
        [manualSignal py userId payload id price quantity targetPositionQuantity] }
  Session.commit
  refreshSignal id

end CopyTrading
