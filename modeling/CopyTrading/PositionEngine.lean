import CopyTrading.Session

/-!
Positions: the quantity held per account and symbol, and the fills that change it.
-/

namespace CopyTrading

open Transaction DecimalArith

structure PositionDelta where
  symbol : String
  currentQuantity : Decimal
  targetQuantity : Decimal
  deltaQuantity : Decimal
  side : Option OrderSide

def positionOf (userId exchangeAccountId symbol : String) (db : Db) : Option Position :=
  db.positions.find? fun row =>
    row.userId = userId ∧ row.exchangeAccountId = exchangeAccountId ∧ row.symbol = symbol

/-- `db.refresh(position)`: load the row by its key. -/
def refreshPosition (exchangeAccountId symbol : String) : Service Position := do
  match ← Session.query (·.positions.find? fun row =>
      row.exchangeAccountId = exchangeAccountId ∧ row.symbol = symbol) with
  | none => throw .objectDeleted
  | some row => return row

/-- A missing row is added with quantity zero and committed on its own, together with
whatever else is pending in the session. -/
def getOrCreatePosition (userId exchangeAccountId symbol : String) : Service Position := do
  match ← Session.query (positionOf userId exchangeAccountId symbol) with
  | some position => return position
  | none =>
    Session.add fun work =>
      { work with
        positions := work.positions ++
          [{ userId, exchangeAccountId, symbol, quantity := Numeric.zero }] }
    Session.commit
    refreshPosition exchangeAccountId symbol

def calculateDelta (symbol : String) (currentQuantity targetQuantity : Decimal) : PositionDelta :=
  let delta := decimalSub targetQuantity currentQuantity
  { symbol, currentQuantity, targetQuantity
    deltaQuantity := delta.abs
    side := if 0 < delta.coeff then some .buy else if delta.coeff < 0 then some .sell else none }

/-- The position after a fill, as the session computes it from the loaded quantity. -/
def filledQuantity (side : OrderSide) (position : Quantity) (quantity : Decimal) : Decimal :=
  match side with
  | .buy => decimalAdd position.toDecimal quantity
  | .sell => decimalSub position.toDecimal quantity

def applyFill (userId exchangeAccountId symbol : String) (side : OrderSide) (quantity : Decimal) :
    Service Position := do
  let position ← getOrCreatePosition userId exchangeAccountId symbol
  let filled ← toColumn (filledQuantity side position.quantity quantity)
  Session.add fun work =>
    { work with positionChanges := work.positionChanges ++ [⟨position, filled⟩] }
  Session.commit
  refreshPosition exchangeAccountId symbol

end CopyTrading
