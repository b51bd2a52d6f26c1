import CopyTrading.EmergencyStop
import CopyTrading.OrderStateMachine
import CopyTrading.PositionEngine
import CopyTrading.RiskEngine

/-!
`execute_signal_for_account`: one signal executed on one account through the
simulated exchange. Each stage ends where the source commits.
-/

namespace CopyTrading

open Transaction DecimalArith

def getOwnedSignal (userId signalId : String) : Service TradingSignal := do
  match ← Session.query (·.signals.find? fun row => row.id = signalId ∧ row.userId = userId) with
  | none => throw (.valueError "signal not found")
  | some signal => return signal

/-- `_get_owned_account`. -/
def requireOwnedAccount (userId exchangeAccountId : String) : Service ExchangeAccount := do
  match ← getOwnedAccount userId exchangeAccountId with
  | none => throw (.valueError "exchange account not found")
  | some account => return account

/-- The execution of a signal on an account, if there is one. -/
def executionOf (signalId exchangeAccountId : String) (db : Db) : Option OrderExecution :=
  db.executions.find? fun row =>
    row.signalId = signalId ∧ row.exchangeAccountId = exchangeAccountId

def resolveSideAndQuantity (signal : TradingSignal) (account : ExchangeAccount) :
    Service (OrderSide × Decimal) := do
  match signal.targetPositionQuantity with
  | none =>
    match signal.quantity with
    | none => throw (.valueError "signal quantity is required")
    | some quantity => return (signal.side, quantity.toDecimal)
  | some target =>
    let position ← getOrCreatePosition signal.userId account.id signal.symbol
    let delta := calculateDelta signal.symbol position.quantity.toDecimal target.toDecimal
    return (delta.side.getD signal.side, delta.deltaQuantity)

def clientOrderIdOf (signalId accountId : String) : String :=
  "sig-" ++ String.ofList (signalId.toList.take 8) ++ "-acct-" ++
    String.ofList (accountId.toList.take 8)

def notifyOrderFailure (alertRuntime : Bool) (status : OrderExecutionStatus)
    (failureType : String) : Service Unit :=
  if alertRuntime then ask (.notifyOrderFailure status.value failureType) else pure ()

/-- `str(response["exchange_order_id"])`. -/
def exchangeOrderIdOf (py : Platform) : Json → Except Exc String
  | .obj fields =>
      match Json.lookup "exchange_order_id" fields with
      | some value => .ok (py.strOf value)
      | none => .error .keyError
  | _ => .error .typeError

/-- The new row, as it is committed before anything is decided about it. -/
def newExecution (userId : String) (signal : TradingSignal) (account : ExchangeAccount)
    (side : OrderSide) (quantity : Quantity) (id executionId : String) : OrderExecution where
  id := id
  userId := userId
  signalId := signal.id
  executionId := executionId
  exchangeAccountId := account.id
  exchangeName := account.exchangeName.value
  clientOrderId := clientOrderIdOf signal.id account.id
  exchangeOrderId := none
  symbol := signal.symbol
  side := side
  orderType := signal.orderType
  price := signal.price
  quantity := quantity
  status := .created
  riskResult := .null
  exchangeResponse := .null
  errorMessage := none

/-- Insert the execution as `CREATED` and commit it. -/
def createExecution (userId : String) (signal : TradingSignal) (account : ExchangeAccount)
    (side : OrderSide) (quantity : Decimal) : Service String := do
  let id ← ask .newUuid
  let executionId ← ask .newUuid
  let stored ← toColumn quantity
  Session.add fun work =>
    { work with
      executions := work.executions ++
        [newExecution userId signal account side stored id executionId] }
  Session.flush
  recordInitialOrderState id
  Session.commit
  discard <| Session.loadExecution id
  return id

/-- The order failed its risk checks, or there is nothing to trade. -/
def failExecution (id : String) (result : RiskCheckResult) (alertRuntime : Bool) :
    Service OrderExecution := do
  let error := String.intercalate "; " result.reasons
  Session.setExecution id fun change =>
    { change with
      errorMessage := some (some (if error = "" then "zero quantity order" else error)) }
  transitionOrderExecution id .failed
    (if result.decision ≠ .passed then "risk_rejected" else "zero_quantity")
  Session.commit
  let execution ← Session.loadExecution id
  notifyOrderFailure alertRuntime execution.status
    (if result.decision ≠ .passed then "risk_rejected" else "unknown")
  return execution

/-- The adapter has answered: fill the execution and the position. -/
def fillExecution (py : Platform) (userId id : String) (signal : TradingSignal)
    (account : ExchangeAccount) (side : OrderSide) (quantity : Decimal) (response : Json) :
    Service OrderExecution := do
  let exchangeOrderId ← Handler.ofExcept (exchangeOrderIdOf py response)
  -- the instance expired at the last commit; the transition below loads it
  discard <| Session.execution id
  Session.setExecution id fun change =>
    { change with
      exchangeOrderId := some (some exchangeOrderId), exchangeResponse := some response }
  transitionOrderExecution id .filled "mock_order_filled"
  discard <| applyFill userId account.id signal.symbol side quantity
  Session.commit
  Session.loadExecution id

/-- `RISK_PASSED`, `SUBMITTED`, each committed, then the adapter. -/
def placeExecution (py : Platform) (userId id : String) (signal : TradingSignal)
    (account : ExchangeAccount) (side : OrderSide) (quantity : Decimal) :
    Service OrderExecution := do
  transitionOrderExecution id .riskPassed "risk_passed"
  Session.commit
  transitionOrderExecution id .submitted "mock_order_submitted"
  Session.commit
  let response ← ask (.placeOrder
    { clientOrderId := clientOrderIdOf signal.id account.id, symbol := signal.symbol, side
      orderType := signal.orderType, quantity, price := signal.price.map Numeric.toDecimal })
  let response ← Handler.ofExcept response
  fillExecution py userId id signal account side quantity response

/-- Signals are immutable, and so are the id and the exchange of an account: reading those
after a commit loads the same values again. The trading flag of the account is loaded
anew, since the commit of the created row expired the instance. -/
def executeSignalForAccount (py : Platform) (userId signalId exchangeAccountId : String)
    (alertRuntime : Bool := false) : Service OrderExecution := do
  assertNewOrdersAllowed
  let signal ← getOwnedSignal userId signalId
  let account ← requireOwnedAccount userId exchangeAccountId
  match ← Session.query (executionOf signal.id account.id) with
  | some existing => Session.holdExecution existing
  | none =>
    let (side, quantity) ← resolveSideAndQuantity signal account
    let id ← createExecution userId signal account side quantity
    let settings ← getOrCreateRiskSettings userId exchangeAccountId
    let current ← Session.account account.id
    let result ← Handler.ofExcept <| checkOrderRisk current settings
      { symbol := signal.symbol, side, quantity, price := signal.price.map Numeric.toDecimal }
    discard <| Session.execution id
    Session.setExecution id fun change => { change with riskResult := some result.toDict }
    if result.decision ≠ .passed ∨ quantity ≤ .ofInt 0 then
      failExecution id result alertRuntime
    else
      placeExecution py userId id signal account side quantity

end CopyTrading
