import CopyTrading.TestnetOrder.Submission

/-!
What the exchange reports about an order later: order events of the user stream, and the
reconciliation that looks pending orders up by REST. Both apply a normalized event to the
execution it names.
-/

namespace CopyTrading

open Transaction DecimalArith

structure NormalizedTestnetOrderEvent where
  exchangeName : ExchangeName
  clientOrderId : Option String
  exchangeOrderId : Option String
  status : OrderExecutionStatus
  eventId : Option String := none
  filledQuantity : Option DecimalLiteral := none

structure TestnetOrderLifecycleResult where
  isMatched : Bool := true
  transitioned : Bool := false
  duplicate : Bool := false
  ignored : Bool := false
  executionId : Option String
  status : Option OrderExecutionStatus
  reason : String
  deriving DecidableEq

/-! ### Normalizing reports -/

def invalidEvent (message : String) : Exc := .orderEventValidation message

/-- `_status`: the raw status as text, looked up in the table of the exchange. -/
def statusOf (py : Platform) (raw : Json) (table : List (String × OrderExecutionStatus)) :
    Except Exc OrderExecutionStatus :=
  match table.lookup (py.strOf raw) with
  | some status => .ok status
  | none => .error (invalidEvent "unsupported testnet order status")

def binanceStatuses : List (String × OrderExecutionStatus) :=
  [("NEW", .accepted), ("PENDING_NEW", .submitted), ("PARTIALLY_FILLED", .partiallyFilled),
    ("FILLED", .filled), ("CANCELED", .cancelled), ("REJECTED", .rejected),
    ("EXPIRED", .timeout), ("EXPIRED_IN_MATCH", .timeout)]

def bybitStatuses : List (String × OrderExecutionStatus) :=
  [("New", .accepted), ("PartiallyFilled", .partiallyFilled), ("Filled", .filled),
    ("Cancelled", .cancelled), ("Rejected", .rejected), ("Deactivated", .cancelled)]

def okxStatuses : List (String × OrderExecutionStatus) :=
  [("live", .accepted), ("partially_filled", .partiallyFilled), ("filled", .filled),
    ("canceled", .cancelled), ("mmp_canceled", .cancelled)]

/-- `_first_mapping`. -/
def firstMapping : Json → Except Exc (List (String × Json))
  | .arr (.obj fields :: _) => .ok fields
  | _ => .error (invalidEvent "testnet order event data is missing")

/-- `_optional_decimal`. -/
def optionalDecimal (py : Platform) : Json → Except Exc (Option DecimalLiteral)
  | .null => .ok none
  | .str "" => .ok none
  | value =>
      match DecimalLiteral.read py (py.strOf value) with
      | some quantity => .ok (some quantity)
      | none => .error (invalidEvent "invalid filled quantity")

/-- `first or second`. -/
def orElse (first second : Json) : Json := if isTruthy first then first else second

def normalizeBinance (py : Platform) (payload : List (String × Json)) :
    Except Exc NormalizedTestnetOrderEvent := do
  match Json.get payload "e" with
  | .str "executionReport" => pure ()
  | _ => throw (invalidEvent "invalid Binance order event")
  let status ← statusOf py (Json.get payload "X") binanceStatuses
  let filledQuantity ← optionalDecimal py (Json.get payload "z")
  return { exchangeName := .binance
           clientOrderId := optionalText py (Json.get payload "c")
           exchangeOrderId := optionalText py (Json.get payload "i")
           status, eventId := optionalText py (Json.get payload "E"), filledQuantity }

def normalizeBybit (py : Platform) (payload : List (String × Json)) :
    Except Exc NormalizedTestnetOrderEvent := do
  let row ← firstMapping (Json.get payload "data")
  let status ← statusOf py (Json.get row "orderStatus") bybitStatuses
  let filledQuantity ← optionalDecimal py (Json.get row "cumExecQty")
  return { exchangeName := .bybit
           clientOrderId := optionalText py (Json.get row "orderLinkId")
           exchangeOrderId := optionalText py (Json.get row "orderId")
           status
           eventId := optionalText py
            (orElse (Json.get payload "id") (Json.get payload "creationTime"))
           filledQuantity }

def normalizeOkx (py : Platform) (payload : List (String × Json)) :
    Except Exc NormalizedTestnetOrderEvent := do
  let row ← firstMapping (Json.get payload "data")
  let status ← statusOf py (Json.get row "state") okxStatuses
  let filledQuantity ← optionalDecimal py (Json.get row "accFillSz")
  return { exchangeName := .okx
           clientOrderId := optionalText py (Json.get row "clOrdId")
           exchangeOrderId := optionalText py (Json.get row "ordId")
           status
           eventId := optionalText py (orElse (Json.get row "uTime") (Json.get row "cTime"))
           filledQuantity }

def normalizeTestnetUserStreamOrderEvent (py : Platform) (exchangeName : ExchangeName)
    (payload : List (String × Json)) : Except Exc NormalizedTestnetOrderEvent :=
  match exchangeName with
  | .binance => normalizeBinance py payload
  | .bybit => normalizeBybit py payload
  | .okx => normalizeOkx py payload
  | .mock => .error (invalidEvent "unsupported testnet order event exchange")

def normalizeBinanceRest (py : Platform) (payload : List (String × Json)) :
    Except Exc NormalizedTestnetOrderEvent := do
  let status ← statusOf py (Json.get payload "status") binanceStatuses
  let filledQuantity ← optionalDecimal py (Json.get payload "executedQty")
  return { exchangeName := .binance
           clientOrderId := optionalText py (Json.get payload "clientOrderId")
           exchangeOrderId := optionalText py (Json.get payload "orderId")
           status, eventId := optionalText py (Json.get payload "updateTime"), filledQuantity }

def normalizeBybitRest (py : Platform) (payload : List (String × Json)) :
    Except Exc NormalizedTestnetOrderEvent :=
  if isErrorCode (Json.get payload "retCode") then
    .error (invalidEvent "Bybit REST order lookup was rejected")
  else
    normalizeBybit py [("data", Json.get (Json.mapping (Json.get payload "result")) "list")]

def normalizeOkxRest (py : Platform) (payload : List (String × Json)) :
    Except Exc NormalizedTestnetOrderEvent :=
  if isErrorCode (Json.get payload "code") then
    .error (invalidEvent "OKX REST order lookup was rejected")
  else normalizeOkx py [("data", Json.get payload "data")]

/-- A body that is no mapping has no `get`. -/
def normalizeTestnetRestOrderStatus (py : Platform) (exchangeName : ExchangeName)
    (payload : Json) : Except Exc NormalizedTestnetOrderEvent :=
  match exchangeName, payload with
  | .binance, .obj fields => normalizeBinanceRest py fields
  | .bybit, .obj fields => normalizeBybitRest py fields
  | .okx, .obj fields => normalizeOkxRest py fields
  | .mock, _ => .error (invalidEvent "unsupported testnet REST order exchange")
  | _, _ => .error .attributeError

/-! ### Applying an event -/

/-- An identifier that is there and not the empty text. -/
def usable (identifier : Option String) : Option String := identifier.filter (· ≠ "")

/-- Rows the event names; the query has no order, the first one is taken. -/
def findExecution (userId exchangeAccountId : String) (event : NormalizedTestnetOrderEvent)
    (db : Db) : Option OrderExecution :=
  db.executions.find? fun row =>
    row.userId = userId ∧ row.exchangeAccountId = exchangeAccountId ∧
      row.exchangeName = event.exchangeName.value ∧
      ((usable event.clientOrderId).any (fun id => row.clientOrderId = id) ∨
        (usable event.exchangeOrderId).any (fun id => row.exchangeOrderId = some id))

/-- The database takes the identifiers of the event in a query. -/
def isSearchable (event : NormalizedTestnetOrderEvent) : Bool :=
  (usable event.clientOrderId).all isBindable && (usable event.exchangeOrderId).all isBindable

def safeTransitionDetails (event : NormalizedTestnetOrderEvent) : Json :=
  .obj ([("exchange", .str event.exchangeName.value)] ++
    (match event.eventId with
      | some id => [("event_id", .str id)]
      | none => []) ++
    (match event.filledQuantity with
      | some quantity => [("filled_quantity", .str quantity.str)]
      | none => []))

def isInvalidTransition : Exc → Bool
  | .invalidOrderStateTransition _ => true
  | _ => false

/-- The transition, or `false` when the state machine refuses it. -/
def attemptTransition (id : String) (event : NormalizedTestnetOrderEvent)
    (transitionReason : String) : Service Bool :=
  tryCatch
    (do
      transitionOrderExecution id event.status transitionReason (safeTransitionDetails event)
      return true)
    fun raised => if isInvalidTransition raised then return false else throw raised

/-- The order id an event adds to an execution: its own, if none is known. -/
def newOrderId (execution : OrderExecution) (event : NormalizedTestnetOrderEvent) :
    Option String :=
  if execution.exchangeOrderId.getD "" = "" then usable event.exchangeOrderId else none

/-- Keep the exchange order id if none is known, and commit. -/
def commitOrderEvent (execution : OrderExecution) (event : NormalizedTestnetOrderEvent) :
    Service TestnetOrderLifecycleResult := do
  Session.refuseIf (¬ (newOrderId execution event).all (fitsColumn 120))
  Session.setExecution execution.id fun change =>
    match newOrderId execution event with
    | some id => { change with exchangeOrderId := some (some id) }
    | none => change
  Session.commit
  let refreshed ← Session.loadExecution execution.id
  return { transitioned := true, executionId := some refreshed.executionId
           status := some refreshed.status, reason := "order_status_transitioned" }

/-- `TestnetOrderLifecycleProcessor.apply`. -/
def applyTestnetOrderEvent (userId exchangeAccountId : String)
    (event : NormalizedTestnetOrderEvent)
    (transitionReason : String := "testnet_user_stream_event") :
    Service TestnetOrderLifecycleResult := do
  Handler.raiseIf ((usable event.clientOrderId).isNone ∧ (usable event.exchangeOrderId).isNone)
    (invalidEvent "order event has no usable identifier")
  Handler.raiseIf (¬ isSearchable event) .dataError
  match ← Session.query (findExecution userId exchangeAccountId event) with
  | none =>
    return { isMatched := false, ignored := true, executionId := none, status := none
             reason := "owned_order_execution_not_found" }
  | some row =>
    let execution ← Session.holdExecution row
    if execution.status = event.status then
      return { duplicate := true, ignored := true, executionId := some execution.executionId
               status := some execution.status, reason := "duplicate_order_event" }
    else
      let allowed ← attemptTransition execution.id event transitionReason
      if allowed then
        commitOrderEvent execution event
      else
        return { ignored := true, executionId := some execution.executionId
                 status := some execution.status, reason := "stale_or_invalid_order_event" }

/-- `handle_user_stream_event` for an event of type `ORDER`. -/
def handleUserStreamOrderEvent (py : Platform) (userId exchangeAccountId : String)
    (exchangeName : ExchangeName) (payload : List (String × Json)) :
    Service TestnetOrderLifecycleResult := do
  let event ← Handler.ofExcept (normalizeTestnetUserStreamOrderEvent py exchangeName payload)
  applyTestnetOrderEvent userId exchangeAccountId event

/-! ### Reconciliation -/

def pendingStatuses : List OrderExecutionStatus := [.submitted, .accepted, .partiallyFilled]

structure TestnetOrderReconciliationItem where
  executionId : String
  status : OrderExecutionStatus
  lifecycleResult : Option TestnetOrderLifecycleResult
  failureType : Option String := none

structure TestnetOrderReconciliationResult where
  exchangeAccountId : String
  attempted : Nat
  transitioned : Nat
  failed : Nat
  items : List TestnetOrderReconciliationItem

def orderLookupPath : ExchangeName → String
  | .binance => "/api/v3/order"
  | .bybit => "/v5/order/realtime"
  | _ => "/api/v5/trade/order"

def orderLookupParams (py : Platform) (execution : OrderExecution) (exchangeName : ExchangeName) :
    List (String × String) :=
  match exchangeName with
  | .binance => [("symbol", execution.symbol), ("origClientOrderId", execution.clientOrderId)]
  | .bybit => [("category", "spot"), ("orderLinkId", execution.clientOrderId)]
  | _ => [("instId", okxSymbol py execution.symbol), ("clOrdId", execution.clientOrderId)]

def securityTypeOf : ExchangeName → ExchangeSecurityType
  | .okx => .okxDemoSigned
  | _ => .signed

/-- `getattr(exc, "failure_type", "response_invalid")` of the exceptions that are caught. -/
def lookupFailure : Exc → Option String
  | .exchangeHttpRequest failureType _ _ => some failureType
  | raised => if raised.isValueError then some "response_invalid" else none

def reconcileExecution (py : Platform) (userId exchangeAccountId : String)
    (exchangeName : ExchangeName) (credentials : ExchangeCredentials)
    (client : SignedExchangeHttpClient) (id : String) :
    Service TestnetOrderReconciliationItem := do
  let outcome ← tryCatch
    (do
      let execution ← Session.execution id
      let response ← client.getPrivate py (orderLookupPath exchangeName) credentials
        (orderLookupParams py execution exchangeName) (securityTypeOf exchangeName)
      let event ← Handler.ofExcept (normalizeTestnetRestOrderStatus py exchangeName response)
      let result ← applyTestnetOrderEvent userId exchangeAccountId event
        "testnet_rest_order_reconciliation"
      return Except.ok result)
    fun raised =>
      match lookupFailure raised with
      | some failureType => return Except.error failureType
      | none => throw raised
  let execution ← Session.execution id
  match outcome with
  | .error failureType =>
    return { executionId := execution.executionId, status := execution.status
             lifecycleResult := none, failureType := some failureType }
  | .ok result =>
    return { executionId := execution.executionId
             status := result.status.getD execution.status, lifecycleResult := some result }

/-- One lookup after the other, in the order of the query. -/
def reconcileExecutions (py : Platform) (userId exchangeAccountId : String)
    (exchangeName : ExchangeName) (credentials : ExchangeCredentials)
    (client : SignedExchangeHttpClient) :
    List String → Service (List TestnetOrderReconciliationItem)
  | [] => return []
  | id :: rest => do
    let item ← reconcileExecution py userId exchangeAccountId exchangeName credentials client id
    let items ← reconcileExecutions py userId exchangeAccountId exchangeName credentials client
      rest
    return item :: items

def reconciliationAction : String := "testnet.order.reconciliation.requested"

def writeReconciliationAudit (userId : String) (exchangeName : ExchangeName)
    (result : TestnetOrderReconciliationResult) : Service Unit := do
  let id ← ask .newUuid
  let createdAt ← ask .utcNow
  Session.add fun work =>
    { work with
      auditLogs := work.auditLogs ++
        [{ id, userId, exchangeAccountId := some result.exchangeAccountId
           action := reconciliationAction
           severity := if result.failed = 0 then "INFO" else "WARNING"
           payload :=
            [("exchange_name", .str exchangeName.value),
              ("account_mode", .str AccountMode.testnet.value),
              ("attempted", .int result.attempted), ("transitioned", .int result.transitioned),
              ("failed", .int result.failed)]
           createdAt }] }
  Session.commit

/-- The reasons to refuse a reconciliation, tested in source order. -/
def reconciliationBlocked (account : Option ExchangeAccount) : Except Exc ExchangeAccount :=
  match account with
  | none => .error (.reconciliationBlocked "testnet exchange account was not found")
  | some account =>
    if ¬ account.isActive then
      .error (.reconciliationBlocked "testnet exchange account was not found")
    else if account.accountMode ≠ .testnet then
      .error (.reconciliationBlocked "account mode must be TESTNET")
    else if account.exchangeName = .mock then
      .error (.reconciliationBlocked "mock exchange has no private REST lookup")
    else if account.tradingEnabled then
      .error (.reconciliationBlocked "trading must remain disabled")
    else .ok account

def pendingExecutions (userId exchangeAccountId : String) (db : Db) : List OrderExecution :=
  db.executions.rows.filter fun row =>
    row.userId = userId ∧ row.exchangeAccountId = exchangeAccountId ∧
      row.status ∈ pendingStatuses

/-- The instances of all pending executions are loaded at once and held to the end. -/
def holdExecutions : List OrderExecution → Service Unit
  | [] => return ()
  | row :: rest => do
    discard <| Session.holdExecution row
    holdExecutions rest

def reconcilePendingTestnetOrders (py : Platform) (userId exchangeAccountId : String) :
    Service TestnetOrderReconciliationResult := do
  let owned ← getOwnedAccount userId exchangeAccountId
  let account ← Handler.ofExcept (reconciliationBlocked owned)
  match ← getExchangeCredentials py userId exchangeAccountId with
  | none => throw (.reconciliationBlocked "testnet API credentials are not configured")
  | some credentials =>
    let client ← createTestnetSignedHttpClient account.exchangeName
    let rows ← Session.query (pendingExecutions userId exchangeAccountId)
    holdExecutions rows
    let items ← reconcileExecutions py userId exchangeAccountId account.exchangeName credentials
      client (rows.map (·.id))
    let result : TestnetOrderReconciliationResult :=
      { exchangeAccountId, attempted := items.length
        transitioned :=
          (items.filter fun item => item.lifecycleResult.any (·.transitioned)).length
        failed := (items.filter fun item => item.failureType.isSome).length
        items }
    writeReconciliationAudit userId account.exchangeName result
    return result

end CopyTrading
