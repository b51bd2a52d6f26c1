import CopyTrading.EmergencyStop
import CopyTrading.OrderStateMachine
import CopyTrading.TestnetOrder.Request

/-!
A testnet submission: the execution it records before the exchange is asked, what the
answer of the exchange makes of that execution, and the request handler around both.
-/

namespace CopyTrading

open Transaction DecimalArith

/-! ### Persisting a submission -/

structure TestnetSubmissionRecord where
  executionId : String
  idempotentReplay : Bool
  deriving DecidableEq

def executionByClientOrderId (clientOrderId : String) (db : Db) : Option OrderExecution :=
  db.executions.find? (·.clientOrderId = clientOrderId)

def submissionPayload (auditLogId : String) : Json :=
  .obj [("source", .str "testnet_order_submit"), ("approval_audit_log_id", .str auditLogId)]

def submissionSignal (py : Platform) (userId : String) (context : TestnetOrderApiContext)
    (id : String) (price : Option Quantity) (quantity : Quantity) : TradingSignal where
  id := id
  userId := userId
  source := .manual
  symbol := py.upper context.order.symbol
  side := context.order.side
  orderType := context.order.orderType
  price := price
  quantity := some quantity
  targetPositionQuantity := none
  rawPayload := submissionPayload context.authorization.auditLogId

def submissionExecution (py : Platform) (userId : String) (context : TestnetOrderApiContext)
    (signalId id executionId : String) (price : Option Quantity) (quantity : Quantity) :
    OrderExecution where
  id := id
  userId := userId
  signalId := signalId
  executionId := executionId
  exchangeAccountId := context.account.id
  exchangeName := context.account.exchangeName.value
  clientOrderId := context.order.clientOrderId
  exchangeOrderId := none
  symbol := py.upper context.order.symbol
  side := context.order.side
  orderType := context.order.orderType
  price := price
  quantity := quantity
  status := .created
  riskResult := .null
  exchangeResponse := .null
  errorMessage := none

def submissionRiskInput (py : Platform) (context : TestnetOrderApiContext) : RiskOrderInput where
  symbol := py.upper context.order.symbol
  side := context.order.side
  quantity := context.order.quantity
  price := context.order.price

/-- Add the signal and the execution, and send both to the database. -/
def addSubmission (py : Platform) (userId : String) (context : TestnetOrderApiContext) :
    Service String := do
  let signalId ← ask .newUuid
  let price ← toColumn? context.order.price
  let quantity ← toColumn context.order.quantity
  Session.add fun work =>
    { work with
      signals := work.signals ++ [submissionSignal py userId context signalId price quantity] }
  Session.flush
  let id ← ask .newUuid
  let executionId ← ask .newUuid
  Session.add fun work =>
    { work with
      executions := work.executions ++
        [submissionExecution py userId context signalId id executionId price quantity] }
  Session.flush
  recordInitialOrderState id "testnet_execution_created"
  return id

def rejectSubmission (id : String) (result : RiskCheckResult) :
    Service TestnetSubmissionRecord := do
  Session.setExecution id fun change =>
    { change with errorMessage := some (some (String.intercalate "; " result.reasons)) }
  transitionOrderExecution id .rejected "testnet_risk_rejected"
  Session.commit
  discard <| Session.loadExecution id
  throw .riskRejected

def startSubmission (id : String) : Service TestnetSubmissionRecord := do
  transitionOrderExecution id .riskPassed "testnet_risk_passed"
  transitionOrderExecution id .submitted "testnet_order_submission_started"
  Session.commit
  discard <| Session.loadExecution id
  return { executionId := id, idempotentReplay := false }

def createOrGetTestnetSubmissionExecution (py : Platform) (userId : String)
    (context : TestnetOrderApiContext) : Service TestnetSubmissionRecord := do
  match ← Session.query (executionByClientOrderId context.order.clientOrderId) with
  | some row =>
    let existing ← Session.holdExecution row
    Handler.raiseIf
      (existing.userId ≠ userId ∨ existing.exchangeAccountId ≠ context.account.id ∨
        existing.exchangeName ≠ context.account.exchangeName.value)
      .idempotencyConflict
    return { executionId := existing.id, idempotentReplay := true }
  | none =>
    let id ← addSubmission py userId context
    let settings ← getOrCreateRiskSettings userId context.account.id
    let account ← Session.account context.account.id
    let result ← Handler.ofExcept <|
      checkOrderRisk account settings (submissionRiskInput py context) true
    discard <| Session.execution id
    Session.setExecution id fun change => { change with riskResult := some result.toDict }
    if result.decision ≠ .passed then rejectSubmission id result else startSubmission id

/-! ### Recording the answer of the exchange -/

def sensitiveResponseKeys : List String :=
  ["api_key", "apikey", "api_secret", "apisecret", "passphrase", "authorization", "signature",
    "sign"]

def isSensitiveKey (py : Platform) (key : String) : Bool :=
  sensitiveResponseKeys.contains
    (py.lower (String.ofList (key.toList.map fun c => if c = '-' then '_' else c)))

/-! `_safe_value`: mappings lose their sensitive keys at every depth. -/

mutual

def safeValue (py : Platform) : Json → Json
  | .obj fields => .obj (safeFields py fields)
  | .arr items => .arr (safeItems py items)
  | other => other

def safeFields (py : Platform) : List (String × Json) → List (String × Json)
  | [] => []
  | (key, value) :: rest =>
      if isSensitiveKey py key then safeFields py rest
      else (key, safeValue py value) :: safeFields py rest

def safeItems (py : Platform) : List Json → List Json
  | [] => []
  | item :: rest => safeValue py item :: safeItems py rest

end

/-- `value not in (None, 0, "0")` of a result code; `False` and floats equal to zero count as
zero. -/
def isErrorCode : Json → Bool
  | .null => false
  | .int value => value ≠ 0
  | .str value => value ≠ "0"
  | .bool value => value
  | .float repr => repr ≠ "0.0" ∧ repr ≠ "-0.0"
  | _ => true

/-- `_raise_for_exchange_rejection`; asking a value that is no mapping for a key raises. -/
def raiseForExchangeRejection (exchangeName : String) (response : Json) : Except Exc Unit :=
  match exchangeName, response with
  | "bybit", .obj fields =>
      if isErrorCode (Json.get fields "retCode") then
        .error (.exchangeOrderRejected "Bybit rejected the testnet order") else .ok ()
  | "okx", .obj fields =>
      if isErrorCode (Json.get fields "code") then
        .error (.exchangeOrderRejected "OKX rejected the testnet order") else .ok ()
  | "binance", .obj fields =>
      if isErrorCode (Json.get fields "code") then
        .error (.exchangeOrderRejected "Binance rejected the testnet order") else .ok ()
  | "bybit", _ | "okx", _ | "binance", _ => .error .attributeError
  | _, _ => .ok ()

/-- `_optional_text`. -/
def optionalText (py : Platform) : Json → Option String
  | .null => none
  | value =>
      let text := py.strip (py.strOf value)
      if text = "" then none else some text

def exchangeOrderIdText (py : Platform) (exchangeName : String) (response : Json) :
    Option String :=
  let fields := Json.mapping response
  match exchangeName with
  | "binance" => optionalText py (Json.get fields "orderId")
  | "bybit" => optionalText py (Json.get (Json.mapping (Json.get fields "result")) "orderId")
  | "okx" =>
      match Json.get fields "data" with
      | .arr (row :: _) => optionalText py (Json.get (Json.mapping row) "ordId")
      | _ => none
  | _ => none

/-- The columns `exchange_response` and `exchange_order_id` take the answer. -/
def takesAnswer (response : Json) (exchangeOrderId : Option String) : Bool :=
  isStorable response && exchangeOrderId.all (fitsColumn 120)

def recordTestnetSubmissionAccepted (py : Platform) (id : String) (exchangeResponse : Json) :
    Service OrderExecution := do
  let response := safeValue py exchangeResponse
  let execution ← Session.execution id
  Handler.ofExcept (raiseForExchangeRejection execution.exchangeName response)
  Handler.raiseIf (execution.status ≠ .submitted)
    (.invalidOrderStateTransition "testnet execution is not awaiting exchange acceptance")
  let exchangeOrderId := exchangeOrderIdText py execution.exchangeName response
  Session.refuseIf (¬ takesAnswer response exchangeOrderId)
  Session.setExecution id fun change =>
    { change with
      exchangeResponse := some response
      exchangeOrderId := exchangeOrderId.map some }
  transitionOrderExecution id .accepted "testnet_exchange_accepted"
    (.obj [("exchange", .str execution.exchangeName)])
  Session.commit
  Session.loadExecution id

def recordTestnetSubmissionFailure (id : String) (failureType : String) :
    Service OrderExecution := do
  let execution ← Session.execution id
  if execution.status ≠ .submitted then return execution
  else
    Session.setExecution id fun change =>
      { change with errorMessage := some (some "testnet exchange request failed") }
    transitionOrderExecution id .failed "testnet_exchange_request_failed"
      (.obj [("failure_type", .str failureType)])
    Session.commit
    Session.loadExecution id

/-! ### The request handler -/

structure TestnetOrderSubmitResponse where
  executionId : String
  orderStatus : OrderExecutionStatus
  idempotentReplay : Bool
  exchangeAccountId : String
  exchangeName : ExchangeName
  clientOrderId : String
  requestPath : String
  approvalAuditLogId : String
  approvalExpiresAt : Instant
  exchangeResponse : Json

def testnetOrderRequestPath : ExchangeName → Except Exc String
  | .binance => .ok "/api/v3/order"
  | .bybit => .ok "/v5/order/create"
  | .okx => .ok "/api/v5/trade/order"
  | .mock => .error .keyError

def testnetSubmitResponse (context : TestnetOrderApiContext) (execution : OrderExecution)
    (idempotentReplay : Bool) : Except Exc TestnetOrderSubmitResponse := do
  let requestPath ← testnetOrderRequestPath context.account.exchangeName
  return { executionId := execution.executionId, orderStatus := execution.status
           idempotentReplay, exchangeAccountId := context.account.id
           exchangeName := context.account.exchangeName
           clientOrderId := execution.clientOrderId, requestPath
           approvalAuditLogId := context.authorization.auditLogId
           approvalExpiresAt := context.authorization.expiresAt
           exchangeResponse :=
            if execution.exchangeResponse.isNull then .obj [] else execution.exchangeResponse }

/-- Ask the exchange for a submission that was just recorded, and record its answer. -/
def sendSubmission (py : Platform) (context : TestnetOrderApiContext) (id : String) :
    Service OrderExecution := do
  let httpClient ← createTestnetSignedHttpClient context.account.exchangeName
  let result ← executeTestnetOrder py context.order context.gateResult httpClient
    context.credentials context.account.id
  recordTestnetSubmissionAccepted py id result.exchangeResponse

def apiError (status : Nat) (detail : String) : Exc := .httpException status (.text detail)

/-- The `except` clauses, in source order. The clauses that record a failure do so only for
an execution that this request created. -/
def answerSubmitError {α : Type} (recordFailure : String → Service Unit) (raised : Exc) :
    Service α := do
  Handler.raiseIf (raised = .emergencyStopEnabled) (apiError 423 raised.message)
  Handler.raiseIf (raised.isValueError = true) (apiError 404 raised.message)
  match raised with
  | .idempotencyConflict => throw (apiError 409 raised.message)
  | .riskRejected => throw (apiError 400 raised.message)
  | .orderApiBlocked reasons => throw (.httpException 400 (.reasons reasons))
  | .rateLimitStoreUnavailable =>
    recordFailure "rate_limit_store_unavailable"
    throw (apiError 503 "testnet order rate limit service unavailable")
  | .rateLimitExceeded _ _ =>
    recordFailure "rate_limited"
    throw (apiError 429 "testnet order rate limit exceeded")
  | other =>
    if other.isRuntimeError then
      recordFailure "exchange_request_failed"
      throw (apiError 502 "testnet exchange request failed")
    else throw other

def recordNoFailure (_ : String) : Service Unit := pure ()

def recordFailureOf (id : String) (failureType : String) : Service Unit :=
  discard <| recordTestnetSubmissionFailure id failureType

/-- `POST /orders/testnet/submit`. The variable `submission` of the source is `None` until the
execution is recorded, so the clauses around the first part record no failure; a replay
returns before anything else can raise a recorded failure. -/
def submitTestnetOrder (py : Platform) (userId : String) (payload : TestnetOrderSubmitRequest)
    (testnetAdaptersEnabled : Bool) : Service TestnetOrderSubmitResponse := do
  let (context, submission) ← tryCatch
    (do
      assertNewOrdersAllowed
      let context ← buildTestnetOrderApiContext py userId payload testnetAdaptersEnabled
      let submission ← createOrGetTestnetSubmissionExecution py userId context
      return (context, submission))
    (answerSubmitError recordNoFailure)
  if submission.idempotentReplay then
    let execution ← Session.execution submission.executionId
    Handler.ofExcept (testnetSubmitResponse context execution true)
  else
    let execution ← tryCatch (sendSubmission py context submission.executionId)
      (answerSubmitError (recordFailureOf submission.executionId))
    Handler.ofExcept (testnetSubmitResponse context execution false)

end CopyTrading
