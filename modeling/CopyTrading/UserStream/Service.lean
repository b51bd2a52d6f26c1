import CopyTrading.Transaction.Answering
import CopyTrading.UserStream.Accounting
import CopyTrading.UserStream.Activation
import CopyTrading.UserStream.Classification

/-!
A bounded session on the private stream of a testnet account, as an administrator asks for it: the
checks, the plan, the consumer with the persisting event handler, and the audit row in the end.
-/

namespace CopyTrading

open Transaction

/-! ### Transports -/

/-- The transport of an exchange, told apart by the step it was created at. -/
structure TestnetWebSocketTransport where
  exchangeName : ExchangeName
  number : Nat

/-- What the connections do, by the step they are asked at. -/
structure WebSocketConnections where
  connect : Nat → Except Unit Unit
  send : Nat → Except Unit Unit
  receive : Nat → Except Unit (List (String × Json))
  close : Nat → Except Unit Unit

/-- `TestnetWebSocketTransport.connect`. -/
def TestnetWebSocketTransport.connect (transport : TestnetWebSocketTransport)
    (connections : WebSocketConnections) (step : Nat) (websocketUrl : String) : Except Unit Unit :=
  match isAllowedTestnetWebsocketUrl transport.exchangeName websocketUrl with
  | .ok true => connections.connect step
  | _ => .error ()

/-- What a consumer is answered that never stops, with the persisting handler. -/
def answerStreamCall (py : Platform) (userId exchangeAccountId : String)
    (connections : WebSocketConnections) :
    Answerer backend (streamEnvironment TestnetWebSocketTransport Exc) Session :=
  fun step call =>
    match call with
    | .shouldStop => fun s => .done (false, s)
    | .createTransport exchangeName => fun s => .done (⟨exchangeName, step⟩, s)
    | .connect transport websocketUrl => fun s =>
        .done (transport.connect connections step websocketUrl, s)
    | .sendJson _ _ => fun s => .done (connections.send step, s)
    | .receiveJson _ => fun s => .done (connections.receive step, s)
    | .close _ => fun s => .done (connections.close step, s)
    | .handle event => fun s =>
        (handleTestnetUserStreamEvent py userId exchangeAccountId event s).bind fun handled =>
          .done (handled.1.map fun _ => (), handled.2)
    | .sleep _ => fun s => .done ((), s)

/-! ### The service -/

structure TestnetUserStreamConsumeResult where
  exchangeAccountId : String
  exchangeName : ExchangeName
  status : TestnetUserStreamConsumerStatus
  messagesProcessed : Nat
  reconnectAttempts : Nat

inductive TestnetUserStreamConsumeError where
  | blocked (message : String)
  | stream (error : TestnetUserStreamError)
  /-- The call is longer than it is followed here. -/
  | unfinished

def TestnetUserStreamConsumerStatus.value : TestnetUserStreamConsumerStatus → String
  | .stopped => "STOPPED"
  | .messageLimitReached => "MESSAGE_LIMIT_REACHED"
  | .reconnectExhausted => "RECONNECT_EXHAUSTED"

/-- The consumer with one reconnect and the default backoff. -/
def boundedConsumer : TestnetUserStreamConsumer where
  maxReconnectAttempts := 1
  initialBackoffSeconds := 1
  maxBackoffSeconds := 30
  initial_pos := one_pos
  max_pos := Nat.cast_pos.mpr (Nat.succ_pos 29)

/-- The checks on the account, in source order. -/
def userStreamBlocked (account : Option ExchangeAccount) (testnetAdaptersEnabled : Bool) :
    Except String ExchangeAccount :=
  match account with
  | none => .error "testnet exchange account was not found"
  | some account =>
    if ¬ account.isActive then .error "testnet exchange account was not found"
    else if account.accountMode ≠ .testnet then .error "account mode must be TESTNET"
    else if account.exchangeName = .mock then .error "mock exchange has no private user stream"
    else if account.tradingEnabled then .error "trading must remain disabled"
    else if ¬ testnetAdaptersEnabled then .error "testnet adapters must be explicitly enabled"
    else .ok account

/-- The consumer reads the plan's stream; each message may be handled before the next is read. -/
def consumeUserStream (py : Platform) (userId exchangeAccountId : String)
    (connections : WebSocketConnections) (plan : TestnetUserStreamPlan) (maxMessages : Int) :
    Service (Except (StreamExit Exc) TestnetUserStreamConsumerResult) := fun s =>
  ((boundedConsumer.consume py plan.toTestnetUserStreamConnectionPlan (some maxMessages)
    (maxMessages.toNat + 2) ()).answeredBy
      (answerStreamCall py userId exchangeAccountId connections) () 0 s).bind fun consumed =>
        .done (.ok consumed.1.1, consumed.2)

def userStreamAction : String := "testnet.user_stream.consume.completed"

/-- The row `_write_audit` adds. -/
def userStreamLog (userId : String) (result : TestnetUserStreamConsumeResult) (id : String)
    (createdAt : Instant) : AuditLog where
  id := id
  userId := userId
  exchangeAccountId := some result.exchangeAccountId
  action := userStreamAction
  severity := if result.status ≠ .reconnectExhausted then "INFO" else "WARNING"
  payload :=
    [("exchange_name", .str result.exchangeName.value),
      ("account_mode", .str AccountMode.testnet.value), ("status", .str result.status.value),
      ("messages_processed", .int result.messagesProcessed),
      ("reconnect_attempts", .int result.reconnectAttempts)]
  createdAt := createdAt

def writeUserStreamAudit (userId : String) (result : TestnetUserStreamConsumeResult) :
    Service Unit := do
  let id ← ask .newUuid
  let createdAt ← ask .utcNow
  Session.add fun work =>
    { work with auditLogs := work.auditLogs ++ [userStreamLog userId result id createdAt] }
  Session.commit

/-- The part behind the plan. The attributes of the account are loaded again after the handler has
committed. -/
def consumeActivatedStream (py : Platform) (userId accountId : String)
    (connections : WebSocketConnections) (plan : TestnetUserStreamPlan) (maxMessages : Int) :
    Service (Except TestnetUserStreamConsumeError TestnetUserStreamConsumeResult) := do
  match ← consumeUserStream py userId accountId connections plan maxMessages with
  | .error (.handler raised) => throw raised
  | .error (.raised exc) => throw exc
  | .error .unfinished => return .error .unfinished
  | .ok consumed =>
    let account ← Session.account accountId
    let result : TestnetUserStreamConsumeResult :=
      { exchangeAccountId := account.id, exchangeName := account.exchangeName
        status := consumed.status, messagesProcessed := consumed.messagesProcessed
        reconnectAttempts := consumed.reconnectAttempts }
    writeUserStreamAudit userId result
    return .ok result

/-- `consume_bounded_testnet_user_stream`. -/
def consumeBoundedTestnetUserStream (py : Platform) (userId exchangeAccountId : String)
    (testnetAdaptersEnabled : Bool) (maxMessages : Int) (connections : WebSocketConnections) :
    Service (Except TestnetUserStreamConsumeError TestnetUserStreamConsumeResult) := do
  if maxMessages < 1 ∨ 20 < maxMessages then
    return .error (.blocked "max_messages must be between 1 and 20")
  let owned ← getOwnedAccount userId exchangeAccountId
  match userStreamBlocked owned testnetAdaptersEnabled with
  | .error message => return .error (.blocked message)
  | .ok account =>
    match ← getExchangeCredentials py userId exchangeAccountId with
    | none => return .error (.blocked "testnet API credentials are not configured")
    | some credentials =>
      let _client ← createTestnetSignedHttpClient account.exchangeName
      match buildTestnetUserStreamConnectionPlan py account.id account.exchangeName credentials with
      | .error raised => return .error (.stream raised)
      | .ok plan =>
        match ← activateTestnetUserStreamConnectionPlan py plan with
        | .error raised => return .error (.stream raised)
        | .ok activated =>
          consumeActivatedStream py userId account.id connections activated maxMessages

end CopyTrading
