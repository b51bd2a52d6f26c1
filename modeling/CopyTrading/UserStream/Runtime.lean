import CopyTrading.AccountState.Sync

/-!
The runtime of a private user stream: how a session is opened on a socket, and how a message is
classified before it is handed on.
-/

namespace CopyTrading

/-! ### Classifying a message -/

def binanceEventType (payload : List (String × Json)) : Except Exc TestnetUserStreamEventType :=
  match Json.get payload "e" with
  | .str name =>
    if name = "executionReport" ∨ name = "listStatus" then .ok .order
    else if name = "outboundAccountPosition" ∨ name = "balanceUpdate" then .ok .balance
    else .ok .unknown
  -- a list or a mapping is not hashable, so it cannot be looked up in a set
  | .arr _ | .obj _ => .error .typeError
  | _ => .ok .unknown

/-- `text.startswith(start)`. -/
def startsWith (text start : String) : Bool := start.toList.isPrefixOf text.toList

def bybitTopicType (topic : String) : TestnetUserStreamEventType :=
  if startsWith topic "order" || startsWith topic "execution" then .order
  else if startsWith topic "wallet" then .balance
  else if startsWith topic "position" then .position
  else .unknown

def bybitEventType (py : Platform) (payload : List (String × Json)) : TestnetUserStreamEventType :=
  bybitTopicType (py.strOf ((Json.lookup "topic" payload).getD (.str "")))

def okxEventType (payload : List (String × Json)) : TestnetUserStreamEventType :=
  match Json.get payload "arg" with
  | .obj arg =>
    match Json.get arg "channel" with
    | .str channel =>
      if channel = "orders" then .order
      else if channel = "account" then .balance
      else if channel = "positions" then .position
      else .unknown
    | _ => .unknown
  | _ => .unknown

/-- `_event_type`. -/
def userStreamEventType (py : Platform) (exchangeName : ExchangeName)
    (payload : List (String × Json)) : Except Exc TestnetUserStreamEventType :=
  match exchangeName with
  | .binance => binanceEventType payload
  | .bybit => .ok (bybitEventType py payload)
  | .okx => .ok (okxEventType payload)
  | .mock => .ok .unknown

def parseTestnetUserStreamEvent (py : Platform) (exchangeName : ExchangeName)
    (payload : List (String × Json)) : Except Exc TestnetUserStreamEvent := do
  let eventType ← userStreamEventType py exchangeName payload
  return { exchangeName, eventType, rawPayload := payload }

/-! ### Sockets -/

structure TestnetUserStreamConnectionPlan where
  exchangeAccountId : String
  exchangeName : ExchangeName
  websocketUrl : String
  websocketLoginMessage : Option (List (String × Json))

inductive TestnetUserStreamConnectionStatus where
  | connected
  | authenticated
  | failed
  deriving DecidableEq

structure TestnetUserStreamSession where
  exchangeAccountId : String
  exchangeName : ExchangeName
  websocketUrl : String
  status : TestnetUserStreamConnectionStatus

def TestnetUserStreamConnectionPlan.session (plan : TestnetUserStreamConnectionPlan)
    (status : TestnetUserStreamConnectionStatus) : TestnetUserStreamSession where
  exchangeAccountId := plan.exchangeAccountId
  exchangeName := plan.exchangeName
  websocketUrl := plan.websocketUrl
  status := status

/-- What a consumer asks of its environment, with transports of type `τ`. -/
inductive StreamCall (τ : Type) where
  | shouldStop
  | createTransport (exchangeName : ExchangeName)
  | connect (transport : τ) (websocketUrl : String)
  | sendJson (transport : τ) (payload : List (String × Json))
  | receiveJson (transport : τ)
  | close (transport : τ)
  | handle (event : TestnetUserStreamEvent)
  | sleep (seconds : ℚ)

/-- The answers. A transport does what it is asked or raises `TestnetWebSocketTransportError`, and
the event handler returns or raises anything. -/
@[reducible] def StreamCall.Answer {τ : Type} (η : Type) : StreamCall τ → Type
  | shouldStop => Bool
  | createTransport _ => τ
  | connect .. | sendJson .. | close _ => Except Unit Unit
  | receiveJson _ => Except Unit (List (String × Json))
  | handle _ => Except η Unit
  | sleep _ => Unit

open Transaction

/-- A consumer has no database of its own, and its environment may answer anything. -/
abbrev streamEnvironment (τ η : Type) : Interface where
  Store := Unit
  Work := Empty
  Fault := Empty
  Query := StreamCall τ
  Answer := StreamCall.Answer η

def streamSemantics (τ η : Type) : Semantics (streamEnvironment τ η) where
  flush work := nomatch work
  Answers _ _ _ _ := True

/-- How `consume` is left early. -/
inductive StreamExit (η : Type) where
  /-- By what the event handler has raised. -/
  | handler (raised : η)
  | raised (exc : Exc)
  /-- Not yet: the run is longer than it is followed here. -/
  | unfinished

abbrev Stream (τ η : Type) := Handler (streamEnvironment τ η) (StreamExit η) Unit

variable {τ η : Type}

def askStream (call : StreamCall τ) : Stream τ η (call.Answer η) :=
  @Handler.ask (streamEnvironment τ η) _ _ call

/-- `TestnetUserStreamRuntime.open_session`. -/
def openSession (plan : TestnetUserStreamConnectionPlan) (transport : τ) :
    Stream τ η TestnetUserStreamSession := do
  match ← askStream (.connect transport plan.websocketUrl) with
  | .error () => return plan.session .failed
  | .ok () =>
    match plan.websocketLoginMessage with
    | none => return plan.session .connected
    | some message =>
      match ← askStream (.sendJson transport message) with
      | .error () => return plan.session .failed
      | .ok () => return plan.session .authenticated

end CopyTrading
