import CopyTrading.UserStream.Runtime

/-!
The consumer of a private user stream: one transport after another is opened and read until it
fails, and a budget bounds how often it is opened again.
-/

namespace CopyTrading

open Transaction

/-! ### The consumer -/

/-- What `__init__` lets through. -/
structure TestnetUserStreamConsumer where
  maxReconnectAttempts : Nat
  initialBackoffSeconds : ℚ
  maxBackoffSeconds : ℚ
  initial_pos : 0 < initialBackoffSeconds
  max_pos : 0 < maxBackoffSeconds

inductive TestnetUserStreamConsumerStatus where
  | stopped
  | messageLimitReached
  | reconnectExhausted
  deriving DecidableEq

structure TestnetUserStreamConsumerResult where
  status : TestnetUserStreamConsumerStatus
  messagesProcessed : Nat
  reconnectAttempts : Nat

/-- Why the messages of a connection are no longer read. -/
inductive ReceiveEnd where
  | stopped
  | connectionFailed
  | limitReached
  deriving DecidableEq

variable {τ η : Type}

/-- `_close_transport`, which suppresses what closing raises. -/
def closeTransport (transport : τ) : Stream τ η Unit := discard (askStream (.close transport))

/-- A `finally` that closes the transport. -/
def finallyClose {α : Type} (transport : τ) (body : Stream τ η α) : Stream τ η α := do
  let value ← tryCatch body fun
    | .unfinished => throw .unfinished
    | raised => do
      closeTransport transport
      throw raised
  closeTransport transport
  return value

/-- The power is an `int`; one that no `float` holds cannot be multiplied with the seconds. -/
def TestnetUserStreamConsumer.backoff (consumer : TestnetUserStreamConsumer)
    (reconnectAttempt : Nat) : Except Exc ℚ :=
  if 1024 ≤ reconnectAttempt - 1 then .error .arithmeticError
  else .ok (min (consumer.initialBackoffSeconds * 2 ^ (reconnectAttempt - 1))
    consumer.maxBackoffSeconds)

/-- `_sleep_before_reconnect`. -/
def sleepBeforeReconnect (consumer : TestnetUserStreamConsumer) (reconnectAttempt : Nat) :
    Stream τ η Unit :=
  match consumer.backoff reconnectAttempt with
  | .error exc => throw (.raised exc)
  | .ok delay => askStream (.sleep delay)

def limitReached (maxMessages : Option Int) (messagesProcessed : Nat) : Bool :=
  maxMessages.any fun limit => decide (limit ≤ (messagesProcessed : Int))

/-- `while not self._should_stop()`: the messages of one connection. -/
def receiveMessages (py : Platform) (exchangeName : ExchangeName) (maxMessages : Option Int)
    (transport : τ) : Nat → Nat → Stream τ η (Nat × ReceiveEnd)
  | 0, _ => throw .unfinished
  | fuel + 1, messagesProcessed => do
    let stop : Bool ← askStream .shouldStop
    if stop then return (messagesProcessed, .stopped)
    match ← askStream (.receiveJson transport) with
    | .error () => return (messagesProcessed, .connectionFailed)
    | .ok payload =>
      match parseTestnetUserStreamEvent py exchangeName payload with
      | .error exc => throw (.raised exc)
      | .ok event =>
        match ← askStream (.handle event) with
        | .error raised => throw (.handler raised)
        | .ok () =>
          if limitReached maxMessages (messagesProcessed + 1) then
            return (messagesProcessed + 1, .limitReached)
          else
            receiveMessages py exchangeName maxMessages transport fuel (messagesProcessed + 1)

/-- `while True`: one connection after another. -/
def consumeConnections (py : Platform) (consumer : TestnetUserStreamConsumer)
    (plan : TestnetUserStreamConnectionPlan) (maxMessages : Option Int) :
    Nat → Nat → Nat → Stream τ η TestnetUserStreamConsumerResult
  | 0, _, _ => throw .unfinished
  | fuel + 1, messagesProcessed, reconnectAttempts => do
    let stop : Bool ← askStream .shouldStop
    if stop then return ⟨.stopped, messagesProcessed, reconnectAttempts⟩
    let transport : τ ← askStream (.createTransport plan.exchangeName)
    let session ← openSession plan transport
    if session.status = .failed then
      closeTransport transport
      if consumer.maxReconnectAttempts ≤ reconnectAttempts then
        return ⟨.reconnectExhausted, messagesProcessed, reconnectAttempts⟩
      sleepBeforeReconnect consumer (reconnectAttempts + 1)
      consumeConnections py consumer plan maxMessages fuel messagesProcessed
        (reconnectAttempts + 1)
    else
      let (messagesProcessed, ended) ← finallyClose transport
        (receiveMessages py plan.exchangeName maxMessages transport fuel messagesProcessed)
      if ended = .limitReached then
        return ⟨.messageLimitReached, messagesProcessed, reconnectAttempts⟩
      let stop : Bool ← askStream .shouldStop
      if stop then return ⟨.stopped, messagesProcessed, reconnectAttempts⟩
      if ended ≠ .connectionFailed then
        return ⟨.stopped, messagesProcessed, reconnectAttempts⟩
      if consumer.maxReconnectAttempts ≤ reconnectAttempts then
        return ⟨.reconnectExhausted, messagesProcessed, reconnectAttempts⟩
      sleepBeforeReconnect consumer (reconnectAttempts + 1)
      consumeConnections py consumer plan maxMessages fuel messagesProcessed
        (reconnectAttempts + 1)

/-- `TestnetUserStreamConsumer.consume`; the fuel bounds the passes through either loop. -/
def TestnetUserStreamConsumer.consume (py : Platform) (consumer : TestnetUserStreamConsumer)
    (plan : TestnetUserStreamConnectionPlan) (maxMessages : Option Int) (fuel : Nat) :
    Stream τ η TestnetUserStreamConsumerResult := do
  Handler.raiseIf (maxMessages.any (· ≤ 0) = true)
    (.raised (.valueError "max_messages must be positive"))
  consumeConnections py consumer plan maxMessages fuel 0 0

end CopyTrading
