import CopyTrading.Environment
import CopyTrading.UserStream.Consumer

/-!
What a consumer does over a whole run, whatever its environment answers: it opens no more
transports than its budget allows, closes each of them once, and counts what it has done.
-/

namespace CopyTrading

open Transaction Transaction.Handler

variable {τ η : Type}

/-! ### Events of a run -/

abbrev StreamEvent (τ η : Type) := Event (streamEnvironment τ η)

def createdTransport : StreamEvent τ η → Option τ
  | .call (.createTransport _) transport _ _ => some transport
  | _ => none

def closedTransport : StreamEvent τ η → Option τ
  | .call (.close transport) _ _ _ => some transport
  | _ => none

/-- The event handler has returned. -/
def isHandled : StreamEvent τ η → Bool
  | .call (.handle _) (.ok ()) _ _ => true
  | _ => false

def sleptSeconds : StreamEvent τ η → Option ℚ
  | .call (.sleep seconds) _ _ _ => some seconds
  | _ => none

/-- A connect, a login or a receive has raised. -/
def isConnectionFailure : StreamEvent τ η → Bool
  | .call (.connect _ _) (.error ()) _ _ => true
  | .call (.sendJson _ _) (.error ()) _ _ => true
  | .call (.receiveJson _) (.error ()) _ _ => true
  | _ => false

/-- The delay before the attempt after `attempts` ones. -/
def TestnetUserStreamConsumer.delay (consumer : TestnetUserStreamConsumer) (attempts : Nat) : ℚ :=
  min (consumer.initialBackoffSeconds * 2 ^ attempts) consumer.maxBackoffSeconds

/-! ### The protocol -/

/-- Where a consumer stands, with the messages it has processed and the attempts it has made. -/
inductive ConsumerPhase (τ : Type) where
  | waiting (processed attempts : Nat)
  /-- A transport is open; when it is broken it is only closed. -/
  | opened (transport : τ) (broken : Bool) (processed attempts : Nat)
  | shut (broken : Bool) (processed attempts : Nat)

namespace ConsumerPhase

def processed : ConsumerPhase τ → Nat
  | waiting processed _ | opened _ _ processed _ | shut _ processed _ => processed

def attempts : ConsumerPhase τ → Nat
  | waiting _ attempts | opened _ _ _ attempts | shut _ _ attempts => attempts

def open? : ConsumerPhase τ → Option τ
  | opened transport .. => some transport
  | waiting .. | shut .. => none

/-- The transports that were created. -/
def creations : ConsumerPhase τ → Nat
  | waiting _ attempts => attempts
  | opened _ _ _ attempts | shut _ _ attempts => attempts + 1

def broken : ConsumerPhase τ → Bool
  | waiting .. => false
  | opened _ broken .. | shut broken .. => broken

end ConsumerPhase

/-- The transport does as asked, or it is broken from there on. -/
def brokenBy {α : Type} : Except Unit α → Bool
  | .ok _ => false
  | .error () => true

open ConsumerPhase in
inductive ConsumerMove (consumer : TestnetUserStreamConsumer) (maxMessages : Option Int) :
    ConsumerPhase τ → StreamEvent τ η → ConsumerPhase τ → Prop where
  | poll {phase : ConsumerPhase τ} {stop : Bool} :
      ConsumerMove consumer maxMessages phase (.call .shouldStop stop () ()) phase
  | create {exchangeName : ExchangeName} {transport : τ} {processed attempts : Nat} :
      ConsumerMove consumer maxMessages (waiting processed attempts)
        (.call (.createTransport exchangeName) transport () ())
        (opened transport false processed attempts)
  | connect {websocketUrl : String} {transport : τ} {reply : Except Unit Unit}
      {processed attempts : Nat} :
      ConsumerMove consumer maxMessages (opened transport false processed attempts)
        (.call (.connect transport websocketUrl) reply () ())
        (opened transport (brokenBy reply) processed attempts)
  | login {payload : List (String × Json)} {transport : τ} {reply : Except Unit Unit}
      {processed attempts : Nat} :
      ConsumerMove consumer maxMessages (opened transport false processed attempts)
        (.call (.sendJson transport payload) reply () ())
        (opened transport (brokenBy reply) processed attempts)
  | receive {transport : τ} {reply : Except Unit (List (String × Json))}
      {processed attempts : Nat} :
      ConsumerMove consumer maxMessages (opened transport false processed attempts)
        (.call (.receiveJson transport) reply () ())
        (opened transport (brokenBy reply) processed attempts)
  | handle {event : TestnetUserStreamEvent} {transport : τ} {processed attempts : Nat}
      (below : limitReached maxMessages processed = false) :
      ConsumerMove consumer maxMessages (opened transport false processed attempts)
        (.call (.handle event) (.ok ()) () ()) (opened transport false (processed + 1) attempts)
  | refuse {event : TestnetUserStreamEvent} {raised : η} {phase : ConsumerPhase τ} :
      ConsumerMove consumer maxMessages phase (.call (.handle event) (.error raised) () ()) phase
  | close {transport : τ} {reply : Except Unit Unit} {broken : Bool} {processed attempts : Nat} :
      ConsumerMove consumer maxMessages (opened transport broken processed attempts)
        (.call (.close transport) reply () ()) (shut broken processed attempts)
  | sleep {processed attempts : Nat} (budget : attempts < consumer.maxReconnectAttempts) :
      ConsumerMove consumer maxMessages (shut true processed attempts)
        (.call (.sleep (consumer.delay attempts)) () () ()) (waiting processed (attempts + 1))

abbrev consumerProtocol (τ η : Type) (consumer : TestnetUserStreamConsumer)
    (maxMessages : Option Int) : Protocol (streamEnvironment τ η) where
  Phase := ConsumerPhase τ
  Move := ConsumerMove consumer maxMessages

/-! ### The books of a run -/

variable {consumer : TestnetUserStreamConsumer} {maxMessages : Option Int}

/-- What the events of a run say of the phase it is in. -/
structure Books (consumer : TestnetUserStreamConsumer) (maxMessages : Option Int)
    (trace : List (StreamEvent τ η)) (phase : ConsumerPhase τ) : Prop where
  closings : trace.filterMap createdTransport =
    trace.filterMap closedTransport ++ phase.open?.toList
  creations : (trace.filterMap createdTransport).length = phase.creations
  budget : phase.attempts ≤ consumer.maxReconnectAttempts
  handled : trace.countP isHandled = phase.processed
  limit : ∀ limit, maxMessages = some limit → phase.processed ≤ limit.toNat
  slept : trace.filterMap sleptSeconds = (List.range phase.attempts).map consumer.delay
  failed : phase.broken = true → ∃ front failure back, trace = front ++ failure :: back ∧
    isConnectionFailure failure = true ∧ back.filterMap createdTransport = []

theorem Books.start : Books (η := η) consumer maxMessages [] (.waiting (τ := τ) 0 0) where
  closings := rfl
  creations := rfl
  budget := Nat.zero_le _
  handled := rfl
  limit _ _ := Nat.zero_le _
  slept := rfl
  failed h := nomatch h

section Step

theorem filterMap_snoc_none {α β : Type} {f : α → Option β} {front : List α} {last : α}
    (none : f last = none) : (front ++ [last]).filterMap f = front.filterMap f := by
  simp [List.filterMap_append, none]

theorem filterMap_snoc_some {α β : Type} {f : α → Option β} {front : List α} {last : α} {b : β}
    (some : f last = some b) : (front ++ [last]).filterMap f = front.filterMap f ++ [b] := by
  simp [List.filterMap_append, some]

theorem countP_snoc_false {α : Type} {p : α → Bool} {front : List α} {last : α}
    (other : p last = false) : (front ++ [last]).countP p = front.countP p := by
  simp [List.countP_append, other]

variable {trace : List (StreamEvent τ η)} {phase phase' : ConsumerPhase τ} {e : StreamEvent τ η}

/-- A phase stays broken while no transport is created. -/
theorem Books.failed_after (books : Books consumer maxMessages trace phase)
    (kept : phase'.broken = true → phase.broken = true ∨ isConnectionFailure e = true)
    (same : createdTransport e = none) (broken : phase'.broken = true) :
    ∃ front failure back, trace ++ [e] = front ++ failure :: back ∧
      isConnectionFailure failure = true ∧ back.filterMap createdTransport = [] := by
  rcases kept broken with before | now
  · obtain ⟨front, failure, back, rfl, failure_eq, none⟩ := books.failed before
    refine ⟨front, failure, back ++ [e], by simp, failure_eq, ?_⟩
    rw [filterMap_snoc_none same, none]
  · exact ⟨trace, e, [], rfl, now, rfl⟩

/-- An event that only tells whether the connection works. -/
theorem Books.observe (books : Books consumer maxMessages trace phase)
    (created : createdTransport e = none) (closed : closedTransport e = none)
    (handled : isHandled e = false) (slept : sleptSeconds e = none)
    (open? : phase'.open? = phase.open?) (creations : phase'.creations = phase.creations)
    (processed : phase'.processed = phase.processed) (attempts : phase'.attempts = phase.attempts)
    (kept : phase'.broken = true → phase.broken = true ∨ isConnectionFailure e = true) :
    Books consumer maxMessages (trace ++ [e]) phase' where
  closings := by
    rw [filterMap_snoc_none created, filterMap_snoc_none closed, books.closings, open?]
  creations := by rw [filterMap_snoc_none created, books.creations, creations]
  budget := attempts ▸ books.budget
  handled := by rw [countP_snoc_false handled, books.handled, processed]
  limit := processed ▸ books.limit
  slept := by rw [filterMap_snoc_none slept, books.slept, attempts]
  failed := books.failed_after kept created

/-- The step lemma. -/
theorem Books.step (books : Books consumer maxMessages trace phase)
    (move : ConsumerMove consumer maxMessages phase e phase') :
    Books consumer maxMessages (trace ++ [e]) phase' := by
  cases move with
  | poll | refuse => exact books.observe rfl rfl rfl rfl rfl rfl rfl rfl .inl
  | @connect _ _ reply | @login _ _ reply =>
    refine books.observe rfl rfl rfl rfl rfl rfl rfl rfl fun broken => .inr ?_
    cases reply with
    | ok _ => cases broken
    | error _ => rfl
  | @receive _ reply =>
    refine books.observe rfl rfl rfl rfl rfl rfl rfl rfl fun broken => .inr ?_
    cases reply with
    | ok _ => cases broken
    | error _ => rfl
  | @create exchangeName transport processed attempts =>
    constructor
    · rw [@filterMap_snoc_some _ _ createdTransport _ _ transport rfl, filterMap_snoc_none rfl,
        books.closings]
      exact List.append_assoc _ [] [transport]
    · rw [@filterMap_snoc_some _ _ createdTransport _ _ transport rfl, List.length_append,
        books.creations]
      rfl
    · exact books.budget
    · exact (countP_snoc_false rfl).trans books.handled
    · exact books.limit
    · exact (filterMap_snoc_none rfl).trans books.slept
    · exact fun broken => nomatch broken
  | @handle event transport processed attempts below =>
    constructor
    · rw [filterMap_snoc_none rfl, filterMap_snoc_none rfl]
      exact books.closings
    · exact (congrArg List.length (filterMap_snoc_none rfl)).trans books.creations
    · exact books.budget
    · rw [List.countP_append, books.handled]
      rfl
    · rintro limit rfl
      simp only [limitReached, Option.any_some, decide_eq_false_iff_not, not_le] at below
      simp only [ConsumerPhase.processed]
      omega
    · exact (filterMap_snoc_none rfl).trans books.slept
    · exact fun broken => nomatch broken
  | @close transport reply broken processed attempts =>
    constructor
    · rw [filterMap_snoc_none rfl, @filterMap_snoc_some _ _ closedTransport _ _ transport rfl,
        books.closings]
      exact (List.append_nil _).symm
    · exact (congrArg List.length (filterMap_snoc_none rfl)).trans books.creations
    · exact books.budget
    · exact (countP_snoc_false rfl).trans books.handled
    · exact books.limit
    · exact (filterMap_snoc_none rfl).trans books.slept
    · exact books.failed_after .inl rfl
  | @sleep processed attempts budget =>
    constructor
    · rw [filterMap_snoc_none rfl, filterMap_snoc_none rfl]
      exact books.closings
    · exact (congrArg List.length (filterMap_snoc_none rfl)).trans books.creations
    · exact budget
    · exact (countP_snoc_false rfl).trans books.handled
    · exact books.limit
    · rw [@filterMap_snoc_some _ _ sleptSeconds _ _ (consumer.delay attempts) rfl, books.slept]
      simp only [ConsumerPhase.attempts, List.range_succ, List.map_append, List.map_cons,
        List.map_nil]
    · exact fun broken => nomatch broken

end Step

/-! ### The consumer follows the protocol -/

theorem follows_askStream_bind {β : Type} {P : Protocol (streamEnvironment τ η)}
    {call : StreamCall τ} {next : call.Answer η → Stream τ η β}
    {post : Except (StreamExit η) β → Unit → P.Phase → Prop} {s : Unit} {phase : P.Phase} :
    Follows P (streamSemantics τ η) (askStream call >>= next) post s phase ↔
      ∀ answer, ∃ phase', P.Move phase (.call call answer () ()) phase' ∧
        Follows P (streamSemantics τ η) (next answer) post s phase' := by
  constructor
  · intro follows answer
    exact follows () answer () True.intro
  · intro follows _ answer _ _
    exact follows answer

section Follows

variable {py : Platform} {plan : TestnetUserStreamConnectionPlan} {transport : τ}
  {processed attempts fuel : Nat}

/-- How the messages of a connection are left: while they are read the transport stays open. -/
def Received (transport : τ) (maxMessages : Option Int) (processed attempts fuel : Nat) :
    Except (StreamExit η) (Nat × ReceiveEnd) → Unit → ConsumerPhase τ → Prop
  | .ok (processed', ended), _, phase =>
      phase = .opened transport (decide (ended = .connectionFailed)) processed' attempts ∧
        processed ≤ processed' ∧
        (ended ≠ .limitReached → limitReached maxMessages processed' = false)
  | .error .unfinished, _, phase => phase = .opened transport false (processed + fuel) attempts
  | .error _, _, phase => ∃ processed', phase = .opened transport false processed' attempts

theorem receiveMessages_follows {exchangeName : ExchangeName}
    (below : limitReached maxMessages processed = false) :
    Follows (consumerProtocol τ η consumer maxMessages) (streamSemantics τ η)
      (receiveMessages py exchangeName maxMessages transport fuel processed)
      (Received transport maxMessages processed attempts fuel) ()
      (.opened transport false processed attempts) := by
  induction fuel generalizing processed with
  | zero => exact rfl
  | succ fuel ih =>
    unfold receiveMessages
    refine follows_askStream_bind.mpr fun stop => ⟨_, .poll, ?_⟩
    cases stop with
    | true => exact ⟨rfl, le_rfl, fun _ => below⟩
    | false =>
      refine follows_askStream_bind.mpr fun reply => ⟨_, .receive, ?_⟩
      cases reply with
      | error _ => exact ⟨rfl, le_rfl, fun _ => below⟩
      | ok payload =>
        dsimp only
        cases parseTestnetUserStreamEvent py exchangeName payload with
        | error exc => exact ⟨processed, rfl⟩
        | ok event =>
          refine follows_askStream_bind.mpr fun answer => ?_
          cases answer with
          | error raised => exact ⟨_, .refuse, processed, rfl⟩
          | ok _ =>
            refine ⟨_, .handle below, ?_⟩
            dsimp only
            by_cases reached : limitReached maxMessages (processed + 1) = true
            · rw [if_pos reached]
              exact ⟨rfl, Nat.le_succ _, fun other => absurd rfl other⟩
            · rw [if_neg reached]
              refine Follows.mono (ih (by simpa using reached)) ?_
              rintro (raised | outcome) _ phase ends
              · cases raised with
                | unfinished => exact ends.trans (by rw [Nat.add_right_comm, Nat.add_assoc])
                | handler | raised => exact ends
              · obtain ⟨rfl, more, kept⟩ := ends
                exact ⟨rfl, (Nat.le_succ _).trans more, kept⟩

theorem openSession_follows :
    Follows (consumerProtocol τ η consumer maxMessages) (streamSemantics τ η)
      (openSession plan transport)
      (fun outcome _ phase => ∃ session, outcome = .ok session ∧
        phase = .opened transport (decide (session.status = .failed)) processed attempts) ()
      (.opened transport false processed attempts) := by
  unfold openSession
  refine follows_askStream_bind.mpr fun reply => ⟨_, .connect, ?_⟩
  cases reply with
  | error _ => exact ⟨_, rfl, rfl⟩
  | ok _ =>
    cases hmessage : plan.websocketLoginMessage with
    | none => exact ⟨_, rfl, rfl⟩
    | some message =>
      refine follows_askStream_bind.mpr fun reply => ⟨_, .login, ?_⟩
      cases reply with
      | error _ => exact ⟨_, rfl, rfl⟩
      | ok _ => exact ⟨_, rfl, rfl⟩

theorem follows_closeTransport_bind {β : Type} {next : Unit → Stream τ η β} {broken : Bool}
    {post : Except (StreamExit η) β → Unit → ConsumerPhase τ → Prop}
    (rest : Follows (consumerProtocol τ η consumer maxMessages) (streamSemantics τ η) (next ())
      post () (.shut broken processed attempts)) :
    Follows (consumerProtocol τ η consumer maxMessages) (streamSemantics τ η)
      (closeTransport transport >>= next) post ()
      (.opened transport broken processed attempts) := by
  unfold closeTransport
  rw [Handler.discard_bind]
  exact follows_askStream_bind.mpr fun reply => ⟨_, .close, rest⟩

/-- The same once the transport is closed. -/
def ReceivedAndClosed (transport : τ) (maxMessages : Option Int)
    (processed attempts fuel : Nat) :
    Except (StreamExit η) (Nat × ReceiveEnd) → Unit → ConsumerPhase τ → Prop
  | .ok (processed', ended), _, phase =>
      phase = .shut (decide (ended = .connectionFailed)) processed' attempts ∧
        processed ≤ processed' ∧
        (ended ≠ .limitReached → limitReached maxMessages processed' = false)
  | .error .unfinished, _, phase => phase = .opened transport false (processed + fuel) attempts
  | .error _, _, phase => ∃ processed', phase = .shut false processed' attempts

theorem finallyClose_follows {exchangeName : ExchangeName}
    (below : limitReached maxMessages processed = false) :
    Follows (consumerProtocol τ η consumer maxMessages) (streamSemantics τ η)
      (finallyClose transport
        (receiveMessages py exchangeName maxMessages transport fuel processed))
      (ReceivedAndClosed transport maxMessages processed attempts fuel) ()
      (.opened transport false processed attempts) := by
  unfold finallyClose
  refine Follows.bind (M := fun (outcome : Except (StreamExit η) (Nat × ReceiveEnd)) s phase =>
    match outcome with
    | .ok received => Received (η := η) transport maxMessages processed attempts fuel
        (.ok received) s phase
    | .error raised => ReceivedAndClosed transport maxMessages processed attempts fuel
        (.error raised) s phase) ?_ ?_ fun _ _ _ ends => ends
  · refine Follows.tryCatch _ (receiveMessages_follows below) (fun _ _ _ ends => ends) ?_
    rintro raised _ phase ends
    cases raised with
    | unfinished => exact ends
    | handler | raised =>
      obtain ⟨processed', rfl⟩ := ends
      exact follows_closeTransport_bind ⟨processed', rfl⟩
  · rintro ⟨processed', ended⟩ _ phase ⟨rfl, kept⟩
    exact follows_closeTransport_bind ⟨rfl, kept⟩

theorem backoff_succ (consumer : TestnetUserStreamConsumer) (attempts : Nat) :
    consumer.backoff (attempts + 1) = .error .arithmeticError ∨
      consumer.backoff (attempts + 1) = .ok (consumer.delay attempts) := by
  unfold TestnetUserStreamConsumer.backoff
  rw [Nat.add_sub_cancel]
  split
  · exact .inl rfl
  · exact .inr rfl

theorem follows_sleepBeforeReconnect_bind {β : Type} {next : Unit → Stream τ η β}
    {post : Except (StreamExit η) β → Unit → ConsumerPhase τ → Prop}
    (budget : attempts < consumer.maxReconnectAttempts)
    (overflow : post (.error (.raised .arithmeticError)) () (.shut true processed attempts))
    (rest : Follows (consumerProtocol τ η consumer maxMessages) (streamSemantics τ η) (next ())
      post () (.waiting processed (attempts + 1))) :
    Follows (consumerProtocol τ η consumer maxMessages) (streamSemantics τ η)
      (sleepBeforeReconnect consumer (attempts + 1) >>= next) post ()
      (.shut true processed attempts) := by
  unfold sleepBeforeReconnect
  rcases backoff_succ consumer attempts with raises | returns
  · rw [raises]
    exact overflow
  · rw [returns]
    exact follows_askStream_bind.mpr fun _ => ⟨_, .sleep budget, rest⟩

/-- How a call ends: no transport is open, and what is returned was counted. A call that has not
ended has made as many passes as it was followed for. -/
def ConsumerEnds (consumer : TestnetUserStreamConsumer) (passes : Nat) :
    Except (StreamExit η) TestnetUserStreamConsumerResult → Unit → ConsumerPhase τ → Prop
  | .ok result, _, phase => phase.open? = none ∧ result.messagesProcessed = phase.processed ∧
      result.reconnectAttempts = phase.attempts ∧
      (result.status = .reconnectExhausted →
        phase.broken = true ∧ consumer.maxReconnectAttempts ≤ phase.attempts)
  | .error .unfinished, _, phase => passes ≤ phase.processed + phase.attempts + 1
  | .error _, _, phase => phase.open? = none

theorem consumeConnections_follows (below : limitReached maxMessages processed = false) :
    Follows (consumerProtocol τ η consumer maxMessages) (streamSemantics τ η)
      (consumeConnections py consumer plan maxMessages fuel processed attempts)
      (ConsumerEnds consumer (processed + attempts + fuel)) () (.waiting processed attempts) := by
  induction fuel generalizing processed attempts with
  | zero => exact Nat.le_succ _
  | succ fuel ih =>
    unfold consumeConnections
    refine follows_askStream_bind.mpr fun stop => ⟨_, .poll, ?_⟩
    cases stop with
    | true => exact ⟨rfl, rfl, rfl, fun other => nomatch other⟩
    | false =>
      refine follows_askStream_bind.mpr fun transport => ⟨_, .create, ?_⟩
      refine openSession_follows.bind ?_ ?_
      swap
      · rintro raised _ phase ⟨session, heq, -⟩
        cases heq
      rintro session _ phase ⟨_, ⟨⟩, rfl⟩
      -- the pass that follows a failed connection
      have again : ∀ {processed' : Nat}, limitReached maxMessages processed' = false →
          processed ≤ processed' →
          Follows (consumerProtocol τ η consumer maxMessages) (streamSemantics τ η)
            (if consumer.maxReconnectAttempts ≤ attempts then
              pure ⟨.reconnectExhausted, processed', attempts⟩
            else do
              sleepBeforeReconnect consumer (attempts + 1)
              consumeConnections py consumer plan maxMessages fuel processed' (attempts + 1))
            (ConsumerEnds consumer (processed + attempts + (fuel + 1))) ()
            (.shut true processed' attempts) := by
        intro processed' below' more
        by_cases exhausted : consumer.maxReconnectAttempts ≤ attempts
        · rw [if_pos exhausted]
          exact ⟨rfl, rfl, rfl, fun _ => ⟨rfl, exhausted⟩⟩
        · rw [if_neg exhausted]
          refine follows_sleepBeforeReconnect_bind (not_le.mp exhausted) rfl ?_
          refine Follows.mono (ih below') ?_
          rintro (raised | result) _ phase ends
          · cases raised with
            | unfinished => exact le_trans (by omega) ends
            | handler | raised => exact ends
          · exact ends
      by_cases failed : session.status = .failed
      · rw [if_pos failed, decide_eq_true failed]
        exact follows_closeTransport_bind (again below le_rfl)
      · rw [if_neg failed, decide_eq_false failed]
        refine (finallyClose_follows below).bind ?_ ?_
        · rintro ⟨processed', ended⟩ _ phase ⟨rfl, more, kept⟩
          dsimp only
          by_cases limited : ended = .limitReached
          · rw [if_pos limited]
            exact ⟨rfl, rfl, rfl, fun other => nomatch other⟩
          rw [if_neg limited]
          refine follows_askStream_bind.mpr fun stop => ⟨_, .poll, ?_⟩
          cases stop with
          | true => exact ⟨rfl, rfl, rfl, fun other => nomatch other⟩
          | false =>
            by_cases broken : ended = .connectionFailed
            · rw [if_neg (not_not.mpr broken), decide_eq_true broken]
              exact again (kept limited) more
            · rw [if_pos broken]
              exact ⟨rfl, rfl, rfl, fun other => nomatch other⟩
        · rintro raised _ phase ends
          cases raised with
          | unfinished =>
            rw [show phase = .opened transport false (processed + fuel) attempts from ends]
            change processed + attempts + (fuel + 1) ≤ processed + fuel + attempts + 1
            omega
          | handler | raised =>
            obtain ⟨processed', rfl⟩ := ends
            exact rfl

theorem consume_follows :
    Follows (consumerProtocol τ η consumer maxMessages) (streamSemantics τ η)
      (consumer.consume py plan maxMessages fuel) (ConsumerEnds consumer fuel) () (.waiting 0 0) := by
  unfold TestnetUserStreamConsumer.consume
  refine follows_raiseIf_bind (fun _ => rfl) fun positive => ?_
  have below : limitReached maxMessages 0 = false := by
    simpa [limitReached] using positive
  have follows := @consumeConnections_follows τ η consumer maxMessages py plan 0 0 fuel below
  rwa [Nat.zero_add] at follows

end Follows

/-! ### The accounts of a call -/

theorem handled_add_slept_le (trace : List (StreamEvent τ η)) :
    trace.countP isHandled + (trace.filterMap sleptSeconds).length ≤ trace.length := by
  induction trace with
  | nil => exact Nat.le_refl _
  | cons e rest ih =>
    have once : isHandled e = true → sleptSeconds e = none := by
      intro handled
      unfold isHandled at handled
      split at handled
      · rfl
      · cases handled
    rw [List.countP_cons, List.length_cons]
    cases slept : sleptSeconds e with
    | none =>
      rw [List.filterMap_cons_none slept]
      split <;> omega
    | some seconds =>
      rw [List.filterMap_cons_some slept, List.length_cons, if_neg fun handled => ?_]
      · omega
      · cases (once handled).symm.trans slept

/-- What is true of a call whose environment has answered as the trace says. -/
structure Accounts (consumer : TestnetUserStreamConsumer) (maxMessages : Option Int) (fuel : Nat)
    (trace : List (StreamEvent τ η))
    (outcome : Except (StreamExit η) TestnetUserStreamConsumerResult) : Prop where
  /-- The fuel does not end a call that has made fewer passes. -/
  followed : trace.length + 1 < fuel → outcome ≠ .error .unfinished
  creations : (trace.filterMap createdTransport).length ≤ consumer.maxReconnectAttempts + 1
  closings : outcome ≠ .error .unfinished →
    trace.filterMap closedTransport = trace.filterMap createdTransport
  limit : ∀ limit, maxMessages = some limit → trace.countP isHandled ≤ limit.toNat
  processed : ∀ result, outcome = .ok result →
    result.messagesProcessed = trace.countP isHandled
  slept : ∀ result, outcome = .ok result →
    trace.filterMap sleptSeconds = (List.range result.reconnectAttempts).map consumer.delay
  exhausted : ∀ result, outcome = .ok result → result.status = .reconnectExhausted →
    result.reconnectAttempts = consumer.maxReconnectAttempts ∧
      ∃ front failure back, trace = front ++ failure :: back ∧
        isConnectionFailure failure = true ∧ back.filterMap createdTransport = []

/-- Whatever the transports, the handler and the stop flag do: a call opens at most one transport
more than its budget, closes every transport it has opened once, whichever way it ends, and
returns what it has counted. -/
theorem consume_accounts {py : Platform} {plan : TestnetUserStreamConnectionPlan} {fuel : Nat}
    {trace : List (StreamEvent τ η)}
    {outcome : Except (StreamExit η) TestnetUserStreamConsumerResult} {s w : Unit}
    (ran : Prog.Run (streamSemantics τ η) (consumer.consume py plan maxMessages fuel ()) () trace
      (.done (outcome, s)) w) : Accounts consumer maxMessages fuel trace outcome := by
  obtain ⟨phase, path, ends⟩ := ran.path consume_follows
  have books : Books consumer maxMessages trace phase :=
    path.invariant (fun trace phase _ => Books consumer maxMessages trace phase) .start
      fun _ _ _ _ books move _ => books.step move
  have ends : ConsumerEnds consumer fuel outcome () phase := ends
  have closings : phase.open? = none →
      trace.filterMap closedTransport = trace.filterMap createdTransport := by
    intro none
    rw [books.closings, none]
    exact (List.append_nil _).symm
  constructor
  · rintro short rfl
    have passes : fuel ≤ phase.processed + phase.attempts + 1 := ends
    have few := handled_add_slept_le trace
    rw [books.handled, books.slept, List.length_map, List.length_range] at few
    omega
  · rw [books.creations]
    refine le_trans ?_ (Nat.succ_le_succ books.budget)
    cases phase with
    | waiting => exact Nat.le_succ _
    | opened | shut => exact Nat.le_refl _
  · intro ended
    cases outcome with
    | ok result => exact closings ends.1
    | error exit =>
      cases exit with
      | unfinished => exact absurd rfl ended
      | handler | raised => exact closings ends
  · intro limit bounded
    rw [books.handled]
    exact books.limit limit bounded
  · rintro result rfl
    exact ends.2.1.trans books.handled.symm
  · rintro result rfl
    rw [books.slept, ← ends.2.2.1]
  · rintro result rfl exhausted
    obtain ⟨broken, spent⟩ := ends.2.2.2 exhausted
    constructor
    · rw [ends.2.2.1]
      exact le_antisymm books.budget spent
    · exact books.failed broken

/-- One connection may be opened again. -/
def oneRetryConsumer : TestnetUserStreamConsumer where
  maxReconnectAttempts := 1
  initialBackoffSeconds := 1
  maxBackoffSeconds := 30
  initial_pos := by norm_num
  max_pos := by norm_num

def samplePlan : TestnetUserStreamConnectionPlan where
  exchangeAccountId := "a"
  exchangeName := .bybit
  websocketUrl := "wss://stream-testnet.bybit.com/v5/private"
  websocketLoginMessage := none

def sampleOrderMessage : List (String × Json) := [("topic", .str "order")]

/-- The first connection brings a message and breaks; after a pause the second one fails. -/
def exhaustedTrace : List (StreamEvent Nat Unit) :=
  [.call .shouldStop false () (), .call (.createTransport .bybit) (7 : Nat) () (),
    .call (.connect 7 samplePlan.websocketUrl) (.ok ()) () (), .call .shouldStop false () (),
    .call (.receiveJson 7) (.ok sampleOrderMessage) () (),
    .call (.handle ⟨.bybit, .order, sampleOrderMessage⟩) (.ok ()) () (),
    .call .shouldStop false () (), .call (.receiveJson 7) (.error ()) () (),
    .call (.close 7) (.ok ()) () (), .call .shouldStop false () (),
    .call (.sleep (oneRetryConsumer.delay 0)) () () (), .call .shouldStop false () (),
    .call (.createTransport .bybit) (8 : Nat) () (),
    .call (.connect 8 samplePlan.websocketUrl) (.error ()) () (), .call (.close 8) (.ok ()) () ()]

theorem consume_accounts_exhausted :
    Accounts oneRetryConsumer (some 5) 20 exhaustedTrace (.ok ⟨.reconnectExhausted, 1, 1⟩) ∧
      exhaustedTrace.filterMap closedTransport = [7, 8] := by
  have ran : Prog.Run (streamSemantics Nat Unit)
      (oneRetryConsumer.consume asciiPlatform samplePlan (some 5) 20 ()) () exhaustedTrace
      (.done (.ok ⟨.reconnectExhausted, 1, 1⟩, ())) () :=
    .snoc (.snoc (.snoc (.snoc (.snoc (.snoc (.snoc (.snoc (.snoc (.snoc (.snoc (.snoc (.snoc
      (.snoc (.snoc .nil (.call trivial)) (.call trivial)) (.call trivial)) (.call trivial))
      (.call trivial)) (.call trivial)) (.call trivial)) (.call trivial)) (.call trivial))
      (.call trivial)) (.call trivial)) (.call trivial)) (.call trivial)) (.call trivial))
      (.call trivial)
  exact ⟨consume_accounts ran, rfl⟩

end CopyTrading
