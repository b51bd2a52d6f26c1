import CopyTrading.AuditTrail
import CopyTrading.TenantRequests
import CopyTrading.UserStream.Service

/-!
What a bounded session on a private stream comes to, whatever its connections do: it ends within
its messages and its one reconnect, opens allowed addresses only, writes the rows of its user, and
leaves one audit row exactly if it returns.
-/

namespace CopyTrading

open Transaction Transaction.Handler

/-! ### A consumer that is never told to stop -/

section tireless

variable {τ η : Type}

/-- The flag is never set. -/
def neverStops : (call : StreamCall τ) → call.Answer η → Prop
  | .shouldStop, stop => stop = false
  | _, _ => True

def tireless (τ η : Type) : Semantics (streamEnvironment τ η) where
  flush work := isEmptyElim work
  Answers _ call answer _ := neverStops call answer

abbrev Tireless {α : Type} (service : Stream τ η α) (post : Except (StreamExit η) α → Prop) : Prop :=
  Follows (Protocol.free (streamEnvironment τ η)) (tireless τ η) service
    (fun outcome _ _ => post outcome) () ()

theorem Tireless.mono {α : Type} {service : Stream τ η α}
    {post post' : Except (StreamExit η) α → Prop} (ends : Tireless service post)
    (weaker : ∀ outcome, post outcome → post' outcome) : Tireless service post' :=
  Follows.mono ends fun outcome _ _ => weaker outcome

theorem tireless_askStream_bind {α : Type} {call : StreamCall τ} {next : call.Answer η → Stream τ η α}
    {post : Except (StreamExit η) α → Prop}
    (rest : ∀ answer, neverStops call answer → Tireless (next answer) post) :
    Tireless (askStream call >>= next) post :=
  fun _ answer _ answered => ⟨(), True.intro, rest answer answered⟩

theorem tireless_bind {α β : Type} {first : Stream τ η α} {next : α → Stream τ η β}
    {mid : Except (StreamExit η) α → Prop} {post : Except (StreamExit η) β → Prop}
    (ends : Tireless first mid) (rest : ∀ value, mid (.ok value) → Tireless (next value) post)
    (raises : ∀ raised, mid (.error raised) → post (.error raised)) :
    Tireless (first >>= next) post :=
  Follows.bind ends (fun value _ _ holds => rest value holds) fun raised _ _ holds =>
    raises raised holds

variable {consumer : TestnetUserStreamConsumer} {py : Platform} {exchangeName : ExchangeName}
  {plan : TestnetUserStreamConnectionPlan} {transport : τ} {limit : Int}
  {processed attempts fuel : Nat}

/-- How the messages of a connection are left: it has failed, or the limit is reached. -/
def ReadUpTo (limit : Int) (processed : Nat) :
    Except (StreamExit η) (Nat × ReceiveEnd) → Prop
  | .ok (processed', .connectionFailed) => processed ≤ processed' ∧ (processed' : Int) < limit
  | .ok (processed', .limitReached) => (processed' : Int) = limit
  | .ok (_, .stopped) | .error .unfinished => False
  | .error _ => True

/-- One pass for each message that may still be handled is enough. -/
theorem tireless_receiveMessages (below : (processed : Int) < limit)
    (enough : limit.toNat ≤ processed + fuel) :
    Tireless (receiveMessages (η := η) py exchangeName (some limit) transport fuel processed)
      (ReadUpTo limit processed) := by
  induction fuel generalizing processed with
  | zero => omega
  | succ fuel ih =>
    unfold receiveMessages
    refine tireless_askStream_bind fun stop running => ?_
    obtain rfl : stop = false := running
    refine tireless_askStream_bind fun reply _ => ?_
    cases reply with
    | error _ => exact ⟨le_rfl, below⟩
    | ok payload =>
      dsimp only
      cases parseTestnetUserStreamEvent py exchangeName payload with
      | error exc => exact True.intro
      | ok event =>
        refine tireless_askStream_bind fun answer _ => ?_
        cases answer with
        | error raised => exact True.intro
        | ok _ =>
          dsimp only
          by_cases reached : limit ≤ ((processed + 1 : Nat) : Int)
          · rw [if_pos (by simpa [limitReached] using reached)]
            change ((processed + 1 : Nat) : Int) = limit
            omega
          · rw [if_neg (by simpa [limitReached] using reached)]
            refine (ih (not_le.mp reached) (by omega)).mono ?_
            rintro (raised | ⟨processed', ended⟩) ends
            · cases raised with
              | unfinished | handler | raised => exact ends
            · cases ended with
              | stopped => exact ends
              | connectionFailed => exact ⟨(Nat.le_succ _).trans ends.1, ends.2⟩
              | limitReached => exact ends

/-- How a call is left: its limit is reached, or its reconnects are used up. -/
def ConsumedUpTo (limit : Int) (reconnects : Nat) :
    Except (StreamExit η) TestnetUserStreamConsumerResult → Prop
  | .ok ⟨.messageLimitReached, processed, attempts⟩ =>
      (processed : Int) = limit ∧ attempts ≤ reconnects
  | .ok ⟨.reconnectExhausted, processed, attempts⟩ =>
      (processed : Int) < limit ∧ attempts = reconnects
  | .ok ⟨.stopped, _, _⟩ | .error .unfinished => False
  | .error _ => True

theorem tireless_closeTransport_bind {α : Type} {next : Unit → Stream τ η α}
    {post : Except (StreamExit η) α → Prop} (rest : Tireless (next ()) post) :
    Tireless (closeTransport transport >>= next) post := by
  unfold closeTransport
  rw [Handler.discard_bind]
  exact tireless_askStream_bind fun _ _ => rest

theorem tireless_finallyClose (below : (processed : Int) < limit)
    (enough : limit.toNat ≤ processed + fuel) :
    Tireless (finallyClose (η := η) transport
      (receiveMessages py exchangeName (some limit) transport fuel processed))
      (ReadUpTo limit processed) := by
  unfold finallyClose
  refine tireless_bind (?_ : Tireless _ (ReadUpTo limit processed))
    (fun received ends => tireless_closeTransport_bind ends) fun _ ends => ends
  refine Follows.tryCatch _ (tireless_receiveMessages below enough) (fun _ _ _ ends => ends) ?_
  rintro raised _ _ ends
  cases raised with
  | unfinished => exact ends
  | handler | raised => exact tireless_closeTransport_bind True.intro

theorem tireless_openSession : Tireless (openSession (η := η) plan transport)
    fun outcome => ∃ session, outcome = .ok session := by
  unfold openSession
  refine tireless_askStream_bind fun reply _ => ?_
  cases reply with
  | error _ => exact ⟨_, rfl⟩
  | ok _ =>
    cases plan.websocketLoginMessage with
    | none => exact ⟨_, rfl⟩
    | some message =>
      refine tireless_askStream_bind fun reply _ => ?_
      cases reply with
      | error _ => exact ⟨_, rfl⟩
      | ok _ => exact ⟨_, rfl⟩

/-- One pass for each message, one for each reconnect and one for the first connection. -/
theorem tireless_consumeConnections (below : (processed : Int) < limit)
    (budget : attempts ≤ consumer.maxReconnectAttempts)
    (enough : limit.toNat + consumer.maxReconnectAttempts < processed + attempts + fuel) :
    Tireless (consumeConnections (τ := τ) (η := η) py consumer plan (some limit) fuel processed attempts)
      (ConsumedUpTo limit consumer.maxReconnectAttempts) := by
  induction fuel generalizing processed attempts with
  | zero => omega
  | succ fuel ih =>
    -- the pass that follows a failed connection
    have again : ∀ {processed' : Nat}, processed ≤ processed' → (processed' : Int) < limit →
        Tireless (η := η) (τ := τ)
          (if consumer.maxReconnectAttempts ≤ attempts then
            pure ⟨.reconnectExhausted, processed', attempts⟩
          else do
            sleepBeforeReconnect consumer (attempts + 1)
            consumeConnections py consumer plan (some limit) fuel processed' (attempts + 1))
          (ConsumedUpTo limit consumer.maxReconnectAttempts) := by
      intro processed' more below'
      by_cases exhausted : consumer.maxReconnectAttempts ≤ attempts
      · rw [if_pos exhausted]
        exact ⟨below', le_antisymm budget exhausted⟩
      · rw [if_neg exhausted]
        unfold sleepBeforeReconnect
        cases consumer.backoff (attempts + 1) with
        | error exc => exact True.intro
        | ok delay =>
          exact tireless_askStream_bind fun _ _ => ih below' (not_le.mp exhausted) (by omega)
    unfold consumeConnections
    refine tireless_askStream_bind fun stop running => ?_
    obtain rfl : stop = false := running
    refine tireless_askStream_bind fun transport _ => ?_
    refine tireless_bind tireless_openSession (fun session _ => ?_) ?_
    rotate_left
    · rintro raised ⟨_, other⟩
      cases other
    by_cases failed : session.status = .failed
    · rw [if_pos failed]
      exact tireless_closeTransport_bind (again le_rfl below)
    · rw [if_neg failed]
      refine tireless_bind (tireless_finallyClose below (by omega)) ?_ ?_
      · rintro ⟨processed', ended⟩ ends
        dsimp only
        cases ended with
        | stopped => exact ends.elim
        | limitReached =>
          rw [if_pos rfl]
          exact ⟨ends, budget⟩
        | connectionFailed =>
          rw [if_neg (by decide)]
          refine tireless_askStream_bind fun stop running => ?_
          obtain rfl : stop = false := running
          rw [if_neg (by decide)]
          exact again ends.1 ends.2
      · rintro raised ends
        cases raised with
        | unfinished => exact ends
        | handler | raised => exact True.intro

theorem tireless_consume (positive : 0 < limit)
    (enough : limit.toNat + consumer.maxReconnectAttempts < fuel) :
    Tireless (consumer.consume (τ := τ) (η := η) py plan (some limit) fuel)
      (ConsumedUpTo limit consumer.maxReconnectAttempts) := by
  unfold TestnetUserStreamConsumer.consume
  refine follows_raiseIf_bind (fun _ => True.intro) fun _ => ?_
  exact tireless_consumeConnections positive (Nat.zero_le _) (by omega)

end tireless

/-! ### Addresses -/

section addresses

variable {τ η : Type} {py : Platform} {consumer : TestnetUserStreamConsumer}
  {plan : TestnetUserStreamConnectionPlan} {maxMessages : Option Int}

/-- Connections are made to this address alone. -/
def ConnectsTo (websocketUrl : String) : StreamCall τ → Prop
  | .connect _ url => url = websocketUrl
  | _ => True

theorem asks_askStream {call : StreamCall τ} (asked : ConnectsTo plan.websocketUrl call) :
    AsksOnly (ConnectsTo plan.websocketUrl) (askStream call : Stream τ η (call.Answer η)) :=
  .ask asked

theorem asks_closeTransport {transport : τ} :
    AsksOnly (ConnectsTo plan.websocketUrl) (closeTransport transport : Stream τ η Unit) :=
  AsksOnly.discards (asks_askStream True.intro)

theorem asks_openSession {transport : τ} :
    AsksOnly (ConnectsTo plan.websocketUrl)
      (openSession plan transport : Stream τ η TestnetUserStreamSession) := by
  refine AsksOnly.andThen (asks_askStream rfl) fun reply => ?_
  split
  · exact .done _
  · split
    · exact .done _
    · refine AsksOnly.andThen (asks_askStream True.intro) fun reply => ?_
      split
      · exact .done _
      · exact .done _

theorem asks_receiveMessages {exchangeName : ExchangeName} {transport : τ}
    (fuel processed : Nat) :
    AsksOnly (ConnectsTo plan.websocketUrl) (receiveMessages (η := η) py exchangeName maxMessages
      transport fuel processed) := by
  induction fuel generalizing processed with
  | zero => exact .throw _
  | succ fuel ih =>
    refine AsksOnly.andThen (asks_askStream True.intro) fun stop => ?_
    split
    · exact .done _
    refine AsksOnly.andThen (asks_askStream True.intro) fun reply => ?_
    split
    · exact .done _
    split
    · exact .throw _
    refine AsksOnly.andThen (asks_askStream True.intro) fun answer => ?_
    split
    · exact .throw _
    split
    · exact .done _
    · exact ih _

theorem asks_sleepBeforeReconnect (attempt : Nat) :
    AsksOnly (ConnectsTo plan.websocketUrl)
      (sleepBeforeReconnect consumer attempt : Stream τ η Unit) := by
  unfold sleepBeforeReconnect
  split
  · exact .throw _
  · exact asks_askStream True.intro

theorem asks_finallyClose {α : Type} {transport : τ} {body : Stream τ η α}
    (asks : AsksOnly (ConnectsTo plan.websocketUrl) body) :
    AsksOnly (ConnectsTo plan.websocketUrl) (finallyClose transport body) := by
  refine AsksOnly.andThen (AsksOnly.tryCatch asks fun raised => ?_) fun value =>
    asks_closeTransport.andThen fun _ => .done _
  split
  · exact .throw _
  · exact asks_closeTransport.andThen fun _ => .throw _

theorem asks_consumeConnections (fuel processed attempts : Nat) :
    AsksOnly (ConnectsTo plan.websocketUrl) (consumeConnections (τ := τ) (η := η) py consumer plan
      maxMessages fuel processed attempts) := by
  induction fuel generalizing processed attempts with
  | zero => exact .throw _
  | succ fuel ih =>
    have again (processed' : Nat) : AsksOnly (ConnectsTo plan.websocketUrl)
        (show Stream τ η _ from if consumer.maxReconnectAttempts ≤ attempts then
          pure ⟨.reconnectExhausted, processed', attempts⟩
        else do
          sleepBeforeReconnect consumer (attempts + 1)
          consumeConnections py consumer plan maxMessages fuel processed' (attempts + 1)) := by
      split
      · exact .done _
      · exact (asks_sleepBeforeReconnect _).andThen fun _ => ih _ _
    refine AsksOnly.andThen (asks_askStream True.intro) fun stop => ?_
    split
    · exact .done _
    refine AsksOnly.andThen (asks_askStream True.intro) fun transport => asks_openSession.andThen
      fun session => ?_
    split
    · exact asks_closeTransport.andThen fun _ => again _
    · refine (asks_finallyClose (asks_receiveMessages _ _)).andThen ?_
      rintro ⟨processed', ended⟩
      dsimp only
      split
      · exact .done _
      refine AsksOnly.andThen (asks_askStream True.intro) fun stop => ?_
      split
      · exact .done _
      split
      · exact .done _
      · exact again _

theorem asks_consume {fuel : Nat} :
    AsksOnly (ConnectsTo plan.websocketUrl)
      (consumer.consume (τ := τ) (η := η) py plan maxMessages fuel) :=
  (AsksOnly.raiseIf _ _).weaken.andThen fun _ => asks_consumeConnections _ _ _

end addresses

/-! ### What is logged -/

section logs

variable {Ok : AuditLog → Prop} {py : Platform} {userId exchangeAccountId id : String}

theorem logs_session {α : Type} {next : Session → Service α} (rest : ∀ s, Logs Ok (next s)) :
    Logs Ok (Handler.session >>= next) := .session fun s holds => rest s s holds

theorem logs_flush : Logs Ok Session.flush := by
  refine logs_session fun s => (Stays.select _).bind fun accepted => ?_
  split
  · exact .pure _
  · exact .throw _

theorem logs_holdExecution (row : OrderExecution) : Logs Ok (Session.holdExecution row) := by
  refine logs_session fun s => ?_
  split
  · exact .pure _
  · exact (Stays.modify fun _ holds => ⟨holds.stop, holds.logs⟩).bind fun _ => .pure _

theorem logs_loadExecution : Logs Ok (Session.loadExecution id) := by
  refine logs_query.bind fun found => ?_
  split
  · exact .throw _
  · exact (Stays.modify fun _ holds => ⟨holds.stop, holds.logs⟩).bind fun _ => .pure _

theorem logs_execution : Logs Ok (Session.execution id) := by
  refine logs_session fun s => ?_
  split
  · exact .pure _
  split
  · exact .pure _
  · exact logs_loadExecution

theorem logs_setExecution {set : OrderExecution.Change → OrderExecution.Change} :
    Logs Ok (Session.setExecution id set) := .modify fun _ holds => ⟨holds.stop, holds.logs⟩

theorem logs_transitionOrderExecution {toStatus : OrderExecutionStatus} {reason : String}
    {details : Json} : Logs Ok (transitionOrderExecution id toStatus reason details) := by
  refine logs_execution.bind fun execution => (Stays.raiseIf _ _).bind fun _ =>
    logs_setExecution.bind fun _ => (Stays.raiseIf _ _).bind fun _ => Stays.bind ?_ fun number =>
    logs_addRows (fun _ => rfl) fun _ => rfl
  exact logs_query.bind fun _ => logs_session fun _ => .pure _

theorem logs_applyTestnetOrderEvent {event : NormalizedTestnetOrderEvent} {reason : String} :
    Logs Ok (applyTestnetOrderEvent userId exchangeAccountId event reason) := by
  refine (Stays.raiseIf _ _).bind fun _ => (Stays.raiseIf _ _).bind fun _ =>
    logs_query.bind fun found => ?_
  split
  · exact .pure _
  refine (logs_holdExecution _).bind fun execution => ?_
  split
  · exact .pure _
  refine Stays.bind (Stays.tryCatch ?_ fun raised => ?_) fun allowed => ?_
  · exact logs_transitionOrderExecution.bind fun _ => .pure _
  · split
    · exact .pure _
    · exact .throw _
  split
  · exact logs_refuseIf.bind fun _ => logs_setExecution.bind fun _ => logs_commit.bind fun _ =>
      logs_loadExecution.bind fun _ => .pure _
  · exact .pure _

theorem logs_upsertBalances (columns : List BalanceColumns) :
    Logs Ok (upsertBalances userId exchangeAccountId columns) := by
  induction columns with
  | nil => exact .pure _
  | cons first rest ih =>
    refine Stays.bind (logs_session fun s => ?_) fun _ => ih
    split
    · exact logs_addRows (fun _ => rfl) fun _ => rfl
    refine logs_query.bind fun found => ?_
    split
    · exact logs_addRows (fun _ => rfl) fun _ => rfl
    · exact logs_addRows (fun _ => rfl) fun _ => rfl

theorem logs_upsertPositions (columns : List PositionColumns) :
    Logs Ok (upsertPositions userId exchangeAccountId columns) := by
  induction columns with
  | nil => exact .pure _
  | cons first rest ih =>
    refine Stays.bind (logs_session fun s => ?_) fun _ => ih
    split
    · exact logs_addRows (fun _ => rfl) fun _ => rfl
    refine logs_query.bind fun found => ?_
    split
    · exact logs_addRows (fun _ => rfl) fun _ => rfl
    · exact logs_addRows (fun _ => rfl) fun _ => rfl

theorem logs_syncTestnetAccountStateEvent {event : TestnetUserStreamEvent} :
    Logs Ok (syncTestnetAccountStateEvent py userId exchangeAccountId event) := by
  refine logs_getOwnedAccount.bind fun account => (Stays.ofExcept _).bind fun _ => ?_
  split
  · exact (Stays.ofExcept _).bind fun _ => (Stays.ofExcept _).bind fun _ =>
      (logs_upsertBalances _).bind fun _ => logs_flush.bind fun _ => .pure _
  · exact (Stays.ofExcept _).bind fun _ => (Stays.ofExcept _).bind fun _ =>
      (logs_upsertPositions _).bind fun _ => logs_flush.bind fun _ => .pure _
  · exact .pure _

/-- Handling an event logs nothing. -/
theorem logs_handleTestnetUserStreamEvent {event : TestnetUserStreamEvent} :
    Logs Ok (handleTestnetUserStreamEvent py userId exchangeAccountId event) := by
  unfold handleTestnetUserStreamEvent
  split
  · refine Stays.bind ?_ fun _ => .pure _
    exact (Stays.ofExcept _).bind fun _ => logs_applyTestnetOrderEvent
  · refine Stays.bind ?_ fun _ => .pure _
    refine logs_syncTestnetAccountStateEvent.bind fun result => ?_
    split
    · exact logs_commit.bind fun _ => .pure _
    · exact .pure _

theorem logs_createTestnetSignedHttpClient {exchangeName : ExchangeName} :
    Logs Ok (createTestnetSignedHttpClient exchangeName) := by
  unfold createTestnetSignedHttpClient
  split
  · exact .pure _
  · exact .throw _

theorem logs_activateTestnetUserStreamConnectionPlan {plan : TestnetUserStreamPlan} :
    Logs Ok (activateTestnetUserStreamConnectionPlan py plan) := by
  unfold activateTestnetUserStreamConnectionPlan
  split
  · exact .pure _
  · refine Stays.bind ?_ fun _ => .pure _
    exact (Stays.ask _).bind fun _ => .ofExcept _

/-- A commit that adds nothing to the audit trail. -/
def LeavesTrail : Event backend → Prop
  | .commit work _ _ => LogsOnly (fun _ => False) work
  | _ => True

theorem LeavesTrail.after {e : Event backend} (leaves : LeavesTrail e)
    (sound : e.Sound semantics) : e.after.db.auditLogs = e.before.db.auditLogs := by
  cases e with
  | read | abort => rfl
  | commit work before after =>
    have written := Work.written_of_flush (World.flush_ok sound).1 leaves.stop
    have none : work.auditLogs = [] := List.eq_nil_iff_forall_not_mem.mpr leaves.logs
    have inserted := written.auditLogs
    rw [none, Table.insertAll_nil] at inserted
    exact (Option.some.inj inserted).symm
  | call query answer before after =>
    have same : after.db = before.db := @db_eq_of_call query answer _ _ sound
    exact congrArg Db.auditLogs same

/-- A service that logs nothing leaves the trail as it is, and nothing pending for it. -/
theorem trail_of_run {α : Type} {service : Service α} {s s' : Session} {w w' : World}
    {trace : List (Event backend)} {outcome : Except Exc α} (logs : Logs (fun _ => False) service)
    (clean : LogsOnly (fun _ => False) s.work)
    (ran : Prog.Run semantics (service s) w trace (.done (outcome, s')) w') :
    LogsOnly (fun _ => False) s'.work ∧ w'.db.auditLogs = w.db.auditLogs := by
  have follows : (service s).Follows (Protocol.each LeavesTrail) semantics _ () :=
    (logs s clean).follows (fun _ => True.intro) (fun _ _ _ leaves => leaves)
      (fun _ _ _ => True.intro) fun _ _ _ _ => True.intro
  obtain ⟨_, path, clean'⟩ := ran.path follows
  refine ⟨clean', path.invariant (fun _ _ (w' : World) => w'.db.auditLogs = w.db.auditLogs) rfl ?_⟩
  exact fun _ _ e _ same leaves sound => (LeavesTrail.after leaves sound).trans same

end logs

/-! ### The stream -/

section stream

variable {py : Platform} {userId accountId : String} {connections : WebSocketConnections}
  {plan : TestnetUserStreamPlan} {maxMessages : Int} {s s' : Session} {w w' : World}
  {trace : List (Event backend)}

abbrev StreamRounds : Type :=
  List (StreamEvent TestnetWebSocketTransport Exc × List (Event backend))

/-- What the consumer asked for and got: its transports are closed, its connections go to the
address of its plan, and the events it counts were handled one after the other. -/
structure Streams (py : Platform) (userId accountId : String) (connections : WebSocketConnections)
    (websocketUrl : String) (maxMessages : Int) (rounds : StreamRounds)
    (consumed : Except (StreamExit Exc) TestnetUserStreamConsumerResult) : Prop where
  answered : ∃ s₁ w₁ s₂ w₂, AnsweredBy semantics
    (answerStreamCall py userId accountId connections) () 0 s₁ w₁ rounds s₂ w₂
  opened : ((rounds.map Prod.fst).filterMap createdTransport).length ≤ 2
  closed : (rounds.map Prod.fst).filterMap closedTransport =
    (rounds.map Prod.fst).filterMap createdTransport
  counted : ∀ result, consumed = .ok result →
    result.messagesProcessed = (rounds.map Prod.fst).countP isHandled
  addresses : ∀ transport url reply,
    (.call (.connect transport url) reply () () : StreamEvent _ _) ∈ rounds.map Prod.fst →
      url = websocketUrl
  ended : ConsumedUpTo maxMessages 1 consumed

theorem answerStreamCall_never_stops {call : StreamCall TestnetWebSocketTransport}
    {reply : call.Answer Exc}
    (gives : (answerStreamCall py userId accountId connections).Gives semantics call reply) :
    neverStops call reply := by
  cases call with
  | shouldStop =>
    obtain ⟨step, s, w, events, s', w', ran⟩ := gives
    cases ran.of_done.2.1
    rfl
  | _ => exact True.intro

/-- An answer leaves the audit trail as it is. -/
theorem trail_of_answer {step : Nat} {call : StreamCall TestnetWebSocketTransport}
    {reply : call.Answer Exc} (clean : LogsOnly (fun _ => False) s.work)
    (ran : Prog.Run semantics (answerStreamCall py userId accountId connections step call s) w trace
      (.done (reply, s')) w') :
    LogsOnly (fun _ => False) s'.work ∧ w'.db.auditLogs = w.db.auditLogs := by
  cases call with
  | handle event =>
    obtain ⟨front, back, ⟨outcome, s₁⟩, w₁, rfl, handled, closed⟩ := ran.split_bind
    obtain ⟨-, ended, rfl⟩ := closed.of_done
    cases ended
    exact trail_of_run logs_handleTestnetUserStreamEvent clean handled
  | _ =>
    obtain ⟨-, ended, rfl⟩ := ran.of_done
    cases ended
    exact ⟨clean, rfl⟩

theorem streams_of_run {consumed : Except (StreamExit Exc) TestnetUserStreamConsumerResult}
    (positive : 0 < maxMessages) (clean : LogsOnly (fun _ => False) s.work)
    (ran : Prog.Run semantics
      (consumeUserStream py userId accountId connections plan maxMessages s) w trace
      (.done (.ok consumed, s')) w') :
    (LogsOnly (fun _ => False) s'.work ∧ w'.db.auditLogs = w.db.auditLogs) ∧
      ∃ rounds, trace = rounds.flatMap Prod.snd ∧
        Streams py userId accountId connections plan.websocketUrl maxMessages rounds consumed := by
  obtain ⟨front, back, ⟨⟨outcome, _⟩, s₁⟩, w₁, rfl, played, closed⟩ := ran.split_bind
  obtain ⟨rfl, ended, rfl⟩ := closed.of_done
  cases ended
  have lasts : ∀ call reply, Answerer.Gives semantics (answerStreamCall py userId accountId connections)
      call reply → (tireless _ _).Answers () call reply () :=
    fun _ _ gives => answerStreamCall_never_stops gives
  obtain ⟨rounds, rfl, answered, streamed⟩ := played.of_answeredBy lasts
  obtain ⟨_, ended⟩ := streamed.outcome
    (tireless_consume positive (Nat.lt_succ_self (maxMessages.toNat + 1)))
  have loose : Prog.Run (streamSemantics _ _) _ _ _ _ _ :=
    streamed.weaken (funext fun work => isEmptyElim work) fun _ _ _ _ _ => True.intro
  obtain ⟨phase, path, ends⟩ := loose.path consume_follows
  have books : Books boundedConsumer (some maxMessages) (rounds.map Prod.fst) phase :=
    path.invariant (fun trace phase _ => Books boundedConsumer _ trace phase) .start
      fun _ _ _ _ books move _ => books.step move
  have shut : phase.open? = none := by
    rcases outcome with (raised | exc | _) | result
    · exact ends
    · exact ends
    · exact ended.elim
    · exact ends.1
  refine ⟨?_, rounds, List.append_nil _, ⟨_, _, _, _, answered⟩, ?_, ?_, ?_, ?_, ended⟩
  · refine answered.preserves (P := fun s₁ (w₁ : World) => LogsOnly (fun _ => False) s₁.work ∧
      w₁.db.auditLogs = w.db.auditLogs) ?_ ⟨clean, rfl⟩
    intro step call s₁ w₁ events reply s₂ w₂ before ran
    obtain ⟨clean', same⟩ := trail_of_answer before.1 ran
    exact ⟨clean', same.trans before.2⟩
  · rw [books.creations]
    refine le_trans ?_ (Nat.succ_le_succ books.budget)
    cases phase with
    | waiting => exact Nat.le_succ _
    | opened | shut => exact Nat.le_refl _
  · rw [books.closings, shut]
    exact (List.append_nil _).symm
  · rintro result rfl
    exact ends.2.1.trans books.handled.symm
  · intro transport url reply made
    exact streamed.asked (asks_consume ()) made

/-- The audit row is written, or the trail is as it was. -/
theorem alone_writeUserStreamAudit {result : TestnetUserStreamConsumeResult}
    (clean : LogsOnly (fun _ => False) s.work) :
    Alone semantics (fun _ => True) (writeUserStreamAudit userId result)
      (fun outcome _ w' =>
        (outcome = .ok () ∧ ∃ id createdAt, w'.db.auditLogs.rows =
          w.db.auditLogs.rows ++ [userStreamLog userId result id createdAt]) ∨
        (∃ exc, outcome = .error exc) ∧ w'.db.auditLogs = w.db.auditLogs) s w := by
  have none : s.work.auditLogs = [] := List.eq_nil_iff_forall_not_mem.mpr clean.logs
  refine alone_ask_bind.mpr fun id w₁ answered => ⟨True.intro, ?_⟩
  refine alone_ask_bind.mpr fun createdAt w₂ answered' => ⟨True.intro, ?_⟩
  have same₁ : w₁.db = w.db := @db_eq_of_call _ id _ _ answered
  have same : w₂.db = w.db := (@db_eq_of_call _ createdAt _ _ answered').trans same₁
  rw [alone_bind, alone_add, andThen_ok, alone_commit]
  constructor
  · intro after flushed
    have written := Work.written_of_flush (World.flush_ok flushed).1 clean.stop
    refine ⟨True.intro, .inl ⟨rfl, id, createdAt, ?_⟩⟩
    rw [Table.rows_insertAll written.auditLogs, same]
    simp [Session.pending, none]
  · exact fun fault _ => .inr ⟨⟨_, rfl⟩, congrArg Db.auditLogs same⟩

end stream

/-! ### Whose rows are written -/

section own

variable {py : Platform} {userId accountId : String} {connections : WebSocketConnections}
  {plan : TestnetUserStreamPlan} {maxMessages : Int} {s : Session} {w : World}

theorem keeps_handleTestnetUserStreamEvent {event : TestnetUserStreamEvent}
    (owned : OwnedSession userId s w) :
    KeepsTenant userId (handleTestnetUserStreamEvent py userId accountId event) s w := by
  unfold handleTestnetUserStreamEvent
  split
  · unfold handleUserStreamOrderEvent
    refine Keeps.bind (Q := fun _ _ _ => True) ?_ fun result s' w' owned' _ _ =>
      .pure owned' True.intro
    refine (Keeps.ofExcept (Q := fun _ _ _ => True) owned fun _ _ => True.intro).bind ?_
    rintro event s₁ w₁ owned₁ - -
    exact (keeps_applyTestnetOrderEvent (tenantInvariant userId) owned₁).mono
      fun _ _ _ _ _ _ => True.intro
  · exact (keeps_handleTestnetStateEvent owned).bind fun _ _ _ owned' _ _ =>
      .pure owned' True.intro

theorem keeps_consumeUserStream (owned : OwnedSession userId s w) :
    KeepsTenant userId (consumeUserStream py userId accountId connections plan maxMessages) s w := by
  have answers : ∀ step call s₁ w₁,
      (OwnedSession userId s₁ w₁ ∧ Kept (Scope.tenant userId) s w s₁ w₁) →
      (answerStreamCall py userId accountId connections step call s₁).Alone semantics
        (CommitsOwn (some userId)) (fun replied w' =>
          OwnedSession userId replied.2 w' ∧ Kept (Scope.tenant userId) s w replied.2 w') w₁ := by
    intro step call s₁ w₁ kept
    cases call with
    | handle event =>
      refine Prog.alone_bind.mpr (Prog.Alone.mono (keeps_handleTestnetUserStreamEvent kept.1) ?_
        fun _ acted => acted)
      exact fun outcome w' ⟨owned', kept', _⟩ => ⟨owned', kept.2.trans kept'⟩
    | _ => exact kept
  refine Prog.alone_bind.mpr (Prog.Alone.mono
    (Prog.Alone.answeredBy answers ⟨owned, .refl⟩) ?_ fun _ acted => acted)
  exact fun consumed w' ⟨owned', kept'⟩ => ⟨owned', kept', fun _ _ => True.intro⟩

theorem keeps_activateTestnetUserStreamConnectionPlan (owned : OwnedSession userId s w) :
    KeepsTenant userId (activateTestnetUserStreamConnectionPlan py plan) s w := by
  unfold activateTestnetUserStreamConnectionPlan
  split
  · exact .pure owned True.intro
  · refine Keeps.bind (Q := fun _ _ _ => True) ?_ fun _ _ _ owned' _ _ => .pure owned' True.intro
    refine (keeps_ask (tenantInvariant userId) owned).bind ?_
    rintro reply s₁ w₁ owned₁ - -
    exact .ofExcept owned₁ fun _ _ => True.intro

theorem keeps_consumeActivatedStream (owned : OwnedSession userId s w) :
    KeepsTenant userId (consumeActivatedStream py userId accountId connections plan maxMessages)
      s w := by
  have inv := tenantInvariant userId
  refine (keeps_consumeUserStream owned).bind ?_
  rintro consumed s₁ w₁ owned₁ - -
  split
  · exact .throw owned₁
  · exact .throw owned₁
  · exact .pure owned₁ True.intro
  · refine (Looks.keeps inv (looks_account owned₁.accounts) owned₁).bind ?_
    rintro account s₂ w₂ owned₂ - -
    dsimp only
    unfold writeUserStreamAudit
    simp only [bind_assoc]
    refine (keeps_ask inv owned₂).bind ?_
    rintro id s₃ w₃ owned₃ - -
    refine (keeps_ask inv owned₃).bind ?_
    rintro createdAt s₄ w₄ owned₄ - -
    refine (keeps_add (inv.addAuditLog owned₄ rfl) rfl).bind ?_
    rintro - s₅ w₅ owned₅ - -
    refine (keeps_commit inv owned₅).bind ?_
    rintro - s₆ w₆ owned₆ - -
    exact .pure owned₆ True.intro

theorem keeps_consumeBoundedTestnetUserStream {testnetAdaptersEnabled : Bool}
    (owned : OwnedSession userId s w) :
    KeepsTenant userId (consumeBoundedTestnetUserStream py userId accountId
      testnetAdaptersEnabled maxMessages connections) s w := by
  have inv := tenantInvariant userId
  unfold consumeBoundedTestnetUserStream
  split
  · exact .pure owned True.intro
  refine (keeps_getOwnedAccount inv owned).bind ?_
  rintro found s₁ w₁ owned₁ - -
  split
  · exact .pure owned₁ True.intro
  refine (Looks.keeps inv (looks_getExchangeCredentials owned₁.secrets) owned₁).bind ?_
  rintro credentials s₂ w₂ owned₂ - -
  split
  · exact .pure owned₂ True.intro
  refine Keeps.bind (Q := fun _ _ _ => True) ?_ ?_
  · unfold createTestnetSignedHttpClient
    split
    · exact .pure owned₂ True.intro
    · exact .throw owned₂
  rintro client s₃ w₃ owned₃ - -
  split
  · exact .pure owned₃ True.intro
  refine (keeps_activateTestnetUserStreamConnectionPlan owned₃).bind ?_
  rintro activation s₄ w₄ owned₄ - -
  split
  · exact .pure owned₄ True.intro
  · exact keeps_consumeActivatedStream owned₄

end own

/-! ### The session as a whole -/

section whole

variable {py : Platform} {userId exchangeAccountId : String} {connections : WebSocketConnections}
  {maxMessages : Int} {s s' : Session} {w w' : World} {trace : List (Event backend)}
  {outcome : Except Exc (Except TestnetUserStreamConsumeError TestnetUserStreamConsumeResult)}
  {Served : ExchangeName → Prop}

/-- What a session that returns has done on its stream, at an exchange that it may serve. -/
structure Completes (py : Platform) (userId exchangeAccountId : String)
    (connections : WebSocketConnections) (maxMessages : Int) (Served : ExchangeName → Prop)
    (result : TestnetUserStreamConsumeResult) (trace : List (Event backend)) : Prop where
  /-- All messages were handled, or the connection has failed twice. -/
  ended : (result.status = .messageLimitReached ∧ result.messagesProcessed = maxMessages ∧
      result.reconnectAttempts ≤ 1) ∨
    (result.status = .reconnectExhausted ∧ (result.messagesProcessed : Int) < maxMessages ∧
      result.reconnectAttempts = 1)
  stream : ∃ exchangeName websocketUrl front rounds back,
    trace = front ++ rounds.flatMap Prod.snd ++ back ∧
      Served exchangeName ∧ isAllowedTestnetWebsocketUrl exchangeName websocketUrl = .ok true ∧
      Streams py userId exchangeAccountId connections websocketUrl maxMessages rounds
        (.ok ⟨result.status, result.messagesProcessed, result.reconnectAttempts⟩)

/-- One row tells of a session that returns, and no row of any other. -/
def Audits (userId : String)
    (outcome : Except Exc (Except TestnetUserStreamConsumeError TestnetUserStreamConsumeResult))
    (before after : Db) : Prop :=
  match outcome with
  | .ok (.ok result) => ∃ id createdAt, after.auditLogs.rows =
      before.auditLogs.rows ++ [userStreamLog userId result id createdAt]
  | _ => after.auditLogs = before.auditLogs

theorem ended_of_consumed {status : TestnetUserStreamConsumerStatus} {processed attempts : Nat}
    (ends : ConsumedUpTo (η := Exc) maxMessages 1 (.ok ⟨status, processed, attempts⟩)) :
    (status = .messageLimitReached ∧ (processed : Int) = maxMessages ∧ attempts ≤ 1) ∨
      (status = .reconnectExhausted ∧ (processed : Int) < maxMessages ∧ attempts = 1) := by
  cases status with
  | stopped => exact ends.elim
  | messageLimitReached => exact .inl ⟨rfl, ends⟩
  | reconnectExhausted => exact .inr ⟨rfl, ends⟩

/-- How a session ends: it has been followed to its end, is audited if it returns, and has then
done what its result says. -/
structure SessionEnds (py : Platform) (userId exchangeAccountId : String)
    (connections : WebSocketConnections) (maxMessages : Int) (Served : ExchangeName → Prop)
    (outcome : Except Exc (Except TestnetUserStreamConsumeError TestnetUserStreamConsumeResult))
    (trace : List (Event backend)) (before after : Db) : Prop where
  followed : outcome ≠ .ok (.error .unfinished)
  audited : Audits userId outcome before after
  completes : ∀ result, outcome = .ok (.ok result) →
    Completes py userId exchangeAccountId connections maxMessages Served result trace

namespace SessionEnds

theorem raises {raised : Exc} {before after : Db} (same : after.auditLogs = before.auditLogs) :
    SessionEnds py userId exchangeAccountId connections maxMessages Served (.error raised) trace before
      after :=
  ⟨fun h => (nomatch h), same, fun _ h => (nomatch h)⟩

theorem refuses {error : TestnetUserStreamConsumeError} {before after : Db}
    (other : error ≠ .unfinished) (same : after.auditLogs = before.auditLogs) :
    SessionEnds py userId exchangeAccountId connections maxMessages Served (.ok (.error error)) trace
      before after :=
  ⟨fun h => other (Except.error.inj (Except.ok.inj h)), same, fun _ h => (nomatch Except.ok.inj h)⟩

/-- What was done before leaves the trail as it is. -/
theorem behind {front back : List (Event backend)} {before middle after : Db}
    (ends : SessionEnds py userId exchangeAccountId connections maxMessages Served outcome back middle
      after) (same : middle.auditLogs = before.auditLogs) :
    SessionEnds py userId exchangeAccountId connections maxMessages Served outcome (front ++ back) before
      after := by
  refine ⟨ends.followed, ?_, fun result returned => ?_⟩
  · have audited := ends.audited
    unfold Audits at audited ⊢
    rwa [same] at audited
  · obtain ⟨ended, exchangeName, url, front', rounds, back', rfl, served, allowed, streams⟩ :=
      ends.completes result returned
    refine ⟨ended, exchangeName, url, front ++ front', rounds, back', ?_, served, allowed, streams⟩
    simp only [List.append_assoc]

/-- The sequencing rule for a first part that logs nothing. -/
theorem of_bind {α : Type} {first : Service α}
    {next : α → Service (Except TestnetUserStreamConsumeError TestnetUserStreamConsumeResult)}
    (logs : Logs (fun _ => False) first) (clean : LogsOnly (fun _ => False) s.work)
    (ran : Prog.Run semantics ((first >>= next) s) w trace (.done (outcome, s')) w')
    (rest : ∀ value s₁ w₁ front back, LogsOnly (fun _ => False) s₁.work →
      Prog.Run semantics (first s) w front (.done (.ok value, s₁)) w₁ →
      Prog.Run semantics (next value s₁) w₁ back (.done (outcome, s')) w' →
      SessionEnds py userId exchangeAccountId connections maxMessages Served outcome back w₁.db w'.db) :
    SessionEnds py userId exchangeAccountId connections maxMessages Served outcome trace w.db w'.db := by
  rcases split_bind ran with
    ⟨value, s₁, w₁, front, back, rfl, ran₁, ran₂⟩ | ⟨raised, s₁, heq, ran₁⟩
  · obtain ⟨clean₁, same₁⟩ := trail_of_run logs clean ran₁
    exact (rest value s₁ w₁ front back clean₁ ran₁ ran₂).behind same₁
  · cases heq
    exact raises (trail_of_run logs clean ran₁).2

end SessionEnds

/-- The part behind the plan. -/
theorem ends_consumeActivatedStream {plan : TestnetUserStreamPlan} {exchangeName : ExchangeName}
    (positive : 0 < maxMessages) (clean : LogsOnly (fun _ => False) s.work)
    (served : Served exchangeName)
    (allowed : isAllowedTestnetWebsocketUrl exchangeName plan.websocketUrl = .ok true)
    (ran : Prog.Run semantics
      (consumeActivatedStream py userId exchangeAccountId connections plan maxMessages s) w trace
      (.done (outcome, s')) w') :
    SessionEnds py userId exchangeAccountId connections maxMessages Served outcome trace w.db w'.db := by
  rcases split_bind ran with
    ⟨consumed, s₁, w₁, front, back, rfl, streamed, rest⟩ | ⟨raised, s₁, heq, streamed⟩
  swap
  · obtain ⟨_, _, _, _, -, -, closed⟩ := streamed.split_bind
    cases closed.of_done.2.1
  obtain ⟨⟨clean₁, same₁⟩, rounds, rfl, streams⟩ := streams_of_run positive clean streamed
  rcases consumed with (raised | exc | _) | ⟨status, processed, attempts⟩
  · obtain ⟨rfl, ended, rfl⟩ := rest.of_done
    cases ended
    exact .raises same₁
  · obtain ⟨rfl, ended, rfl⟩ := rest.of_done
    cases ended
    exact .raises same₁
  · exact streams.ended.elim
  rcases split_bind rest with
    ⟨account, s₂, w₂, front₂, back₂, rfl, loads, rest₂⟩ | ⟨raised, s₂, heq, loads⟩
  swap
  · cases heq
    exact .raises ((trail_of_run (logs_account _) clean₁ loads).2.trans same₁)
  obtain ⟨clean₂, same₂⟩ := trail_of_run (logs_account _) clean₁ loads
  rcases split_bind rest₂ with
    ⟨_, s₃, w₃, front₃, back₃, rfl, writes, rest₃⟩ | ⟨raised, s₃, heq, writes⟩
  · obtain ⟨rfl, ended, rfl⟩ := rest₃.of_done
    cases ended
    obtain ⟨-, ⟨-, id, createdAt, rows⟩ | ⟨⟨_, other⟩, -⟩⟩ :=
      writes.of_alone (alone_writeUserStreamAudit clean₂)
    · rw [same₂, same₁] at rows
      refine ⟨fun h => (nomatch Except.ok.inj h), ⟨id, createdAt, rows⟩, ?_⟩
      rintro _ ⟨⟩
      exact ⟨ended_of_consumed streams.ended, exchangeName, plan.websocketUrl, [], rounds, _, rfl,
        served, allowed, streams⟩
    · cases other
  · cases heq
    obtain ⟨-, ⟨done, -⟩ | ⟨-, same₃⟩⟩ := writes.of_alone (alone_writeUserStreamAudit clean₂)
    · cases done
    · exact .raises ((same₃.trans same₂).trans same₁)

/-- An active testnet account of the user that trades nothing. -/
def ServesStream (userId exchangeAccountId : String) (db : Db) (exchangeName : ExchangeName) : Prop :=
  ∃ account ∈ db.accounts, account.id = exchangeAccountId ∧ account.userId = userId ∧
    account.isActive = true ∧ account.accountMode = .testnet ∧ account.tradingEnabled = false ∧
    account.exchangeName = exchangeName

theorem servesStream_of_checked {account : ExchangeAccount} {testnetAdaptersEnabled : Bool}
    {owned : Option ExchangeAccount}
    (checked : userStreamBlocked owned testnetAdaptersEnabled = .ok account) :
    owned = some account ∧ account.isActive = true ∧ account.accountMode = .testnet ∧
      account.tradingEnabled = false := by
  cases owned with
  | none => cases checked
  | some row =>
    unfold userStreamBlocked at checked
    dsimp only at checked
    split at checked
    · cases checked
    split at checked
    · cases checked
    split at checked
    · cases checked
    split at checked
    · cases checked
    split at checked
    · cases checked
    · next active testnet supported idle enabled =>
      cases checked
      exact ⟨rfl, not_not.mp active, not_not.mp testnet, Bool.eq_false_of_not_eq_true idle⟩

/-- A session with its services one after the other. -/
theorem ends_consumeBoundedTestnetUserStream {testnetAdaptersEnabled : Bool}
    (clean : LogsOnly (fun _ => False) s.work) (seen : s.SeesAccounts w.db)
    (ran : Prog.Run semantics (consumeBoundedTestnetUserStream py userId exchangeAccountId
      testnetAdaptersEnabled maxMessages connections s) w trace (.done (outcome, s')) w') :
    SessionEnds py userId exchangeAccountId connections maxMessages
      (ServesStream userId exchangeAccountId w.db) outcome trace w.db w'.db := by
  unfold consumeBoundedTestnetUserStream at ran
  split at ran
  · obtain ⟨-, ended, rfl⟩ := ran.of_done
    cases ended
    exact .refuses (fun h => nomatch h) rfl
  next bounded =>
  refine SessionEnds.of_bind logs_getOwnedAccount clean ran ?_
  intro owned s₁ w₁ front₁ back₁ clean₁ finds ran₁
  cases checked : userStreamBlocked owned testnetAdaptersEnabled with
  | error message =>
    rw [checked] at ran₁
    obtain ⟨-, ended, rfl⟩ := ran₁.of_done
    cases ended
    exact .refuses (fun h => nomatch h) rfl
  | ok account =>
  rw [checked] at ran₁
  obtain ⟨rfl, active, testnet, idle⟩ := servesStream_of_checked checked
  have looks : Looks semantics (fun _ => True) (getOwnedAccount userId exchangeAccountId) _ s w :=
    looks_getOwnedAccount seen
  obtain ⟨-, found, -⟩ := finds.of_alone looks
  rcases found with ⟨missing, -⟩ | ⟨row, stored, named, belongs, same⟩
  · cases missing
  cases same
  have served : ServesStream userId exchangeAccountId w.db account.exchangeName :=
    ⟨account, stored, named, belongs, active, testnet, idle, rfl⟩
  subst named
  refine SessionEnds.of_bind logs_getExchangeCredentials clean₁ ran₁ ?_
  intro credentials s₂ w₂ front₂ back₂ clean₂ _ ran₂
  cases credentials with
  | none =>
    obtain ⟨-, ended, rfl⟩ := ran₂.of_done
    cases ended
    exact .refuses (fun h => nomatch h) rfl
  | some credentials =>
  refine SessionEnds.of_bind logs_createTestnetSignedHttpClient clean₂ ran₂ ?_
  intro client s₃ w₃ front₃ back₃ clean₃ _ ran₃
  cases built : buildTestnetUserStreamConnectionPlan py account.id account.exchangeName credentials with
  | error raised =>
    rw [built] at ran₃
    obtain ⟨-, ended, rfl⟩ := ran₃.of_done
    cases ended
    exact .refuses (fun h => nomatch h) rfl
  | ok plan =>
  rw [built] at ran₃
  obtain ⟨exchange, -, awaits⟩ := awaits_of_built built
  refine SessionEnds.of_bind logs_activateTestnetUserStreamConnectionPlan clean₃ ran₃ ?_
  intro activation s₄ w₄ front₄ back₄ clean₄ activates ran₄
  cases activation with
  | error raised =>
    obtain ⟨-, ended, rfl⟩ := ran₄.of_done
    cases ended
    exact .refuses (fun h => nomatch h) rfl
  | ok activated =>
    have allowed := (allowed_of_activation awaits activates).1
    rw [exchange] at allowed
    exact ends_consumeActivatedStream (by omega) clean₄ served allowed ran₄

/-- Whatever the connections and the exchange do, a session on a private stream ends: after as many
messages as it was allowed, or with its one reconnect used up. Its connections go to an address of
the testnet of its account and are closed; the messages it counts were handled. All rows it writes
are of its user, and one row of the audit trail tells of it exactly if it returns. -/
theorem bounded_user_stream_session {testnetAdaptersEnabled : Bool}
    (rows : w.db.Chained ∧ w.db.Owned)
    (ran : Prog.Run semantics (consumeBoundedTestnetUserStream py userId exchangeAccountId
      testnetAdaptersEnabled maxMessages connections).run w trace (.done (outcome, s')) w') :
    SessionEnds py userId exchangeAccountId connections maxMessages
        (ServesStream userId exchangeAccountId w.db) outcome trace w.db w'.db ∧
      ∀ e ∈ trace, OnlyOwn userId e.before.db e.after.db := by
  have owned : OwnedSession userId {} w := .empty rows.1 rows.2
  obtain ⟨commits, -⟩ := ran.of_alone (keeps_consumeBoundedTestnetUserStream owned)
  constructor
  · exact ends_consumeBoundedTestnetUserStream ⟨rfl, fun _ h => (List.not_mem_nil h).elim⟩
      owned.accounts ran
  · exact fun e mem => onlyOwn_of_step (commits e mem) (Option.mem_some_iff.mpr rfl)

/-- A connection that brings the same message for ever. -/
def repeating (message : List (String × Json)) : WebSocketConnections where
  connect _ := .ok ()
  send _ := .ok ()
  receive _ := .ok message
  close _ := .ok ()

/-- The account of a user at Bybit. -/
def streamedWorld : World :=
  { db :=
      { accounts := oneRow
          { sampleAccount .testnet with exchangeName := .bybit, tradingEnabled := false }
        secrets := oneRow sampleSecret } }

theorem streamedWorld_rows : streamedWorld.db.Chained ∧ streamedWorld.db.Owned := by
  refine ⟨⟨?_, ?_, ?_⟩, ?_, ?_, ?_, ?_, ?_, ?_, ?_⟩
  · exact fun _ mem => (List.not_mem_nil mem).elim
  · exact fun _ mem => (List.not_mem_nil mem).elim
  · exact fun _ mem => (List.not_mem_nil mem).elim
  · intro secret mem
    rw [List.mem_singleton.mp mem]
    exact ⟨_, List.mem_cons_self, rfl, rfl⟩
  all_goals exact fun _ mem => (List.not_mem_nil mem).elim

/-- Two of the messages that the connection brings. -/
def streamedRun : Trace backend Unit × Config backend fun _ : Unit =>
    Except Exc (Except TestnetUserStreamConsumeError TestnetUserStreamConsumeResult) × Session :=
  Exchange.serving ⟨true, .empty⟩ (consumeBoundedTestnetUserStream asciiPlatform "u" "a" true 2
    (repeating (sampleMessage "wallet" .bybit .balance))).run streamedWorld 60

theorem bounded_user_stream_session_limit :
    ∃ trace s w' result,
      Prog.Run semantics (consumeBoundedTestnetUserStream asciiPlatform "u" "a" true 2
        (repeating (sampleMessage "wallet" .bybit .balance))).run streamedWorld trace
        (.done (.ok (.ok result), s)) w' ∧
      result.messagesProcessed = 2 ∧
      SessionEnds asciiPlatform "u" "a" (repeating (sampleMessage "wallet" .bybit .balance)) 2
        (ServesStream "u" "a" streamedWorld.db) (.ok (.ok result)) trace streamedWorld.db w'.db := by
  have processed : ((returned (streamedRun.2.client ())).bind Except.toOption).map
      (·.messagesProcessed) = some 2 := by decide +kernel
  obtain ⟨result, returns, two⟩ := Option.map_eq_some_iff.mp processed
  obtain ⟨value, ended, same⟩ := Option.bind_eq_some_iff.mp returns
  cases value with
  | error raised => cases same
  | ok value =>
    cases same
    obtain ⟨s, done⟩ := done_of_returned ended
    have ran := Exchange.serving_run ⟨true, .empty⟩ (consumeBoundedTestnetUserStream asciiPlatform
      "u" "a" true 2 (repeating (sampleMessage "wallet" .bybit .balance))).run streamedWorld 60
    change Prog.Run semantics _ _ (streamedRun.1.map Prod.snd) (streamedRun.2.client ()) _ at ran
    rw [done] at ran
    exact ⟨_, s, _, result, ran, two, (bounded_user_stream_session streamedWorld_rows ran).1⟩

end whole

end CopyTrading
