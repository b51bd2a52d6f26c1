import CopyTrading.EventBatches
import CopyTrading.Fallible
import CopyTrading.TestnetOrder.Acknowledgement

/-!
The reconciliation looks every pending order up and applies what is reported of it. The run of
a lookup is cut where the exchange answers: up to there nothing is sent, and from there on the
answer alone decides.
-/

namespace CopyTrading

open Transaction Transaction.Handler

/-! ### What an answer reports -/

section

variable {py : Platform} {exchangeName : ExchangeName} {reply : HttpReply}

/-- What the answer to a lookup says of an order, if it says anything the code can use: it was
transported, it can be normalized, and it names an order. -/
def reportedEvent (py : Platform) (exchangeName : ExchangeName) (reply : HttpReply) :
    Option NormalizedTestnetOrderEvent :=
  (readReply py reply >>= normalizeTestnetRestOrderStatus py exchangeName).toOption.filter
    fun event => ¬ ((usable event.clientOrderId).isNone ∧ (usable event.exchangeOrderId).isNone)

/-- The body is read to its end, and what is read is an object or no JSON at all. -/
def HttpReply.isReadable : HttpReply → Bool
  | .payload none | .payload (some (.obj _)) | .empty | .httpError .. | .failure => true
  | .payload (some _) | .brokenError _ | .tooDeep => false

theorem reportedEvent_of_error {raised : Exc} (read : readReply py reply = .error raised) :
    reportedEvent py exchangeName reply = none := by
  unfold reportedEvent
  rw [read]
  rfl

theorem reportedEvent_of_body {body : Json} (read : readReply py reply = .ok body) :
    reportedEvent py exchangeName reply =
      (normalizeTestnetRestOrderStatus py exchangeName body).toOption.filter fun event =>
        ¬ ((usable event.clientOrderId).isNone ∧ (usable event.exchangeOrderId).isNone) := by
  unfold reportedEvent
  rw [read]
  rfl

/-- What fails fails with a validation error. -/
def OnlyInvalid {α : Type} (outcome : Except Exc α) : Prop :=
  ∀ raised, outcome = .error raised → ∃ message, raised = invalidEvent message

namespace OnlyInvalid

variable {α β : Type}

theorem ok (value : α) : OnlyInvalid (.ok value) := by
  intro raised heq
  cases heq

theorem invalid (message : String) : OnlyInvalid (.error (invalidEvent message) : Except Exc α) := by
  intro raised heq
  cases heq
  exact ⟨message, rfl⟩

theorem bind {first : Except Exc α} {next : α → Except Exc β} (hfirst : OnlyInvalid first)
    (rest : ∀ value, OnlyInvalid (next value)) : OnlyInvalid (first >>= next) := by
  intro raised heq
  rcases Fallible.bind_eq_error.mp heq with failed | ⟨value, -, failed⟩
  · exact hfirst raised failed
  · exact rest value raised failed

theorem statusOf (raw : Json) (table : List (String × OrderExecutionStatus)) :
    OnlyInvalid (statusOf py raw table) := by
  unfold CopyTrading.statusOf
  split
  · exact ok _
  · exact invalid _

theorem firstMapping (value : Json) : OnlyInvalid (firstMapping value) := by
  unfold CopyTrading.firstMapping
  split
  · exact ok _
  · exact invalid _

theorem optionalDecimal (value : Json) : OnlyInvalid (optionalDecimal py value) := by
  unfold CopyTrading.optionalDecimal
  split
  · exact ok _
  · exact ok _
  · split
    · exact ok _
    · exact invalid _

theorem normalizeBybit (payload : List (String × Json)) : OnlyInvalid (normalizeBybit py payload) :=
  (firstMapping _).bind fun _ => (statusOf _ _).bind fun _ => (optionalDecimal _).bind fun _ => ok _

theorem normalizeOkx (payload : List (String × Json)) : OnlyInvalid (normalizeOkx py payload) :=
  (firstMapping _).bind fun _ => (statusOf _ _).bind fun _ => (optionalDecimal _).bind fun _ => ok _

/-- Every shape of an object that is not understood is a validation error. -/
theorem normalizeObject (exchangeName : ExchangeName) (fields : List (String × Json)) :
    OnlyInvalid (normalizeTestnetRestOrderStatus py exchangeName (.obj fields)) := by
  unfold normalizeTestnetRestOrderStatus
  cases exchangeName with
  | binance =>
    exact (statusOf _ _).bind fun _ => (optionalDecimal _).bind fun _ => ok _
  | bybit =>
    simp only [normalizeBybitRest]
    split
    · exact invalid _
    · exact normalizeBybit _
  | okx =>
    simp only [normalizeOkxRest]
    split
    · exact invalid _
    · exact normalizeOkx _
  | mock => exact invalid _

end OnlyInvalid

/-- Anything but an object has no `get`. -/
theorem normalize_of_not_object {body : Json} (supported : exchangeName ≠ .mock)
    (other : ∀ fields, body ≠ .obj fields) :
    normalizeTestnetRestOrderStatus py exchangeName body = .error .attributeError := by
  unfold normalizeTestnetRestOrderStatus
  cases exchangeName with
  | mock => exact absurd rfl supported
  | binance | bybit | okx =>
    cases body with
    | obj fields => exact absurd rfl (other fields)
    | null | bool | int | float | str | arr => rfl

/-- What the transport fails with is handled exactly if the answer is readable. -/
theorem readReply_error {raised : Exc} (failed : readReply py reply = .error raised) :
    (lookupFailure raised).isSome = reply.isReadable := by
  cases reply with
  | payload body =>
    cases body with
    | none =>
      cases failed
      rfl
    | some body => cases failed
  | empty => cases failed
  | httpError | brokenError | tooDeep | failure =>
    cases failed
    rfl

/-- A body that is read is an object exactly if the answer is readable. -/
theorem readReply_ok {body : Json} (read : readReply py reply = .ok body) :
    reply.isReadable = true ↔ ∃ fields, body = .obj fields := by
  cases reply with
  | payload given =>
    cases given with
    | none => cases read
    | some given =>
      cases read
      cases body with
      | obj fields => exact iff_of_true rfl ⟨fields, rfl⟩
      | null | bool | int | float | str | arr =>
        exact iff_of_false Bool.false_ne_true fun ⟨_, heq⟩ => nomatch heq
  | empty =>
    cases read
    exact iff_of_true rfl ⟨[], rfl⟩
  | httpError | brokenError | tooDeep | failure => cases read

end

/-! ### What the reports do to the executions -/

section

variable {py : Platform} {exchangeName : ExchangeName} {userId exchangeAccountId : String}
  {s : Session} {w : World} {reply : HttpReply}

/-- The executions once the reports have been applied, one after the other. -/
def executionsReported (userId exchangeAccountId : String)
    (events : List NormalizedTestnetOrderEvent) (executions : Table OrderExecution) :
    Table OrderExecution :=
  events.foldl
    (fun executions event => executionsAfter userId exchangeAccountId event { executions })
    executions

theorem executionsReported_append (first second : List NormalizedTestnetOrderEvent)
    (executions : Table OrderExecution) :
    executionsReported userId exchangeAccountId (first ++ second) executions =
      executionsReported userId exchangeAccountId second
        (executionsReported userId exchangeAccountId first executions) :=
  List.foldl_append

/-- Reports change no order's terms. -/
theorem sameOrder_executionsAfter {event : NormalizedTestnetOrderEvent} {db : Db}
    {x : OrderExecution} (stored : x ∈ db.executions) :
    ∃ y ∈ executionsAfter userId exchangeAccountId event db, SameOrder y x := by
  unfold executionsAfter
  cases found : findExecution userId exchangeAccountId event db with
  | none => exact ⟨x, stored, .refl x⟩
  | some row =>
    dsimp only
    split
    · refine ⟨_, List.mem_map.mpr ⟨x, stored, rfl⟩, ?_⟩
      split
      · exact sameOrder_apply _ x
      · exact .refl x
    · exact ⟨x, stored, .refl x⟩

theorem sameOrder_executionsReported {events : List NormalizedTestnetOrderEvent}
    {executions : Table OrderExecution} {x : OrderExecution} (stored : x ∈ executions) :
    ∃ y ∈ executionsReported userId exchangeAccountId events executions, SameOrder y x := by
  induction events generalizing executions x with
  | nil => exact ⟨x, stored, .refl x⟩
  | cons event rest ih =>
    have first : ∃ y ∈ executionsAfter userId exchangeAccountId event { executions }, SameOrder y x :=
      sameOrder_executionsAfter stored
    obtain ⟨y, hy, same⟩ := first
    obtain ⟨z, hz, same'⟩ := ih hy
    exact ⟨z, hz, same'.trans same⟩

/-- The database takes the event among these executions: its identifiers in the search, and the
order id it adds to the execution the search finds, if it moves that. -/
def NormalizedTestnetOrderEvent.TakenAmong (event : NormalizedTestnetOrderEvent)
    (userId exchangeAccountId : String) (executions : Table OrderExecution) : Prop :=
  isSearchable event ∧
    ∀ row ∈ findExecution userId exchangeAccountId event { executions }, ¬ event.RefusedFor row

instance {event : NormalizedTestnetOrderEvent} {executions : Table OrderExecution} :
    Decidable (event.TakenAmong userId exchangeAccountId executions) :=
  inferInstanceAs (Decidable (_ ∧ _))

theorem NormalizedTestnetOrderEvent.Fits.takenAmong {event : NormalizedTestnetOrderEvent}
    {executions : Table OrderExecution} (fits : event.Fits) :
    event.TakenAmong userId exchangeAccountId executions :=
  ⟨fits.isSearchable, fun row _ => fits.not_refused row⟩

/-- The answer is readable, and the database takes what it reports. -/
def AnswerTaken (py : Platform) (userId exchangeAccountId : String) (exchangeName : ExchangeName)
    (reply : HttpReply) (executions : Table OrderExecution) : Prop :=
  reply.isReadable ∧ ∀ event ∈ reportedEvent py exchangeName reply,
    event.TakenAmong userId exchangeAccountId executions

instance {executions : Table OrderExecution} :
    Decidable (AnswerTaken py userId exchangeAccountId exchangeName reply executions) :=
  inferInstanceAs (Decidable (_ ∧ _))

/-- An event with an identifier is applied, whatever it names, if the database takes it. -/
theorem alone_applyReported {event : NormalizedTestnetOrderEvent} {reason : String}
    (sees : s.SeesCommitted w.db) (saved : ∀ row ∈ w.db.executions, row.id ≠ "")
    (identified : ¬ ((usable event.clientOrderId).isNone ∧ (usable event.exchangeOrderId).isNone)) :
    Alone semantics (fun e => sendsNothing e = true)
      (applyTestnetOrderEvent userId exchangeAccountId event reason)
      (fun outcome s' w' => s'.SeesCommitted w'.db ∧
        Handled userId exchangeAccountId reason event w.db w'.db ∧
        w'.db.auditLogs = w.db.auditLogs ∧
        (event.TakenAmong userId exchangeAccountId w.db.executions ∧
            (∃ result, outcome = .ok result) ∨
          ¬ event.TakenAmong userId exchangeAccountId w.db.executions ∧
            outcome = .error .dataError)) s w := by
  cases found : findExecution userId exchangeAccountId event w.db with
  | none =>
    have nothing : Handled userId exchangeAccountId reason event w.db w.db := by
      refine handled_of_spent fun x taken => ?_
      cases found.symm.trans taken
    unfold applyTestnetOrderEvent
    rw [alone_bind, alone_raiseIf]
    refine ⟨fun unidentified => absurd unidentified identified, fun _ => ?_⟩
    rw [andThen_ok, alone_bind, alone_raiseIf]
    refine ⟨fun unsearchable => ?_, fun searchable => ?_⟩
    · exact ⟨sees, nothing, rfl, .inr ⟨fun taken => unsearchable taken.1, rfl⟩⟩
    · rw [andThen_ok, alone_bind, alone_query, andThen_ok, found]
      refine ⟨sees, nothing, rfl, .inl ⟨⟨not_not.mp searchable, fun row taken => ?_⟩, _, rfl⟩⟩
      cases found.symm.trans taken
  | some x =>
    have stored : x ∈ w.db.executions := Table.mem_of_find? found
    -- the search takes this row and no other
    have takenAmong : event.TakenAmong userId exchangeAccountId w.db.executions ↔
        ¬ event.RefusedFor x := by
      refine ⟨fun taken => taken.2 x found, fun taken => ⟨?_, fun row hrow => ?_⟩⟩
      · exact not_not.mp (not_or.mp taken).1
      · cases found.symm.trans hrow
        exact taken
    refine Alone.mono (alone_applyOrderEvent rfl (fun _ _ _ => rfl) sees (saved x stored) found) ?_
    rintro outcome s' w' ⟨sees', result⟩
    rw [takenAmong]
    cases result with
    | refused refused =>
      refine ⟨sees', handled_of_spent fun row taken counts => ?_, rfl, .inr ⟨not_not.mpr refused, rfl⟩⟩
      cases found.symm.trans taken
      exact counts.2 refused
    | ignored taken stays =>
      refine ⟨sees', handled_of_spent fun row hrow counts => ?_, rfl, .inl ⟨taken, _, rfl⟩⟩
      cases found.symm.trans hrow
      exact stays counts.1
    | moved counts committed =>
      exact ⟨sees', handled_of_committed found counts committed, committed.auditLogs,
        .inl ⟨counts.2, _, rfl⟩⟩

end

/-! ### One lookup -/

/-- A request that looks the order up. -/
structure LooksUp (py : Platform) (exchangeName : ExchangeName) (x : OrderExecution)
    (prepared : PreparedExchangeRequest) : Prop where
  method : prepared.method = "GET"
  path : prepared.path = orderLookupPath exchangeName
  params : orderLookupParams py x exchangeName <+: prepared.params

/-- The lookup of an order does not depend on its status. -/
theorem LooksUp.of_sameOrder {py : Platform} {exchangeName : ExchangeName} {x y : OrderExecution}
    {prepared : PreparedExchangeRequest} (looksUp : LooksUp py exchangeName y prepared)
    (same : SameOrder y x) : LooksUp py exchangeName x prepared := by
  refine ⟨looksUp.method, looksUp.path, ?_⟩
  have params := looksUp.params
  unfold orderLookupParams at params ⊢
  rw [same.symbol, same.clientOrderId] at params
  exact params

/-- The requests of a run to the exchange, each with its outcome. -/
def lookupsOf (events : List (Event backend)) : List (PreparedExchangeRequest × HttpReply) :=
  events.filterMap fun e =>
    match e with
    | .call (.urlopen prepared) reply _ _ => some (prepared, reply)
    | _ => none

theorem lookupsOf_append (front back : List (Event backend)) :
    lookupsOf (front ++ back) = lookupsOf front ++ lookupsOf back :=
  List.filterMap_append

theorem lookupsOf_quiet {events : List (Event backend)}
    (quiet : ∀ e ∈ events, e.isAction = true → sendsNothing e = true) : lookupsOf events = [] := by
  refine List.filterMap_eq_nil_iff.mpr fun e he => ?_
  have nothing := quiet e he
  split
  · exact Bool.noConfusion (nothing rfl)
  · rfl

section

variable {py : Platform} {exchangeName : ExchangeName} {userId exchangeAccountId : String}
  {credentials : ExchangeCredentials} {client : SignedExchangeHttpClient} {x : OrderExecution}
  {s : Session} {w : World} {reply : HttpReply}

/-- What a lookup raises is handled, or ends the batch. -/
def catchLookup {α : Type} (raised : Exc) : Service (Except String α) :=
  match lookupFailure raised with
  | some failureType => return Except.error failureType
  | none => throw raised

/-- The lookup up to its request. -/
def prepareLookup (py : Platform) (exchangeName : ExchangeName) (credentials : ExchangeCredentials)
    (client : SignedExchangeHttpClient) (id : String) : Service PreparedExchangeRequest := do
  let execution ← Session.execution id
  client.preparePrivate py "GET" (orderLookupPath exchangeName) credentials
    (orderLookupParams py execution exchangeName) none (securityTypeOf exchangeName)

/-- The lookup from its answer on. -/
def answerLookup (py : Platform) (userId exchangeAccountId : String) (exchangeName : ExchangeName)
    (reply : HttpReply) : Service (Except String TestnetOrderLifecycleResult) := do
  let response ← Handler.ofExcept (readReply py reply)
  let event ← Handler.ofExcept (normalizeTestnetRestOrderStatus py exchangeName response)
  let result ← applyTestnetOrderEvent userId exchangeAccountId event
    "testnet_rest_order_reconciliation"
  return Except.ok result

/-- The item of a lookup. -/
def lookupItem (id : String) (outcome : Except String TestnetOrderLifecycleResult) :
    Service TestnetOrderReconciliationItem := do
  let execution ← Session.execution id
  match outcome with
  | .error failureType =>
    return { executionId := execution.executionId, status := execution.status
             lifecycleResult := none, failureType := some failureType }
  | .ok result =>
    return { executionId := execution.executionId
             status := result.status.getD execution.status, lifecycleResult := some result }

theorem reconcileExecution_eq (id : String) :
    reconcileExecution py userId exchangeAccountId exchangeName credentials client id =
      (do
        let outcome ← tryCatch
          (do
            let prepared ← prepareLookup py exchangeName credentials client id
            let reply ← ask (.urlopen prepared)
            answerLookup py userId exchangeAccountId exchangeName reply)
          catchLookup
        lookupItem id outcome) := by
  unfold reconcileExecution prepareLookup answerLookup SignedExchangeHttpClient.getPrivate
    transportRequest
  simp only [bind_assoc]
  rfl

/-- A committed execution is opened as it is committed. -/
theorem alone_execution_sees {Each : Event backend → Prop}
    {post : Except Exc OrderExecution → Session → World → Prop} (sees : s.SeesCommitted w.db)
    (stored : x ∈ w.db.executions) (opened : ∀ s', s'.SeesCommitted w.db → post (.ok x) s' w) :
    Alone semantics Each (Session.execution x.id) post s w := by
  refine alone_execution (fun _ missing => absurd rfl (missing x stored)) fun y s' opens => ?_
  have same : y = x := by
    cases opens with
    | shown shown => exact sees.shown stored shown
    | loaded _ storedToo hid => exact execution_unique storedToo stored hid
  rw [same]
  exact opened s' (sees.opened opens)

theorem looks_prepareLookup :
    Looks semantics (fun e => sendsNothing e = true)
      (client.preparePrivate py "GET" (orderLookupPath exchangeName) credentials
        (orderLookupParams py x exchangeName) none (securityTypeOf exchangeName))
      (fun outcome =>
        (client.Signs credentials ∧ ∃ prepared, outcome = .ok prepared ∧
          LooksUp py exchangeName x prepared) ∨
        ¬ client.Signs credentials ∧ ∃ raised, outcome = .error raised ∧
          (lookupFailure raised).isSome) s w := by
  have timestampMs : Quiet semantics (fun e => sendsNothing e = true) .timestampMs :=
    quiet_of_ne_urlopen fun _ h => (nomatch h)
  have isoTimestamp : Quiet semantics (fun e => sendsNothing e = true) .isoTimestamp :=
    quiet_of_ne_urlopen fun _ h => (nomatch h)
  unfold SignedExchangeHttpClient.preparePrivate SignedExchangeHttpClient.Signs
  cases client.exchangeName with
  | binance =>
    refine (looks_ask timestampMs).bind (fun _ _ _ _ _ => .pure (.inl ⟨?_, _, rfl, ?_⟩)) ?_
    · exact ⟨by decide, fun h => (nomatch h)⟩
    · exact ⟨rfl, rfl, (List.prefix_append _ _).trans (List.prefix_append _ _)⟩
    · rintro exc ⟨_, _, _, _, heq⟩
      cases heq
  | bybit =>
    refine (looks_ask timestampMs).bind (fun _ _ _ _ _ => .pure (.inl ⟨?_, _, rfl, ?_⟩)) ?_
    · exact ⟨by decide, fun h => (nomatch h)⟩
    · exact ⟨rfl, rfl, List.prefix_rfl⟩
    · rintro exc ⟨_, _, _, _, heq⟩
      cases heq
  | okx =>
    unfold SignedExchangeHttpClient.prepareOkxRequest
    cases credentials.passphrase with
    | none => exact .throw (.inr ⟨fun h => (nomatch h.2 rfl), _, rfl, rfl⟩)
    | some passphrase =>
      refine (looks_ask isoTimestamp).bind (fun _ _ _ _ _ => .pure (.inl ⟨?_, _, rfl, ?_⟩)) ?_
      · exact ⟨by decide, fun _ => rfl⟩
      · exact ⟨rfl, rfl, List.prefix_rfl⟩
      · rintro exc ⟨_, _, _, _, heq⟩
        cases heq
  | mock => exact .throw (.inr ⟨fun h => h.1 rfl, _, rfl, rfl⟩)

/-- Up to the request nothing is sent. A request that cannot be signed is a handled failure. -/
theorem alone_prepareLookup (sees : s.SeesCommitted w.db) (stored : x ∈ w.db.executions) :
    Alone semantics (fun e => sendsNothing e = true)
      (prepareLookup py exchangeName credentials client x.id)
      (fun outcome s' w' => s'.SeesCommitted w'.db ∧ w'.db = w.db ∧
        ((client.Signs credentials ∧ ∃ prepared, outcome = .ok prepared ∧
            LooksUp py exchangeName x prepared) ∨
          ¬ client.Signs credentials ∧ ∃ raised, outcome = .error raised ∧
            (lookupFailure raised).isSome)) s w := by
  unfold prepareLookup
  rw [alone_bind]
  refine alone_execution_sees sees stored fun s₁ sees₁ => ?_
  rw [andThen_ok]
  refine Alone.mono looks_prepareLookup ?_
  rintro outcome s₂ w₂ ⟨prepared, looked⟩
  exact ⟨sees₁.looked looked, looked.db, prepared⟩

/-- What is left when the answer has been dealt with. -/
structure AnswerApplied (py : Platform) (userId exchangeAccountId : String)
    (exchangeName : ExchangeName) (reply : HttpReply) (before after : Db) : Prop where
  executions : after.executions =
    executionsReported userId exchangeAccountId (reportedEvent py exchangeName reply).toList
      before.executions
  saved : ∀ row ∈ after.executions, row.id ≠ ""
  auditLogs : after.auditLogs = before.auditLogs

theorem AnswerApplied.nothing (saved : ∀ row ∈ w.db.executions, row.id ≠ "")
    (none : reportedEvent py exchangeName reply = none) :
    AnswerApplied py userId exchangeAccountId exchangeName reply w.db w.db := by
  refine ⟨?_, saved, rfl⟩
  rw [none]
  rfl

/-- How a lookup ends once it is answered: with a report or a handled failure if the answer can be
dealt with, and else with the batch. -/
structure LookupAnswered (py : Platform) (userId exchangeAccountId : String)
    (exchangeName : ExchangeName) (reply : HttpReply) (w : World)
    (outcome : Except Exc (Except String TestnetOrderLifecycleResult)) (s' : Session) (w' : World) :
    Prop where
  sees : s'.SeesCommitted w'.db
  applied : AnswerApplied py userId exchangeAccountId exchangeName reply w.db w'.db
  decided :
    AnswerTaken py userId exchangeAccountId exchangeName reply w.db.executions ∧
        (∃ result, outcome = .ok result ∧
          result.isOk = (reportedEvent py exchangeName reply).isSome) ∨
      ¬ AnswerTaken py userId exchangeAccountId exchangeName reply w.db.executions ∧
        ∃ raised, outcome = .error raised

/-- A failure that leaves everything as it was, where nothing is reported, is handled exactly if
the answer is readable. -/
theorem alone_catchLookup {raised : Exc} {s' : Session}
    (handled : (lookupFailure raised).isSome = reply.isReadable)
    (none : reportedEvent py exchangeName reply = none) (sees : s'.SeesCommitted w.db)
    (saved : ∀ row ∈ w.db.executions, row.id ≠ "") :
    Alone semantics (fun e => sendsNothing e = true)
      (catchLookup raised : Service (Except String TestnetOrderLifecycleResult))
      (LookupAnswered py userId exchangeAccountId exchangeName reply w) s' w := by
  have nothing : AnswerApplied py userId exchangeAccountId exchangeName reply w.db w.db :=
    .nothing saved none
  unfold catchLookup
  cases failure : lookupFailure raised with
  | none =>
    rw [failure] at handled
    refine ⟨sees, nothing, .inr ⟨fun taken => ?_, _, rfl⟩⟩
    exact Bool.noConfusion (handled.trans taken.1)
  | some failureType =>
    rw [failure] at handled
    refine ⟨sees, nothing, .inl ⟨⟨handled.symm, fun event reported => ?_⟩, _, rfl, ?_⟩⟩
    · rw [none] at reported
      cases reported
    · rw [none]
      rfl

/-- What an answer reports is applied, or ends the batch. -/
theorem alone_reported {event : NormalizedTestnetOrderEvent} (readable : reply.isReadable = true)
    (reported : reportedEvent py exchangeName reply = some event)
    (identified : ¬ ((usable event.clientOrderId).isNone ∧ (usable event.exchangeOrderId).isNone))
    (sees : s.SeesCommitted w.db) (saved : ∀ row ∈ w.db.executions, row.id ≠ "") :
    Alone semantics (fun e => sendsNothing e = true)
      (tryCatch
        (do
          let result ← applyTestnetOrderEvent userId exchangeAccountId event
            "testnet_rest_order_reconciliation"
          return Except.ok result)
        catchLookup)
      (LookupAnswered py userId exchangeAccountId exchangeName reply w) s w := by
  have takes : AnswerTaken py userId exchangeAccountId exchangeName reply w.db.executions ↔
      event.TakenAmong userId exchangeAccountId w.db.executions := by
    unfold AnswerTaken
    rw [reported]
    simp [readable]
  refine alone_tryCatch.mpr (alone_bind.mpr ?_)
  refine Alone.mono (alone_applyReported sees saved identified) ?_
  rintro outcome s' w' ⟨sees', handled, auditLogs, decided⟩
  have applied : AnswerApplied py userId exchangeAccountId exchangeName reply w.db w'.db := by
    refine ⟨?_, handled.saved saved, auditLogs⟩
    rw [reported]
    exact Table.ext handled.executions
  rcases decided with ⟨taken, result, rfl⟩ | ⟨refused, rfl⟩
  · refine ⟨sees', applied, .inl ⟨takes.mpr taken, _, rfl, ?_⟩⟩
    rw [reported]
    rfl
  · exact ⟨sees', applied, .inr ⟨fun taken => refused (takes.mp taken), _, rfl⟩⟩

/-- From the answer on nothing is sent. -/
theorem alone_answerLookup (supported : exchangeName ≠ .mock) (sees : s.SeesCommitted w.db)
    (saved : ∀ row ∈ w.db.executions, row.id ≠ "") :
    Alone semantics (fun e => sendsNothing e = true)
      (tryCatch (answerLookup py userId exchangeAccountId exchangeName reply) catchLookup)
      (LookupAnswered py userId exchangeAccountId exchangeName reply w) s w := by
  refine alone_tryCatch.mpr ?_
  unfold answerLookup
  rw [alone_bind, alone_ofExcept]
  cases read : readReply py reply with
  | error raised =>
    rw [andThen_error, orElse_error]
    exact alone_catchLookup (readReply_error read) (reportedEvent_of_error read) sees saved
  | ok body =>
    have reported : reportedEvent py exchangeName reply = _ := reportedEvent_of_body read
    rw [andThen_ok, alone_bind, alone_ofExcept]
    cases normalized : normalizeTestnetRestOrderStatus py exchangeName body with
    | error raised =>
      rw [normalized] at reported
      rw [andThen_error, orElse_error]
      refine alone_catchLookup ?_ reported sees saved
      by_cases object : ∃ fields, body = .obj fields
      · rw [(readReply_ok read).mpr object]
        obtain ⟨fields, rfl⟩ := object
        obtain ⟨message, rfl⟩ := OnlyInvalid.normalizeObject exchangeName fields raised normalized
        rfl
      · have raises : normalizeTestnetRestOrderStatus py exchangeName body = _ :=
          normalize_of_not_object supported fun fields heq => object ⟨fields, heq⟩
        cases normalized.symm.trans raises
        exact (Bool.eq_false_iff.mpr fun readable => object ((readReply_ok read).mp readable)).symm
    | ok event =>
      have object : ∃ fields, body = .obj fields := by
        by_contra other
        have raises : normalizeTestnetRestOrderStatus py exchangeName body = _ :=
          normalize_of_not_object supported fun fields heq => other ⟨fields, heq⟩
        cases normalized.symm.trans raises
      have readable : reply.isReadable = true := (readReply_ok read).mpr object
      rw [normalized] at reported
      rw [andThen_ok]
      by_cases unidentified :
        (usable event.clientOrderId).isNone ∧ (usable event.exchangeOrderId).isNone
      · have none : reportedEvent py exchangeName reply = none :=
          reported.trans (Option.filter_some_neg (decide_eq_false (not_not.mpr unidentified)))
        unfold applyTestnetOrderEvent
        rw [alone_bind, alone_bind, alone_raiseIf]
        refine ⟨fun _ => ?_, fun identified => absurd unidentified identified⟩
        rw [andThen_error, andThen_error, orElse_error]
        exact alone_catchLookup readable.symm none sees saved
      · exact alone_tryCatch.mp (alone_reported readable
          (reported.trans (Option.filter_some_pos (decide_eq_true unidentified))) unidentified sees
          saved)

/-- The run of a lookup makes one request, and what it leaves is decided by the answer. -/
theorem answered_of_run {outcome : Except Exc (Except String TestnetOrderLifecycleResult)}
    {s' : Session} {w' : World} {events : List (Event backend)} (supported : exchangeName ≠ .mock)
    (signs : client.Signs credentials) (sees : s.SeesCommitted w.db)
    (stored : x ∈ w.db.executions) (saved : ∀ row ∈ w.db.executions, row.id ≠ "")
    (ran : Prog.Run semantics
      (tryCatch
        (do
          let prepared ← prepareLookup py exchangeName credentials client x.id
          let reply ← ask (.urlopen prepared)
          answerLookup py userId exchangeAccountId exchangeName reply)
        catchLookup s) w events (.done (outcome, s')) w') :
    ∃ prepared reply, lookupsOf events = [(prepared, reply)] ∧
      LooksUp py exchangeName x prepared ∧
      LookupAnswered py userId exchangeAccountId exchangeName reply w outcome s' w' := by
  have prepares : Alone semantics (fun e => sendsNothing e = true)
      (prepareLookup py exchangeName credentials client x.id) _ s w :=
    alone_prepareLookup sees stored
  rcases split_tryCatch_bind ran with
    ⟨prepared, s₁, w₁, front, back, rfl, ran₁, sent⟩ |
    ⟨raised, s₁, w₁, front, back, rfl, ran₁, -⟩
  · obtain ⟨quiet, sees₁, same₁, ⟨-, prepared', heq, looksUp⟩ | ⟨unsigned, -⟩⟩ :=
      ran₁.of_alone prepares
    · cases heq
      obtain ⟨reply, w₂, rest, rfl, answers, decides⟩ := Prog.Run.split_call sent
      have same₂ : w₂.db = w.db := (@db_eq_of_call _ reply _ _ answers).trans same₁
      rw [same₁, ← same₂] at sees₁
      rw [← same₂] at saved
      have ends : Alone semantics (fun e => sendsNothing e = true)
          (tryCatch (answerLookup py userId exchangeAccountId exchangeName reply) catchLookup) _
          s₁ w₂ := alone_answerLookup supported sees₁ saved
      obtain ⟨quiet', sees', answered, decided⟩ := Prog.Run.of_alone decides ends
      rw [same₂] at answered decided
      refine ⟨prepared, reply, ?_, looksUp, sees', answered, decided⟩
      rw [lookupsOf_append, lookupsOf_quiet quiet, List.nil_append]
      exact congrArg ((prepared, reply) :: ·) (lookupsOf_quiet quiet')
    · exact absurd signs unsigned
  · obtain ⟨-, -, -, ⟨-, _, heq, -⟩ | ⟨unsigned, -⟩⟩ := ran₁.of_alone prepares
    · cases heq
    · exact absurd signs unsigned

/-- The item says whether the lookup failed. -/
theorem alone_lookupItem {result : Except String TestnetOrderLifecycleResult}
    (sees : s.SeesCommitted w.db) (stored : x ∈ w.db.executions) :
    Alone semantics (fun e => sendsNothing e = true) (lookupItem x.id result)
      (fun outcome s' w' => s'.SeesCommitted w'.db ∧ w' = w ∧
        ∃ item, outcome = .ok item ∧ item.failureType.isSome = !result.isOk) s w := by
  unfold lookupItem
  rw [alone_bind]
  refine alone_execution_sees sees stored fun s₁ sees₁ => ?_
  rw [andThen_ok]
  cases result with
  | error failureType => exact ⟨sees₁, rfl, _, rfl, rfl⟩
  | ok result => exact ⟨sees₁, rfl, _, rfl, rfl⟩

/-- The run of the reconciliation of one execution. -/
theorem lookup_of_run {outcome : Except Exc TestnetOrderReconciliationItem}
    {s' : Session} {w' : World} {events : List (Event backend)} (supported : exchangeName ≠ .mock)
    (signs : client.Signs credentials) (sees : s.SeesCommitted w.db)
    (stored : x ∈ w.db.executions) (saved : ∀ row ∈ w.db.executions, row.id ≠ "")
    (ran : Prog.Run semantics
      (reconcileExecution py userId exchangeAccountId exchangeName credentials client x.id s) w
      events (.done (outcome, s')) w') :
    ∃ prepared reply, lookupsOf events = [(prepared, reply)] ∧
      LooksUp py exchangeName x prepared ∧
      AnswerApplied py userId exchangeAccountId exchangeName reply w.db w'.db ∧
      (AnswerTaken py userId exchangeAccountId exchangeName reply w.db.executions ∧
          s'.SeesCommitted w'.db ∧ (∃ item, outcome = .ok item ∧
            item.failureType.isSome = (reportedEvent py exchangeName reply).isNone) ∨
        ¬ AnswerTaken py userId exchangeAccountId exchangeName reply w.db.executions ∧
          ∃ raised, outcome = .error raised) := by
  rw [reconcileExecution_eq] at ran
  rcases split_bind ran with
    ⟨result, s₁, w₁, front, back, rfl, ran₁, reports⟩ | ⟨raised, s₁, heq, ran₁⟩
  · obtain ⟨prepared, reply, lookups, looksUp, sees₁, answered, ⟨taken, result', heq, isOk⟩ |
      ⟨-, _, heq⟩⟩ := answered_of_run supported signs sees stored saved ran₁
    · cases heq
      have kept : ∃ y ∈ w₁.db.executions, SameOrder y x := by
        rw [answered.executions]
        exact sameOrder_executionsReported stored
      obtain ⟨y, hy, same⟩ := kept
      have hid : y.id = x.id := congrArg OrderExecution.Key.id same.key
      have item : Alone semantics (fun e => sendsNothing e = true) (lookupItem x.id result) _
          s₁ w₁ := hid ▸ alone_lookupItem sees₁ hy
      obtain ⟨quiet, sees', rfl, item, rfl, failed⟩ := Prog.Run.of_alone reports item
      refine ⟨prepared, reply, ?_, looksUp, answered, .inl ⟨taken, sees', item, rfl, ?_⟩⟩
      · rw [lookupsOf_append, lookups, lookupsOf_quiet quiet, List.append_nil]
      · rw [failed, isOk, Option.not_isSome]
    · cases heq
  · obtain ⟨prepared, reply, lookups, looksUp, -, answered, ⟨-, _, failed, -⟩ | ⟨other, -⟩⟩ :=
      answered_of_run supported signs sees stored saved ran₁
    · cases failed
    · exact ⟨prepared, reply, lookups, looksUp, answered, .inr ⟨other, raised, congrArg Prod.fst heq⟩⟩

/-- Without a signature nothing is sent. -/
theorem alone_unsigned (unsigned : ¬ client.Signs credentials) (sees : s.SeesCommitted w.db)
    (stored : x ∈ w.db.executions) :
    Alone semantics (fun e => sendsNothing e = true)
      (reconcileExecution py userId exchangeAccountId exchangeName credentials client x.id)
      (fun _ s' w' => s'.SeesCommitted w'.db ∧ w'.db = w.db) s w := by
  have caught : Alone semantics (fun e => sendsNothing e = true)
      (tryCatch
        (do
          let prepared ← prepareLookup py exchangeName credentials client x.id
          let reply ← ask (.urlopen prepared)
          answerLookup py userId exchangeAccountId exchangeName reply)
        catchLookup)
      (fun _ s' w' => s'.SeesCommitted w'.db ∧ w'.db = w.db) s w := by
    refine alone_tryCatch.mpr (alone_bind.mpr ?_)
    refine Alone.mono (alone_prepareLookup sees stored) ?_
    rintro outcome s' w' ⟨sees', same, ⟨signs, -⟩ | ⟨-, raised, rfl, handled⟩⟩
    · exact absurd signs unsigned
    · obtain ⟨failureType, hfailure⟩ := Option.isSome_iff_exists.mp handled
      rw [andThen_error, orElse_error]
      unfold catchLookup
      rw [hfailure]
      exact ⟨sees', same⟩
  rw [reconcileExecution_eq]
  refine caught.bind ?_ fun _ _ _ kept => kept
  rintro result s' w' ⟨sees', same⟩
  rw [← same] at stored
  refine Alone.mono (alone_lookupItem sees' stored) ?_
  rintro outcome s'' w'' ⟨sees'', rfl, -⟩
  exact ⟨sees'', same⟩

end

end CopyTrading
