import CopyTrading.TestnetOrder.SentAmounts

/-!
Reusing a client order id: what a request is answered that finds the id in use. The code
compares user, account and exchange with the recorded execution and not the order fields, so
a reuse has to bring the order of the first request.
-/

namespace CopyTrading

open Transaction Transaction.Handler DecimalArith

variable {ι : Type} {py : Platform} {requests : ι → SubmitRequest}

/-! ### The two halves of a request -/

/-- The checks before anything is recorded. -/
def SubmitRequest.preflight (py : Platform) (req : SubmitRequest) :
    Service TestnetOrderApiContext := do
  assertNewOrdersAllowed
  buildTestnetOrderApiContext py req.userId req.payload req.testnetAdaptersEnabled

/-- What a request does with a recorded submission. -/
def answerSubmission (py : Platform) (context : TestnetOrderApiContext)
    (submission : TestnetSubmissionRecord) : Service TestnetOrderSubmitResponse := do
  if submission.idempotentReplay then
    let execution ← Session.execution submission.executionId
    Handler.ofExcept (testnetSubmitResponse context execution true)
  else
    let execution ← tryCatch (sendSubmission py context submission.executionId)
      (answerSubmitError (recordFailureOf submission.executionId))
    Handler.ofExcept (testnetSubmitResponse context execution false)

/-- The request from the lookup of its client order id on. -/
def SubmitRequest.recording (py : Platform) (req : SubmitRequest)
    (context : TestnetOrderApiContext) : Service TestnetOrderSubmitResponse := do
  let submission ← tryCatch (createOrGetTestnetSubmissionExecution py req.userId context)
    (answerSubmitError recordNoFailure)
  answerSubmission py context submission

/-! ### Reusing a client order id -/

/-- The order fields of an execution are those of the request. -/
structure RecordsOrder (py : Platform) (payload : TestnetOrderSubmitRequest)
    (row : OrderExecution) : Prop where
  symbol : row.symbol = py.upper payload.symbol
  side : row.side = payload.side
  orderType : row.orderType = payload.orderType
  quantity : row.quantity.toDecimal.toRat = payload.quantity.toRat
  price : row.price.map (·.toDecimal.toRat) = payload.price.map Decimal.toRat

/-- Two requests for the same order. -/
structure SameOrderFields (py : Platform) (a b : TestnetOrderSubmitRequest) : Prop where
  symbol : py.upper a.symbol = py.upper b.symbol
  side : a.side = b.side
  orderType : a.orderType = b.orderType
  quantity : a.quantity.toRat = b.quantity.toRat
  price : a.price.map Decimal.toRat = b.price.map Decimal.toRat

/-- A caller who uses an id again on an account does so with the same order: against the other
requests, and against what is stored at first. Amounts have the places of their columns. -/
structure ReusesKeepOrder (py : Platform) (requests : ι → SubmitRequest) (db : Db) : Prop where
  places : ∀ i, (requests i).payload.HasTenPlaces
  requested : ∀ i j, (requests i).payload.clientOrderId = (requests j).payload.clientOrderId →
    (requests i).userId = (requests j).userId →
    (requests i).payload.exchangeAccountId = (requests j).payload.exchangeAccountId →
    SameOrderFields py (requests i).payload (requests j).payload
  stored : ∀ i, ∀ row ∈ db.executions,
    row.clientOrderId = (requests i).payload.clientOrderId → row.userId = (requests i).userId →
    row.exchangeAccountId = (requests i).payload.exchangeAccountId →
    RecordsOrder py (requests i).payload row

/-- The context is one that the checks build for the request. -/
structure BuiltFor (req : SubmitRequest) (context : TestnetOrderApiContext) : Prop where
  order : context.order = requestInput req.payload context.account.exchangeName
  account : context.account.id = req.payload.exchangeAccountId

/-- At most one request to the exchange for each id, a replay is answered with the execution of
the same order, and a lookup that finds an execution of another order ends in a conflict. -/
structure Idempotent (py : Platform) (requests : ι → SubmitRequest) (trace : Trace backend ι)
    (c : Config backend fun _ : ι => Except Exc TestnetOrderSubmitResponse × Session) :
    Prop where
  posts : ∀ clientOrderId, trace.countP (isPostOf clientOrderId) ≤ 1
  replays : ∀ i response s, c.client i = .done (.ok response, s) →
    response.idempotentReplay = true →
    ∃ row ∈ c.store.db.executions, row.executionId = response.executionId ∧
      row.clientOrderId = (requests i).payload.clientOrderId ∧
      RecordsOrder py (requests i).payload row
  conflicts : ∀ i context s, c.client i = (requests i).recording py context s →
    BuiltFor (requests i) context → s.executions = [] →
    ∀ row ∈ c.store.db.executions,
      row.clientOrderId = (requests i).payload.clientOrderId →
      ¬ RecordsOrder py (requests i).payload row →
      ∀ e program world, Prog.Step semantics (c.client i) c.store e program world →
        ∃ s', program = .done (.error (apiError 409 "client order id is already in use"), s')

theorem RecordsOrder.congr {payload : TestnetOrderSubmitRequest} {row row' : OrderExecution}
    (records : RecordsOrder py payload row) (same : SameOrder row' row) :
    RecordsOrder py payload row' where
  symbol := same.symbol.trans records.symbol
  side := same.side.trans records.side
  orderType := same.orderType.trans records.orderType
  quantity := same.quantity ▸ records.quantity
  price := same.price ▸ records.price

/-- The row of a request records the order of every request for the same one. -/
theorem SubmissionRow.records {req : SubmitRequest} {adm : Admission py req} {row : OrderExecution}
    {payload : TestnetOrderSubmitRequest} (rowOf : SubmissionRow adm row)
    (places : req.payload.HasTenPlaces) (same : SameOrderFields py req.payload payload) :
    RecordsOrder py payload row where
  symbol := rowOf.symbol.trans same.symbol
  side := rowOf.side.trans same.side
  orderType := rowOf.orderType.trans same.orderType
  quantity := ((Numeric.stored_exactly_iff rowOf.quantity).mpr places.1).trans same.quantity
  price := ((recordedPrice_iff rowOf.price).mpr places.2).trans same.price

/-- Every execution that a request may take for its own records its order. -/
theorem ReusesKeepOrder.records {db₀ db : Db} {stages : ∀ i, SubmitStage py (requests i)}
    (keeps : ReusesKeepOrder py requests db₀) (inv : SubmitInv requests db₀ stages db) {i : ι}
    {row : OrderExecution} (stored : row ∈ db.executions)
    (clientOrderId : row.clientOrderId = (requests i).payload.clientOrderId)
    (userId : row.userId = (requests i).userId)
    (accountId : row.exchangeAccountId = (requests i).payload.exchangeAccountId) :
    RecordsOrder py (requests i).payload row := by
  rcases inv.origin row stored with ⟨old, hold, same⟩ | ⟨j, adm, rowOf⟩
  · exact (keeps.stored i old hold (same.clientOrderId.symm.trans clientOrderId)
      (same.userId.symm.trans userId) (same.exchangeAccountId.symm.trans accountId)).congr same
  · refine rowOf.records (keeps.places j) (keeps.requested j i ?_ ?_ ?_)
    · exact rowOf.clientOrderId.symm.trans clientOrderId
    · exact rowOf.userId.symm.trans userId
    · exact adm.accountId.symm.trans (rowOf.accountId.symm.trans accountId)

theorem holdExecution_new {s : Session} (unheld : s.executions = []) (row : OrderExecution) :
    Session.holdExecution row s = .done (.ok row, { s with executions := [⟨row, {}⟩] }) := by
  obtain ⟨work, executions, accounts, secrets⟩ := s
  subst unheld
  rfl

/-- The lookup refuses an execution of another user or account. -/
theorem recording_refuses {req : SubmitRequest} {context : TestnetOrderApiContext} {s : Session}
    (unheld : s.executions = []) :
    ∃ next, req.recording py context s = .read next ∧ ∀ (world : World) (row : OrderExecution),
      executionByClientOrderId context.order.clientOrderId world.db = some row →
      ¬ (row.userId = req.userId ∧ row.exchangeAccountId = context.account.id) →
      ∃ s', next world =
        .done (.error (apiError 409 "client order id is already in use"), s') := by
  refine ⟨_, rfl, fun world row found other => ⟨{ s with executions := [⟨row, {}⟩] }, ?_⟩⟩
  have conflict : row.userId ≠ req.userId ∨ row.exchangeAccountId ≠ context.account.id ∨
      row.exchangeName ≠ context.account.exchangeName.value := by
    by_contra same
    simp only [not_or, ne_eq, not_not] at same
    exact other ⟨same.1, same.2.1⟩
  simp only [found, Prog.done_bind]
  change ((((Session.holdExecution row s).bind _).bind _).bind _) = _
  rw [holdExecution_new unheld, Prog.done_bind]
  change (((raiseIf _ _ >>= _ : Service TestnetSubmissionRecord) _).bind _).bind _ = _
  unfold raiseIf
  rw [if_pos conflict]
  rfl

theorem executionByClientOrderId_eq {db : Db} {row : OrderExecution} (stored : row ∈ db.executions)
    {clientOrderId : String} (same : row.clientOrderId = clientOrderId) :
    executionByClientOrderId clientOrderId db = some row := by
  unfold executionByClientOrderId
  cases hfind : db.executions.find? (·.clientOrderId = clientOrderId) with
  | none => simpa [same] using Table.not_of_find?_none hfind stored
  | some found =>
    have sameId : found.clientOrderId = clientOrderId := by simpa using Table.holds_of_find? hfind
    exact congrArg some (Table.eq_of_conflict (Table.mem_of_find? hfind) stored
      (.inr (.inr (.inl (sameId.trans same.symm)))))

/-- A replay is answered with an execution that records the order of the request. -/
theorem ReusesKeepOrder.replayed {db₀ db : Db} {stages : ∀ i, SubmitStage py (requests i)}
    (keeps : ReusesKeepOrder py requests db₀) (inv : SubmitInv requests db₀ stages db) {i : ι}
    {response : TestnetOrderSubmitResponse}
    (returns : SubmitReturns py (requests i) response (stages i))
    (replay : response.idempotentReplay = true) :
    ∃ row ∈ db.executions, row.executionId = response.executionId ∧
      row.clientOrderId = (requests i).payload.clientOrderId ∧
      RecordsOrder py (requests i).payload row := by
  have found := inv.found i
  have notLost := inv.notLost i
  generalize stages i = stage at returns found notLost
  cases returns with
  | lost => exact absurd rfl notLost
  | accepted created => simp [created] at replay
  | replayed _ executionId =>
    obtain ⟨⟨x, hx, same⟩, clientOrderId, userId, accountId⟩ := found _ rfl
    have sameClient := same.clientOrderId.trans clientOrderId
    have sameExecution := (congrArg OrderExecution.Key.executionId same.key).trans executionId.symm
    refine ⟨x, hx, sameExecution, sameClient, ?_⟩
    exact keeps.records inv hx sameClient (same.userId.trans userId)
      (same.exchangeAccountId.trans accountId)

/-! ### Sample runs -/

/-- An order of one unit, and a second one under its client order id. -/
def reusing (second : SubmitRequest) : Bool → SubmitRequest
  | false => wholeOrder
  | true => second

/-- The first request is served to its end before the second one starts. -/
def reusedRun (second : SubmitRequest) : Trace backend Bool ×
    Config backend fun _ : Bool => Except Exc TestnetOrderSubmitResponse × Session :=
  Config.replay semantics (environment takingExchange) 0
    (List.replicate 25 false ++ List.replicate 15 true)
    (submitting asciiPlatform (reusing second) (approvedWorld .binance "BTCUSDT" []))

theorem reusedRun_reaches (second : SubmitRequest) :
    Config.Run semantics (submitting asciiPlatform (reusing second)
      (approvedWorld .binance "BTCUSDT" [])) (reusedRun second).1 (reusedRun second).2 :=
  Config.replay_reaches (environment_allowed takingExchange) _ _ _

theorem wholeOrder_places : wholeOrder.payload.HasTenPlaces := by
  constructor
  · exact ⟨10000000000, by norm_num [wholeOrder, sampleOrder]⟩
  · rintro price hprice
    cases hprice
    exact ⟨100000000000, by norm_num⟩

/-- Two units, under the id of the order of one unit. -/
def doubledOrder : SubmitRequest := sampleOrder "BTCUSDT" (.ofInt 2) (by norm_num)

/-! ### The guarantee -/

/-- Submissions are idempotent where a client order id stands for one order of its caller. -/
theorem submissions_idempotent [DecidableEq ι] {world : World} {trace : Trace backend ι}
    {c : Config backend fun _ : ι => Except Exc TestnetOrderSubmitResponse × Session}
    (keeps : ReusesKeepOrder py requests world.db)
    (run : Config.Run semantics (submitting py requests world) trace c) :
    Idempotent py requests trace c := by
  obtain ⟨stages, tracked, returns⟩ := submitting_tracked run
  have inv := SubmitInv.of_run tracked
  constructor
  · exact submitting_posts_once tracked
  · intro i response s done replay
    exact keeps.replayed inv (returns i response s done) replay
  · intro i context s at_lookup built unheld row stored clientOrderId other e program world' step
    obtain ⟨next, recording, refuses⟩ := @recording_refuses py (requests i) context s unheld
    rw [at_lookup, recording] at step
    cases step with
    | read =>
      refine refuses c.store row ?_ fun ⟨userId, accountId⟩ => other ?_
      · rw [built.order]
        exact executionByClientOrderId_eq stored clientOrderId
      · exact keeps.records inv stored clientOrderId userId (accountId.trans built.account)

/-- The same order sent twice is answered with a replay of the first one. -/
theorem submissions_idempotent_twice :
    ∃ response, returned ((reusedRun wholeOrder).2.client true) = some response ∧
      response.idempotentReplay = true ∧
      ∃ row ∈ (reusedRun wholeOrder).2.store.db.executions,
        row.executionId = response.executionId ∧ RecordsOrder asciiPlatform wholeOrder.payload row := by
  have requests_eq : ∀ i, reusing wholeOrder i = wholeOrder := by
    intro i
    cases i <;> rfl
  have keeps : ReusesKeepOrder asciiPlatform (reusing wholeOrder)
      (approvedWorld .binance "BTCUSDT" []).db := by
    constructor
    · intro i
      rw [requests_eq]
      exact wholeOrder_places
    · intro i j _ _ _
      rw [requests_eq, requests_eq]
      constructor <;> rfl
    · intro i row stored
      cases stored
  have replayed : (returned ((reusedRun wholeOrder).2.client true)).map (·.idempotentReplay) =
      some true := by decide +kernel
  obtain ⟨response, answered, replay⟩ := Option.map_eq_some_iff.mp replayed
  obtain ⟨s, done⟩ := done_of_returned answered
  have idempotent := submissions_idempotent keeps (reusedRun_reaches wholeOrder)
  obtain ⟨row, stored, executionId, -, records⟩ := idempotent.replays true response s done replay
  exact ⟨response, answered, replay, row, stored, executionId, records⟩

/-- An order of two units under the id of an order of one unit is answered as its replay. -/
theorem other_quantity_replayed :
    ∃ trace c, Config.Run semantics (submitting asciiPlatform (reusing doubledOrder)
        (approvedWorld .binance "BTCUSDT" [])) trace c ∧
      (returned (c.client true)).map (·.idempotentReplay) = some true ∧
      (∃ row, row ∈ c.store.db.executions) ∧
      ∀ row ∈ c.store.db.executions, ¬ RecordsOrder asciiPlatform doubledOrder.payload row := by
  refine ⟨_, _, reusedRun_reaches doubledOrder, by decide +kernel, ?_, fun row hrow records => ?_⟩
  · have stored : (reusedRun doubledOrder).2.store.db.executions.rows ≠ [] := by decide +kernel
    exact List.exists_mem_of_ne_nil _ stored
  · have stored : ∀ row ∈ (reusedRun doubledOrder).2.store.db.executions.rows,
        row.quantity.units = 10000000000 := by decide +kernel
    have recorded := records.quantity
    rw [Numeric.toRat_toDecimal, Numeric.value, stored row hrow] at recorded
    norm_num [doubledOrder, sampleOrder, Decimal.toRat_ofInt] at recorded

end CopyTrading
