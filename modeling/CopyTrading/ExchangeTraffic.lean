import CopyTrading.RealAccounts
import CopyTrading.SessionQueries
import CopyTrading.SignedRequests
import CopyTrading.TestnetOrder.OrderLookups
import CopyTrading.UserStream.Service

/-!
The requests that leave for an exchange. Orders, lookups and listen keys go to the testnet of their
exchange, which for OKX is the production host with a header that marks them as simulated; the
production host itself is only read from.
-/

namespace CopyTrading

open Transaction Transaction.Handler DecimalArith

/-! ### Requests on the wire -/

/-- The request goes to a testnet: its host is that of the testnet, or it is marked as simulated. -/
def ForTestnet (wire : WireRequest) : Prop :=
  ∃ exchangeName base rest, testnetRestBaseUrl exchangeName = some base ∧
    wire.url = base ++ "/" ++ rest ∧
    (exchangeName = .okx → ("x-simulated-trading", "1") ∈ wire.headers)

/-- The paths of the production host that are read. -/
def productionPaths : List String := ["/api/v5/account/balance", "/api/v5/trade/orders-pending"]

/-- The request reads the balances or the open orders of a production account. -/
def ReadsProduction (wire : WireRequest) : Prop :=
  wire.method = "GET" ∧ wire.body = none ∧
    ∃ path ∈ productionPaths, ∃ query, wire.url = withQuery ("https://www.okx.com" ++ path) query

/-- What may be asked where production accounts are read, or where they are not. -/
def Outbound (py : Platform) (production : Bool) : Query → Prop
  | .urlopen request => ForTestnet (request.wire py) ∨
      (production = true ∧ ReadsProduction (request.wire py))
  | _ => True

variable {py : Platform} {production : Bool}

theorem allowsIds_outbound : AllowsIds (Outbound py production) := ⟨True.intro, True.intro⟩

/-! ### Preparing a request -/

section prepare

variable {client : SignedExchangeHttpClient} {method path : String}
  {credentials : ExchangeCredentials} {params : List (String × String)}
  {body : Option (List (String × Json))} {securityType : ExchangeSecurityType}

/-- What every client keeps of what it is asked to prepare. -/
structure PreparedAs (client : SignedExchangeHttpClient) (method path : String)
    (securityType : ExchangeSecurityType) (prepared : PreparedExchangeRequest) : Prop where
  requested : prepared.method = method
  address : prepared.url = client.restBaseUrl ++ path
  bodiless : method ≠ "POST" → prepared.body = none
  simulated : client.exchangeName = .okx → securityType = .okxDemoSigned →
    ("x-simulated-trading", "1") ∈ prepared.headers

theorem asks_preparePrivate :
    AsksOnly (Outbound py production)
      (client.preparePrivate py method path credentials params body securityType)
      (PreparedAs client method path securityType) := by
  unfold SignedExchangeHttpClient.preparePrivate
  cases exchange : client.exchangeName with
  | binance =>
    refine AsksOnly.andThen (.ask True.intro) fun timestamp => .pure ⟨rfl, rfl, fun _ => rfl, ?_⟩
    exact fun okx => nomatch exchange.symm.trans okx
  | bybit =>
    refine AsksOnly.andThen (.ask True.intro) fun timestamp =>
      .pure ⟨rfl, rfl, fun other => if_neg other, ?_⟩
    exact fun okx => nomatch exchange.symm.trans okx
  | okx =>
    unfold SignedExchangeHttpClient.prepareOkxRequest
    dsimp only
    split
    · exact .throw _
    · refine AsksOnly.andThen (.ask True.intro) fun timestamp =>
        .pure ⟨rfl, rfl, fun other => if_neg other, ?_⟩
      rintro - rfl
      exact List.mem_append_right _ List.mem_cons_self
  | mock => exact .throw _

/-- A client of a testnet, asked for a path of its host, and as a simulation where it must be. -/
theorem PreparedAs.forTestnet {prepared : PreparedExchangeRequest} {rest : String}
    (as : PreparedAs client method path securityType prepared)
    (testnet : testnetRestBaseUrl client.exchangeName = some client.restBaseUrl)
    (absolute : path = "/" ++ rest)
    (simulated : client.exchangeName = .okx → securityType = .okxDemoSigned) :
    ForTestnet (prepared.wire py) := by
  obtain ⟨query, url⟩ : ∃ query, (prepared.wire py).url =
      client.restBaseUrl ++ "/" ++ (rest ++ query) := by
    change ∃ query, withQuery prepared.url _ = _
    rw [as.address, absolute]
    unfold withQuery
    split
    · exact ⟨"", by simp [String.append_assoc]⟩
    · exact ⟨"?" ++ canonicalQuery py prepared.params, by simp [String.append_assoc]⟩
  refine ⟨client.exchangeName, client.restBaseUrl, rest ++ query, testnet, url, fun okx => ?_⟩
  exact List.mem_cons_of_mem _ (as.simulated okx (simulated okx))

/-- A `GET` for a path that may be read. -/
theorem PreparedAs.readsProduction {prepared : PreparedExchangeRequest}
    (as : PreparedAs client "GET" path securityType prepared)
    (production : client.restBaseUrl = "https://www.okx.com") (may : path ∈ productionPaths) :
    ReadsProduction (prepared.wire py) := by
  refine ⟨as.requested, ?_, path, may, canonicalQuery py prepared.params, ?_⟩
  · change prepared.body.map _ = none
    rw [as.bodiless (by decide), Option.map_none]
  · change withQuery prepared.url _ = _
    rw [as.address, production]

theorem asks_transportRequest {prepared : PreparedExchangeRequest}
    (asked : Outbound py production (.urlopen prepared)) :
    AsksOnly (Outbound py production) (transportRequest py prepared) :=
  AsksOnly.andThen (.ask asked) fun _ => (AsksOnly.ofExcept _).weaken

theorem asks_getPrivate
    (sent : ∀ prepared, PreparedAs client "GET" path securityType prepared →
      Outbound py production (.urlopen prepared)) :
    AsksOnly (Outbound py production) (client.getPrivate py path credentials params securityType) :=
  asks_preparePrivate.bind fun prepared as => asks_transportRequest (sent prepared as)

end prepare

/-! ### Clients of a testnet -/

/-- A client of the testnet of an exchange. -/
def OnTestnet (exchangeName : ExchangeName) (client : SignedExchangeHttpClient) : Prop :=
  client.exchangeName = exchangeName ∧ testnetRestBaseUrl exchangeName = some client.restBaseUrl

section testnet

variable {exchangeName : ExchangeName} {client : SignedExchangeHttpClient} {method path : String}
  {credentials : ExchangeCredentials} {params : List (String × String)}
  {body : Option (List (String × Json))} {securityType : ExchangeSecurityType}

theorem asks_createTestnetSignedHttpClient :
    AsksOnly (Outbound py production) (createTestnetSignedHttpClient exchangeName)
      (OnTestnet exchangeName) := by
  unfold createTestnetSignedHttpClient
  split
  · next base found => exact .pure ⟨rfl, found⟩
  · exact .throw _

/-- What such a client prepares may be sent. -/
theorem OnTestnet.sends {prepared : PreparedExchangeRequest} (rest : String)
    (client_on : OnTestnet exchangeName client) (absolute : path = "/" ++ rest)
    (simulated : exchangeName = .okx → securityType = .okxDemoSigned)
    (as : PreparedAs client method path securityType prepared) :
    Outbound py production (.urlopen prepared) := by
  obtain ⟨rfl, testnet⟩ := client_on
  exact .inl (as.forTestnet testnet absolute simulated)

end testnet

/-! ### Orders -/

section orders

variable {userId accountId id : String} {client : SignedExchangeHttpClient}
  {credentials : ExchangeCredentials} {exchangeName : ExchangeName}
  {order : TestnetOrderRequestInput} {gateResult : TestnetOrderGateResult}

/-- An order goes to the testnet of its exchange, and one to OKX is marked. -/
theorem asks_prepareTestnetOrderRequest (client_on : OnTestnet order.exchangeName client) :
    AsksOnly (Outbound py production)
      (prepareTestnetOrderRequest py order gateResult client credentials)
      fun prepared => Outbound py production (.urlopen prepared) := by
  refine (AsksOnly.raiseIf _ _).weaken.andThen fun _ => ?_
  split
  · next exchange =>
    refine (AsksOnly.ofExcept _).weaken.andThen fun params => asks_preparePrivate.mono fun _ as => ?_
    exact client_on.sends "api/v3/order" (by decide) (fun okx => nomatch exchange.symm.trans okx) as
  · next exchange =>
    refine (AsksOnly.ofExcept _).weaken.andThen fun body => asks_preparePrivate.mono fun _ as => ?_
    exact client_on.sends "v5/order/create" (by decide) (fun okx => nomatch exchange.symm.trans okx) as
  · refine (AsksOnly.ofExcept _).weaken.andThen fun body => asks_preparePrivate.mono fun _ as => ?_
    exact client_on.sends "api/v5/trade/order" (by decide) (fun _ => rfl) as
  · exact .throw _

theorem asks_executeTestnetOrder (client_on : OnTestnet order.exchangeName client) :
    AsksOnly (Outbound py production)
      (executeTestnetOrder py order gateResult client credentials accountId) := by
  refine (asks_prepareTestnetOrderRequest client_on).bind fun prepared sent => AsksOnly.andThen ?_
    fun _ => (asks_transportRequest sent).andThen fun _ => .done _
  refine AsksOnly.andThen (.ask True.intro) fun reply => ?_
  split
  · exact .done _
  · exact .throw _
  · exact .throw _

theorem asks_sendSubmission {context : TestnetOrderApiContext}
    (same : context.order.exchangeName = context.account.exchangeName) :
    AsksOnly (Outbound py production) (sendSubmission py context id) :=
  asks_createTestnetSignedHttpClient.bind fun _ client_on =>
    (asks_executeTestnetOrder (same ▸ client_on)).andThen fun _ =>
      asks_recordTestnetSubmissionAccepted

theorem asks_submitTestnetOrder {payload : TestnetOrderSubmitRequest}
    {testnetAdaptersEnabled : Bool} :
    AsksOnly (Outbound py production)
      (submitTestnetOrder py userId payload testnetAdaptersEnabled) := by
  refine AsksOnly.bind (AsksOnly.tryCatch ?_ ?_) fun recorded
    (same : recorded.1.order.exchangeName = recorded.1.account.exchangeName) => ?_
  · refine asks_assertNewOrdersAllowed.andThen fun _ =>
      (asks_buildTestnetOrderApiContext allowsIds_outbound).bind fun context same =>
        (asks_createOrGetTestnetSubmissionExecution allowsIds_outbound).andThen fun _ => .pure same
  · exact fun raised => asks_answerSubmitError fun _ => .done _
  · obtain ⟨context, submission⟩ := recorded
    dsimp only
    split
    · exact asks_execution.andThen fun _ => (AsksOnly.ofExcept _).weaken
    · refine AsksOnly.andThen (AsksOnly.tryCatch (asks_sendSubmission same) fun raised => ?_) fun _ =>
        (AsksOnly.ofExcept _).weaken
      exact asks_answerSubmitError fun _ => asks_recordTestnetSubmissionFailure.discards

/-! ### Lookups -/

theorem asks_reconcileExecution (client_on : OnTestnet exchangeName client) :
    AsksOnly (Outbound py production)
      (reconcileExecution py userId accountId exchangeName credentials client id) := by
  have looksUp : ∀ prepared : PreparedExchangeRequest,
      PreparedAs client "GET" (orderLookupPath exchangeName) (securityTypeOf exchangeName) prepared →
        Outbound py production (.urlopen prepared) := by
    intro prepared as
    cases exchangeName with
    | binance => exact client_on.sends "api/v3/order" (by decide) (fun okx => nomatch okx) as
    | bybit => exact client_on.sends "v5/order/realtime" (by decide) (fun okx => nomatch okx) as
    | okx => exact client_on.sends "api/v5/trade/order" (by decide) (fun _ => rfl) as
    | mock => cases client_on.2
  refine AsksOnly.andThen (AsksOnly.tryCatch ?_ fun raised => ?_) fun outcome =>
    asks_execution.andThen fun _ => ?_
  · exact asks_execution.andThen fun _ => (asks_getPrivate looksUp).andThen fun _ =>
      (AsksOnly.ofExcept _).weaken.andThen fun _ => asks_applyTestnetOrderEvent.andThen fun _ => .done _
  · split
    · exact .done _
    · exact .throw _
  · split
    · exact .done _
    · exact .done _

theorem asks_reconcileExecutions (client_on : OnTestnet exchangeName client) (ids : List String) :
    AsksOnly (Outbound py production)
      (reconcileExecutions py userId accountId exchangeName credentials client ids) := by
  induction ids with
  | nil => exact .done _
  | cons id rest ih =>
    exact (asks_reconcileExecution client_on).andThen fun _ => ih.andThen fun _ => .done _

theorem asks_holdExecutions (rows : List OrderExecution) :
    AsksOnly (Outbound py production) (holdExecutions rows) := by
  induction rows with
  | nil => exact .done _
  | cons row rest ih => exact (asks_holdExecution row).discards.andThen fun _ => ih

theorem asks_reconcilePendingTestnetOrders :
    AsksOnly (Outbound py production) (reconcilePendingTestnetOrders py userId accountId) := by
  refine asks_getOwnedAccount.andThen fun owned => (AsksOnly.ofExcept _).weaken.andThen fun account =>
    asks_getExchangeCredentials.andThen fun credentials => ?_
  split
  · exact .throw _
  · refine asks_createTestnetSignedHttpClient.bind fun client client_on => asks_query.andThen
      fun rows => (asks_holdExecutions rows).andThen fun _ =>
      (asks_reconcileExecutions client_on _).andThen fun items => AsksOnly.andThen ?_ fun _ => .done _
    exact AsksOnly.andThen (.ask True.intro) fun _ => AsksOnly.andThen (.ask True.intro) fun _ =>
      (asks_add _).andThen fun _ => asks_commit

end orders

/-! ### Checks and reads -/

section reads

variable {userId accountId : String} {client : SignedExchangeHttpClient}
  {credentials : ExchangeCredentials} {exchangeName : ExchangeName}

/-- The balances of a testnet account; those of OKX are asked for as a simulation. -/
theorem asks_getBalances_testnet (client_on : OnTestnet exchangeName client) :
    AsksOnly (Outbound py production)
      ((createExchangeAdapter exchangeName client credentials).getBalances py) := by
  refine AsksOnly.andThen (asks_getPrivate fun prepared as => ?_) fun _ =>
    (AsksOnly.ofExcept _).weaken
  cases exchangeName with
  | binance =>
    have absolute : "/api/v3/account" = "/" ++ "api/v3/account" := by decide
    exact client_on.sends "api/v3/account" absolute (fun okx => nomatch okx) as
  | bybit =>
    have absolute : "/v5/account/wallet-balance" = "/" ++ "v5/account/wallet-balance" := by decide
    exact client_on.sends "v5/account/wallet-balance" absolute (fun okx => nomatch okx) as
  | okx =>
    have absolute : "/api/v5/account/balance" = "/" ++ "api/v5/account/balance" := by decide
    exact client_on.sends "api/v5/account/balance" absolute (fun _ => rfl) as
  | mock => cases client_on.2

theorem asks_writeAuthenticationAudit {audit : AuthenticationAudit} :
    AsksOnly (Outbound py production) (writeAuthenticationAudit userId accountId audit) :=
  AsksOnly.andThen (.ask True.intro) fun _ => AsksOnly.andThen (.ask True.intro) fun _ =>
    (asks_add _).andThen fun _ => asks_commit

theorem asks_runTestnetReadOnlyCheck {testnetAdaptersEnabled : Bool} :
    AsksOnly (Outbound py production)
      (runTestnetReadOnlyCheck py userId accountId testnetAdaptersEnabled) := by
  refine asks_getOwnedAccount.andThen fun found => ?_
  split
  · exact .throw _
  refine asks_getExchangeCredentials.andThen fun credentials => ?_
  dsimp only
  split
  · refine asks_createTestnetSignedHttpClient.bind fun client client_on => AsksOnly.andThen
      (AsksOnly.tryCatch (asks_getBalances_testnet client_on) fun raised => ?_) fun _ =>
        asks_writeAuthenticationAudit.andThen fun _ => asks_account.andThen fun _ => .done _
    exact asks_writeAuthenticationAudit.andThen fun _ => .throw _
  · exact asks_writeAuthenticationAudit.andThen fun _ => .throw _

/-! What follows reads the production host. -/

/-- A client of the production host of OKX. -/
def productionClient : SignedExchangeHttpClient where
  exchangeName := .okx
  restBaseUrl := "https://www.okx.com"

theorem reads_of_prepared {path : String} {securityType : ExchangeSecurityType}
    {prepared : PreparedExchangeRequest} (may : path ∈ productionPaths)
    (as : PreparedAs productionClient "GET" path securityType prepared) :
    Outbound py true (.urlopen prepared) := .inr ⟨rfl, as.readsProduction rfl may⟩

theorem asks_getBalances_production :
    AsksOnly (Outbound py true)
      ((createExchangeAdapter .okx productionClient credentials false).getBalances py) :=
  AsksOnly.andThen (asks_getPrivate fun _ as =>
    reads_of_prepared (show "/api/v5/account/balance" ∈ _ by decide) as) fun _ =>
      (AsksOnly.ofExcept _).weaken

theorem asks_getOpenOrders_production :
    AsksOnly (Outbound py true)
      ((createExchangeAdapter .okx productionClient credentials false).getOpenOrders py) :=
  AsksOnly.andThen (asks_getPrivate fun _ as => reads_of_prepared (by decide) as) fun _ =>
    (AsksOnly.ofExcept _).weaken

theorem exchange_of_realCheck {account : ExchangeAccount} {credentials : Option ExchangeCredentials}
    (allowed : realCheckReasons account credentials = []) : account.exchangeName = .okx := by
  unfold realCheckReasons at allowed
  by_contra other
  simp [other] at allowed

/-- A production check reads the balances of OKX. -/
theorem asks_runRealReadOnlyCheck :
    AsksOnly (Outbound py true) (runRealReadOnlyCheck py userId accountId) := by
  refine asks_getOwnedAccount.andThen fun found => ?_
  split
  · exact .throw _
  next account =>
  refine asks_getExchangeCredentials.andThen fun credentials => ?_
  cases allowed : realCheckReasons account credentials with
  | cons reason reasons =>
    exact asks_writeAuthenticationAudit.andThen fun _ => .throw _
  | nil =>
  cases credentials with
  | none => exact asks_writeAuthenticationAudit.andThen fun _ => .throw _
  | some credentials =>
    refine AsksOnly.andThen (AsksOnly.tryCatch ?_ fun raised => ?_) fun _ =>
      asks_writeAuthenticationAudit.andThen fun _ => asks_account.andThen fun _ => .done _
    · rw [exchange_of_realCheck allowed]
      exact asks_getBalances_production
    · exact asks_writeAuthenticationAudit.andThen fun _ => .throw _

theorem asks_readRealAccount {α : Type} {kind : RealReadKind}
    {read : ReadOnlyTestnetAdapter → Service (List α)}
    (reads : ∀ credentials, AsksOnly (Outbound py true)
      (read (createExchangeAdapter .okx productionClient credentials false))) :
    AsksOnly (Outbound py true) (readRealAccount py kind read userId accountId) := by
  have writes {audit : RealReadAudit} {id : String} :
      AsksOnly (Outbound py true) (writeRealReadAudit kind userId id audit) :=
    AsksOnly.andThen (.ask True.intro) fun _ => AsksOnly.andThen (.ask True.intro) fun _ =>
      (asks_add _).andThen fun _ => asks_commit
  refine asks_getOwnedAccount.andThen fun found => ?_
  split
  · exact .done _
  refine asks_getExchangeCredentials.andThen fun credentials => ?_
  dsimp only
  split
  · refine AsksOnly.andThen (AsksOnly.tryCatch ((reads _).map _ fun _ _ => True.intro) fun _ => .done _)
      fun outcome => ?_
    split
    · exact writes.andThen fun _ => .done _
    · exact writes.andThen fun _ => asks_account.andThen fun _ => .done _
  · exact .done _

theorem asks_readRealBalances : AsksOnly (Outbound py true) (readRealBalances py userId accountId) := by
  refine AsksOnly.andThen (asks_readRealAccount fun credentials => ?_) fun _ => .done _
  exact asks_getBalances_production.andThen fun _ => (AsksOnly.ofExcept _).weaken

theorem asks_readRealOpenOrders :
    AsksOnly (Outbound py true) (readRealOpenOrders py userId accountId) :=
  (asks_readRealAccount fun _ => asks_getOpenOrders_production).andThen fun _ => .done _

end reads

/-! ### Streams -/

section streams

variable {userId accountId : String} {credentials : ExchangeCredentials}
  {exchangeName : ExchangeName} {plan : TestnetUserStreamPlan}
  {connections : WebSocketConnections} {maxMessages : Int}

/-- A listen key is asked for at the testnet of Binance. -/
theorem sends_listenKeyRequest {timestampMs : Int} {unixTimestamp : String}
    (built : buildTestnetUserStreamConnectionPlan py accountId exchangeName credentials timestampMs
      unixTimestamp = .ok plan) {request : PreparedExchangeRequest}
    (requested : plan.listenKeyRequest = some request) :
    Outbound py production (.urlopen request) := by
  cases exchangeName with
  | binance =>
    cases built
    cases requested
    have client_on : OnTestnet .binance ⟨.binance, "https://testnet.binance.vision", "5000"⟩ :=
      ⟨rfl, rfl⟩
    refine client_on.sends "api/v3/userDataStream" (show "/api/v3/userDataStream" = _ by decide)
      (fun okx => nomatch okx) (?_ : PreparedAs _ "POST" _ .signed _)
    exact ⟨rfl, rfl, fun other => absurd rfl other, fun okx => nomatch okx⟩
  | bybit =>
    cases built
    cases requested
  | okx =>
    obtain ⟨apiKey, apiSecret, passphrase⟩ := credentials
    cases passphrase with
    | none => cases built
    | some passphrase =>
      cases built
      cases requested
  | mock => cases built

theorem asks_upsertBalances (columns : List BalanceColumns) :
    AsksOnly (Outbound py production) (upsertBalances userId accountId columns) := by
  induction columns with
  | nil => exact .done _
  | cons first rest ih =>
    refine AsksOnly.andThen (AsksOnly.session.andThen fun s => ?_) fun _ => ih
    split
    · exact asks_add _
    refine asks_query.andThen fun found => ?_
    split
    · exact asks_add _
    · exact asks_add _

theorem asks_upsertPositions (columns : List PositionColumns) :
    AsksOnly (Outbound py production) (upsertPositions userId accountId columns) := by
  induction columns with
  | nil => exact .done _
  | cons first rest ih =>
    refine AsksOnly.andThen (AsksOnly.session.andThen fun s => ?_) fun _ => ih
    split
    · exact asks_add _
    refine asks_query.andThen fun found => ?_
    split
    · exact asks_add _
    · exact asks_add _

theorem asks_handleTestnetUserStreamEvent {event : TestnetUserStreamEvent} :
    AsksOnly (Outbound py production) (handleTestnetUserStreamEvent py userId accountId event) := by
  unfold handleTestnetUserStreamEvent
  split
  · refine AsksOnly.andThen ?_ fun _ => .done _
    exact (AsksOnly.ofExcept _).weaken.andThen fun _ => asks_applyTestnetOrderEvent
  · refine AsksOnly.andThen (AsksOnly.andThen ?_ fun result => ?_) fun _ => .done _
    · refine asks_getOwnedAccount.andThen fun _ => (AsksOnly.ofExcept _).weaken.andThen fun _ => ?_
      split
      · exact (AsksOnly.ofExcept _).weaken.andThen fun _ => (AsksOnly.ofExcept _).weaken.andThen fun _ =>
          (asks_upsertBalances _).andThen fun _ => asks_flush.andThen fun _ => .done _
      · exact (AsksOnly.ofExcept _).weaken.andThen fun _ => (AsksOnly.ofExcept _).weaken.andThen fun _ =>
          (asks_upsertPositions _).andThen fun _ => asks_flush.andThen fun _ => .done _
      · exact .done _
    · split
      · exact asks_commit.andThen fun _ => .done _
      · exact .done _

theorem asks_consumeUserStream :
    AsksOnly (Outbound py production)
      (consumeUserStream py userId accountId connections plan maxMessages) := by
  have answers : ∀ step call s, (answerStreamCall py userId accountId connections step call s).AsksOnly
      (Outbound py production) fun _ => True := by
    intro step call s
    cases call with
    | handle event => exact (asks_handleTestnetUserStreamEvent s).bind fun _ _ => True.intro
    | _ => exact True.intro
  exact fun s => (Prog.AsksOnly.answeredBy answers).bind fun _ _ _ _ => True.intro

theorem asks_activateTestnetUserStreamConnectionPlan
    (sends : ∀ request, plan.listenKeyRequest = some request →
      Outbound py production (.urlopen request)) :
    AsksOnly (Outbound py production) (activateTestnetUserStreamConnectionPlan py plan) := by
  unfold activateTestnetUserStreamConnectionPlan
  split
  · exact .done _
  · next request requested =>
    exact (asks_transportRequest (sends request requested)).andThen fun _ => .done _

theorem asks_consumeBoundedTestnetUserStream {testnetAdaptersEnabled : Bool} :
    AsksOnly (Outbound py production) (consumeBoundedTestnetUserStream py userId accountId
      testnetAdaptersEnabled maxMessages connections) := by
  unfold consumeBoundedTestnetUserStream
  split
  · exact .done _
  refine asks_getOwnedAccount.andThen fun owned => ?_
  split
  · exact .done _
  refine asks_getExchangeCredentials.andThen fun credentials => ?_
  split
  · exact .done _
  refine asks_createTestnetSignedHttpClient.weaken.andThen fun client => ?_
  split
  · exact .done _
  next plan built =>
  refine (asks_activateTestnetUserStreamConnectionPlan fun request requested =>
    sends_listenKeyRequest built requested).andThen fun activation => ?_
  split
  · exact .done _
  refine asks_consumeUserStream.andThen fun consumed => ?_
  split
  · exact .throw _
  · exact .throw _
  · exact .done _
  · refine asks_account.andThen fun account => AsksOnly.andThen ?_ fun _ => .done _
    exact AsksOnly.andThen (.ask True.intro) fun _ => AsksOnly.andThen (.ask True.intro) fun _ =>
      (asks_add _).andThen fun _ => asks_commit

end streams

/-! ### All requests together -/

/-- The requests that may ask an exchange for anything. -/
inductive ExchangeRequest where
  | execute (userId signalId accountId : String) (alertRuntime : Bool)
  | submit (userId : String) (payload : TestnetOrderSubmitRequest) (testnetAdaptersEnabled : Bool)
  | reconcile (userId accountId : String)
  | checkTestnet (userId accountId : String) (testnetAdaptersEnabled : Bool)
  | consumeStream (userId accountId : String) (testnetAdaptersEnabled : Bool) (maxMessages : Int)
      (connections : WebSocketConnections)
  | checkReal (userId accountId : String)
  | readRealBalances (userId accountId : String)
  | readRealOpenOrders (userId accountId : String)

namespace ExchangeRequest

def service (py : Platform) : ExchangeRequest → Service Unit
  | execute userId signalId accountId alertRuntime =>
      discard <| executeSignalForAccount py userId signalId accountId alertRuntime
  | submit userId payload testnetAdaptersEnabled =>
      discard <| submitTestnetOrder py userId payload testnetAdaptersEnabled
  | reconcile userId accountId => discard <| reconcilePendingTestnetOrders py userId accountId
  | checkTestnet userId accountId testnetAdaptersEnabled =>
      discard <| runTestnetReadOnlyCheck py userId accountId testnetAdaptersEnabled
  | consumeStream userId accountId testnetAdaptersEnabled maxMessages connections =>
      discard <| consumeBoundedTestnetUserStream py userId accountId testnetAdaptersEnabled
        maxMessages connections
  | checkReal userId accountId => discard <| runRealReadOnlyCheck py userId accountId
  | readRealBalances userId accountId =>
      discard <| CopyTrading.readRealBalances py userId accountId
  | readRealOpenOrders userId accountId =>
      discard <| CopyTrading.readRealOpenOrders py userId accountId

/-- The requests that are for a production account. -/
def isReal : ExchangeRequest → Bool
  | checkReal .. | readRealBalances .. | readRealOpenOrders .. => true
  | _ => false

theorem asks_service (py : Platform) (request : ExchangeRequest) :
    AsksOnly (Outbound py request.isReal) (request.service py) := by
  cases request with
  | execute =>
    exact (asks_executeSignalForAccount allowsIds_outbound (fun _ => True.intro)
      fun _ _ => True.intro).discards
  | submit => exact asks_submitTestnetOrder.discards
  | reconcile => exact asks_reconcilePendingTestnetOrders.discards
  | checkTestnet => exact asks_runTestnetReadOnlyCheck.discards
  | consumeStream => exact asks_consumeBoundedTestnetUserStream.discards
  | checkReal => exact asks_runRealReadOnlyCheck.discards
  | readRealBalances => exact asks_readRealBalances.discards
  | readRealOpenOrders => exact asks_readRealOpenOrders.discards

end ExchangeRequest

/-- Requests that start on a committed database. -/
def asking {ι : Type} (py : Platform) (requests : ι → ExchangeRequest) (world : World) :
    Config backend fun _ : ι => Except Exc Unit × Session where
  store := world
  client i := ((requests i).service py).run

/-- In every interleaving of requests of any kind, and whatever the exchanges answer, all that is
sent to an exchange goes to a testnet, but for the requests for production accounts: these read the
balances or the open orders of a host, and send it nothing. -/
theorem production_is_only_read {ι : Type} [DecidableEq ι] {py : Platform}
    {requests : ι → ExchangeRequest} {world : World} {trace : Trace backend ι}
    {c : Config backend fun _ : ι => Except Exc Unit × Session} {i : ι}
    {prepared : PreparedExchangeRequest} {reply : HttpReply} {before after : World}
    (run : Config.Run semantics (asking py requests world) trace c)
    (sent : (i, .call (Query.urlopen prepared) reply before after) ∈ trace) :
    ForTestnet (prepared.wire py) ∨
      ((requests i).isReal = true ∧ ReadsProduction (prepared.wire py)) :=
  run.asked (((requests i).asks_service py) {}) sent

/-- An order for OKX is taken by an exchange. -/
def okxTraffic : Trace backend Unit × Config backend fun _ : Unit => Except Exc Unit × Session :=
  (asking asciiPlatform (fun _ => .submit "u"
    (sampleOrder "BTCUSDT" (.ofInt 1) toRat_oneUnit_pos).payload true)
    (approvedWorld .okx "BTCUSDT" [])).replay semantics (environment takingExchange) 0
      (List.replicate 30 ())

theorem production_is_only_read_order :
    ∃ prepared reply before after,
      ((), .call (Query.urlopen prepared) reply before after) ∈ okxTraffic.1 ∧
        prepared.method = "POST" ∧ ForTestnet (prepared.wire asciiPlatform) := by
  have posted : (lookupsOf (okxTraffic.1.map Prod.snd)).map (·.1.method) = ["POST"] := by
    decide +kernel
  obtain ⟨⟨prepared, reply⟩, sent, post⟩ :
      ∃ lookup ∈ lookupsOf (okxTraffic.1.map Prod.snd), lookup.1.method = "POST" := by
    rw [← List.mem_map, posted]
    exact List.mem_cons_self
  obtain ⟨e, he, same⟩ := List.mem_filterMap.mp sent
  obtain ⟨⟨⟨⟩, e'⟩, mem, heq⟩ := List.mem_map.mp he
  obtain rfl : e' = e := heq
  dsimp only at same
  split at same
  · next before after =>
    cases same
    rcases production_is_only_read (Config.replay_reaches (environment_allowed _) _ _ _) mem with
      testnet | ⟨real, -⟩
    · exact ⟨prepared, reply, before, after, mem, post, testnet⟩
    · cases real
  · cases same

end CopyTrading
