import CopyTrading.Fallible
import CopyTrading.Environment
import CopyTrading.HttpClient
import CopyTrading.Text.Replace
import CopyTrading.Transaction.Answering
import CopyTrading.UserStream.Runtime

/-!
Where a private stream is opened. A plan names the address of an exchange's testnet stream, and
for Binance a listen key is put into it first; the transport opens addresses of its allowlist only.
-/

namespace CopyTrading

open Transaction ReplaceText

/-! ### Endpoints -/

/-- `TESTNET_ENDPOINTS`. -/
structure ExchangeEndpointConfig where
  restBaseUrl : String
  publicWsUrl : Option String
  privateWsUrl : Option String

def testnetEndpoint : ExchangeName → Option ExchangeEndpointConfig
  | .binance => some
      { restBaseUrl := "https://testnet.binance.vision"
        publicWsUrl := some "wss://stream.testnet.binance.vision/ws"
        privateWsUrl := none }
  | .bybit => some
      { restBaseUrl := "https://api-testnet.bybit.com"
        publicWsUrl := some "wss://stream-testnet.bybit.com/v5/public/spot"
        privateWsUrl := some "wss://stream-testnet.bybit.com/v5/private" }
  | .okx => some
      { restBaseUrl := "https://www.okx.com"
        publicWsUrl := some "wss://wspap.okx.com:8443/ws/v5/public"
        privateWsUrl := some "wss://wspap.okx.com:8443/ws/v5/private" }
  | .mock => none

/-! ### Plans -/

inductive TestnetUserStreamAuthMethod where
  | binanceListenKey
  | bybitAuth
  | okxLogin
  deriving DecidableEq

/-- The exceptions of this part of the source, and those of the transport and of the clients. -/
inductive TestnetUserStreamError where
  | notSupported (message : String)
  | activation (message : String)
  | raised (exc : Exc)

/-- A plan whose listen key may have to be asked for. -/
structure TestnetUserStreamPlan extends TestnetUserStreamConnectionPlan where
  authMethod : TestnetUserStreamAuthMethod
  listenKeyRequest : Option PreparedExchangeRequest := none

def binanceUserStreamPlan (exchangeAccountId : String) (endpoint : ExchangeEndpointConfig)
    (credentials : ExchangeCredentials) :
    Except TestnetUserStreamError TestnetUserStreamPlan :=
  match endpoint.publicWsUrl with
  | none => .error (.notSupported "Binance user stream endpoint is not configured")
  | some publicWsUrl => .ok
      { exchangeAccountId, exchangeName := .binance
        websocketUrl := publicWsUrl ++ "/\x7blistenKey\x7d", websocketLoginMessage := none
        authMethod := .binanceListenKey
        listenKeyRequest := some
          { method := "POST", url := endpoint.restBaseUrl ++ "/api/v3/userDataStream"
            path := "/api/v3/userDataStream", params := []
            headers := [("X-MBX-APIKEY", credentials.apiKey)], body := none } }

def bybitUserStreamPlan (py : Platform) (exchangeAccountId : String)
    (endpoint : ExchangeEndpointConfig) (credentials : ExchangeCredentials) (timestampMs : Int) :
    Except TestnetUserStreamError TestnetUserStreamPlan :=
  match endpoint.privateWsUrl with
  | none => .error (.notSupported "Bybit private WebSocket endpoint is not configured")
  | some privateWsUrl =>
    let expires := toString (timestampMs + 10000)
    .ok
      { exchangeAccountId, exchangeName := .bybit, websocketUrl := privateWsUrl
        authMethod := .bybitAuth
        websocketLoginMessage := some
          [("op", .str "auth"),
            ("args", .arr [.str credentials.apiKey, .str expires,
              .str (py.hmacSha256Hex credentials.apiSecret ("GET/realtime" ++ expires))])] }

def okxUserStreamPlan (py : Platform) (exchangeAccountId : String)
    (endpoint : ExchangeEndpointConfig) (credentials : ExchangeCredentials)
    (unixTimestamp : String) : Except TestnetUserStreamError TestnetUserStreamPlan :=
  match endpoint.privateWsUrl, credentials.passphrase with
  | none, _ => .error (.notSupported "OKX private WebSocket endpoint is not configured")
  | some _, none =>
    .error (.raised (.valueError "OKX WebSocket login requires an API passphrase"))
  | some privateWsUrl, some passphrase =>
    let sign := py.hmacSha256Base64 credentials.apiSecret (unixTimestamp ++ "GET/users/self/verify")
    .ok
      { exchangeAccountId, exchangeName := .okx, websocketUrl := privateWsUrl
        authMethod := .okxLogin
        websocketLoginMessage := some
          [("op", .str "login"),
            ("args", .arr [.obj [("apiKey", .str credentials.apiKey),
              ("passphrase", .str passphrase), ("timestamp", .str unixTimestamp),
              ("sign", .str sign)]])] }

def buildTestnetUserStreamConnectionPlan (py : Platform) (exchangeAccountId : String)
    (exchangeName : ExchangeName) (credentials : ExchangeCredentials)
    (timestampMs : Int := 1700000000000) (unixTimestamp : String := "1700000000") :
    Except TestnetUserStreamError TestnetUserStreamPlan :=
  match testnetEndpoint exchangeName, exchangeName with
  | none, _ => .error (.raised .keyError)
  | some endpoint, .binance => binanceUserStreamPlan exchangeAccountId endpoint credentials
  | some endpoint, .bybit =>
    bybitUserStreamPlan py exchangeAccountId endpoint credentials timestampMs
  | some endpoint, .okx =>
    okxUserStreamPlan py exchangeAccountId endpoint credentials unixTimestamp
  | some _, .mock => .error (.notSupported "testnet user stream is not supported for mock")

/-! ### Activation -/

/-- `_listen_key`. -/
def listenKey (py : Platform) (response : Json) : Except TestnetUserStreamError String :=
  match Json.get (Json.mapping response) "listenKey" with
  | .str value =>
    let key := py.strip value
    if key = "" ∨ 256 < key.length ∨ '/' ∈ key.toList then
      .error (.activation "testnet user stream listen key is invalid")
    else .ok key
  | _ => .error (.activation "testnet user stream listen key is missing")

/-- What the template holds in place of the key. -/
def listenKeyField : String := "\x7blistenKey\x7d"

/-- The address with the key put in, unless braces are left in it. -/
def activatedUrl (template key : String) : Except TestnetUserStreamError String :=
  let url := String.ofList (replaceAll listenKeyField.toList key.toList template.toList)
  if '\x7b' ∈ url.toList ∨ '\x7d' ∈ url.toList then
    .error (.activation "testnet user stream URL is invalid")
  else .ok url

/-- The plan with the key that was answered. -/
def activatedPlan (py : Platform) (plan : TestnetUserStreamPlan) (response : Json) :
    Except TestnetUserStreamError TestnetUserStreamPlan := do
  let key ← listenKey py response
  let websocketUrl ← activatedUrl plan.websocketUrl key
  return { plan with websocketUrl, listenKeyRequest := none }

/-- `activate_testnet_user_stream_connection_plan`. -/
def activateTestnetUserStreamConnectionPlan (py : Platform) (plan : TestnetUserStreamPlan) :
    Service (Except TestnetUserStreamError TestnetUserStreamPlan) :=
  match plan.listenKeyRequest with
  | none => return .ok plan
  | some request => do
    let response ← transportRequest py request
    return activatedPlan py plan response

/-! ### The allowlist of the transport -/

/-- `text.rstrip("/")`. -/
def stripSlashes (text : List Char) : List Char :=
  (text.reverse.dropWhile (· = '/')).reverse

/-- `_is_allowed_testnet_websocket_url`; an exchange without an endpoint is a missing key. -/
def isAllowedTestnetWebsocketUrl (exchangeName : ExchangeName) (websocketUrl : String) :
    Except Exc Bool :=
  if ¬ "wss://".toList <+: websocketUrl.toList then .ok false
  else
    match testnetEndpoint exchangeName with
    | none => .error .keyError
    | some endpoint =>
      if exchangeName = .binance then
        match endpoint.publicWsUrl with
        | none => .ok false
        | some publicWsUrl =>
          let start := stripSlashes publicWsUrl.toList ++ ['/']
          let key := websocketUrl.toList.drop start.length
          .ok (decide (start <+: websocketUrl.toList ∧ key ≠ [] ∧ '\x7b' ∉ key ∧ '\x7d' ∉ key ∧
            '/' ∉ key))
      else .ok (decide (endpoint.privateWsUrl = some websocketUrl))

/-! ### Activated plans -/

/-- What stands before the key in an address of Binance's stream. -/
def binanceStreamStem : List Char := "wss://stream.testnet.binance.vision/ws/".toList

/-- A key that is one path segment, with nothing left to fill in. -/
def IsSegment (key : List Char) : Prop := key ≠ [] ∧ ∀ c ∈ key, c ∉ ['\x7b', '\x7d', '/']

/-- The response has a key the stream can be opened with. -/
def UsableListenKey (py : Platform) (response : Json) : Prop :=
  ∃ value, Json.get (Json.mapping response) "listenKey" = .str value ∧
    IsSegment (py.strip value).toList ∧ (py.strip value).length ≤ 256

section activated

variable {py : Platform} {response : Json} {key websocketUrl : String}

/-- The transport opens the streams of Binance whose last segment is a key. -/
theorem isAllowed_binance_iff :
    isAllowedTestnetWebsocketUrl .binance websocketUrl = .ok true ↔
      ∃ key, websocketUrl.toList = binanceStreamStem ++ key ∧ IsSegment key := by
  have stem : stripSlashes "wss://stream.testnet.binance.vision/ws".toList ++ ['/'] =
      binanceStreamStem := by decide
  have secure : "wss://".toList <+: binanceStreamStem := by decide
  unfold isAllowedTestnetWebsocketUrl
  simp only [testnetEndpoint, if_true, stem]
  constructor
  · intro allowed
    split at allowed
    · cases allowed
    · obtain ⟨⟨key, split⟩, some, noOpen, noClose, noSlash⟩ :=
        of_decide_eq_true (Except.ok.inj allowed)
      rw [← split, List.drop_left] at some noOpen noClose noSlash
      refine ⟨key, split.symm, some, ?_⟩
      rintro c mem listed
      simp only [List.mem_cons, List.not_mem_nil, or_false] at listed
      rcases listed with rfl | rfl | rfl
      · exact noOpen mem
      · exact noClose mem
      · exact noSlash mem
  · rintro ⟨key, split, some, plain⟩
    have absent {c : Char} (listed : c ∈ ['\x7b', '\x7d', '/']) : c ∉ key :=
      fun mem => plain c mem listed
    rw [split, if_neg (not_not.mpr (secure.trans (List.prefix_append _ _))), List.drop_left]
    refine congrArg Except.ok (decide_eq_true ⟨List.prefix_append _ _, some, ?_⟩)
    exact ⟨absent (by decide), absent (by decide), absent (by decide)⟩

/-- The key is put behind the stem, unless it brings braces of its own. -/
theorem activatedUrl_binance (key : String) :
    activatedUrl "wss://stream.testnet.binance.vision/ws/\x7blistenKey\x7d" key =
      if '\x7b' ∈ key.toList ∨ '\x7d' ∈ key.toList then
        .error (.activation "testnet user stream URL is invalid")
      else .ok (String.ofList (binanceStreamStem ++ key.toList)) := by
  have template : "wss://stream.testnet.binance.vision/ws/\x7blistenKey\x7d".toList =
      binanceStreamStem ++ listenKeyField.toList := by decide
  have field : listenKeyField.toList = '\x7b' :: "listenKey\x7d".toList := by decide
  have replaced : replaceAll listenKeyField.toList key.toList
      "wss://stream.testnet.binance.vision/ws/\x7blistenKey\x7d".toList =
        binanceStreamStem ++ key.toList := by
    rw [template, field]
    exact replaceAll_append_of_notMem _ (by decide)
  have noOpen : '\x7b' ∉ binanceStreamStem := by decide
  have noClose : '\x7d' ∉ binanceStreamStem := by decide
  unfold activatedUrl
  simp only [replaced, String.toList_ofList, List.mem_append, noOpen, noClose, false_or]

theorem listenKey_eq_ok_iff :
    listenKey py response = .ok key ↔
      ∃ value, Json.get (Json.mapping response) "listenKey" = .str value ∧ key = py.strip value ∧
        key ≠ "" ∧ key.length ≤ 256 ∧ '/' ∉ key.toList := by
  unfold listenKey
  cases found : Json.get (Json.mapping response) "listenKey" with
  | str value =>
    dsimp only
    split
    · next refused =>
      refine iff_of_false (fun h => nomatch h) ?_
      rintro ⟨_, ⟨⟩, rfl, some, short, plain⟩
      rcases refused with empty | long | slash
      · exact some empty
      · omega
      · exact plain slash
    · next accepted =>
      obtain ⟨some, short, plain⟩ := by simpa only [not_or, not_lt] using accepted
      constructor
      · rintro ⟨⟩
        exact ⟨value, rfl, rfl, some, short, plain⟩
      · rintro ⟨_, ⟨⟩, rfl, -⟩
        rfl
  | null | bool | int | float | arr | obj =>
    exact iff_of_false (fun h => nomatch h) fun ⟨_, other, _⟩ => nomatch other

/-- With a key that can be used, the stream is opened behind the stem; without, not at all. -/
theorem activatedPlan_binance_iff {plan activated : TestnetUserStreamPlan}
    (template : plan.websocketUrl = "wss://stream.testnet.binance.vision/ws/\x7blistenKey\x7d") :
    activatedPlan py plan response = .ok activated ↔
      ∃ value, Json.get (Json.mapping response) "listenKey" = .str value ∧
        IsSegment (py.strip value).toList ∧ (py.strip value).length ≤ 256 ∧
        activated = { plan with
          websocketUrl := String.ofList (binanceStreamStem ++ (py.strip value).toList)
          listenKeyRequest := none } := by
  have unfolded : activatedPlan py plan response = .ok activated ↔
      ∃ key, listenKey py response = .ok key ∧ ∃ url, activatedUrl plan.websocketUrl key = .ok url ∧
        activated = { plan with websocketUrl := url, listenKeyRequest := none } := by
    unfold activatedPlan
    cases listenKey py response with
    | error raised => exact iff_of_false (fun h => nomatch h) fun ⟨_, other, _⟩ => nomatch other
    | ok key =>
      cases filled : activatedUrl plan.websocketUrl key with
      | error raised =>
        refine iff_of_false (fun h => ?_) ?_
        · rw [Fallible.ok_bind, filled] at h
          cases h
        · rintro ⟨_, ⟨⟩, _, other, -⟩
          cases filled.symm.trans other
      | ok url =>
        rw [Fallible.ok_bind, filled]
        constructor
        · rintro ⟨⟩
          exact ⟨key, rfl, url, filled, rfl⟩
        · rintro ⟨_, ⟨⟩, _, other, rfl⟩
          cases filled.symm.trans other
          rfl
  rw [unfolded]
  constructor
  · rintro ⟨key, named, url, filled, rfl⟩
    obtain ⟨value, found, rfl, some, short, noSlash⟩ := listenKey_eq_ok_iff.mp named
    rw [template, activatedUrl_binance] at filled
    split at filled
    · cases filled
    · next braces =>
      obtain rfl := Except.ok.inj filled
      refine ⟨value, found, ⟨fun empty => some (String.toList_eq_nil_iff.mp empty), ?_⟩, short, rfl⟩
      rintro c mem listed
      simp only [List.mem_cons, List.not_mem_nil, or_false] at listed
      rcases listed with rfl | rfl | rfl
      · exact braces (.inl mem)
      · exact braces (.inr mem)
      · exact noSlash mem
  · rintro ⟨value, found, ⟨some, plain⟩, short, rfl⟩
    have absent {c : Char} (listed : c ∈ ['\x7b', '\x7d', '/']) : c ∉ (py.strip value).toList :=
      fun mem => plain c mem listed
    refine ⟨py.strip value, listenKey_eq_ok_iff.mpr ⟨value, found, rfl, ?_, short, ?_⟩, _, ?_, rfl⟩
    · exact fun empty => some (String.toList_eq_nil_iff.mpr empty)
    · exact absent (by decide)
    · rw [template, activatedUrl_binance, if_neg]
      exact not_or.mpr ⟨absent (by decide), absent (by decide)⟩

end activated

/-! ### Plans that are built -/

section built

variable {py : Platform} {exchangeAccountId : String} {exchangeName : ExchangeName}
  {credentials : ExchangeCredentials} {timestampMs : Int} {unixTimestamp : String}
  {plan : TestnetUserStreamPlan}

/-- What a plan asks for before its stream is opened: Binance's key, or nothing. -/
inductive TestnetUserStreamPlan.Awaits (plan : TestnetUserStreamPlan) : Prop where
  | key (request : PreparedExchangeRequest) (exchange : plan.exchangeName = .binance)
      (requested : plan.listenKeyRequest = some request)
      (template : plan.websocketUrl =
        "wss://stream.testnet.binance.vision/ws/\x7blistenKey\x7d")
  | nothing (exchange : plan.exchangeName ≠ .binance) (requested : plan.listenKeyRequest = none)
      (allowed : isAllowedTestnetWebsocketUrl plan.exchangeName plan.websocketUrl = .ok true)

theorem awaits_of_built
    (built : buildTestnetUserStreamConnectionPlan py exchangeAccountId exchangeName credentials
      timestampMs unixTimestamp = .ok plan) :
    plan.exchangeName = exchangeName ∧ plan.exchangeAccountId = exchangeAccountId ∧ plan.Awaits := by
  cases exchangeName with
  | binance =>
    have template : "wss://stream.testnet.binance.vision/ws" ++ "/\x7blistenKey\x7d" =
        "wss://stream.testnet.binance.vision/ws/\x7blistenKey\x7d" := by decide
    cases built
    exact ⟨rfl, rfl, .key _ rfl rfl template⟩
  | bybit =>
    have allowed : isAllowedTestnetWebsocketUrl .bybit
        "wss://stream-testnet.bybit.com/v5/private" = .ok true := by
      simp [isAllowedTestnetWebsocketUrl, testnetEndpoint]
    cases built
    exact ⟨rfl, rfl, .nothing (fun h => nomatch h) rfl allowed⟩
  | okx =>
    have allowed : isAllowedTestnetWebsocketUrl .okx
        "wss://wspap.okx.com:8443/ws/v5/private" = .ok true := by
      simp [isAllowedTestnetWebsocketUrl, testnetEndpoint]
    obtain ⟨apiKey, apiSecret, passphrase⟩ := credentials
    cases passphrase with
    | none => cases built
    | some passphrase =>
      cases built
      exact ⟨rfl, rfl, .nothing (fun h => nomatch h) rfl allowed⟩
  | mock => cases built

/-- The exchange has answered with a key that can be used. -/
def AnswersUsableKey (py : Platform) (trace : List (Event backend)) : Prop :=
  ∃ request reply before after response,
    (.call (.urlopen request) reply before after : Event backend) ∈ trace ∧
      readReply py reply = .ok response ∧ UsableListenKey py response

variable {outcome : Except Exc (Except TestnetUserStreamError TestnetUserStreamPlan)}
  {s s' : Session} {w w' : World} {trace : List (Event backend)}

/-- What an activation comes to. -/
theorem activation_of_run (awaits : plan.Awaits)
    (ran : Prog.Run semantics (activateTestnetUserStreamConnectionPlan py plan s) w trace
      (.done (outcome, s')) w') :
    (plan.exchangeName ≠ .binance ∧ plan.listenKeyRequest = none ∧ outcome = .ok (.ok plan) ∧
        isAllowedTestnetWebsocketUrl plan.exchangeName plan.websocketUrl = .ok true) ∨
      (plan.exchangeName = .binance ∧
        plan.websocketUrl = "wss://stream.testnet.binance.vision/ws/{listenKey}" ∧
        ∃ request reply, trace = [.call (.urlopen request) reply w w'] ∧
          outcome = activatedPlan py plan <$> readReply py reply) := by
  unfold activateTestnetUserStreamConnectionPlan at ran
  cases awaits with
  | nothing exchange requested allowed =>
    rw [requested] at ran
    obtain ⟨-, ended, -⟩ := ran.of_done
    cases ended
    exact .inl ⟨exchange, requested, rfl, allowed⟩
  | key request exchange requested template =>
    rw [requested] at ran
    obtain ⟨reply, mid, rest, rfl, -, answered⟩ := Prog.Run.split_call ran
    have later : Prog.Run semantics
        ((Handler.ofExcept (readReply py reply) >>= fun response =>
          pure (activatedPlan py plan response) : Service _) s) mid rest
        (.done (outcome, s')) w' := answered
    cases read : readReply py reply with
    | error raised =>
      rw [read] at later
      obtain ⟨rfl, ended, rfl⟩ := later.of_done
      refine .inr ⟨exchange, template, request, reply, rfl, ?_⟩
      rw [read]
      exact (congrArg Prod.fst ended).symm
    | ok response =>
      rw [read] at later
      obtain ⟨rfl, ended, rfl⟩ := later.of_done
      refine .inr ⟨exchange, template, request, reply, rfl, ?_⟩
      rw [read]
      exact (congrArg Prod.fst ended).symm

/-- An activation that asks for the key succeeds exactly with a plan for what is answered. -/
theorem map_activatedPlan_iff {reply : HttpReply} {activated : TestnetUserStreamPlan} :
    activatedPlan py plan <$> readReply py reply = .ok (.ok activated) ↔
      ∃ response, readReply py reply = .ok response ∧
        activatedPlan py plan response = .ok activated := by
  cases readReply py reply with
  | error raised => exact iff_of_false (fun h => nomatch h) fun ⟨_, other, _⟩ => nomatch other
  | ok response =>
    constructor
    · exact fun done => ⟨response, rfl, Except.ok.inj done⟩
    · rintro ⟨_, ⟨⟩, done⟩
      exact congrArg Except.ok done

/-- An activated plan names an address its transport opens. -/
theorem allowed_of_activation {activated : TestnetUserStreamPlan} (awaits : plan.Awaits)
    (ran : Prog.Run semantics (activateTestnetUserStreamConnectionPlan py plan s) w trace
      (.done (.ok (.ok activated), s')) w') :
    isAllowedTestnetWebsocketUrl plan.exchangeName activated.websocketUrl = .ok true ∧
      activated = { plan with
        websocketUrl := activated.websocketUrl, listenKeyRequest := none } := by
  rcases activation_of_run awaits ran with
    ⟨-, requested, same, allowed⟩ | ⟨exchange, template, _, reply, -, done⟩
  · cases same
    refine ⟨allowed, ?_⟩
    rw [← requested]
  · obtain ⟨response, -, done⟩ := map_activatedPlan_iff.mp done.symm
    obtain ⟨value, -, segment, -, rfl⟩ := (activatedPlan_binance_iff template).mp done
    refine ⟨?_, rfl⟩
    rw [exchange]
    exact isAllowed_binance_iff.mpr ⟨_, String.toList_ofList, segment⟩

/-- The one answer of a run decides whether it has a usable key. -/
theorem answersUsableKey_single {request : PreparedExchangeRequest} {reply : HttpReply} :
    AnswersUsableKey py [.call (.urlopen request) reply w w'] ↔
      ∃ response, readReply py reply = .ok response ∧ UsableListenKey py response := by
  constructor
  · rintro ⟨request', reply', _, _, response, called, read, usable⟩
    cases List.mem_singleton.mp called
    exact ⟨response, read, usable⟩
  · rintro ⟨response, read, usable⟩
    exact ⟨_, _, _, _, response, List.mem_singleton.mpr rfl, read, usable⟩

/-- However the run ends: a plan is activated exactly if it needs no key or gets one that can be
used, and then names an address its transport opens. Nothing else of it is changed. -/
theorem activation_opens_allowed_streams
    (built : buildTestnetUserStreamConnectionPlan py exchangeAccountId exchangeName credentials
      timestampMs unixTimestamp = .ok plan)
    (ran : Prog.Run semantics (activateTestnetUserStreamConnectionPlan py plan s) w trace
      (.done (outcome, s')) w') :
    ((∃ activated, outcome = .ok (.ok activated)) ↔
        (exchangeName = .binance → AnswersUsableKey py trace)) ∧
      ∀ activated, outcome = .ok (.ok activated) →
        isAllowedTestnetWebsocketUrl exchangeName activated.websocketUrl = .ok true ∧
          activated = { plan with
            websocketUrl := activated.websocketUrl, listenKeyRequest := none } := by
  obtain ⟨rfl, -, awaits⟩ := awaits_of_built built
  refine ⟨?_, fun activated done => allowed_of_activation awaits (done ▸ ran)⟩
  rcases activation_of_run awaits ran with
    ⟨exchange, -, rfl, -⟩ | ⟨exchange, template, request, reply, rfl, rfl⟩
  · exact iff_of_true ⟨plan, rfl⟩ fun binance => absurd binance exchange
  · rw [forall_prop_of_true exchange, answersUsableKey_single]
    constructor
    · rintro ⟨activated, done⟩
      obtain ⟨response, read, done⟩ := map_activatedPlan_iff.mp done
      obtain ⟨value, found, segment, short, -⟩ := (activatedPlan_binance_iff template).mp done
      exact ⟨response, read, value, found, segment, short⟩
    · rintro ⟨response, read, value, found, segment, short⟩
      exact ⟨_, map_activatedPlan_iff.mpr ⟨response, read,
        (activatedPlan_binance_iff template).mpr ⟨value, found, segment, short, rfl⟩⟩⟩

def sampleKeyRequest : PreparedExchangeRequest where
  method := "POST"
  url := "https://testnet.binance.vision/api/v3/userDataStream"
  path := "/api/v3/userDataStream"
  params := []
  headers := [("X-MBX-APIKEY", "key")]
  body := none

def sampleBinancePlan : TestnetUserStreamPlan where
  exchangeAccountId := "a"
  exchangeName := .binance
  websocketUrl := "wss://stream.testnet.binance.vision/ws/\x7blistenKey\x7d"
  websocketLoginMessage := none
  authMethod := .binanceListenKey
  listenKeyRequest := some sampleKeyRequest

/-- The stream of a key that the exchange has put blanks around. -/
theorem activation_opens_allowed_streams_key :
    ∃ trace w' activated, Prog.Run semantics
        (activateTestnetUserStreamConnectionPlan asciiPlatform sampleBinancePlan {}) {} trace
        (.done (.ok (.ok activated), {})) w' ∧
      AnswersUsableKey asciiPlatform trace ∧
      isAllowedTestnetWebsocketUrl .binance activated.websocketUrl = .ok true := by
  have answered : semantics.Answers {}
      (.urlopen sampleKeyRequest) (.payload (some (.obj [("listenKey", .str " abc ")]))) {} :=
    .inl rfl
  have ran : Prog.Run semantics
      (activateTestnetUserStreamConnectionPlan asciiPlatform sampleBinancePlan {}) {} _
      (.done (.ok (activatedPlan asciiPlatform sampleBinancePlan
        (.obj [("listenKey", .str " abc ")])), {})) {} := .snoc .nil (.call answered)
  obtain ⟨iff, allowed⟩ := activation_opens_allowed_streams
    (show buildTestnetUserStreamConnectionPlan asciiPlatform "a" .binance ⟨"key", "secret", none⟩ =
      .ok sampleBinancePlan from rfl) ran
  have stripped : asciiPlatform.strip " abc " = "abc" := by decide +kernel
  have usable : UsableListenKey asciiPlatform (.obj [("listenKey", .str " abc ")]) := by
    have short : "abc".length = 3 := rfl
    refine ⟨" abc ", rfl, ?_, ?_⟩
    · rw [stripped]
      change IsSegment ['a', 'b', 'c']
      simp [IsSegment]
    · simp only [stripped, short]
      omega
  have answers : AnswersUsableKey asciiPlatform [.call (.urlopen sampleKeyRequest)
      (.payload (some (.obj [("listenKey", .str " abc ")]))) {} {}] :=
    ⟨_, _, _, _, _, List.mem_cons_self, rfl, usable⟩
  obtain ⟨activated, done⟩ := iff.mpr fun _ => answers
  rw [done] at ran
  exact ⟨_, _, activated, ran, answers, (allowed activated done).1⟩

end built

end CopyTrading
