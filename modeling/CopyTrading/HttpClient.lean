import CopyTrading.ExchangeAccounts

/-!
Signed exchange requests and the transport that sends them.
-/

namespace CopyTrading

open Transaction

inductive ExchangeSecurityType where
  | publicRequest | signed | okxDemoSigned
  deriving DecidableEq, Repr

/-- `SignedExchangeHttpClient` with its default transport and clocks. -/
structure SignedExchangeHttpClient where
  exchangeName : ExchangeName
  restBaseUrl : String
  recvWindow : String := "5000"

def testnetRestBaseUrl : ExchangeName → Option String
  | .binance => some "https://testnet.binance.vision"
  | .bybit => some "https://api-testnet.bybit.com"
  | .okx => some "https://www.okx.com"
  | .mock => none

/-- An exchange without a testnet endpoint is a missing key of the endpoint table. -/
def createTestnetSignedHttpClient (exchangeName : ExchangeName) :
    Service SignedExchangeHttpClient :=
  match testnetRestBaseUrl exchangeName with
  | some restBaseUrl => pure { exchangeName, restBaseUrl }
  | none => throw .keyError

/-! ### Transport -/

def httpFailureType (statusCode : Nat) : String :=
  if statusCode = 401 ∨ statusCode = 403 then "authentication_failed"
  else if statusCode = 429 then "rate_limited"
  else if 500 ≤ statusCode then "exchange_unavailable"
  else "request_rejected"

/-- The `code` of an error body that is a JSON object, cut to 40 characters. -/
def readExchangeErrorCode (py : Platform) : Option Json → Option String
  | some (.obj fields) =>
      match Json.get fields "code" with
      | .null => none
      | code =>
          let value := py.strOf code
          if value = "" then none else some (String.ofList (value.toList.take 40))
  | _ => none

/-- What `UrllibExchangeHttpTransport.request` makes of the outcome of `urlopen`. -/
def readReply (py : Platform) : HttpReply → Except Exc Json
  | .payload (some body) => .ok body
  | .payload none => .error .jsonDecodeError
  | .empty => .ok (.obj [])
  | .httpError code body =>
      .error (.exchangeHttpRequest (httpFailureType code) (some code)
        (readExchangeErrorCode py body))
  -- raised while the body is read, where no clause of the transport catches it
  | .brokenError _ => .error .incompleteRead
  | .tooDeep => .error .recursionError
  | .failure => .error (.exchangeHttpRequest "transport_error" none none)

/-- `UrllibExchangeHttpTransport.request`, whose request line and body are `prepared.wire`. -/
def transportRequest (py : Platform) (prepared : PreparedExchangeRequest) : Service Json := do
  let reply ← ask (.urlopen prepared)
  Handler.ofExcept (readReply py reply)

/-! ### What is put on the wire -/

def canonicalQuery (py : Platform) (params : List (String × String)) : String :=
  py.urlencode (sortByKey params)

def jsonBody (py : Platform) (body : Option (List (String × Json))) : String :=
  py.dumpsSorted (body.getD [])

/-- `f"{url}?{query}" if query else url`. -/
def withQuery (url query : String) : String := if query = "" then url else url ++ "?" ++ query

/-- The arguments of `urllib.request.Request`. -/
structure WireRequest where
  method : String
  url : String
  headers : List (String × String)
  body : Option String

/-- What `UrllibExchangeHttpTransport.request` hands to `urlopen`. -/
def PreparedExchangeRequest.wire (py : Platform) (prepared : PreparedExchangeRequest) :
    WireRequest where
  method := prepared.method
  url := withQuery prepared.url (canonicalQuery py prepared.params)
  headers := ("User-Agent", "crypto-copy-trading-platform/0.1") :: prepared.headers
  body := prepared.body.map fun body => jsonBody py (some body)

/-! ### Signing -/

/-- What signing adds to a query. -/
def signatureFields : List String := ["timestamp", "recvWindow", "signature"]

namespace SignedExchangeHttpClient

variable (py : Platform) (client : SignedExchangeHttpClient)

def prepareBinanceRequest (method path : String) (credentials : ExchangeCredentials)
    (params : List (String × String)) : Service PreparedExchangeRequest := do
  let timestamp ← ask .timestampMs
  let signedParams := params ++
    [("timestamp", toString timestamp), ("recvWindow", client.recvWindow)]
  let signature := py.hmacSha256Hex credentials.apiSecret (canonicalQuery py signedParams)
  return { method, url := client.restBaseUrl ++ path, path
           params := signedParams ++ [("signature", signature)]
           headers := [("X-MBX-APIKEY", credentials.apiKey)]
           body := none }

def prepareBybitRequest (method path : String) (credentials : ExchangeCredentials)
    (params : List (String × String)) (body : Option (List (String × Json))) :
    Service PreparedExchangeRequest := do
  let requestBody := if method = "POST" then some (body.getD []) else none
  let timestampMs ← ask .timestampMs
  let timestamp := toString timestampMs
  let payloadData := match requestBody with
    | some _ => jsonBody py requestBody
    | none => canonicalQuery py params
  let payload := timestamp ++ credentials.apiKey ++ client.recvWindow ++ payloadData
  let headers :=
    [("X-BAPI-API-KEY", credentials.apiKey), ("X-BAPI-TIMESTAMP", timestamp),
      ("X-BAPI-RECV-WINDOW", client.recvWindow),
      ("X-BAPI-SIGN", py.hmacSha256Hex credentials.apiSecret payload)] ++
    if requestBody.isSome then [("Content-Type", "application/json")] else []
  return { method, url := client.restBaseUrl ++ path, path, params, headers, body := requestBody }

def prepareOkxRequest (method path : String) (credentials : ExchangeCredentials)
    (params : List (String × String)) (body : Option (List (String × Json)))
    (securityType : ExchangeSecurityType) : Service PreparedExchangeRequest := do
  match credentials.passphrase with
  | none => throw (.valueError "OKX signed requests require an API passphrase")
  | some passphrase =>
    let requestBody := if method = "POST" then some (body.getD []) else none
    let timestamp ← ask .isoTimestamp
    let query := canonicalQuery py params
    let pathWithQuery := withQuery path query
    let bodyPayload := match requestBody with
      | some _ => jsonBody py requestBody
      | none => ""
    let signaturePayload := timestamp ++ method ++ pathWithQuery ++ bodyPayload
    let headers :=
      [("OK-ACCESS-KEY", credentials.apiKey),
        ("OK-ACCESS-SIGN", py.hmacSha256Base64 credentials.apiSecret signaturePayload),
        ("OK-ACCESS-TIMESTAMP", timestamp), ("OK-ACCESS-PASSPHRASE", passphrase)] ++
      (if requestBody.isSome then [("Content-Type", "application/json")] else []) ++
      if securityType = .okxDemoSigned then [("x-simulated-trading", "1")] else []
    return { method, url := client.restBaseUrl ++ path, path, params, headers
             body := requestBody }

/-- `_prepare_private_request`. -/
def preparePrivate (method path : String) (credentials : ExchangeCredentials)
    (params : List (String × String)) (body : Option (List (String × Json)))
    (securityType : ExchangeSecurityType) : Service PreparedExchangeRequest :=
  match client.exchangeName with
  | .binance => client.prepareBinanceRequest py method path credentials params
  | .bybit => client.prepareBybitRequest py method path credentials params body
  | .okx => client.prepareOkxRequest py method path credentials params body securityType
  | .mock => throw (.valueError "signed HTTP client is not supported for mock")

def preparePrivatePostRequest (path : String) (credentials : ExchangeCredentials)
    (params : List (String × String) := []) (body : Option (List (String × Json)) := none)
    (securityType : ExchangeSecurityType := .signed) : Service PreparedExchangeRequest :=
  client.preparePrivate py "POST" path credentials params body securityType

def getPrivate (path : String) (credentials : ExchangeCredentials)
    (params : List (String × String)) (securityType : ExchangeSecurityType) : Service Json := do
  let prepared ← client.preparePrivate py "GET" path credentials params none securityType
  transportRequest py prepared

end SignedExchangeHttpClient

end CopyTrading
