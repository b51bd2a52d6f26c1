import CopyTrading.TestnetOrder.Gate

/-!
From a submitted order to the request on the wire: the preflight context, the payload of
each exchange, and the execution of a prepared request behind the rate limiter.
-/

namespace CopyTrading

open Transaction DecimalArith

/-- `TestnetOrderSubmitRequest`: the schema admits positive amounts, and a limit order only
with a price. -/
structure TestnetOrderSubmitRequest where
  exchangeAccountId : String
  symbol : String
  side : OrderSide
  orderType : OrderType
  quantity : Decimal
  price : Option Decimal
  clientOrderId : String
  manualTestnetOrderEnableConfirmed : Bool
  quantity_pos : 0 < quantity.toRat
  price_pos : ∀ p ∈ price, 0 < p.toRat
  limit_price : orderType = .limit → price.isSome

structure TestnetOrderRequestInput where
  exchangeName : ExchangeName
  symbol : String
  side : OrderSide
  orderType : OrderType
  quantity : Decimal
  clientOrderId : String
  price : Option Decimal

structure TestnetOrderApiContext where
  account : ExchangeAccount
  order : TestnetOrderRequestInput
  gateResult : TestnetOrderGateResult
  credentials : ExchangeCredentials
  authorization : TestnetOrderWindowAuthorization

/-! ### The preflight context -/

def gateInput (payload : TestnetOrderSubmitRequest) (testnetAdaptersEnabled : Bool)
    (account : ExchangeAccount) (riskSettings : RiskSetting) (apiKeyConfigured : Bool) :
    TestnetOrderGateInput where
  exchangeName := account.exchangeName
  accountMode := account.accountMode
  testnetAdaptersEnabled := testnetAdaptersEnabled
  exchangeAccountTradingEnabled := account.tradingEnabled
  riskTradingEnabled := riskSettings.tradingEnabled
  apiKeyConfigured := apiKeyConfigured
  manualTestnetOrderEnableConfirmed := payload.manualTestnetOrderEnableConfirmed

def windowOrder (payload : TestnetOrderSubmitRequest) : WindowOrder where
  symbol := payload.symbol
  side := payload.side
  quantity := payload.quantity
  price := payload.price

def requestInput (payload : TestnetOrderSubmitRequest) (exchangeName : ExchangeName) :
    TestnetOrderRequestInput where
  exchangeName := exchangeName
  symbol := payload.symbol
  side := payload.side
  orderType := payload.orderType
  quantity := payload.quantity
  clientOrderId := payload.clientOrderId
  price := payload.price

/-- The refusal of the window check becomes the refusal of the request. -/
def authorizeWindow (py : Platform) (userId : String) (payload : TestnetOrderSubmitRequest)
    (accountId : String) : Service TestnetOrderWindowAuthorization :=
  tryCatch (requireValidTestnetOrderWindowAuthorization py userId accountId (windowOrder payload))
    fun
      | .windowAuthorization reasons => throw (.orderApiBlocked reasons)
      | other => throw other

def buildTestnetOrderApiContext (py : Platform) (userId : String)
    (payload : TestnetOrderSubmitRequest) (testnetAdaptersEnabled : Bool) :
    Service TestnetOrderApiContext := do
  match ← getOwnedAccount userId payload.exchangeAccountId with
  | none => throw (.valueError "account not found")
  | some owned =>
    let riskSettings ← getOrCreateRiskSettings userId owned.id
    -- loaded again when creating the risk settings has committed
    let account ← Session.account owned.id
    let secretMetadata ← getApiKeySecretMetadata userId account.id
    let gateResult := checkTestnetOrderGate
      (gateInput payload testnetAdaptersEnabled account riskSettings secretMetadata.isSome)
    Handler.raiseIf (gateResult.approved = false) (.orderApiBlocked gateResult.reasons)
    let authorization ← authorizeWindow py userId payload account.id
    match ← getExchangeCredentials py userId account.id with
    | none => throw (.orderApiBlocked ["testnet API key metadata must be configured"])
    | some credentials =>
      return { account, order := requestInput payload account.exchangeName, gateResult
               credentials, authorization }

/-! ### Payloads -/

/-- `format(value.normalize(), "f")`. -/
def decimalText (value : Decimal) : String :=
  String.ofList (value.normalize decimalPrecision).formatPlain

def requiredPrice (order : TestnetOrderRequestInput) : Except Exc String :=
  match order.price with
  | none => .error (.valueError "limit orders require price")
  | some price => .ok (decimalText price)

/-- The price field of a limit order, under the name the exchange gives it. -/
def limitFields (order : TestnetOrderRequestInput) (before : List (String × String))
    (name : String) : Except Exc (List (String × String)) :=
  match order.orderType with
  | .market => .ok []
  | .limit => do
    let price ← requiredPrice order
    return before ++ [(name, price)]

def binanceOrderParams (py : Platform) (order : TestnetOrderRequestInput) :
    Except Exc (List (String × String)) := do
  let limit ← limitFields order [("timeInForce", "GTC")] "price"
  return [("symbol", py.upper order.symbol), ("side", order.side.value),
    ("type", order.orderType.value), ("quantity", decimalText order.quantity),
    ("newClientOrderId", order.clientOrderId)] ++ limit

def titleSide : OrderSide → String
  | .buy => "Buy"
  | .sell => "Sell"

def titleOrderType : OrderType → String
  | .market => "Market"
  | .limit => "Limit"

def bybitOrderBody (py : Platform) (order : TestnetOrderRequestInput) :
    Except Exc (List (String × String)) := do
  let limit ← limitFields order [] "price"
  return [("category", "spot"), ("symbol", py.upper order.symbol), ("side", titleSide order.side),
    ("orderType", titleOrderType order.orderType), ("qty", decimalText order.quantity),
    ("orderLinkId", order.clientOrderId)] ++ limit

/-- `side.value.lower()`. -/
def lowerSide : OrderSide → String
  | .buy => "buy"
  | .sell => "sell"

/-- `order_type.value.lower()`. -/
def lowerOrderType : OrderType → String
  | .market => "market"
  | .limit => "limit"

def okxSymbol (py : Platform) (symbol : String) : String :=
  let normalized := py.upper symbol
  if '-' ∈ normalized.toList then normalized
  else if "USDT".toList.isSuffixOf normalized.toList then
    String.ofList (normalized.toList.dropLast.dropLast.dropLast.dropLast) ++ "-USDT"
  else normalized

def okxOrderBody (py : Platform) (order : TestnetOrderRequestInput) :
    Except Exc (List (String × String)) := do
  let limit ← limitFields order [] "px"
  return [("instId", okxSymbol py order.symbol), ("tdMode", "cash"), ("side", lowerSide order.side),
    ("ordType", lowerOrderType order.orderType), ("sz", decimalText order.quantity),
    ("clOrdId", order.clientOrderId)] ++ limit

def prepareTestnetOrderRequest (py : Platform) (order : TestnetOrderRequestInput)
    (gateResult : TestnetOrderGateResult) (httpClient : SignedExchangeHttpClient)
    (credentials : ExchangeCredentials) : Service PreparedExchangeRequest := do
  Handler.raiseIf (gateResult.approved = false) .orderRequestBlocked
  match order.exchangeName with
  | .binance =>
    let params ← Handler.ofExcept (binanceOrderParams py order)
    httpClient.preparePrivatePostRequest py "/api/v3/order" credentials params
  | .bybit =>
    let body ← Handler.ofExcept (bybitOrderBody py order)
    httpClient.preparePrivatePostRequest py "/v5/order/create" credentials [] (some (Json.ofTexts body))
  | .okx =>
    let body ← Handler.ofExcept (okxOrderBody py order)
    httpClient.preparePrivatePostRequest py "/api/v5/trade/order" credentials [] (some (Json.ofTexts body))
      .okxDemoSigned
  | .mock => throw (.valueError "unsupported testnet order exchange: mock")

/-! ### Execution -/

structure TestnetOrderExecutionResult where
  exchangeName : ExchangeName
  clientOrderId : String
  requestMethod : String
  requestPath : String
  exchangeResponse : Json

/-- `rate_limiter.acquire_testnet_order`. -/
def acquireTestnetOrder (exchangeName : ExchangeName) (exchangeAccountId requestPath : String) :
    Service Unit := do
  match ← ask (.acquireTestnetOrder exchangeName exchangeAccountId requestPath) with
  | .granted => pure ()
  | .exceeded ruleName retryAfterSeconds => throw (.rateLimitExceeded ruleName retryAfterSeconds)
  | .storeUnavailable => throw .rateLimitStoreUnavailable

def executeTestnetOrder (py : Platform) (order : TestnetOrderRequestInput)
    (gateResult : TestnetOrderGateResult) (httpClient : SignedExchangeHttpClient)
    (credentials : ExchangeCredentials) (exchangeAccountId : String) :
    Service TestnetOrderExecutionResult := do
  let prepared ← prepareTestnetOrderRequest py order gateResult httpClient credentials
  acquireTestnetOrder order.exchangeName exchangeAccountId prepared.path
  let exchangeResponse ← transportRequest py prepared
  return { exchangeName := order.exchangeName, clientOrderId := order.clientOrderId
           requestMethod := prepared.method, requestPath := prepared.path, exchangeResponse }

end CopyTrading
