import CopyTrading.TestnetOrder.Instruments

/-!
Public candles. A body is checked down to the list of rows and each row to its length; the cells
are converted by `int` and `float`, and what these raise is not caught.
-/

namespace CopyTrading

/-! ### Numbers -/

/-- What converting a cell raises. -/
inductive ConversionError where
  | typeError
  | valueError
  | overflowError
  deriving DecidableEq, Repr

/-- Doubles as integers. -/
structure NumberPlatform extends Platform where
  /-- `int` of the finite double with this `repr`. -/
  truncate : String → Int

/-- A double, by what it is the nearest one to. -/
inductive PyFloat where
  | ofInt (value : Int)
  | ofRepr (repr : String)
  | ofText (text : List Char)
  deriving DecidableEq, Repr

section

variable (py : NumberPlatform)

def intOfText (text : String) : Except ConversionError Int :=
  match parseInt py.toPlatform text with
  | some value => .ok value
  | none => .error .valueError

/-- Nothing, or an exponent. -/
def isExponent : List Char → Bool
  | [] => true
  | c :: rest =>
      let digits := (splitSign rest).2
      (c = 'e' || c = 'E') && digits ≠ [] && digits.all Char.isDigit

/-- Digits with an optional point, and an optional exponent. -/
def isFloatNumber (text : List Char) : Bool :=
  let whole := text.takeWhile Char.isDigit
  match text.dropWhile Char.isDigit with
  | '.' :: rest =>
      (whole ≠ [] || rest.takeWhile Char.isDigit ≠ []) && isExponent (rest.dropWhile Char.isDigit)
  | rest => whole ≠ [] && isExponent rest

def floatOfText (text : String) : Except ConversionError PyFloat :=
  let numeral := py.numeralText text
  let unsigned := (splitSign (numeral.filter (· ≠ '_'))).2
  let lower := unsigned.map Char.toLower
  if underscoresInside false numeral ∧
      (isFloatNumber unsigned ∨ lower = "inf".toList ∨ lower = "infinity".toList ∨
        lower = "nan".toList) then
    .ok (.ofText numeral)
  else .error .valueError

/-- `int` of a JSON value. -/
def intOfCell : Json → Except ConversionError Int
  | .int value => .ok value
  | .bool value => .ok (if value then 1 else 0)
  | .float repr =>
      if repr = "nan" then .error .valueError
      else if repr = "inf" ∨ repr = "-inf" then .error .overflowError
      else .ok (py.truncate repr)
  | .str text => intOfText py text
  | .null | .arr _ | .obj _ => .error .typeError

/-- `float` of a JSON value. An integer is too large from half a step above the largest double
on. -/
def floatOfCell : Json → Except ConversionError PyFloat
  | .int value =>
      if value.natAbs < 2 ^ 1024 - 2 ^ 970 then .ok (.ofInt value) else .error .overflowError
  | .bool value => .ok (.ofInt (if value then 1 else 0))
  | .float repr => .ok (.ofRepr repr)
  | .str text => floatOfText py text
  | .null | .arr _ | .obj _ => .error .typeError

end

/-! ### Requests -/

inductive MarketDataExc where
  | publicMarketData (error : PublicMarketDataError)
  | exchangeHttpRequest (failureType : String)
  | jsonDecodeError
  | attributeError
  | conversion (e : ConversionError)
  deriving DecidableEq, Repr

/-- A `PublicMarketDataError` with its default failure type. -/
def MarketDataExc.invalid (message : String) : MarketDataExc :=
  .publicMarketData ⟨message, "invalid_response"⟩

/-- The body is whole, and JSON where it is read as such. -/
def HttpReply.isJson : HttpReply → Bool
  | .payload none | .brokenError _ | .tooDeep => false
  | _ => true

/-- An answer whose body, where there is one, is JSON. -/
structure JsonReply where
  reply : HttpReply
  json : reply.isJson = true

namespace SignedExchangeHttpClient

def preparePublicRequest (client : SignedExchangeHttpClient) (path : String)
    (params : List (String × String)) : PreparedExchangeRequest where
  method := "GET"
  url := client.restBaseUrl ++ path
  path := path
  params := params
  headers := []
  body := none

/-- `get_public`, where `transport` says what every request is answered. -/
def getPublic (py : Platform) (transport : PreparedExchangeRequest → JsonReply)
    (client : SignedExchangeHttpClient) (path : String) (params : List (String × String)) :
    Except MarketDataExc Json :=
  match readReply py (transport (client.preparePublicRequest path params)).reply with
  | .ok payload => .ok payload
  | .error (.exchangeHttpRequest failureType _ _) => .error (.exchangeHttpRequest failureType)
  | .error _ => .error .jsonDecodeError

end SignedExchangeHttpClient

/-- `PUBLIC_MARKET_BASE_URLS`. -/
def publicMarketBaseUrl : ExchangeName → Option String
  | .okx => some "https://www.okx.com"
  | .binance => some "https://api.binance.com"
  | .bybit => some "https://api.bybit.com"
  | .mock => none

def publicMarketFallbackOrder : List ExchangeName := [.binance, .bybit, .okx]

/-! ### Candles -/

structure NormalizedCandle where
  time : Int
  opening : PyFloat
  high : PyFloat
  low : PyFloat
  close : PyFloat
  volume : PyFloat
  deriving DecidableEq, Repr

/-- The six cells of a row that are read. -/
structure CandleRow where
  time : Json
  opening : Json
  high : Json
  low : Json
  close : Json
  volume : Json

/-- A list of six cells or more. -/
def CandleRow.ofJson : Json → Option CandleRow
  | .arr (time :: opening :: high :: low :: close :: volume :: _) =>
      some { time, opening, high, low, close, volume }
  | _ => none

section

variable (py : NumberPlatform)

def toCandle (row : CandleRow) (seconds : Bool := false) :
    Except ConversionError NormalizedCandle := do
  let stamp ← intOfCell py row.time
  let time := if seconds then stamp else stamp.fdiv 1000
  let opening ← floatOfCell py row.opening
  let high ← floatOfCell py row.high
  let low ← floatOfCell py row.low
  let close ← floatOfCell py row.close
  let volume ← floatOfCell py row.volume
  return { time, opening, high, low, close, volume }

/-- The candles of the rows that are long enough. -/
def toCandles (rows : List Json) : Except MarketDataExc (List NormalizedCandle) :=
  ((rows.filterMap CandleRow.ofJson).mapM fun row => toCandle py row).mapError .conversion

def parseOkx : Json → Except MarketDataExc (List NormalizedCandle)
  | .obj payload =>
      match Json.get payload "code", Json.get payload "data" with
      | .str "0", .arr rows => toCandles py rows.reverse
      | _, _ => .error (MarketDataExc.invalid "invalid OKX candle response")
  | _ => .error .attributeError

def parseBinance : Json → Except MarketDataExc (List NormalizedCandle)
  | .arr rows => toCandles py rows
  | _ => .error (MarketDataExc.invalid "invalid Binance candle response")

/-- Equal to zero, as a number. -/
def equalsZero : Json → Bool
  | .int value => value = 0
  | .bool value => !value
  | .float repr => repr = "0.0" || repr = "-0.0"
  | _ => false

def parseBybit : Json → Except MarketDataExc (List NormalizedCandle)
  | .obj payload =>
      let rows := match Json.get payload "result" with
        | .obj result => Json.get result "list"
        | _ => .null
      match equalsZero (Json.get payload "retCode"), rows with
      | true, .arr rows => toCandles py rows.reverse
      | _, _ => .error (MarketDataExc.invalid "invalid Bybit candle response")
  | _ => .error .attributeError

/-- The parser of an exchange. -/
def parseCandles : ExchangeName → Json → Except MarketDataExc (List NormalizedCandle)
  | .okx => parseOkx py
  | .binance => parseBinance py
  | _ => parseBybit py

variable (transport : PreparedExchangeRequest → JsonReply)

def getPublicCandles (exchangeName : ExchangeName) (symbol interval : String)
    (limit : Int := 200) : Except MarketDataExc (List NormalizedCandle) :=
  match publicCandlesRequest py.toPlatform exchangeName symbol interval limit with
  | .error error => .error (.publicMarketData error)
  | .ok (path, params) =>
      let client := { exchangeName, restBaseUrl := (publicMarketBaseUrl exchangeName).getD "" }
      match SignedExchangeHttpClient.getPublic py.toPlatform transport client path params >>=
          parseCandles py exchangeName with
      | .error (.exchangeHttpRequest failureType) =>
          .error (.publicMarketData ⟨"exchange market-data request failed", failureType⟩)
      | .error e => .error e
      | .ok [] => .error (.invalid "exchange returned no candle data")
      | .ok candles => .ok candles

structure PublicCandleResult where
  requestedExchange : ExchangeName
  sourceExchange : ExchangeName
  candles : List NormalizedCandle
  deriving DecidableEq, Repr

def PublicCandleResult.fallbackUsed (result : PublicCandleResult) : Bool :=
  result.requestedExchange ≠ result.sourceExchange

/-- The loop over the candidates, after the failure type of the last error. -/
def tryCandidates (exchangeName : ExchangeName) (symbol interval : String) (limit : Int) :
    Option String → List ExchangeName → Except MarketDataExc PublicCandleResult
  | lastFailure, [] =>
      .error (.publicMarketData ⟨"all exchange market-data sources failed",
        lastFailure.getD "transport_error"⟩)
  | _, candidate :: rest =>
      match getPublicCandles py transport candidate symbol interval limit with
      | .ok candles =>
          .ok { requestedExchange := exchangeName, sourceExchange := candidate, candles }
      | .error (.publicMarketData error) =>
          if error.failureType = "invalid_response" then .error (.publicMarketData error)
          else tryCandidates exchangeName symbol interval limit (some error.failureType) rest
      | .error e => .error e

/-- The requested exchange, then the others in their order. -/
def marketCandidates (exchangeName : ExchangeName) : List ExchangeName :=
  exchangeName :: publicMarketFallbackOrder.filter (· ≠ exchangeName)

def getPublicCandlesWithFallback (exchangeName : ExchangeName) (symbol interval : String)
    (limit : Int := 200) : Except MarketDataExc PublicCandleResult :=
  tryCandidates py transport exchangeName symbol interval limit none
    (marketCandidates exchangeName)

end

end CopyTrading
