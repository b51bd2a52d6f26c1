import CopyTrading.Effects
import CopyTrading.Fallible
import CopyTrading.TestnetOrder.Request

/-!
What an order looks like on the wire: the request that is prepared for each exchange, and
the instrument, side, client order id, quantity and price an exchange reads from it.
-/

namespace CopyTrading

open Transaction Transaction.Handler DecimalArith Fallible

/-- The order fields of a request: the texts of its body, or its query where it has no body. -/
def PreparedExchangeRequest.fields (request : PreparedExchangeRequest) : List (String × String) :=
  (request.body.map Json.texts).getD request.params

/-- The payload that is built for the exchange of the order. -/
def orderFields (py : Platform) (order : TestnetOrderRequestInput) :
    Except Exc (List (String × String)) :=
  match order.exchangeName with
  | .binance => binanceOrderParams py order
  | .bybit => bybitOrderBody py order
  | .okx => okxOrderBody py order
  | .mock => .error (.valueError "unsupported testnet order exchange: mock")

/-- A request as it is prepared for the order; signing adds fields of its own. -/
structure PreparedFor (py : Platform) (order : TestnetOrderRequestInput)
    (prepared : PreparedExchangeRequest) : Prop where
  method : prepared.method = "POST"
  fields : ∃ payload signed, orderFields py order = .ok payload ∧
    prepared.fields = payload ++ signed ∧ ∀ entry ∈ signed, entry.1 ∈ signatureFields
  body : prepared.body = none ∧ order.exchangeName = .binance ∨
    prepared.body.isSome ∧ prepared.params = [] ∧ order.exchangeName ≠ .binance

variable {py : Platform} {order : TestnetOrderRequestInput} {prepared : PreparedExchangeRequest}

/-! ### Reading the payload -/

/-- The names the exchange gives to the client order id, the quantity and the price. -/
def clientOrderIdField : ExchangeName → String
  | .bybit => "orderLinkId"
  | .okx => "clOrdId"
  | _ => "newClientOrderId"

def quantityField : ExchangeName → String
  | .bybit => "qty"
  | .okx => "sz"
  | _ => "quantity"

def priceField : ExchangeName → String
  | .okx => "px"
  | _ => "price"

/-- The name of the field that carries the instrument id. -/
def instrumentField : ExchangeName → String
  | .okx => "instId"
  | _ => "symbol"

/-- What the payload for the exchange calls the instrument of a symbol. -/
def instrumentId (py : Platform) : ExchangeName → String → String
  | .okx, symbol => okxSymbol py symbol
  | _, symbol => py.upper symbol

/-- How the payload for the exchange writes a side. -/
def sideText : ExchangeName → OrderSide → String
  | .bybit => titleSide
  | .okx => lowerSide
  | _ => OrderSide.value

theorem limitFields_ok {before : List (String × String)} {name : String}
    {limit : List (String × String)} (built : limitFields order before name = .ok limit) :
    order.orderType = .market ∧ limit = [] ∨
      order.orderType = .limit ∧ ∃ price, order.price = some price ∧
        limit = before ++ [(name, decimalText price)] := by
  unfold limitFields requiredPrice at built
  cases htype : order.orderType with
  | market =>
    rw [htype] at built
    cases built
    exact .inl ⟨rfl, rfl⟩
  | limit =>
    rw [htype] at built
    cases hprice : order.price with
    | none =>
      rw [hprice] at built
      cases built
    | some price =>
      rw [hprice] at built
      cases built
      exact .inr ⟨rfl, price, rfl, rfl⟩

/-- What every payload consists of. -/
theorem orderFields_ok {payload : List (String × String)}
    (built : orderFields py order = .ok payload) :
    payload.lookup (quantityField order.exchangeName) = some (decimalText order.quantity) ∧
    payload.lookup (clientOrderIdField order.exchangeName) = some order.clientOrderId ∧
    payload.lookup (priceField order.exchangeName) =
      (if order.orderType = .limit then order.price.map decimalText else none) ∧
    (order.exchangeName = .okx → payload.lookup "orderLinkId" = none) := by
  unfold orderFields at built
  cases hexchange : order.exchangeName with
  | mock =>
    rw [hexchange] at built
    cases built
  | binance =>
    rw [hexchange] at built
    cases hlimit : limitFields order [("timeInForce", "GTC")] "price" with
    | error raised => simp [binanceOrderParams, hlimit, bind, Except.bind] at built
    | ok limit =>
      simp only [binanceOrderParams, hlimit, bind, Except.bind, pure, Except.pure,
        Except.ok.injEq] at built
      subst built
      rcases limitFields_ok hlimit with ⟨htype, rfl⟩ | ⟨htype, price, hprice, rfl⟩ <;>
        simp [List.lookup_cons, quantityField, clientOrderIdField, priceField, *]
  | bybit =>
    rw [hexchange] at built
    cases hlimit : limitFields order [] "price" with
    | error raised => simp [bybitOrderBody, hlimit, bind, Except.bind] at built
    | ok limit =>
      simp only [bybitOrderBody, hlimit, bind, Except.bind, pure, Except.pure,
        Except.ok.injEq] at built
      subst built
      rcases limitFields_ok hlimit with ⟨htype, rfl⟩ | ⟨htype, price, hprice, rfl⟩ <;>
        simp [List.lookup_cons, quantityField, clientOrderIdField, priceField, *]
  | okx =>
    rw [hexchange] at built
    cases hlimit : limitFields order [] "px" with
    | error raised => simp [okxOrderBody, hlimit, bind, Except.bind] at built
    | ok limit =>
      simp only [okxOrderBody, hlimit, bind, Except.bind, pure, Except.pure,
        Except.ok.injEq] at built
      subst built
      rcases limitFields_ok hlimit with ⟨htype, rfl⟩ | ⟨htype, price, hprice, rfl⟩ <;>
        simp [List.lookup_cons, quantityField, clientOrderIdField, priceField, *]

/-- Every payload names the instrument and the side. -/
theorem orderFields_instrument {payload : List (String × String)}
    (built : orderFields py order = .ok payload) :
    payload.lookup (instrumentField order.exchangeName) =
        some (instrumentId py order.exchangeName order.symbol) ∧
      payload.lookup "side" = some (sideText order.exchangeName order.side) := by
  unfold orderFields at built
  cases hexchange : order.exchangeName with
  | mock =>
    rw [hexchange] at built
    cases built
  | binance | bybit | okx =>
    rw [hexchange] at built
    obtain ⟨limit, -, hpayload⟩ := bind_eq_ok.mp built
    cases hpayload
    exact ⟨rfl, rfl⟩

namespace PreparedFor

/-- A field of the order is read from the payload, whatever signing has added. -/
theorem lookup_eq (prepares : PreparedFor py order prepared) (name : String)
    (unsigned : name ∉ signatureFields) :
    ∃ payload, orderFields py order = .ok payload ∧
      prepared.fields.lookup name = payload.lookup name := by
  obtain ⟨payload, signed, built, hfields, hsigned⟩ := prepares.fields
  refine ⟨payload, built, ?_⟩
  rw [hfields, List.lookup_append]
  have missing : signed.lookup name = none := List.lookup_eq_none_iff.mpr fun entry hentry => by
    have hname := hsigned entry hentry
    exact bne_iff_ne.mpr fun same : name = entry.1 => unsigned (same ▸ hname)
  rw [missing, Option.or_none]

theorem quantity (prepares : PreparedFor py order prepared) :
    prepared.fields.lookup (quantityField order.exchangeName) =
      some (decimalText order.quantity) := by
  obtain ⟨payload, built, hlookup⟩ := prepares.lookup_eq (quantityField order.exchangeName)
    (by cases order.exchangeName <;> decide)
  exact hlookup.trans (orderFields_ok built).1

theorem price (prepares : PreparedFor py order prepared) :
    prepared.fields.lookup (priceField order.exchangeName) =
      if order.orderType = .limit then order.price.map decimalText else none := by
  obtain ⟨payload, built, hlookup⟩ := prepares.lookup_eq (priceField order.exchangeName)
    (by cases order.exchangeName <;> decide)
  exact hlookup.trans (orderFields_ok built).2.2.1

/-- The exchange reads the instrument of the symbol of the order. -/
theorem instrumentId (prepares : PreparedFor py order prepared) :
    prepared.fields.lookup (instrumentField order.exchangeName) =
      some (CopyTrading.instrumentId py order.exchangeName order.symbol) := by
  obtain ⟨payload, built, hlookup⟩ := prepares.lookup_eq (instrumentField order.exchangeName)
    (by cases order.exchangeName <;> decide)
  exact hlookup.trans (orderFields_instrument built).1

/-- It reads the side of the order. -/
theorem side (prepares : PreparedFor py order prepared) :
    prepared.fields.lookup "side" = some (sideText order.exchangeName order.side) := by
  obtain ⟨payload, built, hlookup⟩ := prepares.lookup_eq "side" (by decide)
  exact hlookup.trans (orderFields_instrument built).2

/-- The exchange reads the client order id of the order. -/
theorem clientOrderId (prepares : PreparedFor py order prepared) :
    prepared.clientOrderId = some order.clientOrderId := by
  obtain ⟨payload, built, hlookup⟩ := prepares.lookup_eq (clientOrderIdField order.exchangeName)
    (by cases order.exchangeName <;> decide)
  have hid := hlookup.trans (orderFields_ok built).2.1
  unfold PreparedExchangeRequest.clientOrderId
  rw [if_pos prepares.method]
  unfold PreparedExchangeRequest.fields at hid
  rcases prepares.body with ⟨hbody, hexchange⟩ | ⟨hbody, hparams, hexchange⟩
  · rw [hbody, hexchange] at hid
    rw [show prepared.params.lookup "newClientOrderId" = some order.clientOrderId from hid]
    rfl
  · obtain ⟨body, hsome⟩ := Option.isSome_iff_exists.mp hbody
    rw [hsome] at hid
    rw [hparams, hsome]
    obtain ⟨payload', built', hlink⟩ := prepares.lookup_eq "orderLinkId" (by decide)
    unfold PreparedExchangeRequest.fields at hlink
    rw [hsome] at hlink
    cases hname : order.exchangeName with
    | binance => exact absurd hname hexchange
    | mock =>
      rw [orderFields, hname] at built
      cases built
    | bybit =>
      rw [hname] at hid
      exact congrArg (Option.orElse · _) hid
    | okx =>
      rw [hname] at hid
      have none := hlink.trans ((orderFields_ok built').2.2.2 hname)
      simp only [Option.map_some, Option.getD_some, clientOrderIdField] at hid none
      simp [hid, none]

end PreparedFor

/-! ### Preparing the request -/

variable {P : Protocol backend} {α : Type} {s : Session} {m : P.Phase}
  {post : Except Exc α → Session → P.Phase → Prop}

/-- Signing asks for a time stamp and nothing else; only OKX wants a passphrase. -/
theorem follows_preparePost_bind {client : SignedExchangeHttpClient} {path : String}
    {credentials : ExchangeCredentials} {params : List (String × String)}
    {body : Option (List (String × Json))} {securityType : ExchangeSecurityType}
    {next : PreparedExchangeRequest → Service α}
    (idle : ∀ e : Event backend, asksNoExchange e = true → P.Move m e m)
    (unsigned : client.exchangeName = .okx → credentials.passphrase = none → ∀ message,
      post (.error (.valueError message)) s m)
    (unsupported : client.exchangeName ≠ .mock)
    (prepared : ∀ prepared : PreparedExchangeRequest, prepared.method = "POST" →
      (client.exchangeName = .okx → credentials.passphrase ≠ none) →
      (client.exchangeName = .binance → prepared.body = none ∧
        ∃ signed, prepared.params = params ++ signed ∧
          ∀ entry ∈ signed, entry.1 ∈ signatureFields) →
      (client.exchangeName ≠ .binance → prepared.params = params ∧
        prepared.body = some (body.getD [])) →
      Follows P semantics (next prepared) post s m) :
    Follows P semantics
      (client.preparePrivatePostRequest py path credentials params body securityType >>= next)
      post s m := by
  unfold SignedExchangeHttpClient.preparePrivatePostRequest SignedExchangeHttpClient.preparePrivate
  cases hexchange : client.exchangeName with
  | mock => exact absurd hexchange unsupported
  | binance =>
    unfold SignedExchangeHttpClient.prepareBinanceRequest
    refine follows_ask_bind.mpr fun _ timestamp _ _ => ⟨m, idle _ rfl, ?_⟩
    refine prepared _ rfl (by simp [hexchange]) (fun _ => ⟨rfl, _, List.append_assoc _ _ _, ?_⟩)
      (fun other => absurd hexchange other)
    simp [signatureFields]
  | bybit =>
    unfold SignedExchangeHttpClient.prepareBybitRequest
    refine follows_ask_bind.mpr fun _ timestamp _ _ => ⟨m, idle _ rfl, ?_⟩
    exact prepared _ rfl (by simp [hexchange]) (by simp [hexchange]) fun _ => ⟨rfl, rfl⟩
  | okx =>
    unfold SignedExchangeHttpClient.prepareOkxRequest
    cases hpassphrase : credentials.passphrase with
    | none => exact unsigned hexchange hpassphrase _
    | some passphrase =>
      refine follows_ask_bind.mpr fun _ timestamp _ _ => ⟨m, idle _ rfl, ?_⟩
      exact prepared _ rfl (by simp [hpassphrase]) (by simp [hexchange]) fun _ => ⟨rfl, rfl⟩

/-- The request that is prepared for an approved order of a supported exchange. -/
theorem follows_prepareTestnetOrderRequest_bind {gateResult : TestnetOrderGateResult}
    {client : SignedExchangeHttpClient} {credentials : ExchangeCredentials}
    {next : PreparedExchangeRequest → Service α} (approved : gateResult.approved = true)
    (same : client.exchangeName = order.exchangeName) (supported : order.exchangeName ≠ .mock)
    (priced : order.price.isSome) (idle : ∀ e : Event backend, asksNoExchange e = true → P.Move m e m)
    (unsigned : order.exchangeName = .okx → credentials.passphrase = none → ∀ message,
      post (.error (.valueError message)) s m)
    (prepared : ∀ prepared, PreparedFor py order prepared →
      (order.exchangeName = .okx → credentials.passphrase ≠ none) →
      Follows P semantics (next prepared) post s m) :
    Follows P semantics
      (prepareTestnetOrderRequest py order gateResult client credentials >>= next) post s m := by
  obtain ⟨price, hprice⟩ := Option.isSome_iff_exists.mp priced
  have builds : ∀ before name, ∃ limit, limitFields order before name = .ok limit := by
    intro before name
    unfold limitFields requiredPrice
    rw [hprice]
    cases order.orderType <;> exact ⟨_, rfl⟩
  unfold prepareTestnetOrderRequest
  rw [bind_assoc]
  refine follows_raiseIf_bind (fun refused => by rw [approved] at refused; cases refused) fun _ => ?_
  cases hexchange : order.exchangeName with
  | mock => exact absurd hexchange supported
  | binance =>
    rw [bind_assoc]
    refine follows_ofExcept_bind (fun raised failed => ?_) fun payload built => ?_
    · obtain ⟨limit, hlimit⟩ := builds [("timeInForce", "GTC")] "price"
      simp [binanceOrderParams, hlimit, bind, Except.bind, pure, Except.pure] at failed
    · refine follows_preparePost_bind idle (by simp [same, hexchange]) (by simp [same, hexchange]) ?_
      intro request method _ binance _
      obtain ⟨hbody, signed, hparams, hsigned⟩ := binance (same.trans hexchange)
      refine prepared request ⟨method, ⟨payload, signed, ?_, ?_, hsigned⟩, .inl ⟨hbody, hexchange⟩⟩
        (by simp [hexchange])
      · rw [orderFields, hexchange]
        exact built
      · rw [PreparedExchangeRequest.fields, hbody]
        exact hparams
  | bybit =>
    rw [bind_assoc]
    refine follows_ofExcept_bind (fun raised failed => ?_) fun payload built => ?_
    · obtain ⟨limit, hlimit⟩ := builds [] "price"
      simp [bybitOrderBody, hlimit, bind, Except.bind, pure, Except.pure] at failed
    · refine follows_preparePost_bind idle (by simp [same, hexchange]) (by simp [same, hexchange]) ?_
      intro request method _ _ other
      obtain ⟨hparams, hbody⟩ := other (by simp [same, hexchange])
      refine prepared request ⟨method, ⟨payload, [], ?_, ?_, by simp⟩,
        .inr ⟨by simp [hbody], hparams, by simp [hexchange]⟩⟩ (by simp [hexchange])
      · rw [orderFields, hexchange]
        exact built
      · rw [PreparedExchangeRequest.fields, hbody, List.append_nil]
        exact Json.texts_ofTexts payload
  | okx =>
    rw [bind_assoc]
    refine follows_ofExcept_bind (fun raised failed => ?_) fun payload built => ?_
    · obtain ⟨limit, hlimit⟩ := builds [] "px"
      simp [okxOrderBody, hlimit, bind, Except.bind, pure, Except.pure] at failed
    · refine follows_preparePost_bind idle (fun _ missing => unsigned hexchange missing)
        (by simp [same, hexchange]) ?_
      intro request method stored _ other
      obtain ⟨hparams, hbody⟩ := other (by simp [same, hexchange])
      refine prepared request ⟨method, ⟨payload, [], ?_, ?_, by simp⟩,
        .inr ⟨by simp [hbody], hparams, by simp [hexchange]⟩⟩ fun _ => stored (same.trans hexchange)
      · rw [orderFields, hexchange]
        exact built
      · rw [PreparedExchangeRequest.fields, hbody, List.append_nil]
        exact Json.texts_ofTexts payload

end CopyTrading
