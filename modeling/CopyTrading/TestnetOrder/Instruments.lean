import CopyTrading.Text.Replace
import CopyTrading.TestnetOrder.BlockedSymbols
import CopyTrading.TestnetOrder.Lifecycle

/-!
The instrument ids under which a symbol reaches OKX: in an order, in the look-up of an order, in
the request for the rules of the symbol, and in the request for its candles.
-/

namespace CopyTrading

open Fallible

/-! ### Rules of a symbol -/

/-- `symbol.replace("USDT", "-USDT")`. -/
def hyphenateUsdt (symbol : String) : String :=
  String.ofList (ReplaceText.replaceAll "USDT".toList "-USDT".toList symbol.toList)

/-- `OKXAdapter._symbol_rules_params`. -/
def okxSymbolRulesParams (symbol : String) : List (String × String) :=
  [("instType", "SPOT"), ("instId", hyphenateUsdt symbol)]

/-- The first item with the instrument id; an item before it that is no mapping raises. -/
def findInstrument (instId : String) : List Json → Except Exc (Option (List (String × Json)))
  | [] => .ok none
  | .obj item :: rest =>
    if isStr instId (Json.get item "instId") then .ok (some item) else findInstrument instId rest
  | _ :: _ => .error .attributeError
where
  isStr (text : String) : Json → Bool
    | .str value => value = text
    | _ => false

/-- `OKXAdapter._normalize_symbol_rules`. -/
def okxNormalizeSymbolRules (symbol : String) (response : List (String × Json)) :
    Except Exc (List (String × Json)) := do
  let instruments ← iterate ((Json.lookup "data" response).getD (.arr []))
  match ← findInstrument (hyphenateUsdt symbol) instruments with
  | none => throw (.valueError ("symbol rules not found: " ++ symbol))
  | some symbolData =>
    return [("exchange", .str ExchangeName.okx.value), ("symbol", .str symbol),
      ("exchange_symbol", Json.get symbolData "instId"),
      ("base_asset", Json.get symbolData "baseCcy"),
      ("quote_asset", Json.get symbolData "quoteCcy"),
      ("min_quantity", Json.get symbolData "minSz"),
      ("quantity_step", Json.get symbolData "lotSz"),
      ("tick_size", Json.get symbolData "tickSz"), ("raw", .obj symbolData)]

/-! ### Public candles -/

structure PublicMarketDataError where
  message : String
  failureType : String := "invalid_response"
  deriving DecidableEq, Repr

/-- Raise unless the condition holds. -/
def requireMarket (condition : Prop) [Decidable condition] (message : String) :
    Except PublicMarketDataError Unit :=
  if condition then .ok () else .error ⟨message, "invalid_response"⟩

/-- `_normalize_symbol`. -/
def normalizeSymbol (py : Platform) (symbol : String) : Except PublicMarketDataError String :=
  let normalized := py.strip
    (String.ofList (((py.upper symbol).toList.filter (· ≠ '/')).filter (· ≠ '-')))
  do
    requireMarket ((normalized ≠ "" ∧ normalized.toList.all py.isAlnum) ∧
      5 ≤ normalized.length ∧ normalized.length ≤ 24) "invalid trading symbol"
    return normalized

def quoteCurrencies : List String := ["USDT", "USDC", "USD", "BTC", "ETH"]

/-- What stands before the quote, when the symbol ends with it and has more. -/
def baseOf (symbol quote : String) : Option String :=
  if quote.toList.isSuffixOf symbol.toList ∧ quote.length < symbol.length then
    some (String.ofList (symbol.toList.take (symbol.length - quote.length)))
  else none

/-- The first quote currency that fits, behind its base. -/
def splitQuote (symbol : String) : Option (String × String) :=
  quoteCurrencies.findSome? fun quote => (baseOf symbol quote).map fun base => (base, quote)

/-- `_hyphen_symbol`. -/
def hyphenSymbol (symbol : String) : Except PublicMarketDataError String :=
  match splitQuote symbol with
  | some (base, quote) => .ok (base ++ "-" ++ quote)
  | none => .error ⟨"unsupported quote currency", "invalid_response"⟩

def supportedIntervals : List String := ["1m", "5m", "15m", "1h"]

/-- `_bybit_interval`. -/
def bybitInterval : String → String
  | "1m" => "1"
  | "5m" => "5"
  | "15m" => "15"
  | _ => "60"

/-- The request of `get_public_candles`: its path and parameters. -/
def publicCandlesRequest (py : Platform) (exchangeName : ExchangeName) (symbol interval : String)
    (limit : Int) : Except PublicMarketDataError (String × List (String × String)) := do
  requireMarket (exchangeName ≠ .mock) "public candles are not available for this exchange"
  requireMarket (interval ∈ supportedIntervals) "unsupported candle interval"
  requireMarket (20 ≤ limit ∧ limit ≤ 300) "candle limit must be between 20 and 300"
  let normalizedSymbol ← normalizeSymbol py symbol
  match exchangeName with
  | .okx =>
    let instId ← hyphenSymbol normalizedSymbol
    return ("/api/v5/market/candles",
      [("instId", instId), ("bar", interval), ("limit", toString limit)])
  | .binance =>
    return ("/api/v3/klines",
      [("symbol", normalizedSymbol), ("interval", interval), ("limit", toString limit)])
  | _ =>
    return ("/v5/market/kline",
      [("category", "spot"), ("symbol", normalizedSymbol), ("interval", bybitInterval interval),
        ("limit", toString limit)])

/-! ### The instrument of a symbol -/

/-- The requests in which a symbol becomes an instrument id. -/
inductive InstrumentUse where
  | submitOrder
  | lookUpOrder
  | fetchRules
  deriving DecidableEq, Repr

/-- The instrument id in a request about a symbol. -/
def InstrumentUse.instrument (py : Platform) (symbol : String) : InstrumentUse → String
  | submitOrder => okxSymbol py symbol
  | lookUpOrder => okxSymbol py symbol
  | fetchRules => hyphenateUsdt (py.upper symbol)

section requests

variable {py : Platform}

theorem instId_okxOrderBody {order : TestnetOrderRequestInput} {body : List (String × String)}
    (built : okxOrderBody py order = .ok body) :
    body.lookup "instId" = some (InstrumentUse.submitOrder.instrument py order.symbol) := by
  obtain ⟨limit, -, hbody⟩ := bind_eq_ok.mp built
  cases hbody
  rfl

theorem instId_orderLookupParams (execution : OrderExecution) :
    (orderLookupParams py execution .okx).lookup "instId" =
      some (InstrumentUse.lookUpOrder.instrument py execution.symbol) := rfl

/-- `get_symbol_rules` upper-cases the symbol first. -/
theorem instId_okxSymbolRulesParams (symbol : String) :
    (okxSymbolRulesParams (py.upper symbol)).lookup "instId" =
      some (InstrumentUse.fetchRules.instrument py symbol) := rfl

theorem isStr_of_findInstrument {instId : String} {items : List Json}
    {found : List (String × Json)} (search : findInstrument instId items = .ok (some found)) :
    Json.get found "instId" = .str instId := by
  induction items with
  | nil => cases search
  | cons item rest ih =>
    unfold findInstrument at search
    split at search
    · cases search
    · next item _ heq =>
      cases heq
      split at search
      · next same =>
        cases search
        unfold findInstrument.isStr at same
        split at same
        · next value held =>
          rw [held]
          exact congrArg _ (of_decide_eq_true same)
        · cases same
      · exact ih search
    · cases search

/-- The rules are those of the instrument that was asked for. -/
theorem exchangeSymbol_okxNormalizeSymbolRules {symbol : String}
    {response rules : List (String × Json)}
    (normalized : okxNormalizeSymbolRules (py.upper symbol) response = .ok rules) :
    Json.get rules "exchange_symbol" = .str (InstrumentUse.fetchRules.instrument py symbol) := by
  obtain ⟨instruments, -, normalized⟩ := bind_eq_ok.mp normalized
  obtain ⟨search, found, normalized⟩ := bind_eq_ok.mp normalized
  split at normalized
  · cases normalized
  · cases normalized
    exact isStr_of_findInstrument found

theorem instId_publicCandlesRequest {symbol interval : String} {limit : Int}
    {request : String × List (String × String)}
    (built : publicCandlesRequest py .okx symbol interval limit = .ok request) :
    ∃ normalized base quote, normalizeSymbol py symbol = .ok normalized ∧
      splitQuote normalized = some (base, quote) ∧
      request.2.lookup "instId" = some (base ++ "-" ++ quote) := by
  obtain ⟨_, -, built⟩ := bind_eq_ok.mp built
  obtain ⟨_, -, built⟩ := bind_eq_ok.mp built
  obtain ⟨_, -, built⟩ := bind_eq_ok.mp built
  obtain ⟨normalized, hnormalized, built⟩ := bind_eq_ok.mp built
  obtain ⟨instId, hyphened, built⟩ := bind_eq_ok.mp built
  cases built
  unfold hyphenSymbol at hyphened
  split at hyphened
  · next base quote found =>
    cases hyphened
    exact ⟨normalized, base, quote, hnormalized, found, rfl⟩
  · cases hyphened

/-- A symbol that can be normalized and split is accepted with every valid interval and limit. -/
theorem publicCandlesRequest_of_split {symbol normalized base quote : String}
    (accepted : normalizeSymbol py symbol = .ok normalized)
    (split : splitQuote normalized = some (base, quote)) :
    ∃ request, publicCandlesRequest py .okx symbol "1m" 20 = .ok request ∧
      request.2.lookup "instId" = some (base ++ "-" ++ quote) := by
  have hyphened : hyphenSymbol normalized = .ok (base ++ "-" ++ quote) := by
    unfold hyphenSymbol
    rw [split]
  refine ⟨("/api/v5/market/candles", [("instId", base ++ "-" ++ quote), ("bar", "1m"),
    ("limit", toString (20 : Int))]), ?_, rfl⟩
  unfold publicCandlesRequest requireMarket
  rw [if_pos (by decide), ok_bind, if_pos (by decide), ok_bind, if_pos (by decide), ok_bind,
    accepted, ok_bind]
  dsimp only
  rw [hyphened, ok_bind]
  rfl

end requests

/-! ### What the normalized symbol and its quote look like -/

section

variable {py : Platform} {symbol normalized base quote : String}

theorem splitQuote_spec (found : splitQuote normalized = some (base, quote)) :
    quote ∈ quoteCurrencies ∧ normalized = base ++ quote := by
  obtain ⟨quote', listed, held⟩ := List.exists_of_findSome?_eq_some found
  obtain ⟨base', split, same⟩ := Option.map_eq_some_iff.mp held
  cases same
  refine ⟨listed, ?_⟩
  unfold baseOf at split
  split at split
  · next fits =>
    cases split
    obtain ⟨front, whole⟩ := List.isSuffixOf_iff_suffix.mp fits.1
    have lengths := congrArg List.length whole
    rw [← String.toList_inj, String.toList_append, String.toList_ofList]
    rw [List.length_append, String.length_toList, String.length_toList] at lengths
    rw [← whole, List.take_left' (by omega)]
  · cases split

/-- Neither the base nor the quote has a hyphen of its own. -/
theorem plain_of_normalizeSymbol (accepted : normalizeSymbol py symbol = .ok (base ++ quote)) :
    '-' ∉ base.toList := by
  obtain ⟨_, -, kept⟩ := bind_eq_ok.mp accepted
  intro inside
  have held : '-' ∈ (base ++ quote).toList := by
    rw [String.toList_append]
    exact List.mem_append_left _ inside
  rw [← Except.ok.inj kept] at held
  unfold Platform.strip at held
  rw [String.toList_ofList, String.toList_ofList] at held
  have kept := List.dropWhile_subset _ (List.mem_reverse.mp
    (List.dropWhile_subset _ (List.mem_reverse.mp held)))
  exact absurd (List.mem_filter.mp kept).2 (by decide)

end

/-! ### One instrument for a symbol -/

/-- All requests name the same instrument. -/
def SameInstrument (py : Platform) (symbol : String) : Prop :=
  ∀ a b : InstrumentUse, a.instrument py symbol = b.instrument py symbol

/-- An instrument id is its own instrument id, in each request. -/
def KeepsInstrument (py : Platform) (symbol : String) : Prop :=
  ∀ use : InstrumentUse, use.instrument py (use.instrument py symbol) = use.instrument py symbol

/-- Candles that can be requested are those of the instrument an order is submitted for. -/
def SameCandles (py : Platform) (symbol : String) : Prop :=
  ∀ interval limit request, publicCandlesRequest py .okx symbol interval limit = .ok request →
    request.2.lookup "instId" = some (InstrumentUse.submitOrder.instrument py symbol)

/-- `USDT` is written nowhere in the symbol. -/
def WithoutUsdt (py : Platform) (symbol : String) : Prop :=
  ¬ "USDT".toList <:+: (py.upper symbol).toList

/-- `USDT` is written at the end of a symbol without hyphens, and nowhere else in it. -/
def UsdtOnceAtEnd (py : Platform) (symbol : String) : Prop :=
  ∃ base : String, '-' ∉ base.toList ∧ ¬ "USDT".toList <:+: base.toList ∧
    py.upper symbol = base ++ "USDT"

/-- When candles can be requested, the symbol is written like the instrument, or without the
hyphen before `USDT`. -/
def WrittenAsPair (py : Platform) (symbol : String) : Prop :=
  ∀ normalized base quote, normalizeSymbol py symbol = .ok normalized →
    splitQuote normalized = some (base, quote) →
    py.upper symbol = base ++ "-" ++ quote ∨ quote = "USDT" ∧ py.upper symbol = base ++ quote

section

variable {py : Platform} {symbol : String}

theorem hyphenateUsdt_eq_iff {text result : String} :
    hyphenateUsdt text = result ↔
      ReplaceText.replaceAll "USDT".toList "-USDT".toList text.toList = result.toList := by
  unfold hyphenateUsdt
  rw [← String.toList_inj, String.toList_ofList]

theorem hyphenateUsdt_eq_self_iff {text : String} :
    hyphenateUsdt text = text ↔ ¬ "USDT".toList <:+: text.toList :=
  hyphenateUsdt_eq_iff.trans (ReplaceText.replaceAll_eq_self_iff (by decide) (by decide))

theorem usdt_hyphenateUsdt_iff {text : String} :
    "USDT".toList <:+: (hyphenateUsdt text).toList ↔ "USDT".toList <:+: text.toList := by
  have held : "USDT".toList <:+: "-USDT".toList := (List.suffix_cons '-' "USDT".toList).isInfix
  have letters : (hyphenateUsdt text).toList =
      ReplaceText.replaceAll "USDT".toList "-USDT".toList text.toList := String.toList_ofList
  rw [letters]
  exact ReplaceText.infix_replaceAll_iff (by decide) held

theorem sameInstrument_iff_eq : SameInstrument py symbol ↔
    hyphenateUsdt (py.upper symbol) = okxSymbol py symbol := by
  constructor
  · intro same
    exact same .fetchRules .submitOrder
  · intro same a b
    cases a <;> cases b <;> simp [InstrumentUse.instrument, same]

theorem sameInstrument_iff :
    SameInstrument py symbol ↔ WithoutUsdt py symbol ∨ UsdtOnceAtEnd py symbol := by
  rw [sameInstrument_iff_eq]
  rcases okxSymbol_cases py symbol with same | ⟨base, plain, spelled⟩
  · -- the order keeps the symbol, so the rules have to as well
    have once : ¬ UsdtOnceAtEnd py symbol := by
      rintro ⟨base, plain, -, spelled⟩
      rw [okxSymbol_quoted plain spelled, spelled, String.append_right_inj] at same
      exact absurd same (by decide)
    rw [same, hyphenateUsdt_eq_self_iff]
    exact (or_iff_left once).symm
  · have occurs : ¬ WithoutUsdt py symbol := by
      unfold WithoutUsdt
      rw [spelled, String.toList_append]
      exact not_not.mpr (List.suffix_append _ _).isInfix
    have ends : hyphenateUsdt (base ++ "USDT") = base ++ "-USDT" ↔
        ¬ "USDT".toList <:+: base.toList := by
      rw [hyphenateUsdt_eq_iff, String.toList_append, String.toList_append]
      exact @ReplaceText.replaceAll_append_iff _ _ _ 'U' "SDT".toList _ (by decide) (by decide)
    rw [or_iff_right occurs, okxSymbol_quoted plain spelled, spelled, ends]
    constructor
    · intro absent
      exact ⟨base, plain, absent, spelled⟩
    · rintro ⟨base', -, absent, spelled'⟩
      rw [spelled, String.append_left_inj] at spelled'
      rw [spelled']
      exact absent

/-- Upper-casing keeps the letters that the ids add to an upper-cased symbol. -/
theorem fixed_hyphenUsdt (ascii : py.Ascii) {c : Char} (held : c ∈ "-USDT".toList) :
    py.upperChar c = [c] := by
  have letters : ∀ c ∈ "-USDT".toList, c.toNat < 128 ∧ c.toUpper = c := by simp
  obtain ⟨small, upper⟩ := letters c held
  rw [ascii.upper c small, upper]

theorem upper_okxSymbol (ascii : py.Ascii) (stable : py.UpperStable) :
    py.upper (okxSymbol py symbol) = okxSymbol py symbol := by
  rcases okxSymbol_cases py symbol with same | ⟨base, plain, spelled⟩
  · rw [same, stable.upper_upper]
  · refine Platform.upper_of_fixed fun c held => ?_
    rw [okxSymbol_quoted plain spelled, String.toList_append] at held
    rcases List.mem_append.mp held with inBase | inQuote
    · have held : c ∈ (py.upper symbol).toList := by
        rw [spelled, String.toList_append]
        exact List.mem_append_left _ inBase
      exact stable.fixed held
    · exact fixed_hyphenUsdt ascii inQuote

theorem okxSymbol_okxSymbol (ascii : py.Ascii) (stable : py.UpperStable) :
    okxSymbol py (okxSymbol py symbol) = okxSymbol py symbol := by
  have upper : py.upper (okxSymbol py symbol) = okxSymbol py symbol := upper_okxSymbol ascii stable
  rcases okxSymbol_cases py symbol with same | ⟨base, plain, spelled⟩
  · exact (okxSymbol_eq_iff py _ _).mpr (.inl (upper.trans same))
  · have hyphen : '-' ∈ (py.upper (okxSymbol py symbol)).toList := by
      rw [upper, okxSymbol_quoted plain spelled]
      simp
    rw [okxSymbol_hyphened hyphen, upper]

theorem upper_hyphenateUsdt (ascii : py.Ascii) (stable : py.UpperStable) :
    py.upper (hyphenateUsdt (py.upper symbol)) = hyphenateUsdt (py.upper symbol) := by
  refine Platform.upper_of_fixed fun c held => ?_
  unfold hyphenateUsdt at held
  rw [String.toList_ofList] at held
  rcases ReplaceText.mem_of_mem_replaceAll (by decide) _ held with old | new
  · exact stable.fixed old
  · exact fixed_hyphenUsdt ascii new

theorem keepsInstrument_iff (ascii : py.Ascii) (stable : py.UpperStable) :
    KeepsInstrument py symbol ↔ WithoutUsdt py symbol := by
  have rules : hyphenateUsdt (py.upper (hyphenateUsdt (py.upper symbol))) =
      hyphenateUsdt (py.upper symbol) ↔ WithoutUsdt py symbol := by
    rw [upper_hyphenateUsdt ascii stable, hyphenateUsdt_eq_self_iff, usdt_hyphenateUsdt_iff,
      WithoutUsdt]
  unfold KeepsInstrument
  constructor
  · intro keeps
    have kept := keeps .fetchRules
    rw [InstrumentUse.instrument, InstrumentUse.instrument] at kept
    rw [← rules, kept]
  · intro absent use
    have order : okxSymbol py (okxSymbol py symbol) = okxSymbol py symbol :=
      okxSymbol_okxSymbol ascii stable
    cases use with
    | submitOrder => exact order
    | lookUpOrder => exact order
    | fetchRules =>
      rw [InstrumentUse.instrument, InstrumentUse.instrument, rules]
      exact absent

/-- Candles are those of the order's instrument exactly for symbols written as a pair. -/
theorem sameCandles_iff : SameCandles py symbol ↔ WrittenAsPair py symbol := by
  constructor
  · intro same normalized base quote accepted found
    obtain ⟨request, built, instId⟩ := publicCandlesRequest_of_split accepted found
    have equal : base ++ "-" ++ quote = okxSymbol py symbol :=
      Option.some.inj (instId.symm.trans (same _ _ _ built))
    rcases okxSymbol_cases py symbol with kept | ⟨base', plain', spelled⟩
    · exact .inl (kept.symm.trans equal.symm)
    · right
      have plain := plain_of_normalizeSymbol ((splitQuote_spec found).2 ▸ accepted)
      have quotesPlain : ∀ quote ∈ quoteCurrencies, '-' ∉ quote.toList := by decide
      rw [okxSymbol_quoted plain' spelled] at equal
      have letters := congrArg String.toList equal
      simp only [String.toList_append] at letters
      have parts : base.toList ++ '-' :: quote.toList = base'.toList ++ '-' :: "USDT".toList := by
        simpa using letters
      obtain ⟨sameBase, -, sameQuote⟩ :=
        (List.append_cons_inj_of_notMem plain (quotesPlain _ (splitQuote_spec found).1)).mp parts
      rw [String.toList_inj] at sameBase sameQuote
      exact ⟨sameQuote, by rw [spelled, sameBase, sameQuote]⟩
  · intro written interval limit request built
    obtain ⟨normalized, base, quote, accepted, found, instId⟩ := instId_publicCandlesRequest built
    rw [instId]
    refine congrArg some ?_
    have plain := plain_of_normalizeSymbol ((splitQuote_spec found).2 ▸ accepted)
    rcases written normalized base quote accepted found with spelled | ⟨rfl, spelled⟩
    · have hyphen : '-' ∈ (py.upper symbol).toList := by simp [spelled]
      exact ((okxSymbol_hyphened hyphen).trans spelled).symm
    · rw [InstrumentUse.instrument, okxSymbol_quoted plain spelled]
      exact String.append_assoc

end

/-- All requests name one instrument that is its own instrument, and the candles are its candles,
exactly for symbols without `USDT` that are written as a pair. The requests alone agree for
`USDT` at the end as well. -/
theorem one_okx_instrument_iff {py : Platform} (ascii : py.Ascii) (stable : py.UpperStable)
    (symbol : String) :
    (SameInstrument py symbol ∧ KeepsInstrument py symbol ∧ SameCandles py symbol ↔
        WithoutUsdt py symbol ∧ WrittenAsPair py symbol) ∧
      (SameInstrument py symbol ↔ WithoutUsdt py symbol ∨ UsdtOnceAtEnd py symbol) ∧
      (KeepsInstrument py symbol ↔ WithoutUsdt py symbol) ∧
      (SameCandles py symbol ↔ WrittenAsPair py symbol) := by
  refine ⟨?_, sameInstrument_iff, keepsInstrument_iff ascii stable, sameCandles_iff⟩
  rw [sameInstrument_iff, keepsInstrument_iff ascii stable, sameCandles_iff]
  constructor
  · rintro ⟨-, absent, written⟩
    exact ⟨absent, written⟩
  · rintro ⟨absent, written⟩
    exact ⟨.inl absent, absent, written⟩

/-- A pair written with its hyphen is one instrument everywhere; one without is that of the candles
too, but not its own. -/
theorem one_okx_instrument_iff_lower :
    (SameInstrument asciiPlatform "eth-btc" ∧ KeepsInstrument asciiPlatform "eth-btc" ∧
        SameCandles asciiPlatform "eth-btc") ∧
      SameInstrument asciiPlatform "btcusdt" ∧ ¬ KeepsInstrument asciiPlatform "btcusdt" ∧
      SameCandles asciiPlatform "btcusdt" := by
  constructor
  · refine (one_okx_instrument_iff asciiPlatform_ascii asciiPlatform_upperStable "eth-btc").1.mpr ?_
    have without : ¬ "USDT".toList <:+: (asciiPlatform.upper "eth-btc").toList := by decide +kernel
    refine ⟨without, fun normalized base quote named splits => ?_⟩
    have normalized_eq : normalizeSymbol asciiPlatform "eth-btc" = .ok "ETHBTC" := by decide +kernel
    cases normalized_eq.symm.trans named
    have split_eq : splitQuote "ETHBTC" = some ("ETH", "BTC") := by decide +kernel
    cases split_eq.symm.trans splits
    exact .inl (by decide +kernel)
  · obtain ⟨-, same, keeps, candles⟩ :=
      one_okx_instrument_iff asciiPlatform_ascii asciiPlatform_upperStable "btcusdt"
    have holds : "USDT".toList <:+: (asciiPlatform.upper "btcusdt").toList := by decide +kernel
    refine ⟨same.mpr (.inr ⟨"BTC", by decide, by decide, by decide⟩), ?_, candles.mpr ?_⟩
    · exact fun kept => keeps.mp kept holds
    · intro normalized base quote named splits
      have normalized_eq : normalizeSymbol asciiPlatform "btcusdt" = .ok "BTCUSDT" := by
        decide +kernel
      cases normalized_eq.symm.trans named
      have split_eq : splitQuote "BTCUSDT" = some ("BTC", "USDT") := by decide +kernel
      cases split_eq.symm.trans splits
      exact .inr ⟨rfl, by decide +kernel⟩

/-- The rules of a hyphenated symbol are asked for under an id that no order is submitted for, and
the id of an unhyphenated one is changed again; candles may be those of another instrument. -/
theorem instruments_differ :
    ¬ SameInstrument asciiPlatform "BTC-USDT" ∧ ¬ KeepsInstrument asciiPlatform "BTCUSDT" ∧
      ¬ SameCandles asciiPlatform "ETHBTC" := by
  refine ⟨fun same => ?_, fun keeps => ?_, fun same => ?_⟩
  · exact absurd (same .submitOrder .fetchRules) (by decide)
  · exact absurd (keeps .fetchRules) (by decide)
  · have built : ∃ request, publicCandlesRequest asciiPlatform .okx "ETHBTC" "1m" 20 =
        .ok request ∧ request.2.lookup "instId" = some "ETH-BTC" := ⟨_, rfl, rfl⟩
    obtain ⟨request, built, instId⟩ := built
    exact absurd (instId.symm.trans (same _ _ _ built)) (by decide)

end CopyTrading
