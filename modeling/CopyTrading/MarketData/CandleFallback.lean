import CopyTrading.Environment
import CopyTrading.MarketData.PublicCandles

/-!
What the candle requests raise. The exchange that is asked last decides: every exchange asked
before it answered with an error, and of its own body the parser must be able to read each row
that is long enough.
-/

namespace CopyTrading

open Fallible

/-- Nothing is raised but a `PublicMarketDataError`. -/
def Contained {α : Type} (outcome : Except MarketDataExc α) : Prop :=
  ∀ e, outcome = .error e → ∃ error, e = .publicMarketData error

/-- A list that is not empty, or a `PublicMarketDataError`. -/
def CandlesServed (outcome : Except MarketDataExc (List NormalizedCandle)) : Prop :=
  Contained outcome ∧ outcome ≠ .ok []

namespace Contained

variable {α : Type}

theorem ok (value : α) : Contained (.ok value) := by
  rintro e ⟨⟩

theorem publicMarketData (error : PublicMarketDataError) :
    Contained (.error (.publicMarketData error) : Except MarketDataExc α) := by
  rintro e ⟨⟩
  exact ⟨error, rfl⟩

theorem error_iff {e : MarketDataExc} :
    Contained (.error e : Except MarketDataExc α) ↔ ∃ error, e = .publicMarketData error := by
  constructor
  · intro contained
    exact contained e rfl
  · rintro ⟨error, rfl⟩
    exact publicMarketData error

end Contained

/-! ### Bodies that can be read -/

section

variable (py : NumberPlatform)

/-- `int` reads the first cell and `float` the other five. -/
structure CandleRow.Converts (row : CandleRow) : Prop where
  time : ∃ value, intOfCell py row.time = .ok value
  amounts : ∀ cell ∈ [row.opening, row.high, row.low, row.close, row.volume],
    ∃ value, floatOfCell py cell = .ok value

def RowsConvert (rows : List Json) : Prop :=
  ∀ row ∈ rows.filterMap CandleRow.ofJson, row.Converts py

/-- The body has the attributes the parser asks for, and where it is accepted its rows convert. -/
def Readable : ExchangeName → Json → Prop
  | .okx, payload => ∃ fields, payload = .obj fields ∧
      (Json.get fields "code" = .str "0" → ∀ rows, Json.get fields "data" = .arr rows →
        RowsConvert py rows)
  | .binance, payload => ∀ rows, payload = .arr rows → RowsConvert py rows
  | _, payload => ∃ fields, payload = .obj fields ∧
      (equalsZero (Json.get fields "retCode") = true →
        ∀ result, Json.get fields "result" = .obj result →
          ∀ rows, Json.get result "list" = .arr rows → RowsConvert py rows)

end

section

variable {py : NumberPlatform}

theorem toCandle_isOk {row : CandleRow} :
    (∃ candle, toCandle py row = .ok candle) ↔ row.Converts py := by
  constructor
  · rintro ⟨candle, converted⟩
    obtain ⟨time, htime, converted⟩ := bind_eq_ok.mp converted
    obtain ⟨opening, hopening, converted⟩ := bind_eq_ok.mp converted
    obtain ⟨high, hhigh, converted⟩ := bind_eq_ok.mp converted
    obtain ⟨low, hlow, converted⟩ := bind_eq_ok.mp converted
    obtain ⟨close, hclose, converted⟩ := bind_eq_ok.mp converted
    obtain ⟨volume, hvolume, -⟩ := bind_eq_ok.mp converted
    constructor
    · exact ⟨time, htime⟩
    · simp only [List.forall_mem_cons]
      exact ⟨⟨_, hopening⟩, ⟨_, hhigh⟩, ⟨_, hlow⟩, ⟨_, hclose⟩, ⟨_, hvolume⟩, by simp⟩
  · rintro ⟨⟨time, htime⟩, amounts⟩
    simp only [List.forall_mem_cons] at amounts
    obtain ⟨⟨opening, hopening⟩, ⟨high, hhigh⟩, ⟨low, hlow⟩, ⟨close, hclose⟩, ⟨volume, hvolume⟩,
      -⟩ := amounts
    simp only [toCandle, htime, hopening, hhigh, hlow, hclose, hvolume, ok_bind]
    exact ⟨_, rfl⟩

/-- The rows convert, or the first that does not raises. -/
theorem toCandles_cases (py : NumberPlatform) (rows : List Json) :
    (RowsConvert py rows ∧ ∃ candles, toCandles py rows = .ok candles) ∨
      (¬ RowsConvert py rows ∧ ∃ e, toCandles py rows = .error (.conversion e)) := by
  unfold toCandles
  cases converted : (rows.filterMap CandleRow.ofJson).mapM fun row => toCandle py row with
  | error e =>
    refine .inr ⟨?_, e, rfl⟩
    intro each
    obtain ⟨candles, all, -⟩ := exists_mapM_of_forall (R := fun _ _ => True) fun row held =>
      (toCandle_isOk.mpr (each row held)).imp fun _ hcandle => ⟨hcandle, trivial⟩
    rw [converted] at all
    cases all
  | ok candles =>
    refine .inl ⟨?_, candles, rfl⟩
    intro row held
    obtain ⟨candle, -, result⟩ := exists_result_of_mapM converted held
    exact toCandle_isOk.mp ⟨candle, result⟩

theorem rowsConvert_reverse {rows : List Json} :
    RowsConvert py rows.reverse ↔ RowsConvert py rows := by
  simp only [RowsConvert, List.filterMap_reverse, List.mem_reverse]

/-- What a parser does with a body. -/
inductive Parsed (readable : Prop) : Except MarketDataExc (List NormalizedCandle) → Prop
  | candles (candles : List NormalizedCandle) : readable → Parsed readable (.ok candles)
  | invalid (message : String) : readable → Parsed readable (.error (.invalid message))
  | attributeError : ¬ readable → Parsed readable (.error .attributeError)
  | conversion (e : ConversionError) : ¬ readable → Parsed readable (.error (.conversion e))

theorem Parsed.of_rows {readable : Prop} {rows : List Json}
    (same : readable ↔ RowsConvert py rows) : Parsed readable (toCandles py rows) := by
  rcases toCandles_cases py rows with ⟨each, candles, converted⟩ | ⟨some, e, raised⟩
  · rw [converted]
    exact .candles candles (same.mpr each)
  · rw [raised]
    exact .conversion e (mt same.mp some)

/-- A body without attributes. -/
theorem Parsed.of_no_mapping {payload : Json} {accepted : List (String × Json) → Prop}
    (other : ∀ fields, payload ≠ .obj fields) :
    Parsed (∃ fields, payload = .obj fields ∧ accepted fields) (.error .attributeError) := by
  apply Parsed.attributeError
  rintro ⟨fields, mapping, -⟩
  exact other fields mapping

theorem Parsed.of_mapping {fields : List (String × Json)} {accepted : List (String × Json) → Prop}
    {outcome : Except MarketDataExc (List NormalizedCandle)}
    (parsed : Parsed (accepted fields) outcome) :
    Parsed (∃ others, Json.obj fields = .obj others ∧ accepted others) outcome := by
  have same : (∃ others, Json.obj fields = .obj others ∧ accepted others) ↔ accepted fields := by
    constructor
    · rintro ⟨_, ⟨⟩, held⟩
      exact held
    · intro held
      exact ⟨fields, rfl, held⟩
  rwa [same]

theorem parseOkx_parsed (payload : Json) :
    Parsed (Readable py .okx payload) (parseOkx py payload) := by
  cases payload with
  | obj fields =>
    apply Parsed.of_mapping
    simp only [parseOkx]
    split
    · rename_i rows code data
      refine .of_rows (Iff.trans ?_ rowsConvert_reverse.symm)
      simp [code, data]
    · rename_i other
      apply Parsed.invalid
      intro code rows data
      exact (other rows code data).elim
  | _ => exact .of_no_mapping fun _ => nofun

theorem parseBinance_parsed (payload : Json) :
    Parsed (Readable py .binance payload) (parseBinance py payload) := by
  cases payload with
  | arr rows =>
    apply Parsed.of_rows
    constructor
    · intro each
      exact each rows rfl
    · rintro each _ ⟨⟩
      exact each
  | _ => exact .invalid _ fun _ => nofun

theorem parseBybit_parsed (payload : Json) :
    Parsed (Readable py .bybit payload) (parseBybit py payload) := by
  cases payload with
  | obj fields =>
    apply Parsed.of_mapping
    simp only [parseBybit]
    split
    · rename_i rows retCode found
      refine .of_rows (Iff.trans ?_ rowsConvert_reverse.symm)
      split at found
      · rename_i result mapping
        simp [retCode, mapping, found]
      · cases found
    · rename_i other
      apply Parsed.invalid
      intro retCode result mapping rows found
      simp only [mapping, found] at other
      exact (other rows retCode rfl).elim
  | _ => exact .of_no_mapping fun _ => nofun

theorem parseCandles_parsed (exchangeName : ExchangeName) (payload : Json) :
    Parsed (Readable py exchangeName payload) (parseCandles py exchangeName payload) := by
  cases exchangeName with
  | okx => exact parseOkx_parsed payload
  | binance => exact parseBinance_parsed payload
  | bybit => exact parseBybit_parsed payload
  | mock => exact parseBybit_parsed payload

end

/-! ### One exchange -/

section

variable (py : NumberPlatform) (transport : PreparedExchangeRequest → JsonReply)
  (symbol interval : String) (limit : Int)

/-- The request for the candles of an exchange, when the arguments pass the checks. -/
def candleRequest (exchangeName : ExchangeName) : Option PreparedExchangeRequest :=
  match publicCandlesRequest py.toPlatform exchangeName symbol interval limit with
  | .error _ => none
  | .ok (path, params) =>
      some (SignedExchangeHttpClient.preparePublicRequest
        { exchangeName, restBaseUrl := (publicMarketBaseUrl exchangeName).getD "" } path params)

/-- The exchange is asked and answers with this body. -/
def Receives (exchangeName : ExchangeName) (payload : Json) : Prop :=
  ∃ prepared, candleRequest py symbol interval limit exchangeName = some prepared ∧
    readReply py.toPlatform (transport prepared).reply = .ok payload

/-- The exchange is asked and answers with an error. -/
def Fails (exchangeName : ExchangeName) : Prop :=
  ∃ prepared, candleRequest py symbol interval limit exchangeName = some prepared ∧
    ∃ e, readReply py.toPlatform (transport prepared).reply = .error e

variable {py transport symbol interval limit}

theorem Receives.not_fails {exchangeName : ExchangeName} {payload : Json}
    (receives : Receives py transport symbol interval limit exchangeName payload) :
    ¬ Fails py transport symbol interval limit exchangeName := by
  rintro ⟨prepared, asked, e, failed⟩
  obtain ⟨_, asked', answered⟩ := receives
  rw [asked] at asked'
  cases asked'
  rw [failed] at answered
  cases answered

/-- A JSON answer is a body or an error of the exchange, whose failure type is never that of an
invalid response. -/
theorem readReply_json (py : Platform) (answer : JsonReply) :
    (∃ payload, readReply py answer.reply = .ok payload) ∨
      ∃ failureType statusCode exchangeCode, failureType ≠ "invalid_response" ∧
        readReply py answer.reply =
          .error (.exchangeHttpRequest failureType statusCode exchangeCode) := by
  obtain ⟨reply, json⟩ := answer
  match reply with
  | .payload (some body) => exact .inl ⟨body, rfl⟩
  | .payload none | .brokenError _ | .tooDeep => cases json
  | .empty => exact .inl ⟨.obj [], rfl⟩
  | .httpError code body =>
    refine .inr ⟨_, _, _, ?_, rfl⟩
    unfold httpFailureType
    split_ifs <;> decide
  | .failure => exact .inr ⟨_, _, _, by decide, rfl⟩

theorem requireMarket_error {condition : Prop} [Decidable condition] {message : String}
    {error : PublicMarketDataError} (refused : requireMarket condition message = .error error) :
    error.failureType = "invalid_response" := by
  unfold requireMarket at refused
  split at refused
  · cases refused
  · cases refused
    rfl

theorem normalizeSymbol_error {py : Platform} {symbol : String} {error : PublicMarketDataError}
    (refused : normalizeSymbol py symbol = .error error) :
    error.failureType = "invalid_response" := by
  rcases bind_eq_error.mp refused with refused | ⟨_, -, refused⟩
  · exact requireMarket_error refused
  · cases refused

/-- A refused request is an invalid one. -/
theorem publicCandlesRequest_error {py : Platform} {exchangeName : ExchangeName}
    {error : PublicMarketDataError}
    (refused : publicCandlesRequest py exchangeName symbol interval limit = .error error) :
    error.failureType = "invalid_response" := by
  rcases bind_eq_error.mp refused with refused | ⟨_, -, refused⟩
  · exact requireMarket_error refused
  rcases bind_eq_error.mp refused with refused | ⟨_, -, refused⟩
  · exact requireMarket_error refused
  rcases bind_eq_error.mp refused with refused | ⟨_, -, refused⟩
  · exact requireMarket_error refused
  rcases bind_eq_error.mp refused with refused | ⟨normalized, -, refused⟩
  · exact normalizeSymbol_error refused
  cases exchangeName with
  | okx =>
    rcases bind_eq_error.mp refused with refused | ⟨_, -, refused⟩
    · unfold hyphenSymbol at refused
      split at refused
      · cases refused
      · cases refused
        rfl
    · cases refused
  | _ => cases refused

/-- What one exchange gives the loop over the candidates. -/
inductive Tried (readable fails : Prop) : Except MarketDataExc (List NormalizedCandle) → Prop
  | candles (candle : NormalizedCandle) (others : List NormalizedCandle) :
      readable → ¬ fails → Tried readable fails (.ok (candle :: others))
  | invalid (message : String) :
      readable → ¬ fails → Tried readable fails (.error (.invalid message))
  | failed (message failureType : String) : failureType ≠ "invalid_response" →
      readable → fails →
      Tried readable fails (.error (.publicMarketData ⟨message, failureType⟩))
  | escaped (e : MarketDataExc) : (∀ error, e ≠ .publicMarketData error) →
      ¬ readable → ¬ fails → Tried readable fails (.error e)

theorem getPublicCandles_tried (exchangeName : ExchangeName) :
    Tried
      (∀ payload, Receives py transport symbol interval limit exchangeName payload →
        Readable py exchangeName payload)
      (Fails py transport symbol interval limit exchangeName)
      (getPublicCandles py transport exchangeName symbol interval limit) := by
  cases request : publicCandlesRequest py.toPlatform exchangeName symbol interval limit with
  | error error =>
    have silent : candleRequest py symbol interval limit exchangeName = none := by
      simp only [candleRequest, request]
    obtain ⟨message, failureType⟩ := error
    obtain rfl : failureType = "invalid_response" := publicCandlesRequest_error request
    simp only [getPublicCandles, request]
    apply Tried.invalid
    · rintro payload ⟨prepared, asked, -⟩
      rw [silent] at asked
      cases asked
    · rintro ⟨prepared, asked, -⟩
      rw [silent] at asked
      cases asked
  | ok parts =>
    obtain ⟨path, params⟩ := parts
    have asked : candleRequest py symbol interval limit exchangeName =
        some (SignedExchangeHttpClient.preparePublicRequest
          { exchangeName, restBaseUrl := (publicMarketBaseUrl exchangeName).getD "" } path
          params) := by
      simp only [candleRequest, request]
    rcases readReply_json py.toPlatform (transport _) with
      ⟨payload, answered⟩ | ⟨failureType, statusCode, exchangeCode, valid, failed⟩
    · have receives : Receives py transport symbol interval limit exchangeName payload :=
        ⟨_, asked, answered⟩
      have only : (∀ payload, Receives py transport symbol interval limit exchangeName payload →
          Readable py exchangeName payload) ↔ Readable py exchangeName payload := by
        constructor
        · intro each
          exact each payload receives
        · rintro readable other ⟨_, asked', answered'⟩
          obtain rfl := Option.some.inj (asked.symm.trans asked')
          obtain rfl := Except.ok.inj (answered.symm.trans answered')
          exact readable
      have parsed : Parsed _ (parseCandles py exchangeName payload) :=
        parseCandles_parsed exchangeName payload
      simp only [getPublicCandles, request, SignedExchangeHttpClient.getPublic, answered, ok_bind]
      rw [only]
      generalize parseCandles py exchangeName payload = outcome at parsed
      cases parsed with
      | candles candles readable =>
        cases candles with
        | nil => exact .invalid _ readable receives.not_fails
        | cons candle others => exact .candles candle others readable receives.not_fails
      | invalid message readable => exact .invalid message readable receives.not_fails
      | attributeError unreadable =>
        exact .escaped _ (fun _ => nofun) unreadable receives.not_fails
      | conversion e unreadable =>
        exact .escaped _ (fun _ => nofun) unreadable receives.not_fails
    · simp only [getPublicCandles, request, SignedExchangeHttpClient.getPublic, failed]
      have fails : Fails py transport symbol interval limit exchangeName :=
        ⟨_, asked, _, failed⟩
      exact .failed _ failureType valid
        (fun payload receives => absurd fails receives.not_fails) fails

theorem getPublicCandles_served (exchangeName : ExchangeName) :
    CandlesServed (getPublicCandles py transport exchangeName symbol interval limit) ↔
      ∀ payload, Receives py transport symbol interval limit exchangeName payload →
        Readable py exchangeName payload := by
  have tried : Tried _ _ (getPublicCandles py transport exchangeName symbol interval limit) :=
    getPublicCandles_tried exchangeName
  generalize getPublicCandles py transport exchangeName symbol interval limit = outcome at tried
  cases tried with
  | candles candle others readable => exact iff_of_true ⟨.ok _, nofun⟩ readable
  | invalid message readable => exact iff_of_true ⟨.publicMarketData _, nofun⟩ readable
  | failed message failureType _ readable =>
    exact iff_of_true ⟨.publicMarketData _, nofun⟩ readable
  | escaped e other unreadable =>
    refine iff_of_false ?_ unreadable
    rintro ⟨contained, -⟩
    obtain ⟨error, same⟩ := Contained.error_iff.mp contained
    exact other error same

end

/-! ### The candidates -/

/-- A candidate is reached behind others that all fail. -/
inductive Reached (fails : ExchangeName → Prop) : List ExchangeName → ExchangeName → Prop
  | first (candidate : ExchangeName) (rest : List ExchangeName) :
      Reached fails (candidate :: rest) candidate
  | next {skipped candidate : ExchangeName} {rest : List ExchangeName} :
      fails skipped → Reached fails rest candidate → Reached fails (skipped :: rest) candidate

theorem Reached.cons_iff {fails : ExchangeName → Prop} {first candidate : ExchangeName}
    {rest : List ExchangeName} :
    Reached fails (first :: rest) candidate ↔
      candidate = first ∨ fails first ∧ Reached fails rest candidate := by
  constructor
  · rintro (_ | ⟨failed, reached⟩)
    · exact .inl rfl
    · exact .inr ⟨failed, reached⟩
  · rintro (rfl | ⟨failed, reached⟩)
    · exact .first _ _
    · exact .next failed reached

section

variable {py : NumberPlatform} {transport : PreparedExchangeRequest → JsonReply}
  {symbol interval : String} {limit : Int}

/-- The loop stops at the first candidate that does not fail. -/
theorem tryCandidates_contained (exchangeName : ExchangeName) (lastFailure : Option String)
    (candidates : List ExchangeName) :
    Contained
        (tryCandidates py transport exchangeName symbol interval limit lastFailure candidates) ↔
      ∀ candidate, Reached (Fails py transport symbol interval limit) candidates candidate →
        ∀ payload, Receives py transport symbol interval limit candidate payload →
          Readable py candidate payload := by
  induction candidates generalizing lastFailure with
  | nil =>
    refine iff_of_true (.publicMarketData _) ?_
    rintro _ ⟨⟩
  | cons candidate rest ih =>
    have tried : Tried _ _ (getPublicCandles py transport candidate symbol interval limit) :=
      getPublicCandles_tried candidate
    simp only [Reached.cons_iff, forall_eq_or_imp]
    unfold tryCandidates
    generalize getPublicCandles py transport candidate symbol interval limit = outcome at tried
    cases tried with
    | candles candle others readable stays =>
      refine iff_of_true (.ok _) ⟨readable, ?_⟩
      rintro _ ⟨fails, -⟩
      exact absurd fails stays
    | invalid message readable stays =>
      refine iff_of_true (.publicMarketData _) ⟨readable, ?_⟩
      rintro _ ⟨fails, -⟩
      exact absurd fails stays
    | failed message failureType valid readable fails =>
      simp only [if_neg valid, ih]
      constructor
      · intro others
        exact ⟨readable, fun other reached => others other reached.2⟩
      · intro all other reached
        exact all.2 other ⟨fails, reached⟩
    | escaped e other unreadable stays =>
      refine iff_of_false (fun contained => ?_) fun all => unreadable all.1
      cases e with
      | publicMarketData error => exact other error rfl
      | _ =>
        obtain ⟨error, same⟩ := Contained.error_iff.mp contained
        cases same

end

/-- The candles of one exchange are served exactly when the body it answers with can be read;
with the fallback, when this holds of every exchange behind others that all failed. -/
theorem candles_contained_iff (py : NumberPlatform)
    (transport : PreparedExchangeRequest → JsonReply) (exchangeName : ExchangeName)
    (symbol interval : String) (limit : Int) :
    (CandlesServed (getPublicCandles py transport exchangeName symbol interval limit) ↔
      ∀ payload, Receives py transport symbol interval limit exchangeName payload →
        Readable py exchangeName payload) ∧
    (Contained
        (getPublicCandlesWithFallback py transport exchangeName symbol interval limit) ↔
      ∀ candidate, Reached (Fails py transport symbol interval limit)
          (marketCandidates exchangeName) candidate →
        ∀ payload, Receives py transport symbol interval limit candidate payload →
          Readable py candidate payload) := by
  constructor
  · exact getPublicCandles_served exchangeName
  · exact tryCandidates_contained exchangeName none (marketCandidates exchangeName)

/-! ### A cell that is no number -/

/-- For bodies without doubles. -/
def asciiNumbers : NumberPlatform where
  toPlatform := asciiPlatform
  truncate _ := 0

def answerJson (body : Json) : JsonReply where
  reply := .payload (some body)
  json := rfl

/-- A row of texts that are no numbers. -/
def wordRow : Json := .arr (List.replicate 6 (.str "x"))

/-- The conversion of a cell is raised as it is, with the fallback too, and so is a missing
attribute. -/
theorem cells_escape :
    ¬ CandlesServed (getPublicCandles asciiNumbers (fun _ => answerJson (.arr [wordRow])) .binance
        "BTCUSDT" "1m") ∧
    ¬ Contained (getPublicCandlesWithFallback asciiNumbers
        (fun _ => answerJson (.arr [wordRow])) .binance "BTCUSDT" "1m") ∧
    ¬ CandlesServed (getPublicCandles asciiNumbers (fun _ => answerJson (.arr [])) .okx "BTCUSDT"
        "1m") := by
  have converted : getPublicCandles asciiNumbers (fun _ => answerJson (.arr [wordRow])) .binance
      "BTCUSDT" "1m" = .error (.conversion .valueError) := by decide +kernel
  have fallback : getPublicCandlesWithFallback asciiNumbers
      (fun _ => answerJson (.arr [wordRow])) .binance "BTCUSDT" "1m" =
        .error (.conversion .valueError) := by decide +kernel
  have missing : getPublicCandles asciiNumbers (fun _ => answerJson (.arr [])) .okx "BTCUSDT"
      "1m" = .error .attributeError := by decide +kernel
  refine ⟨?_, ?_, ?_⟩
  · rintro ⟨contained, -⟩
    obtain ⟨_, ⟨⟩⟩ := contained _ converted
  · intro contained
    obtain ⟨_, ⟨⟩⟩ := contained _ fallback
  · rintro ⟨contained, -⟩
    obtain ⟨_, ⟨⟩⟩ := contained _ missing

end CopyTrading
