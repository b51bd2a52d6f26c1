import CopyTrading.Decimal.Stored
import CopyTrading.Decimal.Text
import CopyTrading.TestnetOrder.SubmissionSafety

/-!
The amounts of a submission: what the exchange reads from the wire and what the execution
records, against what was requested. The column rounds to ten places and the context to 28
digits, so that both agree with the request exactly where the column has enough places.
-/

namespace CopyTrading

open Transaction Transaction.Handler DecimalArith

variable {ι : Type} {py : Platform} {requests : ι → SubmitRequest}

/-! ### What was sent -/

/-- The request `i` has handed `prepared` to the transport. -/
def Sends (trace : Trace backend ι) (i : ι) (prepared : PreparedExchangeRequest) : Prop :=
  ∃ (reply : HttpReply) (before after : World),
    (i, (.call (Query.urlopen prepared) reply before after : Event backend)) ∈ trace

/-- What was sent is what is prepared for the order of the recorded row. -/
def HasSent {req : SubmitRequest} (prepared : PreparedExchangeRequest)
    (stage : SubmitStage py req) : Prop :=
  ∃ (adm : Admission py req) (row : OrderExecution), SubmissionRow adm row ∧
    PreparedFor py adm.context.order prepared ∧ stage.row? = some row

/-- One step keeps what is known of the requests that were sent. -/
theorem SubmitInv.sent_step [DecidableEq ι] {db₀ : Db} {trace : Trace backend ι}
    {stages : ∀ i, SubmitStage py (requests i)} {j : ι} {e : Event backend}
    {stage' : SubmitStage py (requests j)} (inv : SubmitInv requests db₀ stages e.before.db)
    (known : ∀ i prepared, Sends trace i prepared → HasSent prepared (stages i))
    (move : SubmitMove py (requests j) (stages j) e stage') (sound : e.Sound semantics)
    (i : ι) (prepared : PreparedExchangeRequest) (sent : Sends (trace ++ [(j, e)]) i prepared) :
    HasSent prepared (Function.update stages j stage' i) := by
  have effect := move.effect sound (inv.notLost j)
  obtain ⟨reply, before, after, sent⟩ := sent
  rcases List.mem_append.mp sent with earlier | last
  · obtain ⟨adm, row, rowOf, prepares, hrow⟩ := known i prepared ⟨reply, before, after, earlier⟩
    by_cases hj : i = j
    · subst hj
      rw [Function.update_self]
      exact ⟨adm, row, rowOf, prepares, effect.row_kept hrow⟩
    · rw [Function.update_of_ne hj]
      exact ⟨adm, row, rowOf, prepares, hrow⟩
  · rw [List.mem_singleton] at last
    cases last
    rw [Function.update_self]
    have recorded := inv.recorded j
    have notLost := inv.notLost j
    generalize stages j = stage at move recorded notLost
    cases move with
    | idle quiet => cases quiet
    | wander => exact absurd rfl notLost
    | send prepares => exact ⟨_, _, recorded, prepares, rfl⟩

theorem sent_of_run [DecidableEq ι] {world s : World} {trace : Trace backend ι}
    {stages : ∀ i, SubmitStage py (requests i)}
    (run : Protocol.Run (fun i => submitProtocol py (requests i)) semantics (fun _ => .start) world
      trace stages s) {i : ι} {prepared : PreparedExchangeRequest} (sent : Sends trace i prepared) :
    HasSent prepared (stages i) := by
  have known := run.invariant
    (fun trace stages (s : World) => SubmitInv requests world.db stages s.db ∧
      ∀ i prepared, Sends trace i prepared → HasSent prepared (stages i))
    ⟨.start, fun _ _ ⟨_, _, _, sent⟩ => by cases sent⟩
    fun _ _ _ _ _ ⟨inv, known⟩ move sound => ⟨inv.step move sound, inv.sent_step known move sound⟩
  exact known.2 i prepared sent

/-! ### Amounts -/

/-- A text of the wire read as an exact decimal. -/
def readAmount (text : String) : Option ℚ := (Decimal.parse text.toList).map Decimal.toRat

theorem readAmount_decimalText (value : Decimal) :
    readAmount (decimalText value) = some (value.normalize decimalPrecision).toRat := by
  obtain ⟨read, parsed, same⟩ := Decimal.parse_formatPlain (value.normalize decimalPrecision)
  unfold readAmount decimalText
  rw [String.toList_ofList, parsed, Option.map_some, same]

/-- The exchange reads the amounts that were requested, and the execution records them. -/
structure SentAsRequested (payload : TestnetOrderSubmitRequest) (exchangeName : ExchangeName)
    (prepared : PreparedExchangeRequest) (row : OrderExecution) : Prop where
  quantity : (prepared.fields.lookup (quantityField exchangeName)).bind readAmount =
    some payload.quantity.toRat
  price : payload.orderType = .limit →
    (prepared.fields.lookup (priceField exchangeName)).bind readAmount =
      payload.price.map Decimal.toRat
  recordedQuantity : row.quantity.toDecimal.toRat = payload.quantity.toRat
  recordedPrice : row.price.map (·.toDecimal.toRat) = payload.price.map Decimal.toRat

/-- Quantity and price have at most ten decimal places. -/
def TestnetOrderSubmitRequest.HasTenPlaces (payload : TestnetOrderSubmitRequest) : Prop :=
  payload.quantity.HasPlaces 10 ∧ ∀ price ∈ payload.price, price.HasPlaces 10

/-- The recorded price is the requested one exactly where the column has enough places. -/
theorem recordedPrice_iff {price : Option Decimal} {stored : Option Quantity}
    (fits : price.map (Numeric.ofDecimal? 28 10) = stored.map some) :
    stored.map (·.toDecimal.toRat) = price.map Decimal.toRat ↔ ∀ p ∈ price, p.HasPlaces 10 := by
  cases price with
  | none =>
    cases stored with
    | none => simp
    | some => cases fits
  | some price =>
    cases stored with
    | none => cases fits
    | some stored =>
      have fits' : Numeric.ofDecimal? 28 10 price = some stored := Option.some.inj fits
      simpa using Numeric.stored_exactly_iff fits'

theorem sentAsRequested_iff {req : SubmitRequest} {adm : Admission py req} {row : OrderExecution}
    {prepared : PreparedExchangeRequest} (rowOf : SubmissionRow adm row)
    (prepares : PreparedFor py adm.context.order prepared) :
    SentAsRequested req.payload adm.context.account.exchangeName prepared row ↔
      req.payload.HasTenPlaces := by
  constructor
  · intro same
    exact ⟨(Numeric.stored_exactly_iff rowOf.quantity).mp same.recordedQuantity,
      (recordedPrice_iff rowOf.price).mp same.recordedPrice⟩
  · rintro ⟨quantityPlaces, pricePlaces⟩
    have exchangeName : adm.context.order.exchangeName = adm.context.account.exchangeName := by
      rw [adm.order]
      rfl
    have quantity := prepares.quantity
    have price := prepares.price
    rw [exchangeName] at quantity price
    constructor
    · rw [quantity, Option.bind_some, readAmount_decimalText, adm.order]
      exact congrArg some (Numeric.normalize_exact (by decide) rowOf.quantity quantityPlaces)
    · intro limit
      rw [price, adm.order]
      obtain ⟨price, hprice⟩ := Option.isSome_iff_exists.mp (req.payload.limit_price limit)
      have fits := rowOf.price
      rw [hprice] at fits
      change ((if req.payload.orderType = .limit then req.payload.price.map decimalText else none).bind
        readAmount) = _
      rw [if_pos limit, hprice, Option.map_some, Option.bind_some, readAmount_decimalText]
      cases hstored : row.price with
      | none =>
        rw [hstored] at fits
        cases fits
      | some stored =>
        rw [hstored] at fits
        exact congrArg some (Numeric.normalize_exact (by decide) (Option.some.inj fits)
          (pricePlaces price hprice))
    · exact (Numeric.stored_exactly_iff rowOf.quantity).mpr quantityPlaces
    · exact (recordedPrice_iff rowOf.price).mpr pricePlaces

/-! ### Sample runs -/

def isSent : Event backend → Bool
  | .call (.urlopen _) _ _ _ => true
  | _ => false

theorem exists_sends {trace : Trace backend Unit} (sends : trace.any (fun e => isSent e.2) = true) :
    ∃ prepared, Sends trace () prepared := by
  obtain ⟨⟨i, e⟩, mem, sent⟩ := List.any_eq_true.mp sends
  cases e with
  | call query reply before after =>
    cases query with
    | urlopen prepared => exact ⟨prepared, reply, before, after, mem⟩
    | _ => cases sent
  | _ => cases sent

/-- A request served alone by an exchange that takes its order. -/
def servedRun (req : SubmitRequest) : Trace backend Unit ×
    Config backend fun _ : Unit => Except Exc TestnetOrderSubmitResponse × Session :=
  Config.replay semantics (environment takingExchange) 0 (List.replicate 25 ())
    (submitting asciiPlatform (fun _ => req) (approvedWorld .binance "BTCUSDT" []))

theorem servedRun_reaches (req : SubmitRequest) :
    Config.Run semantics (submitting asciiPlatform (fun _ : Unit => req)
      (approvedWorld .binance "BTCUSDT" [])) (servedRun req).1 (servedRun req).2 :=
  Config.replay_reaches (environment_allowed takingExchange) _ _ _

/-- One unit. -/
def wholeOrder : SubmitRequest := sampleOrder "BTCUSDT" (.ofInt 1) (by norm_num)

/-- One unit and a hundredth of a billionth: eleven decimal places. -/
def finerOrder : SubmitRequest :=
  sampleOrder "BTCUSDT" ⟨100000000001, -11⟩ (by norm_num [Decimal.toRat])

/-! ### The guarantee -/

/-- In every run the one execution of an order that was sent records, and its exchange reads,
the amounts of the request exactly if these have at most ten decimal places. -/
theorem sent_as_requested_iff [DecidableEq ι] {world : World} {trace : Trace backend ι}
    {c : Config backend fun _ : ι => Except Exc TestnetOrderSubmitResponse × Session}
    (run : Config.Run semantics (submitting py requests world) trace c) {i : ι}
    {prepared : PreparedExchangeRequest} (sent : Sends trace i prepared) :
    ∃ exchangeName row, row.exchangeName = ExchangeName.value exchangeName ∧
      (∀ x, x ∈ c.store.db.executions ∧
        x.clientOrderId = (requests i).payload.clientOrderId ↔ x = row) ∧
      (SentAsRequested (requests i).payload exchangeName prepared row ↔
        (requests i).payload.HasTenPlaces) := by
  obtain ⟨stages, tracked, -⟩ := submitting_tracked run
  obtain ⟨adm, row, rowOf, prepares, hrow⟩ := sent_of_run tracked sent
  obtain ⟨x, hx, same⟩ := (SubmitInv.of_run tracked).claims.stands i row hrow
  have stored := rowOf.congr same
  refine ⟨adm.context.account.exchangeName, x, stored.exchangeName, fun other => ⟨?_, ?_⟩,
    sentAsRequested_iff stored prepares⟩
  · rintro ⟨hother, hid⟩
    exact Table.eq_of_conflict hother hx (.inr (.inr (.inl (hid.trans stored.clientOrderId.symm))))
  · rintro rfl
    exact ⟨hx, stored.clientOrderId⟩

/-- An order of one unit at a price of ten is sent and recorded as it was requested. -/
theorem sent_as_requested_iff_whole :
    ∃ prepared exchangeName, ∃ row ∈ (servedRun wholeOrder).2.store.db.executions,
      Sends (servedRun wholeOrder).1 () prepared ∧
      SentAsRequested wholeOrder.payload exchangeName prepared row := by
  have sends : (servedRun wholeOrder).1.any (fun e => isSent e.2) = true := by decide +kernel
  obtain ⟨prepared, sent⟩ := exists_sends sends
  obtain ⟨exchangeName, row, -, only, exact_⟩ :=
    sent_as_requested_iff (servedRun_reaches wholeOrder) sent
  refine ⟨prepared, exchangeName, row, ((only row).mpr rfl).1, sent, exact_.mpr ⟨?_, ?_⟩⟩
  · exact ⟨10000000000, by norm_num [wholeOrder, sampleOrder]⟩
  · rintro price hprice
    cases hprice
    exact ⟨100000000000, by norm_num⟩

/-- An order of eleven places is sent, taken by the exchange, and recorded with ten. -/
theorem eleven_places_not_recorded :
    ∃ trace c prepared, Config.Run semantics (submitting asciiPlatform (fun _ : Unit => finerOrder)
        (approvedWorld .binance "BTCUSDT" [])) trace c ∧ Sends trace () prepared ∧
      (returned (c.client ())).map (·.orderStatus) = some .accepted ∧
      ∀ exchangeName, ∀ row ∈ c.store.db.executions,
        ¬ SentAsRequested finerOrder.payload exchangeName prepared row := by
  have sends : (servedRun finerOrder).1.any (fun e => isSent e.2) = true := by decide +kernel
  obtain ⟨prepared, sent⟩ := exists_sends sends
  refine ⟨_, _, prepared, servedRun_reaches finerOrder, sent, by decide +kernel,
    fun exchangeName row hrow same => ?_⟩
  have stored : ∀ row ∈ (servedRun finerOrder).2.store.db.executions.rows,
      row.quantity.units = 10000000000 := by decide +kernel
  have recorded := same.recordedQuantity
  rw [Numeric.toRat_toDecimal, Numeric.value, stored row hrow] at recorded
  norm_num [finerOrder, sampleOrder, Decimal.toRat] at recorded

end CopyTrading
