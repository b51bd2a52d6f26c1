import CopyTrading.TestnetOrder.SentAmounts

/-!
Order windows. A submission is checked against the latest approval of its account before the
order is put on the wire: what was requested is within the window, and what the exchange reads
is within it as well unless the order carries no price, its symbol has blanks around it that
only the check drops, or rounding has taken it over a limit.
-/

namespace CopyTrading

open Transaction Transaction.Handler DecimalArith

variable {ι : Type} {py : Platform} {requests : ι → SubmitRequest}

/-! ### The approval a request goes by -/

/-- What an admission was read from: the account is stored, the approval is the latest one of
the account, and it was checked at a time the clock has shown. -/
structure Admission.Standing {req : SubmitRequest} (adm : Admission py req) (db : Db)
    (clock : Instant → Prop) : Prop where
  account : adm.context.account ∈ db.accounts
  latest : latestApproval req.userId adm.context.account.id db = some adm.log
  checked : clock adm.now

namespace SubmitStage

variable {req : SubmitRequest}

/-- The same of a request that is on its way. -/
def Authorized (db : Db) (clock : Instant → Prop) : SubmitStage py req → Prop
  | owned account | risked account _ | gated account _ => account ∈ db.accounts
  | windowed account _ log =>
    account ∈ db.accounts ∧ latestApproval req.userId account.id db = some log
  | authorized account _ log now =>
    account ∈ db.accounts ∧ latestApproval req.userId account.id db = some log ∧ clock now
  | ready adm | absent adm | weighed adm _ | submitted adm _ | held adm _ _ | failing adm _ _ _
  | blocked adm _ _ _ | sent adm _ _ _ => adm.Standing db clock
  | start | admitted | settled | refreshed _ | replayed _ | lost | rejected _ | vanished _
  | accepted _ | failed _ => True

theorem Authorized.keep {stage : SubmitStage py req} {before after : Db}
    {earlier later : Instant → Prop} (authorized : stage.Authorized before earlier)
    (keeps : KeepsControls before after) (still : ∀ now, earlier now → later now) :
    stage.Authorized after later := by
  have latest : ∀ id, latestApproval req.userId id after = latestApproval req.userId id before := by
    intro id
    unfold latestApproval
    rw [keeps.auditLogs]
  have stands : ∀ {adm : Admission py req}, adm.Standing before earlier →
      adm.Standing after later := fun standing =>
    ⟨(keeps.accounts _).mpr standing.account, (latest _).trans standing.latest,
      still _ standing.checked⟩
  cases stage with
  | owned | risked | gated => exact (keeps.accounts _).mpr authorized
  | windowed => exact ⟨(keeps.accounts _).mpr authorized.1, (latest _).trans authorized.2⟩
  | authorized =>
    obtain ⟨stored, approved, now⟩ := authorized
    exact ⟨(keeps.accounts _).mpr stored, (latest _).trans approved, still _ now⟩
  | ready | absent | weighed | submitted | held | failing | blocked | sent => exact stands authorized
  | _ => exact True.intro

end SubmitStage

/-- The request `i` has seen the clock show this time. -/
def ReadsClock (trace : Trace backend ι) (i : ι) (now : Instant) : Prop :=
  ∃ before after : World, (i, (.call Query.utcNow now before after : Event backend)) ∈ trace

theorem ReadsClock.mono {first second : Trace backend ι} {i : ι} {now : Instant}
    (reads : ReadsClock first i now) (part : ∀ x ∈ first, x ∈ second) : ReadsClock second i now := by
  obtain ⟨before, after, mem⟩ := reads
  exact ⟨before, after, part _ mem⟩

theorem SubmitMove.authorized {req : SubmitRequest} {stage stage' : SubmitStage py req}
    {e : Event backend} {earlier later : Instant → Prop} (move : SubmitMove py req stage e stage')
    (sound : e.Sound semantics) (settled : stage ≠ .lost)
    (authorized : stage.Authorized e.before.db earlier) (still : ∀ now, earlier now → later now)
    (reads : ∀ (now : Instant) (before after : World),
      e = .call Query.utcNow now before after → later now) :
    stage'.Authorized e.after.db later := by
  have kept := authorized.keep (move.effect sound settled).keepsControls still
  cases move with
  | wander => exact absurd rfl settled
  | idle | risk | gate | miss | weigh | submit | hold | send | number | block => exact kept
  | own stored | reload stored => exact stored
  | window latest => exact ⟨kept, latest⟩
  | authorize => exact ⟨kept.1, kept.2, reads _ _ _ rfl⟩
  | prepare => exact ⟨kept.1, kept.2.1, kept.2.2⟩
  | _ => exact True.intro

theorem authorized_of_run [DecidableEq ι] {world s : World} {trace : Trace backend ι}
    {stages : ∀ i, SubmitStage py (requests i)}
    (run : Protocol.Run (fun i => submitProtocol py (requests i)) semantics (fun _ => .start) world
      trace stages s) (i : ι) : (stages i).Authorized s.db (ReadsClock trace i) := by
  have known := run.invariant
    (fun trace (stages : ∀ i, SubmitStage py (requests i)) (s : World) =>
      SubmitInv requests world.db stages s.db ∧ ∀ i, (stages i).Authorized s.db (ReadsClock trace i))
    ⟨.start, fun _ => True.intro⟩ ?_
  · exact known.2 i
  intro trace stages j e stage' ⟨inv, known⟩ move sound
  have part : ∀ x ∈ trace, x ∈ trace ++ [(j, e)] := fun x => List.mem_append_left _
  refine ⟨inv.step move sound, fun i => ?_⟩
  by_cases hj : i = j
  · subst hj
    rw [Function.update_self]
    refine move.authorized sound (inv.notLost i) (known i) (fun now reads => reads.mono part) ?_
    rintro now before after rfl
    exact ⟨before, after, List.mem_append_right _ (List.mem_singleton_self _)⟩
  · rw [Function.update_of_ne hj]
    exact (known i).keep (move.effect sound (inv.notLost j)).keepsControls
      fun now reads => reads.mono part

/-- A request is sent by a request that was admitted. -/
theorem standing_of_sent [DecidableEq ι] {world s : World} {trace : Trace backend ι}
    {stages : ∀ i, SubmitStage py (requests i)}
    (run : Protocol.Run (fun i => submitProtocol py (requests i)) semantics (fun _ => .start) world
      trace stages s) {i : ι} {prepared : PreparedExchangeRequest} {reply : HttpReply}
    {before after : World}
    (sent : (i, (.call (Query.urlopen prepared) reply before after : Event backend)) ∈ trace) :
    ∃ adm : Admission py (requests i), PreparedFor py adm.context.order prepared ∧
      adm.Standing before.db (ReadsClock trace i) := by
  obtain ⟨earlier, phases, m, first, move, -, initial⟩ := run.move_of_mem sent
  have authorized := authorized_of_run first i
  have settled := (SubmitInv.of_run first).notLost i
  have part : ∀ x ∈ earlier, x ∈ trace := fun x hx => initial.subset (List.mem_append_left _ hx)
  generalize phases i = stage at move authorized settled
  cases move with
  | idle quiet => cases quiet
  | wander => exact absurd rfl settled
  | send prepares =>
    exact ⟨_, prepares, authorized.account, authorized.latest, authorized.checked.mono part⟩

/-! ### Inside the window -/

/-- The value is not above the limit. -/
def DecimalLiteral.Allows (value : ℚ) : DecimalLiteral → Prop
  | .finite bound => value ≤ bound.toRat
  | .infinity negative => negative = false
  | .nan => False

theorem DecimalLiteral.allows_of_exceeded {limit : DecimalLiteral} {value : Decimal}
    (within : limit.exceeded value = .ok false) : limit.Allows value.toRat := by
  cases limit with
  | finite bound =>
    have notAbove : ¬ bound < value := by simpa [DecimalLiteral.exceeded] using within
    exact Decimal.not_lt_iff.mp notAbove
  | infinity negative => simpa [DecimalLiteral.exceeded, DecimalLiteral.Allows] using within
  | nan => cases within

def maxQuantityOf (py : Platform) (log : AuditLog) : Option DecimalLiteral :=
  decimalFromPayload py (Json.get log.payload "max_quantity")

def maxNotionalOf (py : Platform) (log : AuditLog) : Option DecimalLiteral :=
  decimalFromPayload py (Json.get log.payload "max_notional")

/-- The symbol of an approval, as the check compares it. -/
def approvedSymbol (py : Platform) (log : AuditLog) : String :=
  py.upper (py.strip (((Json.lookup "symbol" log.payload).map py.strOf).getD ""))

def approvedSide (py : Platform) (log : AuditLog) : String :=
  ((Json.lookup "side" log.payload).map py.strOf).getD ""

/-- The exchange reads the instrument of the approved symbol and the approved side, the approval
has not expired, and price and quantity are read to be within its limits, the notional taken
exactly. -/
structure SentInsideWindow (py : Platform) (exchangeName : ExchangeName) (log : AuditLog)
    (now : Instant) (prepared : PreparedExchangeRequest) : Prop where
  symbol : prepared.fields.lookup (instrumentField exchangeName) =
    some (instrumentId py exchangeName (approvedSymbol py log))
  side : ∃ side : OrderSide, approvedSide py log = side.value ∧
    prepared.fields.lookup "side" = some (sideText exchangeName side)
  unexpired : ∃ minutes, intFromPayload py (Json.get log.payload "duration_minutes") = some minutes ∧
    now ≤ log.createdAt + minuteMicros * minutes
  amounts : ∃ price quantity,
    (prepared.fields.lookup (priceField exchangeName)).bind readAmount = some price ∧
    (prepared.fields.lookup (quantityField exchangeName)).bind readAmount = some quantity ∧
    (∃ most, maxQuantityOf py log = some most ∧ most.Allows quantity) ∧
    ∃ most, maxNotionalOf py log = some most ∧ most.Allows (quantity * price)

/-- The exchange is sent the same instrument as for the symbol without the blanks around it. -/
def SymbolUnpadded (py : Platform) (exchangeName : ExchangeName) (symbol : String) : Prop :=
  instrumentId py exchangeName symbol = instrumentId py exchangeName (py.upper (py.strip symbol))

/-- What the wire makes of an amount: `normalize` rounds it to the digits of the context. -/
def wireValue (value : Decimal) : ℚ := (value.normalize decimalPrecision).toRat

/-- A limit order for which rounding does no harm: a quantity that is rounded on the wire, and
a notional that is rounded for the check, are within the limits as they are sent, too. -/
structure LimitsSurviveRounding (py : Platform) (payload : TestnetOrderSubmitRequest)
    (log : AuditLog) : Prop where
  limitOrder : payload.orderType = .limit
  quantity : wireValue payload.quantity ≠ payload.quantity.toRat →
    ∀ most, maxQuantityOf py log = some most → most.Allows (wireValue payload.quantity)
  notional : ∀ price ∈ payload.price,
    wireValue payload.quantity * wireValue price ≠ (decimalMul payload.quantity price).toRat →
    ∀ most, maxNotionalOf py log = some most →
      most.Allows (wireValue payload.quantity * wireValue price)

section

variable {req : SubmitRequest} {prepared : PreparedExchangeRequest}

theorem Admission.exchangeName (adm : Admission py req) :
    adm.context.order.exchangeName = adm.context.account.exchangeName := by
  rw [adm.order]
  rfl

/-- What is read off the wire of an admitted order: the instrument of the requested symbol. -/
theorem PreparedFor.reads_symbol (adm : Admission py req)
    (prepares : PreparedFor py adm.context.order prepared) :
    prepared.fields.lookup (instrumentField adm.context.account.exchangeName) =
      some (CopyTrading.instrumentId py adm.context.account.exchangeName req.payload.symbol) := by
  rw [← adm.exchangeName, prepares.instrumentId, adm.order]
  rfl

theorem PreparedFor.reads_side (adm : Admission py req)
    (prepares : PreparedFor py adm.context.order prepared) :
    prepared.fields.lookup "side" =
      some (sideText adm.context.account.exchangeName req.payload.side) := by
  rw [← adm.exchangeName, prepares.side, adm.order]
  rfl

theorem PreparedFor.reads_quantity (adm : Admission py req)
    (prepares : PreparedFor py adm.context.order prepared) :
    (prepared.fields.lookup (quantityField adm.context.account.exchangeName)).bind readAmount =
      some (wireValue req.payload.quantity) := by
  rw [← adm.exchangeName, prepares.quantity, Option.bind_some, readAmount_decimalText, adm.order]
  rfl

/-- The price is on the wire of a limit order only. -/
theorem PreparedFor.reads_price (adm : Admission py req)
    (prepares : PreparedFor py adm.context.order prepared) {price : Decimal}
    (priced : req.payload.price = some price) :
    (prepared.fields.lookup (priceField adm.context.account.exchangeName)).bind readAmount =
      if req.payload.orderType = .limit then some (wireValue price) else none := by
  rw [← adm.exchangeName, prepares.price, adm.order]
  change (if req.payload.orderType = .limit then req.payload.price.map decimalText
    else none).bind readAmount = _
  rw [priced]
  split
  · exact readAmount_decimalText price
  · rfl

theorem sentInsideWindow_iff (adm : Admission py req)
    (prepares : PreparedFor py adm.context.order prepared) :
    SentInsideWindow py adm.context.account.exchangeName adm.log adm.now prepared ↔
      SymbolUnpadded py adm.context.account.exchangeName req.payload.symbol ∧
        LimitsSurviveRounding py req.payload adm.log := by
  have within := windowReasons_nil adm.reasons
  obtain ⟨mostQuantity, hmostQuantity, allowsQuantity⟩ := within.quantity
  obtain ⟨price, mostNotional, hprice, hmostNotional, allowsNotional⟩ := within.notional
  have hprice : req.payload.price = some price := hprice
  have approves : approvedSymbol py adm.log = py.upper (py.strip req.payload.symbol) := within.symbol
  constructor
  · intro inside
    have unpadded := inside.symbol
    rw [prepares.reads_symbol adm, approves, Option.some.injEq] at unpadded
    refine ⟨unpadded, ?_⟩
    obtain ⟨wirePrice, quantity, hwirePrice, hquantity, ⟨most, hmost, allows⟩, most', hmost',
      allows'⟩ := inside.amounts
    rw [prepares.reads_quantity adm] at hquantity
    cases hquantity
    rw [prepares.reads_price adm hprice] at hwirePrice
    by_cases limitOrder : req.payload.orderType = .limit
    · rw [if_pos limitOrder] at hwirePrice
      cases hwirePrice
      constructor
      · exact limitOrder
      · intro _ bound hbound
        rw [hmost] at hbound
        cases hbound
        exact allows
      · intro price' hprice' _ bound hbound
        rw [hprice] at hprice'
        cases hprice'
        rw [hmost'] at hbound
        cases hbound
        exact allows'
    · rw [if_neg limitOrder] at hwirePrice
      cases hwirePrice
  · rintro ⟨unpadded, survives⟩
    obtain ⟨minutes, hminutes, -, -, unexpired⟩ := within.unexpired
    constructor
    · rw [prepares.reads_symbol adm, approves]
      exact congrArg some unpadded
    · exact ⟨req.payload.side, within.side, prepares.reads_side adm⟩
    · exact ⟨minutes, hminutes, unexpired⟩
    · refine ⟨wireValue price, wireValue req.payload.quantity, ?_, prepares.reads_quantity adm,
        ⟨mostQuantity, hmostQuantity, ?_⟩, mostNotional, hmostNotional, ?_⟩
      · rw [prepares.reads_price adm hprice, if_pos survives.limitOrder]
      · by_cases same : wireValue req.payload.quantity = req.payload.quantity.toRat
        · rw [same]
          exact DecimalLiteral.allows_of_exceeded allowsQuantity
        · exact survives.quantity same mostQuantity hmostQuantity
      · by_cases same : wireValue req.payload.quantity * wireValue price =
            (decimalMul req.payload.quantity price).toRat
        · rw [same]
          exact DecimalLiteral.allows_of_exceeded allowsNotional
        · exact survives.notional price hprice same mostNotional hmostNotional

end

/-- Amounts of at most as many digits as the context has, their product included, are sent and
checked as they are. -/
theorem limitsSurviveRounding_of_digits {payload : TestnetOrderSubmitRequest} (log : AuditLog)
    (limitOrder : payload.orderType = .limit)
    (quantity : payload.quantity.coeff.natAbs < 10 ^ decimalPrecision)
    (price : ∀ price ∈ payload.price, price.coeff.natAbs < 10 ^ decimalPrecision ∧
      (payload.quantity.coeff * price.coeff).natAbs < 10 ^ decimalPrecision) :
    LimitsSurviveRounding py payload log := by
  have sent : ∀ value : Decimal, value.coeff.natAbs < 10 ^ decimalPrecision →
      wireValue value = value.toRat := by
    intro value small
    unfold wireValue
    rw [Decimal.toRat_normalize, Decimal.round_of_small (by decide) small]
  constructor
  · exact limitOrder
  · intro rounded
    exact absurd (sent _ quantity) rounded
  · intro value hvalue rounded
    obtain ⟨small, product⟩ := price value hvalue
    have checked : (decimalMul payload.quantity value).toRat =
        payload.quantity.toRat * value.toRat := by
      rw [← Decimal.toRat_mulExact]
      exact congrArg Decimal.toRat (Decimal.round_of_small (by decide) product)
    rw [sent _ quantity, sent _ small, checked] at rounded
    exact absurd rfl rounded

/-- A symbol without blanks around it is sent as it was approved. -/
theorem symbolUnpadded_of_strip (stable : py.UpperStable) {exchangeName : ExchangeName}
    {symbol : String} (bare : py.strip symbol = symbol) : SymbolUnpadded py exchangeName symbol := by
  unfold SymbolUnpadded
  rw [bare]
  cases exchangeName with
  | okx =>
    change okxSymbol py symbol = okxSymbol py (py.upper symbol)
    unfold okxSymbol
    rw [stable.upper_upper]
  | binance | bybit | mock => exact (stable.upper_upper symbol).symm

/-! ### The guarantee -/

/-- In every run of submissions, on any audit log: when an order is handed to the transport,
the latest approval of its account was checked, and what is sent is inside the window exactly if
the symbol has no blanks around it and the order is a limit order for which rounding does no
harm. -/
theorem sent_inside_window_iff [DecidableEq ι] {world : World} {trace : Trace backend ι}
    {c : Config backend fun _ : ι => Except Exc TestnetOrderSubmitResponse × Session}
    (run : Config.Run semantics (submitting py requests world) trace c) {i : ι}
    {prepared : PreparedExchangeRequest} {reply : HttpReply} {before after : World}
    (sent : (i, (.call (Query.urlopen prepared) reply before after : Event backend)) ∈ trace) :
    ∃ account ∈ before.db.accounts, account.id = (requests i).payload.exchangeAccountId ∧
      ∃ log now, latestApproval (requests i).userId account.id before.db = some log ∧
        ReadsClock trace i now ∧
        (SentInsideWindow py account.exchangeName log now prepared ↔
          SymbolUnpadded py account.exchangeName (requests i).payload.symbol ∧
            LimitsSurviveRounding py (requests i).payload log) := by
  obtain ⟨stages, tracked, -⟩ := submitting_tracked run
  obtain ⟨adm, prepares, standing⟩ := standing_of_sent tracked sent
  exact ⟨_, standing.account, adm.accountId, adm.log, adm.now, standing.latest, standing.checked,
    sentInsideWindow_iff adm prepares⟩

/-- A limit order of one unit at a price of ten is sent inside its window. -/
theorem sent_inside_window_iff_limit :
    ∃ prepared, Sends (servedRun wholeOrder).1 () prepared ∧ ∃ exchangeName log now,
      SentInsideWindow asciiPlatform exchangeName log now prepared := by
  have sends : (servedRun wholeOrder).1.any (fun e => isSent e.2) = true := by decide +kernel
  obtain ⟨prepared, reply, before, after, sent⟩ := exists_sends sends
  obtain ⟨account, -, -, log, now, -, -, inside⟩ :=
    sent_inside_window_iff (servedRun_reaches wholeOrder) sent
  refine ⟨prepared, ⟨reply, before, after, sent⟩, account.exchangeName, log, now,
    inside.mpr ⟨symbolUnpadded_of_strip asciiPlatform_upperStable (by decide), ?_⟩⟩
  refine limitsSurviveRounding_of_digits log rfl (by decide) fun price hprice => ?_
  cases hprice
  decide

/-- The same order as a market order; the price is for the check of the window only. -/
def marketOrder : SubmitRequest :=
  { wholeOrder with
    payload :=
      { wholeOrder.payload with orderType := .market, limit_price := fun limit => by cases limit } }

/-- No order that is sent has a price. -/
def sendsNoPrice : Event backend → Bool
  | .call (.urlopen prepared) _ _ _ => (prepared.fields.lookup "price").isNone
  | _ => true

/-- A market order is sent without a price, whatever the approval says. -/
theorem market_order_outside_window :
    ∃ trace c prepared, Config.Run semantics (submitting asciiPlatform (fun _ : Unit => marketOrder)
        (approvedWorld .binance "BTCUSDT" [])) trace c ∧ Sends trace () prepared ∧
      ∀ log now, ¬ SentInsideWindow asciiPlatform .binance log now prepared := by
  have sends : (servedRun marketOrder).1.any (fun e => isSent e.2) = true := by decide +kernel
  have unpriced : (servedRun marketOrder).1.all (fun e => sendsNoPrice e.2) = true := by
    decide +kernel
  obtain ⟨prepared, reply, before, after, sent⟩ := exists_sends sends
  refine ⟨_, _, prepared, servedRun_reaches marketOrder, ⟨reply, before, after, sent⟩,
    fun log now inside => ?_⟩
  obtain ⟨price, quantity, hprice, -⟩ := inside.amounts
  have missing : prepared.fields.lookup (priceField .binance) = none :=
    Option.isNone_iff_eq_none.mp (List.all_eq_true.mp unpriced _ sent)
  rw [missing] at hprice
  cases hprice

end CopyTrading
