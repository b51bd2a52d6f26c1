import CopyTrading.EventConvergence
import CopyTrading.AccountState.Guarantees
import CopyTrading.UserStream.Runtime

/-!
The persisting handler of user stream events, and the kinds of events it can take. A message is
classified by one text in it; whether some message with that text can be handled depends on the
text alone.
-/

namespace CopyTrading

open Transaction Transaction.Handler DecimalArith Fallible

structure TestnetUserStreamEventHandlingResult where
  orderResult : Option TestnetOrderLifecycleResult
  stateEventProcessed : Bool

/-- `PersistingTestnetUserStreamEventHandler.__call__`. -/
def handleTestnetUserStreamEvent (py : Platform) (userId exchangeAccountId : String)
    (event : TestnetUserStreamEvent) : Service TestnetUserStreamEventHandlingResult :=
  if event.eventType = .order then do
    let orderResult ← handleUserStreamOrderEvent py userId exchangeAccountId event.exchangeName
      event.rawPayload
    return { orderResult := some orderResult, stateEventProcessed := false }
  else do
    let processed ← handleTestnetStateEvent py userId exchangeAccountId event
    return { orderResult := none, stateEventProcessed := processed }

/-! ### What a message is classified by -/

section discriminator

variable {py : Platform} {payload : List (String × Json)} {kind : String}

/-- The event name, the topic, or the channel. -/
def discriminator (py : Platform) (payload : List (String × Json)) : ExchangeName → Option String
  | .binance =>
    match Json.get payload "e" with
    | .str name => some name
    | _ => none
  | .bybit => some (py.strOf ((Json.lookup "topic" payload).getD (.str "")))
  | .okx =>
    match Json.get payload "arg" with
    | .obj arg =>
      match Json.get arg "channel" with
      | .str channel => some channel
      | _ => none
    | _ => none
  | .mock => none

/-- The type of every message with this discriminator. -/
def discriminatedType (kind : String) : ExchangeName → TestnetUserStreamEventType
  | .binance =>
    if kind = "executionReport" ∨ kind = "listStatus" then .order
    else if kind = "outboundAccountPosition" ∨ kind = "balanceUpdate" then .balance
    else .unknown
  | .bybit => bybitTopicType kind
  | .okx =>
    if kind = "orders" then .order
    else if kind = "account" then .balance
    else if kind = "positions" then .position
    else .unknown
  | .mock => .unknown

theorem userStreamEventType_of_discriminator {exchangeName : ExchangeName}
    (named : discriminator py payload exchangeName = some kind) :
    userStreamEventType py exchangeName payload = .ok (discriminatedType kind exchangeName) := by
  cases exchangeName with
  | binance =>
    dsimp only [discriminator] at named
    split at named
    · next name found =>
      cases named
      simp only [userStreamEventType, binanceEventType, found, discriminatedType]
      split
      · rfl
      · split
        · rfl
        · rfl
    · cases named
  | bybit =>
    cases named
    rfl
  | okx =>
    dsimp only [discriminator] at named
    split at named
    · next arg found =>
      split at named
      · next channel held =>
        cases named
        simp only [userStreamEventType, okxEventType, found, held, discriminatedType]
      · cases named
    · cases named
  | mock => cases named

theorem parseTestnetUserStreamEvent_of_discriminator {exchangeName : ExchangeName}
    (named : discriminator py payload exchangeName = some kind) :
    parseTestnetUserStreamEvent py exchangeName payload =
      .ok ⟨exchangeName, discriminatedType kind exchangeName, payload⟩ := by
  unfold parseTestnetUserStreamEvent
  rw [userStreamEventType_of_discriminator named]
  rfl

end discriminator

/-! ### A message of every kind -/

section message

variable {py : Platform} {exchangeName : ExchangeName} {kind : String}

/-- A message with a given discriminator: an order that was taken, no units of an asset, or no
position in a symbol. -/
def sampleMessage (kind : String) :
    ExchangeName → TestnetUserStreamEventType → List (String × Json)
  | .binance, .order => [("e", .str kind), ("c", .str "BTC"), ("X", .str "NEW")]
  | .binance, _ =>
    [("e", .str kind), ("B", .arr [.obj [("a", .str "BTC"), ("f", .str "0"), ("l", .str "0")]])]
  | .bybit, .order =>
    [("topic", .str kind),
      ("data", .arr [.obj [("orderLinkId", .str "BTC"), ("orderStatus", .str "New")]])]
  | .bybit, .balance =>
    [("topic", .str kind),
      ("data", .arr [.obj
        [("coin", .arr [.obj [("coin", .str "BTC"), ("walletBalance", .str "0")]])]])]
  | .bybit, _ =>
    [("topic", .str kind),
      ("data", .arr [.obj [("symbol", .str "BTC"), ("side", .str ""), ("size", .str "0")]])]
  | .okx, .order =>
    [("arg", .obj [("channel", .str kind)]),
      ("data", .arr [.obj [("clOrdId", .str "BTC"), ("state", .str "live")]])]
  | .okx, .balance =>
    [("arg", .obj [("channel", .str kind)]),
      ("data", .arr [.obj
        [("details", .arr [.obj
          [("ccy", .str "BTC"), ("availBal", .str "0"), ("cashBal", .str "0")]])]])]
  | .okx, _ =>
    [("arg", .obj [("channel", .str kind)]),
      ("data", .arr [.obj [("instId", .str "BTC"), ("pos", .str "0")]])]
  | .mock, _ => []

theorem discriminator_sampleMessage (py : Platform) (kind : String)
    (supported : exchangeName ≠ .mock) (type : TestnetUserStreamEventType) :
    discriminator py (sampleMessage kind exchangeName type) exchangeName = some kind := by
  cases exchangeName with
  | binance => cases type <;> rfl
  | bybit => cases type <;> rfl
  | okx => cases type <;> rfl
  | mock => exact absurd rfl supported

theorem strip_word (ascii : py.Ascii) {text : String} (word : text.toList.all Char.isAlphanum) :
    py.strip text = text :=
  Platform.strip_solid fun c hc => ascii.solid c (List.all_eq_true.mp word c hc)

theorem quantityOf_zero (ascii : py.Ascii) (field : String) (nonnegative : Bool) :
    quantityOf py field nonnegative (.str "0") = .ok ⟨0, 0⟩ := by
  have read : DecimalLiteral.read py "0" = some (.finite ⟨0, 0⟩) := by
    have plain : py.asciiNumeral '0' = '0' := Platform.asciiNumeral_of_ascii (by decide)
    have numeral : ("0".toList.filter (· != '_')).map py.asciiNumeral = ['0'] :=
      congrArg ([·]) plain
    unfold DecimalLiteral.read
    rw [strip_word ascii (by decide), numeral]
    rfl
  unfold quantityOf Platform.strOf
  rw [read]
  simp

theorem identifierOf_word (ascii : py.Ascii) (field : String) :
    identifierOf py field (.str "BTC") = .ok "BTC" := by
  have upper : py.upper "BTC" = "BTC" := by
    unfold Platform.upper
    simp [ascii.upper]
  have word : "BTC".toList.all (isIdentifierChar py) = true := by
    simp [isIdentifierChar, ascii.alnum]
  unfold identifierOf
  dsimp only
  rw [strip_word ascii (by decide), upper, if_neg (by decide), if_neg (not_not.mpr word)]

theorem entries_sampleMessage (ascii : py.Ascii) (supported : exchangeName ≠ .mock) :
    exchangeBalanceUpdates py exchangeName (sampleMessage kind exchangeName .balance) =
      .ok [⟨"BTC", ⟨0, 0⟩, ⟨0, 0⟩, ⟨0, 0⟩⟩] := by
  have sum : decimalAdd ⟨0, 0⟩ ⟨0, 0⟩ = ⟨0, 0⟩ := rfl
  have difference : decimalSub ⟨0, 0⟩ ⟨0, 0⟩ = ⟨0, 0⟩ := rfl
  have equal : ¬ (⟨0, 0⟩ : Decimal) < ⟨0, 0⟩ := Rat.not_lt.mpr le_rfl
  cases exchangeName with
  | binance =>
    simp [exchangeBalanceUpdates, binanceBalanceUpdates, binanceBalance, sampleMessage, dictList,
      objectsOf, objectOf, Json.get, Json.lookup, quantityOf_zero ascii, identifierOf_word ascii,
      ok_bind, sum]
  | bybit =>
    simp [exchangeBalanceUpdates, bybitBalanceUpdates, bybitBalance, sampleMessage, dictList,
      objectsOf, objectOf, Json.get, Json.lookup, quantityOf_zero ascii, identifierOf_word ascii,
      ok_bind, difference, equal]
  | okx =>
    simp [exchangeBalanceUpdates, okxBalanceUpdates, okxBalance, sampleMessage, dictList,
      objectsOf, objectOf, Json.get, Json.lookup, quantityOf_zero ascii, identifierOf_word ascii,
      ok_bind, sum, equal]
  | mock => exact absurd rfl supported

theorem balanceUpdates_sampleMessage (kind : String) (ascii : py.Ascii) (supported : exchangeName ≠ .mock) :
    balanceUpdates py exchangeName (sampleMessage kind exchangeName .balance) =
      .ok [⟨"BTC", ⟨0, 0⟩, ⟨0, 0⟩, ⟨0, 0⟩⟩] := by
  unfold balanceUpdates
  rw [entries_sampleMessage ascii supported, ok_bind]
  rfl

theorem positionUpdates_sampleMessage (kind : String) (ascii : py.Ascii)
    (supported : exchangeName = .bybit ∨ exchangeName = .okx) :
    positionUpdates py exchangeName (sampleMessage kind exchangeName .position) =
      .ok [⟨"BTC", ⟨0, 0⟩⟩] := by
  have entries : exchangePositionUpdates py exchangeName
      (sampleMessage kind exchangeName .position) = .ok [⟨"BTC", ⟨0, 0⟩⟩] := by
    rcases supported with rfl | rfl
    · simp [exchangePositionUpdates, bybitPositionUpdates, bybitPosition, sampleMessage, dictList,
        objectsOf, objectOf, Json.get, Json.lookup, quantityOf_zero ascii, identifierOf_word ascii,
        ok_bind, signedSize]
    · simp [exchangePositionUpdates, okxPositionUpdates, okxPosition, sampleMessage, dictList,
        objectsOf, objectOf, Json.get, Json.lookup, quantityOf_zero ascii, identifierOf_word ascii,
        ok_bind]
  unfold positionUpdates
  rw [entries, ok_bind]
  rfl

theorem normalize_sampleMessage (ascii : py.Ascii) (supported : exchangeName ≠ .mock)
    (handled : exchangeName = .binance → kind = "executionReport") :
    ∃ event, normalizeTestnetUserStreamOrderEvent py exchangeName
        (sampleMessage kind exchangeName .order) = .ok event ∧
      event.clientOrderId = some "BTC" ∧ event.exchangeOrderId = none := by
  have text : optionalText py (.str "BTC") = some "BTC" := by
    unfold optionalText Platform.strOf
    dsimp only
    rw [strip_word ascii (by decide)]
    rfl
  have missing : optionalText py .null = none := rfl
  cases exchangeName with
  | binance =>
    rw [handled rfl]
    have status : statusOf py (.str "NEW") binanceStatuses = .ok .accepted := rfl
    simp [normalizeTestnetUserStreamOrderEvent, normalizeBinance, sampleMessage, Json.get,
      Json.lookup, status, optionalDecimal, ok_bind, text, missing]
  | bybit =>
    have status : statusOf py (.str "New") bybitStatuses = .ok .accepted := rfl
    simp [normalizeTestnetUserStreamOrderEvent, normalizeBybit, firstMapping, sampleMessage,
      Json.get, Json.lookup, status, optionalDecimal, ok_bind, text, missing]
  | okx =>
    have status : statusOf py (.str "live") okxStatuses = .ok .accepted := rfl
    simp [normalizeTestnetUserStreamOrderEvent, normalizeOkx, firstMapping, sampleMessage,
      Json.get, Json.lookup, status, optionalDecimal, ok_bind, text, missing]
  | mock => exact absurd rfl supported

end message

/-! ### Handling an event -/

/-- An account that the handler serves, with rows that are those of its owner. -/
structure StreamAccount (userId exchangeAccountId : String) (exchangeName : ExchangeName)
    (db : Db) : Prop where
  account : ∃ row ∈ db.accounts, row.id = exchangeAccountId ∧ row.userId = userId ∧
    row.isActive = true ∧ row.accountMode = .testnet ∧ row.exchangeName = exchangeName
  balances : ∀ row ∈ db.balances, row.exchangeAccountId = exchangeAccountId → row.userId = userId
  positions : ∀ row ∈ db.positions, row.exchangeAccountId = exchangeAccountId → row.userId = userId
  executions : ∀ row ∈ db.executions, row.id ≠ ""

section handling

variable {py : Platform} {userId exchangeAccountId : String} {s : Session} {w : World}
  {event : TestnetUserStreamEvent}

/-- Changed instances alone are always written. -/
theorem Db.flush_instances (db : Db) (clean : s.work = {}) :
    ∃ after, db.flush s.pending = .ok after := by
  unfold Session.pending
  rw [clean]
  unfold Db.flush Work.write
  simp only [Table.insertAll_nil, Option.bind_eq_bind, Option.bind_some, Option.pure_def]
  exact ⟨_, rfl⟩

theorem Db.flush_balance (columns : BalanceColumns) (db : Db) (clean : s.work = {})
    (owned : ∀ row ∈ db.balances, row.exchangeAccountId = exchangeAccountId → row.userId = userId) :
    ∃ after, db.flush (s.withBalances ((balanceUpserts userId exchangeAccountId).pending db.balances
      [columns] s.balancePending)).pending = .ok after := by
  obtain ⟨rest, flushed⟩ := Db.flush_instances db clean
  have first : s.balancePending = {} := by
    unfold Session.balancePending
    rw [clean]
  have only : ∀ old ∈ db.balances,
      Row.Conflict old ((balanceUpserts userId exchangeAccountId).row columns) →
        (balanceUpserts userId exchangeAccountId).named columns old = true := by
    intro old hold conflict
    have key : Row.key old = Row.key ((balanceUpserts userId exchangeAccountId).row columns) :=
      conflict
    have account := congrArg Balance.Key.exchangeAccountId key
    exact isBalance_iff.mpr ⟨owned old hold account, account, congrArg Balance.Key.asset key⟩
  obtain ⟨balances, written⟩ := Pending.exists_write_upsert only
  refine ⟨_, Db.flush_iff_balances.mpr ⟨balances, rest, ?_, ?_, rfl⟩⟩
  · rw [first]
    exact written
  · rw [← flushed]
    unfold Session.withBalances Session.pending Work.withBalances
    rw [clean]

theorem Db.flush_position (columns : PositionColumns) (db : Db) (clean : s.work = {})
    (owned : ∀ row ∈ db.positions, row.exchangeAccountId = exchangeAccountId → row.userId = userId) :
    ∃ after, db.flush (s.withPositions ((positionUpserts userId exchangeAccountId).pending
      db.positions [columns] s.positionPending)).pending = .ok after := by
  obtain ⟨rest, flushed⟩ := Db.flush_instances db clean
  have first : s.positionPending = {} := by
    unfold Session.positionPending
    rw [clean]
  have only : ∀ old ∈ db.positions,
      Row.Conflict old ((positionUpserts userId exchangeAccountId).row columns) →
        (positionUpserts userId exchangeAccountId).named columns old = true := by
    intro old hold conflict
    have key : Row.key old = Row.key ((positionUpserts userId exchangeAccountId).row columns) :=
      conflict
    have account := congrArg Position.Key.exchangeAccountId key
    exact isPosition_iff.mpr ⟨owned old hold account, account, congrArg Position.Key.symbol key⟩
  obtain ⟨positions, written⟩ := Pending.exists_write_upsert only
  refine ⟨_, Db.flush_iff_positions.mpr ⟨positions, rest, ?_, ?_, rfl⟩⟩
  · rw [first]
    exact written
  · rw [← flushed]
    unfold Session.withPositions Session.pending Work.withPositions
    rw [clean]

variable {exchangeName : ExchangeName}

/-- An account that the handler serves passes the checks of a state event. -/
theorem alone_servedAccount {post : Except Exc (Option ExchangeAccount) → Session → World → Prop}
    (served : StreamAccount userId exchangeAccountId exchangeName w.db) (sees : s.SeesCommitted w.db)
    (next : ∀ account s' w', requireTestnetAccount account exchangeName = .ok () →
      s'.work = {} → w'.db = w.db → post (.ok account) s' w') :
    Alone semantics (fun _ => True) (getOwnedAccount userId exchangeAccountId) post s w := by
  obtain ⟨row, stored, id, user, active, testnet, exchange⟩ := served.account
  refine Alone.mono (looks_getOwnedAccount sees.accounts) ?_
  rintro outcome s' w' ⟨found, looked⟩
  rcases found with ⟨-, missing⟩ | ⟨account, held, id', -, rfl⟩
  · exact absurd ⟨id, user⟩ (missing row stored)
  · obtain rfl : account = row := Table.eq_of_conflict held stored (id'.trans id.symm)
    exact next _ s' w' (required_of_maySync ⟨account, rfl, active, testnet, exchange⟩)
      (looked.work.trans sees.work) looked.db

/-- A commit whose rows are accepted returns. -/
theorem alone_commit_accepted {post : Except Exc Unit → Session → World → Prop}
    (accepted : ∃ after, w.db.flush s.pending = .ok after)
    (next : ∀ w', post (.ok ()) {} w') :
    Alone semantics (fun _ => True) Session.commit post s w := by
  obtain ⟨after, flushed⟩ := accepted
  rw [alone_commit]
  constructor
  · intro written _
    exact ⟨trivial, next written⟩
  · intro fault refused
    have accepted : World.flush s.pending w = .ok _ := congrArg (Except.map _) flushed
    cases accepted.symm.trans refused

theorem alone_handleTestnetStateEvent_balance {update : BalanceStateUpdate}
    {columns : BalanceColumns} {payload : List (String × Json)}
    (served : StreamAccount userId exchangeAccountId exchangeName w.db) (sees : s.SeesCommitted w.db)
    (decoded : balanceUpdates py exchangeName payload = .ok [update])
    (bound : update.columns = .ok columns) :
    Alone semantics (fun _ => True)
      (handleTestnetStateEvent py userId exchangeAccountId ⟨exchangeName, .balance, payload⟩)
      (fun outcome _ _ => ∃ result, outcome = .ok result) s w := by
  unfold handleTestnetStateEvent syncTestnetAccountStateEvent
  rw [alone_bind, alone_bind]
  refine alone_servedAccount served sees fun account s' w' required clean same => ?_
  have all : [update].mapM BalanceStateUpdate.columns = .ok [columns] := by
    simp [bound]
  have accepted := Db.flush_balance columns w'.db clean (same ▸ served.balances)
  rw [andThen_ok, alone_bind, alone_ofExcept, required, andThen_ok]
  dsimp only
  rw [alone_bind, alone_ofExcept, decoded, andThen_ok, alone_bind, alone_ofExcept, all, andThen_ok,
    alone_bind, alone_upsertBalances, andThen_ok, alone_bind, alone_flush,
    if_pos (isOk_iff.mpr accepted), andThen_ok, alone_pure, andThen_ok]
  rw [if_pos rfl, alone_bind]
  refine alone_commit_accepted accepted fun last => ?_
  exact ⟨_, rfl⟩

theorem alone_handleTestnetStateEvent_position {update : PositionStateUpdate}
    {columns : PositionColumns} {payload : List (String × Json)}
    (served : StreamAccount userId exchangeAccountId exchangeName w.db) (sees : s.SeesCommitted w.db)
    (decoded : positionUpdates py exchangeName payload = .ok [update])
    (bound : update.columns = .ok columns) :
    Alone semantics (fun _ => True)
      (handleTestnetStateEvent py userId exchangeAccountId ⟨exchangeName, .position, payload⟩)
      (fun outcome _ _ => ∃ result, outcome = .ok result) s w := by
  unfold handleTestnetStateEvent syncTestnetAccountStateEvent
  rw [alone_bind, alone_bind]
  refine alone_servedAccount served sees fun account s' w' required clean same => ?_
  have all : [update].mapM PositionStateUpdate.columns = .ok [columns] := by
    simp [bound]
  have accepted := Db.flush_position columns w'.db clean (same ▸ served.positions)
  rw [andThen_ok, alone_bind, alone_ofExcept, required, andThen_ok]
  dsimp only
  rw [alone_bind, alone_ofExcept, decoded, andThen_ok, alone_bind, alone_ofExcept, all, andThen_ok,
    alone_bind, alone_upsertPositions, andThen_ok, alone_bind, alone_flush,
    if_pos (isOk_iff.mpr accepted), andThen_ok, alone_pure, andThen_ok]
  rw [if_pos rfl, alone_bind]
  refine alone_commit_accepted accepted fun last => ?_
  exact ⟨_, rfl⟩

/-- An event that names an order, with identifiers the database takes, is applied or ignored. -/
theorem alone_applyTestnetOrderEvent_returns {order : NormalizedTestnetOrderEvent}
    {reason : String} (served : StreamAccount userId exchangeAccountId exchangeName w.db)
    (sees : s.SeesCommitted w.db) (named : (usable order.clientOrderId).isSome)
    (fits : order.Fits) :
    Alone semantics (fun _ => True)
      (applyTestnetOrderEvent userId exchangeAccountId order reason)
      (fun outcome _ _ => ∃ result, outcome = .ok result) s w := by
  cases found : findExecution userId exchangeAccountId order w.db with
  | none =>
    unfold applyTestnetOrderEvent
    rw [alone_bind, alone_raiseIf]
    constructor
    · rintro ⟨unnamed, -⟩
      rw [Option.isNone_iff_eq_none] at unnamed
      rw [unnamed] at named
      cases named
    · intro _
      rw [andThen_ok, alone_bind, alone_raiseIf]
      refine ⟨fun unsearchable => absurd fits.isSearchable unsearchable, fun _ => ?_⟩
      rw [andThen_ok, alone_bind, alone_query, andThen_ok, found]
      exact ⟨_, rfl⟩
  | some x =>
    have saved := served.executions x (Table.mem_of_find? found)
    refine (alone_applyTestnetOrderEvent rfl sees saved found).mono ?_
    rintro outcome s' w' ⟨returned, -⟩
    exact returned (fits.not_refused x)

theorem alone_handleTestnetUserStreamEvent_sample {kind : String} (ascii : py.Ascii)
    (served : StreamAccount userId exchangeAccountId exchangeName w.db) (sees : s.SeesCommitted w.db)
    (known : discriminatedType kind exchangeName ≠ .unknown)
    (taken : ¬ (exchangeName = .binance ∧ kind = "listStatus")) :
    Alone semantics (fun _ => True)
      (handleTestnetUserStreamEvent py userId exchangeAccountId
        ⟨exchangeName, discriminatedType kind exchangeName,
          sampleMessage kind exchangeName (discriminatedType kind exchangeName)⟩)
      (fun outcome _ _ => ∃ result, outcome = .ok result) s w := by
  have supported : exchangeName ≠ .mock := by
    rintro rfl
    exact known rfl
  unfold handleTestnetUserStreamEvent
  dsimp only
  cases type : discriminatedType kind exchangeName with
  | order =>
    rw [if_pos rfl, alone_bind]
    have handled : exchangeName = .binance → kind = "executionReport" := by
      rintro rfl
      unfold discriminatedType at type
      dsimp only at type
      split at type
      · next order => exact order.resolve_right fun list => taken ⟨rfl, list⟩
      · split at type
        · cases type
        · cases type
    obtain ⟨order, normalized, named, unnumbered⟩ := normalize_sampleMessage ascii supported handled
    unfold handleUserStreamOrderEvent
    rw [alone_bind, alone_ofExcept, normalized, andThen_ok]
    have usable : (usable order.clientOrderId).isSome := by
      rw [named]
      rfl
    have fits : order.Fits := by
      constructor
      · rw [named]
        decide
      · rw [unnumbered]
        rfl
    refine (alone_applyTestnetOrderEvent_returns served sees usable fits).mono ?_
    rintro outcome s' w' ⟨result, rfl⟩
    exact ⟨_, rfl⟩
  | balance =>
    rw [if_neg (by decide), alone_bind]
    have decoded := balanceUpdates_sampleMessage kind ascii supported
    refine (alone_handleTestnetStateEvent_balance served sees decoded rfl).mono ?_
    rintro outcome s' w' ⟨result, rfl⟩
    exact ⟨_, rfl⟩
  | position =>
    rw [if_neg (by decide), alone_bind]
    have holds : exchangeName = .bybit ∨ exchangeName = .okx := by
      cases exchangeName with
      | bybit => exact .inl rfl
      | okx => exact .inr rfl
      | binance =>
        unfold discriminatedType at type
        dsimp only at type
        split at type
        · cases type
        · split at type
          · cases type
          · cases type
      | mock => exact absurd rfl supported
    have decoded := positionUpdates_sampleMessage kind ascii holds
    refine (alone_handleTestnetStateEvent_position served sees decoded rfl).mono ?_
    rintro outcome s' w' ⟨result, rfl⟩
    exact ⟨_, rfl⟩
  | unknown => exact absurd type known

end handling

/-! ### Which kinds of events can be handled -/

section

variable {py : Platform} {userId exchangeAccountId : String} {s : Session} {w : World}
  {exchangeName : ExchangeName} {kind : String}

/-- Every run of the handler returns. -/
def Processes (py : Platform) (userId exchangeAccountId : String) (event : TestnetUserStreamEvent)
    (s : Session) (w : World) : Prop :=
  ∀ trace outcome s' w', Prog.Run semantics
    (handleTestnetUserStreamEvent py userId exchangeAccountId event s) w trace
    (.done (outcome, s')) w' → ∃ result, outcome = .ok result

/-- Some message with this discriminator is classified and then handled. -/
def CanProcess (py : Platform) (userId exchangeAccountId : String) (exchangeName : ExchangeName)
    (kind : String) (s : Session) (w : World) : Prop :=
  ∃ payload event, discriminator py payload exchangeName = some kind ∧
    parseTestnetUserStreamEvent py exchangeName payload = .ok event ∧
    Processes py userId exchangeAccountId event s w

/-- The handler takes no list status, whatever else the message says. -/
theorem not_canProcess_listStatus :
    ¬ CanProcess py userId exchangeAccountId .binance "listStatus" s w := by
  rintro ⟨payload, event, named, parsed, processes⟩
  rw [parseTestnetUserStreamEvent_of_discriminator named] at parsed
  cases parsed
  have answered : ∀ store query, ∃ answer after, semantics.Answers store query answer after :=
    fun store query => ⟨_, _, environment_allowed ⟨true, .empty⟩ 0 () store query rfl⟩
  obtain ⟨trace, ⟨outcome, s'⟩, last, ran⟩ := Prog.exists_complete answered
    (handleTestnetUserStreamEvent py userId exchangeAccountId
      ⟨.binance, discriminatedType "listStatus" .binance, payload⟩ s) w
  obtain ⟨result, returned⟩ := processes trace outcome s' last ran
  have refused : normalizeBinance py payload = .error (invalidEvent "invalid Binance order event") := by
    dsimp only [discriminator] at named
    split at named
    · next name found =>
      cases named
      simp only [normalizeBinance, found]
      rfl
    · cases named
  have raises : Alone semantics (fun _ => True)
      (handleTestnetUserStreamEvent py userId exchangeAccountId
        ⟨.binance, discriminatedType "listStatus" .binance, payload⟩)
      (fun outcome _ _ => ∃ exc, outcome = .error exc) s w := by
    have order : discriminatedType "listStatus" .binance = .order := by decide
    unfold handleTestnetUserStreamEvent handleUserStreamOrderEvent
    rw [if_pos order, alone_bind, alone_bind, alone_ofExcept]
    dsimp only [normalizeTestnetUserStreamOrderEvent]
    rw [refused]
    exact ⟨_, rfl⟩
  obtain ⟨exc, raised⟩ := (ran.of_alone raises).2
  cases returned.symm.trans raised

/-- Every kind of event that is classified as handled can be handled, but Binance's list
status. -/
theorem event_kind_processed_iff (ascii : py.Ascii)
    (served : StreamAccount userId exchangeAccountId exchangeName w.db) (sees : s.SeesCommitted w.db)
    {payload : List (String × Json)} {event : TestnetUserStreamEvent}
    (named : discriminator py payload exchangeName = some kind)
    (parsed : parseTestnetUserStreamEvent py exchangeName payload = .ok event)
    (handled : event.eventType ≠ .unknown) :
    CanProcess py userId exchangeAccountId exchangeName kind s w ↔
      ¬ (exchangeName = .binance ∧ kind = "listStatus") := by
  constructor
  · rintro processes ⟨rfl, rfl⟩
    exact not_canProcess_listStatus processes
  · intro taken
    rw [parseTestnetUserStreamEvent_of_discriminator named] at parsed
    cases parsed
    have supported : exchangeName ≠ .mock := by
      rintro rfl
      exact handled rfl
    have sampled := discriminator_sampleMessage py kind supported
      (discriminatedType kind exchangeName)
    refine ⟨_, _, sampled, parseTestnetUserStreamEvent_of_discriminator sampled, ?_⟩
    intro trace outcome s' w' ran
    exact (ran.of_alone
      (alone_handleTestnetUserStreamEvent_sample ascii served sees handled taken)).2

theorem streamAccount_testnetWorld : StreamAccount "u" "a" .binance testnetWorld.db where
  account := ⟨sampleAccount .testnet, List.mem_cons_self, rfl, rfl, rfl, rfl, rfl⟩
  balances _ h := (List.not_mem_nil h).elim
  positions _ h := (List.not_mem_nil h).elim
  executions _ h := (List.not_mem_nil h).elim

theorem event_kind_processed_iff_report :
    CanProcess asciiPlatform "u" "a" .binance "executionReport" {} testnetWorld := by
  have parsed : parseTestnetUserStreamEvent asciiPlatform .binance [("e", .str "executionReport")] =
      .ok ⟨.binance, .order, [("e", .str "executionReport")]⟩ := rfl
  have iff := event_kind_processed_iff asciiPlatform_ascii streamAccount_testnetWorld (.fresh _)
    rfl parsed (by decide)
  exact iff.mpr (by decide)

/-- A list status is handed on as an order event, and raises whatever it says. -/
theorem listStatus_classified_and_rejected :
    (∃ event, parseTestnetUserStreamEvent asciiPlatform .binance [("e", .str "listStatus")] =
        .ok event ∧ event.eventType = .order) ∧
      StreamAccount "u" "a" .binance testnetWorld.db ∧
      ¬ CanProcess asciiPlatform "u" "a" .binance "listStatus" {} testnetWorld :=
  ⟨⟨_, rfl, rfl⟩, streamAccount_testnetWorld, not_canProcess_listStatus⟩

end

end CopyTrading
