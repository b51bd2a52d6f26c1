import CopyTrading.HttpClient
import CopyTrading.RiskEngine

/-!
The preflight gate of testnet orders and the approval of an order window: an
administrator records symbol, side, limits and a duration in the audit log, and every
submission is checked against the latest such record.
-/

namespace CopyTrading

open Transaction DecimalArith

/-! ### The preflight gate -/

structure TestnetOrderGateResult where
  reasons : List String
  deriving DecidableEq

/-- `status == APPROVED`. -/
def TestnetOrderGateResult.approved (result : TestnetOrderGateResult) : Bool :=
  result.reasons.isEmpty

structure TestnetOrderGateInput where
  exchangeName : ExchangeName
  accountMode : AccountMode
  testnetAdaptersEnabled : Bool
  exchangeAccountTradingEnabled : Bool
  riskTradingEnabled : Bool
  apiKeyConfigured : Bool
  manualTestnetOrderEnableConfirmed : Bool

def checkTestnetOrderGate (input : TestnetOrderGateInput) : TestnetOrderGateResult where
  reasons :=
    (if (testnetRestBaseUrl input.exchangeName).isSome then []
      else ["exchange does not support testnet order routing"]) ++
    (if input.accountMode = .testnet then []
      else ["account mode must be TESTNET before testnet orders"]) ++
    (if input.testnetAdaptersEnabled then []
      else ["TESTNET_ADAPTERS_ENABLED must be true before testnet orders"]) ++
    (if input.exchangeAccountTradingEnabled then []
      else ["exchange account trading_enabled must be true before testnet orders"]) ++
    (if input.riskTradingEnabled then []
      else ["risk settings trading_enabled must be true before testnet orders"]) ++
    (if input.apiKeyConfigured then []
      else ["testnet API key metadata must be configured before testnet orders"]) ++
    (if input.manualTestnetOrderEnableConfirmed then []
      else ["manual testnet order enable confirmation must be recorded"])

theorem gate_approved {input : TestnetOrderGateInput}
    (approved : (checkTestnetOrderGate input).approved) :
    (testnetRestBaseUrl input.exchangeName).isSome ∧
      input.exchangeAccountTradingEnabled = true ∧ input.riskTradingEnabled = true ∧
      input.apiKeyConfigured = true := by
  simp only [TestnetOrderGateResult.approved, checkTestnetOrderGate, List.isEmpty_iff,
    List.append_eq_nil_iff] at approved
  obtain ⟨⟨⟨⟨⟨⟨hexchange, -⟩, -⟩, haccount⟩, hrisk⟩, hkey⟩, -⟩ := approved
  exact ⟨by simpa [Option.isSome_iff_ne_none] using hexchange, by simpa using haccount, by simpa using hrisk,
    by simpa using hkey⟩

/-! ### Recording an approval -/

def testnetOrderWindowApprovalAck : String := "APPROVE_TESTNET_ORDER_WINDOW_ONLY"

def windowApprovalAction : String := "testnet.order_window.approval_recorded"

/-- `TestnetOrderWindowApprovalRequest`: the schema admits positive limits and durations from
one to ten minutes. -/
structure TestnetOrderWindowApprovalRequest where
  exchangeAccountId : String
  symbol : String
  side : OrderSide
  maxQuantity : Decimal
  maxNotional : Decimal
  durationMinutes : Int
  acknowledgement : String
  maxQuantity_pos : 0 < maxQuantity.toRat
  maxNotional_pos : 0 < maxNotional.toRat
  duration_bounds : 1 ≤ durationMinutes ∧ durationMinutes ≤ 10

structure TestnetOrderWindowApproval where
  auditLogId : String
  exchangeAccountId : String
  exchangeName : ExchangeName
  symbol : String
  side : OrderSide
  maxQuantity : Decimal
  maxNotional : Decimal
  durationMinutes : Int

def approvalBlockedReasons (role : UserRole) (account : ExchangeAccount)
    (testnetAdaptersEnabled : Bool) (riskSettings : Option RiskSetting) (apiKeyConfigured : Bool)
    (durationMinutes : Int) (acknowledgement : String) : List String :=
  (if role = .superAdmin ∨ role = .admin then []
    else ["admin privileges are required to approve a testnet order window"]) ++
  (if (testnetRestBaseUrl account.exchangeName).isSome then []
    else ["exchange does not support testnet order routing"]) ++
  (if account.isActive then []
    else ["exchange account must be active before approving an order window"]) ++
  (if account.accountMode = .testnet then []
    else ["account mode must be TESTNET before approving an order window"]) ++
  (if testnetAdaptersEnabled then
    ["TESTNET_ADAPTERS_ENABLED must still be false before approval is recorded"] else []) ++
  (if account.tradingEnabled then
    ["exchange account trading_enabled must still be false before approval"] else []) ++
  (match riskSettings with
    | none => ["risk settings must exist before approving an order window"]
    | some settings =>
      if settings.tradingEnabled then
        ["risk settings trading_enabled must still be false before approval"] else []) ++
  (if apiKeyConfigured then []
    else ["encrypted API key metadata must exist before approving an order window"]) ++
  (if durationMinutes < 1 ∨ 10 < durationMinutes then
    ["testnet order window duration must be between 1 and 10 minutes"] else []) ++
  (if acknowledgement = testnetOrderWindowApprovalAck then []
    else ["explicit testnet order window acknowledgement is required"])

def approvalPayload (account : ExchangeAccount) (payload : TestnetOrderWindowApprovalRequest) :
    List (String × Json) :=
  [("exchange_name", .str account.exchangeName.value),
    ("account_mode", .str account.accountMode.value), ("symbol", .str payload.symbol),
    ("side", .str payload.side.value), ("max_quantity", .str (decimalStr payload.maxQuantity)),
    ("max_notional", .str (decimalStr payload.maxNotional)),
    ("duration_minutes", .int payload.durationMinutes),
    ("acknowledgement", .str payload.acknowledgement),
    ("order_submission_authorized", .bool false), ("trading_flags_changed", .bool false)]

def recordTestnetOrderWindowApproval (userId : String) (role : UserRole)
    (payload : TestnetOrderWindowApprovalRequest) (testnetAdaptersEnabled : Bool) :
    Service TestnetOrderWindowApproval := do
  match ← getOwnedAccount userId payload.exchangeAccountId with
  | none => throw (.valueError "account not found")
  | some account =>
    let riskSettings ← Session.query (riskSettingOf userId account.id)
    let secretMetadata ← getApiKeySecretMetadata userId account.id
    let reasons := approvalBlockedReasons role account testnetAdaptersEnabled riskSettings
      secretMetadata.isSome payload.durationMinutes payload.acknowledgement
    Handler.raiseIf (reasons ≠ []) (.windowApprovalBlocked reasons)
    let auditLogId ← ask .newUuid
    let createdAt ← ask .utcNow
    Session.add fun work =>
      { work with
        auditLogs := work.auditLogs ++
          [{ id := auditLogId, userId, exchangeAccountId := some account.id
             action := windowApprovalAction, severity := "WARNING"
             payload := approvalPayload account payload, createdAt }] }
    Session.commit
    return { auditLogId, exchangeAccountId := account.id, exchangeName := account.exchangeName
             symbol := payload.symbol, side := payload.side, maxQuantity := payload.maxQuantity
             maxNotional := payload.maxNotional, durationMinutes := payload.durationMinutes }

/-- `POST /orders/testnet/window-approval`. -/
def approveTestnetOrderWindow (userId : String) (role : UserRole)
    (payload : TestnetOrderWindowApprovalRequest) (testnetAdaptersEnabled : Bool) :
    Service TestnetOrderWindowApproval :=
  tryCatch (recordTestnetOrderWindowApproval userId role payload testnetAdaptersEnabled)
    fun raised =>
      if raised.isValueError then throw (.httpException 404 (.text raised.message))
      else match raised with
        | .windowApprovalBlocked reasons => throw (.httpException 400 (.reasons reasons))
        | other => throw other

/-! ### Checking a submission against the latest approval -/

structure TestnetOrderWindowAuthorization where
  auditLogId : String
  expiresAt : Instant
  deriving DecidableEq

/-- What the approval check reads of a submission. -/
structure WindowOrder where
  symbol : String
  side : OrderSide
  quantity : Decimal
  price : Option Decimal

def isApprovalFor (userId exchangeAccountId : String) (log : AuditLog) : Bool :=
  log.userId = userId ∧ log.exchangeAccountId = some exchangeAccountId ∧
    log.action = windowApprovalAction

/-- The first row of the greatest `created_at`. -/
def latestOf : List AuditLog → Option AuditLog
  | [] => none
  | log :: rest =>
      match latestOf rest with
      | none => some log
      | some later => if log.createdAt < later.createdAt then some later else some log

theorem mem_of_latestOf {logs : List AuditLog} {log : AuditLog} (latest : latestOf logs = some log) :
    log ∈ logs := by
  induction logs with
  | nil => cases latest
  | cons first rest ih =>
    unfold latestOf at latest
    split at latest
    · cases latest
      exact List.mem_cons_self
    · next later hlater =>
      split at latest
      · cases latest
        exact List.mem_cons_of_mem _ (ih hlater)
      · cases latest
        exact List.mem_cons_self

/-- `ORDER BY created_at DESC`, first row. -/
def latestApproval (userId exchangeAccountId : String) (db : Db) : Option AuditLog :=
  latestOf (db.auditLogs.rows.filter (isApprovalFor userId exchangeAccountId))

def minuteMicros : Int := 60000000

/-- `_decimal_from_payload`. -/
def decimalFromPayload (py : Platform) (value : Json) : Option DecimalLiteral :=
  DecimalLiteral.read py (py.strOf value)

/-- `_int_from_payload`. -/
def intFromPayload (py : Platform) (value : Json) : Option Int := parseInt py (py.strOf value)

/-- A limit that is there and exceeded. -/
def limitExceeded (value : Decimal) : Option DecimalLiteral → Except Exc Bool
  | none => .ok false
  | some limit => limit.exceeded value

def reasonIf (condition : Bool) (reason : String) : List String :=
  if condition then [reason] else []

/-- The checks on the latest approval, in source order. The price reason and the reasons of
an unreadable payload come first. -/
def windowReasons (py : Platform) (order : WindowOrder) (log : AuditLog) (now : Instant) :
    Except Exc (List String) := do
  let symbol := Json.lookup "symbol" log.payload
  let side := Json.lookup "side" log.payload
  let approvedSymbol := py.upper (py.strip ((symbol.map py.strOf).getD ""))
  let approvedSide := (side.map py.strOf).getD ""
  let maxQuantity := decimalFromPayload py (Json.get log.payload "max_quantity")
  let maxNotional := decimalFromPayload py (Json.get log.payload "max_notional")
  let durationMinutes := intFromPayload py (Json.get log.payload "duration_minutes")
  let quantityExceeded ← limitExceeded order.quantity maxQuantity
  let notionalExceeded ← match order.price with
    | none => pure false
    | some price => limitExceeded (decimalMul order.quantity price) maxNotional
  let expiresAt := log.createdAt + minuteMicros * durationMinutes.getD 0
  let durationInvalid := durationMinutes.all fun minutes => minutes < 1 ∨ 10 < minutes
  return reasonIf order.price.isNone
      "limit price is required for approved testnet order windows" ++
    reasonIf maxQuantity.isNone "testnet order window audit max_quantity is invalid" ++
    reasonIf maxNotional.isNone "testnet order window audit max_notional is invalid" ++
    reasonIf durationMinutes.isNone "testnet order window audit duration_minutes is invalid" ++
    reasonIf (approvedSymbol ≠ py.upper (py.strip order.symbol))
      "testnet order symbol must match the approved window" ++
    reasonIf (approvedSide ≠ order.side.value)
      "testnet order side must match the approved window" ++
    reasonIf quantityExceeded "testnet order quantity exceeds the approved window" ++
    reasonIf notionalExceeded "testnet order notional exceeds the approved window" ++
    (if durationInvalid then ["testnet order window audit duration is invalid"]
      else reasonIf (expiresAt < now) "testnet order window approval has expired")

/-- What a submission without a reason against it is within. -/
structure WithinWindow (py : Platform) (order : WindowOrder) (log : AuditLog) (now : Instant) :
    Prop where
  symbol : py.upper (py.strip (((Json.lookup "symbol" log.payload).map py.strOf).getD "")) =
    py.upper (py.strip order.symbol)
  side : ((Json.lookup "side" log.payload).map py.strOf).getD "" = order.side.value
  quantity : ∃ most, decimalFromPayload py (Json.get log.payload "max_quantity") = some most ∧
    most.exceeded order.quantity = .ok false
  notional : ∃ price most, order.price = some price ∧
    decimalFromPayload py (Json.get log.payload "max_notional") = some most ∧
    most.exceeded (decimalMul order.quantity price) = .ok false
  unexpired : ∃ minutes, intFromPayload py (Json.get log.payload "duration_minutes") = some minutes ∧
    1 ≤ minutes ∧ minutes ≤ 10 ∧ now ≤ log.createdAt + minuteMicros * minutes

@[simp] theorem reasonIf_eq_nil {condition : Bool} {reason : String} :
    reasonIf condition reason = [] ↔ condition = false := by
  cases condition <;> simp [reasonIf]

theorem limitExceeded_some {value : Decimal} {limit : Option DecimalLiteral}
    (there : limit.isNone = false) (within : limitExceeded value limit = .ok false) :
    ∃ most, limit = some most ∧ most.exceeded value = .ok false := by
  cases limit with
  | none => cases there
  | some most => exact ⟨most, rfl, within⟩

theorem windowReasons_nil {py : Platform} {order : WindowOrder} {log : AuditLog} {now : Instant}
    (reasons : windowReasons py order log now = .ok []) : WithinWindow py order log now := by
  unfold windowReasons at reasons
  cases hquantity : limitExceeded order.quantity
      (decimalFromPayload py (Json.get log.payload "max_quantity")) with
  | error raised => simp [hquantity, bind, Except.bind] at reasons
  | ok quantityExceeded =>
    cases hprice : order.price with
    | none =>
      simp [hquantity, hprice, bind, Except.bind, pure, Except.pure, reasonIf_eq_nil] at reasons
    | some price =>
      cases hnotional : limitExceeded (decimalMul order.quantity price)
          (decimalFromPayload py (Json.get log.payload "max_notional")) with
      | error raised => simp [hquantity, hprice, hnotional, bind, Except.bind] at reasons
      | ok notionalExceeded =>
        simp only [hquantity, hprice, hnotional, bind, Except.bind, pure, Except.pure,
          Except.ok.injEq, List.append_eq_nil_iff, reasonIf_eq_nil] at reasons
        obtain ⟨⟨⟨⟨⟨⟨⟨⟨_, maxQuantity⟩, maxNotional⟩, duration⟩, symbol⟩, side⟩, within⟩, within'⟩,
          expiry⟩ := reasons
        subst within within'
        obtain ⟨minutes, hminutes⟩ := Option.isSome_iff_exists.mp
          (Option.isNone_eq_false_iff.mp duration)
        rw [hminutes] at expiry
        simp only [Option.getD_some, Option.all_some, decide_eq_true_eq] at expiry
        constructor
        · simpa using symbol
        · simpa using side
        · exact limitExceeded_some maxQuantity hquantity
        · obtain ⟨most, hmost, within⟩ := limitExceeded_some maxNotional hnotional
          exact ⟨price, most, hprice, hmost, within⟩
        · refine ⟨minutes, hminutes, ?_⟩
          split at expiry
          · cases expiry
          · next lasting =>
            have unexpired := reasonIf_eq_nil.mp expiry
            simp only [decide_eq_false_iff_not, not_lt, not_or] at unexpired lasting
            exact ⟨lasting.1, lasting.2, unexpired⟩

def expiresAtOf (py : Platform) (log : AuditLog) : Instant :=
  log.createdAt +
    minuteMicros * (intFromPayload py (Json.get log.payload "duration_minutes")).getD 0

def requireValidTestnetOrderWindowAuthorization (py : Platform)
    (userId exchangeAccountId : String) (order : WindowOrder) :
    Service TestnetOrderWindowAuthorization := do
  match ← Session.query (latestApproval userId exchangeAccountId) with
  | none =>
    throw (.windowAuthorization
      (reasonIf order.price.isNone
          "limit price is required for approved testnet order windows" ++
        ["valid testnet order window approval audit log is required"]))
  | some log =>
    let now ← ask .utcNow
    let reasons ← Handler.ofExcept (windowReasons py order log now)
    Handler.raiseIf (reasons ≠ []) (.windowAuthorization reasons)
    return { auditLogId := log.id, expiresAt := expiresAtOf py log }

end CopyTrading
