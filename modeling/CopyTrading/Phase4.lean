import CopyTrading.ReadOnlyCheck
import CopyTrading.TestnetOrder.Gate

/-!
The Phase 4 approval chain: a small-fund review, an order window and a final release check are
recorded in the audit log, each against the latest records of the stages before it.
-/

namespace CopyTrading

open Transaction DecimalArith

def phase4SmallFundMaxNotionalCap : Decimal := .ofInt 100

/-! ### What the stages share -/

/-- `ORDER BY created_at DESC`, first row with this action and severity. -/
def latestAudit (userId exchangeAccountId action severity : String) (db : Db) : Option AuditLog :=
  latestOf (db.auditLogs.rows.filter fun log =>
    log.userId = userId && log.exchangeAccountId = some exchangeAccountId &&
      log.action = action && log.severity = severity)

def latestSuccessfulRealReadOnlyAudit (userId exchangeAccountId : String) : Db → Option AuditLog :=
  latestAudit userId exchangeAccountId realCheckAction "INFO"

/-- `Decimal(str(payload.get(key, "")))`, or `None` where that raises. -/
def auditDecimal (py : Platform) (key : String) (audit : Option AuditLog) : Option DecimalLiteral :=
  audit.bind fun log => DecimalLiteral.read py (py.strOf ((Json.lookup key log.payload).getD (.str "")))

/-- The reasons about the role, the account and its risk settings. -/
def phase4AccountReasons (stage : String) (role : UserRole) (account : ExchangeAccount)
    (riskSettings : Option RiskSetting) : List String :=
  reasonIf (role ≠ .superAdmin)
      ("super administrator privileges are required for Phase 4 " ++ stage) ++
    reasonIf (account.exchangeName ≠ .okx)
      ("Phase 4 " ++ stage ++ " currently supports OKX REAL accounts only") ++
    reasonIf (!account.isActive) ("exchange account must be active before Phase 4 " ++ stage) ++
    reasonIf (account.accountMode ≠ .real)
      ("account mode must be REAL before Phase 4 " ++ stage) ++
    reasonIf account.tradingEnabled "exchange account trading_enabled must remain false" ++
    match riskSettings with
    | none => ["risk settings must exist before Phase 4 " ++ stage]
    | some settings =>
        reasonIf settings.tradingEnabled "risk settings trading_enabled must remain false"

/-- The reasons about the stored key and the read-only check. -/
def phase4KeyReasons (stage : String) (secretMetadata : Option ApiKeySecret)
    (readOnlyAudit : Option AuditLog) : List String :=
  reasonIf secretMetadata.isNone
      ("encrypted API key metadata must exist before Phase 4 " ++ stage) ++
    reasonIf (secretMetadata.bind ApiKeySecret.encryptedPassphrase).isNone
      ("OKX REAL API passphrase metadata must exist before Phase 4 " ++ stage) ++
    reasonIf readOnlyAudit.isNone "successful REAL read-only authentication audit is required"

/-- The id of a record, or an empty text. -/
def auditId (audit : Option AuditLog) : Json := .str ((audit.map AuditLog.id).getD "")

/-- Adds the audit row of a stage and commits it. -/
def recordPhase4Audit (userId exchangeAccountId action : String) (payload : List (String × Json)) :
    Service String := do
  let auditLogId ← ask .newUuid
  let createdAt ← ask .utcNow
  Session.add fun work =>
    { work with
      auditLogs := work.auditLogs ++
        [{ id := auditLogId, userId, exchangeAccountId := some exchangeAccountId, action
           severity := "CRITICAL", payload, createdAt }] }
  Session.commit
  return auditLogId

/-! ### The small-fund review -/

def phase4SmallFundReviewAck : String := "ACKNOWLEDGE_SMALL_FUND_REVIEW_ONLY"

def smallFundReviewAction : String := "real.small_fund.review_recorded"

structure Phase4SmallFundReviewRequest where
  maxNotional : Decimal
  acknowledgement : String

def reviewBlockedReasons (role : UserRole) (account : ExchangeAccount)
    (riskSettings : Option RiskSetting) (secretMetadata : Option ApiKeySecret)
    (readOnlyAudit : Option AuditLog) (payload : Phase4SmallFundReviewRequest) : List String :=
  phase4AccountReasons "review" role account riskSettings ++
    phase4KeyReasons "review" secretMetadata readOnlyAudit ++
    reasonIf (payload.maxNotional ≤ .ofInt 0)
      "small-fund max_notional must be greater than zero" ++
    reasonIf (phase4SmallFundMaxNotionalCap < payload.maxNotional)
      "small-fund max_notional exceeds the Phase 4 cap" ++
    reasonIf (payload.acknowledgement ≠ phase4SmallFundReviewAck)
      "explicit Phase 4 small-fund review acknowledgement is required"

def reviewPayload (account : ExchangeAccount) (readOnlyAudit : Option AuditLog)
    (payload : Phase4SmallFundReviewRequest) : List (String × Json) :=
  [("exchange_name", .str account.exchangeName.value),
    ("account_mode", .str account.accountMode.value),
    ("max_notional", .str (decimalStr payload.maxNotional)),
    ("max_notional_cap", .str (decimalStr phase4SmallFundMaxNotionalCap)),
    ("acknowledgement", .str payload.acknowledgement),
    ("read_only_audit_log_id", auditId readOnlyAudit),
    ("order_submission_authorized", .bool false), ("trading_flags_changed", .bool false)]

def recordPhase4SmallFundReview (userId : String) (role : UserRole) (exchangeAccountId : String)
    (payload : Phase4SmallFundReviewRequest) : Service String := do
  match ← getOwnedAccount userId exchangeAccountId with
  | none => throw (.valueError "account not found")
  | some account =>
    let riskSettings ← Session.query (riskSettingOf userId account.id)
    let secretMetadata ← getApiKeySecretMetadata userId account.id
    let readOnlyAudit ← Session.query (latestSuccessfulRealReadOnlyAudit userId account.id)
    let reasons := reviewBlockedReasons role account riskSettings secretMetadata readOnlyAudit
      payload
    Handler.raiseIf (reasons ≠ []) (.phase4SmallFundReviewBlocked reasons)
    recordPhase4Audit userId account.id smallFundReviewAction
      (reviewPayload account readOnlyAudit payload)

/-! ### The order window -/

def phase4SmallFundOrderWindowAck : String := "APPROVE_REAL_SMALL_FUND_ORDER_WINDOW_ONLY"

def smallFundOrderWindowAction : String := "real.small_fund.order_window.approval_recorded"

structure Phase4SmallFundOrderWindowRequest where
  symbol : String
  side : OrderSide
  maxQuantity : Decimal
  limitPrice : Decimal
  maxNotional : Decimal
  durationMinutes : Int
  acknowledgement : String

section

variable (py : Platform) (multiply : Decimal → Decimal → Decimal)

/-- `multiply` is the product of the decimal context. -/
def orderWindowBlockedReasons (role : UserRole) (account : ExchangeAccount)
    (riskSettings : Option RiskSetting) (secretMetadata : Option ApiKeySecret)
    (readOnlyAudit reviewAudit : Option AuditLog) (payload : Phase4SmallFundOrderWindowRequest) :
    Except Exc (List String) := do
  let reviewMaxNotional := auditDecimal py "max_notional" reviewAudit
  let reviewExceeded ← limitExceeded payload.maxNotional reviewMaxNotional
  return phase4AccountReasons "order window" role account riskSettings ++
    phase4KeyReasons "order window" secretMetadata readOnlyAudit ++
    reasonIf reviewAudit.isNone "Phase 4 small-fund review audit is required" ++
    reasonIf reviewMaxNotional.isNone "Phase 4 small-fund review max_notional is invalid" ++
    reasonIf (py.strip payload.symbol = "") "order window symbol is required" ++
    reasonIf (payload.maxQuantity ≤ .ofInt 0) "order window max_quantity must be greater than zero" ++
    reasonIf (payload.limitPrice ≤ .ofInt 0) "order window limit_price must be greater than zero" ++
    reasonIf (payload.maxNotional ≤ .ofInt 0) "order window max_notional must be greater than zero" ++
    reasonIf (phase4SmallFundMaxNotionalCap < payload.maxNotional)
      "order window max_notional exceeds the Phase 4 cap" ++
    reasonIf reviewExceeded "order window max_notional exceeds the reviewed small-fund cap" ++
    reasonIf (Decimal.ofInt 0 < payload.maxQuantity ∧ Decimal.ofInt 0 < payload.limitPrice ∧
        payload.maxNotional < multiply payload.maxQuantity payload.limitPrice)
      "order window quantity multiplied by limit_price exceeds max_notional" ++
    reasonIf (payload.durationMinutes < 1 ∨ 10 < payload.durationMinutes)
      "Phase 4 order window duration must be between 1 and 10 minutes" ++
    reasonIf (payload.acknowledgement ≠ phase4SmallFundOrderWindowAck)
      "explicit Phase 4 small-fund order window acknowledgement is required"

def orderWindowPayload (account : ExchangeAccount) (readOnlyAudit reviewAudit : Option AuditLog)
    (payload : Phase4SmallFundOrderWindowRequest) : List (String × Json) :=
  [("exchange_name", .str account.exchangeName.value),
    ("account_mode", .str account.accountMode.value),
    ("symbol", .str (py.upper (py.strip payload.symbol))), ("side", .str payload.side.value),
    ("max_quantity", .str (decimalStr payload.maxQuantity)),
    ("limit_price", .str (decimalStr payload.limitPrice)),
    ("max_notional", .str (decimalStr payload.maxNotional)),
    ("duration_minutes", .int payload.durationMinutes),
    ("acknowledgement", .str payload.acknowledgement),
    ("review_audit_log_id", auditId reviewAudit),
    ("read_only_audit_log_id", auditId readOnlyAudit),
    ("order_submission_authorized", .bool false), ("trading_flags_changed", .bool false)]

def recordPhase4SmallFundOrderWindowApproval (userId : String) (role : UserRole)
    (exchangeAccountId : String) (payload : Phase4SmallFundOrderWindowRequest) :
    Service String := do
  match ← getOwnedAccount userId exchangeAccountId with
  | none => throw (.valueError "account not found")
  | some account =>
    let riskSettings ← Session.query (riskSettingOf userId account.id)
    let secretMetadata ← getApiKeySecretMetadata userId account.id
    let readOnlyAudit ← Session.query (latestSuccessfulRealReadOnlyAudit userId account.id)
    let reviewAudit ← Session.query
      (latestAudit userId account.id smallFundReviewAction "CRITICAL")
    let reasons ← Handler.ofExcept (orderWindowBlockedReasons py multiply role account riskSettings
      secretMetadata readOnlyAudit reviewAudit payload)
    Handler.raiseIf (reasons ≠ []) (.phase4OrderWindowBlocked reasons)
    recordPhase4Audit userId account.id smallFundOrderWindowAction
      (orderWindowPayload py account readOnlyAudit reviewAudit payload)

/-! ### The final release check -/

def phase4FinalReleaseCheckAck : String := "RECORD_PHASE4_FINAL_RELEASE_CHECK_ONLY"

def finalReleaseCheckAction : String := "real.small_fund.final_release_check_recorded"

structure Phase4FinalReleaseCheckRequest where
  maxNotional : Decimal
  dedicatedAccountConfirmed : Bool
  accountEmptyConfirmed : Bool
  withdrawalsDisabledConfirmed : Bool
  deleteApiKeyAfterTestConfirmed : Bool
  firstOrderStopReviewConfirmed : Bool
  noLiveOrderSubmissionConfirmed : Bool
  acknowledgement : String

def finalCheckBlockedReasons (role : UserRole) (account : ExchangeAccount)
    (riskSettings : Option RiskSetting) (reviewAudit orderWindowAudit : Option AuditLog)
    (payload : Phase4FinalReleaseCheckRequest) : Except Exc (List String) := do
  let reviewMaxNotional := auditDecimal py "max_notional" reviewAudit
  let orderWindowMaxNotional := auditDecimal py "max_notional" orderWindowAudit
  let reviewExceeded ← limitExceeded payload.maxNotional reviewMaxNotional
  let orderWindowExceeded ← limitExceeded payload.maxNotional orderWindowMaxNotional
  return phase4AccountReasons "final check" role account riskSettings ++
    reasonIf reviewAudit.isNone "Phase 4 small-fund review audit is required" ++
    reasonIf orderWindowAudit.isNone "Phase 4 order-window audit is required" ++
    reasonIf reviewMaxNotional.isNone "Phase 4 small-fund review max_notional is invalid" ++
    reasonIf orderWindowMaxNotional.isNone "Phase 4 order-window max_notional is invalid" ++
    reasonIf (payload.maxNotional ≤ .ofInt 0) "final check max_notional must be greater than zero" ++
    reasonIf (phase4SmallFundMaxNotionalCap < payload.maxNotional)
      "final check max_notional exceeds the Phase 4 cap" ++
    reasonIf reviewExceeded "final check max_notional exceeds the reviewed small-fund cap" ++
    reasonIf orderWindowExceeded "final check max_notional exceeds the order-window cap" ++
    reasonIf (!payload.dedicatedAccountConfirmed)
      "dedicated test account confirmation is required" ++
    reasonIf (!payload.accountEmptyConfirmed) "empty-account confirmation is required" ++
    reasonIf (!payload.withdrawalsDisabledConfirmed)
      "withdrawal-disabled confirmation is required" ++
    reasonIf (!payload.deleteApiKeyAfterTestConfirmed)
      "API-key deletion-after-test confirmation is required" ++
    reasonIf (!payload.firstOrderStopReviewConfirmed)
      "first-order stop-and-review confirmation is required" ++
    reasonIf (!payload.noLiveOrderSubmissionConfirmed)
      "no-live-order-submission confirmation is required" ++
    reasonIf (payload.acknowledgement ≠ phase4FinalReleaseCheckAck)
      "explicit Phase 4 final release-check acknowledgement is required"

def finalCheckPayload (account : ExchangeAccount) (reviewAudit orderWindowAudit : Option AuditLog)
    (payload : Phase4FinalReleaseCheckRequest) : List (String × Json) :=
  [("exchange_name", .str account.exchangeName.value),
    ("account_mode", .str account.accountMode.value),
    ("max_notional", .str (decimalStr payload.maxNotional)),
    ("max_notional_cap", .str (decimalStr phase4SmallFundMaxNotionalCap)),
    ("review_audit_log_id", auditId reviewAudit),
    ("order_window_audit_log_id", auditId orderWindowAudit),
    ("dedicated_account_confirmed", .bool payload.dedicatedAccountConfirmed),
    ("account_empty_confirmed", .bool payload.accountEmptyConfirmed),
    ("withdrawals_disabled_confirmed", .bool payload.withdrawalsDisabledConfirmed),
    ("delete_api_key_after_test_confirmed", .bool payload.deleteApiKeyAfterTestConfirmed),
    ("first_order_stop_review_confirmed", .bool payload.firstOrderStopReviewConfirmed),
    ("no_live_order_submission_confirmed", .bool payload.noLiveOrderSubmissionConfirmed),
    ("acknowledgement", .str payload.acknowledgement),
    ("order_submission_authorized", .bool false), ("trading_flags_changed", .bool false)]

def recordPhase4FinalReleaseCheck (userId : String) (role : UserRole) (exchangeAccountId : String)
    (payload : Phase4FinalReleaseCheckRequest) : Service String := do
  match ← getOwnedAccount userId exchangeAccountId with
  | none => throw (.valueError "account not found")
  | some account =>
    let riskSettings ← Session.query (riskSettingOf userId account.id)
    let reviewAudit ← Session.query
      (latestAudit userId account.id smallFundReviewAction "CRITICAL")
    let orderWindowAudit ← Session.query
      (latestAudit userId account.id smallFundOrderWindowAction "CRITICAL")
    let reasons ← Handler.ofExcept (finalCheckBlockedReasons py role account riskSettings reviewAudit
      orderWindowAudit payload)
    Handler.raiseIf (reasons ≠ []) (.phase4FinalReleaseCheckBlocked reasons)
    recordPhase4Audit userId account.id finalReleaseCheckAction
      (finalCheckPayload account reviewAudit orderWindowAudit payload)

/-! ### Requests -/

inductive Phase4Request where
  | realReadOnlyCheck (userId exchangeAccountId : String)
  | testnetReadOnlyCheck (userId exchangeAccountId : String) (testnetAdaptersEnabled : Bool)
  | smallFundReview (userId : String) (role : UserRole) (exchangeAccountId : String)
      (payload : Phase4SmallFundReviewRequest)
  | orderWindow (userId : String) (role : UserRole) (exchangeAccountId : String)
      (payload : Phase4SmallFundOrderWindowRequest)
  | finalReleaseCheck (userId : String) (role : UserRole) (exchangeAccountId : String)
      (payload : Phase4FinalReleaseCheckRequest)
  | addAccount (userId : String) (payload : ExchangeAccountCreate)
  | patchAccount (userId accountId : String) (payload : ExchangeAccountUpdate)
  | removeAccount (userId accountId : String)
  | readRiskSettings (userId accountId : String)
  | patchRiskSettings (userId accountId : String) (payload : RiskSettingUpdate)

def Phase4Request.serve : Phase4Request → Service Unit
  | .realReadOnlyCheck userId exchangeAccountId =>
      discard (runRealReadOnlyCheck py userId exchangeAccountId)
  | .testnetReadOnlyCheck userId exchangeAccountId testnetAdaptersEnabled =>
      discard (runTestnetReadOnlyCheck py userId exchangeAccountId testnetAdaptersEnabled)
  | .smallFundReview userId role exchangeAccountId payload =>
      discard (recordPhase4SmallFundReview userId role exchangeAccountId payload)
  | .orderWindow userId role exchangeAccountId payload =>
      discard (recordPhase4SmallFundOrderWindowApproval py multiply userId role exchangeAccountId
        payload)
  | .finalReleaseCheck userId role exchangeAccountId payload =>
      discard (recordPhase4FinalReleaseCheck py userId role exchangeAccountId payload)
  | .addAccount userId payload => discard (CopyTrading.addAccount userId payload)
  | .patchAccount userId accountId payload => discard (CopyTrading.patchAccount userId accountId payload)
  | .removeAccount userId accountId => CopyTrading.removeAccount userId accountId
  | .readRiskSettings userId accountId => discard (CopyTrading.readRiskSettings userId accountId)
  | .patchRiskSettings userId accountId payload =>
      discard (CopyTrading.patchRiskSettings py userId accountId payload)

end

/-- The three recording operations. -/
def Phase4Request.records : Phase4Request → Bool
  | .smallFundReview .. | .orderWindow .. | .finalReleaseCheck .. => true
  | _ => false

end CopyTrading
