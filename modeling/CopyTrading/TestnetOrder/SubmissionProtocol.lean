import CopyTrading.Effects
import CopyTrading.TestnetOrder.Submission
import CopyTrading.TestnetOrder.Wire

/-!
The protocol of `submit_testnet_order`: what the request has established at each point, and
which event may come next.
-/

namespace CopyTrading

open Transaction DecimalArith

structure SubmitRequest where
  userId : String
  payload : TestnetOrderSubmitRequest
  testnetAdaptersEnabled : Bool

def SubmitRequest.service (py : Platform) (req : SubmitRequest) :
    Service TestnetOrderSubmitResponse :=
  submitTestnetOrder py req.userId req.payload req.testnetAdaptersEnabled

/-- An order that has passed the preflight checks: the context of the request, with the key,
the approval and the time it was checked at. -/
structure Admission (py : Platform) (req : SubmitRequest) where
  context : TestnetOrderApiContext
  secret : ApiKeySecret
  log : AuditLog
  now : Instant
  accountId : context.account.id = req.payload.exchangeAccountId
  order : context.order = requestInput req.payload context.account.exchangeName
  approved : context.gateResult.approved
  supported : (testnetRestBaseUrl context.account.exchangeName).isSome
  accountOn : context.account.tradingEnabled = true
  secretFor : secret.exchangeAccountId = context.account.id
  passphrase : context.credentials.passphrase = none ↔ secret.encryptedPassphrase = none
  approvalFor : isApprovalFor req.userId context.account.id log
  reasons : windowReasons py (windowOrder req.payload) log now = .ok []
  auditLogId : context.authorization.auditLogId = log.id

/-- The order cannot be signed: the exchange wants a passphrase and none is stored. -/
def Admission.Unsignable {py : Platform} {req : SubmitRequest} (adm : Admission py req) : Prop :=
  adm.context.account.exchangeName = .okx ∧ adm.secret.encryptedPassphrase = none

/-- The answer of the exchange makes the request record a failure. -/
def recordsFailure (py : Platform) (exchangeName : String) (reply : HttpReply) : Bool :=
  match readReply py reply with
  | .error raised => !raised.isValueError && raised.isRuntimeError
  | .ok response =>
      match raiseForExchangeRejection exchangeName (safeValue py response) with
      | .error raised => !raised.isValueError && raised.isRuntimeError
      | .ok () => false

inductive SubmitStage (py : Platform) (req : SubmitRequest) where
  | start
  /-- The emergency stop was read as off. -/
  | admitted
  | owned (account : ExchangeAccount)
  /-- The risk settings were missing and have been committed. -/
  | settled
  | refreshed (settings : RiskSetting)
  | risked (account : ExchangeAccount) (settings : RiskSetting)
  /-- The gate has approved: both trading flags were on. -/
  | gated (account : ExchangeAccount) (secret : ApiKeySecret)
  | windowed (account : ExchangeAccount) (secret : ApiKeySecret) (log : AuditLog)
  | authorized (account : ExchangeAccount) (secret : ApiKeySecret) (log : AuditLog) (now : Instant)
  | ready (adm : Admission py req)
  /-- An execution with the client order id exists and is answered with. -/
  | replayed (row : OrderExecution)
  | absent (adm : Admission py req)
  | weighed (adm : Admission py req) (settings : RiskSetting)
  /-- The risk settings of the account were gone when they were read again. -/
  | lost
  | rejected (row : OrderExecution)
  /-- The row has been committed as `SUBMITTED`. -/
  | submitted (adm : Admission py req) (row : OrderExecution)
  /-- The row was gone when it was loaded after its commit. -/
  | vanished (row : OrderExecution)
  | held (adm : Admission py req) (row x : OrderExecution)
  /-- The order was not sent; the failure is about to be written. -/
  | failing (adm : Admission py req) (row x : OrderExecution) (sequenceNumber : Nat)
  | blocked (adm : Admission py req) (row x : OrderExecution) (sequenceNumber : Nat)
  | sent (adm : Admission py req) (row x : OrderExecution) (reply : HttpReply)
  | accepted (row : OrderExecution)
  | failed (row : OrderExecution)

/-- The row a submission inserts. -/
structure SubmissionRow {py : Platform} {req : SubmitRequest} (adm : Admission py req)
    (row : OrderExecution) : Prop where
  saved : row.id ≠ ""
  userId : row.userId = req.userId
  accountId : row.exchangeAccountId = adm.context.account.id
  exchangeName : row.exchangeName = adm.context.account.exchangeName.value
  clientOrderId : row.clientOrderId = req.payload.clientOrderId
  symbol : row.symbol = py.upper req.payload.symbol
  side : row.side = req.payload.side
  orderType : row.orderType = req.payload.orderType
  quantity : Numeric.ofDecimal? 28 10 req.payload.quantity = some row.quantity
  price : req.payload.price.map (Numeric.ofDecimal? 28 10) = row.price.map some

/-- The unit of work that inserts it, with the signal that names the approval. -/
structure SubmissionWork {py : Platform} {req : SubmitRequest} (adm : Admission py req)
    (work : Work) (row : OrderExecution) : Prop where
  trading : TradingWork work [row] none []
  noPosition : work.positions = []
  rowOf : SubmissionRow adm row
  signal : ∃ signal, work.signals = [signal] ∧ signal.id = row.signalId ∧
    signal.userId = req.userId ∧ signal.rawPayload = submissionPayload adm.log.id

/-- The unit of work of a session that has changed one execution and logged a transition. -/
def statusWork (x : OrderExecution) (change : OrderExecution.Change)
    (transition : OrderExecutionTransition) : Work :=
  { executionChanges := [⟨x, change⟩], transitions := [transition] }

/-- It writes `status` on the instance `x`, whose status was `SUBMITTED` when it was loaded. -/
structure StatusWrite (work : Work) (x : OrderExecution) (status : OrderExecutionStatus)
    (sequenceNumber : Nat) : Prop where
  work_eq : ∃ change transition, work = statusWork x change transition ∧
    change.status = some status ∧ transition.orderExecutionId = x.id ∧
    transition.fromStatus = some x.status ∧ transition.toStatus = status ∧
    transition.sequenceNumber = sequenceNumber
  decided : x.status = .submitted

theorem StatusWrite.trading {work : Work} {x : OrderExecution} {status : OrderExecutionStatus}
    {sequenceNumber : Nat} (write : StatusWrite work x status sequenceNumber) :
    TradingWork work [] (some (x.id, status)) [] := by
  obtain ⟨change, transition, rfl, hstatus, -⟩ := write.work_eq
  have controls : (statusWork x change transition).LeavesControls := by
    constructor <;> simp [statusWork]
  exact ⟨controls, rfl, ⟨⟨x, change⟩, rfl, rfl, hstatus⟩, rfl, by simp [statusWork]⟩

open SubmitStage in
inductive SubmitMove (py : Platform) (req : SubmitRequest) :
    SubmitStage py req → Event backend → SubmitStage py req → Prop where
  | idle {stage : SubmitStage py req} {e : Event backend} (quiet : asksNoExchange e) :
      SubmitMove py req stage e stage
  | enter {world : World} (off : world.db.emergencyStopEnabled = false) :
      SubmitMove py req start (.read world) admitted
  | own {world : World} {account : ExchangeAccount} (stored : account ∈ world.db.accounts)
      (accountId : account.id = req.payload.exchangeAccountId) :
      SubmitMove py req admitted (.read world) (owned account)
  | risk {world : World} {account : ExchangeAccount} {settings : RiskSetting}
      (stored : settings ∈ world.db.riskSettings) (userId : settings.userId = req.userId)
      (accountId : settings.exchangeAccountId = req.payload.exchangeAccountId) :
      SubmitMove py req (owned account) (.read world) (risked account settings)
  | settle {work : Work} {before after : World} {account : ExchangeAccount}
      (trading : TradingWork work [] none []) (noPosition : work.positions = [])
      (noSignal : work.signals = [])
      (settings : work.riskSettings =
        [defaultRiskSetting req.userId req.payload.exchangeAccountId])
      (noKey : work.LeavesKeys) :
      SubmitMove py req (owned account) (.commit work before after) settled
  | refresh {world : World} {settings : RiskSetting} (stored : settings ∈ world.db.riskSettings)
      (accountId : settings.exchangeAccountId = req.payload.exchangeAccountId) :
      SubmitMove py req settled (.read world) (refreshed settings)
  | reload {world : World} {account : ExchangeAccount} {settings : RiskSetting}
      (stored : account ∈ world.db.accounts)
      (accountId : account.id = req.payload.exchangeAccountId) :
      SubmitMove py req (refreshed settings) (.read world) (risked account settings)
  | gate {world : World} {account : ExchangeAccount} {settings : RiskSetting}
      {secret : ApiKeySecret} (stored : secret ∈ world.db.secrets)
      (secretFor : secret.exchangeAccountId = account.id)
      (accountOn : account.tradingEnabled = true) (riskOn : settings.tradingEnabled = true) :
      SubmitMove py req (risked account settings) (.read world) (gated account secret)
  | window {world : World} {account : ExchangeAccount} {secret : ApiKeySecret} {log : AuditLog}
      (latest : latestApproval req.userId account.id world.db = some log) :
      SubmitMove py req (gated account secret) (.read world) (windowed account secret log)
  | authorize {before after : World} {account : ExchangeAccount} {secret : ApiKeySecret}
      {log : AuditLog} {now : Instant} (reasons :
        windowReasons py (windowOrder req.payload) log now = .ok []) :
      SubmitMove py req (windowed account secret log) (.call .utcNow now before after)
        (authorized account secret log now)
  | prepare {world : World} {adm : Admission py req} :
      SubmitMove py req (authorized adm.context.account adm.secret adm.log adm.now) (.read world)
        (ready adm)
  | replay {world : World} {adm : Admission py req} {row : OrderExecution}
      (stored : row ∈ world.db.executions)
      (clientOrderId : row.clientOrderId = req.payload.clientOrderId)
      (userId : row.userId = req.userId)
      (accountId : row.exchangeAccountId = req.payload.exchangeAccountId) :
      SubmitMove py req (ready adm) (.read world) (replayed row)
  | miss {world : World} {adm : Admission py req} :
      SubmitMove py req (ready adm) (.read world) (absent adm)
  | weigh {world : World} {adm : Admission py req} {settings : RiskSetting}
      (stored : settings ∈ world.db.riskSettings)
      (accountId : settings.exchangeAccountId = req.payload.exchangeAccountId) :
      SubmitMove py req (absent adm) (.read world) (weighed adm settings)
  | lose {world : World} {adm : Admission py req}
      (missing : riskSettingOf req.userId req.payload.exchangeAccountId world.db = none) :
      SubmitMove py req (absent adm) (.read world) lost
  | wander {e : Event backend} : SubmitMove py req lost e lost
  | reject {work : Work} {before after : World} {adm : Admission py req}
      {settings : RiskSetting} {row : OrderExecution} (submission : SubmissionWork adm work row)
      (status : row.status = .rejected) :
      SubmitMove py req (weighed adm settings) (.commit work before after) (rejected row)
  | submit {work : Work} {before after : World} {adm : Admission py req}
      {settings : RiskSetting} {row : OrderExecution} (submission : SubmissionWork adm work row)
      (status : row.status = .submitted)
      (passed : RiskPassed adm.context.account settings (submissionRiskInput py adm.context) true) :
      SubmitMove py req (weighed adm settings) (.commit work before after) (submitted adm row)
  | vanish {world : World} {adm : Admission py req} {row : OrderExecution}
      (missing : world.db.executions.find? (·.id = row.id) = none) :
      SubmitMove py req (submitted adm row) (.read world) (vanished row)
  | hold {world : World} {adm : Admission py req} {row x : OrderExecution}
      (stored : x ∈ world.db.executions) (id : x.id = row.id) :
      SubmitMove py req (submitted adm row) (.read world) (held adm row x)
  | send {before after : World} {adm : Admission py req} {row x : OrderExecution}
      {prepared : PreparedExchangeRequest} {reply : HttpReply}
      (prepares : PreparedFor py adm.context.order prepared) (signable : ¬ adm.Unsignable) :
      SubmitMove py req (held adm row x) (.call (.urlopen prepared) reply before after)
        (sent adm row x reply)
  | accept {work : Work} {before after : World} {adm : Admission py req}
      {row x : OrderExecution} {reply : HttpReply} {sequenceNumber : Nat}
      (write : StatusWrite work x .accepted sequenceNumber) :
      SubmitMove py req (sent adm row x reply) (.commit work before after) (accepted row)
  | failSent {work : Work} {before after : World} {adm : Admission py req}
      {row x : OrderExecution} {reply : HttpReply} {sequenceNumber : Nat}
      (write : StatusWrite work x .failed sequenceNumber) (records : recordsFailure py x.exchangeName reply) :
      SubmitMove py req (sent adm row x reply) (.commit work before after) (failed row)
  | number {world : World} {adm : Admission py req} {row x : OrderExecution}
      (signable : ¬ adm.Unsignable) (decided : x.status = .submitted) :
      SubmitMove py req (held adm row x) (.read world)
        (failing adm row x (maxSequence x.id world.db.transitions.rows + 1))
  | fail {work : Work} {before after : World} {adm : Admission py req} {row x : OrderExecution}
      {sequenceNumber : Nat} (write : StatusWrite work x .failed sequenceNumber) :
      SubmitMove py req (failing adm row x sequenceNumber) (.commit work before after) (failed row)
  | block {work : Work} {world : World} {fault : Fault} {adm : Admission py req}
      {row x : OrderExecution} {sequenceNumber : Nat}
      (write : StatusWrite work x .failed sequenceNumber) :
      SubmitMove py req (failing adm row x sequenceNumber) (.abort work world fault)
        (blocked adm row x sequenceNumber)

/-- Where a request may end: a row that was committed as `SUBMITTED` is left alone only where
the order cannot be signed, or where another session has moved it on. -/
def SubmitStage.MayEnd {py : Platform} {req : SubmitRequest} : SubmitStage py req → Prop
  | .submitted .. | .failing .. => False
  | .held adm _ x => adm.Unsignable ∨ x.status ≠ .submitted
  | _ => True

abbrev submitProtocol (py : Platform) (req : SubmitRequest) : Protocol backend where
  Phase := SubmitStage py req
  Move := SubmitMove py req

end CopyTrading
