import CopyTrading.Observability.Notifications
import CopyTrading.Observability.PositionReconciliation

/-!
The reconciliation worker: it loads the three snapshots of an account, reports the drift, and
records the report.
-/

namespace CopyTrading

open ObservabilitySession

/-! ### The plan of a report -/

inductive ReconciliationNotificationChannel where
  | internal
  | telegram
  | email
  | webhook
  deriving DecidableEq

/-- `NotificationChannel(channel.value)`: the two enumerations have the same values. -/
def ReconciliationNotificationChannel.notificationChannel :
    ReconciliationNotificationChannel → NotificationChannel
  | .internal => .internal
  | .telegram => .telegram
  | .email => .email
  | .webhook => .webhook

structure ReconciliationAuditEntryPlan where
  userId : String
  exchangeAccountId : String
  action : String
  severity : PositionReconciliationSeverity
  payload : List (String × Json)

structure ReconciliationSystemEventPlan where
  eventType : String
  severity : PositionReconciliationSeverity
  payload : List (String × Json)

structure ReconciliationNotificationPlan where
  channel : ReconciliationNotificationChannel
  severity : PositionReconciliationSeverity
  title : String
  message : String
  payload : List (String × Json)

structure ReconciliationHookPlan where
  auditEntry : ReconciliationAuditEntryPlan
  systemEvent : Option ReconciliationSystemEventPlan
  notifications : List ReconciliationNotificationPlan
  autoFixAllowed : Bool := false

/-- `_difference_payload`. -/
def differencePayload (difference : PositionReconciliationDifference) : List (String × Json) :=
  [("symbol", .str difference.symbol),
    ("exchange_quantity", .str difference.exchangeQuantity.str),
    ("database_quantity", .str difference.databaseQuantity.str),
    ("target_quantity", .str difference.targetQuantity.str),
    ("exchange_database_delta", .str difference.exchangeDatabaseDelta.str),
    ("exchange_target_delta", .str difference.exchangeTargetDelta.str),
    ("database_target_delta", .str difference.databaseTargetDelta.str),
    ("severity", .str difference.severity.value),
    ("reasons", .arr (difference.reasons.map .str))]

/-- `_report_payload`. -/
def reportPayload (report : PositionReconciliationReport) : List (String × Json) :=
  [("user_id", .str report.userId),
    ("exchange_account_id", .str report.exchangeAccountId),
    ("status", .str report.status.value),
    ("severity", .str report.severity.value),
    ("difference_count", .int report.differences.length),
    ("auto_fix_allowed", .bool false),
    ("differences", .arr (report.differences.map fun item => .obj (differencePayload item)))]

/-- `_system_event_for_drift`. -/
def systemEventForDrift (report : PositionReconciliationReport) (payload : List (String × Json)) :
    ReconciliationSystemEventPlan where
  eventType := "position_reconciliation.drift_detected"
  severity := report.severity
  payload := payload

/-- `_notification_for_channel`. -/
def notificationForChannel (channel : ReconciliationNotificationChannel)
    (report : PositionReconciliationReport) (payload : List (String × Json)) :
    ReconciliationNotificationPlan where
  channel := channel
  severity := report.severity
  title := "Position reconciliation " ++ report.severity.value
  message := "Position reconciliation detected " ++ toString report.differences.length ++
    " drifted symbol(s) for account " ++ report.exchangeAccountId ++ "."
  payload := payload

/-- The alert of a drift raises nothing and touches no row. -/
def buildReconciliationHookPlan (report : PositionReconciliationReport)
    (notificationChannels : List ReconciliationNotificationChannel) : ReconciliationHookPlan :=
  let payload := reportPayload report
  let isDrift : Bool := report.status = .driftDetected
  { auditEntry :=
      { userId := report.userId
        exchangeAccountId := report.exchangeAccountId
        action := if isDrift then "position_reconciliation.drift_detected"
          else "position_reconciliation.matched"
        severity := report.severity
        payload }
    systemEvent := if isDrift then some (systemEventForDrift report payload) else none
    notifications := if isDrift then
        notificationChannels.map (notificationForChannel · report payload)
      else [] }

/-! ### Recording a plan -/

structure PersistedReconciliationHookPlan where
  auditLog : AuditLog
  systemEvent : Option SystemEvent
  internalNotifications : List InternalNotification

section

variable (py : Platform)

def ReconciliationNotificationPlan.input (plan : ReconciliationNotificationPlan)
    (auditEntry : ReconciliationAuditEntryPlan) : InternalNotificationInput where
  userId := auditEntry.userId
  exchangeAccountId := auditEntry.exchangeAccountId
  channel := plan.channel.notificationChannel
  severity := plan.severity.value
  title := plan.title
  message := plan.message
  payload := plan.payload
  eventType := some .positionDrift

def ReconciliationSystemEventPlan.row (plan : ReconciliationSystemEventPlan)
    (auditEntry : ReconciliationAuditEntryPlan) : SystemEvent where
  userId := auditEntry.userId
  exchangeAccountId := auditEntry.exchangeAccountId
  eventType := plan.eventType
  severity := plan.severity.value
  payload := plan.payload

/-- The event of a plan is added where there is one. -/
def addSystemEvent : Option SystemEvent → ObservabilityService Unit
  | none => return
  | some systemEvent => add (.addSystemEvent systemEvent)

def persistReconciliationHookPlan (plan : ReconciliationHookPlan) :
    ObservabilityService PersistedReconciliationHookPlan := do
  let id ← newUuid
  let now ← utcNow
  let auditLog : AuditLog :=
    { id, userId := plan.auditEntry.userId
      exchangeAccountId := plan.auditEntry.exchangeAccountId
      action := plan.auditEntry.action
      severity := plan.auditEntry.severity.value
      payload := plan.auditEntry.payload
      createdAt := now }
  add (.addAuditLog auditLog)
  let systemEvent := plan.systemEvent.map (·.row plan.auditEntry)
  addSystemEvent systemEvent
  let internalNotifications ← createPreferenceAwareInternalNotifications py
    (plan.notifications.map (·.input plan.auditEntry))
  flush
  return { auditLog, systemEvent, internalNotifications }

/-! ### The worker -/

/-- What a provider answers for a user and an account, given the rows its session sees. -/
abbrev PositionSnapshotProvider :=
  ObservabilityDb → String → String → Except ObservabilityExc (List PositionQuantitySnapshot)

structure ReconciliationSnapshotProviders where
  exchange : PositionSnapshotProvider
  database : PositionSnapshotProvider
  target : PositionSnapshotProvider

/-- The positions of the account, by symbol. -/
def databasePositionSnapshotProvider : PositionSnapshotProvider :=
  fun db userId exchangeAccountId =>
    let positions := (db.positions.filter fun position =>
      position.userId = userId && position.exchangeAccountId = exchangeAccountId).insertionSort
        fun a b => a.symbol ≤ b.symbol
    .ok (positions.map fun position =>
      { symbol := position.symbol, quantity := .finite position.quantity.toDecimal })

structure PositionReconciliationWorker where
  providers : ReconciliationSnapshotProviders
  quantityTolerance : DecimalLiteral := .finite (.ofInt 0)
  criticalThreshold : DecimalLiteral := .finite (.ofInt 1)
  notificationChannels : List ReconciliationNotificationChannel := [.internal]

structure ReconciliationWorkerResult where
  report : PositionReconciliationReport
  hookPlan : ReconciliationHookPlan
  persisted : PersistedReconciliationHookPlan
  autoFixAllowed : Bool := false

namespace PositionReconciliationWorker

variable (worker : PositionReconciliationWorker)

/-- The snapshots of the exchange, the database and the target, asked for in this order. -/
def snapshots (db : ObservabilityDb) (userId exchangeAccountId : String) :
    Except ObservabilityExc (List PositionQuantitySnapshot × List PositionQuantitySnapshot ×
      List PositionQuantitySnapshot) := do
  let exchangePositions ← worker.providers.exchange db userId exchangeAccountId
  let databasePositions ← worker.providers.database db userId exchangeAccountId
  let targetPositions ← worker.providers.target db userId exchangeAccountId
  return (exchangePositions, databasePositions, targetPositions)

def runAccount (userId exchangeAccountId : String) :
    ObservabilityService ReconciliationWorkerResult := do
  let loaded ← query fun db => worker.snapshots db userId exchangeAccountId
  let (exchangePositions, databasePositions, targetPositions) ← raising loaded
  let report ← raising (reconcilePositionSnapshots py userId exchangeAccountId exchangePositions
    databasePositions targetPositions worker.quantityTolerance worker.criticalThreshold)
  let hookPlan := buildReconciliationHookPlan report worker.notificationChannels
  let persisted ← persistReconciliationHookPlan py hookPlan
  return { report, hookPlan, persisted }

end PositionReconciliationWorker

end

end CopyTrading
