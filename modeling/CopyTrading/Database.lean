import CopyTrading.Models

/-!
The committed database and the unit of work of a session.
`Db.flush` writes everything a session has pending in one transaction, or nothing
when a unique constraint refuses a row.
-/

namespace CopyTrading

open Transaction

structure Db where
  control : Option SystemControl := none
  accounts : Table ExchangeAccount := .empty
  secrets : Table ApiKeySecret := .empty
  riskSettings : Table RiskSetting := .empty
  signals : Table TradingSignal := .empty
  positions : Table Position := .empty
  balances : Table Balance := .empty
  executions : Table OrderExecution := .empty
  transitions : Table OrderExecutionTransition := .empty
  auditLogs : Table AuditLog := .empty
  systemEvents : List SystemEvent := []

/-- What `set_emergency_stop` writes. The control row is locked from its `SELECT` to the
commit, so the part that depends on its old value is computed where it is written. -/
structure StopChange where
  enabled : Bool
  reason : String
  actorId : String
  auditLogId : String
  createdAt : Instant

structure Work where
  accounts : List ExchangeAccount := []
  accountChanges : List (Instance ExchangeAccount) := []
  secrets : List ApiKeySecret := []
  secretChanges : List (Instance ApiKeySecret) := []
  deletedSecrets : List String := []
  riskSettings : List RiskSetting := []
  riskSettingChanges : List (Instance RiskSetting) := []
  signals : List TradingSignal := []
  positions : List Position := []
  positionChanges : List (Instance Position) := []
  balances : List Balance := []
  balanceChanges : List (Instance Balance) := []
  executions : List OrderExecution := []
  executionChanges : List (Instance OrderExecution) := []
  transitions : List OrderExecutionTransition := []
  auditLogs : List AuditLog := []
  stop : Option StopChange := none

inductive Fault where
  | integrityError
  deriving DecidableEq, Repr

/-! ### Activating and clearing the emergency stop -/

def stopAction (enabled : Bool) : String :=
  if enabled then "system.emergency_stop.activated" else "system.emergency_stop.deactivated"

def stopSeverity (enabled : Bool) : String := if enabled then "CRITICAL" else "WARNING"

def StopChange.payload (change : StopChange) (changed : Bool) : List (String × Json) :=
  [("scope", .str "global"), ("enabled", .bool change.enabled), ("reason", .str change.reason),
    ("state_changed", .bool changed), ("trading_flags_forced_off", .bool change.enabled)]

/-- `update(ExchangeAccount).values(trading_enabled=False)`. -/
def clearAccounts (accounts : Table ExchangeAccount) : Table ExchangeAccount :=
  accounts.rewrite (fun row => { row with tradingEnabled := false }) fun _ => rfl

/-- `update(RiskSetting).values(trading_enabled=False)`. -/
def clearRiskSettings (settings : Table RiskSetting) : Table RiskSetting :=
  settings.rewrite (fun row => { row with tradingEnabled := false }) fun _ => rfl

def StopChange.apply (change : StopChange) (db : Db) : Option Db := do
  let changed := (db.control.any (·.emergencyStopEnabled)) != change.enabled
  let payload := change.payload changed
  let auditLogs ← db.auditLogs.insert
    { id := change.auditLogId, userId := change.actorId, exchangeAccountId := none
      action := stopAction change.enabled, severity := stopSeverity change.enabled
      payload := payload, createdAt := change.createdAt }
  return { db with
    control := some
      { emergencyStopEnabled := change.enabled, reason := some change.reason
        changedByUserId := some change.actorId }
    accounts := if change.enabled then clearAccounts db.accounts else db.accounts
    riskSettings := if change.enabled then clearRiskSettings db.riskSettings else db.riskSettings
    auditLogs := auditLogs
    systemEvents := db.systemEvents ++
      [{ userId := some change.actorId, exchangeAccountId := none
         eventType := stopAction change.enabled, severity := stopSeverity change.enabled
         payload := payload }] }

/-! ### Flushing a unit of work -/

/-- Inserts, updates and deletes of the mapped rows. -/
def Work.write (work : Work) (db : Db) : Option Db := do
  let accounts ← (db.accounts.writeBack work.accountChanges).insertAll work.accounts
  let secrets ← (db.secrets.writeBack work.secretChanges).insertAll work.secrets
  let riskSettings ← (db.riskSettings.writeBack work.riskSettingChanges).insertAll work.riskSettings
  let signals ← db.signals.insertAll work.signals
  let positions ← (db.positions.writeBack work.positionChanges).insertAll work.positions
  let balances ← (db.balances.writeBack work.balanceChanges).insertAll work.balances
  let executions ← (db.executions.writeBack work.executionChanges).insertAll work.executions
  let transitions ← db.transitions.insertAll work.transitions
  let auditLogs ← db.auditLogs.insertAll work.auditLogs
  return { db with
    accounts, riskSettings, signals, positions, balances, executions, transitions, auditLogs
    secrets := secrets.deleteWhere fun row => work.deletedSecrets.contains row.exchangeAccountId }

def Db.flush (work : Work) (db : Db) : Except Fault Db :=
  match work.write db >>= fun written =>
    match work.stop with
    | none => some written
    | some change => change.apply written with
  | some written => .ok written
  | none => .error .integrityError

theorem isOk_iff {ε α : Type} {outcome : Except ε α} : outcome.isOk = true ↔
    ∃ value, outcome = .ok value := by
  cases outcome with
  | error raised => exact ⟨fun h => (nomatch h), fun ⟨_, h⟩ => (nomatch h)⟩
  | ok value => exact ⟨fun _ => ⟨value, rfl⟩, fun _ => rfl⟩

/-- The part of a flush that sets the emergency stop. -/
def Work.applyStop (work : Work) (db : Db) : Option Db :=
  match work.stop with
  | none => some db
  | some change => change.apply db

theorem Db.flush_eq_ok {work : Work} {db after : Db} :
    db.flush work = .ok after ↔ ∃ mid, work.write db = some mid ∧ work.applyStop mid = some after := by
  rw [← Option.bind_eq_some_iff]
  unfold Db.flush
  split
  · next written hwritten =>
    constructor
    · intro h
      cases h
      exact hwritten
    · intro h
      exact congrArg Except.ok (Option.some.inj (hwritten.symm.trans h))
  · next refused => exact ⟨fun h => (nomatch h), fun h => (nomatch refused.symm.trans h)⟩

/-- Without the stop, a flush is a write. -/
theorem Work.write_of_flush {work : Work} {db db' : Db} (flushed : db.flush work = .ok db')
    (noStop : work.stop = none) : work.write db = some db' := by
  obtain ⟨mid, written, stopped⟩ := Db.flush_eq_ok.mp flushed
  unfold Work.applyStop at stopped
  rw [noStop] at stopped
  cases stopped
  exact written

/-- With the stop, what is written is stopped. -/
theorem Db.stop_of_flush {work : Work} {db after : Db} {change : StopChange}
    (flushed : db.flush work = .ok after) (stop : work.stop = some change) :
    ∃ mid, work.write db = some mid ∧ change.apply mid = some after := by
  obtain ⟨mid, written, stopped⟩ := Db.flush_eq_ok.mp flushed
  unfold Work.applyStop at stopped
  rw [stop] at stopped
  exact ⟨mid, written, stopped⟩

/-- What `Work.write` does to each table. -/
structure Work.Written (work : Work) (db db' : Db) : Prop where
  control : db'.control = db.control
  accounts : (db.accounts.writeBack work.accountChanges).insertAll work.accounts = some db'.accounts
  riskSettings : (db.riskSettings.writeBack work.riskSettingChanges).insertAll work.riskSettings =
    some db'.riskSettings
  signals : db.signals.insertAll work.signals = some db'.signals
  positions : (db.positions.writeBack work.positionChanges).insertAll work.positions =
    some db'.positions
  balances : (db.balances.writeBack work.balanceChanges).insertAll work.balances = some db'.balances
  executions : (db.executions.writeBack work.executionChanges).insertAll work.executions =
    some db'.executions
  transitions : db.transitions.insertAll work.transitions = some db'.transitions
  auditLogs : db.auditLogs.insertAll work.auditLogs = some db'.auditLogs
  systemEvents : db'.systemEvents = db.systemEvents

theorem Work.written_of_write {work : Work} {db db' : Db} (written : work.write db = some db') :
    work.Written db db' := by
  simp only [Work.write, Option.bind_eq_bind, Option.bind_eq_some_iff, Option.pure_def,
    Option.some.injEq] at written
  obtain ⟨accounts, haccounts, secrets, hsecrets, riskSettings, hrisk, signals, hsignals,
    positions, hpositions, balances, hbalances, executions, hexecutions, transitions, htransitions, auditLogs, hlogs,
    rfl⟩ := written
  exact ⟨rfl, haccounts, hrisk, hsignals, hpositions, hbalances, hexecutions, htransitions,
    hlogs, rfl⟩

theorem Work.written_of_flush {work : Work} {db db' : Db} (flushed : db.flush work = .ok db')
    (noStop : work.stop = none) : work.Written db db' :=
  Work.written_of_write (Work.write_of_flush flushed noStop)

/-- The keys are inserted and changed before any is deleted. -/
theorem secrets_of_write {work : Work} {db db' : Db} (written : work.write db = some db') :
    ∃ secrets, (db.secrets.writeBack work.secretChanges).insertAll work.secrets = some secrets ∧
      db'.secrets =
        secrets.deleteWhere fun row => work.deletedSecrets.contains row.exchangeAccountId := by
  simp only [Work.write, Option.bind_eq_bind, Option.bind_eq_some_iff, Option.pure_def,
    Option.some.injEq] at written
  obtain ⟨accounts, -, secrets, hsecrets, riskSettings, -, signals, -, positions, -, balances, -,
    executions, -, transitions, -, auditLogs, -, rfl⟩ := written
  exact ⟨secrets, hsecrets, rfl⟩

/-- The stop writes no execution. -/
theorem executions_of_flush {work : Work} {db db' : Db} (flushed : db.flush work = .ok db') :
    (db.executions.writeBack work.executionChanges).insertAll work.executions =
      some db'.executions := by
  obtain ⟨mid, written, stopped⟩ := Db.flush_eq_ok.mp flushed
  rw [(Work.written_of_write written).executions]
  unfold Work.applyStop at stopped
  split at stopped
  · cases stopped
    rfl
  · simp only [StopChange.apply, Option.bind_eq_bind, Option.bind_eq_some_iff, Option.pure_def,
      Option.some.injEq] at stopped
    obtain ⟨auditLogs, -, rfl⟩ := stopped
    rfl

end CopyTrading
