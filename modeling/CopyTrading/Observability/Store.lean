import CopyTrading.Models
import CopyTrading.StateEffect

/-!
The observability rows and a session on them. What a session flushes only its own transaction
sees; closing the session without a commit gives it up.
-/

namespace CopyTrading

inductive NotificationChannel where
  | internal
  | telegram
  | email
  | webhook
  deriving DecidableEq

def NotificationChannel.value : NotificationChannel → String
  | .internal => "INTERNAL"
  | .telegram => "TELEGRAM"
  | .email => "EMAIL"
  | .webhook => "WEBHOOK"

structure InternalNotification where
  id : String
  userId : String
  exchangeAccountId : Option String
  channel : String
  severity : String
  title : String
  message : String
  payload : List (String × Json)
  isRead : Bool := false
  createdAt : Instant
  readAt : Option Instant := none

structure NotificationPreference where
  id : String
  userId : String
  internalEnabled : Bool := true
  telegramEnabled : Bool := false
  emailEnabled : Bool := false
  webhookEnabled : Bool := false
  positionDriftEnabled : Bool := true
  riskRejectionEnabled : Bool := true
  orderFailureEnabled : Bool := true
  createdAt : Instant
  updatedAt : Instant
  deriving DecidableEq

structure ObservabilityDb where
  auditLogs : List AuditLog := []
  systemEvents : List SystemEvent := []
  notifications : List InternalNotification := []
  preferences : List NotificationPreference := []
  positions : List Position := []

/-- The exceptions of these services. -/
inductive ObservabilityExc where
  | externalNotificationChannelDisabled (channel : NotificationChannel)
  | sensitiveNotificationPayload (keyPath : String)
  | externalNotificationPreferenceDisabled (channel : NotificationChannel)
  | httpException (status : Nat) (detail : String)
  | snapshotProvider (message : String)
  | invalidOperation
  | overflow
  deriving DecidableEq

/-- What a flush sends. The keys are random, so no insert is refused. -/
inductive ObservabilityWrite where
  | addAuditLog (row : AuditLog)
  | addSystemEvent (row : SystemEvent)
  | addNotification (row : InternalNotification)
  | addPreference (row : NotificationPreference)
  | setNotification (row : InternalNotification)
  | setPreference (row : NotificationPreference)

def ObservabilityDb.write (db : ObservabilityDb) : ObservabilityWrite → ObservabilityDb
  | .addAuditLog row => { db with auditLogs := db.auditLogs ++ [row] }
  | .addSystemEvent row => { db with systemEvents := db.systemEvents ++ [row] }
  | .addNotification row => { db with notifications := db.notifications ++ [row] }
  | .addPreference row => { db with preferences := db.preferences ++ [row] }
  | .setNotification row =>
      { db with
        notifications := db.notifications.map fun old => if old.id = row.id then row else old }
  | .setPreference row =>
      { db with
        preferences := db.preferences.map fun old => if old.id = row.id then row else old }

/-- What others see, what the transaction sees, and what is not flushed yet. -/
structure ObservabilitySession where
  committed : ObservabilityDb
  flushed : ObservabilityDb
  pending : List ObservabilityWrite := []
  /-- The identifiers the request draws, and how many it has drawn. -/
  uuids : Nat → String
  drawn : Nat := 0
  now : Instant

abbrev ObservabilityService (α : Type) := EStateM ObservabilityExc ObservabilitySession α

namespace ObservabilitySession

/-- A new session on the committed rows. -/
def opened (db : ObservabilityDb) (uuids : Nat → String) (now : Instant) :
    ObservabilitySession where
  committed := db
  flushed := db
  uuids := uuids
  now := now

def query {α : Type} (select : ObservabilityDb → α) : ObservabilityService α := do
  return select (← get).flushed

def newUuid : ObservabilityService String := do
  let session ← get
  set { session with drawn := session.drawn + 1 }
  return session.uuids session.drawn

def utcNow : ObservabilityService Instant := do
  return (← get).now

def add (write : ObservabilityWrite) : ObservabilityService Unit :=
  modify fun session => { session with pending := session.pending ++ [write] }

def flush : ObservabilityService Unit :=
  modify fun session =>
    { session with
      flushed := session.pending.foldl ObservabilityDb.write session.flushed
      pending := [] }

/-- `if condition: raise exc`. -/
def raiseWhen (condition : Prop) [Decidable condition] (exc : ObservabilityExc) :
    ObservabilityService Unit := if condition then throw exc else pure ()

/-- The rows once everything pending is flushed. -/
def settled (s : ObservabilitySession) : ObservabilityDb :=
  s.pending.foldl ObservabilityDb.write s.flushed

/-- `db.commit()`. -/
def commit : ObservabilityService Unit := do
  flush
  modify fun session => { session with committed := session.flushed }

/-- `get_db`: the request runs in a session of its own, which is closed at the end. -/
def served {α : Type} (request : ObservabilityService α) (session : ObservabilitySession) :
    Except ObservabilityExc α × ObservabilityDb :=
  match request.run session with
  | .ok value after => (.ok value, after.committed)
  | .error raised after => (.error raised, after.committed)

/-! ### What the services leave alone -/

/-- Nothing is committed, and the transaction sees the same positions. -/
structure Untouched (s s' : ObservabilitySession) : Prop where
  committed : s'.committed = s.committed
  positions : s'.flushed.positions = s.flushed.positions

instance : Std.Refl Untouched := ⟨fun _ => ⟨rfl, rfl⟩⟩

instance : IsTrans ObservabilitySession Untouched :=
  ⟨fun _ _ _ first second => ⟨second.committed.trans first.committed,
    second.positions.trans first.positions⟩⟩

open StateEffect

theorem positions_write (writes : List ObservabilityWrite) (db : ObservabilityDb) :
    (writes.foldl ObservabilityDb.write db).positions = db.positions := by
  induction writes generalizing db with
  | nil => rfl
  | cons write rest ih =>
    rw [List.foldl_cons, ih]
    cases write <;> rfl

theorem untouched_query {α : Type} (select : ObservabilityDb → α) :
    Within Untouched (query select) := .bind .get fun _ => .pure _

theorem untouched_newUuid : Within Untouched newUuid := fun _ => ⟨rfl, rfl⟩

theorem untouched_utcNow : Within Untouched utcNow := .bind .get fun _ => .pure _

theorem untouched_add (write : ObservabilityWrite) : Within Untouched (add write) :=
  .modify fun _ => ⟨rfl, rfl⟩

theorem untouched_flush : Within Untouched flush :=
  .modify fun _ => ⟨rfl, positions_write _ _⟩

theorem untouched_raiseWhen (condition : Prop) [Decidable condition] (exc : ObservabilityExc) :
    Within Untouched (raiseWhen condition exc) := by
  unfold raiseWhen
  split
  · exact .throw _
  · exact .pure _

end ObservabilitySession

end CopyTrading
