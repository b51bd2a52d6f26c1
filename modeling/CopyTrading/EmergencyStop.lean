import CopyTrading.Session

/-!
The global emergency stop: the gate that order paths ask, and the operation that
switches it and, when it is activated, clears every trading flag.
-/

namespace CopyTrading

open Transaction

structure EmergencyStopState where
  enabled : Bool
  reason : Option String
  changedByUserId : Option String
  deriving DecidableEq

def Db.emergencyStopEnabled (db : Db) : Bool := db.control.any (·.emergencyStopEnabled)

def getEmergencyStopState : Service EmergencyStopState := do
  match ← Session.query (·.control) with
  | none => return { enabled := false, reason := none, changedByUserId := none }
  | some control =>
    return { enabled := control.emergencyStopEnabled, reason := control.reason
             changedByUserId := control.changedByUserId }

def assertNewOrdersAllowed : Service Unit := do
  let stopped ← Session.query Db.emergencyStopEnabled
  Handler.raiseIf (stopped = true) .emergencyStopEnabled

/-- Under the lock of the control row: the flag, the bulk clearing of the trading flags,
an audit row and a system event, in one commit. -/
def setEmergencyStop (py : Platform) (enabled : Bool) (actorId reason : String) :
    Service EmergencyStopState := do
  let cleanReason := String.ofList ((py.collapseSpaces reason).toList.take 500)
  let auditLogId ← ask .newUuid
  let createdAt ← ask .utcNow
  Session.add fun work =>
    { work with stop := some { enabled, reason := cleanReason, actorId, auditLogId, createdAt } }
  Session.commit
  getEmergencyStopState

end CopyTrading
