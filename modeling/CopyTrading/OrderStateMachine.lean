import CopyTrading.Session

/-!
The order state machine: terminal statuses, allowed transitions, and the transition
log that every status change appends to.
-/

namespace CopyTrading

open Transaction

def terminalOrderStatuses : List OrderExecutionStatus :=
  [.filled, .cancelled, .rejected, .failed, .timeout]

/-- Terminal statuses have no entry and allow nothing. -/
def allowedOrderTransitions : OrderExecutionStatus → List OrderExecutionStatus
  | .created => [.riskPassed, .rejected, .failed]
  | .riskPassed => [.submitted, .failed]
  | .submitted =>
      [.accepted, .partiallyFilled, .filled, .cancelled, .rejected, .failed, .timeout]
  | .accepted => [.partiallyFilled, .filled, .cancelled, .rejected, .failed, .timeout]
  | .partiallyFilled => [.partiallyFilled, .filled, .cancelled, .failed, .timeout]
  | .filled | .cancelled | .rejected | .failed | .timeout => []

theorem allowed_of_terminal {status : OrderExecutionStatus}
    (terminal : status ∈ terminalOrderStatuses) : allowedOrderTransitions status = [] := by
  cases status <;> first | rfl | simp [terminalOrderStatuses] at terminal

/-- `max(...)` of sequence numbers, `0` when there is none. -/
def maxSequence (orderExecutionId : String) (transitions : List OrderExecutionTransition) : Nat :=
  ((transitions.filter (·.orderExecutionId = orderExecutionId)).map (·.sequenceNumber)).foldl max 0

/-- One more than the largest persisted or pending sequence number of the execution. -/
def nextSequenceNumber (orderExecutionId : String) : Service Nat := do
  let persistedMax ← Session.query fun db => maxSequence orderExecutionId db.transitions.rows
  let session ← Handler.session
  return max persistedMax (maxSequence orderExecutionId session.work.transitions) + 1

def addTransition (execution : OrderExecution) (fromStatus : Option OrderExecutionStatus)
    (toStatus : OrderExecutionStatus) (reason : String) (details : Json := .null) :
    Service Unit := do
  Handler.raiseIf (execution.id = "")
    (.invalidOrderStateTransition "order execution must be persisted first")
  let sequenceNumber ← nextSequenceNumber execution.id
  Session.add fun work =>
    { work with
      transitions := work.transitions ++
        [{ userId := execution.userId, orderExecutionId := execution.id, sequenceNumber
           fromStatus, toStatus, reason, details }] }

def recordInitialOrderState (id : String) (reason : String := "execution_created") :
    Service Unit := do
  let execution ← Session.execution id
  Handler.raiseIf (execution.status ≠ .created)
    (.invalidOrderStateTransition "initial order state must be CREATED")
  addTransition execution none .created reason

def transitionOrderExecution (id : String) (toStatus : OrderExecutionStatus) (reason : String)
    (details : Json := .null) : Service Unit := do
  let execution ← Session.execution id
  let fromStatus := execution.status
  Handler.raiseIf (toStatus ∉ allowedOrderTransitions fromStatus)
    (.invalidOrderStateTransition
      ("order status transition " ++ fromStatus.value ++ " -> " ++ toStatus.value ++
        " is not allowed"))
  Session.setExecution id fun change => { change with status := some toStatus }
  addTransition execution (some fromStatus) toStatus reason details

end CopyTrading
