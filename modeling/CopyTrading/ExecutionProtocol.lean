import CopyTrading.Effects
import CopyTrading.OrderEngine

/-!
The protocol of `execute_signal_for_account`: what one request has established and which
event may come next. The events are those of the database and of the adapter; whatever
other sessions commit in between is allowed.
-/

namespace CopyTrading

open Transaction DecimalArith

/-- The arguments of one request. -/
structure ExecRequest where
  userId : String
  signalId : String
  accountId : String
  alertRuntime : Bool := false
  deriving DecidableEq

def ExecRequest.service (py : Platform) (req : ExecRequest) : Service OrderExecution :=
  executeSignalForAccount py req.userId req.signalId req.accountId req.alertRuntime

inductive ExecStage where
  | start
  /-- The emergency stop was read as off. -/
  | admitted
  | known (signal : TradingSignal)
  | owned (signal : TradingSignal)
  /-- An execution of the signal on the account exists and is handed out. -/
  | replayed (row : OrderExecution)
  | absent (signal : TradingSignal)
  /-- The row has been committed as `CREATED`. -/
  | created (row : OrderExecution)
  | weighed (row : OrderExecution) (settings : RiskSetting)
  /-- Account and risk settings were read with trading enabled. -/
  | cleared (row : OrderExecution)
  | passed (row : OrderExecution)
  | submitted (row : OrderExecution)
  | placed (row : OrderExecution)
  | filling (row : OrderExecution) (position : Position)
  /-- `FILLED` has been committed together with a new position of quantity zero. -/
  | opened (row : OrderExecution)
  | funding (row : OrderExecution) (position : Position)
  | filled (row : OrderExecution)
  | failed (row : OrderExecution)
  | answered (row : OrderExecution) (fill : Bool) (result : OrderExecution)

namespace ExecStage

/-- The row the request has created. -/
def row? : ExecStage → Option OrderExecution
  | start | admitted | known _ | owned _ | replayed _ | absent _ => none
  | created row | weighed row _ | cleared row | passed row | submitted row | placed row
  | filling row _ | opened row | funding row _ | filled row | failed row | answered row .. =>
    some row

/-- The signal the request has loaded and not used yet. -/
def signal? : ExecStage → Option TradingSignal
  | known signal | owned signal | absent signal => some signal
  | _ => none

/-- The execution the request hands out. -/
def result? : ExecStage → Option OrderExecution
  | replayed row => some row
  | answered _ _ result => some result
  | _ => none

/-- The committed status of the created row. -/
def status : ExecStage → OrderExecutionStatus
  | passed _ => .riskPassed
  | submitted _ | placed _ | filling .. => .submitted
  | opened _ | funding .. | filled _ => .filled
  | failed _ => .failed
  | answered _ fill _ => if fill then .filled else .failed
  | _ => .created

end ExecStage

/-- The row of the request: what `newExecution` puts into the fixed columns. -/
structure RowOf (req : ExecRequest) (row : OrderExecution) : Prop where
  userId : row.userId = req.userId
  signalId : row.signalId = req.signalId
  accountId : row.exchangeAccountId = req.accountId
  status : row.status = .created

/-- The signed quantity of an execution, in units of the column. -/
def signedUnits (row : OrderExecution) : Int :=
  match row.side with
  | .buy => row.quantity.units
  | .sell => -row.quantity.units

/-- The position of an execution. -/
def PositionFor (row : OrderExecution) (position : Position) : Prop :=
  position.exchangeAccountId = row.exchangeAccountId ∧ position.symbol = row.symbol

instance (row : OrderExecution) (position : Position) : Decidable (PositionFor row position) :=
  inferInstanceAs (Decidable (_ ∧ _))

/-- The write a fill makes on the position it has loaded. -/
def FillOf (row : OrderExecution) (position : Position) (filled : Quantity) : Prop :=
  filled.units = position.quantity.units + signedUnits row

open ExecStage in
inductive ExecMove (req : ExecRequest) : ExecStage → Event backend → ExecStage → Prop where
  | idle {stage : ExecStage} {e : Event backend} (idle : isIdle e) : ExecMove req stage e stage
  | enter {world : World} (off : world.db.emergencyStopEnabled = false) :
      ExecMove req start (.read world) admitted
  | know {world : World} {signal : TradingSignal} (stored : signal ∈ world.db.signals)
      (id : signal.id = req.signalId) (user : signal.userId = req.userId) :
      ExecMove req admitted (.read world) (known signal)
  | own {world : World} {signal : TradingSignal} {account : ExchangeAccount}
      (id : account.id = req.accountId) (user : account.userId = req.userId) :
      ExecMove req (known signal) (.read world) (owned signal)
  | replay {world : World} {signal : TradingSignal} {row : OrderExecution}
      (stored : row ∈ world.db.executions) (signalId : row.signalId = req.signalId)
      (accountId : row.exchangeAccountId = req.accountId) :
      ExecMove req (owned signal) (.read world) (replayed row)
  | miss {world : World} {signal : TradingSignal} :
      ExecMove req (owned signal) (.read world) (absent signal)
  | openPosition {work : Work} {before after : World} {signal : TradingSignal}
      (trading : TradingWork work [] none []) :
      ExecMove req (absent signal) (.commit work before after) (absent signal)
  | create {work : Work} {before after : World} {signal : TradingSignal}
      {row : OrderExecution} (rowOf : RowOf req row)
      (trading : TradingWork work [row] none []) (noPosition : work.positions = []) :
      ExecMove req (absent signal) (.commit work before after) (created row)
  | settle {work : Work} {before after : World} {row : OrderExecution}
      (trading : TradingWork work [] none []) (noPosition : work.positions = []) :
      ExecMove req (created row) (.commit work before after) (created row)
  | weigh {world : World} {row : OrderExecution} {settings : RiskSetting}
      (stored : settings ∈ world.db.riskSettings)
      (accountId : settings.exchangeAccountId = req.accountId) :
      ExecMove req (created row) (.read world) (weighed row settings)
  | clear {world : World} {row : OrderExecution} {settings : RiskSetting}
      {account : ExchangeAccount} (stored : account ∈ world.db.accounts)
      (accountId : account.id = req.accountId) (accountOn : account.tradingEnabled = true)
      (riskOn : settings.tradingEnabled = true) :
      ExecMove req (weighed row settings) (.read world) (cleared row)
  | fail {work : Work} {before after : World} {row : OrderExecution} {stage : ExecStage}
      (from_ : stage = cleared row ∨ ∃ settings, stage = weighed row settings)
      (trading : TradingWork work [] (some (row.id, .failed)) [])
      (noPosition : work.positions = []) :
      ExecMove req stage (.commit work before after) (failed row)
  | pass {work : Work} {before after : World} {row : OrderExecution}
      (trading : TradingWork work [] (some (row.id, .riskPassed)) [])
      (noPosition : work.positions = []) :
      ExecMove req (cleared row) (.commit work before after) (passed row)
  | submit {work : Work} {before after : World} {row : OrderExecution}
      (trading : TradingWork work [] (some (row.id, .submitted)) [])
      (noPosition : work.positions = []) :
      ExecMove req (passed row) (.commit work before after) (submitted row)
  | place {order : PlaceOrder} {answer : Except Exc Json} {before after : World}
      {row : OrderExecution} (order_eq : order.symbol = row.symbol ∧ order.side = row.side ∧
        order.quantity = row.quantity.toDecimal) :
      ExecMove req (submitted row) (.call (.placeOrder order) answer before after) (placed row)
  | findPosition {world : World} {row : OrderExecution} {position : Position}
      (stored : position ∈ world.db.positions) (positionFor : PositionFor row position) :
      ExecMove req (placed row) (.read world) (filling row position)
  | openFilled {work : Work} {before after : World} {row : OrderExecution}
      (trading : TradingWork work [] (some (row.id, .filled)) [])
      (opens : ∃ p ∈ work.positions, PositionFor row p) :
      ExecMove req (placed row) (.commit work before after) (opened row)
  | loadPosition {world : World} {row : OrderExecution} {position : Position}
      (stored : position ∈ world.db.positions) (positionFor : PositionFor row position) :
      ExecMove req (opened row) (.read world) (funding row position)
  | fill {work : Work} {before after : World} {row : OrderExecution} {position : Position}
      {filled : Quantity} (fillOf : FillOf row position filled)
      (trading : TradingWork work [] (some (row.id, .filled)) [⟨position, filled⟩])
      (noPosition : work.positions = []) :
      ExecMove req (filling row position) (.commit work before after) (ExecStage.filled row)
  | fund {work : Work} {before after : World} {row : OrderExecution} {position : Position}
      {filled : Quantity} (fillOf : FillOf row position filled)
      (trading : TradingWork work [] none [⟨position, filled⟩])
      (noPosition : work.positions = []) :
      ExecMove req (funding row position) (.commit work before after) (ExecStage.filled row)
  | tail {work : Work} {before after : World} {row : OrderExecution}
      (trading : TradingWork work [] none []) (noPosition : work.positions = []) :
      ExecMove req (ExecStage.filled row) (.commit work before after) (ExecStage.filled row)
  | answer {world : World} {row result : OrderExecution} {stage : ExecStage} {fill : Bool}
      (from_ : stage = if fill then ExecStage.filled row else failed row)
      (stored : result ∈ world.db.executions) (id : result.id = row.id) :
      ExecMove req stage (.read world) (answered row fill result)

abbrev execProtocol (req : ExecRequest) : Protocol backend where
  Phase := ExecStage
  Move := ExecMove req

/-- A move that clears a weighed row only through the gate. -/
structure GatedMove (req : ExecRequest) (gate : OrderExecution → RiskSetting → Prop)
    (stage : ExecStage) (e : Event backend) (stage' : ExecStage) : Prop where
  move : ExecMove req stage e stage'
  gated : ∀ row settings, stage = .weighed row settings → stage' = .cleared row →
    gate row settings

namespace GatedMove

variable {req : ExecRequest} {gate : OrderExecution → RiskSetting → Prop}
  {stage stage' : ExecStage} {e : Event backend}

theorem idle (idle : isIdle e) : GatedMove req gate stage e stage where
  move := .idle idle
  gated _ _ weighed cleared := by cases weighed.symm.trans cleared

theorem clear {row : OrderExecution} {settings : RiskSetting}
    (move : ExecMove req (.weighed row settings) e (.cleared row)) (passed : gate row settings) :
    GatedMove req gate (.weighed row settings) e (.cleared row) where
  move := move
  gated _ _ weighed cleared := by
    cases weighed
    exact passed

/-- The moves that clear nothing. -/
theorem of (move : ExecMove req stage e stage') (uncleared : ∀ row, stage' ≠ .cleared row) :
    GatedMove req gate stage e stage' where
  move := move
  gated row _ _ cleared := (uncleared row cleared).elim

end GatedMove

abbrev gatedProtocol (req : ExecRequest) (gate : OrderExecution → RiskSetting → Prop) :
    Protocol backend where
  Phase := ExecStage
  Move := GatedMove req gate

/-- A request that returns an execution returns the one it found or the one it filled or
failed. -/
def ExecReturns (result : OrderExecution) (stage : ExecStage) : Prop :=
  stage = .replayed result ∨ ∃ row fill, stage = .answered row fill result

end CopyTrading
