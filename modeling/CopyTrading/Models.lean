import CopyTrading.Python
import CopyTrading.Transaction.Table

/-!
The rows of the database: enumerations, columns and the unique constraints of each
table. Columns that no modelled code reads (row ids of tables that are looked up by
another key, labels, audit timestamps other than those of audit logs) are left out.
-/

namespace CopyTrading

open DecimalArith Transaction

/-! ### Enumerations -/

inductive ExchangeName where
  | binance | okx | bybit | mock
  deriving DecidableEq, Repr

def ExchangeName.value : ExchangeName → String
  | .binance => "binance"
  | .okx => "okx"
  | .bybit => "bybit"
  | .mock => "mock"

inductive AccountMode where
  | simulation | testnet | real
  deriving DecidableEq, Repr

def AccountMode.value : AccountMode → String
  | .simulation => "SIMULATION"
  | .testnet => "TESTNET"
  | .real => "REAL"

inductive UserRole where
  | superAdmin | admin | normalUser | teamAdmin
  deriving DecidableEq, Repr

inductive SignalSource where
  | manual | copyTrade | ai | strategy | webhook
  deriving DecidableEq, Repr

def SignalSource.value : SignalSource → String
  | .manual => "manual"
  | .copyTrade => "copy_trade"
  | .ai => "ai"
  | .strategy => "strategy"
  | .webhook => "webhook"

inductive OrderSide where
  | buy | sell
  deriving DecidableEq, Repr

def OrderSide.value : OrderSide → String
  | .buy => "BUY"
  | .sell => "SELL"

inductive OrderType where
  | market | limit
  deriving DecidableEq, Repr

def OrderType.value : OrderType → String
  | .market => "MARKET"
  | .limit => "LIMIT"

inductive RiskDecision where
  | passed | rejected
  deriving DecidableEq, Repr

def RiskDecision.value : RiskDecision → String
  | .passed => "PASSED"
  | .rejected => "REJECTED"

inductive OrderExecutionStatus where
  | created | riskPassed | submitted | accepted | partiallyFilled
  | filled | cancelled | rejected | failed | timeout
  deriving DecidableEq, Repr

def OrderExecutionStatus.value : OrderExecutionStatus → String
  | .created => "CREATED"
  | .riskPassed => "RISK_PASSED"
  | .submitted => "SUBMITTED"
  | .accepted => "ACCEPTED"
  | .partiallyFilled => "PARTIALLY_FILLED"
  | .filled => "FILLED"
  | .cancelled => "CANCELLED"
  | .rejected => "REJECTED"
  | .failed => "FAILED"
  | .timeout => "TIMEOUT"

/-! ### Columns -/

/-- `Numeric(28, 10)`: prices, quantities and notionals. -/
abbrev Quantity := Numeric 28 10

/-- `Numeric(12, 4)`. -/
abbrev Leverage := Numeric 12 4

/-- Microseconds since the epoch. -/
abbrev Instant := Int

/-! ### Accounts and controls -/

structure ExchangeAccount where
  id : String
  userId : String
  exchangeName : ExchangeName
  accountMode : AccountMode
  accountLabel : String
  tradingEnabled : Bool
  isActive : Bool
  deriving DecidableEq

/-- The attributes `setattr` may have set on an account. -/
structure ExchangeAccount.Change where
  accountMode : Option AccountMode := none
  accountLabel : Option String := none
  tradingEnabled : Option Bool := none
  isActive : Option Bool := none
  deriving DecidableEq

instance : Row ExchangeAccount where
  Key := String
  key := ExchangeAccount.id
  Clash a b := a = b
  clash_symm := Eq.symm
  decideClash _ _ := inferInstance
  Primary := String
  primary := id
  decidePrimary := inferInstance
  clash_of_primary := id
  Change := ExchangeAccount.Change
  apply change row :=
    { row with
      accountMode := change.accountMode.getD row.accountMode
      accountLabel := change.accountLabel.getD row.accountLabel
      tradingEnabled := change.tradingEnabled.getD row.tradingEnabled
      isActive := change.isActive.getD row.isActive }
  key_apply _ _ := rfl

structure ApiKeySecret where
  userId : String
  exchangeAccountId : String
  encryptedApiKey : String
  encryptedApiSecret : String
  encryptedPassphrase : Option String
  deriving DecidableEq

structure ApiKeySecret.Change where
  encryptedApiKey : Option String := none
  encryptedApiSecret : Option String := none
  encryptedPassphrase : Option (Option String) := none
  deriving DecidableEq

instance : Row ApiKeySecret where
  Key := String
  key := ApiKeySecret.exchangeAccountId
  Clash a b := a = b
  clash_symm := Eq.symm
  decideClash _ _ := inferInstance
  Primary := String
  primary := id
  decidePrimary := inferInstance
  clash_of_primary := id
  Change := ApiKeySecret.Change
  apply change row :=
    { row with
      encryptedApiKey := change.encryptedApiKey.getD row.encryptedApiKey
      encryptedApiSecret := change.encryptedApiSecret.getD row.encryptedApiSecret
      encryptedPassphrase := change.encryptedPassphrase.getD row.encryptedPassphrase }
  key_apply _ _ := rfl

structure RiskSetting where
  userId : String
  exchangeAccountId : String
  tradingEnabled : Bool
  maxSingleOrderNotional : Option Quantity
  maxPositionNotional : Option Quantity
  maxLeverage : Option Leverage
  minOrderQuantity : Option Quantity
  maxOrderQuantity : Option Quantity
  /-- `none` is the JSON `null` an explicit `None` is stored as. -/
  blockedSymbols : Option (List String)
  deriving DecidableEq

structure RiskSetting.Change where
  tradingEnabled : Option Bool := none
  maxSingleOrderNotional : Option (Option Quantity) := none
  maxPositionNotional : Option (Option Quantity) := none
  maxLeverage : Option (Option Leverage) := none
  minOrderQuantity : Option (Option Quantity) := none
  maxOrderQuantity : Option (Option Quantity) := none
  blockedSymbols : Option (Option (List String)) := none
  deriving DecidableEq

instance : Row RiskSetting where
  Key := String
  key := RiskSetting.exchangeAccountId
  Clash a b := a = b
  clash_symm := Eq.symm
  decideClash _ _ := inferInstance
  Primary := String
  primary := id
  decidePrimary := inferInstance
  clash_of_primary := id
  Change := RiskSetting.Change
  apply change row :=
    { row with
      tradingEnabled := change.tradingEnabled.getD row.tradingEnabled
      maxSingleOrderNotional := change.maxSingleOrderNotional.getD row.maxSingleOrderNotional
      maxPositionNotional := change.maxPositionNotional.getD row.maxPositionNotional
      maxLeverage := change.maxLeverage.getD row.maxLeverage
      minOrderQuantity := change.minOrderQuantity.getD row.minOrderQuantity
      maxOrderQuantity := change.maxOrderQuantity.getD row.maxOrderQuantity
      blockedSymbols := change.blockedSymbols.getD row.blockedSymbols }
  key_apply _ _ := rfl

/-- The single row `GLOBAL_SYSTEM_CONTROL_ID`. -/
structure SystemControl where
  emergencyStopEnabled : Bool
  reason : Option String
  changedByUserId : Option String
  deriving DecidableEq

/-! ### Trading -/

structure TradingSignal where
  id : String
  userId : String
  source : SignalSource
  symbol : String
  side : OrderSide
  orderType : OrderType
  price : Option Quantity
  quantity : Option Quantity
  targetPositionQuantity : Option Quantity
  rawPayload : Json

/-- Signals are inserted once; no code updates or deletes one. -/
instance : Row TradingSignal where
  Key := String
  key := TradingSignal.id
  Clash a b := a = b
  clash_symm := Eq.symm
  decideClash _ _ := inferInstance
  Primary := String
  primary := id
  decidePrimary := inferInstance
  clash_of_primary := id
  Change := Empty
  apply change _ := change.elim
  key_apply change _ := change.elim

structure Position where
  userId : String
  exchangeAccountId : String
  symbol : String
  quantity : Quantity
  deriving DecidableEq

structure Position.Key where
  exchangeAccountId : String
  symbol : String
  deriving DecidableEq

/-- The only attribute of a position that changes is its quantity. -/
instance : Row Position where
  Key := Position.Key
  key row := ⟨row.exchangeAccountId, row.symbol⟩
  Clash a b := a = b
  clash_symm := Eq.symm
  decideClash _ _ := inferInstance
  Primary := Position.Key
  primary := id
  decidePrimary := inferInstance
  clash_of_primary := id
  Change := Quantity
  apply quantity row := { row with quantity := quantity }
  key_apply _ _ := rfl

structure Balance where
  userId : String
  exchangeAccountId : String
  asset : String
  availableQuantity : Quantity
  lockedQuantity : Quantity
  totalQuantity : Quantity
  deriving DecidableEq

structure Balance.Key where
  exchangeAccountId : String
  asset : String
  deriving DecidableEq

/-- The three quantities are set together. -/
structure Balance.Change where
  availableQuantity : Quantity
  lockedQuantity : Quantity
  totalQuantity : Quantity
  deriving DecidableEq

instance : Row Balance where
  Key := Balance.Key
  key row := ⟨row.exchangeAccountId, row.asset⟩
  Clash a b := a = b
  clash_symm := Eq.symm
  decideClash _ _ := inferInstance
  Primary := Balance.Key
  primary := id
  decidePrimary := inferInstance
  clash_of_primary := id
  Change := Balance.Change
  apply change row :=
    { row with
      availableQuantity := change.availableQuantity
      lockedQuantity := change.lockedQuantity
      totalQuantity := change.totalQuantity }
  key_apply _ _ := rfl

structure OrderExecution where
  id : String
  userId : String
  signalId : String
  executionId : String
  exchangeAccountId : String
  exchangeName : String
  clientOrderId : String
  exchangeOrderId : Option String
  symbol : String
  side : OrderSide
  orderType : OrderType
  price : Option Quantity
  quantity : Quantity
  status : OrderExecutionStatus
  riskResult : Json
  exchangeResponse : Json
  errorMessage : Option String

structure OrderExecution.Key where
  id : String
  executionId : String
  clientOrderId : String
  signalId : String
  exchangeAccountId : String
  deriving DecidableEq

/-- Primary key, the two unique columns, and one execution for a signal on an account. -/
def OrderExecution.Key.Clash (a b : OrderExecution.Key) : Prop :=
  a.id = b.id ∨ a.executionId = b.executionId ∨ a.clientOrderId = b.clientOrderId ∨
    a.signalId = b.signalId ∧ a.exchangeAccountId = b.exchangeAccountId

instance (a b : OrderExecution.Key) : Decidable (a.Clash b) :=
  inferInstanceAs (Decidable (_ ∨ _))

structure OrderExecution.Change where
  status : Option OrderExecutionStatus := none
  exchangeOrderId : Option (Option String) := none
  riskResult : Option Json := none
  exchangeResponse : Option Json := none
  errorMessage : Option (Option String) := none

instance : Row OrderExecution where
  Key := OrderExecution.Key
  key row :=
    ⟨row.id, row.executionId, row.clientOrderId, row.signalId, row.exchangeAccountId⟩
  Clash := OrderExecution.Key.Clash
  clash_symm := by
    intro a b clash
    unfold OrderExecution.Key.Clash at clash ⊢
    rcases clash with h | h | h | ⟨h, h'⟩
    · exact .inl h.symm
    · exact .inr (.inl h.symm)
    · exact .inr (.inr (.inl h.symm))
    · exact .inr (.inr (.inr ⟨h.symm, h'.symm⟩))
  decideClash _ _ := inferInstance
  Primary := String
  primary := OrderExecution.Key.id
  decidePrimary := inferInstance
  clash_of_primary := .inl
  Change := OrderExecution.Change
  apply change row :=
    { row with
      status := change.status.getD row.status
      exchangeOrderId := change.exchangeOrderId.getD row.exchangeOrderId
      riskResult := change.riskResult.getD row.riskResult
      exchangeResponse := change.exchangeResponse.getD row.exchangeResponse
      errorMessage := change.errorMessage.getD row.errorMessage }
  key_apply _ _ := rfl

structure OrderExecutionTransition where
  userId : String
  orderExecutionId : String
  sequenceNumber : Nat
  fromStatus : Option OrderExecutionStatus
  toStatus : OrderExecutionStatus
  reason : String
  details : Json

structure OrderExecutionTransition.Key where
  orderExecutionId : String
  sequenceNumber : Nat
  deriving DecidableEq

instance : Row OrderExecutionTransition where
  Key := OrderExecutionTransition.Key
  key row := ⟨row.orderExecutionId, row.sequenceNumber⟩
  Clash a b := a = b
  clash_symm := Eq.symm
  decideClash _ _ := inferInstance
  Primary := OrderExecutionTransition.Key
  primary := id
  decidePrimary := inferInstance
  clash_of_primary := id
  Change := Empty
  apply change _ := change.elim
  key_apply change _ := change.elim

/-! ### Audit trail -/

structure AuditLog where
  id : String
  userId : String
  exchangeAccountId : Option String
  action : String
  severity : String
  payload : List (String × Json)
  createdAt : Instant

instance : Row AuditLog where
  Key := String
  key := AuditLog.id
  Clash a b := a = b
  clash_symm := Eq.symm
  decideClash _ _ := inferInstance
  Primary := String
  primary := id
  decidePrimary := inferInstance
  clash_of_primary := id
  Change := Empty
  apply change _ := change.elim
  key_apply change _ := change.elim

structure SystemEvent where
  userId : Option String
  exchangeAccountId : Option String
  eventType : String
  severity : String
  payload : List (String × Json)

end CopyTrading
