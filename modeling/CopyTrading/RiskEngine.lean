import CopyTrading.ExchangeAccounts

/-!
Risk settings of an account and the checks an order has to pass.
-/

namespace CopyTrading

open Transaction DecimalArith

structure RiskCheckResult where
  decision : RiskDecision
  reasons : List String
  deriving DecidableEq

def RiskCheckResult.toDict (result : RiskCheckResult) : Json :=
  .obj [("decision", .str result.decision.value), ("reasons", .arr (result.reasons.map .str))]

structure RiskOrderInput where
  symbol : String
  side : OrderSide
  quantity : Decimal
  price : Option Decimal

def riskSettingOf (userId exchangeAccountId : String) (db : Db) : Option RiskSetting :=
  db.riskSettings.find? fun row =>
    row.userId = userId ∧ row.exchangeAccountId = exchangeAccountId

def defaultRiskSetting (userId exchangeAccountId : String) : RiskSetting where
  userId := userId
  exchangeAccountId := exchangeAccountId
  tradingEnabled := false
  maxSingleOrderNotional := none
  maxPositionNotional := none
  maxLeverage := none
  minOrderQuantity := none
  maxOrderQuantity := none
  blockedSymbols := some []

/-- `db.refresh(settings)`: load the row by its key. -/
def refreshRiskSetting (exchangeAccountId : String) : Service RiskSetting := do
  match ← Session.query (·.riskSettings.find? (·.exchangeAccountId = exchangeAccountId)) with
  | none => throw .objectDeleted
  | some row => return row

/-- A missing row is added and committed on its own, which commits whatever else is
pending in the session. -/
def getOrCreateRiskSettings (userId exchangeAccountId : String) : Service RiskSetting := do
  match ← Session.query (riskSettingOf userId exchangeAccountId) with
  | some settings => return settings
  | none =>
    Session.add fun work =>
      { work with
        riskSettings := work.riskSettings ++ [defaultRiskSetting userId exchangeAccountId] }
    Session.commit
    refreshRiskSetting exchangeAccountId

/-! ### Updating -/

/-- `RiskSettingUpdate` as `model_dump(exclude_unset=True)` hands it over: a field is absent,
`None`, or a value. -/
structure RiskSettingUpdate where
  tradingEnabled : Option (Option Bool) := none
  maxSingleOrderNotional : Option (Option Decimal) := none
  maxPositionNotional : Option (Option Decimal) := none
  maxLeverage : Option (Option Decimal) := none
  minOrderQuantity : Option (Option Decimal) := none
  maxOrderQuantity : Option (Option Decimal) := none
  blockedSymbols : Option (Option (List String)) := none

def insertSymbol (symbol : String) : List String → List String
  | [] => [symbol]
  | other :: rest =>
      if symbol < other then symbol :: other :: rest
      else if symbol = other then other :: rest
      else other :: insertSymbol symbol rest

/-- `sorted({str(symbol).upper() for symbol in value})`. -/
def blockedSymbolsOf (py : Platform) (value : List String) : List String :=
  (value.map py.upper).foldr insertSymbol []

/-- A field that is present is bound to its column. -/
def boundColumn {precision scale : Nat} :
    Option (Option Decimal) → Service (Option (Option (Numeric precision scale)))
  | none => pure none
  | some value => some <$> toColumn? value

def notifyEmergencyStopEnabled (wasDisabled alertRuntime : Bool) : Service Unit :=
  if wasDisabled && alertRuntime then ask (.notifyEmergencyStopEnabled "account") else pure ()

/-- `settings` is the instance just loaded by `get_or_create_risk_settings`. The columns are
bound when the commit flushes; `None` for `trading_enabled` violates its `NOT NULL`. -/
def updateRiskSettings (py : Platform) (settings : RiskSetting) (data : RiskSettingUpdate)
    (alertRuntime : Bool := false) : Service RiskSetting := do
  let maxSingleOrderNotional ← boundColumn data.maxSingleOrderNotional
  let maxPositionNotional ← boundColumn data.maxPositionNotional
  let maxLeverage ← boundColumn data.maxLeverage
  let minOrderQuantity ← boundColumn data.minOrderQuantity
  let maxOrderQuantity ← boundColumn data.maxOrderQuantity
  Handler.raiseIf (data.tradingEnabled = some none) .integrityError
  let change : RiskSetting.Change :=
    { tradingEnabled := Session.dirtyColumn settings.tradingEnabled data.tradingEnabled.join
      maxSingleOrderNotional :=
        Session.dirtyColumn settings.maxSingleOrderNotional maxSingleOrderNotional
      maxPositionNotional := Session.dirtyColumn settings.maxPositionNotional maxPositionNotional
      maxLeverage := Session.dirtyColumn settings.maxLeverage maxLeverage
      minOrderQuantity := Session.dirtyColumn settings.minOrderQuantity minOrderQuantity
      maxOrderQuantity := Session.dirtyColumn settings.maxOrderQuantity maxOrderQuantity
      blockedSymbols :=
        Session.dirtyColumn settings.blockedSymbols
          (data.blockedSymbols.map (Option.map (blockedSymbolsOf py))) }
  Session.add fun work =>
    { work with riskSettingChanges := work.riskSettingChanges ++ [⟨settings, change⟩] }
  Session.commit
  let updated ← refreshRiskSetting settings.exchangeAccountId
  notifyEmergencyStopEnabled
    (settings.tradingEnabled && decide (data.tradingEnabled = some (some false))) alertRuntime
  return updated

/-! ### Checking an order -/

/-- `order.price or Decimal("1")`: a missing or zero price counts as one. -/
def priceOrOne : Option Decimal → Decimal
  | none => .ofInt 1
  | some price => if price.coeff = 0 then .ofInt 1 else price

/-- The reasons against an order, in the order they are checked. -/
def riskReasons (account : ExchangeAccount) (settings : RiskSetting) (blocked : List String)
    (order : RiskOrderInput) (allowNonSimulation : Bool) : List String :=
  (if account.accountMode ≠ .simulation ∧ ¬ allowNonSimulation then
    ["only SIMULATION mode is enabled in V1"] else []) ++
  (if account.tradingEnabled then [] else ["exchange account trading is disabled"]) ++
  (if settings.tradingEnabled then [] else ["risk settings trading is disabled"]) ++
  (if order.symbol ∈ blocked then ["symbol is blocked"] else []) ++
  (if settings.minOrderQuantity.any fun least => order.quantity < least.toDecimal then
    ["quantity is below minimum"] else []) ++
  (if settings.maxOrderQuantity.any fun most => most.toDecimal < order.quantity then
    ["quantity is above maximum"] else []) ++
  (if settings.maxSingleOrderNotional.any fun most =>
      most.toDecimal < decimalMul order.quantity (priceOrOne order.price) then
    ["single order notional exceeds limit"] else [])

/-- Testing membership in a `None` list raises. -/
def checkOrderRisk (account : ExchangeAccount) (settings : RiskSetting) (order : RiskOrderInput)
    (allowNonSimulation : Bool := false) : Except Exc RiskCheckResult :=
  match settings.blockedSymbols with
  | none => .error .typeError
  | some blocked =>
    let reasons := riskReasons account settings blocked order allowNonSimulation
    .ok { decision := if reasons = [] then .passed else .rejected, reasons }

/-- What there is no reason against. -/
structure RiskPassed (account : ExchangeAccount) (settings : RiskSetting) (order : RiskOrderInput)
    (allowNonSimulation : Bool) : Prop where
  mode : account.accountMode = .simulation ∨ allowNonSimulation = true
  accountOn : account.tradingEnabled = true
  settingsOn : settings.tradingEnabled = true
  allowed : ∃ blocked, settings.blockedSymbols = some blocked ∧ order.symbol ∉ blocked
  least : ∀ least ∈ settings.minOrderQuantity, least.toDecimal ≤ order.quantity
  most : ∀ most ∈ settings.maxOrderQuantity, order.quantity ≤ most.toDecimal
  notional : ∀ most ∈ settings.maxSingleOrderNotional,
    decimalMul order.quantity (priceOrOne order.price) ≤ most.toDecimal

theorem checkOrderRisk_passed {account : ExchangeAccount} {settings : RiskSetting}
    {order : RiskOrderInput} {allow : Bool} {result : RiskCheckResult}
    (checked : checkOrderRisk account settings order allow = .ok result)
    (passed : result.decision = .passed) : RiskPassed account settings order allow := by
  unfold checkOrderRisk at checked
  split at checked
  · cases checked
  · next blocked hblocked =>
    cases checked
    have none : riskReasons account settings blocked order allow = [] := by
      by_contra some
      simp [some] at passed
    simp only [riskReasons, List.append_eq_nil_iff] at none
    obtain ⟨⟨⟨⟨⟨⟨mode, accountOn⟩, settingsOn⟩, allowed⟩, least⟩, most⟩, notional⟩ := none
    constructor
    · by_cases simulated : account.accountMode = .simulation
      · exact .inl simulated
      · simpa [simulated] using mode
    · simpa using accountOn
    · simpa using settingsOn
    · exact ⟨blocked, hblocked, by simpa using allowed⟩
    · rintro value hvalue
      rw [hvalue] at least
      exact Decimal.not_lt_iff.mp (by simpa using least)
    · rintro value hvalue
      rw [hvalue] at most
      exact Decimal.not_lt_iff.mp (by simpa using most)
    · rintro value hvalue
      rw [hvalue] at notional
      exact Decimal.not_lt_iff.mp (by simpa using notional)

/-! ### Requests -/

def readRiskSettings (userId accountId : String) : Service RiskSetting := do
  match ← getOwnedAccount userId accountId with
  | none => throw accountNotFound
  | some account => getOrCreateRiskSettings userId account.id

def patchRiskSettings (py : Platform) (userId accountId : String) (payload : RiskSettingUpdate) :
    Service RiskSetting := do
  match ← getOwnedAccount userId accountId with
  | none => throw accountNotFound
  | some account =>
    Handler.raiseIf (account.accountMode ≠ .simulation)
      (.httpException 400
        (.text "risk settings can only be modified for SIMULATION accounts in V1"))
    let settings ← getOrCreateRiskSettings userId account.id
    updateRiskSettings py settings payload true

end CopyTrading
