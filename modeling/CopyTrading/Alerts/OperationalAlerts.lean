import CopyTrading.Alerts.ExternalAlerts
import Mathlib.Logic.Function.Basic

/-!
Operational alerts: what they say, the keys they are throttled by, and the runtime that services
notify. The runtime swallows whatever is raised.
-/

namespace CopyTrading

/-- When an alert of each key was last dispatched, in seconds. -/
abbrev DispatchState := String → Option Int

def defaultAlertThrottleSeconds : Int := 300

def isThrottled (state : DispatchState) (key : String) (nowSeconds throttleSeconds : Int) : Bool :=
  if throttleSeconds ≤ 0 then false
  else match state key with
    | none => false
    | some lastSentAt => nowSeconds - lastSentAt < throttleSeconds

section

variable (py : Platform)

/-! ### Safe values -/

def safeEmergencyStopScopes : List String := ["account", "global"]

def safeExchangeNames : List String := ["binance", "bybit", "mock", "okx"]

def safeOrderFailureStatuses : List String := ["FAILED", "REJECTED", "TIMEOUT"]

def safeOrderFailureTypes : List String :=
  ["exchange_failed", "exchange_rejected", "rate_limited", "risk_rejected", "timeout", "unknown"]

def safeRateLimitScopes : List String := ["account", "global", "ip"]

def safeRateLimitRequestCategories : List String := ["market_data", "order", "private", "unknown"]

def safeReconciliationSeverities : List String := ["WARNING", "CRITICAL"]

def safeReconciliationStatuses : List String := ["DRIFT_DETECTED"]

/-- The normalized value if it is one of the safe ones. -/
def safeAmong (normalize : String → String) (safe : List String) (value : String) :
    Option String :=
  let normalized := normalize (py.strip value)
  if normalized ∈ safe then some normalized else none

def safeEmergencyStopScope (value : String) : String :=
  (safeAmong py py.lower safeEmergencyStopScopes value).getD "unknown"

def safeExchangeName (value : String) : String :=
  (safeAmong py py.lower safeExchangeNames value).getD "unknown"

def safeOrderFailureStatus (value : String) : Option String :=
  safeAmong py py.upper safeOrderFailureStatuses value

def safeOrderFailureType (value : String) : String :=
  (safeAmong py py.lower safeOrderFailureTypes value).getD "unknown"

def safeRateLimitScope (value : String) : String :=
  (safeAmong py py.lower safeRateLimitScopes value).getD "unknown"

def safeRateLimitRequestCategory (value : String) : String :=
  (safeAmong py py.lower safeRateLimitRequestCategories value).getD "unknown"

def safeReconciliationStatus (value : String) : Option String :=
  safeAmong py py.upper safeReconciliationStatuses value

def safeReconciliationSeverity (value : String) : String :=
  (safeAmong py py.upper safeReconciliationSeverities value).getD "WARNING"

/-! ### Alerts -/

def buildEmergencyStopAlert (scope : String) : ExternalAlertEvent where
  severity := "critical"
  title := "Emergency stop enabled"
  message := "New trading, copy trading, and strategy execution are blocked."
  metadata :=
    [("component", "kill_switch"), ("scope", safeEmergencyStopScope py scope),
      ("new_orders_blocked", "true")]

def buildOrderFailureAlert (status failureType : String) : Option ExternalAlertEvent :=
  (safeOrderFailureStatus py status).map fun safeStatus =>
    { severity := if safeStatus = "FAILED" ∨ safeStatus = "TIMEOUT" then "critical" else "warning"
      title := "Order execution failed"
      message := "An order execution reached a failed terminal state."
      metadata :=
        [("component", "order_execution"), ("status", safeStatus),
          ("failure_type", safeOrderFailureType py failureType)] }

def buildRateLimitAlert (exchangeName scope requestCategory : String) (retryAfterSeconds : Int) :
    ExternalAlertEvent where
  severity := "warning"
  title := "Rate limit protection triggered"
  message := "Runtime rate-limit protection blocked an outbound exchange request."
  metadata :=
    [("component", "rate_limit"), ("exchange", safeExchangeName py exchangeName),
      ("scope", safeRateLimitScope py scope),
      ("request_category", safeRateLimitRequestCategory py requestCategory),
      ("retry_after_seconds", toString (max 1 (min retryAfterSeconds 3600)))]

def buildReconciliationDriftAlert (status severity : String) (differenceCount : Int) :
    Option ExternalAlertEvent :=
  (safeReconciliationStatus py status).map fun safeStatus =>
    let safeSeverity := safeReconciliationSeverity py severity
    { severity := if safeSeverity = "CRITICAL" then "critical" else "warning"
      title := "Position reconciliation drift detected"
      message := "Position reconciliation detected drift that requires operator review."
      metadata :=
        [("component", "position_reconciliation"), ("status", safeStatus),
          ("severity", safeSeverity),
          ("difference_count", toString (max 0 (min differenceCount 1000))),
          ("auto_fix_allowed", "false")] }

/-! ### Dispatching -/

/-- `event.metadata[name]`, of a name the alert has. -/
def ExternalAlertEvent.field (event : ExternalAlertEvent) (name : String) : String :=
  (event.metadata.lookup name).getD ""

/-- What a dispatch returns or raises, with the dispatch state it leaves. -/
abbrev Dispatch := Except String (List ExternalAlertDeliveryResult) × DispatchState

/-- The common end of the `maybe_send` functions. -/
def dispatchAlert (config : ExternalAlertConfig) (transports : ExternalAlertTransports)
    (event : ExternalAlertEvent) (key : String) (nowSeconds throttleSeconds : Int)
    (state : DispatchState) : Dispatch :=
  if isThrottled state key nowSeconds throttleSeconds then (.ok [], state)
  else match sendExternalAlert py config event transports with
    | .error raised => (.error raised, state)
    | .ok results => (.ok results, Function.update state key (some nowSeconds))

def emergencyStopAlertKey (event : ExternalAlertEvent) : String :=
  "emergency_stop:" ++ event.field "scope"

def orderFailureAlertKey (event : ExternalAlertEvent) : String :=
  "order_failure:" ++ event.field "status" ++ ":" ++ event.field "failure_type"

def rateLimitAlertKey (event : ExternalAlertEvent) : String :=
  ":".intercalate
    ["rate_limit", event.field "exchange", event.field "scope", event.field "request_category"]

def reconciliationDriftAlertKey (event : ExternalAlertEvent) : String :=
  "reconciliation_drift:" ++ event.field "severity"

def maybeSendEmergencyStopAlert (scope : String) (config : ExternalAlertConfig)
    (transports : ExternalAlertTransports) (nowSeconds : Int) (state : DispatchState)
    (throttleSeconds : Int := defaultAlertThrottleSeconds) : Dispatch :=
  let event := buildEmergencyStopAlert py scope
  dispatchAlert py config transports event (emergencyStopAlertKey event) nowSeconds throttleSeconds
    state

def maybeSendOrderFailureAlert (status failureType : String) (config : ExternalAlertConfig)
    (transports : ExternalAlertTransports) (nowSeconds : Int) (state : DispatchState)
    (throttleSeconds : Int := defaultAlertThrottleSeconds) : Dispatch :=
  match buildOrderFailureAlert py status failureType with
  | none => (.ok [], state)
  | some event =>
    dispatchAlert py config transports event (orderFailureAlertKey event) nowSeconds
      throttleSeconds state

def maybeSendRateLimitAlert (exchangeName scope requestCategory : String) (retryAfterSeconds : Int)
    (config : ExternalAlertConfig) (transports : ExternalAlertTransports) (nowSeconds : Int)
    (state : DispatchState) (throttleSeconds : Int := defaultAlertThrottleSeconds) : Dispatch :=
  let event := buildRateLimitAlert py exchangeName scope requestCategory retryAfterSeconds
  dispatchAlert py config transports event (rateLimitAlertKey event) nowSeconds throttleSeconds state

def maybeSendReconciliationDriftAlert (status severity : String) (differenceCount : Int)
    (config : ExternalAlertConfig) (transports : ExternalAlertTransports) (nowSeconds : Int)
    (state : DispatchState) (throttleSeconds : Int := defaultAlertThrottleSeconds) : Dispatch :=
  match buildReconciliationDriftAlert py status severity differenceCount with
  | none => (.ok [], state)
  | some event =>
    dispatchAlert py config transports event (reconciliationDriftAlertKey event) nowSeconds
      throttleSeconds state

/-! ### The runtime -/

/-- A runtime's configuration and its dispatch state. -/
structure OperationalAlertRuntime where
  config : ExternalAlertConfig
  dispatchState : DispatchState := fun _ => none

inductive AlertNotification where
  | emergencyStopEnabled (scope : String)
  | orderFailure (status failureType : String)
  | rateLimit (exchangeName scope requestCategory : String) (retryAfterSeconds : Int)
  | reconciliationDrift (status severity : String) (differenceCount : Int)
  deriving DecidableEq, Repr

/-- `except Exception: return ()`. -/
def OperationalAlertRuntime.swallow (runtime : OperationalAlertRuntime) (dispatch : Dispatch) :
    List ExternalAlertDeliveryResult × OperationalAlertRuntime :=
  let results := match dispatch.1 with
    | .ok results => results
    | .error _ => []
  (results, { runtime with dispatchState := dispatch.2 })

/-- The `notify` method of a notification, at a time. -/
def OperationalAlertRuntime.notify (runtime : OperationalAlertRuntime)
    (transports : ExternalAlertTransports) (nowSeconds : Int) :
    AlertNotification → List ExternalAlertDeliveryResult × OperationalAlertRuntime
  | .emergencyStopEnabled scope =>
      runtime.swallow
        (maybeSendEmergencyStopAlert py scope runtime.config transports nowSeconds
          runtime.dispatchState)
  | .orderFailure status failureType =>
      runtime.swallow
        (maybeSendOrderFailureAlert py status failureType runtime.config transports nowSeconds
          runtime.dispatchState)
  | .rateLimit exchangeName scope requestCategory retryAfterSeconds =>
      runtime.swallow
        (maybeSendRateLimitAlert py exchangeName scope requestCategory retryAfterSeconds
          runtime.config transports nowSeconds runtime.dispatchState)
  | .reconciliationDrift status severity differenceCount =>
      runtime.swallow
        (maybeSendReconciliationDriftAlert py status severity differenceCount runtime.config
          transports nowSeconds runtime.dispatchState)

/-- The alert of a notification with its key, when there is one. -/
def AlertNotification.alert : AlertNotification → Option (ExternalAlertEvent × String)
  | .emergencyStopEnabled scope =>
      let event := buildEmergencyStopAlert py scope
      some (event, emergencyStopAlertKey event)
  | .orderFailure status failureType =>
      (buildOrderFailureAlert py status failureType).map fun event =>
        (event, orderFailureAlertKey event)
  | .rateLimit exchangeName scope requestCategory retryAfterSeconds =>
      let event := buildRateLimitAlert py exchangeName scope requestCategory retryAfterSeconds
      some (event, rateLimitAlertKey event)
  | .reconciliationDrift status severity differenceCount =>
      (buildReconciliationDriftAlert py status severity differenceCount).map fun event =>
        (event, reconciliationDriftAlertKey event)

end

variable {py : Platform}

/-- Whatever is notified, the runtime dispatches the alert of the notification. -/
theorem OperationalAlertRuntime.notify_eq (runtime : OperationalAlertRuntime)
    (transports : ExternalAlertTransports) (nowSeconds : Int) (notification : AlertNotification) :
    runtime.notify py transports nowSeconds notification =
      runtime.swallow
        (match notification.alert py with
        | none => (.ok [], runtime.dispatchState)
        | some (event, key) =>
          dispatchAlert py runtime.config transports event key nowSeconds
            defaultAlertThrottleSeconds runtime.dispatchState) := by
  cases notification with
  | emergencyStopEnabled scope => rfl
  | orderFailure status failureType =>
    unfold OperationalAlertRuntime.notify AlertNotification.alert maybeSendOrderFailureAlert
    dsimp only
    cases buildOrderFailureAlert py status failureType with
    | none => rfl
    | some event => rfl
  | rateLimit exchangeName scope requestCategory retryAfterSeconds => rfl
  | reconciliationDrift status severity differenceCount =>
    unfold OperationalAlertRuntime.notify AlertNotification.alert maybeSendReconciliationDriftAlert
    dsimp only
    cases buildReconciliationDriftAlert py status severity differenceCount with
    | none => rfl
    | some event => rfl

end CopyTrading
