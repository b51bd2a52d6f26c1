import Mathlib.Data.Rat.Floor
import CopyTrading.FixedWindow
import CopyTrading.Models

/-!
The runtime rate limiter of testnet orders, on the in-memory window store. Clock readings
are exact numbers of seconds.
-/

namespace CopyTrading

open FixedWindow

/-! ### Configured rules -/

inductive RateLimitScope where
  | ip | account | userId | connection | dynamic
  deriving DecidableEq, Repr

structure RateLimitRule where
  name : String
  scope : RateLimitScope
  limit : Option Nat
  intervalSeconds : Option Nat
  appliesTo : List String

/-- The rules of `EXCHANGE_RATE_LIMITS`. -/
def exchangeRateLimits : ExchangeName → Option (List RateLimitRule)
  | .binance => some
      [⟨"REQUEST_WEIGHT", .ip, none, none, ["REST", "WebSocket API"]⟩,
        ⟨"RAW_REQUESTS", .ip, some 300000, some 300, ["REST"]⟩,
        ⟨"ORDERS", .account, none, none, ["REST", "WebSocket API"]⟩]
  | .bybit => some
      [⟨"HTTP_IP", .ip, some 600, some 5, ["REST"]⟩,
        ⟨"WEBSOCKET_CONNECTIONS", .ip, some 500, some 300, ["WebSocket"]⟩,
        ⟨"MARKET_DATA_CONNECTIONS", .ip, some 1000, none, ["WebSocket market data"]⟩]
  | .okx => some
      [⟨"PUBLIC_REST", .ip, none, none, ["REST public"]⟩,
        ⟨"PRIVATE_REST", .userId, none, none, ["REST private"]⟩,
        ⟨"ORDER_MANAGEMENT", .userId, none, none, ["REST order", "WebSocket order"]⟩]
  | .mock => none

structure RuntimeRateLimitRule where
  name : String
  scope : RateLimitScope
  limit : Nat
  intervalSeconds : Nat
  deriving DecidableEq

def accountSafetyRule : RuntimeRateLimitRule := ⟨"TESTNET_ORDER_ACCOUNT_SAFETY", .account, 1, 1⟩

/-- A rule without a limit or an interval, or not for REST requests, is skipped. -/
def RateLimitRule.runtime (rule : RateLimitRule) : Option RuntimeRateLimitRule := do
  let limit ← rule.limit
  let intervalSeconds ← rule.intervalSeconds
  if rule.appliesTo.contains "REST" then some ⟨rule.name, rule.scope, limit, intervalSeconds⟩
  else none

/-- An exchange that is not configured is a missing key of the table. -/
def testnetOrderRules (exchangeName : ExchangeName) : Except Exc (List RuntimeRateLimitRule) :=
  match exchangeRateLimits exchangeName with
  | none => .error .keyError
  | some rules => .ok (accountSafetyRule :: rules.filterMap RateLimitRule.runtime)

abbrev RateLimitKey := String × String × String

def rateLimitKey (rule : RuntimeRateLimitRule) (exchangeName : ExchangeName)
    (exchangeAccountId requestPath : String) : RateLimitKey :=
  let scopeKey := if rule.scope = .ip then "global" else exchangeAccountId
  (exchangeName.value, rule.name, scopeKey ++ ":" ++ requestPath)

/-! ### The window store -/

abbrev InMemoryRateLimitWindowStore := Store RateLimitKey ℚ

structure RateLimitWindow where
  count : Nat
  retryAfterSeconds : Nat

/-- `int(value)` drops the fraction. -/
def truncate (value : ℚ) : Int := if 0 ≤ value then ⌊value⌋ else ⌈value⌉

def retryAfterSeconds (now startedAt : ℚ) (intervalSeconds : Nat) : Nat :=
  (max 1 ((intervalSeconds : Int) - truncate (now - startedAt))).toNat

def acquireWindow (store : InMemoryRateLimitWindowStore) (key : RateLimitKey)
    (intervalSeconds : Nat) (now : ℚ) : RateLimitWindow × InMemoryRateLimitWindowStore :=
  let window := store.counted key intervalSeconds now
  ({ count := window.count
     retryAfterSeconds := retryAfterSeconds now window.startedAt intervalSeconds },
    store.acquire key intervalSeconds now)

/-! ### The service -/

structure RateLimitAlert where
  exchangeName : String
  scope : String
  requestCategory : String
  retryAfterSeconds : Nat

/-- `alerts` are the notifications the alert runtime, where there is one, has been sent. -/
structure RuntimeRateLimitService where
  store : InMemoryRateLimitWindowStore := {}
  alertRuntime : Bool := false
  alerts : List RateLimitAlert := []

def safeAlertScope : RateLimitScope → String
  | .ip => "ip"
  | .account => "account"
  | _ => "global"

namespace RuntimeRateLimitService

def notifyRateLimitBlocked (service : RuntimeRateLimitService) (exchangeName : ExchangeName)
    (rule : RuntimeRateLimitRule) (retryAfterSeconds : Nat) : RuntimeRateLimitService :=
  if service.alertRuntime then
    { service with
      alerts := service.alerts ++
        [⟨exchangeName.value, safeAlertScope rule.scope, "order", retryAfterSeconds⟩] }
  else service

/-- The loop over the rules and their keys: the first one that is over its limit raises, and
what has been counted stays counted. -/
def acquireRules (exchangeName : ExchangeName) (now : ℚ) :
    List (RuntimeRateLimitRule × RateLimitKey) → RuntimeRateLimitService →
      Except Exc Unit × RuntimeRateLimitService
  | [], service => (.ok (), service)
  | (rule, key) :: rest, service =>
      let (window, store) := acquireWindow service.store key rule.intervalSeconds now
      let service := { service with store }
      if rule.limit < window.count then
        (.error (.rateLimitExceeded rule.name window.retryAfterSeconds),
          service.notifyRateLimitBlocked exchangeName rule window.retryAfterSeconds)
      else acquireRules exchangeName now rest service

def acquireTestnetOrder (service : RuntimeRateLimitService) (exchangeName : ExchangeName)
    (exchangeAccountId requestPath : String) (now : ℚ) :
    Except Exc Unit × RuntimeRateLimitService :=
  match testnetOrderRules exchangeName with
  | .error raised => (.error raised, service)
  | .ok rules =>
      let keyed := rules.map fun rule =>
        (rule, rateLimitKey rule exchangeName exchangeAccountId requestPath)
      service.acquireRules exchangeName now keyed

end RuntimeRateLimitService

end CopyTrading
