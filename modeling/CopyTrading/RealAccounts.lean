import CopyTrading.ReadOnlyCheck

/-!
Reading production accounts: the balances and the open orders of an OKX account whose trading is
disabled. Nothing else of a production exchange is asked for.
-/

namespace CopyTrading

open Transaction

/-! ### Outcomes -/

/-- `RealBalancesBlockedError`, `RealBalancesAuthenticationError` and those of the open orders. -/
inductive RealReadError where
  | blocked (reasons : List String)
  | authentication (failureType : String) (exchangeCode : Option String)

structure RealBalance where
  asset : String
  free : Option String
  locked : Option String
  total : Option String

structure RealBalancesResult where
  exchangeAccountId : String
  exchangeName : ExchangeName
  balances : List RealBalance

structure RealOpenOrdersResult where
  exchangeAccountId : String
  exchangeName : ExchangeName
  orders : List (List (String × Json))

/-! ### The checks before a read -/

/-- What a read shows, as its reasons name it. -/
structure RealReadKind where
  /-- "only OKX production … are enabled". -/
  shown : String
  /-- "trading must remain disabled for … display". -/
  display : String
  action : String
  /-- The payload entry that counts what was loaded. -/
  countKey : String

def realBalancesKind : RealReadKind where
  shown := "balances"
  display := "balance"
  action := "real.read_only.balances.loaded"
  countKey := "asset_count"

def realOpenOrdersKind : RealReadKind where
  shown := "open orders"
  display := "order"
  action := "real.read_only.open_orders.loaded"
  countKey := "order_count"

def realReadReasons (kind : RealReadKind) (account : ExchangeAccount)
    (credentials : Option ExchangeCredentials) : List String :=
  (if account.isActive then [] else ["exchange account must be active"]) ++
  (if account.accountMode = .real then [] else ["account mode must be REAL"]) ++
  (if account.exchangeName = .okx then []
    else ["only OKX production " ++ kind.shown ++ " are enabled"]) ++
  (if account.tradingEnabled then
    ["trading must remain disabled for " ++ kind.display ++ " display"] else []) ++
  (if credentials.isSome then [] else ["production API credentials must be configured"])

/-! ### The audit row -/

structure RealReadAudit where
  exchangeName : ExchangeName
  loaded : Bool
  count : Option Nat := none
  failureType : Option String := none
  exchangeCode : Option String := none

def RealReadAudit.payload (kind : RealReadKind) (audit : RealReadAudit) : List (String × Json) :=
  [("exchange_name", .str audit.exchangeName.value),
    ("account_mode", .str AccountMode.real.value), ("read_only", .bool true),
    ("loaded", .bool audit.loaded)] ++
    payloadEntry kind.countKey (audit.count.map fun count => .int count) ++
    payloadEntry "failure_type" (audit.failureType.map .str) ++
    payloadEntry "exchange_code" (audit.exchangeCode.map .str)

/-- The row `_write_audit` adds. -/
def realReadLog (kind : RealReadKind) (userId exchangeAccountId : String) (audit : RealReadAudit)
    (id : String) (createdAt : Instant) : AuditLog where
  id := id
  userId := userId
  exchangeAccountId := some exchangeAccountId
  action := kind.action
  severity := if audit.loaded then "INFO" else "WARNING"
  payload := audit.payload kind
  createdAt := createdAt

def writeRealReadAudit (kind : RealReadKind) (userId exchangeAccountId : String)
    (audit : RealReadAudit) : Service Unit := do
  let id ← ask .newUuid
  let createdAt ← ask .utcNow
  Session.add fun work =>
    { work with
      auditLogs := work.auditLogs ++ [realReadLog kind userId exchangeAccountId audit id createdAt] }
  Session.commit

/-! ### Reading -/

/-- The two `except` clauses around what is asked of the exchange. -/
def realReadFailure : Exc → String × Option String
  | .exchangeHttpRequest failureType _ exchangeCode => (failureType, exchangeCode)
  | _ => ("unexpected_error", none)

/-- What both reads do around the request: refuse, ask the production exchange, and record whether
that worked. The attributes of the account are loaded again after the audit row was committed. -/
def readRealAccount {α : Type} (py : Platform) (kind : RealReadKind)
    (read : ReadOnlyTestnetAdapter → Service (List α)) (userId exchangeAccountId : String) :
    Service (Except RealReadError (ExchangeAccount × List α)) := do
  match ← getOwnedAccount userId exchangeAccountId with
  | none => return .error (.blocked ["account not found"])
  | some account =>
    let credentials ← getExchangeCredentials py userId account.id
    let reasons := realReadReasons kind account credentials
    match reasons, credentials with
    | [], some credentials =>
      let client : SignedExchangeHttpClient :=
        { exchangeName := .okx, restBaseUrl := "https://www.okx.com" }
      let adapter := createExchangeAdapter .okx client credentials false
      let outcome ← tryCatch (Except.ok <$> read adapter) fun raised => return .error raised
      match outcome with
      | .error raised =>
        let (failureType, exchangeCode) := realReadFailure raised
        writeRealReadAudit kind userId account.id
          { exchangeName := account.exchangeName, loaded := false
            failureType := some failureType, exchangeCode }
        return .error (.authentication failureType exchangeCode)
      | .ok items =>
        writeRealReadAudit kind userId account.id
          { exchangeName := account.exchangeName, loaded := true, count := some items.length }
        let reloaded ← Session.account account.id
        return .ok (reloaded, items)
    | _, _ => return .error (.blocked reasons)

/-! ### Balances -/

/-- `_optional_text`, which keeps blanks. -/
def optionalStr (py : Platform) : Json → Option String
  | .null => none
  | value => some (py.strOf value)

/-- `_sanitize_balance`. -/
def sanitizeBalance (py : Platform) (item : NormalizedBalance) : Except Exc RealBalance :=
  match item.asset with
  | .str asset =>
    if py.strip asset = "" then .error (.valueError "exchange balance asset is missing")
    else .ok { asset := py.upper (py.strip asset), free := optionalStr py item.free
               locked := optionalStr py item.locked, total := optionalStr py item.total }
  | _ => .error (.valueError "exchange balance asset is missing")

def sanitizedBalances (py : Platform) (adapter : ReadOnlyTestnetAdapter) :
    Service (List RealBalance) := do
  let balances ← adapter.getBalances py
  Handler.ofExcept (balances.mapM (sanitizeBalance py))

def readRealBalances (py : Platform) (userId exchangeAccountId : String) :
    Service (Except RealReadError RealBalancesResult) := do
  let outcome ← readRealAccount py realBalancesKind (sanitizedBalances py) userId exchangeAccountId
  return outcome.map fun (account, balances) =>
    { exchangeAccountId := account.id, exchangeName := account.exchangeName, balances }

/-! ### Open orders -/

/-- The fields of an open order, under the names they are shown with. -/
def okxOpenOrderFields : List (String × String) :=
  [("order_id", "ordId"), ("symbol", "instId"), ("side", "side"), ("order_type", "ordType"),
    ("status", "state"), ("price", "px"), ("quantity", "sz"), ("filled_quantity", "accFillSz"),
    ("created_at", "cTime")]

def okxOpenOrder (item : Json) : Except Exc (List (String × Json)) := do
  let fields ← okxOpenOrderFields.mapM fun (shown, named) => do
    let value ← getDefault item named .null
    return (shown, value)
  return ("exchange", .str ExchangeName.okx.value) :: fields

def okxOpenOrders (response : Json) : Except Exc (List (List (String × Json))) := do
  let data ← getDefault response "data" (.arr [])
  forEach okxOpenOrder data

/-- `OKXAdapter.get_open_orders`. -/
def ReadOnlyTestnetAdapter.getOpenOrders (py : Platform) (adapter : ReadOnlyTestnetAdapter) :
    Service (List (List (String × Json))) := do
  let response ← adapter.httpClient.getPrivate py "/api/v5/trade/orders-pending"
    adapter.credentials [("instType", "SPOT")] adapter.privateSecurityType
  Handler.ofExcept (okxOpenOrders response)

def readRealOpenOrders (py : Platform) (userId exchangeAccountId : String) :
    Service (Except RealReadError RealOpenOrdersResult) := do
  let outcome ← readRealAccount py realOpenOrdersKind (·.getOpenOrders py) userId exchangeAccountId
  return outcome.map fun (account, orders) =>
    { exchangeAccountId := account.id, exchangeName := account.exchangeName, orders }

end CopyTrading
