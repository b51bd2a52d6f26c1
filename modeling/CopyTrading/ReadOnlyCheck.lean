import CopyTrading.HttpClient

/-!
Read-only authentication checks: the balances of an account are read with its stored
credentials, and the audit trail records whether that worked.
-/

namespace CopyTrading

open Transaction

/-! ### Adapters -/

/-- One entry of `_normalize_balances`; a missing field is `None`. -/
structure NormalizedBalance where
  exchange : String
  asset : Json
  free : Json
  locked : Json
  total : Json
  raw : Json

/-- The comprehension over the entries of an iterable. -/
def forEach {α : Type} (body : Json → Except Exc α) (value : Json) : Except Exc (List α) := do
  let items ← iterate value
  items.mapM body

/-- A balance from the fields an exchange names. -/
def balanceOf (exchangeName : ExchangeName) (asset free locked : String) (total : Option String)
    (raw : Json) : Except Exc NormalizedBalance := do
  let assetValue ← getDefault raw asset .null
  let freeValue ← getDefault raw free .null
  let lockedValue ← getDefault raw locked .null
  let totalValue ← match total with
    | some name => getDefault raw name .null
    | none => pure .null
  return { exchange := exchangeName.value, asset := assetValue, free := freeValue
           locked := lockedValue, total := totalValue, raw }

def binanceBalances (response : Json) : Except Exc (List NormalizedBalance) := do
  let balances ← getDefault response "balances" (.arr [])
  forEach (balanceOf .binance "asset" "free" "locked" none) balances

def okxBalances (response : Json) : Except Exc (List NormalizedBalance) := do
  let data ← getDefault response "data" (.arr [])
  let balances ← forEach (fun account => do
    let details ← getDefault account "details" (.arr [])
    forEach (balanceOf .okx "ccy" "availBal" "frozenBal" (some "cashBal")) details) data
  return balances.flatten

def bybitBalances (response : Json) : Except Exc (List NormalizedBalance) := do
  let result ← getDefault response "result" (.obj [])
  let accounts ← getDefault result "list" (.arr [])
  let balances ← forEach (fun account => do
    let coins ← getDefault account "coin" (.arr [])
    forEach (balanceOf .bybit "coin" "walletBalance" "locked" (some "walletBalance")) coins)
    accounts
  return balances.flatten

/-- `_normalize_balances` of the exchange's adapter. -/
def normalizeBalances : ExchangeName → Json → Except Exc (List NormalizedBalance)
  | .binance => binanceBalances
  | .okx => okxBalances
  | .bybit => bybitBalances
  | .mock => fun _ => .ok []

def balancesPath : ExchangeName → String
  | .binance => "/api/v3/account"
  | .bybit => "/v5/account/wallet-balance"
  | .okx => "/api/v5/account/balance"
  | .mock => ""

def balancesParams : ExchangeName → List (String × String)
  | .bybit => [("accountType", "UNIFIED")]
  | _ => []

/-- A `ReadOnlyTestnetAdapter` whose adapters are enabled and whose credentials are there. -/
structure ReadOnlyTestnetAdapter where
  exchangeName : ExchangeName
  httpClient : SignedExchangeHttpClient
  credentials : ExchangeCredentials
  privateSecurityType : ExchangeSecurityType

/-- The demo flag matters to OKX alone. -/
def createExchangeAdapter (exchangeName : ExchangeName) (httpClient : SignedExchangeHttpClient)
    (credentials : ExchangeCredentials) (okxDemoTrading : Bool := true) : ReadOnlyTestnetAdapter where
  exchangeName := exchangeName
  httpClient := httpClient
  credentials := credentials
  privateSecurityType :=
    if exchangeName = .okx ∧ okxDemoTrading = true then .okxDemoSigned else .signed

def ReadOnlyTestnetAdapter.getBalances (py : Platform) (adapter : ReadOnlyTestnetAdapter) :
    Service (List NormalizedBalance) := do
  let response ← adapter.httpClient.getPrivate py (balancesPath adapter.exchangeName)
    adapter.credentials (balancesParams adapter.exchangeName) adapter.privateSecurityType
  Handler.ofExcept (normalizeBalances adapter.exchangeName response)

/-! ### The audit row -/

/-- What a check records about the account it looked at. -/
structure AuthenticationAudit where
  action : String
  exchangeName : ExchangeName
  authenticated : Bool
  accountMode : Option AccountMode := none
  reasons : List String := []
  balanceAssetCount : Option Nat := none
  failureType : Option String := none
  exchangeCode : Option String := none

/-- A payload entry that is written when there is a value. -/
def payloadEntry (key : String) : Option Json → List (String × Json)
  | none => []
  | some value => [(key, value)]

def AuthenticationAudit.payload (audit : AuthenticationAudit) : List (String × Json) :=
  [("exchange_name", .str audit.exchangeName.value), ("authenticated", .bool audit.authenticated)] ++
    payloadEntry "account_mode" (audit.accountMode.map fun mode => .str mode.value) ++
    (if audit.reasons = [] then [] else [("reasons", .arr (audit.reasons.map .str))]) ++
    payloadEntry "balance_asset_count" (audit.balanceAssetCount.map fun count => .int count) ++
    payloadEntry "failure_type" (audit.failureType.map .str) ++
    payloadEntry "exchange_code" (audit.exchangeCode.map .str)

/-- The row `_write_audit` adds. -/
def authenticationLog (userId exchangeAccountId : String) (audit : AuthenticationAudit)
    (id : String) (createdAt : Instant) : AuditLog where
  id := id
  userId := userId
  exchangeAccountId := some exchangeAccountId
  action := audit.action
  severity := if audit.authenticated then "INFO" else "WARNING"
  payload := audit.payload
  createdAt := createdAt

def writeAuthenticationAudit (userId exchangeAccountId : String) (audit : AuthenticationAudit) :
    Service Unit := do
  let id ← ask .newUuid
  let createdAt ← ask .utcNow
  Session.add fun work =>
    { work with
      auditLogs :=
        work.auditLogs ++ [authenticationLog userId exchangeAccountId audit id createdAt] }
  Session.commit

structure ReadOnlyCheckResult where
  exchangeAccountId : String
  exchangeName : ExchangeName
  authenticated : Bool
  balanceAssetCount : Nat

/-- The attributes of the account are loaded again after the audit row was committed. -/
def authenticatedResult (accountId : String) (balances : List NormalizedBalance) :
    Service ReadOnlyCheckResult := do
  let account ← Session.account accountId
  return { exchangeAccountId := account.id, exchangeName := account.exchangeName
           authenticated := true, balanceAssetCount := balances.length }

/-! ### The testnet check -/

def testnetCheckAction : String := "testnet.read_only.authentication.checked"

def testnetCheckReasons (account : ExchangeAccount) (testnetAdaptersEnabled : Bool)
    (credentials : Option ExchangeCredentials) : List String :=
  (if account.isActive then [] else ["exchange account must be active"]) ++
  (if account.accountMode = .testnet then [] else ["account mode must be TESTNET"]) ++
  (if account.exchangeName = .mock then
    ["mock exchange does not support testnet authentication"] else []) ++
  (if account.tradingEnabled then
    ["trading must remain disabled during read-only checks"] else []) ++
  (if testnetAdaptersEnabled then [] else ["testnet adapters must be explicitly enabled"]) ++
  (if credentials.isSome then [] else ["testnet API credentials must be configured"])

def runTestnetReadOnlyCheck (py : Platform) (userId exchangeAccountId : String)
    (testnetAdaptersEnabled : Bool) : Service ReadOnlyCheckResult := do
  match ← getOwnedAccount userId exchangeAccountId with
  | none => throw (.valueError "account not found")
  | some account =>
    let credentials ← getExchangeCredentials py userId account.id
    let reasons := testnetCheckReasons account testnetAdaptersEnabled credentials
    match reasons, credentials with
    | [], some credentials =>
      let client ← createTestnetSignedHttpClient account.exchangeName
      let balances ← tryCatch
        ((createExchangeAdapter account.exchangeName client credentials).getBalances py)
        fun _ => do
          writeAuthenticationAudit userId account.id
            { action := testnetCheckAction, exchangeName := account.exchangeName
              authenticated := false, reasons := ["exchange authentication failed"] }
          throw (.readOnlyAuthentication none none)
      writeAuthenticationAudit userId account.id
        { action := testnetCheckAction, exchangeName := account.exchangeName
          authenticated := true, balanceAssetCount := some balances.length }
      authenticatedResult account.id balances
    | _, _ =>
      writeAuthenticationAudit userId account.id
        { action := testnetCheckAction, exchangeName := account.exchangeName
          authenticated := false, reasons }
      throw (.readOnlyCheckBlocked reasons)

/-! ### The production check -/

def realCheckAction : String := "real.read_only.authentication.checked"

def realCheckReasons (account : ExchangeAccount) (credentials : Option ExchangeCredentials) :
    List String :=
  (if account.isActive then [] else ["exchange account must be active"]) ++
  (if account.accountMode = .real then [] else ["account mode must be REAL"]) ++
  (if account.exchangeName = .okx then []
    else ["only OKX production read-only authentication is enabled"]) ++
  (if account.tradingEnabled then
    ["trading must remain disabled during production read-only checks"] else []) ++
  (if credentials.isSome then [] else ["production API credentials must be configured"])

/-- The two `except` clauses around `get_balances`. -/
def realCheckFailure : Exc → Option String × Option String
  | .exchangeHttpRequest failureType _ exchangeCode => (some failureType, exchangeCode)
  | _ => (some "unexpected_error", none)

def runRealReadOnlyCheck (py : Platform) (userId exchangeAccountId : String) :
    Service ReadOnlyCheckResult := do
  match ← getOwnedAccount userId exchangeAccountId with
  | none => throw (.valueError "account not found")
  | some account =>
    let credentials ← getExchangeCredentials py userId account.id
    let reasons := realCheckReasons account credentials
    match reasons, credentials with
    | [], some credentials =>
      let client : SignedExchangeHttpClient :=
        { exchangeName := .okx, restBaseUrl := "https://www.okx.com" }
      let balances ← tryCatch
        ((createExchangeAdapter account.exchangeName client credentials false).getBalances py)
        fun raised => do
          let (failureType, exchangeCode) := realCheckFailure raised
          writeAuthenticationAudit userId account.id
            { action := realCheckAction, exchangeName := account.exchangeName
              authenticated := false, accountMode := some .real
              reasons := ["exchange authentication failed"], failureType, exchangeCode }
          throw (.readOnlyAuthentication failureType exchangeCode)
      writeAuthenticationAudit userId account.id
        { action := realCheckAction, exchangeName := account.exchangeName, authenticated := true
          accountMode := some .real, balanceAssetCount := some balances.length }
      authenticatedResult account.id balances
    | _, _ =>
      writeAuthenticationAudit userId account.id
        { action := realCheckAction, exchangeName := account.exchangeName, authenticated := false
          accountMode := some .real, reasons }
      throw (.readOnlyCheckBlocked reasons)

end CopyTrading
