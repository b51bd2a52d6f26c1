import CopyTrading.Session

/-!
Exchange accounts and their encrypted API keys, with the request handlers that
write them.
-/

namespace CopyTrading

open Transaction

structure ExchangeCredentials where
  apiKey : String
  apiSecret : String
  passphrase : Option String
  deriving DecidableEq

/-- `ExchangeAccountCreate`. -/
structure ExchangeAccountCreate where
  exchangeName : ExchangeName
  accountLabel : String
  accountMode : AccountMode := .simulation
  tradingEnabled : Bool := false

/-- `ExchangeAccountUpdate` with the fields that are set; `None` values are skipped. -/
structure ExchangeAccountUpdate where
  accountLabel : Option String := none
  accountMode : Option AccountMode := none
  tradingEnabled : Option Bool := none
  isActive : Option Bool := none

def createAccount (userId : String) (data : ExchangeAccountCreate) : Service ExchangeAccount := do
  let id ← ask .newUuid
  Session.add fun work =>
    { work with
      accounts := work.accounts ++
        [{ id, userId, exchangeName := data.exchangeName, accountMode := data.accountMode
           accountLabel := data.accountLabel, tradingEnabled := data.tradingEnabled
           isActive := true }] }
  Session.commit
  Session.account id

def getOwnedAccount (userId accountId : String) : Service (Option ExchangeAccount) := do
  match ← Session.query (·.accounts.find? fun row => row.id = accountId ∧ row.userId = userId) with
  | none => return none
  | some row => some <$> Session.holdAccount row

def updateAccount (id : String) (data : ExchangeAccountUpdate) : Service ExchangeAccount := do
  Session.setAccount id fun loaded =>
    { accountMode := Session.dirtyColumn loaded.accountMode data.accountMode
      accountLabel := Session.dirtyColumn loaded.accountLabel data.accountLabel
      tradingEnabled := Session.dirtyColumn loaded.tradingEnabled data.tradingEnabled
      isActive := Session.dirtyColumn loaded.isActive data.isActive }
  Session.commit
  Session.account id

def deleteAccount (id : String) : Service Unit := do
  Session.setAccount id fun loaded =>
    { isActive := Session.dirtyColumn loaded.isActive (some false)
      tradingEnabled := Session.dirtyColumn loaded.tradingEnabled (some false) }
  Session.commit

/-- The stored row of the account's key; a second query within one session hands out the
instance of the first. -/
def getApiKeySecretMetadata (userId exchangeAccountId : String) :
    Service (Option ApiKeySecret) := do
  match ← Session.query (·.secrets.find? fun row =>
      row.userId = userId ∧ row.exchangeAccountId = exchangeAccountId) with
  | none => return none
  | some row =>
    let session ← Handler.session
    match session.secrets.find? (·.loaded.exchangeAccountId = exchangeAccountId) with
    | some held => return some held.current
    | none =>
      Handler.modify fun session => { session with secrets := session.secrets ++ [⟨row, {}⟩] }
      return some row

def decryptSecret (py : Platform) (encrypted : String) : Service String :=
  match py.decryptSecret encrypted with
  | some secret => pure secret
  | none => throw .invalidToken

def getExchangeCredentials (py : Platform) (userId exchangeAccountId : String) :
    Service (Option ExchangeCredentials) := do
  match ← getApiKeySecretMetadata userId exchangeAccountId with
  | none => return none
  | some secret =>
    let passphrase ← match secret.encryptedPassphrase with
      | none => pure none
      | some encrypted => some <$> decryptSecret py encrypted
    let apiKey ← decryptSecret py secret.encryptedApiKey
    let apiSecret ← decryptSecret py secret.encryptedApiSecret
    return some { apiKey, apiSecret, passphrase }

/-! ### Requests -/

def accountNotFound : Exc := .httpException 404 (.text "account not found")

def addAccount (userId : String) (payload : ExchangeAccountCreate) : Service ExchangeAccount :=
  createAccount userId payload

def patchAccount (userId accountId : String) (payload : ExchangeAccountUpdate) :
    Service ExchangeAccount := do
  match ← getOwnedAccount userId accountId with
  | none => throw accountNotFound
  | some account => updateAccount account.id payload

def removeAccount (userId accountId : String) : Service Unit := do
  match ← getOwnedAccount userId accountId with
  | none => throw accountNotFound
  | some account => deleteAccount account.id

end CopyTrading
