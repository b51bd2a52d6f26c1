import CopyTrading.ExchangeAccounts
import CopyTrading.PositionEngine

/-!
Requests of a user on an account: its API keys, which are stored encrypted, and the preview of a
target position.
-/

namespace CopyTrading

open Transaction DecimalArith

/-! ### API keys -/

/-- What `encrypt_secret` makes of a secret, by the number of the call: a token carries the time
and random bytes, so that no two calls need to agree. -/
abbrev Encryption := Nat → String → String

/-- A request the schema admits. -/
structure ApiKeySecretUpsert where
  apiKey : String
  apiSecret : String
  passphrase : Option String := none
  apiKey_length : 1 ≤ apiKey.length ∧ apiKey.length ≤ 256
  apiSecret_length : 1 ≤ apiSecret.length ∧ apiSecret.length ≤ 256
  passphrase_length : ∀ value ∈ passphrase, value.length ≤ 256

structure ApiKeySecretMetadata where
  exchangeAccountId : String
  configured : Bool
  hasPassphrase : Bool
  warning : String := "Disable withdrawal permission on this exchange API key."
  deriving DecidableEq

/-- `db.refresh(secret)`: load the row by its key. -/
def refreshApiKeySecret (exchangeAccountId : String) : Service ApiKeySecret := do
  match ← Session.query (·.secrets.find? (·.exchangeAccountId = exchangeAccountId)) with
  | none => throw .objectDeleted
  | some row => return row

/-- The attributes that differ from the stored ones are written. -/
def rekeyed (secret : ApiKeySecret) (encryptedApiKey encryptedApiSecret : String)
    (encryptedPassphrase : Option String) : Instance ApiKeySecret where
  loaded := secret
  change :=
    { encryptedApiKey := Session.dirtyColumn secret.encryptedApiKey (some encryptedApiKey)
      encryptedApiSecret := Session.dirtyColumn secret.encryptedApiSecret (some encryptedApiSecret)
      encryptedPassphrase :=
        Session.dirtyColumn secret.encryptedPassphrase (some encryptedPassphrase) }

/-- The key is looked up by its account alone, whoever it belongs to. An empty passphrase is none.
The database refuses a token that does not fit its column. -/
def upsertApiKeySecret (encrypt : Encryption) (userId exchangeAccountId apiKey apiSecret : String)
    (passphrase : Option String) : Service ApiKeySecret := do
  let found ← Session.query (·.secrets.find? (·.exchangeAccountId = exchangeAccountId))
  let encryptedPassphrase := (passphrase.filter (· ≠ "")).map (encrypt 0)
  let encryptedApiKey := encrypt 1 apiKey
  let encryptedApiSecret := encrypt 2 apiSecret
  Handler.raiseIf (512 < encryptedApiKey.length ∨ 512 < encryptedApiSecret.length ∨
    encryptedPassphrase.any (512 < ·.length)) .dataError
  Session.add fun work =>
    match found with
    | none =>
      { work with
        secrets := work.secrets ++
          [{ userId, exchangeAccountId, encryptedApiKey, encryptedApiSecret, encryptedPassphrase }] }
    | some secret =>
      { work with
        secretChanges := work.secretChanges ++
          [rekeyed secret encryptedApiKey encryptedApiSecret encryptedPassphrase] }
  Session.commit
  refreshApiKeySecret exchangeAccountId

def deleteApiKeySecret (secret : ApiKeySecret) : Service Unit := do
  Session.add fun work =>
    { work with deletedSecrets := work.deletedSecrets ++ [secret.exchangeAccountId] }
  Session.commit

def setApiKey (encrypt : Encryption) (userId accountId : String) (payload : ApiKeySecretUpsert) :
    Service ApiKeySecretMetadata := do
  match ← getOwnedAccount userId accountId with
  | none => throw accountNotFound
  | some account =>
    let secret ← upsertApiKeySecret encrypt userId account.id payload.apiKey payload.apiSecret
      payload.passphrase
    -- the commit has expired the account
    let account ← Session.account account.id
    return { exchangeAccountId := account.id, configured := true
             hasPassphrase := secret.encryptedPassphrase.isSome }

def readApiKeyMetadata (userId accountId : String) : Service ApiKeySecretMetadata := do
  match ← getOwnedAccount userId accountId with
  | none => throw accountNotFound
  | some account =>
    let secret ← getApiKeySecretMetadata userId account.id
    return { exchangeAccountId := account.id, configured := secret.isSome
             hasPassphrase := secret.any (·.encryptedPassphrase.isSome) }

def removeApiKey (userId accountId : String) : Service Unit := do
  match ← getOwnedAccount userId accountId with
  | none => throw accountNotFound
  | some account =>
    match ← getApiKeySecretMetadata userId account.id with
    | none => throw (.httpException 404 (.text "api key not found"))
    | some secret => deleteApiKeySecret secret

/-! ### Previewing a position -/

/-- A missing position is added, although nothing is traded. -/
def previewPositionTarget (py : Platform) (userId accountId symbol : String)
    (targetQuantity : Decimal) : Service PositionDelta := do
  match ← getOwnedAccount userId accountId with
  | none => throw accountNotFound
  | some account =>
    let position ← getOrCreatePosition userId account.id (py.upper symbol)
    return calculateDelta position.symbol position.quantity.toDecimal targetQuantity

end CopyTrading
