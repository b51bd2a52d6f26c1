import CopyTrading.ExchangeAccounts

/-!
Balances and positions from the user stream of a testnet account. The whole event is decoded
and checked before the first row is written.
-/

namespace CopyTrading

open Transaction DecimalArith

inductive TestnetUserStreamEventType where
  | order | balance | position | unknown
  deriving DecidableEq, Repr

structure TestnetUserStreamEvent where
  exchangeName : ExchangeName
  eventType : TestnetUserStreamEventType
  rawPayload : List (String × Json)

inductive TestnetAccountStateSyncStatus where
  | ignored | synced
  deriving DecidableEq, Repr

structure BalanceStateUpdate where
  asset : String
  availableQuantity : Decimal
  lockedQuantity : Decimal
  totalQuantity : Decimal

structure PositionStateUpdate where
  symbol : String
  quantity : Decimal

structure TestnetAccountStateSyncResult where
  status : TestnetAccountStateSyncStatus
  balancesSynced : Nat
  positionsSynced : Nat
  deriving DecidableEq

def syncError (message : String) : Exc := .accountStateSync message

/-! ### Checking values of the payload -/

def objectOf : Json → Option (List (String × Json))
  | .obj fields => some fields
  | _ => none

/-- The objects of a list that holds nothing else. -/
def objectsOf : Json → Option (List (List (String × Json)))
  | .arr items => items.mapM objectOf
  | _ => none

/-- `_dict_list`. -/
def dictList (field : String) (value : Json) : Except Exc (List (List (String × Json))) :=
  match objectsOf value with
  | some objects => .ok objects
  | none => .error (syncError (field ++ " must be a list of objects"))

def isIdentifierChar (py : Platform) (c : Char) : Bool := py.isAlnum c || c == '-' || c == '_'

/-- `_identifier`. -/
def identifierOf (py : Platform) (field : String) : Json → Except Exc String
  | .str value =>
    let normalized := py.upper (py.strip value)
    if normalized = "" ∨ 40 < normalized.length then
      .error (syncError (field ++ " is invalid"))
    else if ¬ normalized.toList.all (isIdentifierChar py) then
      .error (syncError (field ++ " is invalid"))
    else .ok normalized
  | _ => .error (syncError (field ++ " must be a string"))

/-- `_quantity`. -/
def quantityOf (py : Platform) (field : String) (nonnegative : Bool) (value : Json) :
    Except Exc Decimal :=
  match DecimalLiteral.read py (py.strOf value) with
  | none => .error (syncError (field ++ " must be numeric"))
  | some (.finite quantity) =>
    if quantity.exp < -10 then
      .error (syncError (field ++ " exceeds database precision"))
    else if quantity.coeff ≠ 0 ∧ 18 ≤ quantity.adjusted then
      .error (syncError (field ++ " exceeds database precision"))
    else if nonnegative ∧ quantity.coeff < 0 then
      .error (syncError (field ++ " must not be negative"))
    else .ok quantity
  | some _ => .error (syncError (field ++ " must be finite"))

/-- `_require_unique_keys`. -/
def requireUniqueKeys (keys : List String) (label : String) : Except Exc Unit :=
  if keys.Nodup then .ok () else .error (syncError ("event contains duplicate " ++ label))

/-! ### Decoding balances -/

def binanceBalance (py : Platform) (balance : List (String × Json)) :
    Except Exc BalanceStateUpdate := do
  let available ← quantityOf py "free" true (Json.get balance "f")
  let locked ← quantityOf py "locked" true (Json.get balance "l")
  let asset ← identifierOf py "asset" (Json.get balance "a")
  return { asset, availableQuantity := available, lockedQuantity := locked
           totalQuantity := decimalAdd available locked }

def binanceBalanceUpdates (py : Platform) (payload : List (String × Json)) :
    Except Exc (List BalanceStateUpdate) := do
  let balances ← dictList "B" (Json.get payload "B")
  balances.mapM (binanceBalance py)

def bybitBalance (py : Platform) (coin : List (String × Json)) :
    Except Exc BalanceStateUpdate := do
  let total ← quantityOf py "walletBalance" true (Json.get coin "walletBalance")
  let locked ← quantityOf py "locked" true ((Json.lookup "locked" coin).getD (.str "0"))
  if total < locked then
    throw (syncError "locked balance exceeds total balance")
  let asset ← identifierOf py "coin" (Json.get coin "coin")
  return { asset, availableQuantity := decimalSub total locked, lockedQuantity := locked
           totalQuantity := total }

def bybitBalanceUpdates (py : Platform) (payload : List (String × Json)) :
    Except Exc (List BalanceStateUpdate) := do
  let accounts ← dictList "data" (Json.get payload "data")
  let updates ← accounts.mapM fun account => do
    let coins ← dictList "coin" (Json.get account "coin")
    coins.mapM (bybitBalance py)
  return updates.flatten

def okxBalance (py : Platform) (detail : List (String × Json)) :
    Except Exc BalanceStateUpdate := do
  let available ← quantityOf py "availBal" true (Json.get detail "availBal")
  let locked ← quantityOf py "frozenBal" true ((Json.lookup "frozenBal" detail).getD (.str "0"))
  let total ← quantityOf py "cashBal" true (Json.get detail "cashBal")
  if total < decimalAdd available locked then
    throw (syncError "available and locked balance exceed total balance")
  let asset ← identifierOf py "ccy" (Json.get detail "ccy")
  return { asset, availableQuantity := available, lockedQuantity := locked, totalQuantity := total }

def okxBalanceUpdates (py : Platform) (payload : List (String × Json)) :
    Except Exc (List BalanceStateUpdate) := do
  let accounts ← dictList "data" (Json.get payload "data")
  let updates ← accounts.mapM fun account => do
    let details ← dictList "details" (Json.get account "details")
    details.mapM (okxBalance py)
  return updates.flatten

/-- The decoder of the exchange. -/
def exchangeBalanceUpdates (py : Platform) (exchangeName : ExchangeName)
    (payload : List (String × Json)) : Except Exc (List BalanceStateUpdate) :=
  match exchangeName with
  | .binance => binanceBalanceUpdates py payload
  | .bybit => bybitBalanceUpdates py payload
  | .okx => okxBalanceUpdates py payload
  | .mock => .error (syncError "balance event exchange is not supported")

/-- `_balance_updates`. -/
def balanceUpdates (py : Platform) (exchangeName : ExchangeName)
    (payload : List (String × Json)) : Except Exc (List BalanceStateUpdate) := do
  let updates ← exchangeBalanceUpdates py exchangeName payload
  requireUniqueKeys (updates.map (·.asset)) "asset"
  if updates = [] then
    throw (syncError "balance event contains no balances")
  return updates

/-! ### Decoding positions -/

/-- The signed size; `side in {"", None}` hashes the side, which a list or mapping refuses. -/
def signedSize (size : Decimal) : Json → Except Exc Decimal
  | .str side =>
    if side = "Buy" then .ok size
    else if side = "Sell" then .ok (decimalNeg size)
    else if side = "" ∧ size.coeff = 0 then .ok ⟨0, 0⟩
    else .error (syncError "Bybit position side is invalid")
  | .null =>
    if size.coeff = 0 then .ok ⟨0, 0⟩ else .error (syncError "Bybit position side is invalid")
  | .arr _ | .obj _ => .error .typeError
  | _ => .error (syncError "Bybit position side is invalid")

def bybitPosition (py : Platform) (position : List (String × Json)) :
    Except Exc PositionStateUpdate := do
  let size ← quantityOf py "size" true (Json.get position "size")
  let quantity ← signedSize size (Json.get position "side")
  let symbol ← identifierOf py "symbol" (Json.get position "symbol")
  return { symbol, quantity }

def bybitPositionUpdates (py : Platform) (payload : List (String × Json)) :
    Except Exc (List PositionStateUpdate) := do
  let positions ← dictList "data" (Json.get payload "data")
  positions.mapM (bybitPosition py)

def okxPosition (py : Platform) (position : List (String × Json)) :
    Except Exc PositionStateUpdate := do
  let symbol ← identifierOf py "instId" (Json.get position "instId")
  let quantity ← quantityOf py "pos" false (Json.get position "pos")
  return { symbol, quantity }

def okxPositionUpdates (py : Platform) (payload : List (String × Json)) :
    Except Exc (List PositionStateUpdate) := do
  let positions ← dictList "data" (Json.get payload "data")
  positions.mapM (okxPosition py)

def exchangePositionUpdates (py : Platform) (exchangeName : ExchangeName)
    (payload : List (String × Json)) : Except Exc (List PositionStateUpdate) :=
  match exchangeName with
  | .bybit => bybitPositionUpdates py payload
  | .okx => okxPositionUpdates py payload
  | _ => .error (syncError "position event exchange is not supported")

/-- `_position_updates`. -/
def positionUpdates (py : Platform) (exchangeName : ExchangeName)
    (payload : List (String × Json)) : Except Exc (List PositionStateUpdate) := do
  let updates ← exchangePositionUpdates py exchangeName payload
  requireUniqueKeys (updates.map (·.symbol)) "symbol"
  if updates = [] then
    throw (syncError "position event contains no positions")
  return updates

/-! ### Writing -/

/-- The value as the column stores it; the database refuses one that overflows. -/
def bindQuantity (value : Decimal) : Except Exc Quantity :=
  match Numeric.ofDecimal? 28 10 value with
  | some stored => .ok stored
  | none => .error .dataError

structure BalanceColumns where
  asset : String
  change : Balance.Change

def BalanceStateUpdate.columns (update : BalanceStateUpdate) : Except Exc BalanceColumns := do
  let availableQuantity ← bindQuantity update.availableQuantity
  let lockedQuantity ← bindQuantity update.lockedQuantity
  let totalQuantity ← bindQuantity update.totalQuantity
  return { asset := update.asset
           change := { availableQuantity, lockedQuantity, totalQuantity } }

structure PositionColumns where
  symbol : String
  quantity : Quantity

def PositionStateUpdate.columns (update : PositionStateUpdate) : Except Exc PositionColumns := do
  let quantity ← bindQuantity update.quantity
  return { symbol := update.symbol, quantity }

def isBalance (userId exchangeAccountId asset : String) (row : Balance) : Bool :=
  row.userId = userId ∧ row.exchangeAccountId = exchangeAccountId ∧ row.asset = asset

def isPosition (userId exchangeAccountId symbol : String) (row : Position) : Bool :=
  row.userId = userId ∧ row.exchangeAccountId = exchangeAccountId ∧ row.symbol = symbol

/-- `_upsert_balance`. The search finds a row that the open transaction has inserted, or a
committed one. -/
def upsertBalance (userId exchangeAccountId : String) (columns : BalanceColumns) :
    Service Unit := do
  let named := isBalance userId exchangeAccountId columns.asset
  let session ← Handler.session
  if session.work.balances.any named then
    Session.add fun work =>
      { work with
        balances := work.balances.map fun row =>
          if named row then Row.apply columns.change row else row }
  else
    match ← Session.query (·.balances.find? named) with
    | some balance =>
      Session.add fun work =>
        { work with balanceChanges := work.balanceChanges ++ [⟨balance, columns.change⟩] }
    | none =>
      Session.add fun work =>
        { work with
          balances := work.balances ++
            [{ userId, exchangeAccountId, asset := columns.asset
               availableQuantity := columns.change.availableQuantity
               lockedQuantity := columns.change.lockedQuantity
               totalQuantity := columns.change.totalQuantity }] }

def upsertBalances (userId exchangeAccountId : String) : List BalanceColumns → Service Unit
  | [] => return ()
  | columns :: rest => do
    upsertBalance userId exchangeAccountId columns
    upsertBalances userId exchangeAccountId rest

/-- `_upsert_position`. -/
def upsertPosition (userId exchangeAccountId : String) (columns : PositionColumns) :
    Service Unit := do
  let named := isPosition userId exchangeAccountId columns.symbol
  let session ← Handler.session
  if session.work.positions.any named then
    Session.add fun work =>
      { work with
        positions := work.positions.map fun row =>
          if named row then Row.apply columns.quantity row else row }
  else
    match ← Session.query (·.positions.find? named) with
    | some position =>
      Session.add fun work =>
        { work with positionChanges := work.positionChanges ++ [⟨position, columns.quantity⟩] }
    | none =>
      Session.add fun work =>
        { work with
          positions := work.positions ++
            [{ userId, exchangeAccountId, symbol := columns.symbol
               quantity := columns.quantity }] }

def upsertPositions (userId exchangeAccountId : String) : List PositionColumns → Service Unit
  | [] => return ()
  | columns :: rest => do
    upsertPosition userId exchangeAccountId columns
    upsertPositions userId exchangeAccountId rest

/-! ### Synchronizing -/

/-- The reasons to refuse an event, tested in source order. -/
def requireTestnetAccount (account : Option ExchangeAccount) (exchangeName : ExchangeName) :
    Except Exc Unit :=
  match account with
  | none => .error (syncError "testnet exchange account was not found")
  | some account =>
    if ¬ account.isActive then
      .error (syncError "testnet exchange account is inactive")
    else if account.accountMode ≠ .testnet then
      .error (syncError "account mode must be TESTNET")
    else if account.exchangeName ≠ exchangeName then
      .error (syncError "event exchange does not match account")
    else .ok ()

/-- The flush binds the quantities; one that does not fit refuses all of them. -/
def syncTestnetAccountStateEvent (py : Platform) (userId exchangeAccountId : String)
    (event : TestnetUserStreamEvent) : Service TestnetAccountStateSyncResult := do
  let account ← getOwnedAccount userId exchangeAccountId
  Handler.ofExcept (requireTestnetAccount account event.exchangeName)
  match event.eventType with
  | .balance =>
    let updates ← Handler.ofExcept (balanceUpdates py event.exchangeName event.rawPayload)
    let columns ← Handler.ofExcept (updates.mapM BalanceStateUpdate.columns)
    upsertBalances userId exchangeAccountId columns
    Session.flush
    return { status := .synced, balancesSynced := updates.length, positionsSynced := 0 }
  | .position =>
    let updates ← Handler.ofExcept (positionUpdates py event.exchangeName event.rawPayload)
    let columns ← Handler.ofExcept (updates.mapM PositionStateUpdate.columns)
    upsertPositions userId exchangeAccountId columns
    Session.flush
    return { status := .synced, balancesSynced := 0, positionsSynced := updates.length }
  | _ => return { status := .ignored, balancesSynced := 0, positionsSynced := 0 }

/-- `PersistingTestnetUserStreamEventHandler.__call__` for an event that is not an order
event: whether the state was processed. -/
def handleTestnetStateEvent (py : Platform) (userId exchangeAccountId : String)
    (event : TestnetUserStreamEvent) : Service Bool := do
  let result ← syncTestnetAccountStateEvent py userId exchangeAccountId event
  if result.status = .synced then
    Session.commit
  return result.status = .synced

end CopyTrading
