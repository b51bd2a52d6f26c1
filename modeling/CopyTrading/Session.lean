import CopyTrading.Database
import CopyTrading.Transaction.Handler

/-!
The interface the services run on, and the database session.
`World` is the committed database together with the orders the exchanges accepted,
which no session can see. A `Session` keeps what is pending and the instances it has
loaded; a commit expires them, and the next access to an attribute loads the row again.
-/

namespace CopyTrading

open Transaction DecimalArith

/-! ### Calls to the outside -/

structure PreparedExchangeRequest where
  method : String
  url : String
  path : String
  params : List (String × String)
  headers : List (String × String)
  body : Option (List (String × Json))

/-- The order id the request names: `newClientOrderId`, `orderLinkId` or `clOrdId`. -/
def PreparedExchangeRequest.clientOrderId (request : PreparedExchangeRequest) : Option String :=
  if request.method = "POST" then
    (request.params.lookup "newClientOrderId").orElse fun _ =>
      let body := Json.texts (request.body.getD [])
      (body.lookup "orderLinkId").orElse fun _ => body.lookup "clOrdId"
  else none

/-- The arguments of `place_order`. -/
structure PlaceOrder where
  clientOrderId : String
  symbol : String
  side : OrderSide
  orderType : OrderType
  quantity : Decimal
  price : Option Decimal

/-- The outcome of `urlopen`: a body (`none` when it is not JSON), an empty body, an HTTP
error with its own body or with a chunked one that breaks off, a body nested deeper than the
interpreter follows, or any other exception. -/
inductive HttpReply where
  | payload (body : Option Json)
  | empty
  | httpError (code : Nat) (body : Option Json)
  | brokenError (code : Nat)
  | tooDeep
  | failure

inductive RateLimitReply where
  | granted
  | exceeded (ruleName : String) (retryAfterSeconds : Nat)
  | storeUnavailable

inductive Query where
  | newUuid
  | utcNow
  | timestampMs
  | isoTimestamp
  | placeOrder (order : PlaceOrder)
  | acquireTestnetOrder (exchangeName : ExchangeName) (exchangeAccountId requestPath : String)
  | urlopen (request : PreparedExchangeRequest)
  | notifyOrderFailure (status failureType : String)
  | notifyEmergencyStopEnabled (scope : String)

abbrev Query.Answer : Query → Type
  | .newUuid => String
  | .utcNow => Instant
  | .timestampMs => Nat
  | .isoTimestamp => String
  | .placeOrder _ => Except Exc Json
  | .acquireTestnetOrder .. => RateLimitReply
  | .urlopen _ => HttpReply
  | .notifyOrderFailure .. => Unit
  | .notifyEmergencyStopEnabled _ => Unit

/-- The committed database, and the client order ids of the orders exchanges accepted. -/
structure World where
  db : Db := {}
  book : List String := []

abbrev backend : Interface where
  Store := World
  Work := Work
  Fault := Fault
  Query := Query
  Answer := Query.Answer

/-- An order request may be accepted whatever its sender gets to see; no other call
changes anything a session or an exchange keeps. -/
def answers (before : World) (query : Query) (_ : query.Answer) (after : World) : Prop :=
  after = before ∨
    ∃ request clientOrderId, query = .urlopen request ∧
      request.clientOrderId = some clientOrderId ∧
      after = { before with book := clientOrderId :: before.book }

def World.flush (work : Work) (world : World) : Except Fault World :=
  (world.db.flush work).map fun db => { world with db }

def semantics : Semantics backend where
  flush := World.flush
  Answers := answers

theorem World.flush_ok {work : Work} {before after : World}
    (flushed : semantics.flush work before = .ok after) :
    before.db.flush work = .ok after.db ∧ after.book = before.book := by
  simp only [semantics, World.flush] at flushed
  cases hflush : before.db.flush work with
  | error fault => simp [hflush, Except.map] at flushed
  | ok db =>
    simp only [hflush, Except.map, Except.ok.injEq] at flushed
    rw [← flushed]
    exact ⟨rfl, rfl⟩

/-! ### Sessions -/

/-- What is pending and the instances that are loaded and not expired. The instances of
risk settings and positions are not kept: the code that loads one releases it before it
is queried again, and the identity map holds weak references. -/
structure Session where
  work : Work := {}
  executions : List (Instance OrderExecution) := []
  accounts : List (Instance ExchangeAccount) := []
  secrets : List (Instance ApiKeySecret) := []

abbrev Service (α : Type) := Handler backend Exc Session α

/-- A call to the outside world. -/
abbrev ask (query : Query) : Service query.Answer :=
  @Handler.ask backend Exc Session query

/-- A service run in a session of its own. -/
def Service.run {α : Type} (service : Service α) : Prog backend (Except Exc α × Session) :=
  service {}

namespace Session

/-- The unit of work a commit hands over: what was added and what is dirty. -/
def pending (session : Session) : Work :=
  { session.work with
    executionChanges := session.executions
    accountChanges := session.accounts }

/-- `db.add(...)` and `setattr` on a released instance extend the unit of work. -/
def add (extend : Work → Work) : Service Unit :=
  Handler.modify fun session => { session with work := extend session.work }

/-- `db.flush()`: the pending rows are sent within the open transaction, so a constraint
that refuses one refuses it now. -/
def flush : Service Unit := do
  let session ← Handler.session
  let accepted ← Handler.select fun world : World => (world.db.flush session.pending).isOk
  if accepted then pure () else throw .integrityError

/-- `db.commit()`: everything pending is written at once and every instance expires. -/
def commit : Service Unit := do
  let session ← Handler.session
  let outcome ← Handler.submit session.pending
  Handler.modify fun _ => {}
  match outcome with
  | .ok () => pure ()
  | .error .integrityError => throw .integrityError

/-- A `SELECT` that loads no instance. -/
def query {α : Type} (select : Db → α) : Service α := Handler.select fun world : World => select world.db

/-! ### Order executions -/

def heldExecution (session : Session) (id : String) : Option (Instance OrderExecution) :=
  session.executions.find? (·.loaded.id = id)

/-- Hand out the instance of a selected row: the held one, with the attributes it was loaded
with, or a new one. -/
def holdExecution (row : OrderExecution) : Service OrderExecution := do
  let session ← Handler.session
  match session.heldExecution row.id with
  | some held => pure held.current
  | none =>
    Handler.modify fun session =>
      { session with executions := session.executions ++ [⟨row, {}⟩] }
    pure row

/-- `db.refresh(execution)`, and the load of an expired instance. -/
def loadExecution (id : String) : Service OrderExecution := do
  match ← query (·.executions.find? (·.id = id)) with
  | none => throw .objectDeleted
  | some row =>
    Handler.modify fun session =>
      { session with
        executions := session.executions.filter (·.loaded.id ≠ id) ++ [⟨row, {}⟩] }
    pure row

/-- Attribute access on an execution: an added one, a loaded one, or one to be loaded. -/
def execution (id : String) : Service OrderExecution := do
  let session ← Handler.session
  match session.work.executions.find? (·.id = id) with
  | some added => pure added
  | none =>
    match session.heldExecution id with
    | some held => pure held.current
    | none => loadExecution id

/-- Attributes set on the added and the loaded instances of an execution. -/
def setting (session : Session) (id : String)
    (set : OrderExecution.Change → OrderExecution.Change) : Session :=
  { session with
    work :=
      { session.work with
        executions := session.work.executions.map fun row =>
          if row.id = id then Row.apply (set {}) row else row }
    executions := session.executions.map fun held =>
      if held.loaded.id = id then ⟨held.loaded, set held.change⟩ else held }

/-- Set attributes of an execution whose attributes are present. -/
def setExecution (id : String) (set : OrderExecution.Change → OrderExecution.Change) :
    Service Unit :=
  Handler.modify fun session => session.setting id set

/-! ### Exchange accounts -/

def holdAccount (row : ExchangeAccount) : Service ExchangeAccount := do
  let session ← Handler.session
  match session.accounts.find? (·.loaded.id = row.id) with
  | some held => pure held.current
  | none =>
    Handler.modify fun session => { session with accounts := session.accounts ++ [⟨row, {}⟩] }
    pure row

/-- Attribute access on an account. -/
def account (id : String) : Service ExchangeAccount := do
  let session ← Handler.session
  match session.accounts.find? (·.loaded.id = id) with
  | some held => pure held.current
  | none =>
    match ← query (·.accounts.find? (·.id = id)) with
    | none => throw .objectDeleted
    | some row => holdAccount row

def setAccount (id : String) (set : ExchangeAccount → ExchangeAccount.Change) : Service Unit :=
  Handler.modify fun session =>
    { session with
      accounts := session.accounts.map fun held =>
        if held.loaded.id = id then ⟨held.loaded, set held.loaded⟩ else held }

/-- The attribute is written when it differs from the loaded value. -/
def dirtyColumn {τ : Type} [DecidableEq τ] (loaded : τ) (value : Option τ) : Option τ :=
  value.filter (· ≠ loaded)

/-- A commit of values that a column refuses: the database rolls back. -/
def refuseIf (refused : Prop) [Decidable refused] : Service Unit :=
  if refused then do
    Handler.modify fun _ => {}
    throw .dataError
  else pure ()

end Session

/-! ### What a column takes -/

/-- A text PostgreSQL takes as a value: without NUL. -/
def isBindable (text : String) : Bool := Char.ofNat 0 ∉ text.toList

/-- A text a `String(limit)` column takes. -/
def fitsColumn (limit : Nat) (text : String) : Bool := text.length ≤ limit ∧ isBindable text

/-! A `JSON` column takes no `NaN` and no infinity, at any depth. -/

mutual

def isStorable : Json → Bool
  | .float repr => repr ≠ "nan" ∧ repr ≠ "inf" ∧ repr ≠ "-inf"
  | .arr items => areStorable items
  | .obj fields => haveStorable fields
  | _ => true

def areStorable : List Json → Bool
  | [] => true
  | item :: rest => isStorable item && areStorable rest

def haveStorable : List (String × Json) → Bool
  | [] => true
  | (_, value) :: rest => isStorable value && haveStorable rest

end

/-- Bind a decimal to a `Numeric(28, 10)` column; the database rounds it to the scale and
refuses what overflows. -/
def toColumn {precision scale : Nat} (value : Decimal) : Service (Numeric precision scale) :=
  match Numeric.ofDecimal? precision scale value with
  | some stored => pure stored
  | none => throw .dataError

def toColumn? {precision scale : Nat} : Option Decimal → Service (Option (Numeric precision scale))
  | none => pure none
  | some value => some <$> toColumn value

end CopyTrading
