import CopyTrading.Identity.Services

/-!
How users come to be: registration, and the bootstrap of a super administrator from the
command line. Both look for a user of the same email or username, and the database keeps
each column unique.
-/

namespace CopyTrading

open Transaction

inductive RegistrationExc where
  | httpException (status : Nat) (detail : String)
  | duplicateUser (message : String)
  | superAdminBootstrapDisabled (message : String)
  | superAdminAlreadyExists (message : String)
  | superAdminInput (message : String)
  | integrityError
  | objectDeleted
  deriving DecidableEq

/-- The runtime with its validator of email addresses. -/
structure RegistrationPlatform extends IdentityPlatform where
  /-- `validate_email(text, check_deliverability=False).normalized`, `none` when it raises. -/
  validateEmail : String → Option String

/-- A request the schema admits: its email is one the validator has normalized. -/
structure RegisterRequest (py : RegistrationPlatform) where
  email : String
  username : String
  password : String
  email_valid : ∃ text, py.validateEmail text = some email
  username_length : 3 ≤ username.length ∧ username.length ≤ 80
  password_length : 12 ≤ password.length ∧ password.length ≤ 128

/-! ### The interface -/

structure RegistrationStore where
  users : Table User
  auditLogs : List UserAuditLog := []

/-- What a registration commits: one user, and what is logged about it. -/
structure NewUser where
  user : User
  auditLogs : List UserAuditLog := []

inductive RegistrationQuery where
  | newUuid
  | tokenBytes (count : Nat)

abbrev RegistrationQuery.Answer : RegistrationQuery → Type
  | .newUuid => String
  | .tokenBytes _ => List UInt8

abbrev registration : Interface where
  Store := RegistrationStore
  Work := NewUser
  Fault := RegistrationExc
  Query := RegistrationQuery
  Answer := RegistrationQuery.Answer

/-- The insert of a user that breaks a unique constraint is refused. -/
def RegistrationStore.flush (work : NewUser) (store : RegistrationStore) :
    Except RegistrationExc RegistrationStore :=
  match store.users.insert work.user with
  | some users => .ok { users, auditLogs := store.auditLogs ++ work.auditLogs }
  | none => .error .integrityError

def registrationSemantics : Semantics registration where
  flush := RegistrationStore.flush
  Answers before _ _ after := after = before

abbrev RegistrationService (α : Type) := Handler registration RegistrationExc Unit α

namespace RegistrationService

abbrev ask (query : RegistrationQuery) : RegistrationService query.Answer :=
  @Handler.ask registration RegistrationExc Unit query

def query {α : Type} (select : Table User → α) : RegistrationService α :=
  Handler.select fun store : RegistrationStore => select store.users

/-- `db.flush()` of the pending user. -/
def flush (work : NewUser) : RegistrationService Unit := do
  let accepted ← @Handler.select registration RegistrationExc Unit _ fun store =>
    store.flush work
  Handler.ofExcept (accepted.map fun _ => ())

def commit (work : NewUser) : RegistrationService Unit := do
  let outcome ← @Handler.submit registration RegistrationExc Unit work
  Handler.ofExcept outcome

end RegistrationService

/-! ### The services -/

/-- A user with the column defaults. -/
def newUser (id email username passwordHash : String) (role : UserRole) : User where
  id := id
  email := email
  username := username
  passwordHash := passwordHash
  authVersion := 0
  mfaEnabled := false
  mfaSecretEncrypted := none
  mfaPendingSecretEncrypted := none
  mfaLastUsedStep := none
  mfaRecoveryCodeHashes := []
  role := role
  isActive := true

/-- `or_(User.email == email, User.username == username)`. -/
def userWith (email username : String) (users : Table User) : Option User :=
  users.find? fun row => row.email = email || row.username = username

variable (py : RegistrationPlatform)

def createUser (email username password : String) : RegistrationService User := do
  match ← RegistrationService.query (userWith email username) with
  | some _ => throw (.duplicateUser "email or username already exists")
  | none =>
    let salt ← RegistrationService.ask (.tokenBytes 16)
    let id ← RegistrationService.ask .newUuid
    let user :=
      newUser id email username (hashPassword py.toIdentityPlatform salt password) .normalUser
    RegistrationService.commit { user }
    match ← RegistrationService.query (·.find? (·.id = id)) with
    | none => throw .objectDeleted
    | some row => return row

/-- `_validated_email`. -/
def validatedEmail (email : String) : RegistrationService String :=
  match py.validateEmail (py.strip email) with
  | some normalized => pure normalized
  | none => throw (.superAdminInput "invalid email address")

structure SuperAdminBootstrapResult where
  userId : String
  email : String
  username : String

def bootstrapLog (user : User) : UserAuditLog where
  userId := user.id
  action := "super_admin.bootstrap.created"
  severity := "CRITICAL"
  payload :=
    [("created_user_id", .str user.id), ("username", .str user.username),
      ("source", .str "server_cli")]

def bootstrapSuperAdmin (email username password : String) (enabled : Bool) :
    RegistrationService SuperAdminBootstrapResult := do
  Handler.raiseIf (enabled = false)
    (.superAdminBootstrapDisabled "super admin bootstrap is disabled")
  let normalizedEmail ← validatedEmail py email
  let normalizedUsername := py.strip username
  Handler.raiseIf (¬ (3 ≤ normalizedUsername.length ∧ normalizedUsername.length ≤ 80))
    (.superAdminInput "username must be between 3 and 80 characters")
  Handler.raiseIf (password.length < 16)
    (.superAdminInput "super admin password must be at least 16 characters")
  match ← RegistrationService.query (userWith normalizedEmail normalizedUsername) with
  | some _ => throw (.superAdminAlreadyExists "email or username already exists")
  | none =>
    let salt ← RegistrationService.ask (.tokenBytes 16)
    let id ← RegistrationService.ask .newUuid
    let user := newUser id normalizedEmail normalizedUsername
      (hashPassword py.toIdentityPlatform salt password) .superAdmin
    RegistrationService.flush { user }
    RegistrationService.commit { user, auditLogs := [bootstrapLog user] }
    return { userId := user.id, email := user.email, username := user.username }

/-! ### Requests -/

def register (payload : RegisterRequest py) : RegistrationService User :=
  tryCatch (createUser py payload.email payload.username payload.password) fun raised =>
    match raised with
    | .duplicateUser message => throw (.httpException 409 message)
    | other => throw other

inductive RegistrationRequest where
  | register (payload : RegisterRequest py)
  | bootstrap (email username password : String) (enabled : Bool)

/-- The request, and the id of the user it has created. -/
def RegistrationRequest.handle : RegistrationRequest py → RegistrationService String
  | .register payload => User.id <$> CopyTrading.register py payload
  | .bootstrap email username password enabled =>
      SuperAdminBootstrapResult.userId <$>
        bootstrapSuperAdmin py email username password enabled

end CopyTrading
