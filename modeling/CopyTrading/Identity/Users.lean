import CopyTrading.Identity.Security
import CopyTrading.Transaction.Handler

/-!
The users table, and the sessions of the identity services. A row that was selected
`FOR UPDATE` stays locked until its session commits or closes; a statement that needs the
lock of another session waits, so the statements that take or need one are calls, which the
database answers when it can.
-/

namespace CopyTrading

open Transaction

/-! ### Rows -/

structure User where
  id : String
  email : String
  username : String
  passwordHash : String
  authVersion : Int
  mfaEnabled : Bool
  mfaSecretEncrypted : Option String
  mfaPendingSecretEncrypted : Option String
  mfaLastUsedStep : Option Int
  mfaRecoveryCodeHashes : List String
  role : UserRole
  isActive : Bool
  deriving DecidableEq

structure User.Key where
  id : String
  email : String
  username : String
  deriving DecidableEq

/-- The columns that the services change. -/
structure User.Change where
  passwordHash : Option String := none
  authVersion : Option Int := none
  mfaEnabled : Option Bool := none
  mfaSecretEncrypted : Option (Option String) := none
  mfaPendingSecretEncrypted : Option (Option String) := none
  mfaLastUsedStep : Option (Option Int) := none
  mfaRecoveryCodeHashes : Option (List String) := none
  deriving DecidableEq

/-- Primary key, and the unique columns. -/
def User.Key.Clash (a b : User.Key) : Prop :=
  a.id = b.id ∨ a.email = b.email ∨ a.username = b.username

instance (a b : User.Key) : Decidable (a.Clash b) := inferInstanceAs (Decidable (_ ∨ _))

instance : Row User where
  Key := User.Key
  key row := ⟨row.id, row.email, row.username⟩
  Clash := User.Key.Clash
  clash_symm := by
    intro a b clash
    rcases clash with h | h | h
    · exact .inl h.symm
    · exact .inr (.inl h.symm)
    · exact .inr (.inr h.symm)
  decideClash _ _ := inferInstance
  Primary := String
  primary := User.Key.id
  decidePrimary := inferInstance
  clash_of_primary := .inl
  Change := User.Change
  apply change row :=
    { row with
      passwordHash := change.passwordHash.getD row.passwordHash
      authVersion := change.authVersion.getD row.authVersion
      mfaEnabled := change.mfaEnabled.getD row.mfaEnabled
      mfaSecretEncrypted := change.mfaSecretEncrypted.getD row.mfaSecretEncrypted
      mfaPendingSecretEncrypted :=
        change.mfaPendingSecretEncrypted.getD row.mfaPendingSecretEncrypted
      mfaLastUsedStep := change.mfaLastUsedStep.getD row.mfaLastUsedStep
      mfaRecoveryCodeHashes := change.mfaRecoveryCodeHashes.getD row.mfaRecoveryCodeHashes }
  key_apply _ _ := rfl

/-- A column whose value differs from the loaded one. -/
def changedColumn {α : Type} [DecidableEq α] (loaded current : α) : Option α :=
  if current = loaded then none else some current

@[simp] theorem getD_changedColumn {α : Type} [DecidableEq α] (loaded current : α) :
    (changedColumn loaded current).getD loaded = current := by
  unfold changedColumn
  split
  · next same => exact same.symm
  · rfl

/-- What an `UPDATE` sets: the columns that differ from what was loaded. -/
def User.changes (loaded current : User) : User.Change where
  passwordHash := changedColumn loaded.passwordHash current.passwordHash
  authVersion := changedColumn loaded.authVersion current.authVersion
  mfaEnabled := changedColumn loaded.mfaEnabled current.mfaEnabled
  mfaSecretEncrypted := changedColumn loaded.mfaSecretEncrypted current.mfaSecretEncrypted
  mfaPendingSecretEncrypted :=
    changedColumn loaded.mfaPendingSecretEncrypted current.mfaPendingSecretEncrypted
  mfaLastUsedStep := changedColumn loaded.mfaLastUsedStep current.mfaLastUsedStep
  mfaRecoveryCodeHashes :=
    changedColumn loaded.mfaRecoveryCodeHashes current.mfaRecoveryCodeHashes

structure UserAuditLog where
  userId : String
  action : String
  severity : String
  payload : List (String × Json)

/-- What a challenge was passed with. -/
inductive MfaFactor where
  | totpStep (step : Int)
  | recoveryCode (codeHash : String)
  deriving DecidableEq, Repr

/-! ### The interface -/

/-- The committed users, and the session that has locked a row. -/
structure UserStore (ι : Type) where
  users : Table User
  auditLogs : List UserAuditLog := []
  holder : String → Option ι := fun _ => none

/-- What a transaction writes. The users' factors it verified are named beside, for the
statements about it; the database does not see them. -/
structure UserWork where
  dirty : Option (Instance User) := none
  auditLogs : List UserAuditLog := []
  verified : List (String × MfaFactor) := []

inductive UserQuery (ι : Type) where
  | lockUser (who : ι) (usernameOrEmail : String)
  | commit (who : ι) (work : UserWork)
  | close (who : ι)
  | utcNow
  | tokenBytes (count : Nat)
  | tokenHex (count : Nat)
  | randomBase32
  | encryptSecret (secret : String)
  | provisioningUri (secret name issuerName : String)

abbrev UserQuery.Answer {ι : Type} : UserQuery ι → Type
  | .lockUser .. => Option User
  | .commit .. => Except IdentityExc Unit
  | .close _ => Unit
  | .utcNow => Instant
  | .tokenBytes _ => List UInt8
  | .tokenHex _ => String
  | .randomBase32 => String
  | .encryptSecret _ => String
  | .provisioningUri .. => String

abbrev identity (ι : Type) : Interface where
  Store := UserStore ι
  Work := Empty
  Fault := Empty
  Query := UserQuery ι
  Answer := UserQuery.Answer

/-- `User.email == name or User.username == name`. -/
def User.named (row : User) (name : String) : Bool := row.email = name || row.username = name

namespace UserStore

variable {ι : Type} [DecidableEq ι]

/-- Nobody else has locked the row. -/
def Free (store : UserStore ι) (who : ι) (id : String) : Prop :=
  store.holder id = none ∨ store.holder id = some who

def lock (store : UserStore ι) (who : ι) (name : String) : UserStore ι :=
  { store with
    holder := fun id =>
      if store.users.rows.any fun row => row.named name && row.id = id then some who
      else store.holder id }

def release (store : UserStore ι) (who : ι) : UserStore ι :=
  { store with holder := fun id => if store.holder id = some who then none else store.holder id }

def write (store : UserStore ι) (work : UserWork) : UserStore ι :=
  { store with
    users := store.users.writeBack work.dirty.toList
    auditLogs := store.auditLogs ++ work.auditLogs }

/-- How the database answers: a locking `SELECT` hands out a matching row, a commit writes
its transaction or, when the connection fails, nothing, and both give up the locks. -/
def Answers (before : UserStore ι) :
    (query : UserQuery ι) → query.Answer → UserStore ι → Prop
  | .lockUser who name, found, after =>
      (∀ row ∈ before.users, row.named name = true → before.Free who row.id) ∧
      after = before.lock who name ∧
      match found with
      | none => ∀ row ∈ before.users, row.named name = false
      | some row => row ∈ before.users ∧ row.named name = true
  | .commit who work, outcome, after =>
      (∀ x ∈ work.dirty, before.Free who x.loaded.id) ∧
      match outcome with
      | .ok () => after = (before.write work).release who
      | .error raised => raised = .databaseError ∧ after = before.release who
  | .close who, _, after => after = before.release who
  | .utcNow, _, after | .tokenBytes _, _, after | .tokenHex _, _, after
  | .randomBase32, _, after | .encryptSecret _, _, after | .provisioningUri .., _, after =>
      after = before

end UserStore

def identitySemantics (ι : Type) [DecidableEq ι] : Semantics (identity ι) where
  flush work := work.elim
  Answers := UserStore.Answers

/-! ### Sessions -/

/-- The one user instance a request works on, as it was loaded and as it is now, and what
else is pending. -/
structure UserSession (ι : Type) where
  who : ι
  user : Option (User × User) := none
  auditLogs : List UserAuditLog := []
  verified : List (String × MfaFactor) := []

abbrev UserService (ι α : Type) := Handler (identity ι) IdentityExc (UserSession ι) α

namespace UserSession

variable {ι : Type}

abbrev ask (query : UserQuery ι) : UserService ι query.Answer :=
  @Handler.ask (identity ι) IdentityExc (UserSession ι) query

/-- The instance is written when an attribute of it changed. -/
def dirty (session : UserSession ι) : Option (Instance User) :=
  session.user.bind fun (loaded, current) =>
    if current = loaded then none else some ⟨loaded, loaded.changes current⟩

def pending (session : UserSession ι) : UserWork where
  dirty := session.dirty
  auditLogs := session.auditLogs
  verified := session.verified

/-- `db.commit()`: the instance expires. -/
def commit : UserService ι Unit := do
  let session ← Handler.session
  let outcome ← ask (.commit session.who session.pending)
  Handler.modify fun session => { who := session.who }
  Handler.ofExcept outcome

/-- `db.close()`, also when the request raised. -/
def closing {α : Type} (body : UserService ι α) : UserService ι α := do
  let outcome ← tryCatch (Except.ok <$> body) fun raised => return Except.error raised
  let session ← Handler.session
  ask (.close session.who)
  Handler.modify fun session => { who := session.who }
  Handler.ofExcept outcome

def hold (row : User) : UserService ι User := do
  Handler.modify fun session => { session with user := some (row, row) }
  return row

def query {α : Type} (select : Table User → α) : UserService ι α :=
  Handler.select fun store : UserStore ι => select store.users

/-- Attribute access: the held instance, or a new load of the row. -/
def current (id : String) : UserService ι User := do
  match (← Handler.session).user with
  | some (_, current) => return current
  | none =>
    match ← query (·.find? (·.id = id)) with
    | none => throw .objectDeleted
    | some row => hold row

/-- Set attributes of the held instance. -/
def set (change : User → User) : UserService ι Unit :=
  Handler.modify fun session =>
    { session with user := session.user.map fun (loaded, current) => (loaded, change current) }

/-- `db.add(AuditLog(...))`. -/
def log (entry : UserAuditLog) : UserService ι Unit :=
  Handler.modify fun session => { session with auditLogs := session.auditLogs ++ [entry] }

/-- Note a user's factor that passed a challenge. -/
def verify (userId : String) (factor : MfaFactor) : UserService ι Unit :=
  Handler.modify fun session =>
    { session with verified := session.verified ++ [(userId, factor)] }

end UserSession

end CopyTrading
