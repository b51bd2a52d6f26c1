import CopyTrading.OrderServices
import CopyTrading.Transaction.Ownership
import CopyTrading.Transaction.Pending
import CopyTrading.TransitionLog

/-!
Whose rows the rows are. Every row names a user, and the rows of an account name the owner of the
account. What a session writes on behalf of a user is kept to that user's rows, and a commit then
leaves every row with the owner of its account and the rows of all other users as they are.
-/

namespace CopyTrading

open Transaction OwnedRow

/-! ### Owners -/

instance : OwnedRow ExchangeAccount String where
  owner := ExchangeAccount.userId
  owner_apply _ _ := rfl

instance : OwnedRow ApiKeySecret String where
  owner := ApiKeySecret.userId
  owner_apply _ _ := rfl

instance : OwnedRow RiskSetting String where
  owner := RiskSetting.userId
  owner_apply _ _ := rfl

instance : OwnedRow TradingSignal String where
  owner := TradingSignal.userId
  owner_apply change _ := change.elim

instance : OwnedRow Position String where
  owner := Position.userId
  owner_apply _ _ := rfl

instance : OwnedRow Balance String where
  owner := Balance.userId
  owner_apply _ _ := rfl

instance : OwnedRow OrderExecution String where
  owner := OrderExecution.userId
  owner_apply _ _ := rfl

instance : OwnedRow OrderExecutionTransition String where
  owner := OrderExecutionTransition.userId
  owner_apply change _ := change.elim

instance : OwnedRow AuditLog String where
  owner := AuditLog.userId
  owner_apply change _ := change.elim

/-- Rows of one account. -/
class AccountRow (ρ : Type) [Row ρ] where
  accountId : ρ → String
  accountId_apply : ∀ (change : Row.Change ρ) (row : ρ),
    accountId (Row.apply change row) = accountId row

open AccountRow

instance : AccountRow ApiKeySecret where
  accountId := ApiKeySecret.exchangeAccountId
  accountId_apply _ _ := rfl

instance : AccountRow RiskSetting where
  accountId := RiskSetting.exchangeAccountId
  accountId_apply _ _ := rfl

instance : AccountRow Position where
  accountId := Position.exchangeAccountId
  accountId_apply _ _ := rfl

instance : AccountRow Balance where
  accountId := Balance.exchangeAccountId
  accountId_apply _ _ := rfl

instance : AccountRow OrderExecution where
  accountId := OrderExecution.exchangeAccountId
  accountId_apply _ _ := rfl

/-! ### Stored rows -/

/-- The account is the user's. -/
def Db.HasAccount (db : Db) (accountId userId : String) : Prop :=
  ∃ account ∈ db.accounts, account.id = accountId ∧ account.userId = userId

theorem Db.HasAccount.of_mem {db : Db} {row : ExchangeAccount} {userId : String}
    (stored : row ∈ db.accounts) (belongs : row.userId = userId) : db.HasAccount row.id userId :=
  ⟨row, stored, rfl, belongs⟩

/-- An account has one owner. -/
theorem Db.HasAccount.user_unique {db : Db} {accountId userId other : String}
    (has : db.HasAccount accountId userId) (has' : db.HasAccount accountId other) :
    userId = other := by
  obtain ⟨account, stored, named, rfl⟩ := has
  obtain ⟨account', stored', named', rfl⟩ := has'
  have same : account = account' := Table.eq_of_conflict stored stored' (named.trans named'.symm)
  rw [same]

/-- The signal is the user's. -/
def Db.HasSignal (db : Db) (signalId userId : String) : Prop :=
  ∃ signal ∈ db.signals, signal.id = signalId ∧ signal.userId = userId

theorem Db.HasSignal.of_mem {db : Db} {row : TradingSignal} {userId : String}
    (stored : row ∈ db.signals) (belongs : row.userId = userId) : db.HasSignal row.id userId :=
  ⟨row, stored, rfl, belongs⟩

/-- The execution is the user's. -/
def Db.HasExecution (db : Db) (id userId : String) : Prop :=
  ∃ execution ∈ db.executions, execution.id = id ∧ execution.userId = userId

/-- Each row of the table has the user of its account. -/
def Db.Assigned {ρ : Type} [Row ρ] [OwnedRow ρ String] [AccountRow ρ] (db : Db)
    (table : Table ρ) : Prop :=
  ∀ row ∈ table, db.HasAccount (accountId row) (owner row)

/-- Every row has the user of what it belongs to: its account, its signal, its execution. -/
structure Db.Owned (db : Db) : Prop where
  secrets : db.Assigned db.secrets
  riskSettings : db.Assigned db.riskSettings
  positions : db.Assigned db.positions
  balances : db.Assigned db.balances
  executions : db.Assigned db.executions
  signals : ∀ row ∈ db.executions, db.HasSignal row.signalId row.userId
  transitions : ∀ row ∈ db.transitions, db.HasExecution row.orderExecutionId row.userId

/-- Only rows of the user are added, changed or deleted. -/
structure OnlyOwn (userId : String) (before after : Db) : Prop where
  accounts : SparesOthers userId before.accounts after.accounts
  secrets : SparesOthers userId before.secrets after.secrets
  riskSettings : SparesOthers userId before.riskSettings after.riskSettings
  signals : SparesOthers userId before.signals after.signals
  positions : SparesOthers userId before.positions after.positions
  balances : SparesOthers userId before.balances after.balances
  executions : SparesOthers userId before.executions after.executions
  transitions : SparesOthers userId before.transitions after.transitions
  auditLogs : SparesOthers userId before.auditLogs after.auditLogs
  control : after.control = before.control
  systemEvents : after.systemEvents = before.systemEvents

theorem OnlyOwn.refl (userId : String) (db : Db) : OnlyOwn userId db db where
  accounts := .refl _
  secrets := .refl _
  riskSettings := .refl _
  signals := .refl _
  positions := .refl _
  balances := .refl _
  executions := .refl _
  transitions := .refl _
  auditLogs := .refl _
  control := rfl
  systemEvents := rfl

/-! ### What is written -/

/-- What is written to the rows of accounts on behalf of a user: rows of the user's accounts. -/
structure Entitled {ρ : Type} [Row ρ] [OwnedRow ρ String] [AccountRow ρ] (userId : String) (db : Db)
    (table : Table ρ) (dirty : List (Instance ρ)) (rows : List ρ) : Prop
    extends WritesOwn userId table dirty rows where
  accounts : ∀ row ∈ rows, db.HasAccount (accountId row) userId

namespace Entitled

variable {ρ : Type} [Row ρ] [OwnedRow ρ String] [AccountRow ρ] {userId : String} {db db' : Db}
  {before after table : Table ρ} {dirty : List (Instance ρ)} {rows : List ρ}

theorem nil : Entitled userId db table [] [] where
  toWritesOwn := .nil
  accounts _ mem := (List.not_mem_nil mem).elim

theorem add (entitled : Entitled userId db table dirty rows) {row : ρ} (belongs : owner row = userId)
    (account : db.HasAccount (accountId row) userId) :
    Entitled userId db table dirty (rows ++ [row]) where
  toWritesOwn := entitled.toWritesOwn.add belongs
  accounts other mem := by
    rcases List.mem_append.mp mem with earlier | last
    · exact entitled.accounts other earlier
    · rw [List.mem_singleton.mp last]
      exact account

theorem change (entitled : Entitled userId db table dirty rows) {x : Instance ρ}
    (changes : x.ChangesOwn userId table) : Entitled userId db table (dirty ++ [x]) rows where
  toWritesOwn := entitled.toWritesOwn.change changes
  accounts := entitled.accounts

/-- The rows that are added may be set in the columns that change. -/
theorem map (entitled : Entitled userId db table dirty rows) {set : ρ → ρ}
    (belongs : ∀ row, owner (set row) = owner row)
    (account : ∀ row, accountId (set row) = accountId row) :
    Entitled userId db table dirty (rows.map set) where
  toWritesOwn := entitled.toWritesOwn.map belongs
  accounts row mem := by
    obtain ⟨old, hold, rfl⟩ := List.mem_map.mp mem
    exact (account old).symm ▸ entitled.accounts old hold

/-- Rows that have the user of their account still do, as long as the accounts are kept. -/
theorem assigned (entitled : Entitled userId db before dirty rows)
    (written : (before.writeBack dirty).insertAll rows = some after)
    (accounts : ∀ {id user}, db.HasAccount id user → db'.HasAccount id user)
    (assigned : db.Assigned before) : db'.Assigned after := by
  refine Table.forall_written (P := fun row => db'.HasAccount (accountId row) (owner row)) written ?_
    (fun row stored => accounts (assigned row stored)) fun row new => ?_
  · intro change row holds
    rw [accountId_apply, owner_apply]
    exact holds
  · rw [entitled.added row new]
    exact accounts (entitled.accounts row new)

/-- Setting the rows of the user by name, or adding one to an account of the user. -/
theorem upsert {pending : Pending ρ} {named : ρ → Bool} {change : Row.Change ρ} {row : ρ}
    (entitled : Entitled userId db table pending.changes pending.added)
    (own : ∀ old, named old = true → owner old = userId) (belongs : owner row = userId)
    (account : db.HasAccount (accountId row) userId) :
    Entitled userId db table (pending.upsert table named change row).changes
      (pending.upsert table named change row).added := by
  unfold Pending.upsert
  split
  · refine entitled.map (fun old => ?_) fun old => ?_
    · split
      · exact owner_apply change old
      · rfl
    · split
      · exact accountId_apply change old
      · rfl
  · split
    · next old found =>
      exact entitled.change
        (.inr ⟨Table.mem_of_find? found, own old (Table.holds_of_find? found)⟩)
    · exact entitled.add belongs account

theorem upserts {ε : Type} {upserts : Upserts ρ ε} {pending : Pending ρ}
    (entitled : Entitled userId db table pending.changes pending.added)
    (own : ∀ e old, upserts.named e old = true → owner old = userId)
    (belongs : ∀ e, owner (upserts.row e) = userId)
    (account : ∀ e, db.HasAccount (accountId (upserts.row e)) userId) (entries : List ε) :
    Entitled userId db table (upserts.pending table entries pending).changes
      (upserts.pending table entries pending).added := by
  induction entries generalizing pending with
  | nil => exact entitled
  | cons e rest ih => exact ih (entitled.upsert (own e) (belongs e) (account e))

end Entitled

/-- The signal is the user's, stored or about to be. -/
def Work.HasSignal (work : Work) (db : Db) (signalId userId : String) : Prop :=
  db.HasSignal signalId userId ∨
    ∃ signal ∈ work.signals, signal.id = signalId ∧ signal.userId = userId

/-- The execution is the user's, stored or about to be. -/
def Work.HasExecution (work : Work) (db : Db) (id userId : String) : Prop :=
  db.HasExecution id userId ∨
    ∃ execution ∈ work.executions, execution.id = id ∧ execution.userId = userId

/-- What a unit of work writes on behalf of a user. -/
structure Work.OwnedBy (userId : String) (db : Db) (work : Work) : Prop where
  accounts : WritesOwn userId db.accounts work.accountChanges work.accounts
  secrets : Entitled userId db db.secrets work.secretChanges work.secrets
  deletedSecrets : ∀ id ∈ work.deletedSecrets, db.HasAccount id userId
  riskSettings : Entitled userId db db.riskSettings work.riskSettingChanges work.riskSettings
  signals : WritesOwn userId db.signals [] work.signals
  positions : Entitled userId db db.positions work.positionChanges work.positions
  balances : Entitled userId db db.balances work.balanceChanges work.balances
  executions : Entitled userId db db.executions work.executionChanges work.executions
  signaled : ∀ row ∈ work.executions, work.HasSignal db row.signalId userId
  transitions : WritesOwn userId db.transitions [] work.transitions
  logged : ∀ row ∈ work.transitions, work.HasExecution db row.orderExecutionId userId
  auditLogs : WritesOwn userId db.auditLogs [] work.auditLogs

section commit

variable {userId : String} {work : Work} {db after : Db}

theorem hasAccount_of_write (written : work.Written db after) {id user : String}
    (account : db.HasAccount id user) : after.HasAccount id user := by
  obtain ⟨row, stored, named, belongs⟩ := account
  obtain ⟨new, hnew, key, same⟩ := Table.kept_of_written written.accounts stored
  exact ⟨new, hnew, Eq.trans key named, Eq.trans same belongs⟩

theorem hasSignal_of_write (written : work.Written db after) {id user : String}
    (signal : db.HasSignal id user) : after.HasSignal id user := by
  obtain ⟨row, stored, named, belongs⟩ := signal
  exact ⟨row, (Table.mem_insertAll written.signals).mpr (.inl stored), named, belongs⟩

theorem hasExecution_of_write (written : work.Written db after) {id user : String}
    (execution : db.HasExecution id user) : after.HasExecution id user := by
  obtain ⟨row, stored, named, belongs⟩ := execution
  obtain ⟨new, hnew, key, same⟩ := Table.kept_of_written written.executions stored
  exact ⟨new, hnew, (congrArg OrderExecution.Key.id key).trans named, Eq.trans same belongs⟩

namespace Work.OwnedBy

theorem empty : OwnedBy userId db {} where
  accounts := .nil
  secrets := .nil
  deletedSecrets _ mem := (List.not_mem_nil mem).elim
  riskSettings := .nil
  signals := .nil
  positions := .nil
  balances := .nil
  executions := .nil
  signaled _ mem := (List.not_mem_nil mem).elim
  transitions := .nil
  logged _ mem := (List.not_mem_nil mem).elim
  auditLogs := .nil

/-- Every row still has the user of what it belongs to. -/
theorem owned (own : work.OwnedBy userId db) (owned : db.Owned) (written : work.write db = some after) :
    after.Owned := by
  have tables := Work.written_of_write written
  have accounts {id user : String} := @hasAccount_of_write work db after tables id user
  obtain ⟨secrets, hsecrets, remaining⟩ := secrets_of_write written
  constructor
  · intro row stored
    rw [remaining, Table.mem_deleteWhere] at stored
    exact own.secrets.assigned hsecrets accounts owned.secrets row stored.1
  · exact own.riskSettings.assigned tables.riskSettings accounts owned.riskSettings
  · exact own.positions.assigned tables.positions accounts owned.positions
  · exact own.balances.assigned tables.balances accounts owned.balances
  · exact own.executions.assigned tables.executions accounts owned.executions
  · refine Table.forall_written (P := fun row => after.HasSignal row.signalId row.userId)
      tables.executions (fun _ row signaled => show after.HasSignal row.signalId row.userId from signaled)
      (fun row stored => hasSignal_of_write tables (owned.signals row stored)) fun row new => ?_
    have belongs : row.userId = userId := own.executions.added row new
    rw [belongs]
    rcases own.signaled row new with stored | ⟨signal, added, named, belongs⟩
    · exact hasSignal_of_write tables stored
    · exact ⟨signal, (Table.mem_insertAll tables.signals).mpr (.inr added), named, belongs⟩
  · intro row mem
    rcases (Table.mem_insertAll tables.transitions).mp mem with stored | new
    · exact hasExecution_of_write tables (owned.transitions row stored)
    · have belongs : row.userId = userId := own.transitions.added row new
      rw [belongs]
      rcases own.logged row new with stored | ⟨execution, added, named, belongs⟩
      · exact hasExecution_of_write tables stored
      · exact ⟨execution, (Table.mem_insertAll tables.executions).mpr (.inr added), named, belongs⟩

/-- The rows of other users stay as they are. -/
theorem onlyOwn (own : work.OwnedBy userId db) (owned : db.Owned)
    (written : work.write db = some after) : OnlyOwn userId db after := by
  have tables := Work.written_of_write written
  have inserted {ρ : Type} [Row ρ] {table table' : Table ρ} {rows : List ρ}
      (h : table.insertAll rows = some table') :
      (table.writeBack []).insertAll rows = some table' := by rw [Table.writeBack_nil, h]
  obtain ⟨secrets, hsecrets, remaining⟩ := secrets_of_write written
  constructor
  · exact own.accounts.spares tables.accounts
  · rw [remaining]
    refine (own.secrets.spares hsecrets).trans (.deleteWhere fun row stored deleted => ?_)
    have assigned : db.Assigned secrets :=
      own.secrets.assigned hsecrets (fun account => account) owned.secrets
    refine (assigned row stored).user_unique (own.deletedSecrets _ ?_)
    exact List.contains_iff_mem.mp deleted
  · exact own.riskSettings.spares tables.riskSettings
  · exact own.signals.spares (inserted tables.signals)
  · exact own.positions.spares tables.positions
  · exact own.balances.spares tables.balances
  · exact own.executions.spares tables.executions
  · exact own.transitions.spares (inserted tables.transitions)
  · exact own.auditLogs.spares (inserted tables.auditLogs)
  · exact tables.control
  · exact tables.systemEvents

end Work.OwnedBy

end commit

end CopyTrading
