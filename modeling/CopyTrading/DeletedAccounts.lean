import CopyTrading.SessionDiscipline
import CopyTrading.SignalEngine
import CopyTrading.StopRaces
import CopyTrading.Transaction.InTurn

/-!
Deleted accounts. Deleting an account clears its two flags, and neither order path looks at the
first of them: no order is placed for a deleted account as long as no update switches the second
one on again.
-/

namespace CopyTrading

open Transaction Transaction.Handler DecimalArith

/-! ### Flags -/

/-- An account that is not active has trading disabled. -/
def ExchangeAccount.OffIfDeleted (row : ExchangeAccount) : Prop :=
  row.isActive = false → row.tradingEnabled = false

def Db.DeletedOff (db : Db) : Prop := ∀ row ∈ db.accounts, row.OffIfDeleted

/-- A commit leaves deleted accounts switched off, and a call places no order. -/
def LeavesDeletedOff : Event backend → Prop
  | .commit _ before after => before.db.DeletedOff → after.db.DeletedOff
  | .call query _ _ _ => query.isPlacement = false
  | _ => True

/-- New accounts are active, and the accounts that are held are as they were loaded. -/
structure Session.SparesAccounts (s : Session) : Prop where
  added : ∀ row ∈ s.work.accounts, row.isActive = true
  held : ∀ x ∈ s.accounts, x.change = {}
  noStop : s.work.stop = none

theorem Session.SparesAccounts.start : ({} : Session).SparesAccounts where
  added _ mem := (List.not_mem_nil mem).elim
  held _ mem := (List.not_mem_nil mem).elim
  noStop := rfl

theorem Session.SparesAccounts.commit {s : Session} (spares : s.SparesAccounts) {before after : World}
    (flushed : semantics.flush s.pending before = .ok after) :
    LeavesDeletedOff (.commit s.pending before after) := by
  intro off row mem
  have written := (Work.written_of_flush (World.flush_ok flushed).1 spares.noStop).accounts
  rcases (Table.mem_insertAll written).mp mem with kept | new
  · obtain ⟨old, stored, rfl⟩ := Table.mem_writeBack.mp kept
    have same : Table.updated s.pending.accountChanges old = old := updated_accounts spares.held old
    exact same.symm ▸ off old stored
  · intro deleted
    rw [spares.added row new] at deleted
    cases deleted

/-- Sessions that change no flag of a stored account. -/
def sparing : Discipline backend Session where
  Holds := Session.SparesAccounts
  Asks := LeavesDeletedOff

abbrev Sparing {α : Type} (service : Service α) : Prop := Obeys sparing semantics service

/-! ### Requests that change no stored account -/

section requests

variable {α : Type} {py : Platform} {userId accountId : String}

theorem allowsReads_sparing : AllowsReads sparing where
  reads _ := True.intro
  accounts s row spares := by
    refine ⟨spares.added, fun x mem => ?_, spares.noStop⟩
    rcases List.mem_append.mp mem with held | new
    · exact spares.held x held
    · rw [List.mem_singleton.mp new]
  secrets _ _ spares := ⟨spares.added, spares.held, spares.noStop⟩

theorem sparing_ask {query : Query} (idle : query.isPlacement = false) : Sparing (ask query) :=
  .ask fun _ _ _ => idle

theorem sparing_commit : Sparing Session.commit := by
  intro s spares
  rw [← bind_pure Session.commit]
  refine follows_commit_bind.mpr ⟨fun before after flushed => ?_, fun world fault refused => ?_⟩
  · exact ⟨(), Session.SparesAccounts.commit spares flushed, .start⟩
  · exact ⟨(), True.intro, .start⟩

/-- What is added is no account. -/
theorem sparing_add {extend : Work → Work}
    (leaves : ∀ work, (extend work).accounts = work.accounts ∧ (extend work).stop = work.stop) :
    Sparing (Session.add extend) := by
  refine .modify fun s spares => ⟨fun row mem => ?_, spares.held, (leaves _).2.trans spares.noStop⟩
  exact spares.added row ((leaves s.work).1 ▸ mem)

theorem sparing_toColumn {precision scale : Nat} {value : Decimal} :
    Sparing (toColumn value : Service (Numeric precision scale)) := by
  unfold toColumn
  split
  · exact .pure _
  · exact .throw _

theorem sparing_toOptionalColumn {precision scale : Nat} {value : Option Decimal} :
    Sparing (toColumn? value : Service (Option (Numeric precision scale))) := by
  cases value with
  | none => exact .pure _
  | some value =>
    rw [toColumn?, map_eq_pure_bind]
    exact sparing_toColumn.bind fun _ => .pure _

theorem sparing_boundColumn {precision scale : Nat} {value : Option (Option Decimal)} :
    Sparing (boundColumn value : Service (Option (Option (Numeric precision scale)))) := by
  cases value with
  | none => exact .pure _
  | some value =>
    rw [boundColumn, map_eq_pure_bind]
    exact sparing_toOptionalColumn.bind fun _ => .pure _

theorem sparing_refreshRiskSetting : Sparing (refreshRiskSetting accountId) := by
  unfold refreshRiskSetting
  refine (allowsReads_sparing.query _).bind fun found => ?_
  split
  · exact .throw _
  · exact .pure _

theorem sparing_getOrCreateRiskSettings : Sparing (getOrCreateRiskSettings userId accountId) := by
  unfold getOrCreateRiskSettings
  refine (allowsReads_sparing.query _).bind fun found => ?_
  split
  · exact .pure _
  · exact Obeys.bind (sparing_add fun _ => ⟨rfl, rfl⟩) fun _ =>
      sparing_commit.bind fun _ => sparing_refreshRiskSetting

theorem sparing_patchRiskSettings {payload : RiskSettingUpdate} :
    Sparing (patchRiskSettings py userId accountId payload) := by
  unfold patchRiskSettings
  refine allowsReads_sparing.getOwnedAccount.bind fun found => ?_
  split
  · exact .throw _
  · refine (Obeys.raiseIf _ _).bind fun _ => sparing_getOrCreateRiskSettings.bind fun settings => ?_
    unfold updateRiskSettings
    refine sparing_boundColumn.bind fun _ => sparing_boundColumn.bind fun _ =>
      sparing_boundColumn.bind fun _ => sparing_boundColumn.bind fun _ =>
      sparing_boundColumn.bind fun _ => (Obeys.raiseIf _ _).bind fun _ => ?_
    refine Obeys.bind (sparing_add fun _ => ⟨rfl, rfl⟩) fun _ => sparing_commit.bind fun _ =>
      sparing_refreshRiskSetting.bind fun updated => Obeys.bind ?_ fun _ => .pure _
    unfold notifyEmergencyStopEnabled
    split
    · exact sparing_ask rfl
    · exact .pure _

theorem sparing_addAccount {payload : ExchangeAccountCreate} : Sparing (addAccount userId payload) := by
  unfold addAccount createAccount
  refine (sparing_ask rfl).bind fun id => Obeys.bind (.modify fun s spares => ?_) fun _ =>
    sparing_commit.bind fun _ => allowsReads_sparing.account
  refine ⟨fun row mem => ?_, spares.held, spares.noStop⟩
  rcases List.mem_append.mp mem with added | new
  · exact spares.added row added
  · rw [List.mem_singleton.mp new]

theorem sparing_createManualSignal {payload : ManualSignalCreate} :
    Sparing (createManualSignal py userId payload) := by
  unfold createManualSignal
  refine (sparing_ask rfl).bind fun id => sparing_toOptionalColumn.bind fun _ =>
    sparing_toOptionalColumn.bind fun _ => sparing_toOptionalColumn.bind fun _ =>
    Obeys.bind (sparing_add fun _ => ⟨rfl, rfl⟩) fun _ => sparing_commit.bind fun _ => ?_
  unfold refreshSignal
  refine (allowsReads_sparing.query _).bind fun found => ?_
  split
  · exact .throw _
  · exact .pure _

theorem sparing_approveTestnetOrderWindow {role : UserRole}
    {payload : TestnetOrderWindowApprovalRequest} {testnetAdaptersEnabled : Bool} :
    Sparing (approveTestnetOrderWindow userId role payload testnetAdaptersEnabled) := by
  unfold approveTestnetOrderWindow recordTestnetOrderWindowApproval
  refine .tryCatch (allowsReads_sparing.getOwnedAccount.bind fun found => ?_) fun raised => ?_
  · split
    · exact .throw _
    · refine (allowsReads_sparing.query _).bind fun _ =>
        allowsReads_sparing.getApiKeySecretMetadata.bind fun _ => ?_
      dsimp only
      exact (Obeys.raiseIf _ _).bind fun _ => (sparing_ask rfl).bind fun _ =>
        (sparing_ask rfl).bind fun _ => Obeys.bind (sparing_add fun _ => ⟨rfl, rfl⟩) fun _ =>
        sparing_commit.bind fun _ => .pure _
  · split
    · exact .throw _
    · split
      · exact .throw _
      · exact .throw _

end requests

/-! ### Updating and deleting -/

section flags

variable {userId accountId id : String} {s : Session} {w : World}

theorem account_apply_twice (change : ExchangeAccount.Change) (row : ExchangeAccount) :
    Row.apply change (Row.apply change row) = Row.apply change row := by
  obtain ⟨accountMode, accountLabel, tradingEnabled, isActive⟩ := change
  cases accountMode <;> cases accountLabel <;> cases tradingEnabled <;> cases isActive <;> rfl

/-- Instances that were loaded as their row is stored set on it what they ask of it. -/
theorem updated_as_stored (id : String) (set : ExchangeAccount → ExchangeAccount.Change) {db : Db}
    {held : List (Instance ExchangeAccount)}
    (sees : ∀ x ∈ held, x.change = {} ∧ x.loaded ∈ db.accounts) {old : ExchangeAccount}
    (stored : old ∈ db.accounts) :
    let after := Table.updated (held.map fun x =>
      if x.loaded.id = id then ⟨x.loaded, set x.loaded⟩ else x) old
    after = old ∨ old.id = id ∧ after = Row.apply (set old) old := by
  refine (Table.updated_keeps_of_same (P := fun row => row.id = old.id ∧
    (row = old ∨ old.id = id ∧ row = Row.apply (set old) old)) ?_ ⟨rfl, .inl rfl⟩).2
  rintro y mem row same ⟨named, reached⟩
  obtain ⟨x, hx, rfl⟩ := List.mem_map.mp mem
  obtain ⟨unchanged, loaded⟩ := sees x hx
  refine ⟨named, ?_⟩
  split at same
  · next target =>
    have same : x.loaded = old := Table.eq_of_conflict loaded stored (Eq.trans same named)
    rw [if_pos target, same]
    refine .inr ⟨same ▸ target, ?_⟩
    rcases reached with rfl | ⟨-, rfl⟩
    · rfl
    · exact account_apply_twice _ _
  · next other =>
    rw [if_neg other, unchanged]
    exact reached

/-- Columns of the account are set as its stored row asks, and committed. -/
theorem alone_setAccount_commit {set : ExchangeAccount → ExchangeAccount.Change}
    (clean : s.work = {}) (sees : s.SeesAccounts w.db)
    (off : ∀ row ∈ w.db.accounts, row.id = id → (Row.apply (set row) row).OffIfDeleted) :
    Alone semantics LeavesDeletedOff (do Session.setAccount id set; Session.commit)
      (fun _ s' _ => s' = {}) s w := by
  have committed : Alone semantics LeavesDeletedOff Session.commit (fun _ s' _ => s' = {})
      { s with
        accounts := s.accounts.map fun held =>
          if held.loaded.id = id then ⟨held.loaded, set held.loaded⟩ else held } w := by
    refine alone_commit.mpr ⟨fun after flushed => ⟨fun offBefore row mem => ?_, rfl⟩, fun _ _ => rfl⟩
    have written := (Work.written_of_flush (World.flush_ok flushed).1
      (congrArg Work.stop clean)).accounts
    have added : s.work.accounts = [] := congrArg Work.accounts clean
    rcases (Table.mem_insertAll written).mp mem with kept | new
    · obtain ⟨old, stored, rfl⟩ := Table.mem_writeBack.mp kept
      rcases updated_as_stored id set sees stored with same | ⟨named, same⟩
      · exact same.symm ▸ offBefore old stored
      · exact same.symm ▸ off old stored named
    · exact absurd (added ▸ new) List.not_mem_nil
  exact committed

theorem getD_dirtyColumn (loaded : Bool) (value : Option Bool) :
    (Session.dirtyColumn loaded value).getD loaded = value.getD loaded := by
  cases value with
  | none => rfl
  | some value => cases loaded <;> cases value <;> rfl

/-- The update leaves the account active, or with trading disabled. -/
def ExchangeAccountUpdate.LeavesOff (data : ExchangeAccountUpdate) (row : ExchangeAccount) : Prop :=
  data.isActive.getD row.isActive = false → data.tradingEnabled.getD row.tradingEnabled = false

instance (data : ExchangeAccountUpdate) (row : ExchangeAccount) : Decidable (data.LeavesOff row) :=
  inferInstanceAs (Decidable (_ → _))

/-- The owned account is looked up in a new session, and there is one or there is none. -/
theorem alone_ownedAccount {α : Type} {next : Option ExchangeAccount → Service α}
    (missing : ∀ s' w', Alone semantics LeavesDeletedOff (next none) (fun _ _ _ => True) s' w')
    (found : ∀ account ∈ w.db.accounts, account.id = accountId → account.userId = userId →
      ∀ s' w', w'.db = w.db → s'.work = {} → s'.SeesAccounts w'.db →
        Alone semantics LeavesDeletedOff (next (some account)) (fun _ _ _ => True) s' w') :
    Alone semantics LeavesDeletedOff (getOwnedAccount userId accountId >>= next)
      (fun _ _ _ => True) {} w := by
  have empty : ({} : Session).SeesAccounts w.db := fun _ mem => (List.not_mem_nil mem).elim
  refine Alone.bind (looks_getOwnedAccount empty) ?_ fun _ _ _ _ => True.intro
  rintro owned s' w' ⟨⟨none, -⟩ | ⟨account, stored, id, user, some⟩, looked⟩
  · cases none
    exact missing s' w'
  · cases some
    exact found account stored id user s' w' looked.db looked.work
      (looked.db ▸ looked.accounts empty)

theorem alone_patchAccount {payload : ExchangeAccountUpdate}
    (leaves : ∀ row ∈ w.db.accounts, row.id = accountId → row.userId = userId →
      payload.LeavesOff row) :
    Alone semantics LeavesDeletedOff (patchAccount userId accountId payload) (fun _ _ _ => True)
      {} w := by
  unfold patchAccount
  refine alone_ownedAccount (fun _ _ => True.intro) fun account stored id user s' w' db clean sees => ?_
  dsimp only
  unfold updateAccount
  rw [← bind_assoc]
  refine Alone.bind (alone_setAccount_commit clean sees fun row mem named => ?_) ?_
    fun _ _ _ _ => True.intro
  · have same : row = account := Table.eq_of_conflict (db ▸ mem) stored named
    intro deleted
    have asked := (getD_dirtyColumn row.isActive payload.isActive).symm.trans deleted
    exact (getD_dirtyColumn row.tradingEnabled payload.tradingEnabled).trans
      (leaves row (same ▸ stored) (same ▸ id) (same ▸ user) asked)
  · rintro _ _ w'' rfl
    exact Alone.mono (looks_account fun _ mem => (List.not_mem_nil mem).elim)
      fun _ _ _ _ => True.intro

theorem alone_removeAccount :
    Alone semantics LeavesDeletedOff (removeAccount userId accountId) (fun _ _ _ => True) {} w := by
  unfold removeAccount
  refine alone_ownedAccount (fun _ _ => True.intro) fun account stored id user s' w' db clean sees => ?_
  refine (alone_setAccount_commit clean sees fun row mem named => ?_).mono fun _ _ _ _ => True.intro
  exact fun _ => getD_dirtyColumn row.tradingEnabled (some false)

end flags

/-! ### Orders -/

section orders

variable {py : Platform} {r : StopRequest} {m m' : (r.protocol py).Phase} {e : Event backend}

/-- The stored accounts are those of the start. -/
def AccountsOf (start w : World) : Prop :=
  ∀ row : ExchangeAccount, row ∈ w.db.accounts ↔ row ∈ start.db.accounts

theorem StopRequest.accounts_kept (order : r.accountId?.isSome)
    (move : (r.protocol py).Move m e m') (settled : r.Settled py e.before.db m)
    (sound : e.Sound semantics) : AccountsOf e.before e.after := by
  cases r with
  | execute req =>
    cases ExecMove.effect move sound with
    | keeps db => exact fun row => by rw [db]
    | creates flushed trading => exact (trading.controls.keeps (trading.written flushed)).accounts
    | writes flushed trading => exact (trading.controls.keeps (trading.written flushed)).accounts
  | submit req => exact (SubmitMove.effect move sound settled.1).keepsControls.accounts
  | stop => cases order

/-- An order is placed for an account that is active, whatever is asked. -/
def PlacesForActive (accountId : Option String) (e : Event backend) : Prop :=
  placesOrder e = true → ∃ id ∈ accountId, ∀ account ∈ e.before.db.accounts,
    account.id = id → account.isActive = true

/-- Alone on the database, an order is checked against the account as it is. -/
theorem StopRequest.placesForActive {start w : World} {trace : List (Event backend)}
    {rest : Prog backend r.Outcome} (order : r.accountId?.isSome) (off : start.db.DeletedOff)
    (ran : Prog.Run semantics (r.program py) start trace rest w) :
    AccountsOf start w ∧ ∀ e ∈ trace, PlacesForActive r.accountId? e := by
  obtain ⟨m, path, -⟩ := ran.path (r.program_follows py)
  have known := path.invariant (fun trace m w => AccountsOf start w ∧
    (∀ e ∈ trace, PlacesForActive r.accountId? e) ∧ r.Knows py (AccountsOf start) m ∧
      r.Settled py w.db m) ?_ ?_
  · exact ⟨known.1, known.2.1⟩
  · refine ⟨fun _ => Iff.rfl, fun _ mem => (List.not_mem_nil mem).elim, ?_, ?_⟩
    · cases r <;> exact True.intro
    · cases r with
      | submit => exact ⟨by simp [StopRequest.start], fun read => by cases read⟩
      | execute | stop => exact True.intro
  · rintro trace m e m' ⟨accounts, placed, knows, settled⟩ move sound
    have kept := accounts_kept order move settled sound
    refine ⟨fun row => (kept row).trans (accounts row), fun e' mem => ?_, ?_,
      settled.move move sound⟩
    · rcases List.mem_append.mp mem with earlier | last
      · exact placed e' earlier
      · rw [List.mem_singleton.mp last]
        intro places
        obtain ⟨id, named, checked⟩ :=
          checked_of_cleared knows (cleared_of_placement move settled places)
        refine ⟨id, named, fun account stored same => ?_⟩
        obtain ⟨w, seen, other, otherStored, otherId, on⟩ := checked.accountOn
        -- the account that was read is the one stored now
        have found : account = other := Table.eq_of_conflict ((accounts account).mp stored)
          ((seen other).mp otherStored) (same.trans otherId.symm)
        by_contra deleted
        have := off account ((accounts account).mp stored) (Bool.eq_false_iff.mpr deleted)
        rw [found, on] at this
        cases this
    · refine knows.move move (fun _ seen => seen) ?_
      rintro w rfl
      exact accounts

end orders

/-! ### Requests, one after the other -/

inductive AccountRequest where
  | createAccount (userId : String) (payload : ExchangeAccountCreate)
  | updateAccount (userId accountId : String) (payload : ExchangeAccountUpdate)
  | deleteAccount (userId accountId : String)
  | updateRiskSettings (userId accountId : String) (payload : RiskSettingUpdate)
  | createSignal (userId : String) (payload : ManualSignalCreate)
  | approveWindow (userId : String) (role : UserRole) (payload : TestnetOrderWindowApprovalRequest)
      (testnetAdaptersEnabled : Bool)
  | execute (req : ExecRequest)
  | submit (req : SubmitRequest)

namespace AccountRequest

abbrev Outcome : AccountRequest → Type
  | createAccount .. => Except Exc ExchangeAccount × Session
  | updateAccount .. => Except Exc ExchangeAccount × Session
  | deleteAccount .. => Except Exc Unit × Session
  | updateRiskSettings .. => Except Exc RiskSetting × Session
  | createSignal .. => Except Exc TradingSignal × Session
  | approveWindow .. => Except Exc TestnetOrderWindowApproval × Session
  | execute req => (StopRequest.execute req).Outcome
  | submit req => (StopRequest.submit req).Outcome

def program (py : Platform) : (r : AccountRequest) → Prog backend r.Outcome
  | createAccount userId payload => (addAccount userId payload).run
  | updateAccount userId accountId payload => (patchAccount userId accountId payload).run
  | deleteAccount userId accountId => (removeAccount userId accountId).run
  | updateRiskSettings userId accountId payload =>
      (patchRiskSettings py userId accountId payload).run
  | createSignal userId payload => (createManualSignal py userId payload).run
  | approveWindow userId role payload testnetAdaptersEnabled =>
      (approveTestnetOrderWindow userId role payload testnetAdaptersEnabled).run
  | execute req => (StopRequest.execute req).program py
  | submit req => (StopRequest.submit req).program py

/-- The account an order of the request is for. -/
def accountId? : AccountRequest → Option String
  | execute req => some req.accountId
  | submit req => some req.payload.exchangeAccountId
  | _ => none

/-- An update of a stored account leaves it active, or with trading disabled. -/
def UpdatesOff (w : World) : AccountRequest → Prop
  | updateAccount userId accountId payload => ∀ row ∈ w.db.accounts, row.id = accountId →
      row.userId = userId → payload.LeavesOff row
  | _ => True

variable {py : Platform}

/-- Events that leave deleted accounts off place no order. -/
theorem serves_of_leaves {r : AccountRequest} {before after : World}
    {trace : List (Event backend)} {rest : Prog backend r.Outcome} (off : before.db.DeletedOff)
    (ran : Prog.Run semantics (r.program py) before trace rest after)
    (leaves : ∀ e ∈ trace, LeavesDeletedOff e) :
    after.db.DeletedOff ∧ ∀ e ∈ trace, PlacesForActive r.accountId? e := by
  constructor
  · refine ran.preserves (P := fun world : World => world.db.DeletedOff) off fun e mem sound off => ?_
    have left := leaves e mem
    cases e with
    | read | abort => exact off
    | commit work before after => exact left off
    | call query answer before after =>
      have same : after.db = before.db := @db_eq_of_call query answer before after sound
      exact same ▸ off
  · intro e mem places
    have left := leaves e mem
    cases e with
    | call query answer before after =>
      have idle : query.isPlacement = false := left
      rw [placesOrder, idle] at places
      cases places
    | read | abort | commit => cases places

theorem leaves_of_alone {α : Type} {service : Service α} {before after : World}
    {trace : List (Event backend)} {rest : Prog backend (Except Exc α × Session)}
    (alone : Alone semantics LeavesDeletedOff service (fun _ _ _ => True) {} before)
    (ran : Prog.Run semantics service.run before trace rest after) :
    ∀ e ∈ trace, LeavesDeletedOff e := by
  intro e mem
  have acted := (ran.of_alone alone).1 e mem
  cases e with
  | read | abort => exact True.intro
  | commit | call => exact acted rfl

/-- What a request does with deleted accounts that have trading disabled. -/
theorem serves {r : AccountRequest} {before after : World} {trace : List (Event backend)}
    {rest : Prog backend r.Outcome} (off : before.db.DeletedOff) (admitted : r.UpdatesOff before)
    (ran : Prog.Run semantics (r.program py) before trace rest after) :
    after.db.DeletedOff ∧ ∀ e ∈ trace, PlacesForActive r.accountId? e := by
  cases r with
  | createAccount => exact serves_of_leaves off ran (sparing_addAccount.asked .start ran)
  | updateAccount => exact serves_of_leaves off ran (leaves_of_alone (alone_patchAccount admitted) ran)
  | deleteAccount => exact serves_of_leaves off ran (leaves_of_alone alone_removeAccount ran)
  | updateRiskSettings => exact serves_of_leaves off ran (sparing_patchRiskSettings.asked .start ran)
  | createSignal => exact serves_of_leaves off ran (sparing_createManualSignal.asked .start ran)
  | approveWindow =>
    exact serves_of_leaves off ran (sparing_approveTestnetOrderWindow.asked .start ran)
  | execute req =>
    obtain ⟨accounts, placed⟩ := StopRequest.placesForActive (r := .execute req) rfl off ran
    exact ⟨fun row stored => off row ((accounts row).mp stored), placed⟩
  | submit req =>
    obtain ⟨accounts, placed⟩ := StopRequest.placesForActive (r := .submit req) rfl off ran
    exact ⟨fun row stored => off row ((accounts row).mp stored), placed⟩

end AccountRequest

/-- In every state that is reached while each update of an account leaves it active or with trading
disabled, no order is placed for an account that is not active. -/
theorem deleted_accounts_never_trade {py : Platform} {start before after : World}
    {request : AccountRequest} {trace : List (Event backend)} {rest : Prog backend request.Outcome}
    (off : start.db.DeletedOff)
    (reached : InTurn semantics (AccountRequest.program py)
      (fun (w : World) request => request.UpdatesOff w) start before)
    (admitted : request.UpdatesOff before)
    (ran : Prog.Run semantics (request.program py) before trace rest after) :
    ∀ e ∈ trace, placesOrder e = true → ∃ accountId ∈ request.accountId?,
      ∀ account ∈ e.before.db.accounts, account.id = accountId → account.isActive = true := by
  have kept := reached.invariant (fun w : World => w.db.DeletedOff) off
    fun r before trace rest after off admitted ran => (AccountRequest.serves off admitted ran).1
  exact (AccountRequest.serves kept admitted ran).2

/-! ### Sample requests -/

/-- A market order without a target asks nothing of the target. -/
theorem noTarget_nonneg : ∀ value ∈ (none : Option Decimal), 0 ≤ value.toRat :=
  fun value given => absurd given (Option.not_mem_none value)

def marketSignal (symbol : String) (quantity : Decimal)
    (length : 1 ≤ symbol.length ∧ symbol.length ≤ 40) (pos : 0 < quantity.toRat) :
    ManualSignalCreate where
  symbol := symbol
  side := .buy
  quantity := some quantity
  symbol_length := length
  quantity_pos _ given := Option.mem_some_iff.mp given ▸ pos
  target_nonneg := noTarget_nonneg
  quantity_or_target := .inl rfl

def oneUnitSignal : ManualSignalCreate :=
  marketSignal "BTCUSDT" (.ofInt 1) (by decide) toRat_oneUnit_pos

/-- The order of the signal on the account, both created first of their kind. -/
def signalOrder : AccountRequest := .execute { userId := "u", signalId := "id0", accountId := "id0" }

/-- The world after a request was served. -/
def afterRequest (request : AccountRequest) (world : World) : World :=
  (Exchange.serving ⟨true, .empty⟩ (request.program asciiPlatform) world 40).2.store

def afterRequests (requests : List AccountRequest) : World :=
  requests.foldl (fun world request => afterRequest request world) {}

def eventsOf (request : AccountRequest) (world : World) : List (Event backend) :=
  (Exchange.serving ⟨true, .empty⟩ (request.program asciiPlatform) world 40).1.map Prod.snd

/-- Risk settings that allow trading, and a signal. -/
def readyForOrder : List AccountRequest :=
  [.updateRiskSettings "u" "id0" { tradingEnabled := some (some true) },
    .createSignal "u" oneUnitSignal]

/-- Requests that are let in whatever is stored, one after the other. -/
theorem inTurn_afterRequests {Admitted : World → AccountRequest → Prop}
    {requests : List AccountRequest}
    (admitted : ∀ request ∈ requests, ∀ world, Admitted world request) :
    InTurn semantics (AccountRequest.program asciiPlatform) Admitted {} (afterRequests requests) := by
  suffices from_ : ∀ world, InTurn semantics (AccountRequest.program asciiPlatform) Admitted {} world →
      InTurn semantics (AccountRequest.program asciiPlatform) Admitted {}
        (requests.foldl (fun world request => afterRequest request world) world) from
    from_ {} .start
  induction requests with
  | nil => exact fun world reached => reached
  | cons request rest ih =>
    intro world reached
    refine ih (fun other mem => admitted other (List.mem_cons_of_mem _ mem)) _ ?_
    exact reached.request (admitted request List.mem_cons_self world) (Exchange.serving_run _ _ _ _)

theorem deleted_accounts_never_trade_active :
    (eventsOf signalOrder (afterRequests (.createAccount "u" tradingAccount :: readyForOrder))).any
      placesOrder = true ∧
    ∀ e ∈ eventsOf signalOrder (afterRequests (.createAccount "u" tradingAccount :: readyForOrder)),
      placesOrder e = true → ∃ accountId ∈ signalOrder.accountId?,
        ∀ account ∈ e.before.db.accounts, account.id = accountId → account.isActive = true := by
  have admitted : ∀ request ∈ .createAccount "u" tradingAccount :: readyForOrder,
      ∀ world, AccountRequest.UpdatesOff world request := by
    intro request mem world
    simp only [readyForOrder, List.mem_cons, List.not_mem_nil, or_false] at mem
    rcases mem with rfl | rfl | rfl
    · exact True.intro
    · exact True.intro
    · exact True.intro
  exact ⟨by decide +kernel, deleted_accounts_never_trade (fun _ mem => (List.not_mem_nil mem).elim)
    (inTurn_afterRequests admitted) True.intro (Exchange.serving_run _ _ _ _)⟩

/-- A deleted account that an update switches on again. -/
def switchedOn : List AccountRequest :=
  [.createAccount "u" tradingAccount, .deleteAccount "u" "id0",
    .updateAccount "u" "id0" { tradingEnabled := some true }]

/-- The order of the signal is placed for the deleted account. -/
theorem deleted_account_trades :
    ∃ (before after : World) (trace : List (Event backend)) (rest : Prog backend signalOrder.Outcome),
      InTurn semantics (AccountRequest.program asciiPlatform) (fun _ _ => True) {} before ∧
      Prog.Run semantics (signalOrder.program asciiPlatform) before trace rest after ∧
      ∃ e ∈ trace, placesOrder e = true ∧ ∃ account ∈ e.before.db.accounts,
        some account.id = signalOrder.accountId? ∧ account.isActive = false := by
  have placed : ∃ e ∈ eventsOf signalOrder (afterRequests (switchedOn ++ readyForOrder)),
      placesOrder e = true ∧ ∃ account ∈ e.before.db.accounts,
        some account.id = signalOrder.accountId? ∧ account.isActive = false := by decide +kernel
  exact ⟨_, _, _, _, inTurn_afterRequests fun _ _ _ => True.intro,
    Exchange.serving_run ⟨true, .empty⟩ _ _ 40, placed⟩

end CopyTrading
