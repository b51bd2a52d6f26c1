import CopyTrading.AccountRequests
import CopyTrading.AccountState.Guarantees
import CopyTrading.DeletedAccounts
import CopyTrading.RiskSettings
import CopyTrading.SignalEngine
import CopyTrading.TenantSessions
import CopyTrading.TestnetOrder.SubmissionProtocol
import CopyTrading.Transaction.InTurn

/-!
Requests of many users, one after the other. Every state that is reached has every row with the
owner of its account, and no request but the emergency stop adds, changes or deletes a row of
anybody but the user it is made by.
-/

namespace CopyTrading

open Transaction Transaction.Handler DecimalArith OwnedRow AccountRow

/-! ### Requests that keep every order invariant -/

section invariants

variable {sem : Semantics backend} {Each : Event backend → Prop} {scope : Scope}
  {J : Session → World → Prop} {py : Platform} {s : Session} {w : World}
  (inv : OrderInvariant sem Each scope J)

include inv

omit inv in
theorem keeps_refreshSignal {id : String} (holds : J s w) :
    Keeps sem Each scope J (refreshSignal id) (fun _ _ _ => True) s w := by
  unfold refreshSignal
  refine (keeps_query holds).bind ?_
  rintro found s' w' holds' - -
  split
  · exact .throw holds'
  · exact .pure holds' True.intro

theorem keeps_createManualSignal {payload : ManualSignalCreate} (holds : J s w) :
    Keeps sem Each scope J (createManualSignal py scope.userId payload) (fun _ _ _ => True) s w := by
  unfold createManualSignal
  refine (keeps_ask inv holds).bind ?_
  rintro id s₁ w₁ holds₁ - -
  refine (keeps_toOptionalColumn holds₁).bind ?_
  rintro price s₂ w₂ holds₂ - -
  refine (keeps_toOptionalColumn holds₂).bind ?_
  rintro quantity s₃ w₃ holds₃ - -
  refine (keeps_toOptionalColumn holds₃).bind ?_
  rintro target s₄ w₄ holds₄ - -
  refine (keeps_add (inv.addSignal holds₄ rfl) rfl).bind ?_
  rintro - s₅ w₅ holds₅ - -
  refine (keeps_commit inv holds₅).bind ?_
  rintro - s₆ w₆ holds₆ - -
  exact keeps_refreshSignal holds₆

theorem keeps_readApiKeyMetadata {accountId : String} (holds : J s w) :
    Keeps sem Each scope J (readApiKeyMetadata scope.userId accountId) (fun _ _ _ => True) s w := by
  unfold readApiKeyMetadata
  refine (keeps_getOwnedAccount inv holds).bind ?_
  rintro found s₁ w₁ holds₁ - -
  split
  · exact .throw holds₁
  · refine (Looks.keeps inv (looks_getApiKeySecretMetadata (inv.secrets holds₁)) holds₁).bind ?_
    rintro secret s₂ w₂ holds₂ - -
    exact .pure holds₂ True.intro

theorem keeps_previewPositionTarget {accountId symbol : String} {targetQuantity : Decimal}
    (holds : J s w) :
    Keeps sem Each scope J (previewPositionTarget py scope.userId accountId symbol targetQuantity)
      (fun _ _ _ => True) s w := by
  unfold previewPositionTarget
  refine (keeps_getOwnedAccount inv holds).bind ?_
  rintro found s₁ w₁ holds₁ - ⟨-, hfound⟩
  split
  · exact .throw holds₁
  · next account =>
    obtain ⟨-, -, -, known⟩ := hfound account rfl
    refine (keeps_getOrCreatePosition inv holds₁ known).bind ?_
    rintro position s₂ w₂ holds₂ - -
    exact .pure holds₂ True.intro

theorem keeps_approveTestnetOrderWindow {role : UserRole}
    {payload : TestnetOrderWindowApprovalRequest} {testnetAdaptersEnabled : Bool} (holds : J s w) :
    Keeps sem Each scope J
      (approveTestnetOrderWindow scope.userId role payload testnetAdaptersEnabled)
      (fun _ _ _ => True) s w := by
  unfold approveTestnetOrderWindow recordTestnetOrderWindowApproval
  refine Keeps.tryCatch ((keeps_getOwnedAccount inv holds).bind ?_) ?_
  · rintro found s₁ w₁ holds₁ - -
    split
    · exact .throw holds₁
    · refine (keeps_query holds₁).bind ?_
      rintro riskSettings s₂ w₂ holds₂ - -
      refine (Looks.keeps inv (looks_getApiKeySecretMetadata (inv.secrets holds₂)) holds₂).bind ?_
      rintro secretMetadata s₃ w₃ holds₃ - -
      dsimp only
      refine (Keeps.raiseIf holds₃).bind ?_
      rintro - s₄ w₄ holds₄ - -
      refine (keeps_ask inv holds₄).bind ?_
      rintro auditLogId s₅ w₅ holds₅ - -
      refine (keeps_ask inv holds₅).bind ?_
      rintro createdAt s₆ w₆ holds₆ - -
      refine (keeps_add (inv.addAuditLog holds₆ rfl) rfl).bind ?_
      rintro - s₇ w₇ holds₇ - -
      refine (keeps_commit inv holds₇).bind ?_
      rintro - s₈ w₈ holds₈ - -
      exact .pure holds₈ True.intro
  · intro raised s₁ w₁ holds₁ _
    split
    · exact .throw holds₁
    · split
      · exact .throw holds₁
      · exact .throw holds₁

end invariants

/-! ### Requests that write accounts, keys and balances -/

/-- Whatever the outcome, the session is the user's. -/
abbrev KeepsTenant {α : Type} (userId : String) (service : Service α) (s : Session) (w : World) :
    Prop :=
  Keeps semantics (CommitsOwn (some userId)) (Scope.tenant userId) (OwnedSession userId) service
    (fun _ _ _ => True) s w

section tenant

variable {py : Platform} {userId accountId : String} {s : Session} {w : World}

theorem keeps_addAccount {payload : ExchangeAccountCreate} (owned : OwnedSession userId s w) :
    KeepsTenant userId (addAccount userId payload) s w := by
  have inv := tenantInvariant userId
  unfold addAccount createAccount
  refine (keeps_ask inv owned).bind ?_
  rintro id s₁ w₁ owned₁ - -
  refine (keeps_add (owned₁.adding rfl rfl rfl ?_) rfl).bind ?_
  · exact { owned₁.pending with accounts := owned₁.pending.accounts.add rfl }
  · rintro - s₂ w₂ owned₂ - -
    refine (keeps_commit inv owned₂).bind ?_
    rintro - s₃ w₃ owned₃ - -
    exact (Looks.keeps inv (looks_account owned₃.accounts) owned₃).mono
      fun _ _ _ _ _ _ => True.intro

theorem keeps_patchTenantRiskSettings {payload : RiskSettingUpdate}
    (owned : OwnedSession userId s w) :
    KeepsTenant userId (patchRiskSettings py userId accountId payload) s w :=
  keeps_patchRiskSettings (tenantInvariant userId) owned fun owned stored account _ =>
    owned.adding rfl rfl rfl
      { owned.pending with
        riskSettings := owned.pending.riskSettings.change
          (.inr ⟨stored, (owned.rows.riskSettings _ stored).user_unique account⟩) }

/-- The key that is found for an account of the user is the user's. -/
theorem keeps_upsertApiKeySecret {encrypt : Encryption} {apiKey apiSecret : String}
    {passphrase : Option String} (owned : OwnedSession userId s w)
    (account : w.db.HasAccount accountId userId) :
    KeepsTenant userId (upsertApiKeySecret encrypt userId accountId apiKey apiSecret passphrase)
      s w := by
  have inv := tenantInvariant userId
  unfold upsertApiKeySecret
  refine (keeps_query owned).bind ?_
  rintro found s₁ w₁ owned₁ - ⟨hfound, rfl, rfl⟩
  dsimp only
  refine (Keeps.raiseIf owned₁).bind ?_
  rintro - s₂ w₂ owned₂ - ⟨rfl, rfl, -⟩
  have stores : ∀ {extend : Work → Work}, OwnedSession userId (s₂.adding extend) w₂ →
      (extend s₂.work).executions = s₂.work.executions →
      KeepsTenant userId
        (do
          Session.add extend
          Session.commit
          refreshApiKeySecret accountId) s₂ w₂ := by
    intro extend added same
    refine (keeps_add added same).bind ?_
    rintro - s₃ w₃ owned₃ - -
    refine (keeps_commit inv owned₃).bind ?_
    rintro - s₄ w₄ owned₄ - -
    unfold refreshApiKeySecret
    refine (keeps_query owned₄).bind ?_
    rintro refreshed s₅ w₅ owned₅ - -
    split
    · exact .throw owned₅
    · exact .pure owned₅ True.intro
  cases found with
  | none =>
    refine stores (owned₂.adding rfl rfl rfl ?_) rfl
    exact { owned₂.pending with secrets := owned₂.pending.secrets.add rfl account }
  | some secret =>
    have stored := Table.mem_of_find? hfound.symm
    have named : secret.exchangeAccountId = accountId := by
      simpa using Table.holds_of_find? hfound.symm
    have belongs : w₂.db.HasAccount accountId secret.userId := named ▸ owned₂.rows.secrets secret stored
    refine stores (owned₂.adding rfl rfl rfl ?_) rfl
    exact
      { owned₂.pending with
        secrets := owned₂.pending.secrets.change (.inr ⟨stored, belongs.user_unique account⟩) }

theorem keeps_setApiKey {encrypt : Encryption} {payload : ApiKeySecretUpsert}
    (owned : OwnedSession userId s w) :
    KeepsTenant userId (setApiKey encrypt userId accountId payload) s w := by
  have inv := tenantInvariant userId
  unfold setApiKey
  refine (keeps_getOwnedAccount inv owned).bind ?_
  rintro found s₁ w₁ owned₁ - ⟨-, hfound⟩
  split
  · exact .throw owned₁
  · next account =>
    obtain ⟨-, -, -, known⟩ := hfound account rfl
    refine (keeps_upsertApiKeySecret owned₁ known).bind ?_
    rintro secret s₂ w₂ owned₂ - -
    refine (Looks.keeps inv (looks_account owned₂.accounts) owned₂).bind ?_
    rintro reloaded s₃ w₃ owned₃ - -
    exact .pure owned₃ True.intro

theorem keeps_removeApiKey (owned : OwnedSession userId s w) :
    KeepsTenant userId (removeApiKey userId accountId) s w := by
  have inv := tenantInvariant userId
  unfold removeApiKey
  refine (keeps_getOwnedAccount inv owned).bind ?_
  rintro found s₁ w₁ owned₁ - ⟨-, hfound⟩
  split
  · exact .throw owned₁
  · next account =>
    obtain ⟨-, -, -, known⟩ := hfound account rfl
    refine (Looks.keeps inv (looks_getApiKeySecretMetadata owned₁.secrets) owned₁).bind ?_
    rintro metadata s₂ w₂ owned₂ kept₂ ⟨found, -⟩
    split
    · exact .throw owned₂
    · next secret =>
      have stored := Table.holds_of_find? (Except.ok.inj found).symm
      simp only [decide_eq_true_eq] at stored
      unfold deleteApiKeySecret
      refine (keeps_add (owned₂.adding rfl rfl rfl ?_) rfl).bind ?_
      · refine { owned₂.pending with deletedSecrets := fun id mem => ?_ }
        rcases List.mem_append.mp mem with earlier | last
        · exact owned₂.pending.deletedSecrets id earlier
        · rw [List.mem_singleton.mp last, stored.2]
          exact kept₂.account known
      · rintro - s₃ w₃ owned₃ - -
        exact (keeps_commit inv owned₃).mono fun _ _ _ _ _ _ => True.intro

/-! ### The state of an account -/

theorem OwnedSession.withBalances {columns : List BalanceColumns} (owned : OwnedSession userId s w)
    (account : w.db.HasAccount accountId userId) :
    OwnedSession userId (s.withBalances ((balanceUpserts userId accountId).pending w.db.balances
      columns s.balancePending)) w :=
  @adding userId s w (fun work => work.withBalances _) owned rfl rfl rfl
    { owned.pending with
      balances := owned.pending.balances.upserts (fun _ _ named => (isBalance_iff.mp named).1)
        (fun _ => rfl) (fun _ => account) columns }

theorem OwnedSession.withPositions {columns : List PositionColumns}
    (owned : OwnedSession userId s w) (account : w.db.HasAccount accountId userId) :
    OwnedSession userId (s.withPositions ((positionUpserts userId accountId).pending
      w.db.positions columns s.positionPending)) w :=
  @adding userId s w (fun work => work.withPositions _) owned rfl rfl rfl
    { owned.pending with
      positions := owned.pending.positions.upserts (fun _ _ named => (isPosition_iff.mp named).1)
        (fun _ => rfl) (fun _ => account) columns }

theorem keeps_upsertBalances {columns : List BalanceColumns} (owned : OwnedSession userId s w)
    (account : w.db.HasAccount accountId userId) :
    KeepsTenant userId (upsertBalances userId accountId columns) s w :=
  alone_upsertBalances.mpr
    ⟨owned.withBalances account, .of_session rfl rfl, fun _ _ => True.intro⟩

theorem keeps_upsertPositions {columns : List PositionColumns} (owned : OwnedSession userId s w)
    (account : w.db.HasAccount accountId userId) :
    KeepsTenant userId (upsertPositions userId accountId columns) s w :=
  alone_upsertPositions.mpr
    ⟨owned.withPositions account, .of_session rfl rfl, fun _ _ => True.intro⟩

theorem keeps_syncTestnetAccountStateEvent {event : TestnetUserStreamEvent}
    (owned : OwnedSession userId s w) :
    KeepsTenant userId (syncTestnetAccountStateEvent py userId accountId event) s w := by
  have inv := tenantInvariant userId
  unfold syncTestnetAccountStateEvent
  refine (keeps_getOwnedAccount inv owned).bind ?_
  rintro found s₁ w₁ owned₁ - ⟨-, hfound⟩
  refine (Keeps.ofExcept (Q := fun _ _ w' => w'.db.HasAccount accountId userId) owned₁ ?_).bind ?_
  · intro _ required
    cases found with
    | none => cases required
    | some account =>
      obtain ⟨stored, named, belongs, -⟩ := hfound account rfl
      exact ⟨account, stored, named, belongs⟩
  · rintro - s₂ w₂ owned₂ - account
    split
    · refine (Keeps.ofExcept (Q := fun _ _ _ => True) owned₂ fun _ _ => True.intro).bind ?_
      rintro updates s₃ w₃ owned₃ kept₃ -
      refine (Keeps.ofExcept (Q := fun _ _ _ => True) owned₃ fun _ _ => True.intro).bind ?_
      rintro columns s₄ w₄ owned₄ kept₄ -
      refine (keeps_upsertBalances owned₄ ((kept₃.trans kept₄).account account)).bind ?_
      rintro - s₅ w₅ owned₅ - -
      refine (keeps_flush owned₅).bind ?_
      rintro - s₆ w₆ owned₆ - -
      exact .pure owned₆ True.intro
    · refine (Keeps.ofExcept (Q := fun _ _ _ => True) owned₂ fun _ _ => True.intro).bind ?_
      rintro updates s₃ w₃ owned₃ kept₃ -
      refine (Keeps.ofExcept (Q := fun _ _ _ => True) owned₃ fun _ _ => True.intro).bind ?_
      rintro columns s₄ w₄ owned₄ kept₄ -
      refine (keeps_upsertPositions owned₄ ((kept₃.trans kept₄).account account)).bind ?_
      rintro - s₅ w₅ owned₅ - -
      refine (keeps_flush owned₅).bind ?_
      rintro - s₆ w₆ owned₆ - -
      exact .pure owned₆ True.intro
    · exact .pure owned₂ True.intro

theorem keeps_handleTestnetStateEvent {event : TestnetUserStreamEvent}
    (owned : OwnedSession userId s w) :
    KeepsTenant userId (handleTestnetStateEvent py userId accountId event) s w := by
  unfold handleTestnetStateEvent
  refine (keeps_syncTestnetAccountStateEvent owned).bind ?_
  rintro result s₁ w₁ owned₁ - -
  dsimp only
  split
  · refine (keeps_commit (tenantInvariant userId) owned₁).bind ?_
    rintro - s₂ w₂ owned₂ - -
    exact .pure owned₂ True.intro
  · exact .pure owned₁ True.intro

/-! ### Updating and deleting an account -/

/-- The session after columns of an account it holds were set. -/
def Session.settingAccount (s : Session) (id : String)
    (set : ExchangeAccount → ExchangeAccount.Change) : Session :=
  { s with
    accounts := s.accounts.map fun held =>
      if held.loaded.id = id then ⟨held.loaded, set held.loaded⟩ else held }

theorem OwnedSession.pending_settingAccount {set : ExchangeAccount → ExchangeAccount.Change}
    (owned : OwnedSession userId s w) (account : w.db.HasAccount accountId userId) :
    (s.settingAccount accountId set).pending.OwnedBy userId w.db := by
  refine
    { owned.pending with accounts := ⟨fun y mem => ?_, owned.pending.accounts.added⟩ }
  obtain ⟨held, hheld, rfl⟩ := List.mem_map.mp mem
  obtain ⟨unchanged, stored⟩ := owned.accounts held hheld
  split
  · next named =>
    have belongs : w.db.HasAccount accountId held.loaded.userId := ⟨held.loaded, stored, named, rfl⟩
    exact .inr ⟨stored, belongs.user_unique account⟩
  · exact changesOwn_of_unchanged unchanged

/-- Columns of an account of the user are set and committed. -/
theorem alone_setAccount_own {set : ExchangeAccount → ExchangeAccount.Change}
    (owned : OwnedSession userId s w) (account : w.db.HasAccount accountId userId) :
    Alone semantics (CommitsOwn (some userId)) (do Session.setAccount accountId set; Session.commit)
      (fun _ s' w' => OwnedSession userId s' w') s w := by
  have committed : Alone semantics (CommitsOwn (some userId)) Session.commit
      (fun _ s' w' => OwnedSession userId s' w') (s.settingAccount accountId set) w := by
    refine alone_commit.mpr ⟨fun after flushed => ?_, fun _ _ => .empty owned.stored owned.rows⟩
    have own : (s.settingAccount accountId set).pending.OwnedBy userId w.db :=
      owned.pending_settingAccount account
    have written := Work.write_of_flush (World.flush_ok flushed).1 owned.noStop
    have chained := Session.chained_of_written (Work.written_of_write written) owned.chained
    have rows := own.owned owned.rows written
    refine ⟨⟨chained, rows, fun user mem => ?_⟩, .empty chained rows⟩
    exact Option.mem_some_iff.mp mem ▸ own.onlyOwn owned.rows written
  exact committed

theorem alone_patchAccount_own {payload : ExchangeAccountUpdate} (owned : OwnedSession userId s w) :
    Alone semantics (CommitsOwn (some userId)) (patchAccount userId accountId payload)
      (fun _ _ _ => True) s w := by
  unfold patchAccount
  refine Alone.bind (keeps_getOwnedAccount (tenantInvariant userId) owned) ?_
    fun _ _ _ _ => True.intro
  rintro found s₁ w₁ ⟨owned₁, -, hfound⟩
  cases found with
  | none => exact True.intro
  | some account =>
    obtain ⟨-, -, known⟩ := (hfound _ rfl).2 account rfl
    dsimp only
    unfold updateAccount
    rw [← bind_assoc]
    refine Alone.bind (alone_setAccount_own owned₁ known.2) ?_ fun _ _ _ _ => True.intro
    rintro - s₂ w₂ owned₂
    exact Alone.mono (looks_account owned₂.accounts) fun _ _ _ _ => True.intro

theorem alone_removeAccount_own (owned : OwnedSession userId s w) :
    Alone semantics (CommitsOwn (some userId)) (removeAccount userId accountId)
      (fun _ _ _ => True) s w := by
  unfold removeAccount
  refine Alone.bind (keeps_getOwnedAccount (tenantInvariant userId) owned) ?_
    fun _ _ _ _ => True.intro
  rintro found s₁ w₁ ⟨owned₁, -, hfound⟩
  cases found with
  | none => exact True.intro
  | some account =>
    obtain ⟨-, -, known⟩ := (hfound _ rfl).2 account rfl
    exact (alone_setAccount_own owned₁ known.2).mono fun _ _ _ _ => True.intro

end tenant

/-! ### The emergency stop -/

/-- Clearing the flags of all accounts leaves every row with its owner. -/
theorem StopChange.owned {change : StopChange} {before after : Db}
    (applied : change.apply before = some after) (owned : before.Owned) : after.Owned := by
  simp only [StopChange.apply, Option.bind_eq_bind, Option.bind_eq_some_iff, Option.pure_def,
    Option.some.injEq] at applied
  obtain ⟨auditLogs, -, rfl⟩ := applied
  have accounts : ∀ {id user : String}, before.HasAccount id user → ∃ account ∈
      (if change.enabled then clearAccounts before.accounts else before.accounts),
        account.id = id ∧ account.userId = user := by
    rintro id user ⟨account, stored, has⟩
    split
    · exact ⟨_, List.mem_map_of_mem stored, has⟩
    · exact ⟨account, stored, has⟩
  refine ⟨fun row stored => accounts (owned.secrets row stored), fun row stored => ?_,
    fun row stored => accounts (owned.positions row stored),
    fun row stored => accounts (owned.balances row stored),
    fun row stored => accounts (owned.executions row stored), owned.signals, owned.transitions⟩
  dsimp only at stored
  split at stored
  · obtain ⟨old, hold, rfl⟩ := List.mem_map.mp stored
    exact accounts (owned.riskSettings old hold)
  · exact accounts (owned.riskSettings row stored)

theorem StopChange.chained {change : StopChange} {before after : Db}
    (applied : change.apply before = some after) (chained : before.Chained) : after.Chained := by
  simp only [StopChange.apply, Option.bind_eq_bind, Option.bind_eq_some_iff, Option.pure_def,
    Option.some.injEq] at applied
  obtain ⟨auditLogs, -, rfl⟩ := applied
  exact chained

theorem alone_setEmergencyStop_owned {py : Platform} {enabled : Bool} {actorId reason : String}
    {w : World} (chained : w.db.Chained) (owned : w.db.Owned) :
    Alone semantics (CommitsOwn none) (setEmergencyStop py enabled actorId reason)
      (fun _ _ _ => True) {} w := by
  unfold setEmergencyStop
  refine alone_ask_bind.mpr fun auditLogId w₁ answered => ?_
  obtain ⟨asked, same⟩ := quiet_commitsOwn none _ _ _ _ answered
  refine ⟨asked, alone_ask_bind.mpr fun createdAt w₂ answered' => ?_⟩
  obtain ⟨asked', same'⟩ := quiet_commitsOwn none _ _ _ _ answered'
  refine ⟨asked', ?_⟩
  rw [← same, ← same'] at chained owned
  rw [alone_bind, alone_add, andThen_ok, alone_bind, alone_commit]
  refine ⟨fun after flushed => ⟨?_, ?_⟩, fun _ _ => True.intro⟩
  · obtain ⟨mid, written, applied⟩ := Db.stop_of_flush (World.flush_ok flushed).1 rfl
    have nothing : Work.OwnedBy actorId w₂.db {} := .empty
    refine ⟨StopChange.chained applied ?_, StopChange.owned applied ?_, fun _ none => nomatch none⟩
    · exact Session.chained_of_written (Work.written_of_write written)
        (ChainedSession.empty chained).chained
    · exact Work.OwnedBy.owned { nothing with accounts := nothing.accounts } owned written
  · rw [andThen_ok]
    unfold getEmergencyStopState
    rw [alone_bind, alone_query, andThen_ok]
    split
    · exact True.intro
    · exact True.intro

/-! ### Requests, one after the other -/

inductive TenantRequest where
  | createAccount (userId : String) (payload : ExchangeAccountCreate)
  | updateAccount (userId accountId : String) (payload : ExchangeAccountUpdate)
  | deleteAccount (userId accountId : String)
  | setApiKey (userId accountId : String) (payload : ApiKeySecretUpsert) (encrypt : Encryption)
  | readApiKey (userId accountId : String)
  | removeApiKey (userId accountId : String)
  | createSignal (userId : String) (payload : ManualSignalCreate)
  | execute (req : ExecRequest)
  | approveWindow (userId : String) (role : UserRole) (payload : TestnetOrderWindowApprovalRequest)
      (testnetAdaptersEnabled : Bool)
  | submit (req : SubmitRequest)
  | applyOrderEvent (userId accountId : String) (event : NormalizedTestnetOrderEvent)
      (transitionReason : String)
  | reconcileOrders (userId accountId : String)
  | syncAccountState (userId accountId : String) (event : TestnetUserStreamEvent)
  | readRiskSettings (userId accountId : String)
  | updateRiskSettings (userId accountId : String) (payload : RiskSettingUpdate)
  | previewPosition (userId accountId symbol : String) (targetQuantity : Decimal)
  | setEmergencyStop (enabled : Bool) (actorId reason : String)

namespace TenantRequest

def service (py : Platform) : TenantRequest → Service Unit
  | createAccount userId payload => discard <| addAccount userId payload
  | updateAccount userId accountId payload => discard <| patchAccount userId accountId payload
  | deleteAccount userId accountId => discard <| removeAccount userId accountId
  | setApiKey userId accountId payload encrypt =>
      discard <| CopyTrading.setApiKey encrypt userId accountId payload
  | readApiKey userId accountId => discard <| readApiKeyMetadata userId accountId
  | removeApiKey userId accountId => discard <| CopyTrading.removeApiKey userId accountId
  | createSignal userId payload => discard <| createManualSignal py userId payload
  | execute req => discard <| req.service py
  | approveWindow userId role payload testnetAdaptersEnabled =>
      discard <| approveTestnetOrderWindow userId role payload testnetAdaptersEnabled
  | submit req => discard <| req.service py
  | applyOrderEvent userId accountId event transitionReason =>
      discard <| applyTestnetOrderEvent userId accountId event transitionReason
  | reconcileOrders userId accountId =>
      discard <| reconcilePendingTestnetOrders py userId accountId
  | syncAccountState userId accountId event =>
      discard <| handleTestnetStateEvent py userId accountId event
  | readRiskSettings userId accountId => discard <| CopyTrading.readRiskSettings userId accountId
  | updateRiskSettings userId accountId payload =>
      discard <| patchRiskSettings py userId accountId payload
  | previewPosition userId accountId symbol targetQuantity =>
      discard <| previewPositionTarget py userId accountId symbol targetQuantity
  | setEmergencyStop enabled actorId reason =>
      discard <| CopyTrading.setEmergencyStop py enabled actorId reason

def program (py : Platform) (request : TenantRequest) : Prog backend (Except Exc Unit × Session) :=
  (request.service py).run

/-- The user the request is made by; the emergency stop is for all of them. -/
def userId? : TenantRequest → Option String
  | createAccount userId _ | updateAccount userId .. | deleteAccount userId _
  | setApiKey userId .. | readApiKey userId _ | removeApiKey userId _ | createSignal userId _
  | approveWindow userId ..
  | applyOrderEvent userId .. | reconcileOrders userId _ | syncAccountState userId ..
  | readRiskSettings userId _ | updateRiskSettings userId .. | previewPosition userId .. =>
    some userId
  | execute req => some req.userId
  | submit req => some req.userId
  | setEmergencyStop .. => none

variable {py : Platform}

/-- Run alone on rows that are their owners', the request commits on behalf of its user. -/
theorem commitsOwn (request : TenantRequest) {w : World} (chained : w.db.Chained)
    (owned : w.db.Owned) :
    Alone semantics (CommitsOwn request.userId?) (request.service py) (fun _ _ _ => True) {} w := by
  have session : ∀ userId, OwnedSession userId {} w := fun _ => .empty chained owned
  have finished {α : Type} {userId : String} {service : Service α}
      {post : Except Exc α → Session → World → Prop}
      (alone : Alone semantics (CommitsOwn (some userId)) service post {} w) :
      Alone semantics (CommitsOwn (some userId)) (discard service) (fun _ _ _ => True) {} w :=
    alone_discard.mpr (Alone.mono alone fun _ _ _ _ => True.intro)
  cases request with
  | createAccount => exact finished (keeps_addAccount (session _))
  | updateAccount => exact finished (alone_patchAccount_own (session _))
  | deleteAccount => exact finished (alone_removeAccount_own (session _))
  | setApiKey => exact finished (keeps_setApiKey (session _))
  | readApiKey userId =>
    exact finished (keeps_readApiKeyMetadata (tenantInvariant userId) (session _))
  | removeApiKey => exact finished (keeps_removeApiKey (session _))
  | createSignal userId => exact finished (keeps_createManualSignal (tenantInvariant userId) (session _))
  | execute req =>
    exact finished (ends_executeSignalForAccount (tenantInvariant req.userId) (session _))
  | approveWindow userId =>
    exact finished (keeps_approveTestnetOrderWindow (tenantInvariant userId) (session _))
  | submit req => exact finished (ends_submitTestnetOrder (tenantInvariant req.userId) (session _))
  | applyOrderEvent userId =>
    exact finished (keeps_applyTestnetOrderEvent (tenantInvariant userId) (session _))
  | reconcileOrders userId =>
    exact finished (keeps_reconcilePendingTestnetOrders (tenantInvariant userId) (session _))
  | syncAccountState => exact finished (keeps_handleTestnetStateEvent (session _))
  | readRiskSettings userId =>
    exact finished (keeps_readRiskSettings (tenantInvariant userId) (session _))
  | updateRiskSettings => exact finished (keeps_patchTenantRiskSettings (session _))
  | previewPosition userId =>
    exact finished (keeps_previewPositionTarget (tenantInvariant userId) (session _))
  | setEmergencyStop => exact alone_discard.mpr (alone_setEmergencyStop_owned chained owned)

end TenantRequest

/-- What a step leaves of rows that are their owners', if its commits and calls are as asked. -/
theorem owned_of_step {user : Option String} {e : Event backend}
    (commits : e.isAction = true → CommitsOwn user e)
    (before : e.before.db.Chained ∧ e.before.db.Owned) :
    e.after.db.Chained ∧ e.after.db.Owned := by
  cases e with
  | read | abort => exact before
  | commit => exact ⟨(commits rfl).1, (commits rfl).2.1⟩
  | call query answer before' after =>
    have same : after.db = before'.db := commits rfl
    exact same ▸ before

theorem onlyOwn_of_step {user : Option String} {e : Event backend}
    (commits : e.isAction = true → CommitsOwn user e) {userId : String} (issuer : userId ∈ user) :
    OnlyOwn userId e.before.db e.after.db := by
  cases e with
  | read | abort => exact .refl _ _
  | commit => exact (commits rfl).2.2 userId issuer
  | call query answer before after =>
    have same : after.db = before.db := commits rfl
    exact same ▸ .refl userId before.db

theorem TenantRequest.serves {py : Platform} {request : TenantRequest} {before after : World}
    {trace : List (Event backend)} {rest : Prog backend (Except Exc Unit × Session)}
    (owned : before.db.Chained ∧ before.db.Owned)
    (ran : Prog.Run semantics (request.program py) before trace rest after) :
    (after.db.Chained ∧ after.db.Owned) ∧
      ∀ userId ∈ request.userId?, ∀ e ∈ trace, OnlyOwn userId e.before.db e.after.db := by
  obtain ⟨commits, -⟩ := ran.of_alone (request.commitsOwn owned.1 owned.2)
  refine ⟨?_, fun userId issuer e mem => onlyOwn_of_step (commits e mem) issuer⟩
  exact ran.preserves (P := fun world : World => world.db.Chained ∧ world.db.Owned) owned
    fun e mem _ => owned_of_step (commits e mem)

/-- The empty database. -/
theorem owned_empty : ({} : World).db.Chained ∧ ({} : World).db.Owned := by
  refine ⟨⟨?_, ?_, ?_⟩, ?_, ?_, ?_, ?_, ?_, ?_, ?_⟩
  all_goals exact fun _ mem => (List.not_mem_nil mem).elim

/-- In every state that requests of any users reach, every row has the user of the account, the
signal and the execution it belongs to, and each step of the next request adds, changes or deletes
rows of the user it is made by alone. -/
theorem tenants_keep_to_their_rows {py : Platform} {before after : World} {request : TenantRequest}
    {trace : List (Event backend)} {rest : Prog backend (Except Exc Unit × Session)}
    (reached : InTurn semantics (TenantRequest.program py) (fun _ _ => True) {} before)
    (ran : Prog.Run semantics (request.program py) before trace rest after) :
    after.db.Owned ∧
      ∀ userId ∈ request.userId?, ∀ e ∈ trace, OnlyOwn userId e.before.db e.after.db := by
  have owned := reached.invariant (fun w : World => w.db.Chained ∧ w.db.Owned) owned_empty
    fun _ _ _ _ _ owned _ ran => (TenantRequest.serves owned ran).1
  obtain ⟨kept, own⟩ := TenantRequest.serves owned ran
  exact ⟨kept.2, own⟩

/-! ### Two users -/

/-- The world after a request was served. -/
def servedTenant (request : TenantRequest) (world : World) : World :=
  (Exchange.serving ⟨true, .empty⟩ (request.program asciiPlatform) world 40).2.store

/-- One user has an account, the other one a signal. -/
def twoTenants : World :=
  servedTenant (.createSignal "v" oneUnitSignal) (servedTenant (.createAccount "u" tradingAccount) {})

theorem noPassphrase_length : ∀ value ∈ (none : Option String), value.length ≤ 256 :=
  fun value given => absurd given (Option.not_mem_none value)

def storeKey : TenantRequest :=
  .setApiKey "u" "id0"
    { apiKey := "key", apiSecret := "secret", apiKey_length := by decide
      apiSecret_length := by decide, passphrase_length := noPassphrase_length }
    fun _ secret => secret

theorem tenants_keep_to_their_rows_key :
    (∃ secret ∈ (servedTenant storeKey twoTenants).db.secrets, secret.userId = "u") ∧
    (∃ signal ∈ (servedTenant storeKey twoTenants).db.signals, signal.userId = "v") ∧
    (servedTenant storeKey twoTenants).db.Owned ∧
    ∀ userId ∈ storeKey.userId?,
      ∀ e ∈ (Exchange.serving ⟨true, .empty⟩ (storeKey.program asciiPlatform) twoTenants 40).1.map
        Prod.snd, OnlyOwn userId e.before.db e.after.db := by
  have reached : InTurn semantics (TenantRequest.program asciiPlatform) (fun _ _ => True) {}
      twoTenants :=
    (InTurn.start.request True.intro (Exchange.serving_run ⟨true, .empty⟩ _ _ 40)).request
      True.intro (Exchange.serving_run ⟨true, .empty⟩ _ _ 40)
  exact ⟨by decide +kernel, by decide +kernel,
    tenants_keep_to_their_rows reached (Exchange.serving_run ⟨true, .empty⟩ _ _ 40)⟩

end CopyTrading
