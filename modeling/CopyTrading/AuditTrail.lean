import CopyTrading.ReadOnlyCheck
import CopyTrading.RiskEngine
import CopyTrading.Transaction.Commits

/-!
Which audit rows a service may commit, in any interleaving and whatever it reads. The account and
risk services commit none; a read-only check commits rows of its own action.
-/

namespace CopyTrading

open Transaction Transaction.Handler DecimalArith

/-- The audit rows a unit of work adds are as `Ok` says, and it leaves the stop alone. -/
structure LogsOnly (Ok : AuditLog → Prop) (work : Work) : Prop where
  stop : work.stop = none
  logs : ∀ log ∈ work.auditLogs, Ok log

/-- The service commits only such work. -/
abbrev Logs {α : Type} (Ok : AuditLog → Prop) (service : Service α) : Prop :=
  Stays (LogsOnly Ok) (fun s : Session => LogsOnly Ok s.work) service

variable {Ok : AuditLog → Prop} {py : Platform} {α : Type}

/-! ### Sessions -/

theorem logs_add {extend : Work → Work} (stop : ∀ work, (extend work).stop = work.stop)
    (logs : ∀ work log, log ∈ (extend work).auditLogs → log ∈ work.auditLogs ∨ Ok log) :
    Logs Ok (Session.add extend) :=
  .modify fun s holds => ⟨(stop s.work).trans holds.stop, fun log hlog =>
    (logs s.work log hlog).elim (holds.logs log) id⟩

/-- A service that adds no audit row. -/
theorem logs_addRows {extend : Work → Work} (stop : ∀ work, (extend work).stop = work.stop)
    (logs : ∀ work, (extend work).auditLogs = work.auditLogs) : Logs Ok (Session.add extend) :=
  logs_add stop fun work _ hlog => .inl (logs work ▸ hlog)

theorem logs_commit : Logs Ok Session.commit := by
  intro s holds
  constructor
  · exact ⟨holds.stop, holds.logs⟩
  · intro outcome
    have fresh : LogsOnly Ok ({} : Session).work := ⟨rfl, fun _ h => (List.not_mem_nil h).elim⟩
    cases outcome with
    | ok written => exact fresh
    | error fault => exact fresh

theorem logs_refuseIf {refused : Prop} [Decidable refused] :
    Logs Ok (Session.refuseIf refused) := by
  unfold Session.refuseIf
  split
  · have dropped : Logs Ok (Handler.modify fun _ : Session => {}) :=
      .modify fun _ _ => ⟨rfl, fun _ h => (List.not_mem_nil h).elim⟩
    exact dropped.bind fun _ => .throw _
  · exact .pure _

theorem logs_query {select : Db → α} : Logs Ok (Session.query select) := .select _

/-! ### Accounts and keys -/

theorem logs_holdAccount (row : ExchangeAccount) : Logs Ok (Session.holdAccount row) := by
  refine .session fun s holds => ?_
  split
  · exact holds
  · exact holds

theorem logs_account (id : String) : Logs Ok (Session.account id) := by
  refine .session fun s holds => ?_
  split
  · exact holds
  · refine logs_query.bind (fun found => ?_) s holds
    split
    · exact .throw _
    · exact logs_holdAccount _

theorem logs_setAccount {id : String} {set : ExchangeAccount → ExchangeAccount.Change} :
    Logs Ok (Session.setAccount id set) := .modify fun _ holds => holds

theorem logs_getOwnedAccount {userId accountId : String} :
    Logs Ok (getOwnedAccount userId accountId) := by
  unfold getOwnedAccount
  refine logs_query.bind fun found => ?_
  split
  · exact .pure _
  · exact (logs_holdAccount _).map _

theorem logs_getApiKeySecretMetadata {userId accountId : String} :
    Logs Ok (getApiKeySecretMetadata userId accountId) := by
  unfold getApiKeySecretMetadata
  refine logs_query.bind fun found => ?_
  split
  · exact .pure _
  · refine .session fun s holds => ?_
    split
    · exact holds
    · exact holds

theorem logs_decryptSecret (encrypted : String) : Logs Ok (decryptSecret py encrypted) := by
  unfold decryptSecret
  split
  · exact .pure _
  · exact .throw _

theorem logs_getExchangeCredentials {userId accountId : String} :
    Logs Ok (getExchangeCredentials py userId accountId) := by
  unfold getExchangeCredentials
  refine logs_getApiKeySecretMetadata.bind fun found => ?_
  split
  · exact .pure _
  · dsimp only
    split
    · exact (Stays.pure _).bind fun _ => (logs_decryptSecret _).bind fun _ =>
        (logs_decryptSecret _).bind fun _ => .pure _
    · exact ((logs_decryptSecret _).map _).bind fun _ => (logs_decryptSecret _).bind fun _ =>
        (logs_decryptSecret _).bind fun _ => .pure _

theorem logs_addAccount {userId : String} {payload : ExchangeAccountCreate} :
    Logs Ok (addAccount userId payload) := by
  refine (Stays.ask _).bind fun id => Stays.bind ?_ fun _ => logs_commit.bind fun _ => logs_account _
  exact logs_addRows (fun _ => rfl) fun _ => rfl

theorem logs_patchAccount {userId accountId : String} {payload : ExchangeAccountUpdate} :
    Logs Ok (patchAccount userId accountId payload) := by
  refine logs_getOwnedAccount.bind fun found => ?_
  split
  · exact .throw _
  · exact logs_setAccount.bind fun _ => logs_commit.bind fun _ => logs_account _

theorem logs_removeAccount {userId accountId : String} :
    Logs Ok (removeAccount userId accountId) := by
  refine logs_getOwnedAccount.bind fun found => ?_
  split
  · exact .throw _
  · exact logs_setAccount.bind fun _ => logs_commit

/-! ### Risk settings -/

theorem logs_refreshRiskSetting {accountId : String} : Logs Ok (refreshRiskSetting accountId) := by
  unfold refreshRiskSetting
  refine logs_query.bind fun found => ?_
  split
  · exact .throw _
  · exact .pure _

theorem logs_getOrCreateRiskSettings {userId accountId : String} :
    Logs Ok (getOrCreateRiskSettings userId accountId) := by
  unfold getOrCreateRiskSettings
  refine logs_query.bind fun found => ?_
  split
  · exact .pure _
  · refine Stays.bind ?_ fun _ => logs_commit.bind fun _ => logs_refreshRiskSetting
    exact logs_addRows (fun _ => rfl) fun _ => rfl

theorem logs_readRiskSettings {userId accountId : String} :
    Logs Ok (readRiskSettings userId accountId) := by
  refine logs_getOwnedAccount.bind fun found => ?_
  split
  · exact .throw _
  · exact logs_getOrCreateRiskSettings

theorem logs_toColumn {precision scale : Nat} (value : Decimal) :
    Logs Ok (toColumn value : Service (Numeric precision scale)) := by
  unfold toColumn
  split
  · exact .pure _
  · exact .throw _

theorem logs_boundColumn {precision scale : Nat} (value : Option (Option Decimal)) :
    Logs Ok (boundColumn value : Service (Option (Option (Numeric precision scale)))) := by
  unfold boundColumn toColumn?
  split
  · exact .pure _
  · refine Stays.map _ ?_
    split
    · exact .pure _
    · exact (logs_toColumn _).map _

theorem logs_notifyEmergencyStopEnabled (wasDisabled alertRuntime : Bool) :
    Logs Ok (notifyEmergencyStopEnabled wasDisabled alertRuntime) := by
  unfold notifyEmergencyStopEnabled
  split
  · exact .ask _
  · exact .pure _

theorem logs_updateRiskSettings {settings : RiskSetting} {data : RiskSettingUpdate}
    {alertRuntime : Bool} : Logs Ok (updateRiskSettings py settings data alertRuntime) := by
  unfold updateRiskSettings
  refine (logs_boundColumn _).bind fun _ => (logs_boundColumn _).bind fun _ => ?_
  refine (logs_boundColumn _).bind fun _ => (logs_boundColumn _).bind fun _ => ?_
  refine (logs_boundColumn _).bind fun _ => (Stays.raiseIf _ _).bind fun _ => ?_
  refine Stays.bind ?_ fun _ => logs_commit.bind fun _ => logs_refreshRiskSetting.bind fun _ =>
    (logs_notifyEmergencyStopEnabled _ _).bind fun _ => .pure _
  exact logs_addRows (fun _ => rfl) fun _ => rfl

theorem logs_patchRiskSettings {userId accountId : String} {payload : RiskSettingUpdate} :
    Logs Ok (patchRiskSettings py userId accountId payload) := by
  refine logs_getOwnedAccount.bind fun found => ?_
  split
  · exact .throw _
  · exact (Stays.raiseIf _ _).bind fun _ => logs_getOrCreateRiskSettings.bind fun _ =>
      logs_updateRiskSettings

/-! ### Read-only checks -/

theorem logs_preparePrivate {client : SignedExchangeHttpClient} {method path : String}
    {credentials : ExchangeCredentials} {params : List (String × String)}
    {body : Option (List (String × Json))} {securityType : ExchangeSecurityType} :
    Logs Ok (client.preparePrivate py method path credentials params body securityType) := by
  unfold SignedExchangeHttpClient.preparePrivate
  split
  · exact (Stays.ask _).bind fun _ => .pure _
  · exact (Stays.ask _).bind fun _ => .pure _
  · unfold SignedExchangeHttpClient.prepareOkxRequest
    split
    · exact .throw _
    · exact (Stays.ask _).bind fun _ => .pure _
  · exact .throw _

theorem logs_getBalances {adapter : ReadOnlyTestnetAdapter} :
    Logs Ok (adapter.getBalances py) := by
  refine Stays.bind ?_ fun response => .ofExcept _
  refine logs_preparePrivate.bind fun prepared => ?_
  exact (Stays.ask _).bind fun reply => .ofExcept _

theorem logs_writeAuthenticationAudit {userId accountId : String} {audit : AuthenticationAudit}
    (ok : ∀ id createdAt, Ok (authenticationLog userId accountId audit id createdAt)) :
    Logs Ok (writeAuthenticationAudit userId accountId audit) := by
  refine (Stays.ask _).bind fun id => (Stays.ask _).bind fun createdAt => Stays.bind ?_ fun _ =>
    logs_commit
  refine logs_add (fun _ => rfl) fun work log hlog => ?_
  rcases List.mem_append.mp hlog with old | new
  · exact .inl old
  · rw [List.mem_singleton.mp new]
    exact .inr (ok id createdAt)

theorem logs_authenticatedResult {accountId : String} {balances : List NormalizedBalance} :
    Logs Ok (authenticatedResult accountId balances) :=
  (logs_account _).bind fun _ => .pure _

/-- A testnet check logs rows of its action. -/
theorem logs_runTestnetReadOnlyCheck {userId accountId : String} {enabled : Bool}
    (ok : ∀ log : AuditLog, log.action = testnetCheckAction → Ok log) :
    Logs Ok (runTestnetReadOnlyCheck py userId accountId enabled) := by
  refine logs_getOwnedAccount.bind fun found => ?_
  split
  · exact .throw _
  · next account =>
    refine logs_getExchangeCredentials.bind fun credentials => ?_
    dsimp only
    split
    · refine Stays.bind ?_ fun client => Stays.bind (Stays.tryCatch logs_getBalances fun raised => ?_)
        fun balances => ?_
      · unfold createTestnetSignedHttpClient
        split
        · exact .pure _
        · exact .throw _
      · exact (logs_writeAuthenticationAudit fun _ _ => ok _ rfl).bind fun _ => .throw _
      · exact (logs_writeAuthenticationAudit fun _ _ => ok _ rfl).bind fun _ =>
          logs_authenticatedResult
    · exact (logs_writeAuthenticationAudit fun _ _ => ok _ rfl).bind fun _ => .throw _

/-- A production check logs rows of its action. -/
theorem logs_runRealReadOnlyCheck {userId accountId : String}
    (ok : ∀ log : AuditLog, log.action = realCheckAction → Ok log) :
    Logs Ok (runRealReadOnlyCheck py userId accountId) := by
  refine logs_getOwnedAccount.bind fun found => ?_
  split
  · exact .throw _
  · next account =>
    refine logs_getExchangeCredentials.bind fun credentials => ?_
    dsimp only
    split
    · refine Stays.bind (Stays.tryCatch logs_getBalances fun raised => ?_) fun balances => ?_
      · exact (logs_writeAuthenticationAudit fun _ _ => ok _ rfl).bind fun _ => .throw _
      · exact (logs_writeAuthenticationAudit fun _ _ => ok _ rfl).bind fun _ =>
          logs_authenticatedResult
    · exact (logs_writeAuthenticationAudit fun _ _ => ok _ rfl).bind fun _ => .throw _

end CopyTrading
