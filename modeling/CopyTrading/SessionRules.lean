import CopyTrading.EmergencyStop
import CopyTrading.OrderStateMachine
import CopyTrading.RiskEngine
import CopyTrading.PositionEngine

/-!
Rules for following a protocol through the session operations. Each operation has one
rule that says which events it produces and how it leaves the session; the proofs about
services use these rules and never unfold an operation.
-/

namespace CopyTrading

open Transaction Transaction.Handler DecimalArith

variable {P : Protocol backend} {α : Type} {post : Except Exc α → Session → P.Phase → Prop}
  {s : Session} {m : P.Phase}

theorem follows_query_bind {β : Type} {select : Db → β} {next : β → Service α} :
    Follows P semantics (Session.query select >>= next) post s m ↔
      ∀ world : World, ∃ m', P.Move m (.read world) m' ∧
        Follows P semantics (next (select world.db)) post s m' := Iff.rfl

theorem follows_ask_bind {query : Query} {next : query.Answer → Service α} :
    Follows P semantics (ask query >>= next) post s m ↔
      ∀ before answer after, answers before query answer after →
        ∃ m', P.Move m (.call query answer before after) m' ∧
          Follows P semantics (next answer) post s m' := Iff.rfl

theorem follows_add_bind {extend : Work → Work} {next : Unit → Service α} :
    Follows P semantics (Session.add extend >>= next) post s m ↔
      Follows P semantics (next ()) post { s with work := extend s.work } m := Iff.rfl

theorem follows_setExecution_bind {id : String}
    {set : OrderExecution.Change → OrderExecution.Change} {next : Unit → Service α} :
    Follows P semantics (Session.setExecution id set >>= next) post s m ↔
      Follows P semantics (next ()) post (s.setting id set) m := Iff.rfl

/-- Binding a decimal to a column, which may not hold it. -/
theorem follows_toColumn_bind {precision scale : Nat} {value : Decimal}
    {next : Numeric precision scale → Service α} (refused : post (.error .dataError) s m)
    (bound : ∀ stored, Numeric.ofDecimal? precision scale value = some stored →
      Follows P semantics (next stored) post s m) :
    Follows P semantics (toColumn value >>= next) post s m := by
  unfold toColumn
  cases fits : Numeric.ofDecimal? precision scale value with
  | none => exact refused
  | some stored => exact bound stored fits

theorem follows_toOptionalColumn_bind {precision scale : Nat} {value : Option Decimal}
    {next : Option (Numeric precision scale) → Service α} (refused : post (.error .dataError) s m)
    (bound : ∀ stored, value.map (Numeric.ofDecimal? precision scale) = stored.map some →
      Follows P semantics (next stored) post s m) :
    Follows P semantics (toColumn? value >>= next) post s m := by
  cases value with
  | none => exact bound none rfl
  | some value =>
    simp only [toColumn?, map_eq_pure_bind, bind_assoc]
    refine follows_toColumn_bind refused fun stored fits => ?_
    exact bound (some stored) (congrArg some fits)

/-- Setting attributes of the one instance that is held. -/
theorem Session.setting_held {x : OrderExecution} {c : OrderExecution.Change}
    {set : OrderExecution.Change → OrderExecution.Change} (added : s.work.executions = [])
    (held : s.executions = [⟨x, c⟩]) :
    s.setting x.id set = { s with executions := [⟨x, set c⟩] } := by
  obtain ⟨⟨_, _, _, _, _, _, _, _, _, _, executions, _, _, _, _⟩, held', _, _⟩ := s
  subst added held
  simp [Session.setting]

/-- Setting attributes of the one execution that is still to be inserted. -/
theorem Session.setting_added {row : OrderExecution}
    {set : OrderExecution.Change → OrderExecution.Change} (added : s.work.executions = [row])
    (held : s.executions = []) :
    s.setting row.id set =
      { s with work := { s.work with executions := [Row.apply (set {}) row] } } := by
  obtain ⟨⟨_, _, _, _, _, _, _, _, _, _, executions, _, _, _, _⟩, held', _, _⟩ := s
  subst added held
  simp [Session.setting]

/-- A flush sends the pending rows: one read, after which the session is as before. -/
theorem follows_flush_bind {next : Unit → Service α}
    (accepted : ∀ world : World, ∃ m', P.Move m (.read world) m' ∧
      Follows P semantics (next ()) post s m' ∧ post (.error .integrityError) s m') :
    Follows P semantics (Session.flush >>= next) post s m := by
  unfold Session.flush
  rw [bind_assoc, follows_session_bind, bind_assoc]
  refine follows_select_bind.mpr fun world => ?_
  obtain ⟨m', move, hnext, hfail⟩ := accepted world
  refine ⟨m', move, ?_⟩
  split
  · exact hnext
  · exact hfail

/-- A commit writes what is pending and expires every instance, or raises. -/
theorem follows_commit_bind {next : Unit → Service α} :
    Follows P semantics (Session.commit >>= next) post s m ↔
      (∀ before after, semantics.flush s.pending before = .ok after →
        ∃ m', P.Move m (.commit s.pending before after) m' ∧
          Follows P semantics (next ()) post {} m') ∧
      (∀ world fault, semantics.flush s.pending world = .error fault →
        ∃ m', P.Move m (.abort s.pending world fault) m' ∧
          post (.error .integrityError) {} m') := Iff.rfl

/-- A commit that a column refuses leaves nothing pending. -/
theorem follows_refuseIf_bind {refused : Prop} [Decidable refused] {next : Unit → Service α}
    (rolledBack : refused → post (.error .dataError) {} m)
    (taken : ¬ refused → Follows P semantics (next ()) post s m) :
    Follows P semantics (Session.refuseIf refused >>= next) post s m := by
  unfold Session.refuseIf
  by_cases holds : refused
  · rw [if_pos holds]
    exact rolledBack holds
  · rw [if_neg holds]
    exact taken holds

/-! ### Executions -/

/-- A load finds the row, or there is none. -/
theorem follows_refreshExecution_bind {id : String} {next : OrderExecution → Service α}
    (missing : ∀ world : World, world.db.executions.find? (·.id = id) = none →
      ∃ m', P.Move m (.read world) m' ∧ post (.error .objectDeleted) s m')
    (found : ∀ (world : World) (row : OrderExecution), row ∈ world.db.executions → row.id = id →
      ∃ m', P.Move m (.read world) m' ∧
        Follows P semantics (next row) post
          { s with executions := s.executions.filter (·.loaded.id ≠ id) ++ [⟨row, {}⟩] } m') :
    Follows P semantics (Session.loadExecution id >>= next) post s m := by
  unfold Session.loadExecution
  rw [bind_assoc]
  refine follows_query_bind.mpr fun world => ?_
  cases hfind : world.db.executions.find? (·.id = id) with
  | none => exact missing world hfind
  | some row =>
    exact found world row (Table.mem_of_find? hfind) (by simpa using Table.holds_of_find? hfind)

theorem follows_loadExecution_bind {id : String} {next : OrderExecution → Service α}
    (missing : ∀ world : World, ∃ m', P.Move m (.read world) m' ∧
      post (.error .objectDeleted) s m')
    (found : ∀ (world : World) (row : OrderExecution), row ∈ world.db.executions → row.id = id →
      ∃ m', P.Move m (.read world) m' ∧
        Follows P semantics (next row) post
          { s with executions := s.executions.filter (·.loaded.id ≠ id) ++ [⟨row, {}⟩] } m') :
    Follows P semantics (Session.loadExecution id >>= next) post s m :=
  follows_refreshExecution_bind (fun world _ => missing world) found

/-- Attribute access on the one instance the session holds. -/
theorem follows_execution_held {x : OrderExecution} {c : OrderExecution.Change}
    {next : OrderExecution → Service α} (added : s.work.executions = [])
    (held : s.executions = [⟨x, c⟩]) :
    Follows P semantics (Session.execution x.id >>= next) post s m ↔
      Follows P semantics (next (Row.apply c x)) post s m := by
  unfold Session.execution
  rw [bind_assoc, follows_session_bind]
  simp [added, held, Session.heldExecution, Instance.current]

/-- Attribute access on the one execution that was added and not committed yet. -/
theorem follows_execution_added {row : OrderExecution} {next : OrderExecution → Service α}
    (added : s.work.executions = [row]) :
    Follows P semantics (Session.execution row.id >>= next) post s m ↔
      Follows P semantics (next row) post s m := by
  unfold Session.execution
  rw [bind_assoc, follows_session_bind]
  simp [added]

/-- Attribute access when every instance has expired. -/
theorem follows_execution_expired {id : String} {next : OrderExecution → Service α}
    (added : s.work.executions = []) (held : s.executions = [])
    (missing : ∀ world : World, ∃ m', P.Move m (.read world) m' ∧
      post (.error .objectDeleted) s m')
    (found : ∀ (world : World) (row : OrderExecution), row ∈ world.db.executions → row.id = id →
      ∃ m', P.Move m (.read world) m' ∧
        Follows P semantics (next row) post { s with executions := [⟨row, {}⟩] } m') :
    Follows P semantics (Session.execution id >>= next) post s m := by
  unfold Session.execution
  rw [bind_assoc, follows_session_bind]
  simp only [added, List.find?_nil, Session.heldExecution, held]
  refine follows_loadExecution_bind missing fun world row hrow hid => ?_
  simpa [held] using found world row hrow hid

theorem follows_holdExecution_bind {row : OrderExecution} {next : OrderExecution → Service α}
    (held : s.executions = []) :
    Follows P semantics (Session.holdExecution row >>= next) post s m ↔
      Follows P semantics (next row) post { s with executions := [⟨row, {}⟩] } m := by
  unfold Session.holdExecution
  rw [bind_assoc, follows_session_bind]
  simp [held, Session.heldExecution]

/-! ### Transitions -/

/-- The session after a transition has been logged. -/
def Session.logging (s : Session) (execution : OrderExecution)
    (fromStatus : Option OrderExecutionStatus) (toStatus : OrderExecutionStatus) (reason : String)
    (details : Json) (sequenceNumber : Nat) : Session :=
  { s with
    work :=
      { s.work with
        transitions := s.work.transitions ++
          [{ userId := execution.userId, orderExecutionId := execution.id, sequenceNumber
             fromStatus, toStatus, reason, details }] } }

theorem follows_addTransition_bind {execution : OrderExecution}
    {fromStatus : Option OrderExecutionStatus} {toStatus : OrderExecutionStatus} {reason : String}
    {details : Json} {next : Unit → Service α}
    (unsaved : execution.id = "" → ∀ message,
      post (.error (.invalidOrderStateTransition message)) s m)
    (logged : execution.id ≠ "" → ∀ world : World, ∃ m', P.Move m (.read world) m' ∧
      Follows P semantics (next ()) post
        (s.logging execution fromStatus toStatus reason details
          (max (maxSequence execution.id world.db.transitions.rows)
            (maxSequence execution.id s.work.transitions) + 1)) m') :
    Follows P semantics (addTransition execution fromStatus toStatus reason details >>= next)
      post s m := by
  unfold addTransition
  rw [bind_assoc]
  refine follows_raiseIf_bind (fun empty => unsaved empty _) fun saved => ?_
  simp only [nextSequenceNumber, bind_assoc, pure_bind]
  exact follows_query_bind.mpr fun world => logged saved world

/-- Setting the status of the held instance and logging it, or refusing to. -/
theorem follows_transition_held {x : OrderExecution} {c : OrderExecution.Change}
    {toStatus : OrderExecutionStatus} {reason : String} {details : Json}
    {next : Unit → Service α} (added : s.work.executions = []) (held : s.executions = [⟨x, c⟩])
    (refused : toStatus ∉ allowedOrderTransitions (Row.apply c x).status → ∀ message,
      post (.error (.invalidOrderStateTransition message)) s m)
    (unsaved : x.id = "" → ∀ message,
      post (.error (.invalidOrderStateTransition message))
        { s with executions := [⟨x, { c with status := some toStatus }⟩] } m)
    (logged : x.id ≠ "" → toStatus ∈ allowedOrderTransitions (Row.apply c x).status →
      ∀ world : World, ∃ m', P.Move m (.read world) m' ∧
        Follows P semantics (next ()) post
          (Session.logging { s with executions := [⟨x, { c with status := some toStatus }⟩] }
            (Row.apply c x) (some (Row.apply c x).status) toStatus reason details
            (max (maxSequence x.id world.db.transitions.rows)
              (maxSequence x.id s.work.transitions) + 1)) m') :
    Follows P semantics (transitionOrderExecution x.id toStatus reason details >>= next) post
      s m := by
  unfold transitionOrderExecution
  rw [bind_assoc, follows_execution_held added held, bind_assoc]
  refine follows_raiseIf_bind (fun hrefused => refused hrefused _) fun hallowed => ?_
  rw [bind_assoc, follows_setExecution_bind, Session.setting_held added held]
  exact follows_addTransition_bind unsaved fun hid => logged hid (not_not.mp hallowed)

/-- A transition of an expired instance loads it first. -/
theorem follows_transition_expired {id : String} {toStatus : OrderExecutionStatus}
    {reason : String} {details : Json} {next : Unit → Service α}
    (missing : ∀ world : World, ∃ m', P.Move m (.read world) m' ∧
      post (.error .objectDeleted) {} m')
    (found : ∀ (world : World) (row : OrderExecution), row ∈ world.db.executions → row.id = id →
      ∃ m', P.Move m (.read world) m' ∧
        Follows P semantics (transitionOrderExecution row.id toStatus reason details >>= next) post
          { executions := [⟨row, {}⟩] } m') :
    Follows P semantics (transitionOrderExecution id toStatus reason details >>= next) post {} m := by
  unfold transitionOrderExecution
  rw [bind_assoc]
  refine follows_execution_expired rfl rfl missing fun world row hrow hid => ?_
  obtain ⟨m', move, rest⟩ := found world row hrow hid
  refine ⟨m', move, ?_⟩
  unfold transitionOrderExecution at rest
  rw [bind_assoc, follows_execution_held rfl rfl] at rest
  rw [← hid]
  exact rest

/-- The same for the execution that is still pending as an insert. -/
theorem follows_transition_added {row : OrderExecution} {toStatus : OrderExecutionStatus}
    {reason : String} {details : Json} {next : Unit → Service α}
    (added : s.work.executions = [row]) (held : s.executions = [])
    (refused : toStatus ∉ allowedOrderTransitions row.status → ∀ message,
      post (.error (.invalidOrderStateTransition message)) s m)
    (unsaved : row.id = "" → ∀ message,
      post (.error (.invalidOrderStateTransition message))
        { s with work := { s.work with executions := [{ row with status := toStatus }] } } m)
    (logged : row.id ≠ "" → toStatus ∈ allowedOrderTransitions row.status →
      ∀ world : World, ∃ m', P.Move m (.read world) m' ∧
        Follows P semantics (next ()) post
          (Session.logging
            { s with work := { s.work with executions := [{ row with status := toStatus }] } }
            row (some row.status) toStatus reason details
            (max (maxSequence row.id world.db.transitions.rows)
              (maxSequence row.id s.work.transitions) + 1)) m') :
    Follows P semantics (transitionOrderExecution row.id toStatus reason details >>= next) post
      s m := by
  unfold transitionOrderExecution
  rw [bind_assoc, follows_execution_added added, bind_assoc]
  refine follows_raiseIf_bind (fun hrefused => refused hrefused _) fun hallowed => ?_
  rw [bind_assoc, follows_setExecution_bind, Session.setting_added added held]
  exact follows_addTransition_bind unsaved fun hid => logged hid (not_not.mp hallowed)

/-! ### The emergency stop, accounts and risk settings -/

theorem follows_assertNewOrdersAllowed_bind {next : Unit → Service α}
    (stopped : ∀ world : World, world.db.emergencyStopEnabled = true →
      ∃ m', P.Move m (.read world) m' ∧ post (.error .emergencyStopEnabled) s m')
    (running : ∀ world : World, world.db.emergencyStopEnabled = false →
      ∃ m', P.Move m (.read world) m' ∧ Follows P semantics (next ()) post s m') :
    Follows P semantics (assertNewOrdersAllowed >>= next) post s m := by
  unfold assertNewOrdersAllowed
  rw [bind_assoc]
  refine follows_query_bind.mpr fun world => ?_
  cases hstop : world.db.emergencyStopEnabled with
  | true => exact stopped world hstop
  | false => exact running world hstop

theorem follows_account_held {x : ExchangeAccount} {next : ExchangeAccount → Service α}
    (held : s.accounts = [⟨x, {}⟩]) :
    Follows P semantics (Session.account x.id >>= next) post s m ↔
      Follows P semantics (next x) post s m := by
  unfold Session.account
  rw [bind_assoc, follows_session_bind]
  simp only [held, List.find?_cons, decide_true]
  exact Iff.rfl

theorem follows_holdAccount_bind {row : ExchangeAccount} {next : ExchangeAccount → Service α}
    (held : s.accounts = []) :
    Follows P semantics (Session.holdAccount row >>= next) post s m ↔
      Follows P semantics (next row) post { s with accounts := [⟨row, {}⟩] } m := by
  unfold Session.holdAccount
  rw [bind_assoc, follows_session_bind]
  simp [held]

theorem follows_account_expired {id : String} {next : ExchangeAccount → Service α}
    (held : s.accounts = [])
    (missing : ∀ world : World, ∃ m', P.Move m (.read world) m' ∧
      post (.error .objectDeleted) s m')
    (found : ∀ (world : World) (row : ExchangeAccount), row ∈ world.db.accounts → row.id = id →
      ∃ m', P.Move m (.read world) m' ∧
        Follows P semantics (next row) post { s with accounts := [⟨row, {}⟩] } m') :
    Follows P semantics (Session.account id >>= next) post s m := by
  unfold Session.account
  rw [bind_assoc, follows_session_bind]
  simp only [held, List.find?_nil]
  rw [bind_assoc]
  refine follows_query_bind.mpr fun world => ?_
  cases hfind : world.db.accounts.find? (·.id = id) with
  | none => exact missing world
  | some row =>
    obtain ⟨m', move, rest⟩ := found world row (Table.mem_of_find? hfind)
      (by simpa using Table.holds_of_find? hfind)
    exact ⟨m', move, (follows_holdAccount_bind held).mpr rest⟩

theorem follows_refreshRiskSetting_bind {accountId : String} {next : RiskSetting → Service α}
    (missing : ∀ world : World, ∃ m', P.Move m (.read world) m' ∧
      post (.error .objectDeleted) s m')
    (found : ∀ (world : World) (settings : RiskSetting), settings ∈ world.db.riskSettings →
      settings.exchangeAccountId = accountId →
      ∃ m', P.Move m (.read world) m' ∧ Follows P semantics (next settings) post s m') :
    Follows P semantics (refreshRiskSetting accountId >>= next) post s m := by
  unfold refreshRiskSetting
  rw [bind_assoc]
  refine follows_query_bind.mpr fun world => ?_
  cases hfind : world.db.riskSettings.find? (·.exchangeAccountId = accountId) with
  | none => exact missing world
  | some settings =>
    exact found world settings (Table.mem_of_find? hfind)
      (by simpa using Table.holds_of_find? hfind)

/-- The session with default risk settings pending as an insert. -/
def Session.addingRiskSettings (s : Session) (userId accountId : String) : Session :=
  { s with
    work :=
      { s.work with
        riskSettings := s.work.riskSettings ++ [defaultRiskSetting userId accountId] } }

theorem follows_getOrCreateRiskSettings_bind {userId accountId : String}
    {next : RiskSetting → Service α}
    (found : ∀ (world : World) (settings : RiskSetting), settings ∈ world.db.riskSettings →
      settings.userId = userId → settings.exchangeAccountId = accountId →
      ∃ m', P.Move m (.read world) m' ∧ Follows P semantics (next settings) post s m')
    (missing : ∀ world : World, ∃ m', P.Move m (.read world) m' ∧
      Follows P semantics
        (do
          Session.commit
          let settings ← refreshRiskSetting accountId
          next settings) post (s.addingRiskSettings userId accountId) m') :
    Follows P semantics (getOrCreateRiskSettings userId accountId >>= next) post s m := by
  unfold getOrCreateRiskSettings
  rw [bind_assoc]
  refine follows_query_bind.mpr fun world => ?_
  cases hfind : riskSettingOf userId accountId world.db with
  | some settings =>
    have hrow := Table.holds_of_find? hfind
    simp only [decide_eq_true_eq] at hrow
    exact found world settings (Table.mem_of_find? hfind) hrow.1 hrow.2
  | none =>
    obtain ⟨m', move, rest⟩ := missing world
    refine ⟨m', move, ?_⟩
    simp only [bind_assoc]
    exact follows_add_bind.mpr rest

theorem follows_getOwnedAccount_bind {userId accountId : String}
    {next : Option ExchangeAccount → Service α} (held : s.accounts = [])
    (missing : ∀ world : World, ∃ m', P.Move m (.read world) m' ∧
      Follows P semantics (next none) post s m')
    (found : ∀ (world : World) (row : ExchangeAccount), row ∈ world.db.accounts →
      row.id = accountId → row.userId = userId →
      ∃ m', P.Move m (.read world) m' ∧
        Follows P semantics (next (some row)) post { s with accounts := [⟨row, {}⟩] } m') :
    Follows P semantics (getOwnedAccount userId accountId >>= next) post s m := by
  unfold getOwnedAccount
  rw [bind_assoc]
  refine follows_query_bind.mpr fun world => ?_
  cases hfind : world.db.accounts.find? fun row => row.id = accountId ∧ row.userId = userId with
  | none => exact missing world
  | some row =>
    have hrow := Table.holds_of_find? hfind
    simp only [decide_eq_true_eq] at hrow
    obtain ⟨m', move, rest⟩ := found world row (Table.mem_of_find? hfind) hrow.1 hrow.2
    refine ⟨m', move, ?_⟩
    simp only [map_eq_pure_bind, bind_assoc, pure_bind]
    have holds : Follows P semantics (Session.holdAccount row >>= fun row => next (some row))
        post s m' := (follows_holdAccount_bind held).mpr rest
    exact holds

theorem follows_getApiKeySecretMetadata_bind {userId accountId : String}
    {next : Option ApiKeySecret → Service α} (held : s.secrets = [])
    (missing : ∀ world : World, ∃ m', P.Move m (.read world) m' ∧
      Follows P semantics (next none) post s m')
    (found : ∀ (world : World) (secret : ApiKeySecret), secret ∈ world.db.secrets →
      secret.userId = userId → secret.exchangeAccountId = accountId →
      ∃ m', P.Move m (.read world) m' ∧
        Follows P semantics (next (some secret)) post { s with secrets := [⟨secret, {}⟩] } m') :
    Follows P semantics (getApiKeySecretMetadata userId accountId >>= next) post s m := by
  unfold getApiKeySecretMetadata
  rw [bind_assoc]
  refine follows_query_bind.mpr fun world => ?_
  cases hfind : world.db.secrets.find? fun row =>
      row.userId = userId ∧ row.exchangeAccountId = accountId with
  | none => exact missing world
  | some secret =>
    have hrow := Table.holds_of_find? hfind
    simp only [decide_eq_true_eq] at hrow
    obtain ⟨m', move, rest⟩ := found world secret (Table.mem_of_find? hfind) hrow.1 hrow.2
    refine ⟨m', move, ?_⟩
    simp only [bind_assoc]
    rw [follows_session_bind]
    simpa [held] using rest

/-- A second query hands out the instance of the first. -/
theorem follows_getApiKeySecretMetadata_held {userId : String} {secret : ApiKeySecret}
    {next : Option ApiKeySecret → Service α} (held : s.secrets = [⟨secret, {}⟩])
    (missing : ∀ world : World, ∃ m', P.Move m (.read world) m' ∧
      Follows P semantics (next none) post s m')
    (found : ∀ world : World, ∃ m', P.Move m (.read world) m' ∧
      Follows P semantics (next (some secret)) post s m') :
    Follows P semantics (getApiKeySecretMetadata userId secret.exchangeAccountId >>= next) post
      s m := by
  unfold getApiKeySecretMetadata
  rw [bind_assoc]
  refine follows_query_bind.mpr fun world => ?_
  cases hfind : world.db.secrets.find? fun row =>
      row.userId = userId ∧ row.exchangeAccountId = secret.exchangeAccountId with
  | none => exact missing world
  | some row =>
    obtain ⟨m', move, rest⟩ := found world
    refine ⟨m', move, ?_⟩
    simp only [bind_assoc]
    rw [follows_session_bind]
    simp only [held, List.find?_cons, decide_true]
    exact rest

/-- The stored secrets are decrypted, or one of them is no valid token. -/
theorem follows_getExchangeCredentials_held {py : Platform} {userId : String}
    {secret : ApiKeySecret} {next : Option ExchangeCredentials → Service α}
    (held : s.secrets = [⟨secret, {}⟩])
    (missing : ∀ world : World, ∃ m', P.Move m (.read world) m' ∧
      Follows P semantics (next none) post s m')
    (invalid : ∀ world : World, ∃ m', P.Move m (.read world) m' ∧ post (.error .invalidToken) s m')
    (found : ∀ (credentials : ExchangeCredentials),
      (credentials.passphrase = none ↔ secret.encryptedPassphrase = none) → ∀ world : World,
      ∃ m', P.Move m (.read world) m' ∧ Follows P semantics (next (some credentials)) post s m') :
    Follows P semantics (getExchangeCredentials py userId secret.exchangeAccountId >>= next) post
      s m := by
  unfold getExchangeCredentials
  rw [bind_assoc]
  refine follows_getApiKeySecretMetadata_held held missing fun world => ?_
  cases hpassphrase : secret.encryptedPassphrase with
  | none =>
    cases hkey : py.decryptSecret secret.encryptedApiKey with
    | none => simpa [decryptSecret, hpassphrase, hkey] using invalid world
    | some apiKey =>
      cases hsecret : py.decryptSecret secret.encryptedApiSecret with
      | none => simpa [decryptSecret, hpassphrase, hkey, hsecret] using invalid world
      | some apiSecret =>
        simpa [decryptSecret, hpassphrase, hkey, hsecret] using
          found ⟨apiKey, apiSecret, none⟩ (by simp [hpassphrase]) world
  | some encrypted =>
    cases hdecrypt : py.decryptSecret encrypted with
    | none => simpa [decryptSecret, hpassphrase, hdecrypt] using invalid world
    | some passphrase =>
      cases hkey : py.decryptSecret secret.encryptedApiKey with
      | none => simpa [decryptSecret, hpassphrase, hdecrypt, hkey] using invalid world
      | some apiKey =>
        cases hsecret : py.decryptSecret secret.encryptedApiSecret with
        | none => simpa [decryptSecret, hpassphrase, hdecrypt, hkey, hsecret] using invalid world
        | some apiSecret =>
          simpa [decryptSecret, hpassphrase, hdecrypt, hkey, hsecret] using
            found ⟨apiKey, apiSecret, some passphrase⟩ (by simp [hpassphrase]) world

end CopyTrading
