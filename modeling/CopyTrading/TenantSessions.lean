import CopyTrading.TenantRows

/-!
Sessions that write on behalf of one user, alone on the database. The elementary changes of the
order services keep what is pending to the user's rows, and so do the operations on accounts.
-/

namespace CopyTrading

open Transaction Transaction.Handler DecimalArith OwnedRow AccountRow

/-- What the session would commit is the user's, and so is every stored row its owner's. -/
structure OwnedSession (userId : String) (s : Session) (w : World) : Prop
    extends ChainedSession s w where
  rows : w.db.Owned
  pending : s.pending.OwnedBy userId w.db

/-- A commit leaves the logs chained and every row with its owner; on behalf of a user, it leaves
the rows of the others as they are. A call writes no row. -/
def CommitsOwn (user : Option String) : Event backend → Prop
  | .commit _ before after => after.db.Chained ∧ after.db.Owned ∧
      ∀ userId ∈ user, OnlyOwn userId before.db after.db
  | .call _ _ before after => after.db = before.db
  | _ => True

theorem quiet_commitsOwn (user : Option String) (query : Query) :
    Quiet semantics (CommitsOwn user) query := by
  intro before answer after answered
  have same : after.db = before.db := @db_eq_of_call query answer before after answered
  exact ⟨same, same⟩

/-- What belongs to the user. -/
def Scope.tenant (userId : String) : Scope where
  userId := userId
  account id db := db.HasAccount id userId
  signal id db := db.HasSignal id userId
  execution row := row.userId = userId
  account_of := Db.HasAccount.of_mem
  signal_of := Db.HasSignal.of_mem
  execution_of belongs := belongs
  stable _ _ belongs := belongs

/-- An instance that was not changed. -/
theorem changesOwn_of_unchanged {userId : String} {table : Table ExchangeAccount}
    {x : Instance ExchangeAccount} (unchanged : x.change = {}) : x.ChangesOwn userId table := by
  refine .inl fun row => ?_
  rw [unchanged]
  exact apply_no_change row

namespace OwnedSession

variable {userId : String} {s s' : Session} {w w' : World} {id : String} {x : OrderExecution}

theorem empty (chained : w.db.Chained) (owned : w.db.Owned) : OwnedSession userId {} w where
  toChainedSession := .empty chained
  rows := owned
  pending := .empty

theorem look (owned : OwnedSession userId s w) (looked : Looked s w s' w') :
    OwnedSession userId s' w' where
  toChainedSession := owned.toChainedSession.look looked
  rows := looked.db ▸ owned.rows
  pending := by
    have held := (owned.toChainedSession.look looked).accounts
    have same : s'.pending = { s.pending with accountChanges := s'.accounts } := by
      unfold Session.pending
      rw [looked.work, looked.executions]
    rw [same, looked.db]
    exact
      { owned.pending with
        accounts :=
          { changed := fun x mem => changesOwn_of_unchanged (held x mem).1
            added := owned.pending.accounts.added } }

theorem hold {row : OrderExecution} (owned : OwnedSession userId s w)
    (stored : row ∈ w.db.executions) (fresh : s.heldExecution row.id = none) :
    OwnedSession userId (s.loading row) w where
  toChainedSession := owned.toChainedSession.hold stored fresh
  rows := owned.rows
  pending :=
    { owned.pending with
      executions := owned.pending.executions.change (x := ⟨row, {}⟩) (.inl fun _ => rfl) }

/-- Rows that are no executions and log nothing are added or changed. -/
theorem adding {extend : Work → Work} (owned : OwnedSession userId s w)
    (executions : (extend s.work).executions = s.work.executions)
    (transitions : (extend s.work).transitions = s.work.transitions)
    (stop : (extend s.work).stop = s.work.stop)
    (pending : (s.adding extend).pending.OwnedBy userId w.db) :
    OwnedSession userId (s.adding extend) w where
  toChainedSession := owned.toChainedSession.adding executions transitions stop
  rows := owned.rows
  pending := pending

/-- An instance of an execution that is shown was loaded from a row of the same user. -/
theorem owner_of_shown (owned : OwnedSession userId s w) (shown : s.shown id = some x)
    {y : Instance OrderExecution} (held : y ∈ s.executions) (named : y.loaded.id = id) :
    y.loaded.userId = x.userId := by
  have stored := owned.held y held
  rcases Option.or_eq_some_iff.mp shown with added | ⟨-, shows⟩
  · have same : x.id = id := by simpa using List.find?_some added
    exact absurd (named.trans same.symm)
      (owned.distinct x (List.mem_of_find?_eq_some added) y.loaded stored)
  · obtain ⟨z, found, rfl⟩ := Option.map_eq_some_iff.mp shows
    have mem := List.mem_of_find?_eq_some found
    have same : z.loaded.id = id := by simpa using List.find?_some found
    rw [execution_unique stored (owned.held z mem) (named.trans same.symm)]
    rfl

theorem hasExecution_of_shown (owned : OwnedSession userId s w) (shown : s.shown id = some x) :
    s.pending.HasExecution w.db x.id x.userId := by
  rcases Option.or_eq_some_iff.mp shown with added | ⟨-, shows⟩
  · exact .inr ⟨x, List.mem_of_find?_eq_some added, rfl, rfl⟩
  · obtain ⟨held, found, rfl⟩ := Option.map_eq_some_iff.mp shows
    exact .inl ⟨held.loaded, owned.held held (List.mem_of_find?_eq_some found), rfl, rfl⟩

/-- Setting attributes leaves the executions with their users. -/
theorem hasExecution_setting {db : Db} {set : OrderExecution.Change → OrderExecution.Change}
    {other user : String} (has : s.pending.HasExecution db other user) :
    (s.setting id set).pending.HasExecution db other user := by
  rcases has with stored | ⟨execution, added, named, belongs⟩
  · exact .inl stored
  · refine .inr ⟨_, List.mem_map_of_mem added, ?_⟩
    split
    · exact ⟨named, belongs⟩
    · exact ⟨named, belongs⟩

/-- Setting attributes of an execution of the user. -/
theorem pending_setting (owned : OwnedSession userId s w) (shown : s.shown id = some x)
    (belongs : x.userId = userId) (set : OrderExecution.Change → OrderExecution.Change) :
    (s.setting id set).pending.OwnedBy userId w.db := by
  have same : ∀ row : OrderExecution,
      SameOrder (if row.id = id then Row.apply (set {}) row else row) row := by
    intro row
    split
    · exact sameOrder_apply _ row
    · exact .refl row
  have executions := owned.pending.executions.map (fun row => (same row).userId)
    fun row => (same row).exchangeAccountId
  refine
    { owned.pending with
      executions := ⟨⟨fun y mem => ?_, executions.added⟩, executions.accounts⟩
      signaled := fun row mem => ?_
      logged := fun row mem => hasExecution_setting (owned.pending.logged row mem) }
  · obtain ⟨held, hheld, rfl⟩ := List.mem_map.mp mem
    split
    · next named =>
      exact .inr ⟨owned.held held hheld, (owned.owner_of_shown shown hheld named).trans belongs⟩
    · exact owned.pending.executions.changed held hheld
  · obtain ⟨old, hold, rfl⟩ := List.mem_map.mp mem
    rw [(same old).signalId]
    exact owned.pending.signaled old hold

/-- Logging a transition of an execution of the user. -/
theorem pending_logging {db : Db} (own : s.pending.OwnedBy userId db)
    (belongs : x.userId = userId) (has : s.pending.HasExecution db x.id userId)
    (fromStatus : Option OrderExecutionStatus) (toStatus : OrderExecutionStatus) (reason : String)
    (details : Json) (sequenceNumber : Nat) :
    (s.logging x fromStatus toStatus reason details sequenceNumber).pending.OwnedBy userId db :=
  { own with
    transitions := own.transitions.add belongs
    logged := by
      intro row mem
      rcases List.mem_append.mp mem with earlier | last
      · exact own.logged row earlier
      · rw [List.mem_singleton.mp last]
        exact has }

theorem annotate {set : OrderExecution.Change → OrderExecution.Change}
    (owned : OwnedSession userId s w) (shown : s.shown id = some x) (belongs : x.userId = userId)
    (annotates : ∀ change : OrderExecution.Change, (set change).status = change.status) :
    OwnedSession userId (s.setting id set) w where
  toChainedSession := owned.toChainedSession.annotate annotates
  rows := owned.rows
  pending := owned.pending_setting shown belongs set

theorem move {toStatus : OrderExecutionStatus} {reason : String} {details : Json}
    (owned : OwnedSession userId s w) (shown : s.shown id = some x) (belongs : x.userId = userId)
    (allowed : toStatus ∈ allowedOrderTransitions x.status) :
    OwnedSession userId (s.moving x toStatus reason details (s.nextSequence x.id w.db)) w where
  toChainedSession := owned.toChainedSession.move shown allowed
  rows := owned.rows
  pending := by
    have named := id_of_shown shown
    have has := owned.hasExecution_of_shown shown
    rw [belongs] at has
    exact pending_logging (owned.pending_setting (named.symm ▸ shown) belongs _) belongs
      (hasExecution_setting has) _ _ _ _ _

theorem insert {row : OrderExecution} {reason : String} (owned : OwnedSession userId s w)
    (belongs : row.userId = userId) (created : row.status = .created) (saved : row.id ≠ "")
    (account : w.db.HasAccount row.exchangeAccountId userId)
    (signal : s.work.HasSignal w.db row.signalId userId)
    (accepted : (w.db.flush (s.adding (Work.withExecution row)).pending).isOk = true) :
    OwnedSession userId ((s.adding (Work.withExecution row)).logging row none .created reason .null
      (s.nextSequence row.id w.db)) w where
  toChainedSession := owned.toChainedSession.insert created saved accepted
  rows := owned.rows
  pending := by
    refine pending_logging ?_ belongs
      (.inr ⟨row, List.mem_append_right _ (List.mem_singleton_self row), rfl, belongs⟩) _ _ _ _ _
    exact
      { owned.pending with
        executions := owned.pending.executions.add belongs account
        signaled := by
          intro other mem
          rcases List.mem_append.mp mem with earlier | last
          · exact owned.pending.signaled other earlier
          · rw [List.mem_singleton.mp last]
            exact signal
        logged := by
          intro transition mem
          rcases owned.pending.logged transition mem with stored | ⟨execution, added, has⟩
          · exact .inl stored
          · exact .inr ⟨execution, List.mem_append_left _ added, has⟩ }

/-- A commit writes on behalf of the user, and every instance expires. -/
theorem commit {after : World} (owned : OwnedSession userId s w)
    (flushed : semantics.flush s.pending w = .ok after) :
    OwnedSession userId {} after ∧ OnlyOwn userId w.db after.db := by
  have written := Work.write_of_flush (World.flush_ok flushed).1 owned.noStop
  exact ⟨.empty (owned.toChainedSession.commit flushed) (owned.pending.owned owned.rows written),
    owned.pending.onlyOwn owned.rows written⟩

end OwnedSession

/-! ### Order services -/

theorem tenantInvariant (userId : String) :
    OrderInvariant semantics (CommitsOwn (some userId)) (Scope.tenant userId)
      (OwnedSession userId) where
  look := OwnedSession.look
  accounts owned := owned.accounts
  secrets owned := owned.secrets
  held owned := owned.held
  distinct owned := owned.distinct
  saved owned := (chainedInvariant userId).saved owned.toChainedSession
  hold := OwnedSession.hold
  annotate := OwnedSession.annotate
  move := OwnedSession.move
  insert := OwnedSession.insert
  addSignal owned belongs := owned.adding rfl rfl rfl
    { owned.pending with
      signals := owned.pending.signals.add belongs
      signaled := by
        intro row mem
        rcases owned.pending.signaled row mem with stored | ⟨signal, added, has⟩
        · exact .inl stored
        · exact .inr ⟨signal, List.mem_append_left _ added, has⟩ }
  addRiskSetting owned account := owned.adding rfl rfl rfl
    { owned.pending with riskSettings := owned.pending.riskSettings.add rfl account }
  addPosition owned belongs account := owned.adding rfl rfl rfl
    { owned.pending with positions := owned.pending.positions.add belongs account }
  movePosition owned stored account := owned.adding rfl rfl rfl
    { owned.pending with
      positions := owned.pending.positions.change
        (.inr ⟨stored, (owned.rows.positions _ stored).user_unique account⟩) }
  addAuditLog owned belongs := owned.adding rfl rfl rfl
    { owned.pending with auditLogs := owned.pending.auditLogs.add belongs }
  commit {s w after} owned flushed := by
    have written := Work.written_of_flush (World.flush_ok flushed).1 owned.noStop
    obtain ⟨committed, only⟩ := owned.commit flushed
    refine ⟨⟨committed.stored, committed.rows, fun user mem => Option.mem_some_iff.mp mem ▸ only⟩,
      committed, hasAccount_of_write written, hasSignal_of_write written, fun covers => ?_⟩
    refine ⟨fun row mem named => ?_, fun _ mem => (List.not_mem_nil mem).elim⟩
    rcases (Table.mem_insertAll written.executions).mp mem with kept | new
    · obtain ⟨old, stored, rfl⟩ := Table.mem_writeBack.mp kept
      have same := sameOrder_updated s.pending.executionChanges old
      exact same.userId.trans (covers.stored old stored (same.id.symm.trans named))
    · exact covers.added row new named
  abort owned := .empty owned.stored owned.rows
  quiet := quiet_commitsOwn (some userId)

end CopyTrading
