import CopyTrading.EventConvergence
import CopyTrading.RiskSettings

/-!
An execution that `execute_signal_for_account` creates is decided on before the request ends:
the check of well formed risk settings returns a result, and the result is committed.
-/

namespace CopyTrading

open Transaction Transaction.Handler DecimalArith

/-! ### Executions that are decided -/

theorem created_not_allowed (status : OrderExecutionStatus) :
    OrderExecutionStatus.created ∉ allowedOrderTransitions status := by
  cases status <;> decide

/-- While an execution is created, its log says nothing else. -/
theorem TransitionLog.all_created {rows : List OrderExecutionTransition}
    (log : TransitionLog rows .created) : ∀ row ∈ rows, row.toStatus = .created := by
  obtain ⟨head, hhead, -, created⟩ := log.first
  cases rows with
  | nil => cases hhead
  | cons first rest =>
    cases hhead
    rcases List.eq_nil_or_concat' rest with rfl | ⟨front, last, rfl⟩
    · intro row hrow
      rw [List.mem_singleton.mp hrow]
      exact created
    · obtain ⟨last', hlast', status⟩ := log.last
      have linked := log.linked
      rw [← List.cons_append] at hlast' linked
      rw [Option.mem_def, List.getLast?_concat] at hlast'
      cases hlast'
      obtain ⟨-, -, joined⟩ := List.isChain_append.mp linked
      obtain ⟨previous, hprevious⟩ : ∃ previous, (head :: front).getLast? = some previous :=
        Option.isSome_iff_exists.mp (by simp)
      have allowed := (joined previous hprevious last rfl).2
      rw [status] at allowed
      exact absurd allowed (created_not_allowed _)

/-- A transition to another status than `CREATED` is committed for the execution. -/
def Decided (id : String) (db : Db) : Prop :=
  ∃ row ∈ db.transitions, row.orderExecutionId = id ∧ row.toStatus ≠ .created

theorem Db.Chained.not_created {db : Db} (chained : db.Chained) {x : OrderExecution}
    (stored : x ∈ db.executions) (decided : Decided x.id db) : x.status ≠ .created := by
  obtain ⟨row, hrow, named, status⟩ := decided
  intro created
  have log := chained.log _ (List.mem_map_of_mem stored)
  change TransitionLog (transitionsOf x.id _) x.status at log
  rw [created] at log
  exact status (log.all_created row (List.mem_filter.mpr ⟨hrow, decide_eq_true named⟩))

/-- The execution of a signal on an account is stored and decided. -/
def Settled (signalId accountId : String) (db : Db) : Prop :=
  ∃ x ∈ db.executions, x.signalId = signalId ∧ x.exchangeAccountId = accountId ∧ Decided x.id db

namespace Settled

variable {signalId accountId : String} {db db' : Db}

theorem flush (settled : Settled signalId accountId db) {work : Work}
    (written : work.Written db db') : Settled signalId accountId db' := by
  obtain ⟨x, stored, signal, account, row, hrow, named, status⟩ := settled
  have same : SameOrder (Table.updated work.executionChanges x) x := sameOrder_updated _ _
  refine ⟨_, (Table.mem_insertAll written.executions).mpr
    (.inl (Table.mem_writeBack.mpr ⟨x, stored, rfl⟩)), same.signalId.trans signal,
    same.exchangeAccountId.trans account, row, ?_, named.trans same.id.symm, status⟩
  exact (Table.mem_insertAll written.transitions).mpr (.inl hrow)

/-- No execution of the signal on the account is left in `CREATED`. -/
theorem not_created (settled : Settled signalId accountId db) (chained : db.Chained)
    {x : OrderExecution} (stored : x ∈ db.executions) (signal : x.signalId = signalId)
    (account : x.exchangeAccountId = accountId) : x.status ≠ .created := by
  obtain ⟨y, hy, signal', account', decided⟩ := settled
  have same : x = y := Table.eq_of_conflict stored hy
    (.inr (.inr (.inr ⟨signal.trans signal'.symm, account.trans account'.symm⟩)))
  exact chained.not_created stored (same ▸ decided)

end Settled

/-- What every commit keeps may be added to an invariant. -/
theorem OrderInvariant.and {sem : Semantics backend} {Each : Event backend → Prop} {scope : Scope}
    {J : Session → World → Prop} (inv : OrderInvariant sem Each scope J) {K : Db → Prop}
    (kept : ∀ {s w after}, J s w → K w.db → sem.flush s.pending w = .ok after → K after.db) :
    OrderInvariant sem Each scope fun s w => J s w ∧ K w.db where
  look holds looked := ⟨inv.look holds.1 looked, looked.db ▸ holds.2⟩
  accounts holds := inv.accounts holds.1
  secrets holds := inv.secrets holds.1
  held holds := inv.held holds.1
  distinct holds := inv.distinct holds.1
  saved holds := inv.saved holds.1
  hold holds stored fresh := ⟨inv.hold holds.1 stored fresh, holds.2⟩
  annotate holds shown covered annotates := ⟨inv.annotate holds.1 shown covered annotates, holds.2⟩
  move holds shown covered allowed := ⟨inv.move holds.1 shown covered allowed, holds.2⟩
  insert holds owner created saved account signal accepted :=
    ⟨inv.insert holds.1 owner created saved account signal accepted, holds.2⟩
  addSignal holds owner := ⟨inv.addSignal holds.1 owner, holds.2⟩
  addRiskSetting holds owned := ⟨inv.addRiskSetting holds.1 owned, holds.2⟩
  addPosition holds owner owned := ⟨inv.addPosition holds.1 owner owned, holds.2⟩
  movePosition holds stored owned := ⟨inv.movePosition holds.1 stored owned, holds.2⟩
  addAuditLog holds owner := ⟨inv.addAuditLog holds.1 owner, holds.2⟩
  commit holds flushed := by
    obtain ⟨each, after, stays⟩ := inv.commit holds.1 flushed
    exact ⟨each, ⟨after, kept holds.1 holds.2 flushed⟩, stays⟩
  abort holds := ⟨inv.abort holds.1, holds.2⟩
  quiet := inv.quiet

theorem settledInvariant (py : Platform) (userId signalId accountId : String) :
    OrderInvariant semantics (CommitsShaped py) (Scope.ofUser userId)
      fun s w => RiskSession py s w ∧ Settled signalId accountId w.db :=
  (riskInvariant py userId).and fun risk settled flushed =>
    settled.flush (Work.written_of_flush (World.flush_ok flushed).1 risk.noStop)

/-! ### The commit that decides -/

section

variable {py : Platform} {id signalId accountId reason : String} {s : Session} {w : World}
  {x : OrderExecution} {α : Type}

/-- The execution of a session that is about to decide on it. -/
structure Deciding (py : Platform) (signalId accountId id : String) (s : Session) (w : World) :
    Prop where
  risk : RiskSession py s w
  clean : s.work = {}
  stored : ∃ x ∈ w.db.executions, x.id = id ∧ x.signalId = signalId ∧
    x.exchangeAccountId = accountId
  shown : ∃ x, s.shown id = some x ∧ x.status = .created

/-- A transition out of `CREATED` is accepted, and decides the execution. -/
theorem alone_decide {next : Service α} {post : Except Exc α → Session → World → Prop}
    {toStatus : OrderExecutionStatus} (deciding : Deciding py signalId accountId id s w)
    (allowed : toStatus ∈ allowedOrderTransitions .created)
    (rest : ∀ w', RiskSession py {} w' → Settled signalId accountId w'.db →
      (∃ row ∈ w'.db.executions, row.id = id) → (∀ userId account, (Scope.ofUser userId).account account w.db →
        (Scope.ofUser userId).account account w'.db) →
      Alone semantics (fun _ => True) next post {} w') :
    Alone semantics (fun _ => True)
      (do
        transitionOrderExecution id toStatus reason
        Session.commit
        next) post s w := by
  obtain ⟨risk, clean, ⟨row, stored, hid, signal, account⟩, x, shown, created⟩ := deciding
  obtain rfl : x.id = id := id_of_shown shown
  have opened : ∀ y s', s.Opens w.db x.id y s' → y = x ∧ s' = s := by
    intro y s' opens
    cases opens with
    | shown hshown => exact ⟨Option.some.inj (hshown.symm.trans shown), rfl⟩
    | loaded hidden => cases hidden.symm.trans shown
  rw [alone_bind]
  refine alone_transition (fun hidden _ => ?_) (fun y s' opens => ?_)
    (fun y s' opens forbidden _ => ?_) fun y s' opens _ => ?_
  · cases hidden.symm.trans shown
  · rw [(opened y s' opens).1]
    exact (riskInvariant py "").saved risk (.shown shown)
  · rw [(opened y s' opens).1, created] at forbidden
    exact absurd allowed forbidden
  · obtain ⟨rfl, rfl⟩ := opened y s' opens
    have number : max (maxSequence y.id w.db.transitions.rows)
        (maxSequence y.id s'.work.transitions) + 1 = s'.nextSequence y.id w.db := rfl
    rw [number, andThen_ok, alone_bind, alone_commit]
    have moved : RiskSession py (s'.moving y toStatus reason .null
        (s'.nextSequence y.id w.db)) w :=
      (riskInvariant py "").move risk shown True.intro (created ▸ allowed)
    have pending : ∃ changes : List (Instance OrderExecution),
        (s'.moving y toStatus reason .null (s'.nextSequence y.id w.db)).pending =
          { transitions :=
              [{ userId := y.userId, orderExecutionId := y.id
                 sequenceNumber := s'.nextSequence y.id w.db, fromStatus := some y.status
                 toStatus, reason, details := .null }]
            accountChanges := s'.accounts, executionChanges := changes } := by
      obtain ⟨work, executions, accounts, secrets⟩ := s'
      subst clean
      exact ⟨_, rfl⟩
    obtain ⟨changes, pending⟩ := pending
    constructor
    · intro after flushed
      refine ⟨True.intro, ?_⟩
      have written := Work.written_of_flush (World.flush_ok flushed).1 moved.noStop
      have same : SameOrder (Table.updated (s'.moving y toStatus reason .null
          (s'.nextSequence y.id w.db)).pending.executionChanges row) row := sameOrder_updated _ _
      have kept := (Table.mem_insertAll written.executions).mpr
        (.inl (Table.mem_writeBack.mpr ⟨row, stored, rfl⟩))
      refine rest after (moved.commit flushed) ⟨_, kept, same.signalId.trans signal,
        same.exchangeAccountId.trans account, ?_⟩ ⟨_, kept, same.id.trans hid⟩ fun userId _ owned =>
          ((riskInvariant py userId).commit moved flushed).2.2.account owned
      have logged := written.transitions
      rw [pending] at logged
      refine ⟨_, (Table.mem_insertAll logged).mpr (.inr List.mem_cons_self), ?_, ?_⟩
      · exact (same.id.trans hid).symm
      · rintro rfl
        exact created_not_allowed _ allowed
    · intro fault refused
      -- nobody else has written a transition since the number was chosen
      have fresh : maxSequence y.id w.db.transitions.rows < s'.nextSequence y.id w.db :=
        Nat.lt_succ_of_le (Nat.le_max_left _ _)
      obtain ⟨after, accepted⟩ := Db.flush_transition w.db _ pending fresh
      have flushed : semantics.flush _ w = .ok _ := congrArg (Except.map _) accepted
      cases flushed.symm.trans refused

/-- Setting other attributes leaves the status that is shown. -/
theorem shown_setting_status {set : OrderExecution.Change → OrderExecution.Change}
    (clean : s.work = {}) (shown : s.shown id = some x)
    (annotates : ∀ change : OrderExecution.Change, (set change).status = change.status) :
    ∃ y, (s.setting id set).shown id = some y ∧ y.status = x.status := by
  obtain ⟨work, executions, accounts, secrets⟩ := s
  subst clean
  have held : (Session.heldExecution ⟨{}, executions, accounts, secrets⟩ id).map Instance.current =
      some x := shown
  obtain ⟨⟨row, change⟩, hfind, rfl⟩ := Option.map_eq_some_iff.mp held
  have hid : row.id = id := by simpa using List.find?_some hfind
  refine ⟨Row.apply (set change) row, ?_, ?_⟩
  · change ((executions.map _).find? _).map Instance.current = _
    rw [List.find?_map]
    have same : ((fun y : Instance OrderExecution => decide (y.loaded.id = id)) ∘
        fun y => if y.loaded.id = id then ⟨y.loaded, set y.change⟩ else y) =
          fun y : Instance OrderExecution => decide (y.loaded.id = id) := by
      funext y
      rw [Function.comp_apply]
      split <;> rfl
    have found : executions.find? (fun y => decide (y.loaded.id = id)) = some ⟨row, change⟩ := hfind
    rw [same, found, Option.map_some, Option.map_some, if_pos hid]
    rfl
  · change (set change).status.getD row.status = change.status.getD row.status
    rw [annotates]

theorem Deciding.annotate (deciding : Deciding py signalId accountId id s w)
    {set : OrderExecution.Change → OrderExecution.Change}
    (annotates : ∀ change : OrderExecution.Change, (set change).status = change.status) :
    Deciding py signalId accountId id (s.setting id set) w := by
  obtain ⟨risk, clean, stored, x, shown, created⟩ := deciding
  refine ⟨(riskInvariant py "").annotate risk shown True.intro annotates, ?_, stored, ?_⟩
  · obtain ⟨work, executions, accounts, secrets⟩ := s
    subst clean
    rfl
  · obtain ⟨y, hy, status⟩ := shown_setting_status clean shown annotates
    exact ⟨y, hy, status.trans created⟩

/-- The execution of the signal on the account is decided, and the logs are chained. -/
abbrev EndsSettled (signalId accountId : String) (w : World) : Prop :=
  w.db.Chained ∧ Settled signalId accountId w.db

theorem Keeps.endsSettled (py : Platform) (userId : String) {service : Service α}
    {Q : α → Session → World → Prop}
    (keeps : Keeps semantics (CommitsShaped py) (Scope.ofUser userId)
      (fun s w => RiskSession py s w ∧ Settled signalId accountId w.db) service Q s w) :
    Alone semantics (fun _ => True) service (fun _ _ w' => EndsSettled signalId accountId w') s w :=
  Alone.mono keeps (fun _ _ _ ends => ⟨ends.1.1.stored, ends.1.2⟩) fun _ _ => True.intro

/-- The execution is handed out at the end of a request. -/
theorem alone_returnFailed {alertRuntime : Bool} {failureType : String}
    (stored : ∃ row ∈ w.db.executions, row.id = id) :
    Alone semantics (fun _ => True)
      (do
        let execution ← Session.loadExecution id
        notifyOrderFailure alertRuntime execution.status failureType
        return execution)
      (fun outcome _ _ => ∃ result, outcome = .ok result) {} w := by
  obtain ⟨row, hrow, hid⟩ := stored
  rw [alone_bind]
  refine alone_loadExecution rfl (fun missing => absurd hid (missing row hrow)) fun x _ _ => ?_
  rw [andThen_ok]
  unfold notifyOrderFailure
  cases alertRuntime with
  | false => exact ⟨x, rfl⟩
  | true => exact fun _ _ _ => ⟨True.intro, x, rfl⟩

theorem alone_failExecution {result : RiskCheckResult} {alertRuntime : Bool}
    (deciding : Deciding py signalId accountId id s w) :
    Alone semantics (fun _ => True) (failExecution id result alertRuntime)
      (fun outcome _ w' => (∃ failed, outcome = .ok failed) ∧ EndsSettled signalId accountId w')
      s w := by
  unfold failExecution
  dsimp only
  rw [alone_bind, alone_setExecution, andThen_ok]
  refine alone_decide (deciding.annotate fun _ => rfl) (by decide) fun w' risk settled stored _ =>
    (alone_returnFailed stored).and ?_
  have inv := settledInvariant py "" signalId accountId
  refine Keeps.endsSettled py "" (Q := fun _ _ _ => True) ?_
  refine (keeps_load inv ⟨risk, settled⟩).bind ?_
  rintro execution s₁ w₁ holds₁ - -
  refine (keeps_notifyOrderFailure inv holds₁).bind ?_
  rintro - s₂ w₂ holds₂ - -
  exact .pure holds₂ True.intro

theorem alone_placeExecution {userId : String} {signal : TradingSignal} {account : ExchangeAccount}
    {side : OrderSide} {quantity : Decimal} (deciding : Deciding py signalId accountId id s w)
    (owned : (Scope.ofUser userId).account account.id w.db) :
    Alone semantics (fun _ => True) (placeExecution py userId id signal account side quantity)
      (fun _ _ w' => EndsSettled signalId accountId w') s w := by
  unfold placeExecution
  refine alone_decide deciding (by decide) fun w' risk settled _ kept => ?_
  refine Keeps.endsSettled py userId (Q := fun _ _ _ => True) ?_
  exact keeps_submitExecution (settledInvariant py userId signalId accountId) ⟨risk, settled⟩
    ⟨fun _ _ _ => True.intro, fun _ _ _ => True.intro⟩ (kept userId account.id owned)

end

/-! ### Before the execution is made -/

section

variable {py : Platform} {userId : String} {s s' : Session} {w w' w₀ : World}

/-- Nothing is pending or held, and the executions are those of the start. -/
structure Unmade (w₀ : World) (s : Session) (w : World) : Prop where
  work : s.work = {}
  held : s.executions = []
  same : w.db.executions.rows = w₀.db.executions.rows

theorem Unmade.look (unmade : Unmade w₀ s w) (looked : Looked s w s' w') : Unmade w₀ s' w' where
  work := looked.work.trans unmade.work
  held := looked.executions.trans unmade.held
  same := looked.db ▸ unmade.same

theorem Looks.raiseIf {sem : Semantics backend} {Each : Event backend → Prop} {condition : Prop}
    [Decidable condition] {raised : Exc} :
    Looks sem Each (Handler.raiseIf condition raised) (fun _ => True) s w := by
  unfold Handler.raiseIf
  split
  · exact .throw True.intro
  · exact .pure True.intro

theorem looks_assertNewOrdersAllowed {sem : Semantics backend} {Each : Event backend → Prop} :
    Looks sem Each assertNewOrdersAllowed
      (fun outcome => w.db.emergencyStopEnabled = false → outcome = .ok ()) s w := by
  unfold assertNewOrdersAllowed
  refine (Looks.query (Q := fun outcome => outcome = .ok w.db.emergencyStopEnabled) rfl).bind ?_ ?_
  · rintro stopped s' w' heq -
    cases heq
    unfold Handler.raiseIf
    split
    · next on => exact .throw fun off => (nomatch on.symm.trans off)
    · exact .pure fun _ => rfl
  · rintro exc heq
    cases heq

theorem looks_getOwnedSignal {sem : Semantics backend} {Each : Event backend → Prop}
    {signalId : String} :
    Looks sem Each (getOwnedSignal userId signalId)
      (fun outcome =>
        match outcome with
        | .ok signal => signal ∈ w.db.signals ∧ signal.id = signalId ∧ signal.userId = userId
        | .error _ => ∀ signal ∈ w.db.signals, ¬ (signal.id = signalId ∧ signal.userId = userId))
      s w := by
  unfold getOwnedSignal
  refine (Looks.query (Q := fun outcome => outcome = .ok (w.db.signals.find? fun row =>
    row.id = signalId ∧ row.userId = userId)) rfl).bind ?_ ?_
  · rintro found s' w' heq -
    have hfound := (Except.ok.inj heq).symm
    cases found with
    | none =>
      refine .throw fun signal stored => ?_
      simpa using Table.not_of_find?_none hfound stored
    | some signal =>
      have named := Table.holds_of_find? hfound
      simp only [decide_eq_true_eq] at named
      exact .pure ⟨Table.mem_of_find? hfound, named⟩
  · rintro exc heq
    cases heq

theorem looks_requireOwnedAccount {sem : Semantics backend} {Each : Event backend → Prop}
    {accountId : String} (seen : s.SeesAccounts w.db) :
    Looks sem Each (requireOwnedAccount userId accountId)
      (fun outcome =>
        match outcome with
        | .ok account =>
            account ∈ w.db.accounts ∧ account.id = accountId ∧ account.userId = userId
        | .error _ =>
            ∀ account ∈ w.db.accounts, ¬ (account.id = accountId ∧ account.userId = userId))
      s w := by
  unfold requireOwnedAccount
  refine (looks_getOwnedAccount seen).bind ?_ ?_
  · rintro found s' w' hfound -
    rcases hfound with ⟨heq, missing⟩ | ⟨row, stored, named, owner, heq⟩
    · cases heq
      exact .throw missing
    · cases heq
      exact .pure ⟨stored, named, owner⟩
  · rintro exc (⟨heq, -⟩ | ⟨_, _, _, _, heq⟩)
    · cases heq
    · cases heq

theorem alone_getOrCreatePosition {accountId symbol : String} (unmade : Unmade w₀ s w)
    (noStop : s.work.stop = none) :
    Alone semantics (fun _ => True) (getOrCreatePosition userId accountId symbol)
      (fun _ s' w' => Unmade w₀ s' w') s w := by
  unfold getOrCreatePosition
  rw [alone_bind, alone_query, andThen_ok]
  split
  · exact unmade
  · rw [alone_bind, alone_add, andThen_ok, alone_bind, alone_commit]
    constructor
    · intro after flushed
      refine ⟨True.intro, ?_⟩
      have written := Work.written_of_flush (World.flush_ok flushed).1 noStop
      have same : after.db.executions.rows = w₀.db.executions.rows := by
        obtain ⟨work, executions, accounts, secrets⟩ := s
        obtain ⟨rfl, rfl, unchanged⟩ := unmade
        have kept := Table.rows_insertAll written.executions
        simpa [Session.pending, unchanged] using kept
      rw [andThen_ok]
      unfold refreshPosition
      rw [alone_bind, alone_query, andThen_ok]
      split
      · exact ⟨rfl, rfl, same⟩
      · exact ⟨rfl, rfl, same⟩
    · intro fault _
      exact ⟨rfl, rfl, unmade.same⟩

theorem alone_resolveSideAndQuantity {signal : TradingSignal} {account : ExchangeAccount}
    (unmade : Unmade w₀ s w) :
    Alone semantics (fun _ => True) (resolveSideAndQuantity signal account)
      (fun _ s' w' => Unmade w₀ s' w') s w := by
  unfold resolveSideAndQuantity
  split
  · split
    · exact unmade
    · exact unmade
  · exact Alone.bind (alone_getOrCreatePosition unmade (by rw [unmade.work]))
      (fun _ _ _ unmade' => unmade') fun _ _ _ unmade' => unmade'

/-- The execution is committed as `CREATED`, and its row is all the session holds. -/
structure Made (signalId accountId id : String) (s : Session) (w : World) : Prop where
  work : s.work = {}
  held : ∀ y ∈ s.executions, y.change = {}
  stored : ∃ x ∈ w.db.executions, x.id = id ∧ x.signalId = signalId ∧
    x.exchangeAccountId = accountId ∧ x.status = .created

/-- Until the execution is committed nothing is made. -/
def MadeOr (w₀ : World) (signalId accountId : String) :
    Except Exc String → Session → World → Prop
  | .ok id, s, w => Made signalId accountId id s w
  | .error _, _, w => w.db.executions.rows = w₀.db.executions.rows

/-- A new row is refused by the database, or by the state machine for having no id. -/
def ExecutionRefused (raised : Exc) : Prop :=
  raised = .integrityError ∨ ∃ message, raised = .invalidOrderStateTransition message

/-- Until the execution is committed nothing is made, and only a refused row ends it. -/
def InsertedOr (w₀ : World) (row : OrderExecution) (outcome : Except Exc String) (s : Session)
    (w : World) : Prop :=
  MadeOr w₀ row.signalId row.exchangeAccountId outcome s w ∧
    match outcome with
    | .ok _ => row ∈ w.db.executions
    | .error raised => ExecutionRefused raised

/-- A new execution is inserted, logged and committed. -/
theorem alone_insertExecution (row : OrderExecution) (unmade : Unmade w₀ s w)
    (created : row.status = .created) :
    Alone semantics (fun _ => True)
      (do
        Session.add (Work.withExecution row)
        Session.flush
        recordInitialOrderState row.id
        Session.commit
        discard <| Session.loadExecution row.id
        return row.id)
      (InsertedOr w₀ row) s w := by
  obtain ⟨work, held, same⟩ := unmade
  have shown : (s.adding (Work.withExecution row)).shown row.id = some row := by
    simp [Session.shown, Session.adding, Work.withExecution, work]
  rw [alone_bind, alone_add, andThen_ok, alone_bind, alone_flush]
  split
  · rw [andThen_ok, alone_bind]
    unfold recordInitialOrderState
    rw [alone_bind]
    refine alone_execution (fun hidden => ?_) fun x s' opens => ?_
    · cases shown.symm.trans hidden
    · cases opens with
      | loaded hidden => cases shown.symm.trans hidden
      | shown hshown =>
        cases shown.symm.trans hshown
        rw [andThen_ok, alone_bind, alone_raiseIf]
        refine ⟨fun refused => absurd created refused, fun _ => ?_⟩
        rw [andThen_ok]
        refine alone_addTransition (fun _ message => ⟨same, .inr ⟨message, rfl⟩⟩) fun _ => ?_
        rw [andThen_ok, alone_bind, alone_commit]
        refine ⟨fun after flushed => ⟨True.intro, ?_⟩, fun _ _ => ⟨same, .inl rfl⟩⟩
        have noStop : s.work.stop = none := by rw [work]
        have written := Work.written_of_flush (World.flush_ok flushed).1 noStop
        have inserted : row ∈ after.db.executions := by
          refine (Table.mem_insertAll written.executions).mpr (.inr ?_)
          exact List.mem_append_right _ (List.mem_singleton_self row)
        rw [andThen_ok, alone_bind, alone_discard]
        refine alone_loadExecution rfl (fun missing => ?_) fun x stored hid => ?_
        · exact absurd rfl (missing row inserted)
        · refine ⟨⟨rfl, fun y hy => ?_, row, inserted, rfl, rfl, rfl, created⟩, inserted⟩
          rw [List.mem_singleton.mp hy]
  · exact ⟨same, .inl rfl⟩

/-- The execution that was created for an order, or why it was not. -/
def CreatedOr (w₀ : World) (userId : String) (signal : TradingSignal) (account : ExchangeAccount)
    (side : OrderSide) (quantity : Decimal) (outcome : Except Exc String) (s : Session)
    (w : World) : Prop :=
  MadeOr w₀ signal.id account.id outcome s w ∧
    match outcome with
    | .ok _ => ∃ stored, Numeric.ofDecimal? 28 10 quantity = some stored ∧ ∃ id executionId,
        newExecution userId signal account side stored id executionId ∈ w.db.executions
    | .error raised => ExecutionRefused raised ∨ Numeric.ofDecimal? 28 10 quantity = none

theorem alone_createExecution {signal : TradingSignal} {account : ExchangeAccount}
    {side : OrderSide} {quantity : Decimal} (unmade : Unmade w₀ s w) :
    Alone semantics (fun _ => True) (createExecution userId signal account side quantity)
      (CreatedOr w₀ userId signal account side quantity) s w := by
  have quiet : ∀ query, Quiet semantics (fun _ => True) query := fun query before answer after h =>
    ⟨True.intro, @db_eq_of_call query answer before after h⟩
  unfold createExecution
  refine Alone.bind (looks_ask (quiet .newUuid)) ?_ ?_
  · rintro id s₁ w₁ ⟨-, looked₁⟩
    refine Alone.bind (looks_ask (quiet .newUuid)) ?_ ?_
    · rintro executionId s₂ w₂ ⟨-, looked₂⟩
      have unmade₂ := (unmade.look looked₁).look looked₂
      unfold toColumn
      split
      · next stored hstored =>
        refine (alone_insertExecution (newExecution userId signal account side stored id executionId)
          unmade₂ rfl).mono fun outcome s' w' inserted => ?_
        refine ⟨inserted.1, ?_⟩
        cases outcome with
        | ok _ => exact ⟨stored, hstored, id, executionId, inserted.2⟩
        | error _ => exact .inl inserted.2
      · next hnone => exact ⟨unmade₂.same, .inr hnone⟩
    · rintro exc s₂ w₂ ⟨⟨_, _, _, _, heq⟩, -⟩
      cases heq
  · rintro exc s₁ w₁ ⟨⟨_, _, _, _, heq⟩, -⟩
    cases heq

/-- A row of risk settings for an account without one is inserted. -/
theorem Db.flush_riskSetting (db : Db) (row : RiskSetting) {work : Work}
    {accountChanges : List (Instance ExchangeAccount)}
    {executionChanges : List (Instance OrderExecution)}
    (only : work = { riskSettings := [row], accountChanges, executionChanges })
    (fresh : ∀ old ∈ db.riskSettings, old.exchangeAccountId ≠ row.exchangeAccountId) :
    ∃ after, db.flush work = .ok after := by
  obtain ⟨riskSettings, inserted⟩ : ∃ after, db.riskSettings.insert row = some after :=
    Table.insert_of_fresh fresh
  have inserted : db.riskSettings.insertAll [row] = some riskSettings :=
    Table.insertAll_cons.mpr ⟨riskSettings, inserted, rfl⟩
  subst only
  unfold Db.flush Work.write
  simp only [Table.insertAll_nil, Table.writeBack_nil, inserted, Option.bind_eq_bind,
    Option.bind_some, Option.pure_def]
  exact ⟨_, rfl⟩

/-- The risk settings of an owned account are found or made. -/
theorem alone_getOrCreateRiskSettings {signalId madeFor accountId id : String}
    (risk : RiskSession py s w) (made : Made signalId madeFor id s w)
    (owned : (Scope.ofUser userId).account accountId w.db) :
    Alone semantics (fun _ => True) (getOrCreateRiskSettings userId accountId)
      (fun outcome s' w' => Made signalId madeFor id s' w' ∧ ∃ settings, outcome = .ok settings)
      s w := by
  unfold getOrCreateRiskSettings
  rw [alone_bind, alone_query, andThen_ok]
  cases found : riskSettingOf userId accountId w.db with
  | some settings => exact ⟨made, settings, rfl⟩
  | none =>
    obtain ⟨work, held, x, stored, pair⟩ := made
    dsimp only
    rw [alone_bind, alone_add, andThen_ok, alone_bind, alone_commit]
    have pending : ({ s with work := { s.work with riskSettings := s.work.riskSettings ++
        [defaultRiskSetting userId accountId] } } : Session).pending =
          { riskSettings := [defaultRiskSetting userId accountId]
            accountChanges := s.accounts, executionChanges := s.executions } := by
      obtain ⟨work', executions, accounts, secrets⟩ := s
      subst work
      rfl
    rw [pending]
    constructor
    · intro after flushed
      refine ⟨True.intro, ?_⟩
      have written := Work.written_of_flush (World.flush_ok flushed).1 rfl
      have kept : x ∈ after.db.executions := by
        refine (Table.mem_insertAll written.executions).mpr (.inl (Table.mem_writeBack.mpr ⟨x, stored, ?_⟩))
        exact updated_executions held x
      have inserted : defaultRiskSetting userId accountId ∈ after.db.riskSettings :=
        (Table.mem_insertAll written.riskSettings).mpr (.inr List.mem_cons_self)
      rw [andThen_ok]
      unfold refreshRiskSetting
      rw [alone_bind, alone_query, andThen_ok]
      split
      · next missing =>
        have other := Table.not_of_find?_none missing inserted
        exact absurd rfl (of_decide_eq_false other)
      · next settings _ =>
        exact ⟨⟨rfl, fun _ h => (List.not_mem_nil h).elim, x, kept, pair⟩, settings, rfl⟩
    · intro fault refused
      -- a row of the account would belong to its owner, and would have been found
      have fresh : ∀ old ∈ w.db.riskSettings, old.exchangeAccountId ≠ accountId := by
        intro old hold named
        obtain ⟨account, haccount, hid, huser⟩ := owned
        have owner := (risk.rows old hold).owner account haccount (hid.trans named.symm)
        have missed := Table.not_of_find?_none found hold
        simp [named, ← owner, huser] at missed
      obtain ⟨after, accepted⟩ := Db.flush_riskSetting w.db
        (defaultRiskSetting userId accountId) rfl fresh
      have flushed : semantics.flush _ w = .ok _ := congrArg (Except.map _) accepted
      cases flushed.symm.trans refused

theorem Made.look {signalId accountId id : String} (made : Made signalId accountId id s w)
    (looked : Looked s w s' w') : Made signalId accountId id s' w' where
  work := looked.work.trans made.work
  held := looked.executions ▸ made.held
  stored := looked.db ▸ made.stored

/-- The execution that was made is opened as `CREATED`. -/
theorem Made.opened {signalId accountId id : String} {x : OrderExecution}
    (made : Made signalId accountId id s w) (risk : RiskSession py s w)
    (opens : s.Opens w.db id x s') : Deciding py signalId accountId id s' w := by
  obtain ⟨row, stored, hid, signal, account, created⟩ := made.stored
  have same : x = row := by
    cases opens with
    | loaded hidden found named => exact execution_unique found stored (named.trans hid.symm)
    | shown shown =>
      rcases Option.or_eq_some_iff.mp shown with added | ⟨-, held⟩
      · rw [made.work] at added
        cases added
      · obtain ⟨y, hy, rfl⟩ := Option.map_eq_some_iff.mp held
        have hmem := List.mem_of_find?_eq_some hy
        have named : y.loaded.id = id := by simpa using List.find?_some hy
        have current : y.current = y.loaded := by
          unfold Instance.current
          rw [made.held y hmem]
          rfl
        rw [current]
        exact execution_unique (risk.held y hmem) stored (named.trans hid.symm)
  refine ⟨((riskInvariant py "").opens risk opens).1, ?_, ⟨row, stored, hid, signal, account⟩,
    x, opens.shows, same ▸ created⟩
  cases opens with
  | shown => exact made.work
  | loaded => exact made.work

/-- New orders are allowed, and the signal and the account belong to the user. -/
structure MayExecute (req : ExecRequest) (db : Db) : Prop where
  running : db.emergencyStopEnabled = false
  signal : ∃ signal ∈ db.signals, signal.id = req.signalId ∧ signal.userId = req.userId
  account : ∃ account ∈ db.accounts, account.id = req.accountId ∧ account.userId = req.userId

/-- The rest of a request for a pair without an execution. -/
def executeFirst (py : Platform) (req : ExecRequest) (signal : TradingSignal)
    (account : ExchangeAccount) : Service OrderExecution := do
  let (side, quantity) ← resolveSideAndQuantity signal account
  let id ← createExecution req.userId signal account side quantity
  let settings ← getOrCreateRiskSettings req.userId req.accountId
  let current ← Session.account account.id
  let result ← Handler.ofExcept <| checkOrderRisk current settings
    { symbol := signal.symbol, side, quantity, price := signal.price.map Numeric.toDecimal }
  discard <| Session.execution id
  Session.setExecution id fun change => { change with riskResult := some result.toDict }
  if result.decision ≠ .passed ∨ quantity ≤ .ofInt 0 then
    failExecution id result req.alertRuntime
  else
    placeExecution py req.userId id signal account side quantity

/-- Until the pair is known to have no execution the request only looks. -/
theorem alone_request {req : ExecRequest} {post : Except Exc OrderExecution → Session → World → Prop}
    (refused : ∀ raised s' w', Looked {} w s' w' → ¬ MayExecute req w.db → post (.error raised) s' w')
    (known : ∀ outcome s' w', w'.db = w.db → (∃ x ∈ w.db.executions,
      x.signalId = req.signalId ∧ x.exchangeAccountId = req.accountId) → post outcome s' w')
    (absent : ∀ signal account s' w', Looked {} w s' w' → signal ∈ w.db.signals →
      signal.id = req.signalId → signal.userId = req.userId → account ∈ w.db.accounts →
      account.id = req.accountId → account.userId = req.userId →
      Alone semantics (fun _ => True) (executeFirst py req signal account) post s' w') :
    Alone semantics (fun _ => True) (req.service py) post {} w := by
  have none : Session.SeesAccounts {} w.db := fun _ h => (List.not_mem_nil h).elim
  unfold ExecRequest.service executeSignalForAccount
  refine Alone.bind looks_assertNewOrdersAllowed ?_ ?_
  · rintro - s₁ w₁ ⟨-, looked₁⟩
    refine Alone.bind looks_getOwnedSignal ?_ ?_
    · rintro signal s₂ w₂ ⟨⟨stored, signalId, owner⟩, looked₂⟩
      have looked₂ := looked₁.trans looked₂
      rw [looked₁.db] at stored
      refine Alone.bind (looks_requireOwnedAccount (looked₂.db ▸ looked₂.accounts none)) ?_ ?_
      · rintro account s₃ w₃ ⟨⟨hstored, accountId, owns⟩, looked₃⟩
        have looked₃ := looked₂.trans looked₃
        rw [looked₂.db] at hstored
        rw [alone_bind, alone_query, andThen_ok]
        split
        · next existing found =>
          have pair := Table.holds_of_find? found
          simp only [decide_eq_true_eq, signalId, accountId] at pair
          have here := looked₃.db ▸ Table.mem_of_find? found
          exact alone_holdExecution (fun _ _ => known _ _ _ looked₃.db ⟨existing, here, pair⟩)
            fun _ => known _ _ _ looked₃.db ⟨existing, here, pair⟩
        · exact absent signal account s₃ w₃ looked₃ stored signalId owner hstored accountId owns
      · rintro raised s₃ w₃ ⟨missing, looked₃⟩
        refine refused _ _ _ (looked₂.trans looked₃) fun may => ?_
        obtain ⟨account, hstored, owned⟩ := may.account
        exact missing account (looked₂.db ▸ hstored) owned
    · rintro raised s₂ w₂ ⟨missing, looked₂⟩
      refine refused _ _ _ (looked₁.trans looked₂) fun may => ?_
      obtain ⟨signal, hstored, owned⟩ := may.signal
      exact missing signal (looked₁.db ▸ hstored) owned
  · rintro raised s₁ w₁ ⟨off, looked₁⟩
    exact refused _ _ _ looked₁ fun may => (nomatch off may.running)

/-- An execution that was made is weighed, and whatever follows decides on it. -/
theorem alone_weigh {signalId accountId id : String} {order : RiskOrderInput}
    {next : RiskCheckResult → Service OrderExecution}
    {post : Except Exc OrderExecution → Session → World → Prop} (risk : RiskSession py s w)
    (made : Made signalId accountId id s w) (owned : (Scope.ofUser userId).account accountId w.db)
    (decides : ∀ result s' w', Deciding py signalId accountId id s' w' →
      (Scope.ofUser userId).account accountId w'.db →
      Alone semantics (fun _ => True) (next result) post s' w') :
    Alone semantics (fun _ => True)
      (do
        let settings ← getOrCreateRiskSettings userId accountId
        let current ← Session.account accountId
        let result ← Handler.ofExcept (checkOrderRisk current settings order)
        discard <| Session.execution id
        Session.setExecution id fun change => { change with riskResult := some result.toDict }
        next result) post s w := by
  have keeps : Alone semantics (fun _ => True) (getOrCreateRiskSettings userId accountId) _ s w :=
    Alone.mono (keeps_getOrCreateRiskSettings (riskInvariant py userId) risk owned)
      (fun _ _ _ h => h) fun _ _ => True.intro
  refine Alone.bind (keeps.and (alone_getOrCreateRiskSettings risk made owned)) ?_ ?_
  · rintro settings s₁ w₁ ⟨⟨risk₁, kept₁, hsettings⟩, made₁, -⟩
    have owned₁ := kept₁.account owned
    obtain ⟨known, -⟩ := hsettings settings rfl
    refine Alone.bind (looks_account risk₁.accounts) ?_ ?_
    · rintro current s₂ w₂ ⟨-, looked₂⟩
      have risk₂ := risk₁.look looked₂
      have made₂ := made₁.look looked₂
      obtain ⟨result, checked⟩ :=
        (risk₁.rows settings known).blocked.checked current order false
      rw [checked, alone_bind, alone_ofExcept, andThen_ok, Handler.discard_bind, alone_bind]
      refine alone_execution (fun _ missing => ?_) fun x s' opens => ?_
      · obtain ⟨row, stored, hid, -⟩ := made₂.stored
        exact absurd hid (missing row stored)
      · rw [andThen_ok, alone_bind, alone_setExecution, andThen_ok]
        refine decides result _ _ ((made₂.opened risk₂ opens).annotate fun _ => rfl) ?_
        rw [looked₂.db]
        exact owned₁
    · rintro exc s₂ w₂ ⟨⟨-, missing⟩ | ⟨_, _, _, heq⟩, -⟩
      · obtain ⟨row, hrow, hid, -⟩ := owned₁
        exact absurd hid (missing row hrow)
      · cases heq
  · rintro exc s₁ w₁ ⟨-, -, settings, heq⟩
    cases heq

theorem alone_executeFirst {req : ExecRequest} {signal : TradingSignal} {account : ExchangeAccount}
    (risk : RiskSession py s w) (unmade : Unmade w₀ s w) (signalId : signal.id = req.signalId)
    (owner : signal.userId = req.userId) (accountId : account.id = req.accountId)
    (owned : (Scope.ofUser req.userId).account account.id w.db) :
    Alone semantics (fun _ => True) (executeFirst py req signal account)
      (fun _ _ w' => w'.db.executions.rows = w₀.db.executions.rows ∨
        EndsSettled req.signalId req.accountId w') s w := by
  have inv := riskInvariant py req.userId
  unfold executeFirst
  rw [← signalId, ← accountId]
  have keeps : Alone semantics (fun _ => True) (resolveSideAndQuantity signal account) _ s w :=
    Alone.mono (keeps_resolveSideAndQuantity inv risk owner owned) (fun _ _ _ h => h)
      fun _ _ => True.intro
  refine Alone.bind (keeps.and (alone_resolveSideAndQuantity unmade)) ?_
    fun _ _ _ ⟨_, unmade⟩ => .inl unmade.same
  rintro ⟨side, quantity⟩ s₁ w₁ ⟨⟨risk₁, kept₁, -⟩, unmade₁⟩
  have owned₁ := kept₁.account owned
  have ends : Alone semantics (fun _ => True)
      (createExecution req.userId signal account side quantity) _ s₁ w₁ :=
    Alone.mono (ends_createExecution inv risk₁ owned₁ True.intro) (fun _ _ _ h => h)
      fun _ _ => True.intro
  refine Alone.bind (ends.and (alone_createExecution unmade₁)) ?_ fun _ _ _ ⟨_, same, _⟩ => .inl same
  rintro id s₂ w₂ ⟨ends₂, made₂, -⟩
  obtain ⟨risk₂, kept₂, -⟩ := ends₂ id rfl
  refine alone_weigh risk₂ made₂ (kept₂.account owned₁) fun result s₃ w₃ deciding owned₃ => ?_
  split
  · exact (alone_failExecution deciding).mono fun _ _ _ ends => .inr ends.2
  · exact (alone_placeExecution deciding owned₃).mono fun _ _ _ ends => .inr ends

/-- The request leaves the executions alone, or decides on the one it makes. -/
theorem alone_executeSignalForAccount (req : ExecRequest) (risk : RiskSession py {} w) :
    Alone semantics (fun _ => True) (req.service py)
      (fun _ _ w' => w'.db.executions.rows = w.db.executions.rows ∨
        EndsSettled req.signalId req.accountId w') {} w := by
  have start : Unmade w {} w := ⟨rfl, rfl, rfl⟩
  refine alone_request (fun _ _ _ looked _ => .inl (start.look looked).same) ?_ ?_
  · intro _ _ w' same _
    exact .inl (congrArg (fun db : Db => db.executions.rows) same)
  · intro signal account s' w' looked _ signalId owner stored accountId owns
    refine alone_executeFirst (risk.look looked) (start.look looked) signalId owner accountId ?_
    exact ⟨account, looked.db ▸ stored, rfl, owns⟩

end

/-! ### Executions left in `CREATED` -/

/-- Where the executions that are `CREATED` come from. -/
structure CreatedFrom (req : ExecRequest) (start : Db) (stage : ExecStage) (db : Db) : Prop where
  rowOf : ∀ row, stage.row? = some row → RowOf req row
  stands : RowStands stage db
  created : ∀ x ∈ db.executions, x.status = .created →
    (∃ old ∈ start.executions, old.id = x.id ∧ old.status = .created) ∨
      ∃ row, stage.row? = some row ∧ SameOrder x row

theorem CreatedFrom.move {req : ExecRequest} {start : Db} {stage stage' : ExecStage}
    {e : Event backend} (from_ : CreatedFrom req start stage e.before.db)
    (move : ExecMove req stage e stage') (sound : e.Sound semantics) :
    CreatedFrom req start stage' e.after.db where
  rowOf row hrow := by
    rcases ExecInv.row?_of_move move sound hrow with hrow | ⟨rowOf, -⟩
    · exact from_.rowOf row hrow
    · exact rowOf
  stands := from_.stands.move move sound
  created x stored created := by
    cases move.effect sound with
    | keeps db hkeep =>
      rw [db] at stored
      rw [hkeep]
      exact from_.created x stored created
    | creates flushed trading _ _ none made =>
      rcases trading.executions_after flushed stored with inserted | ⟨old, hold, same, status⟩
      · subst made
        rw [List.mem_singleton.mp inserted]
        exact .inr ⟨_, rfl, .refl _⟩
      · rcases from_.created old hold (status.symm.trans created) with h | ⟨row, hrow, -⟩
        · rw [same.id]
          exact .inl h
        · rw [none] at hrow
          cases hrow
    | writes flushed trading hkeep status =>
      rcases trading.executions_after flushed stored with inserted | ⟨old, hold, same, hstatus⟩
      · exact (List.not_mem_nil inserted).elim
      · have other (h : old.status = .created) := from_.created old hold h
        rw [hkeep, same.id]
        rcases status with ⟨rfl, -⟩ | ⟨row, hrow, -, rfl⟩
        · refine (other (hstatus.symm.trans created)).imp_right ?_
          rintro ⟨row, hrow, same'⟩
          exact ⟨row, hrow, same.trans same'⟩
        · by_cases named : row.id = old.id
          · obtain ⟨y, hy, same', -⟩ := from_.stands row hrow
            have mine : old = y := execution_unique hold hy (named.symm.trans same'.id.symm)
            exact .inr ⟨row, hrow, same.trans (mine ▸ same')⟩
          · rw [statusAfter_other named] at hstatus
            refine (other (hstatus.symm.trans created)).imp_right ?_
            rintro ⟨row', hrow', same'⟩
            exact ⟨row', hrow', same.trans same'⟩

/-- A request that runs to its end leaves no execution in `CREATED` that was not before. -/
theorem created_of_execute {py : Platform} {req : ExecRequest} {w after : World}
    {trace : List (Event backend)} {outcome : Except Exc OrderExecution × Session}
    (risk : RiskSession py {} w)
    (ran : Prog.Run semantics (req.service py).run w trace (.done outcome) after) :
    ∀ x ∈ after.db.executions, x.status = .created →
      ∃ old ∈ w.db.executions, old.id = x.id ∧ old.status = .created := by
  intro x stored created
  have settles : after.db.executions.rows = w.db.executions.rows ∨
      EndsSettled req.signalId req.accountId after :=
    (ran.of_alone (alone_executeSignalForAccount req risk)).2
  obtain ⟨stage, path, -⟩ := ran.path (executeSignalForAccount_follows py req)
  have from_ : CreatedFrom req w.db stage after.db := by
    refine path.invariant (fun _ stage (world : World) => CreatedFrom req w.db stage world.db) ?_ ?_
    · exact ⟨fun _ h => (nomatch h), .start, fun x stored created => .inl ⟨x, stored, rfl, created⟩⟩
    · intro _ _ _ _ from_ move sound
      exact from_.move move sound
  rcases settles with same | ⟨chained, settled⟩
  · rw [Table.mem_def, same] at stored
    exact ⟨x, stored, rfl, created⟩
  · rcases from_.created x stored created with old | ⟨row, hrow, same⟩
    · exact old
    · have rowOf := from_.rowOf row hrow
      have decided := settled.not_created chained stored (same.signalId.trans rowOf.signalId)
        (same.exchangeAccountId.trans rowOf.accountId)
      exact absurd created decided

/-! ### Every run of requests -/

/-- While no update sets the blocked symbols to `None`, every stored list stays sorted, free of
duplicates and in upper case, the risk check returns a result for every order, and a request that
runs to its end leaves no execution in `CREATED`. -/
theorem risk_settings_stay_well_formed {py : Platform} {start last : World}
    (stable : py.UpperStable) (chained : start.db.Chained) (rows : start.db.RisksShaped py)
    (run : RiskRun py start last) :
    (∀ settings ∈ last.db.riskSettings, ∃ symbols, settings.blockedSymbols = some symbols ∧
      symbols.Pairwise (· < ·) ∧ ∀ symbol ∈ symbols, py.upper symbol = symbol) ∧
    (∀ settings ∈ last.db.riskSettings, ∀ account order allowNonSimulation,
      ∃ result, checkOrderRisk account settings order allowNonSimulation = .ok result) ∧
    ∀ req trace outcome after,
      Prog.Run semantics (ExecRequest.service py req).run last trace (.done outcome) after →
      ∀ x ∈ after.db.executions, x.status = .created →
        ∃ old ∈ last.db.executions, old.id = x.id ∧ old.status = .created := by
  obtain ⟨chained', rows'⟩ := run.invariant stable chained rows
  refine ⟨fun settings hsettings => ?_, fun settings hsettings => ?_, ?_⟩
  · obtain ⟨symbols, heq, sorted, upper⟩ := (rows' settings hsettings).blocked
    exact ⟨symbols, heq, sorted, upper⟩
  · exact (rows' settings hsettings).blocked.checked
  · intro req trace outcome after ran
    exact created_of_execute (.empty chained' rows') ran

/-- An update that blocks two symbols, given in the wrong order and in lower case. -/
def sampleUpdate : RiskSettingUpdate where
  blockedSymbols := some (some ["ethusdt", "BTCUSDT", "ETHUSDT"])

theorem sampleWorld_shaped : sampleWorld.db.RisksShaped asciiPlatform := by
  intro row hrow
  rw [List.mem_singleton.mp hrow]
  refine ⟨blocksWell_default asciiPlatform "u" "a", fun account stored _ => ?_⟩
  rw [List.mem_singleton.mp stored]
  rfl

theorem risk_settings_stay_well_formed_updated :
    ∃ last, RiskRun asciiPlatform sampleWorld last ∧
      (∃ settings ∈ last.db.riskSettings,
        settings.blockedSymbols = some ["BTCUSDT", "ETHUSDT"]) ∧
      ∀ settings ∈ last.db.riskSettings, ∀ account order allowNonSimulation,
        ∃ result, checkOrderRisk account settings order allowNonSimulation = .ok result := by
  let request : RiskRequest := .patch "u" "a" sampleUpdate
  have ran := Exchange.serving_run ⟨true, .empty⟩ (request.service asciiPlatform {}) sampleWorld 20
  have run := RiskRun.start.request request (by simp [request, RiskRequest.KeepsList,
    RiskSettingUpdate.KeepsList, sampleUpdate]) ran
  refine ⟨_, run, by decide +kernel, ?_⟩
  exact (risk_settings_stay_well_formed asciiPlatform_upperStable sampleWorld_chained
    sampleWorld_shaped run).2.1

def nullUpdate : RiskSettingUpdate where
  blockedSymbols := some none

/-- The world after an update that sets the list to `None`. -/
def nullUpdatedWorld : World :=
  (Exchange.serving ⟨true, .empty⟩ (patchRiskSettings asciiPlatform "u" "a" nullUpdate).run
    sampleWorld 20).2.store

/-- The world after the next signal was executed. -/
def nullExecutedWorld : World :=
  (Exchange.serving ⟨true, .empty⟩ (executeSignalForAccount asciiPlatform "u" "s1" "a").run
    nullUpdatedWorld 40).2.store

/-- An update may set the list to `None`. The next execution is made, its check raises, and it
stays `CREATED`. -/
theorem created_left_after_null_blocked_symbols :
    (∃ trace settings s, Prog.Run semantics (patchRiskSettings asciiPlatform "u" "a"
      nullUpdate).run sampleWorld trace (.done (.ok settings, s)) nullUpdatedWorld) ∧
    (∃ trace s, Prog.Run semantics (executeSignalForAccount asciiPlatform "u" "s1" "a").run
      nullUpdatedWorld trace (.done (.error .typeError, s)) nullExecutedWorld) ∧
    nullUpdatedWorld.db.executions.rows = [] ∧
      ∃ x ∈ nullExecutedWorld.db.executions, x.status = .created := by
  refine ⟨?_, Exchange.served_raises (by decide +kernel), by decide +kernel, by decide +kernel⟩
  obtain ⟨settings, accepted⟩ : ∃ settings, returned ((Exchange.serving ⟨true, .empty⟩
      (patchRiskSettings asciiPlatform "u" "a" nullUpdate).run sampleWorld 20).2.client ()) =
        some settings := Option.isSome_iff_exists.mp (by decide +kernel)
  obtain ⟨trace, s, ran⟩ := Exchange.served_returns accepted
  exact ⟨trace, settings, s, ran⟩

end CopyTrading
