import CopyTrading.Environment
import CopyTrading.Fallible
import CopyTrading.SessionDiscipline
import CopyTrading.TestnetOrder.Lifecycle
import CopyTrading.TestnetOrder.SubmissionRefinement
import CopyTrading.TestnetOrder.SubmissionSafety

/-!
Terminal statuses among concurrent sessions. Each writer checks the transition table against
the status its session has cached; a terminal status that was committed in the meantime is
written over. Where every status written over a terminal one was decided on that one, terminal
statuses stay.
-/

namespace CopyTrading

open Transaction Transaction.Handler

/-! ### What is written -/

/-- Each status that is written was decided on a cached status that is not terminal. -/
def Work.DecidesOpen (work : Work) : Prop :=
  ∀ x ∈ work.executionChanges, x.change.status ≠ none → x.loaded.status ∉ terminalOrderStatuses

/-- Each status that is written over a terminal one was decided on that one. -/
def Work.DecidesOnStored (work : Work) (db : Db) : Prop :=
  ∀ x ∈ work.executionChanges, x.change.status ≠ none → ∀ row ∈ db.executions,
    row.id = x.loaded.id → row.status ∈ terminalOrderStatuses → x.loaded.status = row.status

instance (work : Work) (db : Db) : Decidable (work.DecidesOnStored db) :=
  inferInstanceAs (Decidable (∀ x ∈ work.executionChanges, _))

/-- A commit decides what it writes over a terminal status on that status. -/
def DecidesFresh : Event backend → Prop
  | .commit work before _ => work.DecidesOnStored before.db
  | _ => True

instance : DecidablePred DecidesFresh
  | .commit work before _ => inferInstanceAs (Decidable (work.DecidesOnStored before.db))
  | .read _ | .abort .. | .call .. => .isTrue True.intro

/-- Executions with a terminal status keep it. -/
def KeepsTerminal (before after : Db) : Prop :=
  ∀ row ∈ before.executions, row.status ∈ terminalOrderStatuses →
    ∃ kept ∈ after.executions, kept.id = row.id ∧ kept.status = row.status

instance (before after : Db) : Decidable (KeepsTerminal before after) :=
  inferInstanceAs (Decidable (∀ row ∈ before.executions, _))

theorem KeepsTerminal.refl (db : Db) : KeepsTerminal db db :=
  fun row stored _ => ⟨row, stored, rfl, rfl⟩

theorem KeepsTerminal.trans {a b c : Db} (first : KeepsTerminal a b) (second : KeepsTerminal b c) :
    KeepsTerminal a c := by
  intro row stored terminal
  obtain ⟨mid, midStored, midId, midStatus⟩ := first row stored terminal
  obtain ⟨kept, keptStored, id, status⟩ := second mid midStored (midStatus ▸ terminal)
  exact ⟨kept, keptStored, id.trans midId, status.trans midStatus⟩

/-- No status is written over a terminal one if none is decided on a terminal one. -/
theorem keepsTerminal_of_flush {work : Work} {before after : Db}
    (flushed : before.flush work = .ok after) (open' : work.DecidesOpen)
    (stored : work.DecidesOnStored before) : KeepsTerminal before after := by
  intro row mem terminal
  refine ⟨Table.updated work.executionChanges row, ?_, (sameOrder_updated _ row).id, ?_⟩
  · exact (Table.mem_insertAll (executions_of_flush flushed)).mpr
      (.inl (Table.mem_writeBack.mpr ⟨row, mem, rfl⟩))
  · rcases status_updated work.executionChanges row with kept | ⟨x, hx, same, written⟩
    · exact kept
    · have set : x.change.status ≠ none := by simp [written]
      have decided := stored x hx set row mem same.symm terminal
      exact absurd (decided ▸ terminal) (open' x hx set)

/-! ### Sessions of order events -/

/-- No execution is inserted, and the statuses that are written are reported ones. -/
structure Work.WritesReported (Reported : OrderExecutionStatus → Prop) (work : Work) : Prop where
  inserted : work.executions = []
  reported : ∀ x ∈ work.executionChanges, ∀ status ∈ x.change.status, Reported status

/-- Nothing but transitions and audit rows is added, no row is loaded twice, and a status was set
only where the cached one is not terminal, and to a reported one. -/
structure Session.Decides (Reported : OrderExecutionStatus → Prop) (s : Session) : Prop where
  added : ∃ transitions auditLogs, s.work = { transitions, auditLogs }
  distinct : s.executions.Pairwise fun x y => x.loaded.id ≠ y.loaded.id
  decided : ∀ x ∈ s.executions, x.change.status ≠ none → x.loaded.status ∉ terminalOrderStatuses
  reported : ∀ x ∈ s.executions, ∀ status ∈ x.change.status, Reported status

variable {Reported : OrderExecutionStatus → Prop}

theorem Session.Decides.start : ({} : Session).Decides Reported where
  added := ⟨[], [], rfl⟩
  distinct := .nil
  decided _ mem := (List.not_mem_nil mem).elim
  reported _ mem := (List.not_mem_nil mem).elim

/-- A commit decides each status on an open one, and leaves the risk settings; no order is placed. -/
def DecidesOpenly (Reported : OrderExecutionStatus → Prop) : Event backend → Prop
  | .commit work before after => work.DecidesOpen ∧ work.WritesReported Reported ∧
      after.db.riskSettings = before.db.riskSettings
  | .call query _ _ _ => Query.isPlacement query = false
  | _ => True

/-- Sessions that apply what the exchange reports. -/
def reporting (Reported : OrderExecutionStatus → Prop) : Discipline backend Session where
  Holds := Session.Decides Reported
  Asks := DecidesOpenly Reported

abbrev Reporting {α : Type} (Reported : OrderExecutionStatus → Prop) (service : Service α) : Prop :=
  Obeys (reporting Reported) semantics service

namespace Session.Decides

variable {s : Session} {id : String} {row x : OrderExecution}

theorem hold (decides : s.Decides Reported) (fresh : ∀ y ∈ s.executions, y.loaded.id ≠ row.id) :
    ({ s with executions := s.executions ++ [⟨row, {}⟩] } : Session).Decides Reported where
  added := decides.added
  distinct := by
    refine List.pairwise_append.mpr ⟨decides.distinct, List.pairwise_singleton _ _, ?_⟩
    intro y hy z hz
    rw [List.mem_singleton.mp hz]
    exact fresh y hy
  decided y mem set := by
    rcases List.mem_append.mp mem with held | new
    · exact decides.decided y held set
    · rw [List.mem_singleton.mp new] at set
      exact absurd rfl set
  reported y mem status set := by
    rcases List.mem_append.mp mem with held | new
    · exact decides.reported y held status set
    · rw [List.mem_singleton.mp new] at set
      cases set

/-- An instance that is loaded again replaces the one that is held. -/
theorem load (decides : s.Decides Reported) : ({ s with
    executions := s.executions.filter (·.loaded.id ≠ row.id) ++ [⟨row, {}⟩] } : Session).Decides Reported := by
  have others : ({ s with executions := s.executions.filter (·.loaded.id ≠ row.id) } : Session).Decides Reported :=
    { added := decides.added
      distinct := decides.distinct.filter _
      decided := fun y mem => decides.decided y (List.mem_of_mem_filter mem)
      reported := fun y mem => decides.reported y (List.mem_of_mem_filter mem) }
  exact others.hold fun y mem => by simpa using (List.mem_filter.mp mem).2

theorem not_added (decides : s.Decides Reported) : s.work.executions = [] := by
  obtain ⟨transitions, auditLogs, work⟩ := decides.added
  rw [work]

/-- The execution that is shown is the one instance of its row. -/
theorem shown_eq (decides : s.Decides Reported) (shown : s.shown id = some x)
    {y : Instance OrderExecution} (held : y ∈ s.executions) (named : y.loaded.id = id) :
    x = y.current := by
  unfold Session.shown at shown
  rw [decides.not_added, List.find?_nil, Option.none_or] at shown
  obtain ⟨z, found, rfl⟩ := Option.map_eq_some_iff.mp shown
  have foundId : z.loaded.id = id := by simpa using List.find?_some found
  by_contra different
  have other : y ≠ z := fun same => different (congrArg Instance.current same.symm)
  have apart : ∀ a b : Instance OrderExecution, a.loaded.id ≠ b.loaded.id → b.loaded.id ≠ a.loaded.id :=
    fun _ _ distinct => distinct.symm
  have symmetric : Std.Symm fun a b : Instance OrderExecution => a.loaded.id ≠ b.loaded.id := ⟨apart⟩
  exact decides.distinct.forall held (List.mem_of_find?_eq_some found) other
    (named.trans foundId.symm)

theorem setting (decides : s.Decides Reported)
    {set : OrderExecution.Change → OrderExecution.Change}
    (sets : ∀ y ∈ s.executions, y.loaded.id = id → (set y.change).status ≠ none →
      y.loaded.status ∉ terminalOrderStatuses)
    (reports : ∀ y ∈ s.executions, y.loaded.id = id → ∀ status ∈ (set y.change).status,
      Reported status) : (s.setting id set).Decides Reported where
  added := by
    obtain ⟨transitions, auditLogs, work⟩ := decides.added
    exact ⟨transitions, auditLogs, by simp [Session.setting, work]⟩
  distinct := by
    refine List.pairwise_map.mpr (decides.distinct.imp fun {y z} other => ?_)
    have same (y : Instance OrderExecution) : (if y.loaded.id = id then
        (⟨y.loaded, set y.change⟩ : Instance OrderExecution) else y).loaded = y.loaded := by
      split <;> rfl
    rw [same, same]
    exact other
  decided y mem := by
    obtain ⟨held, loaded, rfl⟩ := List.mem_map.mp mem
    split
    · next same => exact sets held loaded same
    · exact decides.decided held loaded
  reported y mem := by
    obtain ⟨held, loaded, rfl⟩ := List.mem_map.mp mem
    split
    · next same => exact reports held loaded same
    · exact decides.reported held loaded

/-- Setting attributes other than the status. -/
theorem annotate (decides : s.Decides Reported)
    {set : OrderExecution.Change → OrderExecution.Change}
    (annotates : ∀ change, (set change).status = change.status) :
    (s.setting id set).Decides Reported := by
  refine decides.setting (fun y held _ written => decides.decided y held ?_)
    fun y held _ status written => decides.reported y held status ?_
  · rwa [annotates] at written
  · rwa [annotates] at written

/-- A reported status is set where the one that is shown is not terminal. -/
theorem set (decides : s.Decides Reported) {status : OrderExecutionStatus}
    {set : OrderExecution.Change → OrderExecution.Change}
    (sets : ∀ change, (set change).status = some status) (reported : Reported status)
    (shown : s.shown id = some x) (unended : x.status ∉ terminalOrderStatuses) :
    (s.setting id set).Decides Reported := by
  refine decides.setting (fun y held named _ => ?_) fun y _ _ status' written => ?_
  · by_cases already : y.change.status = none
    · -- nothing was set yet, so the status that is shown is the loaded one
      have status : x.status = y.loaded.status := by
        rw [decides.shown_eq shown held named]
        exact congrArg (Option.getD · y.loaded.status) already
      exact status ▸ unended
    · exact decides.decided y held already
  · rw [sets] at written
    cases written
    exact reported

/-- Rows that are added to the two logs. -/
theorem add (decides : s.Decides Reported) (extend : Work → Work)
    (logs : ∀ transitions auditLogs, ∃ transitions' auditLogs',
      extend { transitions, auditLogs } = { transitions := transitions', auditLogs := auditLogs' }) :
    ({ s with work := extend s.work } : Session).Decides Reported where
  added := by
    obtain ⟨transitions, auditLogs, work⟩ := decides.added
    rw [work]
    exact logs transitions auditLogs
  distinct := decides.distinct
  decided := decides.decided
  reported := decides.reported

/-- What a commit of the session hands over. -/
theorem deciding (decides : s.Decides Reported) {before after : World}
    (flushed : semantics.flush s.pending before = .ok after) :
    DecidesOpenly Reported (.commit s.pending before after) := by
  obtain ⟨transitions, auditLogs, work⟩ := decides.added
  refine ⟨decides.decided, ⟨decides.not_added, decides.reported⟩, ?_⟩
  have written := Work.written_of_flush (World.flush_ok flushed).1
    (by simp [Session.pending, work] : s.pending.stop = none)
  have same := written.riskSettings
  simp only [Session.pending, work, Table.writeBack_nil, Table.insertAll_nil, Option.some.injEq] at same
  exact same.symm

end Session.Decides

/-! ### Operations -/

section operations

variable {α β : Type} {id userId exchangeAccountId : String}

theorem allowsReads_reporting : AllowsReads (reporting Reported) where
  reads _ := True.intro
  accounts _ _ decides := ⟨decides.added, decides.distinct, decides.decided, decides.reported⟩
  secrets _ _ decides := ⟨decides.added, decides.distinct, decides.decided, decides.reported⟩

theorem reporting_query (select : Db → α) : Reporting Reported (Session.query select) :=
  allowsReads_reporting.query select

theorem reporting_ask {query : Query} (idle : query.isPlacement = false) :
    Reporting Reported (ask query) := .ask fun _ _ _ => idle

theorem reporting_add {extend : Work → Work} (logs : ∀ transitions auditLogs,
    ∃ transitions' auditLogs', extend { transitions, auditLogs } =
      { transitions := transitions', auditLogs := auditLogs' }) :
    Reporting Reported (Session.add extend) :=
  .modify fun _ decides => Session.Decides.add decides extend logs

theorem reporting_commit : Reporting Reported Session.commit := by
  intro s decides
  rw [← bind_pure Session.commit]
  refine follows_commit_bind.mpr ⟨fun before after flushed => ?_, fun world fault refused => ?_⟩
  · exact ⟨(), Session.Decides.deciding decides flushed, .start⟩
  · exact ⟨(), True.intro, .start⟩

theorem reporting_refuseIf {refused : Prop} [Decidable refused] :
    Reporting Reported (Session.refuseIf refused) := by
  unfold Session.refuseIf
  split
  · exact Obeys.bind (.modify fun _ _ => .start) fun _ => .throw _
  · exact .pure _

theorem reporting_holdExecution (row : OrderExecution) :
    Reporting Reported (Session.holdExecution row) := by
  refine .session_bind fun s decides => ?_
  cases held : s.heldExecution row.id with
  | some x => exact decides
  | none =>
    refine Session.Decides.hold decides fun y mem => ?_
    simpa using List.find?_eq_none.mp held y mem

theorem reporting_loadExecution (id : String) :
    Reporting Reported (Session.loadExecution id) := by
  intro s decides
  rw [← bind_pure (Session.loadExecution id)]
  refine follows_refreshExecution_bind (fun world _ => ⟨(), True.intro, decides⟩) ?_
  rintro world row - rfl
  exact ⟨(), True.intro, Session.Decides.load decides⟩

theorem reporting_execution (id : String) : Reporting Reported (Session.execution id) := by
  refine .session_bind fun s decides => ?_
  rw [Session.Decides.not_added decides, List.find?_nil]
  cases s.heldExecution id with
  | some x => exact decides
  | none => exact reporting_loadExecution id s decides

theorem reporting_addTransition {execution : OrderExecution}
    {fromStatus : Option OrderExecutionStatus} {toStatus : OrderExecutionStatus} {reason : String}
    {details : Json} :
    Reporting Reported (addTransition execution fromStatus toStatus reason details) := by
  unfold addTransition nextSequenceNumber
  refine (Obeys.raiseIf _ _).bind fun _ => Obeys.bind ?_ fun _ => ?_
  · exact (reporting_query _).bind fun _ => Obeys.session.bind fun _ => .pure _
  · exact reporting_add fun _ _ => ⟨_, _, rfl⟩

/-- A transition sets a status that the cached one allows. -/
theorem reporting_transition {toStatus : OrderExecutionStatus} {reason : String} {details : Json}
    (reported : Reported toStatus) :
    Reporting Reported (transitionOrderExecution id toStatus reason details) := by
  intro s decides
  unfold transitionOrderExecution
  refine ((reporting_execution id s decides).and (execution_shows fun _ => True.intro)).bind ?_
    fun _ _ _ ends => ends.1
  rintro x s₁ - ⟨decides₁, shown⟩
  refine follows_raiseIf_bind (fun _ => decides₁) fun allowed => ?_
  refine follows_setExecution_bind.mpr (reporting_addTransition _ ?_)
  refine Session.Decides.set decides₁ (fun _ => rfl) reported (shown x rfl) fun terminal => ?_
  rw [allowed_of_terminal terminal] at allowed
  exact allowed List.not_mem_nil

variable {event : NormalizedTestnetOrderEvent}

theorem reporting_attemptTransition {reason : String} (reported : Reported event.status) :
    Reporting Reported (attemptTransition id event reason) := by
  unfold attemptTransition
  refine .tryCatch ((reporting_transition reported).bind fun _ => .pure _) fun raised => ?_
  split
  · exact .pure _
  · exact .throw _

theorem reporting_commitOrderEvent {execution : OrderExecution} :
    Reporting Reported (commitOrderEvent execution event) := by
  unfold commitOrderEvent
  refine reporting_refuseIf.bind fun _ => Obeys.bind ?_ fun _ => reporting_commit.bind fun _ =>
    (reporting_loadExecution _).bind fun _ => .pure _
  refine .modify fun s decides => Session.Decides.annotate decides fun change => ?_
  split <;> rfl

theorem reporting_applyTestnetOrderEvent {reason : String} (reported : Reported event.status) :
    Reporting Reported (applyTestnetOrderEvent userId exchangeAccountId event reason) := by
  unfold applyTestnetOrderEvent
  refine (Obeys.raiseIf _ _).bind fun _ => (Obeys.raiseIf _ _).bind fun _ =>
    (reporting_query _).bind fun found => ?_
  split
  · exact .pure _
  · refine (reporting_holdExecution _).bind fun execution => ?_
    split
    · exact .pure _
    · refine (reporting_attemptTransition reported).bind fun allowed => ?_
      split
      · exact reporting_commitOrderEvent
      · exact .pure _

/-! ### What exchanges report -/

section normalized

variable {py : Platform} {payload : List (String × Json)}

theorem statusOf_ne_failed {raw : Json} {table : List (String × OrderExecutionStatus)}
    {status : OrderExecutionStatus} (unfailed : ∀ entry ∈ table, entry.2 ≠ .failed)
    (read : statusOf py raw table = .ok status) : status ≠ .failed := by
  unfold statusOf at read
  split at read
  · next found =>
    cases read
    obtain ⟨front, back, rfl, -⟩ := List.lookup_eq_some_iff.mp found
    exact unfailed (py.strOf raw, status) (by simp)
  · cases read

theorem normalizeBinance_ne_failed (read : normalizeBinance py payload = .ok event) :
    event.status ≠ .failed := by
  unfold normalizeBinance at read
  split at read
  · obtain ⟨status, hstatus, rest⟩ := Fallible.bind_eq_ok.mp read
    obtain ⟨filledQuantity, -, rest⟩ := Fallible.bind_eq_ok.mp rest
    cases rest
    exact statusOf_ne_failed (by decide) hstatus
  · cases read

theorem normalizeBybit_ne_failed (read : normalizeBybit py payload = .ok event) :
    event.status ≠ .failed := by
  unfold normalizeBybit at read
  obtain ⟨row, -, rest⟩ := Fallible.bind_eq_ok.mp read
  obtain ⟨status, hstatus, rest⟩ := Fallible.bind_eq_ok.mp rest
  obtain ⟨filledQuantity, -, rest⟩ := Fallible.bind_eq_ok.mp rest
  cases rest
  exact statusOf_ne_failed (by decide) hstatus

theorem normalizeOkx_ne_failed (read : normalizeOkx py payload = .ok event) :
    event.status ≠ .failed := by
  unfold normalizeOkx at read
  obtain ⟨row, -, rest⟩ := Fallible.bind_eq_ok.mp read
  obtain ⟨status, hstatus, rest⟩ := Fallible.bind_eq_ok.mp rest
  obtain ⟨filledQuantity, -, rest⟩ := Fallible.bind_eq_ok.mp rest
  cases rest
  exact statusOf_ne_failed (by decide) hstatus

theorem normalizeBinanceRest_ne_failed (read : normalizeBinanceRest py payload = .ok event) :
    event.status ≠ .failed := by
  unfold normalizeBinanceRest at read
  obtain ⟨status, hstatus, rest⟩ := Fallible.bind_eq_ok.mp read
  obtain ⟨filledQuantity, -, rest⟩ := Fallible.bind_eq_ok.mp rest
  cases rest
  exact statusOf_ne_failed (by decide) hstatus

/-- No exchange reports an order as failed. -/
theorem normalizeUserStream_ne_failed {exchangeName : ExchangeName}
    (read : normalizeTestnetUserStreamOrderEvent py exchangeName payload = .ok event) :
    event.status ≠ .failed := by
  cases exchangeName with
  | binance => exact normalizeBinance_ne_failed read
  | bybit => exact normalizeBybit_ne_failed read
  | okx => exact normalizeOkx_ne_failed read
  | mock => cases read

theorem normalizeRest_ne_failed {exchangeName : ExchangeName} {response : Json}
    (read : normalizeTestnetRestOrderStatus py exchangeName response = .ok event) :
    event.status ≠ .failed := by
  unfold normalizeTestnetRestOrderStatus at read
  split at read
  · exact normalizeBinanceRest_ne_failed read
  · unfold normalizeBybitRest at read
    split at read
    · cases read
    · exact normalizeBybit_ne_failed read
  · unfold normalizeOkxRest at read
    split at read
    · cases read
    · exact normalizeOkx_ne_failed read
  · cases read
  · cases read

end normalized

/-! ### The reconciliation -/

/-- A lookup is no order. -/
theorem reporting_getPrivate {py : Platform} {client : SignedExchangeHttpClient} {path : String}
    {credentials : ExchangeCredentials} {params : List (String × String)}
    {securityType : ExchangeSecurityType} :
    Reporting Reported (client.getPrivate py path credentials params securityType) := by
  have sends (prepared : PreparedExchangeRequest) (get : prepared.method = "GET") :
      Reporting Reported (transportRequest py prepared) := by
    refine Obeys.bind (reporting_ask ?_) fun _ => .ofExcept _
    simp [Query.isPlacement, PreparedExchangeRequest.clientOrderId, get]
  unfold SignedExchangeHttpClient.getPrivate SignedExchangeHttpClient.preparePrivate
  split
  · exact (reporting_ask rfl).bind fun _ => sends _ rfl
  · exact (reporting_ask rfl).bind fun _ => sends _ rfl
  · unfold SignedExchangeHttpClient.prepareOkxRequest
    split
    · exact .throw _
    · exact (reporting_ask rfl).bind fun _ => sends _ rfl
  · exact .throw _

theorem reporting_reconcileExecution {py : Platform} {exchangeName : ExchangeName}
    {credentials : ExchangeCredentials} {client : SignedExchangeHttpClient} :
    Reporting (· ≠ .failed)
      (reconcileExecution py userId exchangeAccountId exchangeName credentials client id) := by
  unfold reconcileExecution
  refine Obeys.bind (.tryCatch ?_ fun raised => ?_) fun outcome => ?_
  · refine (reporting_execution _).bind fun execution => reporting_getPrivate.bind fun response => ?_
    refine .ofExcept_bind fun event read => ?_
    exact (reporting_applyTestnetOrderEvent (normalizeRest_ne_failed read)).bind fun _ => .pure _
  · split
    · exact .pure _
    · exact .throw _
  · refine (reporting_execution _).bind fun execution => ?_
    split
    · exact .pure _
    · exact .pure _

theorem reporting_reconcileExecutions {py : Platform} {exchangeName : ExchangeName}
    {credentials : ExchangeCredentials} {client : SignedExchangeHttpClient} (ids : List String) :
    Reporting (· ≠ .failed)
      (reconcileExecutions py userId exchangeAccountId exchangeName credentials client ids) := by
  induction ids with
  | nil => exact .pure _
  | cons id rest ih => exact reporting_reconcileExecution.bind fun _ => ih.bind fun _ => .pure _

theorem reporting_holdExecutions (rows : List OrderExecution) :
    Reporting Reported (holdExecutions rows) := by
  induction rows with
  | nil => exact .pure _
  | cons row rest ih =>
    unfold holdExecutions
    rw [Handler.discard_bind]
    exact (reporting_holdExecution row).bind fun _ => ih

theorem reporting_reconcilePendingTestnetOrders {py : Platform} :
    Reporting (· ≠ .failed) (reconcilePendingTestnetOrders py userId exchangeAccountId) := by
  unfold reconcilePendingTestnetOrders
  refine allowsReads_reporting.getOwnedAccount.bind fun owned => (Obeys.ofExcept _).bind fun account =>
    allowsReads_reporting.getExchangeCredentials.bind fun credentials => ?_
  split
  · exact .throw _
  · refine Obeys.bind ?_ fun client => (reporting_query _).bind fun rows =>
      (reporting_holdExecutions rows).bind fun _ =>
        (reporting_reconcileExecutions _).bind fun items => Obeys.bind ?_ fun _ => .pure _
    · unfold createTestnetSignedHttpClient
      split
      · exact .pure _
      · exact .throw _
    · unfold writeReconciliationAudit
      exact (reporting_ask rfl).bind fun _ => (reporting_ask rfl).bind fun _ =>
        (reporting_add fun _ _ => ⟨_, _, rfl⟩).bind fun _ => reporting_commit

end operations

/-! ### Submissions -/

section submissions

variable {py : Platform} {req : SubmitRequest} {stage stage' : SubmitStage py req}

theorem Work.DecidesOpen.of_none {work : Work} {inserted : List OrderExecution}
    {moved : List (Instance Position)} (trading : TradingWork work inserted none moved) :
    work.DecidesOpen :=
  fun x mem written => absurd (trading.statuses x mem) written

theorem StatusWrite.decidesOpen {work : Work} {x : OrderExecution} {status : OrderExecutionStatus}
    {sequenceNumber : Nat} (write : StatusWrite work x status sequenceNumber) :
    work.DecidesOpen := by
  obtain ⟨change, transition, rfl, -⟩ := write.work_eq
  intro y mem _
  rw [List.mem_singleton.mp mem, write.decided]
  decide

/-- A submission writes a status on a row it has loaded as `SUBMITTED`. -/
theorem SubmitMove.decidesOpen {work : Work} {before after : World}
    (move : SubmitMove py req stage (.commit work before after) stage') (settled : stage ≠ .lost) :
    work.DecidesOpen := by
  cases move with
  | idle quiet => cases quiet
  | wander => exact absurd rfl settled
  | settle trading => exact .of_none trading
  | reject submission => exact .of_none submission.trading
  | submit submission => exact .of_none submission.trading
  | accept write => exact write.decidesOpen
  | failSent write => exact write.decidesOpen
  | fail write => exact write.decidesOpen

end submissions

/-! ### Sessions together -/

inductive OrderSession where
  | submit (req : SubmitRequest)
  | apply (userId exchangeAccountId : String) (event : NormalizedTestnetOrderEvent)
      (transitionReason : String)
  | reconcile (userId exchangeAccountId : String)

namespace OrderSession

abbrev Outcome : OrderSession → Type
  | submit _ => Except Exc TestnetOrderSubmitResponse × Session
  | apply .. => Except Exc TestnetOrderLifecycleResult × Session
  | reconcile .. => Except Exc TestnetOrderReconciliationResult × Session

def program (py : Platform) : (r : OrderSession) → Prog backend r.Outcome
  | submit req => (req.service py).run
  | apply userId exchangeAccountId event transitionReason =>
      (applyTestnetOrderEvent userId exchangeAccountId event transitionReason).run
  | reconcile userId exchangeAccountId =>
      (reconcilePendingTestnetOrders py userId exchangeAccountId).run

abbrev protocol (py : Platform) : OrderSession → Protocol backend
  | submit req => submitProtocol py req
  | apply _ _ event _ => Protocol.each (DecidesOpenly (event.status = ·))
  | reconcile .. => Protocol.each (DecidesOpenly (· ≠ .failed))

def start (py : Platform) : (r : OrderSession) → (r.protocol py).Phase
  | submit _ => .start
  | apply .. => ()
  | reconcile .. => ()

theorem program_follows (py : Platform) (r : OrderSession) :
    (r.program py).Follows (r.protocol py) semantics (fun _ _ => True) (r.start py) := by
  cases r with
  | submit req => exact (submitTestnetOrder_follows py req).mono fun _ _ _ _ => True.intro
  | apply =>
    exact (reporting_applyTestnetOrderEvent rfl _ .start).mono fun _ _ _ _ => True.intro
  | reconcile =>
    exact (reporting_reconcilePendingTestnetOrders _ .start).mono fun _ _ _ _ => True.intro

/-- The risk settings a submission has read are stored, so that it finds them again. -/
def Finds (py : Platform) (db : Db) : (r : OrderSession) → (r.protocol py).Phase → Prop
  | submit req => fun stage => stage ≠ .lost ∧ (stage.hasSettings = true →
      ∃ settings ∈ db.riskSettings, SettingsFor req settings)
  | apply .. => fun _ => True
  | reconcile .. => fun _ => True

variable {py : Platform} {r : OrderSession} {m m' : (r.protocol py).Phase} {e : Event backend}
  {before after : Db}

theorem Finds.keep (finds : r.Finds py before m)
    (kept : ∀ row ∈ before.riskSettings, row ∈ after.riskSettings) : r.Finds py after m := by
  cases r with
  | submit req =>
    refine ⟨finds.1, fun read => ?_⟩
    obtain ⟨settings, stored, settingsFor⟩ := finds.2 read
    exact ⟨settings, kept settings stored, settingsFor⟩
  | apply | reconcile => exact True.intro

theorem finds_start (r : OrderSession) : r.Finds py before (r.start py) := by
  cases r with
  | submit => exact ⟨by simp [OrderSession.start], fun read => by cases read⟩
  | apply | reconcile => exact True.intro

/-- What any session does to the stored rows. -/
structure Steps (e : Event backend) : Prop where
  decides : ∀ work before after, e = .commit work before after → work.DecidesOpen
  riskSettings : ∀ row ∈ e.before.db.riskSettings, row ∈ e.after.db.riskSettings

theorem steps_of_decidesOpenly (decides : DecidesOpenly Reported e) (sound : e.Sound semantics) :
    Steps e := by
  cases e with
  | commit work before after =>
    refine ⟨?_, fun row stored => decides.2.2 ▸ stored⟩
    rintro _ _ _ ⟨⟩
    exact decides.1
  | read | abort => exact ⟨fun _ _ _ heq => (by cases heq), fun row stored => stored⟩
  | call query answer before after =>
    refine ⟨fun _ _ _ heq => (by cases heq), fun row stored => ?_⟩
    have same : after.db = before.db := @db_eq_of_call query answer before after sound
    exact same ▸ stored

theorem steps (move : (r.protocol py).Move m e m') (finds : r.Finds py e.before.db m)
    (sound : e.Sound semantics) : Steps e := by
  cases r with
  | submit req =>
    constructor
    · rintro work before after rfl
      exact SubmitMove.decidesOpen move finds.1
    · exact fun row stored => (SubmitMove.effect move sound finds.1).riskSettings_kept stored
  | apply | reconcile => exact steps_of_decidesOpenly move sound

theorem Finds.move (finds : r.Finds py e.before.db m) (move : (r.protocol py).Move m e m')
    (sound : e.Sound semantics) : r.Finds py e.after.db m' := by
  have steps := steps move finds sound
  cases r with
  | submit req =>
    refine ⟨SubmitMove.not_lost move finds.1 finds.2, fun read => ?_⟩
    rcases SubmitMove.settings_from move sound read with before | found
    · exact (Finds.keep finds steps.riskSettings).2 before
    · exact found
  | apply | reconcile => exact True.intro

/-- One step keeps the terminal statuses if it is decided on them. -/
theorem Steps.keepsTerminal (steps : Steps e) (sound : e.Sound semantics) (fresh : DecidesFresh e) :
    KeepsTerminal e.before.db e.after.db := by
  cases e with
  | commit work before after =>
    exact keepsTerminal_of_flush (World.flush_ok sound).1 (steps.decides _ _ _ rfl) fresh
  | read | abort => exact .refl _
  | call query answer before after =>
    have same : after.db = before.db := @db_eq_of_call query answer before after sound
    exact same ▸ .refl _

end OrderSession

/-- Sessions that start on a committed database. -/
def ordering {ι : Type} (py : Platform) (sessions : ι → OrderSession) (world : World) :
    Config backend fun i => (sessions i).Outcome where
  store := world
  client i := (sessions i).program py

section runs

variable {ι : Type} [DecidableEq ι] {py : Platform} {sessions : ι → OrderSession}

theorem finds_of_run {world s : World} {trace : Trace backend ι}
    {phases₀ phases : ∀ i, ((sessions i).protocol py).Phase}
    (run : Protocol.Run (fun i => (sessions i).protocol py) semantics phases₀ world trace phases s)
    (start : ∀ i, (sessions i).Finds py world.db (phases₀ i)) :
    ∀ i, (sessions i).Finds py s.db (phases i) := by
  refine run.invariant (fun _ phases (s : World) => ∀ i, (sessions i).Finds py s.db (phases i))
    start ?_
  intro trace phases i e m finds move sound
  have steps := OrderSession.steps move (finds i) sound
  exact (Function.forall_update_iff phases fun j phase =>
    (sessions j).Finds py e.after.db phase).mpr
      ⟨(finds i).move move sound, fun j _ => (finds j).keep steps.riskSettings⟩

theorem keepsTerminal_of_run {world s : World} {trace : Trace backend ι}
    {phases₀ phases : ∀ i, ((sessions i).protocol py).Phase}
    (run : Protocol.Run (fun i => (sessions i).protocol py) semantics phases₀ world trace phases s)
    (start : ∀ i, (sessions i).Finds py world.db (phases₀ i))
    (fresh : ∀ x ∈ trace, DecidesFresh x.2) : KeepsTerminal world.db s.db := by
  induction run with
  | nil => exact .refl _
  | @snoc trace phases s i e m run move sound here ih =>
    subst here
    have earlier := ih fun x mem => fresh x (List.mem_append_left _ mem)
    have steps := OrderSession.steps move (finds_of_run run start i) sound
    exact earlier.trans (steps.keepsTerminal sound (fresh (i, e) (by simp)))

/-- In every interleaving of submissions, order events and reconciliations, where each status that
is written over a terminal one was decided on that one, a terminal status stays. -/
theorem terminal_statuses_absorbing {world : World} {earlier later : Trace backend ι}
    {c₁ c₂ : Config backend fun i => (sessions i).Outcome}
    (run₁ : Config.Run semantics (ordering py sessions world) earlier c₁)
    (run₂ : Config.Run semantics c₁ later c₂) (fresh : ∀ x ∈ later, DecidesFresh x.2) :
    KeepsTerminal c₁.store.db c₂.store.db := by
  obtain ⟨phases₁, tracked₁, follows₁⟩ := run₁.tracked fun i => (sessions i).program_follows py
  obtain ⟨phases₂, tracked₂, -⟩ := run₂.tracked follows₁
  exact keepsTerminal_of_run tracked₂
    (finds_of_run tracked₁ fun i => (sessions i).finds_start) fresh

end runs

/-! ### A fill that is reported before the answer -/

/-- A submission, and for each status a session that applies a report of it. -/
def reportedSessions : Option OrderExecutionStatus → OrderSession
  | none => .submit (sampleOrder "BTCUSDT" (.ofInt 1) toRat_oneUnit_pos)
  | some status =>
      .apply "u" "a"
        { exchangeName := .binance, clientOrderId := some "c1", exchangeOrderId := some "7", status }
        "testnet_user_stream_event"

/-- The sessions move on as scheduled, from where they were. -/
def reportedRun (schedule : List (Option OrderExecutionStatus))
    (c : Config backend fun i => (reportedSessions i).Outcome) :
    Trace backend (Option OrderExecutionStatus) ×
      Config backend fun i => (reportedSessions i).Outcome :=
  c.replay semantics (environment takingExchange) 0 schedule

def reportedStart : Config backend fun i => (reportedSessions i).Outcome :=
  ordering asciiPlatform reportedSessions (approvedWorld .binance "BTCUSDT" [])

theorem reportedRun_reaches (schedule : List (Option OrderExecutionStatus))
    (c : Config backend fun i => (reportedSessions i).Outcome) :
    Config.Run semantics c (reportedRun schedule c).1 (reportedRun schedule c).2 :=
  Config.replay_reaches (environment_allowed _) _ _ _

/-- The answer was recorded, and the fill after it. -/
def filledRun : Trace backend (Option OrderExecutionStatus) ×
    Config backend fun i => (reportedSessions i).Outcome :=
  reportedRun (List.replicate 25 none ++ List.replicate 4 (some .filled)) reportedStart

/-- A report of a part of the fill comes late. -/
theorem terminal_statuses_absorbing_reported :
    KeepsTerminal filledRun.2.store.db
      (reportedRun (List.replicate 4 (some .partiallyFilled)) filledRun.2).2.store.db :=
  terminal_statuses_absorbing (reportedRun_reaches _ _) (reportedRun_reaches _ _) (by decide +kernel)

/-- The fill is reported while the submission waits for its answer. -/
def overtakenRun : Trace backend (Option OrderExecutionStatus) ×
    Config backend fun i => (reportedSessions i).Outcome :=
  reportedRun (List.replicate 22 none ++ List.replicate 4 (some .filled)) reportedStart

/-- The answer is recorded over the fill. -/
theorem terminal_status_overwritten :
    ∃ (earlier later : _) (c₁ c₂ : Config backend fun i => (reportedSessions i).Outcome),
      Config.Run semantics reportedStart earlier c₁ ∧ Config.Run semantics c₁ later c₂ ∧
      ¬ KeepsTerminal c₁.store.db c₂.store.db := by
  exact ⟨_, _, overtakenRun.2, (reportedRun [none, none] overtakenRun.2).2,
    reportedRun_reaches _ _, reportedRun_reaches _ _, by decide +kernel⟩

end CopyTrading
