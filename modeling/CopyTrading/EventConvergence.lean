import CopyTrading.TransitionLog

/-!
Order events are applied one by one. Whatever their order, and however often each comes, the
execution ends where the most advanced of them says.
-/

namespace CopyTrading

open Transaction Transaction.Handler

/-! ### Reported statuses -/

/-- How far an order has come. -/
def orderRank : OrderExecutionStatus → Nat
  | .created | .riskPassed | .submitted => 0
  | .accepted => 1
  | .partiallyFilled => 2
  | .filled | .cancelled | .rejected | .failed | .timeout => 3

/-- Where a reported status takes an execution: it is a duplicate, it is refused, or it counts. -/
def advance (status reported : OrderExecutionStatus) : OrderExecutionStatus :=
  if reported = status ∨ reported ∉ allowedOrderTransitions status then status else reported

/-- Live statuses and one final status. An order that was filled in part is not rejected. -/
structure Reports (final : OrderExecutionStatus) (reported : List OrderExecutionStatus) : Prop where
  terminal : final ∈ [OrderExecutionStatus.filled, .cancelled, .timeout] ∨
    final = .rejected ∧ OrderExecutionStatus.partiallyFilled ∉ reported
  each : ∀ status ∈ reported,
    status ∈ [OrderExecutionStatus.submitted, .accepted, .partiallyFilled] ∨ status = final

/-- The final status if it was reported, else the most advanced one. -/
structure Converged (final : OrderExecutionStatus) (reported : List OrderExecutionStatus)
    (status : OrderExecutionStatus) : Prop where
  ended : final ∈ reported → status = final
  reached : final ∉ reported → status ∈ .submitted :: reported ∧
    ∀ other ∈ OrderExecutionStatus.submitted :: reported, orderRank other ≤ orderRank status

theorem Reports.front {final next : OrderExecutionStatus} {reported : List OrderExecutionStatus}
    (reports : Reports final (reported ++ [next])) : Reports final reported where
  terminal := reports.terminal.imp_right fun ⟨rejected, unfilled⟩ =>
    ⟨rejected, fun h => unfilled (List.mem_append_left _ h)⟩
  each status h := reports.each status (List.mem_append_left _ h)

theorem Reports.mem_terminal {final : OrderExecutionStatus} {reported : List OrderExecutionStatus}
    (reports : Reports final reported) : final ∈ terminalOrderStatuses := by
  rcases reports.terminal with terminal | ⟨rfl, -⟩
  · revert terminal
    cases final <;> decide
  · decide

namespace Converged

variable {final next status : OrderExecutionStatus} {reported : List OrderExecutionStatus}

theorem start (final : OrderExecutionStatus) : Converged final [] .submitted where
  ended h := (List.not_mem_nil h).elim
  reached _ := ⟨List.mem_cons_self, fun other h => by rw [List.mem_singleton.mp h]⟩

theorem live (converged : Converged final reported status) (reports : Reports final reported)
    (unended : final ∉ reported) :
    status ∈ [OrderExecutionStatus.submitted, .accepted, .partiallyFilled] := by
  rcases List.mem_cons.mp (converged.reached unended).1 with rfl | h
  · exact List.mem_cons_self
  · rcases reports.each status h with live | rfl
    · exact live
    · exact absurd h unended

theorem advance_of_final (terminal : final ∈ terminalOrderStatuses)
    (reported : OrderExecutionStatus) : advance final reported = final := by
  unfold advance
  rw [allowed_of_terminal terminal]
  simp

/-- A live execution accepts the final status. -/
theorem advance_to_final (converged : Converged final reported status)
    (reports : Reports final (reported ++ [final])) (unended : final ∉ reported) :
    advance status final = final := by
  have live := converged.live reports.front unended
  have partially : status = .partiallyFilled → .partiallyFilled ∈ reported := by
    rintro rfl
    rcases List.mem_cons.mp (converged.reached unended).1 with h | h
    · cases h
    · exact h
  rcases reports.terminal with terminal | ⟨rfl, unfilled⟩
  · revert live terminal
    cases status <;> cases final <;> decide
  · have : status ≠ .partiallyFilled := fun h =>
      unfilled (List.mem_append_left _ (partially h))
    revert live this
    cases status <;> decide

/-- A live execution goes on to a live status exactly when that is further on. -/
theorem advance_live {status next : OrderExecutionStatus}
    (live : status ∈ [OrderExecutionStatus.submitted, .accepted, .partiallyFilled])
    (liveNext : next ∈ [OrderExecutionStatus.submitted, .accepted, .partiallyFilled]) :
    advance status next = if orderRank status < orderRank next then next else status := by
  revert live liveNext
  cases status <;> cases next <;> decide

/-- One more report. -/
theorem step (converged : Converged final reported status)
    (reports : Reports final (reported ++ [next])) :
    Converged final (reported ++ [next]) (advance status next) := by
  by_cases ended : final ∈ reported
  · rw [converged.ended ended, advance_of_final reports.mem_terminal]
    exact ⟨fun _ => rfl, fun h => absurd (List.mem_append_left _ ended) h⟩
  · have live := converged.live reports.front ended
    obtain ⟨among, highest⟩ := converged.reached ended
    rcases reports.each next (List.mem_append_right _ List.mem_cons_self) with liveNext | rfl
    · rw [advance_live live liveNext]
      have other : final ≠ next := by
        rintro rfl
        have terminal := reports.mem_terminal
        revert terminal liveNext
        cases final <;> decide
      refine ⟨fun h => ?_, fun _ => ?_⟩
      · rcases List.mem_append.mp h with h | h
        · exact absurd h ended
        · exact absurd (List.mem_singleton.mp h) other
      · split
        · next further =>
          refine ⟨List.mem_cons_of_mem _ (List.mem_append_right _ List.mem_cons_self), ?_⟩
          intro status' h
          rw [← List.cons_append] at h
          rcases List.mem_append.mp h with h | h
          · exact (highest status' h).trans further.le
          · rw [List.mem_singleton.mp h]
        · next behind =>
          refine ⟨by rw [← List.cons_append]; exact List.mem_append_left _ among, ?_⟩
          intro status' h
          rw [← List.cons_append] at h
          rcases List.mem_append.mp h with h | h
          · exact highest status' h
          · rw [List.mem_singleton.mp h]
            exact not_lt.mp behind
    · rw [converged.advance_to_final reports ended]
      exact ⟨fun _ => rfl, fun h => absurd (List.mem_append_right _ List.mem_cons_self) h⟩

end Converged

/-! ### The execution an event names -/

/-- The event names the execution, within the account of a user. -/
structure NormalizedTestnetOrderEvent.Matches (event : NormalizedTestnetOrderEvent)
    (userId exchangeAccountId : String) (row : OrderExecution) : Prop where
  userId : row.userId = userId
  exchangeAccountId : row.exchangeAccountId = exchangeAccountId
  exchangeName : row.exchangeName = event.exchangeName.value
  identifier : (∃ id ∈ usable event.clientOrderId, row.clientOrderId = id) ∨
    ∃ id ∈ usable event.exchangeOrderId, row.exchangeOrderId = some id

theorem usable_ne {identifier : Option String} {id : String} (h : id ∈ usable identifier) :
    id ≠ "" := by
  simpa using (Option.mem_filter_iff.mp h).2

namespace NormalizedTestnetOrderEvent.Matches

variable {event : NormalizedTestnetOrderEvent} {userId exchangeAccountId : String}
  {row x : OrderExecution}

theorem identified (matched : event.Matches userId exchangeAccountId row) :
    ¬ ((usable event.clientOrderId).isNone ∧ (usable event.exchangeOrderId).isNone) := by
  rintro ⟨noClient, noExchange⟩
  rcases matched.identifier with ⟨id, h, -⟩ | ⟨id, h, -⟩
  · rw [Option.isNone_iff_eq_none.mp noClient] at h
    cases h
  · rw [Option.isNone_iff_eq_none.mp noExchange] at h
    cases h

/-- The search of the code tests exactly this. -/
theorem iff_test : event.Matches userId exchangeAccountId row ↔
    (row.userId = userId ∧ row.exchangeAccountId = exchangeAccountId ∧
      row.exchangeName = event.exchangeName.value ∧
      ((usable event.clientOrderId).any (fun id => row.clientOrderId = id) = true ∨
        (usable event.exchangeOrderId).any (fun id => row.exchangeOrderId = some id) = true)) := by
  rw [Option.any_eq_true, Option.any_eq_true]
  simp only [decide_eq_true_eq]
  exact ⟨fun h => ⟨h.userId, h.exchangeAccountId, h.exchangeName, h.identifier⟩,
    fun ⟨hu, ha, hn, hid⟩ => ⟨hu, ha, hn, hid⟩⟩

/-- The search takes an execution the event names. -/
theorem of_found {db : Db} (found : findExecution userId exchangeAccountId event db = some x) :
    event.Matches userId exchangeAccountId x := by
  have tested := Table.holds_of_find? found
  exact iff_test.mpr (by simpa using tested)

theorem findExecution {db : Db} (matched : event.Matches userId exchangeAccountId x)
    (stored : x ∈ db.executions)
    (only : ∀ row ∈ db.executions, event.Matches userId exchangeAccountId row → row = x) :
    findExecution userId exchangeAccountId event db = some x := by
  unfold CopyTrading.findExecution
  cases hfind : db.executions.find? _ with
  | none =>
    have missed := Table.not_of_find?_none hfind stored
    exact absurd (iff_test.mp matched) (by simpa using missed)
  | some row =>
    have found := Table.holds_of_find? hfind
    rw [only row (Table.mem_of_find? hfind) (iff_test.mpr (by simpa using found))]

end NormalizedTestnetOrderEvent.Matches

/-! ### Sessions that see the committed rows -/

theorem setAll_setAll {id : String} {f g : OrderExecution.Change → OrderExecution.Change}
    {dirty : List (Instance OrderExecution)} :
    setAll id g (setAll id f dirty) = setAll id (g ∘ f) dirty := by
  unfold setAll
  rw [List.map_map]
  refine List.map_congr_left fun held _ => ?_
  rw [Function.comp_apply]
  by_cases hid : held.loaded.id = id
  · simp [hid]
  · simp [hid]

/-- What setting one execution's attributes in a clean session writes. -/
theorem updated_setAll {dirty : List (Instance OrderExecution)} {x : OrderExecution}
    {set : OrderExecution.Change → OrderExecution.Change} (clean : ∀ y ∈ dirty, y.change = {})
    (single : dirty.Pairwise fun a b => a.loaded.id ≠ b.loaded.id) (held : ⟨x, {}⟩ ∈ dirty)
    (row : OrderExecution) (same : row.id = x.id → row = x) :
    Table.updated (setAll x.id set dirty) row =
      if row.id = x.id then Row.apply (set {}) x else row := by
  split
  · next hid =>
    obtain rfl := same hid
    have written : (⟨row, set {}⟩ : Instance OrderExecution) ∈ setAll row.id set dirty :=
      List.mem_map.mpr ⟨_, held, if_pos rfl⟩
    exact updated_held (single_setAll single) written
  · next other =>
    clear held single
    induction dirty with
    | nil => rfl
    | cons y rest ih =>
      have skipped : (if Row.SamePrimary (if y.loaded.id = x.id then
          (⟨y.loaded, set y.change⟩ : Instance OrderExecution) else y).loaded row then
            Row.apply (if y.loaded.id = x.id then
              (⟨y.loaded, set y.change⟩ : Instance OrderExecution) else y).change row else row) =
          row := by
        by_cases hid : y.loaded.id = x.id
        · rw [if_pos hid]
          exact if_neg fun named : y.loaded.id = row.id => other (named.symm.trans hid)
        · rw [if_neg hid, clean y List.mem_cons_self]
          exact ite_self _
      unfold setAll
      rw [List.map_cons, Table.updated_cons, skipped]
      exact ih fun z hz => clean z (List.mem_cons_of_mem _ hz)

namespace Session.SeesCommitted

variable {s : Session} {db : Db} {x : OrderExecution}

theorem current (sees : s.SeesCommitted db) {y : Instance OrderExecution} (hy : y ∈ s.executions) :
    y.current = y.loaded := by
  unfold Instance.current
  rw [(sees.executions y hy).1]
  rfl

/-- A committed execution is shown as it is committed. -/
theorem shown (sees : s.SeesCommitted db) (stored : x ∈ db.executions) {y : OrderExecution}
    (shown : s.shown x.id = some y) : y = x := by
  rcases Option.or_eq_some_iff.mp shown with added | ⟨-, held⟩
  · rw [sees.work] at added
    cases added
  · obtain ⟨z, hz, rfl⟩ := Option.map_eq_some_iff.mp held
    have hmem := List.mem_of_find?_eq_some hz
    have hid : z.loaded.id = x.id := by simpa using List.find?_some hz
    rw [sees.current hmem]
    exact execution_unique (sees.executions z hmem).2 stored hid

theorem loading (sees : s.SeesCommitted db) (stored : x ∈ db.executions)
    (fresh : s.heldExecution x.id = none) : (s.loading x).SeesCommitted db where
  work := sees.work
  executions y hy := by
    rcases List.mem_append.mp hy with hy | hy
    · exact sees.executions y hy
    · rw [List.mem_singleton.mp hy]
      exact ⟨rfl, stored⟩
  single := by
    refine List.pairwise_append.mpr ⟨sees.single, List.pairwise_singleton _ _, ?_⟩
    intro a ha b hb
    rw [List.mem_singleton.mp hb]
    simpa using List.find?_eq_none.mp fresh a ha
  accounts := sees.accounts
  secrets := sees.secrets

end Session.SeesCommitted

/-- The session holds a committed execution, and nothing it would write. -/
structure Session.Holds (s : Session) (db : Db) (x : OrderExecution) : Prop
    extends s.SeesCommitted db where
  held : ⟨x, {}⟩ ∈ s.executions

/-- Opening it again shows it as it is committed. -/
theorem Session.Holds.opened {s s' : Session} {db : Db} {x y : OrderExecution}
    (holds : s.Holds db x) (opens : s.Opens db x.id y s') : y = x ∧ s' = s := by
  cases opens with
  | shown shown => exact ⟨holds.shown (holds.executions _ holds.held).2 shown, rfl⟩
  | loaded hidden =>
    have missing := List.find?_eq_none.mp (heldExecution_of_shown_none hidden) _ holds.held
    exact absurd (decide_eq_true rfl) missing

theorem alone_holdExecution_committed {sem : Semantics backend} {Each : Event backend → Prop}
    {s : Session} {w : World} {x : OrderExecution}
    {post : Except Exc OrderExecution → Session → World → Prop} (sees : s.SeesCommitted w.db)
    (stored : x ∈ w.db.executions) (holds : ∀ s', s'.Holds w.db x → post (.ok x) s' w) :
    Alone sem Each (Session.holdExecution x) post s w := by
  refine alone_holdExecution (fun y hy => ?_) fun fresh => ?_
  · have hmem := List.mem_of_find?_eq_some hy
    have hid : y.loaded.id = x.id := by simpa using List.find?_some hy
    have hx : y.loaded = x := execution_unique (sees.executions y hmem).2 stored hid
    rw [sees.current hmem, hx]
    refine holds s ⟨sees, ?_⟩
    have hy' : y = ⟨x, {}⟩ := by rw [← hx, ← (sees.executions y hmem).1]
    exact hy' ▸ hmem
  · exact holds _ ⟨sees.loading stored fresh, List.mem_append_right _ List.mem_cons_self⟩

/-! ### One event -/

theorem le_maxSequence {id : String} {transitions : List OrderExecutionTransition}
    {row : OrderExecutionTransition} (hrow : row ∈ transitions) (named : row.orderExecutionId = id) :
    row.sequenceNumber ≤ maxSequence id transitions := by
  obtain ⟨front, back, rfl⟩ := List.append_of_mem hrow
  rw [maxSequence_append, ← List.singleton_append, maxSequence_append]
  have own : maxSequence id [row] = row.sequenceNumber := by
    simp [maxSequence, named]
  omega

/-- A transition numbered past the others is inserted. -/
theorem Table.insert_transition {transitions : Table OrderExecutionTransition}
    {row : OrderExecutionTransition}
    (number : maxSequence row.orderExecutionId transitions.rows < row.sequenceNumber) :
    ∃ after, transitions.insertAll [row] = some after := by
  have fresh : ∀ old ∈ transitions.rows, ¬ Row.Conflict old row := by
    intro old hold conflict
    have key : Row.key old = Row.key row := conflict
    have named : old.orderExecutionId = row.orderExecutionId :=
      congrArg OrderExecutionTransition.Key.orderExecutionId key
    have same : old.sequenceNumber = row.sequenceNumber :=
      congrArg OrderExecutionTransition.Key.sequenceNumber key
    have := le_maxSequence hold named
    omega
  obtain ⟨after, inserted⟩ := Table.insert_of_fresh fresh
  exact ⟨after, Table.insertAll_cons.mpr ⟨after, inserted, rfl⟩⟩

/-- Nothing but a transition and changed instances is pending: the commit is accepted. -/
theorem Db.flush_transition (db : Db) (row : OrderExecutionTransition) {work : Work}
    {accountChanges : List (Instance ExchangeAccount)}
    {executionChanges : List (Instance OrderExecution)}
    (only : work = { transitions := [row], accountChanges, executionChanges })
    (number : maxSequence row.orderExecutionId db.transitions.rows < row.sequenceNumber) :
    ∃ after, db.flush work = .ok after := by
  obtain ⟨transitions, inserted⟩ := Table.insert_transition number
  subst only
  unfold Db.flush Work.write
  simp only [Table.insertAll_nil, inserted, Option.bind_eq_bind, Option.bind_some, Option.pure_def]
  exact ⟨_, rfl⟩

/-- The execution once the event has counted. -/
def NormalizedTestnetOrderEvent.applied (event : NormalizedTestnetOrderEvent) (x : OrderExecution) :
    OrderExecution :=
  Row.apply
    ({ status := some event.status, exchangeOrderId := (newOrderId x event).map some } :
      OrderExecution.Change) x

/-- An exchange order id that is known is kept. -/
theorem exchangeOrderId_applied (event : NormalizedTestnetOrderEvent) {x : OrderExecution}
    {id : String} (hid : id ≠ "") (known : x.exchangeOrderId = some id) :
    (event.applied x).exchangeOrderId = some id := by
  have kept : newOrderId x event = none := by
    unfold newOrderId
    rw [known, Option.getD_some, if_neg hid]
  unfold NormalizedTestnetOrderEvent.applied
  change Option.getD ((newOrderId x event).map some) x.exchangeOrderId = some id
  rw [kept, known]
  rfl

namespace NormalizedTestnetOrderEvent

variable {event : NormalizedTestnetOrderEvent} {x : OrderExecution}

/-- The event is no duplicate for the execution, and its status is allowed there. -/
def Advances (event : NormalizedTestnetOrderEvent) (x : OrderExecution) : Prop :=
  event.status ≠ x.status ∧ event.status ∈ allowedOrderTransitions x.status

instance : Decidable (event.Advances x) := inferInstanceAs (Decidable (_ ∧ _))

/-- The database refuses an identifier of the event, in the search or in the column it is to be
written to. -/
def RefusedFor (event : NormalizedTestnetOrderEvent) (x : OrderExecution) : Prop :=
  ¬ isSearchable event ∨ event.Advances x ∧ ¬ (newOrderId x event).all (fitsColumn 120)

instance : Decidable (event.RefusedFor x) := inferInstanceAs (Decidable (_ ∨ _))

/-- The event moves the execution. -/
def CountsFor (event : NormalizedTestnetOrderEvent) (x : OrderExecution) : Prop :=
  event.Advances x ∧ ¬ event.RefusedFor x

instance : Decidable (event.CountsFor x) := inferInstanceAs (Decidable (_ ∧ _))

/-- The database takes the identifiers of the event wherever they are written. -/
structure Fits (event : NormalizedTestnetOrderEvent) : Prop where
  clientOrderId : (usable event.clientOrderId).all isBindable = true
  exchangeOrderId : (usable event.exchangeOrderId).all (fitsColumn 120) = true

theorem advances_iff : event.Advances x ↔ advance x.status event.status ≠ x.status := by
  unfold Advances advance
  by_cases duplicate : event.status = x.status
  · simp [duplicate]
  · by_cases allowed : event.status ∈ allowedOrderTransitions x.status
    · simp [duplicate, allowed]
    · simp [allowed]

theorem Fits.isSearchable (fits : event.Fits) : isSearchable event = true := by
  have bindable : (usable event.exchangeOrderId).all isBindable = true := by
    have within := fits.exchangeOrderId
    cases given : usable event.exchangeOrderId with
    | none => rfl
    | some id =>
      rw [given, Option.all_some] at within
      exact (of_decide_eq_true within).2
  exact Bool.and_eq_true_iff.mpr ⟨fits.clientOrderId, bindable⟩

theorem Fits.not_refused (fits : event.Fits) (x : OrderExecution) : ¬ event.RefusedFor x := by
  rintro (unsearchable | ⟨-, misfit⟩)
  · exact unsearchable fits.isSearchable
  · unfold newOrderId at misfit
    split at misfit
    · exact misfit fits.exchangeOrderId
    · exact misfit rfl

end NormalizedTestnetOrderEvent

/-- What is committed of an event that counts. -/
structure EventApplied (event : NormalizedTestnetOrderEvent) (x : OrderExecution) (db db' : Db) :
    Prop where
  executions : db'.executions.rows =
    db.executions.rows.map fun row => if row.id = x.id then event.applied x else row
  transitions : ∃ row, db'.transitions.rows = db.transitions.rows ++ [row] ∧
    row.orderExecutionId = x.id ∧ row.fromStatus = some x.status ∧ row.toStatus = event.status

/-- All that is committed of an event that counts, with the row that is logged. -/
structure EventCommitted (event : NormalizedTestnetOrderEvent) (logged : OrderExecutionTransition)
    (x : OrderExecution) (db db' : Db) : Prop where
  executions : db'.executions.rows =
    db.executions.rows.map fun row => if row.id = x.id then event.applied x else row
  transitions : db'.transitions.rows = db.transitions.rows ++ [logged]
  auditLogs : db'.auditLogs = db.auditLogs

section apply

variable {sem : Semantics backend} {Each : Event backend → Prop} {s : Session} {w : World}
  {x : OrderExecution} {event : NormalizedTestnetOrderEvent}
  {userId exchangeAccountId reason : String}

/-- The transition an event logs. -/
def NormalizedTestnetOrderEvent.transition (event : NormalizedTestnetOrderEvent)
    (x : OrderExecution) (reason : String) (number : Nat) : OrderExecutionTransition where
  userId := x.userId
  orderExecutionId := x.id
  sequenceNumber := number
  fromStatus := some x.status
  toStatus := event.status
  reason := reason
  details := safeTransitionDetails event

theorem EventCommitted.applied {number : Nat} {db db' : Db}
    (committed : EventCommitted event (event.transition x reason number) x db db') :
    EventApplied event x db db' :=
  ⟨committed.executions, _, committed.transitions, rfl, rfl, rfl⟩

/-- The answer to an event that counts. -/
def NormalizedTestnetOrderEvent.movedResult (event : NormalizedTestnetOrderEvent)
    (x : OrderExecution) : TestnetOrderLifecycleResult :=
  { transitioned := true, executionId := some x.executionId, status := some event.status
    reason := "order_status_transitioned" }

/-- The answer to an event that names an execution and does not count for it. -/
def NormalizedTestnetOrderEvent.ignoredResult (event : NormalizedTestnetOrderEvent)
    (x : OrderExecution) : TestnetOrderLifecycleResult :=
  { duplicate := x.status = event.status, ignored := true, executionId := some x.executionId
    status := some x.status
    reason := if x.status = event.status then "duplicate_order_event"
      else "stale_or_invalid_order_event" }

/-- Pending: the transition, and what was set on the one execution. -/
theorem pending_moving {number : Nat} {set : OrderExecution.Change → OrderExecution.Change}
    (clean : s.work = {}) :
    ((s.moving x event.status reason (safeTransitionDetails event) number).setting x.id set).pending =
      { transitions := [event.transition x reason number], accountChanges := s.accounts
        executionChanges :=
          setAll x.id (set ∘ fun change => { change with status := some event.status })
            s.executions } := by
  obtain ⟨work, executions, accounts, secrets⟩ := s
  subst clean
  have both : setAll x.id set
      (setAll x.id (fun change => { change with status := some event.status }) executions) =
        setAll x.id (set ∘ fun change => { change with status := some event.status }) executions :=
    setAll_setAll
  exact congrArg (fun changes =>
    ({ transitions := [event.transition x reason number], accountChanges := accounts
       executionChanges := changes } : Work)) both

theorem alone_commitOrderEvent {number : Nat} (stores : sem.flush = World.flush)
    (commits : ∀ work before after, Each (.commit work before after))
    (holds : s.Holds w.db x) (fresh : maxSequence x.id w.db.transitions.rows < number) :
    Alone sem Each (commitOrderEvent x event)
      (fun outcome s' w' => s'.SeesCommitted w'.db ∧
        (¬ (newOrderId x event).all (fitsColumn 120) ∧ outcome = .error .dataError ∧ w' = w ∨
          (newOrderId x event).all (fitsColumn 120) ∧ outcome = .ok (event.movedResult x) ∧
            EventCommitted event (event.transition x reason number) x w.db w'.db))
      (s.moving x event.status reason (safeTransitionDetails event) number) w := by
  have stored : x ∈ w.db.executions := (holds.executions _ holds.held).2
  unfold commitOrderEvent
  rw [alone_bind, alone_refuseIf]
  refine ⟨fun misfit => ⟨.fresh w.db, .inl ⟨misfit, rfl, rfl⟩⟩, fun fits => ?_⟩
  rw [andThen_ok, alone_bind, alone_setExecution, andThen_ok, alone_bind, alone_commit,
    pending_moving holds.work, stores]
  constructor
  · intro after flushed
    have written := Work.written_of_flush (World.flush_ok flushed).1 rfl
    have applied : EventCommitted event (event.transition x reason number) x w.db after.db := by
      constructor
      · rw [Table.rows_insertAll written.executions, Table.rows_writeBack]
        refine (List.append_nil _).trans (List.map_congr_left fun row hrow => ?_)
        rw [updated_setAll (fun y hy => (holds.executions y hy).1) holds.single holds.held row
          fun hid => execution_unique hrow stored hid]
        refine if_congr Iff.rfl ?_ rfl
        unfold NormalizedTestnetOrderEvent.applied
        rw [Function.comp_apply]
        cases newOrderId x event <;> rfl
      · exact Table.rows_insertAll written.transitions
      · exact (Option.some.inj written.auditLogs).symm
    refine ⟨commits _ _ _, ?_⟩
    rw [andThen_ok, alone_bind]
    have found : event.applied x ∈ after.db.executions := by
      rw [Table.mem_def, applied.executions]
      exact List.mem_map.mpr ⟨x, stored, if_pos rfl⟩
    refine alone_loadExecution rfl (fun missing => (missing _ found rfl).elim) fun row hrow hid => ?_
    obtain rfl : row = event.applied x := execution_unique hrow found hid
    exact ⟨(Session.SeesCommitted.fresh after.db).loading hrow rfl,
      .inr ⟨not_not.mp fits, rfl, applied⟩⟩
  · intro fault refused
    -- nobody else has written a transition since the number was chosen
    obtain ⟨after, accepted⟩ := Db.flush_transition w.db (event.transition x reason number) rfl fresh
    have flushed : World.flush _ w = .ok _ := congrArg (Except.map _) accepted
    cases flushed.symm.trans refused

/-- What becomes of an event whose search takes `x`. -/
inductive EventOutcome (event : NormalizedTestnetOrderEvent) (reason : String) (x : OrderExecution)
    (w : World) : Except Exc TestnetOrderLifecycleResult → World → Prop where
  | refused (refused : event.RefusedFor x) : EventOutcome event reason x w (.error .dataError) w
  | ignored (taken : ¬ event.RefusedFor x) (stays : ¬ event.Advances x) :
      EventOutcome event reason x w (.ok (event.ignoredResult x)) w
  | moved {w' : World} (counts : event.CountsFor x)
      (committed : EventCommitted event
        (event.transition x reason (maxSequence x.id w.db.transitions.rows + 1)) x w.db w'.db) :
      EventOutcome event reason x w (.ok (event.movedResult x)) w'

/-- An event leaves everything as it was, or is committed for the execution its search takes. -/
theorem alone_applyOrderEvent (stores : sem.flush = World.flush)
    (commits : ∀ work before after, Each (.commit work before after))
    (sees : s.SeesCommitted w.db) (saved : x.id ≠ "")
    (found : findExecution userId exchangeAccountId event w.db = some x) :
    Alone sem Each (applyTestnetOrderEvent userId exchangeAccountId event reason)
      (fun outcome s' w' => s'.SeesCommitted w'.db ∧ EventOutcome event reason x w outcome w')
      s w := by
  have stored : x ∈ w.db.executions := Table.mem_of_find? found
  unfold applyTestnetOrderEvent
  rw [alone_bind, alone_raiseIf]
  have identified := (NormalizedTestnetOrderEvent.Matches.of_found found).identified
  refine ⟨fun unidentified => absurd unidentified identified, fun _ => ?_⟩
  rw [andThen_ok, alone_bind, alone_raiseIf]
  refine ⟨fun unsearchable => ⟨sees, .refused (.inl unsearchable)⟩, fun searchable => ?_⟩
  -- an event that does not advance the execution is refused by its search alone
  have ignored (stays : ¬ event.Advances x) :
      EventOutcome event reason x w (.ok (event.ignoredResult x)) w :=
    .ignored (not_or.mpr ⟨searchable, fun misfit => stays misfit.1⟩) stays
  rw [andThen_ok, alone_bind, alone_query, andThen_ok, found]
  dsimp only
  rw [alone_bind]
  refine alone_holdExecution_committed sees stored fun s₁ holds => ?_
  rw [andThen_ok]
  by_cases duplicate : x.status = event.status
  · have result := ignored fun advances => advances.1 duplicate.symm
    rw [NormalizedTestnetOrderEvent.ignoredResult, decide_eq_true duplicate, if_pos duplicate]
      at result
    rw [if_pos duplicate]
    exact ⟨holds.toSeesCommitted, result⟩
  · rw [if_neg duplicate, alone_bind]
    unfold attemptTransition
    refine alone_tryCatch.mpr (alone_bind.mpr ?_)
    refine alone_transition (fun _ missing => (missing x stored rfl).elim) ?_ ?_ ?_
    · intro y s' opens
      rw [(holds.opened opens).1]
      exact saved
    · intro y s' opens forbidden message
      obtain ⟨rfl, rfl⟩ := holds.opened opens
      have result := ignored fun advances => forbidden advances.2
      rw [NormalizedTestnetOrderEvent.ignoredResult, decide_eq_false duplicate, if_neg duplicate]
        at result
      exact ⟨holds.toSeesCommitted, result⟩
    · intro y s' opens allowed
      obtain ⟨rfl, rfl⟩ := holds.opened opens
      have pending : maxSequence y.id s'.work.transitions = 0 := by
        rw [holds.work]
        rfl
      rw [andThen_ok, alone_pure, orElse_ok, andThen_ok, if_pos rfl, pending, Nat.max_zero]
      refine Alone.mono (alone_commitOrderEvent stores commits holds (Nat.lt_succ_self _)) ?_
      have advances : event.Advances y := ⟨fun same => duplicate same.symm, allowed⟩
      rintro outcome s' w' ⟨sees', ⟨misfit, rfl, rfl⟩ | ⟨fits, rfl, committed⟩⟩
      · exact ⟨sees', .refused (.inr ⟨advances, misfit⟩)⟩
      · refine ⟨sees', .moved ⟨advances, ?_⟩ committed⟩
        exact not_or.mpr ⟨searchable, fun misfit => misfit.2 fits⟩

theorem alone_applyTestnetOrderEvent_outcome (stores : sem.flush = World.flush)
    (sees : s.SeesCommitted w.db) (saved : x.id ≠ "")
    (found : findExecution userId exchangeAccountId event w.db = some x) :
    Alone sem (fun _ => True) (applyTestnetOrderEvent userId exchangeAccountId event reason)
      (fun outcome s' w' => s'.SeesCommitted w'.db ∧ EventOutcome event reason x w outcome w')
      s w :=
  alone_applyOrderEvent stores (fun _ _ _ => True.intro) sees saved found

/-- An event leaves everything as it was, or counts for the execution its search takes. It returns
unless the database refuses it. -/
theorem alone_applyTestnetOrderEvent (stores : sem.flush = World.flush)
    (sees : s.SeesCommitted w.db) (saved : x.id ≠ "")
    (found : findExecution userId exchangeAccountId event w.db = some x) :
    Alone sem (fun _ => True) (applyTestnetOrderEvent userId exchangeAccountId event reason)
      (fun outcome s' w' => (¬ event.RefusedFor x → ∃ result, outcome = .ok result) ∧
        s'.SeesCommitted w'.db ∧ (¬ event.CountsFor x ∧ w' = w ∨
          event.CountsFor x ∧ EventApplied event x w.db w'.db)) s w := by
  refine (alone_applyTestnetOrderEvent_outcome stores sees saved found).mono ?_
  rintro outcome s' w' ⟨sees', result⟩
  cases result with
  | refused refused =>
    exact ⟨fun taken => absurd refused taken, sees', .inl ⟨fun counts => counts.2 refused, rfl⟩⟩
  | ignored _ stays => exact ⟨fun _ => ⟨_, rfl⟩, sees', .inl ⟨fun counts => stays counts.1, rfl⟩⟩
  | moved counts committed =>
    exact ⟨fun _ => ⟨_, rfl⟩, sees', .inr ⟨counts, committed.applied⟩⟩

end apply

/-! ### Events one by one -/

/-- Events applied one after the other, each to its end: by one processor, or by several whose
sessions see the committed rows. -/
inductive EventRun (userId exchangeAccountId : String) (start : World) :
    List NormalizedTestnetOrderEvent → List (Except Exc TestnetOrderLifecycleResult) → Session →
      World → Prop where
  | start {s : Session} (sees : s.SeesCommitted start.db) :
      EventRun userId exchangeAccountId start [] [] s start
  | apply {events : List NormalizedTestnetOrderEvent}
      {outcomes : List (Except Exc TestnetOrderLifecycleResult)} {s s' : Session}
      {w w' : World} {event : NormalizedTestnetOrderEvent} {reason : String}
      {outcome : Except Exc TestnetOrderLifecycleResult} {trace : List (Event backend)}
      (run : EventRun userId exchangeAccountId start events outcomes s w)
      (ran : Prog.Run semantics (applyTestnetOrderEvent userId exchangeAccountId event reason s) w
        trace (.done (outcome, s')) w') :
      EventRun userId exchangeAccountId start (events ++ [event]) (outcomes ++ [outcome]) s' w'
  | reopen {events : List NormalizedTestnetOrderEvent}
      {outcomes : List (Except Exc TestnetOrderLifecycleResult)} {s s' : Session} {w : World}
      (run : EventRun userId exchangeAccountId start events outcomes s w)
      (sees : s'.SeesCommitted w.db) :
      EventRun userId exchangeAccountId start events outcomes s' w

/-- Some run applies all events. -/
theorem EventRun.exists (userId exchangeAccountId : String) (start : World)
    (events : List NormalizedTestnetOrderEvent) :
    ∃ outcomes s last, EventRun userId exchangeAccountId start events outcomes s last := by
  induction events using List.reverseRecOn with
  | nil => exact ⟨[], {}, start, .start (.fresh _)⟩
  | append_singleton events event ih =>
    obtain ⟨outcomes, s, w, run⟩ := ih
    have answered : ∀ store query, ∃ answer after, semantics.Answers store query answer after :=
      fun store query => ⟨_, _, environment_allowed ⟨true, .empty⟩ 0 () store query rfl⟩
    obtain ⟨trace, ⟨outcome, s'⟩, last, ran⟩ := Prog.exists_complete answered
      (applyTestnetOrderEvent userId exchangeAccountId event "testnet_user_stream_event" s) w
    exact ⟨_, _, _, run.apply ran⟩

/-- What the events so far have made of an execution, and of nothing else. -/
structure Progress (x : OrderExecution) (final : OrderExecutionStatus) (start : Db)
    (events : List NormalizedTestnetOrderEvent) (y : OrderExecution)
    (added : List OrderExecutionTransition) (db : Db) : Prop where
  same : SameOrder y x
  identified : ∀ id, id ≠ "" → x.exchangeOrderId = some id → y.exchangeOrderId = some id
  executions : db.executions.rows =
    start.executions.rows.map fun row => if row.id = x.id then y else row
  converged : Converged final (events.map (·.status)) y.status
  transitions : db.transitions.rows = start.transitions.rows ++ added
  few : added.length ≤ orderRank y.status
  last : ∀ row ∈ added.getLast?, row.toStatus = y.status
  live : ∀ row ∈ added.dropLast, row.toStatus ∉ terminalOrderStatuses

namespace Progress

variable {x y : OrderExecution} {final : OrderExecutionStatus} {start db db' : Db}
  {events : List NormalizedTestnetOrderEvent} {added : List OrderExecutionTransition}
  {event : NormalizedTestnetOrderEvent} {userId exchangeAccountId : String}

theorem begin (stored : x ∈ start.executions) (submitted : x.status = .submitted) :
    Progress x final start [] x [] start where
  same := .refl x
  identified _ _ known := known
  executions := by
    refine (List.map_id _).symm.trans (List.map_congr_left fun row hrow => ?_)
    split
    · next named => exact execution_unique hrow stored named
    · rfl
  converged := submitted ▸ .start final
  transitions := (List.append_nil _).symm
  few := Nat.zero_le _
  last _ h := by cases h
  live _ h := (List.not_mem_nil h).elim

theorem stored (progress : Progress x final start events y added db)
    (hx : x ∈ start.executions) : y ∈ db.executions := by
  rw [Table.mem_def, progress.executions]
  exact List.mem_map.mpr ⟨x, hx, if_pos rfl⟩

/-- An event that named the execution at the start still does. -/
theorem matches' (progress : Progress x final start events y added db)
    (matched : event.Matches userId exchangeAccountId x) :
    event.Matches userId exchangeAccountId y where
  userId := progress.same.userId.trans matched.userId
  exchangeAccountId := progress.same.exchangeAccountId.trans matched.exchangeAccountId
  exchangeName := progress.same.exchangeName.trans matched.exchangeName
  identifier := by
    rcases matched.identifier with ⟨id, h, same⟩ | ⟨id, h, same⟩
    · exact .inl ⟨id, h, progress.same.clientOrderId.trans same⟩
    · exact .inr ⟨id, h, progress.identified id (usable_ne h) same⟩

theorem only (progress : Progress x final start events y added db)
    (only : ∀ row ∈ start.executions, event.Matches userId exchangeAccountId row → row = x) :
    ∀ row ∈ db.executions, event.Matches userId exchangeAccountId row → row = y := by
  intro row hrow matched
  rw [Table.mem_def, progress.executions] at hrow
  obtain ⟨old, hold, rfl⟩ := List.mem_map.mp hrow
  split at matched
  · next named => rw [if_pos named]
  · next other => exact absurd (congrArg _ (only old hold matched)) other

/-- An event that changes nothing. -/
theorem skip (progress : Progress x final start events y added db)
    (reports : Reports final ((events ++ [event]).map (·.status)))
    (skipped : advance y.status event.status = y.status) :
    Progress x final start (events ++ [event]) y added db := by
  rw [List.map_append] at reports
  refine { progress with converged := ?_ }
  rw [List.map_append, ← skipped]
  exact progress.converged.step reports

theorem rank_lt {status next : OrderExecutionStatus}
    (live : status ∈ [OrderExecutionStatus.submitted, .accepted, .partiallyFilled])
    (allowed : next ∈ allowedOrderTransitions status) (other : next ≠ status) :
    orderRank status < orderRank next := by
  revert live allowed other
  cases status <;> cases next <;> decide

/-- An event that counts. -/
theorem count (progress : Progress x final start events y added db)
    (reports : Reports final ((events ++ [event]).map (·.status)))
    (other : event.status ≠ y.status) (allowed : event.status ∈ allowedOrderTransitions y.status)
    (applied : EventApplied event y db db') :
    ∃ row, Progress x final start (events ++ [event]) (event.applied y) (added ++ [row]) db' := by
  obtain ⟨row, logged, -, -, moved⟩ := applied.transitions
  rw [List.map_append] at reports
  have counts : advance y.status event.status = event.status :=
    if_neg (not_or.mpr ⟨other, not_not.mpr allowed⟩)
  have status : (event.applied y).status = event.status := rfl
  have unended : final ∉ events.map (·.status) := by
    intro ended
    rw [progress.converged.ended ended, allowed_of_terminal reports.mem_terminal] at allowed
    exact List.not_mem_nil allowed
  have live := progress.converged.live reports.front unended
  refine ⟨row, ?_, ?_, ?_, ?_, ?_, ?_, ?_, ?_⟩
  · exact (sameOrder_apply _ _).trans progress.same
  · intro id hid known
    exact exchangeOrderId_applied event hid (progress.identified id hid known)
  · rw [applied.executions, progress.executions, List.map_map]
    refine List.map_congr_left fun old _ => ?_
    rw [Function.comp_apply]
    by_cases named : old.id = x.id
    · rw [if_pos named, if_pos named, if_pos rfl]
    · rw [if_neg named, if_neg named, if_neg]
      rw [progress.same.id]
      exact named
  · rw [List.map_append, status, ← counts]
    exact progress.converged.step reports
  · rw [logged, progress.transitions, List.append_assoc]
  · rw [List.length_append, List.length_singleton, status]
    exact (Nat.add_le_add_right progress.few 1).trans (rank_lt live allowed other)
  · intro last hlast
    rw [List.getLast?_concat] at hlast
    cases hlast
    exact moved
  · intro earlier hearlier
    rw [List.dropLast_concat] at hearlier
    rcases List.eq_nil_or_concat' added with rfl | ⟨front, last, rfl⟩
    · exact (List.not_mem_nil hearlier).elim
    · rcases List.mem_append.mp hearlier with h | h
      · exact progress.live earlier (by rwa [List.dropLast_concat])
      · rw [List.mem_singleton.mp h, progress.last last (by rw [List.getLast?_concat]; rfl)]
        revert live
        cases y.status <;> decide

end Progress

/-- After any events that name the execution, it has come as far as they say. -/
theorem EventRun.progress {userId exchangeAccountId : String} {start last : World}
    {x : OrderExecution} {final : OrderExecutionStatus} {events : List NormalizedTestnetOrderEvent}
    {outcomes : List (Except Exc TestnetOrderLifecycleResult)} {s : Session}
    (run : EventRun userId exchangeAccountId start events outcomes s last)
    (stored : x ∈ start.db.executions) (saved : x.id ≠ "") (submitted : x.status = .submitted)
    (reports : Reports final (events.map (·.status))) (fits : ∀ event ∈ events, event.Fits)
    (matched : ∀ event ∈ events, event.Matches userId exchangeAccountId x ∧
      ∀ row ∈ start.db.executions, event.Matches userId exchangeAccountId row → row = x) :
    s.SeesCommitted last.db ∧ (∀ outcome ∈ outcomes, ∃ result, outcome = .ok result) ∧
      ∃ y added, Progress x final start.db events y added last.db := by
  induction run with
  | start sees =>
    exact ⟨sees, fun _ h => (List.not_mem_nil h).elim, x, [], .begin stored submitted⟩
  | reopen run sees ih => exact ⟨sees, (ih reports fits matched).2⟩
  | @apply events outcomes s s' w w' event reason outcome trace run ran ih =>
    have earlier : Reports final (events.map (·.status)) := by
      rw [List.map_append] at reports
      exact reports.front
    obtain ⟨sees, returned, y, added, progress⟩ :=
      ih earlier (fun e he => fits e (List.mem_append_left _ he))
        fun e he => matched e (List.mem_append_left _ he)
    have taken := (fits event (List.mem_append_right _ List.mem_cons_self)).not_refused y
    obtain ⟨named, only⟩ := matched event (List.mem_append_right _ List.mem_cons_self)
    have saved' : y.id ≠ "" := progress.same.id ▸ saved
    have found := (progress.matches' named).findExecution (progress.stored stored)
      (progress.only only)
    obtain ⟨returned', sees', cases⟩ :=
      (ran.of_alone (alone_applyTestnetOrderEvent rfl sees saved' found)).2
    refine ⟨sees', ?_, ?_⟩
    · intro outcome' h
      rcases List.mem_append.mp h with h | h
      · exact returned outcome' h
      · rw [List.mem_singleton.mp h]
        exact returned' taken
    · rcases cases with ⟨stays, same⟩ | ⟨⟨⟨other, allowed⟩, -⟩, applied⟩
      · rw [same]
        refine ⟨y, added, progress.skip reports ?_⟩
        by_contra moves
        exact stays ⟨NormalizedTestnetOrderEvent.advances_iff.mpr moves, taken⟩
      · obtain ⟨row, further⟩ := progress.count reports other allowed applied
        exact ⟨_, _, further⟩

/-- Applied one by one, the events of a submitted execution never raise, whatever their order
and however often each comes, as long as the columns take their identifiers; the execution ends in
the final status if one was reported and in the most advanced one otherwise, after at most three
transitions, and none after the final one. -/
theorem order_events_converge {userId exchangeAccountId : String} {start : World}
    {x : OrderExecution} {final : OrderExecutionStatus} {events : List NormalizedTestnetOrderEvent}
    (stored : x ∈ start.db.executions) (saved : x.id ≠ "") (submitted : x.status = .submitted)
    (reports : Reports final (events.map (·.status))) (fits : ∀ event ∈ events, event.Fits)
    (matched : ∀ event ∈ events, event.Matches userId exchangeAccountId x ∧
      ∀ row ∈ start.db.executions, event.Matches userId exchangeAccountId row → row = x) :
    (∃ outcomes s last, EventRun userId exchangeAccountId start events outcomes s last) ∧
    ∀ outcomes s last, EventRun userId exchangeAccountId start events outcomes s last →
      (∀ outcome ∈ outcomes, ∃ result, outcome = .ok result) ∧
      ∃ y added, y ∈ last.db.executions ∧ y.id = x.id ∧
        Converged final (events.map (·.status)) y.status ∧
        last.db.transitions.rows = start.db.transitions.rows ++ added ∧ added.length ≤ 3 ∧
        ∀ row ∈ added.dropLast, row.toStatus ∉ terminalOrderStatuses := by
  refine ⟨EventRun.exists userId exchangeAccountId start events, fun outcomes s last run => ?_⟩
  obtain ⟨-, returned, y, added, progress⟩ :=
    run.progress stored saved submitted reports fits matched
  have few : orderRank y.status ≤ 3 := by cases y.status <;> decide
  exact ⟨returned, y, added, progress.stored stored, progress.same.id, progress.converged,
    progress.transitions, progress.few.trans few, progress.live⟩

def submittedExecution : OrderExecution where
  id := "x"
  userId := "u"
  signalId := "s1"
  executionId := "e"
  exchangeAccountId := "a"
  exchangeName := "binance"
  clientOrderId := "c"
  exchangeOrderId := none
  symbol := "BTCUSDT"
  side := .buy
  orderType := .limit
  price := some oneUnit
  quantity := oneUnit
  status := .submitted
  riskResult := .null
  exchangeResponse := .null
  errorMessage := none

def sampleOrderEvent (status : OrderExecutionStatus) : NormalizedTestnetOrderEvent where
  exchangeName := .binance
  clientOrderId := some "c"
  exchangeOrderId := some "7"
  status := status

theorem sampleOrderEvent_fits (status : OrderExecutionStatus) : (sampleOrderEvent status).Fits :=
  ⟨rfl, rfl⟩

def submittedWorld : World := { db := { executions := oneRow submittedExecution } }

theorem order_events_converge_filled :
    ∃ outcomes s last, EventRun "u" "a" submittedWorld
        ([.partiallyFilled, .filled, .accepted, .filled, .submitted].map sampleOrderEvent)
        outcomes s last ∧
      ∃ y ∈ last.db.executions, y.id = "x" ∧ y.status = .filled := by
  have matched : ∀ event ∈ [OrderExecutionStatus.partiallyFilled, .filled, .accepted, .filled,
      .submitted].map sampleOrderEvent, event.Matches "u" "a" submittedExecution ∧
        ∀ row ∈ oneRow submittedExecution, event.Matches "u" "a" row → row = submittedExecution := by
    intro event h
    obtain ⟨status, -, rfl⟩ := List.mem_map.mp h
    exact ⟨⟨rfl, rfl, rfl, .inl ⟨"c", rfl, rfl⟩⟩, fun row hrow _ => List.mem_singleton.mp hrow⟩
  have stored : submittedExecution ∈ submittedWorld.db.executions := List.mem_singleton_self _
  have reports : Reports .filled (([.partiallyFilled, .filled, .accepted, .filled,
      .submitted].map sampleOrderEvent).map (·.status)) := ⟨.inl (by decide), by decide⟩
  have fits : ∀ event ∈ [OrderExecutionStatus.partiallyFilled, .filled, .accepted, .filled,
      .submitted].map sampleOrderEvent, event.Fits := by
    intro event h
    obtain ⟨status, -, rfl⟩ := List.mem_map.mp h
    exact sampleOrderEvent_fits status
  obtain ⟨⟨outcomes, s, last, run⟩, all⟩ :=
    order_events_converge stored (by decide) rfl reports fits matched
  obtain ⟨-, y, -, ended, hid, converged, -⟩ := all outcomes s last run
  exact ⟨outcomes, s, last, run, y, ended, hid, converged.ended (by decide)⟩

end CopyTrading
