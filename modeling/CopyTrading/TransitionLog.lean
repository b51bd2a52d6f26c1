import CopyTrading.Environment
import CopyTrading.OrderServices

/-!
The transition log of every execution is a chain: numbered from one, each row starting where
the one before ended, and ending at the status of the execution. A session keeps this of what
it would commit, so every commit keeps it of the database.
-/

namespace CopyTrading

open Transaction Transaction.Handler

/-! ### The log of one execution -/

/-- The rows of an execution, in the order they were inserted. -/
def transitionsOf (id : String) (transitions : List OrderExecutionTransition) :
    List OrderExecutionTransition :=
  transitions.filter (·.orderExecutionId = id)

theorem transitionsOf_snoc_same {id : String} {transitions : List OrderExecutionTransition}
    {row : OrderExecutionTransition} (named : row.orderExecutionId = id) :
    transitionsOf id (transitions ++ [row]) = transitionsOf id transitions ++ [row] := by
  simp [transitionsOf, named]

theorem transitionsOf_snoc_other {id : String} {transitions : List OrderExecutionTransition}
    {row : OrderExecutionTransition} (named : row.orderExecutionId ≠ id) :
    transitionsOf id (transitions ++ [row]) = transitionsOf id transitions := by
  simp [transitionsOf, named]

structure TransitionLog (rows : List OrderExecutionTransition) (status : OrderExecutionStatus) :
    Prop where
  numbered : rows.map (·.sequenceNumber) = List.range' 1 rows.length
  first : ∃ row ∈ rows.head?, row.fromStatus = none ∧ row.toStatus = .created
  linked : rows.IsChain fun a b =>
    b.fromStatus = some a.toStatus ∧ b.toStatus ∈ allowedOrderTransitions a.toStatus
  last : ∃ row ∈ rows.getLast?, row.toStatus = status

namespace TransitionLog

variable {rows : List OrderExecutionTransition} {status : OrderExecutionStatus}
  {row : OrderExecutionTransition}

theorem single (number : row.sequenceNumber = 1) (fromStatus : row.fromStatus = none)
    (toStatus : row.toStatus = .created) : TransitionLog [row] .created where
  numbered := by simp [number]
  first := ⟨row, rfl, fromStatus, toStatus⟩
  linked := .singleton _
  last := ⟨row, rfl, toStatus⟩

theorem snoc (log : TransitionLog rows status) (number : row.sequenceNumber = rows.length + 1)
    (fromStatus : row.fromStatus = some status)
    (allowed : row.toStatus ∈ allowedOrderTransitions status) :
    TransitionLog (rows ++ [row]) row.toStatus where
  numbered := by
    rw [List.map_append, log.numbered, List.length_append, List.length_singleton,
      List.range'_concat]
    simp [number, Nat.add_comm]
  first := by
    obtain ⟨head, hhead, created⟩ := log.first
    refine ⟨head, ?_, created⟩
    rw [Option.mem_def] at hhead ⊢
    rw [List.head?_append, hhead]
    rfl
  linked := by
    obtain ⟨last, hlast, hstatus⟩ := log.last
    refine List.isChain_append.mpr ⟨log.linked, .singleton _, ?_⟩
    intro last' hlast' next hnext
    rw [Option.mem_def] at hlast hlast'
    cases hlast.symm.trans hlast'
    cases hnext
    rw [hstatus]
    exact ⟨fromStatus, allowed⟩
  last := ⟨row, by simp, rfl⟩

end TransitionLog

theorem foldl_max (numbers : List Nat) (start : Nat) :
    numbers.foldl max start = max start (numbers.foldl max 0) := by
  induction numbers generalizing start with
  | nil => simp
  | cons n rest ih =>
    rw [List.foldl_cons, List.foldl_cons, ih, ih (max 0 n)]
    omega

theorem foldl_max_range (n : Nat) : (List.range' 1 n).foldl max 0 = n := by
  induction n with
  | zero => rfl
  | succ n ih =>
    rw [List.range'_concat, List.foldl_append, ih]
    simp
    omega

theorem maxSequence_append (id : String) (a b : List OrderExecutionTransition) :
    maxSequence id (a ++ b) = max (maxSequence id a) (maxSequence id b) := by
  unfold maxSequence
  rw [List.filter_append, List.map_append, List.foldl_append, foldl_max]

theorem TransitionLog.maxSequence {id : String} {transitions : List OrderExecutionTransition}
    {status : OrderExecutionStatus} (log : TransitionLog (transitionsOf id transitions) status) :
    maxSequence id transitions = (transitionsOf id transitions).length := by
  have numbered := congrArg (List.foldl max 0) log.numbered
  rw [foldl_max_range] at numbered
  exact numbered

/-! ### The logs of all executions -/

/-- Every order has its log, and every transition its order. Orders are given by id and status. -/
structure Chained (orders : List (String × OrderExecutionStatus))
    (transitions : List OrderExecutionTransition) : Prop where
  log : ∀ order ∈ orders, TransitionLog (transitionsOf order.1 transitions) order.2
  belongs : ∀ row ∈ transitions, ∃ order ∈ orders, order.1 = row.orderExecutionId
  saved : ∀ order ∈ orders, order.1 ≠ ""

namespace Chained

variable {orders : List (String × OrderExecutionStatus)}
  {transitions : List OrderExecutionTransition} {row : OrderExecutionTransition}

/-- A logged status change of the orders with one id. -/
theorem move (chained : Chained orders transitions) {status toStatus : OrderExecutionStatus}
    {id : String} (current : (id, status) ∈ orders) (named : row.orderExecutionId = id)
    (number : row.sequenceNumber = maxSequence id transitions + 1)
    (fromStatus : row.fromStatus = some status) (moved : row.toStatus = toStatus)
    (allowed : toStatus ∈ allowedOrderTransitions status) :
    Chained (orders.map fun order => if order.1 = id then (id, toStatus) else order)
      (transitions ++ [row]) := by
  subst moved named
  have log := chained.log _ current
  constructor
  · intro order horder
    obtain ⟨old, hold, rfl⟩ := List.mem_map.mp horder
    split
    · rw [transitionsOf_snoc_same rfl]
      exact log.snoc (number.trans (congrArg (· + 1) log.maxSequence)) fromStatus allowed
    · next other =>
      rw [transitionsOf_snoc_other fun same => other same.symm]
      exact chained.log old hold
  · intro row' hrow'
    rcases List.mem_append.mp hrow' with hold | hnew
    · obtain ⟨order, horder, hid⟩ := chained.belongs row' hold
      refine ⟨_, List.mem_map.mpr ⟨order, horder, rfl⟩, ?_⟩
      split
      · next same => exact same.symm.trans hid
      · exact hid
    · rw [List.mem_singleton.mp hnew]
      exact ⟨_, List.mem_map.mpr ⟨_, current, rfl⟩, by rw [if_pos rfl]⟩
  · intro order horder
    obtain ⟨old, hold, rfl⟩ := List.mem_map.mp horder
    split
    · exact chained.saved (row.orderExecutionId, status) current
    · exact chained.saved old hold

/-- A new order, with its first transition. -/
theorem insert (chained : Chained orders transitions) {id : String}
    (fresh : ∀ order ∈ orders, order.1 ≠ id) (saved : id ≠ "")
    (named : row.orderExecutionId = id) (number : row.sequenceNumber = maxSequence id transitions + 1)
    (fromStatus : row.fromStatus = none) (toStatus : row.toStatus = .created) :
    Chained (orders ++ [(id, .created)]) (transitions ++ [row]) := by
  subst named
  have none : transitionsOf row.orderExecutionId transitions = [] := by
    refine List.filter_eq_nil_iff.mpr fun other hother => ?_
    obtain ⟨order, horder, hid⟩ := chained.belongs other hother
    have := fresh order horder
    rw [hid] at this
    simpa using this
  constructor
  · intro order horder
    rcases List.mem_append.mp horder with hold | hnew
    · rw [transitionsOf_snoc_other (fresh order hold).symm]
      exact chained.log order hold
    · rw [List.mem_singleton.mp hnew, transitionsOf_snoc_same rfl, none]
      refine TransitionLog.single ?_ fromStatus toStatus
      have zero : maxSequence row.orderExecutionId transitions = 0 := by
        unfold maxSequence
        rw [show transitions.filter (·.orderExecutionId = row.orderExecutionId) = [] from none]
        rfl
      rw [number, zero]
  · intro row' hrow'
    rcases List.mem_append.mp hrow' with hold | hnew
    · obtain ⟨order, horder, hid⟩ := chained.belongs row' hold
      exact ⟨order, List.mem_append_left _ horder, hid⟩
    · rw [List.mem_singleton.mp hnew]
      exact ⟨_, List.mem_append_right _ (List.mem_singleton_self _), rfl⟩
  · intro order horder
    rcases List.mem_append.mp horder with hold | hnew
    · exact chained.saved order hold
    · rw [List.mem_singleton.mp hnew]
      exact saved

end Chained

/-! ### Statuses under a write-back -/

section updates

variable {dirty : List (Instance OrderExecution)} {row : OrderExecution}

theorem updated_unheld (unheld : ∀ x ∈ dirty, x.loaded.id ≠ row.id) :
    Table.updated dirty row = row := by
  induction dirty with
  | nil => rfl
  | cons x rest ih =>
    have other : ¬ Row.SamePrimary x.loaded row := unheld x List.mem_cons_self
    rw [Table.updated_cons, if_neg other]
    exact ih fun y hy => unheld y (List.mem_cons_of_mem _ hy)

/-- When every execution is held once, its row becomes what the session shows of it. -/
theorem updated_held {x : Instance OrderExecution}
    (single : dirty.Pairwise fun a b => a.loaded.id ≠ b.loaded.id) (hx : x ∈ dirty) :
    Table.updated dirty x.loaded = x.current := by
  induction dirty with
  | nil => exact (List.not_mem_nil hx).elim
  | cons y rest ih =>
    obtain ⟨others, single⟩ := List.pairwise_cons.mp single
    rw [Table.updated_cons]
    rcases List.mem_cons.mp hx with rfl | hx
    · have same : Row.SamePrimary x.loaded x.loaded := rfl
      rw [if_pos same]
      exact updated_unheld fun z hz => (others z hz).symm
    · have other : ¬ Row.SamePrimary y.loaded x.loaded := others x hx
      rw [if_neg other]
      exact ih single hx

/-- Instances of one execution with their attributes set. -/
abbrev setAll (id : String) (set : OrderExecution.Change → OrderExecution.Change)
    (dirty : List (Instance OrderExecution)) : List (Instance OrderExecution) :=
  dirty.map fun held => if held.loaded.id = id then ⟨held.loaded, set held.change⟩ else held

theorem single_setAll {id : String} {set : OrderExecution.Change → OrderExecution.Change}
    (single : dirty.Pairwise fun a b => a.loaded.id ≠ b.loaded.id) :
    (setAll id set dirty).Pairwise fun a b => a.loaded.id ≠ b.loaded.id := by
  refine List.pairwise_map.mpr (single.imp fun {a b} other => ?_)
  have loaded : ∀ x : Instance OrderExecution,
      (if x.loaded.id = id then (⟨x.loaded, set x.change⟩ : Instance OrderExecution) else x).loaded =
        x.loaded := by
    intro x
    split <;> rfl
  rw [loaded, loaded]
  exact other

end updates

/-! ### What a session would commit -/

def OrderExecution.order (x : OrderExecution) : String × OrderExecutionStatus := (x.id, x.status)

/-- The logs of the committed executions. -/
def Db.Chained (db : Db) : Prop :=
  CopyTrading.Chained (db.executions.rows.map OrderExecution.order) db.transitions.rows

/-- The orders as a commit would leave them. -/
def Session.orders (s : Session) (db : Db) : List (String × OrderExecutionStatus) :=
  (db.executions.rows.map (Table.updated s.executions) ++ s.work.executions).map OrderExecution.order

/-- The logs are chained once they are written as the session has them. -/
theorem Session.chained_of_written {s : Session} {db after : Db} (written : s.pending.Written db after)
    (chained : CopyTrading.Chained (s.orders db) (db.transitions.rows ++ s.work.transitions)) :
    after.Chained := by
  have executions := Table.rows_insertAll written.executions
  have transitions := Table.rows_insertAll written.transitions
  unfold Db.Chained
  rw [executions, transitions]
  exact chained

/-- What a session holds is committed, and what it would commit is chained. -/
structure ChainedSession (s : Session) (w : World) : Prop where
  stored : w.db.Chained
  accounts : s.SeesAccounts w.db
  secrets : s.SeesSecrets w.db
  held : ∀ x ∈ s.executions, x.loaded ∈ w.db.executions
  single : s.executions.Pairwise fun a b => a.loaded.id ≠ b.loaded.id
  distinct : ∀ x ∈ s.work.executions, ∀ y ∈ w.db.executions, y.id ≠ x.id
  noStop : s.work.stop = none
  chained : CopyTrading.Chained (s.orders w.db) (w.db.transitions.rows ++ s.work.transitions)

namespace ChainedSession

variable {s : Session} {w : World} {id : String} {x : OrderExecution}

/-- A stored row is held, and shows the held attributes, or is not. -/
theorem held_or (chained : ChainedSession s w) {row : OrderExecution}
    (stored : row ∈ w.db.executions) :
    (∃ change, ⟨row, change⟩ ∈ s.executions) ∨ ∀ y ∈ s.executions, y.loaded.id ≠ row.id := by
  by_cases held : ∃ y ∈ s.executions, y.loaded.id = row.id
  · obtain ⟨⟨loaded, change⟩, hy, hid⟩ := held
    obtain rfl : loaded = row := execution_unique (chained.held _ hy) stored hid
    exact .inl ⟨change, hy⟩
  · exact .inr fun y hy hid => held ⟨y, hy, hid⟩

/-- What setting attributes does to the orders, given by what it does to one. -/
theorem orders_setting (chained : ChainedSession s w)
    {set : OrderExecution.Change → OrderExecution.Change}
    {f : String × OrderExecutionStatus → String × OrderExecutionStatus}
    (named : ∀ (change : OrderExecution.Change) (row : OrderExecution), row.id = id →
      (Row.apply (set change) row).order = f (Row.apply change row).order)
    (others : ∀ order, order.1 ≠ id → f order = order)
    (known : ∀ row ∈ w.db.executions, row.id = id → (∀ y ∈ s.executions, y.loaded.id ≠ row.id) →
      f row.order = row.order) :
    (s.setting id set).orders w.db = (s.orders w.db).map f := by
  unfold Session.orders
  rw [List.map_append, List.map_append, List.map_append, List.map_map, List.map_map, List.map_map]
  have single := @single_setAll _ id set chained.single
  refine congrArg₂ (· ++ ·) (List.map_congr_left fun row stored => ?_) ?_
  · change (Table.updated (setAll id set s.executions) row).order =
      f (Table.updated s.executions row).order
    rcases chained.held_or stored with ⟨change, held⟩ | unheld
    · rw [updated_held chained.single held]
      have held' : (if row.id = id then ⟨row, set change⟩ else ⟨row, change⟩ : Instance OrderExecution) ∈
          setAll id set s.executions := List.mem_map.mpr ⟨_, held, rfl⟩
      by_cases hid : row.id = id
      · rw [if_pos hid] at held'
        rw [updated_held single held']
        exact named change row hid
      · rw [if_neg hid] at held'
        rw [updated_held single held']
        exact (others _ hid).symm
    · have unheld' : ∀ y ∈ setAll id set s.executions, y.loaded.id ≠ row.id := by
        intro y hy
        obtain ⟨z, hz, rfl⟩ := List.mem_map.mp hy
        have := unheld z hz
        split <;> exact this
      rw [updated_unheld unheld, updated_unheld unheld']
      by_cases hid : row.id = id
      · exact (known row stored hid unheld).symm
      · exact (others _ hid).symm
  · have pending : (s.setting id set).work.executions =
        s.work.executions.map fun row => if row.id = id then Row.apply (set {}) row else row := rfl
    rw [pending, List.map_map, List.map_map]
    refine List.map_congr_left fun row _ => ?_
    rw [Function.comp_apply]
    by_cases hid : row.id = id
    · rw [if_pos hid]
      exact named {} row hid
    · rw [if_neg hid]
      exact (others _ hid).symm

/-- What the session shows of an execution is how a commit would leave it. -/
theorem order_of_shown (chained : ChainedSession s w) (shown : s.shown id = some x) :
    x.order ∈ s.orders w.db := by
  refine List.mem_map.mpr ⟨x, ?_, rfl⟩
  rcases Option.or_eq_some_iff.mp shown with added | ⟨-, held⟩
  · exact List.mem_append_right _ (List.mem_of_find?_eq_some added)
  · obtain ⟨y, hy, rfl⟩ := Option.map_eq_some_iff.mp held
    have hmem := List.mem_of_find?_eq_some hy
    exact List.mem_append_left _
      (List.mem_map.mpr ⟨y.loaded, chained.held y hmem, updated_held chained.single hmem⟩)

/-- A stored row with the id of an execution that is shown is held. -/
theorem held_of_shown (chained : ChainedSession s w) (shown : s.shown id = some x)
    {row : OrderExecution} (stored : row ∈ w.db.executions) (hid : row.id = id)
    (unheld : ∀ y ∈ s.executions, y.loaded.id ≠ row.id) : False := by
  rcases Option.or_eq_some_iff.mp shown with added | ⟨-, held⟩
  · have same : x.id = id := by simpa using List.find?_some added
    exact chained.distinct x (List.mem_of_find?_eq_some added) row stored (hid.trans same.symm)
  · obtain ⟨y, hy, -⟩ := Option.map_eq_some_iff.mp held
    have same : y.loaded.id = id := by simpa using List.find?_some hy
    exact unheld y (List.mem_of_find?_eq_some hy) (same.trans hid.symm)

/-- The parts of the invariant that setting attributes leaves alone. -/
theorem of_setting (chained : ChainedSession s w) {s' : Session} (id : String)
    (set : OrderExecution.Change → OrderExecution.Change)
    (executions : s'.executions = (s.setting id set).executions)
    (pending : s'.work.executions = (s.setting id set).work.executions)
    (accounts : s'.accounts = s.accounts) (secrets : s'.secrets = s.secrets)
    (noStop : s'.work.stop = s.work.stop)
    (orders : CopyTrading.Chained ((s.setting id set).orders w.db)
      (w.db.transitions.rows ++ s'.work.transitions)) : ChainedSession s' w where
  stored := chained.stored
  accounts := by
    unfold Session.SeesAccounts
    rw [accounts]
    exact chained.accounts
  secrets := by
    unfold Session.SeesSecrets
    rw [secrets]
    exact chained.secrets
  held y hy := by
    rw [executions] at hy
    obtain ⟨z, hz, rfl⟩ := List.mem_map.mp hy
    have := chained.held z hz
    split <;> exact this
  single := by
    rw [executions]
    exact single_setAll chained.single
  distinct y hy row stored := by
    rw [pending] at hy
    obtain ⟨z, hz, rfl⟩ := List.mem_map.mp hy
    have := chained.distinct z hz row stored
    split <;> exact this
  noStop := noStop.trans chained.noStop
  chained := by
    unfold Session.orders
    rw [executions, pending]
    exact orders

theorem look {s' : Session} {w' : World} (chained : ChainedSession s w)
    (looked : Looked s w s' w') : ChainedSession s' w' where
  stored := looked.db ▸ chained.stored
  accounts := looked.db ▸ looked.accounts chained.accounts
  secrets := looked.db ▸ looked.secrets chained.secrets
  held := by
    rw [looked.executions, looked.db]
    exact chained.held
  single := looked.executions ▸ chained.single
  distinct := by
    rw [looked.work, looked.db]
    exact chained.distinct
  noStop := looked.work ▸ chained.noStop
  chained := by
    unfold Session.orders
    rw [looked.executions, looked.work, looked.db]
    exact chained.chained

theorem hold {row : OrderExecution} (chained : ChainedSession s w)
    (stored : row ∈ w.db.executions) (fresh : s.heldExecution row.id = none) :
    ChainedSession (s.loading row) w where
  stored := chained.stored
  accounts := chained.accounts
  secrets := chained.secrets
  held x hx := by
    rcases List.mem_append.mp hx with hx | hx
    · exact chained.held x hx
    · rw [List.mem_singleton.mp hx]
      exact stored
  single := by
    refine List.pairwise_append.mpr ⟨chained.single, List.pairwise_singleton _ _, ?_⟩
    intro a ha b hb
    rw [List.mem_singleton.mp hb]
    simpa using List.find?_eq_none.mp fresh a ha
  distinct := chained.distinct
  noStop := chained.noStop
  chained := by
    have clean : ∀ x : OrderExecution,
        Table.updated (s.executions ++ [⟨row, {}⟩]) x = Table.updated s.executions x := by
      intro x
      unfold Table.updated
      rw [List.foldl_append]
      exact ite_self _
    have same : (s.loading row).orders w.db = s.orders w.db := by
      unfold Session.orders
      exact congrArg (fun rows => (rows ++ s.work.executions).map OrderExecution.order)
        (List.map_congr_left fun x _ => clean x)
    rw [same]
    exact chained.chained

/-- Adding rows that are neither executions nor transitions. -/
theorem adding {extend : Work → Work} (chained : ChainedSession s w)
    (executions : (extend s.work).executions = s.work.executions)
    (transitions : (extend s.work).transitions = s.work.transitions)
    (stop : (extend s.work).stop = s.work.stop) : ChainedSession (s.adding extend) w where
  stored := chained.stored
  accounts := chained.accounts
  secrets := chained.secrets
  held := chained.held
  single := chained.single
  distinct := by
    change ∀ x ∈ (extend s.work).executions, _
    rw [executions]
    exact chained.distinct
  noStop := stop.trans chained.noStop
  chained := by
    unfold Session.orders
    change CopyTrading.Chained ((_ ++ (extend s.work).executions).map _)
      (_ ++ (extend s.work).transitions)
    rw [executions, transitions]
    exact chained.chained

theorem annotate {set : OrderExecution.Change → OrderExecution.Change}
    (chained : ChainedSession s w)
    (annotates : ∀ change : OrderExecution.Change, (set change).status = change.status) :
    ChainedSession (s.setting id set) w := by
  refine chained.of_setting id set rfl rfl rfl rfl rfl ?_
  rw [chained.orders_setting ?_ (fun _ _ => rfl) fun _ _ _ _ => rfl, List.map_id']
  · exact chained.chained
  · intro change row _
    change (row.id, (set change).status.getD row.status) = (row.id, change.status.getD row.status)
    rw [annotates]

theorem maxSequence_next (s : Session) (id : String) (db : Db) :
    s.nextSequence id db = maxSequence id (db.transitions.rows ++ s.work.transitions) + 1 := by
  rw [maxSequence_append]
  rfl

theorem move {toStatus : OrderExecutionStatus} {reason : String} {details : Json}
    (chained : ChainedSession s w) (shown : s.shown id = some x)
    (allowed : toStatus ∈ allowedOrderTransitions x.status) :
    ChainedSession (s.moving x toStatus reason details (s.nextSequence x.id w.db)) w := by
  obtain rfl : x.id = id := id_of_shown shown
  refine chained.of_setting x.id (fun change => { change with status := some toStatus }) rfl rfl rfl
    rfl rfl ?_
  rw [chained.orders_setting (f := fun order => if order.1 = x.id then (x.id, toStatus) else order)
    ?_ (fun _ other => if_neg other)
    fun row stored hid unheld => (chained.held_of_shown shown stored hid unheld).elim]
  · change CopyTrading.Chained _ (w.db.transitions.rows ++ (s.work.transitions ++ [_]))
    rw [← List.append_assoc]
    exact chained.chained.move (chained.order_of_shown shown) rfl (maxSequence_next s x.id w.db) rfl
      rfl allowed
  · intro change row hid
    have named : (Row.apply change row).order.1 = x.id := hid
    rw [if_pos named, ← hid]
    rfl

theorem insert {row : OrderExecution} {reason : String} (chained : ChainedSession s w)
    (created : row.status = .created) (saved : row.id ≠ "")
    (accepted : (w.db.flush (s.adding (Work.withExecution row)).pending).isOk = true) :
    ChainedSession ((s.adding (Work.withExecution row)).logging row none .created reason .null
      (s.nextSequence row.id w.db)) w := by
  obtain ⟨notStored, notAdded⟩ := fresh_of_flush accepted rfl
  refine ⟨chained.stored, chained.accounts, chained.secrets, chained.held, chained.single, ?_,
    chained.noStop, ?_⟩
  · intro x hx y stored
    rcases List.mem_append.mp hx with hx | hx
    · exact chained.distinct x hx y stored
    · rw [List.mem_singleton.mp hx]
      exact notStored y stored
  · have orders : Session.orders ((s.adding (Work.withExecution row)).logging row none .created
        reason .null (s.nextSequence row.id w.db)) w.db = s.orders w.db ++ [(row.id, .created)] := by
      unfold Session.orders
      change List.map _ (_ ++ (s.work.executions ++ [row])) = _
      rw [← List.append_assoc, List.map_append, List.map_singleton, OrderExecution.order, created]
      rfl
    rw [orders]
    change CopyTrading.Chained _ (w.db.transitions.rows ++ (s.work.transitions ++ [_]))
    rw [← List.append_assoc]
    refine chained.chained.insert ?_ saved rfl (maxSequence_next s row.id w.db) rfl rfl
    intro order horder
    obtain ⟨x, hx, rfl⟩ := List.mem_map.mp horder
    rcases List.mem_append.mp hx with hx | hx
    · obtain ⟨old, stored, rfl⟩ := List.mem_map.mp hx
      have same : (Table.updated s.executions old).id = old.id := (sameOrder_updated _ _).id
      change (Table.updated s.executions old).id ≠ row.id
      rw [same]
      exact notStored old stored
    · exact notAdded x hx

/-- A commit leaves what the session would commit. -/
theorem commit {after : World} (chained : ChainedSession s w)
    (flushed : semantics.flush s.pending w = .ok after) : after.db.Chained :=
  Session.chained_of_written
    (Work.written_of_flush (World.flush_ok flushed).1 chained.noStop) chained.chained

/-- A session that holds nothing. -/
theorem empty (stored : w.db.Chained) : ChainedSession {} w where
  stored := stored
  accounts := fun x hx => (List.not_mem_nil hx).elim
  secrets := fun x hx => (List.not_mem_nil hx).elim
  held := fun x hx => (List.not_mem_nil hx).elim
  single := .nil
  distinct := fun x hx => (List.not_mem_nil hx).elim
  noStop := rfl
  chained := by
    have same : Session.orders {} w.db = w.db.executions.rows.map OrderExecution.order := by
      unfold Session.orders
      rw [List.append_nil, List.map_map]
      rfl
    rw [same, List.append_nil]
    exact stored

end ChainedSession

/-! ### Order operations, one after the other -/

/-- Nothing is asked of the rows an operation attaches what it writes to. -/
def Scope.unrestricted (userId : String) : Scope where
  userId := userId
  account _ _ := True
  signal _ _ := True
  execution _ := True
  account_of _ _ := True.intro
  signal_of _ _ := True.intro
  execution_of _ := True.intro
  stable _ _ _ := True.intro

/-- A commit leaves every log chained. -/
def CommitsChained : Event backend → Prop
  | .commit _ _ after => after.db.Chained
  | _ => True

theorem Kept.unrestricted {userId : String} {s s' : Session} {w w' : World} :
    Kept (Scope.unrestricted userId) s w s' w' :=
  ⟨fun _ => True.intro, fun _ => True.intro, fun _ => ⟨fun _ _ _ => True.intro, fun _ _ _ => True.intro⟩⟩

theorem chainedInvariant (userId : String) :
    OrderInvariant semantics CommitsChained (Scope.unrestricted userId) ChainedSession where
  look := ChainedSession.look
  accounts := ChainedSession.accounts
  secrets := ChainedSession.secrets
  held := ChainedSession.held
  distinct := ChainedSession.distinct
  saved := by
    intro s w id x s' chained opens
    cases opens with
    | shown shown => exact chained.chained.saved _ (chained.order_of_shown shown)
    | loaded _ stored _ => exact chained.stored.saved _ (List.mem_map_of_mem stored)
  hold := ChainedSession.hold
  annotate chained _ _ annotates := chained.annotate annotates
  move chained shown _ allowed := chained.move shown allowed
  insert chained _ created saved _ _ accepted := chained.insert created saved accepted
  addSignal chained _ := chained.adding rfl rfl rfl
  addRiskSetting chained _ := chained.adding rfl rfl rfl
  addPosition chained _ _ := chained.adding rfl rfl rfl
  movePosition chained _ _ := chained.adding rfl rfl rfl
  addAuditLog chained _ := chained.adding rfl rfl rfl
  commit chained flushed :=
    ⟨chained.commit flushed, .empty (chained.commit flushed), .unrestricted⟩
  abort chained := .empty chained.stored
  quiet query before answer after answered :=
    ⟨True.intro, @db_eq_of_call query answer before after answered⟩

inductive OrderOperation where
  | executeSignal (userId signalId exchangeAccountId : String) (alertRuntime : Bool)
  | createOrGetSubmission (userId : String) (context : TestnetOrderApiContext)
  | recordAccepted (id : String) (exchangeResponse : Json)
  | recordFailure (id failureType : String)
  | applyEvent (userId exchangeAccountId : String) (event : NormalizedTestnetOrderEvent)
      (transitionReason : String)
  | reconcile (userId exchangeAccountId : String)

def OrderOperation.service (py : Platform) : OrderOperation → Service Unit
  | .executeSignal userId signalId exchangeAccountId alertRuntime =>
      discard <| executeSignalForAccount py userId signalId exchangeAccountId alertRuntime
  | .createOrGetSubmission userId context =>
      discard <| createOrGetTestnetSubmissionExecution py userId context
  | .recordAccepted id exchangeResponse =>
      discard <| recordTestnetSubmissionAccepted py id exchangeResponse
  | .recordFailure id failureType => discard <| recordTestnetSubmissionFailure id failureType
  | .applyEvent userId exchangeAccountId event transitionReason =>
      discard <| applyTestnetOrderEvent userId exchangeAccountId event transitionReason
  | .reconcile userId exchangeAccountId =>
      discard <| reconcilePendingTestnetOrders py userId exchangeAccountId

/-- Nothing is pending, and every instance the session holds is as committed. -/
structure Session.SeesCommitted (s : Session) (db : Db) : Prop where
  work : s.work = {}
  executions : ∀ x ∈ s.executions, x.change = {} ∧ x.loaded ∈ db.executions
  single : s.executions.Pairwise fun a b => a.loaded.id ≠ b.loaded.id
  accounts : s.SeesAccounts db
  secrets : s.SeesSecrets db

/-- Operations one at a time, each in a session that sees the committed rows, and each cut off
anywhere or run to its end. In between, anything else may change but the executions and their
transitions. -/
inductive OrderRun (py : Platform) (start : World) : List (Event backend) → World → Prop where
  | start : OrderRun py start [] start
  | operation {before after : World} {trace events : List (Event backend)} {s : Session}
      {rest : Prog backend (Except Exc Unit × Session)} (run : OrderRun py start trace before)
      (op : OrderOperation) (sees : s.SeesCommitted before.db)
      (ran : Prog.Run semantics (op.service py s) before events rest after) :
      OrderRun py start (trace ++ events) after
  | elsewhere {before after : World} {trace : List (Event backend)}
      (run : OrderRun py start trace before)
      (executions : after.db.executions = before.db.executions)
      (transitions : after.db.transitions = before.db.transitions) :
      OrderRun py start trace after

theorem Session.SeesCommitted.fresh (db : Db) : Session.SeesCommitted {} db where
  work := rfl
  executions _ hx := (List.not_mem_nil hx).elim
  single := .nil
  accounts _ hx := (List.not_mem_nil hx).elim
  secrets _ hx := (List.not_mem_nil hx).elim

theorem Session.SeesCommitted.chained {s : Session} {w : World} (sees : s.SeesCommitted w.db)
    (stored : w.db.Chained) : ChainedSession s w where
  stored := stored
  accounts := sees.accounts
  secrets := sees.secrets
  held x hx := (sees.executions x hx).2
  single := sees.single
  distinct := by
    rw [sees.work]
    exact fun x hx => (List.not_mem_nil hx).elim
  noStop := by rw [sees.work]
  chained := by
    have clean : ∀ row : OrderExecution, Table.updated s.executions row = row :=
      updated_executions fun x hx => (sees.executions x hx).1
    have same : s.orders w.db = w.db.executions.rows.map OrderExecution.order := by
      unfold Session.orders
      rw [sees.work, List.append_nil, List.map_map]
      exact List.map_congr_left fun row _ => congrArg OrderExecution.order (clean row)
    rw [same, sees.work, List.append_nil]
    exact stored

/-- Every operation keeps the logs of what it commits chained. -/
theorem OrderOperation.commitsChained (py : Platform) (op : OrderOperation) {s : Session}
    {w : World} (chained : ChainedSession s w) :
    Alone semantics CommitsChained (op.service py) (fun _ _ _ => True) s w := by
  have ends {α : Type} {service : Service α} {userId : String} {Q : α → Session → World → Prop}
      (h : Ends semantics CommitsChained (Scope.unrestricted userId) ChainedSession service Q s w) :
      Alone semantics CommitsChained (discard service) (fun _ _ _ => True) s w :=
    alone_discard.mpr (Alone.mono h fun _ _ _ _ => True.intro)
  have covers (id : String) : (Scope.unrestricted "").Covers id s w :=
    ⟨fun _ _ _ => True.intro, fun _ _ _ => True.intro⟩
  cases op with
  | executeSignal userId => exact ends (ends_executeSignalForAccount (chainedInvariant userId) chained)
  | createOrGetSubmission userId =>
    exact ends (ends_createOrGet (chainedInvariant userId) chained True.intro)
  | recordAccepted id =>
    exact ends (keeps_recordTestnetSubmissionAccepted (chainedInvariant "") chained (covers id)).ends
  | recordFailure id =>
    exact ends (keeps_recordTestnetSubmissionFailure (chainedInvariant "") chained (covers id)).ends
  | applyEvent userId =>
    exact ends (keeps_applyTestnetOrderEvent (chainedInvariant userId) chained).ends
  | reconcile userId =>
    exact ends (keeps_reconcilePendingTestnetOrders (chainedInvariant userId) chained).ends

/-- A step that is sound keeps the database chained if its commit does. -/
theorem chained_of_step {e : Event backend} (sound : e.Sound semantics)
    (commits : e.isAction = true → CommitsChained e) (chained : e.before.db.Chained) :
    e.after.db.Chained := by
  cases e with
  | read | abort => exact chained
  | commit => exact commits rfl
  | call query answer before after =>
    have same : after.db = before.db := @db_eq_of_call query answer before after sound
    exact same ▸ chained

theorem OrderRun.invariant {py : Platform} {start last : World} {trace : List (Event backend)}
    (run : OrderRun py start trace last) (chained : start.db.Chained) :
    last.db.Chained ∧ ∀ e ∈ trace, e.isAction = true → CommitsChained e := by
  induction run with
  | start => exact ⟨chained, fun _ he => (List.not_mem_nil he).elim⟩
  | operation run op sees ran ih =>
    obtain ⟨before, earlier⟩ := ih
    obtain ⟨commits, -⟩ := ran.of_alone (op.commitsChained py (sees.chained before))
    refine ⟨?_, fun e he => ?_⟩
    · exact ran.preserves (P := fun world : World => world.db.Chained) before
        fun e he sound => chained_of_step sound (commits e he)
    · rcases List.mem_append.mp he with he | he
      · exact earlier e he
      · exact commits e he
  | elsewhere run executions transitions ih =>
    obtain ⟨before, earlier⟩ := ih
    refine ⟨?_, earlier⟩
    unfold Db.Chained
    rw [executions, transitions]
    exact before

/-- At every commit of every run of order operations, the transitions of each execution are
numbered from one without gaps, start with the creation, follow one another by allowed
transitions, and end at the status of the execution. -/
theorem transition_log_chained {py : Platform} {start last : World} {trace : List (Event backend)}
    (run : OrderRun py start trace last) (chained : start.db.Chained) {work : Work}
    {before after : World} (commit : Event.commit work before after ∈ trace)
    {x : OrderExecution} (stored : x ∈ after.db.executions) :
    TransitionLog (transitionsOf x.id after.db.transitions.rows) x.status := by
  have committed : after.db.Chained := (run.invariant chained).2 _ commit rfl
  exact committed.log _ (List.mem_map_of_mem stored)

theorem sampleWorld_chained : sampleWorld.db.Chained :=
  ⟨fun _ h => (List.not_mem_nil h).elim, fun _ h => (List.not_mem_nil h).elim,
    fun _ h => (List.not_mem_nil h).elim⟩

def committedFilled : Event backend → List OrderExecution
  | .commit _ _ after => after.db.executions.rows.filter (·.status = .filled)
  | _ => []

theorem transition_log_chained_filled :
    ∃ trace last, OrderRun asciiPlatform sampleWorld trace last ∧
      ∃ work before after x, Event.commit work before after ∈ trace ∧ x ∈ after.db.executions ∧
        x.status = .filled ∧
        TransitionLog (transitionsOf x.id after.db.transitions.rows) x.status := by
  let op : OrderOperation := .executeSignal "u" "s1" "a" false
  have ran := Exchange.serving_run ⟨true, .empty⟩ (op.service asciiPlatform {}) sampleWorld 40
  have run := OrderRun.start.operation op (.fresh _) ran
  have filled : ∃ e ∈ (Exchange.serving ⟨true, .empty⟩ (op.service asciiPlatform {}) sampleWorld
      40).1.map Prod.snd, ∃ x ∈ committedFilled e, x.status = .filled := by decide +kernel
  obtain ⟨e, he, x, hx, status⟩ := filled
  cases e with
  | read | abort | call => exact (List.not_mem_nil hx).elim
  | commit work before after =>
    have stored := List.mem_of_mem_filter hx
    exact ⟨_, _, run, work, before, after, x, he, stored, status,
      transition_log_chained run sampleWorld_chained he stored⟩

end CopyTrading
