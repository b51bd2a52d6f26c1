import CopyTrading.Transaction.Observer
import CopyTrading.TransitionLog

/-!
Transition logs among concurrent sessions. A session numbers its rows after the largest number it
has read, and the database refuses a number that was given in the meantime: the log of every
execution stays numbered without a gap and ends at its status, in every interleaving. The rows
start where the row before ended exactly if no status was decided on an outdated one.
-/

namespace CopyTrading

open Transaction Transaction.Handler

/-! ### Rows that follow one another -/

/-- A row the state machine writes: the creation, or an allowed move. -/
def OrderExecutionTransition.Permitted (row : OrderExecutionTransition) : Prop :=
  match row.fromStatus with
  | none => row.toStatus = .created
  | some status => row.toStatus ∈ allowedOrderTransitions status

/-- The rows lead from one status to another one; an execution that is not there has none. -/
def LeadsTo : Option OrderExecutionStatus → List OrderExecutionTransition →
    Option OrderExecutionStatus → Prop
  | start, [], finish => start = finish
  | start, row :: rest, finish =>
      row.fromStatus = start ∧ row.Permitted ∧ LeadsTo (some row.toStatus) rest finish

/-- One row starts where the other one ended, with an allowed move. -/
def Links (a b : OrderExecutionTransition) : Prop :=
  b.fromStatus = some a.toStatus ∧ b.toStatus ∈ allowedOrderTransitions a.toStatus

namespace LeadsTo

variable {start finish : Option OrderExecutionStatus}
  {rows : List OrderExecutionTransition} {row : OrderExecutionTransition}

theorem snoc (leads : LeadsTo start rows row.fromStatus) (permitted : row.Permitted) :
    LeadsTo start (rows ++ [row]) (some row.toStatus) := by
  induction rows generalizing start with
  | nil => exact ⟨leads.symm, permitted, rfl⟩
  | cons first rest ih => exact ⟨leads.1, leads.2.1, ih leads.2.2⟩

theorem permitted (leads : LeadsTo start rows finish) : ∀ row ∈ rows, row.Permitted := by
  induction rows generalizing start with
  | nil => simp
  | cons first rest ih =>
    simp only [List.mem_cons, forall_eq_or_imp]
    exact ⟨leads.2.1, ih leads.2.2⟩

/-- The last row ends where the rows lead to. -/
theorem last (leads : LeadsTo start rows finish) (some_row : rows ≠ []) :
    ∃ row ∈ rows.getLast?, some row.toStatus = finish := by
  induction rows generalizing start with
  | nil => exact absurd rfl some_row
  | cons first rest ih =>
    cases rest with
    | nil => exact ⟨first, rfl, leads.2.2⟩
    | cons second rest => simpa using ih leads.2.2 (by simp)

/-- All rows but the first start where another one ended. -/
theorem moves (leads : LeadsTo start rows finish) : ∀ row ∈ rows.tail, row.fromStatus ≠ none := by
  induction rows generalizing start with
  | nil => simp
  | cons first rest ih =>
    cases rest with
    | nil => simp
    | cons second rest =>
      have later := ih leads.2.2
      simp only [List.tail_cons, List.mem_cons, forall_eq_or_imp] at later ⊢
      exact ⟨by simp [leads.2.2.1], later⟩

theorem links (leads : LeadsTo start rows finish) : rows.IsChain Links := by
  induction rows generalizing start with
  | nil => exact .nil
  | cons first rest ih =>
    cases rest with
    | nil => exact .singleton _
    | cons second rest =>
      refine List.isChain_cons_cons.mpr ⟨⟨leads.2.2.1, ?_⟩, ih leads.2.2⟩
      have permitted := leads.2.2.2.1
      simpa only [OrderExecutionTransition.Permitted, leads.2.2.1] using permitted

theorem of_links {last : OrderExecutionTransition} (linked : (row :: rows).IsChain Links)
    (permitted : row.Permitted) (ends : (row :: rows).getLast? = some last) :
    LeadsTo row.fromStatus (row :: rows) (some last.toStatus) := by
  induction rows generalizing row with
  | nil =>
    cases ends
    exact ⟨rfl, permitted, rfl⟩
  | cons second rest ih =>
    obtain ⟨link, linked⟩ := List.isChain_cons_cons.mp linked
    have next : second.Permitted := by
      simpa only [OrderExecutionTransition.Permitted, link.1] using link.2
    have later := ih linked next (by simpa using ends)
    rw [link.1] at later
    exact ⟨rfl, permitted, later⟩

end LeadsTo

/-! ### Numbers that were read -/

/-- Each number follows the larger of the one before and some number that was seen. -/
def NumberedFrom (seen : Nat) : Nat → List Nat → Prop
  | _, [] => True
  | last, number :: rest =>
      last < number ∧ number ≤ max seen last + 1 ∧ NumberedFrom seen number rest

namespace NumberedFrom

variable {seen seen' last count number : Nat} {numbers : List Nat}

theorem mono (numbered : NumberedFrom seen last numbers) (more : seen ≤ seen') :
    NumberedFrom seen' last numbers := by
  induction numbers generalizing last with
  | nil => exact True.intro
  | cons first rest ih =>
    obtain ⟨above, near, later⟩ := numbered
    exact ⟨above, by omega, ih later⟩

theorem snoc (numbered : NumberedFrom seen last numbers) (above : numbers.foldl max last < number)
    (near : number ≤ max seen (numbers.foldl max last) + 1) :
    NumberedFrom seen last (numbers ++ [number]) := by
  induction numbers generalizing last with
  | nil => exact ⟨above, near, True.intro⟩
  | cons first rest ih =>
    obtain ⟨first_above, first_near, later⟩ := numbered
    rw [List.foldl_cons, max_eq_right first_above.le] at above near
    exact ⟨first_above, first_near, ih later above near⟩

/-- Past all that was seen there is one number to take. -/
theorem eq_range (numbered : NumberedFrom seen last numbers) (past : seen ≤ last) :
    numbers = List.range' (last + 1) numbers.length := by
  induction numbers generalizing last with
  | nil => rfl
  | cons first rest ih =>
    obtain ⟨above, near, later⟩ := numbered
    obtain rfl : first = last + 1 := by omega
    rw [List.length_cons, List.range'_succ, ← ih later (by omega)]

/-- Numbers that are not given yet follow the ones that are. -/
theorem fits (numbered : NumberedFrom seen 0 numbers) (valid : seen ≤ count)
    (free : ∀ number ∈ numbers, number ∉ List.range' 1 count) :
    numbers = List.range' (count + 1) numbers.length := by
  cases numbers with
  | nil => rfl
  | cons first rest =>
    obtain ⟨above, near, later⟩ := numbered
    have out := free first List.mem_cons_self
    rw [List.mem_range'_1] at out
    obtain rfl : first = count + 1 := by omega
    rw [List.length_cons, List.range'_succ, ← later.eq_range (by omega)]

end NumberedFrom

/-! ### Logs that may have been raced -/

/-- The log of an execution, wherever its rows start. -/
structure RacedLog (rows : List OrderExecutionTransition) (status : OrderExecutionStatus) :
    Prop where
  numbered : rows.map (·.sequenceNumber) = List.range' 1 rows.length
  first : ∃ row ∈ rows.head?, row.fromStatus = none
  moves : ∀ row ∈ rows.tail, row.fromStatus ≠ none
  permitted : ∀ row ∈ rows, row.Permitted
  last : ∃ row ∈ rows.getLast?, row.toStatus = status

namespace RacedLog

variable {rows added : List OrderExecutionTransition} {status status' : OrderExecutionStatus}

/-- A log is one without a race exactly if its rows are linked. -/
theorem transitionLog_iff :
    TransitionLog rows status ↔ RacedLog rows status ∧ rows.IsChain Links := by
  constructor
  · intro log
    obtain ⟨row, head, fromStatus, toStatus⟩ := log.first
    obtain ⟨rest, rfl⟩ : ∃ rest, rows = row :: rest := List.head?_eq_some_iff.mp head
    obtain ⟨last, ends, ended⟩ := log.last
    have permitted : row.Permitted := by
      simpa only [OrderExecutionTransition.Permitted, fromStatus] using toStatus
    have leads := LeadsTo.of_links log.linked permitted ends
    exact ⟨⟨log.numbered, ⟨row, rfl, fromStatus⟩, leads.moves, leads.permitted,
      ⟨last, ends, ended⟩⟩, log.linked⟩
  · rintro ⟨log, linked⟩
    refine ⟨log.numbered, ?_, linked, log.last⟩
    obtain ⟨row, head, fromStatus⟩ := log.first
    refine ⟨row, head, fromStatus, ?_⟩
    have permitted := log.permitted row (List.mem_of_mem_head? head)
    simpa only [OrderExecutionTransition.Permitted, fromStatus] using permitted

/-- The first rows of an execution. -/
theorem opened (leads : LeadsTo none added (some status))
    (numbered : added.map (·.sequenceNumber) = List.range' 1 added.length) :
    RacedLog added status := by
  cases added with
  | nil => cases leads
  | cons first rest =>
    obtain ⟨last, ends, toStatus⟩ := leads.last (by simp)
    exact ⟨numbered, ⟨first, rfl, leads.1⟩, leads.moves, leads.permitted,
      ⟨last, ends, Option.some.inj toStatus⟩⟩

/-- Further rows, whatever status they were decided on. -/
theorem append {start : OrderExecutionStatus} (log : RacedLog rows status)
    (leads : LeadsTo (some start) added (some status')) (some_row : added ≠ [])
    (numbered : added.map (·.sequenceNumber) = List.range' (rows.length + 1) added.length) :
    RacedLog (rows ++ added) status' := by
  obtain ⟨first, rest, rfl⟩ := List.exists_cons_of_ne_nil some_row
  obtain ⟨head, at_head, fromStatus⟩ := log.first
  obtain ⟨before, rfl⟩ : ∃ before, rows = head :: before := List.head?_eq_some_iff.mp at_head
  constructor
  · rw [List.map_append, log.numbered, numbered, List.length_append, ← List.range'_append_1,
      Nat.add_comm 1]
  · exact ⟨head, rfl, fromStatus⟩
  · intro row mem
    rcases List.mem_append.mp (show row ∈ before ++ first :: rest from mem) with old | new
    · exact log.moves row old
    · rcases List.mem_cons.mp new with rfl | later
      · simp [leads.1]
      · exact leads.moves row later
  · intro row mem
    rcases List.mem_append.mp mem with old | new
    · exact log.permitted row old
    · exact leads.permitted row new
  · obtain ⟨last, ends, toStatus⟩ := leads.last some_row
    rw [Option.mem_def] at ends
    exact ⟨last, by rw [Option.mem_def, List.getLast?_append, ends]; rfl, Option.some.inj toStatus⟩

/-- Further rows are linked to a log exactly if they were decided on its status. -/
theorem links_append {start : OrderExecutionStatus} (log : RacedLog rows status)
    (leads : LeadsTo (some start) added (some status')) (some_row : added ≠ []) :
    (rows ++ added).IsChain Links ↔ rows.IsChain Links ∧ start = status := by
  obtain ⟨first, rest, rfl⟩ := List.exists_cons_of_ne_nil some_row
  obtain ⟨last, ends, toStatus⟩ := log.last
  rw [Option.mem_def] at ends
  have link : Links last first ↔ start = status := by
    unfold Links
    rw [leads.1, toStatus, Option.some.injEq]
    refine and_iff_left_of_imp ?_
    rintro rfl
    simpa only [OrderExecutionTransition.Permitted, leads.1] using leads.2.1
  rw [List.isChain_append, ends]
  simp [leads.links, link]

end RacedLog

/-! ### What a session has pending -/

/-- An instance whose status was set has the rows that led there; another one has none. -/
def MovedBy (x : Instance OrderExecution) (rows : List OrderExecutionTransition) : Prop :=
  match x.change.status with
  | none => rows = []
  | some status => rows ≠ [] ∧ LeadsTo (some x.loaded.status) rows (some status)

/-- What a session has read: of each execution whether it is stored, and the largest number. -/
structure SeenOrders where
  stored : String → Prop
  number : String → Nat

def SeenOrders.nothing : SeenOrders where
  stored _ := False
  number _ := 0

def SeenOrders.read (seen : SeenOrders) (db : Db) : SeenOrders where
  stored id := seen.stored id ∨ ∃ x ∈ db.executions, x.id = id
  number id := max (seen.number id) (maxSequence id db.transitions.rows)

/-- What a session has pending is logged. Executions may be added only where the session loads
none beside them. -/
structure LoggedSession (adds : Bool) (s : Session) (seen : SeenOrders) : Prop where
  noStop : s.work.stop = none
  none_added : adds = false → s.work.executions = []
  added : ∀ x ∈ s.work.executions, x.id ≠ "" ∧
    LeadsTo none (transitionsOf x.id s.work.transitions) (some x.status)
  single : s.executions.Pairwise fun a b => a.loaded.id ≠ b.loaded.id
  apart : ∀ x ∈ s.work.executions, ∀ y ∈ s.executions, y.loaded.id ≠ x.id
  known : ∀ y ∈ s.executions, seen.stored y.loaded.id
  held : ∀ y ∈ s.executions, y.loaded.id ≠ "" →
    MovedBy y (transitionsOf y.loaded.id s.work.transitions)
  belongs : ∀ row ∈ s.work.transitions, row.orderExecutionId ≠ "" ∧
    ((∃ x ∈ s.work.executions, x.id = row.orderExecutionId) ∨
      ∃ y ∈ s.executions, y.loaded.id = row.orderExecutionId)
  numbered : ∀ id, NumberedFrom (seen.number id) 0
    ((transitionsOf id s.work.transitions).map (·.sequenceNumber))

/-- Orders are seen by reading; what is committed must be logged. -/
abbrev orderObserver : Observer backend where
  Knowledge := SeenOrders
  learn seen
    | .read world => seen.read world.db
    | _ => seen
  Asks seen
    | .commit work _ _ => ∃ adds s, LoggedSession adds s seen ∧ work = s.pending
    | _ => True

/-- What was seen was there. -/
structure SeenOrders.Valid (seen : SeenOrders) (db : Db) : Prop where
  stored : ∀ id, seen.stored id → ∃ x ∈ db.executions, x.id = id
  number : ∀ id, seen.number id ≤ maxSequence id db.transitions.rows

/-- Each status that is written was decided on the one that is stored. -/
def Work.DecidesOnCurrent (work : Work) (db : Db) : Prop :=
  ∀ x ∈ work.executionChanges, x.change.status ≠ none →
    ∀ row ∈ db.executions, row.id = x.loaded.id → x.loaded.status = row.status

instance (work : Work) (db : Db) : Decidable (work.DecidesOnCurrent db) :=
  inferInstanceAs (Decidable (∀ x ∈ work.executionChanges, _))

/-- A commit decides what it writes on what is stored. -/
def DecidesCurrent : Event backend → Prop
  | .commit work before _ => work.DecidesOnCurrent before.db
  | _ => True

instance : DecidablePred DecidesCurrent
  | .commit work before _ => inferInstanceAs (Decidable (work.DecidesOnCurrent before.db))
  | .read _ | .abort .. | .call .. => .isTrue True.intro

/-- The logs of the stored executions, wherever their rows start. -/
structure Db.Raced (db : Db) : Prop where
  log : ∀ x ∈ db.executions, RacedLog (transitionsOf x.id db.transitions.rows) x.status
  belongs : ∀ row ∈ db.transitions.rows, ∃ x ∈ db.executions, x.id = row.orderExecutionId
  saved : ∀ x ∈ db.executions, x.id ≠ ""

/-- The rows of every stored execution are linked. -/
def Db.Linked (db : Db) : Prop :=
  ∀ x ∈ db.executions, (transitionsOf x.id db.transitions.rows).IsChain Links

theorem Db.chained_iff {db : Db} : db.Chained ↔ db.Raced ∧ db.Linked := by
  constructor
  · intro chained
    have log (x : OrderExecution) (stored : x ∈ db.executions) :=
      RacedLog.transitionLog_iff.mp (chained.log x.order (List.mem_map_of_mem stored))
    refine ⟨⟨fun x stored => (log x stored).1, fun row mem => ?_, fun x stored => ?_⟩,
      fun x stored => (log x stored).2⟩
    · obtain ⟨order, mem, id⟩ := chained.belongs row mem
      obtain ⟨x, stored, rfl⟩ := List.mem_map.mp mem
      exact ⟨x, stored, id⟩
    · exact chained.saved x.order (List.mem_map_of_mem stored)
  · rintro ⟨raced, linked⟩
    constructor
    · intro order mem
      obtain ⟨x, stored, rfl⟩ := List.mem_map.mp mem
      exact RacedLog.transitionLog_iff.mpr ⟨raced.log x stored, linked x stored⟩
    · intro row mem
      obtain ⟨x, stored, id⟩ := raced.belongs row mem
      exact ⟨x.order, List.mem_map_of_mem stored, id⟩
    · intro order mem
      obtain ⟨x, stored, rfl⟩ := List.mem_map.mp mem
      exact raced.saved x stored

/-! ### A commit -/

theorem transitionsOf_append (id : String) (a b : List OrderExecutionTransition) :
    transitionsOf id (a ++ b) = transitionsOf id a ++ transitionsOf id b := by
  simp [transitionsOf]

theorem transitionsOf_eq_nil {id : String} {transitions : List OrderExecutionTransition}
    (none : ∀ row ∈ transitions, row.orderExecutionId ≠ id) :
    transitionsOf id transitions = [] := by
  simpa [transitionsOf] using none

/-- A row that is held once gets what was set on its instance. -/
theorem updated_eq_apply {dirty : List (Instance OrderExecution)} {x : Instance OrderExecution}
    {row : OrderExecution} (single : dirty.Pairwise fun a b => a.loaded.id ≠ b.loaded.id)
    (held : x ∈ dirty) (id : x.loaded.id = row.id) :
    Table.updated dirty row = Row.apply x.change row := by
  induction dirty with
  | nil => cases held
  | cons y rest ih =>
    obtain ⟨others, single⟩ := List.pairwise_cons.mp single
    rw [Table.updated_cons]
    rcases List.mem_cons.mp held with rfl | later
    · have same : Row.SamePrimary x.loaded row := id
      rw [if_pos same]
      exact updated_unheld fun z mem same => others z mem (id.trans same.symm)
    · have other : ¬ Row.SamePrimary y.loaded row := fun same => others x later (same.trans id.symm)
      rw [if_neg other]
      exact ih single later

namespace LoggedSession

variable {adds : Bool} {s : Session} {seen : SeenOrders} {before after : Db}

section commits

variable (logged : LoggedSession adds s seen) (written : s.pending.Written before after)
  (valid : seen.Valid before)

include logged written valid

/-- What is added to a log goes on with its numbers. -/
theorem pending_numbered (id : String)
    (numbered : (transitionsOf id before.transitions.rows).map (·.sequenceNumber) =
      List.range' 1 (transitionsOf id before.transitions.rows).length) :
    (transitionsOf id s.work.transitions).map (·.sequenceNumber) =
      List.range' ((transitionsOf id before.transitions.rows).length + 1)
        (transitionsOf id s.work.transitions).length := by
  have count : maxSequence id before.transitions.rows =
      (transitionsOf id before.transitions.rows).length := by
    have largest := congrArg (List.foldl max 0) numbered
    rwa [foldl_max_range] at largest
  have fits := (logged.numbered id).fits ((valid.number id).trans count.le)
    fun number mem given => ?_
  · rwa [List.length_map] at fits
  · obtain ⟨new, new_mem, rfl⟩ := List.mem_map.mp mem
    rw [← numbered] at given
    obtain ⟨old, old_mem, same⟩ := List.mem_map.mp given
    simp only [transitionsOf, List.mem_filter, decide_eq_true_eq] at new_mem old_mem
    refine Table.fresh_of_insertAll written.transitions old_mem.1 new_mem.1 ?_
    exact congrArg₂ OrderExecutionTransition.Key.mk (old_mem.2.trans new_mem.2.symm) same

/-- The log of a stored execution: nothing is added to it, or the rows that lead from the status
its instance was loaded with to the one that is written. -/
theorem log_stored {row : OrderExecution} (raced : before.Raced)
    (stored : row ∈ before.executions) :
    RacedLog (transitionsOf row.id after.transitions.rows)
        (Table.updated s.executions row).status ∧
      ((transitionsOf row.id after.transitions.rows).IsChain Links ↔
        (transitionsOf row.id before.transitions.rows).IsChain Links ∧
          ∀ y ∈ s.executions, y.change.status ≠ none → row.id = y.loaded.id →
            y.loaded.status = row.status) := by
  have log := raced.log row stored
  have numbered := logged.pending_numbered written valid row.id log.numbered
  rw [Table.rows_insertAll written.transitions, transitionsOf_append]
  change RacedLog (_ ++ transitionsOf row.id s.work.transitions) _ ∧
    ((_ ++ transitionsOf row.id s.work.transitions).IsChain Links ↔ _)
  by_cases held : ∃ y ∈ s.executions, y.loaded.id = row.id
  · obtain ⟨y, mem, id⟩ := held
    have only {z : Instance OrderExecution} (other : z ∈ s.executions)
        (same : row.id = z.loaded.id) : z = y :=
      List.inj_on_of_nodup_map (List.pairwise_map.mpr logged.single : (_ : List String).Nodup) other
        mem (same.symm.trans id.symm)
    have moved := logged.held y mem (id ▸ raced.saved row stored)
    rw [id] at moved
    rw [updated_eq_apply logged.single mem id]
    change RacedLog _ (y.change.status.getD row.status) ∧ _
    unfold MovedBy at moved
    cases changed : y.change.status with
    | none =>
      rw [changed] at moved
      rw [show transitionsOf row.id s.work.transitions = [] from moved, List.append_nil]
      refine ⟨log, (and_iff_left fun z other set same => ?_).symm⟩
      rw [only other same, changed] at set
      exact absurd rfl set
    | some status =>
      rw [changed] at moved
      obtain ⟨some_row, leads⟩ := moved
      refine ⟨log.append leads some_row numbered, (log.links_append leads some_row).trans ?_⟩
      refine and_congr_right fun _ => ⟨fun decided z other _ same => ?_, fun decided => ?_⟩
      · rw [only other same]
        exact decided
      · exact decided y mem (by simp [changed]) id.symm
  · have unheld : ∀ y ∈ s.executions, y.loaded.id ≠ row.id := fun y mem id => held ⟨y, mem, id⟩
    have nothing : transitionsOf row.id s.work.transitions = [] := by
      refine transitionsOf_eq_nil fun new mem id => ?_
      rcases (logged.belongs new mem).2 with ⟨x, added, same⟩ | ⟨y, held, same⟩
      · exact Table.fresh_of_insertAll written.executions
          (Table.mem_writeBack.mpr ⟨row, stored, rfl⟩) added
          (.inl ((sameOrder_updated _ row).id.trans (id.symm.trans same.symm)))
      · exact unheld y held (same.trans id)
    rw [updated_unheld unheld, nothing, List.append_nil]
    exact ⟨log, (and_iff_left fun y mem _ same => absurd same.symm (unheld y mem)).symm⟩

/-- The log of an execution that is inserted. -/
theorem log_added {x : OrderExecution} (raced : before.Raced) (added : x ∈ s.work.executions) :
    RacedLog (transitionsOf x.id after.transitions.rows) x.status ∧
      (transitionsOf x.id after.transitions.rows).IsChain Links := by
  have leads := (logged.added x added).2
  have unlogged : transitionsOf x.id before.transitions.rows = [] := by
    refine transitionsOf_eq_nil fun row mem id => ?_
    obtain ⟨old, stored, same⟩ := raced.belongs row mem
    exact Table.fresh_of_insertAll written.executions
      (Table.mem_writeBack.mpr ⟨old, stored, rfl⟩) added
      (.inl ((sameOrder_updated _ old).id.trans (same.trans id)))
  have numbered := logged.pending_numbered written valid x.id (by rw [unlogged]; rfl)
  rw [Table.rows_insertAll written.transitions, transitionsOf_append, unlogged, List.nil_append]
  rw [unlogged] at numbered
  exact ⟨.opened leads numbered, leads.links⟩

/-- A commit keeps the logs. It leaves them linked exactly if they were, and what it writes was
decided on what was stored. -/
theorem commit (raced : before.Raced) :
    after.Raced ∧ (after.Linked ↔ before.Linked ∧ s.pending.DecidesOnCurrent before) := by
  have stored_or {x : OrderExecution} (mem : x ∈ after.executions) :
      (∃ row ∈ before.executions, Table.updated s.executions row = x) ∨ x ∈ s.work.executions :=
    ((Table.mem_insertAll written.executions).mp mem).imp_left Table.mem_writeBack.mp
  have kept {row : OrderExecution} (stored : row ∈ before.executions) :
      Table.updated s.executions row ∈ after.executions :=
    (Table.mem_insertAll written.executions).mpr (.inl (Table.mem_writeBack.mpr ⟨row, stored, rfl⟩))
  refine ⟨⟨?_, ?_, ?_⟩, ?_, ?_⟩
  · intro x mem
    rcases stored_or mem with ⟨row, stored, rfl⟩ | added
    · rw [(sameOrder_updated _ row).id]
      exact (logged.log_stored written valid raced stored).1
    · exact (logged.log_added written valid raced added).1
  · intro row mem
    rw [Table.rows_insertAll written.transitions] at mem
    rcases List.mem_append.mp mem with old | new
    · obtain ⟨x, stored, id⟩ := raced.belongs row old
      exact ⟨_, kept stored, (sameOrder_updated _ x).id.trans id⟩
    · rcases (logged.belongs row new).2 with ⟨x, added, id⟩ | ⟨y, held, id⟩
      · exact ⟨x, (Table.mem_insertAll written.executions).mpr (.inr added), id⟩
      · obtain ⟨x, stored, same⟩ := valid.stored _ (logged.known y held)
        exact ⟨_, kept stored, (sameOrder_updated _ x).id.trans (same.trans id)⟩
  · intro x mem
    rcases stored_or mem with ⟨row, stored, rfl⟩ | added
    · rw [(sameOrder_updated _ row).id]
      exact raced.saved row stored
    · exact (logged.added x added).1
  · intro linked
    refine ⟨fun row stored => ?_, fun y mem set row stored same => ?_⟩
    · have chain := linked _ (kept stored)
      rw [(sameOrder_updated _ row).id] at chain
      exact ((logged.log_stored written valid raced stored).2.mp chain).1
    · have chain := linked _ (kept stored)
      rw [(sameOrder_updated _ row).id] at chain
      exact ((logged.log_stored written valid raced stored).2.mp chain).2 y mem set same
  · rintro ⟨linked, decided⟩ x mem
    rcases stored_or mem with ⟨row, stored, rfl⟩ | added
    · rw [(sameOrder_updated _ row).id]
      exact (logged.log_stored written valid raced stored).2.mpr
        ⟨linked row stored, fun y mem set same => decided y mem set row stored same⟩
    · exact (logged.log_added written valid raced added).2

end commits

/-! ### What the operations leave pending -/

theorem empty : LoggedSession adds {} seen where
  noStop := rfl
  none_added _ := rfl
  added := by simp
  single := .nil
  apart := by simp
  known := by simp
  held := by simp
  belongs := by simp
  numbered _ := True.intro

theorem read (logged : LoggedSession adds s seen) (db : Db) :
    LoggedSession adds s (seen.read db) where
  noStop := logged.noStop
  none_added := logged.none_added
  added := logged.added
  single := logged.single
  apart := logged.apart
  known y held := .inl (logged.known y held)
  held := logged.held
  belongs := logged.belongs
  numbered id := (logged.numbered id).mono (le_max_left _ _)

/-- Other rows may be added, and other instances loaded. -/
theorem beside {s' : Session} (logged : LoggedSession adds s seen)
    (executions : s'.executions = s.executions) (added : s'.work.executions = s.work.executions)
    (transitions : s'.work.transitions = s.work.transitions) (stop : s'.work.stop = s.work.stop) :
    LoggedSession adds s' seen := by
  constructor
  · rw [stop]
    exact logged.noStop
  · rw [added]
    exact logged.none_added
  · rw [added, transitions]
    exact logged.added
  · rw [executions]
    exact logged.single
  · rw [added, executions]
    exact logged.apart
  · rw [executions]
    exact logged.known
  · rw [executions, transitions]
    exact logged.held
  · rw [added, executions, transitions]
    exact logged.belongs
  · rw [transitions]
    exact logged.numbered

/-- A stored row is loaded that the session does not have yet. -/
theorem load {row : OrderExecution} (logged : LoggedSession adds s seen)
    (stored : seen.stored row.id) (notAdded : ∀ x ∈ s.work.executions, x.id ≠ row.id)
    (notHeld : ∀ y ∈ s.executions, y.loaded.id ≠ row.id) :
    LoggedSession adds (s.loading row) seen := by
  have nothing : transitionsOf row.id s.work.transitions = [] := by
    refine transitionsOf_eq_nil fun new mem id => ?_
    rcases (logged.belongs new mem).2 with ⟨x, added, same⟩ | ⟨y, held, same⟩
    · exact notAdded x added (same.trans id)
    · exact notHeld y held (same.trans id)
  have of_old_and_new {P : Instance OrderExecution → Prop} (old : ∀ y ∈ s.executions, P y)
      (new : P ⟨row, {}⟩) : ∀ y ∈ (s.loading row).executions, P y := by
    intro y mem
    rcases List.mem_append.mp mem with held | new_mem
    · exact old y held
    · rw [List.mem_singleton.mp new_mem]
      exact new
  constructor
  · exact logged.noStop
  · exact logged.none_added
  · exact logged.added
  · refine List.pairwise_append.mpr ⟨logged.single, List.pairwise_singleton _ _, ?_⟩
    intro y held z new
    rw [List.mem_singleton.mp new]
    exact notHeld y held
  · exact fun x added => of_old_and_new (logged.apart x added) (notAdded x added).symm
  · exact of_old_and_new logged.known stored
  · exact of_old_and_new logged.held fun _ => nothing
  · intro new mem
    refine ⟨(logged.belongs new mem).1, (logged.belongs new mem).2.imp_right ?_⟩
    rintro ⟨y, held, same⟩
    exact ⟨y, List.mem_append_left _ held, same⟩
  · exact logged.numbered

variable {id : String} {x : OrderExecution} {set : OrderExecution.Change → OrderExecution.Change}

/-- The added rows and the instances after attributes were set. -/
theorem setting_cases {s : Session} :
    (∀ z ∈ (s.setting id set).work.executions, ∃ z₀ ∈ s.work.executions,
      z = if z₀.id = id then Row.apply (set {}) z₀ else z₀) ∧
    (∀ y ∈ (s.setting id set).executions, ∃ y₀ ∈ s.executions,
      y = if y₀.loaded.id = id then ⟨y₀.loaded, set y₀.change⟩ else y₀) := by
  constructor
  · intro z mem
    obtain ⟨z₀, mem₀, rfl⟩ := List.mem_map.mp mem
    exact ⟨z₀, mem₀, rfl⟩
  · intro y mem
    obtain ⟨y₀, mem₀, rfl⟩ := List.mem_map.mp mem
    exact ⟨y₀, mem₀, rfl⟩

theorem id_setting (z : OrderExecution) :
    (if z.id = id then Row.apply (set {}) z else z).id = z.id := by
  split
  · rfl
  · rfl

theorem loaded_setting (y : Instance OrderExecution) :
    (if y.loaded.id = id then (⟨y.loaded, set y.change⟩ : Instance OrderExecution) else y).loaded =
      y.loaded := by
  split
  · rfl
  · rfl

/-- Setting attributes keeps what is pending logged if it does so for the execution. -/
theorem of_setting (id : String) (set : OrderExecution.Change → OrderExecution.Change)
    (transitions : List OrderExecutionTransition) (logged : LoggedSession adds s seen)
    (noRow : ∀ other ≠ id, transitionsOf other transitions = transitionsOf other s.work.transitions)
    (added : ∀ z ∈ s.work.executions, z.id = id →
      LeadsTo none (transitionsOf id transitions) (some (Row.apply (set {}) z).status))
    (held : ∀ y ∈ s.executions, y.loaded.id = id → id ≠ "" →
      MovedBy ⟨y.loaded, set y.change⟩ (transitionsOf id transitions))
    (belongs : ∀ row ∈ transitions, row ∈ s.work.transitions ∨ row.orderExecutionId = id ∧ id ≠ "" ∧
      ((∃ x ∈ s.work.executions, x.id = id) ∨ ∃ y ∈ s.executions, y.loaded.id = id))
    (numbered : NumberedFrom (seen.number id) 0
      ((transitionsOf id transitions).map (·.sequenceNumber))) :
    LoggedSession adds
      { s.setting id set with work := { (s.setting id set).work with transitions } } seen := by
  obtain ⟨adding, holding⟩ := @setting_cases id set s
  have added_kept : ∀ key, (∃ x ∈ s.work.executions, x.id = key) →
      ∃ x ∈ (s.setting id set).work.executions, x.id = key := by
    rintro key ⟨z, mem, same⟩
    exact ⟨_, List.mem_map.mpr ⟨z, mem, rfl⟩, (id_setting z).trans same⟩
  have held_kept : ∀ key, (∃ y ∈ s.executions, y.loaded.id = key) →
      ∃ y ∈ (s.setting id set).executions, y.loaded.id = key := by
    rintro key ⟨y, mem, same⟩
    exact ⟨_, List.mem_map.mpr ⟨y, mem, rfl⟩, (congrArg _ (loaded_setting y)).trans same⟩
  constructor
  · exact logged.noStop
  · intro without
    change s.work.executions.map _ = []
    rw [logged.none_added without, List.map_nil]
  · intro z mem
    obtain ⟨z₀, mem₀, rfl⟩ := adding z mem
    have before := logged.added z₀ mem₀
    rw [id_setting]
    refine ⟨before.1, ?_⟩
    by_cases same : z₀.id = id
    · rw [if_pos same, same]
      exact added z₀ mem₀ same
    · rw [if_neg same]
      exact (noRow z₀.id same).symm ▸ before.2
  · exact single_setAll logged.single
  · intro z mem y mem'
    obtain ⟨z₀, mem₀, rfl⟩ := adding z mem
    obtain ⟨y₀, mem₀', rfl⟩ := holding y mem'
    rw [id_setting, loaded_setting]
    exact logged.apart z₀ mem₀ y₀ mem₀'
  · intro y mem
    obtain ⟨y₀, mem₀, rfl⟩ := holding y mem
    rw [loaded_setting]
    exact logged.known y₀ mem₀
  · intro y mem
    obtain ⟨y₀, mem₀, rfl⟩ := holding y mem
    rw [loaded_setting]
    intro named
    by_cases same : y₀.loaded.id = id
    · rw [if_pos same, same]
      exact held y₀ mem₀ same (same ▸ named)
    · rw [if_neg same]
      exact (noRow _ same).symm ▸ logged.held y₀ mem₀ named
  · intro row mem
    rcases belongs row mem with old | ⟨rfl, saved, owner⟩
    · exact ⟨(logged.belongs row old).1,
        (logged.belongs row old).2.imp (added_kept _) (held_kept _)⟩
    · exact ⟨saved, owner.imp (added_kept _) (held_kept _)⟩
  · intro key
    by_cases same : key = id
    · rw [same]
      exact numbered
    · exact (noRow key same).symm ▸ logged.numbered key

/-- Attributes beside the status are set. -/
theorem annotate (logged : LoggedSession adds s seen)
    (annotates : ∀ change : OrderExecution.Change, (set change).status = change.status) :
    LoggedSession adds (s.setting id set) seen := by
  refine of_setting id set s.work.transitions logged (fun _ _ => rfl) ?_ ?_
    (fun _ mem => .inl mem) (logged.numbered id)
  · rintro z mem rfl
    have leads := (logged.added z mem).2
    change LeadsTo _ _ (some ((set {}).status.getD z.status))
    rwa [annotates]
  · rintro y mem rfl named
    have moved := logged.held y mem named
    unfold MovedBy at moved ⊢
    rwa [annotates]

/-- No log is kept of an execution without an id. -/
theorem unsaved (logged : LoggedSession adds s seen) (unsaved : id = "") :
    LoggedSession adds (s.setting id set) seen := by
  refine of_setting id set s.work.transitions logged (fun _ _ => rfl) ?_ ?_
    (fun _ mem => .inl mem) (logged.numbered id)
  · exact fun z mem same => absurd (same.trans unsaved) (logged.added z mem).1
  · exact fun _ _ _ named => absurd unsaved named

/-- What the session shows of an execution is where its pending rows lead. -/
theorem shown_cases (logged : LoggedSession adds s seen) (shown : s.shown id = some x) :
    (x ∈ s.work.executions ∧ x.id = id ∧ ∀ y ∈ s.executions, y.loaded.id ≠ id) ∨
      ((∀ z ∈ s.work.executions, z.id ≠ id) ∧
        ∃ y ∈ s.executions, y.loaded.id = id ∧ y.current = x) := by
  rcases Option.or_eq_some_iff.mp shown with added | ⟨notAdded, held⟩
  · have mem := List.mem_of_find?_eq_some added
    have same : x.id = id := by simpa using List.find?_some added
    exact .inl ⟨mem, same, fun y held => same ▸ logged.apart x mem y held⟩
  · obtain ⟨y, found, rfl⟩ := Option.map_eq_some_iff.mp held
    refine .inr ⟨by simpa using notAdded, y, List.mem_of_find?_eq_some found, ?_, rfl⟩
    simpa using List.find?_some found

theorem maxSequence_pending (logged : LoggedSession adds s seen) (db : Db) {number : Nat}
    (next : number = s.nextSequence id db) :
    NumberedFrom ((seen.read db).number id) 0
      ((transitionsOf id s.work.transitions).map (·.sequenceNumber) ++ [number]) := by
  have largest : maxSequence id s.work.transitions =
      ((transitionsOf id s.work.transitions).map (·.sequenceNumber)).foldl max 0 := rfl
  have seen_now : maxSequence id db.transitions.rows ≤ (seen.read db).number id := le_max_right _ _
  refine ((logged.read db).numbered id).snoc ?_ ?_
  · unfold Session.nextSequence at next
    omega
  · unfold Session.nextSequence at next
    omega

/-- A status change, with the row that logs it. -/
theorem move {toStatus : OrderExecutionStatus} {reason : String} {details : Json} {db : Db}
    (logged : LoggedSession adds s seen) (shown : s.shown x.id = some x) (saved : x.id ≠ "")
    (allowed : toStatus ∈ allowedOrderTransitions x.status) :
    LoggedSession adds (s.moving x toStatus reason details (s.nextSequence x.id db))
      (seen.read db) := by
  set row : OrderExecutionTransition :=
    { userId := x.userId, orderExecutionId := x.id, sequenceNumber := s.nextSequence x.id db
      fromStatus := some x.status, toStatus, reason, details } with hrow
  have permitted : row.Permitted := allowed
  have snoc : transitionsOf x.id (s.work.transitions ++ [row]) =
      transitionsOf x.id s.work.transitions ++ [row] := transitionsOf_snoc_same rfl
  have owner := logged.shown_cases shown
  refine of_setting x.id (fun change => { change with status := some toStatus })
    (s.work.transitions ++ [row]) (logged.read db) ?_ ?_ ?_ ?_ ?_
  · exact fun other ne => transitionsOf_snoc_other ne.symm
  · intro z mem same
    rw [snoc]
    rcases owner with ⟨added, -, -⟩ | ⟨others, -⟩
    · exact (logged.added x added).2.snoc permitted
    · exact absurd same (others z mem)
  · intro y mem same _
    rw [snoc]
    refine ⟨by simp, ?_⟩
    rcases owner with ⟨-, -, others⟩ | ⟨-, y', mem', same', current⟩
    · exact absurd same (others y mem)
    · obtain rfl : y = y' := List.inj_on_of_nodup_map
        (List.pairwise_map.mpr logged.single : (_ : List String).Nodup) mem mem'
        (same.trans same'.symm)
      have moved := logged.held y mem (same ▸ saved)
      rw [same] at moved
      refine (?_ : LeadsTo _ _ row.fromStatus).snoc permitted
      have fromStatus : row.fromStatus = some (y.change.status.getD y.loaded.status) := by
        rw [hrow, ← current]
        rfl
      rw [fromStatus]
      unfold MovedBy at moved
      cases changed : y.change.status with
      | none =>
        rw [changed] at moved
        rw [show transitionsOf x.id s.work.transitions = [] from moved]
        rfl
      | some status =>
        rw [changed] at moved
        exact moved.2
  · intro new mem
    rcases List.mem_append.mp mem with old | last
    · exact .inl old
    · rw [List.mem_singleton.mp last]
      refine .inr ⟨rfl, saved, ?_⟩
      rcases owner with ⟨added, -, -⟩ | ⟨-, y, mem', same, -⟩
      · exact .inl ⟨x, added, rfl⟩
      · exact .inr ⟨y, mem', same⟩
  · rw [snoc, List.map_append]
    exact logged.maxSequence_pending db rfl

/-- Where nothing of an execution is pending, one is added with the row that logs its creation. -/
theorem insert {row : OrderExecution} {reason : String} {db : Db}
    (logged : LoggedSession true s seen) (none_added : s.work.executions = [])
    (none_held : s.executions = [])
    (created : row.status = .created) (saved : row.id ≠ "") :
    LoggedSession true ((s.adding (Work.withExecution row)).logging row none .created reason .null
      (s.nextSequence row.id db)) (seen.read db) := by
  have none_pending : s.work.transitions = [] := by
    refine List.eq_nil_iff_forall_not_mem.mpr fun new mem => ?_
    rcases (logged.belongs new mem).2 with ⟨x, added, -⟩ | ⟨y, held, -⟩
    · rw [none_added] at added
      cases added
    · rw [none_held] at held
      cases held
  set new : OrderExecutionTransition :=
    { userId := row.userId, orderExecutionId := row.id, sequenceNumber := s.nextSequence row.id db
      fromStatus := none, toStatus := .created, reason, details := .null } with hnew
  have added : s.work.executions ++ [row] = [row] := by rw [none_added, List.nil_append]
  have pending : s.work.transitions ++ [new] = [new] := by rw [none_pending, List.nil_append]
  constructor
  · exact logged.noStop
  · exact fun without => nomatch without
  · change ∀ x ∈ s.work.executions ++ [row], x.id ≠ "" ∧
      LeadsTo none (transitionsOf x.id (s.work.transitions ++ [new])) (some x.status)
    rw [added, pending]
    intro x mem
    rw [List.mem_singleton.mp mem, created]
    refine ⟨saved, ?_⟩
    have own : transitionsOf row.id [new] = [new] := by simp [transitionsOf, hnew]
    rw [own]
    exact ⟨rfl, rfl, rfl⟩
  · exact logged.single
  · intro x _ y held
    change y ∈ s.executions at held
    rw [none_held] at held
    cases held
  · exact (logged.read db).known
  · intro y held
    change y ∈ s.executions at held
    rw [none_held] at held
    cases held
  · change ∀ other ∈ s.work.transitions ++ [new], other.orderExecutionId ≠ "" ∧
      ((∃ x ∈ s.work.executions ++ [row], x.id = other.orderExecutionId) ∨ _)
    rw [added, pending]
    intro other mem
    rw [List.mem_singleton.mp mem]
    exact ⟨saved, .inl ⟨row, List.mem_cons_self, rfl⟩⟩
  · intro id
    change NumberedFrom _ _ ((transitionsOf id (s.work.transitions ++ [new])).map _)
    by_cases same : new.orderExecutionId = id
    · subst same
      rw [transitionsOf_snoc_same rfl, List.map_append]
      exact logged.maxSequence_pending db rfl
    · rw [transitionsOf_snoc_other same]
      exact (logged.read db).numbered id

end LoggedSession

end CopyTrading
