import CopyTrading.EventConvergence
import CopyTrading.ReadOnlyVerdict

/-!
An order event is searched for by either identifier, and the first row found is taken. Which
executions an event changes is read off that row.
-/

namespace CopyTrading

open Transaction Transaction.Handler

/-! ### What an event moves -/

/-- All executions but one are the same in both. -/
def SameBut (id : String) (before after : Db) : Prop :=
  ∀ row : OrderExecution, row.id ≠ id → (row ∈ after.executions ↔ row ∈ before.executions)

theorem SameBut.refl (id : String) (db : Db) : SameBut id db db := fun _ _ => Iff.rfl

namespace NormalizedTestnetOrderEvent

variable {event : NormalizedTestnetOrderEvent} {x : OrderExecution} {db db' : Db}
  {id userId exchangeAccountId : String}

/-- The row the search takes is the one meant, or the event does not count for it. -/
def MovesOnly (event : NormalizedTestnetOrderEvent) (id userId exchangeAccountId : String)
    (db : Db) : Prop :=
  ∀ row, findExecution userId exchangeAccountId event db = some row →
    row.id = id ∨ ¬ event.CountsFor row

/-- An event that counts for an execution changes it, and no other. -/
theorem sameBut_of_applied (counts : event.CountsFor x) (stored : x ∈ db.executions)
    (applied : EventApplied event x db db') : SameBut id db db' ↔ x.id = id := by
  have moved : event.applied x ∉ db.executions := by
    intro old
    have same : event.applied x = x := execution_unique old stored rfl
    exact counts.1.1 (congrArg OrderExecution.status same)
  constructor
  · intro same
    by_contra other
    refine moved ((same (event.applied x) other).mp ?_)
    rw [Table.mem_def, applied.executions]
    exact List.mem_map.mpr ⟨x, stored, if_pos rfl⟩
  · rintro rfl row other
    rw [Table.mem_def, applied.executions, List.mem_map]
    constructor
    · rintro ⟨old, hold, rfl⟩
      split at other
      · exact absurd rfl other
      · next named =>
        rw [if_neg named]
        exact hold
    · intro old
      exact ⟨row, old, if_neg other⟩

end NormalizedTestnetOrderEvent

/-! ### Applying an event -/

section

variable {sem : Semantics backend} {s : Session} {w : World}
  {event : NormalizedTestnetOrderEvent} {id userId exchangeAccountId reason : String}

/-- An event that names no execution changes nothing. -/
theorem alone_applyTestnetOrderEvent_missed (sees : s.SeesCommitted w.db)
    (missed : findExecution userId exchangeAccountId event w.db = none) :
    Alone sem (fun _ => True) (applyTestnetOrderEvent userId exchangeAccountId event reason)
      (fun _ s' w' => s'.SeesCommitted w'.db ∧ w' = w) s w := by
  unfold applyTestnetOrderEvent
  rw [alone_bind, alone_raiseIf]
  constructor
  · intro _
    exact ⟨sees, rfl⟩
  · intro _
    rw [andThen_ok, alone_bind, alone_raiseIf]
    refine ⟨fun _ => ⟨sees, rfl⟩, fun _ => ?_⟩
    rw [andThen_ok, alone_bind, alone_query, andThen_ok, missed]
    exact ⟨sees, rfl⟩

theorem alone_applyTestnetOrderEvent_scope (stores : sem.flush = World.flush)
    (sees : s.SeesCommitted w.db) (saved : ∀ row ∈ w.db.executions, row.id ≠ "") :
    Alone sem (fun _ => True) (applyTestnetOrderEvent userId exchangeAccountId event reason)
      (fun _ _ w' => SameBut id w.db w'.db ↔ event.MovesOnly id userId exchangeAccountId w.db)
      s w := by
  cases found : findExecution userId exchangeAccountId event w.db with
  | none =>
    refine (alone_applyTestnetOrderEvent_missed sees found).mono ?_
    rintro outcome s' w' ⟨-, rfl⟩
    refine iff_of_true (.refl id _) ?_
    intro row taken
    cases found.symm.trans taken
  | some x =>
    have stored : x ∈ w.db.executions := Table.mem_of_find? found
    have only : event.MovesOnly id userId exchangeAccountId w.db ↔
        (x.id = id ∨ ¬ event.CountsFor x) := by
      constructor
      · exact fun moves => moves x found
      · rintro moves row taken
        cases found.symm.trans taken
        exact moves
    refine (alone_applyTestnetOrderEvent stores sees (saved x stored) found).mono ?_
    rintro outcome s' w' ⟨-, -, ⟨stays, rfl⟩ | ⟨counts, applied⟩⟩
    · exact iff_of_true (.refl id _) (only.mpr (.inr stays))
    · rw [only, NormalizedTestnetOrderEvent.sameBut_of_applied counts stored applied]
      simp [counts]

/-- Every run of the event leaves the other executions as they are. -/
def AppliesOnly (userId exchangeAccountId : String) (event : NormalizedTestnetOrderEvent)
    (reason id : String) (s : Session) (w : World) : Prop :=
  ∀ trace outcome w', Prog.Run semantics
    (applyTestnetOrderEvent userId exchangeAccountId event reason s) w trace (.done outcome) w' →
    SameBut id w.db w'.db

theorem appliesOnly_iff (sees : s.SeesCommitted w.db)
    (saved : ∀ row ∈ w.db.executions, row.id ≠ "") :
    AppliesOnly userId exchangeAccountId event reason id s w ↔
      event.MovesOnly id userId exchangeAccountId w.db := by
  have scope : Alone semantics (fun _ => True)
      (applyTestnetOrderEvent userId exchangeAccountId event reason) _ s w :=
    @alone_applyTestnetOrderEvent_scope _ s w event id _ _ _ rfl sees saved
  constructor
  · intro all
    have answered : ∀ store query, ∃ answer after, semantics.Answers store query answer after :=
      fun store query => ⟨_, _, environment_allowed ⟨true, .empty⟩ 0 () store query rfl⟩
    obtain ⟨trace, outcome, last, ran⟩ := Prog.exists_complete answered
      (applyTestnetOrderEvent userId exchangeAccountId event reason s) w
    exact (ran.of_alone scope).2.mp (all trace outcome last ran)
  · intro moves trace outcome last ran
    exact (ran.of_alone scope).2.mpr moves

end

/-! ### Reconciling one execution -/

theorem Session.SeesCommitted.looked {s s' : Session} {w w' : World}
    (sees : s.SeesCommitted w.db) (looked : Looked s w s' w') : s'.SeesCommitted w'.db := by
  rw [looked.db]
  constructor
  · rw [looked.work]
    exact sees.work
  · rw [looked.executions]
    exact sees.executions
  · rw [looked.executions]
    exact sees.single
  · exact looked.accounts sees.accounts
  · exact looked.secrets sees.secrets

theorem Session.SeesCommitted.opened {s s' : Session} {db : Db} {id : String} {x : OrderExecution}
    (sees : s.SeesCommitted db) (opens : s.Opens db id x s') : s'.SeesCommitted db := by
  cases opens with
  | shown => exact sees
  | loaded hidden stored hid =>
    subst hid
    exact sees.loading stored (heldExecution_of_shown_none hidden)

/-- Reading an attribute writes nothing. -/
theorem alone_execution_keeps {sem : Semantics backend} {s : Session} {w : World} {id : String} :
    Alone sem (fun _ => True) (Session.execution id) (fun _ _ w' => w' = w) s w :=
  alone_execution (fun _ _ => rfl) fun _ _ _ => rfl

section

variable {py : Platform} {exchangeName : ExchangeName} {credentials : ExchangeCredentials}
  {client : SignedExchangeHttpClient} {response : Json} {s : Session} {w : World}
  {E : OrderExecution} {userId exchangeAccountId : String}

/-- What the exchange answers about an order leads to no event that moves another one. -/
def LookupMovesOnly (py : Platform) (exchangeName : ExchangeName)
    (credentials : ExchangeCredentials) (client : SignedExchangeHttpClient) (response : Json)
    (id userId exchangeAccountId : String) (db : Db) : Prop :=
  client.Signs credentials → ∀ event,
    normalizeTestnetRestOrderStatus py exchangeName response = .ok event →
      event.MovesOnly id userId exchangeAccountId db

theorem alone_reconcileExecution_scope (sees : s.SeesCommitted w.db)
    (stored : E ∈ w.db.executions) (saved : ∀ row ∈ w.db.executions, row.id ≠ "") :
    Alone (respondingWith response) (fun _ => True)
      (reconcileExecution py userId exchangeAccountId exchangeName credentials client E.id)
      (fun _ _ w' => SameBut E.id w.db w'.db ↔
        LookupMovesOnly py exchangeName credentials client response E.id userId exchangeAccountId
          w.db) s w := by
  have quiet : ∀ query, Quiet (respondingWith response) (fun _ => True) query :=
    quiet_respondingWith fun _ _ _ _ _ => True.intro
  unfold reconcileExecution
  refine Alone.bind_store
    (Alone.tryCatch_store ?_ ?_) ?_
  · rw [alone_bind]
    refine alone_execution (fun _ missing => absurd rfl (missing E stored)) ?_
    intro x s₁ opens
    have sees₁ := sees.opened opens
    rw [andThen_ok]
    refine Alone.bind (looks_getPrivate quiet) ?_ ?_
    · rintro body s₂ w₂ ⟨⟨heq, signs⟩ | ⟨⟨exc, heq⟩, -⟩, looked⟩
      · cases heq
        rw [alone_bind, alone_ofExcept]
        cases normalized : normalizeTestnetRestOrderStatus py exchangeName response with
        | error exc =>
          rw [andThen_error, looked.db]
          refine iff_of_true (.refl _ _) fun _ event heq => ?_
          cases normalized.symm.trans heq
        | ok event =>
          have only : LookupMovesOnly py exchangeName credentials client response E.id userId
              exchangeAccountId w.db ↔ event.MovesOnly E.id userId exchangeAccountId w.db := by
            constructor
            · exact fun moves => moves signs event normalized
            · rintro moves - event' heq
              cases normalized.symm.trans heq
              exact moves
          rw [andThen_ok, only, ← looked.db]
          rw [← looked.db] at saved
          refine Alone.bind_store ?_ fun _ _ _ holds => holds
          exact alone_applyTestnetOrderEvent_scope rfl (sees₁.looked looked) saved
      · cases heq
    · rintro exc s₂ w₂ ⟨⟨heq, -⟩ | ⟨-, unsigned⟩, looked⟩
      · cases heq
      · rw [looked.db]
        exact iff_of_true (.refl _ _) fun signs => absurd signs unsigned
  · intro raised s' w' holds
    dsimp only
    split
    · exact holds
    · exact holds
  · intro outcome s' w' holds
    refine Alone.bind_store (alone_execution_keeps.mono ?_) ?_
    · rintro _ _ _ rfl
      exact holds
    · intro execution s'' w'' holds'
      cases outcome with
      | error failureType => exact holds'
      | ok result => exact holds'

/-- Every run of the reconciliation of one execution leaves the others as they are. -/
def ReconcilesOnly (py : Platform) (userId exchangeAccountId : String)
    (exchangeName : ExchangeName) (credentials : ExchangeCredentials)
    (client : SignedExchangeHttpClient) (response : Json) (id : String) (s : Session)
    (w : World) : Prop :=
  ∀ trace outcome w', Prog.Run (respondingWith response)
    (reconcileExecution py userId exchangeAccountId exchangeName credentials client id s) w trace
    (.done outcome) w' → SameBut id w.db w'.db

theorem reconcilesOnly_iff (sees : s.SeesCommitted w.db) (stored : E ∈ w.db.executions)
    (saved : ∀ row ∈ w.db.executions, row.id ≠ "") :
    ReconcilesOnly py userId exchangeAccountId exchangeName credentials client response E.id s w ↔
      LookupMovesOnly py exchangeName credentials client response E.id userId exchangeAccountId
        w.db := by
  have scope : Alone (respondingWith response) (fun _ => True)
      (reconcileExecution py userId exchangeAccountId exchangeName credentials client E.id) _ s w :=
    alone_reconcileExecution_scope sees stored saved
  constructor
  · intro all
    obtain ⟨trace, outcome, last, ran⟩ := Prog.exists_complete (respondingWith_answers response)
      (reconcileExecution py userId exchangeAccountId exchangeName credentials client E.id s) w
    exact (ran.of_alone scope).2.mp (all trace outcome last ran)
  · intro moves trace outcome last ran
    exact (ran.of_alone scope).2.mpr moves

/-- An event that names an owned execution by its client order id changes no other execution
exactly when the first row found by either identifier is that execution or one the event does
not count for; and likewise the reconciliation of the execution, for the event the exchange's
answer is read as. -/
theorem order_event_moves_only_its_order_iff {event : NormalizedTestnetOrderEvent}
    {reason : String} (sees : s.SeesCommitted w.db) (stored : E ∈ w.db.executions)
    (saved : ∀ row ∈ w.db.executions, row.id ≠ "") :
    (event.clientOrderId = some E.clientOrderId →
      (AppliesOnly E.userId E.exchangeAccountId event reason E.id s w ↔
        event.MovesOnly E.id E.userId E.exchangeAccountId w.db)) ∧
    (ReconcilesOnly py E.userId E.exchangeAccountId exchangeName credentials client response E.id
        s w ↔
      LookupMovesOnly py exchangeName credentials client response E.id E.userId
        E.exchangeAccountId w.db) :=
  ⟨fun _ => appliesOnly_iff sees saved, reconcilesOnly_iff sees stored saved⟩

end

def firstOrder : OrderExecution :=
  { submittedExecution with
    id := "x1", executionId := "e1", signalId := "s1", clientOrderId := "c1"
    exchangeOrderId := some "5" }

def secondOrder : OrderExecution :=
  { submittedExecution with
    id := "x2", executionId := "e2", signalId := "s2", clientOrderId := "c2"
    symbol := "ETHUSDT" }

/-- Two orders of one account, of different symbols. -/
def twoOrdersWorld : World :=
  { db := { executions := ⟨[firstOrder, secondOrder], by decide +kernel⟩ } }

theorem twoOrdersWorld_saved : ∀ row ∈ twoOrdersWorld.db.executions, row.id ≠ "" := by
  intro row hrow
  rcases List.mem_cons.mp hrow with rfl | hrow
  · decide
  · rw [List.mem_singleton.mp hrow]
    decide

/-- The exchange numbered the second order as it had numbered the first one of its own symbol. -/
def secondOrderFilled : NormalizedTestnetOrderEvent where
  exchangeName := .binance
  clientOrderId := some "c2"
  exchangeOrderId := some "5"
  status := .filled

theorem order_event_moves_only_its_order_iff_first :
    AppliesOnly "u" "a" { secondOrderFilled with clientOrderId := some "c1" }
      "testnet_user_stream_event" "x1" {} twoOrdersWorld := by
  have stored : firstOrder ∈ twoOrdersWorld.db.executions := List.mem_cons_self
  have scope := @order_event_moves_only_its_order_iff asciiPlatform .binance ⟨"", "", none⟩
    ⟨.binance, "", "5000"⟩ .null {} twoOrdersWorld firstOrder
    { secondOrderFilled with clientOrderId := some "c1" } "testnet_user_stream_event" (.fresh _)
    stored twoOrdersWorld_saved
  refine (scope.1 rfl).mpr fun row found => .inl ?_
  cases (rfl : findExecution "u" "a" { secondOrderFilled with clientOrderId := some "c1" }
    twoOrdersWorld.db = some firstOrder).symm.trans found
  rfl

/-- The event names the second order by its client order id, and fills the first one. -/
theorem order_event_moves_another_order :
    secondOrder ∈ twoOrdersWorld.db.executions ∧
      secondOrderFilled.clientOrderId = some secondOrder.clientOrderId ∧
      ¬ AppliesOnly secondOrder.userId secondOrder.exchangeAccountId secondOrderFilled
        "testnet_user_stream_event" secondOrder.id {} twoOrdersWorld := by
  refine ⟨List.mem_cons_of_mem _ List.mem_cons_self, rfl, fun only => ?_⟩
  rcases (appliesOnly_iff (.fresh _) twoOrdersWorld_saved).mp only firstOrder rfl with same | ignored
  · exact absurd same (by decide)
  · exact ignored (by decide)

end CopyTrading
