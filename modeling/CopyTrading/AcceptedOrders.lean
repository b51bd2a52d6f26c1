import CopyTrading.TerminalStatuses
import CopyTrading.TestnetOrder.SubmissionInvariant

/-!
Orders the exchange has accepted. A submission whose answer is lost or an error is recorded as
`FAILED`, which no report changes later, although the exchange may have taken the order. Where no
order is taken whose answer makes its submission record a failure, no accepted order is recorded as
failed, whatever is reported and looked up later.
-/

namespace CopyTrading

open Transaction Transaction.Handler

/-! ### Orders in the book -/

/-- Every order the exchange has accepted is stored, and not as failed. -/
def World.AcceptedStored (w : World) : Prop :=
  ∀ clientOrderId ∈ w.book, ∃ x ∈ w.db.executions,
    x.clientOrderId = clientOrderId ∧ x.status ≠ .failed

/-- The exchange takes an order, and its answer makes the submission record a failure. -/
def TakenButFailed (py : Platform) : Event backend → Prop
  | .call (.urlopen prepared) reply before after => after.book ≠ before.book ∧
      ∃ x ∈ before.db.executions, prepared.clientOrderId = some x.clientOrderId ∧
        recordsFailure py x.exchangeName reply = true
  | _ => False

instance (py : Platform) : DecidablePred (TakenButFailed py)
  | .call (.urlopen _) _ _ _ => inferInstanceAs (Decidable (_ ∧ ∃ x ∈ _, _))
  | .read _ | .commit .. | .abort .. | .call .newUuid .. | .call .utcNow .. | .call .timestampMs ..
  | .call .isoTimestamp .. | .call (.placeOrder _) .. | .call (.acquireTestnetOrder ..) ..
  | .call (.notifyOrderFailure ..) .. | .call (.notifyEmergencyStopEnabled _) .. => .isFalse id

/-- What a session that holds the row does to the orders: at most its own is recorded as failed,
while the exchange does not have it, and at most its own is taken, as long as it is not failed. -/
structure OwnStep (row? : Option OrderExecution) (before after : World) : Prop where
  kept : ∀ old ∈ before.db.executions, ∃ new ∈ after.db.executions, SameOrder new old ∧
    (old.status ≠ .failed → new.status ≠ .failed ∨
      ∃ row ∈ row?, SameOrder old row ∧ row.clientOrderId ∉ before.book)
  taken : ∀ clientOrderId ∈ after.book, clientOrderId ∈ before.book ∨
    ∃ row ∈ row?, row.clientOrderId = clientOrderId ∧
      ∃ y ∈ after.db.executions, SameOrder y row ∧ y.status ≠ .failed

namespace OwnStep

variable {row? : Option OrderExecution} {before after w : World}

theorem refl : OwnStep row? w w where
  kept old stored := ⟨old, stored, .refl old, .inl⟩
  taken _ := .inl

/-- A commit that writes a failure at most on the row, while the exchange does not have it. -/
theorem of_commit {work : Work} (flushed : semantics.flush work before = .ok after)
    (spares : ∀ old ∈ before.db.executions, old.status ≠ .failed →
      (Table.updated work.executionChanges old).status ≠ .failed ∨
        ∃ row ∈ row?, SameOrder old row ∧ row.clientOrderId ∉ before.book) :
    OwnStep row? before after := by
  obtain ⟨written, book⟩ := World.flush_ok flushed
  refine ⟨fun old stored => ?_, fun _ taken => .inl (book ▸ taken)⟩
  refine ⟨Table.updated work.executionChanges old, ?_, sameOrder_updated _ old, spares old stored⟩
  exact (Table.mem_insertAll (executions_of_flush written)).mpr
    (.inl (Table.mem_writeBack.mpr ⟨old, stored, rfl⟩))

/-- Accepted orders stay stored, and not as failed. -/
theorem acceptedStored (own : OwnStep row? before after) (accepted : before.AcceptedStored) :
    after.AcceptedStored := by
  intro clientOrderId taken
  rcases own.taken clientOrderId taken with earlier | ⟨row, -, same, y, stored, order, unfailed⟩
  · obtain ⟨x, stored, same, unfailed⟩ := accepted clientOrderId earlier
    obtain ⟨new, newStored, order, still⟩ := own.kept x stored
    rcases still unfailed with unfailed | ⟨row, -, mine, untaken⟩
    · exact ⟨new, newStored, order.clientOrderId.trans same, unfailed⟩
    · rw [← mine.clientOrderId, same] at untaken
      exact absurd earlier untaken
  · exact ⟨y, stored, order.clientOrderId.trans same, unfailed⟩

end OwnStep

/-! ### Submissions -/

/-- The row of an order that the exchange does not have, and that is not recorded as failed. -/
structure Untaken (req : SubmitRequest) (row : OrderExecution) (w : World) : Prop where
  clientOrderId : row.clientOrderId = req.payload.clientOrderId
  stored : ∃ y ∈ w.db.executions, SameOrder y row ∧ y.status ≠ .failed
  notInBook : row.clientOrderId ∉ w.book

/-- Another session does not touch it. -/
theorem Untaken.keep {req : SubmitRequest} {row : OrderExecution} {row? : Option OrderExecution}
    {before after : World} (untaken : Untaken req row before) (own : OwnStep row? before after)
    (apart : ∀ other ∈ row?, ¬ Row.Conflict other row) : Untaken req row after where
  clientOrderId := untaken.clientOrderId
  stored := by
    obtain ⟨y, stored, order, unfailed⟩ := untaken.stored
    obtain ⟨new, newStored, same, still⟩ := own.kept y stored
    rcases still unfailed with unfailed | ⟨other, held, theirs, -⟩
    · exact ⟨new, newStored, same.trans order, unfailed⟩
    · exact absurd (theirs.symm.trans order).conflict (apart other held)
  notInBook := by
    intro taken
    rcases own.taken row.clientOrderId taken with earlier | ⟨other, held, same, -⟩
    · exact untaken.notInBook earlier
    · exact apart other held (.inr (.inr (.inl same)))

section submissions

variable {py : Platform} {req : SubmitRequest} {stage stage' : SubmitStage py req}
  {e : Event backend}

/-- Where a failure may still be recorded, the exchange does not have the order. -/
def SubmitStage.Awaits (w : World) : SubmitStage py req → Prop
  | .submitted _ row => Untaken req row w
  | .held _ row x | .failing _ row x _ => SameOrder x row ∧ Untaken req row w
  | .sent _ row x reply => SameOrder x row ∧
      (recordsFailure py x.exchangeName reply = true → Untaken req row w)
  | _ => True

/-- The stored version of the row, when it is loaded. -/
theorem Untaken.loaded {row x : OrderExecution} {w : World} (untaken : Untaken req row w)
    (stored : x ∈ w.db.executions) (id : x.id = row.id) : SameOrder x row := by
  obtain ⟨y, yStored, order, -⟩ := untaken.stored
  exact execution_unique yStored stored (order.id.trans id.symm) ▸ order

/-- A status that is written on the row is written on no other one. -/
theorem StatusWrite.spares {work : Work} {row x : OrderExecution} {status : OrderExecutionStatus}
    {sequenceNumber : Nat} {w : World} (write : StatusWrite work x status sequenceNumber)
    (same : SameOrder x row) (untaken : status = .failed → Untaken req row w) :
    ∀ old ∈ w.db.executions, old.status ≠ .failed →
      (Table.updated work.executionChanges old).status ≠ .failed ∨
        ∃ row' ∈ some row, SameOrder old row' ∧ row'.clientOrderId ∉ w.book := by
  intro old stored unfailed
  rw [write.trading.status_updated old]
  by_cases mine : x.id = old.id
  · rw [statusAfter_same mine]
    by_cases failed : status = .failed
    · have untaken := untaken failed
      exact .inr ⟨row, rfl, untaken.loaded stored (mine.symm.trans same.id), untaken.notInBook⟩
    · exact .inl failed
  · rw [statusAfter_other mine]
    exact .inl unfailed

theorem TradingWork.spares {work : Work} {inserted : List OrderExecution}
    {moved : List (Instance Position)} {row? : Option OrderExecution} {w : World}
    (trading : TradingWork work inserted none moved) :
    ∀ old ∈ w.db.executions, old.status ≠ .failed →
      (Table.updated work.executionChanges old).status ≠ .failed ∨
        ∃ row ∈ row?, SameOrder old row ∧ row.clientOrderId ∉ w.book := by
  intro old _ unfailed
  rw [trading.status_updated old]
  exact .inl unfailed

theorem SubmitMove.ownStep (move : SubmitMove py req stage e stage') (sound : e.Sound semantics)
    (settled : stage ≠ .lost) (awaits : stage.Awaits e.before) :
    OwnStep stage.row? e.before e.after := by
  cases move with
  | idle quiet =>
    rw [after_eq_of_idle (isIdle_of_asksNoExchange quiet) sound]
    exact .refl
  | wander => exact absurd rfl settled
  | settle trading => exact .of_commit sound trading.spares
  | reject submission => exact .of_commit sound submission.trading.spares
  | submit submission => exact .of_commit sound submission.trading.spares
  | accept write =>
    exact .of_commit sound (write.spares awaits.1 fun failed => show Untaken req _ _ by cases failed)
  | failSent write records => exact .of_commit sound (write.spares awaits.1 fun _ => awaits.2 records)
  | fail write => exact .of_commit sound (write.spares awaits.1 fun _ => awaits.2)
  | @send before after adm row x prepared reply prepares =>
    obtain ⟨-, untaken⟩ := awaits
    have answered : answers before (.urlopen prepared) reply after := sound
    rcases answered with same | ⟨request, clientOrderId, asked, named, grown⟩
    · change OwnStep _ before after
      rw [same]
      exact .refl
    · change OwnStep _ before after
      rw [grown]
      refine ⟨OwnStep.refl.kept, fun id taken => ?_⟩
      rcases List.mem_cons.mp taken with rfl | earlier
      · cases asked
        have order : adm.context.order.clientOrderId = id :=
          Option.some.inj (prepares.clientOrderId.symm.trans named)
        rw [adm.order] at order
        exact .inr ⟨row, rfl, untaken.clientOrderId.trans order, untaken.stored⟩
      · exact .inl earlier
  | @authorize before after _ _ _ now =>
    have same : after = before :=
      after_eq_of_call (show answers before .utcNow now after from sound) rfl
    change OwnStep _ before after
    rw [same]
    exact .refl
  | _ => exact .refl

/-- A step of the submission itself. The order is untaken when its row is inserted, since every
accepted order is stored; when it is taken, the answer records no failure. -/
theorem SubmitMove.awaits (move : SubmitMove py req stage e stage') (sound : e.Sound semantics)
    (awaits : stage.Awaits e.before) (accepted : e.before.AcceptedStored)
    (answered : ¬ TakenButFailed py e) : stage'.Awaits e.after := by
  cases move with
  | idle quiet =>
    rw [after_eq_of_idle (isIdle_of_asksNoExchange quiet) sound]
    exact awaits
  | @submit work before after _ _ row submission status =>
    obtain ⟨flushed, book⟩ := World.flush_ok sound
    have inserted := submission.trading.inserted_mem flushed (List.mem_singleton_self row)
    refine ⟨submission.rowOf.clientOrderId, ⟨row, inserted, .refl row, by simp [status]⟩, ?_⟩
    intro taken
    obtain ⟨x, stored, same, -⟩ := accepted row.clientOrderId (book ▸ taken)
    exact submission.trading.inserted_fresh flushed stored (.inr (.inr (.inl same)))
  | hold stored id => exact ⟨awaits.loaded stored id, awaits⟩
  | number => exact awaits
  | @send before after _ row x prepared reply prepares =>
    obtain ⟨same, untaken⟩ := awaits
    refine ⟨same, fun records => ⟨untaken.clientOrderId, ?_, ?_⟩⟩
    · have db : after.db = before.db :=
        db_eq_of_call (show answers before (.urlopen prepared) reply after from sound)
      exact db ▸ untaken.stored
    · intro taken
      refine answered ⟨fun kept => untaken.notInBook (kept ▸ taken), ?_⟩
      obtain ⟨y, stored, order, -⟩ := untaken.stored
      refine ⟨y, stored, ?_, ?_⟩
      · rw [prepares.clientOrderId, order.clientOrderId, untaken.clientOrderId, Admission.order]
        rfl
      · rw [order.exchangeName, ← same.exchangeName]
        exact records
  | _ => exact True.intro

end submissions

/-! ### Sessions together -/

namespace OrderSession

variable {py : Platform} {r : OrderSession} {m m' : (r.protocol py).Phase} {e : Event backend}
  {before after : World}

/-- Events are what an exchange reports, as it is normalized. -/
def Reported (py : Platform) : OrderSession → Prop
  | apply _ _ event _ => ∃ exchangeName payload,
      normalizeTestnetUserStreamOrderEvent py exchangeName payload = .ok event
  | _ => True

/-- The row the session has inserted. -/
def row? (py : Platform) : (r : OrderSession) → (r.protocol py).Phase → Option OrderExecution
  | submit _ => SubmitStage.row?
  | apply .. => fun _ => none
  | reconcile .. => fun _ => none

def Awaits (py : Platform) (w : World) : (r : OrderSession) → (r.protocol py).Phase → Prop
  | submit _ => SubmitStage.Awaits w
  | apply .. => fun _ => True
  | reconcile .. => fun _ => True

/-- What is reported is no failure. -/
theorem ownStep_of_decidesOpenly {Reported : OrderExecutionStatus → Prop}
    (unfailed : ¬ Reported .failed) (decides : DecidesOpenly Reported e)
    (sound : e.Sound semantics) : OwnStep none e.before e.after := by
  cases e with
  | read | abort => exact .refl
  | call query answer before after =>
    have same : after = before :=
      after_eq_of_call (show answers before query answer after from sound) decides
    change OwnStep none before after
    rw [same]
    exact .refl
  | commit work before after =>
    refine .of_commit sound fun old _ open' => .inl ?_
    rcases status_updated work.executionChanges old with kept | ⟨x, mem, -, written⟩
    · rw [kept]
      exact open'
    · intro failed
      rw [failed] at written
      exact unfailed (decides.2.1.reported x mem .failed written)

theorem ownStep (reported : r.Reported py) (move : (r.protocol py).Move m e m')
    (finds : r.Finds py e.before.db m) (awaits : r.Awaits py e.before m)
    (sound : e.Sound semantics) : OwnStep (r.row? py m) e.before e.after := by
  cases r with
  | submit req => exact SubmitMove.ownStep move sound finds.1 awaits
  | apply userId exchangeAccountId event reason =>
    obtain ⟨exchangeName, payload, read⟩ := reported
    exact ownStep_of_decidesOpenly (normalizeUserStream_ne_failed read) move sound
  | reconcile => exact ownStep_of_decidesOpenly (fun failed => failed rfl) move sound

/-- The row of a session is its row of before, or it conflicts with nothing stored. -/
theorem row_from (move : (r.protocol py).Move m e m') (finds : r.Finds py e.before.db m)
    (sound : e.Sound semantics) {row : OrderExecution} (held : r.row? py m' = some row) :
    r.row? py m = some row ∨ (∃ x ∈ e.after.db.executions, SameOrder x row) ∧
      ∀ x ∈ e.before.db.executions, ¬ Row.Conflict x row := by
  cases r with
  | submit req => exact (SubmitMove.effect move sound finds.1).row_from held
  | apply | reconcile => cases held

theorem Awaits.move (awaits : r.Awaits py e.before m) (move : (r.protocol py).Move m e m')
    (sound : e.Sound semantics) (accepted : e.before.AcceptedStored)
    (answered : ¬ TakenButFailed py e) : r.Awaits py e.after m' := by
  cases r with
  | submit req => exact SubmitMove.awaits move sound awaits accepted answered
  | apply | reconcile => exact True.intro

/-- A step of another session, whose row is another one. -/
theorem Awaits.keep {other? : Option OrderExecution} (awaits : r.Awaits py before m)
    (own : OwnStep other? before after)
    (apart : ∀ other ∈ other?, ∀ row ∈ r.row? py m, ¬ Row.Conflict other row) :
    r.Awaits py after m := by
  cases r with
  | submit req =>
    have keep {row : OrderExecution} (held : SubmitStage.row? m = some row)
        (untaken : Untaken req row before) : Untaken req row after :=
      untaken.keep own fun other theirs => apart other theirs row held
    change SubmitStage.Awaits after m
    change SubmitStage.Awaits before m at awaits
    cases m with
    | submitted => exact keep rfl awaits
    | held | failing => exact ⟨awaits.1, keep rfl awaits.2⟩
    | sent => exact ⟨awaits.1, fun records => keep rfl (awaits.2 records)⟩
    | _ => exact True.intro
  | apply | reconcile => exact True.intro

end OrderSession

section runs

variable {ι : Type} [DecidableEq ι] {py : Platform} {sessions : ι → OrderSession}

/-- What holds between the sessions and the book of the exchange. -/
structure AcceptedInv (phases : ∀ i, ((sessions i).protocol py).Phase) (w : World) : Prop where
  claims : Claims SameOrder (fun i => (sessions i).row? py (phases i)) w.db.executions
  awaits : ∀ i, (sessions i).Awaits py w (phases i)
  accepted : w.AcceptedStored

omit [DecidableEq ι] in
theorem AcceptedInv.start {world : World} (accepted : world.AcceptedStored) :
    AcceptedInv (fun i => (sessions i).start py) world where
  claims := by
    refine .none fun i => ?_
    cases sessions i <;> rfl
  awaits i := by
    cases sessions i <;> exact True.intro
  accepted := accepted

/-- One step of any session keeps the invariant. -/
theorem AcceptedInv.step {phases : ∀ i, ((sessions i).protocol py).Phase} {i : ι}
    {e : Event backend} {m : ((sessions i).protocol py).Phase} (inv : AcceptedInv phases e.before)
    (reported : (sessions i).Reported py) (finds : (sessions i).Finds py e.before.db (phases i))
    (move : ((sessions i).protocol py).Move (phases i) e m) (sound : e.Sound semantics)
    (answered : ¬ TakenButFailed py e) :
    AcceptedInv (Function.update phases i m) e.after := by
  have own := OrderSession.ownStep reported move finds (inv.awaits i) sound
  constructor
  · have rows : (fun j => (sessions j).row? py (Function.update phases i m j)) =
        Function.update (fun j => (sessions j).row? py (phases j)) i ((sessions i).row? py m) :=
      funext fun j => Function.apply_update (fun j phase => (sessions j).row? py phase) phases i m j
    rw [rows]
    refine inv.claims.step SameOrder.key SameOrder.trans (fun old stored => ?_) fun row held =>
      OrderSession.row_from move finds sound held
    obtain ⟨new, newStored, same, -⟩ := own.kept old stored
    exact ⟨new, newStored, same⟩
  · refine (Function.forall_update_iff phases fun j phase => (sessions j).Awaits py e.after phase).mpr
      ⟨(inv.awaits i).move move sound inv.accepted answered, fun j other => ?_⟩
    refine (inv.awaits j).keep own fun mine held row theirs conflict => other ?_
    exact (inv.claims.client_unique held theirs conflict).symm
  · exact own.acceptedStored inv.accepted

theorem AcceptedInv.of_run {world s : World} {trace : Trace backend ι}
    {phases : ∀ i, ((sessions i).protocol py).Phase}
    (run : Protocol.Run (fun i => (sessions i).protocol py) semantics
      (fun i => (sessions i).start py) world trace phases s)
    (reported : ∀ i, (sessions i).Reported py) (accepted : world.AcceptedStored)
    (answered : ∀ x ∈ trace, ¬ TakenButFailed py x.2) : AcceptedInv phases s := by
  induction run with
  | nil => exact .start accepted
  | @snoc trace phases s i e m run move sound here ih =>
    subst here
    have earlier := ih fun x mem => answered x (List.mem_append_left _ mem)
    have finds := finds_of_run run (fun i => OrderSession.finds_start (sessions i)) i
    exact earlier.step (reported i) finds move sound (answered (i, e) (by simp))

/-- In every interleaving of submissions, reported events and reconciliations, where no order is
taken whose answer makes its submission record a failure, no accepted order is recorded as failed. -/
theorem accepted_orders_not_failed {world : World} {trace : Trace backend ι}
    {c : Config backend fun i => (sessions i).Outcome}
    (run : Config.Run semantics (ordering py sessions world) trace c)
    (reported : ∀ i, (sessions i).Reported py) (accepted : world.AcceptedStored)
    (answered : ∀ x ∈ trace, ¬ TakenButFailed py x.2) :
    ∀ x ∈ c.store.db.executions, x.clientOrderId ∈ c.store.book → x.status ≠ .failed := by
  obtain ⟨phases, tracked, -⟩ := run.tracked fun i => (sessions i).program_follows py
  have inv := AcceptedInv.of_run tracked reported accepted answered
  intro x stored taken
  obtain ⟨y, yStored, same, unfailed⟩ := inv.accepted x.clientOrderId taken
  rwa [Table.eq_of_conflict yStored stored (.inr (.inr (.inl same)))] at unfailed

end runs

/-! ### An order whose answer is lost -/

/-- What Binance reports of the order when it is filled. -/
def filledReport : NormalizedTestnetOrderEvent where
  exchangeName := .binance
  clientOrderId := some "c1"
  exchangeOrderId := some "7"
  status := .filled

/-- A submission, and a session that applies the report. -/
def followedSessions : Bool → OrderSession
  | true => .submit (sampleOrder "BTCUSDT" (.ofInt 1) toRat_oneUnit_pos)
  | false => .apply "u" "a" filledReport "testnet_user_stream_event"

theorem followedSessions_reported (i : Bool) : (followedSessions i).Reported asciiPlatform := by
  cases i with
  | true => exact True.intro
  | false =>
    exact ⟨.binance, [("e", .str "executionReport"), ("X", .str "FILLED"), ("c", .str "c1"),
      ("i", .int 7)], rfl⟩

def followedStart : Config backend fun i => (followedSessions i).Outcome :=
  ordering asciiPlatform followedSessions (approvedWorld .binance "BTCUSDT" [])

/-- The submission is served, and then the report. -/
def followedRun (exchange : Exchange) :
    Trace backend Bool × Config backend fun i => (followedSessions i).Outcome :=
  followedStart.replay semantics (environment exchange) 0
    (List.replicate 25 true ++ List.replicate 6 false)

theorem followedRun_reaches (exchange : Exchange) :
    Config.Run semantics followedStart (followedRun exchange).1 (followedRun exchange).2 :=
  Config.replay_reaches (environment_allowed exchange) _ _ _

theorem acceptedStored_followedStart : followedStart.store.AcceptedStored :=
  fun _ taken => (List.not_mem_nil taken).elim

theorem accepted_orders_not_failed_filled :
    (∃ x ∈ (followedRun takingExchange).2.store.db.executions,
      x.clientOrderId ∈ (followedRun takingExchange).2.store.book ∧ x.status = .filled) ∧
    ∀ x ∈ (followedRun takingExchange).2.store.db.executions,
      x.clientOrderId ∈ (followedRun takingExchange).2.store.book → x.status ≠ .failed :=
  ⟨by decide +kernel, accepted_orders_not_failed (followedRun_reaches takingExchange)
    followedSessions_reported acceptedStored_followedStart (by decide +kernel)⟩

/-- The exchange takes the order and fails to say so; the fill is reported. -/
theorem accepted_order_recorded_failed :
    ∃ (trace : Trace backend Bool) (c : Config backend fun i => (followedSessions i).Outcome),
      Config.Run semantics followedStart trace c ∧
      (∀ i, (followedSessions i).Reported asciiPlatform) ∧ followedStart.store.AcceptedStored ∧
      ∃ x ∈ c.store.db.executions, x.clientOrderId ∈ c.store.book ∧ x.status = .failed :=
  ⟨_, _, followedRun_reaches ⟨true, .httpError 500 none⟩, followedSessions_reported,
    acceptedStored_followedStart, by decide +kernel⟩

end CopyTrading
