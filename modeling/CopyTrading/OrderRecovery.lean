import CopyTrading.AcceptedOrders
import CopyTrading.TestnetOrder.Reconciliation

/-!
Recovery after a crash. Sessions may stop anywhere, also between the request to the exchange and
the record of its answer. The order was committed before it was sent, so nothing the exchange has
is unknown to the database; a reconciliation that is answered truthfully takes every pending order
to where the exchange has it, and leaves the others as they are, where exchange order ids tell the
orders of the account apart.
-/

namespace CopyTrading

open Transaction Transaction.Handler

/-! ### Every order at the exchange is stored -/

/-- Every order the exchange has taken is stored. -/
def World.BookStored (w : World) : Prop :=
  ∀ clientOrderId ∈ w.book, ∃ x ∈ w.db.executions, x.clientOrderId = clientOrderId

/-- What a session that holds the row does: the orders stay stored, and at most its own is taken. -/
structure KeepsOrders (row? : Option OrderExecution) (before after : World) : Prop where
  kept : ∀ old ∈ before.db.executions, ∃ new ∈ after.db.executions, SameOrder new old
  taken : ∀ clientOrderId ∈ after.book, clientOrderId ∈ before.book ∨
    ∃ row ∈ row?, row.clientOrderId = clientOrderId

theorem KeepsOrders.refl (row? : Option OrderExecution) (w : World) : KeepsOrders row? w w where
  kept old stored := ⟨old, stored, .refl old⟩
  taken _ := .inl

namespace OrderSession

variable {py : Platform} {r : OrderSession} {m m' : (r.protocol py).Phase} {e : Event backend}

/-- The row of a submission is the one it has inserted for its request. -/
def Recorded (py : Platform) : (r : OrderSession) → (r.protocol py).Phase → Prop
  | submit _ => SubmitStage.Recorded
  | apply .. => fun _ => True
  | reconcile .. => fun _ => True

theorem Recorded.start (r : OrderSession) : r.Recorded py (r.start py) := by
  cases r <;> exact True.intro

theorem Recorded.move (recorded : r.Recorded py m) (move : (r.protocol py).Move m e m') :
    r.Recorded py m' := by
  cases r with
  | submit req => exact SubmitMove.recorded move recorded
  | apply | reconcile => exact True.intro

end OrderSession

/-- A submission sends the order of the row it holds. -/
theorem SubmitMove.keepsOrders {py : Platform} {req : SubmitRequest}
    {stage stage' : SubmitStage py req} {e : Event backend}
    (move : SubmitMove py req stage e stage') (sound : e.Sound semantics) (settled : stage ≠ .lost)
    (recorded : stage.Recorded) : KeepsOrders stage.row? e.before e.after := by
  refine ⟨(move.effect sound settled).executions_kept, fun clientOrderId taken => ?_⟩
  cases move with
  | idle quiet =>
    rw [after_eq_of_idle (isIdle_of_asksNoExchange quiet) sound] at taken
    exact .inl taken
  | wander => exact absurd rfl settled
  | settle | reject | submit | accept | failSent | fail =>
    exact .inl ((World.flush_ok sound).2 ▸ taken)
  | @send before after adm row x prepared reply prepares =>
    have answered : answers before (.urlopen prepared) reply after := sound
    rcases answered with same | ⟨request, id, asked, named, grown⟩
    · exact .inl (same ▸ taken)
    · have taken : clientOrderId ∈ after.book := taken
      rw [grown] at taken
      rcases List.mem_cons.mp taken with rfl | earlier
      · cases asked
        have order := Option.some.inj (prepares.clientOrderId.symm.trans named)
        rw [adm.order] at order
        exact .inr ⟨row, rfl, recorded.clientOrderId.trans order⟩
      · exact .inl earlier
  | @authorize before after _ _ _ now =>
    have same : after = before :=
      after_eq_of_call (show answers before .utcNow now after from sound) rfl
    exact .inl (same ▸ taken)
  | _ => exact .inl taken

/-- A session that applies what is reported takes no order. -/
theorem keepsOrders_of_decidesOpenly {Reported : OrderExecutionStatus → Prop} {e : Event backend}
    (decides : DecidesOpenly Reported e) (sound : e.Sound semantics) :
    KeepsOrders none e.before e.after := by
  cases e with
  | read | abort => exact .refl _ _
  | call query answer before after =>
    have same : after = before :=
      after_eq_of_call (show answers before query answer after from sound) decides
    change KeepsOrders none before after
    rw [same]
    exact .refl _ _
  | commit work before after =>
    obtain ⟨flushed, book⟩ := World.flush_ok sound
    refine ⟨fun old stored => ⟨_, ?_, sameOrder_updated work.executionChanges old⟩, fun _ taken => ?_⟩
    · exact (Table.mem_insertAll (executions_of_flush flushed)).mpr
        (.inl (Table.mem_writeBack.mpr ⟨old, stored, rfl⟩))
    · exact .inl (book ▸ taken)

theorem OrderSession.keepsOrders {py : Platform} {r : OrderSession}
    {m m' : (r.protocol py).Phase} {e : Event backend} (move : (r.protocol py).Move m e m')
    (finds : r.Finds py e.before.db m) (recorded : r.Recorded py m) (sound : e.Sound semantics) :
    KeepsOrders (r.row? py m) e.before e.after := by
  cases r with
  | submit req => exact SubmitMove.keepsOrders move sound finds.1 recorded
  | apply | reconcile => exact keepsOrders_of_decidesOpenly move sound

section runs

variable {ι : Type} [DecidableEq ι] {py : Platform} {sessions : ι → OrderSession}

/-- What holds between the sessions and the book of the exchange, whatever they record. -/
structure BookInv (phases : ∀ i, ((sessions i).protocol py).Phase) (w : World) : Prop where
  claims : Claims SameOrder (fun i => (sessions i).row? py (phases i)) w.db.executions
  recorded : ∀ i, (sessions i).Recorded py (phases i)
  stored : w.BookStored

omit [DecidableEq ι] in
theorem BookInv.start {world : World} (stored : world.BookStored) :
    BookInv (fun i => (sessions i).start py) world where
  claims := by
    refine .none fun i => ?_
    cases sessions i <;> rfl
  recorded i := .start _
  stored := stored

/-- One step of any session: an order that is taken is the one of a row that stands. -/
theorem BookInv.step {phases : ∀ i, ((sessions i).protocol py).Phase} {i : ι} {e : Event backend}
    {m : ((sessions i).protocol py).Phase} (inv : BookInv phases e.before)
    (finds : (sessions i).Finds py e.before.db (phases i))
    (move : ((sessions i).protocol py).Move (phases i) e m) (sound : e.Sound semantics) :
    BookInv (Function.update phases i m) e.after := by
  have keeps := OrderSession.keepsOrders move finds (inv.recorded i) sound
  constructor
  · have rows : (fun j => (sessions j).row? py (Function.update phases i m j)) =
        Function.update (fun j => (sessions j).row? py (phases j)) i ((sessions i).row? py m) :=
      funext fun j => Function.apply_update (fun j phase => (sessions j).row? py phase) phases i m j
    rw [rows]
    exact inv.claims.step SameOrder.key SameOrder.trans keeps.kept fun row held =>
      OrderSession.row_from move finds sound held
  · exact (Function.forall_update_iff phases fun j phase => (sessions j).Recorded py phase).mpr
      ⟨(inv.recorded i).move move, fun j _ => inv.recorded j⟩
  · intro clientOrderId taken
    rcases keeps.taken clientOrderId taken with earlier | ⟨row, held, same⟩
    · obtain ⟨x, stored, same⟩ := inv.stored clientOrderId earlier
      obtain ⟨new, newStored, order⟩ := keeps.kept x stored
      exact ⟨new, newStored, order.clientOrderId.trans same⟩
    · obtain ⟨x, stored, order⟩ := inv.claims.stands i row held
      obtain ⟨new, newStored, kept⟩ := keeps.kept x stored
      exact ⟨new, newStored, (kept.trans order).clientOrderId.trans same⟩

/-- Wherever the sessions stop, every order the exchange has taken is stored. -/
theorem bookStored_of_run {world : World} {trace : Trace backend ι}
    {c : Config backend fun i => (sessions i).Outcome}
    (run : Config.Run semantics (ordering py sessions world) trace c) (stored : world.BookStored) :
    c.store.BookStored := by
  obtain ⟨phases, tracked, -⟩ := run.tracked fun i => (sessions i).program_follows py
  suffices inv : BookInv phases c.store from inv.stored
  generalize c.store = s at tracked
  clear run
  induction tracked with
  | nil => exact .start stored
  | @snoc trace phases s i e m earlier move sound here ih =>
    subst here
    exact ih.step (finds_of_run earlier (fun i => OrderSession.finds_start (sessions i)) i) move sound

end runs

/-! ### What the exchange knows -/

/-- Where the exchange has the orders it has taken, by their client order ids, and the order ids
it has given them. -/
structure ExchangeOrders where
  status : String → Option OrderExecutionStatus
  orderId : String → Option String

namespace ExchangeOrders

variable {known : ExchangeOrders} {py : Platform} {exchangeName : ExchangeName}
  {userId exchangeAccountId : String} {executions : Table OrderExecution} {x y : OrderExecution}
  {event : NormalizedTestnetOrderEvent}

/-- The exchange order ids that are stored are those of the exchange. -/
def Agrees (known : ExchangeOrders) (executions : Table OrderExecution) : Prop :=
  ∀ x ∈ executions, ∀ id, x.exchangeOrderId = some id → id ≠ "" →
    known.orderId x.clientOrderId = some id

/-- The exchange has given no two stored orders of the account the same id. An exchange that
numbers its orders symbol by symbol may have. -/
def TellsApart (known : ExchangeOrders) (userId exchangeAccountId : String)
    (executions : Table OrderExecution) : Prop :=
  ∀ x ∈ executions, ∀ y ∈ executions, x.userId = userId ∧ x.exchangeAccountId = exchangeAccountId →
    y.userId = userId ∧ y.exchangeAccountId = exchangeAccountId →
    ∀ id, known.orderId x.clientOrderId = some id → known.orderId y.clientOrderId = some id → x = y

/-- The event is about the order, and about no other one. -/
structure Names (known : ExchangeOrders) (event : NormalizedTestnetOrderEvent) (x : OrderExecution) :
    Prop where
  exchangeName : x.exchangeName = event.exchangeName.value
  clientOrderId : usable event.clientOrderId = some x.clientOrderId
  exchangeOrderId : ∀ id, usable event.exchangeOrderId = some id →
    known.orderId x.clientOrderId = some id

/-- An answer that says of the order what the exchange knows: where it has it, or nothing that
could be used. -/
def Tells (known : ExchangeOrders) (py : Platform) (exchangeName : ExchangeName)
    (x : OrderExecution) (reply : HttpReply) : Prop :=
  match known.status x.clientOrderId with
  | none => reportedEvent py exchangeName reply = none
  | some status => ∃ event, reportedEvent py exchangeName reply = some event ∧
      event.status = status ∧ known.Names event x

/-- Every answer can be read, and says of the order that is looked up what the exchange knows, with
identifiers the columns take. -/
structure Truthful (known : ExchangeOrders) (py : Platform) (exchangeName : ExchangeName)
    (pending : List OrderExecution) (lookups : List (PreparedExchangeRequest × HttpReply)) :
    Prop where
  readable : ∀ lookup ∈ lookups, lookup.2.isReadable = true
  fits : ∀ lookup ∈ lookups, ∀ event ∈ reportedEvent py exchangeName lookup.2, event.Fits
  tells : ∀ lookup ∈ lookups, ∀ x ∈ pending, LooksUp py exchangeName x lookup.1 →
    known.Tells py exchangeName x lookup.2

theorem Names.of_sameOrder (names : known.Names event x) (same : SameOrder y x) :
    known.Names event y where
  exchangeName := same.exchangeName.trans names.exchangeName
  clientOrderId := by rw [same.clientOrderId, names.clientOrderId]
  exchangeOrderId := by
    rw [same.clientOrderId]
    exact names.exchangeOrderId

/-- A row with the exchange's id of an order is that order's. -/
theorem findExecution_of_names (agrees : known.Agrees executions)
    (apart : known.TellsApart userId exchangeAccountId executions) (stored : y ∈ executions)
    (owner : y.userId = userId ∧ y.exchangeAccountId = exchangeAccountId)
    (names : known.Names event y) :
    findExecution userId exchangeAccountId event { executions } = some y := by
  have own : decide (y.userId = userId ∧ y.exchangeAccountId = exchangeAccountId ∧
      y.exchangeName = event.exchangeName.value ∧
      ((usable event.clientOrderId).any (fun id => y.clientOrderId = id) ∨
        (usable event.exchangeOrderId).any (fun id => y.exchangeOrderId = some id))) = true := by
    simp [owner.1, owner.2, names.exchangeName, names.clientOrderId]
  cases found : findExecution userId exchangeAccountId event { executions } with
  | none =>
    have missed := Table.not_of_find?_none found stored
    rw [own] at missed
    cases missed
  | some z =>
    have held := Table.holds_of_find? found
    simp only [decide_eq_true_eq, Option.any_eq_true] at held
    obtain ⟨theirUser, theirAccount, -, ⟨id, named, same⟩ | ⟨id, named, same⟩⟩ := held
    · rw [names.clientOrderId, Option.some.injEq] at named
      refine congrArg some (Table.eq_of_conflict (Table.mem_of_find? found) stored ?_)
      exact .inr (.inr (.inl (same.trans named.symm)))
    · have usable : id ≠ "" := by
        simpa using (Option.filter_eq_some_iff.mp named).2
      have theirs := agrees z (Table.mem_of_find? found) id same usable
      exact congrArg some (apart z (Table.mem_of_find? found) y stored ⟨theirUser, theirAccount⟩
        owner id theirs (names.exchangeOrderId id named))

/-- Where an order is after its report: what is not looked up stays. -/
def reached (known : ExchangeOrders) (pending : List OrderExecution) (x : OrderExecution) :
    OrderExecutionStatus :=
  if x.clientOrderId ∈ pending.map (·.clientOrderId) then
    (known.status x.clientOrderId).elim x.status (advance x.status)
  else x.status

/-- Reports bring no order in. -/
theorem of_mem_executionsAfter {z' : OrderExecution}
    (mem : z' ∈ executionsAfter userId exchangeAccountId event { executions }) :
    ∃ z ∈ executions, SameOrder z' z := by
  unfold executionsAfter at mem
  cases found : findExecution userId exchangeAccountId event { executions } with
  | none =>
    rw [found] at mem
    exact ⟨z', mem, .refl z'⟩
  | some row =>
    rw [found] at mem
    dsimp only at mem
    split at mem
    · obtain ⟨z, stored, rfl⟩ := List.mem_map.mp mem
      refine ⟨z, stored, ?_⟩
      split
      · exact sameOrder_apply _ z
      · exact .refl z
    · exact ⟨z', mem, .refl z'⟩

theorem TellsApart.executionsAfter (apart : known.TellsApart userId exchangeAccountId executions) :
    known.TellsApart userId exchangeAccountId
      (executionsAfter userId exchangeAccountId event { executions }) := by
  intro x mem y mem' mine theirs id given given'
  obtain ⟨x₀, stored, same⟩ := of_mem_executionsAfter mem
  obtain ⟨y₀, stored', same'⟩ := of_mem_executionsAfter mem'
  rw [same.userId, same.exchangeAccountId] at mine
  rw [same'.userId, same'.exchangeAccountId] at theirs
  rw [same.clientOrderId] at given
  rw [same'.clientOrderId] at given'
  obtain rfl := apart x₀ stored y₀ stored' mine theirs id given given'
  exact Table.eq_of_conflict mem mem'
    (.inr (.inr (.inl (same.clientOrderId.trans same'.clientOrderId.symm))))

/-- An event that names a stored order moves it on, and no other one. -/
theorem executionsAfter_of_names (agrees : known.Agrees executions)
    (apart : known.TellsApart userId exchangeAccountId executions) (stored : y ∈ executions)
    (owner : y.userId = userId ∧ y.exchangeAccountId = exchangeAccountId)
    (names : known.Names event y) (fits : event.Fits) :
    known.Agrees (executionsAfter userId exchangeAccountId event { executions }) ∧
      ∀ z ∈ executions, ∃ z' ∈ executionsAfter userId exchangeAccountId event { executions },
        SameOrder z' z ∧ z'.status =
          if z.clientOrderId = y.clientOrderId then advance z.status event.status else z.status := by
  have found := findExecution_of_names agrees apart stored owner names
  have unique : ∀ z ∈ executions, z.clientOrderId = y.clientOrderId → z = y :=
    fun z mem same => Table.eq_of_conflict mem stored (.inr (.inr (.inl same)))
  unfold executionsAfter
  rw [found]
  dsimp only
  split
  · next counts =>
    have moved : (event.applied y).status = advance y.status event.status := by
      unfold advance
      rw [if_neg (not_or.mpr ⟨counts.1.1, not_not.mpr counts.1.2⟩)]
      rfl
    constructor
    · intro z mem id held nonempty
      obtain ⟨old, oldStored, rfl⟩ := List.mem_map.mp mem
      split at held
      · next same =>
        obtain rfl : old = y := Table.eq_of_conflict oldStored stored (.inl same)
        rw [if_pos rfl]
        change Option.getD ((newOrderId old event).map some) old.exchangeOrderId = some id at held
        change known.orderId old.clientOrderId = some id
        cases added : newOrderId old event with
        | none =>
          rw [added] at held
          exact agrees old oldStored id held nonempty
        | some own =>
          rw [added] at held
          cases held
          unfold newOrderId at added
          split at added
          · exact names.exchangeOrderId id added
          · cases added
      · next other =>
        rw [if_neg other]
        exact agrees old oldStored id held nonempty
    · intro z mem
      refine ⟨_, List.mem_map.mpr ⟨z, mem, rfl⟩, ?_⟩
      by_cases same : z.id = y.id
      · obtain rfl : z = y := Table.eq_of_conflict mem stored (.inl same)
        rw [if_pos rfl, if_pos rfl]
        exact ⟨sameOrder_apply _ _, moved⟩
      · have other : z.clientOrderId ≠ y.clientOrderId := fun named => same (unique z mem named ▸ rfl)
        rw [if_neg same, if_neg other]
        exact ⟨.refl z, rfl⟩
  · next spent =>
    refine ⟨agrees, fun z mem => ⟨z, mem, .refl z, ?_⟩⟩
    split
    · next named =>
      rw [unique z mem named]
      have stays : ¬ event.Advances y := fun advances => spent ⟨advances, fits.not_refused y⟩
      exact (not_not.mp (mt NormalizedTestnetOrderEvent.advances_iff.mpr stays)).symm
    · rfl

/-- The run lemma: along the pending orders, each of which is looked up once. -/
theorem executionsReported_of_tells {pending : List OrderExecution}
    {lookups : List (PreparedExchangeRequest × HttpReply)} (agrees : known.Agrees executions)
    (apart : known.TellsApart userId exchangeAccountId executions)
    (fits : ∀ lookup ∈ lookups, ∀ event ∈ reportedEvent py exchangeName lookup.2, event.Fits)
    (tells : List.Forall₂ (fun x lookup => known.Tells py exchangeName x lookup.2) pending lookups)
    (distinct : (pending.map (·.clientOrderId)).Nodup)
    (stored : ∀ x ∈ pending, (∃ y ∈ executions, SameOrder y x) ∧ x.userId = userId ∧
      x.exchangeAccountId = exchangeAccountId) :
    ∀ z ∈ executions, ∃ z' ∈ executionsReported userId exchangeAccountId
      (reportedEvents py exchangeName lookups) executions,
      SameOrder z' z ∧ z'.status = known.reached pending z := by
  induction tells generalizing executions with
  | nil => exact fun z mem => ⟨z, mem, .refl z, by simp [reached]⟩
  | @cons x lookup pending lookups told _ ih =>
    obtain ⟨⟨⟨y, hy, same⟩, owner⟩, others⟩ := List.forall_mem_cons.mp stored
    obtain ⟨fresh, distinct⟩ := List.nodup_cons.mp distinct
    obtain ⟨firstFits, otherFits⟩ := List.forall_mem_cons.mp fits
    -- what the rest of the reports does to a row of the first one's order is nothing
    have passed : ∀ z : OrderExecution, z.clientOrderId = x.clientOrderId →
        known.reached pending z = z.status := by
      intro z named
      unfold reached
      rw [named, if_neg fresh]
    unfold Tells at told
    rw [reportedEvents_cons]
    cases status : known.status x.clientOrderId with
    | none =>
      rw [status] at told
      rw [told]
      intro z mem
      obtain ⟨z', mem', order, reached'⟩ := ih agrees apart otherFits distinct others z mem
      refine ⟨z', mem', order, reached'.trans ?_⟩
      by_cases named : z.clientOrderId = x.clientOrderId
      · rw [passed z named]
        simp [reached, named, status]
      · simp [reached, named]
    | some status' =>
      rw [status] at told
      obtain ⟨event, reported, rfl, names⟩ := told
      have mine : y.userId = userId ∧ y.exchangeAccountId = exchangeAccountId :=
        ⟨same.userId.trans owner.1, same.exchangeAccountId.trans owner.2⟩
      obtain ⟨agrees', moved⟩ := executionsAfter_of_names agrees apart hy mine
        (names.of_sameOrder same) (firstFits event reported)
      have others' : ∀ z ∈ pending,
          (∃ y' ∈ executionsAfter userId exchangeAccountId event { executions }, SameOrder y' z) ∧
            z.userId = userId ∧ z.exchangeAccountId = exchangeAccountId := by
        intro z hz
        obtain ⟨⟨w, hw, worder⟩, zowner⟩ := others z hz
        obtain ⟨w', hw', worder', -⟩ := moved w hw
        exact ⟨⟨w', hw', worder'.trans worder⟩, zowner⟩
      rw [reported, executionsReported_append]
      intro z mem
      obtain ⟨z₁, mem₁, order₁, status₁⟩ := moved z mem
      obtain ⟨z₂, mem₂, order₂, status₂⟩ := ih agrees' apart.executionsAfter otherFits distinct others' z₁ mem₁
      refine ⟨z₂, mem₂, order₂.trans order₁, status₂.trans ?_⟩
      by_cases named : z.clientOrderId = x.clientOrderId
      · rw [passed z₁ (order₁.clientOrderId.trans named), status₁,
          if_pos (named.trans same.clientOrderId.symm)]
        simp [reached, named, status]
      · rw [if_neg fun other => named (other.trans same.clientOrderId)] at status₁
        simp [reached, named, order₁.clientOrderId, status₁]

end ExchangeOrders

/-! ### The recovery -/

section

variable {py : Platform} {userId exchangeAccountId : String} {account : ExchangeAccount}
  {credentials : ExchangeCredentials} {w w' : World}
  {outcome : Except Exc TestnetOrderReconciliationResult × Session} {later : List (Event backend)}

/-- A reconciliation whose requests can be signed isolates failures if its answers are taken. -/
theorem isolates_of_taken
    (may : MayReconcile py userId exchangeAccountId account credentials w.db)
    (signed : account.exchangeName = .okx → credentials.passphrase.isSome)
    (saved : ∀ row ∈ w.db.executions, row.id ≠ "") (fresh : DrawsFresh later w.db)
    (ran : Prog.Run semantics (reconcilePendingTestnetOrders py userId exchangeAccountId).run w
      later (.done outcome) w')
    (taken : AnswersTaken py userId exchangeAccountId account.exchangeName (lookupsOf later)
      w.db.executions) :
    Isolates py userId exchangeAccountId account.exchangeName (lookupsOf later) w.db w'.db := by
  rw [reconcilePendingTestnetOrders_eq] at ran
  rcases split_bind ran with
    ⟨opened, s₁, w₁, front, back, rfl, opens, rest⟩ | ⟨raised, s₁, -, opens⟩
  · obtain ⟨quiet, sees, same, client, named, heq⟩ := opens.of_alone (alone_openBatch may)
    cases heq
    have signs : client.Signs credentials := by
      unfold SignedExchangeHttpClient.Signs
      rw [named]
      exact ⟨may.supported, signed⟩
    have freshBack := fresh.back (congrArg Db.auditLogs same)
    rw [lookupsOf_append, lookupsOf_quiet quiet, List.nil_append] at taken ⊢
    rw [← same] at saved rest taken ⊢
    exact (isolates_iff_of_signed may.supported (fun _ => signs) sees saved freshBack rest).mpr
      taken
  · obtain ⟨-, -, -, client, -, heq⟩ := opens.of_alone (alone_openBatch may)
    cases heq

/-- Answered truthfully, the reconciliation leaves every order where the exchange has it. -/
theorem reached_of_truthful {known : ExchangeOrders}
    (may : MayReconcile py userId exchangeAccountId account credentials w.db)
    (signed : account.exchangeName = .okx → credentials.passphrase.isSome)
    (saved : ∀ row ∈ w.db.executions, row.id ≠ "") (agrees : known.Agrees w.db.executions)
    (apart : known.TellsApart userId exchangeAccountId w.db.executions)
    (fresh : DrawsFresh later w.db)
    (ran : Prog.Run semantics (reconcilePendingTestnetOrders py userId exchangeAccountId).run w
      later (.done outcome) w')
    (truthful : known.Truthful py account.exchangeName
      (pendingExecutions userId exchangeAccountId w.db) (lookupsOf later)) :
    ∀ x ∈ w.db.executions, ∃ y ∈ w'.db.executions, SameOrder y x ∧
      y.status = known.reached (pendingExecutions userId exchangeAccountId w.db) x := by
  have isolates := isolates_of_taken may signed saved fresh ran
    (.of_fits truthful.readable truthful.fits)
  have pending : ∀ x ∈ pendingExecutions userId exchangeAccountId w.db, x ∈ w.db.executions ∧
      x.userId = userId ∧ x.exchangeAccountId = exchangeAccountId := by
    intro x mem
    obtain ⟨stored, owner⟩ := List.mem_filter.mp mem
    simp only [decide_eq_true_eq] at owner
    exact ⟨stored, owner.1, owner.2.1⟩
  rw [isolates.executions]
  refine ExchangeOrders.executionsReported_of_tells agrees apart truthful.fits ?_ ?_ ?_
  · refine List.forall₂_iff_zip.mpr ⟨isolates.once.length_eq, fun {x lookup} both => ?_⟩
    obtain ⟨mem, asked⟩ := List.of_mem_zip both
    exact truthful.tells lookup asked x mem (List.forall₂_zip isolates.once both)
  · have distinct : (pendingExecutions userId exchangeAccountId w.db).Pairwise
        fun a b => ¬ Row.Conflict a b := w.db.executions.distinct.filter _
    refine List.pairwise_map.mpr (distinct.imp ?_)
    exact fun apart same => apart (.inr (.inr (.inl same)))
  · intro x mem
    obtain ⟨stored, owner⟩ := pending x mem
    exact ⟨⟨x, stored, .refl x⟩, owner⟩

end

/-- After a crash and a reconciliation: every order the exchange had taken was stored, each of the
account's pending orders that the exchange knows is where the exchange has it, as far as the
lifecycle allows, and every other order is as it was. -/
structure Recovered (known : ExchangeOrders) (userId exchangeAccountId : String) (crashed : World)
    (after : Db) : Prop where
  stored : crashed.BookStored
  caughtUp : ∀ x ∈ pendingExecutions userId exchangeAccountId crashed.db,
    ∀ status, known.status x.clientOrderId = some status →
      ∃ y ∈ after.executions, SameOrder y x ∧ y.status = advance x.status status ∧
        (status ∈ [OrderExecutionStatus.filled, .cancelled, .timeout] → y.status = status)
  untouched : ∀ x ∈ crashed.db.executions,
    x ∉ pendingExecutions userId exchangeAccountId crashed.db ∨
      known.status x.clientOrderId = none →
    ∃ y ∈ after.executions, SameOrder y x ∧ y.status = x.status

/-- A pending order is taken to whatever ended it. -/
theorem advance_pending {status final : OrderExecutionStatus} (pending : status ∈ pendingStatuses)
    (ended : final ∈ [OrderExecutionStatus.filled, .cancelled, .timeout]) :
    advance status final = final := by
  revert pending ended
  cases status <;> cases final <;> decide

/-- Submissions, reported events and reconciliations interleave in any way and stop anywhere. What
happens before the recovery leaves the orders and the exchange alone, such as switching the trading
off. If the stored exchange order ids are the exchange's, and tell the orders of the account apart,
a reconciliation that is answered truthfully then recovers them. -/
theorem reconciliation_recovers {ι : Type} [DecidableEq ι] {py : Platform}
    {sessions : ι → OrderSession} {world w w' : World} {trace : Trace backend ι}
    {c : Config backend fun i => (sessions i).Outcome} {userId exchangeAccountId : String}
    {account : ExchangeAccount} {credentials : ExchangeCredentials} {known : ExchangeOrders}
    {outcome : Except Exc TestnetOrderReconciliationResult × Session} {later : List (Event backend)}
    (run : Config.Run semantics (ordering py sessions world) trace c) (booked : world.BookStored)
    (orders : w.db.executions = c.store.db.executions ∧ w.book = c.store.book)
    (may : MayReconcile py userId exchangeAccountId account credentials w.db)
    (signed : account.exchangeName = .okx → credentials.passphrase.isSome)
    (saved : ∀ row ∈ w.db.executions, row.id ≠ "") (agrees : known.Agrees w.db.executions)
    (apart : known.TellsApart userId exchangeAccountId w.db.executions)
    (fresh : DrawsFresh later w.db)
    (ran : Prog.Run semantics (reconcilePendingTestnetOrders py userId exchangeAccountId).run w
      later (.done outcome) w')
    (truthful : known.Truthful py account.exchangeName
      (pendingExecutions userId exchangeAccountId w.db) (lookupsOf later)) :
    Recovered known userId exchangeAccountId w w'.db := by
  have reached := reached_of_truthful may signed saved agrees apart fresh ran truthful
  constructor
  · intro clientOrderId taken
    rw [orders.2] at taken
    rw [orders.1]
    exact bookStored_of_run run booked clientOrderId taken
  · intro x mem status told
    obtain ⟨stored, owner⟩ := List.mem_filter.mp mem
    simp only [decide_eq_true_eq] at owner
    obtain ⟨y, yStored, order, after⟩ := reached x stored
    have named : x.clientOrderId ∈
        (pendingExecutions userId exchangeAccountId w.db).map (·.clientOrderId) :=
      List.mem_map.mpr ⟨x, mem, rfl⟩
    have moved : y.status = advance x.status status := by
      rw [after, ExchangeOrders.reached, if_pos named, told]
      rfl
    exact ⟨y, yStored, order, moved, fun ended => moved.trans (advance_pending owner.2.2 ended)⟩
  · intro x stored other
    obtain ⟨y, yStored, order, after⟩ := reached x stored
    refine ⟨y, yStored, order, after.trans ?_⟩
    unfold ExchangeOrders.reached
    split
    · next named =>
      obtain ⟨z, mem, same⟩ := List.mem_map.mp named
      obtain rfl : z = x := Table.eq_of_conflict (List.mem_filter.mp mem).1 stored
        (.inr (.inr (.inl same)))
      rcases other with notPending | unknown
      · exact absurd mem notPending
      · rw [unknown]
        rfl
    · rfl

/-! ### A crash between the request and the record of its answer -/

/-- The submission stops when the exchange has taken the order. -/
def crashedRun : Trace backend Bool × Config backend fun i => (followedSessions i).Outcome :=
  followedStart.replay semantics (environment takingExchange) 0 (List.replicate 22 true)

/-- Then the trading is switched off. -/
def crashedWorld : World :=
  { crashedRun.2.store with
    db := { crashedRun.2.store.db with
      accounts := oneRow { sampleAccount .testnet with tradingEnabled := false } } }

/-- The exchange has filled the order. -/
def filledOrders : ExchangeOrders where
  status clientOrderId := if clientOrderId = "c1" then some .filled else none
  orderId clientOrderId := if clientOrderId = "c1" then some "7" else none

def filledReply : HttpReply :=
  .payload (some (.obj
    [("clientOrderId", .str "c1"), ("orderId", .int 7), ("status", .str "FILLED")]))

def recoveryRun : Trace backend Unit × Config backend fun _ : Unit =>
    Except Exc TestnetOrderReconciliationResult × Session :=
  Exchange.serving ⟨true, filledReply⟩ (reconcilePendingTestnetOrders asciiPlatform "u" "a").run
    crashedWorld 60

theorem crashedWorld_may : MayReconcile asciiPlatform "u" "a"
    { sampleAccount .testnet with tradingEnabled := false }
    ⟨"key", "secret", some "passphrase"⟩ crashedWorld.db where
  stored := List.mem_cons_self
  id := rfl
  owned := rfl
  allowed := rfl
  keys := ⟨sampleSecret, by decide +kernel, rfl⟩

/-- The one order is reported as filled. -/
theorem recoveryRun_reports : ∀ lookup ∈ lookupsOf (recoveryRun.1.map Prod.snd),
    (reportedEvent asciiPlatform .binance lookup.2).map
      (fun event => (event.status, event.exchangeName, usable event.clientOrderId,
        usable event.exchangeOrderId)) = some (.filled, .binance, some "c1", some "7") := by
  decide +kernel

theorem filledOrders_truthful : filledOrders.Truthful asciiPlatform .binance
    (pendingExecutions "u" "a" crashedWorld.db) (lookupsOf (recoveryRun.1.map Prod.snd)) where
  readable := by decide +kernel
  fits := by
    intro lookup asked event reported
    have fields := recoveryRun_reports lookup asked
    rw [Option.mem_def.mp reported, Option.map_some, Option.some.injEq] at fields
    simp only [Prod.mk.injEq] at fields
    constructor
    · rw [fields.2.2.1]
      decide
    · rw [fields.2.2.2]
      decide
  tells := by
    have orders : ∀ x ∈ pendingExecutions "u" "a" crashedWorld.db,
        x.clientOrderId = "c1" ∧ x.exchangeName = "binance" := by decide +kernel
    intro lookup asked x mem _
    obtain ⟨named, exchange⟩ := orders x mem
    obtain ⟨event, reported, fields⟩ := Option.map_eq_some_iff.mp (recoveryRun_reports lookup asked)
    simp only [Prod.mk.injEq] at fields
    obtain ⟨status, exchangeName, clientOrderId, exchangeOrderId⟩ := fields
    have known : filledOrders.status x.clientOrderId = some .filled := by
      rw [named]
      rfl
    unfold ExchangeOrders.Tells
    rw [known]
    refine ⟨event, reported, status, ?_, ?_, fun id given => ?_⟩
    · rw [exchange, exchangeName]
      rfl
    · rw [clientOrderId, named]
    · rw [exchangeOrderId] at given
      rw [named, ← given]
      rfl

/-- The ids that are drawn are not the one of the approval. -/
def drawsOther : Event backend → Bool
  | .call .newUuid id _ _ => id ≠ "approval"
  | _ => true

theorem reconciliation_recovers_crash :
    crashedWorld.book = ["c1"] ∧
      (crashedWorld.db.executions.rows.map (·.status)) = [.submitted] ∧
      ∃ later outcome w', Prog.Run semantics
        (reconcilePendingTestnetOrders asciiPlatform "u" "a").run crashedWorld later
        (.done outcome) w' ∧ Recovered filledOrders "u" "a" crashedWorld w'.db := by
  obtain ⟨result, returns⟩ : ∃ result, returned (recoveryRun.2.client ()) = some result :=
    Option.isSome_iff_exists.mp (by decide +kernel)
  obtain ⟨s, done⟩ := done_of_returned returns
  have ran := Exchange.serving_run ⟨true, filledReply⟩
    (reconcilePendingTestnetOrders asciiPlatform "u" "a").run crashedWorld 60
  change Prog.Run semantics _ crashedWorld (recoveryRun.1.map Prod.snd) (recoveryRun.2.client ())
    recoveryRun.2.store at ran
  rw [done] at ran
  have saved : ∀ row ∈ crashedWorld.db.executions, row.id ≠ "" := by decide +kernel
  have agrees : filledOrders.Agrees crashedWorld.db.executions := by
    have unknown : ∀ x ∈ crashedWorld.db.executions, x.exchangeOrderId = none := by decide +kernel
    intro x mem id held
    rw [unknown x mem] at held
    cases held
  have apart : filledOrders.TellsApart "u" "a" crashedWorld.db.executions := by
    have one : ∀ x ∈ crashedWorld.db.executions, x.clientOrderId = "c1" := by decide +kernel
    intro x mem y mem' _ _ id _ _
    exact Table.eq_of_conflict mem mem' (.inr (.inr (.inl ((one x mem).trans (one y mem').symm))))
  have fresh : DrawsFresh (recoveryRun.1.map Prod.snd) crashedWorld.db := by
    have drawn : ∀ e ∈ recoveryRun.1.map Prod.snd, drawsOther e = true := by decide +kernel
    have logs : ∀ log ∈ crashedWorld.db.auditLogs, log.id = "approval" := by decide +kernel
    intro id before after mem log stored same
    have other := drawn _ mem
    simp [drawsOther, ← same, logs log stored] at other
  refine ⟨by decide +kernel, by decide +kernel, _, _, _, ran, ?_⟩
  exact reconciliation_recovers (Config.replay_reaches (environment_allowed takingExchange) _ _ _)
    (fun _ taken => (List.not_mem_nil taken).elim) ⟨rfl, rfl⟩ crashedWorld_may
    (fun okx => nomatch okx) saved agrees apart fresh ran filledOrders_truthful

end CopyTrading
