import CopyTrading.SessionRules

/-!
What a commit does to the committed rows, in the terms the invariants speak of: which
executions appear, which status a stored execution gets, which position moves, and what
stays as it was.
-/

namespace CopyTrading

open Transaction DecimalArith

/-! ### Events that change nothing -/

/-- A call that places an order: the simulated adapter, or an order request. -/
def Query.isPlacement : Query → Bool
  | .placeOrder _ => true
  | .urlopen request => request.clientOrderId.isSome
  | _ => false

/-- Reads, refused commits, and calls that place no order. -/
def isIdle : Event backend → Bool
  | .read _ => true
  | .commit .. => false
  | .abort .. => true
  | .call query _ _ _ => !Query.isPlacement query

/-- Reads, refused commits, and calls that ask no exchange. -/
def asksNoExchange : Event backend → Bool
  | .call (.urlopen _) _ _ _ => false
  | e => isIdle e

theorem isIdle_of_asksNoExchange {e : Event backend} (quiet : asksNoExchange e = true) : isIdle e = true := by
  unfold asksNoExchange at quiet
  split at quiet
  · cases quiet
  · exact quiet

theorem after_eq_of_call {query : Query} {answer : query.Answer} {before after : World}
    (answered : answers before query answer after) (idle : query.isPlacement = false) :
    after = before := by
  rcases answered with same | ⟨request, clientOrderId, rfl, hid, -⟩
  · exact same
  · simp [Query.isPlacement, hid] at idle

theorem db_eq_of_call {query : Query} {answer : query.Answer} {before after : World}
    (answered : answers before query answer after) : after.db = before.db := by
  rcases answered with rfl | ⟨request, clientOrderId, -, -, rfl⟩
  · rfl
  · rfl

theorem after_eq_of_idle {e : Event backend} (idle : isIdle e = true)
    (sound : e.Sound semantics) : e.after = e.before := by
  cases e with
  | read world => rfl
  | commit work before after => simp [isIdle] at idle
  | abort work world fault => rfl
  | call query answer before after =>
    have answered : answers before query answer after := sound
    exact after_eq_of_call answered (by simpa [isIdle] using idle)

/-! ### Attributes of an execution that never change -/

/-- Everything of an execution that is fixed when it is inserted. -/
structure SameOrder (a b : OrderExecution) : Prop where
  key : Row.key a = Row.key b
  userId : a.userId = b.userId
  exchangeName : a.exchangeName = b.exchangeName
  symbol : a.symbol = b.symbol
  side : a.side = b.side
  orderType : a.orderType = b.orderType
  price : a.price = b.price
  quantity : a.quantity = b.quantity

namespace SameOrder

variable {a b c : OrderExecution}

@[refl] theorem refl (a : OrderExecution) : SameOrder a a :=
  ⟨rfl, rfl, rfl, rfl, rfl, rfl, rfl, rfl⟩

theorem symm (h : SameOrder a b) : SameOrder b a :=
  ⟨h.key.symm, h.userId.symm, h.exchangeName.symm, h.symbol.symm, h.side.symm, h.orderType.symm,
    h.price.symm, h.quantity.symm⟩

theorem trans (h : SameOrder a b) (h' : SameOrder b c) : SameOrder a c :=
  ⟨h.key.trans h'.key, h.userId.trans h'.userId, h.exchangeName.trans h'.exchangeName,
    h.symbol.trans h'.symbol, h.side.trans h'.side, h.orderType.trans h'.orderType,
    h.price.trans h'.price, h.quantity.trans h'.quantity⟩

theorem id (h : SameOrder a b) : a.id = b.id := congrArg OrderExecution.Key.id h.key

theorem signalId (h : SameOrder a b) : a.signalId = b.signalId :=
  congrArg OrderExecution.Key.signalId h.key

theorem clientOrderId (h : SameOrder a b) : a.clientOrderId = b.clientOrderId :=
  congrArg OrderExecution.Key.clientOrderId h.key

theorem exchangeAccountId (h : SameOrder a b) : a.exchangeAccountId = b.exchangeAccountId :=
  congrArg OrderExecution.Key.exchangeAccountId h.key

theorem conflict (h : SameOrder a b) : Row.Conflict a b := .inl h.id

end SameOrder

theorem sameOrder_apply (change : OrderExecution.Change) (row : OrderExecution) :
    SameOrder (Row.apply change row) row := ⟨rfl, rfl, rfl, rfl, rfl, rfl, rfl, rfl⟩

theorem sameOrder_updated (dirty : List (Instance OrderExecution)) (row : OrderExecution) :
    SameOrder (Table.updated dirty row) row := by
  induction dirty generalizing row with
  | nil => rfl
  | cons x rest ih =>
    rw [Table.updated_cons]
    split
    · exact (ih _).trans (sameOrder_apply _ _)
    · exact ih row

/-- Two stored executions with one id are one row. -/
theorem execution_unique {db : Db} {a b : OrderExecution} (ha : a ∈ db.executions)
    (hb : b ∈ db.executions) (hid : a.id = b.id) : a = b :=
  Table.eq_of_conflict ha hb (.inl hid)

/-! ### Statuses a unit of work writes -/

/-- The status the unit of work writes on the row with this id, if any. -/
def writtenStatus (dirty : List (Instance OrderExecution)) (id : String)
    (status : OrderExecutionStatus) : Prop :=
  ∃ x ∈ dirty, x.loaded.id = id ∧ x.change.status = some status

theorem status_updated (dirty : List (Instance OrderExecution)) (row : OrderExecution) :
    (Table.updated dirty row).status = row.status ∨
      writtenStatus dirty row.id (Table.updated dirty row).status := by
  induction dirty generalizing row with
  | nil => exact .inl rfl
  | cons x rest ih =>
    rw [Table.updated_cons]
    split
    · next same =>
      have hid : x.loaded.id = row.id := same
      rcases ih (Row.apply x.change row) with kept | ⟨y, hy, hyid, hystatus⟩
      · cases hchange : x.change.status with
        | none =>
          refine .inl (kept.trans ?_)
          change x.change.status.getD row.status = row.status
          rw [hchange, Option.getD_none]
        | some status =>
          refine .inr ⟨x, List.mem_cons_self, hid, ?_⟩
          rw [kept, hchange]
          change some status = some (x.change.status.getD row.status)
          rw [hchange, Option.getD_some]
      · exact .inr ⟨y, List.mem_cons_of_mem _ hy, hyid, hystatus⟩
    · rcases ih row with kept | ⟨y, hy, hyid, hystatus⟩
      · exact .inl kept
      · exact .inr ⟨y, List.mem_cons_of_mem _ hy, hyid, hystatus⟩

theorem status_updated_singleton {x : Instance OrderExecution} {status : OrderExecutionStatus}
    (hstatus : x.change.status = some status) (row : OrderExecution) :
    (Table.updated [x] row).status = if x.loaded.id = row.id then status else row.status := by
  rw [Table.updated_cons, Table.updated_nil]
  have hsame : Row.SamePrimary x.loaded row ↔ x.loaded.id = row.id := Iff.rfl
  split
  · next same =>
    rw [if_pos (hsame.mp same)]
    change x.change.status.getD row.status = status
    rw [hstatus, Option.getD_some]
  · next different => rw [if_neg fun same => different (hsame.mpr same)]

/-! ### Units of work that leave the controls alone -/

/-- No account, flag, key or audit row is written; new risk settings are switched off. -/
structure Work.LeavesControls (work : Work) : Prop where
  accounts : work.accounts = []
  accountChanges : ∀ x ∈ work.accountChanges, x.change = {}
  riskSettings : ∀ row ∈ work.riskSettings, row.tradingEnabled = false
  riskSettingChanges : work.riskSettingChanges = []
  auditLogs : work.auditLogs = []
  stop : work.stop = none

/-- No key is written. -/
structure Work.LeavesKeys (work : Work) : Prop where
  secrets : work.secrets = []
  secretChanges : work.secretChanges = []
  deletedSecrets : work.deletedSecrets = []

theorem apply_no_change (row : ExchangeAccount) :
    Row.apply ({} : ExchangeAccount.Change) row = row := rfl

theorem updated_accounts {dirty : List (Instance ExchangeAccount)}
    (clean : ∀ x ∈ dirty, x.change = {}) (row : ExchangeAccount) :
    Table.updated dirty row = row := by
  induction dirty with
  | nil => rfl
  | cons x rest ih =>
    rw [Table.updated_cons, clean x List.mem_cons_self, apply_no_change, ite_self]
    exact ih fun y hy => clean y (List.mem_cons_of_mem _ hy)

theorem updated_executions {dirty : List (Instance OrderExecution)}
    (clean : ∀ x ∈ dirty, x.change = {}) (row : OrderExecution) :
    Table.updated dirty row = row := by
  induction dirty with
  | nil => rfl
  | cons x rest ih =>
    rw [Table.updated_cons, clean x List.mem_cons_self]
    exact (congrArg _ (ite_self _)).trans (ih fun y hy => clean y (List.mem_cons_of_mem _ hy))

/-- The stop stays as it is, accounts stay as they are, and every enabled risk setting was
enabled before. -/
structure KeepsControls (before after : Db) : Prop where
  control : after.control = before.control
  accounts : ∀ row, row ∈ after.accounts ↔ row ∈ before.accounts
  riskSettings : ∀ row ∈ after.riskSettings, row.tradingEnabled = true → row ∈ before.riskSettings
  riskRows : ∀ row ∈ before.riskSettings, row ∈ after.riskSettings
  auditLogs : after.auditLogs = before.auditLogs

theorem KeepsControls.refl (db : Db) : KeepsControls db db :=
  ⟨rfl, fun _ => Iff.rfl, fun _ h _ => h, fun _ h => h, rfl⟩

theorem Work.LeavesControls.keeps {work : Work} {before after : Db}
    (leaves : work.LeavesControls) (written : work.Written before after) :
    KeepsControls before after where
  control := written.control
  accounts row := by
    rw [Table.mem_insertAll written.accounts, leaves.accounts, Table.mem_writeBack]
    simp [updated_accounts leaves.accountChanges]
  riskSettings row hrow enabled := by
    have hold := written.riskSettings
    rw [leaves.riskSettingChanges, Table.writeBack_nil] at hold
    rcases (Table.mem_insertAll hold).mp hrow with hrow | hrow
    · exact hrow
    · rw [leaves.riskSettings row hrow] at enabled
      cases enabled
  riskRows row hrow := by
    have hold := written.riskSettings
    rw [leaves.riskSettingChanges, Table.writeBack_nil] at hold
    exact (Table.mem_insertAll hold).mpr (.inl hrow)
  auditLogs := by
    have hold := written.auditLogs
    rw [leaves.auditLogs] at hold
    exact (Option.some.inj hold).symm

/-! ### Units of work of the order engine -/

/-- What a unit of work writes on stored executions: one status, or no status at all. -/
def StatusWork (dirty : List (Instance OrderExecution)) :
    Option (String × OrderExecutionStatus) → Prop
  | none => ∀ x ∈ dirty, x.change.status = none
  | some (id, status) => ∃ x, dirty = [x] ∧ x.loaded.id = id ∧ x.change.status = some status

/-- The status a stored execution has after the write. -/
def statusAfter (status : Option (String × OrderExecutionStatus)) (old : OrderExecution) :
    OrderExecutionStatus :=
  match status with
  | some (id, new) => if id = old.id then new else old.status
  | none => old.status

theorem statusAfter_same {id : String} {new : OrderExecutionStatus} {old : OrderExecution}
    (same : id = old.id) : statusAfter (some (id, new)) old = new := if_pos same

theorem statusAfter_other {id : String} {new : OrderExecutionStatus} {old : OrderExecution}
    (other : id ≠ old.id) : statusAfter (some (id, new)) old = old.status := if_neg other

/-- Executions `inserted`, one status written, and the positions `moved`; a position that is
created starts at zero. -/
structure TradingWork (work : Work) (inserted : List OrderExecution)
    (status : Option (String × OrderExecutionStatus)) (moved : List (Instance Position)) :
    Prop where
  controls : work.LeavesControls
  executions : work.executions = inserted
  statuses : StatusWork work.executionChanges status
  positionChanges : work.positionChanges = moved
  positions : ∀ p ∈ work.positions, p.quantity = Numeric.zero

namespace TradingWork

variable {work : Work} {inserted : List OrderExecution}
  {status : Option (String × OrderExecutionStatus)} {moved : List (Instance Position)}
  {before after : Db}

theorem written (trading : TradingWork work inserted status moved)
    (flushed : before.flush work = .ok after) : work.Written before after :=
  Work.written_of_flush flushed trading.controls.stop

theorem status_updated (trading : TradingWork work inserted status moved)
    (old : OrderExecution) :
    (Table.updated work.executionChanges old).status = statusAfter status old := by
  have hstatuses := trading.statuses
  cases status with
  | none =>
    rcases CopyTrading.status_updated work.executionChanges old with kept | ⟨x, hx, -, hxstatus⟩
    · exact kept
    · rw [hstatuses x hx] at hxstatus
      cases hxstatus
  | some change =>
    obtain ⟨id, new⟩ := change
    obtain ⟨x, hx, hid, hnew⟩ := hstatuses
    rw [hx, status_updated_singleton hnew, hid]
    rfl

/-- A stored execution afterwards is an inserted one, or an old one with the status written. -/
theorem executions_after (trading : TradingWork work inserted status moved)
    (flushed : before.flush work = .ok after) {row : OrderExecution}
    (hrow : row ∈ after.executions) :
    row ∈ inserted ∨ ∃ old ∈ before.executions, SameOrder row old ∧
      row.status = statusAfter status old := by
  rcases (Table.mem_insertAll (trading.written flushed).executions).mp hrow with hold | hnew
  · obtain ⟨old, hmem, rfl⟩ := Table.mem_writeBack.mp hold
    exact .inr ⟨old, hmem, sameOrder_updated _ _, trading.status_updated old⟩
  · exact .inl (trading.executions ▸ hnew)

/-- No stored execution disappears; at most its status is the one written. -/
theorem executions_kept (trading : TradingWork work inserted status moved)
    (flushed : before.flush work = .ok after) {old : OrderExecution}
    (hold : old ∈ before.executions) :
    ∃ row ∈ after.executions, SameOrder row old ∧
      row.status = statusAfter status old := by
  refine ⟨_, (Table.mem_insertAll (trading.written flushed).executions).mpr
    (.inl (Table.mem_writeBack.mpr ⟨old, hold, rfl⟩)), sameOrder_updated _ _, ?_⟩
  exact trading.status_updated old

theorem inserted_mem (trading : TradingWork work inserted status moved)
    (flushed : before.flush work = .ok after) {row : OrderExecution} (hrow : row ∈ inserted) :
    row ∈ after.executions :=
  (Table.mem_insertAll (trading.written flushed).executions).mpr
    (.inr (trading.executions.symm ▸ hrow))

/-- An inserted execution conflicts with no execution stored before. -/
theorem inserted_fresh {new : OrderExecution} (trading : TradingWork work [new] status moved)
    (flushed : before.flush work = .ok after) {old : OrderExecution}
    (hold : old ∈ before.executions) : ¬ Row.Conflict old new := by
  have hinsert := (trading.written flushed).executions
  rw [trading.executions] at hinsert
  obtain ⟨mid, hmid, -⟩ := Table.insertAll_cons.mp hinsert
  have hupdated := Table.fresh_of_insert hmid
    (Table.mem_writeBack.mpr ⟨old, hold, rfl⟩)
  intro conflict
  refine hupdated ?_
  unfold Row.Conflict at conflict ⊢
  rwa [Table.key_updated]

end TradingWork

/-- The unit of work of a session that has touched signals, executions and positions only. -/
theorem Session.tradingWork {s : Session} (transitions : List OrderExecutionTransition)
    (positions : List Position) (riskSettings : List RiskSetting)
    {executions : List OrderExecution} {signals : List TradingSignal}
    {moved : List (Instance Position)} {status : Option (String × OrderExecutionStatus)}
    (work : s.work =
      { executions, transitions, positions, riskSettings, signals, positionChanges := moved })
    (clean : ∀ x ∈ s.accounts, x.change = {})
    (off : ∀ row ∈ riskSettings, row.tradingEnabled = false)
    (statuses : StatusWork s.executions status)
    (zero : ∀ p ∈ positions, p.quantity = Numeric.zero) :
    TradingWork s.pending executions status moved := by
  constructor
  · constructor <;> simp_all [Session.pending]
  · simp [Session.pending, work]
  · exact statuses
  · simp [Session.pending, work]
  · simpa [Session.pending, work] using zero

theorem statusWork_set {x : OrderExecution} {c : OrderExecution.Change}
    {status : OrderExecutionStatus} (hstatus : c.status = some status) :
    StatusWork [⟨x, c⟩] (some (x.id, status)) := ⟨⟨x, c⟩, rfl, rfl, hstatus⟩

theorem statusWork_clean {x : OrderExecution} {c : OrderExecution.Change}
    (hstatus : c.status = none) : StatusWork [⟨x, c⟩] none := by
  intro y hy
  rw [List.mem_singleton.mp hy]
  exact hstatus

end CopyTrading
