import CopyTrading.TestnetOrder.OrderLookups

/-!
The reconciliation of all pending orders: one lookup after the other, and one audit row in the
end. The batch goes on past whatever a lookup fails with, but not past an answer that cannot be
read or that the database refuses.
-/

namespace CopyTrading

open Transaction Transaction.Handler

/-! ### The batch -/

section

variable {py : Platform} {exchangeName : ExchangeName} {userId exchangeAccountId : String}
  {credentials : ExchangeCredentials} {client : SignedExchangeHttpClient} {s : Session} {w : World}

/-- The answers that report nothing the code can use. -/
def failedLookups (py : Platform) (exchangeName : ExchangeName)
    (lookups : List (PreparedExchangeRequest × HttpReply)) :
    List (PreparedExchangeRequest × HttpReply) :=
  lookups.filter fun lookup => (reportedEvent py exchangeName lookup.2).isNone

/-- What the answers report, in their order. -/
def reportedEvents (py : Platform) (exchangeName : ExchangeName)
    (lookups : List (PreparedExchangeRequest × HttpReply)) : List NormalizedTestnetOrderEvent :=
  lookups.filterMap fun lookup => reportedEvent py exchangeName lookup.2

theorem reportedEvents_cons (lookup : PreparedExchangeRequest × HttpReply)
    (rest : List (PreparedExchangeRequest × HttpReply)) :
    reportedEvents py exchangeName (lookup :: rest) =
      (reportedEvent py exchangeName lookup.2).toList ++ reportedEvents py exchangeName rest := by
  unfold reportedEvents
  rw [List.filterMap_cons]
  cases reportedEvent py exchangeName lookup.2 with
  | none => rfl
  | some event => rfl

/-- The items that say their lookup failed. -/
def failedItems (items : List TestnetOrderReconciliationItem) :
    List TestnetOrderReconciliationItem :=
  items.filter fun item => item.failureType.isSome

/-- The pending executions have been looked up, one after the other. -/
structure BatchDone (py : Platform) (userId exchangeAccountId : String)
    (exchangeName : ExchangeName) (pending : List OrderExecution)
    (lookups : List (PreparedExchangeRequest × HttpReply))
    (items : List TestnetOrderReconciliationItem) (before after : Db) : Prop where
  once : List.Forall₂ (fun x lookup => LooksUp py exchangeName x lookup.1) pending lookups
  executions : after.executions =
    executionsReported userId exchangeAccountId (reportedEvents py exchangeName lookups)
      before.executions
  attempted : items.length = pending.length
  failed : (failedItems items).length = (failedLookups py exchangeName lookups).length

/-- Each answer can be dealt with, in the state where it comes. -/
def AnswersTaken (py : Platform) (userId exchangeAccountId : String) (exchangeName : ExchangeName) :
    List (PreparedExchangeRequest × HttpReply) → Table OrderExecution → Prop
  | [], _ => True
  | lookup :: rest, executions =>
      AnswerTaken py userId exchangeAccountId exchangeName lookup.2 executions ∧
        AnswersTaken py userId exchangeAccountId exchangeName rest
          (executionsReported userId exchangeAccountId
            (reportedEvent py exchangeName lookup.2).toList executions)

/-- Readable answers with identifiers the columns take are dealt with in any state. -/
theorem AnswersTaken.of_fits {lookups : List (PreparedExchangeRequest × HttpReply)}
    {executions : Table OrderExecution}
    (readable : ∀ lookup ∈ lookups, lookup.2.isReadable = true)
    (fits : ∀ lookup ∈ lookups, ∀ event ∈ reportedEvent py exchangeName lookup.2, event.Fits) :
    AnswersTaken py userId exchangeAccountId exchangeName lookups executions := by
  induction lookups generalizing executions with
  | nil => exact True.intro
  | cons lookup rest ih =>
    obtain ⟨first, readable⟩ := List.forall_mem_cons.mp readable
    obtain ⟨firstFits, fits⟩ := List.forall_mem_cons.mp fits
    exact ⟨⟨first, fun event reported => (firstFits event reported).takenAmong⟩, ih readable fits⟩

/-- One lookup whose answer was dealt with, and the rest of the batch. -/
theorem BatchDone.cons {x : OrderExecution} {rest : List OrderExecution}
    {prepared : PreparedExchangeRequest} {reply : HttpReply}
    {lookups : List (PreparedExchangeRequest × HttpReply)} {item : TestnetOrderReconciliationItem}
    {items : List TestnetOrderReconciliationItem} {before between after : Db}
    (looksUp : LooksUp py exchangeName x prepared)
    (answered : AnswerApplied py userId exchangeAccountId exchangeName reply before between)
    (failed : item.failureType.isSome = (reportedEvent py exchangeName reply).isNone)
    (done : BatchDone py userId exchangeAccountId exchangeName rest lookups items between after) :
    BatchDone py userId exchangeAccountId exchangeName (x :: rest) ((prepared, reply) :: lookups)
      (item :: items) before after := by
  refine ⟨.cons looksUp done.once, ?_, congrArg (· + 1) done.attempted, ?_⟩
  · rw [reportedEvents_cons, executionsReported_append, ← answered.executions]
    exact done.executions
  · unfold failedItems failedLookups
    rw [List.filter_cons, List.filter_cons, failed]
    split
    · exact congrArg (· + 1) done.failed
    · exact done.failed

/-- The executions an answer leaves are those that were stored. -/
theorem AnswerApplied.stored {reply : HttpReply} {before after : Db} {pending : List OrderExecution}
    (answered : AnswerApplied py userId exchangeAccountId exchangeName reply before after)
    (stored : ∀ x ∈ pending, ∃ y ∈ before.executions, SameOrder y x) :
    ∀ x ∈ pending, ∃ y ∈ after.executions, SameOrder y x := by
  intro x mem
  obtain ⟨y, hy, same⟩ := stored x mem
  rw [answered.executions]
  obtain ⟨y', hy', same'⟩ := sameOrder_executionsReported hy
  exact ⟨y', hy', same'.trans same⟩

/-- The run lemma: along the pending executions, the batch goes on as long as the answers can be
dealt with, and the first other one ends it. -/
theorem batch_of_run {outcome : Except Exc (List TestnetOrderReconciliationItem)} {s' : Session}
    {w' : World} {events : List (Event backend)} {pending : List OrderExecution}
    (supported : exchangeName ≠ .mock) (signs : pending ≠ [] → client.Signs credentials)
    (sees : s.SeesCommitted w.db) (stored : ∀ x ∈ pending, ∃ y ∈ w.db.executions, SameOrder y x)
    (saved : ∀ row ∈ w.db.executions, row.id ≠ "")
    (ran : Prog.Run semantics
      (reconcileExecutions py userId exchangeAccountId exchangeName credentials client
        (pending.map (·.id)) s) w events (.done (outcome, s')) w') :
    w'.db.auditLogs = w.db.auditLogs ∧
      (AnswersTaken py userId exchangeAccountId exchangeName (lookupsOf events) w.db.executions ∧
          s'.SeesCommitted w'.db ∧ (∃ items, outcome = .ok items ∧
            BatchDone py userId exchangeAccountId exchangeName pending (lookupsOf events) items
              w.db w'.db) ∨
        ¬ AnswersTaken py userId exchangeAccountId exchangeName (lookupsOf events)
            w.db.executions ∧ ∃ raised, outcome = .error raised) := by
  induction pending generalizing s w events outcome with
  | nil =>
    rcases ran.first with ⟨rfl, ended, rfl⟩ | ⟨_, _, _, _, _, step, _⟩
    · cases Prog.done.inj ended
      refine ⟨rfl, .inl ⟨True.intro, sees, [], rfl, ?_⟩⟩
      exact ⟨.nil, rfl, rfl, rfl⟩
    · cases step
  | cons x rest ih =>
    have signed := signs (List.cons_ne_nil x rest)
    obtain ⟨y, hy, same⟩ := stored x List.mem_cons_self
    have hid : y.id = x.id := congrArg OrderExecution.Key.id same.key
    rw [List.map_cons, ← hid] at ran
    rcases split_bind ran with
      ⟨item, s₁, w₁, front, back, rfl, ran₁, later⟩ | ⟨raised, s₁, heq, ran₁⟩
    · obtain ⟨prepared, reply, lookups, looksUp, answered, ⟨taken, sees₁, item', hitem, failed⟩ |
        ⟨-, _, hitem⟩⟩ := lookup_of_run supported signed sees hy saved ran₁
      · cases hitem
        have stored₁ := answered.stored fun z hz => stored z (List.mem_cons_of_mem x hz)
        have goesOn : AnswersTaken py userId exchangeAccountId exchangeName
            ((prepared, reply) :: lookupsOf back) w.db.executions ↔
              AnswersTaken py userId exchangeAccountId exchangeName (lookupsOf back)
                w₁.db.executions := by
          rw [answered.executions]
          exact and_iff_right taken
        rw [lookupsOf_append, lookups, List.singleton_append, goesOn]
        rcases split_bind later with
          ⟨items, s₂, w₂, front', back', rfl, ran₂, ends⟩ | ⟨raised, s₂, heq, ran₂⟩
        · rcases ends.first with ⟨rfl, ended, rfl⟩ | ⟨_, _, _, _, _, step, _⟩
          · cases Prog.done.inj ended
            rw [List.append_nil]
            obtain ⟨auditLogs, ⟨others, sees', items', hitems, done⟩ | ⟨-, _, hitems⟩⟩ :=
              ih (fun _ => signed) sees₁ stored₁ answered.saved ran₂
            · cases hitems
              have first := looksUp.of_sameOrder same
              exact ⟨auditLogs.trans answered.auditLogs,
                .inl ⟨others, sees', _, rfl, done.cons first answered failed⟩⟩
            · cases hitems
          · cases step
        · cases heq
          obtain ⟨auditLogs, ⟨-, -, _, hitems, -⟩ | ⟨other, -⟩⟩ :=
            ih (fun _ => signed) sees₁ stored₁ answered.saved ran₂
          · cases hitems
          · exact ⟨auditLogs.trans answered.auditLogs, .inr ⟨other, raised, rfl⟩⟩
      · cases hitem
    · cases heq
      obtain ⟨prepared, reply, lookups, -, answered, ⟨-, -, _, hitem, -⟩ | ⟨other, -⟩⟩ :=
        lookup_of_run supported signed sees hy saved ran₁
      · cases hitem
      · rw [lookups]
        exact ⟨answered.auditLogs,
          .inr ⟨fun all => other all.1, raised, rfl⟩⟩

theorem alone_unsigned_batch {pending : List OrderExecution} (unsigned : ¬ client.Signs credentials)
    (sees : s.SeesCommitted w.db) (stored : ∀ x ∈ pending, x ∈ w.db.executions) :
    Alone semantics (fun e => sendsNothing e = true)
      (reconcileExecutions py userId exchangeAccountId exchangeName credentials client
        (pending.map (·.id)))
      (fun _ s' w' => s'.SeesCommitted w'.db ∧ w'.db = w.db) s w := by
  induction pending generalizing s w with
  | nil => exact ⟨sees, rfl⟩
  | cons x rest ih =>
    rw [List.map_cons]
    unfold reconcileExecutions
    refine Alone.bind (alone_unsigned unsigned sees (stored x List.mem_cons_self)) ?_
      fun _ _ _ kept => kept
    rintro item s' w' ⟨sees', same⟩
    refine Alone.bind (ih sees' fun z hz => ?_) ?_ fun _ _ _ kept => ⟨kept.1, kept.2.trans same⟩
    · rw [same]
      exact stored z (List.mem_cons_of_mem _ hz)
    · exact fun items s'' w'' kept => ⟨kept.1, kept.2.trans same⟩

end

/-! ### Around the batch -/

section

variable {py : Platform} {userId exchangeAccountId : String} {account : ExchangeAccount}
  {credentials : ExchangeCredentials} {s : Session} {w : World}

/-- The account passes the checks of a reconciliation, and its keys can be read. -/
structure MayReconcile (py : Platform) (userId exchangeAccountId : String)
    (account : ExchangeAccount) (credentials : ExchangeCredentials) (db : Db) : Prop where
  stored : account ∈ db.accounts
  id : account.id = exchangeAccountId
  owned : account.userId = userId
  allowed : reconciliationBlocked (some account) = .ok account
  keys : ∃ secret, secretOf userId exchangeAccountId db = some secret ∧
    secret.credentials py = .ok credentials

/-- The checks, and the query of the pending executions. -/
def openBatch (py : Platform) (userId exchangeAccountId : String) :
    Service (ExchangeAccount × ExchangeCredentials × SignedExchangeHttpClient ×
      List OrderExecution) := do
  let owned ← getOwnedAccount userId exchangeAccountId
  let account ← Handler.ofExcept (reconciliationBlocked owned)
  match ← getExchangeCredentials py userId exchangeAccountId with
  | none => throw (.reconciliationBlocked "testnet API credentials are not configured")
  | some credentials =>
    let client ← createTestnetSignedHttpClient account.exchangeName
    let rows ← Session.query (pendingExecutions userId exchangeAccountId)
    holdExecutions rows
    return (account, credentials, client, rows)

/-- The result of a batch. -/
def batchResult (exchangeAccountId : String) (items : List TestnetOrderReconciliationItem) :
    TestnetOrderReconciliationResult :=
  { exchangeAccountId, attempted := items.length
    transitioned := (items.filter fun item => item.lifecycleResult.any (·.transitioned)).length
    failed := (failedItems items).length, items }

/-- The audit row is written last. -/
def closeBatch (userId exchangeAccountId : String) (exchangeName : ExchangeName)
    (items : List TestnetOrderReconciliationItem) : Service TestnetOrderReconciliationResult := do
  writeReconciliationAudit userId exchangeName (batchResult exchangeAccountId items)
  return batchResult exchangeAccountId items

theorem reconcilePendingTestnetOrders_eq :
    reconcilePendingTestnetOrders py userId exchangeAccountId =
      (do
        let opened ← openBatch py userId exchangeAccountId
        let items ← reconcileExecutions py userId exchangeAccountId opened.1.exchangeName
          opened.2.1 opened.2.2.1 (opened.2.2.2.map (·.id))
        closeBatch userId exchangeAccountId opened.1.exchangeName items) := by
  unfold reconcilePendingTestnetOrders openBatch closeBatch
  simp only [bind_assoc]
  refine bind_congr fun owned => bind_congr fun account => bind_congr fun credentials => ?_
  cases credentials with
  | none => rfl
  | some credentials =>
    simp only [bind_assoc, pure_bind]
    rfl

theorem alone_holdExecutions {Each : Event backend → Prop} {rows : List OrderExecution}
    (sees : s.SeesCommitted w.db) (stored : ∀ x ∈ rows, x ∈ w.db.executions) :
    Alone semantics Each (holdExecutions rows)
      (fun outcome s' w' => outcome = .ok () ∧ s'.SeesCommitted w'.db ∧ w' = w) s w := by
  induction rows generalizing s with
  | nil => exact ⟨rfl, sees, rfl⟩
  | cons x rest ih =>
    unfold holdExecutions
    rw [alone_bind, alone_discard]
    refine alone_holdExecution_committed sees (stored x List.mem_cons_self) fun s' holds => ?_
    exact ih holds.toSeesCommitted fun z hz => stored z (List.mem_cons_of_mem _ hz)

/-- The mock exchange has no lookup. -/
theorem MayReconcile.supported {db : Db}
    (may : MayReconcile py userId exchangeAccountId account credentials db) :
    account.exchangeName ≠ .mock := by
  intro mock
  have allowed := may.allowed
  unfold reconciliationBlocked at allowed
  simp only [mock, if_true] at allowed
  split at allowed
  · cases allowed
  · split at allowed
    · cases allowed
    · cases allowed

theorem alone_openBatch (may : MayReconcile py userId exchangeAccountId account credentials w.db) :
    Alone semantics (fun e => sendsNothing e = true) (openBatch py userId exchangeAccountId)
      (fun outcome s' w' => s'.SeesCommitted w'.db ∧ w'.db = w.db ∧ ∃ client,
        client.exchangeName = account.exchangeName ∧ outcome =
          .ok (account, credentials, client, pendingExecutions userId exchangeAccountId w.db))
      {} w := by
  have fresh := Session.SeesCommitted.fresh w.db
  unfold openBatch
  refine Alone.bind (looks_getOwnedAccount fresh.accounts) ?_ ?_
  · rintro owned s₁ w₁ ⟨found, looked₁⟩
    have own : owned = some account := by
      rcases found with ⟨-, none⟩ | ⟨row, stored, hid, -, heq⟩
      · exact absurd ⟨may.id, may.owned⟩ (none account may.stored)
      · cases heq
        exact congrArg some (Table.eq_of_conflict stored may.stored (hid.trans may.id.symm))
    subst own
    have sees₁ := fresh.looked looked₁
    rw [may.allowed, alone_bind, alone_ofExcept, andThen_ok]
    refine Alone.bind (looks_getExchangeCredentials sees₁.secrets) ?_ ?_
    · rintro found s₂ w₂ ⟨heq, looked₂⟩
      obtain ⟨secret, hsecret, keys⟩ := may.keys
      rw [looked₁.db, hsecret] at heq
      dsimp only at heq
      rw [keys] at heq
      cases heq
      have sees₂ := sees₁.looked looked₂
      have same := looked₂.db.trans looked₁.db
      obtain ⟨client, made, named⟩ : ∃ client, createTestnetSignedHttpClient account.exchangeName =
          pure client ∧ client.exchangeName = account.exchangeName := by
        unfold createTestnetSignedHttpClient
        cases hname : account.exchangeName with
        | mock => exact absurd hname may.supported
        | binance | bybit | okx => exact ⟨_, rfl, rfl⟩
      dsimp only
      rw [made, pure_bind, alone_bind, alone_query, andThen_ok, alone_bind]
      refine Alone.mono (alone_holdExecutions sees₂ fun x hx => (List.mem_filter.mp hx).1) ?_
      rintro outcome s₃ w₃ ⟨rfl, sees₃, rfl⟩
      rw [same]
      exact ⟨same ▸ sees₃, same, client, named, rfl⟩
    · rintro raised s₂ w₂ ⟨heq, -⟩
      obtain ⟨secret, hsecret, keys⟩ := may.keys
      rw [looked₁.db, hsecret] at heq
      dsimp only at heq
      rw [keys] at heq
      cases heq
  · rintro raised s₁ w₁ ⟨⟨heq, -⟩ | ⟨_, _, _, _, heq⟩, -⟩
    · cases heq
    · cases heq

/-- The audit row of a batch. -/
structure Audited (userId exchangeAccountId : String) (attempted failed : Nat) (before after : Db) :
    Prop where
  row : ∃ log, after.auditLogs.rows = before.auditLogs.rows ++ [log] ∧
    log.userId = userId ∧ log.exchangeAccountId = some exchangeAccountId ∧
    log.action = reconciliationAction ∧
    log.payload.lookup "attempted" = some (.int attempted) ∧
    log.payload.lookup "failed" = some (.int failed)

/-- The ids that are drawn are new to the audit trail. -/
def DrawsFresh (events : List (Event backend)) (db : Db) : Prop :=
  ∀ id before after, (.call .newUuid id before after : Event backend) ∈ events →
    ∀ log ∈ db.auditLogs, log.id ≠ id

theorem DrawsFresh.back {front back : List (Event backend)} {db db' : Db}
    (fresh : DrawsFresh (front ++ back) db) (same : db'.auditLogs = db.auditLogs) :
    DrawsFresh back db' := by
  intro id before after he log hlog
  rw [same] at hlog
  exact fresh id before after (List.mem_append_right _ he) log hlog

/-- A log with an id of its own is stored, and nothing else. -/
theorem alone_storeLog {α : Type} {log : AuditLog} {result : α} (sees : s.SeesCommitted w.db)
    (fresh : ∀ old ∈ w.db.auditLogs, old.id ≠ log.id) :
    Alone semantics (fun e => sendsNothing e = true)
      (do
        Session.add fun work => { work with auditLogs := work.auditLogs ++ [log] }
        Session.commit
        return result)
      (fun _ _ w' => w'.db.executions = w.db.executions ∧
        w'.db.auditLogs.rows = w.db.auditLogs.rows ++ [log]) s w := by
  obtain ⟨work, executions, accounts, secrets⟩ := s
  have clean : work = {} := sees.work
  subst clean
  rw [alone_bind, alone_add, andThen_ok, alone_bind, alone_commit]
  constructor
  · intro after flushed
    have written := Work.written_of_flush (World.flush_ok flushed).1 rfl
    refine ⟨rfl, ?_, Table.rows_insertAll written.auditLogs⟩
    have kept : w.db.executions.writeBack executions = w.db.executions := by
      refine Table.ext ((List.map_congr_left fun row _ => ?_).trans (List.map_id _))
      exact updated_executions (fun x hx => (sees.executions x hx).1) row
    have same := written.executions
    dsimp only [Session.pending] at same
    rw [kept, Table.insertAll_nil] at same
    exact (Option.some.inj same).symm
  · intro fault refused
    obtain ⟨after, flushed⟩ := flush_auditLog accounts executions log fresh
    cases refused.symm.trans flushed

def reconciliationLog (userId : String) (exchangeName : ExchangeName)
    (result : TestnetOrderReconciliationResult) (id : String) (createdAt : Instant) : AuditLog where
  id := id
  userId := userId
  exchangeAccountId := some result.exchangeAccountId
  action := reconciliationAction
  severity := if result.failed = 0 then "INFO" else "WARNING"
  payload :=
    [("exchange_name", .str exchangeName.value), ("account_mode", .str AccountMode.testnet.value),
      ("attempted", .int result.attempted), ("transitioned", .int result.transitioned),
      ("failed", .int result.failed)]
  createdAt := createdAt

theorem closeBatch_eq {exchangeName : ExchangeName} {items : List TestnetOrderReconciliationItem} :
    closeBatch userId exchangeAccountId exchangeName items =
      (do
        let id ← ask .newUuid
        let createdAt ← ask .utcNow
        Session.add fun work =>
          { work with
            auditLogs := work.auditLogs ++
              [reconciliationLog userId exchangeName (batchResult exchangeAccountId items) id
                createdAt] }
        Session.commit
        return batchResult exchangeAccountId items) := by
  unfold closeBatch writeReconciliationAudit
  simp only [bind_assoc]
  rfl

/-- Closing the batch sends nothing and stores the one row. -/
theorem closed_of_run {exchangeName : ExchangeName} {items : List TestnetOrderReconciliationItem}
    {outcome : Except Exc TestnetOrderReconciliationResult × Session} {w' : World}
    {events : List (Event backend)} (sees : s.SeesCommitted w.db)
    (fresh : DrawsFresh events w.db)
    (ran : Prog.Run semantics (closeBatch userId exchangeAccountId exchangeName items s) w events
      (.done outcome) w') :
    lookupsOf events = [] ∧ w'.db.executions = w.db.executions ∧
      Audited userId exchangeAccountId items.length (failedItems items).length w.db w'.db := by
  rw [closeBatch_eq] at ran
  obtain ⟨id, w₁, rest, rfl, answers, ran₁⟩ := Prog.Run.split_call ran
  obtain ⟨createdAt, w₂, rest', rfl, answers', ran₂⟩ := Prog.Run.split_call ran₁
  have same : w₂.db = w.db :=
    (@db_eq_of_call _ createdAt _ _ answers').trans (@db_eq_of_call _ id _ _ answers)
  have own := fresh id w w₁ List.mem_cons_self
  rw [← same] at own sees
  have stores : Alone semantics (fun e => sendsNothing e = true)
      (do
        Session.add fun work =>
          { work with
            auditLogs := work.auditLogs ++
              [reconciliationLog userId exchangeName (batchResult exchangeAccountId items) id
                createdAt] }
        Session.commit
        return batchResult exchangeAccountId items) _ s w₂ := alone_storeLog sees own
  obtain ⟨quiet, executions, auditLogs⟩ := Prog.Run.of_alone ran₂ stores
  have none : lookupsOf rest' = [] := lookupsOf_quiet quiet
  rw [same] at executions auditLogs
  exact ⟨none, executions, ⟨_, auditLogs, rfl, rfl, rfl, rfl, rfl⟩⟩

end

/-! ### The guarantee -/

/-- Every pending execution is looked up once, the executions end where the usable answers alone
take them, and one audit row counts the lookups and the failures. -/
structure Isolates (py : Platform) (userId exchangeAccountId : String)
    (exchangeName : ExchangeName) (lookups : List (PreparedExchangeRequest × HttpReply))
    (before after : Db) : Prop where
  once : List.Forall₂ (fun x lookup => LooksUp py exchangeName x lookup.1)
    (pendingExecutions userId exchangeAccountId before) lookups
  executions : after.executions =
    executionsReported userId exchangeAccountId (reportedEvents py exchangeName lookups)
      before.executions
  audited : Audited userId exchangeAccountId (pendingExecutions userId exchangeAccountId before).length
    (failedLookups py exchangeName lookups).length before after

section

variable {py : Platform} {userId exchangeAccountId : String} {account : ExchangeAccount}
  {credentials : ExchangeCredentials} {client : SignedExchangeHttpClient} {s : Session} {w w' : World}
  {outcome : Except Exc TestnetOrderReconciliationResult × Session} {events : List (Event backend)}

/-- Behind the checks, with requests that can be signed, the answers decide. -/
theorem isolates_iff_of_signed (supported : account.exchangeName ≠ .mock)
    (signs : pendingExecutions userId exchangeAccountId w.db ≠ [] → client.Signs credentials)
    (sees : s.SeesCommitted w.db) (saved : ∀ row ∈ w.db.executions, row.id ≠ "")
    (fresh : DrawsFresh events w.db)
    (ran : Prog.Run semantics
      ((reconcileExecutions py userId exchangeAccountId account.exchangeName credentials client
        ((pendingExecutions userId exchangeAccountId w.db).map (·.id)) >>= fun items =>
          closeBatch userId exchangeAccountId account.exchangeName items) s) w events
      (.done outcome) w') :
    Isolates py userId exchangeAccountId account.exchangeName (lookupsOf events) w.db w'.db ↔
      AnswersTaken py userId exchangeAccountId account.exchangeName (lookupsOf events)
        w.db.executions := by
  have stored : ∀ x ∈ pendingExecutions userId exchangeAccountId w.db,
      ∃ y ∈ w.db.executions, SameOrder y x :=
    fun x hx => ⟨x, (List.mem_filter.mp hx).1, .refl x⟩
  rcases split_bind ran with
    ⟨items, s₁, w₁, front, back, rfl, ran₁, closes⟩ | ⟨raised, s₁, -, ran₁⟩
  · obtain ⟨auditLogs, ⟨taken, sees₁, _, hitems, done⟩ | ⟨-, _, hitems⟩⟩ :=
      batch_of_run supported signs sees stored saved ran₁
    · cases hitems
      obtain ⟨nothing, executions, ⟨log, logged, audit⟩⟩ :=
        closed_of_run sees₁ (fresh.back auditLogs) closes
      rw [lookupsOf_append, nothing, List.append_nil]
      refine iff_of_true ⟨done.once, ?_, ⟨log, ?_, ?_⟩⟩ taken
      · rw [executions, done.executions]
      · rw [logged, auditLogs]
      · rw [done.attempted, done.failed] at audit
        exact audit
    · cases hitems
  · obtain ⟨auditLogs, ⟨-, -, _, hitems, -⟩ | ⟨other, -⟩⟩ :=
      batch_of_run supported signs sees stored saved ran₁
    · cases hitems
    · refine iff_of_false ?_ other
      rintro ⟨-, -, ⟨log, logged, -⟩⟩
      rw [auditLogs] at logged
      simpa using congrArg List.length logged

/-- Without a signature nothing is looked up. -/
theorem lookupsOf_unsigned (unsigned : ¬ client.Signs credentials) (sees : s.SeesCommitted w.db)
    (fresh : DrawsFresh events w.db)
    (ran : Prog.Run semantics
      ((reconcileExecutions py userId exchangeAccountId account.exchangeName credentials client
        ((pendingExecutions userId exchangeAccountId w.db).map (·.id)) >>= fun items =>
          closeBatch userId exchangeAccountId account.exchangeName items) s) w events
      (.done outcome) w') : lookupsOf events = [] := by
  have batch : Alone semantics (fun e => sendsNothing e = true)
      (reconcileExecutions py userId exchangeAccountId account.exchangeName credentials client
        ((pendingExecutions userId exchangeAccountId w.db).map (·.id)))
      (fun _ s' w' => s'.SeesCommitted w'.db ∧ w'.db = w.db) s w :=
    alone_unsigned_batch unsigned sees fun x hx => (List.mem_filter.mp hx).1
  rcases split_bind ran with
    ⟨items, s₁, w₁, front, back, rfl, ran₁, closes⟩ | ⟨raised, s₁, -, ran₁⟩
  · obtain ⟨quiet, sees₁, same⟩ := ran₁.of_alone batch
    have fresh₁ := fresh.back (congrArg Db.auditLogs same)
    rw [lookupsOf_append, lookupsOf_quiet quiet, (closed_of_run sees₁ fresh₁ closes).1,
      List.append_nil]
  · exact lookupsOf_quiet (ran₁.of_alone batch).1

end

/-- A reconciliation isolates failures exactly if every answer it gets can be read and is taken by
the database, and, when there is anything to look up, its requests can be signed. -/
theorem reconciliation_isolates_iff {py : Platform} {userId exchangeAccountId : String}
    {account : ExchangeAccount} {credentials : ExchangeCredentials} {w w' : World}
    {outcome : Except Exc TestnetOrderReconciliationResult × Session}
    {trace : List (Event backend)}
    (may : MayReconcile py userId exchangeAccountId account credentials w.db)
    (saved : ∀ row ∈ w.db.executions, row.id ≠ "")
    (fresh : DrawsFresh trace w.db)
    (ran : Prog.Run semantics (reconcilePendingTestnetOrders py userId exchangeAccountId).run w
      trace (.done outcome) w') :
    Isolates py userId exchangeAccountId account.exchangeName (lookupsOf trace) w.db w'.db ↔
      (pendingExecutions userId exchangeAccountId w.db ≠ [] → account.exchangeName = .okx →
          credentials.passphrase.isSome) ∧
        AnswersTaken py userId exchangeAccountId account.exchangeName (lookupsOf trace)
          w.db.executions := by
  rw [reconcilePendingTestnetOrders_eq] at ran
  rcases split_bind ran with
    ⟨opened, s₁, w₁, front, back, rfl, opens, rest⟩ | ⟨raised, s₁, -, opens⟩
  · obtain ⟨quiet, sees, same, client, named, heq⟩ := opens.of_alone (alone_openBatch may)
    cases heq
    have signs : client.Signs credentials ↔
        (account.exchangeName = .okx → credentials.passphrase.isSome) := by
      unfold SignedExchangeHttpClient.Signs
      rw [named]
      exact and_iff_right may.supported
    have freshBack := fresh.back (congrArg Db.auditLogs same)
    rw [lookupsOf_append, lookupsOf_quiet quiet, List.nil_append, ← signs, ← same]
    rw [← same] at saved rest
    by_cases signed :
      pendingExecutions userId exchangeAccountId w₁.db ≠ [] → client.Signs credentials
    · rw [and_iff_right signed]
      exact isolates_iff_of_signed may.supported signed sees saved freshBack rest
    · obtain ⟨some, unsigned⟩ := Classical.not_imp.mp signed
      rw [lookupsOf_unsigned unsigned sees freshBack rest]
      refine iff_of_false (fun isolates => ?_) fun both => signed both.1
      exact some (List.forall₂_nil_right_iff.mp isolates.once)
  · obtain ⟨-, -, -, client, -, heq⟩ := opens.of_alone (alone_openBatch may)
    cases heq

/-- Two orders are pending. -/
def reconciledWorld : World :=
  { db :=
      { accounts := oneRow { sampleAccount .testnet with tradingEnabled := false }
        secrets := oneRow sampleSecret, executions := twoOrdersWorld.db.executions } }

theorem reconciledWorld_may : MayReconcile asciiPlatform "u" "a"
    { sampleAccount .testnet with tradingEnabled := false }
    ⟨"key", "secret", some "passphrase"⟩ reconciledWorld.db where
  stored := List.mem_cons_self
  id := rfl
  owned := rfl
  allowed := rfl
  keys := ⟨sampleSecret, rfl, rfl⟩

def reconciledRun (reply : HttpReply) : Trace backend Unit × Config backend fun _ : Unit =>
    Except Exc TestnetOrderReconciliationResult × Session :=
  Exchange.serving ⟨true, reply⟩ (reconcilePendingTestnetOrders asciiPlatform "u" "a").run
    reconciledWorld 60

theorem reconciledRun_run (reply : HttpReply) :
    Prog.Run semantics (reconcilePendingTestnetOrders asciiPlatform "u" "a").run reconciledWorld
      ((reconciledRun reply).1.map Prod.snd) ((reconciledRun reply).2.client ())
      (reconciledRun reply).2.store :=
  Exchange.serving_run _ _ _ _

/-- The exchange is not available for either lookup. -/
theorem reconciliation_isolates_iff_unavailable :
    ∃ trace outcome w', Prog.Run semantics
        (reconcilePendingTestnetOrders asciiPlatform "u" "a").run reconciledWorld trace
        (.done outcome) w' ∧
      Isolates asciiPlatform "u" "a" .binance (lookupsOf trace) reconciledWorld.db w'.db := by
  obtain ⟨result, returns⟩ : ∃ result, returned
      ((reconciledRun (.httpError 503 none)).2.client ()) = some result :=
    Option.isSome_iff_exists.mp (by decide +kernel)
  obtain ⟨s, done⟩ := done_of_returned returns
  have ran := reconciledRun_run (.httpError 503 none)
  rw [done] at ran
  have readable : ∀ lookup ∈ lookupsOf ((reconciledRun (.httpError 503 none)).1.map Prod.snd),
      lookup.2.isReadable = true := by decide +kernel
  have nothing : ∀ lookup ∈ lookupsOf ((reconciledRun (.httpError 503 none)).1.map Prod.snd),
      (reportedEvent asciiPlatform .binance lookup.2).isNone := by decide +kernel
  have taken : AnswersTaken asciiPlatform "u" "a" .binance
      (lookupsOf ((reconciledRun (.httpError 503 none)).1.map Prod.snd))
      reconciledWorld.db.executions := by
    refine .of_fits readable fun lookup asked event reported => ?_
    rw [Option.isNone_iff_eq_none.mp (nothing lookup asked)] at reported
    cases reported
  exact ⟨_, _, _, ran, (reconciliation_isolates_iff reconciledWorld_may twoOrdersWorld_saved
    (fun _ _ _ _ _ h => (List.not_mem_nil h).elim) ran).mpr ⟨fun _ h => (nomatch h), taken⟩⟩

/-- A body that is an array ends the batch: one of two orders is looked up, and nothing is
recorded. -/
theorem array_body_ends_reconciliation :
    (pendingExecutions "u" "a" reconciledWorld.db).length = 2 ∧
      ∃ trace s w', Prog.Run semantics
        (reconcilePendingTestnetOrders asciiPlatform "u" "a").run reconciledWorld trace
        (.done (.error .attributeError, s)) w' ∧
      (lookupsOf trace).length = 1 ∧ w'.db.auditLogs.rows.length = 0 ∧
      ¬ Isolates asciiPlatform "u" "a" .binance (lookupsOf trace) reconciledWorld.db w'.db := by
  have two : (pendingExecutions "u" "a" reconciledWorld.db).length = 2 := by decide +kernel
  have raises : raised ((reconciledRun (.payload (some (.arr [])))).2.client ()) =
      some .attributeError := by decide +kernel
  obtain ⟨s, done⟩ := done_of_raised raises
  have ran := reconciledRun_run (.payload (some (.arr [])))
  rw [done] at ran
  have one : (lookupsOf ((reconciledRun (.payload (some (.arr [])))).1.map Prod.snd)).length = 1 := by
    decide +kernel
  refine ⟨two, _, s, _, ran, one, by decide +kernel, fun isolates => ?_⟩
  have same := isolates.once.length_eq
  rw [two, one] at same
  cases same

end CopyTrading
