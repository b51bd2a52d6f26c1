import Mathlib.Algebra.Order.BigOperators.Group.Finset
import CopyTrading.TestnetOrder.OrderWindows

/-!
What one approval of an order window lets through. Approvals and submissions run interleaved; an
approval is a row of the audit log that every submission reads again, so it bounds each order
that is sent under it, and not their number.
-/

namespace CopyTrading

open Transaction Transaction.Handler DecimalArith

variable {ι κ : Type} {py : Platform} {requests : ι → SubmitRequest}

/-! ### Approvals among the submissions -/

/-- The arguments of one approval. -/
structure ApproveRequest where
  userId : String
  role : UserRole
  payload : TestnetOrderWindowApprovalRequest
  testnetAdaptersEnabled : Bool

def ApproveRequest.service (req : ApproveRequest) : Service TestnetOrderWindowApproval :=
  approveTestnetOrderWindow req.userId req.role req.payload req.testnetAdaptersEnabled

/-- Submissions and approvals that start on a committed database, each in a session of its
own. -/
def windowing (py : Platform) (requests : ι → SubmitRequest) (approvals : κ → ApproveRequest)
    (world : World) :
    Config backend (Sum.elim (fun _ : ι => Except Exc TestnetOrderSubmitResponse × Session)
      fun _ : κ => Except Exc TestnetOrderWindowApproval × Session) where
  store := world
  client
    | .inl i => ((requests i).service py).run
    | .inr k => (approvals k).service.run

/-- Only rows of the audit log are added. -/
structure Work.AddsLogs (work : Work) : Prop where
  executions : work.executions = []
  executionChanges : work.executionChanges = []
  riskSettings : work.riskSettings = []
  riskSettingChanges : work.riskSettingChanges = []
  signals : work.signals = []
  stop : work.stop = none

/-- An approval asks no exchange and adds to the audit log. -/
abbrev approvalProtocol : Protocol backend where
  Phase := Unit
  Move _ e _ := asksNoExchange e = true ∨
    ∃ work before after, e = .commit work before after ∧ work.AddsLogs

theorem recordApproval_follows (req : ApproveRequest) :
    Follows approvalProtocol semantics
      (recordTestnetOrderWindowApproval req.userId req.role req.payload req.testnetAdaptersEnabled)
      (fun _ _ _ => True) {} () := by
  unfold recordTestnetOrderWindowApproval
  refine follows_getOwnedAccount_bind rfl (fun world => ⟨(), .inl rfl, True.intro⟩)
    fun world account stored id user => ⟨(), .inl rfl, ?_⟩
  refine follows_query_bind.mpr fun world => ⟨(), .inl rfl, ?_⟩
  -- what follows is the same with and without a stored key
  refine follows_getApiKeySecretMetadata_bind rfl (fun world => ⟨(), .inl rfl, ?_⟩)
    fun world secret _ _ _ => ⟨(), .inl rfl, ?_⟩
  all_goals
    refine follows_raiseIf_bind (fun _ => True.intro) fun _ => ?_
    refine follows_ask_bind.mpr fun _ _ _ _ => ⟨(), .inl rfl, ?_⟩
    refine follows_ask_bind.mpr fun _ _ _ _ => ⟨(), .inl rfl, ?_⟩
    refine follows_add_bind.mpr (follows_commit_bind.mpr ⟨fun before after _ => ?_, fun _ _ _ => ?_⟩)
    · exact ⟨(), .inr ⟨_, before, after, rfl, by constructor <;> rfl⟩, True.intro⟩
    · exact ⟨(), .inl rfl, True.intro⟩

theorem approve_follows (req : ApproveRequest) :
    Follows approvalProtocol semantics req.service (fun _ _ _ => True) {} () := by
  refine Follows.tryCatch (fun _ _ _ => True) (recordApproval_follows req)
    (fun _ _ _ _ => True.intro) fun raised s' m' _ => ?_
  by_cases value : raised.isValueError = true
  · rw [if_pos value]
    exact True.intro
  · rw [if_neg value]
    split <;> exact True.intro

/-- The protocols of all requests. -/
abbrev windowProtocol (py : Platform) (requests : ι → SubmitRequest) : ι ⊕ κ → Protocol backend
  | .inl i => submitProtocol py (requests i)
  | .inr _ => approvalProtocol

/-- The phases at the start. -/
def windowStart : ∀ j : ι ⊕ κ, (windowProtocol py requests j).Phase
  | .inl _ => .start
  | .inr _ => ()

/-- What a request leaves behind. -/
def windowEnd : ∀ j : ι ⊕ κ, Sum.elim (fun _ : ι => Except Exc TestnetOrderSubmitResponse × Session)
    (fun _ : κ => Except Exc TestnetOrderWindowApproval × Session) j →
      (windowProtocol py requests j).Phase → Prop
  | .inl i => fun outcome stage =>
      Ending (fun response _ stage => SubmitReturns py (requests i) response stage) outcome.1
        outcome.2 stage
  | .inr _ => fun _ _ => True

theorem windowing_tracked [DecidableEq ι] [DecidableEq κ] {approvals : κ → ApproveRequest}
    {world : World} {trace : Trace backend (ι ⊕ κ)}
    {c : Config backend (Sum.elim (fun _ : ι => Except Exc TestnetOrderSubmitResponse × Session)
      fun _ : κ => Except Exc TestnetOrderWindowApproval × Session)}
    (run : Config.Run semantics (windowing py requests approvals world) trace c) :
    ∃ phases, Protocol.Run (windowProtocol py requests) semantics windowStart world trace phases
      c.store := by
  have follows : ∀ j, ((windowing py requests approvals world).client j).Follows
      (windowProtocol py requests j) semantics (windowEnd j) (windowStart j) := by
    intro j
    cases j with
    | inl i => exact submitTestnetOrder_follows py (requests i)
    | inr k => exact approve_follows (approvals k)
  obtain ⟨phases, tracked, -⟩ := run.tracked follows
  exact ⟨phases, tracked⟩

/-! ### What stands behind an order -/

/-- The database has lost no signal and no audit log. -/
structure Db.Grows (before after : Db) : Prop where
  signals : ∀ row ∈ before.signals, row ∈ after.signals
  auditLogs : ∀ row ∈ before.auditLogs, row ∈ after.auditLogs

theorem Db.Grows.of_eq {before after : Db} (same : after = before) : before.Grows after := by
  subst same
  exact ⟨fun _ h => h, fun _ h => h⟩

theorem Db.Grows.trans {first second third : Db} (grows : first.Grows second)
    (grows' : second.Grows third) : first.Grows third where
  signals row stored := grows'.signals row (grows.signals row stored)
  auditLogs row stored := grows'.auditLogs row (grows.auditLogs row stored)

theorem Work.Written.grows {work : Work} {before after : Db} (written : work.Written before after) :
    before.Grows after where
  signals _ stored := (Table.mem_insertAll written.signals).mpr (.inl stored)
  auditLogs _ stored := (Table.mem_insertAll written.auditLogs).mpr (.inl stored)

/-- The signal of the execution names the approval. -/
def NamesApproval (db : Db) (row : OrderExecution) (log : AuditLog) : Prop :=
  ∃ signal ∈ db.signals, signal.id = row.signalId ∧ signal.rawPayload = submissionPayload log.id

theorem NamesApproval.grow {before after : Db} {row : OrderExecution} {log : AuditLog}
    (names : NamesApproval before row log) (grows : before.Grows after) :
    NamesApproval after row log := by
  obtain ⟨signal, stored, id, payload⟩ := names
  exact ⟨signal, grows.signals _ stored, id, payload⟩

theorem submissionPayload_injective : Function.Injective submissionPayload := by
  intro a b same
  simpa [submissionPayload] using same

/-- The approval the request goes by is stored, and the signal of its row names it. -/
def SubmitStage.Backed {req : SubmitRequest} (db : Db) : SubmitStage py req → Prop
  | .windowed _ _ log | .authorized _ _ log _ => log ∈ db.auditLogs
  | .ready adm | .absent adm | .weighed adm _ => adm.log ∈ db.auditLogs
  | .submitted adm row | .held adm row _ | .failing adm row _ _ | .blocked adm row _ _
  | .sent adm row _ _ => adm.log ∈ db.auditLogs ∧ NamesApproval db row adm.log
  | _ => True

theorem SubmitStage.Backed.grow {req : SubmitRequest} {stage : SubmitStage py req}
    {before after : Db} (backed : stage.Backed before) (grows : before.Grows after) :
    stage.Backed after := by
  cases stage with
  | windowed | authorized | ready | absent | weighed => exact grows.auditLogs _ backed
  | submitted | held | failing | blocked | sent =>
    exact ⟨grows.auditLogs _ backed.1, backed.2.grow grows⟩
  | _ => exact True.intro

theorem SubmitEffect.grows {req : SubmitRequest} {stage stage' : SubmitStage py req}
    {e : Event backend} (effect : SubmitEffect stage stage' e) : e.before.db.Grows e.after.db := by
  cases effect with
  | keeps db => exact .of_eq db
  | writes flushed trading => exact (trading.written flushed).grows
  | creates flushed trading => exact (trading.written flushed).grows

theorem SubmitMove.backed {req : SubmitRequest} {stage stage' : SubmitStage py req}
    {e : Event backend} (move : SubmitMove py req stage e stage') (sound : e.Sound semantics)
    (settled : stage ≠ .lost) (backed : stage.Backed e.before.db) : stage'.Backed e.after.db := by
  have kept := backed.grow (move.effect sound settled).grows
  cases move with
  | wander => exact absurd rfl settled
  | idle | authorize | prepare | miss | weigh | hold | send | number | block => exact kept
  | window latest => exact (List.mem_filter.mp (mem_of_latestOf latest)).1
  | submit submission =>
    have written := submission.trading.written (World.flush_ok sound).1
    obtain ⟨signal, added, id, -, payload⟩ := submission.signal
    refine ⟨kept, signal, (Table.mem_insertAll written.signals).mpr (.inr ?_), id, payload⟩
    rw [added]
    exact List.mem_singleton_self _
  | _ => exact True.intro

/-- What was sent is the order of a recorded row, whose signal names the stored approval it was
admitted with. -/
def SentBacked {req : SubmitRequest} (db : Db) (stage : SubmitStage py req) : Prop :=
  ∃ (adm : Admission py req) (row : OrderExecution), SubmissionRow adm row ∧
    stage.row? = some row ∧ adm.log ∈ db.auditLogs ∧ NamesApproval db row adm.log

theorem SentBacked.step {req : SubmitRequest} {stage stage' : SubmitStage py req}
    {e : Event backend} (sent : SentBacked e.before.db stage)
    (effect : SubmitEffect stage stage' e) : SentBacked e.after.db stage' := by
  obtain ⟨adm, row, rowOf, hrow, log, names⟩ := sent
  exact ⟨adm, row, rowOf, effect.row_kept hrow, effect.grows.auditLogs _ log,
    names.grow effect.grows⟩

theorem SentBacked.grow {req : SubmitRequest} {stage : SubmitStage py req} {before after : Db}
    (sent : SentBacked before stage) (grows : before.Grows after) : SentBacked after stage := by
  obtain ⟨adm, row, rowOf, hrow, log, names⟩ := sent
  exact ⟨adm, row, rowOf, hrow, grows.auditLogs _ log, names.grow grows⟩

/-! ### Runs -/

/-- Nothing the submissions have established is in the audit log. -/
theorem SubmitInv.congr {db₀ before after : Db} {stages : ∀ i, SubmitStage py (requests i)}
    (inv : SubmitInv requests db₀ stages before) (executions : after.executions = before.executions)
    (riskSettings : after.riskSettings = before.riskSettings) :
    SubmitInv requests db₀ stages after where
  claims := executions ▸ inv.claims
  recorded := inv.recorded
  settings := riskSettings ▸ inv.settings
  notLost := inv.notLost
  weighed := riskSettings ▸ inv.weighed
  found := executions ▸ inv.found
  origin := executions ▸ inv.origin

/-- What holds of submissions among which approvals are recorded. -/
structure WindowInv (requests : ι → SubmitRequest) (db₀ : Db) (trace : Trace backend (ι ⊕ κ))
    (stages : ∀ i, SubmitStage py (requests i)) (db : Db) : Prop where
  submit : SubmitInv requests db₀ stages db
  grows : db₀.Grows db
  backed : ∀ i, (stages i).Backed db
  sent : ∀ i prepared, Sends trace (.inl i) prepared → SentBacked db (stages i)

namespace WindowInv

variable {db₀ : Db} {trace : Trace backend (ι ⊕ κ)} {stages : ∀ i, SubmitStage py (requests i)}
  {e : Event backend}

theorem start : WindowInv requests db₀ ([] : Trace backend (ι ⊕ κ))
    (fun i => (.start : SubmitStage py (requests i))) db₀ where
  submit := .start
  grows := .of_eq rfl
  backed _ := True.intro
  sent _ _ sent := by
    obtain ⟨_, _, _, mem⟩ := sent
    cases mem

/-- A submission makes a step. -/
theorem submits [DecidableEq ι] {i : ι} {stage' : SubmitStage py (requests i)}
    (inv : WindowInv requests db₀ trace stages e.before.db)
    (move : SubmitMove py (requests i) (stages i) e stage') (sound : e.Sound semantics) :
    WindowInv requests db₀ (trace ++ [(.inl i, e)]) (Function.update stages i stage')
      e.after.db := by
  have effect := move.effect sound (inv.submit.notLost i)
  constructor
  · exact inv.submit.step move sound
  · exact inv.grows.trans effect.grows
  · exact (Function.forall_update_iff stages fun _ stage => stage.Backed e.after.db).mpr
      ⟨move.backed sound (inv.submit.notLost i) (inv.backed i),
        fun j _ => (inv.backed j).grow effect.grows⟩
  · rintro j prepared ⟨reply, before, after, sent⟩
    rcases List.mem_append.mp sent with earlier | last
    · have known := inv.sent j prepared ⟨reply, before, after, earlier⟩
      by_cases same : j = i
      · subst same
        rw [Function.update_self]
        exact known.step effect
      · rw [Function.update_of_ne same]
        exact known.grow effect.grows
    · rw [List.mem_singleton] at last
      cases last
      rw [Function.update_self]
      have recorded := inv.submit.recorded i
      have backed := inv.backed i
      have notLost := inv.submit.notLost i
      generalize stages i = stage at move recorded backed notLost effect
      cases move with
      | idle quiet => cases quiet
      | wander => exact absurd rfl notLost
      | send =>
        refine SentBacked.grow ?_ effect.grows
        exact ⟨_, _, recorded, rfl, backed.1, backed.2⟩

/-- An approval makes a step. -/
theorem approves {k : κ} (inv : WindowInv requests db₀ trace stages e.before.db)
    (move : asksNoExchange e = true ∨
      ∃ work before after, e = .commit work before after ∧ work.AddsLogs)
    (sound : e.Sound semantics) :
    WindowInv requests db₀ (trace ++ [(.inr k, e)]) stages e.after.db := by
  have keeps : e.after.db.executions = e.before.db.executions ∧
      e.after.db.riskSettings = e.before.db.riskSettings ∧ e.before.db.Grows e.after.db := by
    rcases move with quiet | ⟨work, before, after, rfl, adds⟩
    · have same := after_eq_of_idle (isIdle_of_asksNoExchange quiet) sound
      rw [same]
      exact ⟨rfl, rfl, .of_eq rfl⟩
    · have written := Work.written_of_flush (World.flush_ok sound).1 adds.stop
      have executions := written.executions
      have riskSettings := written.riskSettings
      rw [adds.executions, adds.executionChanges, Table.writeBack_nil] at executions
      rw [adds.riskSettings, adds.riskSettingChanges, Table.writeBack_nil] at riskSettings
      exact ⟨(Option.some.inj executions).symm, (Option.some.inj riskSettings).symm, written.grows⟩
  obtain ⟨executions, riskSettings, grows⟩ := keeps
  constructor
  · exact inv.submit.congr executions riskSettings
  · exact inv.grows.trans grows
  · exact fun i => (inv.backed i).grow grows
  · rintro i prepared ⟨reply, before, after, sent⟩
    rcases List.mem_append.mp sent with earlier | last
    · exact (inv.sent i prepared ⟨reply, before, after, earlier⟩).grow grows
    · rw [List.mem_singleton] at last
      cases last

theorem of_run [DecidableEq ι] [DecidableEq κ] {world s : World}
    {phases : ∀ j : ι ⊕ κ, (windowProtocol py requests j).Phase}
    (run : Protocol.Run (windowProtocol py requests) semantics windowStart world trace phases s) :
    WindowInv requests world.db trace (fun i => phases (.inl i)) s.db := by
  refine run.invariant (fun trace (phases : ∀ j : ι ⊕ κ, (windowProtocol py requests j).Phase)
    (s : World) => WindowInv requests world.db trace (fun i => phases (.inl i)) s.db) .start ?_
  intro trace phases j e m inv move sound
  cases j with
  | inl i =>
    have stages : (fun i' => Function.update phases (.inl i) m (.inl i')) =
        Function.update (fun i' => phases (.inl i')) i m := by
      funext i'
      by_cases same : i' = i
      · subst same
        rw [Function.update_self, Function.update_self]
      · rw [Function.update_of_ne same, Function.update_of_ne (by simpa using same)]
    rw [stages]
    exact inv.submits move sound
  | inr k =>
    have stages : (fun i => Function.update phases (.inr k) m (.inl i)) =
        fun i => phases (.inl i) := by
      funext i
      rw [Function.update_of_ne (by simp)]
    rw [stages]
    exact inv.approves move sound

end WindowInv

/-- Approvals in between make no difference: one request for each client order id. -/
theorem windowing_posts_once [DecidableEq ι] [DecidableEq κ] {world s : World}
    {trace : Trace backend (ι ⊕ κ)}
    {phases : ∀ j : ι ⊕ κ, (windowProtocol py requests j).Phase}
    (run : Protocol.Run (windowProtocol py requests) semantics windowStart world trace phases s)
    (clientOrderId : String) : trace.countP (isPostOf clientOrderId) ≤ 1 := by
  refine run.count_le_one (isPostOf clientOrderId) (fun
    | .inl _ => fun stage => SubmitStage.Spent clientOrderId stage
    | .inr _ => fun _ => False) ?_
  intro trace phases j e stage' earlier move
  cases j with
  | inl i =>
    rw [isPostOf_congr clientOrderId _ i]
    rcases (WindowInv.of_run earlier).submit.spends_once move clientOrderId with
      unspent | ⟨spent, fresh⟩
    · exact .inl unspent
    · refine .inr ⟨spent, fun j => ?_⟩
      cases j with
      | inl j => exact fresh j
      | inr k => exact id
  | inr k =>
    refine .inl ⟨?_, False.elim⟩
    rcases move with quiet | ⟨work, before, after, rfl, -⟩
    · cases e with
      | call query =>
        cases query with
        | urlopen prepared => cases quiet
        | _ => rfl
      | read | commit | abort => rfl
    · rfl

/-! ### Orders under an approval -/

/-- The request `i` has handed an order to the transport, and the execution of its client order
id names the approval. -/
structure SentUnder (requests : ι → SubmitRequest) (trace : Trace backend (ι ⊕ κ)) (db : Db)
    (log : AuditLog) (i : ι) : Prop where
  sent : ∃ prepared, Sends trace (.inl i) prepared
  named : ∃ row ∈ db.executions, row.clientOrderId = (requests i).payload.clientOrderId ∧
    NamesApproval db row log

namespace WindowInv

variable {db₀ db : Db} {trace : Trace backend (ι ⊕ κ)} {stages : ∀ i, SubmitStage py (requests i)}
  {log : AuditLog}

/-- The approval an order names is the one it was admitted with. -/
theorem admitted (inv : WindowInv requests db₀ trace stages db) (stored : log ∈ db.auditLogs)
    {i : ι} (under : SentUnder requests trace db log i) :
    ∃ adm : Admission py (requests i), adm.log = log := by
  obtain ⟨prepared, sent⟩ := under.sent
  obtain ⟨adm, row, rowOf, hrow, storedLog, signal, storedSignal, id, payload⟩ :=
    inv.sent i prepared sent
  obtain ⟨x, hx, clientOrderId, signal', storedSignal', id', payload'⟩ := under.named
  obtain ⟨y, hy, same⟩ := inv.submit.claims.stands i row hrow
  have oneRow : x = y := by
    refine Table.eq_of_conflict hx hy (.inr (.inr (.inl ?_)))
    exact clientOrderId.trans (rowOf.clientOrderId.symm.trans same.clientOrderId.symm)
  subst oneRow
  have oneSignal : signal = signal' :=
    Table.eq_of_conflict storedSignal storedSignal' (id.trans (same.signalId.symm.trans id'.symm))
  subst oneSignal
  have oneId : adm.log.id = log.id := submissionPayload_injective (payload.symm.trans payload')
  exact ⟨adm, Table.eq_of_conflict storedLog stored oneId⟩

/-- Two requests that were sent have two client order ids. -/
theorem clientOrderId_injective (inv : WindowInv requests db₀ trace stages db) {i j : ι}
    {first second : PreparedExchangeRequest} (sent : Sends trace (.inl i) first)
    (sent' : Sends trace (.inl j) second)
    (same : (requests i).payload.clientOrderId = (requests j).payload.clientOrderId) : i = j := by
  obtain ⟨adm, row, rowOf, hrow, -, -⟩ := inv.sent i first sent
  obtain ⟨adm', row', rowOf', hrow', -, -⟩ := inv.sent j second sent'
  refine inv.submit.claims.client_unique hrow hrow' (.inr (.inr (.inl ?_)))
  exact rowOf.clientOrderId.trans (same.trans rowOf'.clientOrderId.symm)

end WindowInv

/-! ### Sample runs -/

/-- An order of five units, as much as the approval of the sample world allows. -/
def fiveUnits (clientOrderId : String) : SubmitRequest :=
  let order := sampleOrder "BTCUSDT" (.ofInt 5) (by norm_num)
  { order with payload := { order.payload with clientOrderId } }

/-- Two orders of five units under two client order ids. -/
def twoOrders : Bool → SubmitRequest
  | false => fiveUnits "c1"
  | true => fiveUnits "c2"

/-- The first order is served to its end before the second one starts; nothing is approved in
between. -/
def twoOrdersRun : Trace backend (Bool ⊕ Empty) ×
    Config backend (Sum.elim (fun _ : Bool => Except Exc TestnetOrderSubmitResponse × Session)
      fun _ : Empty => Except Exc TestnetOrderWindowApproval × Session) :=
  Config.replay semantics (environment takingExchange) 0
    (List.replicate 25 (.inl false) ++ List.replicate 25 (.inl true))
    (windowing asciiPlatform twoOrders (fun k : Empty => k.elim)
      (approvedWorld .binance "BTCUSDT" []))

theorem twoOrdersRun_reaches :
    Config.Run semantics (windowing asciiPlatform twoOrders (fun k : Empty => k.elim)
      (approvedWorld .binance "BTCUSDT" [])) twoOrdersRun.1 twoOrdersRun.2 :=
  Config.replay_reaches (environment_allowed takingExchange) _ _ _

/-- The request `i` sends an order. -/
def sendsAs [DecidableEq ι] (i : ι) : ι × Event backend → Bool
  | (j, .call (.urlopen _) _ _ _) => i = j
  | _ => false

theorem sends_of_sendsAs [DecidableEq ι] {trace : Trace backend ι} {i : ι}
    (sends : trace.any (sendsAs i) = true) : ∃ prepared, Sends trace i prepared := by
  obtain ⟨⟨j, e⟩, mem, sent⟩ := List.any_eq_true.mp sends
  cases e with
  | call query reply before after =>
    cases query with
    | urlopen prepared =>
      obtain rfl : i = j := by simpa [sendsAs] using sent
      exact ⟨prepared, reply, before, after, mem⟩
    | _ => cases sent
  | _ => cases sent

/-- The approval a signal names. -/
def approvalNamed : Json → Option String
  | .obj [("source", .str "testnet_order_submit"), ("approval_audit_log_id", .str id)] => some id
  | _ => none

theorem payload_of_approvalNamed {payload : Json} {id : String}
    (named : approvalNamed payload = some id) : payload = submissionPayload id := by
  unfold approvalNamed at named
  split at named
  · cases named
    rfl
  · cases named

/-- The execution of the client order id names the approval. -/
def isNamed (db : Db) (clientOrderId id : String) : Bool :=
  db.executions.rows.any fun row => row.clientOrderId = clientOrderId &&
    db.signals.rows.any fun signal => signal.id = row.signalId &&
      approvalNamed signal.rawPayload = some id

theorem named_of_isNamed {db : Db} {clientOrderId : String} {log : AuditLog}
    (named : isNamed db clientOrderId log.id = true) :
    ∃ row ∈ db.executions, row.clientOrderId = clientOrderId ∧ NamesApproval db row log := by
  obtain ⟨row, stored, found⟩ := List.any_eq_true.mp named
  rw [Bool.and_eq_true, decide_eq_true_eq] at found
  obtain ⟨signal, storedSignal, names⟩ := List.any_eq_true.mp found.2
  rw [Bool.and_eq_true, decide_eq_true_eq, decide_eq_true_eq] at names
  exact ⟨row, stored, found.1, signal, storedSignal, names.1, payload_of_approvalNamed names.2⟩

/-- Both orders are sent under the one approval. -/
theorem twoOrders_under (order : Bool) :
    SentUnder twoOrders twoOrdersRun.1 twoOrdersRun.2.store.db (sampleApproval "BTCUSDT") order := by
  constructor
  · refine sends_of_sendsAs ?_
    cases order <;> decide +kernel
  · refine named_of_isNamed ?_
    cases order <;> decide +kernel

theorem sampleApproval_stored : sampleApproval "BTCUSDT" ∈ twoOrdersRun.2.store.db.auditLogs := by
  obtain ⟨phases, tracked⟩ := windowing_tracked twoOrdersRun_reaches
  exact (WindowInv.of_run tracked).grows.auditLogs _ (List.mem_singleton_self _)

theorem sampleApproval_limit :
    maxQuantityOf asciiPlatform (sampleApproval "BTCUSDT") = some (.finite (.ofInt 5)) := by
  decide +kernel

/-! ### The guarantee -/

/-- In every run of approvals and submissions each order that is sent under an approval is within
its maximum, and is sent once, under a client order id of its own: together the orders are within
the maximum for each of their client order ids. -/
theorem orders_under_approval_bounded [DecidableEq ι] [DecidableEq κ]
    {approvals : κ → ApproveRequest} {world : World} {trace : Trace backend (ι ⊕ κ)}
    {c : Config backend (Sum.elim (fun _ : ι => Except Exc TestnetOrderSubmitResponse × Session)
      fun _ : κ => Except Exc TestnetOrderWindowApproval × Session)}
    (run : Config.Run semantics (windowing py requests approvals world) trace c)
    {log : AuditLog} (stored : log ∈ c.store.db.auditLogs) {most : Decimal}
    (limit : maxQuantityOf py log = some (.finite most)) {orders : Finset ι}
    (under : ∀ i ∈ orders, SentUnder requests trace c.store.db log i) :
    (∀ i ∈ orders, (requests i).payload.quantity ≤ most) ∧
    (∀ clientOrderId, trace.countP (isPostOf clientOrderId) ≤ 1) ∧
    Set.InjOn (fun i => (requests i).payload.clientOrderId) orders ∧
    ∑ i ∈ orders, (requests i).payload.quantity.toRat ≤ orders.card * most.toRat := by
  obtain ⟨phases, tracked⟩ := windowing_tracked run
  have inv := WindowInv.of_run tracked
  have within : ∀ i ∈ orders, (requests i).payload.quantity ≤ most := by
    intro i member
    obtain ⟨adm, rfl⟩ := inv.admitted stored (under i member)
    obtain ⟨bound, hbound, allows⟩ := (windowReasons_nil adm.reasons).quantity
    obtain rfl : bound = .finite most := Option.some.inj (hbound.symm.trans limit)
    exact DecimalLiteral.allows_of_exceeded allows
  refine ⟨within, windowing_posts_once tracked, fun i hi j hj same => ?_, ?_⟩
  · obtain ⟨first, sent⟩ := (under i hi).sent
    obtain ⟨second, sent'⟩ := (under j hj).sent
    exact inv.clientOrderId_injective sent sent' same
  · calc ∑ i ∈ orders, (requests i).payload.quantity.toRat
        ≤ orders.card • most.toRat := Finset.sum_le_card_nsmul _ _ _ within
      _ = orders.card * most.toRat := nsmul_eq_mul _ _

/-- Two orders of five units are within two times the five units approved. -/
theorem orders_under_approval_bounded_twice :
    ∑ order : Bool, (twoOrders order).payload.quantity.toRat ≤ 2 * 5 := by
  have bounded := orders_under_approval_bounded twoOrdersRun_reaches sampleApproval_stored
    sampleApproval_limit fun order (_ : order ∈ (Finset.univ : Finset Bool)) =>
      twoOrders_under order
  simpa using bounded.2.2.2

/-- Two orders of five units are sent under one approval of at most five units. -/
theorem approval_used_twice :
    ∃ trace c, Config.Run semantics (windowing asciiPlatform twoOrders (fun k : Empty => k.elim)
        (approvedWorld .binance "BTCUSDT" [])) trace c ∧
      ∃ log ∈ c.store.db.auditLogs, ∃ most : Decimal,
        maxQuantityOf asciiPlatform log = some (.finite most) ∧
        (∀ order, SentUnder twoOrders trace c.store.db log order) ∧
        ¬ ∑ order : Bool, (twoOrders order).payload.quantity.toRat ≤ most.toRat := by
  refine ⟨_, _, twoOrdersRun_reaches, _, sampleApproval_stored, _, sampleApproval_limit,
    twoOrders_under, ?_⟩
  norm_num [twoOrders, fiveUnits, sampleOrder]

end CopyTrading
