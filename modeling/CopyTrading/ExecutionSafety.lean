import CopyTrading.Environment
import CopyTrading.ExecutionInvariant
import CopyTrading.ExecutionRefinement

/-!
At most one placement for a signal on an account, over every interleaving of requests:
the insert of the row decides which request may place, and the row is committed as
`SUBMITTED` before the adapter is asked.
-/

namespace CopyTrading

open Transaction Transaction.Handler

variable {ι : Type} {requests : ι → ExecRequest}

/-- Requests that start on a committed database, each in a session of its own. -/
def executing (py : Platform) (requests : ι → ExecRequest) (world : World) :
    Config backend fun _ : ι => Except Exc OrderExecution × Session where
  store := world
  client i := ((requests i).service py).run

/-- The stages of requests in a run, with what each returns. -/
theorem executing_tracked [DecidableEq ι] {py : Platform} {world : World} {trace : Trace backend ι}
    {c : Config backend fun _ : ι => Except Exc OrderExecution × Session}
    (run : Config.Run semantics (executing py requests world) trace c) :
    ∃ stages : ι → ExecStage,
      Protocol.Run (fun i => execProtocol (requests i)) semantics (fun _ => .start) world trace
        stages c.store ∧
      ∀ i, ∀ result s, c.client i = .done (.ok result, s) → ExecReturns result (stages i) := by
  obtain ⟨stages, tracked, follows⟩ :=
    run.tracked fun i => executeSignalForAccount_follows py (requests i)
  refine ⟨stages, tracked, fun i result s hdone => ?_⟩
  have returned := follows i
  rw [hdone] at returned
  exact returned

/-! ### Placements -/

/-- A call of `place_order` by a request for this signal and account. -/
def isPlacementFor (requests : ι → ExecRequest) (signalId accountId : String) :
    ι × Event backend → Bool
  | (i, .call (.placeOrder _) _ _ _) =>
      (requests i).signalId = signalId ∧ (requests i).accountId = accountId
  | _ => false

/-- The stages behind the call of the adapter. -/
def ExecStage.hasPlaced : ExecStage → Bool
  | .placed _ | .filling .. | .opened _ | .funding .. | .filled _ => true
  | .answered _ fill _ => fill
  | _ => false

theorem ExecStage.row_of_hasPlaced {stage : ExecStage} (placed : stage.hasPlaced) :
    stage.row?.isSome := by
  cases stage <;> first | rfl | cases placed

/-- Only the move from `submitted` to `placed` is a placement, and no move goes back. -/
theorem ExecMove.placement {i : ι} {stage stage' : ExecStage} {e : Event backend}
    (move : ExecMove (requests i) stage e stage') (signalId accountId : String) :
    isPlacementFor requests signalId accountId (i, e) = false ∧
        (stage.hasPlaced → stage'.hasPlaced) ∨
      stage.hasPlaced = false ∧ stage.row?.isSome ∧ stage'.hasPlaced := by
  cases move with
  | idle idle =>
    refine .inl ⟨?_, id⟩
    cases e with
    | call query answer before after =>
      cases query <;> first | rfl | simp [isIdle, Query.isPlacement] at idle
    | read | commit | abort => rfl
  | place => exact .inr ⟨rfl, rfl, rfl⟩
  | fail from_ => exact .inl ⟨rfl, by rcases from_ with rfl | ⟨_, rfl⟩ <;> exact id⟩
  | @answer _ _ _ _ fill from_ =>
    subst from_
    cases fill <;> exact .inl ⟨rfl, id⟩
  | openPosition | create | settle | pass | submit | openFilled | fill | fund | tail =>
    exact .inl ⟨rfl, by simp [ExecStage.hasPlaced]⟩
  | enter | know | own | replay | miss | weigh | clear | findPosition | loadPosition =>
    exact .inl ⟨rfl, by simp [ExecStage.hasPlaced]⟩

/-- The request has placed, for this pair. -/
def PlacedBy (requests : ι → ExecRequest) (stages : ι → ExecStage) (signalId accountId : String)
    (i : ι) : Prop :=
  (stages i).hasPlaced ∧ (requests i).signalId = signalId ∧ (requests i).accountId = accountId

/-- The requests so far have placed at most once for the pair. -/
structure AtMostOnce (requests : ι → ExecRequest) (signalId accountId : String)
    (trace : Trace backend ι) (stages : ι → ExecStage) (world : World) : Prop where
  inv : ExecInv requests stages world.db
  once : trace.countP (isPlacementFor requests signalId accountId) = 0 ∨
    trace.countP (isPlacementFor requests signalId accountId) = 1 ∧
      ∃ i, PlacedBy requests stages signalId accountId i

/-- Two requests with rows for one pair are one request. -/
theorem ExecInv.eq_of_pair {stages : ι → ExecStage} {db : Db} (inv : ExecInv requests stages db)
    {i j : ι} (hi : (stages i).row?.isSome) (hj : (stages j).row?.isSome)
    (signalId : (requests i).signalId = (requests j).signalId)
    (accountId : (requests i).accountId = (requests j).accountId) : i = j := by
  obtain ⟨row, hrow⟩ := Option.isSome_iff_exists.mp hi
  obtain ⟨row', hrow'⟩ := Option.isSome_iff_exists.mp hj
  by_contra hne
  have of := inv.rowOf i row hrow
  have of' := inv.rowOf j row' hrow'
  refine inv.apart i j row row' hne hrow hrow' (.inr (.inr (.inr ⟨?_, ?_⟩)))
  · exact of.signalId.trans (signalId.trans of'.signalId.symm)
  · exact of.accountId.trans (accountId.trans of'.accountId.symm)

theorem AtMostOnce.step [DecidableEq ι] {signalId accountId : String} {trace : Trace backend ι}
    {stages : ι → ExecStage} {i : ι} {e : Event backend} {stage' : ExecStage}
    (h : AtMostOnce requests signalId accountId trace stages e.before)
    (move : ExecMove (requests i) (stages i) e stage') (sound : e.Sound semantics) :
    AtMostOnce requests signalId accountId (trace ++ [(i, e)]) (Function.update stages i stage')
      e.after := by
  have inv := h.inv.step move sound
  refine ⟨inv, ?_⟩
  rw [List.countP_append, List.countP_singleton]
  rcases move.placement signalId accountId with ⟨noPlacement, kept⟩ | ⟨hnot, hrow, hplaced⟩
  · rw [noPlacement]
    refine h.once.imp (by simpa using ·) fun ⟨count, j, placed, pair⟩ =>
      ⟨by simpa using count, j, ?_, pair⟩
    by_cases hji : j = i
    · subst hji
      simpa using kept placed
    · simpa [hji] using placed
  · by_cases hpair : isPlacementFor requests signalId accountId (i, e)
    · have pair : (requests i).signalId = signalId ∧ (requests i).accountId = accountId := by
        unfold isPlacementFor at hpair
        split at hpair
        · next heq =>
          cases heq
          simpa using hpair
        · cases hpair
      rcases h.once with none | ⟨-, j, placed, pair'⟩
      · exact .inr ⟨by simp [none, hpair], i, by simpa using hplaced, pair⟩
      · -- an earlier placement is by a request with a row for the pair: this one
        have same : j = i := h.inv.eq_of_pair (ExecStage.row_of_hasPlaced placed) hrow
          (pair'.1.trans pair.1.symm) (pair'.2.trans pair.2.symm)
        rw [same, hnot] at placed
        cases placed
    · rw [if_neg hpair]
      refine h.once.imp id fun ⟨count, j, placed, pair⟩ => ⟨count, j, ?_, pair⟩
      by_cases hji : j = i
      · subst hji
        simpa using hplaced
      · simpa [hji] using placed

theorem atMostOnce_of_run [DecidableEq ι] {world s : World} {trace : Trace backend ι} {stages : ι → ExecStage}
    (run : Protocol.Run (fun i => execProtocol (requests i)) semantics (fun _ => .start) world trace
      stages s) (signalId accountId : String) :
    AtMostOnce requests signalId accountId trace stages s :=
  run.invariant (AtMostOnce requests signalId accountId) ⟨.start, .inl rfl⟩
    fun _ _ _ _ _ h move sound => h.step move sound

/-! ### Owners -/

/-- Every execution belongs to the owner of its signal. -/
def OwnedExecutions (db : Db) : Prop :=
  ∀ row ∈ db.executions, ∃ signal ∈ db.signals,
    signal.id = row.signalId ∧ signal.userId = row.userId

/-- The row of the request's pair, owned by the caller. -/
structure ResultOf (req : ExecRequest) (db : Db) (result : OrderExecution) : Prop where
  userId : result.userId = req.userId
  signalId : result.signalId = req.signalId
  accountId : result.exchangeAccountId = req.accountId
  stored : ∃ x ∈ db.executions, SameOrder x result

structure OwnerInv (requests : ι → ExecRequest) (stages : ι → ExecStage) (db : Db) : Prop
    extends ExecInv requests stages db where
  owned : OwnedExecutions db
  signals : ∀ i signal, (stages i).signal? = some signal →
    signal ∈ db.signals ∧ signal.id = (requests i).signalId ∧
      signal.userId = (requests i).userId
  results : ∀ i result, (stages i).result? = some result → ResultOf (requests i) db result

section Step

variable {req : ExecRequest} {stage stage' : ExecStage} {e : Event backend}

theorem ExecMove.executions_kept (move : ExecMove req stage e stage') (sound : e.Sound semantics)
    {old : OrderExecution} (hold : old ∈ e.before.db.executions) :
    ∃ new ∈ e.after.db.executions, SameOrder new old := by
  cases move.effect sound with
  | keeps db => exact ⟨old, db.symm ▸ hold, .refl old⟩
  | creates flushed trading =>
    obtain ⟨new, hnew, same, -⟩ := trading.executions_kept flushed hold
    exact ⟨new, hnew, same⟩
  | writes flushed trading =>
    obtain ⟨new, hnew, same, -⟩ := trading.executions_kept flushed hold
    exact ⟨new, hnew, same⟩

theorem ExecMove.signals_kept (move : ExecMove req stage e stage') (sound : e.Sound semantics)
    {signal : TradingSignal} (hsignal : signal ∈ e.before.db.signals) :
    signal ∈ e.after.db.signals := by
  cases move.effect sound with
  | keeps db => exact db.symm ▸ hsignal
  | creates flushed trading =>
    exact (Table.mem_insertAll (trading.written flushed).signals).mpr (.inl hsignal)
  | writes flushed trading =>
    exact (Table.mem_insertAll (trading.written flushed).signals).mpr (.inl hsignal)

/-- A stored execution was stored before, or it is the row the request creates now. -/
theorem ExecMove.executions_from (move : ExecMove req stage e stage')
    (sound : e.Sound semantics) {row : OrderExecution} (hrow : row ∈ e.after.db.executions) :
    (∃ old ∈ e.before.db.executions, SameOrder row old) ∨
      RowOf req row ∧ stage'.row? = some row ∧ stage.signal?.isSome := by
  cases move.effect sound with
  | keeps db => exact .inl ⟨row, db ▸ hrow, .refl row⟩
  | creates flushed trading rowOf signal _ created =>
    rcases trading.executions_after flushed hrow with hnew | ⟨old, hold, same, -⟩
    · subst created
      rw [List.mem_singleton.mp hnew]
      exact .inr ⟨rowOf, rfl, signal⟩
    · exact .inl ⟨old, hold, same⟩
  | writes flushed trading =>
    rcases trading.executions_after flushed hrow with hnew | ⟨old, hold, same, -⟩
    · cases hnew
    · exact .inl ⟨old, hold, same⟩

/-- A signal of the stage was loaded by this move, or it was there before. -/
theorem ExecMove.signal_from (move : ExecMove req stage e stage') {signal : TradingSignal}
    (hsignal : stage'.signal? = some signal) :
    stage.signal? = some signal ∨
      signal ∈ e.after.db.signals ∧ signal.id = req.signalId ∧ signal.userId = req.userId := by
  cases move with
  | idle | own | miss | openPosition => exact .inl hsignal
  | know stored id user =>
    cases hsignal
    exact .inr ⟨stored, id, user⟩
  | _ => cases hsignal

/-- A result of the stage was there before, or it is a stored row of the pair, or it is the
stored row with the id of the row the request has created. -/
theorem ExecMove.result_from (move : ExecMove req stage e stage') {result : OrderExecution}
    (hresult : stage'.result? = some result) :
    stage.result? = some result ∨ result ∈ e.after.db.executions ∧
      (stage.signal?.isSome ∧ result.signalId = req.signalId ∧
          result.exchangeAccountId = req.accountId ∨
        ∃ row, stage'.row? = some row ∧ result.id = row.id) := by
  cases move with
  | idle => exact .inl hresult
  | replay stored signalId accountId =>
    cases hresult
    exact .inr ⟨stored, .inl ⟨rfl, signalId, accountId⟩⟩
  | answer _ stored id =>
    cases hresult
    exact .inr ⟨stored, .inr ⟨_, rfl, id⟩⟩
  | _ => cases hresult

end Step

namespace OwnerInv

variable {stages : ι → ExecStage} {i : ι} {e : Event backend} {stage' : ExecStage}

theorem start {db : Db} (owned : OwnedExecutions db) :
    OwnerInv requests (fun _ => .start) db where
  toExecInv := .start
  owned := owned
  signals _ _ h := by cases h
  results _ _ h := by cases h

theorem signal (inv : OwnerInv requests stages e.before.db)
    (move : ExecMove (requests i) (stages i) e stage') (sound : e.Sound semantics)
    {signal : TradingSignal} (hsignal : stage'.signal? = some signal) :
    signal ∈ e.after.db.signals ∧ signal.id = (requests i).signalId ∧
      signal.userId = (requests i).userId := by
  rcases move.signal_from hsignal with hold | hnew
  · obtain ⟨stored, id, user⟩ := inv.signals i signal hold
    exact ⟨move.signals_kept sound stored, id, user⟩
  · exact hnew

/-- A created row belongs to the caller, who owns the signal; no other owner changes. -/
theorem owned_after (inv : OwnerInv requests stages e.before.db)
    (move : ExecMove (requests i) (stages i) e stage') (sound : e.Sound semantics) :
    OwnedExecutions e.after.db := by
  intro row hrow
  rcases move.executions_from sound hrow with ⟨old, hold, same⟩ | ⟨rowOf, -, hsome⟩
  · obtain ⟨signal, stored, id, user⟩ := inv.owned old hold
    exact ⟨signal, move.signals_kept sound stored, id.trans same.signalId.symm,
      user.trans same.userId.symm⟩
  · obtain ⟨signal, hsignal⟩ := Option.isSome_iff_exists.mp hsome
    obtain ⟨stored, id, user⟩ := inv.signals i signal hsignal
    exact ⟨signal, move.signals_kept sound stored, id.trans rowOf.signalId.symm,
      user.trans rowOf.userId.symm⟩

/-- What a request hands out is the row of its pair, and the caller's. -/
theorem result (inv : OwnerInv requests stages e.before.db)
    (move : ExecMove (requests i) (stages i) e stage') (sound : e.Sound semantics)
    {result : OrderExecution} (hresult : stage'.result? = some result) :
    ResultOf (requests i) e.after.db result := by
  rcases move.result_from hresult with hold | ⟨stored, ⟨hsome, signalId, accountId⟩ | ⟨row, hrow, id⟩⟩
  · obtain ⟨userId, signalId, accountId, x, hx, same⟩ := inv.results i result hold
    obtain ⟨y, hy, hsame⟩ := move.executions_kept sound hx
    exact ⟨userId, signalId, accountId, y, hy, hsame.trans same⟩
  · refine ⟨?_, signalId, accountId, result, stored, .refl result⟩
    -- the owner of the row owns the signal, and so does the caller
    obtain ⟨signal, hsignal⟩ := Option.isSome_iff_exists.mp hsome
    obtain ⟨hmem, hid, user⟩ := inv.signals i signal hsignal
    obtain ⟨signal', hmem', hid', user'⟩ := inv.owned_after move sound result stored
    have same : signal' = signal :=
      Table.eq_of_conflict hmem' (move.signals_kept sound hmem)
        ((hid'.trans signalId).trans hid.symm)
    rw [← user', same, user]
  · obtain ⟨x, hx, same, -⟩ := (inv.stands i).move move sound row hrow
    obtain rfl := execution_unique stored hx (id.trans same.id.symm)
    have rowOf : RowOf (requests i) row := by
      rcases ExecInv.row?_of_move move sound hrow with hrow | ⟨rowOf, -⟩
      · exact inv.rowOf i row hrow
      · exact rowOf
    exact ⟨same.userId.trans rowOf.userId, same.signalId.trans rowOf.signalId,
      same.exchangeAccountId.trans rowOf.accountId, result, stored, .refl result⟩

theorem step [DecidableEq ι] (inv : OwnerInv requests stages e.before.db)
    (move : ExecMove (requests i) (stages i) e stage') (sound : e.Sound semantics) :
    OwnerInv requests (Function.update stages i stage') e.after.db where
  toExecInv := inv.toExecInv.step move sound
  owned := inv.owned_after move sound
  signals j signal hsignal := by
    by_cases hj : j = i
    · subst hj
      rw [Function.update_self] at hsignal
      exact inv.signal move sound hsignal
    · rw [Function.update_of_ne hj] at hsignal
      obtain ⟨stored, rest⟩ := inv.signals j signal hsignal
      exact ⟨move.signals_kept sound stored, rest⟩
  results j result hresult := by
    by_cases hj : j = i
    · subst hj
      rw [Function.update_self] at hresult
      exact inv.result move sound hresult
    · rw [Function.update_of_ne hj] at hresult
      obtain ⟨userId, signalId, accountId, x, hx, same⟩ := inv.results j result hresult
      obtain ⟨y, hy, hsame⟩ := move.executions_kept sound hx
      exact ⟨userId, signalId, accountId, y, hy, hsame.trans same⟩

end OwnerInv

theorem ownerInv_of_run [DecidableEq ι] {world s : World} {trace : Trace backend ι} {stages : ι → ExecStage}
    (owned : OwnedExecutions world.db)
    (run : Protocol.Run (fun i => execProtocol (requests i)) semantics (fun _ => .start) world trace
      stages s) : OwnerInv requests stages s.db :=
  run.invariant (fun _ stages (world : World) => OwnerInv requests stages world.db) (.start owned)
    fun _ _ _ _ _ inv move sound => inv.step move sound

/-! ### The guarantee -/

/-- For a signal on an account `place_order` is called at most once, whatever the schedule and
wherever the run stops, and a request that returns an execution returns the one row of its
pair, owned by the caller. -/
theorem executeSignalForAccount_at_most_once [DecidableEq ι] {py : Platform} {world : World}
    {trace : Trace backend ι} {c : Config backend fun _ : ι => Except Exc OrderExecution × Session}
    (owned : OwnedExecutions world.db)
    (run : Config.Run semantics (executing py requests world) trace c) :
    (∀ signalId accountId,
      trace.countP (isPlacementFor requests signalId accountId) ≤ 1) ∧
    ∀ i result s, c.client i = .done (.ok result, s) →
      result.userId = (requests i).userId ∧
      ∃ row ∈ c.store.db.executions, row.id = result.id ∧
        row.signalId = (requests i).signalId ∧
        row.exchangeAccountId = (requests i).accountId ∧
        ∀ other ∈ c.store.db.executions, other.signalId = (requests i).signalId →
          other.exchangeAccountId = (requests i).accountId → other = row := by
  obtain ⟨stages, tracked, returns⟩ := executing_tracked run
  refine ⟨fun signalId accountId => ?_, fun i result s hdone => ?_⟩
  · rcases (atMostOnce_of_run tracked signalId accountId).once with none | ⟨one, -⟩
    · exact none.trans_le (Nat.zero_le 1)
    · exact one.le
  · have hresult : (stages i).result? = some result := by
      rcases returns i result s hdone with h | ⟨row, fill, h⟩ <;> rw [h] <;> rfl
    obtain ⟨userId, signalId, accountId, row, hrow, same⟩ :=
      (ownerInv_of_run owned tracked).results i result hresult
    refine ⟨userId, row, hrow, same.id, same.signalId.trans signalId,
      same.exchangeAccountId.trans accountId, fun other hother hsignal haccount => ?_⟩
    refine Table.eq_of_conflict hother hrow (.inr (.inr (.inr ⟨?_, ?_⟩)))
    · exact hsignal.trans (signalId.symm.trans same.signalId.symm)
    · exact haccount.trans (accountId.symm.trans same.exchangeAccountId.symm)

def sampleRequest (signalId : String) : ExecRequest where
  userId := "u"
  signalId := signalId
  accountId := "a"

/-- Two requests for one signal both return, and one of them has placed. -/
theorem executeSignalForAccount_at_most_once_twice :
    ∃ trace c, Config.Run semantics
        (executing asciiPlatform (fun _ : Bool => sampleRequest "s1") sampleWorld) trace c ∧
      (∀ i, (returned (c.client i)).map (·.status) = some .filled) ∧
      ∀ signalId accountId,
        trace.countP (isPlacementFor (fun _ : Bool => sampleRequest "s1") signalId accountId) ≤ 1 := by
  have run := Config.replay_reaches (environment_allowed ⟨true, .empty⟩)
    (List.replicate 30 true ++ List.replicate 10 false) 0
    (executing asciiPlatform (fun _ : Bool => sampleRequest "s1") sampleWorld)
  have owned : OwnedExecutions sampleWorld.db := fun row hrow => nomatch hrow
  exact ⟨_, _, run, by decide +kernel,
    (executeSignalForAccount_at_most_once owned run).1⟩

end CopyTrading
