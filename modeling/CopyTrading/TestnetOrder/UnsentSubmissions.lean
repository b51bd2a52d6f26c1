import CopyTrading.TestnetOrder.Acknowledgement
import CopyTrading.TestnetOrder.BlockedSymbols

/-!
What a submission that never asks the exchange makes of its execution. The row is committed as
`SUBMITTED` before the order is prepared; what is raised after that is recorded as a failure,
unless the order cannot be signed.
-/

namespace CopyTrading

open Transaction Transaction.Handler

/-! ### Orders that cannot be signed -/

/-- The account is on OKX, and its stored key has no passphrase. -/
def SubmitRequest.Unsignable (req : SubmitRequest) (db : Db) : Prop :=
  (∃ account ∈ db.accounts, account.id = req.payload.exchangeAccountId ∧
    account.exchangeName = .okx) ∧
  ∃ secret ∈ db.secrets, secret.exchangeAccountId = req.payload.exchangeAccountId ∧
    secret.encryptedPassphrase = none

section

variable {py : Platform} {req : SubmitRequest}

/-- The account and the key of the context are stored. -/
structure Admission.ReadFrom (adm : Admission py req) (db : Db) : Prop where
  account : adm.context.account ∈ db.accounts
  secret : adm.secret ∈ db.secrets

theorem Admission.ReadFrom.unsignable_iff {adm : Admission py req} {db : Db}
    (read : adm.ReadFrom db) : adm.Unsignable ↔ req.Unsignable db := by
  constructor
  · rintro ⟨okx, missing⟩
    exact ⟨⟨_, read.account, adm.accountId, okx⟩, _, read.secret,
      adm.secretFor.trans adm.accountId, missing⟩
  · rintro ⟨⟨account, storedAccount, accountId, okx⟩, secret, storedSecret, secretFor, missing⟩
    have sameAccount : adm.context.account = account :=
      Table.eq_of_conflict read.account storedAccount (adm.accountId.trans accountId.symm)
    have sameSecret : adm.secret = secret :=
      Table.eq_of_conflict read.secret storedSecret
        ((adm.secretFor.trans adm.accountId).trans secretFor.symm)
    constructor
    · rw [sameAccount]
      exact okx
    · rw [sameSecret]
      exact missing

/-! ### What the request has read -/

/-- The accounts and the keys are those of `db₀`. -/
structure SameKeys (db₀ db : Db) : Prop where
  accounts : ∀ account, account ∈ db.accounts → account ∈ db₀.accounts
  secrets : ∀ secret, secret ∈ db.secrets → secret ∈ db₀.secrets

/-- Until the account and its key are read they are left as they were; what was read is theirs. -/
def SubmitStage.ReadFrom (db₀ db : Db) : SubmitStage py req → Prop
  | .start | .admitted | .settled | .refreshed _ => SameKeys db₀ db
  | .owned account | .risked account _ => SameKeys db₀ db ∧ account ∈ db₀.accounts
  | .gated account secret | .windowed account secret _ | .authorized account secret _ _ =>
    account ∈ db₀.accounts ∧ secret ∈ db₀.secrets
  | .ready adm | .absent adm | .weighed adm _ | .submitted adm _ | .held adm _ _
  | .failing adm _ _ _ | .blocked adm _ _ _ | .sent adm _ _ _ => adm.ReadFrom db₀
  | .replayed _ | .lost | .rejected _ | .vanished _ | .accepted _ | .failed _ => True

theorem mem_secrets_of_flush {work : Work} {before after : Db} {secret : ApiKeySecret}
    (flushed : before.flush work = .ok after) (noStop : work.stop = none)
    (keeps : work.LeavesKeys) (stored : secret ∈ after.secrets) : secret ∈ before.secrets := by
  obtain ⟨added, changed, -⟩ := keeps
  obtain ⟨secrets, written, remaining⟩ := secrets_of_write (Work.write_of_flush flushed noStop)
  rw [added, changed, Table.writeBack_nil] at written
  cases written
  rw [remaining] at stored
  exact (Table.mem_deleteWhere.mp stored).1

variable {stage stage' : SubmitStage py req} {e : Event backend} {db₀ : Db}

theorem SubmitMove.readFrom (move : SubmitMove py req stage e stage') (sound : e.Sound semantics)
    (read : stage.ReadFrom db₀ e.before.db) : stage'.ReadFrom db₀ e.after.db := by
  cases move with
  | idle quiet =>
    rw [after_eq_of_idle (isIdle_of_asksNoExchange quiet) sound]
    exact read
  | enter | refresh => exact read
  | own stored => exact ⟨read, read.accounts _ stored⟩
  | risk => exact read
  | settle trading _ _ _ noKey =>
    have flushed := (World.flush_ok sound).1
    have written := trading.written flushed
    refine ⟨fun account stored => ?_, fun secret stored => ?_⟩
    · exact read.1.accounts account (((trading.controls.keeps written).accounts account).mp stored)
    · exact read.1.secrets secret (mem_secrets_of_flush flushed trading.controls.stop noKey stored)
  | reload stored => exact ⟨read, read.accounts _ stored⟩
  | gate stored => exact ⟨read.2, read.1.secrets _ stored⟩
  | window | authorize => exact read
  | prepare => exact ⟨read.1, read.2⟩
  | miss | weigh | submit | hold | number | send | block => exact read
  | _ => exact True.intro

/-! ### What has become of the row -/

/-- Where the row of the request stands, on a database nobody else writes. -/
def SubmitStage.Stands (db₀ db : Db) : SubmitStage py req → Prop
  | .rejected row => row.status = .rejected
  | .vanished _ | .blocked _ _ _ _ => False
  | .failing _ row x sequenceNumber =>
    x = row ∧ row ∈ db.executions ∧ row.status = .submitted ∧ ¬ req.Unsignable db₀ ∧
      sequenceNumber = maxSequence row.id db.transitions.rows + 1
  | .sent _ row x _ =>
    x = row ∧ row ∈ db.executions ∧ row.status = .submitted ∧ ¬ req.Unsignable db₀
  | .failed row => StatusStored row .failed db ∧ TransitionLogged row .failed db ∧
      ¬ req.Unsignable db₀
  | _ => True

/-- The failure of a row that is stored as `SUBMITTED` is stored and logged. -/
theorem StatusWrite.failure {work : Work} {x : OrderExecution} {sequenceNumber : Nat}
    {before after : World} (write : StatusWrite work x .failed sequenceNumber)
    (flushed : semantics.flush work before = .ok after) (stored : x ∈ before.db.executions) :
    StatusStored x .failed after.db ∧ TransitionLogged x .failed after.db := by
  have flushed := (World.flush_ok flushed).1
  obtain ⟨y, hy, same, status⟩ := write.trading.executions_kept flushed stored
  have written := write.trading.written flushed
  rw [statusAfter_same rfl] at status
  obtain ⟨change, transition, rfl, -, execution, fromStatus, toStatus, -⟩ := write.work_eq
  refine ⟨⟨y, hy, same, status⟩, transition, ?_, execution, fromStatus, toStatus⟩
  exact (Table.mem_insertAll written.transitions).mpr (.inr (List.mem_singleton_self _))

theorem SubmitMove.stands {w₀ : World} {events : List (Event backend)}
    (sole : SoleSubmission py req w₀ events stage e.before)
    (move : SubmitMove py req stage e stage') (sound : e.Sound semantics)
    (read : stage.ReadFrom w₀.db e.before.db) (stands : stage.Stands w₀.db e.before.db) :
    stage'.Stands w₀.db e.after.db := by
  cases move with
  | idle quiet =>
    rw [after_eq_of_idle (isIdle_of_asksNoExchange quiet) sound]
    exact stands
  | reject _ status => exact status
  | vanish missing =>
    have stored := (sole.submitted _ _ rfl).1
    have other := Table.not_of_find?_none missing stored
    simp at other
  | number signable =>
    obtain ⟨rfl, stored, status⟩ := sole.held _ _ _ rfl
    exact ⟨rfl, stored, status, fun h => signable (read.unsignable_iff.mpr h), rfl⟩
  | @send before after adm row x prepared reply prepares signable =>
    obtain ⟨rfl, stored, status⟩ := sole.held _ _ _ rfl
    have same : after.db = before.db := db_eq_of_call (show answers _ _ reply _ from sound)
    refine ⟨rfl, ?_, status, fun h => signable (read.unsignable_iff.mpr h)⟩
    change x ∈ after.db.executions
    rw [same]
    exact stored
  | failSent write =>
    obtain ⟨rfl, stored, -, signable⟩ := stands
    obtain ⟨failed, logged⟩ := write.failure sound stored
    exact ⟨failed, logged, signable⟩
  | fail write =>
    obtain ⟨rfl, stored, -, signable, -⟩ := stands
    obtain ⟨failed, logged⟩ := write.failure sound stored
    exact ⟨failed, logged, signable⟩
  | @block work world _ _ _ _ _ write =>
    obtain ⟨rfl, -, -, -, rfl⟩ := stands
    obtain ⟨change, transition, rfl, -, execution, -, -, sequence⟩ := write.work_eq
    -- nobody else has written a transition since the number was chosen
    obtain ⟨after, accepted⟩ := Db.flush_transition world.db transition rfl
      (by rw [execution, sequence]; exact Nat.lt_succ_self _)
    have flushed : semantics.flush _ world = .ok _ := congrArg (Except.map _) accepted
    cases flushed.symm.trans sound
  | _ => exact True.intro

/-! ### The whole request -/

/-- The order was sent, and its answer is not recorded as a failure. -/
def SubmitStage.isAnswered : SubmitStage py req → Bool
  | .sent .. | .accepted _ => true
  | _ => false

/-- The row that was committed as `SUBMITTED` is the row of the request, and stands as said. -/
structure StandingSubmission (py : Platform) (req : SubmitRequest) (w₀ : World)
    (events : List (Event backend)) (stage : SubmitStage py req) (w : World) : Prop
    extends SoleSubmission py req w₀ events stage w where
  read : stage.ReadFrom w₀.db w.db
  stands : stage.Stands w₀.db w.db
  known : ∀ work before after, .commit work before after ∈ events →
    ∀ row ∈ work.executions, row.status = .submitted → stage.row? = some row
  answered : stage.isAnswered = true → ∃ e ∈ events, sendsNothing e = false

theorem StandingSubmission.start (w₀ : World) : StandingSubmission py req w₀ [] .start w₀ where
  toSoleSubmission := .start w₀
  read := ⟨fun _ h => h, fun _ h => h⟩
  stands := True.intro
  known _ _ _ h := (List.not_mem_nil h).elim
  answered h := nomatch h

theorem SubmitMove.answered (move : SubmitMove py req stage e stage') (settled : stage ≠ .lost)
    (answered : stage'.isAnswered = true) : stage.isAnswered = true ∨ sendsNothing e = false := by
  cases move with
  | idle => exact .inl answered
  | wander => exact absurd rfl settled
  | send => exact .inr rfl
  | accept => exact .inl rfl
  | _ => cases answered

theorem StandingSubmission.step {w₀ : World} {events : List (Event backend)}
    (standing : StandingSubmission py req w₀ events stage e.before)
    (move : SubmitMove py req stage e stage') (sound : e.Sound semantics) :
    StandingSubmission py req w₀ (events ++ [e]) stage' e.after where
  toSoleSubmission := standing.toSoleSubmission.step move sound
  read := move.readFrom sound standing.read
  stands := move.stands standing.toSoleSubmission sound standing.read standing.stands
  known work before after committed row inserted status := by
    have settled := standing.inv.notLost ()
    rcases List.mem_append.mp committed with earlier | last
    · exact (move.effect sound settled).row_kept
        (standing.known work before after earlier row inserted status)
    · rw [← List.mem_singleton.mp last] at move
      obtain ⟨adm, settings, -, created, -⟩ := move.weighed_of_submitted settled inserted status
      exact created
  answered later := by
    rcases move.answered (standing.inv.notLost ()) later with before | sent
    · obtain ⟨e', he, sent⟩ := standing.answered before
      exact ⟨e', List.mem_append_left _ he, sent⟩
    · exact ⟨e, List.mem_append_right _ (List.mem_singleton_self e), sent⟩

/-- The stage a request ends in. -/
theorem standing_of_run {w w' : World} {outcome : Except Exc TestnetOrderSubmitResponse × Session}
    {trace : List (Event backend)}
    (ran : Prog.Run semantics (req.service py).run w trace (.done outcome) w') :
    ∃ stage : SubmitStage py req, StandingSubmission py req w trace stage w' ∧ stage.MayEnd := by
  obtain ⟨stage, path, done⟩ := ran.path (submitTestnetOrder_follows py req)
  refine ⟨stage, ?_, ?_⟩
  · refine path.invariant
      (fun events stage world => StandingSubmission py req w events stage world) (.start w) ?_
    intro events stage e stage' standing move sound
    exact standing.step move sound
  · obtain ⟨outcome, s⟩ := outcome
    cases outcome with
    | error raised => exact done
    | ok response => cases done <;> exact True.intro

/-! ### Sample requests -/

/-- The rate limiter has lost its store; all else is as the exchange wants it. -/
def storelessEnvironment {ι : Type} : Script backend ι where
  reply step i world
    | .acquireTestnetOrder .. => (.storeUnavailable, world)
    | query => (environment takingExchange).reply step i world query

theorem storelessEnvironment_allowed {ι : Type} :
    (storelessEnvironment : Script backend ι).Allowed semantics := by
  intro step i world query allowed
  cases query with
  | acquireTestnetOrder => exact .inl rfl
  | _ => exact environment_allowed takingExchange step i world _ allowed

/-- A world in which an order of one unit is approved, on an account with the key given. -/
def keyedWorld (exchangeName : ExchangeName) (secret : ApiKeySecret) : World :=
  { db := { (approvedWorld exchangeName "BTCUSDT" []).db with secrets := oneRow secret } }

def unsentRun (exchangeName : ExchangeName) (secret : ApiKeySecret) :
    Trace backend Unit × Config backend fun _ : Unit =>
      Except Exc TestnetOrderSubmitResponse × Session :=
  Config.replay semantics storelessEnvironment 0 (List.replicate 40 ())
    (submitting asciiPlatform (fun _ => wholeOrder) (keyedWorld exchangeName secret))

theorem unsentRun_run (exchangeName : ExchangeName) (secret : ApiKeySecret) :
    Prog.Run semantics (wholeOrder.service asciiPlatform).run (keyedWorld exchangeName secret)
      ((unsentRun exchangeName secret).1.map Prod.snd) ((unsentRun exchangeName secret).2.client ())
      (unsentRun exchangeName secret).2.store :=
  (Config.replay_reaches storelessEnvironment_allowed (List.replicate 40 ()) 0
    (submitting asciiPlatform (fun _ => wholeOrder) (keyedWorld exchangeName secret))).alone

/-- An execution is committed as `SUBMITTED`. -/
def submitsRow : Event backend → Bool
  | .commit work _ _ => work.executions.any (·.status = .submitted)
  | _ => false

theorem exists_of_submitsRow {events : List (Event backend)}
    (submits : events.any submitsRow = true) :
    ∃ work before after row, .commit work before after ∈ events ∧ row ∈ work.executions ∧
      row.status = .submitted := by
  obtain ⟨e, he, submits⟩ := List.any_eq_true.mp submits
  cases e with
  | commit work before after =>
    obtain ⟨row, inserted, status⟩ := List.any_eq_true.mp submits
    exact ⟨work, before, after, row, he, inserted, by simpa using status⟩
  | _ => cases submits

/-! ### The guarantee -/

/-- A request that commits its execution as `SUBMITTED` and ends without asking the exchange leaves
it `FAILED`, with the step logged, unless the order cannot be signed. -/
theorem unsent_submission_failed_iff {w w' : World}
    {outcome : Except Exc TestnetOrderSubmitResponse × Session} {trace : List (Event backend)}
    (ran : Prog.Run semantics (req.service py).run w trace (.done outcome) w')
    (unsent : ∀ e ∈ trace, sendsNothing e = true) {work : Work} {before after : World}
    {row : OrderExecution} (committed : .commit work before after ∈ trace)
    (inserted : row ∈ work.executions) (status : row.status = .submitted) :
    StatusStored row .failed w'.db ∧ TransitionLogged row .failed w'.db ↔
      ¬ req.Unsignable w.db := by
  obtain ⟨stage, standing, ends⟩ := standing_of_run ran
  have hrow := standing.known work before after committed row inserted status
  have stands := standing.stands
  have notAnswered : stage.isAnswered = false := by
    by_contra answered
    rw [Bool.not_eq_false] at answered
    obtain ⟨e, he, sent⟩ := standing.answered answered
    cases sent.symm.trans (unsent e he)
  cases stage with
  | rejected => cases hrow; cases status.symm.trans stands
  | submitted | failing => exact ends.elim
  | vanished | blocked => exact stands.elim
  | sent | accepted => cases notAnswered
  | held adm submitted x =>
    cases hrow
    obtain ⟨rfl, stored, -⟩ := standing.held _ _ _ rfl
    have unsignable : req.Unsignable w.db := by
      rcases ends with unsignable | moved
      · exact standing.read.unsignable_iff.mp unsignable
      · exact absurd status moved
    refine iff_of_false ?_ (not_not_intro unsignable)
    rintro ⟨⟨y, hy, same, failed⟩, -⟩
    rw [execution_unique hy stored same.id, status] at failed
    cases failed
  | failed => cases hrow; exact iff_of_true ⟨stands.1, stands.2.1⟩ stands.2.2
  | _ => cases hrow

end

/-- The rate limiter fails, and the execution of a Binance order is left `FAILED`. -/
theorem unsent_submission_failed_iff_storeless :
    ∃ trace outcome w', Prog.Run semantics (wholeOrder.service asciiPlatform).run
        (keyedWorld .binance sampleSecret) trace (.done outcome) w' ∧
      ∃ row : OrderExecution, row.status = .submitted ∧ StatusStored row .failed w'.db ∧
        TransitionLogged row .failed w'.db := by
  have ran := unsentRun_run .binance sampleSecret
  obtain ⟨exc, refused⟩ : ∃ exc, raised ((unsentRun .binance sampleSecret).2.client ()) = some exc :=
    Option.isSome_iff_exists.mp (by decide +kernel)
  obtain ⟨s, done⟩ := done_of_raised refused
  rw [done] at ran
  have unsent : ∀ e ∈ (unsentRun .binance sampleSecret).1.map Prod.snd, sendsNothing e = true := by
    decide +kernel
  obtain ⟨work, before, after, row, committed, inserted, status⟩ :=
    exists_of_submitsRow (show ((unsentRun .binance sampleSecret).1.map Prod.snd).any submitsRow =
      true by decide +kernel)
  refine ⟨_, _, _, ran, row, status, ?_⟩
  refine (unsent_submission_failed_iff ran unsent committed inserted status).mpr ?_
  rintro ⟨⟨account, stored, -, okx⟩, -⟩
  rw [List.mem_singleton.mp stored] at okx
  cases okx

/-- The key of an OKX account without a passphrase. -/
def bareSecret : ApiKeySecret := { sampleSecret with encryptedPassphrase := none }

/-- The order cannot be signed, and its execution stays `SUBMITTED`. -/
theorem unsignable_submission_stays_submitted :
    ∃ world trace outcome w' work before after row, Prog.Run semantics
        (wholeOrder.service asciiPlatform).run world trace (.done outcome) w' ∧
      (∀ e ∈ trace, sendsNothing e = true) ∧ .commit work before after ∈ trace ∧
      row ∈ work.executions ∧ row.status = .submitted ∧
      ¬ (StatusStored row .failed w'.db ∧ TransitionLogged row .failed w'.db) := by
  have ran := unsentRun_run .okx bareSecret
  obtain ⟨exc, refused⟩ : ∃ exc, raised ((unsentRun .okx bareSecret).2.client ()) = some exc :=
    Option.isSome_iff_exists.mp (by decide +kernel)
  obtain ⟨s, done⟩ := done_of_raised refused
  rw [done] at ran
  obtain ⟨work, before, after, row, committed, inserted, status⟩ :=
    exists_of_submitsRow (show ((unsentRun .okx bareSecret).1.map Prod.snd).any submitsRow =
      true by decide +kernel)
  have pending : ∀ x ∈ (unsentRun .okx bareSecret).2.store.db.executions.rows,
      x.status = .submitted := by decide +kernel
  refine ⟨_, _, _, _, work, before, after, row, ran, by decide +kernel, committed, inserted, status, ?_⟩
  rintro ⟨⟨x, stored, -, failed⟩, -⟩
  cases (pending x stored).symm.trans failed

end CopyTrading
