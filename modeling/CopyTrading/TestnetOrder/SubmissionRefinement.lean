import CopyTrading.TestnetOrder.SubmissionProtocol

/-!
`submit_testnet_order` follows its protocol: the preflight checks, the insert of the row,
the request to the exchange, and the theorem about the whole handler.
-/

namespace CopyTrading

open Transaction Transaction.Handler DecimalArith

variable {py : Platform} {req : SubmitRequest} {s : Session}

/-- The postcondition of a stage: after an exception the request may end where it is. -/
def Ending {α : Type} (post : α → Session → SubmitStage py req → Prop) :
    Except Exc α → Session → SubmitStage py req → Prop
  | .ok value, s, stage => post value s stage
  | .error _, _, stage => stage.MayEnd

/-- The phases in which nothing is left to be sent or was sent: those a request that is still
recording its submission may end in. -/
def SubmitStage.Unsent : SubmitStage py req → Prop
  | .submitted .. | .held .. | .failing .. | .blocked .. | .sent .. | .accepted _ | .failed _ => False
  | _ => True

theorem SubmitStage.Unsent.mayEnd {stage : SubmitStage py req} (unsent : stage.Unsent) :
    stage.MayEnd := by
  cases stage <;> first | exact True.intro | exact unsent.elim

/-- The same while the submission is recorded. -/
def Recording {α : Type} (post : α → Session → SubmitStage py req → Prop) :
    Except Exc α → Session → SubmitStage py req → Prop
  | .ok value, s, stage => post value s stage
  | .error _, _, stage => stage.Unsent

/-! ### The preflight checks -/

/-- Risk settings and account are loaded; missing settings are committed in between. -/
theorem follows_loadControls_bind {α : Type} {account : ExchangeAccount}
    {post : α → Session → SubmitStage py req → Prop}
    {next : RiskSetting → ExchangeAccount → Service α}
    (accountId : account.id = req.payload.exchangeAccountId)
    (rest : ∀ settings account', account'.id = account.id →
      Follows (submitProtocol py req) semantics (next settings account') (Recording post)
        { accounts := [⟨account', {}⟩] } (.risked account' settings)) :
    Follows (submitProtocol py req) semantics
      (do
        let settings ← getOrCreateRiskSettings req.userId account.id
        let account' ← Session.account account.id
        next settings account')
      (Recording post) { accounts := [⟨account, {}⟩] } (.owned account) := by
  refine follows_getOrCreateRiskSettings_bind (fun world settings stored user haccount => ?_)
    fun world => ⟨_, .idle rfl, ?_⟩
  · refine ⟨_, .risk stored user (haccount.trans accountId), ?_⟩
    rw [follows_account_held rfl]
    exact rest settings account rfl
  · rw [follows_commit_bind]
    refine ⟨fun before after _ => ⟨.settled, .settle ?_ rfl rfl (by rw [← accountId]; rfl)
        ⟨rfl, rfl, rfl⟩, ?_⟩,
      fun world fault _ => ⟨_, .idle rfl, True.intro⟩⟩
    · refine Session.tradingWork [] [] _ rfl (by simp [Session.addingRiskSettings]) ?_
        (by simp [StatusWork, Session.addingRiskSettings]) (by simp)
      intro settings hsettings
      rw [List.mem_singleton.mp hsettings]
      rfl
    · refine follows_refreshRiskSetting_bind (fun world => ⟨_, .idle rfl, True.intro⟩) ?_
      intro world settings stored haccount
      refine ⟨_, .refresh stored (haccount.trans accountId), ?_⟩
      refine follows_account_expired rfl (fun world => ⟨_, .idle rfl, True.intro⟩) ?_
      intro world account' stored' haccount'
      exact ⟨_, .reload stored' (haccount'.trans accountId), rest settings account' haccount'⟩

/-- The window check: the latest approval is read, then the clock. -/
theorem authorizeWindow_follows {account : ExchangeAccount} {secret : ApiKeySecret} :
    Follows (submitProtocol py req) semantics
      (authorizeWindow py req.userId req.payload account.id)
      (Recording fun authorization s' stage => s' = s ∧ ∃ log now,
        stage = .authorized account secret log now ∧ isApprovalFor req.userId account.id log ∧
        windowReasons py (windowOrder req.payload) log now = .ok [] ∧
        authorization.auditLogId = log.id)
      s (.gated account secret) := by
  unfold authorizeWindow
  refine Follows.tryCatch (Recording fun authorization s' stage => s' = s ∧ ∃ log now,
      stage = .authorized account secret log now ∧ isApprovalFor req.userId account.id log ∧
      windowReasons py (windowOrder req.payload) log now = .ok [] ∧
      authorization.auditLogId = log.id) ?_ (fun _ _ _ h => h) fun raised s' stage ends => ?_
  · unfold requireValidTestnetOrderWindowAuthorization
    refine follows_query_bind.mpr fun world => ?_
    cases hlatest : latestApproval req.userId account.id world.db with
    | none => exact ⟨_, .idle rfl, True.intro⟩
    | some log =>
      have approvalFor : isApprovalFor req.userId account.id log := by
        have hmem := mem_of_latestOf hlatest
        exact (List.mem_filter.mp hmem).2
      refine ⟨_, .window hlatest, ?_⟩
      refine follows_ask_bind.mpr fun _ now _ _ => ?_
      cases hreasons : windowReasons py (windowOrder req.payload) log now with
      | error raised => exact ⟨_, .idle rfl, True.intro⟩
      | ok reasons =>
        by_cases hempty : reasons = []
        · subst hempty
          exact ⟨_, .authorize hreasons, rfl, log, now, rfl, approvalFor, hreasons, rfl⟩
        · refine ⟨_, .idle rfl, ?_⟩
          refine follows_ofExcept_bind (fun _ _ => True.intro) fun reasons' same => ?_
          cases same
          exact follows_raiseIf_bind (fun _ => True.intro) fun none => absurd hempty none
  · cases raised <;> exact ends

/-- A request whose checks pass is in the phase `ready`, with the context it has built. -/
theorem buildTestnetOrderApiContext_follows :
    Follows (submitProtocol py req) semantics
      (buildTestnetOrderApiContext py req.userId req.payload req.testnetAdaptersEnabled)
      (Recording fun context s' stage => ∃ adm : Admission py req, stage = .ready adm ∧
        context = adm.context ∧
        s' = { accounts := [⟨adm.context.account, {}⟩], secrets := [⟨adm.secret, {}⟩] })
      {} .admitted := by
  unfold buildTestnetOrderApiContext
  refine follows_getOwnedAccount_bind rfl (fun world => ⟨_, .idle rfl, True.intro⟩) ?_
  intro world owned stored accountId _
  refine ⟨_, .own stored accountId, ?_⟩
  refine follows_loadControls_bind accountId fun settings account same => ?_
  refine follows_getApiKeySecretMetadata_bind rfl (fun world => ⟨_, .idle rfl, ?_⟩) ?_
  · refine follows_raiseIf_bind (fun _ => True.intro) fun passed => ?_
    obtain ⟨-, -, -, configured⟩ := gate_approved (by simpa using passed)
    cases configured
  intro world secret hsecret _ secretFor
  -- the phase the query leads to says whether the gate has approved
  by_cases approved : (checkTestnetOrderGate
      (gateInput req.payload req.testnetAdaptersEnabled account settings true)).approved = true
  swap
  · refine ⟨_, .idle rfl, ?_⟩
    exact follows_raiseIf_bind (fun _ => True.intro) fun passed =>
      absurd (by simpa using passed) approved
  obtain ⟨supported, accountOn, riskOn, -⟩ := gate_approved approved
  refine ⟨_, .gate hsecret secretFor accountOn riskOn, ?_⟩
  refine follows_raiseIf_bind (fun refused => absurd (approved.symm.trans refused) (by decide))
    fun _ => ?_
  refine authorizeWindow_follows.bind ?_ fun _ _ _ ends => ends
  rintro authorization s' stage ⟨rfl, log, now, rfl, approvalFor, reasons, auditLogId⟩
  rw [← secretFor]
  refine follows_getExchangeCredentials_held rfl (fun world => ⟨_, .idle rfl, True.intro⟩)
    (fun world => ⟨_, .idle rfl, True.intro⟩) fun credentials passphrase world => ?_
  let adm : Admission py req :=
    { context :=
        { account, order := requestInput req.payload account.exchangeName
          gateResult := checkTestnetOrderGate
            (gateInput req.payload req.testnetAdaptersEnabled account settings true)
          credentials, authorization }
      secret, log, now, accountId := same.trans accountId, order := rfl, approved, supported
      accountOn, secretFor, passphrase, approvalFor, reasons, auditLogId }
  exact ⟨.ready adm, @SubmitMove.prepare py req _ adm, adm, rfl, rfl, rfl⟩

/-! ### Recording the submission -/

variable {adm : Admission py req}

/-- The session of a request whose checks have passed. -/
def Admission.session (adm : Admission py req) : Session :=
  { accounts := [⟨adm.context.account, {}⟩], secrets := [⟨adm.secret, {}⟩] }

/-- The same with a signal, its execution and their log pending as inserts. -/
def Admission.adding (adm : Admission py req) (signal : TradingSignal) (row : OrderExecution)
    (transitions : List OrderExecutionTransition) : Session :=
  { adm.session with work := { signals := [signal], executions := [row], transitions } }

/-- The signal a submission adds names the approval. -/
structure SubmissionSignal (adm : Admission py req) (signal : TradingSignal)
    (row : OrderExecution) : Prop where
  id : signal.id = row.signalId
  userId : signal.userId = req.userId
  rawPayload : signal.rawPayload = submissionPayload adm.log.id

/-- In the phase `lost` nothing is asked of the rest. -/
theorem follows_lost {α : Type} {post : Except Exc α → Session → SubmitStage py req → Prop}
    (handler : Service α) (ends : ∀ outcome s', post outcome s' .lost) :
    Follows (submitProtocol py req) semantics handler post s .lost := by
  unfold Follows
  induction handler s with
  | done outcome => exact ends _ _
  | read next ih => exact fun world => ⟨_, .wander, ih world⟩
  | commit work next ih =>
    constructor
    · exact fun _ _ _ => ⟨_, .wander, ih _⟩
    · exact fun _ _ _ => ⟨_, .wander, ih _⟩
  | call query next ih => exact fun _ answer _ _ => ⟨_, .wander, ih answer⟩

/-- A transition of the execution that is pending as an insert. -/
theorem follows_transition_pending {α : Type} {signal : TradingSignal} {row : OrderExecution}
    {transitions : List OrderExecutionTransition} {toStatus : OrderExecutionStatus}
    {reason : String} {stage : SubmitStage py req} {next : Unit → Service α}
    {post : α → Session → SubmitStage py req → Prop} (ends : stage.Unsent)
    (logged : ∀ transitions', Follows (submitProtocol py req) semantics (next ()) (Recording post)
      (adm.adding signal { row with status := toStatus } transitions') stage) :
    Follows (submitProtocol py req) semantics
      (transitionOrderExecution row.id toStatus reason >>= next) (Recording post)
      (adm.adding signal row transitions) stage :=
  follows_transition_added rfl rfl (fun _ _ => ends) (fun _ _ => ends)
    fun _ _ _ => ⟨_, .idle rfl, logged _⟩

/-- The signal and the execution are added and sent to the database. -/
theorem addSubmission_follows :
    Follows (submitProtocol py req) semantics (addSubmission py req.userId adm.context)
      (Recording fun id s' stage => stage = .absent adm ∧ ∃ signal row transitions,
        id = row.id ∧ s' = adm.adding signal row transitions ∧ SubmissionRow adm row ∧
        SubmissionSignal adm signal row)
      adm.session (.absent adm) := by
  unfold addSubmission
  refine follows_ask_bind.mpr fun _ signalId _ _ => ⟨_, .idle rfl, ?_⟩
  refine follows_toOptionalColumn_bind True.intro fun price hprice => ?_
  refine follows_toColumn_bind True.intro fun quantity hquantity => ?_
  rw [follows_add_bind]
  refine follows_flush_bind fun world => ⟨_, .idle rfl, ?_, True.intro⟩
  refine follows_ask_bind.mpr fun _ id _ _ => ⟨_, .idle rfl, ?_⟩
  refine follows_ask_bind.mpr fun _ executionId _ _ => ⟨_, .idle rfl, ?_⟩
  rw [follows_add_bind]
  refine follows_flush_bind fun world => ⟨_, .idle rfl, ?_, True.intro⟩
  generalize hsignal : submissionSignal py req.userId adm.context signalId price quantity = signal
  generalize hrow : submissionExecution py req.userId adm.context signalId id executionId price
    quantity = row
  have hid : id = row.id := by rw [← hrow]; rfl
  have signalOf : SubmissionSignal adm signal row := by
    rw [← hsignal, ← hrow]
    constructor
    · rfl
    · rfl
    · simp [submissionSignal, adm.auditLogId]
  unfold recordInitialOrderState
  rw [hid]
  simp only [bind_assoc]
  rw [follows_execution_added rfl]
  refine follows_raiseIf_bind (fun _ => True.intro) fun _ => ?_
  refine follows_addTransition_bind (fun _ _ => True.intro) fun saved world => ⟨_, .idle rfl, ?_⟩
  have rowOf : SubmissionRow adm row := by
    rw [adm.order] at hquantity hprice
    subst hrow
    constructor
    · exact saved
    · rfl
    · rfl
    · rfl
    · simp [submissionExecution, adm.order, requestInput]
    · simp [submissionExecution, adm.order, requestInput]
    · simp [submissionExecution, adm.order, requestInput]
    · simp [submissionExecution, adm.order, requestInput]
    · exact hquantity
    · exact hprice
  exact ⟨rfl, signal, row, _, rfl, rfl, rowOf, signalOf⟩

/-- The unit of work of a submission that is committed. -/
theorem Admission.submissionWork {signal : TradingSignal} {row : OrderExecution}
    (transitions : List OrderExecutionTransition) (rowOf : SubmissionRow adm row)
    (signalOf : SubmissionSignal adm signal row) :
    SubmissionWork adm (adm.adding signal row transitions).pending row where
  trading := by
    refine Session.tradingWork transitions [] [] rfl ?_ (by simp) ?_ (by simp)
    · simp [Admission.adding, Admission.session]
    · simp [Admission.adding, Admission.session, StatusWork]
  noPosition := rfl
  rowOf := rowOf
  signal := ⟨signal, rfl, signalOf.id, signalOf.userId, signalOf.rawPayload⟩

/-- What the recording of a submission leads to: an execution that was there, the row that has
been committed as `SUBMITTED` and loaded again, or risk settings that are gone. -/
inductive SubmissionRecorded (adm : Admission py req) :
    TestnetSubmissionRecord → Session → SubmitStage py req → Prop where
  | replayed {row : OrderExecution} : SubmissionRecorded adm ⟨row.id, true⟩
      { adm.session with executions := [⟨row, {}⟩] } (.replayed row)
  | held {row x : OrderExecution} {id : String} (recorded : id = row.id) (same : x.id = row.id)
      (saved : row.id ≠ "") :
      SubmissionRecorded adm ⟨id, false⟩ { executions := [⟨x, {}⟩] } (.held adm row x)
  | lost {record : TestnetSubmissionRecord} {s : Session} : SubmissionRecorded adm record s .lost

section Recording

variable {signal : TradingSignal} {row : OrderExecution} {settings : RiskSetting}
  {transitions : List OrderExecutionTransition}

theorem SubmissionRow.congr {row' : OrderExecution} (rowOf : SubmissionRow adm row)
    (same : SameOrder row' row) : SubmissionRow adm row' where
  saved := same.id ▸ rowOf.saved
  userId := same.userId.trans rowOf.userId
  accountId := same.exchangeAccountId.trans rowOf.accountId
  exchangeName := same.exchangeName.trans rowOf.exchangeName
  clientOrderId := same.clientOrderId.trans rowOf.clientOrderId
  symbol := same.symbol.trans rowOf.symbol
  side := same.side.trans rowOf.side
  orderType := same.orderType.trans rowOf.orderType
  quantity := same.quantity ▸ rowOf.quantity
  price := same.price ▸ rowOf.price

theorem SubmissionSignal.congr {row' : OrderExecution} (signalOf : SubmissionSignal adm signal row)
    (same : SameOrder row' row) : SubmissionSignal adm signal row' where
  id := signalOf.id.trans same.signalId.symm
  userId := signalOf.userId
  rawPayload := signalOf.rawPayload

theorem sameOrder_status (status : OrderExecutionStatus) (row : OrderExecution) :
    SameOrder { row with status } row := ⟨rfl, rfl, rfl, rfl, rfl, rfl, rfl, rfl⟩

theorem rejectSubmission_follows {result : RiskCheckResult} (rowOf : SubmissionRow adm row)
    (signalOf : SubmissionSignal adm signal row) :
    Follows (submitProtocol py req) semantics (rejectSubmission row.id result)
      (Recording (SubmissionRecorded adm)) (adm.adding signal row transitions)
      (.weighed adm settings) := by
  unfold rejectSubmission
  rw [follows_setExecution_bind, Session.setting_added rfl rfl]
  have same := sameOrder_apply
    { errorMessage := some (some (String.intercalate "; " result.reasons)) } row
  generalize Row.apply _ row = changed at same ⊢
  rw [← same.id]
  refine follows_transition_pending True.intro fun transitions' => ?_
  have rejected := (sameOrder_status .rejected changed).trans same
  rw [follows_commit_bind]
  refine ⟨fun before after _ => ?_, fun world fault _ => ⟨_, .idle rfl, True.intro⟩⟩
  refine ⟨_, .reject (adm.submissionWork transitions' (rowOf.congr rejected)
    (signalOf.congr rejected)) rfl, ?_⟩
  rw [Handler.discard_bind]
  refine follows_loadExecution_bind (fun world => ⟨_, .idle rfl, True.intro⟩) ?_
  exact fun world x _ _ => ⟨_, .idle rfl, True.intro⟩

/-- The row is committed as `SUBMITTED` and loaded again. -/
theorem startSubmission_follows (rowOf : SubmissionRow adm row)
    (signalOf : SubmissionSignal adm signal row)
    (passed : RiskPassed adm.context.account settings (submissionRiskInput py adm.context) true) :
    Follows (submitProtocol py req) semantics (startSubmission row.id)
      (Recording (SubmissionRecorded adm)) (adm.adding signal row transitions)
      (.weighed adm settings) := by
  unfold startSubmission
  refine follows_transition_pending True.intro fun transitions' => ?_
  have riskPassed := sameOrder_status .riskPassed row
  generalize ({ row with status := .riskPassed } : OrderExecution) = changed at riskPassed ⊢
  rw [← riskPassed.id]
  refine follows_transition_pending True.intro fun transitions'' => ?_
  have submitted := (sameOrder_status .submitted changed).trans riskPassed
  rw [follows_commit_bind]
  refine ⟨fun before after _ => ?_, fun world fault _ => ⟨_, .idle rfl, True.intro⟩⟩
  refine ⟨_, .submit (adm.submissionWork transitions'' (rowOf.congr submitted)
    (signalOf.congr submitted)) rfl passed, ?_⟩
  rw [Handler.discard_bind]
  refine follows_refreshExecution_bind (fun world missing => ?_) fun world x stored same => ?_
  · refine ⟨_, .vanish ?_, True.intro⟩
    exact missing
  · exact ⟨_, .hold stored same, .held rfl same (rowOf.congr submitted).saved⟩

/-- The risk check on the settings of the account decides what becomes of the row. -/
theorem weighSubmission_follows (rowOf : SubmissionRow adm row)
    (signalOf : SubmissionSignal adm signal row) :
    Follows (submitProtocol py req) semantics
      (do
        let settings ← getOrCreateRiskSettings req.userId adm.context.account.id
        let account ← Session.account adm.context.account.id
        let result ← Handler.ofExcept <|
          checkOrderRisk account settings (submissionRiskInput py adm.context) true
        discard <| Session.execution row.id
        Session.setExecution row.id fun change => { change with riskResult := some result.toDict }
        if result.decision ≠ .passed then rejectSubmission row.id result else startSubmission row.id)
      (Recording (SubmissionRecorded adm)) (adm.adding signal row transitions) (.absent adm) := by
  unfold getOrCreateRiskSettings
  rw [bind_assoc]
  refine follows_query_bind.mpr fun world => ?_
  cases hfind : riskSettingOf req.userId adm.context.account.id world.db with
  | none =>
    rw [adm.accountId] at hfind
    refine ⟨_, .lose hfind, follows_lost _ ?_⟩
    rintro (_ | _) s'
    · exact True.intro
    · exact .lost
  | some settings =>
    have hrow := Table.holds_of_find? hfind
    simp only [decide_eq_true_eq] at hrow
    refine ⟨_, .weigh (Table.mem_of_find? hfind) (hrow.2.trans adm.accountId), ?_⟩
    rw [pure_bind, follows_account_held rfl]
    refine follows_ofExcept_bind (fun _ _ => True.intro) fun result checked => ?_
    rw [Handler.discard_bind, follows_execution_added rfl, follows_setExecution_bind,
      Session.setting_added rfl rfl]
    have same := sameOrder_apply { riskResult := some result.toDict } row
    generalize Row.apply _ row = changed at same ⊢
    rw [← same.id]
    by_cases passed : result.decision = .passed
    · rw [if_neg (not_not.mpr passed)]
      exact startSubmission_follows (rowOf.congr same) (signalOf.congr same)
        (checkOrderRisk_passed checked passed)
    · rw [if_pos passed]
      exact rejectSubmission_follows (rowOf.congr same) (signalOf.congr same)

end Recording

theorem createOrGetTestnetSubmissionExecution_follows :
    Follows (submitProtocol py req) semantics
      (createOrGetTestnetSubmissionExecution py req.userId adm.context)
      (Recording (SubmissionRecorded adm)) adm.session (.ready adm) := by
  unfold createOrGetTestnetSubmissionExecution
  refine follows_query_bind.mpr fun world => ?_
  cases hfind : executionByClientOrderId adm.context.order.clientOrderId world.db with
  | none =>
    refine ⟨_, .miss, ?_⟩
    refine addSubmission_follows.bind ?_ fun _ _ _ ends => ends
    rintro id s' stage ⟨rfl, signal, row, transitions, rfl, rfl, rowOf, signalOf⟩
    exact weighSubmission_follows rowOf signalOf
  | some row =>
    have hrow := Table.holds_of_find? hfind
    simp only [decide_eq_true_eq] at hrow
    have hid : row.clientOrderId = req.payload.clientOrderId := by
      rw [hrow, adm.order]
      rfl
    -- the phase the query leads to says whether the row is the caller's
    by_cases others : row.userId ≠ req.userId ∨ row.exchangeAccountId ≠ adm.context.account.id ∨
        row.exchangeName ≠ adm.context.account.exchangeName.value
    · refine ⟨_, .idle rfl, ?_⟩
      rw [follows_holdExecution_bind rfl]
      exact follows_raiseIf_bind (fun _ => True.intro) fun own => absurd others own
    · simp only [not_or, ne_eq, not_not] at others
      refine ⟨_, .replay (Table.mem_of_find? hfind) hid others.1 (others.2.1.trans adm.accountId), ?_⟩
      rw [follows_holdExecution_bind rfl]
      refine follows_raiseIf_bind (fun _ => True.intro) fun _ => ?_
      exact .replayed

/-! ### Asking the exchange -/

/-- A price is needed to pass the window check. -/
theorem Admission.priced (adm : Admission py req) : adm.context.order.price.isSome := by
  obtain ⟨price, -, hprice, -⟩ := (windowReasons_nil adm.reasons).notional
  rw [adm.order]
  exact Option.isSome_iff_exists.mpr ⟨price, hprice⟩

variable {row x : OrderExecution}

/-- What an exception leaves of a submission that was to be sent: an order that was not sent for
want of a passphrase or of capacity, an answer whose failure is still to be recorded, or
anything that no clause records. -/
inductive SendRaised (adm : Admission py req) (row x : OrderExecution) :
    Exc → Session → SubmitStage py req → Prop where
  | unsignable {message : String} {s : Session} (unsignable : adm.Unsignable) :
      SendRaised adm row x (.valueError message) s (.held adm row x)
  | limited {ruleName : String} {retryAfterSeconds : Nat} (signable : ¬ adm.Unsignable) :
      SendRaised adm row x (.rateLimitExceeded ruleName retryAfterSeconds)
        { executions := [⟨x, {}⟩] } (.held adm row x)
  | unavailable (signable : ¬ adm.Unsignable) :
      SendRaised adm row x .rateLimitStoreUnavailable { executions := [⟨x, {}⟩] } (.held adm row x)
  | answered {raised : Exc} {reply : HttpReply}
      (records : raised.isValueError = false → raised.isRuntimeError = true →
        x.status = .submitted → recordsFailure py x.exchangeName reply = true) :
      SendRaised adm row x raised { executions := [⟨x, {}⟩] } (.sent adm row x reply)
  | other {raised : Exc} {s : Session} {stage : SubmitStage py req} (ends : stage.MayEnd)
      (unrecorded : raised.isRuntimeError = false) : SendRaised adm row x raised s stage

/-- The answer of the exchange is recorded as an acceptance. -/
theorem recordTestnetSubmissionAccepted_follows {reply : HttpReply} {response : Json}
    (saved : x.id ≠ "") (read : readReply py reply = .ok response) :
    Follows (submitProtocol py req) semantics
      (recordTestnetSubmissionAccepted py x.id response)
      (fun outcome s' stage => match outcome with
        | .ok _ => stage = .accepted row
        | .error raised => SendRaised adm row x raised s' stage)
      { executions := [⟨x, {}⟩] } (.sent adm row x reply) := by
  unfold recordTestnetSubmissionAccepted
  rw [follows_execution_held rfl rfl]
  change Follows _ _ (Handler.ofExcept (raiseForExchangeRejection x.exchangeName _) >>= _) _ _ _
  refine follows_ofExcept_bind (fun raised rejected => ?_) fun _ _ => ?_
  · refine .answered fun noValue runtime _ => ?_
    unfold recordsFailure
    rw [read]
    simp only [rejected, noValue, runtime, Bool.not_false, Bool.and_self]
  refine follows_raiseIf_bind (fun moved => ?_) fun submitted => ?_
  · exact .answered fun _ _ submitted => absurd submitted moved
  have decided : x.status = .submitted := not_not.mp submitted
  -- what the columns refuse is a `DataError`, which no clause records
  refine follows_refuseIf_bind (fun _ => .other True.intro rfl) fun _ => ?_
  rw [follows_setExecution_bind, Session.setting_held rfl rfl]
  refine follows_transition_held rfl rfl (fun refused => ?_) (fun unsaved => absurd unsaved saved)
    fun _ _ world => ⟨_, .idle rfl, ?_⟩
  · refine absurd ?_ refused
    change OrderExecutionStatus.accepted ∈ allowedOrderTransitions x.status
    rw [decided]
    decide
  rw [follows_commit_bind]
  refine ⟨fun before after _ => ⟨_, .accept ⟨⟨_, _, rfl, rfl, rfl, rfl, rfl, rfl⟩, decided⟩, ?_⟩,
    fun world fault _ => ⟨_, .idle rfl, .other True.intro rfl⟩⟩
  rw [← bind_pure (Session.loadExecution x.id)]
  refine follows_loadExecution_bind (fun world => ⟨_, .idle rfl, .other True.intro rfl⟩) ?_
  exact fun world answer _ _ => ⟨_, .idle rfl, rfl⟩

/-- The order is prepared and let through by the rate limiter. -/
def prepareSubmission (py : Platform) (context : TestnetOrderApiContext) :
    Service PreparedExchangeRequest := do
  let httpClient ← createTestnetSignedHttpClient context.account.exchangeName
  let prepared ← prepareTestnetOrderRequest py context.order context.gateResult httpClient
    context.credentials
  acquireTestnetOrder context.order.exchangeName context.account.id prepared.path
  return prepared

theorem sendSubmission_eq (context : TestnetOrderApiContext) (id : String) :
    sendSubmission py context id =
      (do
        let prepared ← prepareSubmission py context
        let reply ← ask (.urlopen prepared)
        let response ← Handler.ofExcept (readReply py reply)
        recordTestnetSubmissionAccepted py id response) := by
  unfold sendSubmission prepareSubmission executeTestnetOrder transportRequest
  simp only [bind_assoc, pure_bind]

/-- Until the order is sent the request stays where it has recorded it. -/
theorem prepareSubmission_follows :
    Follows (submitProtocol py req) semantics (prepareSubmission py adm.context)
      (fun outcome s' stage => match outcome with
        | .ok prepared => s' = { executions := [⟨x, {}⟩] } ∧ stage = .held adm row x ∧
            ¬ adm.Unsignable ∧ PreparedFor py adm.context.order prepared
        | .error raised => SendRaised adm row x raised s' stage)
      { executions := [⟨x, {}⟩] } (.held adm row x) := by
  unfold prepareSubmission createTestnetSignedHttpClient
  obtain ⟨restBaseUrl, hurl⟩ := Option.isSome_iff_exists.mp adm.supported
  have exchangeName : adm.context.order.exchangeName = adm.context.account.exchangeName := by
    rw [adm.order]
    rfl
  have supported : adm.context.order.exchangeName ≠ .mock := by
    rw [exchangeName]
    intro mock
    rw [mock] at hurl
    cases hurl
  simp only [hurl, pure_bind]
  refine follows_prepareTestnetOrderRequest_bind adm.approved exchangeName.symm supported adm.priced
    (fun _ idle => .idle idle) ?_ ?_
  · intro okx missing message
    exact .unsignable ⟨exchangeName.symm.trans okx, adm.passphrase.mp missing⟩
  intro prepared prepares stored
  have signable : ¬ adm.Unsignable := fun unsignable =>
    stored (exchangeName.trans unsignable.1) (adm.passphrase.mpr unsignable.2)
  unfold acquireTestnetOrder
  simp only [bind_assoc]
  refine follows_ask_bind.mpr fun _ reply _ _ => ⟨_, .idle rfl, ?_⟩
  cases reply with
  | exceeded ruleName retryAfterSeconds => exact .limited signable
  | storeUnavailable => exact .unavailable signable
  | granted => exact ⟨rfl, rfl, signable, prepares⟩

/-- The order is prepared, let through by the rate limiter, sent, and its answer recorded. -/
theorem sendSubmission_follows (saved : x.id ≠ "") :
    Follows (submitProtocol py req) semantics (sendSubmission py adm.context x.id)
      (fun outcome s' stage => match outcome with
        | .ok _ => stage = .accepted row
        | .error raised => SendRaised adm row x raised s' stage)
      { executions := [⟨x, {}⟩] } (.held adm row x) := by
  rw [sendSubmission_eq]
  refine prepareSubmission_follows.bind ?_ fun _ _ _ raises => raises
  rintro prepared s' stage ⟨rfl, rfl, signable, prepares⟩
  refine follows_ask_bind.mpr fun _ reply _ _ => ⟨_, .send prepares signable, ?_⟩
  refine follows_ofExcept_bind (fun raised failed => ?_) fun response read => ?_
  · refine .answered fun noValue runtime _ => ?_
    simp only [recordsFailure, failed, noValue, runtime, Bool.not_false, Bool.and_self]
  · exact recordTestnetSubmissionAccepted_follows saved read

/-- A phase in which the failure of the instance `x` can be recorded, and the phases its
transition is numbered in. -/
structure RecordsFailure (row x : OrderExecution) (stage : SubmitStage py req)
    (numbered : Nat → SubmitStage py req) : Prop where
  moved : x.status ≠ .submitted → stage.MayEnd
  number : x.status = .submitted → ∀ world : World,
    SubmitMove py req stage (.read world) (numbered (maxSequence x.id world.db.transitions.rows + 1))
  write : ∀ {work before after sequenceNumber}, StatusWrite work x .failed sequenceNumber →
    SubmitMove py req (numbered sequenceNumber) (.commit work before after) (.failed row)
  block : ∀ {work world fault sequenceNumber}, StatusWrite work x .failed sequenceNumber →
    ∃ stage', stage'.MayEnd ∧
      SubmitMove py req (numbered sequenceNumber) (.abort work world fault) stage'

theorem recordsFailure_held (signable : ¬ adm.Unsignable) :
    RecordsFailure row x (.held adm row x) (.failing adm row x) where
  moved := .inr
  number decided _ := .number signable decided
  write := .fail
  block write := ⟨.blocked .., True.intro, .block write⟩

theorem recordsFailure_sent {reply : HttpReply}
    (records : x.status = .submitted → recordsFailure py x.exchangeName reply = true) :
    RecordsFailure row x (.sent adm row x reply) fun _ => .sent adm row x reply where
  moved _ := True.intro
  number _ _ := .idle rfl
  write write := .failSent write (records write.decided)
  block _ := ⟨.sent .., True.intro, .idle rfl⟩

/-- The failure is recorded on the instance, and the exception goes on. -/
theorem RecordsFailure.follows {α : Type} {failureType : String} {raised : Exc}
    {stage : SubmitStage py req} {numbered : Nat → SubmitStage py req}
    {post : α → Session → SubmitStage py req → Prop} (records : RecordsFailure row x stage numbered)
    (saved : x.id ≠ "") :
    Follows (submitProtocol py req) semantics
      (do
        recordFailureOf x.id failureType
        throw raised)
      (Ending post) { executions := [⟨x, {}⟩] } stage := by
  unfold recordFailureOf recordTestnetSubmissionFailure
  rw [Handler.discard_bind, bind_assoc, follows_execution_held rfl rfl]
  change Follows _ _ ((if x.status ≠ .submitted then pure x else _) >>= _) _ _ _
  by_cases decided : x.status = .submitted
  swap
  · rw [if_pos decided]
    exact records.moved decided
  rw [if_neg (not_not.mpr decided)]
  simp only [bind_assoc]
  rw [follows_setExecution_bind, Session.setting_held rfl rfl]
  refine follows_transition_held rfl rfl (fun refused => ?_) (fun unsaved => absurd unsaved saved)
    fun _ _ world => ⟨_, records.number decided world, ?_⟩
  · refine absurd ?_ refused
    change OrderExecutionStatus.failed ∈ allowedOrderTransitions x.status
    rw [decided]
    decide
  generalize hsequence : max (maxSequence x.id world.db.transitions.rows) _ + 1 = sequenceNumber
  have sequence : maxSequence x.id world.db.transitions.rows + 1 = sequenceNumber := by
    rw [← hsequence]
    simp [maxSequence]
  rw [sequence, follows_commit_bind]
  generalize hwork : Session.pending _ = work
  have write : StatusWrite work x .failed sequenceNumber :=
    ⟨⟨_, _, hwork.symm, rfl, rfl, rfl, rfl, rfl⟩, decided⟩
  constructor
  · intro before after _
    refine ⟨_, records.write write, ?_⟩
    refine follows_loadExecution_bind (fun world => ⟨_, .idle rfl, True.intro⟩) ?_
    exact fun world answer _ _ => ⟨_, .idle rfl, True.intro⟩
  · intro world' fault _
    obtain ⟨stage', ends, move⟩ :=
      @RecordsFailure.block _ _ _ _ _ _ records _ world' fault _ write
    exact ⟨stage', move, ends⟩

/-- Without an execution of the request every clause raises. -/
theorem answerSubmitError_recordNoFailure {α : Type} (raised : Exc) :
    ∃ answer, (answerSubmitError recordNoFailure raised : Service α) = throw answer := by
  cases raised <;> exact ⟨_, rfl⟩

/-- Every clause ends in an exception, and the failure is recorded where it has to be. -/
theorem answerSubmitError_follows {α : Type} {raised : Exc} {stage : SubmitStage py req}
    {post : α → Session → SubmitStage py req → Prop} (saved : x.id ≠ "")
    (raises : SendRaised adm row x raised s stage) :
    Follows (submitProtocol py req) semantics (answerSubmitError (recordFailureOf x.id) raised)
      (Ending post) s stage := by
  cases raises with
  | unsignable unsignable => exact .inl unsignable
  | limited signable => exact (recordsFailure_held signable).follows saved
  | unavailable signable => exact (recordsFailure_held signable).follows saved
  | @answered _ reply records =>
    by_cases recorded : raised.isValueError = false ∧ raised.isRuntimeError = true
    · have sent := @recordsFailure_sent py req adm row x reply (records recorded.1 recorded.2)
      have follows (failureType : String) (answer : Exc) :=
        @RecordsFailure.follows py req row x α failureType answer _ _ post sent saved
      cases raised <;> first | exact follows _ _ | exact True.intro
    · cases raised <;> first | exact True.intro | exact absurd ⟨rfl, rfl⟩ recorded
  | other ends unrecorded =>
    cases raised <;> first | exact ends | cases unrecorded

/-! ### The request handler -/

/-- What a request that returns a response has established. -/
inductive SubmitReturns (py : Platform) (req : SubmitRequest) :
    TestnetOrderSubmitResponse → SubmitStage py req → Prop where
  | replayed {response : TestnetOrderSubmitResponse} {row : OrderExecution}
      (replay : response.idempotentReplay = true)
      (executionId : response.executionId = row.executionId) :
      SubmitReturns py req response (.replayed row)
  | accepted {response : TestnetOrderSubmitResponse} {row : OrderExecution}
      (created : response.idempotentReplay = false) : SubmitReturns py req response (.accepted row)
  | lost {response : TestnetOrderSubmitResponse} : SubmitReturns py req response .lost

/-- The checks and the recording of the submission, before the exchange is asked. -/
theorem recordingSubmission_follows :
    Follows (submitProtocol py req) semantics
      (do
        assertNewOrdersAllowed
        let context ← buildTestnetOrderApiContext py req.userId req.payload
          req.testnetAdaptersEnabled
        let submission ← createOrGetTestnetSubmissionExecution py req.userId context
        return (context, submission))
      (Recording fun result s' stage => ∃ adm : Admission py req,
        result.1 = adm.context ∧ SubmissionRecorded adm result.2 s' stage) {} .start := by
  refine follows_assertNewOrdersAllowed_bind (fun world _ => ⟨_, .idle rfl, True.intro⟩)
    fun world off => ⟨_, .enter off, ?_⟩
  refine buildTestnetOrderApiContext_follows.bind ?_ fun _ _ _ ends => ends
  rintro context s' stage ⟨adm, rfl, rfl, rfl⟩
  refine createOrGetTestnetSubmissionExecution_follows.bind ?_ fun _ _ _ ends => ends
  exact fun submission s' stage recorded => ⟨adm, rfl, recorded⟩

/-- The clauses around it raise in any case. -/
theorem recordSubmission_follows :
    Follows (submitProtocol py req) semantics
      (tryCatch
        (do
          assertNewOrdersAllowed
          let context ← buildTestnetOrderApiContext py req.userId req.payload
            req.testnetAdaptersEnabled
          let submission ← createOrGetTestnetSubmissionExecution py req.userId context
          return (context, submission))
        (answerSubmitError recordNoFailure))
      (Recording fun result s' stage => ∃ adm : Admission py req,
        result.1 = adm.context ∧ SubmissionRecorded adm result.2 s' stage) {} .start := by
  refine Follows.tryCatch _ recordingSubmission_follows (fun _ _ _ h => h) fun raised s' stage ends => ?_
  obtain ⟨answer, throws⟩ := answerSubmitError_recordNoFailure raised
  rw [throws]
  exact ends

theorem testnetSubmitResponse_ok {context : TestnetOrderApiContext} {execution : OrderExecution}
    {replay : Bool} {response : TestnetOrderSubmitResponse}
    (responds : testnetSubmitResponse context execution replay = .ok response) :
    response.executionId = execution.executionId ∧ response.idempotentReplay = replay := by
  unfold testnetSubmitResponse at responds
  cases hpath : testnetOrderRequestPath context.account.exchangeName with
  | error raised => simp [hpath, bind, Except.bind] at responds
  | ok requestPath =>
    simp only [hpath, bind, Except.bind, pure, Except.pure, Except.ok.injEq] at responds
    rw [← responds]
    exact ⟨rfl, rfl⟩

/-- Building the response is the last thing a request does. -/
theorem testnetSubmitResponse_follows {context : TestnetOrderApiContext}
    {execution : OrderExecution} {replay : Bool} {stage : SubmitStage py req} (ends : stage.MayEnd)
    (returns : ∀ response, response.executionId = execution.executionId →
      response.idempotentReplay = replay → SubmitReturns py req response stage) :
    Follows (submitProtocol py req) semantics
      (Handler.ofExcept (testnetSubmitResponse context execution replay))
      (Ending fun response _ stage => SubmitReturns py req response stage) s stage := by
  rw [← bind_pure (Handler.ofExcept _)]
  refine follows_ofExcept_bind (fun _ _ => ends) fun response responds => ?_
  obtain ⟨executionId, replayed⟩ := testnetSubmitResponse_ok responds
  exact returns response executionId replayed

/-- The simulation of a whole request. -/
theorem submitTestnetOrder_follows (py : Platform) (req : SubmitRequest) :
    Follows (submitProtocol py req) semantics (req.service py)
      (Ending fun response _ stage => SubmitReturns py req response stage) {} .start := by
  unfold SubmitRequest.service submitTestnetOrder
  refine Follows.bind recordSubmission_follows ?_ fun _ _ _ unsent => unsent.mayEnd
  rintro ⟨context, submission⟩ s' stage ⟨adm, rfl, recorded⟩
  cases recorded with
  | lost =>
    refine follows_lost _ ?_
    rintro (_ | _) s'
    · exact True.intro
    · exact .lost
  | @replayed row =>
    change Follows _ _ (Session.execution row.id >>= _) _ _ _
    rw [follows_execution_held rfl rfl]
    exact testnetSubmitResponse_follows True.intro fun response executionId replay =>
      .replayed replay executionId
  | @held row x id recorded same saved =>
    obtain rfl : id = x.id := recorded.trans same.symm
    refine Follows.bind (M := Ending fun _ _ stage => stage = .accepted row) ?_ ?_
      fun _ _ _ ends => ends
    · refine Follows.tryCatch _ (@sendSubmission_follows py req adm row x (same ▸ saved))
        (fun _ _ _ accepted => accepted) fun raised s' stage raises => ?_
      exact answerSubmitError_follows (same ▸ saved) raises
    · rintro execution s' stage rfl
      exact testnetSubmitResponse_follows True.intro fun response _ created => .accepted created

end CopyTrading
