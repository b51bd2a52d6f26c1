import CopyTrading.EventScope
import CopyTrading.ExecutionDecided
import CopyTrading.TestnetOrder.SubmissionSafety

/-!
What a submission makes of the value its order request is answered with. The run of a request is
cut where the exchange answers: up to there it has committed its row as `SUBMITTED`, and from
there on the value alone decides.
-/

namespace CopyTrading

open Transaction Transaction.Handler DecimalArith

/-! ### Up to the request -/

/-- Anything but a request to the exchange. -/
def sendsNothing : Event backend → Bool
  | .call (.urlopen _) _ _ _ => false
  | _ => true

section

variable {py : Platform} {req : SubmitRequest} {stage stage' : SubmitStage py req}
  {e : Event backend}

/-- Before the phases behind the request nothing was sent. -/
theorem SubmitMove.sends_nothing (move : SubmitMove py req stage e stage')
    (settled : stage ≠ .lost) (unsent : stage'.isPastSending = false) :
    sendsNothing e = true ∧ stage.isPastSending = false := by
  cases move with
  | idle quiet =>
    refine ⟨?_, unsent⟩
    cases e with
    | call query answer before after =>
      cases query with
      | urlopen prepared => cases quiet
      | _ => rfl
    | read | commit | abort => rfl
  | wander => exact absurd rfl settled
  | send | accept | failSent | fail => cases unsent
  | _ => exact ⟨rfl, rfl⟩

theorem SubmitStage.Unsent.isPastSending (unsent : stage.Unsent) :
    stage.isPastSending = false := by
  cases stage <;> first | rfl | exact unsent.elim

/-- A submission that has the database for itself. -/
structure SoleSubmission (py : Platform) (req : SubmitRequest) (w₀ : World)
    (events : List (Event backend)) (stage : SubmitStage py req) (w : World) : Prop where
  inv : @SubmitInv Unit py (fun _ => req) w₀.db (fun _ => stage) w.db
  quiet : stage.isPastSending = false → ∀ e ∈ events, sendsNothing e = true
  submitted : ∀ adm row, stage = .submitted adm row →
    row ∈ w.db.executions ∧ row.status = .submitted
  held : ∀ adm row x, stage = .held adm row x →
    x = row ∧ row ∈ w.db.executions ∧ row.status = .submitted

theorem SoleSubmission.start (w₀ : World) : SoleSubmission py req w₀ [] .start w₀ where
  inv := .start
  quiet _ _ h := (List.not_mem_nil h).elim
  submitted _ _ h := (nomatch h)
  held _ _ _ h := (nomatch h)

/-- The step lemma. -/
theorem SoleSubmission.step {w₀ : World} {events : List (Event backend)}
    (sole : SoleSubmission py req w₀ events stage e.before)
    (move : SubmitMove py req stage e stage') (sound : e.Sound semantics) :
    SoleSubmission py req w₀ (events ++ [e]) stage' e.after where
  inv := by
    have step := sole.inv.step (i := ()) move sound
    have only : Function.update (fun _ : Unit => stage) () stage' = fun _ => stage' := by
      funext i
      rfl
    rwa [only] at step
  quiet unsent := by
    obtain ⟨last, unsent⟩ := move.sends_nothing (sole.inv.notLost ()) unsent
    intro e' he
    rcases List.mem_append.mp he with he | he
    · exact sole.quiet unsent e' he
    · rw [List.mem_singleton.mp he]
      exact last
  submitted adm row hstage := by
    cases move with
    | idle quiet =>
      rw [after_eq_of_idle (isIdle_of_asksNoExchange quiet) sound]
      exact sole.submitted adm row hstage
    | submit submission status =>
      cases hstage
      exact ⟨submission.trading.inserted_mem (World.flush_ok sound).1 (List.mem_singleton_self _),
        status⟩
    | wander => cases hstage
    | _ => cases hstage
  held adm row x hstage := by
    cases move with
    | idle quiet =>
      rw [after_eq_of_idle (isIdle_of_asksNoExchange quiet) sound]
      exact sole.held adm row x hstage
    | hold stored same =>
      cases hstage
      obtain ⟨hrow, status⟩ := sole.submitted _ _ rfl
      exact ⟨execution_unique stored hrow same, hrow, status⟩
    | wander => cases hstage
    | _ => cases hstage

/-- The run lemma, for any part of a request that follows the protocol. -/
theorem SoleSubmission.of_run {α : Type} {service : Service α} {w w' : World}
    {post : Except Exc α → Session → SubmitStage py req → Prop} {outcome : Except Exc α}
    {s : Session} {events : List (Event backend)}
    (follows : Follows (submitProtocol py req) semantics service post {} .start)
    (run : Prog.Run semantics service.run w events (.done (outcome, s)) w') :
    ∃ stage, SoleSubmission py req w events stage w' ∧ post outcome s stage := by
  obtain ⟨stage, path, done⟩ := run.path follows
  refine ⟨stage, ?_, done⟩
  refine path.invariant (fun events stage world => SoleSubmission py req w events stage world)
    (.start w) ?_
  intro events stage e stage' sole move sound
  exact sole.step move sound

end

/-! ### The status that is written -/

section

variable {Each : Event backend → Prop} {s : Session} {w : World} {x : OrderExecution}

/-- The execution is stored with another status. -/
def StatusStored (x : OrderExecution) (status : OrderExecutionStatus) (db : Db) : Prop :=
  ∃ y ∈ db.executions, SameOrder y x ∧ y.status = status

/-- The step of the execution to the status is logged. -/
def TransitionLogged (x : OrderExecution) (status : OrderExecutionStatus) (db : Db) : Prop :=
  ∃ transition ∈ db.transitions, transition.orderExecutionId = x.id ∧
    transition.fromStatus = some x.status ∧ transition.toStatus = status

/-- A held execution is shown, with its status, when something else of it is set. -/
theorem Session.Holds.exists_shown_setting {set : OrderExecution.Change → OrderExecution.Change}
    (holds : s.Holds w.db x)
    (annotates : ∀ change : OrderExecution.Change, (set change).status = change.status) :
    ∃ z, (s.setting x.id set).shown x.id = some z ∧ z.id = x.id ∧ z.status = x.status := by
  have stored : x ∈ w.db.executions := (holds.executions _ holds.held).2
  obtain ⟨y, hy⟩ : ∃ y, s.shown x.id = some y := by
    have held : (s.heldExecution x.id).isSome := by
      unfold Session.heldExecution
      rw [List.find?_isSome]
      exact ⟨_, holds.held, decide_eq_true rfl⟩
    refine Option.isSome_iff_exists.mp ?_
    unfold Session.shown
    rw [Option.isSome_or, Option.isSome_map, held, Bool.or_true]
  obtain rfl := holds.shown stored hy
  obtain ⟨z, hz, status⟩ := shown_setting_status holds.work hy annotates
  exact ⟨z, hz, id_of_shown hz, status⟩

/-- The step of the execution, with what was set before it, is all that is pending. -/
theorem exists_pending_moving (set : OrderExecution.Change → OrderExecution.Change)
    {z : OrderExecution} (clean : s.work = {}) (named : z.id = x.id)
    (toStatus : OrderExecutionStatus) (reason : String) (details : Json) (number : Nat) :
    ∃ transition : OrderExecutionTransition,
      ((s.setting x.id set).moving z toStatus reason details number).pending =
        { transitions := [transition], accountChanges := s.accounts
          executionChanges := setAll x.id
            ((fun change => { change with status := some toStatus }) ∘ set) s.executions } ∧
      transition.orderExecutionId = z.id ∧ transition.sequenceNumber = number ∧
      transition.fromStatus = some z.status ∧ transition.toStatus = toStatus := by
  obtain ⟨work, executions, accounts, secrets⟩ := s
  subst clean
  have both : setAll z.id (fun change => { change with status := some toStatus })
      (setAll x.id set executions) =
        setAll x.id ((fun change => { change with status := some toStatus }) ∘ set) executions := by
    rw [named]
    exact setAll_setAll
  exact ⟨_, congrArg (fun changes =>
    ({ transitions := _, accountChanges := accounts, executionChanges := changes } : Work)) both,
    rfl, rfl, rfl, rfl⟩

/-- A pending step of a held execution is committed, where its number is larger than any in the
log. -/
theorem alone_commitStep {s' : Session} {transition : OrderExecutionTransition}
    {set : OrderExecution.Change → OrderExecution.Change} (holds : s.Holds w.db x)
    (pending : s'.pending = { transitions := [transition], accountChanges := s.accounts
                              executionChanges := setAll x.id set s.executions })
    (status : (set {}).status = some transition.toStatus)
    (execution : transition.orderExecutionId = x.id) (start : transition.fromStatus = some x.status)
    (fresh : maxSequence x.id w.db.transitions.rows < transition.sequenceNumber)
    (commits : ∀ work after, Each (.commit work w after)) :
    Alone semantics Each
      (do
        Session.commit
        Session.loadExecution x.id)
      (fun outcome _ w' => (∃ y, outcome = .ok y) ∧ StatusStored x transition.toStatus w'.db ∧
        TransitionLogged x transition.toStatus w'.db) s' w := by
  have stored : x ∈ w.db.executions := (holds.executions _ holds.held).2
  rw [alone_bind, alone_commit, pending]
  constructor
  · intro after flushed
    refine ⟨commits _ _, ?_⟩
    have written := Work.written_of_flush (World.flush_ok flushed).1 rfl
    have moved : Table.updated (setAll x.id set s.executions) x = _ :=
      updated_setAll (fun z hz => (holds.executions z hz).1) holds.single holds.held x fun _ => rfl
    rw [if_pos rfl] at moved
    have kept := (Table.mem_insertAll written.executions).mpr
      (.inl (Table.mem_writeBack.mpr ⟨x, stored, rfl⟩))
    rw [moved] at kept
    have arrived : (Row.apply (set {}) x).status = transition.toStatus := by
      change (set {}).status.getD x.status = _
      rw [status, Option.getD_some]
    rw [andThen_ok]
    have logged : transition ∈ after.db.transitions :=
      (Table.mem_insertAll written.transitions).mpr (.inr (List.mem_singleton_self _))
    refine alone_loadExecution rfl (fun missing => (missing _ kept rfl).elim) fun row _ _ => ?_
    exact ⟨⟨row, rfl⟩, ⟨_, kept, sameOrder_apply _ x, arrived⟩, transition, logged, execution, start,
      rfl⟩
  · intro fault refused
    rw [← execution] at fresh
    obtain ⟨after, accepted⟩ := Db.flush_transition w.db transition rfl fresh
    have flushed : semantics.flush _ w = .ok _ := congrArg (Except.map _) accepted
    cases flushed.symm.trans refused

/-- An allowed transition of a committed execution is committed. -/
theorem alone_settle {set : OrderExecution.Change → OrderExecution.Change}
    {toStatus : OrderExecutionStatus} {reason : String} {details : Json}
    (holds : s.Holds w.db x) (saved : x.id ≠ "") (allowed : toStatus ∈ allowedOrderTransitions x.status)
    (annotates : ∀ change : OrderExecution.Change, (set change).status = change.status)
    (commits : ∀ work after, Each (.commit work w after)) :
    Alone semantics Each
      (do
        Session.setExecution x.id set
        transitionOrderExecution x.id toStatus reason details
        Session.commit
        Session.loadExecution x.id)
      (fun outcome _ w' => (∃ y, outcome = .ok y) ∧ StatusStored x toStatus w'.db ∧
        TransitionLogged x toStatus w'.db) s w := by
  obtain ⟨z, hz, named, status⟩ := holds.exists_shown_setting annotates
  have opened : ∀ z' s', (s.setting x.id set).Opens w.db x.id z' s' →
      z' = z ∧ s' = s.setting x.id set := by
    intro z' s' opens
    cases opens with
    | shown shown => exact ⟨Option.some.inj (shown.symm.trans hz), rfl⟩
    | loaded hidden => cases hidden.symm.trans hz
  rw [alone_bind, alone_setExecution, andThen_ok, alone_bind]
  refine alone_transition (fun hidden _ => ?_) (fun z' s' opens => ?_) (fun z' s' opens no _ => ?_)
    fun z' s' opens _ => ?_
  · cases hidden.symm.trans hz
  · rw [(opened z' s' opens).1, named]
    exact saved
  · rw [(opened z' s' opens).1, status] at no
    exact absurd allowed no
  · obtain ⟨rfl, rfl⟩ := opened z' s' opens
    rw [andThen_ok]
    obtain ⟨transition, pending, execution, sequence, start, rfl⟩ :=
      exists_pending_moving set holds.work named toStatus reason details
        (max (maxSequence z'.id w.db.transitions.rows)
          (maxSequence z'.id (s.setting x.id set).work.transitions) + 1)
    refine alone_commitStep holds pending rfl (execution.trans named) ?_ ?_ commits
    · rw [start, status]
    · -- nobody else has written a transition since the number was chosen
      rw [sequence, ← named]
      exact Nat.lt_succ_of_le (Nat.le_max_left _ _)

/-- A held execution is shown as it is committed. -/
theorem alone_execution_committed {post : Except Exc OrderExecution → Session → World → Prop}
    (holds : s.Holds w.db x) (shown : post (.ok x) s w) :
    Alone semantics Each (Session.execution x.id) post s w := by
  refine alone_execution (fun _ missing => ?_) fun y s' opens => ?_
  · exact absurd rfl (missing x (holds.executions _ holds.held).2)
  · obtain ⟨rfl, rfl⟩ := holds.opened opens
    exact shown

theorem alone_recordFailureOf {failureType : String} (holds : s.Holds w.db x) (saved : x.id ≠ "")
    (submitted : x.status = .submitted) (commits : ∀ work after, Each (.commit work w after)) :
    Alone semantics Each (recordFailureOf x.id failureType)
      (fun outcome _ w' => (∃ y, outcome = .ok y) ∧ StatusStored x .failed w'.db ∧
        TransitionLogged x .failed w'.db) s w := by
  have allowed : OrderExecutionStatus.failed ∈ allowedOrderTransitions x.status := by
    rw [submitted]
    decide
  unfold recordFailureOf recordTestnetSubmissionFailure
  rw [alone_discard, alone_bind]
  refine alone_execution_committed holds ?_
  rw [andThen_ok, if_neg (not_not.mpr submitted)]
  refine Alone.mono (alone_settle holds saved allowed (fun _ => rfl) commits) ?_
  rintro outcome s' w' ⟨⟨y, rfl⟩, stored⟩
  exact ⟨⟨_, rfl⟩, stored⟩

/-! ### What the value is decoded as -/

variable {py : Platform} {value : Json}

/-- The columns take what is recorded of the value. -/
def takesValue (py : Platform) (exchangeName : String) (value : Json) : Bool :=
  takesAnswer (safeValue py value) (exchangeOrderIdText py exchangeName (safeValue py value))

/-- The status of an execution whose order request is answered with the value. -/
def decodedStatus (py : Platform) (exchangeName : String) (value : Json) : OrderExecutionStatus :=
  match raiseForExchangeRejection exchangeName (safeValue py value) with
  | .ok () => if takesValue py exchangeName value then .accepted else .submitted
  | .error raised => if raised.isRuntimeError then .failed else .submitted

theorem alone_recordAccepted (holds : s.Holds w.db x) (saved : x.id ≠ "")
    (submitted : x.status = .submitted) (commits : ∀ work after, Each (.commit work w after)) :
    Alone semantics Each (recordTestnetSubmissionAccepted py x.id value)
      (fun outcome s' w' =>
        match raiseForExchangeRejection x.exchangeName (safeValue py value) with
        | .ok () =>
            if takesValue py x.exchangeName value then
              (∃ y, outcome = .ok y) ∧ StatusStored x .accepted w'.db ∧
                TransitionLogged x .accepted w'.db
            else outcome = .error .dataError ∧ w' = w
        | .error raised => outcome = .error raised ∧ s' = s ∧ w' = w) s w := by
  have allowed : OrderExecutionStatus.accepted ∈ allowedOrderTransitions x.status := by
    rw [submitted]
    decide
  unfold recordTestnetSubmissionAccepted
  dsimp only
  rw [alone_bind]
  refine alone_execution_committed holds ?_
  rw [andThen_ok, alone_bind, alone_ofExcept]
  cases raiseForExchangeRejection x.exchangeName (safeValue py value) with
  | error raised => exact ⟨rfl, rfl, rfl⟩
  | ok _ =>
    rw [andThen_ok, alone_bind, alone_raiseIf]
    refine ⟨fun moved => absurd submitted moved, fun _ => ?_⟩
    rw [andThen_ok, alone_bind, alone_refuseIf]
    constructor
    · intro refused
      have refused : ¬ takesValue py x.exchangeName value = true := refused
      rw [andThen_error]
      dsimp only
      rw [if_neg refused]
      exact ⟨rfl, rfl⟩
    · intro taken
      have taken : takesValue py x.exchangeName value = true := not_not.mp taken
      rw [andThen_ok]
      refine Alone.mono (alone_settle holds saved allowed (fun _ => rfl) commits) ?_
      intro outcome s' w' settled
      dsimp only
      rw [if_pos taken]
      exact settled

/-- A result code of an error is a `RuntimeError`, a value that is no mapping is not. -/
theorem raiseForExchangeRejection_error {exchangeName : String} {response : Json} {raised : Exc}
    (raises : raiseForExchangeRejection exchangeName response = .error raised) :
    raised = .attributeError ∨ ∃ message, raised = .exchangeOrderRejected message := by
  unfold raiseForExchangeRejection at raises
  split at raises
  iterate 3
    split at raises
    · cases raises
      exact .inr ⟨_, rfl⟩
    · cases raises
  all_goals first | (cases raises; exact .inl rfl) | cases raises

/-- Every clause sends nothing more. -/
theorem alone_answerSendError {α : Type} {raised : Exc} (holds : s.Holds w.db x)
    (saved : x.id ≠ "") (submitted : x.status = .submitted)
    (commits : ∀ work after, Each (.commit work w after)) :
    Alone semantics Each (answerSubmitError (recordFailureOf x.id) raised : Service α)
      (fun _ _ _ => True) s w := by
  have records {failureType : String} {answer : Exc} : Alone semantics Each
      (recordFailureOf x.id failureType >>= fun _ => (throw answer : Service α))
      (fun _ _ _ => True) s w :=
    Alone.bind (alone_recordFailureOf holds saved submitted commits) (fun _ _ _ _ => True.intro)
      fun _ _ _ _ => True.intro
  cases raised <;> first | exact records | exact True.intro

/-- The value decides on the execution. -/
theorem alone_answered {reply : HttpReply} (holds : s.Holds w.db x) (saved : x.id ≠ "")
    (submitted : x.status = .submitted) (commits : ∀ work after, Each (.commit work w after)) :
    Alone semantics Each
      (tryCatch
        (do
          let response ← Handler.ofExcept (readReply py reply)
          recordTestnetSubmissionAccepted py x.id response)
        (answerSubmitError (recordFailureOf x.id)))
      (fun _ _ w' => ∀ value, readReply py reply = .ok value →
        StatusStored x (decodedStatus py x.exchangeName value) w'.db) s w := by
  have stored : x ∈ w.db.executions := (holds.executions _ holds.held).2
  refine alone_tryCatch.mpr ?_
  rw [alone_bind, alone_ofExcept]
  cases readReply py reply with
  | error raised =>
    rw [andThen_error, orElse_error]
    refine Alone.mono (alone_answerSendError holds saved submitted commits) ?_
    rintro outcome s' w' - value heq
    cases heq
  | ok value =>
    rw [andThen_ok]
    refine Alone.mono (alone_recordAccepted holds saved submitted commits) ?_
    intro outcome s' w' decoded
    cases raises : raiseForExchangeRejection x.exchangeName (safeValue py value) with
    | ok _ =>
      rw [raises] at decoded
      dsimp only at decoded
      by_cases taken : takesValue py x.exchangeName value = true
      · rw [if_pos taken] at decoded
        obtain ⟨⟨y, rfl⟩, accepted, -⟩ := decoded
        rintro _ ⟨⟩
        unfold decodedStatus
        rw [raises]
        dsimp only
        rw [if_pos taken]
        exact accepted
      · rw [if_neg taken] at decoded
        obtain ⟨rfl, rfl⟩ := decoded
        rintro _ ⟨⟩
        unfold decodedStatus
        rw [raises]
        dsimp only
        rw [if_neg taken]
        exact ⟨x, stored, .refl x, submitted⟩
    | error raised =>
      rw [raises] at decoded
      obtain ⟨rfl, rfl, rfl⟩ := decoded
      rcases raiseForExchangeRejection_error raises with rfl | ⟨message, rfl⟩
      · rintro _ ⟨⟩
        unfold decodedStatus
        rw [raises]
        exact ⟨x, stored, .refl x, submitted⟩
      · have fails : Alone semantics Each
            (recordFailureOf x.id "exchange_request_failed" >>= fun _ =>
              (throw (apiError 502 "testnet exchange request failed") : Service OrderExecution))
            (fun _ _ w'' => StatusStored x .failed w''.db) s' w' := by
          refine Alone.bind (alone_recordFailureOf holds saved submitted commits) ?_ ?_
          · rintro - s'' w'' ⟨-, failed, -⟩
            exact failed
          · rintro raised s'' w'' ⟨⟨y, heq⟩, -⟩
            cases heq
        rw [orElse_error]
        refine Alone.mono fails ?_
        rintro - s'' w'' failed _ ⟨⟩
        unfold decodedStatus
        rw [raises]
        exact failed

end

/-! ### Where the run is cut -/

section

variable {py : Platform} {req : SubmitRequest} {s : Session} {w w' : World} {x : OrderExecution}

theorem quiet_of_ne_urlopen {query : Query} (other : ∀ prepared, query ≠ .urlopen prepared) :
    Quiet semantics (fun e => sendsNothing e = true) query := by
  intro before answer after answered
  refine ⟨?_, @db_eq_of_call query answer before after answered⟩
  cases query with
  | urlopen prepared => exact absurd rfl (other prepared)
  | _ => rfl

theorem looks_prepareSubmission {context : TestnetOrderApiContext} :
    Looks semantics (fun e => sendsNothing e = true) (prepareSubmission py context)
      (fun _ => True) s w := by
  have quiet (query : Query) (other : ∀ prepared, query ≠ .urlopen prepared) :
      Quiet semantics (fun e => sendsNothing e = true) query := quiet_of_ne_urlopen other
  have signed : ∀ (client : SignedExchangeHttpClient) (path : String)
      (params : List (String × String)) (body : Option (List (String × Json)))
      (securityType : ExchangeSecurityType) (s₁ : Session) (w₁ : World),
      Looks semantics (fun e => sendsNothing e = true) (client.preparePrivatePostRequest py path
        context.credentials params body securityType) (fun _ => True) s₁ w₁ :=
    fun _ _ _ _ _ _ _ => (looks_preparePrivate (quiet .timestampMs fun _ h => (nomatch h))
      (quiet .isoTimestamp fun _ h => (nomatch h))).mono fun _ _ => True.intro
  unfold prepareSubmission
  refine Looks.bind (Q := fun _ => True) ?_ ?_ fun _ _ => True.intro
  · unfold createTestnetSignedHttpClient
    split
    · exact .pure True.intro
    · exact .throw True.intro
  rintro client s₁ w₁ - -
  refine Looks.bind (Q := fun _ => True) ?_ ?_ fun _ _ => True.intro
  · unfold prepareTestnetOrderRequest
    refine Looks.raiseIf.bind ?_ fun _ _ => True.intro
    rintro - s₂ w₂ - -
    split
    · exact (Looks.ofExcept (Q := fun _ => True) True.intro).bind
        (fun _ _ _ _ _ => signed _ _ _ _ _ _ _) fun _ _ => True.intro
    · exact (Looks.ofExcept (Q := fun _ => True) True.intro).bind
        (fun _ _ _ _ _ => signed _ _ _ _ _ _ _) fun _ _ => True.intro
    · exact (Looks.ofExcept (Q := fun _ => True) True.intro).bind
        (fun _ _ _ _ _ => signed _ _ _ _ _ _ _) fun _ _ => True.intro
    · exact .throw True.intro
  rintro prepared s₂ w₂ - -
  refine Looks.bind (Q := fun _ => True) ?_ (fun _ _ _ _ _ => .pure True.intro)
    fun _ _ => True.intro
  unfold acquireTestnetOrder
  refine (looks_ask (quiet (.acquireTestnetOrder _ _ _) fun _ h => (nomatch h))).bind ?_
    fun _ _ => True.intro
  rintro reply s₃ w₃ - -
  cases reply with
  | granted => exact .pure True.intro
  | exceeded | storeUnavailable => exact .throw True.intro

/-- The part of a run that sends the order: from the answer on the value decides. -/
theorem decoded_of_send {context : TestnetOrderApiContext} {outcome : Except Exc OrderExecution}
    {s' : Session} {trace : List (Event backend)} {prepared : PreparedExchangeRequest}
    {reply : HttpReply} {before after : World} {value : Json} (holds : s.Holds w.db x)
    (saved : x.id ≠ "") (submitted : x.status = .submitted)
    (ran : Prog.Run semantics (tryCatch (sendSubmission py context x.id)
      (answerSubmitError (recordFailureOf x.id)) s) w trace (.done (outcome, s')) w')
    (posted : .call (.urlopen prepared) reply before after ∈ trace)
    (read : readReply py reply = .ok value) :
    StatusStored x (decodedStatus py x.exchangeName value) w'.db := by
  have looked : Alone semantics (fun e => sendsNothing e = true) (prepareSubmission py context)
      (fun _ s₁ w₁ => True ∧ Looked s w s₁ w₁) s w := looks_prepareSubmission
  have unsent {events : List (Event backend)}
      (nothing : ∀ e ∈ events, e.isAction = true → sendsNothing e = true)
      (he : .call (.urlopen prepared) reply before after ∈ events) : False :=
    Bool.noConfusion (nothing _ he rfl)
  have held {s₁ : Session} {w₁ : World} (looked : Looked s w s₁ w₁) : s₁.Holds w₁.db x :=
    ⟨holds.toSeesCommitted.looked looked, looked.executions ▸ holds.held⟩
  rw [sendSubmission_eq] at ran
  rcases split_tryCatch_bind ran with
    ⟨sending, s₁, w₁, front, back, rfl, prepares, sent⟩ |
    ⟨raised, s₁, w₁, front, back, rfl, prepares, answered⟩
  · obtain ⟨quiet, -, looked₁⟩ := prepares.of_alone looked
    obtain ⟨reply', w₂, rest, rfl, answers, decides⟩ := Prog.Run.split_call sent
    have db : w₂.db = w₁.db := @db_eq_of_call _ reply' _ _ answers
    have ends : Alone semantics (fun e => sendsNothing e = true)
        (tryCatch
          (do
            let response ← Handler.ofExcept (readReply py reply')
            recordTestnetSubmissionAccepted py x.id response)
          (answerSubmitError (recordFailureOf x.id))) _ s₁ w₂ :=
      alone_answered (db ▸ held looked₁) saved submitted fun _ _ => rfl
    obtain ⟨later, decided⟩ := Prog.Run.of_alone decides ends
    rcases List.mem_append.mp posted with h | h
    · exact (unsent quiet h).elim
    · rcases List.mem_cons.mp h with h | h
      · cases h
        exact decided value read
      · exact (unsent later h).elim
  · obtain ⟨quiet, -, looked₁⟩ := prepares.of_alone looked
    have ends : Alone semantics (fun e => sendsNothing e = true)
        (answerSubmitError (recordFailureOf x.id) raised : Service OrderExecution)
        (fun _ _ _ => True) s₁ w₁ :=
      alone_answerSendError (held looked₁) saved submitted fun _ _ => rfl
    rcases List.mem_append.mp posted with h | h
    · exact (unsent quiet h).elim
    · exact (unsent (answered.of_alone ends).1 h).elim

/-- What becomes of the execution of a request whose order was answered with a value. -/
theorem decoded_of_submit {outcome : Except Exc TestnetOrderSubmitResponse × Session}
    {trace : List (Event backend)} {prepared : PreparedExchangeRequest} {reply : HttpReply}
    {before after : World} {value : Json}
    (ran : Prog.Run semantics (req.service py).run w trace (.done outcome) w')
    (posted : .call (.urlopen prepared) reply before after ∈ trace)
    (read : readReply py reply = .ok value) :
    ∃ x, ∃ adm : Admission py req, SubmissionRow adm x ∧
      StatusStored x (decodedStatus py x.exchangeName value) w'.db := by
  have unsent {events : List (Event backend)} (nothing : ∀ e ∈ events, sendsNothing e = true)
      (he : .call (.urlopen prepared) reply before after ∈ events) : False :=
    Bool.noConfusion (nothing _ he)
  rcases split_bind ran with
    ⟨⟨context, submission⟩, s₁, w₁, front, back, rfl, records, rest⟩ | ⟨raised, s₁, -, records⟩
  swap
  · obtain ⟨stage, sole, ends⟩ := SoleSubmission.of_run recordSubmission_follows records
    exact (unsent (sole.quiet ends.isPastSending) posted).elim
  obtain ⟨stage, sole, adm, same, recorded⟩ := SoleSubmission.of_run recordSubmission_follows records
  dsimp only at same recorded rest
  subst same
  cases recorded with
  | lost => exact absurd rfl (sole.inv.notLost ())
  | @replayed row =>
    have ends : Alone semantics (fun e => sendsNothing e = true)
        (Session.execution row.id >>= fun execution =>
          Handler.ofExcept (testnetSubmitResponse adm.context execution true))
        (fun _ _ _ => True) { adm.session with executions := [⟨row, {}⟩] } w₁ := by
      rw [alone_bind]
      exact alone_execution (fun _ _ => True.intro) fun _ _ _ => True.intro
    have quiet := (Prog.Run.of_alone rest ends).1
    rcases List.mem_append.mp posted with h | h
    · exact (unsent (sole.quiet rfl) h).elim
    · exact Bool.noConfusion (quiet _ h rfl)
  | @held row x id recorded named saved =>
    obtain ⟨rfl, stored, submitted⟩ := sole.held adm row x rfl
    obtain rfl : id = x.id := recorded
    have holds : Session.Holds { executions := [⟨x, {}⟩] } w₁.db x :=
      { (Session.SeesCommitted.fresh w₁.db).loading stored rfl with held := List.mem_cons_self }
    have rowOf : SubmissionRow adm x := sole.inv.recorded ()
    have posted : .call (.urlopen prepared) reply before after ∈ back :=
      (List.mem_append.mp posted).resolve_left fun h => unsent (sole.quiet rfl) h
    have rest : Prog.Run semantics ((tryCatch (sendSubmission py adm.context x.id)
        (answerSubmitError (recordFailureOf x.id)) >>= fun execution =>
          Handler.ofExcept (testnetSubmitResponse adm.context execution false))
            { executions := [⟨x, {}⟩] }) w₁ back (.done outcome) w' := rest
    refine ⟨x, adm, rowOf, ?_⟩
    rcases split_bind rest with ⟨execution, s₂, w₂, sends, last, rfl, sent, responds⟩ |
      ⟨raised, s₂, -, sent⟩
    · rcases responds.first with ⟨rfl, -, rfl⟩ | ⟨_, _, _, _, _, step, _⟩
      · rw [List.append_nil] at posted
        exact decoded_of_send holds saved submitted sent posted read
      · cases step
    · exact decoded_of_send holds saved submitted sent posted read

end

/-! ### The values -/

section

variable {py : Platform} {value : Json}

/-- The result code of the exchange, in the response as it is recorded. -/
def resultCode (exchangeName : String) (response : List (String × Json)) : Json :=
  Json.get response (if exchangeName = "bybit" then "retCode" else "code")

/-- What the code makes of a value: an object fails with the code of an error, and is accepted
without if the columns take it. Nothing else is handled. -/
theorem decodedStatus_eq {exchangeName : ExchangeName}
    (supported : (testnetRestBaseUrl exchangeName).isSome) :
    decodedStatus py exchangeName.value value =
      match value with
      | .obj fields =>
          if isErrorCode (resultCode exchangeName.value (safeFields py fields)) then .failed
          else if takesValue py exchangeName.value value then .accepted
          else .submitted
      | _ => .submitted := by
  cases value with
  | obj fields =>
    unfold decodedStatus resultCode
    rw [safeValue]
    cases exchangeName with
    | mock => cases supported
    | bybit =>
      cases error : isErrorCode (Json.get (safeFields py fields) "retCode") <;>
        simp [raiseForExchangeRejection, ExchangeName.value, error, Exc.isRuntimeError]
    | binance | okx =>
      cases error : isErrorCode (Json.get (safeFields py fields) "code") <;>
        simp [raiseForExchangeRejection, ExchangeName.value, error, Exc.isRuntimeError]
  | null | bool | int | float | str | arr =>
    cases exchangeName with
    | mock => cases supported
    | binance | bybit | okx => simp [decodedStatus, safeValue, raiseForExchangeRejection,
        ExchangeName.value, Exc.isRuntimeError]

end

/-! ### Sample answers -/

/-- One unit, sent to an exchange that answers with the value. -/
def answeredRun (value : Json) :
    Trace backend Unit × Config backend fun _ : Unit =>
      Except Exc TestnetOrderSubmitResponse × Session :=
  Exchange.serving ⟨true, .payload (some value)⟩
    ((sampleOrder "BTCUSDT" (.ofInt 1) toRat_oneUnit_pos).service asciiPlatform).run
    (approvedWorld .binance "BTCUSDT" []) 40

theorem answeredRun_run (value : Json) :
    Prog.Run semantics
      ((sampleOrder "BTCUSDT" (.ofInt 1) (by norm_num)).service asciiPlatform).run
      (approvedWorld .binance "BTCUSDT" []) ((answeredRun value).1.map Prod.snd)
      ((answeredRun value).2.client ()) (answeredRun value).2.store :=
  Exchange.serving_run _ _ _ _

/-- A request to the exchange whose answer passes the test. -/
def isAnswered (test : Json → Bool) : Event backend → Bool
  | .call (.urlopen _) reply _ _ =>
      match readReply asciiPlatform reply with
      | .ok value => test value
      | .error _ => false
  | _ => false

theorem exists_of_isAnswered {test : Json → Bool} {events : List (Event backend)}
    (answered : events.any (isAnswered test) = true) :
    ∃ prepared reply before after value,
      (.call (.urlopen prepared) reply before after : Event backend) ∈ events ∧
      readReply asciiPlatform reply = .ok value ∧ test value = true := by
  obtain ⟨e, he, answered⟩ := List.any_eq_true.mp answered
  unfold isAnswered at answered
  split at answered
  · next prepared reply before after =>
    split at answered
    · next value read => exact ⟨prepared, reply, before, after, value, he, read, answered⟩
    · cases answered
  · cases answered

/-! ### The guarantee -/

section

variable {py : Platform} {value : Json}

/-- The execution of a request whose order was answered with a value ends `ACCEPTED` only if the
value is an object whose result code is no error: missing, null or zero. An object decides:
`FAILED` with the code of an error, `ACCEPTED` without if the columns take the answer, whether it
carries an order id or not. -/
theorem acknowledgement_decoded {req : SubmitRequest} {w w' : World}
    {outcome : Except Exc TestnetOrderSubmitResponse × Session} {trace : List (Event backend)}
    {prepared : PreparedExchangeRequest} {reply : HttpReply} {before after : World}
    (ran : Prog.Run semantics (req.service py).run w trace (.done outcome) w')
    (posted : .call (.urlopen prepared) reply before after ∈ trace)
    (read : readReply py reply = .ok value) :
    ∃ x ∈ w'.db.executions, x.clientOrderId = req.payload.clientOrderId ∧
      (x.status = .accepted → ∃ fields, value = .obj fields ∧
        isErrorCode (resultCode x.exchangeName (safeFields py fields)) = false) ∧
      ∀ fields, value = .obj fields →
        if isErrorCode (resultCode x.exchangeName (safeFields py fields)) then x.status = .failed
        else takesValue py x.exchangeName value = true → x.status = .accepted := by
  obtain ⟨row, adm, rowOf, x, stored, same, status⟩ := decoded_of_submit ran posted read
  refine ⟨x, stored, same.clientOrderId.trans rowOf.clientOrderId, ?_⟩
  rw [rowOf.exchangeName, decodedStatus_eq adm.supported] at status
  rw [same.exchangeName.trans rowOf.exchangeName]
  cases value with
  | obj fields =>
    constructor
    · intro accepted
      refine ⟨fields, rfl, ?_⟩
      by_contra error
      rw [Bool.not_eq_false] at error
      dsimp only at status
      rw [if_pos error] at status
      cases status.symm.trans accepted
    · rintro _ ⟨⟩
      dsimp only at status
      split
      · next error =>
        rw [if_pos error] at status
        exact status
      · next success =>
        rw [if_neg success] at status
        intro taken
        rw [if_pos taken] at status
        exact status
  | null | bool | int | float | str | arr =>
    refine ⟨fun accepted => ?_, fun _ heq => (nomatch heq)⟩
    cases status.symm.trans accepted

end

def isOrderSeven : Json → Bool
  | .obj [("orderId", .int 7)] => true
  | _ => false

/-- A number of an order is accepted. -/
theorem acknowledgement_decoded_order_number :
    ∃ value trace outcome w', Prog.Run semantics
        ((sampleOrder "BTCUSDT" (.ofInt 1) (by norm_num)).service asciiPlatform).run
        (approvedWorld .binance "BTCUSDT" []) trace (.done outcome) w' ∧ isOrderSeven value = true ∧
      ∃ x ∈ w'.db.executions, x.clientOrderId = "c1" ∧ x.status = .accepted := by
  obtain ⟨response, accepted⟩ : ∃ response, returned
      ((answeredRun (.obj [("orderId", .int 7)])).2.client ()) = some response :=
    Option.isSome_iff_exists.mp (by decide +kernel)
  obtain ⟨s, done⟩ := done_of_returned accepted
  have ran := answeredRun_run (.obj [("orderId", .int 7)])
  rw [done] at ran
  obtain ⟨prepared, reply, before, after, value, posted, read, isSeven⟩ :=
    exists_of_isAnswered (show ((answeredRun (.obj [("orderId", .int 7)])).1.map Prod.snd).any
      (isAnswered isOrderSeven) = true by decide +kernel)
  obtain ⟨x, stored, clientOrderId, -, decoded⟩ := acknowledgement_decoded ran posted read
  have binance : ∀ x ∈ (answeredRun (.obj [("orderId", .int 7)])).2.store.db.executions.rows,
      x.exchangeName = "binance" := by decide +kernel
  refine ⟨value, _, _, _, ran, isSeven, x, stored, clientOrderId, ?_⟩
  unfold isOrderSeven at isSeven
  split at isSeven
  · have decided := decoded _ rfl
    rw [binance x stored, if_neg (by decide +kernel)] at decided
    exact decided (by decide +kernel)
  · cases isSeven

def isEmptyObject : Json → Bool
  | .obj [] => true
  | _ => false

/-- An object without anything is accepted, though it carries no order id. -/
theorem empty_object_accepted :
    ∃ trace outcome w' prepared reply before after value, Prog.Run semantics
        ((sampleOrder "BTCUSDT" (.ofInt 1) (by norm_num)).service asciiPlatform).run
        (approvedWorld .binance "BTCUSDT" []) trace (.done outcome) w' ∧
      .call (.urlopen prepared) reply before after ∈ trace ∧
      readReply asciiPlatform reply = .ok value ∧ isEmptyObject value = true ∧
      exchangeOrderIdText asciiPlatform "binance" (safeValue asciiPlatform value) = none ∧
      ∃ x ∈ w'.db.executions, x.clientOrderId = "c1" ∧ x.exchangeName = "binance" ∧
        x.status = .accepted ∧ x.exchangeOrderId = none := by
  obtain ⟨response, accepted⟩ : ∃ response, returned ((answeredRun (.obj [])).2.client ()) =
      some response := Option.isSome_iff_exists.mp (by decide +kernel)
  obtain ⟨s, done⟩ := done_of_returned accepted
  have ran := answeredRun_run (.obj [])
  rw [done] at ran
  obtain ⟨prepared, reply, before, after, value, posted, read, isEmpty⟩ :=
    exists_of_isAnswered (show ((answeredRun (.obj [])).1.map Prod.snd).any
      (isAnswered isEmptyObject) = true by decide +kernel)
  have stuck : ∃ x ∈ (answeredRun (.obj [])).2.store.db.executions.rows, x.clientOrderId = "c1" ∧
      x.exchangeName = "binance" ∧ x.status = .accepted ∧ x.exchangeOrderId = none := by
    decide +kernel
  refine ⟨_, _, _, prepared, reply, before, after, value, ran, posted, read, isEmpty, ?_, stuck⟩
  unfold isEmptyObject at isEmpty
  split at isEmpty
  · decide +kernel
  · cases isEmpty

end CopyTrading
