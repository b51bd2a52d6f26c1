import CopyTrading.ConcurrentLogs
import CopyTrading.ExchangeTraffic
import CopyTrading.SessionDiscipline

/-!
The requests keep what they have pending logged. What lies beside the orders is done once for
every invariant of this kind; executing a signal and submitting an order begin without any order.
-/

namespace CopyTrading

open Transaction Transaction.Handler DecimalArith

/-- The service keeps the invariant. -/
abbrev KeepsLogs {α : Type} (Holds : Session → SeenOrders → Prop) (service : Service α) : Prop :=
  orderObserver.Keeps semantics Holds service

/-- An invariant of the orders of a session, whatever else it works on. -/
structure OrdersAside (Holds : Session → SeenOrders → Prop) : Prop where
  read : ∀ {s seen}, Holds s seen → ∀ db : Db, Holds s (seen.read db)
  beside : ∀ {s s' seen}, Holds s seen → s'.executions = s.executions →
    s'.work.executions = s.work.executions → s'.work.transitions = s.work.transitions →
    s'.work.stop = s.work.stop → Holds s' seen
  logged : ∀ {s seen}, Holds s seen → ∃ adds, LoggedSession adds s seen
  empty : ∀ {seen}, Holds {} seen

theorem ordersAside_logged (adds : Bool) : OrdersAside (LoggedSession adds) where
  read logged db := logged.read db
  beside logged executions added transitions stop := logged.beside executions added transitions stop
  logged logged := ⟨adds, logged⟩
  empty := .empty

/-- No order is added or loaded yet. -/
structure BlankSession (s : Session) (seen : SeenOrders) : Prop where
  logged : LoggedSession true s seen
  none_added : s.work.executions = []
  none_held : s.executions = []

theorem BlankSession.reading {s : Session} {seen : SeenOrders} (blank : BlankSession s seen) :
    LoggedSession false s seen :=
  { blank.logged with none_added := fun _ => blank.none_added }

theorem ordersAside_blank : OrdersAside BlankSession where
  read blank db := ⟨blank.logged.read db, blank.none_added, blank.none_held⟩
  beside blank executions added transitions stop :=
    ⟨blank.logged.beside executions added transitions stop, added.trans blank.none_added,
      executions.trans blank.none_held⟩
  logged blank := ⟨true, blank.logged⟩
  empty := ⟨.empty, rfl, rfl⟩

namespace OrdersAside

variable {Holds : Session → SeenOrders → Prop} {α : Type} {py : Platform}
  {userId accountId id : String} (aside : OrdersAside Holds)

include aside

/-! ### The session -/

theorem select {query : World → α} : KeepsLogs Holds (Handler.select query) :=
  .select fun _ _ store holds => ⟨True.intro, aside.read holds store.db⟩

theorem query {select : Db → α} : KeepsLogs Holds (Session.query select) := aside.select

omit aside in
theorem ask (query : Query) : KeepsLogs Holds (CopyTrading.ask query) :=
  .ask fun _ _ _ _ _ holds => ⟨True.intro, holds⟩

theorem add {extend : Work → Work}
    (leaves : ∀ work, (extend work).executions = work.executions ∧
      (extend work).transitions = work.transitions ∧ (extend work).stop = work.stop) :
    KeepsLogs Holds (Session.add extend) :=
  .modify fun _ _ holds => aside.beside holds rfl (leaves _).1 (leaves _).2.1 (leaves _).2.2

theorem flush : KeepsLogs Holds Session.flush := by
  refine .session fun s => aside.select.bind fun accepted => ?_
  split
  · exact .pure _
  · exact .throw _

/-- After a commit the session is empty. -/
theorem follows_commit {next : Unit → Service α} {s : Session} {seen : SeenOrders}
    {post : Except Exc α → Session → SeenOrders → Prop} (holds : Holds s seen)
    (raised : ∀ fault, post (.error fault) {} seen)
    (rest : Follows orderObserver.protocol semantics (next ()) post {} seen) :
    Follows orderObserver.protocol semantics (Session.commit >>= next) post s seen := by
  obtain ⟨adds, logged⟩ := aside.logged holds
  refine follows_commit_bind.mpr ⟨fun before after _ => ?_, fun world fault _ => ?_⟩
  · exact ⟨_, ⟨⟨adds, s, logged, rfl⟩, rfl⟩, rest⟩
  · exact ⟨_, ⟨True.intro, rfl⟩, raised _⟩

theorem commit : KeepsLogs Holds Session.commit := by
  intro s seen holds
  rw [← bind_pure Session.commit]
  exact aside.follows_commit holds (fun _ => aside.empty) aside.empty

theorem refuseIf {refused : Prop} [Decidable refused] :
    KeepsLogs Holds (Session.refuseIf refused) := by
  unfold Session.refuseIf
  split
  · exact Observer.Keeps.bind (.modify fun _ _ _ => aside.empty) fun _ => .throw _
  · exact .pure _

theorem holdAccount (row : ExchangeAccount) : KeepsLogs Holds (Session.holdAccount row) := by
  unfold Session.holdAccount
  refine .session fun s => ?_
  split
  · exact .pure _
  · exact Observer.Keeps.bind
      (.modify fun _ _ holds => aside.beside holds rfl rfl rfl rfl) fun _ => .pure _

theorem account : KeepsLogs Holds (Session.account id) := by
  unfold Session.account
  refine .session fun s => ?_
  split
  · exact .pure _
  · refine aside.query.bind fun found => ?_
    split
    · exact .throw _
    · exact aside.holdAccount _

/-! ### Accounts, keys, settings and positions -/

theorem getOwnedAccount : KeepsLogs Holds (getOwnedAccount userId accountId) := by
  unfold CopyTrading.getOwnedAccount
  refine aside.query.bind fun found => ?_
  split
  · exact .pure _
  · rw [map_eq_pure_bind]
    exact (aside.holdAccount _).bind fun _ => .pure _

theorem getApiKeySecretMetadata :
    KeepsLogs Holds (getApiKeySecretMetadata userId accountId) := by
  unfold CopyTrading.getApiKeySecretMetadata
  refine aside.query.bind fun found => ?_
  split
  · exact .pure _
  · refine .session fun s => ?_
    split
    · exact .pure _
    · exact Observer.Keeps.bind
        (.modify fun _ _ holds => aside.beside holds rfl rfl rfl rfl) fun _ => .pure _

omit aside in
theorem decryptSecret (encrypted : String) : KeepsLogs Holds (decryptSecret py encrypted) := by
  unfold CopyTrading.decryptSecret
  split
  · exact .pure _
  · exact .throw _

theorem getExchangeCredentials : KeepsLogs Holds (getExchangeCredentials py userId accountId) := by
  unfold CopyTrading.getExchangeCredentials
  refine aside.getApiKeySecretMetadata.bind fun metadata => ?_
  split
  · exact .pure _
  · dsimp only
    split
    · exact (Observer.Keeps.pure _).bind fun _ => (decryptSecret _).bind fun _ =>
        (decryptSecret _).bind fun _ => .pure _
    · rw [map_eq_pure_bind]
      exact ((decryptSecret _).bind fun _ => .pure _).bind fun _ =>
        (decryptSecret _).bind fun _ => (decryptSecret _).bind fun _ => .pure _

theorem refreshRiskSetting : KeepsLogs Holds (refreshRiskSetting accountId) := by
  refine aside.query.bind fun found => ?_
  split
  · exact .throw _
  · exact .pure _

theorem getOrCreateRiskSettings : KeepsLogs Holds (getOrCreateRiskSettings userId accountId) := by
  refine aside.query.bind fun found => ?_
  split
  · exact .pure _
  · exact Observer.Keeps.bind (aside.add fun _ => ⟨rfl, rfl, rfl⟩) fun _ =>
      aside.commit.bind fun _ => aside.refreshRiskSetting

omit aside in
theorem toColumn {precision scale : Nat} (value : Decimal) :
    KeepsLogs Holds (toColumn value : Service (Numeric precision scale)) := by
  unfold CopyTrading.toColumn
  split
  · exact .pure _
  · exact .throw _

omit aside in
theorem toColumn? {precision scale : Nat} (value : Option Decimal) :
    KeepsLogs Holds (toColumn? value : Service (Option (Numeric precision scale))) := by
  unfold CopyTrading.toColumn?
  split
  · exact .pure _
  · rw [map_eq_pure_bind]
    exact (toColumn _).bind fun _ => .pure _

theorem assertNewOrdersAllowed : KeepsLogs Holds assertNewOrdersAllowed :=
  aside.query.bind fun _ => .raiseIf _ _

theorem refreshPosition {symbol : String} : KeepsLogs Holds (refreshPosition accountId symbol) := by
  refine aside.query.bind fun found => ?_
  split
  · exact .throw _
  · exact .pure _

theorem getOrCreatePosition {symbol : String} :
    KeepsLogs Holds (getOrCreatePosition userId accountId symbol) := by
  refine aside.query.bind fun found => ?_
  split
  · exact .pure _
  · exact Observer.Keeps.bind (aside.add fun _ => ⟨rfl, rfl, rfl⟩) fun _ =>
      aside.commit.bind fun _ => aside.refreshPosition

theorem applyFill {symbol : String} {side : OrderSide} {quantity : Decimal} :
    KeepsLogs Holds (applyFill userId accountId symbol side quantity) :=
  aside.getOrCreatePosition.bind fun _ => (toColumn _).bind fun _ =>
    Observer.Keeps.bind (aside.add fun _ => ⟨rfl, rfl, rfl⟩) fun _ =>
      aside.commit.bind fun _ => aside.refreshPosition

theorem resolveSideAndQuantity {signal : TradingSignal} {account : ExchangeAccount} :
    KeepsLogs Holds (resolveSideAndQuantity signal account) := by
  unfold CopyTrading.resolveSideAndQuantity
  split
  · split
    · exact .throw _
    · exact .pure _
  · exact aside.getOrCreatePosition.bind fun _ => .pure _

theorem getOwnedSignal {signalId : String} : KeepsLogs Holds (getOwnedSignal userId signalId) := by
  refine aside.query.bind fun found => ?_
  split
  · exact .throw _
  · exact .pure _

theorem requireOwnedAccount : KeepsLogs Holds (requireOwnedAccount userId accountId) := by
  refine aside.getOwnedAccount.bind fun found => ?_
  split
  · exact .throw _
  · exact .pure _

/-- An audit row is added and committed. -/
theorem audit {row : String → Instant → AuditLog} :
    KeepsLogs Holds (do
      let id ← CopyTrading.ask .newUuid
      let createdAt ← CopyTrading.ask .utcNow
      Session.add fun work => { work with auditLogs := work.auditLogs ++ [row id createdAt] }
      Session.commit) :=
  (ask _).bind fun _ => (ask _).bind fun _ =>
    Observer.Keeps.bind (aside.add fun _ => ⟨rfl, rfl, rfl⟩) fun _ => aside.commit

/-! ### Requests to an exchange -/

section http

variable {client : SignedExchangeHttpClient} {credentials : ExchangeCredentials}
  {method path : String} {params : List (String × String)} {body : Option (List (String × Json))}
  {securityType : ExchangeSecurityType} {prepared : PreparedExchangeRequest}

omit aside in
theorem transportRequest : KeepsLogs Holds (transportRequest py prepared) :=
  (ask _).bind fun _ => .ofExcept _

omit aside in
theorem preparePrivate :
    KeepsLogs Holds
      (client.preparePrivate py method path credentials params body securityType) := by
  unfold SignedExchangeHttpClient.preparePrivate
  split
  · exact (ask _).bind fun _ => .pure _
  · exact (ask _).bind fun _ => .pure _
  · unfold SignedExchangeHttpClient.prepareOkxRequest
    split
    · exact .throw _
    · exact (ask _).bind fun _ => .pure _
  · exact .throw _

omit aside in
theorem getPrivate :
    KeepsLogs Holds (client.getPrivate py path credentials params securityType) :=
  preparePrivate.bind fun _ => transportRequest

omit aside in
theorem createTestnetSignedHttpClient {exchangeName : ExchangeName} :
    KeepsLogs Holds (createTestnetSignedHttpClient exchangeName) := by
  unfold CopyTrading.createTestnetSignedHttpClient
  split
  · exact .pure _
  · exact .throw _

omit aside in
theorem executeTestnetOrder {order : TestnetOrderRequestInput}
    {gateResult : TestnetOrderGateResult} :
    KeepsLogs Holds (executeTestnetOrder py order gateResult client credentials accountId) := by
  refine Observer.Keeps.bind ?_ fun prepared => Observer.Keeps.bind ?_ fun _ =>
    transportRequest.bind fun _ => .pure _
  · refine Observer.Keeps.bind (.raiseIf _ _) fun _ => ?_
    split
    · exact (Observer.Keeps.ofExcept _).bind fun _ => preparePrivate
    · exact (Observer.Keeps.ofExcept _).bind fun _ => preparePrivate
    · exact (Observer.Keeps.ofExcept _).bind fun _ => preparePrivate
    · exact .throw _
  · refine (ask _).bind fun reply => ?_
    split
    · exact .pure _
    · exact .throw _
    · exact .throw _

end http

end OrdersAside

/-! ### Executions of a session -/

section executions

variable {adds : Bool} {id : String} {s : Session} {seen : SeenOrders} {α : Type}

/-- A stored row is found and held. -/
theorem LoggedSession.loading_read {row : OrderExecution} {db : Db}
    (logged : LoggedSession adds s seen) (stored : row ∈ db.executions)
    (hidden : s.shown row.id = none) :
    LoggedSession adds (s.loading row) (seen.read db) := by
  unfold Session.shown at hidden
  obtain ⟨notAdded, notHeld⟩ := Option.or_eq_none_iff.mp hidden
  refine (logged.read db).load (.inr ⟨row, stored, rfl⟩) ?_ ?_
  · simpa using notAdded
  · simpa [Session.heldExecution] using notHeld

/-- Attribute access shows the execution. -/
theorem follows_execution {post : Except Exc OrderExecution → Session → SeenOrders → Prop}
    (logged : LoggedSession adds s seen)
    (missing : ∀ seen', LoggedSession adds s seen' → post (.error .objectDeleted) s seen')
    (shows : ∀ x s' seen', LoggedSession adds s' seen' → s'.shown id = some x →
      post (.ok x) s' seen') :
    Follows orderObserver.protocol semantics (Session.execution id) post s seen := by
  cases shown : s.shown id with
  | some x =>
    rw [← bind_pure (Session.execution id)]
    exact (follows_execution_shown shown).mpr (shows x s seen logged shown)
  | none =>
    have hidden := shown
    unfold Session.shown at hidden
    obtain ⟨notAdded, notHeld⟩ := Option.or_eq_none_iff.mp hidden
    rw [Option.map_eq_none_iff] at notHeld
    unfold Session.execution
    rw [follows_session_bind, notAdded]
    dsimp only
    rw [notHeld]
    dsimp only
    rw [← bind_pure (Session.loadExecution id)]
    refine follows_refreshExecution_bind (fun world _ => ?_) fun world row stored same => ?_
    · exact ⟨_, ⟨True.intro, rfl⟩, missing _ (logged.read world.db)⟩
    · refine ⟨_, ⟨True.intro, rfl⟩, ?_⟩
      have others : s.executions.filter (·.loaded.id ≠ id) = s.executions := by
        refine List.filter_eq_self.mpr fun x mem => ?_
        simpa using List.find?_eq_none.mp notHeld x mem
      subst same
      rw [others]
      exact shows row (s.loading row) _ (logged.loading_read stored shown) (shown_loading shown)

theorem keepsLogs_execution : KeepsLogs (LoggedSession adds) (Session.execution id) :=
  fun _ _ logged => follows_execution logged (fun _ logged => logged) fun _ _ _ logged _ => logged

theorem keepsLogs_setExecution {set : OrderExecution.Change → OrderExecution.Change}
    (annotates : ∀ change : OrderExecution.Change, (set change).status = change.status) :
    KeepsLogs (LoggedSession adds) (Session.setExecution id set) :=
  .modify fun _ _ logged => logged.annotate annotates

/-- An execution without an id cannot be logged, and is left as it is. -/
theorem keepsLogs_transition {toStatus : OrderExecutionStatus} {reason : String}
    {details : Json} :
    KeepsLogs (LoggedSession adds) (transitionOrderExecution id toStatus reason details) := by
  intro s seen logged
  unfold transitionOrderExecution
  have opened : Follows orderObserver.protocol semantics (Session.execution id)
      (fun outcome s' seen' => LoggedSession adds s' seen' ∧
        ∀ x, outcome = .ok x → s'.shown id = some x) s seen :=
    follows_execution logged (fun _ logged => ⟨logged, by rintro _ ⟨⟩⟩)
      fun x _ _ logged shown => ⟨logged, by rintro _ ⟨⟩; exact shown⟩
  refine opened.bind ?_ fun _ _ _ kept => kept.1
  rintro x s seen ⟨logged, shown⟩
  have shown := shown x rfl
  obtain rfl : x.id = id := id_of_shown shown
  refine follows_raiseIf_bind (fun _ => logged) fun allowed => ?_
  rw [follows_setExecution_bind, ← bind_pure (addTransition _ _ _ _ _)]
  refine follows_addTransition_bind (fun unsaved _ => ?_) fun saved world => ?_
  · exact logged.unsaved unsaved
  · exact ⟨_, ⟨True.intro, rfl⟩, logged.move shown saved (not_not.mp allowed)⟩

theorem follows_loadExecution_empty {next : OrderExecution → Service α}
    (rest : ∀ x, KeepsLogs (LoggedSession adds) (next x)) :
    Follows orderObserver.protocol semantics (Session.loadExecution id >>= next)
      (fun _ s' seen' => LoggedSession adds s' seen') {} seen :=
  follows_refreshExecution_bind (fun _ _ => ⟨_, ⟨True.intro, rfl⟩, .empty⟩) fun _ row stored _ =>
    ⟨_, ⟨True.intro, rfl⟩, rest row _ _ (LoggedSession.empty.loading_read stored rfl)⟩

/-- After a commit the execution is loaded anew. -/
theorem keepsLogs_commit_load {next : OrderExecution → Service α}
    (rest : ∀ x, KeepsLogs (LoggedSession adds) (next x)) :
    KeepsLogs (LoggedSession adds)
      (Session.commit >>= fun _ => Session.loadExecution id >>= next) :=
  fun _ _ logged => (ordersAside_logged adds).follows_commit logged (fun _ => .empty)
    (follows_loadExecution_empty rest)

/-- A row that was read is held. -/
theorem follows_holdExecution {row : OrderExecution} (logged : LoggedSession adds s seen)
    (none_added : s.work.executions = []) (stored : seen.stored row.id) :
    Follows orderObserver.protocol semantics (Session.holdExecution row)
      (fun _ s' seen' => LoggedSession adds s' seen' ∧ s'.work.executions = [] ∧ seen' = seen)
      s seen := by
  unfold Session.holdExecution
  rw [follows_session_bind]
  cases held : s.heldExecution row.id with
  | some x => exact ⟨logged, none_added, rfl⟩
  | none =>
    refine ⟨logged.load stored ?_ ?_, none_added, rfl⟩
    · rw [none_added]
      simp
    · simpa [Session.heldExecution] using held

end executions

/-! ### Recording a new execution -/

/-- A session without orders, and one execution that was added to it. -/
def RecordingOf (row : OrderExecution) (s : Session) (seen : SeenOrders) : Prop :=
  ∃ blank, BlankSession blank seen ∧ s = blank.adding (Work.withExecution row)

section recording

variable {py : Platform} {userId : String} {row : OrderExecution}

theorem keepsRecording_flush : KeepsLogs (RecordingOf row) Session.flush := by
  refine .session fun s => Observer.Keeps.bind (.select ?_) fun accepted => ?_
  · rintro _ seen store ⟨blank, holds, rfl⟩
    exact ⟨True.intro, blank, ordersAside_blank.read holds store.db, rfl⟩
  · split
    · exact .pure _
    · exact .throw _

theorem brings_addExecution :
    orderObserver.Brings semantics BlankSession (RecordingOf row)
      (Session.add fun work => { work with executions := work.executions ++ [row] }) := by
  intro s seen blank _ _
  exact ⟨s, blank, rfl⟩

theorem brings_recordInitial {reason : String} (created : row.status = .created) :
    orderObserver.Brings semantics (RecordingOf row) (LoggedSession true)
      (recordInitialOrderState row.id reason) := by
  rintro _ seen ⟨blank, holds, rfl⟩
  have added : (blank.adding (Work.withExecution row)).work.executions = [row] := by
    change blank.work.executions ++ [row] = [row]
    rw [holds.none_added, List.nil_append]
  unfold recordInitialOrderState
  rw [follows_execution_added added]
  refine follows_raiseIf_bind (fun other => absurd created other) fun _ => ?_
  rw [← bind_pure (addTransition _ _ _ _)]
  refine follows_addTransition_bind (fun _ _ => by rintro _ ⟨⟩) fun saved world => ?_
  refine ⟨_, ⟨True.intro, rfl⟩, fun _ _ => ?_⟩
  exact holds.logged.insert holds.none_added holds.none_held created saved

/-- The execution of a signal is recorded with its log. -/
theorem brings_createExecution {signal : TradingSignal} {account : ExchangeAccount}
    {side : OrderSide} {quantity : Decimal} :
    orderObserver.Brings semantics BlankSession (LoggedSession true)
      (createExecution userId signal account side quantity) := by
  unfold createExecution
  refine (OrdersAside.ask _).brings.bind fun id => (OrdersAside.ask _).brings.bind
    fun executionId => (OrdersAside.toColumn _).brings.bind fun stored =>
    brings_addExecution.bind fun _ => keepsRecording_flush.brings.bind fun _ =>
    Observer.Brings.bind (brings_recordInitial rfl) fun _ => Observer.Keeps.brings ?_
  rw [show (discard (Session.loadExecution id) >>= fun _ => pure id : Service String) =
    Session.loadExecution id >>= fun _ => pure id from Handler.discard_bind _ _]
  exact keepsLogs_commit_load fun _ => .pure _

/-- So is a submission, beside its signal. -/
theorem brings_addSubmission {context : TestnetOrderApiContext} :
    orderObserver.Brings semantics BlankSession (LoggedSession true)
      (addSubmission py userId context) := by
  unfold addSubmission
  refine (OrdersAside.ask _).brings.bind fun signalId => (OrdersAside.toColumn? _).brings.bind
    fun price => (OrdersAside.toColumn _).brings.bind fun quantity =>
    Observer.Brings.bind (Observer.Keeps.brings (ordersAside_blank.add fun _ =>
      ⟨rfl, rfl, rfl⟩)) fun _ => ordersAside_blank.flush.brings.bind fun _ =>
    (OrdersAside.ask _).brings.bind fun id => (OrdersAside.ask _).brings.bind fun executionId =>
    brings_addExecution.bind fun _ => keepsRecording_flush.brings.bind fun _ => ?_
  exact Observer.Brings.bind (brings_recordInitial rfl) fun _ => (Observer.Keeps.pure _).brings

end recording

/-! ### Executing a signal -/

section services

variable {py : Platform} {userId accountId id : String} {adds : Bool}

theorem keepsLogs_failExecution {result : RiskCheckResult} {alertRuntime : Bool} :
    KeepsLogs (LoggedSession adds) (failExecution id result alertRuntime) := by
  refine Observer.Keeps.bind (keepsLogs_setExecution fun _ => rfl) fun _ =>
    keepsLogs_transition.bind fun _ => keepsLogs_commit_load fun execution =>
    Observer.Keeps.bind ?_ fun _ => .pure _
  unfold notifyOrderFailure
  split
  · exact OrdersAside.ask _
  · exact .pure _

theorem keepsLogs_fillExecution {signal : TradingSignal} {account : ExchangeAccount}
    {side : OrderSide} {quantity : Decimal} {response : Json} :
    KeepsLogs (LoggedSession adds)
      (fillExecution py userId id signal account side quantity response) := by
  refine (Observer.Keeps.ofExcept _).bind fun _ => keepsLogs_execution.discards.bind fun _ =>
    Observer.Keeps.bind (keepsLogs_setExecution fun _ => rfl) fun _ =>
    keepsLogs_transition.bind fun _ => (ordersAside_logged adds).applyFill.discards.bind fun _ => ?_
  rw [← bind_pure (Session.loadExecution id)]
  exact keepsLogs_commit_load fun _ => .pure _

theorem keepsLogs_placeExecution {signal : TradingSignal} {account : ExchangeAccount}
    {side : OrderSide} {quantity : Decimal} :
    KeepsLogs (LoggedSession adds)
      (placeExecution py userId id signal account side quantity) :=
  keepsLogs_transition.bind fun _ => (ordersAside_logged adds).commit.bind fun _ =>
    keepsLogs_transition.bind fun _ => (ordersAside_logged adds).commit.bind fun _ =>
    (OrdersAside.ask _).bind fun _ => (Observer.Keeps.ofExcept _).bind fun _ =>
    keepsLogs_fillExecution

/-- An execution is recorded in a session without orders, or the one that is there is held. -/
theorem brings_executeSignalForAccount {signalId : String} {alertRuntime : Bool} :
    orderObserver.Brings semantics BlankSession (LoggedSession true)
      (executeSignalForAccount py userId signalId accountId alertRuntime) := by
  have aside := ordersAside_logged true
  unfold executeSignalForAccount
  refine ordersAside_blank.assertNewOrdersAllowed.brings.bind fun _ =>
    ordersAside_blank.getOwnedSignal.brings.bind fun signal =>
    ordersAside_blank.requireOwnedAccount.brings.bind fun account => ?_
  intro s seen blank
  refine follows_query_bind.mpr fun world => ⟨_, ⟨True.intro, rfl⟩, ?_⟩
  have blank := ordersAside_blank.read blank world.db
  cases found : executionOf signal.id account.id world.db with
  | some row =>
    have stored : (seen.read world.db).stored row.id := .inr ⟨row, Table.mem_of_find? found, rfl⟩
    exact (follows_holdExecution blank.logged blank.none_added stored).mono
      fun _ _ _ kept _ _ => kept.1
  | none =>
    refine (ordersAside_blank.resolveSideAndQuantity.brings.bind fun traded =>
      brings_createExecution.bind fun created => Observer.Keeps.brings ?_) s _ blank
    refine aside.getOrCreateRiskSettings.bind fun _ => aside.account.bind fun _ =>
      (Observer.Keeps.ofExcept _).bind fun _ => keepsLogs_execution.discards.bind fun _ =>
      Observer.Keeps.bind (keepsLogs_setExecution fun _ => rfl) fun _ => ?_
    split
    · exact keepsLogs_failExecution
    · exact keepsLogs_placeExecution

/-! ### Submitting to a testnet -/

theorem keepsBlank_authorizeWindow {payload : TestnetOrderSubmitRequest} :
    KeepsLogs BlankSession (authorizeWindow py userId payload accountId) := by
  refine Observer.Keeps.tryCatch ?_ fun raised => ?_
  · refine ordersAside_blank.query.bind fun found => ?_
    split
    · exact .throw _
    · rename_i approval
      refine (OrdersAside.ask _).bind fun now => ?_
      -- whatever the checks on the approval find
      generalize windowReasons py (windowOrder payload) approval now = reasons
      exact (Observer.Keeps.ofExcept _).bind fun _ =>
        (Observer.Keeps.raiseIf _ _).bind fun _ => .pure _
  · split
    · exact .throw _
    · exact .throw _

theorem keepsBlank_buildTestnetOrderApiContext {payload : TestnetOrderSubmitRequest}
    {testnetAdaptersEnabled : Bool} :
    KeepsLogs BlankSession
      (buildTestnetOrderApiContext py userId payload testnetAdaptersEnabled) := by
  have aside := ordersAside_blank
  refine aside.getOwnedAccount.bind fun found => ?_
  split
  · exact .throw _
  · refine aside.getOrCreateRiskSettings.bind fun _ => aside.account.bind fun account =>
      aside.getApiKeySecretMetadata.bind fun _ => (Observer.Keeps.raiseIf _ _).bind fun _ =>
      keepsBlank_authorizeWindow.bind fun _ => aside.getExchangeCredentials.bind fun found => ?_
    split
    · exact .throw _
    · exact .pure _

/-- A submission is recorded in a session without orders, or the one that is there is held. -/
theorem brings_createOrGetTestnetSubmissionExecution {context : TestnetOrderApiContext} :
    orderObserver.Brings semantics BlankSession (LoggedSession true)
      (createOrGetTestnetSubmissionExecution py userId context) := by
  have aside := ordersAside_logged true
  intro s seen blank
  refine follows_query_bind.mpr fun world => ⟨_, ⟨True.intro, rfl⟩, ?_⟩
  have blank := ordersAside_blank.read blank world.db
  cases found : executionByClientOrderId context.order.clientOrderId world.db with
  | some row =>
    have stored : (seen.read world.db).stored row.id := .inr ⟨row, Table.mem_of_find? found, rfl⟩
    refine (follows_holdExecution blank.logged blank.none_added stored).bind ?_ ?_
    · rintro existing s' _ ⟨logged, -, rfl⟩
      exact ((Observer.Keeps.raiseIf _ _).bind fun _ => .pure _).brings s' _ logged
    · rintro raised s' _ - _ ⟨⟩
  | none =>
    refine (brings_addSubmission.bind fun id => Observer.Keeps.brings ?_) s _ blank
    refine aside.getOrCreateRiskSettings.bind fun _ => aside.account.bind fun _ =>
      (Observer.Keeps.ofExcept _).bind fun _ => keepsLogs_execution.discards.bind fun _ =>
      Observer.Keeps.bind (keepsLogs_setExecution fun _ => rfl) fun _ => ?_
    split
    · refine Observer.Keeps.bind (keepsLogs_setExecution fun _ => rfl) fun _ =>
        keepsLogs_transition.bind fun _ => ?_
      rw [Handler.discard_bind]
      exact keepsLogs_commit_load fun _ => .throw _
    · refine keepsLogs_transition.bind fun _ => keepsLogs_transition.bind fun _ => ?_
      rw [Handler.discard_bind]
      exact keepsLogs_commit_load fun _ => .pure _

theorem keepsLogs_recordTestnetSubmissionAccepted {exchangeResponse : Json} :
    KeepsLogs (LoggedSession adds) (recordTestnetSubmissionAccepted py id exchangeResponse) := by
  refine keepsLogs_execution.bind fun _ => (Observer.Keeps.ofExcept _).bind fun _ =>
    (Observer.Keeps.raiseIf _ _).bind fun _ => (ordersAside_logged adds).refuseIf.bind fun _ =>
    Observer.Keeps.bind (keepsLogs_setExecution fun _ => rfl) fun _ =>
    keepsLogs_transition.bind fun _ => ?_
  rw [← bind_pure (Session.loadExecution id)]
  exact keepsLogs_commit_load fun _ => .pure _

theorem keepsLogs_recordTestnetSubmissionFailure {failureType : String} :
    KeepsLogs (LoggedSession adds) (recordTestnetSubmissionFailure id failureType) := by
  refine keepsLogs_execution.bind fun execution => ?_
  split
  · exact .pure _
  · refine Observer.Keeps.bind (keepsLogs_setExecution fun _ => rfl) fun _ =>
      keepsLogs_transition.bind fun _ => ?_
    rw [← bind_pure (Session.loadExecution id)]
    exact keepsLogs_commit_load fun _ => .pure _

theorem keepsLogs_answerSubmitError {α : Type} {Holds : Session → SeenOrders → Prop}
    {recordFailure : String → Service Unit} {raised : Exc}
    (records : ∀ failureType, KeepsLogs Holds (recordFailure failureType)) :
    KeepsLogs Holds (answerSubmitError recordFailure raised : Service α) := by
  refine (Observer.Keeps.raiseIf _ _).bind fun _ => (Observer.Keeps.raiseIf _ _).bind fun _ => ?_
  split
  · exact .throw _
  · exact .throw _
  · exact .throw _
  · exact (records _).bind fun _ => .throw _
  · exact (records _).bind fun _ => .throw _
  · split
    · exact (records _).bind fun _ => .throw _
    · exact .throw _

/-- The clauses around the first part only raise. -/
theorem brings_answerSubmitError {α : Type} {After : Session → SeenOrders → Prop} {raised : Exc} :
    orderObserver.Brings semantics (fun _ _ => True) After
      (answerSubmitError recordNoFailure raised : Service α) := by
  have raises (condition : Prop) [Decidable condition] (exc : Exc) :
      KeepsLogs (fun _ _ => True) (Handler.raiseIf condition exc) := .raiseIf _ _
  refine (raises _ _).brings.bind fun _ => (raises _ _).brings.bind fun _ => ?_
  have records (failureType : String) :
      KeepsLogs (fun _ _ => True) (recordNoFailure failureType) := .pure _
  split
  · exact .throw _
  · exact .throw _
  · exact .throw _
  · exact (records _).brings.bind fun _ => .throw _
  · exact (records _).brings.bind fun _ => .throw _
  · split
    · exact (records _).brings.bind fun _ => .throw _
    · exact .throw _

theorem brings_submitTestnetOrder {payload : TestnetOrderSubmitRequest}
    {testnetAdaptersEnabled : Bool} :
    orderObserver.Brings semantics BlankSession (LoggedSession true)
      (submitTestnetOrder py userId payload testnetAdaptersEnabled) := by
  unfold submitTestnetOrder
  refine Observer.Brings.bind (Observer.Brings.tryCatch ?_ fun _ => brings_answerSubmitError)
    fun recorded => Observer.Keeps.brings ?_
  · exact ordersAside_blank.assertNewOrdersAllowed.brings.bind fun _ =>
      keepsBlank_buildTestnetOrderApiContext.brings.bind fun context =>
      brings_createOrGetTestnetSubmissionExecution.bind fun _ => (Observer.Keeps.pure _).brings
  · obtain ⟨context, submission⟩ := recorded
    dsimp only
    split
    · exact keepsLogs_execution.bind fun _ => .ofExcept _
    · refine Observer.Keeps.bind (.tryCatch ?_ fun raised => ?_) fun _ => .ofExcept _
      · exact OrdersAside.createTestnetSignedHttpClient.bind fun _ =>
          OrdersAside.executeTestnetOrder.bind fun _ => keepsLogs_recordTestnetSubmissionAccepted
      · exact keepsLogs_answerSubmitError fun _ => keepsLogs_recordTestnetSubmissionFailure.discards

/-! ### What an exchange reports -/

theorem keepsLogs_attemptTransition {event : NormalizedTestnetOrderEvent}
    {transitionReason : String} :
    KeepsLogs (LoggedSession adds) (attemptTransition id event transitionReason) := by
  refine .tryCatch (keepsLogs_transition.bind fun _ => .pure _) fun raised => ?_
  split
  · exact .pure _
  · exact .throw _

theorem keepsLogs_commitOrderEvent {execution : OrderExecution}
    {event : NormalizedTestnetOrderEvent} :
    KeepsLogs (LoggedSession adds) (commitOrderEvent execution event) := by
  refine (ordersAside_logged adds).refuseIf.bind fun _ =>
    Observer.Keeps.bind (keepsLogs_setExecution fun change => ?_) fun _ =>
    keepsLogs_commit_load fun _ => .pure _
  split
  · rfl
  · rfl

theorem keepsLogs_applyTestnetOrderEvent {event : NormalizedTestnetOrderEvent}
    {transitionReason : String} :
    KeepsLogs (LoggedSession false)
      (applyTestnetOrderEvent userId accountId event transitionReason) := by
  refine (Observer.Keeps.raiseIf _ _).bind fun _ => (Observer.Keeps.raiseIf _ _).bind
    fun _ s seen logged => ?_
  refine follows_query_bind.mpr fun world => ⟨_, ⟨True.intro, rfl⟩, ?_⟩
  have logged := logged.read world.db
  cases found : findExecution userId accountId event world.db with
  | none => exact logged
  | some row =>
    have stored : (seen.read world.db).stored row.id := .inr ⟨row, Table.mem_of_find? found, rfl⟩
    refine (follows_holdExecution logged (logged.none_added rfl) stored).bind ?_
      fun _ _ _ kept => kept.1
    rintro execution s' _ ⟨logged, -, rfl⟩
    dsimp only
    split
    · exact logged
    · refine keepsLogs_attemptTransition.bind (fun allowed => ?_) s' _ logged
      split
      · exact keepsLogs_commitOrderEvent
      · exact .pure _

theorem keepsLogs_reconcileExecution {exchangeName : ExchangeName}
    {credentials : ExchangeCredentials} {client : SignedExchangeHttpClient} :
    KeepsLogs (LoggedSession false)
      (reconcileExecution py userId accountId exchangeName credentials client id) := by
  refine Observer.Keeps.bind (.tryCatch ?_ fun raised => ?_) fun outcome =>
    keepsLogs_execution.bind fun execution => ?_
  · exact keepsLogs_execution.bind fun _ => OrdersAside.getPrivate.bind fun _ =>
      (Observer.Keeps.ofExcept _).bind fun _ =>
      keepsLogs_applyTestnetOrderEvent.bind fun _ => .pure _
  · split
    · exact .pure _
    · exact .throw _
  · split
    · exact .pure _
    · exact .pure _

theorem keepsLogs_reconcileExecutions {exchangeName : ExchangeName}
    {credentials : ExchangeCredentials} {client : SignedExchangeHttpClient} (ids : List String) :
    KeepsLogs (LoggedSession false)
      (reconcileExecutions py userId accountId exchangeName credentials client ids) := by
  induction ids with
  | nil => exact .pure _
  | cons id rest ih => exact keepsLogs_reconcileExecution.bind fun _ => ih.bind fun _ => .pure _

theorem follows_holdExecutions {rows : List OrderExecution} {s : Session} {seen : SeenOrders}
    (logged : LoggedSession false s seen) (stored : ∀ row ∈ rows, seen.stored row.id) :
    Follows orderObserver.protocol semantics (holdExecutions rows)
      (fun _ s' seen' => LoggedSession false s' seen') s seen := by
  induction rows generalizing s with
  | nil => exact logged
  | cons row rest ih =>
    obtain ⟨first, stored⟩ := List.forall_mem_cons.mp stored
    unfold holdExecutions
    rw [Handler.discard_bind]
    refine (follows_holdExecution logged (logged.none_added rfl) first).bind ?_
      fun _ _ _ kept => kept.1
    rintro _ s' _ ⟨kept, -, rfl⟩
    exact ih kept stored

theorem keepsLogs_reconcilePendingTestnetOrders :
    KeepsLogs (LoggedSession false) (reconcilePendingTestnetOrders py userId accountId) := by
  have aside := ordersAside_logged false
  refine aside.getOwnedAccount.bind fun owned => (Observer.Keeps.ofExcept _).bind fun account =>
    aside.getExchangeCredentials.bind fun credentials => ?_
  split
  · exact .throw _
  · refine OrdersAside.createTestnetSignedHttpClient.bind fun client s seen logged => ?_
    refine follows_query_bind.mpr fun world => ⟨_, ⟨True.intro, rfl⟩, ?_⟩
    refine (follows_holdExecutions (logged.read world.db) fun row mem => ?_).bind ?_
      fun _ _ _ kept => kept
    · exact .inr ⟨row, (List.mem_filter.mp mem).1, rfl⟩
    · intro _ s' seen' logged
      refine (keepsLogs_reconcileExecutions _).bind (fun items => ?_) s' seen' logged
      exact aside.audit.bind fun _ => .pure _

end services

/-! ### Checks, reads and streams -/

section beside

variable {py : Platform} {userId accountId : String} {α : Type}

theorem keepsLogs_getBalances {adapter : ReadOnlyTestnetAdapter} :
    KeepsLogs (LoggedSession false) (adapter.getBalances py) :=
  OrdersAside.getPrivate.bind fun _ => .ofExcept _

theorem keepsLogs_runTestnetReadOnlyCheck {testnetAdaptersEnabled : Bool} :
    KeepsLogs (LoggedSession false)
      (runTestnetReadOnlyCheck py userId accountId testnetAdaptersEnabled) := by
  have aside := ordersAside_logged false
  refine aside.getOwnedAccount.bind fun found => ?_
  split
  · exact .throw _
  refine aside.getExchangeCredentials.bind fun credentials => ?_
  dsimp only
  split
  · refine OrdersAside.createTestnetSignedHttpClient.bind fun client => Observer.Keeps.bind
      (.tryCatch keepsLogs_getBalances fun raised => ?_) fun _ =>
        aside.audit.bind fun _ => aside.account.bind fun _ => .pure _
    exact aside.audit.bind fun _ => .throw _
  · exact aside.audit.bind fun _ => .throw _

theorem keepsLogs_runRealReadOnlyCheck :
    KeepsLogs (LoggedSession false) (runRealReadOnlyCheck py userId accountId) := by
  have aside := ordersAside_logged false
  refine aside.getOwnedAccount.bind fun found => ?_
  split
  · exact .throw _
  refine aside.getExchangeCredentials.bind fun credentials => ?_
  dsimp only
  split
  · refine Observer.Keeps.bind (.tryCatch keepsLogs_getBalances fun raised => ?_) fun _ =>
      aside.audit.bind fun _ => aside.account.bind fun _ => .pure _
    exact aside.audit.bind fun _ => .throw _
  · exact aside.audit.bind fun _ => .throw _

theorem keepsLogs_readRealAccount {kind : RealReadKind}
    {read : ReadOnlyTestnetAdapter → Service (List α)}
    (reads : ∀ adapter, KeepsLogs (LoggedSession false) (read adapter)) :
    KeepsLogs (LoggedSession false) (readRealAccount py kind read userId accountId) := by
  have aside := ordersAside_logged false
  refine aside.getOwnedAccount.bind fun found => ?_
  split
  · exact .pure _
  refine aside.getExchangeCredentials.bind fun credentials => ?_
  dsimp only
  split
  · rw [map_eq_pure_bind]
    refine Observer.Keeps.bind (.tryCatch ((reads _).bind fun _ => .pure _) fun _ => .pure _)
      fun outcome => ?_
    split
    · exact aside.audit.bind fun _ => .pure _
    · exact aside.audit.bind fun _ => aside.account.bind fun _ => .pure _
  · exact .pure _

theorem keepsLogs_readRealBalances :
    KeepsLogs (LoggedSession false) (readRealBalances py userId accountId) := by
  refine (keepsLogs_readRealAccount fun adapter => ?_).bind fun _ => .pure _
  exact keepsLogs_getBalances.bind fun _ => .ofExcept _

theorem keepsLogs_readRealOpenOrders :
    KeepsLogs (LoggedSession false) (readRealOpenOrders py userId accountId) := by
  refine (keepsLogs_readRealAccount fun adapter => ?_).bind fun _ => .pure _
  exact OrdersAside.getPrivate.bind fun _ => .ofExcept _

theorem keepsLogs_upsertBalances (columns : List BalanceColumns) :
    KeepsLogs (LoggedSession false) (upsertBalances userId accountId columns) := by
  have aside := ordersAside_logged false
  induction columns with
  | nil => exact .pure _
  | cons first rest ih =>
    refine Observer.Keeps.bind (.session fun s => ?_) fun _ => ih
    split
    · exact aside.add fun _ => ⟨rfl, rfl, rfl⟩
    refine aside.query.bind fun found => ?_
    split
    · exact aside.add fun _ => ⟨rfl, rfl, rfl⟩
    · exact aside.add fun _ => ⟨rfl, rfl, rfl⟩

theorem keepsLogs_upsertPositions (columns : List PositionColumns) :
    KeepsLogs (LoggedSession false) (upsertPositions userId accountId columns) := by
  have aside := ordersAside_logged false
  induction columns with
  | nil => exact .pure _
  | cons first rest ih =>
    refine Observer.Keeps.bind (.session fun s => ?_) fun _ => ih
    split
    · exact aside.add fun _ => ⟨rfl, rfl, rfl⟩
    refine aside.query.bind fun found => ?_
    split
    · exact aside.add fun _ => ⟨rfl, rfl, rfl⟩
    · exact aside.add fun _ => ⟨rfl, rfl, rfl⟩

theorem keepsLogs_syncTestnetAccountStateEvent {event : TestnetUserStreamEvent} :
    KeepsLogs (LoggedSession false) (syncTestnetAccountStateEvent py userId accountId event) := by
  have aside := ordersAside_logged false
  refine aside.getOwnedAccount.bind fun _ => (Observer.Keeps.ofExcept _).bind fun _ => ?_
  split
  · exact (Observer.Keeps.ofExcept _).bind fun _ => (Observer.Keeps.ofExcept _).bind fun _ =>
      (keepsLogs_upsertBalances _).bind fun _ => aside.flush.bind fun _ => .pure _
  · exact (Observer.Keeps.ofExcept _).bind fun _ => (Observer.Keeps.ofExcept _).bind fun _ =>
      (keepsLogs_upsertPositions _).bind fun _ => aside.flush.bind fun _ => .pure _
  · exact .pure _

theorem keepsLogs_handleTestnetUserStreamEvent {event : TestnetUserStreamEvent} :
    KeepsLogs (LoggedSession false) (handleTestnetUserStreamEvent py userId accountId event) := by
  have aside := ordersAside_logged false
  unfold handleTestnetUserStreamEvent
  split
  · refine Observer.Keeps.bind ?_ fun _ => .pure _
    exact (Observer.Keeps.ofExcept _).bind fun _ => keepsLogs_applyTestnetOrderEvent
  · refine Observer.Keeps.bind (keepsLogs_syncTestnetAccountStateEvent.bind fun result => ?_)
      fun _ => .pure _
    split
    · exact aside.commit.bind fun _ => .pure _
    · exact .pure _

theorem keepsLogs_consumeUserStream {connections : WebSocketConnections}
    {plan : TestnetUserStreamPlan} {maxMessages : Int} :
    KeepsLogs (LoggedSession false)
      (consumeUserStream py userId accountId connections plan maxMessages) := by
  have answers (step : Nat) (call : StreamCall TestnetWebSocketTransport) (s : Session)
      (seen : SeenOrders) (logged : LoggedSession false s seen) :
      (answerStreamCall py userId accountId connections step call s).Follows orderObserver.protocol
        semantics (fun replied seen' => LoggedSession false replied.2 seen') seen := by
    cases call with
    | handle event =>
      exact Prog.Follows.bind (keepsLogs_handleTestnetUserStreamEvent s seen logged)
        fun _ _ kept => kept
    | _ => exact logged
  exact fun s seen logged => Prog.Follows.bind (Observer.Keeps.answeredBy answers logged)
    fun _ _ kept => kept

theorem keepsLogs_consumeBoundedTestnetUserStream {testnetAdaptersEnabled : Bool}
    {maxMessages : Int} {connections : WebSocketConnections} :
    KeepsLogs (LoggedSession false) (consumeBoundedTestnetUserStream py userId accountId
      testnetAdaptersEnabled maxMessages connections) := by
  have aside := ordersAside_logged false
  unfold consumeBoundedTestnetUserStream
  split
  · exact .pure _
  refine aside.getOwnedAccount.bind fun owned => ?_
  split
  · exact .pure _
  refine aside.getExchangeCredentials.bind fun credentials => ?_
  split
  · exact .pure _
  refine OrdersAside.createTestnetSignedHttpClient.bind fun client => ?_
  split
  · exact .pure _
  refine Observer.Keeps.bind ?_ fun activation => ?_
  · unfold activateTestnetUserStreamConnectionPlan
    split
    · exact .pure _
    · exact OrdersAside.transportRequest.bind fun _ => .pure _
  split
  · exact .pure _
  refine keepsLogs_consumeUserStream.bind fun consumed => ?_
  split
  · exact .throw _
  · exact .throw _
  · exact .pure _
  · exact aside.account.bind fun account => aside.audit.bind fun _ => .pure _

end beside

/-! ### All requests together -/

theorem ExchangeRequest.brings_service (py : Platform) (request : ExchangeRequest) :
    orderObserver.Brings semantics BlankSession (fun _ _ => True) (request.service py) := by
  have reads {α : Type} {service : Service α} (keeps : KeepsLogs (LoggedSession false) service) :
      orderObserver.Brings semantics BlankSession (fun _ _ => True) (discard service) :=
    (keeps.discards.brings.weaken fun _ _ blank => blank.reading).mono fun _ _ _ => True.intro
  have orders {α : Type} {service : Service α}
      (brings : orderObserver.Brings semantics BlankSession (LoggedSession true) service) :
      orderObserver.Brings semantics BlankSession (fun _ _ => True) (discard service) :=
    brings.bind fun _ _ _ _ _ _ => True.intro
  cases request with
  | execute => exact orders brings_executeSignalForAccount
  | submit => exact orders brings_submitTestnetOrder
  | reconcile => exact reads keepsLogs_reconcilePendingTestnetOrders
  | checkTestnet => exact reads keepsLogs_runTestnetReadOnlyCheck
  | consumeStream => exact reads keepsLogs_consumeBoundedTestnetUserStream
  | checkReal => exact reads keepsLogs_runRealReadOnlyCheck
  | readRealBalances => exact reads keepsLogs_readRealBalances
  | readRealOpenOrders => exact reads keepsLogs_readRealOpenOrders

/-- What was read stays true, and each commit keeps the logs. -/
theorem orderObserver_preserves {ι : Type} (linked : Prop) :
    orderObserver.Preserves semantics (fun seen (w : World) => seen.Valid w.db)
      (fun (trace : Trace backend ι) (w : World) => w.db.Raced ∧
        (w.db.Linked ↔ linked ∧ ∀ x ∈ trace, DecidesCurrent x.2)) := by
  have written {seen : SeenOrders} {work : Work} {before after : World}
      (logged : ∃ adds s, LoggedSession adds s seen ∧ work = s.pending)
      (sound : (Event.commit work before after : Event backend).Sound semantics) :
      work.Written before.db after.db := by
    obtain ⟨adds, s, logged, rfl⟩ := logged
    exact Work.written_of_flush (World.flush_ok sound).1 logged.noStop
  have kept {seen seen' : SeenOrders} (e : Event backend) (valid : seen'.Valid e.before.db)
      (asks : orderObserver.Asks seen e) (sound : e.Sound semantics) : seen'.Valid e.after.db := by
    cases e with
    | read | abort => exact valid
    | call query answer before after =>
      have same : after.db = before.db := @db_eq_of_call query answer before after sound
      exact same ▸ valid
    | commit work before after =>
      have written := written asks sound
      constructor
      · intro id stored
        obtain ⟨x, mem, same⟩ := valid.stored id stored
        exact ⟨_, (Table.mem_insertAll written.executions).mpr
          (.inl (Table.mem_writeBack.mpr ⟨x, mem, rfl⟩)), (sameOrder_updated _ x).id.trans same⟩
      · intro id
        change _ ≤ maxSequence id after.db.transitions.rows
        rw [Table.rows_insertAll written.transitions, maxSequence_append]
        exact (valid.number id).trans (le_max_left _ _)
  constructor
  · intro seen e valid asks sound
    cases e with
    | read world =>
      constructor
      · rintro id (earlier | now)
        · exact valid.stored id earlier
        · exact now
      · exact fun id => max_le (valid.number id) le_rfl
    | commit | abort | call => exact kept _ valid asks sound
  · exact fun seen seen' e _ valid asks sound => kept e valid asks sound
  · rintro trace i seen e ⟨raced, links⟩ valid asks sound
    have snoc : (∀ x ∈ trace ++ [(i, e)], DecidesCurrent x.2) ↔
        (∀ x ∈ trace, DecidesCurrent x.2) ∧ DecidesCurrent e := by
      simp only [List.mem_append, List.mem_singleton, or_imp, forall_and, forall_eq]
    rw [snoc, ← and_assoc, ← links]
    cases e with
    | read | abort => exact ⟨raced, (and_iff_left True.intro).symm⟩
    | call query answer before after =>
      have same : after.db = before.db := @db_eq_of_call query answer before after sound
      change after.db.Raced ∧ (after.db.Linked ↔ before.db.Linked ∧ True)
      rw [same, and_true]
      exact ⟨raced, Iff.rfl⟩
    | commit work before after =>
      have written := written asks sound
      obtain ⟨adds, s, logged, rfl⟩ := asks
      exact logged.commit written valid raced

/-- In every interleaving of requests of any kind, stopped anywhere, the log of every execution
stays numbered from one without a gap, begins with the creation, has only allowed moves and ends
at the status of the execution. Its rows stay linked exactly if every commit decides the statuses
it writes on the stored ones. -/
theorem transition_logs_raced {ι : Type} [DecidableEq ι] {py : Platform}
    {requests : ι → ExchangeRequest} {world : World} {trace : Trace backend ι}
    {c : Config backend fun _ : ι => Except Exc Unit × Session}
    (run : Config.Run semantics (asking py requests world) trace c) (raced : world.db.Raced) :
    c.store.db.Raced ∧
      (c.store.db.Linked ↔ world.db.Linked ∧ ∀ x ∈ trace, DecidesCurrent x.2) := by
  have follows (i : ι) := (requests i).brings_service py {} .nothing ⟨.empty, rfl, rfl⟩
  obtain ⟨known, tracked, -⟩ := run.tracked (Q := fun _ => orderObserver.protocol) follows
  exact (orderObserver_preserves world.db.Linked).of_run tracked
    (fun _ => ⟨fun _ stored => stored.elim, fun _ => Nat.zero_le _⟩)
    ⟨raced, (and_iff_left fun _ mem => (List.not_mem_nil mem).elim).symm⟩


/-! ### Two reconciliations of one order -/

def loggedMove (sequenceNumber : Nat) (fromStatus : Option OrderExecutionStatus)
    (toStatus : OrderExecutionStatus) : OrderExecutionTransition where
  userId := "u"
  orderExecutionId := "x"
  sequenceNumber := sequenceNumber
  fromStatus := fromStatus
  toStatus := toStatus
  reason := "sample"
  details := .null

/-- A submission whose answer was not recorded, while trading is off. -/
def pendingWorld : World where
  db :=
    { accounts := oneRow { sampleAccount .testnet with tradingEnabled := false }
      secrets := oneRow sampleSecret
      executions := oneRow submittedExecution
      transitions :=
        { rows := [loggedMove 1 none .created, loggedMove 2 (some .created) .riskPassed,
            loggedMove 3 (some .riskPassed) .submitted]
          distinct := by decide } }

theorem pendingWorld_raced : pendingWorld.db.Raced where
  log x stored := by
    rw [List.mem_singleton.mp stored]
    exact .opened ⟨rfl, rfl, rfl, List.mem_cons_self, rfl, List.mem_cons_self, rfl⟩ rfl
  belongs row mem := by
    refine ⟨submittedExecution, List.mem_cons_self, ?_⟩
    have named : ∀ row ∈ pendingWorld.db.transitions.rows, row.orderExecutionId = "x" := by decide
    exact (named row mem).symm
  saved x stored := by
    rw [List.mem_singleton.mp stored]
    decide

def filledAnswer : Exchange where
  takes := true
  reply := .payload (some (.obj [("clientOrderId", .str "c"), ("status", .str "FILLED")]))

/-- Two sessions reconcile the account, and the exchange reports the order as filled. The second one
has loaded the order before the first one commits. -/
def reconciledTwice :
    Trace backend Bool × Config backend fun _ : Bool => Except Exc Unit × Session :=
  (asking asciiPlatform (fun _ => .reconcile "u" "a") pendingWorld).replay semantics
    (environment filledAnswer) 0
    (List.replicate 5 true ++ List.replicate 20 false ++ List.replicate 20 true)

/-- The fill is logged a second time, from where the order was when it was loaded. -/
theorem transition_logs_raced_twice :
    reconciledTwice.2.store.db.Raced ∧ ¬ reconciledTwice.2.store.db.Linked ∧
      reconciledTwice.2.store.db.transitions.rows.map (·.fromStatus) =
        [none, some .created, some .riskPassed, some .submitted, some .submitted] := by
  have run : Config.Run semantics (asking asciiPlatform (fun _ => .reconcile "u" "a") pendingWorld)
      reconciledTwice.1 reconciledTwice.2 :=
    Config.replay_reaches (environment_allowed filledAnswer) _ _ _
  have logs := transition_logs_raced run pendingWorld_raced
  have outdated : ¬ ∀ x ∈ reconciledTwice.1, DecidesCurrent x.2 := by decide +kernel
  exact ⟨logs.1, fun linked => outdated (logs.2.mp linked).2, by decide +kernel⟩

end CopyTrading
