import CopyTrading.OrderEngine
import CopyTrading.TestnetOrder.Lifecycle
import CopyTrading.TestnetOrder.Submission
import CopyTrading.Transaction.Queries

/-!
What the services ask of their environment, below the exchange clients: the session asks nothing,
and the order services draw ids and read the clock.
-/

namespace CopyTrading

open Transaction Transaction.Handler DecimalArith

variable {Asked : Query → Prop} {py : Platform} {α : Type} {userId accountId id : String}

/-! ### The session -/

theorem asks_query {select : Db → α} :
    AsksOnly Asked (Session.query select : Service α) := .select _

theorem asks_add (extend : Work → Work) : AsksOnly Asked (Session.add extend) := .modify _

theorem asks_flush : AsksOnly Asked Session.flush := by
  refine AsksOnly.session.andThen fun s => (AsksOnly.select _).andThen fun accepted => ?_
  split
  · exact .done _
  · exact .throw _

theorem asks_commit : AsksOnly Asked Session.commit := by
  refine AsksOnly.session.andThen fun s => (AsksOnly.submit _).andThen fun outcome =>
    (AsksOnly.modify _).andThen fun _ => ?_
  split
  · exact .done _
  · exact .throw _

theorem asks_refuseIf {refused : Prop} [Decidable refused] :
    AsksOnly Asked (Session.refuseIf refused) := by
  unfold Session.refuseIf
  split
  · exact (AsksOnly.modify _).andThen fun _ => .throw _
  · exact .done _

theorem asks_holdExecution (row : OrderExecution) : AsksOnly Asked (Session.holdExecution row) := by
  refine AsksOnly.session.andThen fun s => ?_
  split
  · exact .done _
  · exact (AsksOnly.modify _).andThen fun _ => .done _

theorem asks_loadExecution : AsksOnly Asked (Session.loadExecution id) := by
  refine asks_query.andThen fun found => ?_
  split
  · exact .throw _
  · exact (AsksOnly.modify _).andThen fun _ => .done _

theorem asks_execution : AsksOnly Asked (Session.execution id) := by
  refine AsksOnly.session.andThen fun s => ?_
  split
  · exact .done _
  split
  · exact .done _
  · exact asks_loadExecution

theorem asks_setExecution {set : OrderExecution.Change → OrderExecution.Change} :
    AsksOnly Asked (Session.setExecution id set) := .modify _

theorem asks_holdAccount (row : ExchangeAccount) : AsksOnly Asked (Session.holdAccount row) := by
  refine AsksOnly.session.andThen fun s => ?_
  split
  · exact .done _
  · exact (AsksOnly.modify _).andThen fun _ => .done _

theorem asks_account : AsksOnly Asked (Session.account id) := by
  refine AsksOnly.session.andThen fun s => ?_
  split
  · exact .done _
  · refine asks_query.andThen fun found => ?_
    split
    · exact .throw _
    · exact asks_holdAccount _

/-! ### Accounts, keys and settings -/

theorem asks_getOwnedAccount : AsksOnly Asked (getOwnedAccount userId accountId) := by
  refine asks_query.andThen fun found => ?_
  split
  · exact .done _
  · exact (asks_holdAccount _).map _ fun _ _ => True.intro

theorem asks_getApiKeySecretMetadata : AsksOnly Asked (getApiKeySecretMetadata userId accountId) := by
  refine asks_query.andThen fun found => ?_
  split
  · exact .done _
  · refine AsksOnly.session.andThen fun s => ?_
    split
    · exact .done _
    · exact (AsksOnly.modify _).andThen fun _ => .done _

theorem asks_decryptSecret (encrypted : String) : AsksOnly Asked (decryptSecret py encrypted) := by
  unfold decryptSecret
  split
  · exact .done _
  · exact .throw _

theorem asks_getExchangeCredentials :
    AsksOnly Asked (getExchangeCredentials py userId accountId) := by
  refine asks_getApiKeySecretMetadata.andThen fun found => ?_
  split
  · exact .done _
  · dsimp only
    split
    · exact (AsksOnly.done _).andThen fun _ => (asks_decryptSecret _).andThen fun _ =>
        (asks_decryptSecret _).andThen fun _ => .done _
    · exact ((asks_decryptSecret _).map _ fun _ _ => True.intro).andThen fun _ =>
        (asks_decryptSecret _).andThen fun _ => (asks_decryptSecret _).andThen fun _ => .done _

theorem asks_refreshRiskSetting : AsksOnly Asked (refreshRiskSetting accountId) := by
  refine asks_query.andThen fun found => ?_
  split
  · exact .throw _
  · exact .done _

theorem asks_getOrCreateRiskSettings :
    AsksOnly Asked (getOrCreateRiskSettings userId accountId) := by
  refine asks_query.andThen fun found => ?_
  split
  · exact .done _
  · exact (asks_add _).andThen fun _ => asks_commit.andThen fun _ => asks_refreshRiskSetting

theorem asks_toColumn {precision scale : Nat} (value : Decimal) :
    AsksOnly Asked (toColumn value : Service (Numeric precision scale)) := by
  unfold toColumn
  split
  · exact .done _
  · exact .throw _

theorem asks_toColumn? {precision scale : Nat} (value : Option Decimal) :
    AsksOnly Asked (toColumn? value : Service (Option (Numeric precision scale))) := by
  unfold toColumn?
  split
  · exact .done _
  · exact (asks_toColumn _).map _ fun _ _ => True.intro

theorem asks_assertNewOrdersAllowed : AsksOnly Asked assertNewOrdersAllowed :=
  asks_query.andThen fun _ => (AsksOnly.raiseIf _ _).weaken

/-! ### The order state machine -/

theorem asks_addTransition {execution : OrderExecution}
    {fromStatus : Option OrderExecutionStatus} {toStatus : OrderExecutionStatus} {reason : String}
    {details : Json} : AsksOnly Asked (addTransition execution fromStatus toStatus reason details) := by
  refine (AsksOnly.raiseIf _ _).weaken.andThen fun _ => AsksOnly.andThen ?_ fun number => asks_add _
  exact asks_query.andThen fun _ => AsksOnly.session.andThen fun _ => .done _

theorem asks_recordInitialOrderState {reason : String} :
    AsksOnly Asked (recordInitialOrderState id reason) :=
  asks_execution.andThen fun _ => (AsksOnly.raiseIf _ _).weaken.andThen fun _ => asks_addTransition

theorem asks_transitionOrderExecution {toStatus : OrderExecutionStatus} {reason : String}
    {details : Json} : AsksOnly Asked (transitionOrderExecution id toStatus reason details) :=
  asks_execution.andThen fun _ => (AsksOnly.raiseIf _ _).weaken.andThen fun _ =>
    asks_setExecution.andThen fun _ => asks_addTransition

/-! ### Executing a signal -/

/-- The clock and the ids that rows are given. -/
structure AllowsIds (Asked : Query → Prop) : Prop where
  newUuid : Asked .newUuid
  utcNow : Asked .utcNow

theorem asks_refreshPosition {symbol : String} :
    AsksOnly Asked (refreshPosition accountId symbol) := by
  refine asks_query.andThen fun found => ?_
  split
  · exact .throw _
  · exact .done _

theorem asks_getOrCreatePosition {symbol : String} :
    AsksOnly Asked (getOrCreatePosition userId accountId symbol) := by
  refine asks_query.andThen fun found => ?_
  split
  · exact .done _
  · exact (asks_add _).andThen fun _ => asks_commit.andThen fun _ => asks_refreshPosition

theorem asks_resolveSideAndQuantity {signal : TradingSignal} {account : ExchangeAccount} :
    AsksOnly Asked (resolveSideAndQuantity signal account) := by
  unfold resolveSideAndQuantity
  split
  · split
    · exact .throw _
    · exact .done _
  · exact asks_getOrCreatePosition.andThen fun _ => .done _

theorem asks_createExecution (ids : AllowsIds Asked) {signal : TradingSignal}
    {account : ExchangeAccount} {side : OrderSide} {quantity : Decimal} :
    AsksOnly Asked (createExecution userId signal account side quantity) := by
  refine (AsksOnly.ask ids.newUuid).andThen fun _ => (AsksOnly.ask ids.newUuid).andThen fun _ =>
    (asks_toColumn _).andThen fun _ => (asks_add _).andThen fun _ => asks_flush.andThen fun _ =>
    asks_recordInitialOrderState.andThen fun _ => asks_commit.andThen fun _ => ?_
  exact asks_loadExecution.discards.andThen fun _ => .done _

theorem asks_notifyOrderFailure {alertRuntime : Bool} {status : OrderExecutionStatus}
    {failureType : String} (notifies : Asked (.notifyOrderFailure status.value failureType)) :
    AsksOnly Asked (notifyOrderFailure alertRuntime status failureType) := by
  unfold notifyOrderFailure
  split
  · exact .ask notifies
  · exact .done _

theorem asks_failExecution {result : RiskCheckResult} {alertRuntime : Bool}
    (notifies : ∀ status failureType, Asked (.notifyOrderFailure status failureType)) :
    AsksOnly Asked (failExecution id result alertRuntime) :=
  asks_setExecution.andThen fun _ => asks_transitionOrderExecution.andThen fun _ =>
    asks_commit.andThen fun _ => asks_loadExecution.andThen fun _ =>
    (asks_notifyOrderFailure (notifies _ _)).andThen fun _ => .done _

theorem asks_applyFill {symbol : String} {side : OrderSide} {quantity : Decimal} :
    AsksOnly Asked (applyFill userId accountId symbol side quantity) :=
  asks_getOrCreatePosition.andThen fun _ => (asks_toColumn _).andThen fun _ =>
    (asks_add _).andThen fun _ => asks_commit.andThen fun _ => asks_refreshPosition

theorem asks_fillExecution {signal : TradingSignal} {account : ExchangeAccount} {side : OrderSide}
    {quantity : Decimal} {response : Json} :
    AsksOnly Asked (fillExecution py userId id signal account side quantity response) :=
  (AsksOnly.ofExcept _).weaken.andThen fun _ => asks_execution.discards.andThen fun _ =>
    asks_setExecution.andThen fun _ => asks_transitionOrderExecution.andThen fun _ =>
    asks_applyFill.discards.andThen fun _ => asks_commit.andThen fun _ => asks_loadExecution

theorem asks_placeExecution (places : ∀ order, Asked (.placeOrder order)) {signal : TradingSignal}
    {account : ExchangeAccount} {side : OrderSide} {quantity : Decimal} :
    AsksOnly Asked (placeExecution py userId id signal account side quantity) :=
  asks_transitionOrderExecution.andThen fun _ => asks_commit.andThen fun _ =>
    asks_transitionOrderExecution.andThen fun _ => asks_commit.andThen fun _ =>
    (AsksOnly.ask (places _)).andThen fun _ => (AsksOnly.ofExcept _).weaken.andThen fun _ =>
    asks_fillExecution

/-- Executing a signal asks the simulated adapter, and no exchange. -/
theorem asks_executeSignalForAccount (ids : AllowsIds Asked)
    (places : ∀ order, Asked (.placeOrder order))
    (notifies : ∀ status failureType, Asked (.notifyOrderFailure status failureType))
    {signalId : String} {alertRuntime : Bool} :
    AsksOnly Asked (executeSignalForAccount py userId signalId accountId alertRuntime) := by
  refine asks_assertNewOrdersAllowed.andThen fun _ => AsksOnly.andThen ?_ fun signal =>
    AsksOnly.andThen ?_ fun account => asks_query.andThen fun found => ?_
  · refine asks_query.andThen fun found => ?_
    split
    · exact .throw _
    · exact .done _
  · refine asks_getOwnedAccount.andThen fun found => ?_
    split
    · exact .throw _
    · exact .done _
  split
  · exact asks_holdExecution _
  · refine asks_resolveSideAndQuantity.andThen fun traded => (asks_createExecution ids).andThen
      fun created => asks_getOrCreateRiskSettings.andThen fun _ => asks_account.andThen fun _ =>
      (AsksOnly.ofExcept _).weaken.andThen fun _ => asks_execution.discards.andThen fun _ =>
      asks_setExecution.andThen fun _ => ?_
    split
    · exact asks_failExecution notifies
    · exact asks_placeExecution places

/-! ### Submitting to a testnet, up to the request -/

theorem asks_authorizeWindow (ids : AllowsIds Asked) {payload : TestnetOrderSubmitRequest} :
    AsksOnly Asked (authorizeWindow py userId payload accountId) := by
  refine AsksOnly.tryCatch ?_ fun raised => ?_
  · refine asks_query.andThen fun found => ?_
    split
    · exact .throw _
    · exact (AsksOnly.ask ids.utcNow).andThen fun _ => (AsksOnly.ofExcept _).weaken.andThen fun _ =>
        (AsksOnly.raiseIf _ _).weaken.andThen fun _ => .done _
  · split
    · exact .throw _
    · exact .throw _

/-- A context is built for an order at the exchange of its account. -/
theorem asks_buildTestnetOrderApiContext (ids : AllowsIds Asked)
    {payload : TestnetOrderSubmitRequest} {testnetAdaptersEnabled : Bool} :
    AsksOnly Asked (buildTestnetOrderApiContext py userId payload testnetAdaptersEnabled)
      fun context => context.order.exchangeName = context.account.exchangeName := by
  refine asks_getOwnedAccount.andThen fun found => ?_
  split
  · exact .throw _
  · refine asks_getOrCreateRiskSettings.andThen fun _ => asks_account.andThen fun account =>
      asks_getApiKeySecretMetadata.andThen fun _ => (AsksOnly.raiseIf _ _).weaken.andThen fun _ =>
      (asks_authorizeWindow ids).andThen fun _ => asks_getExchangeCredentials.andThen fun found => ?_
    split
    · exact .throw _
    · exact .pure rfl

theorem asks_addSubmission (ids : AllowsIds Asked) {context : TestnetOrderApiContext} :
    AsksOnly Asked (addSubmission py userId context) :=
  (AsksOnly.ask ids.newUuid).andThen fun _ => (asks_toColumn? _).andThen fun _ =>
    (asks_toColumn _).andThen fun _ => (asks_add _).andThen fun _ => asks_flush.andThen fun _ =>
    (AsksOnly.ask ids.newUuid).andThen fun _ => (AsksOnly.ask ids.newUuid).andThen fun _ =>
    (asks_add _).andThen fun _ => asks_flush.andThen fun _ =>
    asks_recordInitialOrderState.andThen fun _ => .done _

theorem asks_createOrGetTestnetSubmissionExecution (ids : AllowsIds Asked)
    {context : TestnetOrderApiContext} :
    AsksOnly Asked (createOrGetTestnetSubmissionExecution py userId context) := by
  refine asks_query.andThen fun found => ?_
  split
  · exact (asks_holdExecution _).andThen fun _ => (AsksOnly.raiseIf _ _).weaken.andThen fun _ => .done _
  · refine (asks_addSubmission ids).andThen fun _ => asks_getOrCreateRiskSettings.andThen fun _ =>
      asks_account.andThen fun _ => (AsksOnly.ofExcept _).weaken.andThen fun _ =>
      asks_execution.discards.andThen fun _ => asks_setExecution.andThen fun _ => ?_
    split
    · exact asks_setExecution.andThen fun _ => asks_transitionOrderExecution.andThen fun _ =>
        asks_commit.andThen fun _ => asks_loadExecution.discards.andThen fun _ => .throw _
    · exact asks_transitionOrderExecution.andThen fun _ =>
        asks_transitionOrderExecution.andThen fun _ => asks_commit.andThen fun _ =>
        asks_loadExecution.discards.andThen fun _ => .done _

theorem asks_recordTestnetSubmissionAccepted {exchangeResponse : Json} :
    AsksOnly Asked (recordTestnetSubmissionAccepted py id exchangeResponse) :=
  asks_execution.andThen fun _ => (AsksOnly.ofExcept _).weaken.andThen fun _ =>
    (AsksOnly.raiseIf _ _).weaken.andThen fun _ => asks_refuseIf.andThen fun _ =>
    asks_setExecution.andThen fun _ => asks_transitionOrderExecution.andThen fun _ =>
    asks_commit.andThen fun _ => asks_loadExecution

theorem asks_recordTestnetSubmissionFailure {failureType : String} :
    AsksOnly Asked (recordTestnetSubmissionFailure id failureType) := by
  refine asks_execution.andThen fun execution => ?_
  split
  · exact .done _
  · exact asks_setExecution.andThen fun _ => asks_transitionOrderExecution.andThen fun _ =>
      asks_commit.andThen fun _ => asks_loadExecution

theorem asks_answerSubmitError {recordFailure : String → Service Unit} {raised : Exc}
    {post : α → Prop} (records : ∀ failureType, AsksOnly Asked (recordFailure failureType)) :
    AsksOnly Asked (answerSubmitError recordFailure raised : Service α) post := by
  refine (AsksOnly.raiseIf _ _).weaken.andThen fun _ => (AsksOnly.raiseIf _ _).weaken.andThen fun _ => ?_
  split
  · exact .throw _
  · exact .throw _
  · exact .throw _
  · exact (records _).andThen fun _ => .throw _
  · exact (records _).andThen fun _ => .throw _
  · split
    · exact (records _).andThen fun _ => .throw _
    · exact .throw _

/-! ### What an exchange reports -/

theorem asks_attemptTransition {event : NormalizedTestnetOrderEvent} {transitionReason : String} :
    AsksOnly Asked (attemptTransition id event transitionReason) := by
  refine AsksOnly.tryCatch ?_ fun raised => ?_
  · exact asks_transitionOrderExecution.andThen fun _ => .done _
  · split
    · exact .done _
    · exact .throw _

theorem asks_applyTestnetOrderEvent {event : NormalizedTestnetOrderEvent}
    {transitionReason : String} :
    AsksOnly Asked (applyTestnetOrderEvent userId accountId event transitionReason) := by
  refine (AsksOnly.raiseIf _ _).weaken.andThen fun _ =>
    (AsksOnly.raiseIf _ _).weaken.andThen fun _ => asks_query.andThen fun found => ?_
  split
  · exact .done _
  · refine (asks_holdExecution _).andThen fun execution => ?_
    split
    · exact .done _
    · refine asks_attemptTransition.andThen fun allowed => ?_
      split
      · exact asks_refuseIf.andThen fun _ => asks_setExecution.andThen fun _ =>
          asks_commit.andThen fun _ => asks_loadExecution.andThen fun _ => .done _
      · exact .done _

end CopyTrading
