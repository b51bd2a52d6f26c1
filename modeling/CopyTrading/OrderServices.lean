import CopyTrading.OrderInvariants
import CopyTrading.OrderEngine

/-!
Every order service keeps an order invariant: the elementary operations are composed along
the code, one lemma for each function.
-/

namespace CopyTrading

open Transaction Transaction.Handler DecimalArith

variable {sem : Semantics backend} {Each : Event backend → Prop} {scope : Scope}
  {J : Session → World → Prop} {α β : Type} {s : Session} {w : World}
  (inv : OrderInvariant sem Each scope J)

/-! ### `execute_signal_for_account` -/

section execute

include inv

omit inv in
theorem keeps_assertNewOrdersAllowed (holds : J s w) :
    Keeps sem Each scope J assertNewOrdersAllowed (fun _ s' w' => s' = s ∧ w' = w) s w := by
  unfold assertNewOrdersAllowed
  refine (keeps_query holds).bind ?_
  rintro stopped s' w' holds' - ⟨-, rfl, rfl⟩
  exact (Keeps.raiseIf holds').mono fun _ _ _ _ _ h => ⟨h.1, h.2.1⟩

omit inv in
theorem keeps_getOwnedSignal {signalId : String} (holds : J s w) :
    Keeps sem Each scope J (getOwnedSignal scope.userId signalId)
      (fun signal s' w' => signal.id = signalId ∧ signal.userId = scope.userId ∧
        scope.signal signal.id w'.db ∧ s' = s ∧ w' = w) s w := by
  unfold getOwnedSignal
  refine (keeps_query holds).bind ?_
  rintro found s' w' holds' - ⟨hfound, rfl, rfl⟩
  split
  · exact .throw holds'
  · next signal =>
    have named := Table.holds_of_find? hfound.symm
    simp only [decide_eq_true_eq] at named
    exact .pure holds' ⟨named.1, named.2, scope.signal_of (Table.mem_of_find? hfound.symm) named.2,
      rfl, rfl⟩

/-- The owned account, if there is one. -/
theorem keeps_getOwnedAccount {accountId : String} (holds : J s w) :
    Keeps sem Each scope J (getOwnedAccount scope.userId accountId)
      (fun found s' w' => Looked s w s' w' ∧ ∀ account, found = some account →
        account ∈ w'.db.accounts ∧ account.id = accountId ∧ account.userId = scope.userId ∧
          scope.account account.id w'.db) s w := by
  refine (Looks.keeps inv (looks_getOwnedAccount (inv.accounts holds)) holds).mono ?_
  rintro found s' w' - - ⟨hfound, looked⟩
  refine ⟨looked, fun account heq => ?_⟩
  rcases hfound with ⟨none, -⟩ | ⟨account', stored, named, owner, some⟩
  · rw [heq] at none
    cases none
  · rw [heq] at some
    cases some
    exact ⟨looked.db ▸ stored, named, owner, looked.db ▸ scope.account_of stored owner⟩

theorem keeps_requireOwnedAccount {accountId : String} (holds : J s w) :
    Keeps sem Each scope J (requireOwnedAccount scope.userId accountId)
      (fun account s' w' => Looked s w s' w' ∧ account.id = accountId ∧
        scope.account account.id w'.db) s w := by
  unfold requireOwnedAccount
  refine (keeps_getOwnedAccount inv holds).bind ?_
  rintro found s' w' holds' - ⟨looked, hfound⟩
  split
  · exact .throw holds'
  · next account =>
    obtain ⟨-, named, -, known⟩ := hfound account rfl
    exact .pure holds' ⟨looked, named, known⟩

theorem keeps_resolveSideAndQuantity {signal : TradingSignal} {account : ExchangeAccount}
    (holds : J s w) (owner : signal.userId = scope.userId)
    (known : scope.account account.id w.db) :
    Keeps sem Each scope J (resolveSideAndQuantity signal account)
      (fun _ _ _ => True) s w := by
  unfold resolveSideAndQuantity
  split
  · split
    · exact .throw holds
    · exact .pure holds True.intro
  · rw [owner]
    refine (keeps_getOrCreatePosition inv holds known).bind ?_
    rintro position s' w' holds' - -
    exact .pure holds' True.intro

theorem ends_createExecution {signal : TradingSignal} {account : ExchangeAccount}
    {side : OrderSide} {quantity : Decimal} (holds : J s w)
    (known : scope.account account.id w.db) (signaled : scope.signal signal.id w.db) :
    Ends sem Each scope J (createExecution scope.userId signal account side quantity)
      (fun id s' w' => scope.Covers id s' w') s w := by
  unfold createExecution
  refine (keeps_ask inv holds).ends.bind ?_
  intro id s₁ w₁ holds₁ kept₁ looked₁
  refine (keeps_ask inv holds₁).ends.bind ?_
  intro executionId s₂ w₂ holds₂ kept₂ looked₂
  refine (keeps_toColumn holds₂).ends.bind ?_
  rintro stored s₃ w₃ holds₃ - ⟨rfl, rfl⟩
  have looked := looked₁.trans looked₂
  refine ends_insert_bind inv (newExecution scope.userId signal account side stored id executionId)
    "execution_created" holds₃ rfl rfl (looked.db ▸ known)
    (.inl (looked.db ▸ signaled)) ?_
  intro s₄ w₄ holds₄ kept₄ covers
  refine (keeps_commit inv holds₄).ends.bind ?_
  rintro - s₅ w₅ holds₅ kept₅ rfl
  refine (keeps_load inv holds₅).discard.ends.bind ?_
  rintro - s₆ w₆ holds₆ kept₆ -
  exact (Keeps.pure holds₆ (kept₆.covers (kept₅.covers covers))).ends

theorem keeps_notifyOrderFailure {alertRuntime : Bool} {status : OrderExecutionStatus}
    {failureType : String} (holds : J s w) :
    Keeps sem Each scope J (notifyOrderFailure alertRuntime status failureType)
      (fun _ _ _ => True) s w := by
  unfold notifyOrderFailure
  split
  · exact (keeps_ask inv holds).mono fun _ _ _ _ _ _ => True.intro
  · exact .pure holds True.intro

theorem keeps_failExecution {id : String} {x : OrderExecution} {result : RiskCheckResult}
    {alertRuntime : Bool} (holds : J s w) (covers : scope.Covers id s w)
    (shown : s.shown id = some x) :
    Keeps sem Each scope J (failExecution id result alertRuntime) (fun _ _ _ => True) s w := by
  unfold failExecution
  dsimp only
  refine (keeps_annotate inv holds covers shown (by intro _; rfl)).bind ?_
  rintro - s₁ w₁ holds₁ kept₁ -
  refine (keeps_transition inv holds₁ (kept₁.covers covers)).bind ?_
  rintro - s₂ w₂ holds₂ - -
  refine (keeps_commit inv holds₂).bind ?_
  rintro - s₃ w₃ holds₃ - rfl
  refine (keeps_load inv holds₃).bind ?_
  rintro execution s₄ w₄ holds₄ - -
  refine (keeps_notifyOrderFailure inv holds₄).bind ?_
  rintro - s₅ w₅ holds₅ - -
  exact .pure holds₅ True.intro

theorem keeps_fillExecution {py : Platform} {id : String} {signal : TradingSignal}
    {account : ExchangeAccount} {side : OrderSide} {quantity : Decimal} {response : Json}
    (holds : J s w) (covers : scope.Covers id s w) (known : scope.account account.id w.db) :
    Keeps sem Each scope J (fillExecution py scope.userId id signal account side quantity response)
      (fun _ _ _ => True) s w := by
  unfold fillExecution
  refine (Keeps.ofExcept (Q := fun _ _ _ => True) holds fun _ _ => True.intro).bind ?_
  rintro exchangeOrderId s₁ w₁ holds₁ kept₁ -
  rw [Handler.discard_bind]
  refine (keeps_execution inv holds₁).bind ?_
  rintro x s₂ w₂ holds₂ kept₂ ⟨shown, -⟩
  have kept := kept₁.trans kept₂
  refine (keeps_annotate inv holds₂ (kept.covers covers) shown (by intro _; rfl)).bind ?_
  rintro - s₃ w₃ holds₃ kept₃ -
  have kept := kept.trans kept₃
  refine (keeps_transition inv holds₃ (kept.covers covers)).bind ?_
  rintro - s₄ w₄ holds₄ kept₄ -
  have kept := kept.trans kept₄
  refine (keeps_applyFill inv holds₄ (kept.account known)).discard.bind ?_
  rintro - s₅ w₅ holds₅ - -
  refine (keeps_commit inv holds₅).bind ?_
  rintro - s₆ w₆ holds₆ - rfl
  exact (keeps_load inv holds₆).mono fun _ _ _ _ _ _ => True.intro

/-- The part of a placement that is reached once the passed check is committed. -/
theorem keeps_submitExecution {py : Platform} {id : String} {signal : TradingSignal}
    {account : ExchangeAccount} {side : OrderSide} {quantity : Decimal} {order : PlaceOrder}
    (holds : J s w) (covers : scope.Covers id s w) (known : scope.account account.id w.db) :
    Keeps sem Each scope J
      (do
        transitionOrderExecution id .submitted "mock_order_submitted"
        Session.commit
        let response ← ask (.placeOrder order)
        let response ← Handler.ofExcept response
        fillExecution py scope.userId id signal account side quantity response)
      (fun _ _ _ => True) s w := by
  refine (keeps_transition inv holds covers).bind ?_
  rintro - s₁ w₁ holds₁ kept₁ -
  refine (keeps_commit inv holds₁).bind ?_
  rintro - s₂ w₂ holds₂ kept₂ rfl
  have kept := kept₁.trans kept₂
  refine (keeps_ask inv holds₂).bind ?_
  rintro response s₃ w₃ holds₃ kept₃ -
  have kept := kept.trans kept₃
  refine (Keeps.ofExcept (Q := fun _ _ _ => True) holds₃ fun _ _ => True.intro).bind ?_
  rintro response s₄ w₄ holds₄ kept₄ -
  have kept := kept.trans kept₄
  exact keeps_fillExecution inv holds₄ (kept.covers covers) (kept.account known)

theorem keeps_placeExecution {py : Platform} {id : String} {signal : TradingSignal}
    {account : ExchangeAccount} {side : OrderSide} {quantity : Decimal}
    (holds : J s w) (covers : scope.Covers id s w) (known : scope.account account.id w.db) :
    Keeps sem Each scope J (placeExecution py scope.userId id signal account side quantity)
      (fun _ _ _ => True) s w := by
  unfold placeExecution
  refine (keeps_transition inv holds covers).bind ?_
  rintro - s₁ w₁ holds₁ kept₁ -
  refine (keeps_commit inv holds₁).bind ?_
  rintro - s₂ w₂ holds₂ kept₂ rfl
  have kept := kept₁.trans kept₂
  exact keeps_submitExecution inv holds₂ (kept.covers covers) (kept.account known)

theorem ends_executeSignalForAccount {py : Platform} {signalId exchangeAccountId : String}
    {alertRuntime : Bool} (holds : J s w) :
    Ends sem Each scope J
      (executeSignalForAccount py scope.userId signalId exchangeAccountId alertRuntime)
      (fun _ _ _ => True) s w := by
  unfold executeSignalForAccount
  refine (keeps_assertNewOrdersAllowed holds).ends.bind ?_
  rintro - s₁ w₁ holds₁ - ⟨rfl, rfl⟩
  refine (keeps_getOwnedSignal holds₁).ends.bind ?_
  rintro signal s₂ w₂ holds₂ - ⟨-, owner, signaled, rfl, rfl⟩
  refine (keeps_requireOwnedAccount inv holds₂).ends.bind ?_
  rintro account s₃ w₃ holds₃ kept₃ ⟨-, rfl, known⟩
  refine (keeps_query holds₃).ends.bind ?_
  rintro existing s₄ w₄ holds₄ - ⟨hexisting, rfl, rfl⟩
  split
  · next row =>
    have held := keeps_holdExecution inv holds₄ (Table.mem_of_find? hexisting.symm)
    exact (held.mono fun _ _ _ _ _ _ => True.intro).ends
  · refine (keeps_resolveSideAndQuantity inv holds₄ owner known).ends.bind ?_
    rintro ⟨side, quantity⟩ s₅ w₅ holds₅ kept₅ -
    refine (ends_createExecution inv holds₅ (kept₅.account known)
      (kept₅.signal (kept₃.signal signaled))).bind ?_
    rintro id s₆ w₆ holds₆ kept₆ covers
    have known₆ := kept₆.account (kept₅.account known)
    refine (keeps_getOrCreateRiskSettings inv holds₆ known₆).ends.bind ?_
    rintro settings s₇ w₇ holds₇ kept₇ -
    refine (Looks.keeps inv (looks_account (inv.accounts holds₇)) holds₇).ends.bind ?_
    rintro current s₈ w₈ holds₈ kept₈ -
    refine (Keeps.ofExcept (Q := fun _ _ _ => True) holds₈ fun _ _ => True.intro).ends.bind ?_
    rintro result s₉ w₉ holds₉ kept₉ -
    have kept := (kept₇.trans kept₈).trans kept₉
    rw [Handler.discard_bind]
    refine (keeps_execution inv holds₉).ends.bind ?_
    rintro x s₁₀ w₁₀ holds₁₀ kept₁₀ ⟨shown, -⟩
    have kept := kept.trans kept₁₀
    refine (keeps_annotate inv holds₁₀ (kept.covers covers) shown (by intro _; rfl)).ends.bind ?_
    rintro - s₁₁ w₁₁ holds₁₁ kept₁₁ ⟨⟨y, hy⟩, -⟩
    have kept := kept.trans kept₁₁
    split
    · exact (keeps_failExecution inv holds₁₁ (kept.covers covers) hy).ends
    · exact (keeps_placeExecution inv holds₁₁ (kept.covers covers) (kept.account known₆)).ends

end execute

/-! ### Testnet submissions -/

section submission

include inv

theorem ends_addSubmission {py : Platform} {context : TestnetOrderApiContext} (holds : J s w)
    (known : scope.account context.account.id w.db) :
    Ends sem Each scope J (addSubmission py scope.userId context)
      (fun id s' w' => scope.Covers id s' w') s w := by
  unfold addSubmission
  refine (keeps_ask inv holds).ends.bind ?_
  rintro signalId s₁ w₁ holds₁ kept₁ -
  refine (keeps_toOptionalColumn holds₁).ends.bind ?_
  rintro price s₂ w₂ holds₂ - ⟨rfl, rfl⟩
  refine (keeps_toColumn holds₂).ends.bind ?_
  rintro quantity s₃ w₃ holds₃ - ⟨rfl, rfl⟩
  refine (keeps_add (inv.addSignal holds₃ rfl) rfl).ends.bind ?_
  rintro - s₄ w₄ holds₄ - ⟨hsession, rfl⟩
  refine (keeps_flush holds₄).ends.bind ?_
  rintro - s₅ w₅ holds₅ - ⟨rfl, rfl⟩
  have signaled : ∃ signal ∈ s₅.work.signals, signal.id = signalId ∧
      signal.userId = scope.userId := by
    rw [hsession]
    exact ⟨_, List.mem_append_right _ (List.mem_singleton_self _), rfl, rfl⟩
  refine (keeps_ask inv holds₅).ends.bind ?_
  rintro id s₆ w₆ holds₆ kept₆ looked₆
  refine (keeps_ask inv holds₆).ends.bind ?_
  rintro executionId s₇ w₇ holds₇ kept₇ looked₇
  have looked := looked₆.trans looked₇
  refine ends_insert_bind inv
    (submissionExecution py scope.userId context signalId id executionId price quantity)
    "testnet_execution_created" holds₇ rfl rfl ?_ (.inr (looked.work ▸ signaled)) ?_
  · exact looked.db ▸ kept₁.account known
  · intro s₈ w₈ holds₈ _ covers
    exact (Keeps.pure holds₈ covers).ends

theorem keeps_rejectSubmission {id : String} {x : OrderExecution} {result : RiskCheckResult}
    {Q : TestnetSubmissionRecord → Session → World → Prop}
    (holds : J s w) (covers : scope.Covers id s w) (shown : s.shown id = some x) :
    Keeps sem Each scope J (rejectSubmission id result) Q s w := by
  unfold rejectSubmission
  refine (keeps_annotate inv holds covers shown (by intro _; rfl)).bind ?_
  rintro - s₁ w₁ holds₁ kept₁ -
  refine (keeps_transition inv holds₁ (kept₁.covers covers)).bind ?_
  rintro - s₂ w₂ holds₂ - -
  refine (keeps_commit inv holds₂).bind ?_
  rintro - s₃ w₃ holds₃ - rfl
  refine (keeps_load inv holds₃).discard.bind ?_
  rintro - s₄ w₄ holds₄ - -
  exact .throw holds₄

theorem keeps_startSubmission {id : String} (holds : J s w) (covers : scope.Covers id s w) :
    Keeps sem Each scope J (startSubmission id)
      (fun record s' w' => record.idempotentReplay = false → scope.Covers record.executionId s' w')
      s w := by
  unfold startSubmission
  refine (keeps_transition inv holds covers).bind ?_
  rintro - s₁ w₁ holds₁ kept₁ -
  refine (keeps_transition inv holds₁ (kept₁.covers covers)).bind ?_
  rintro - s₂ w₂ holds₂ kept₂ -
  refine (keeps_commit inv holds₂).bind ?_
  rintro - s₃ w₃ holds₃ kept₃ rfl
  refine (keeps_load inv holds₃).discard.bind ?_
  rintro - s₄ w₄ holds₄ kept₄ -
  have kept := ((kept₁.trans kept₂).trans kept₃).trans kept₄
  exact .pure holds₄ fun _ => kept.covers covers

theorem ends_createOrGet {py : Platform} {context : TestnetOrderApiContext} (holds : J s w)
    (known : scope.account context.account.id w.db) :
    Ends sem Each scope J (createOrGetTestnetSubmissionExecution py scope.userId context)
      (fun record s' w' => record.idempotentReplay = false → scope.Covers record.executionId s' w')
      s w := by
  unfold createOrGetTestnetSubmissionExecution
  refine (keeps_query holds).ends.bind ?_
  rintro found s₁ w₁ holds₁ - ⟨hfound, rfl, rfl⟩
  split
  · next row =>
    have stored := Table.mem_of_find? hfound.symm
    refine (keeps_holdExecution inv holds₁ stored).ends.bind ?_
    rintro existing s₂ w₂ holds₂ - -
    refine (Keeps.raiseIf holds₂).ends.bind ?_
    rintro - s₃ w₃ holds₃ - -
    exact (Keeps.pure holds₃ fun replay => nomatch replay).ends
  · refine (ends_addSubmission inv holds₁ known).bind ?_
    rintro id s₂ w₂ holds₂ kept₂ covers
    refine (keeps_getOrCreateRiskSettings inv holds₂ (kept₂.account known)).ends.bind ?_
    rintro settings s₃ w₃ holds₃ kept₃ -
    refine (Looks.keeps inv (looks_account (inv.accounts holds₃)) holds₃).ends.bind ?_
    rintro account s₄ w₄ holds₄ kept₄ -
    refine (Keeps.ofExcept (Q := fun _ _ _ => True) holds₄ fun _ _ => True.intro).ends.bind ?_
    rintro result s₅ w₅ holds₅ kept₅ -
    have kept := (kept₃.trans kept₄).trans kept₅
    rw [Handler.discard_bind]
    refine (keeps_execution inv holds₅).ends.bind ?_
    rintro x s₆ w₆ holds₆ kept₆ ⟨shown, -⟩
    have kept := kept.trans kept₆
    refine (keeps_annotate inv holds₆ (kept.covers covers) shown (by intro _; rfl)).ends.bind ?_
    rintro - s₇ w₇ holds₇ kept₇ ⟨⟨y, hy⟩, -⟩
    have kept := kept.trans kept₇
    split
    · exact (keeps_rejectSubmission inv holds₇ (kept.covers covers) hy).ends
    · exact (keeps_startSubmission inv holds₇ (kept.covers covers)).ends

theorem keeps_recordTestnetSubmissionAccepted {py : Platform} {id : String} {response : Json}
    (holds : J s w) (covers : scope.Covers id s w) :
    Keeps sem Each scope J (recordTestnetSubmissionAccepted py id response)
      (fun _ _ _ => True) s w := by
  unfold recordTestnetSubmissionAccepted
  dsimp only
  refine (keeps_execution inv holds).bind ?_
  rintro x s₁ w₁ holds₁ kept₁ ⟨shown, -⟩
  refine (Keeps.ofExcept (Q := fun _ s' w' => s' = s₁ ∧ w' = w₁) holds₁
    fun _ _ => ⟨rfl, rfl⟩).bind ?_
  rintro - s₂ w₂ holds₂ - ⟨rfl, rfl⟩
  refine (Keeps.raiseIf holds₂).bind ?_
  rintro - s₃ w₃ holds₃ - ⟨rfl, rfl, -⟩
  refine (keeps_refuseIf inv holds₃).bind ?_
  rintro - s₄ w₄ holds₄ - ⟨rfl, rfl⟩
  refine (keeps_annotate inv holds₄ (kept₁.covers covers) shown (by intro _; rfl)).bind ?_
  rintro - s₅ w₅ holds₅ kept₅ -
  refine (keeps_transition inv holds₅ ((kept₁.trans kept₅).covers covers)).bind ?_
  rintro - s₆ w₆ holds₆ - -
  refine (keeps_commit inv holds₆).bind ?_
  rintro - s₇ w₇ holds₇ - rfl
  exact (keeps_load inv holds₇).mono fun _ _ _ _ _ _ => True.intro

theorem keeps_recordTestnetSubmissionFailure {id failureType : String} (holds : J s w)
    (covers : scope.Covers id s w) :
    Keeps sem Each scope J (recordTestnetSubmissionFailure id failureType)
      (fun _ _ _ => True) s w := by
  unfold recordTestnetSubmissionFailure
  refine (keeps_execution inv holds).bind ?_
  rintro x s₁ w₁ holds₁ kept₁ ⟨shown, -⟩
  split
  · exact .pure holds₁ True.intro
  · refine (keeps_annotate inv holds₁ (kept₁.covers covers) shown (by intro _; rfl)).bind ?_
    rintro - s₂ w₂ holds₂ kept₂ -
    refine (keeps_transition inv holds₂ ((kept₁.trans kept₂).covers covers)).bind ?_
    rintro - s₃ w₃ holds₃ - -
    refine (keeps_commit inv holds₃).bind ?_
    rintro - s₄ w₄ holds₄ - rfl
    exact (keeps_load inv holds₄).mono fun _ _ _ _ _ _ => True.intro

end submission

/-! ### Order events and reconciliation -/

section lifecycle

include inv

theorem keeps_attemptTransition {id : String} {event : NormalizedTestnetOrderEvent}
    {reason : String} (holds : J s w) (covers : scope.Covers id s w) :
    Keeps sem Each scope J (attemptTransition id event reason)
      (fun allowed s' _ => allowed = true → ∃ y, s'.shown id = some y) s w := by
  unfold attemptTransition
  refine Keeps.tryCatch ((keeps_transition inv holds covers).bind ?_) ?_
  · rintro - s₁ w₁ holds₁ - ⟨shown, -⟩
    exact .pure holds₁ fun _ => shown
  · intro raised s₁ w₁ holds₁ _
    split
    · exact .pure holds₁ fun refused => nomatch refused
    · exact .throw holds₁

theorem keeps_commitOrderEvent {execution x : OrderExecution} {event : NormalizedTestnetOrderEvent}
    (holds : J s w) (covers : scope.Covers execution.id s w) (shown : s.shown execution.id = some x) :
    Keeps sem Each scope J (commitOrderEvent execution event) (fun _ _ _ => True) s w := by
  unfold commitOrderEvent
  refine (keeps_refuseIf inv holds).bind ?_
  rintro - s₁ w₁ holds₁ - ⟨rfl, rfl⟩
  refine (keeps_annotate inv holds₁ covers shown ?_).bind ?_
  · intro change
    split <;> rfl
  · rintro - s₂ w₂ holds₂ - -
    refine (keeps_commit inv holds₂).bind ?_
    rintro - s₃ w₃ holds₃ - rfl
    refine (keeps_load inv holds₃).bind ?_
    rintro refreshed s₄ w₄ holds₄ - -
    exact .pure holds₄ True.intro

theorem keeps_applyTestnetOrderEvent {exchangeAccountId reason : String}
    {event : NormalizedTestnetOrderEvent} (holds : J s w) :
    Keeps sem Each scope J (applyTestnetOrderEvent scope.userId exchangeAccountId event reason)
      (fun _ _ _ => True) s w := by
  unfold applyTestnetOrderEvent
  refine (Keeps.raiseIf holds).bind ?_
  rintro - s₁ w₁ holds₁ - ⟨rfl, rfl, -⟩
  refine (Keeps.raiseIf holds₁).bind ?_
  rintro - s₂ w₂ holds₂ - ⟨rfl, rfl, -⟩
  refine (keeps_query holds₂).bind ?_
  rintro found s₃ w₃ holds₃ - ⟨hfound, rfl, rfl⟩
  split
  · exact .pure holds₃ True.intro
  · next row =>
    have stored := Table.mem_of_find? hfound.symm
    have named := Table.holds_of_find? hfound.symm
    simp only [decide_eq_true_eq] at named
    have covers := inv.covers holds₃ stored named.1
    refine (keeps_holdExecution inv holds₃ stored).bind ?_
    rintro execution s₄ w₄ holds₄ kept₄ ⟨shown, -⟩
    obtain same : execution.id = row.id := id_of_shown shown
    rw [← same] at covers
    split
    · exact .pure holds₄ True.intro
    · refine (keeps_attemptTransition inv holds₄ (kept₄.covers covers)).bind ?_
      rintro allowed s₅ w₅ holds₅ kept₅ hshown
      split
      · next moved =>
        obtain ⟨y, hy⟩ := hshown moved
        exact keeps_commitOrderEvent inv holds₅ ((kept₄.trans kept₅).covers covers) hy
      · exact .pure holds₅ True.intro

theorem keeps_getPrivate {py : Platform} {client : SignedExchangeHttpClient} {path : String}
    {credentials : ExchangeCredentials} {params : List (String × String)}
    {securityType : ExchangeSecurityType} (holds : J s w) :
    Keeps sem Each scope J (client.getPrivate py path credentials params securityType)
      (fun _ _ _ => True) s w := by
  unfold SignedExchangeHttpClient.getPrivate
  refine (Looks.keeps inv (looks_preparePrivate (inv.quiet _) (inv.quiet _)) holds).bind ?_
  rintro prepared s₁ w₁ holds₁ - -
  unfold transportRequest
  refine (keeps_ask inv holds₁).bind ?_
  rintro reply s₂ w₂ holds₂ - -
  exact .ofExcept holds₂ fun _ _ => True.intro

theorem keeps_reconcileExecution {py : Platform} {exchangeAccountId id : String}
    {exchangeName : ExchangeName} {credentials : ExchangeCredentials}
    {client : SignedExchangeHttpClient} (holds : J s w) :
    Keeps sem Each scope J
      (reconcileExecution py scope.userId exchangeAccountId exchangeName credentials client id)
      (fun _ _ _ => True) s w := by
  unfold reconcileExecution
  refine Keeps.bind (Q := fun _ _ _ => True) (Keeps.tryCatch ?_ ?_) ?_
  · refine (keeps_execution inv holds).bind ?_
    rintro execution s₁ w₁ holds₁ - -
    refine (keeps_getPrivate inv holds₁).bind ?_
    rintro response s₂ w₂ holds₂ - -
    refine (Keeps.ofExcept (Q := fun _ _ _ => True) holds₂ fun _ _ => True.intro).bind ?_
    rintro event s₃ w₃ holds₃ - -
    refine (keeps_applyTestnetOrderEvent inv holds₃).bind ?_
    rintro result s₄ w₄ holds₄ - -
    exact .pure holds₄ True.intro
  · intro raised s₁ w₁ holds₁ _
    split
    · exact .pure holds₁ True.intro
    · exact .throw holds₁
  · rintro outcome s₁ w₁ holds₁ - -
    refine (keeps_execution inv holds₁).bind ?_
    rintro execution s₂ w₂ holds₂ - -
    split
    · exact .pure holds₂ True.intro
    · exact .pure holds₂ True.intro

theorem keeps_reconcileExecutions {py : Platform} {exchangeAccountId : String}
    {exchangeName : ExchangeName} {credentials : ExchangeCredentials}
    {client : SignedExchangeHttpClient} (ids : List String) (holds : J s w) :
    Keeps sem Each scope J
      (reconcileExecutions py scope.userId exchangeAccountId exchangeName credentials client ids)
      (fun _ _ _ => True) s w := by
  induction ids generalizing s w with
  | nil => exact .pure holds True.intro
  | cons id rest ih =>
    unfold reconcileExecutions
    refine (keeps_reconcileExecution inv holds).bind ?_
    rintro item s₁ w₁ holds₁ - -
    refine (ih holds₁).bind ?_
    rintro items s₂ w₂ holds₂ - -
    exact .pure holds₂ True.intro

theorem keeps_holdExecutions (rows : List OrderExecution) (holds : J s w)
    (stored : ∀ row ∈ rows, row ∈ w.db.executions) :
    Keeps sem Each scope J (holdExecutions rows) (fun _ _ _ => True) s w := by
  induction rows generalizing s w with
  | nil => exact .pure holds True.intro
  | cons row rest ih =>
    unfold holdExecutions
    rw [Handler.discard_bind]
    refine (keeps_holdExecution inv holds (stored row List.mem_cons_self)).bind ?_
    rintro x s₁ w₁ holds₁ - ⟨-, rfl⟩
    exact ih holds₁ fun other hother => stored other (List.mem_cons_of_mem _ hother)

theorem keeps_reconcilePendingTestnetOrders {py : Platform} {exchangeAccountId : String}
    (holds : J s w) :
    Keeps sem Each scope J (reconcilePendingTestnetOrders py scope.userId exchangeAccountId)
      (fun _ _ _ => True) s w := by
  unfold reconcilePendingTestnetOrders
  refine (keeps_getOwnedAccount inv holds).bind ?_
  rintro owned s₁ w₁ holds₁ - -
  refine (Keeps.ofExcept (Q := fun _ _ _ => True) holds₁ fun _ _ => True.intro).bind ?_
  rintro account s₂ w₂ holds₂ - -
  refine (Looks.keeps inv (looks_getExchangeCredentials (inv.secrets holds₂)) holds₂).bind ?_
  rintro found s₃ w₃ holds₃ - -
  split
  · exact .throw holds₃
  · refine Keeps.bind (Q := fun _ _ _ => True) ?_ ?_
    · unfold createTestnetSignedHttpClient
      split
      · exact .pure holds₃ True.intro
      · exact .throw holds₃
    · rintro client s₄ w₄ holds₄ - -
      refine (keeps_query holds₄).bind ?_
      rintro rows s₅ w₅ holds₅ - ⟨hrows, rfl, rfl⟩
      refine (keeps_holdExecutions inv rows holds₅ fun row hrow => ?_).bind ?_
      · rw [hrows] at hrow
        exact List.mem_of_mem_filter hrow
      rintro - s₆ w₆ holds₆ - -
      refine (keeps_reconcileExecutions inv _ holds₆).bind ?_
      rintro items s₇ w₇ holds₇ - -
      dsimp only
      unfold writeReconciliationAudit
      simp only [bind_assoc]
      refine (keeps_ask inv holds₇).bind ?_
      rintro id s₈ w₈ holds₈ - -
      refine (keeps_ask inv holds₈).bind ?_
      rintro createdAt s₉ w₉ holds₉ - -
      refine (keeps_add (inv.addAuditLog holds₉ rfl) rfl).bind ?_
      rintro - s₁₀ w₁₀ holds₁₀ - ⟨rfl, rfl⟩
      refine (keeps_commit inv holds₁₀).bind ?_
      rintro - s₁₁ w₁₁ holds₁₁ - -
      exact .pure holds₁₁ True.intro

end lifecycle

/-! ### The submission request -/

section submit

include inv

theorem keeps_authorizeWindow {py : Platform} {payload : TestnetOrderSubmitRequest}
    {accountId : String} (holds : J s w) :
    Keeps sem Each scope J (authorizeWindow py scope.userId payload accountId)
      (fun _ _ _ => True) s w := by
  unfold authorizeWindow requireValidTestnetOrderWindowAuthorization
  refine Keeps.tryCatch ((keeps_query holds).bind ?_) ?_
  · rintro found s₁ w₁ holds₁ - -
    split
    · exact .throw holds₁
    · refine (keeps_ask inv holds₁).bind ?_
      rintro now s₂ w₂ holds₂ - -
      refine (Keeps.ofExcept (Q := fun _ _ _ => True) holds₂ fun _ _ => True.intro).bind ?_
      rintro reasons s₃ w₃ holds₃ - -
      refine (Keeps.raiseIf holds₃).bind ?_
      rintro - s₄ w₄ holds₄ - -
      exact .pure holds₄ True.intro
  · intro raised s₁ w₁ holds₁ _
    split
    · exact .throw holds₁
    · exact .throw holds₁

theorem keeps_buildTestnetOrderApiContext {py : Platform} {payload : TestnetOrderSubmitRequest}
    {testnetAdaptersEnabled : Bool} (holds : J s w) :
    Keeps sem Each scope J
      (buildTestnetOrderApiContext py scope.userId payload testnetAdaptersEnabled)
      (fun context _ w' => scope.account context.account.id w'.db) s w := by
  unfold buildTestnetOrderApiContext
  refine (keeps_getOwnedAccount inv holds).bind ?_
  rintro found s₁ w₁ holds₁ - ⟨-, hfound⟩
  split
  · exact .throw holds₁
  · next owned =>
    obtain ⟨-, -, -, known⟩ := hfound owned rfl
    refine (keeps_getOrCreateRiskSettings inv holds₁ known).bind ?_
    rintro riskSettings s₂ w₂ holds₂ kept₂ -
    refine (Looks.keeps inv (looks_account (inv.accounts holds₂)) holds₂).bind ?_
    rintro account s₃ w₃ holds₃ kept₃ ⟨haccount, -⟩
    have named : account.id = owned.id := by
      rcases haccount with ⟨heq, -⟩ | ⟨_, -, named, heq⟩
      · cases heq
      · cases heq
        exact named
    refine (Looks.keeps inv (looks_getApiKeySecretMetadata (inv.secrets holds₃)) holds₃).bind ?_
    rintro secretMetadata s₄ w₄ holds₄ kept₄ -
    refine (Keeps.raiseIf holds₄).bind ?_
    rintro - s₅ w₅ holds₅ kept₅ -
    refine (keeps_authorizeWindow inv holds₅).bind ?_
    rintro authorization s₆ w₆ holds₆ kept₆ -
    refine (Looks.keeps inv (looks_getExchangeCredentials (inv.secrets holds₆)) holds₆).bind ?_
    rintro credentials s₇ w₇ holds₇ kept₇ -
    have kept := ((((kept₂.trans kept₃).trans kept₄).trans kept₅).trans kept₆).trans kept₇
    split
    · exact .throw holds₇
    · exact .pure holds₇ (named ▸ kept.account known)

theorem keeps_executeTestnetOrder {py : Platform} {order : TestnetOrderRequestInput}
    {gateResult : TestnetOrderGateResult} {client : SignedExchangeHttpClient}
    {credentials : ExchangeCredentials} {accountId : String} (holds : J s w) :
    Keeps sem Each scope J (executeTestnetOrder py order gateResult client credentials accountId)
      (fun _ _ _ => True) s w := by
  have signed : ∀ (path : String) (params : List (String × String))
      (body : Option (List (String × Json))) (securityType : ExchangeSecurityType) (s₁ : Session)
      (w₁ : World), J s₁ w₁ →
      Keeps sem Each scope J
        (client.preparePrivatePostRequest py path credentials params body securityType)
        (fun _ _ _ => True) s₁ w₁ := fun _ _ _ _ _ _ holds₁ =>
    (Looks.keeps inv (looks_preparePrivate (inv.quiet _) (inv.quiet _)) holds₁).mono
      fun _ _ _ _ _ _ => True.intro
  unfold executeTestnetOrder
  refine Keeps.bind (Q := fun _ _ _ => True) ?_ ?_
  · unfold prepareTestnetOrderRequest
    refine (Keeps.raiseIf holds).bind ?_
    rintro - s₁ w₁ holds₁ - -
    split
    · refine (Keeps.ofExcept (Q := fun _ _ _ => True) holds₁ fun _ _ => True.intro).bind ?_
      rintro params s₂ w₂ holds₂ - -
      exact signed _ _ _ _ _ _ holds₂
    · refine (Keeps.ofExcept (Q := fun _ _ _ => True) holds₁ fun _ _ => True.intro).bind ?_
      rintro body s₂ w₂ holds₂ - -
      exact signed _ _ _ _ _ _ holds₂
    · refine (Keeps.ofExcept (Q := fun _ _ _ => True) holds₁ fun _ _ => True.intro).bind ?_
      rintro body s₂ w₂ holds₂ - -
      exact signed _ _ _ _ _ _ holds₂
    · exact .throw holds₁
  · rintro prepared s₁ w₁ holds₁ - -
    refine Keeps.bind (Q := fun _ _ _ => True) ?_ ?_
    · unfold acquireTestnetOrder
      refine (keeps_ask inv holds₁).bind ?_
      rintro reply s₂ w₂ holds₂ - -
      split
      · exact .pure holds₂ True.intro
      · exact .throw holds₂
      · exact .throw holds₂
    · rintro - s₂ w₂ holds₂ - -
      unfold transportRequest
      simp only [bind_assoc]
      refine (keeps_ask inv holds₂).bind ?_
      rintro reply s₃ w₃ holds₃ - -
      refine (Keeps.ofExcept (Q := fun _ _ _ => True) holds₃ fun _ _ => True.intro).bind ?_
      rintro response s₄ w₄ holds₄ - -
      exact .pure holds₄ True.intro

theorem keeps_sendSubmission {py : Platform} {context : TestnetOrderApiContext} {id : String}
    (holds : J s w) (covers : scope.Covers id s w) :
    Keeps sem Each scope J (sendSubmission py context id) (fun _ _ _ => True) s w := by
  unfold sendSubmission
  refine Keeps.bind (Q := fun _ _ _ => True) ?_ ?_
  · unfold createTestnetSignedHttpClient
    split
    · exact .pure holds True.intro
    · exact .throw holds
  · rintro client s₁ w₁ holds₁ kept₁ -
    refine (keeps_executeTestnetOrder inv holds₁).bind ?_
    rintro result s₂ w₂ holds₂ kept₂ -
    exact keeps_recordTestnetSubmissionAccepted inv holds₂ ((kept₁.trans kept₂).covers covers)

omit inv in
/-- Recording the failure, if that is what the clause does, and raising an answer. -/
theorem keeps_answerSubmitError {recordFailure : String → Service Unit} {raised : Exc}
    {Q : α → Session → World → Prop}
    (records : ∀ failureType s' w', J s' w' → Kept scope s w s' w' →
      Keeps sem Each scope J (recordFailure failureType) (fun _ _ _ => True) s' w')
    (holds : J s w) : Keeps sem Each scope J (answerSubmitError recordFailure raised) Q s w := by
  have recorded : ∀ failureType (answer : Exc) s' w', J s' w' → Kept scope s w s' w' →
      Keeps sem Each scope J
        (do
          recordFailure failureType
          throw answer) Q s' w' := by
    intro failureType answer s' w' holds' kept
    refine (records failureType s' w' holds' kept).bind ?_
    rintro - s₁ w₁ holds₁ - -
    exact .throw holds₁
  unfold answerSubmitError
  refine (Keeps.raiseIf holds).bind ?_
  rintro - s₁ w₁ holds₁ kept₁ -
  refine (Keeps.raiseIf holds₁).bind ?_
  rintro - s₂ w₂ holds₂ kept₂ -
  have kept := kept₁.trans kept₂
  split
  · exact .throw holds₂
  · exact .throw holds₂
  · exact .throw holds₂
  · exact recorded _ _ _ _ holds₂ kept
  · exact recorded _ _ _ _ holds₂ kept
  · split
    · exact recorded _ _ _ _ holds₂ kept
    · exact .throw holds₂

omit inv in
/-- Without a recorded failure the clauses only raise. -/
theorem alone_answerSubmitError {raised : Exc} :
    Alone sem Each (answerSubmitError recordNoFailure raised : Service α)
      (fun outcome _ _ => ∃ exc, outcome = .error exc) s w := by
  unfold answerSubmitError
  rw [alone_bind, alone_raiseIf]
  refine ⟨fun _ => ⟨_, rfl⟩, fun _ => ?_⟩
  rw [andThen_ok, alone_bind, alone_raiseIf]
  refine ⟨fun _ => ⟨_, rfl⟩, fun _ => ?_⟩
  rw [andThen_ok]
  split
  · exact ⟨_, rfl⟩
  · exact ⟨_, rfl⟩
  · exact ⟨_, rfl⟩
  · exact ⟨_, rfl⟩
  · exact ⟨_, rfl⟩
  · split
    · exact ⟨_, rfl⟩
    · exact ⟨_, rfl⟩

theorem ends_submitTestnetOrder {py : Platform} {payload : TestnetOrderSubmitRequest}
    {testnetAdaptersEnabled : Bool} (holds : J s w) :
    Ends sem Each scope J (submitTestnetOrder py scope.userId payload testnetAdaptersEnabled)
      (fun _ _ _ => True) s w := by
  unfold submitTestnetOrder
  refine Ends.bind (Q := fun result s' w' => result.2.idempotentReplay = false →
    scope.Covers result.2.executionId s' w') ?_ ?_
  · refine alone_tryCatch.mpr ?_
    have body : Ends sem Each scope J
        (do
          assertNewOrdersAllowed
          let context ← buildTestnetOrderApiContext py scope.userId payload testnetAdaptersEnabled
          let submission ← createOrGetTestnetSubmissionExecution py scope.userId context
          return (context, submission))
        (fun result s' w' => result.2.idempotentReplay = false →
          scope.Covers result.2.executionId s' w') s w := by
      refine (keeps_assertNewOrdersAllowed holds).ends.bind ?_
      rintro - s₁ w₁ holds₁ - -
      refine (keeps_buildTestnetOrderApiContext inv holds₁).ends.bind ?_
      rintro context s₂ w₂ holds₂ - known
      refine (ends_createOrGet inv holds₂ known).bind ?_
      rintro submission s₃ w₃ holds₃ - covers
      exact (Keeps.pure holds₃ covers).ends
    refine Alone.mono body ?_
    rintro (raised | value) s' w' ends
    · rw [orElse_error]
      refine Alone.mono alone_answerSubmitError ?_
      rintro outcome s'' w'' ⟨exc, rfl⟩ value heq
      cases heq
    · exact ends
  · rintro ⟨context, submission⟩ s₁ w₁ holds₁ kept₁ covers
    dsimp only at covers ⊢
    split
    · refine (keeps_execution inv holds₁).ends.bind ?_
      rintro execution s₂ w₂ holds₂ - -
      exact (Keeps.ofExcept holds₂ fun _ _ => True.intro).ends
    · next fresh =>
      have covers := covers (by simpa using fresh)
      refine Ends.bind (Q := fun _ _ _ => True) (Keeps.tryCatch (keeps_sendSubmission inv holds₁ covers) ?_).ends ?_
      · intro raised s₂ w₂ holds₂ kept₂
        refine keeps_answerSubmitError ?_ holds₂
        intro failureType s₃ w₃ holds₃ kept₃
        exact (keeps_recordTestnetSubmissionFailure inv holds₃
          ((kept₂.trans kept₃).covers covers)).discard
      · rintro execution s₂ w₂ holds₂ - -
        exact (Keeps.ofExcept holds₂ fun _ _ => True.intro).ends

end submit

end CopyTrading
