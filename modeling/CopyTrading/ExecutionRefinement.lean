import CopyTrading.ExecutionProtocol

/-!
`execute_signal_for_account` follows its protocol: one lemma for each stage of the
handler, and the theorem about the whole request.
-/

namespace CopyTrading

open Transaction Transaction.Handler DecimalArith

variable {req : ExecRequest} {gate : OrderExecution → RiskSetting → Prop} {s : Session}

/-! ### Sessions between two commits -/

/-- Nothing is pending and no execution is loaded. -/
structure Session.Fresh (s : Session) : Prop where
  work : s.work = {}
  executions : s.executions = []
  accounts : ∀ x ∈ s.accounts, x.change = {}

theorem Session.fresh_empty : Session.Fresh {} := ⟨rfl, rfl, by simp⟩

/-- The postcondition of a stage: after an exception nothing is promised. -/
def Returning {α : Type} (post : α → Session → ExecStage → Prop) :
    Except Exc α → Session → ExecStage → Prop
  | .ok value, s, stage => post value s stage
  | .error _, _, _ => True

/-! ### The stages -/

/-- A decimal that a column stores without changing it. -/
def ExactQuantity (quantity : Decimal) : Prop :=
  ∀ stored : Quantity, Numeric.ofDecimal? 28 10 quantity = some stored →
    quantity = stored.toDecimal

theorem exactQuantity_toDecimal (stored : Quantity) : ExactQuantity stored.toDecimal := by
  intro other fits
  rw [Numeric.ofDecimal?_toDecimal] at fits
  rw [Option.some.inj fits]

theorem exactQuantity_delta (symbol : String) (current target : Quantity) :
    ExactQuantity (calculateDelta symbol current.toDecimal target.toDecimal).deltaQuantity := by
  intro stored fits
  have hdelta : (calculateDelta symbol current.toDecimal target.toDecimal).deltaQuantity =
      ((⟨target.units - current.units, -(10 : Nat)⟩ : Decimal).round 28).abs := by
    simp [calculateDelta, decimalSub, Decimal.sub, Decimal.add, Decimal.addExact, Decimal.neg,
      Numeric.toDecimal, decimalPrecision, sub_eq_add_neg]
  rw [hdelta] at fits ⊢
  exact Numeric.toDecimal_of_abs_round (by decide) fits

theorem follows_getOrCreatePosition {userId accountId symbol : String} {α : Type}
    {P : Protocol backend} {post : Except Exc α → Session → P.Phase → Prop} {m : P.Phase}
    {next : Position → Service α}
    (found : ∀ (world : World) (position : Position), position ∈ world.db.positions →
      position.exchangeAccountId = accountId → position.symbol = symbol →
      ∃ m', P.Move m (.read world) m' ∧ Follows P semantics (next position) post s m')
    (missing : ∀ world : World, ∃ m', P.Move m (.read world) m' ∧
      Follows P semantics
        (do
          Session.add fun work =>
            { work with
              positions := work.positions ++
                [{ userId, exchangeAccountId := accountId, symbol, quantity := Numeric.zero }] }
          Session.commit
          let position ← refreshPosition accountId symbol
          next position) post s m') :
    Follows P semantics (getOrCreatePosition userId accountId symbol >>= next) post s m := by
  unfold getOrCreatePosition
  rw [bind_assoc]
  refine follows_query_bind.mpr fun world => ?_
  cases hfind : positionOf userId accountId symbol world.db with
  | some position =>
    have hrow := Table.holds_of_find? hfind
    simp only [decide_eq_true_eq] at hrow
    exact found world position (Table.mem_of_find? hfind) hrow.2.1 hrow.2.2
  | none => simpa only [bind_assoc] using missing world

theorem follows_refreshPosition_bind {accountId symbol : String} {α : Type}
    {P : Protocol backend} {post : Except Exc α → Session → P.Phase → Prop} {m : P.Phase}
    {next : Position → Service α}
    (missing : ∀ world : World, ∃ m', P.Move m (.read world) m' ∧
      post (.error .objectDeleted) s m')
    (found : ∀ (world : World) (position : Position), position ∈ world.db.positions →
      position.exchangeAccountId = accountId → position.symbol = symbol →
      ∃ m', P.Move m (.read world) m' ∧ Follows P semantics (next position) post s m') :
    Follows P semantics (refreshPosition accountId symbol >>= next) post s m := by
  unfold refreshPosition
  rw [bind_assoc]
  refine follows_query_bind.mpr fun world => ?_
  cases hfind : world.db.positions.find? fun row =>
      row.exchangeAccountId = accountId ∧ row.symbol = symbol with
  | none => exact missing world
  | some position =>
    have hrow := Table.holds_of_find? hfind
    simp only [decide_eq_true_eq] at hrow
    exact found world position (Table.mem_of_find? hfind) hrow.1 hrow.2

/-- Side and quantity are resolved before a row exists; a missing position is created. -/
theorem resolveSideAndQuantity_follows (signal : TradingSignal) (account : ExchangeAccount)
    (fresh : s.Fresh) :
    Follows (gatedProtocol req gate) semantics (resolveSideAndQuantity signal account)
      (Returning fun result s' stage =>
        s'.Fresh ∧ stage = .absent signal ∧ ExactQuantity result.2)
      s (.absent signal) := by
  unfold resolveSideAndQuantity
  cases signal.targetPositionQuantity with
  | none =>
    cases signal.quantity with
    | none => exact True.intro
    | some quantity => exact ⟨fresh, rfl, exactQuantity_toDecimal quantity⟩
  | some target =>
    refine follows_getOrCreatePosition (fun world position _ _ _ => ?_) fun world => ?_
    · exact ⟨_, .idle rfl, fresh, rfl, exactQuantity_delta signal.symbol position.quantity target⟩
    · refine ⟨_, .idle rfl, ?_⟩
      rw [follows_add_bind, follows_commit_bind]
      refine ⟨fun before after _ => ?_, fun world fault _ => ⟨_, .idle rfl, True.intro⟩⟩
      refine ⟨_, .of (.openPosition ?_) (by simp), ?_⟩
      · refine Session.tradingWork [] _ [] (by rw [fresh.work])
          fresh.accounts (by simp) ?_ ?_
        · simp [StatusWork, fresh.executions]
        · simp
      · refine follows_refreshPosition_bind (fun world => ⟨_, .idle rfl, True.intro⟩) ?_
        exact fun world position _ _ _ =>
          ⟨_, .idle rfl, Session.fresh_empty, rfl,
            exactQuantity_delta signal.symbol position.quantity target⟩

/-- What the request knows of the row it has created. -/
structure OrderOf (signal : TradingSignal) (account : ExchangeAccount) (side : OrderSide)
    (quantity : Decimal) (row : OrderExecution) : Prop where
  accountId : row.exchangeAccountId = account.id
  symbol : row.symbol = signal.symbol
  side : row.side = side
  quantity : quantity = row.quantity.toDecimal
  orderType : row.orderType = signal.orderType
  price : row.price = signal.price

/-- Inserting the execution: before the commit nothing is visible, after it the row is. -/
theorem createExecution_follows {userId : String} (signal : TradingSignal)
    (account : ExchangeAccount) (side : OrderSide) {quantity : Decimal}
    (exact_ : ExactQuantity quantity) (user : userId = req.userId) (signalId : signal.id = req.signalId)
    (accountId : account.id = req.accountId) (fresh : s.Fresh) :
    Follows (gatedProtocol req gate) semantics (createExecution userId signal account side quantity)
      (Returning fun id s' stage => ∃ row x, RowOf req row ∧ OrderOf signal account side quantity row ∧
        stage = .created row ∧ id = row.id ∧ x.id = row.id ∧ s' = { executions := [⟨x, {}⟩] })
      s (.absent signal) := by
  unfold createExecution
  refine follows_ask_bind.mpr fun _ id _ _ => ⟨_, .idle rfl, ?_⟩
  refine follows_ask_bind.mpr fun _ executionId _ _ => ⟨_, .idle rfl, ?_⟩
  unfold toColumn
  cases hfits : Numeric.ofDecimal? 28 10 quantity with
  | none => exact True.intro
  | some stored =>
    rw [follows_pure_bind, follows_add_bind]
    refine follows_flush_bind fun world => ⟨_, .idle rfl, ?_, True.intro⟩
    unfold recordInitialOrderState
    simp only [fresh.work, List.nil_append, bind_assoc]
    generalize hrow : newExecution userId signal account side stored id executionId = row
    have hid : id = row.id := by rw [← hrow]; rfl
    rw [hid, follows_execution_added rfl]
    refine follows_raiseIf_bind (fun _ => True.intro) fun _ => ?_
    refine follows_addTransition_bind (fun _ _ => True.intro) fun _ world => ⟨_, .idle rfl, ?_⟩
    rw [follows_commit_bind]
    have rowOf : RowOf req row := by
      rw [← hrow]
      exact ⟨user, signalId, accountId, rfl⟩
    refine ⟨fun before after _ => ⟨.created row, .of (.create rowOf ?_ ?_) (by simp), ?_⟩,
      fun world fault _ => ⟨_, .idle rfl, True.intro⟩⟩
    · refine Session.tradingWork _ [] [] rfl fresh.accounts
        (by simp) ?_ (by simp)
      simp [Session.logging, StatusWork, fresh.executions]
    · simp [Session.pending, Session.logging]
    · rw [Handler.discard_bind]
      refine follows_loadExecution_bind (fun world => ⟨_, .idle rfl, True.intro⟩) ?_
      intro world x _ hx
      refine ⟨_, .idle rfl, row, x, rowOf, ?_, rfl, rfl, hx, rfl⟩
      rw [← hrow]
      exact ⟨rfl, rfl, rfl, exact_ stored hfits, rfl, rfl⟩

/-! ### Moving the created row -/

/-- One execution is held, with attributes set on it; nothing else is pending. -/
def Session.holding (x : OrderExecution) (change : OrderExecution.Change)
    (accounts : List (Instance ExchangeAccount)) : Session :=
  { executions := [⟨x, change⟩], accounts }

/-- A transition of the held row and the commit that writes it. -/
theorem follows_moveStatus_bind {α : Type} {x : OrderExecution} {change : OrderExecution.Change}
    (stage' : ExecStage) (accounts : List (Instance ExchangeAccount))
    {status : OrderExecutionStatus} {reason : String} {details : Json} {stage : ExecStage}
    {next : Service α} {post : α → Session → ExecStage → Prop} (clean : ∀ y ∈ accounts, y.change = {})
    (move : ∀ work before after, TradingWork work [] (some (x.id, status)) [] →
      work.positions = [] → GatedMove req gate stage (.commit work before after) stage')
    (rest : Follows (gatedProtocol req gate) semantics next (Returning post) {} stage') :
    Follows (gatedProtocol req gate) semantics
      (do
        transitionOrderExecution x.id status reason details
        Session.commit
        next) (Returning post) (Session.holding x change accounts) stage := by
  refine follows_transition_held rfl rfl (fun _ _ => True.intro) (fun _ _ => True.intro) ?_
  refine fun _ _ world => ⟨_, .idle rfl, ?_⟩
  rw [follows_commit_bind]
  refine ⟨fun before after _ => ⟨_, move _ _ _ ?_ rfl, rest⟩,
    fun world fault _ => ⟨_, .idle rfl, True.intro⟩⟩
  exact Session.tradingWork _ [] [] rfl clean (by simp)
    (statusWork_set rfl) (by simp)

/-- The commit that saves new risk settings, and the weighing of what is loaded. -/
theorem weighSettings_follows {userId : String} {row x : OrderExecution} (hx : x.id = row.id) :
    Follows (gatedProtocol req gate) semantics (getOrCreateRiskSettings userId req.accountId)
      (Returning fun settings s' stage => stage = .weighed row settings ∧
        (s' = {} ∨ ∃ x : OrderExecution, x.id = row.id ∧ s' = { executions := [⟨x, {}⟩] }))
      { executions := [⟨x, {}⟩] } (.created row) := by
  rw [← bind_pure (getOrCreateRiskSettings userId req.accountId)]
  refine follows_getOrCreateRiskSettings_bind (fun world settings stored _ haccount => ?_)
    fun world => ⟨_, .idle rfl, ?_⟩
  · exact ⟨_, .of (.weigh stored haccount) (by simp), rfl, .inr ⟨x, hx, rfl⟩⟩
  · rw [follows_commit_bind]
    refine ⟨fun before after _ => ⟨.created row, .of (.settle ?_ rfl) (by simp), ?_⟩,
      fun world fault _ => ⟨_, .idle rfl, True.intro⟩⟩
    · refine Session.tradingWork [] [] _ rfl (by simp [Session.addingRiskSettings]) ?_
        (statusWork_clean rfl) (by simp)
      intro settings hsettings
      rw [List.mem_singleton.mp hsettings]
      rfl
    · refine follows_refreshRiskSetting_bind (fun world => ⟨_, .idle rfl, True.intro⟩) ?_
      exact fun world settings stored haccount => ⟨_, .of (.weigh stored haccount) (by simp), rfl, .inl rfl⟩

/-- The last load of a request: the committed row is handed out. -/
theorem answer_follows {row : OrderExecution} {id : String} (fill : Bool) {stage : ExecStage}
    (from_ : stage = if fill then .filled row else .failed row) (hid : id = row.id) :
    Follows (gatedProtocol req gate) semantics (Session.loadExecution id)
      (Returning fun result _ => ExecReturns result) s stage := by
  rw [← bind_pure (Session.loadExecution id)]
  refine follows_loadExecution_bind (fun world => ⟨_, .idle rfl, True.intro⟩) ?_
  exact fun world result stored hresult =>
    ⟨_, .of (.answer from_ stored (hresult.trans hid)) (by simp), .inr ⟨row, fill, rfl⟩⟩

theorem failExecution_follows {row x : OrderExecution} {change : OrderExecution.Change}
    {accounts : List (Instance ExchangeAccount)} {result : RiskCheckResult} {alertRuntime : Bool}
    {stage : ExecStage} (clean : ∀ y ∈ accounts, y.change = {}) (hx : x.id = row.id)
    (from_ : stage = .cleared row ∨ ∃ settings, stage = .weighed row settings) :
    Follows (gatedProtocol req gate) semantics (failExecution x.id result alertRuntime)
      (Returning fun result _ => ExecReturns result) (Session.holding x change accounts) stage := by
  unfold failExecution
  simp only [follows_setExecution_bind]
  rw [Session.setting_held rfl rfl]
  refine follows_moveStatus_bind (.failed row) _ clean
    (fun work before after trading noPosition =>
      .of (.fail from_ (hx ▸ trading) noPosition) (by simp)) ?_
  refine follows_loadExecution_bind (fun world => ⟨_, .idle rfl, True.intro⟩) ?_
  intro world answer stored hanswer
  refine ⟨.answered row false answer, .of (.answer (by simp) stored (hanswer.trans hx)) (by simp), ?_⟩
  unfold notifyOrderFailure
  split
  · exact follows_ask_bind.mpr fun _ _ _ _ => ⟨_, .idle rfl, .inr ⟨row, false, rfl⟩⟩
  · exact .inr ⟨row, false, rfl⟩

/-- The units a fill writes. -/
theorem fillOf_filledQuantity {signal : TradingSignal} {account : ExchangeAccount}
    {side : OrderSide} {quantity : Decimal} {row : OrderExecution} {position : Position}
    {filled : Quantity} (order : OrderOf signal account side quantity row)
    (fits : Numeric.ofDecimal? 28 10 (filledQuantity side position.quantity quantity) =
      some filled) : FillOf row position filled := by
  unfold FillOf signedUnits
  rw [order.quantity] at fits
  rw [order.side]
  cases side with
  | buy => exact Numeric.units_add (by decide) fits
  | sell =>
    rw [Numeric.units_sub (by decide) fits]
    exact sub_eq_add_neg _ _

/-- After the last write of a fill. -/
theorem finishFill_follows {row : OrderExecution} {id accountId symbol : String}
    (hid : id = row.id) :
    Follows (gatedProtocol req gate) semantics
      (do
        let _ ← refreshPosition accountId symbol
        Session.commit
        Session.loadExecution id)
      (Returning fun result _ => ExecReturns result) {} (.filled row) := by
  refine follows_refreshPosition_bind (fun world => ⟨_, .idle rfl, True.intro⟩) ?_
  intro world position _ _ _
  refine ⟨_, .idle rfl, ?_⟩
  rw [follows_commit_bind]
  refine ⟨fun before after _ => ⟨_, .of (.tail ?_ rfl) (by simp), answer_follows true rfl hid⟩,
    fun world fault _ => ⟨_, .idle rfl, True.intro⟩⟩
  exact Session.tradingWork [] [] [] rfl
    (by simp) (by simp) (by simp [StatusWork]) (by simp)

/-- The fill when the position exists: one commit for the status and the quantity. -/
theorem applyFill_follows {userId id : String} {signal : TradingSignal}
    {account : ExchangeAccount} {side : OrderSide} {quantity : Decimal} {row x : OrderExecution}
    {change : OrderExecution.Change} {transitions : List OrderExecutionTransition}
    (order : OrderOf signal account side quantity row) (hid : id = row.id) (hx : x.id = row.id)
    (status : change.status = some .filled) :
    Follows (gatedProtocol req gate) semantics
      (do
        let _ ← applyFill userId account.id signal.symbol side quantity
        Session.commit
        Session.loadExecution id)
      (Returning fun result _ => ExecReturns result)
      { work := { transitions }, executions := [⟨x, change⟩] } (.placed row) := by
  have positionFor : ∀ position : Position, position.exchangeAccountId = account.id →
      position.symbol = signal.symbol → PositionFor row position := fun position haccount hsymbol =>
    ⟨haccount.trans order.accountId.symm, hsymbol.trans order.symbol.symm⟩
  unfold applyFill
  rw [bind_assoc]
  refine follows_getOrCreatePosition (fun world position stored haccount hsymbol => ?_) fun world => ?_
  · refine ⟨_, .of (.findPosition stored (positionFor position haccount hsymbol)) (by simp), ?_⟩
    unfold toColumn
    cases hfits : Numeric.ofDecimal? 28 10 (filledQuantity side position.quantity quantity) with
    | none => exact True.intro
    | some filled =>
      simp only [bind_assoc, pure_bind]
      rw [follows_add_bind, follows_commit_bind]
      refine ⟨fun before after _ => ⟨_, .of (.fill (fillOf_filledQuantity order hfits) ?_ rfl) (by simp),
        finishFill_follows hid⟩, fun world fault _ => ⟨_, .idle rfl, True.intro⟩⟩
      refine Session.tradingWork _ [] [] rfl (by simp) (by simp) ?_
        (by simp)
      rw [← hx]
      exact statusWork_set status
  · refine ⟨_, .idle rfl, ?_⟩
    rw [follows_add_bind, follows_commit_bind]
    refine ⟨fun before after _ => ⟨.opened row, .of (.openFilled ?_ ?_) (by simp), ?_⟩,
      fun world fault _ => ⟨_, .idle rfl, True.intro⟩⟩
    · refine Session.tradingWork _ _ [] rfl (by simp) (by simp) ?_ (by simp)
      rw [← hx]
      exact statusWork_set status
    · exact ⟨_, List.mem_singleton_self _, positionFor _ rfl rfl⟩
    · refine follows_refreshPosition_bind (fun world => ⟨_, .idle rfl, True.intro⟩) ?_
      intro world position stored haccount hsymbol
      refine ⟨_, .of (.loadPosition stored (positionFor position haccount hsymbol)) (by simp), ?_⟩
      unfold toColumn
      cases hfits : Numeric.ofDecimal? 28 10 (filledQuantity side position.quantity quantity) with
      | none => exact True.intro
      | some filled =>
        simp only [bind_assoc, pure_bind]
        rw [follows_add_bind, follows_commit_bind]
        refine ⟨fun before after _ => ⟨_, .of (.fund (fillOf_filledQuantity order hfits) ?_ rfl) (by simp),
          finishFill_follows hid⟩, fun world fault _ => ⟨_, .idle rfl, True.intro⟩⟩
        exact Session.tradingWork [] [] [] rfl
          (by simp) (by simp) (by simp [StatusWork]) (by simp)

theorem fillExecution_follows {py : Platform} {userId : String} {signal : TradingSignal}
    {account : ExchangeAccount} {side : OrderSide} {quantity : Decimal} {response : Json}
    {row : OrderExecution} (order : OrderOf signal account side quantity row) :
    Follows (gatedProtocol req gate) semantics
      (fillExecution py userId row.id signal account side quantity response)
      (Returning fun result _ => ExecReturns result) {} (.placed row) := by
  unfold fillExecution
  refine follows_ofExcept_bind (fun _ _ => True.intro) fun exchangeOrderId _ => ?_
  rw [Handler.discard_bind]
  refine follows_execution_expired rfl rfl (fun world => ⟨_, .idle rfl, True.intro⟩) ?_
  intro world x _ hx
  refine ⟨_, .idle rfl, ?_⟩
  rw [← hx, follows_setExecution_bind, Session.setting_held rfl rfl]
  refine follows_transition_held rfl rfl (fun _ _ => True.intro) (fun _ _ => True.intro) ?_
  refine fun _ _ world => ⟨_, .idle rfl, ?_⟩
  rw [Handler.discard_bind]
  exact applyFill_follows order hx hx rfl

theorem placeExecution_follows {py : Platform} {userId : String} {signal : TradingSignal}
    {account : ExchangeAccount} {side : OrderSide} {quantity : Decimal}
    {row x : OrderExecution} {change : OrderExecution.Change}
    {accounts : List (Instance ExchangeAccount)} (clean : ∀ y ∈ accounts, y.change = {})
    (order : OrderOf signal account side quantity row) (hx : x.id = row.id) :
    Follows (gatedProtocol req gate) semantics
      (placeExecution py userId x.id signal account side quantity)
      (Returning fun result _ => ExecReturns result) (Session.holding x change accounts)
      (.cleared row) := by
  unfold placeExecution
  refine follows_moveStatus_bind (.passed row) _ clean
    (fun work before after trading noPosition =>
      .of (.pass (hx ▸ trading) noPosition) (by simp)) ?_
  refine follows_transition_expired (fun world => ⟨_, .idle rfl, True.intro⟩) ?_
  intro world y _ hy
  refine ⟨_, .idle rfl, ?_⟩
  refine follows_moveStatus_bind (.submitted row) [] (by simp)
    (fun work before after trading noPosition =>
      .of (.submit (hx ▸ hy ▸ trading) noPosition) (by simp)) ?_
  refine follows_ask_bind.mpr fun before answer after _ => ?_
  refine ⟨.placed row, .of (.place ⟨order.symbol.symm, order.side.symm, order.quantity⟩) (by simp), ?_⟩
  refine follows_ofExcept_bind (fun _ _ => True.intro) fun response _ => ?_
  rw [hx]
  exact fillExecution_follows order

/-! ### The whole request -/

/-- An order that passes the check leads through the gate. -/
def Admits (gate : OrderExecution → RiskSetting → Prop) : Prop :=
  ∀ {signal : TradingSignal} {account current : ExchangeAccount} {side : OrderSide}
    {quantity : Decimal} {row : OrderExecution} {settings : RiskSetting} {result : RiskCheckResult},
    OrderOf signal account side quantity row →
    checkOrderRisk current settings
      { symbol := signal.symbol, side, quantity, price := signal.price.map Numeric.toDecimal } =
        .ok result → result.decision = .passed → ¬ quantity ≤ .ofInt 0 → gate row settings

/-- Everything after the row has been created: the risk checks and what they lead to. -/
theorem decide_follows {py : Platform} {userId : String} {alertRuntime : Bool}
    {signal : TradingSignal} {account : ExchangeAccount} {side : OrderSide} {quantity : Decimal}
    {row x : OrderExecution} (admits : Admits gate) (accountId : account.id = req.accountId)
    (order : OrderOf signal account side quantity row) (hx : x.id = row.id) :
    Follows (gatedProtocol req gate) semantics
      (do
        let settings ← getOrCreateRiskSettings userId req.accountId
        let current ← Session.account account.id
        let result ← Handler.ofExcept <| checkOrderRisk current settings
          { symbol := signal.symbol, side, quantity, price := signal.price.map Numeric.toDecimal }
        discard <| Session.execution row.id
        Session.setExecution row.id fun change => { change with riskResult := some result.toDict }
        if result.decision ≠ .passed ∨ quantity ≤ .ofInt 0 then
          failExecution row.id result alertRuntime
        else
          placeExecution py userId row.id signal account side quantity)
      (Returning fun result _ => ExecReturns result) { executions := [⟨x, {}⟩] }
      (.created row) := by
  classical
  refine (weighSettings_follows hx).bind ?_ fun _ _ _ _ => True.intro
  rintro settings s' stage ⟨rfl, hs'⟩
  have empty : s'.accounts = [] ∧ s'.work = {} := by
    rcases hs' with rfl | ⟨x, -, rfl⟩ <;> exact ⟨rfl, rfl⟩
  refine follows_account_expired empty.1 (fun world => ⟨_, .idle rfl, True.intro⟩) ?_
  intro world current stored hcurrent
  -- the phase the load leads to says whether both flags were on and the gate was open
  refine ⟨if current.tradingEnabled = true ∧ settings.tradingEnabled = true ∧ gate row settings
    then .cleared row else .weighed row settings, ?_, ?_⟩
  · split
    · next on => exact .clear (.clear stored (hcurrent.trans accountId) on.1 on.2.1) on.2.2
    · exact .idle rfl
  refine follows_ofExcept_bind (fun _ _ => True.intro) fun result checked => ?_
  have decided : ∀ y : OrderExecution, y.id = row.id → Follows (gatedProtocol req gate) semantics
      (do
        Session.setExecution row.id fun change => { change with riskResult := some result.toDict }
        if result.decision ≠ .passed ∨ quantity ≤ .ofInt 0 then
          failExecution row.id result alertRuntime
        else
          placeExecution py userId row.id signal account side quantity)
      (Returning fun result _ => ExecReturns result)
      { executions := [⟨y, {}⟩], accounts := [⟨current, {}⟩] }
      (if current.tradingEnabled = true ∧ settings.tradingEnabled = true ∧ gate row settings
        then .cleared row else .weighed row settings) := by
    intro y hy
    rw [← hy, follows_setExecution_bind, Session.setting_held rfl rfl]
    split
    · refine failExecution_follows (by simp) hy ?_
      split
      · exact .inl rfl
      · exact .inr ⟨settings, rfl⟩
    · next passed =>
      obtain ⟨decision, positive⟩ := not_or.mp passed
      have on := checkOrderRisk_passed checked (not_not.mp decision)
      have opens : gate row settings := admits order checked (not_not.mp decision) positive
      rw [if_pos ⟨on.accountOn, on.settingsOn, opens⟩]
      exact placeExecution_follows (by simp) order hy
  rw [Handler.discard_bind]
  rcases hs' with rfl | ⟨y, hy, rfl⟩
  · refine follows_execution_expired rfl rfl (fun world => ⟨_, .idle rfl, True.intro⟩) ?_
    exact fun world y _ hy => ⟨_, .idle rfl, decided y hy⟩
  · rw [← hy, follows_execution_held rfl rfl, hy]
    exact decided _ hy

/-- A request follows the gated protocol, whatever other sessions commit between its steps. -/
theorem executeSignalForAccount_gated (py : Platform) (req : ExecRequest) (admits : Admits gate) :
    Follows (gatedProtocol req gate) semantics (req.service py)
      (Returning fun result _ => ExecReturns result) {} .start := by
  unfold ExecRequest.service executeSignalForAccount
  refine follows_assertNewOrdersAllowed_bind (fun world _ => ⟨_, .idle rfl, True.intro⟩) ?_
  intro world off
  refine ⟨_, .of (.enter off) (by simp), ?_⟩
  unfold getOwnedSignal
  rw [bind_assoc]
  refine follows_query_bind.mpr fun world => ?_
  cases hsignal : world.db.signals.find? fun row =>
      row.id = req.signalId ∧ row.userId = req.userId with
  | none => exact ⟨_, .idle rfl, True.intro⟩
  | some signal =>
    have owned := Table.holds_of_find? hsignal
    simp only [decide_eq_true_eq] at owned
    refine ⟨_, .of (.know (Table.mem_of_find? hsignal) owned.1 owned.2) (by simp), ?_⟩
    unfold requireOwnedAccount
    rw [follows_pure_bind, bind_assoc]
    refine follows_getOwnedAccount_bind rfl (fun world => ⟨_, .idle rfl, True.intro⟩) ?_
    intro world account _ accountId accountUser
    refine ⟨_, .of (.own accountId accountUser) (by simp), ?_⟩
    rw [follows_pure_bind]
    refine follows_query_bind.mpr fun world => ?_
    cases hexisting : executionOf signal.id account.id world.db with
    | some existing =>
      have same := Table.holds_of_find? hexisting
      simp only [decide_eq_true_eq] at same
      exact ⟨_, .of (.replay (Table.mem_of_find? hexisting) (same.1.trans owned.1)
        (same.2.trans accountId)) (by simp), .inl rfl⟩
    | none =>
      refine ⟨_, .of .miss (by simp), ?_⟩
      refine (resolveSideAndQuantity_follows signal account ⟨rfl, rfl, by simp⟩).bind ?_
        fun _ _ _ _ => True.intro
      rintro ⟨side, quantity⟩ s' stage ⟨fresh, rfl, exact_⟩
      refine (createExecution_follows signal account side exact_ rfl owned.1 accountId fresh).bind
        ?_ fun _ _ _ _ => True.intro
      rintro id s'' stage ⟨row, x, -, order, rfl, rfl, hx, rfl⟩
      exact decide_follows admits accountId order hx

theorem executeSignalForAccount_follows (py : Platform) (req : ExecRequest) :
    Follows (execProtocol req) semantics (req.service py)
      (Returning fun result _ => ExecReturns result) {} .start := by
  have admits : Admits fun _ _ => True := fun _ _ _ _ => True.intro
  have ungate : ∀ stage e stage', GatedMove req (fun _ _ => True) stage e stage' →
      ExecMove req stage e stage' := fun _ _ _ gated => gated.move
  exact (executeSignalForAccount_gated py req admits).map (execProtocol req) id ungate
    fun _ _ _ returns => returns

end CopyTrading
