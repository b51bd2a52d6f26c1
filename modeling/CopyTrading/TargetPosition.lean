import CopyTrading.ConcurrentFills
import CopyTrading.ExecutionDecided
import CopyTrading.OrderGate

/-!
A signal with a target, executed for the first time by a request that has the database for itself.
The difference to the position that is stored is resolved before the execution is made and applied
after it was placed; nothing moves the position in between.
-/

namespace CopyTrading

open Transaction Transaction.Handler DecimalArith

/-! ### Orders -/

/-- The order that an event places. -/
def orderOf : Event backend → Option PlaceOrder
  | .call (.placeOrder order) _ _ _ => some order
  | _ => none

/-- The orders that the events place. -/
def ordersOf (events : List (Event backend)) : List PlaceOrder := events.filterMap orderOf

theorem ordersOf_concat (events : List (Event backend)) (e : Event backend) :
    ordersOf (events ++ [e]) = ordersOf events ++ (orderOf e).toList := by
  unfold ordersOf
  rw [List.filterMap_append]
  cases h : orderOf e <;> simp [h]

/-- The order is for the row. -/
structure OrderFor (row : OrderExecution) (order : PlaceOrder) : Prop where
  symbol : order.symbol = row.symbol
  side : order.side = row.side
  quantity : order.quantity = row.quantity.toDecimal

section

variable {req : ExecRequest} {stage stage' : ExecStage} {e : Event backend}

/-- Only the move from `submitted` to `placed` places an order, the one for its row. -/
theorem ExecMove.order (move : ExecMove req stage e stage') :
    orderOf e = none ∧ stage'.hasPlaced = stage.hasPlaced ∨
      stage.hasPlaced = false ∧ stage'.hasPlaced ∧
        ∃ row order, stage.row? = some row ∧ orderOf e = some order ∧ OrderFor row order := by
  cases move with
  | idle idle =>
    refine .inl ⟨?_, rfl⟩
    cases e with
    | call query answer before after =>
      cases query <;> first | rfl | simp [isIdle, Query.isPlacement] at idle
    | read | commit | abort => rfl
  | place order_eq =>
    exact .inr ⟨rfl, rfl, _, _, rfl, rfl, order_eq.1, order_eq.2.1, order_eq.2.2⟩
  | fail from_ => exact .inl ⟨rfl, by rcases from_ with rfl | ⟨_, rfl⟩ <;> rfl⟩
  | @answer _ _ _ _ fill from_ =>
    subst from_
    cases fill <;> exact .inl ⟨rfl, rfl⟩
  | openPosition | create | settle | pass | submit | openFilled | fill | fund | tail =>
    exact .inl ⟨rfl, rfl⟩
  | enter | know | own | replay | miss | weigh | clear | findPosition | loadPosition =>
    exact .inl ⟨rfl, rfl⟩

/-- The position a request writes is stored as it was loaded, when nobody else moves. -/
theorem ExecMove.position_held (move : ExecMove req stage e stage') (sound : e.Sound semantics)
    (held : ∀ row position, stage = .filling row position ∨ stage = .funding row position →
      PositionFor row position ∧ position ∈ e.before.db.positions)
    (row : OrderExecution) (position : Position)
    (hstage : stage' = .filling row position ∨ stage' = .funding row position) :
    PositionFor row position ∧ position ∈ e.after.db.positions := by
  cases move with
  | idle idle =>
    rw [after_eq_of_idle idle sound]
    exact held row position hstage
  | findPosition stored positionFor | loadPosition stored positionFor =>
    rcases hstage with h | h <;> cases h
    exact ⟨positionFor, stored⟩
  | _ => rcases hstage with h | h <;> cases h

/-- A request for an execution that is not there, and that has the database for itself. -/
structure FirstExecution (req : ExecRequest) (w₀ : World) (events : List (Event backend))
    (stage : ExecStage) (w : World) : Prop where
  stands : RowStands stage w.db
  gated : StageGated req stage w.db
  held : ∀ row position, stage = .filling row position ∨ stage = .funding row position →
    PositionFor row position ∧ position ∈ w.db.positions
  moved : ∀ accountId symbol, positionUnits accountId symbol w.db =
    positionUnits accountId symbol w₀.db + stage.credited accountId symbol
  answered : Answered req stage w.db
  origin : ∀ x ∈ w.db.executions, (∃ x₀ ∈ w₀.db.executions, SameOrder x x₀) ∨
    ∃ row, stage.row? = some row ∧ SameOrder x row
  unplaced : stage.hasPlaced = false → ordersOf events = []
  placed : stage.hasPlaced → ∃ row order, stage.row? = some row ∧ ordersOf events = [order] ∧
    OrderFor row order

theorem FirstExecution.start (w₀ : World) : FirstExecution req w₀ [] .start w₀ where
  stands := .start
  gated := .start
  held _ _ h := by rcases h with h | h <;> cases h
  moved _ _ := (add_zero _).symm
  answered := ⟨fun _ h => (nomatch h), fun _ _ _ h => (nomatch h)⟩
  origin x hx := .inl ⟨x, hx, .refl x⟩
  unplaced _ := rfl
  placed h := (nomatch h)

/-- The step lemma. -/
theorem FirstExecution.step {w₀ : World} {events : List (Event backend)}
    (inv : FirstExecution req w₀ events stage e.before)
    (gated : GatedMove req GatePassed stage e stage') (sound : e.Sound semantics) :
    FirstExecution req w₀ (events ++ [e]) stage' e.after where
  stands := inv.stands.move gated.move sound
  gated := inv.gated.move gated sound
  held := gated.move.position_held sound inv.held
  moved accountId symbol := by
    have stored : ∀ row position, stage = .filling row position ∨ stage = .funding row position →
        PositionFor row position ∧ ∃ x ∈ e.before.db.positions, Row.key x = Row.key position :=
      fun row position h => ⟨(inv.held row position h).1, position, (inv.held row position h).2, rfl⟩
    have loaded := gated.move.writesLoaded fun row position h => (inv.held row position h).2
    rw [gated.move.positionUnits_after accountId symbol sound stored loaded, inv.moved]
    omega
  answered := inv.answered.move inv.stands gated.move sound
  origin x hx := by
    rcases gated.move.executions_from sound hx with ⟨old, hold, same⟩ | ⟨-, hrow, -⟩
    · rcases inv.origin old hold with ⟨x₀, hx₀, h⟩ | ⟨row, hrow, h⟩
      · exact .inl ⟨x₀, hx₀, same.trans h⟩
      · exact .inr ⟨row, gated.move.row?_kept sound hrow, same.trans h⟩
    · exact .inr ⟨x, hrow, .refl x⟩
  unplaced := by
    intro notPlaced
    rw [ordersOf_concat]
    rcases gated.move.order with ⟨none, same⟩ | ⟨-, placed, -⟩
    · rw [none, inv.unplaced (same ▸ notPlaced)]
      rfl
    · rw [notPlaced] at placed
      cases placed
  placed := by
    intro hasPlaced
    rw [ordersOf_concat]
    rcases gated.move.order with ⟨none, same⟩ | ⟨notPlaced, -, row, order, hrow, horder, forRow⟩
    · obtain ⟨row, order, hrow, orders, forRow⟩ := inv.placed (same ▸ hasPlaced)
      exact ⟨row, order, gated.move.row?_kept sound hrow, by rw [none, orders]; rfl, forRow⟩
    · exact ⟨row, order, gated.move.row?_kept sound hrow,
        by rw [horder, inv.unplaced notPlaced]; rfl, forRow⟩

/-- The run lemma, wherever the request is. -/
theorem firstExecution_of_run {py : Platform} {w w' : World} {events : List (Event backend)}
    {rest : Prog backend (Except Exc OrderExecution × Session)}
    (run : Prog.Run semantics (req.service py).run w events rest w') :
    ∃ stage, FirstExecution req w events stage w' ∧
      ∀ result s, rest = .done (.ok result, s) → ExecReturns result stage := by
  obtain ⟨stage, path, follows⟩ := run.path (executeSignalForAccount_gated py req admits_gatePassed)
  refine ⟨stage, ?_, ?_⟩
  · refine path.invariant (fun events stage world => FirstExecution req w events stage world)
      (.start w) ?_
    intro events stage e stage' inv move sound
    exact inv.step move sound
  · rintro result s rfl
    exact follows

/-- The pair had no execution, so what is returned was made by the request. -/
theorem FirstExecution.returned {w w' : World} {events : List (Event backend)}
    {result : OrderExecution} (inv : FirstExecution req w events stage w')
    (first : ∀ x ∈ w.db.executions,
      ¬(x.signalId = req.signalId ∧ x.exchangeAccountId = req.accountId))
    (returns : ExecReturns result stage) :
    ∃ row fill, stage = .answered row fill result ∧ SameOrder result row ∧
      result.status = stage.status := by
  rcases returns with replayed | ⟨row, fill, answered⟩
  · obtain ⟨signalId, accountId, x, hx, same⟩ := inv.answered.1 result replayed
    rcases inv.origin x hx with ⟨x₀, hx₀, h⟩ | ⟨row, hrow, -⟩
    · exact absurd ⟨h.signalId.symm.trans (same.signalId.trans signalId),
        h.exchangeAccountId.symm.trans (same.exchangeAccountId.trans accountId)⟩ (first x₀ hx₀)
    · rw [replayed] at hrow
      cases hrow
  · obtain ⟨same, status⟩ := inv.answered.2 row fill result answered
    exact ⟨row, fill, answered, same, status⟩

/-- The execution of the pair is the one that is returned. -/
theorem FirstExecution.made {w w' : World} {events : List (Event backend)} {row x : OrderExecution}
    (inv : FirstExecution req w events stage w')
    (first : ∀ x ∈ w.db.executions,
      ¬(x.signalId = req.signalId ∧ x.exchangeAccountId = req.accountId))
    (hrow : stage.row? = some row) (stored : x ∈ w'.db.executions)
    (pair : x.signalId = req.signalId ∧ x.exchangeAccountId = req.accountId) : SameOrder x row := by
  rcases inv.origin x stored with ⟨x₀, hx₀, same⟩ | ⟨row', hrow', same⟩
  · exact absurd ⟨same.signalId.symm.trans pair.1, same.exchangeAccountId.symm.trans pair.2⟩
      (first x₀ hx₀)
  · rw [hrow] at hrow'
    cases hrow'
    exact same

end

/-! ### The difference that is resolved -/

/-- The row makes up the difference between two quantities. -/
structure MakesUp (current target : Int) (row : OrderExecution) : Prop where
  quantity : row.quantity.units = |target - current|
  signed : signedUnits row = target - current

theorem round_eq_of_exp {precision : Nat} {d : Decimal} (same : (d.round precision).exp = d.exp) :
    d.round precision = d := by
  unfold Decimal.round at same ⊢
  dsimp only at same ⊢
  split at same
  · next small => rw [if_pos small]
  · next large =>
    dsimp only at same
    omega

/-- A difference that the column stores was not rounded. -/
theorem calculateDelta_stored {symbol : String} {current target stored : Quantity}
    (fits : Numeric.ofDecimal? 28 10
      (calculateDelta symbol current.toDecimal target.toDecimal).deltaQuantity = some stored) :
    decimalSub target.toDecimal current.toDecimal = ⟨target.units - current.units, -(10 : Nat)⟩ ∧
      stored.units = |target.units - current.units| := by
  have delta : decimalSub target.toDecimal current.toDecimal =
      (⟨target.units - current.units, -(10 : Nat)⟩ : Decimal).round 28 := by
    simp [decimalSub, Decimal.sub, Decimal.add, Decimal.addExact, Decimal.neg, Numeric.toDecimal,
      decimalPrecision, sub_eq_add_neg]
  have exact : (decimalSub target.toDecimal current.toDecimal).abs = stored.toDecimal :=
    exactQuantity_delta symbol current target stored fits
  rw [delta] at exact
  have exp : ((⟨target.units - current.units, -(10 : Nat)⟩ : Decimal).round 28).exp =
      -(10 : Nat) := congrArg Decimal.exp exact
  have same := round_eq_of_exp exp
  rw [same] at exact
  exact ⟨delta.trans same, (congrArg Decimal.coeff exact).symm⟩

/-- There is nothing to trade for a target that is the position. -/
theorem deltaQuantity_self {symbol : String} {current target : Quantity}
    (same : current.units = target.units) :
    (calculateDelta symbol current.toDecimal target.toDecimal).deltaQuantity =
      (Numeric.zero : Quantity).toDecimal := by
  have delta : (calculateDelta symbol current.toDecimal target.toDecimal).deltaQuantity =
      ((⟨target.units - current.units, -(10 : Nat)⟩ : Decimal).round 28).abs := by
    simp [calculateDelta, decimalSub, Decimal.sub, Decimal.add, Decimal.addExact, Decimal.neg,
      Numeric.toDecimal, decimalPrecision, sub_eq_add_neg]
  rw [delta, same, sub_self]
  rfl

/-- The execution of a difference that was resolved makes it up. -/
theorem makesUp_newExecution {userId id executionId : String} {signal : TradingSignal}
    {account : ExchangeAccount} {current target stored : Quantity}
    (fits : Numeric.ofDecimal? 28 10
      (calculateDelta signal.symbol current.toDecimal target.toDecimal).deltaQuantity =
        some stored) :
    MakesUp current.units target.units (newExecution userId signal account
      ((calculateDelta signal.symbol current.toDecimal target.toDecimal).side.getD signal.side)
      stored id executionId) := by
  obtain ⟨delta, units⟩ := calculateDelta_stored fits
  refine ⟨units, ?_⟩
  unfold signedUnits newExecution calculateDelta
  rw [delta]
  dsimp only
  rw [units]
  rcases lt_trichotomy 0 (target.units - current.units) with positive | zero | negative
  · rw [if_pos positive, abs_of_pos positive]
    rfl
  · rw [← zero]
    cases signal.side <;> simp
  · rw [if_neg (not_lt.mpr negative.le), if_pos negative, abs_of_neg negative]
    exact neg_neg _

/-! ### The execution that is created -/

/-- Every event keeps the fixed columns of every execution. -/
theorem executions_after {e : Event backend} (sound : e.Sound semantics) {x : OrderExecution}
    (stored : x ∈ e.before.db.executions) : ∃ y ∈ e.after.db.executions, SameOrder y x := by
  cases e with
  | commit work before after =>
    have written := executions_of_flush (World.flush_ok sound).1
    exact ⟨_, (Table.mem_insertAll written).mpr (.inl (Table.mem_writeBack.mpr ⟨x, stored, rfl⟩)),
      sameOrder_updated _ _⟩
  | call query answer before after =>
    have same := db_eq_of_call (show answers _ _ answer _ from sound)
    rw [Event.after, same]
    exact ⟨x, stored, .refl x⟩
  | read | abort => exact ⟨x, stored, .refl x⟩

theorem SameOrder.makesUp {x y : OrderExecution} {current target : Int} (same : SameOrder x y)
    (makesUp : MakesUp current target y) : MakesUp current target x :=
  ⟨same.quantity ▸ makesUp.quantity, same.signedUnits.trans makesUp.signed⟩

/-- The execution of the pair makes up the difference. -/
def Resolved (req : ExecRequest) (symbol : String) (current target : Int) (w : World) : Prop :=
  ∃ x ∈ w.db.executions, (x.signalId = req.signalId ∧ x.exchangeAccountId = req.accountId) ∧
    x.symbol = symbol ∧ MakesUp current target x

theorem resolved_after {req : ExecRequest} {symbol : String} {current target : Int}
    (e : Event backend) (sound : e.Sound semantics)
    (resolved : Resolved req symbol current target e.before) :
    Resolved req symbol current target e.after := by
  obtain ⟨x, stored, pair, hsymbol, makesUp⟩ := resolved
  obtain ⟨y, hy, same⟩ := executions_after sound stored
  exact ⟨y, hy, ⟨same.signalId.trans pair.1, same.exchangeAccountId.trans pair.2⟩,
    same.symbol.trans hsymbol, same.makesUp makesUp⟩

section

variable {userId accountId symbol : String} {s : Session} {w w₀ : World}

/-- The position that is handed out has the stored quantity, `0` for a missing row. -/
theorem alone_position (unmade : Unmade w₀ s w) :
    Alone semantics (fun _ => True) (getOrCreatePosition userId accountId symbol)
      (fun outcome _ _ =>
        match outcome with
        | .ok position => position.quantity.units = positionUnits accountId symbol w.db
        | .error raised => ExecutionRefused raised) s w := by
  unfold getOrCreatePosition
  rw [alone_bind, alone_query, andThen_ok]
  cases found : positionOf userId accountId symbol w.db with
  | some position =>
    have named := Table.holds_of_find? found
    simp only [decide_eq_true_eq] at named
    have units := positionUnits_of_mem (Table.mem_of_find? found)
    rw [named.2.1, named.2.2] at units
    exact units.symm
  | none =>
    dsimp only
    rw [alone_bind, alone_add, andThen_ok, alone_bind, alone_commit]
    refine ⟨fun after flushed => ⟨True.intro, ?_⟩, fun _ _ => .inl rfl⟩
    obtain ⟨work, executions, accounts, secrets⟩ := s
    obtain ⟨rfl, -, -⟩ := unmade
    have written := Work.written_of_flush (World.flush_ok flushed).1 rfl
    have positions : (w.db.positions.writeBack []).insertAll
        [⟨userId, accountId, symbol, Numeric.zero⟩] = some after.db.positions := written.positions
    rw [Table.writeBack_nil] at positions
    have missing : positionUnits accountId symbol w.db = 0 := by
      unfold positionUnits
      cases hfind : w.db.positions.find? fun row =>
          row.exchangeAccountId = accountId ∧ row.symbol = symbol with
      | none => rfl
      | some other =>
        have named' := Table.holds_of_find? hfind
        simp only [decide_eq_true_eq] at named'
        exact absurd (congrArg₂ Position.Key.mk named'.1 named'.2)
          (Table.fresh_of_insertAll positions (Table.mem_of_find? hfind) List.mem_cons_self)
    rw [andThen_ok]
    unfold refreshPosition
    rw [alone_bind, alone_query, andThen_ok]
    have stored : (⟨userId, accountId, symbol, Numeric.zero⟩ : Position) ∈ after.db.positions :=
      (Table.mem_insertAll positions).mpr (.inr List.mem_cons_self)
    split
    · next hnone =>
      have other := Table.not_of_find?_none hnone stored
      simp at other
    · next row hrow =>
      have named' := Table.holds_of_find? hrow
      simp only [decide_eq_true_eq] at named'
      have same : row = ⟨userId, accountId, symbol, Numeric.zero⟩ :=
        Table.eq_of_conflict (Table.mem_of_find? hrow) stored
          (congrArg₂ Position.Key.mk named'.1 named'.2)
      rw [missing, same]
      rfl

/-- Side and quantity are those of the difference to the stored position. -/
theorem alone_resolveTarget {signal : TradingSignal} {account : ExchangeAccount} {target : Quantity}
    (unmade : Unmade w₀ s w) (htarget : signal.targetPositionQuantity = some target) :
    Alone semantics (fun _ => True) (resolveSideAndQuantity signal account)
      (fun outcome _ _ =>
        match outcome with
        | .ok (side, quantity) => ∃ current : Quantity,
            current.units = positionUnits account.id signal.symbol w.db ∧
            side = (calculateDelta signal.symbol current.toDecimal target.toDecimal).side.getD
              signal.side ∧
            quantity = (calculateDelta signal.symbol current.toDecimal target.toDecimal).deltaQuantity
        | .error raised => ExecutionRefused raised) s w := by
  unfold resolveSideAndQuantity
  rw [htarget]
  refine Alone.bind (alone_position unmade) ?_ fun _ _ _ refused => refused
  intro position s' w' units
  exact ⟨position.quantity, units, rfl, rfl⟩

end

section

variable {py : Platform} {req : ExecRequest} {signal : TradingSignal} {target : Quantity} {w : World}

/-- A first request for a signal with a target makes nothing, or what makes up the difference. -/
theorem alone_resolves (stored : signal ∈ w.db.signals) (named : signal.id = req.signalId)
    (htarget : signal.targetPositionQuantity = some target)
    (first : ∀ x ∈ w.db.executions,
      ¬(x.signalId = req.signalId ∧ x.exchangeAccountId = req.accountId)) :
    Alone semantics (fun _ => True) (req.service py)
      (fun _ _ w' => w'.db.executions.rows = w.db.executions.rows ∨ Resolved req signal.symbol
        (positionUnits req.accountId signal.symbol w.db) target.units w') {} w := by
  have start : Unmade w {} w := ⟨rfl, rfl, rfl⟩
  refine alone_request (fun _ _ _ looked _ => .inl (start.look looked).same) ?_ ?_
  · rintro _ _ _ _ ⟨x, hx, pair⟩
    exact absurd pair (first x hx)
  · intro other account s' w' looked hother signalId _ _ accountId _
    obtain rfl : other = signal := Table.eq_of_conflict hother stored (signalId.trans named.symm)
    have unmade := start.look looked
    unfold executeFirst
    refine Alone.bind ((alone_resolveTarget unmade htarget).and
      (alone_resolveSideAndQuantity unmade)) ?_ fun _ _ _ ⟨_, unmade⟩ => .inl unmade.same
    rintro ⟨side, quantity⟩ s₁ w₁ ⟨⟨current, units, rfl, rfl⟩, unmade₁⟩
    refine Alone.bind (alone_createExecution unmade₁) ?_ fun _ _ _ ⟨same, _⟩ => .inl same
    rintro id s₂ w₂ ⟨-, column, fits, rowId, executionId, made⟩
    have resolved : Resolved req other.symbol (positionUnits req.accountId other.symbol w.db)
        target.units w₂ := by
      rw [looked.db, accountId] at units
      rw [← units]
      exact ⟨_, made, ⟨signalId, accountId⟩, rfl, makesUp_newExecution fits⟩
    exact (Alone.of_preserved resolved_after _ _ resolved).mono fun _ _ _ h => .inr h

/-- A first request for the position that is stored fails its execution, unless a new row is
refused. -/
theorem alone_sameTarget (risk : RiskSession py {} w) (may : MayExecute req w.db)
    (stored : signal ∈ w.db.signals) (named : signal.id = req.signalId)
    (htarget : signal.targetPositionQuantity = some target)
    (first : ∀ x ∈ w.db.executions,
      ¬(x.signalId = req.signalId ∧ x.exchangeAccountId = req.accountId))
    (same : positionUnits req.accountId signal.symbol w.db = target.units) :
    Alone semantics (fun _ => True) (req.service py)
      (fun outcome _ _ => (∃ result, outcome = .ok result) ∨
        ∃ raised, outcome = .error raised ∧ ExecutionRefused raised) {} w := by
  have start : Unmade w {} w := ⟨rfl, rfl, rfl⟩
  have inv := riskInvariant py req.userId
  have nothing : (Numeric.zero : Quantity).toDecimal ≤ .ofInt 0 := by
    rw [Decimal.le_def]
    simp [Numeric.toDecimal, Numeric.zero, Decimal.ofInt, Decimal.toRat]
  refine alone_request (fun _ _ _ _ refused => absurd may refused) ?_ ?_
  · rintro _ _ _ _ ⟨x, hx, pair⟩
    exact absurd pair (first x hx)
  · intro other account s' w' looked hother signalId owner haccount accountId owns
    obtain rfl : other = signal := Table.eq_of_conflict hother stored (signalId.trans named.symm)
    have unmade := start.look looked
    have owned : (Scope.ofUser req.userId).account account.id w'.db :=
      ⟨account, looked.db ▸ haccount, rfl, owns⟩
    unfold executeFirst
    rw [← accountId]
    have keeps : Alone semantics (fun _ => True) (resolveSideAndQuantity other account) _ s' w' :=
      Alone.mono (keeps_resolveSideAndQuantity inv (risk.look looked) owner owned)
        (fun _ _ _ h => h) fun _ _ => True.intro
    refine Alone.bind (keeps.and ((alone_resolveTarget unmade htarget).and
      (alone_resolveSideAndQuantity unmade))) ?_ ?_
    · rintro ⟨side, quantity⟩ s₁ w₁ ⟨⟨risk₁, kept₁, -⟩, ⟨current, units, -, rfl⟩, unmade₁⟩
      have owned₁ := kept₁.account owned
      rw [looked.db, accountId, same] at units
      rw [deltaQuantity_self units]
      have ends : Alone semantics (fun _ => True) (createExecution req.userId other account side
          (Numeric.zero : Quantity).toDecimal) _ s₁ w₁ :=
        Alone.mono (ends_createExecution inv risk₁ owned₁ True.intro) (fun _ _ _ h => h)
          fun _ _ => True.intro
      refine Alone.bind (ends.and (alone_createExecution unmade₁)) ?_ ?_
      · rintro id s₂ w₂ ⟨ends₂, made₂, -⟩
        obtain ⟨risk₂, kept₂, -⟩ := ends₂ id rfl
        refine alone_weigh risk₂ made₂ (kept₂.account owned₁) fun result s₃ w₃ deciding _ => ?_
        rw [if_pos (.inr nothing)]
        exact (alone_failExecution deciding).mono fun _ _ _ ends => .inl ends.1
      · rintro raised s₂ w₂ ⟨-, -, refused | misfit⟩
        · exact .inr ⟨raised, rfl, refused⟩
        · rw [Numeric.ofDecimal?_toDecimal] at misfit
          cases misfit
    · rintro raised s₁ w₁ ⟨-, refused, -⟩
      exact .inr ⟨raised, rfl, refused⟩

/-- The row of a first request for a signal with a target makes up the difference. -/
theorem FirstExecution.makesUp {events : List (Event backend)} {stage : ExecStage} {w' : World}
    {outcome : Except Exc OrderExecution × Session} {row : OrderExecution}
    (inv : FirstExecution req w events stage w') (stored : signal ∈ w.db.signals)
    (named : signal.id = req.signalId) (htarget : signal.targetPositionQuantity = some target)
    (first : ∀ x ∈ w.db.executions,
      ¬(x.signalId = req.signalId ∧ x.exchangeAccountId = req.accountId))
    (ran : Prog.Run semantics (req.service py).run w events (.done outcome) w')
    (hrow : stage.row? = some row) :
    row.symbol = signal.symbol ∧
      MakesUp (positionUnits req.accountId signal.symbol w.db) target.units row := by
  have rowOf := inv.gated.rowOf row hrow
  have resolves : w'.db.executions.rows = w.db.executions.rows ∨ Resolved req signal.symbol
      (positionUnits req.accountId signal.symbol w.db) target.units w' :=
    (ran.of_alone (alone_resolves stored named htarget first)).2
  rcases resolves with same | ⟨x, hx, pair, symbol, makesUp⟩
  · obtain ⟨x, hx, sameOrder, -⟩ := inv.stands row hrow
    rw [Table.mem_def, same] at hx
    exact absurd ⟨sameOrder.signalId.trans rowOf.signalId,
      sameOrder.exchangeAccountId.trans rowOf.accountId⟩ (first x hx)
  · have sameOrder := (inv.made first hrow hx pair).symm
    exact ⟨sameOrder.symbol.trans symbol, sameOrder.makesUp makesUp⟩

end

/-! ### Convergence -/

/-- The committed quantity of a position, `0` when the row is missing. -/
def heldQuantity (accountId symbol : String) (db : Db) : ℚ :=
  positionUnits accountId symbol db / 10 ^ 10

theorem heldQuantity_eq_value {accountId symbol : String} {db : Db} {x : Quantity} :
    heldQuantity accountId symbol db = x.value ↔ positionUnits accountId symbol db = x.units := by
  unfold heldQuantity Numeric.value
  rw [div_left_inj' (by norm_num), Int.cast_inj]

theorem heldQuantity_lt_value {accountId symbol : String} {db : Db} {x : Quantity} :
    heldQuantity accountId symbol db < x.value ↔ positionUnits accountId symbol db < x.units := by
  unfold heldQuantity Numeric.value
  rw [div_lt_div_iff_of_pos_right (by norm_num), Int.cast_lt]

/-- A stored quantity has the value of a difference exactly when it has its units. -/
theorem MakesUp.value {accountId symbol : String} {db : Db} {target : Quantity}
    {row : OrderExecution} (makesUp : MakesUp (positionUnits accountId symbol db) target.units row) :
    row.quantity.toDecimal.toRat = |target.value - heldQuantity accountId symbol db| := by
  rw [Numeric.toRat_toDecimal]
  unfold Numeric.value heldQuantity
  rw [makesUp.quantity, ← sub_div, abs_div, abs_of_pos (by norm_num : (0 : ℚ) < 10 ^ 10)]
  push_cast
  rfl

/-- Units that are not zero are bought exactly when the position is below the target. -/
theorem MakesUp.side {current target : Int} {row : OrderExecution}
    (makesUp : MakesUp current target row) (positive : 0 < row.quantity.units) :
    row.side = .buy ↔ current < target := by
  have signed := makesUp.signed
  unfold signedUnits at signed
  cases hside : row.side with
  | buy =>
    rw [hside] at signed
    dsimp only at signed
    exact iff_of_true rfl (by omega)
  | sell =>
    rw [hside] at signed
    dsimp only at signed
    exact iff_of_false (by simp) (by omega)

theorem units_pos {x : Quantity} (positive : 0 < x.value) : 0 < x.units := by
  unfold Numeric.value at positive
  exact Int.cast_pos.mp ((div_pos_iff_of_pos_right (by norm_num)).mp positive)

theorem ExecStage.isCleared_of_hasPlaced {stage : ExecStage} (placed : stage.hasPlaced) :
    stage.isCleared := by
  cases stage <;> first | rfl | exact placed

/-- A request for a signal with a target, alone and for the first time on its account. One that
returns `FILLED` has placed one order, over the difference to the position and towards the target,
and leaves the position at the target. At the target it places no order and can only return
`FAILED`, which it does when it may execute and no new row is refused. One that returns `FAILED`
leaves the position as it was. -/
theorem target_position_converges {py : Platform} {req : ExecRequest} {signal : TradingSignal}
    {target : Quantity} {w w' : World} {events : List (Event backend)}
    {outcome : Except Exc OrderExecution} {s : Session} (stored : signal ∈ w.db.signals)
    (named : signal.id = req.signalId) (htarget : signal.targetPositionQuantity = some target)
    (first : ∀ x ∈ w.db.executions,
      ¬(x.signalId = req.signalId ∧ x.exchangeAccountId = req.accountId))
    (ran : Prog.Run semantics (req.service py).run w events (.done (outcome, s)) w') :
    (∀ result, outcome = .ok result → result.status = .filled →
      (∃ order, ordersOf events = [order] ∧ order.symbol = signal.symbol ∧
        order.quantity.toRat =
          |target.value - heldQuantity req.accountId signal.symbol w.db| ∧
        (order.side = .buy ↔ heldQuantity req.accountId signal.symbol w.db < target.value)) ∧
      heldQuantity req.accountId signal.symbol w'.db = target.value) ∧
    (heldQuantity req.accountId signal.symbol w.db = target.value →
      ordersOf events = [] ∧ (∀ result, outcome = .ok result → result.status = .failed) ∧
      (w.db.Chained → w.db.RisksShaped py → MayExecute req w.db →
        (∃ result, outcome = .ok result) ∨ ∃ raised, outcome = .error raised ∧ ExecutionRefused raised)) ∧
    ∀ result, outcome = .ok result → result.status = .failed →
      heldQuantity req.accountId signal.symbol w'.db =
        heldQuantity req.accountId signal.symbol w.db := by
  obtain ⟨stage, inv, returns⟩ := firstExecution_of_run ran
  have makesUp : ∀ row, stage.row? = some row → row.symbol = signal.symbol ∧
      MakesUp (positionUnits req.accountId signal.symbol w.db) target.units row :=
    fun _ => inv.makesUp stored named htarget first ran
  have positive : ∀ row, stage.row? = some row → stage.isCleared → 0 < row.quantity.units := by
    intro row hrow cleared
    obtain ⟨settings, -, -, passed⟩ := inv.gated.cleared cleared row hrow
    exact units_pos passed.positive
  have moved := inv.moved req.accountId signal.symbol
  have answered : ∀ result, outcome = .ok result → ∃ row fill,
      stage = .answered row fill result ∧ result.status = if fill then .filled else .failed := by
    rintro result rfl
    obtain ⟨row, fill, hstage, -, status⟩ := inv.returned first (returns result s rfl)
    refine ⟨row, fill, hstage, status.trans ?_⟩
    rw [hstage]
    rfl
  constructor
  · intro result hresult filled
    obtain ⟨row, fill, rfl, status⟩ := answered result hresult
    cases fill with
    | false => cases filled.symm.trans status
    | true =>
      obtain ⟨symbol, difference⟩ := makesUp row rfl
      obtain ⟨row', order, hrow, orders, forRow⟩ := inv.placed rfl
      cases hrow
      refine ⟨⟨order, orders, forRow.symbol.trans symbol, ?_, ?_⟩, ?_⟩
      · rw [forRow.quantity, difference.value]
      · rw [forRow.side, heldQuantity_lt_value]
        exact difference.side (positive row rfl rfl)
      · have rowOf := inv.gated.rowOf row rfl
        rw [heldQuantity_eq_value, moved]
        simp only [ExecStage.credited]
        rw [if_pos ⟨rowOf.accountId, symbol⟩, difference.signed]
        omega
  constructor
  · intro same
    rw [heldQuantity_eq_value] at same
    have nothing : ∀ row, stage.row? = some row → ¬ stage.isCleared := by
      intro row hrow cleared
      have units := (makesUp row hrow).2.quantity
      rw [same, sub_self, abs_zero] at units
      exact (positive row hrow cleared).ne' units
    refine ⟨?_, ?_, ?_⟩
    · cases hplaced : stage.hasPlaced with
      | false => exact inv.unplaced hplaced
      | true =>
        obtain ⟨row, order, hrow, -⟩ := inv.placed hplaced
        exact absurd (ExecStage.isCleared_of_hasPlaced hplaced) (nothing row hrow)
    · intro result hresult
      obtain ⟨row, fill, rfl, status⟩ := answered result hresult
      cases fill with
      | true => exact absurd rfl (nothing row rfl)
      | false => exact status
    · intro chained rows may
      have risk := RiskSession.empty chained rows
      exact (ran.of_alone (alone_sameTarget risk may stored named htarget first same)).2
  · intro result hresult failed
    obtain ⟨row, fill, rfl, status⟩ := answered result hresult
    cases fill with
    | true => cases failed.symm.trans status
    | false =>
      unfold heldQuantity
      rw [moved]
      simp [ExecStage.credited]

/-- A short position of one unit. -/
def oneShort : Quantity := ⟨-10000000000, by decide⟩

/-- A long position of one unit, and a signal that turns it into a short one. -/
def turningWorld : World :=
  { db := sampleDb .simulation
      (oneRow { sampleSignal "s1" .buy with
        quantity := none, targetPositionQuantity := some oneShort })
      (oneRow ⟨"u", "a", "BTCUSDT", oneUnit⟩) }

def turningRequest : ExecRequest := { userId := "u", signalId := "s1", accountId := "a" }

def turnedWorld : World :=
  (Exchange.serving ⟨true, .empty⟩ (turningRequest.service asciiPlatform).run
    turningWorld 40).2.store

theorem target_position_converges_turning :
    ∃ events result s, Prog.Run semantics (turningRequest.service asciiPlatform).run turningWorld
        events (.done (.ok result, s)) turnedWorld ∧ result.status = .filled ∧
      (∃ order, ordersOf events = [order] ∧ order.side ≠ .buy) ∧
      heldQuantity "a" "BTCUSDT" turnedWorld.db = oneShort.value := by
  obtain ⟨result, accepted⟩ : ∃ result, returned ((Exchange.serving ⟨true, .empty⟩
      (turningRequest.service asciiPlatform).run turningWorld 40).2.client ()) = some result :=
    Option.isSome_iff_exists.mp (by decide +kernel)
  have filled : (returned ((Exchange.serving ⟨true, .empty⟩
      (turningRequest.service asciiPlatform).run turningWorld 40).2.client ())).map
        OrderExecution.status = some .filled := by decide +kernel
  rw [accepted] at filled
  have filled : result.status = .filled := Option.some.inj filled
  obtain ⟨events, s, ran⟩ := Exchange.served_returns accepted
  obtain ⟨⟨order, orders, -, -, side⟩, converged⟩ := (target_position_converges
    (List.mem_singleton_self _) rfl rfl (fun _ h => (List.not_mem_nil h).elim) ran).1
      result rfl filled
  refine ⟨events, result, s, ran, filled, ⟨order, orders, fun buy => ?_⟩, converged⟩
  have below := heldQuantity_lt_value.mp (side.mp buy)
  exact absurd below (by decide +kernel)

end CopyTrading
