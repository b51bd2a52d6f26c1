import CopyTrading.Decimal.Exact
import CopyTrading.ExecutionSafety
import CopyTrading.SignalEngine

/-!
What `execute_signal_for_account` has checked of an order it submits, and what of the order's
price it has not.
-/

namespace CopyTrading

open Transaction Transaction.Handler DecimalArith

/-! ### Orders and limits -/

/-- The order keeps every limit of the settings, and its price makes sense. -/
structure GateSound (x : OrderExecution) (settings : RiskSetting) : Prop where
  positive : 0 < x.quantity.value
  least : ∀ least ∈ settings.minOrderQuantity, least.value ≤ x.quantity.value
  most : ∀ most ∈ settings.maxOrderQuantity, x.quantity.value ≤ most.value
  allowed : ∃ blocked, settings.blockedSymbols = some blocked ∧ x.symbol ∉ blocked
  limitPriced : x.orderType = .limit → x.price.isSome
  pricePositive : ∀ price ∈ x.price, 0 < price.value
  notional : ∀ price ∈ x.price, ∀ most ∈ settings.maxSingleOrderNotional,
    x.quantity.value * price.value ≤ most.value

/-- A limit order has a price, a price is positive, and the product that was rounded to the
limit itself did not exceed it. -/
structure PriceSound (x : OrderExecution) (settings : RiskSetting) : Prop where
  limitPriced : x.orderType = .limit → x.price.isSome
  pricePositive : ∀ price ∈ x.price, 0 < price.value
  notRoundedDown : ∀ price ∈ x.price, ∀ most ∈ settings.maxSingleOrderNotional,
    (decimalMul x.quantity.toDecimal price.toDecimal).toRat = most.value →
      x.quantity.value * price.value ≤ most.value

/-- What the check of an order and the test for a positive quantity let through. -/
structure GatePassed (x : OrderExecution) (settings : RiskSetting) : Prop where
  enabled : settings.tradingEnabled = true
  positive : 0 < x.quantity.value
  least : ∀ least ∈ settings.minOrderQuantity, least.value ≤ x.quantity.value
  most : ∀ most ∈ settings.maxOrderQuantity, x.quantity.value ≤ most.value
  allowed : ∃ blocked, settings.blockedSymbols = some blocked ∧ x.symbol ∉ blocked
  notional : ∀ most ∈ settings.maxSingleOrderNotional,
    (decimalMul x.quantity.toDecimal (priceOrOne (x.price.map Numeric.toDecimal))).toRat ≤
      most.value

theorem priceOrOne_of_pos {price : Quantity} (positive : 0 < price.value) :
    priceOrOne (some price.toDecimal) = price.toDecimal := by
  unfold priceOrOne
  refine if_neg fun zero => ?_
  rw [← Numeric.toRat_toDecimal, Decimal.toRat_eq_zero_iff.mpr zero] at positive
  exact lt_irrefl _ positive

/-- A positive product is rounded below a limit only if it was below, or is rounded to the
limit. -/
theorem notional_le_of_rounded {quantity price most : Quantity} (quantityPos : 0 < quantity.value)
    (pricePos : 0 < price.value)
    (rounded : (decimalMul quantity.toDecimal price.toDecimal).toRat ≤ most.value)
    (notRoundedDown : (decimalMul quantity.toDecimal price.toDecimal).toRat = most.value →
      quantity.value * price.value ≤ most.value) : quantity.value * price.value ≤ most.value := by
  have exact : (Decimal.mulExact quantity.toDecimal price.toDecimal).toRat =
      quantity.value * price.value := by
    rw [Decimal.toRat_mulExact, Numeric.toRat_toDecimal, Numeric.toRat_toDecimal]
  by_contra above
  have reached : most.value ≤ (decimalMul quantity.toDecimal price.toDecimal).toRat := by
    refine Decimal.le_toRat_round most (by decide) ?_ ?_
    · rw [exact]
      exact mul_pos quantityPos pricePos
    · rw [exact]
      exact (not_le.mp above).le
  exact above (notRoundedDown (le_antisymm rounded reached))

/-- An order that was let through keeps every limit exactly when its price is sound. -/
theorem GatePassed.sound_iff {x : OrderExecution} {settings : RiskSetting}
    (passed : GatePassed x settings) : GateSound x settings ↔ PriceSound x settings := by
  constructor
  · intro sound
    exact ⟨sound.limitPriced, sound.pricePositive,
      fun price hprice most hmost _ => sound.notional price hprice most hmost⟩
  · intro sound
    refine ⟨passed.positive, passed.least, passed.most, passed.allowed, sound.limitPriced,
      sound.pricePositive, fun price hprice most hmost => ?_⟩
    have positive := sound.pricePositive price hprice
    have rounded := passed.notional most hmost
    rw [Option.mem_def.mp hprice, Option.map_some, priceOrOne_of_pos positive] at rounded
    exact notional_le_of_rounded passed.positive positive rounded
      (sound.notRoundedDown price hprice most hmost)

theorem SameOrder.gatePassed {x y : OrderExecution} {settings : RiskSetting} (same : SameOrder x y)
    (passed : GatePassed y settings) : GatePassed x settings := by
  obtain ⟨enabled, positive, least, most, allowed, notional⟩ := passed
  rw [← same.quantity] at positive least most notional
  rw [← same.symbol] at allowed
  rw [← same.price] at notional
  exact ⟨enabled, positive, least, most, allowed, notional⟩

/-- The check of the engine is the gate. -/
theorem admits_gatePassed : Admits GatePassed := by
  intro signal account current side quantity row settings result order checked decision notZero
  have passed := checkOrderRisk_passed checked decision
  obtain ⟨-, symbol, -, hquantity, -, price⟩ := order
  subst hquantity
  constructor
  · exact passed.settingsOn
  · rw [← Numeric.toRat_toDecimal]
    simpa [Decimal.le_def] using notZero
  · intro least hleast
    have := passed.least least hleast
    rwa [Decimal.le_def, Numeric.toRat_toDecimal, Numeric.toRat_toDecimal] at this
  · intro most hmost
    have := passed.most most hmost
    rwa [Decimal.le_def, Numeric.toRat_toDecimal, Numeric.toRat_toDecimal] at this
  · rw [symbol]
    exact passed.allowed
  · intro most hmost
    have := passed.notional most hmost
    rw [price]
    rwa [Decimal.le_def, Numeric.toRat_toDecimal] at this

/-! ### Requests in any order -/

variable {ι : Type} {requests : ι → ExecRequest}

/-- The stages behind the gate. -/
def ExecStage.isCleared : ExecStage → Bool
  | .cleared _ | .passed _ | .submitted _ | .placed _ | .filling .. | .opened _ | .funding ..
  | .filled _ => true
  | .answered _ fill _ => fill
  | _ => false

theorem ExecMove.keepsControls {req : ExecRequest} {stage stage' : ExecStage} {e : Event backend}
    (move : ExecMove req stage e stage') (sound : e.Sound semantics) :
    KeepsControls e.before.db e.after.db := by
  cases move.effect sound with
  | keeps db =>
    rw [db]
    exact .refl _
  | creates flushed trading => exact trading.controls.keeps (trading.written flushed)
  | writes flushed trading => exact trading.controls.keeps (trading.written flushed)

/-- The order was let through, under settings stored for its account. -/
def PassedUnder (db : Db) (x : OrderExecution) : Prop :=
  ∃ settings ∈ db.riskSettings, settings.exchangeAccountId = x.exchangeAccountId ∧
    GatePassed x settings

theorem PassedUnder.kept {before after : Db} {x : OrderExecution} (passed : PassedUnder before x)
    (keeps : KeepsControls before after) : PassedUnder after x := by
  obtain ⟨settings, stored, account, gate⟩ := passed
  exact ⟨settings, keeps.riskRows settings stored, account, gate⟩

theorem PassedUnder.same {db : Db} {x y : OrderExecution} (passed : PassedUnder db y)
    (same : SameOrder x y) : PassedUnder db x := by
  obtain ⟨settings, stored, account, gate⟩ := passed
  exact ⟨settings, stored, account.trans same.exchangeAccountId.symm, same.gatePassed gate⟩

/-- What the request has weighed is stored, and what it has cleared was let through. -/
structure StageGated (req : ExecRequest) (stage : ExecStage) (db : Db) : Prop where
  rowOf : ∀ row, stage.row? = some row → RowOf req row
  weighed : ∀ row settings, stage = .weighed row settings →
    settings ∈ db.riskSettings ∧ settings.exchangeAccountId = req.accountId
  cleared : stage.isCleared → ∀ row, stage.row? = some row → PassedUnder db row

theorem StageGated.start {req : ExecRequest} {db : Db} : StageGated req .start db where
  rowOf _ h := by cases h
  weighed _ _ h := by cases h
  cleared h := by cases h

theorem StageGated.kept {req : ExecRequest} {stage : ExecStage} {before after : Db}
    (gated : StageGated req stage before) (keeps : KeepsControls before after) :
    StageGated req stage after where
  rowOf := gated.rowOf
  weighed row settings h :=
    ⟨keeps.riskRows settings (gated.weighed row settings h).1, (gated.weighed row settings h).2⟩
  cleared h row hrow := (gated.cleared h row hrow).kept keeps

/-- A request is behind the gate only through it. -/
theorem GatedMove.cleared_from {req : ExecRequest} {stage stage' : ExecStage} {e : Event backend}
    (move : GatedMove req GatePassed stage e stage') (cleared : stage'.isCleared) :
    stage.isCleared ∨ ∃ row settings, stage = .weighed row settings ∧ stage' = .cleared row := by
  obtain ⟨move, -⟩ := move
  cases move with
  | idle => exact .inl cleared
  | clear => exact .inr ⟨_, _, rfl, rfl⟩
  | @answer _ _ _ _ fill from_ =>
    subst from_
    cases fill with
    | true => exact .inl rfl
    | false => cases cleared
  | pass | submit | place | findPosition | openFilled | loadPosition | fill | fund | tail =>
    exact .inl rfl
  | enter | know | own | replay | miss | openPosition | create | settle | weigh => cases cleared
  | fail => cases cleared

theorem ExecMove.weighed_from {req : ExecRequest} {stage stage' : ExecStage} {e : Event backend}
    (move : ExecMove req stage e stage') {row : OrderExecution} {settings : RiskSetting}
    (weighed : stage' = .weighed row settings) :
    stage = .weighed row settings ∨
      settings ∈ e.after.db.riskSettings ∧ settings.exchangeAccountId = req.accountId := by
  subst weighed
  cases move with
  | idle => exact .inl rfl
  | weigh stored accountId => exact .inr ⟨stored, accountId⟩

theorem StageGated.move {req : ExecRequest} {stage stage' : ExecStage} {e : Event backend}
    (gated : StageGated req stage e.before.db) (move : GatedMove req GatePassed stage e stage')
    (sound : e.Sound semantics) : StageGated req stage' e.after.db where
  rowOf row hrow := by
    rcases ExecInv.row?_of_move move.move sound hrow with hrow | ⟨rowOf, -⟩
    · exact gated.rowOf row hrow
    · exact rowOf
  weighed row settings h := by
    rcases move.move.weighed_from h with before | now
    · exact (gated.kept (move.move.keepsControls sound)).weighed row settings before
    · exact now
  cleared h row hrow := by
    have kept := gated.kept (move.move.keepsControls sound)
    rcases move.cleared_from h with before | ⟨weighed, settings, rfl, rfl⟩
    · obtain ⟨row', hrow'⟩ : ∃ row', stage.row? = some row' := by
        rw [← Option.isSome_iff_exists]
        cases stage <;> first | rfl | cases before
      have same := move.move.row?_kept sound hrow'
      rw [hrow] at same
      cases same
      exact kept.cleared before row hrow'
    · cases hrow
      obtain ⟨stored, account⟩ := kept.weighed _ settings rfl
      exact ⟨settings, stored, account.trans (gated.rowOf _ rfl).accountId.symm,
        move.gated _ settings rfl rfl⟩

theorem ExecStage.cleared_of_submitted {stage : ExecStage} (submitted : stage.status = .submitted) :
    stage.isCleared := by
  cases stage with
  | submitted | placed | filling => rfl
  | answered row fill result => cases fill <;> cases submitted
  | _ => cases submitted

/-- The event moves the execution to `SUBMITTED`. -/
def Submits (e : Event backend) (x : OrderExecution) : Prop :=
  x ∈ e.before.db.executions ∧ x.status ≠ .submitted ∧
    ∃ y ∈ e.after.db.executions, y.id = x.id ∧ y.status = .submitted

/-- Only a request behind the gate submits its row. -/
theorem GatedMove.submits {req : ExecRequest} {stage stage' : ExecStage} {e : Event backend}
    {x : OrderExecution} (move : GatedMove req GatePassed stage e stage')
    (sound : e.Sound semantics) (gated : StageGated req stage e.before.db)
    (stands : RowStands stage e.before.db) (submits : Submits e x) :
    PassedUnder e.before.db x := by
  obtain ⟨stored, pending, y, hy, same, submitted⟩ := submits
  have stale : ∀ old ∈ e.before.db.executions, old.id = y.id → y.status ≠ old.status := by
    intro old hold hid status
    rw [execution_unique hold stored (hid.trans same)] at status
    exact pending (status.symm.trans submitted)
  cases move.move.effect sound with
  | keeps db => exact absurd rfl (stale y (db ▸ hy) rfl)
  | creates flushed trading rowOf _ _ created =>
    rcases trading.executions_after flushed hy with inserted | ⟨old, hold, sameOrder, status⟩
    · rw [List.mem_singleton.mp inserted, rowOf.status] at submitted
      cases submitted
    · exact absurd status (stale old hold sameOrder.id.symm)
  | writes flushed trading _ written =>
    rcases trading.executions_after flushed hy with inserted | ⟨old, hold, sameOrder, status⟩
    · cases inserted
    · obtain rfl : old = x := execution_unique hold stored (sameOrder.id.symm.trans same)
      rcases written with ⟨rfl, -⟩ | ⟨row, hrow, -, rfl⟩
      · exact absurd status (stale old hold sameOrder.id.symm)
      · by_cases named : row.id = old.id
        · rw [statusAfter_same named] at status
          obtain ⟨x, hx, sameRow, -⟩ := stands row hrow
          obtain rfl : old = x := execution_unique hold hx (named.symm.trans sameRow.id.symm)
          have status := status.symm.trans submitted
          rcases move.cleared_from (ExecStage.cleared_of_submitted status) with cleared | ⟨_, _, -, rfl⟩
          · exact (gated.cleared cleared row hrow).same sameRow
          · cases status
        · rw [statusAfter_other named] at status
          exact absurd status (stale old hold sameOrder.id.symm)

/-- What holds of the requests and of every step they have made. -/
structure GateInv (requests : ι → ExecRequest) (trace : Trace backend ι)
    (stages : ι → ExecStage) (db : Db) : Prop where
  inv : ExecInv requests stages db
  gated : ∀ i, StageGated (requests i) (stages i) db
  submitted : ∀ step ∈ trace, ∀ x, Submits step.2 x → PassedUnder step.2.before.db x

theorem GateInv.step [DecidableEq ι] {trace : Trace backend ι} {stages : ι → ExecStage} {i : ι}
    {e : Event backend} {stage' : ExecStage} (inv : GateInv requests trace stages e.before.db)
    (move : GatedMove (requests i) GatePassed (stages i) e stage') (sound : e.Sound semantics) :
    GateInv requests (trace ++ [(i, e)]) (Function.update stages i stage') e.after.db where
  inv := inv.inv.step move.move sound
  gated j := by
    by_cases hj : j = i
    · subst hj
      rw [Function.update_self]
      exact (inv.gated j).move move sound
    · rw [Function.update_of_ne hj]
      exact (inv.gated j).kept (move.move.keepsControls sound)
  submitted step hstep x submits := by
    rcases List.mem_append.mp hstep with before | now
    · exact inv.submitted step before x submits
    · rw [List.mem_singleton.mp now] at submits ⊢
      exact move.submits sound (inv.gated i) (inv.inv.stands i) submits

/-- In every run of requests, a request moves an execution to `SUBMITTED` in accordance with the
settings stored for its account exactly when the price of the order is sound. -/
theorem submitted_order_sound_iff [DecidableEq ι] {py : Platform} {world : World}
    {trace : Trace backend ι} {c : Config backend fun _ : ι => Except Exc OrderExecution × Session}
    (run : Config.Run semantics (executing py requests world) trace c) {i : ι}
    {e : Event backend} {x : OrderExecution} (step : (i, e) ∈ trace) (submits : Submits e x) :
    ∃ settings ∈ e.before.db.riskSettings, settings.exchangeAccountId = x.exchangeAccountId ∧
      (GateSound x settings ↔ PriceSound x settings) := by
  obtain ⟨stages, tracked, -⟩ :=
    run.tracked fun i => executeSignalForAccount_gated py (requests i) admits_gatePassed
  have inv : GateInv requests trace stages c.store.db := by
    refine tracked.invariant (fun trace stages (world : World) =>
      GateInv requests trace stages world.db) ?_ ?_
    · exact ⟨.start, fun _ => .start, fun _ h => (List.not_mem_nil h).elim⟩
    · intro _ _ _ _ _ inv move sound
      exact inv.step move sound
  obtain ⟨settings, stored, account, passed⟩ := inv.submitted _ step x submits
  exact ⟨settings, stored, account, passed.sound_iff⟩

/-- A market order without a price is submitted, and keeps every limit. -/
theorem submitted_order_sound_iff_market :
    ∃ trace c, Config.Run semantics
        (executing asciiPlatform (fun _ : Unit => sampleRequest "s1") sampleWorld) trace c ∧
      ∃ step ∈ trace, ∃ x, Submits step.2 x ∧ x.orderType = .market ∧
        ∃ settings ∈ step.2.before.db.riskSettings,
          settings.exchangeAccountId = x.exchangeAccountId ∧ GateSound x settings := by
  have run := Config.replay_reaches (environment_allowed ⟨true, .empty⟩) (List.replicate 40 ()) 0
    (executing asciiPlatform (fun _ : Unit => sampleRequest "s1") sampleWorld)
  obtain ⟨⟨i, e⟩, step, x, stored, pending, moved, market, unpriced⟩ :
      ∃ step ∈ (Config.replay semantics (environment ⟨true, .empty⟩) 0 (List.replicate 40 ())
        (executing asciiPlatform (fun _ : Unit => sampleRequest "s1") sampleWorld)).1,
      ∃ x ∈ step.2.before.db.executions, x.status ≠ .submitted ∧
        (∃ y ∈ step.2.after.db.executions, y.id = x.id ∧ y.status = .submitted) ∧
        x.orderType = .market ∧ x.price = none := by
    decide +kernel
  obtain ⟨settings, known, account, sound⟩ :=
    submitted_order_sound_iff run step ⟨stored, pending, moved⟩
  have priced : PriceSound x settings := by
    constructor
    · intro limit
      cases market.symm.trans limit
    · intro price given
      cases unpriced.symm.trans given
    · intro price given
      cases unpriced.symm.trans given
  exact ⟨_, _, run, _, step, x, ⟨stored, pending, moved⟩, market, settings, known, account,
    sound.mpr priced⟩

/-- A limit order without a price, as the schema admits it. -/
def unpricedLimit : ManualSignalCreate where
  symbol := "btcusdt"
  side := .buy
  orderType := .limit
  quantity := some (.ofInt 1)
  symbol_length := by decide
  quantity_pos := by
    rintro value ⟨⟩
    simp
  target_nonneg _ h := by cases h
  quantity_or_target := .inl rfl

/-- The user's account may trade; there is no signal yet. -/
def tradingWorld : World :=
  { db := sampleDb .simulation .empty .empty }

/-- The world after the user has entered the limit order. -/
def unpricedWorld : World :=
  (Exchange.serving ⟨true, .empty⟩ (createManualSignal asciiPlatform "u" unpricedLimit).run
    tradingWorld 20).2.store

/-- The order is entered, and its execution is submitted, whatever the settings say. -/
theorem submitted_limit_order_without_price :
    (∃ trace signal s, Prog.Run semantics (createManualSignal asciiPlatform "u" unpricedLimit).run
      tradingWorld trace (.done (.ok signal, s)) unpricedWorld) ∧
    ∃ trace p last, Prog.Run semantics (executeSignalForAccount asciiPlatform "u" "id0" "a").run
        unpricedWorld trace p last ∧
      ∃ e ∈ trace, ∃ x, Submits e x ∧ x.orderType = .limit ∧ x.price = none ∧
        ∀ settings, ¬ GateSound x settings := by
  constructor
  · obtain ⟨signal, accepted⟩ : ∃ signal, returned ((Exchange.serving ⟨true, .empty⟩
        (createManualSignal asciiPlatform "u" unpricedLimit).run tradingWorld 20).2.client ()) =
          some signal := Option.isSome_iff_exists.mp (by decide +kernel)
    obtain ⟨trace, s, ran⟩ := Exchange.served_returns accepted
    exact ⟨trace, signal, s, ran⟩
  · have ran := Exchange.serving_run ⟨true, .empty⟩
      (executeSignalForAccount asciiPlatform "u" "id0" "a").run unpricedWorld 40
    obtain ⟨e, step, x, stored, pending, moved, limit, unpriced⟩ :
        ∃ e ∈ (Exchange.serving ⟨true, .empty⟩
          (executeSignalForAccount asciiPlatform "u" "id0" "a").run unpricedWorld 40).1.map
            Prod.snd,
        ∃ x ∈ e.before.db.executions, x.status ≠ .submitted ∧
          (∃ y ∈ e.after.db.executions, y.id = x.id ∧ y.status = .submitted) ∧
          x.orderType = .limit ∧ x.price = none := by
      decide +kernel
    refine ⟨_, _, _, ran, e, step, x, ⟨stored, pending, moved⟩, limit, unpriced, ?_⟩
    intro settings sound
    have priced := sound.limitPriced limit
    rw [unpriced] at priced
    cases priced

end CopyTrading
