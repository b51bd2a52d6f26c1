import CopyTrading.TestnetOrder.SentAmounts

/-!
Blocked symbols under other spellings. The risk check compares upper-cased symbols, while OKX
is sent an instrument id in which the quote is set off by a hyphen: two symbols that the check
keeps apart may name one instrument.
-/

namespace CopyTrading

open Transaction Transaction.Handler DecimalArith

variable {ι : Type} {py : Platform} {requests : ι → SubmitRequest}

/-! ### Instrument ids -/

/-- One symbol is the other one with the quote `USDT` set off by a hyphen. -/
def Respelled (a b : String) : Prop :=
  ∃ stem : String, '-' ∉ stem.toList ∧
    (a = stem ++ "USDT" ∧ b = stem ++ "-USDT" ∨ b = stem ++ "USDT" ∧ a = stem ++ "-USDT")

theorem okxSymbol_hyphened {symbol : String} (hyphen : '-' ∈ (py.upper symbol).toList) :
    okxSymbol py symbol = py.upper symbol := by
  unfold okxSymbol
  exact if_pos hyphen

theorem okxSymbol_quoted {symbol stem : String} (plain : '-' ∉ stem.toList)
    (spelled : py.upper symbol = stem ++ "USDT") : okxSymbol py symbol = stem ++ "-USDT" := by
  have hyphen : '-' ∉ (py.upper symbol).toList := by simpa [spelled] using plain
  have quoted : "USDT".toList <:+ (py.upper symbol).toList := ⟨stem.toList, by simp [spelled]⟩
  unfold okxSymbol
  rw [if_neg hyphen, if_pos (List.isSuffixOf_iff_suffix.mpr quoted), spelled]
  simp

/-- A symbol is its own instrument id, or its quote is set off. -/
theorem okxSymbol_cases (py : Platform) (symbol : String) :
    okxSymbol py symbol = py.upper symbol ∨
      ∃ stem : String, '-' ∉ stem.toList ∧ py.upper symbol = stem ++ "USDT" := by
  by_cases hyphen : '-' ∈ (py.upper symbol).toList
  · exact .inl (okxSymbol_hyphened hyphen)
  by_cases quoted : "USDT".toList <:+ (py.upper symbol).toList
  · obtain ⟨stem, spelled⟩ := quoted
    refine .inr ⟨String.ofList stem, ?_, ?_⟩
    · rw [← spelled] at hyphen
      rw [String.toList_ofList]
      exact fun inside => hyphen (List.mem_append_left _ inside)
    · rw [← String.toList_inj, ← spelled]
      simp
  · left
    unfold okxSymbol
    rw [if_neg hyphen, if_neg (mt List.isSuffixOf_iff_suffix.mp quoted)]

/-- Two symbols name one OKX instrument exactly if they are spelled alike up to the hyphen. -/
theorem okxSymbol_eq_iff (py : Platform) (a b : String) :
    okxSymbol py a = okxSymbol py b ↔
      py.upper a = py.upper b ∨ Respelled (py.upper a) (py.upper b) := by
  constructor
  · intro same
    rcases okxSymbol_cases py a with ha | ⟨stem, plain, ha⟩ <;>
      rcases okxSymbol_cases py b with hb | ⟨stem', plain', hb⟩
    · exact .inl (ha.symm.trans (same.trans hb))
    · rw [ha, okxSymbol_quoted plain' hb] at same
      exact .inr ⟨stem', plain', .inr ⟨hb, same⟩⟩
    · rw [hb, okxSymbol_quoted plain ha] at same
      exact .inr ⟨stem, plain, .inl ⟨ha, same.symm⟩⟩
    · rw [okxSymbol_quoted plain ha, okxSymbol_quoted plain' hb, String.append_left_inj] at same
      subst same
      exact .inl (ha.trans hb.symm)
  · have hyphened : ∀ {symbol stem : String}, py.upper symbol = stem ++ "-USDT" →
        okxSymbol py symbol = stem ++ "-USDT" := by
      intro symbol stem spelled
      rw [okxSymbol_hyphened (by simp [spelled]), spelled]
    rintro (same | ⟨stem, plain, ⟨ha, hb⟩ | ⟨hb, ha⟩⟩)
    · unfold okxSymbol
      rw [same]
    · exact (okxSymbol_quoted plain ha).trans (hyphened hb).symm
    · exact (hyphened ha).trans (okxSymbol_quoted plain hb).symm

/-- The check and the wire agree on an entry: it is in upper case where it is the symbol of the
order but for its case, and OKX does not know it under the other spelling. -/
def ReadAlike (py : Platform) (exchangeName : ExchangeName) (symbol entry : String) : Prop :=
  (py.upper entry = py.upper symbol → py.upper entry = entry) ∧
    (exchangeName = .okx → ¬ Respelled (py.upper entry) (py.upper symbol))

/-- For an entry that the check has told from the order. -/
theorem instrumentId_ne_iff {exchangeName : ExchangeName} {entry symbol : String}
    (allowed : entry ≠ py.upper symbol) :
    instrumentId py exchangeName entry ≠ instrumentId py exchangeName symbol ↔
      ReadAlike py exchangeName symbol entry := by
  have cased : (py.upper entry = py.upper symbol → py.upper entry = entry) ↔
      py.upper entry ≠ py.upper symbol := by
    constructor
    · intro stored same
      exact allowed ((stored same).symm.trans same)
    · intro other same
      exact absurd same other
  unfold ReadAlike
  rw [cased]
  cases exchangeName with
  | okx => simp [instrumentId, okxSymbol_eq_iff]
  | _ => simp [instrumentId]

theorem ExchangeName.value_injective : Function.Injective ExchangeName.value := by
  intro a b
  cases a <;> cases b <;> decide

/-! ### The settings an order was weighed with -/

/-- The settings of the account let the order pass, and are stored. -/
structure WeighedWith (py : Platform) (req : SubmitRequest) (row : OrderExecution) (db : Db)
    (adm : Admission py req) (settings : RiskSetting) : Prop where
  stored : settings ∈ db.riskSettings
  accountId : settings.exchangeAccountId = req.payload.exchangeAccountId
  rowOf : SubmissionRow adm row
  passed : RiskPassed adm.context.account settings (submissionRiskInput py adm.context) true

/-- An order is committed as `SUBMITTED` only by the move that has weighed it. -/
theorem SubmitMove.weighed_of_submitted {req : SubmitRequest} {stage stage' : SubmitStage py req}
    {work : Work} {before after : World} {row : OrderExecution}
    (move : SubmitMove py req stage (.commit work before after) stage') (settled : stage ≠ .lost)
    (inserted : row ∈ work.executions) (status : row.status = .submitted) :
    ∃ adm settings, stage = .weighed adm settings ∧ stage'.row? = some row ∧
      SubmissionRow adm row ∧ RiskPassed adm.context.account settings (submissionRiskInput py adm.context) true := by
  have none : ∀ {change : Option (String × OrderExecutionStatus)},
      TradingWork work [] change [] → False := by
    intro change trading
    rw [trading.executions] at inserted
    cases inserted
  cases move with
  | idle quiet => cases quiet
  | wander => exact absurd rfl settled
  | settle trading => exact (none trading).elim
  | accept write | failSent write | fail write => exact (none write.trading).elim
  | reject submission rejected =>
    rw [submission.trading.executions, List.mem_singleton] at inserted
    rw [inserted, rejected] at status
    cases status
  | submit submission _ passed =>
    rw [submission.trading.executions, List.mem_singleton] at inserted
    subst inserted
    exact ⟨_, _, rfl, rfl, submission.rowOf, passed⟩

theorem weighed_of_run [DecidableEq ι] {world s : World} {trace : Trace backend ι}
    {stages : ∀ i, SubmitStage py (requests i)}
    (run : Protocol.Run (fun i => submitProtocol py (requests i)) semantics (fun _ => .start) world
      trace stages s) {i : ι} {work : Work} {before after : World} {row : OrderExecution}
    (committed : (i, (.commit work before after : Event backend)) ∈ trace)
    (inserted : row ∈ work.executions) (status : row.status = .submitted) :
    (stages i).row? = some row ∧
      ∃ adm settings, WeighedWith py (requests i) row after.db adm settings := by
  let Known : Trace backend ι → (∀ i, SubmitStage py (requests i)) → Prop := fun trace stages =>
    ∀ i work before after, (i, (.commit work before after : Event backend)) ∈ trace →
      ∀ row ∈ work.executions, row.status = .submitted → (stages i).row? = some row ∧
        ∃ adm settings, WeighedWith py (requests i) row after.db adm settings
  have known := run.invariant
    (fun trace stages (s : World) => SubmitInv requests world.db stages s.db ∧ Known trace stages)
    ⟨.start, fun _ _ _ _ h => by cases h⟩ ?_
  · exact known.2 i work before after committed row inserted status
  intro trace stages j e stage' ⟨inv, known⟩ move sound
  have effect := move.effect sound (inv.notLost j)
  refine ⟨inv.step move sound, fun i work before after committed row inserted status => ?_⟩
  rcases List.mem_append.mp committed with earlier | last
  · obtain ⟨hrow, weighed⟩ := known i work before after earlier row inserted status
    refine ⟨?_, weighed⟩
    by_cases hj : i = j
    · subst hj
      rw [Function.update_self]
      exact effect.row_kept hrow
    · rwa [Function.update_of_ne hj]
  · have same := List.mem_singleton.mp last
    cases same
    obtain ⟨adm, settings, weighed, created, rowOf, passed⟩ :=
      move.weighed_of_submitted (inv.notLost j) inserted status
    obtain ⟨stored, accountId⟩ := inv.weighed j adm settings weighed
    rw [Function.update_self]
    exact ⟨created, adm, settings, effect.riskSettings_kept stored, accountId, rowOf, passed⟩

/-! ### Sample runs -/

/-- An order for `BTCUSDT` on an OKX account that blocks the symbols. -/
def okxRun (blocked : List String) : Trace backend Unit ×
    Config backend fun _ : Unit => Except Exc TestnetOrderSubmitResponse × Session :=
  Config.replay semantics (environment takingExchange) 0 (List.replicate 25 ())
    (submitting asciiPlatform (fun _ => wholeOrder) (approvedWorld .okx "BTCUSDT" blocked))

theorem okxRun_reaches (blocked : List String) :
    Config.Run semantics (submitting asciiPlatform (fun _ : Unit => wholeOrder)
      (approvedWorld .okx "BTCUSDT" blocked)) (okxRun blocked).1 (okxRun blocked).2 :=
  Config.replay_reaches (environment_allowed takingExchange) _ _ _

/-- An OKX order is committed as `SUBMITTED` while the account `a` blocks the symbols. -/
def submitsPast (blocked : List String) : Event backend → Bool
  | .commit work _ after =>
      (work.executions.any fun row => row.status = .submitted ∧ row.exchangeName = "okx") &&
      after.db.riskSettings.rows.any fun settings =>
        settings.exchangeAccountId = "a" ∧ settings.blockedSymbols = some blocked
  | _ => false

theorem exists_submission {trace : Trace backend Unit} {blocked : List String}
    (submits : trace.any (fun e => submitsPast blocked e.2) = true) :
    ∃ work before after row settings, ((), (.commit work before after : Event backend)) ∈ trace ∧
      row ∈ work.executions ∧ row.status = .submitted ∧ row.exchangeName = "okx" ∧
      settings ∈ after.db.riskSettings ∧ settings.exchangeAccountId = "a" ∧
      settings.blockedSymbols = some blocked := by
  obtain ⟨⟨i, e⟩, mem, submitted⟩ := List.any_eq_true.mp submits
  cases e with
  | commit work before after =>
    simp only [submitsPast, Bool.and_eq_true, List.any_eq_true, decide_eq_true_eq] at submitted
    obtain ⟨⟨row, inserted, status, exchangeName⟩, settings, stored, accountId, blocks⟩ := submitted
    exact ⟨work, before, after, row, settings, mem, inserted, status, exchangeName, stored,
      accountId, blocks⟩
  | _ => cases submitted

/-! ### The guarantee -/

/-- For an order that was let through, and the settings that are stored then: every blocked
entry names another instrument on the wire exactly if the check reads the entries as the wire
does. -/
theorem blocked_symbols_hold_iff [DecidableEq ι] {world : World} {trace : Trace backend ι}
    {c : Config backend fun _ : ι => Except Exc TestnetOrderSubmitResponse × Session}
    (run : Config.Run semantics (submitting py requests world) trace c) {i : ι} {work : Work}
    {before after : World} {row : OrderExecution} {settings : RiskSetting}
    (committed : (i, (.commit work before after : Event backend)) ∈ trace)
    (inserted : row ∈ work.executions) (status : row.status = .submitted)
    (stored : settings ∈ after.db.riskSettings)
    (accountId : settings.exchangeAccountId = (requests i).payload.exchangeAccountId) :
    ∃ exchangeName blocked, row.exchangeName = ExchangeName.value exchangeName ∧
      settings.blockedSymbols = some blocked ∧
      (∀ prepared, Sends trace i prepared → prepared.fields.lookup (instrumentField exchangeName) =
        some (instrumentId py exchangeName (requests i).payload.symbol)) ∧
      ((∀ entry ∈ blocked, instrumentId py exchangeName entry ≠
          instrumentId py exchangeName (requests i).payload.symbol) ↔
        ∀ entry ∈ blocked, ReadAlike py exchangeName (requests i).payload.symbol entry) := by
  obtain ⟨stages, tracked, -⟩ := submitting_tracked run
  obtain ⟨hrow, adm, weighedSettings, weighed⟩ := weighed_of_run tracked committed inserted status
  have same : weighedSettings = settings :=
    Table.eq_of_conflict weighed.stored stored (weighed.accountId.trans accountId.symm)
  subst same
  obtain ⟨blocked, hblocked, allowed⟩ := weighed.passed.allowed
  have symbol : (submissionRiskInput py adm.context).symbol =
      py.upper (requests i).payload.symbol := by
    unfold submissionRiskInput
    rw [adm.order]
    rfl
  rw [symbol] at allowed
  refine ⟨adm.context.account.exchangeName, blocked, weighed.rowOf.exchangeName, hblocked, ?_, ?_⟩
  · intro prepared sent
    obtain ⟨adm', row', rowOf', prepares, hrow'⟩ := sent_of_run tracked sent
    obtain rfl := Option.some.inj (hrow.symm.trans hrow')
    have sameExchange : adm'.context.order.exchangeName = adm.context.account.exchangeName := by
      rw [adm'.order]
      exact ExchangeName.value_injective
        (rowOf'.exchangeName.symm.trans weighed.rowOf.exchangeName)
    have read := prepares.instrumentId
    rw [sameExchange, adm'.order] at read
    exact read
  · refine forall₂_congr fun entry hentry => instrumentId_ne_iff ?_
    rintro rfl
    exact allowed hentry

/-- An order for `BTCUSDT` on an account that blocks `ETH-USDT`. -/
theorem blocked_symbols_hold_iff_other :
    ∃ settings : RiskSetting, settings.blockedSymbols = some ["ETH-USDT"] ∧
      ∀ entry ∈ ["ETH-USDT"], instrumentId asciiPlatform .okx entry ≠
        instrumentId asciiPlatform .okx "BTCUSDT" := by
  have submits : (okxRun ["ETH-USDT"]).1.any (fun e => submitsPast ["ETH-USDT"] e.2) = true := by
    decide +kernel
  obtain ⟨work, before, after, row, settings, committed, inserted, status, okx, stored, accountId,
    blocks⟩ := exists_submission submits
  obtain ⟨exchangeName, blocked, sameExchange, hblocked, -, exact_⟩ :=
    blocked_symbols_hold_iff (okxRun_reaches ["ETH-USDT"]) committed inserted status stored accountId
  obtain rfl := Option.some.inj (blocks.symm.trans hblocked)
  obtain rfl : exchangeName = .okx := ExchangeName.value_injective (sameExchange.symm.trans okx)
  refine ⟨settings, blocks, exact_.mpr fun entry hentry => ?_⟩
  rw [List.mem_singleton.mp hentry]
  constructor
  · decide
  · rintro - respelled
    exact absurd ((okxSymbol_eq_iff asciiPlatform "ETH-USDT" "BTCUSDT").mpr (.inr respelled))
      (by decide)

/-- An account that blocks `BTC-USDT` orders it as `BTCUSDT`. -/
theorem blocked_symbol_ordered :
    ∃ trace c work before after row settings,
      Config.Run semantics (submitting asciiPlatform (fun _ : Unit => wholeOrder)
        (approvedWorld .okx "BTCUSDT" ["BTC-USDT"])) trace c ∧
      ((), (.commit work before after : Event backend)) ∈ trace ∧
      row ∈ work.executions ∧ row.status = .submitted ∧ row.exchangeName = "okx" ∧
      settings ∈ after.db.riskSettings ∧ settings.blockedSymbols = some ["BTC-USDT"] ∧
      instrumentId asciiPlatform .okx "BTC-USDT" =
        instrumentId asciiPlatform .okx wholeOrder.payload.symbol ∧
      (returned (c.client ())).map (·.orderStatus) = some .accepted := by
  have submits : (okxRun ["BTC-USDT"]).1.any (fun e => submitsPast ["BTC-USDT"] e.2) = true := by
    decide +kernel
  obtain ⟨work, before, after, row, settings, committed, inserted, status, okx, stored, -, blocks⟩ :=
    exists_submission submits
  exact ⟨_, _, work, before, after, row, settings, okxRun_reaches ["BTC-USDT"], committed, inserted,
    status, okx, stored, blocks, by decide, by decide +kernel⟩

end CopyTrading
