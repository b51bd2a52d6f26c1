import CopyTrading.AccountState.Guarantees

/-!
What a synchronized event writes fits the ledger. Every quantity of an entry is checked against
the columns; a sum or a difference is made afterwards, in a context of 28 digits. Where the
event is accepted the context has not rounded: a total of Binance that would lose a digit does
not fit its column, and the flush refuses the event.
-/

namespace CopyTrading

open Transaction Transaction.Handler DecimalArith Fallible

/-! ### The arithmetic of an entry -/

/-- The decimal number that the value spells. -/
def Spells (py : Platform) (value : Json) (number : Decimal) : Prop :=
  DecimalLiteral.read py (py.strOf value) = some (.finite number)

/-- The numbers made from a balance entry keep every digit. -/
def BalanceUnrounded (py : Platform) : ExchangeName → List (String × Json) → Prop
  | .binance, entry => ∀ free locked, Spells py (Json.get entry "f") free →
      Spells py (Json.get entry "l") locked →
      decimalAdd free locked = Decimal.addExact free locked
  | .bybit, entry => ∀ total locked, Spells py (Json.get entry "walletBalance") total →
      Spells py ((Json.lookup "locked" entry).getD (.str "0")) locked →
      decimalSub total locked = Decimal.addExact total locked.neg
  | .okx, entry => ∀ available locked, Spells py (Json.get entry "availBal") available →
      Spells py ((Json.lookup "frozenBal" entry).getD (.str "0")) locked →
      decimalAdd available locked = Decimal.addExact available locked
  | .mock, _ => True

/-- The number made from a position entry keeps every digit. -/
def PositionUnrounded (py : Platform) : ExchangeName → List (String × Json) → Prop
  | .bybit, entry => ∀ size, Spells py (Json.get entry "size") size → decimalNeg size = size.neg
  | .binance, _ | .okx, _ | .mock, _ => True

section entries

variable {py : Platform} {field : String} {value : Json} {entry : List (String × Json)}
  {exchangeName : ExchangeName}

theorem Spells.eq {a b : Decimal} (first : Spells py value a) (second : Spells py value b) :
    a = b := by
  have same := first.symm.trans second
  injection same with same
  injection same

theorem spells_of_quantityOf {nonnegative : Bool} {d : Decimal}
    (checked : quantityOf py field nonnegative value = .ok d) : Spells py value d := by
  unfold quantityOf at checked
  split at checked
  · cases checked
  · next quantity read =>
    split at checked
    · cases checked
    · split at checked
      · cases checked
      · split at checked
        · cases checked
        · cases checked
          exact read
  · cases checked

/-- Binance: the column stores the total, so the context has not rounded it. -/
theorem unrounded_binanceBalance {update : BalanceStateUpdate} {columns : BalanceColumns}
    (decoded : binanceBalance py entry = .ok update) (bound : update.columns = .ok columns) :
    BalanceUnrounded py .binance entry := by
  obtain ⟨available, havailable, decoded⟩ := bind_eq_ok.mp decoded
  obtain ⟨locked, hlocked, decoded⟩ := bind_eq_ok.mp decoded
  obtain ⟨asset, -, decoded⟩ := bind_eq_ok.mp decoded
  cases decoded
  obtain ⟨-, -, -, boundTotal⟩ := BalanceStateUpdate.columns_eq_ok bound
  obtain ⟨-, fitsAvailable, -⟩ := quantityOf_spec havailable
  obtain ⟨-, fitsLocked, -⟩ := quantityOf_spec hlocked
  intro free frozen isFree isFrozen
  obtain rfl := isFree.eq (spells_of_quantityOf havailable)
  obtain rfl := isFrozen.eq (spells_of_quantityOf hlocked)
  unfold bindQuantity at boundTotal
  split at boundTotal
  · next stored => exact Numeric.add_of_ofDecimal? (by decide) fitsAvailable.places fitsLocked.places stored
  · cases boundTotal

/-- Bybit: a difference of nonnegative numbers is not above the total. -/
theorem unrounded_bybitBalance {update : BalanceStateUpdate}
    (decoded : bybitBalance py entry = .ok update) : BalanceUnrounded py .bybit entry := by
  obtain ⟨total, htotal, decoded⟩ := bind_eq_ok.mp decoded
  obtain ⟨locked, hlocked, decoded⟩ := bind_eq_ok.mp decoded
  obtain ⟨-, fitsTotal, -⟩ := quantityOf_spec htotal
  obtain ⟨-, fitsLocked, nonnegLocked⟩ := quantityOf_spec hlocked
  split at decoded
  · cases decoded
  · next covered =>
    intro whole frozen isWhole isFrozen
    obtain rfl := isWhole.eq (spells_of_quantityOf htotal)
    obtain rfl := isFrozen.eq (spells_of_quantityOf hlocked)
    have covered : frozen.toRat ≤ whole.toRat := Decimal.not_lt_iff.mp covered
    have small : |whole.toRat - frozen.toRat| < (10 : ℚ) ^ 18 := by
      rw [abs_of_nonneg (sub_nonneg.mpr covered)]
      linarith [nonnegLocked rfl, lt_of_abs_lt fitsTotal.bounded]
    exact Decimal.sub_of_bounded (by decide) fitsTotal.places fitsLocked.places small

/-- OKX: the sum that is compared is not above the total. -/
theorem unrounded_okxBalance {update : BalanceStateUpdate}
    (decoded : okxBalance py entry = .ok update) : BalanceUnrounded py .okx entry := by
  obtain ⟨available, havailable, decoded⟩ := bind_eq_ok.mp decoded
  obtain ⟨locked, hlocked, decoded⟩ := bind_eq_ok.mp decoded
  obtain ⟨total, htotal, decoded⟩ := bind_eq_ok.mp decoded
  obtain ⟨-, fitsAvailable, nonnegAvailable⟩ := quantityOf_spec havailable
  obtain ⟨-, fitsLocked, nonnegLocked⟩ := quantityOf_spec hlocked
  obtain ⟨-, fitsTotal, -⟩ := quantityOf_spec htotal
  split at decoded
  · cases decoded
  · next covered =>
    intro free frozen isFree isFrozen
    obtain rfl := isFree.eq (spells_of_quantityOf havailable)
    obtain rfl := isFrozen.eq (spells_of_quantityOf hlocked)
    exact Decimal.add_of_not_lt (by decide) fitsAvailable.places fitsLocked.places
      (add_nonneg (nonnegAvailable rfl) (nonnegLocked rfl)) fitsTotal covered

theorem unrounded_balanceOfEntry {update : BalanceStateUpdate} {columns : BalanceColumns}
    (decoded : balanceOfEntry py exchangeName entry = .ok update)
    (bound : update.columns = .ok columns) : BalanceUnrounded py exchangeName entry := by
  cases exchangeName with
  | binance => exact unrounded_binanceBalance decoded bound
  | bybit => exact unrounded_bybitBalance decoded
  | okx => exact unrounded_okxBalance decoded
  | mock => trivial

/-- Bybit: the sign changes no digit. -/
theorem unrounded_positionOfEntry {update : PositionStateUpdate}
    (decoded : positionOfEntry py exchangeName entry = .ok update) :
    PositionUnrounded py exchangeName entry := by
  cases exchangeName with
  | bybit =>
    obtain ⟨size, hsize, -⟩ := bind_eq_ok.mp decoded
    obtain ⟨-, fits, -⟩ := quantityOf_spec hsize
    intro number isNumber
    obtain rfl := isNumber.eq (spells_of_quantityOf hsize)
    have fits' : number.neg.Fits 18 10 := by
      constructor
      · exact fits.places.neg
      · rw [Decimal.toRat_neg, abs_neg]
        exact fits.bounded
    exact fits'.round (by decide)
  | binance | okx | mock => trivial

end entries

/-! ### What an accepted event writes -/

/-- The database refuses what it would refuse without the upserts. -/
theorem Db.flush_before_balances {ε : Type} {upserts : Upserts Balance ε} {entries : List ε}
    {work : Work} {db after : Db}
    (flushed : db.flush (work.withBalances (upserts.pending db.balances entries
      ⟨work.balanceChanges, work.balances⟩)) = .ok after) :
    ∃ before, db.flush work = .ok before := by
  obtain ⟨_, rest, -, others, -⟩ := Db.flush_iff_balances.mp flushed
  have rows : after.balances.rows = (upserts.pending db.balances entries
      ⟨work.balanceChanges, work.balances⟩).rows db.balances := (Db.rows_of_flush flushed).1
  have distinct := @Upserts.distinct_of_pending _ _ _ upserts entries db.balances
    ⟨work.balanceChanges, work.balances⟩ (rows ▸ after.balances.distinct)
  obtain ⟨balances', inserted'⟩ := @Table.insertAll_of_distinct _ _
    (db.balances.writeBack work.balanceChanges) work.balances distinct
  exact ⟨_, Db.flush_iff_balances.mpr ⟨balances', rest, inserted', others, rfl⟩⟩

theorem Db.flush_before_positions {ε : Type} {upserts : Upserts Position ε} {entries : List ε}
    {work : Work} {db after : Db}
    (flushed : db.flush (work.withPositions (upserts.pending db.positions entries
      ⟨work.positionChanges, work.positions⟩)) = .ok after) :
    ∃ before, db.flush work = .ok before := by
  obtain ⟨_, rest, -, others, -⟩ := Db.flush_iff_positions.mp flushed
  have rows : after.positions.rows = (upserts.pending db.positions entries
      ⟨work.positionChanges, work.positions⟩).rows db.positions := (Db.rows_of_flush flushed).2
  have distinct := @Upserts.distinct_of_pending _ _ _ upserts entries db.positions
    ⟨work.positionChanges, work.positions⟩ (rows ▸ after.positions.distinct)
  obtain ⟨positions', inserted'⟩ := @Table.insertAll_of_distinct _ _
    (db.positions.writeBack work.positionChanges) work.positions distinct
  exact ⟨_, Db.flush_iff_positions.mpr ⟨positions', rest, inserted', others, rfl⟩⟩

section guarantee

variable {py : Platform} {userId exchangeAccountId : String} {event : TestnetUserStreamEvent}
  {s s' : Session} {db before after : Db} {result : TestnetAccountStateSyncResult}

/-- A flush that accepted the upserts would have accepted what was pending before. -/
theorem SyncEnds.existing
    (ends : SyncEnds py userId exchangeAccountId event s db (.ok result) s')
    (kind : event.eventType = .balance ∨ event.eventType = .position) :
    ∃ before, db.flush s.pending = .ok before := by
  generalize outcome : (Except.ok result : Except Exc TestnetAccountStateSyncResult) = ended at ends
  cases ends with
  | raised => cases outcome
  | ignored _ _ other =>
    rcases kind with kind | kind <;> rcases other with other | other <;> cases kind.symm.trans other
  | @balances s₁ _ _ _ reloaded _ _ _ _ flushed =>
    split at flushed
    · next written =>
      obtain ⟨after, hafter⟩ := isOk_iff.mp written
      rw [← reloaded.pending]
      exact @Db.flush_before_balances _ _ _ s₁.pending _ _ hafter
    · cases outcome.trans flushed
  | @positions s₁ _ _ _ reloaded _ _ _ _ flushed =>
    split at flushed
    · next written =>
      obtain ⟨after, hafter⟩ := isOk_iff.mp written
      rw [← reloaded.pending]
      exact @Db.flush_before_positions _ _ _ s₁.pending _ _ hafter
    · cases outcome.trans flushed

/-- A number that a column of quantities holds to the last digit. -/
def FitsLedger (number : ℚ) : Prop := Numeric.Storable 18 10 number

theorem fitsLedger_value (quantity : Quantity) : FitsLedger quantity.value :=
  @Numeric.storable_value 18 10 quantity

structure BalanceState.FitsLedger (balance : BalanceState) : Prop where
  available : CopyTrading.FitsLedger balance.available
  locked : CopyTrading.FitsLedger balance.locked
  total : CopyTrading.FitsLedger balance.total

/-- What the rows show fits, since the rows do. -/
theorem WritesBalances.fitsLedger {balances : List BalanceState} {balance : BalanceState}
    (writes : WritesBalances userId exchangeAccountId balances before after)
    (reported : balance ∈ balances) : balance.FitsLedger := by
  obtain ⟨row, stored, named⟩ := writes.rows.written balance reported
  have shown := writes.rows.stated row stored balance reported named
  constructor
  · exact shown.available ▸ fitsLedger_value row.availableQuantity
  · exact shown.locked ▸ fitsLedger_value row.lockedQuantity
  · exact shown.total ▸ fitsLedger_value row.totalQuantity

theorem WritesPositions.fitsLedger {positions : List PositionState} {position : PositionState}
    (writes : WritesPositions userId exchangeAccountId positions before after)
    (reported : position ∈ positions) : FitsLedger position.quantity := by
  obtain ⟨row, stored, named⟩ := writes.rows.written position reported
  have shown := writes.rows.stated row stored position reported named
  exact shown ▸ fitsLedger_value row.quantity

/-- The quantities of the event are written, exact numbers that the ledger holds. -/
def WritesExactly (py : Platform) (userId exchangeAccountId : String)
    (event : TestnetUserStreamEvent) (before after : Db) : Prop :=
  match event.eventType with
  | .balance => ∃ balances, SaysBalances py event.exchangeName event.rawPayload balances ∧
      (∀ balance ∈ balances, balance.FitsLedger) ∧
      WritesBalances userId exchangeAccountId balances before after
  | .position => ∃ positions, SaysPositions py event.exchangeName event.rawPayload positions ∧
      (∀ position ∈ positions, FitsLedger position.quantity) ∧
      WritesPositions userId exchangeAccountId positions before after
  | .order | .unknown => after = before

/-- No entry of the event was rounded. -/
def TestnetUserStreamEvent.Unrounded (py : Platform) (event : TestnetUserStreamEvent) : Prop :=
  match event.eventType with
  | .balance => ∃ entries, balanceEntries event.exchangeName event.rawPayload = some entries ∧
      ∀ entry ∈ entries, BalanceUnrounded py event.exchangeName entry
  | .position => ∃ entries, positionEntries event.exchangeName event.rawPayload = some entries ∧
      ∀ entry ∈ entries, PositionUnrounded py event.exchangeName entry
  | .order | .unknown => True

/-- Decoded entries whose quantities the columns take were not rounded. -/
theorem Synchronized.unrounded {account : Option ExchangeAccount}
    {outcome : Except Exc TestnetAccountStateSyncResult} (accepted : outcome = .ok result)
    (sync : Synchronized py userId exchangeAccountId event account before after outcome) :
    event.Unrounded py := by
  unfold TestnetUserStreamEvent.Unrounded
  cases sync with
  | raised => cases accepted
  | ignored _ other => rcases other with kind | kind <;> rw [kind] <;> trivial
  | balances _ kind written =>
    obtain ⟨⟨entries, listed, decoded⟩, -⟩ := balanceUpdates_entries written.decoded
    rw [kind]
    exact ⟨entries, listed, forall_of_mapM (fun _ _ _ => unrounded_balanceOfEntry) decoded
      written.bound⟩
  | positions _ kind written =>
    obtain ⟨⟨entries, listed, decoded⟩, -⟩ := positionUpdates_entries written.decoded
    rw [kind]
    exact ⟨entries, listed, forall_of_mapM
      (fun _ _ _ decoded _ => unrounded_positionOfEntry decoded) decoded written.bound⟩

theorem SyncOutcome.writesExactly {account : Option ExchangeAccount}
    (outcome : SyncOutcome py userId exchangeAccountId event account before after (.ok result)) :
    WritesExactly py userId exchangeAccountId event before after := by
  obtain ⟨-, wrote⟩ := outcome
  unfold WritesExactly
  cases kind : event.eventType with
  | balance =>
    rw [kind] at wrote
    obtain ⟨balances, -, reported, -, writes⟩ := wrote
    exact ⟨balances, reported, fun _ => writes.fitsLedger, writes⟩
  | position =>
    rw [kind] at wrote
    obtain ⟨positions, -, reported, writes⟩ := wrote
    exact ⟨positions, reported, fun _ => writes.fitsLedger, writes⟩
  | order | unknown =>
    rw [kind] at wrote
    exact wrote.2

/-- Every quantity that an accepted event writes is the exact number of its payload, and the
ledger holds it to the last digit; the context of the arithmetic has rounded nothing. -/
theorem synced_quantities_fit {w w' : World} {trace : List (Event backend)}
    (kind : event.eventType = .balance ∨ event.eventType = .position)
    (ran : Prog.Run semantics (syncTestnetAccountStateEvent py userId exchangeAccountId event s) w
      trace (.done (.ok result, s')) w') :
    ∃ before after, w.db.flush s.pending = .ok before ∧ w'.db.flush s'.pending = .ok after ∧
      WritesExactly py userId exchangeAccountId event before after ∧ event.Unrounded py := by
  obtain ⟨rfl, ends⟩ :=
    (ran.of_alone (@alone_syncTestnetAccountStateEvent _ (fun _ => True) s w _ _ py event)).2
  obtain ⟨before, existing⟩ := ends.existing kind
  obtain ⟨after, written, sync⟩ := ends.synchronized existing fun h => (nomatch h)
  have outcome := sync.syncOutcome fun h => (nomatch h)
  exact ⟨before, after, existing, written, outcome.writesExactly, sync.unrounded rfl⟩

end guarantee

/-- Free and locked units of BTC that fill all 28 digits of the total. -/
def fullBalanceEvent : TestnetUserStreamEvent where
  exchangeName := .binance
  eventType := .balance
  rawPayload := [("B", .arr [.obj [("a", .str "BTC"), ("f", .str "999999999999999999.9999999998"),
    ("l", .str "0.0000000001")]])]

theorem synced_quantities_fit_full :
    ∃ trace s' w' after, Prog.Run semantics
        (syncTestnetAccountStateEvent asciiPlatform "u" "a" fullBalanceEvent {}) testnetWorld trace
        (.done (.ok ⟨.synced, 1, 0⟩, s')) w' ∧
      w'.db.flush s'.pending = .ok after ∧
      WritesExactly asciiPlatform "u" "a" fullBalanceEvent testnetWorld.db after ∧
      fullBalanceEvent.Unrounded asciiPlatform := by
  have ran := Exchange.serving_run ⟨true, .empty⟩
    (syncTestnetAccountStateEvent asciiPlatform "u" "a" fullBalanceEvent {}) testnetWorld 20
  have result : returned ((Exchange.serving ⟨true, .empty⟩
      (syncTestnetAccountStateEvent asciiPlatform "u" "a" fullBalanceEvent {}) testnetWorld
        20).2.client ()) = some ⟨.synced, 1, 0⟩ := by
    decide +kernel
  generalize Exchange.serving ⟨true, .empty⟩ (syncTestnetAccountStateEvent asciiPlatform "u" "a"
    fullBalanceEvent {}) testnetWorld 20 = served at ran result
  obtain ⟨s', done⟩ := done_of_returned result
  rw [done] at ran
  obtain ⟨before, after, existing, written, wrote, unrounded⟩ :=
    synced_quantities_fit (.inl rfl) ran
  obtain rfl := Except.ok.inj (existing.symm.trans (Db.flush_nothing testnetWorld.db))
  exact ⟨_, s', _, after, ran, written, wrote, unrounded⟩

end CopyTrading
