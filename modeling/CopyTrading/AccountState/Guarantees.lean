import CopyTrading.AccountState.Decoding
import CopyTrading.Environment
import CopyTrading.SessionAlone
import CopyTrading.Transaction.Pending

/-!
Synchronizing balances and positions is all or nothing. The rows are those of the open
transaction: what a commit of the session would leave. An event is refused without a change,
ignored without a change, or written as it says; writing it again changes nothing.
-/

namespace CopyTrading

open Transaction Transaction.Handler DecimalArith Fallible

/-! ### Entries of an event as upserts -/

theorem isBalance_iff {userId exchangeAccountId asset : String} {row : Balance} :
    isBalance userId exchangeAccountId asset row = true ↔
      row.userId = userId ∧ row.exchangeAccountId = exchangeAccountId ∧ row.asset = asset :=
  decide_eq_true_iff

theorem isPosition_iff {userId exchangeAccountId symbol : String} {row : Position} :
    isPosition userId exchangeAccountId symbol row = true ↔
      row.userId = userId ∧ row.exchangeAccountId = exchangeAccountId ∧ row.symbol = symbol :=
  decide_eq_true_iff

def balanceUpserts (userId exchangeAccountId : String) : Upserts Balance BalanceColumns where
  named columns := isBalance userId exchangeAccountId columns.asset
  change columns := columns.change
  row columns :=
    { userId, exchangeAccountId, asset := columns.asset
      availableQuantity := columns.change.availableQuantity
      lockedQuantity := columns.change.lockedQuantity
      totalQuantity := columns.change.totalQuantity }
  names columns := by
    refine ⟨fun _ _ => rfl, fun {a b} ha hb => ?_⟩
    obtain ⟨-, accountA, assetA⟩ := isBalance_iff.mp ha
    obtain ⟨-, accountB, assetB⟩ := isBalance_iff.mp hb
    exact congrArg₂ Balance.Key.mk (accountA.trans accountB.symm) (assetA.trans assetB.symm)
  own _ := isBalance_iff.mpr ⟨rfl, rfl, rfl⟩
  determined named := by
    obtain ⟨rfl, rfl, asset⟩ := isBalance_iff.mp named
    rw [← asset]
    rfl

def positionUpserts (userId exchangeAccountId : String) : Upserts Position PositionColumns where
  named columns := isPosition userId exchangeAccountId columns.symbol
  change columns := columns.quantity
  row columns :=
    { userId, exchangeAccountId, symbol := columns.symbol, quantity := columns.quantity }
  names columns := by
    refine ⟨fun _ _ => rfl, fun {a b} ha hb => ?_⟩
    obtain ⟨-, accountA, symbolA⟩ := isPosition_iff.mp ha
    obtain ⟨-, accountB, symbolB⟩ := isPosition_iff.mp hb
    exact congrArg₂ Position.Key.mk (accountA.trans accountB.symm) (symbolA.trans symbolB.symm)
  own _ := isPosition_iff.mpr ⟨rfl, rfl, rfl⟩
  determined named := by
    obtain ⟨rfl, rfl, symbol⟩ := isPosition_iff.mp named
    rw [← symbol]
    rfl

theorem apart_balances {userId exchangeAccountId : String} {columns : List BalanceColumns}
    (unique : (columns.map (·.asset)).Nodup) :
    (balanceUpserts userId exchangeAccountId).Apart columns := by
  intro a ha b hb named
  obtain ⟨-, -, asset⟩ := isBalance_iff.mp named
  rw [List.inj_on_of_nodup_map unique hb ha asset]

theorem apart_positions {userId exchangeAccountId : String} {columns : List PositionColumns}
    (unique : (columns.map (·.symbol)).Nodup) :
    (positionUpserts userId exchangeAccountId).Apart columns := by
  intro a ha b hb named
  obtain ⟨-, -, symbol⟩ := isPosition_iff.mp named
  rw [List.inj_on_of_nodup_map unique hb ha symbol]

/-! ### Pending balances and positions -/

section pending

variable {sem : Semantics backend} {Each : Event backend → Prop} {s : Session} {w : World}
  {userId exchangeAccountId : String} {post : Except Exc Unit → Session → World → Prop}

def Session.balancePending (s : Session) : Pending Balance := ⟨s.work.balanceChanges, s.work.balances⟩

def Session.positionPending (s : Session) : Pending Position :=
  ⟨s.work.positionChanges, s.work.positions⟩

def Work.withBalances (work : Work) (pending : Pending Balance) : Work :=
  { work with balances := pending.added, balanceChanges := pending.changes }

def Work.withPositions (work : Work) (pending : Pending Position) : Work :=
  { work with positions := pending.added, positionChanges := pending.changes }

def Session.withBalances (s : Session) (pending : Pending Balance) : Session :=
  { s with work := s.work.withBalances pending }

def Session.withPositions (s : Session) (pending : Pending Position) : Session :=
  { s with work := s.work.withPositions pending }

theorem alone_upsertBalance {columns : BalanceColumns} :
    Alone sem Each (upsertBalance userId exchangeAccountId columns) post s w ↔
      post (.ok ()) (s.withBalances ((balanceUpserts userId exchangeAccountId).pending w.db.balances
        [columns] s.balancePending)) w := by
  unfold upsertBalance Upserts.pending Pending.upsert
  rw [alone_bind, alone_session, andThen_ok, List.foldl_cons, List.foldl_nil]
  by_cases added : s.work.balances.any (isBalance userId exchangeAccountId columns.asset) = true
  · have added' : s.balancePending.added.any
        ((balanceUpserts userId exchangeAccountId).named columns) = true := added
    rw [if_pos added, if_pos added', alone_add]
    exact Iff.rfl
  · have added' : ¬ s.balancePending.added.any
        ((balanceUpserts userId exchangeAccountId).named columns) = true := added
    rw [if_neg added, if_neg added', alone_bind, alone_query, andThen_ok]
    have search : w.db.balances.find?
        ((balanceUpserts userId exchangeAccountId).named columns) =
          w.db.balances.find? (isBalance userId exchangeAccountId columns.asset) := rfl
    rw [search]
    cases w.db.balances.find? (isBalance userId exchangeAccountId columns.asset) with
    | none => exact Iff.rfl
    | some balance => exact Iff.rfl

theorem alone_upsertBalances {columns : List BalanceColumns} :
    Alone sem Each (upsertBalances userId exchangeAccountId columns) post s w ↔
      post (.ok ()) (s.withBalances ((balanceUpserts userId exchangeAccountId).pending w.db.balances
        columns s.balancePending)) w := by
  induction columns generalizing s with
  | nil => exact Iff.rfl
  | cons first rest ih =>
    unfold upsertBalances
    rw [alone_bind, alone_upsertBalance, andThen_ok]
    exact ih

theorem alone_upsertPosition {columns : PositionColumns} :
    Alone sem Each (upsertPosition userId exchangeAccountId columns) post s w ↔
      post (.ok ()) (s.withPositions ((positionUpserts userId exchangeAccountId).pending
        w.db.positions [columns] s.positionPending)) w := by
  unfold upsertPosition Upserts.pending Pending.upsert
  rw [alone_bind, alone_session, andThen_ok, List.foldl_cons, List.foldl_nil]
  by_cases added : s.work.positions.any (isPosition userId exchangeAccountId columns.symbol) = true
  · have added' : s.positionPending.added.any
        ((positionUpserts userId exchangeAccountId).named columns) = true := added
    rw [if_pos added, if_pos added', alone_add]
    exact Iff.rfl
  · have added' : ¬ s.positionPending.added.any
        ((positionUpserts userId exchangeAccountId).named columns) = true := added
    rw [if_neg added, if_neg added', alone_bind, alone_query, andThen_ok]
    have search : w.db.positions.find?
        ((positionUpserts userId exchangeAccountId).named columns) =
          w.db.positions.find? (isPosition userId exchangeAccountId columns.symbol) := rfl
    rw [search]
    cases w.db.positions.find? (isPosition userId exchangeAccountId columns.symbol) with
    | none => exact Iff.rfl
    | some position => exact Iff.rfl

theorem alone_upsertPositions {columns : List PositionColumns} :
    Alone sem Each (upsertPositions userId exchangeAccountId columns) post s w ↔
      post (.ok ()) (s.withPositions ((positionUpserts userId exchangeAccountId).pending
        w.db.positions columns s.positionPending)) w := by
  induction columns generalizing s with
  | nil => exact Iff.rfl
  | cons first rest ih =>
    unfold upsertPositions
    rw [alone_bind, alone_upsertPosition, andThen_ok]
    exact ih

end pending

/-! ### Flushing pending balances and positions -/

section flush

variable {work : Work} {db before after : Db}

theorem Work.applyStop_balances (work : Work) (db : Db) (balances : Table Balance) :
    work.applyStop { db with balances } =
      (work.applyStop db).map fun db => { db with balances } := by
  unfold Work.applyStop
  split
  · rfl
  · unfold StopChange.apply
    dsimp only
    cases db.auditLogs.insert _ <;> rfl

theorem Work.applyStop_positions (work : Work) (db : Db) (positions : Table Position) :
    work.applyStop { db with positions } =
      (work.applyStop db).map fun db => { db with positions } := by
  unfold Work.applyStop
  split
  · rfl
  · unfold StopChange.apply
    dsimp only
    cases db.auditLogs.insert _ <;> rfl

theorem Work.write_iff_balances {mid : Db} : work.write db = some mid ↔
    ∃ balances rest, (db.balances.writeBack work.balanceChanges).insertAll work.balances =
        some balances ∧
      (work.withBalances {}).write db = some rest ∧ mid = { rest with balances } := by
  simp only [Work.write, Work.withBalances, Option.bind_eq_bind, Option.bind_eq_some_iff,
    Option.pure_def, Option.some.injEq, Table.insertAll_nil, Table.writeBack_nil]
  constructor
  · rintro ⟨accounts, h₁, secrets, h₂, risks, h₃, signals, h₄, positions, h₅, balances, h₆,
      executions, h₇, transitions, h₈, logs, h₉, rfl⟩
    exact ⟨balances, _, h₆, ⟨accounts, h₁, secrets, h₂, risks, h₃, signals, h₄, positions, h₅,
      db.balances, rfl, executions, h₇, transitions, h₈, logs, h₉, rfl⟩, rfl⟩
  · rintro ⟨balances, rest, h₆, ⟨accounts, h₁, secrets, h₂, risks, h₃, signals, h₄, positions, h₅,
      _, -, executions, h₇, transitions, h₈, logs, h₉, rfl⟩, rfl⟩
    exact ⟨accounts, h₁, secrets, h₂, risks, h₃, signals, h₄, positions, h₅, balances, h₆,
      executions, h₇, transitions, h₈, logs, h₉, rfl⟩

theorem Work.write_iff_positions {mid : Db} : work.write db = some mid ↔
    ∃ positions rest, (db.positions.writeBack work.positionChanges).insertAll work.positions =
        some positions ∧
      (work.withPositions {}).write db = some rest ∧ mid = { rest with positions } := by
  simp only [Work.write, Work.withPositions, Option.bind_eq_bind, Option.bind_eq_some_iff,
    Option.pure_def, Option.some.injEq, Table.insertAll_nil, Table.writeBack_nil]
  constructor
  · rintro ⟨accounts, h₁, secrets, h₂, risks, h₃, signals, h₄, positions, h₅, balances, h₆,
      executions, h₇, transitions, h₈, logs, h₉, rfl⟩
    exact ⟨positions, _, h₅, ⟨accounts, h₁, secrets, h₂, risks, h₃, signals, h₄, db.positions, rfl,
      balances, h₆, executions, h₇, transitions, h₈, logs, h₉, rfl⟩, rfl⟩
  · rintro ⟨positions, rest, h₅, ⟨accounts, h₁, secrets, h₂, risks, h₃, signals, h₄, _, -,
      balances, h₆, executions, h₇, transitions, h₈, logs, h₉, rfl⟩, rfl⟩
    exact ⟨accounts, h₁, secrets, h₂, risks, h₃, signals, h₄, positions, h₅, balances, h₆,
      executions, h₇, transitions, h₈, logs, h₉, rfl⟩

/-- A flush writes the balances on their own. -/
theorem Db.flush_iff_balances : db.flush work = .ok after ↔
    ∃ balances rest, (db.balances.writeBack work.balanceChanges).insertAll work.balances =
        some balances ∧
      db.flush (work.withBalances {}) = .ok rest ∧ after = { rest with balances } := by
  constructor
  · intro flushed
    obtain ⟨_, written, hstop⟩ := Db.flush_eq_ok.mp flushed
    obtain ⟨balances, mid, hbalances, hmid, rfl⟩ := Work.write_iff_balances.mp written
    rw [Work.applyStop_balances] at hstop
    obtain ⟨rest, hrest, rfl⟩ := Option.map_eq_some_iff.mp hstop
    exact ⟨balances, rest, hbalances, Db.flush_eq_ok.mpr ⟨mid, hmid, hrest⟩, rfl⟩
  · rintro ⟨balances, rest, hbalances, flushed, rfl⟩
    obtain ⟨mid, hmid, hrest⟩ := Db.flush_eq_ok.mp flushed
    refine Db.flush_eq_ok.mpr
      ⟨_, Work.write_iff_balances.mpr ⟨balances, mid, hbalances, hmid, rfl⟩, ?_⟩
    rw [Work.applyStop_balances]
    exact Option.map_eq_some_iff.mpr ⟨rest, hrest, rfl⟩

/-- A flush writes the positions on their own. -/
theorem Db.flush_iff_positions : db.flush work = .ok after ↔
    ∃ positions rest, (db.positions.writeBack work.positionChanges).insertAll work.positions =
        some positions ∧
      db.flush (work.withPositions {}) = .ok rest ∧ after = { rest with positions } := by
  constructor
  · intro flushed
    obtain ⟨_, written, hstop⟩ := Db.flush_eq_ok.mp flushed
    obtain ⟨positions, mid, hpositions, hmid, rfl⟩ := Work.write_iff_positions.mp written
    rw [Work.applyStop_positions] at hstop
    obtain ⟨rest, hrest, rfl⟩ := Option.map_eq_some_iff.mp hstop
    exact ⟨positions, rest, hpositions, Db.flush_eq_ok.mpr ⟨mid, hmid, hrest⟩, rfl⟩
  · rintro ⟨positions, rest, hpositions, flushed, rfl⟩
    obtain ⟨mid, hmid, hrest⟩ := Db.flush_eq_ok.mp flushed
    refine Db.flush_eq_ok.mpr
      ⟨_, Work.write_iff_positions.mpr ⟨positions, mid, hpositions, hmid, rfl⟩, ?_⟩
    rw [Work.applyStop_positions]
    exact Option.map_eq_some_iff.mpr ⟨rest, hrest, rfl⟩

theorem Db.rows_of_flush (flushed : db.flush work = .ok after) :
    after.balances.rows =
        (⟨work.balanceChanges, work.balances⟩ : Pending Balance).rows db.balances ∧
      after.positions.rows =
        (⟨work.positionChanges, work.positions⟩ : Pending Position).rows db.positions := by
  constructor
  · obtain ⟨balances, rest, inserted, -, rfl⟩ := Db.flush_iff_balances.mp flushed
    exact Table.rows_insertAll inserted
  · obtain ⟨positions, rest, inserted, -, rfl⟩ := Db.flush_iff_positions.mp flushed
    exact Table.rows_insertAll inserted

/-- Two flushes that differ in the pending balances. -/
theorem Db.flush_withBalances {pending : Pending Balance} (first : db.flush work = .ok before)
    (second : db.flush (work.withBalances pending) = .ok after) :
    after.balances.rows = pending.rows db.balances ∧
      { after with balances := before.balances } = before := by
  obtain ⟨balances, rest, -, flushed, rfl⟩ := Db.flush_iff_balances.mp first
  obtain ⟨balances', rest', inserted', flushed', rfl⟩ := Db.flush_iff_balances.mp second
  have same : rest' = rest := Except.ok.inj (flushed'.symm.trans flushed)
  subst same
  exact ⟨Table.rows_insertAll inserted', rfl⟩

/-- Pending balances that come to the same rows flush to the same database. -/
theorem Db.flush_same_balances {pending : Pending Balance} (first : db.flush work = .ok before)
    (same : pending.rows db.balances = before.balances.rows) :
    db.flush (work.withBalances pending) = .ok before := by
  obtain ⟨balances, rest, inserted, flushed, rfl⟩ := Db.flush_iff_balances.mp first
  have distinct : (pending.rows db.balances).Pairwise fun a b => ¬ Row.Conflict a b := by
    rw [same]
    exact balances.distinct
  obtain ⟨balances', inserted'⟩ := @Table.insertAll_of_distinct _ _
    (db.balances.writeBack pending.changes) pending.added distinct
  refine Db.flush_iff_balances.mpr ⟨balances', rest, inserted', flushed, ?_⟩
  have rows : balances'.rows = balances.rows := (Table.rows_insertAll inserted').trans same
  rw [Table.ext rows]

theorem Db.flush_withPositions {pending : Pending Position} (first : db.flush work = .ok before)
    (second : db.flush (work.withPositions pending) = .ok after) :
    after.positions.rows = pending.rows db.positions ∧
      { after with positions := before.positions } = before := by
  obtain ⟨positions, rest, -, flushed, rfl⟩ := Db.flush_iff_positions.mp first
  obtain ⟨positions', rest', inserted', flushed', rfl⟩ := Db.flush_iff_positions.mp second
  have same : rest' = rest := Except.ok.inj (flushed'.symm.trans flushed)
  subst same
  exact ⟨Table.rows_insertAll inserted', rfl⟩

theorem Db.flush_same_positions {pending : Pending Position} (first : db.flush work = .ok before)
    (same : pending.rows db.positions = before.positions.rows) :
    db.flush (work.withPositions pending) = .ok before := by
  obtain ⟨positions, rest, inserted, flushed, rfl⟩ := Db.flush_iff_positions.mp first
  have distinct : (pending.rows db.positions).Pairwise fun a b => ¬ Row.Conflict a b := by
    rw [same]
    exact positions.distinct
  obtain ⟨positions', inserted'⟩ := @Table.insertAll_of_distinct _ _
    (db.positions.writeBack pending.changes) pending.added distinct
  refine Db.flush_iff_positions.mpr ⟨positions', rest, inserted', flushed, ?_⟩
  have rows : positions'.rows = positions.rows := (Table.rows_insertAll inserted').trans same
  rw [Table.ext rows]

end flush

/-! ### Synchronizing -/

/-- The account of the user, with the attributes the session shows. -/
def Session.ownedAccount (s : Session) (db : Db) (userId exchangeAccountId : String) :
    Option ExchangeAccount :=
  (db.accounts.find? fun row => row.id = exchangeAccountId ∧ row.userId = userId).map fun row =>
    ((s.accounts.find? (·.loaded.id = row.id)).map Instance.current).getD row

/-- At most clean instances were loaded. -/
structure Reloaded (s s' : Session) (db : Db) : Prop where
  work : s'.work = s.work
  flush : ∀ work : Work, db.flush { work with accountChanges := s'.accounts } =
    db.flush { work with accountChanges := s.accounts }
  executions : s'.executions = s.executions

theorem Reloaded.pending {s s' : Session} {db : Db} (reloaded : Reloaded s s' db) :
    db.flush s'.pending = db.flush s.pending := by
  unfold Session.pending
  rw [reloaded.work, reloaded.executions]
  exact reloaded.flush { s.work with executionChanges := s.executions }

section sync

variable {sem : Semantics backend} {Each : Event backend → Prop} {s : Session} {w : World}
  {userId exchangeAccountId : String} {py : Platform} {event : TestnetUserStreamEvent}

theorem alone_getOwnedAccount
    {post : Except Exc (Option ExchangeAccount) → Session → World → Prop}
    (found : ∀ s', Reloaded s s' w.db →
      post (.ok (s.ownedAccount w.db userId exchangeAccountId)) s' w) :
    Alone sem Each (getOwnedAccount userId exchangeAccountId) post s w := by
  unfold getOwnedAccount
  rw [alone_bind, alone_query, andThen_ok]
  unfold Session.ownedAccount at found
  cases hfind : w.db.accounts.find? fun row => row.id = exchangeAccountId ∧ row.userId = userId with
  | none =>
    rw [hfind] at found
    exact found s ⟨rfl, fun _ => rfl, rfl⟩
  | some row =>
    rw [hfind] at found
    dsimp only
    rw [← bind_pure_comp, alone_bind]
    unfold Session.holdAccount
    rw [alone_bind, alone_session, andThen_ok]
    cases hheld : s.accounts.find? (·.loaded.id = row.id) with
    | some held =>
      rw [Option.map_some, hheld] at found
      exact found s ⟨rfl, fun _ => rfl, rfl⟩
    | none =>
      rw [Option.map_some, hheld] at found
      refine found _ ⟨rfl, fun work => ?_, rfl⟩
      have clean : w.db.accounts.writeBack (s.accounts ++ [⟨row, {}⟩]) =
          w.db.accounts.writeBack s.accounts := by
        refine Table.ext (List.map_congr_left fun old _ => ?_)
        rw [Table.updated_append, Table.updated_cons, Table.updated_nil]
        exact ite_self _
      unfold Db.flush Work.write
      dsimp only
      rw [clean]

/-- The account may be synchronized with events of the exchange. -/
def MaySync (account : Option ExchangeAccount) (exchangeName : ExchangeName) : Prop :=
  ∃ row, account = some row ∧ row.isActive = true ∧ row.accountMode = .testnet ∧
    row.exchangeName = exchangeName

theorem maySync_of_required {account : Option ExchangeAccount} {exchangeName : ExchangeName}
    (required : requireTestnetAccount account exchangeName = .ok ()) :
    MaySync account exchangeName := by
  unfold requireTestnetAccount at required
  split at required
  · cases required
  · next row =>
    split at required
    · cases required
    · next active =>
      split at required
      · cases required
      · next testnet =>
        split at required
        · cases required
        · next same => exact ⟨row, rfl, by simpa using active, by simpa using testnet, by simpa using same⟩

theorem required_of_maySync {account : Option ExchangeAccount} {exchangeName : ExchangeName}
    (allowed : MaySync account exchangeName) : requireTestnetAccount account exchangeName = .ok () := by
  obtain ⟨row, rfl, active, testnet, same⟩ := allowed
  unfold requireTestnetAccount
  dsimp only
  rw [if_neg (not_not.mpr active), if_neg (not_not.mpr testnet), if_neg (not_not.mpr same)]

/-- The event says balances or positions, all entries and without repetition, or is of a kind
that is ignored. -/
def TestnetUserStreamEvent.Readable (py : Platform) (event : TestnetUserStreamEvent) : Prop :=
  match event.eventType with
  | .balance => ∃ balances, SaysBalances py event.exchangeName event.rawPayload balances ∧
      ∀ balance ∈ balances, balance.Sound
  | .position => ∃ positions, SaysPositions py event.exchangeName event.rawPayload positions
  | .order | .unknown => True

/-- Why an event is refused. -/
def Refused (py : Platform) (event : TestnetUserStreamEvent) (account : Option ExchangeAccount)
    (exc : Exc) : Prop :=
  exc = .dataError ∨ ¬ (MaySync account event.exchangeName ∧ event.Readable py)

theorem refused_of_required {py : Platform} {event : TestnetUserStreamEvent}
    {account : Option ExchangeAccount} {exc : Exc}
    (refused : requireTestnetAccount account event.exchangeName = .error exc) :
    Refused py event account exc := by
  refine .inr fun ⟨allowed, _⟩ => ?_
  rw [required_of_maySync allowed] at refused
  cases refused

theorem refused_of_balanceUpdates {py : Platform} {event : TestnetUserStreamEvent}
    {account : Option ExchangeAccount} {exc : Exc} (balance : event.eventType = .balance)
    (refused : balanceUpdates py event.exchangeName event.rawPayload = .error exc) :
    Refused py event account exc := by
  refine .inr fun ⟨_, readable⟩ => ?_
  unfold TestnetUserStreamEvent.Readable at readable
  rw [balance] at readable
  obtain ⟨balances, reported, sound⟩ := readable
  obtain ⟨updates, decoded⟩ := balanceUpdates_of reported sound
  rw [decoded] at refused
  cases refused

theorem refused_of_positionUpdates {py : Platform} {event : TestnetUserStreamEvent}
    {account : Option ExchangeAccount} {exc : Exc} (position : event.eventType = .position)
    (refused : positionUpdates py event.exchangeName event.rawPayload = .error exc) :
    Refused py event account exc := by
  refine .inr fun ⟨_, readable⟩ => ?_
  unfold TestnetUserStreamEvent.Readable at readable
  rw [position] at readable
  obtain ⟨positions, reported⟩ := readable
  obtain ⟨updates, decoded⟩ := positionUpdates_of reported
  rw [decoded] at refused
  cases refused

theorem dataError_of_bindQuantity {value : Decimal} {exc : Exc}
    (refused : bindQuantity value = .error exc) : exc = .dataError := by
  unfold bindQuantity at refused
  split at refused
  · cases refused
  · cases refused
    rfl

theorem dataError_of_mapM {α β : Type} {f : α → Except Exc β} {entries : List α} {exc : Exc}
    (each : ∀ a exc, f a = .error exc → exc = .dataError)
    (refused : entries.mapM f = .error exc) : exc = .dataError := by
  induction entries with
  | nil => cases refused
  | cons a rest ih =>
    rw [List.mapM_cons, bind_eq_error] at refused
    rcases refused with first | ⟨b, -, refused⟩
    · exact each a exc first
    · rw [bind_eq_error] at refused
      rcases refused with others | ⟨bs, -, done⟩
      · exact ih others
      · cases done

theorem dataError_of_balanceColumns {updates : List BalanceStateUpdate} {exc : Exc}
    (refused : updates.mapM BalanceStateUpdate.columns = .error exc) : exc = .dataError := by
  refine dataError_of_mapM (fun update exc refused => ?_) refused
  rcases bind_eq_error.mp refused with first | ⟨_, -, refused⟩
  · exact dataError_of_bindQuantity first
  rcases bind_eq_error.mp refused with second | ⟨_, -, refused⟩
  · exact dataError_of_bindQuantity second
  rcases bind_eq_error.mp refused with third | ⟨_, -, done⟩
  · exact dataError_of_bindQuantity third
  · cases done

theorem dataError_of_positionColumns {updates : List PositionStateUpdate} {exc : Exc}
    (refused : updates.mapM PositionStateUpdate.columns = .error exc) : exc = .dataError := by
  refine dataError_of_mapM (fun update exc refused => ?_) refused
  rcases bind_eq_error.mp refused with first | ⟨_, -, done⟩
  · exact dataError_of_bindQuantity first
  · cases done

/-- What a synchronization comes to. -/
inductive SyncEnds (py : Platform) (userId exchangeAccountId : String)
    (event : TestnetUserStreamEvent) (s : Session) (db : Db) :
    Except Exc TestnetAccountStateSyncResult → Session → Prop where
  | raised {exc : Exc} {s' : Session} (reloaded : Reloaded s s' db)
      (refused : Refused py event (s.ownedAccount db userId exchangeAccountId) exc) :
      SyncEnds py userId exchangeAccountId event s db (.error exc) s'
  | ignored {s' : Session} (reloaded : Reloaded s s' db)
      (account : MaySync (s.ownedAccount db userId exchangeAccountId) event.exchangeName)
      (other : event.eventType = .order ∨ event.eventType = .unknown) :
      SyncEnds py userId exchangeAccountId event s db (.ok ⟨.ignored, 0, 0⟩) s'
  | balances {s' : Session} {updates : List BalanceStateUpdate} {columns : List BalanceColumns}
      {outcome : Except Exc TestnetAccountStateSyncResult} (reloaded : Reloaded s s' db)
      (account : MaySync (s.ownedAccount db userId exchangeAccountId) event.exchangeName)
      (balance : event.eventType = .balance)
      (decoded : balanceUpdates py event.exchangeName event.rawPayload = .ok updates)
      (bound : updates.mapM BalanceStateUpdate.columns = .ok columns)
      (flushed : outcome = if (db.flush (s'.withBalances ((balanceUpserts userId
          exchangeAccountId).pending db.balances columns s'.balancePending)).pending).isOk then
          .ok ⟨.synced, updates.length, 0⟩ else .error .integrityError) :
      SyncEnds py userId exchangeAccountId event s db outcome
        (s'.withBalances ((balanceUpserts userId exchangeAccountId).pending db.balances columns
          s'.balancePending))
  | positions {s' : Session} {updates : List PositionStateUpdate} {columns : List PositionColumns}
      {outcome : Except Exc TestnetAccountStateSyncResult} (reloaded : Reloaded s s' db)
      (account : MaySync (s.ownedAccount db userId exchangeAccountId) event.exchangeName)
      (position : event.eventType = .position)
      (decoded : positionUpdates py event.exchangeName event.rawPayload = .ok updates)
      (bound : updates.mapM PositionStateUpdate.columns = .ok columns)
      (flushed : outcome = if (db.flush (s'.withPositions ((positionUpserts userId
          exchangeAccountId).pending db.positions columns s'.positionPending)).pending).isOk then
          .ok ⟨.synced, 0, updates.length⟩ else .error .integrityError) :
      SyncEnds py userId exchangeAccountId event s db outcome
        (s'.withPositions ((positionUpserts userId exchangeAccountId).pending db.positions columns
          s'.positionPending))

theorem alone_syncTestnetAccountStateEvent :
    Alone sem Each (syncTestnetAccountStateEvent py userId exchangeAccountId event)
      (fun outcome s' w' =>
        w' = w ∧ SyncEnds py userId exchangeAccountId event s w.db outcome s') s w := by
  unfold syncTestnetAccountStateEvent
  rw [alone_bind]
  refine alone_getOwnedAccount fun s₁ reloaded => ?_
  rw [andThen_ok, alone_bind, alone_ofExcept]
  cases required : requireTestnetAccount (s.ownedAccount w.db userId exchangeAccountId)
      event.exchangeName with
  | error exc => exact ⟨rfl, .raised reloaded (refused_of_required required)⟩
  | ok _ =>
    have account := maySync_of_required required
    rw [andThen_ok]
    split
    · next balance =>
      rw [alone_bind, alone_ofExcept]
      cases decoded : balanceUpdates py event.exchangeName event.rawPayload with
      | error exc => exact ⟨rfl, .raised reloaded (refused_of_balanceUpdates balance decoded)⟩
      | ok updates =>
        rw [andThen_ok, alone_bind, alone_ofExcept]
        cases bound : updates.mapM BalanceStateUpdate.columns with
        | error exc => exact ⟨rfl, .raised reloaded (.inl (dataError_of_balanceColumns bound))⟩
        | ok columns =>
          rw [andThen_ok, alone_bind, alone_upsertBalances, andThen_ok, alone_bind, alone_flush]
          split
          · next accepted =>
            exact ⟨rfl, .balances reloaded account balance decoded bound (if_pos accepted).symm⟩
          · next refused =>
            exact ⟨rfl, .balances reloaded account balance decoded bound (if_neg refused).symm⟩
    · next position =>
      rw [alone_bind, alone_ofExcept]
      cases decoded : positionUpdates py event.exchangeName event.rawPayload with
      | error exc => exact ⟨rfl, .raised reloaded (refused_of_positionUpdates position decoded)⟩
      | ok updates =>
        rw [andThen_ok, alone_bind, alone_ofExcept]
        cases bound : updates.mapM PositionStateUpdate.columns with
        | error exc => exact ⟨rfl, .raised reloaded (.inl (dataError_of_positionColumns bound))⟩
        | ok columns =>
          rw [andThen_ok, alone_bind, alone_upsertPositions, andThen_ok, alone_bind, alone_flush]
          split
          · next accepted =>
            exact ⟨rfl, .positions reloaded account position decoded bound (if_pos accepted).symm⟩
          · next refused =>
            exact ⟨rfl, .positions reloaded account position decoded bound (if_neg refused).symm⟩
    · next notBalance notPosition =>
      refine ⟨rfl, .ignored reloaded account ?_⟩
      cases kind : event.eventType with
      | order => exact .inl rfl
      | unknown => exact .inr rfl
      | balance => exact absurd kind notBalance
      | position => exact absurd kind notPosition

end sync

/-! ### The guarantee -/

/-- The quantities of a balance row. -/
structure BalanceState.ShownBy (balance : BalanceState) (row : Balance) : Prop where
  available : row.availableQuantity.value = balance.available
  locked : row.lockedQuantity.value = balance.locked
  total : row.totalQuantity.value = balance.total

/-- The balances of an account are written, every other row and table is as before. -/
structure WritesBalances (userId exchangeAccountId : String) (balances : List BalanceState)
    (before after : Db) : Prop where
  rows : Table.Writes (fun balance => isBalance userId exchangeAccountId balance.asset)
    BalanceState.ShownBy balances before.balances after.balances
  elsewhere : { after with balances := before.balances } = before

/-- The positions of an account are written, every other row and table is as before. -/
structure WritesPositions (userId exchangeAccountId : String) (positions : List PositionState)
    (before after : Db) : Prop where
  rows : Table.Writes (fun position => isPosition userId exchangeAccountId position.symbol)
    (fun position row => row.quantity.value = position.quantity) positions before.positions
    after.positions
  elsewhere : { after with positions := before.positions } = before

/-- What an event makes of the rows: refused, ignored, or written as it says. -/
def SyncOutcome (py : Platform) (userId exchangeAccountId : String)
    (event : TestnetUserStreamEvent) (account : Option ExchangeAccount) (before after : Db) :
    Except Exc TestnetAccountStateSyncResult → Prop
  | .error _ => after = before ∧ ¬ (MaySync account event.exchangeName ∧ event.Readable py)
  | .ok result =>
    MaySync account event.exchangeName ∧
    match event.eventType with
    | .balance => ∃ balances, result = ⟨.synced, balances.length, 0⟩ ∧
        SaysBalances py event.exchangeName event.rawPayload balances ∧
        (∀ balance ∈ balances, balance.Sound) ∧
        WritesBalances userId exchangeAccountId balances before after
    | .position => ∃ positions, result = ⟨.synced, 0, positions.length⟩ ∧
        SaysPositions py event.exchangeName event.rawPayload positions ∧
        WritesPositions userId exchangeAccountId positions before after
    | .order | .unknown => result = ⟨.ignored, 0, 0⟩ ∧ after = before

section guarantee

variable {py : Platform} {userId exchangeAccountId : String} {event : TestnetUserStreamEvent}
  {s s' : Session} {db before after : Db} {outcome : Except Exc TestnetAccountStateSyncResult}

/-- The balances of an event that was written. -/
structure BalancesWritten (py : Platform) (userId exchangeAccountId : String)
    (event : TestnetUserStreamEvent) (updates : List BalanceStateUpdate)
    (columns : List BalanceColumns) (before after : Db) : Prop where
  decoded : balanceUpdates py event.exchangeName event.rawPayload = .ok updates
  bound : updates.mapM BalanceStateUpdate.columns = .ok columns
  rows : after.balances.rows =
    (balanceUpserts userId exchangeAccountId).rows columns before.balances.rows
  elsewhere : { after with balances := before.balances } = before

structure PositionsWritten (py : Platform) (userId exchangeAccountId : String)
    (event : TestnetUserStreamEvent) (updates : List PositionStateUpdate)
    (columns : List PositionColumns) (before after : Db) : Prop where
  decoded : positionUpdates py event.exchangeName event.rawPayload = .ok updates
  bound : updates.mapM PositionStateUpdate.columns = .ok columns
  rows : after.positions.rows =
    (positionUpserts userId exchangeAccountId).rows columns before.positions.rows
  elsewhere : { after with positions := before.positions } = before

/-- What a synchronization leaves in the open transaction. -/
inductive Synchronized (py : Platform) (userId exchangeAccountId : String)
    (event : TestnetUserStreamEvent) (account : Option ExchangeAccount) (before after : Db) :
    Except Exc TestnetAccountStateSyncResult → Prop where
  | raised {exc : Exc} (same : after = before) (refused : Refused py event account exc) :
      Synchronized py userId exchangeAccountId event account before after (.error exc)
  | ignored (allowed : MaySync account event.exchangeName)
      (other : event.eventType = .order ∨ event.eventType = .unknown) (same : after = before) :
      Synchronized py userId exchangeAccountId event account before after (.ok ⟨.ignored, 0, 0⟩)
  | balances {updates : List BalanceStateUpdate} {columns : List BalanceColumns}
      (allowed : MaySync account event.exchangeName) (kind : event.eventType = .balance)
      (written : BalancesWritten py userId exchangeAccountId event updates columns before after) :
      Synchronized py userId exchangeAccountId event account before after
        (.ok ⟨.synced, updates.length, 0⟩)
  | positions {updates : List PositionStateUpdate} {columns : List PositionColumns}
      (allowed : MaySync account event.exchangeName) (kind : event.eventType = .position)
      (written : PositionsWritten py userId exchangeAccountId event updates columns before after) :
      Synchronized py userId exchangeAccountId event account before after
        (.ok ⟨.synced, 0, updates.length⟩)

theorem SyncEnds.synchronized (ends : SyncEnds py userId exchangeAccountId event s db outcome s')
    (existing : db.flush s.pending = .ok before) (accepted : outcome ≠ .error .integrityError) :
    ∃ after, db.flush s'.pending = .ok after ∧ Synchronized py userId exchangeAccountId event
      (s.ownedAccount db userId exchangeAccountId) before after outcome := by
  cases ends with
  | raised reloaded refused =>
    exact ⟨before, reloaded.pending.trans existing, .raised rfl refused⟩
  | ignored reloaded account other =>
    exact ⟨before, reloaded.pending.trans existing, .ignored account other rfl⟩
  | @balances s₁ updates columns _ reloaded account balance decoded bound flushed =>
    split at flushed
    · next written =>
      subst flushed
      obtain ⟨after, hafter⟩ := isOk_iff.mp written
      have seen := reloaded.pending.trans existing
      obtain ⟨rows, elsewhere⟩ := Db.flush_withBalances seen hafter
      have upserted := @Upserts.rows_pending _ _ _ (balanceUpserts userId exchangeAccountId) columns
        db.balances s₁.balancePending (rows ▸ after.balances.distinct)
      exact ⟨after, hafter, .balances account balance
        ⟨decoded, bound, (rows.trans upserted).trans (congrArg _ (Db.rows_of_flush seen).1.symm),
          elsewhere⟩⟩
    · exact absurd flushed accepted
  | @positions s₁ updates columns _ reloaded account position decoded bound flushed =>
    split at flushed
    · next written =>
      subst flushed
      obtain ⟨after, hafter⟩ := isOk_iff.mp written
      have seen := reloaded.pending.trans existing
      obtain ⟨rows, elsewhere⟩ := Db.flush_withPositions seen hafter
      have upserted := @Upserts.rows_pending _ _ _ (positionUpserts userId exchangeAccountId) columns
        db.positions s₁.positionPending (rows ▸ after.positions.distinct)
      exact ⟨after, hafter, .positions account position
        ⟨decoded, bound, (rows.trans upserted).trans (congrArg _ (Db.rows_of_flush seen).2.symm),
          elsewhere⟩⟩
    · exact absurd flushed accepted

theorem BalancesWritten.apart {updates : List BalanceStateUpdate} {columns : List BalanceColumns}
    (written : BalancesWritten py userId exchangeAccountId event updates columns before after) :
    (balanceUpserts userId exchangeAccountId).Apart columns :=
  apart_balances (map_asset_columns written.bound ▸ (balanceUpdates_entries written.decoded).2.1)

theorem PositionsWritten.apart {updates : List PositionStateUpdate} {columns : List PositionColumns}
    (written : PositionsWritten py userId exchangeAccountId event updates columns before after) :
    (positionUpserts userId exchangeAccountId).Apart columns :=
  apart_positions (map_symbol_columns written.bound ▸ (positionUpdates_entries written.decoded).2.1)

/-- What is left is what the event says, in exact numbers. -/
theorem Synchronized.syncOutcome {account : Option ExchangeAccount}
    (sync : Synchronized py userId exchangeAccountId event account before after outcome)
    (accepted : outcome ≠ .error .dataError) :
    SyncOutcome py userId exchangeAccountId event account before after outcome := by
  cases sync with
  | raised same refused =>
    exact ⟨same, refused.resolve_left fun data => accepted (congrArg _ data)⟩
  | ignored allowed other same =>
    refine ⟨allowed, ?_⟩
    rcases other with kind | kind <;> rw [kind] <;> exact ⟨rfl, same⟩
  | @balances updates columns allowed kind written =>
    refine ⟨allowed, ?_⟩
    obtain ⟨balances, reported, holds⟩ := balanceUpdates_spec written.decoded written.bound
    rw [kind]
    refine ⟨balances, ?_, reported, ?_, ?_, written.elsewhere⟩
    · rw [← holds.length_eq, length_of_mapM written.bound]
    · intro b hb
      obtain ⟨c, -, h⟩ := exists_of_forall₂_right holds hb
      exact h.sound
    · refine Upserts.writes written.rows written.apart holds ?_ ?_
      · intro c b h
        change isBalance userId exchangeAccountId c.asset = _
        rw [h.asset]
      · exact fun c b h => ⟨h.available, h.locked, h.total⟩
  | @positions updates columns allowed kind written =>
    refine ⟨allowed, ?_⟩
    obtain ⟨positions, reported, holds⟩ := positionUpdates_spec written.decoded written.bound
    rw [kind]
    refine ⟨positions, ?_, reported, ?_, written.elsewhere⟩
    · rw [← holds.length_eq, length_of_mapM written.bound]
    · refine Upserts.writes written.rows written.apart holds ?_ ?_
      · intro c p h
        change isPosition userId exchangeAccountId c.symbol = _
        rw [h.symbol]
      · exact fun c p h => h.quantity

/-- An event that was applied changes nothing when it is applied again. -/
theorem Synchronized.again {account : Option ExchangeAccount} {s₂ s₃ : Session} {db₂ : Db}
    {result : TestnetAccountStateSyncResult} {outcome₂ : Except Exc TestnetAccountStateSyncResult}
    (first : Synchronized py userId exchangeAccountId event account before after (.ok result))
    (second : SyncEnds py userId exchangeAccountId event s₂ db₂ outcome₂ s₃)
    (existing : db₂.flush s₂.pending = .ok after) : db₂.flush s₃.pending = .ok after := by
  cases second with
  | raised reloaded => exact reloaded.pending.trans existing
  | ignored reloaded => exact reloaded.pending.trans existing
  | @balances s₁ updates columns _ reloaded _ balance decoded bound =>
    have flushed := reloaded.pending.trans existing
    have seen : after.balances.rows = s₁.balancePending.rows db₂.balances :=
      (Db.rows_of_flush flushed).1
    cases first with
    | ignored _ other => rw [balance] at other; rcases other with h | h <;> cases h
    | positions _ position => rw [balance] at position; cases position
    | @balances updates' columns' _ _ written =>
      obtain rfl : updates' = updates := Except.ok.inj (written.decoded.symm.trans decoded)
      obtain rfl : columns' = columns := Except.ok.inj (written.bound.symm.trans bound)
      refine Db.flush_same_balances flushed ((Upserts.rows_pending_self ?_ ?_).trans seen.symm)
      · exact seen ▸ after.balances.distinct
      · intro c hc
        rw [← seen, written.rows]
        exact Upserts.upsertRow_again written.apart hc
  | @positions s₁ updates columns _ reloaded _ position decoded bound =>
    have flushed := reloaded.pending.trans existing
    have seen : after.positions.rows = s₁.positionPending.rows db₂.positions :=
      (Db.rows_of_flush flushed).2
    cases first with
    | ignored _ other => rw [position] at other; rcases other with h | h <;> cases h
    | balances _ balance => rw [position] at balance; cases balance
    | @positions updates' columns' _ _ written =>
      obtain rfl : updates' = updates := Except.ok.inj (written.decoded.symm.trans decoded)
      obtain rfl : columns' = columns := Except.ok.inj (written.bound.symm.trans bound)
      refine Db.flush_same_positions flushed ((Upserts.rows_pending_self ?_ ?_).trans seen.symm)
      · exact seen ▸ after.positions.distinct
      · intro c hc
        rw [← seen, written.rows]
        exact Upserts.upsertRow_again written.apart hc

/-- An event is refused or ignored without a change, or its rows are written as it says, exact
to the last digit, with everything else as before; applying it again changes nothing. What is
pending counts as written, as in the open transaction. -/
theorem syncTestnetAccountStateEvent_all_or_nothing {w w' : World} {trace : List (Event backend)}
    (existing : w.db.flush s.pending = .ok before)
    (ran : Prog.Run semantics (syncTestnetAccountStateEvent py userId exchangeAccountId event s) w
      trace (.done (outcome, s')) w')
    (accepted : outcome ≠ .error .dataError ∧ outcome ≠ .error .integrityError) :
    w' = w ∧ ∃ after, w.db.flush s'.pending = .ok after ∧
      SyncOutcome py userId exchangeAccountId event
        (s.ownedAccount w.db userId exchangeAccountId) before after outcome ∧
      ∀ result, outcome = .ok result → ∀ s₂ w₂ trace₂ outcome₂ s₃ w₃,
        w₂.db.flush s₂.pending = .ok after →
        Prog.Run semantics (syncTestnetAccountStateEvent py userId exchangeAccountId event s₂) w₂
          trace₂ (.done (outcome₂, s₃)) w₃ →
        w₃ = w₂ ∧ w₂.db.flush s₃.pending = .ok after := by
  obtain ⟨same, ends⟩ :=
    (ran.of_alone (@alone_syncTestnetAccountStateEvent _ (fun _ => True) s w _ _ py event)).2
  obtain ⟨after, written, sync⟩ := ends.synchronized existing accepted.2
  refine ⟨same, after, written, sync.syncOutcome accepted.1, ?_⟩
  rintro result rfl s₂ w₂ trace₂ outcome₂ s₃ w₃ existing₂ ran₂
  obtain ⟨same₂, ends₂⟩ :=
    (ran₂.of_alone (@alone_syncTestnetAccountStateEvent _ (fun _ => True) s₂ w₂ _ _ py event)).2
  exact ⟨same₂, sync.again ends₂ existing₂⟩

end guarantee

/-- One free and one locked unit of BTC at the testnet of Binance. -/
def sampleBalanceEvent : TestnetUserStreamEvent where
  exchangeName := .binance
  eventType := .balance
  rawPayload := [("B", .arr [.obj [("a", .str " btc "), ("f", .str "1.25"), ("l", .str "0.25")]])]

def testnetWorld : World := { db := { accounts := oneRow (sampleAccount .testnet) } }

theorem Db.flush_nothing (db : Db) : db.flush ({} : Session).pending = .ok db := by
  have kept : db.secrets.deleteWhere (fun row => ([] : List String).contains row.exchangeAccountId) =
      db.secrets := Table.ext (List.filter_eq_self.mpr fun _ _ => rfl)
  simp only [Db.flush, Work.write, Session.pending, Table.writeBack_nil, Table.insertAll_nil,
    Option.bind_eq_bind, Option.bind_some, Option.pure_def, kept]

theorem ownedAccount_testnetWorld :
    ({} : Session).ownedAccount testnetWorld.db "u" "a" = some (sampleAccount .testnet) := by
  decide +kernel

theorem syncTestnetAccountStateEvent_all_or_nothing_binance :
    ∃ trace s' w' after, Prog.Run semantics
        (syncTestnetAccountStateEvent asciiPlatform "u" "a" sampleBalanceEvent {}) testnetWorld trace
        (.done (.ok ⟨.synced, 1, 0⟩, s')) w' ∧
      w'.db.flush s'.pending = .ok after ∧
      SyncOutcome asciiPlatform "u" "a" sampleBalanceEvent (some (sampleAccount .testnet))
        testnetWorld.db after (.ok ⟨.synced, 1, 0⟩) := by
  have ran := Exchange.serving_run ⟨true, .empty⟩
    (syncTestnetAccountStateEvent asciiPlatform "u" "a" sampleBalanceEvent {}) testnetWorld 20
  have result : returned ((Exchange.serving ⟨true, .empty⟩
      (syncTestnetAccountStateEvent asciiPlatform "u" "a" sampleBalanceEvent {}) testnetWorld
        20).2.client ()) = some ⟨.synced, 1, 0⟩ := by
    decide +kernel
  generalize Exchange.serving ⟨true, .empty⟩ (syncTestnetAccountStateEvent asciiPlatform "u" "a"
    sampleBalanceEvent {}) testnetWorld 20 = served at ran result
  obtain ⟨s', done⟩ := done_of_returned result
  rw [done] at ran
  obtain ⟨same, after, written, sync, -⟩ := syncTestnetAccountStateEvent_all_or_nothing
    (Db.flush_nothing testnetWorld.db) ran ⟨fun h => (nomatch h), fun h => (nomatch h)⟩
  rw [ownedAccount_testnetWorld] at sync
  exact ⟨_, s', _, after, ran, same ▸ written, sync⟩

end CopyTrading
