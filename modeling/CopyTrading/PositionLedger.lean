import CopyTrading.ExecutionSafety

/-!
The ledger of positions: what every kind of commit does to the quantity of a position and
to the signed sum of the filled executions, and when both move together.
-/

namespace CopyTrading

open Transaction DecimalArith

/-- `Position.quantity` in units of the column, `0` when the row is missing. -/
def positionUnits (accountId symbol : String) (db : Db) : Int :=
  match db.positions.find? fun row => row.exchangeAccountId = accountId ∧ row.symbol = symbol with
  | some position => position.quantity.units
  | none => 0

/-- What an execution contributes to the position: its signed quantity once it is filled. -/
def filledWeight (accountId symbol : String) (row : OrderExecution) : Int :=
  if row.exchangeAccountId = accountId ∧ row.symbol = symbol ∧ row.status = .filled then
    signedUnits row
  else 0

/-- The sum of the signed quantities of the filled executions. -/
def filledUnits (accountId symbol : String) (db : Db) : Int :=
  (db.executions.rows.map (filledWeight accountId symbol)).sum

variable {accountId symbol : String}

/-! ### Executions -/

theorem SameOrder.signedUnits {a b : OrderExecution} (same : SameOrder a b) :
    signedUnits a = signedUnits b := by
  unfold CopyTrading.signedUnits
  rw [same.side, same.quantity]

theorem filledWeight_congr {a b : OrderExecution} (same : SameOrder a b)
    (status : a.status = b.status) :
    filledWeight accountId symbol a = filledWeight accountId symbol b := by
  unfold filledWeight
  rw [same.exchangeAccountId, same.symbol, same.signedUnits, status]

theorem filledWeight_of_ne {row : OrderExecution} (status : row.status ≠ .filled) :
    filledWeight accountId symbol row = 0 :=
  if_neg fun h => status h.2.2

namespace TradingWork

variable {work : Work} {inserted : List OrderExecution}
  {status : Option (String × OrderExecutionStatus)} {moved : List (Instance Position)}
  {before after : Db}

/-- The sum after a commit, over the rows of before. -/
theorem filledUnits_eq (trading : TradingWork work inserted status moved)
    (flushed : before.flush work = .ok after) :
    filledUnits accountId symbol after =
      (before.executions.rows.map fun row =>
          filledWeight accountId symbol (Table.updated work.executionChanges row)).sum +
        (inserted.map (filledWeight accountId symbol)).sum := by
  unfold filledUnits
  rw [Table.rows_insertAll (trading.written flushed).executions, Table.rows_writeBack,
    trading.executions]
  simp [Function.comp_def]

/-- A commit that fills nothing keeps the sum. -/
theorem filledUnits_kept (trading : TradingWork work inserted none moved)
    (flushed : before.flush work = .ok after) (unfilled : ∀ row ∈ inserted, row.status ≠ .filled) :
    filledUnits accountId symbol after = filledUnits accountId symbol before := by
  rw [trading.filledUnits_eq flushed]
  have hinserted : inserted.map (filledWeight accountId symbol) = inserted.map fun _ => 0 :=
    List.map_congr_left fun row hrow => filledWeight_of_ne (unfilled row hrow)
  have hrows : (fun row => filledWeight accountId symbol (Table.updated work.executionChanges row)) =
      filledWeight accountId symbol := funext fun row =>
    filledWeight_congr (sameOrder_updated _ row) (trading.status_updated row)
  rw [hinserted, hrows]
  simp [filledUnits]

/-- Writing a status moves the sum by the weight of the one row it is written on. -/
theorem filledUnits_written {id : String} {new : OrderExecutionStatus}
    (trading : TradingWork work [] (some (id, new)) moved)
    (flushed : before.flush work = .ok after) {x : OrderExecution} (hx : x ∈ before.executions)
    (hid : x.id = id) (unfilled : x.status ≠ .filled) :
    filledUnits accountId symbol after = filledUnits accountId symbol before +
      if new = .filled ∧ x.exchangeAccountId = accountId ∧ x.symbol = symbol then signedUnits x
      else 0 := by
  rw [trading.filledUnits_eq flushed, List.map_nil, List.sum_nil, add_zero,
    Table.sum_eq_add_of_mem (g := filledWeight accountId symbol) hx]
  · have same := sameOrder_updated work.executionChanges x
    have hstatus := trading.status_updated x
    rw [statusAfter_same hid.symm] at hstatus
    rw [filledWeight_of_ne unfilled, sub_zero]
    congr 1
    unfold filledWeight
    rw [same.exchangeAccountId, same.symbol, same.signedUnits, hstatus]
    exact if_congr (by tauto) rfl rfl
  · intro row _ apart
    refine filledWeight_congr (sameOrder_updated _ row) ?_
    rw [trading.status_updated row]
    exact statusAfter_other fun h => apart (.inl (h.symm.trans hid.symm))

/-! ### Positions -/

theorem positions_find? (trading : TradingWork work inserted status moved)
    (flushed : before.flush work = .ok after) (p : Position → Bool)
    (keeps : ∀ row, p (Table.updated moved row) = p row) :
    after.positions.find? p =
      ((before.positions.find? p).map (Table.updated moved)).or (work.positions.find? p) := by
  have hrows := Table.rows_insertAll (trading.written flushed).positions
  unfold Table.find?
  rw [hrows, List.find?_append]
  congr 1
  rw [trading.positionChanges]
  exact Table.find?_writeBack keeps

/-- A commit that writes no stored position keeps every quantity: new positions are zero. -/
theorem positionUnits_kept (trading : TradingWork work inserted status [])
    (flushed : before.flush work = .ok after) :
    positionUnits accountId symbol after = positionUnits accountId symbol before := by
  unfold positionUnits
  rw [trading.positions_find? flushed _ fun _ => rfl]
  cases before.positions.find? fun row =>
      row.exchangeAccountId = accountId ∧ row.symbol = symbol with
  | some position => rfl
  | none =>
    rw [Option.map_none, Option.none_or]
    cases hnew : work.positions.find? fun row =>
        row.exchangeAccountId = accountId ∧ row.symbol = symbol with
    | none => rfl
    | some position =>
      change position.quantity.units = 0
      rw [trading.positions position (List.mem_of_find?_eq_some hnew)]
      rfl

/-- Writing a stored position sets its quantity and no other. -/
theorem positionUnits_moved {p : Position} {quantity : Quantity}
    (trading : TradingWork work inserted status [⟨p, quantity⟩]) (noNew : work.positions = [])
    (flushed : before.flush work = .ok after)
    (stored : ∃ x ∈ before.positions, Row.key x = Row.key p) :
    positionUnits accountId symbol after =
      if p.exchangeAccountId = accountId ∧ p.symbol = symbol then quantity.units
      else positionUnits accountId symbol before := by
  have hkeys : ∀ row : Position, Row.SamePrimary p row ↔
      row.exchangeAccountId = p.exchangeAccountId ∧ row.symbol = p.symbol := fun row =>
    Position.Key.mk.injEq .. |>.to_iff.trans (and_congr eq_comm eq_comm)
  have hupdated : ∀ row : Position, Table.updated [⟨p, quantity⟩] row =
      if row.exchangeAccountId = p.exchangeAccountId ∧ row.symbol = p.symbol then
        { row with quantity := quantity } else row := fun row => by
    rw [Table.updated_cons, Table.updated_nil]
    exact if_congr (hkeys row) rfl rfl
  unfold positionUnits
  rw [trading.positions_find? flushed _ ?_, noNew, List.find?_nil, Option.or_none]
  · cases hfind : before.positions.find? fun row =>
        row.exchangeAccountId = accountId ∧ row.symbol = symbol with
    | none =>
      obtain ⟨x, hx, hkey⟩ := stored
      have hxpair := (hkeys x).mp hkey.symm
      have missing := Table.not_of_find?_none hfind hx
      rw [hxpair.1, hxpair.2, decide_eq_false_iff_not] at missing
      exact (if_neg missing).symm
    | some y =>
      have hy := Table.holds_of_find? hfind
      simp only [decide_eq_true_eq] at hy
      change (Table.updated _ y).quantity.units = _
      rw [hupdated]
      split
      · next same => rw [if_pos ⟨same.1.symm.trans hy.1, same.2.symm.trans hy.2⟩]
      · next different =>
        rw [if_neg fun pair => different ⟨hy.1.trans pair.1.symm, hy.2.trans pair.2.symm⟩]
  · intro row
    rw [hupdated]
    split <;> rfl

end TradingWork

theorem positionUnits_of_mem {db : Db} {p : Position} (stored : p ∈ db.positions) :
    positionUnits p.exchangeAccountId p.symbol db = p.quantity.units := by
  unfold positionUnits
  cases hfind : db.positions.find? fun row =>
      row.exchangeAccountId = p.exchangeAccountId ∧ row.symbol = p.symbol with
  | none => simpa using Table.not_of_find?_none hfind stored
  | some y =>
    have hy := Table.holds_of_find? hfind
    simp only [decide_eq_true_eq] at hy
    have same : y = p := Table.eq_of_conflict (Table.mem_of_find? hfind) stored
      (congrArg₂ Position.Key.mk hy.1 hy.2)
    rw [same]

/-! ### What a move of a request does to both sums -/

/-- What the request has added to the position. -/
def ExecStage.credited (accountId symbol : String) : ExecStage → Int
  | .filled row | .answered row true _ =>
      if row.exchangeAccountId = accountId ∧ row.symbol = symbol then signedUnits row else 0
  | _ => 0

/-- What the row of the request contributes to the filled executions. -/
def ExecStage.weight (accountId symbol : String) (stage : ExecStage) : Int :=
  match stage.row? with
  | some row =>
      if stage.status = .filled ∧ row.exchangeAccountId = accountId ∧ row.symbol = symbol then
        signedUnits row
      else 0
  | none => 0

/-- Every position a commit writes still has the quantity it was loaded with. -/
def WritesLoaded : Event backend → Prop
  | .commit work before _ => ∀ x ∈ work.positionChanges, ∀ p ∈ before.db.positions,
      Row.SamePrimary p x.loaded → p.quantity = x.loaded.quantity
  | _ => True

instance (e : Event backend) : Decidable (WritesLoaded e) := by
  cases e <;> unfold WritesLoaded <;> infer_instance

section Step

variable {req : ExecRequest} {stage stage' : ExecStage} {e : Event backend}

/-- The write of a loaded position adds the signed quantity of the row. -/
theorem positionUnits_fill {work : Work} {inserted : List OrderExecution}
    {status : Option (String × OrderExecutionStatus)} {before after : World}
    {row : OrderExecution} {position : Position} {filled : Quantity}
    (trading : TradingWork work inserted status [⟨position, filled⟩])
    (noNew : work.positions = []) (flushed : before.db.flush work = .ok after.db)
    (positionFor : PositionFor row position) (fillOf : FillOf row position filled)
    (stored : ∃ x ∈ before.db.positions, Row.key x = Row.key position)
    (loaded : WritesLoaded (.commit work before after)) :
    positionUnits accountId symbol after.db = positionUnits accountId symbol before.db +
      if row.exchangeAccountId = accountId ∧ row.symbol = symbol then signedUnits row else 0 := by
  rw [trading.positionUnits_moved noNew flushed stored, positionFor.1, positionFor.2]
  split
  · next pair =>
    obtain ⟨x, hx, hkey⟩ := stored
    have hquantity : x.quantity = position.quantity :=
      loaded ⟨position, filled⟩ (by simp [trading.positionChanges]) x hx hkey
    have hpair : x.exchangeAccountId = accountId ∧ x.symbol = symbol :=
      ⟨(congrArg Position.Key.exchangeAccountId hkey).trans (positionFor.1.trans pair.1),
        (congrArg Position.Key.symbol hkey).trans (positionFor.2.trans pair.2)⟩
    have hunits := positionUnits_of_mem hx
    rw [hpair.1, hpair.2, hquantity] at hunits
    rw [hunits, fillOf]
  · exact (add_zero _).symm

theorem ExecMove.positionUnits_after (accountId symbol : String)
    (move : ExecMove req stage e stage') (sound : e.Sound semantics)
    (stored : ∀ row position, stage = .filling row position ∨ stage = .funding row position →
      PositionFor row position ∧ ∃ x ∈ e.before.db.positions, Row.key x = Row.key position)
    (loaded : WritesLoaded e) :
    positionUnits accountId symbol e.after.db = positionUnits accountId symbol e.before.db +
      (stage'.credited accountId symbol - stage.credited accountId symbol) := by
  cases move with
  | idle idle => rw [after_eq_of_idle idle sound, sub_self, add_zero]
  | @place _ answer _ _ _ =>
    have same := db_eq_of_call (show answers _ _ answer _ from sound)
    rw [Event.after, Event.before, same]
    exact (add_zero _).symm
  | fill fillOf trading noNew =>
    obtain ⟨positionFor, hstored⟩ := stored _ _ (.inl rfl)
    refine (positionUnits_fill trading noNew (World.flush_ok sound).1 positionFor fillOf hstored
      loaded).trans ?_
    simp [ExecStage.credited]
  | fund fillOf trading noNew =>
    obtain ⟨positionFor, hstored⟩ := stored _ _ (.inr rfl)
    refine (positionUnits_fill trading noNew (World.flush_ok sound).1 positionFor fillOf hstored
      loaded).trans ?_
    simp [ExecStage.credited]
  | fail from_ trading =>
    refine (trading.positionUnits_kept (World.flush_ok sound).1).trans ?_
    rcases from_ with rfl | ⟨_, rfl⟩ <;> simp [ExecStage.credited]
  | openPosition trading | create _ trading | settle trading | pass trading | submit trading
  | openFilled trading | tail trading =>
    refine (trading.positionUnits_kept (World.flush_ok sound).1).trans ?_
    simp [ExecStage.credited]
  | @answer _ _ _ _ fill from_ =>
    subst from_
    cases fill <;> simp [ExecStage.credited]
  | enter | know | own | replay | miss | weigh | clear | findPosition | loadPosition =>
    simp [ExecStage.credited]

theorem ExecMove.filledUnits_after (accountId symbol : String)
    (move : ExecMove req stage e stage') (sound : e.Sound semantics) (stands : RowStands stage e.before.db) :
    filledUnits accountId symbol e.after.db = filledUnits accountId symbol e.before.db +
      (stage'.weight accountId symbol - stage.weight accountId symbol) := by
  cases move.effect sound with
  | keeps db row status =>
    rw [db]
    unfold ExecStage.weight
    rw [row, status, sub_self, add_zero]
  | @creates _ _ _ new flushed trading rowOf _ none created =>
    have unfilled : ∀ row ∈ [new], row.status ≠ .filled := fun row hrow => by
      rw [List.mem_singleton.mp hrow, rowOf.status]
      decide
    have hold : stage.weight accountId symbol = 0 := by
      unfold ExecStage.weight
      rw [none]
    have hnew : (ExecStage.created new).weight accountId symbol = 0 := by
      simp [ExecStage.weight, ExecStage.row?, ExecStage.status]
    rw [Event.after, trading.filledUnits_kept flushed unfilled, created, hold, hnew]
    exact (add_zero _).symm
  | writes flushed trading hkeep status =>
    unfold ExecStage.weight
    rw [hkeep]
    rcases status with ⟨rfl, kept⟩ | ⟨row, hrow, unfinished, rfl⟩
    · rw [Event.after, trading.filledUnits_kept flushed (by simp), kept, sub_self, add_zero]
      rfl
    · obtain ⟨x, hx, same, hstatus⟩ := stands row hrow
      have unfilled : stage.status ≠ .filled := fun h => unfinished (h ▸ by decide)
      rw [Event.after, trading.filledUnits_written flushed hx same.id (hstatus ▸ unfilled), hrow,
        same.exchangeAccountId, same.symbol, same.signedUnits]
      simp [unfilled]

/-- A position that is still stored as it was loaded is written over what was loaded. -/
theorem ExecMove.writesLoaded (move : ExecMove req stage e stage')
    (stored : ∀ row position, stage = .filling row position ∨ stage = .funding row position →
      position ∈ e.before.db.positions) : WritesLoaded e := by
  have written : ∀ {work : Work} {before after : World} {position : Position} {filled : Quantity},
      position ∈ before.db.positions → work.positionChanges = [⟨position, filled⟩] →
      WritesLoaded (.commit work before after) := by
    intro work before after position filled hposition hchanges x hx p hp hkey
    rw [hchanges, List.mem_singleton] at hx
    subst hx
    rw [Table.eq_of_conflict hp hposition hkey]
  have unwritten : ∀ {work : Work} {before after : World}, work.positionChanges = [] →
      WritesLoaded (.commit work before after) := by
    intro work before after hchanges x hx
    rw [hchanges] at hx
    cases hx
  cases move with
  | @idle _ e idle =>
    cases e with
    | commit => simp [isIdle] at idle
    | read | abort | call => exact True.intro
  | fill _ trading => exact written (stored _ _ (.inl rfl)) trading.positionChanges
  | fund _ trading => exact written (stored _ _ (.inr rfl)) trading.positionChanges
  | openPosition trading | create _ trading | settle trading | fail _ trading | pass trading
  | submit trading | openFilled trading | tail trading => exact unwritten trading.positionChanges
  | enter | know | own | replay | miss | weigh | clear | findPosition | loadPosition | answer
  | place => exact True.intro

end Step

/-! ### Calls one after the other -/

/-- Calls of one process after the other; each may stop wherever it is. -/
inductive Calls (py : Platform) (w₀ : World) : List (Event backend) → World → Prop where
  | nil : Calls py w₀ [] w₀
  | call {trace events : List (Event backend)} {w w' : World} {req : ExecRequest}
      {rest : Prog backend (Except Exc OrderExecution × Session)} (calls : Calls py w₀ trace w)
      (run : Prog.Run semantics (req.service py).run w events rest w') :
      Calls py w₀ (trace ++ events) w'

/-- A commit that fills an execution finds the position of its account and symbol stored. -/
def FillsOverPosition : Event backend → Prop
  | .commit work before _ => ∀ x ∈ work.executionChanges, x.change.status = some .filled →
      ∀ row ∈ before.db.executions, row.id = x.loaded.id →
        ∃ position ∈ before.db.positions, PositionFor row position
  | _ => True

instance (e : Event backend) : Decidable (FillsOverPosition e) := by
  cases e <;> unfold FillsOverPosition <;> infer_instance

/-- The ledger of a call that has the database for itself. -/
structure LedgerInv (balance : String → String → Int) (stage : ExecStage) (db : Db) : Prop where
  stands : RowStands stage db
  /-- No position is opened together with a fill. -/
  opened : ∀ row, stage ≠ .opened row ∧ ∀ position, stage ≠ .funding row position
  filling : ∀ row position, stage = .filling row position →
    PositionFor row position ∧ position ∈ db.positions
  balance : ∀ accountId symbol,
    positionUnits accountId symbol db - filledUnits accountId symbol db = balance accountId symbol

/-- Where no position is opened by a fill, status and quantity move together. -/
theorem ExecStage.credited_eq_weight {stage : ExecStage}
    (opened : ∀ row, stage ≠ .opened row ∧ ∀ position, stage ≠ .funding row position) :
    stage.credited accountId symbol = stage.weight accountId symbol := by
  cases stage with
  | opened row => exact absurd rfl (opened row).1
  | funding row position => exact absurd rfl ((opened row).2 position)
  | answered row fill result => cases fill <;> simp [credited, weight, row?, status]
  | _ => simp [credited, weight, row?, status]

namespace LedgerInv

variable {req : ExecRequest} {stage stage' : ExecStage} {e : Event backend}
  {balance : String → String → Int}

theorem start {db : Db} :
    LedgerInv (fun a s => positionUnits a s db - filledUnits a s db) .start db where
  stands := .start
  opened _ := ⟨nofun, nofun⟩
  filling _ _ h := nomatch h
  balance _ _ := rfl

/-- A fill over a stored position does not open one. -/
theorem opened_after (inv : LedgerInv balance stage e.before.db)
    (move : ExecMove req stage e stage') (sound : e.Sound semantics) (overPosition : FillsOverPosition e)
    (row : OrderExecution) : stage' ≠ .opened row ∧ ∀ position, stage' ≠ .funding row position := by
  cases move with
  | idle => exact inv.opened row
  | openFilled trading opens =>
    obtain ⟨x, hchanges, hid, hstatus⟩ := trading.statuses
    obtain ⟨y, hy, same, -⟩ := inv.stands _ rfl
    obtain ⟨p, hp, haccount, hsymbol⟩ := opens
    obtain ⟨q, hq, qaccount, qsymbol⟩ :=
      overPosition x (by simp [hchanges]) hstatus y hy (same.id.trans hid.symm)
    have inserted := (trading.written (World.flush_ok sound).1).positions
    rw [trading.positionChanges, Table.writeBack_nil] at inserted
    refine absurd (congrArg₂ Position.Key.mk ?_ ?_) (Table.fresh_of_insertAll inserted hq hp)
    · exact (qaccount.trans same.exchangeAccountId).trans haccount.symm
    · exact (qsymbol.trans same.symbol).trans hsymbol.symm
  | loadPosition => exact absurd rfl (inv.opened _).1
  | _ => exact ⟨nofun, nofun⟩

theorem filling_after (inv : LedgerInv balance stage e.before.db)
    (move : ExecMove req stage e stage') (sound : e.Sound semantics) (row : OrderExecution)
    (position : Position) (hstage : stage' = .filling row position) :
    PositionFor row position ∧ position ∈ e.after.db.positions := by
  cases move with
  | idle idle =>
    rw [after_eq_of_idle idle sound]
    exact inv.filling row position hstage
  | findPosition stored positionFor =>
    cases hstage
    exact ⟨positionFor, stored⟩
  | _ => cases hstage

theorem step (inv : LedgerInv balance stage e.before.db) (move : ExecMove req stage e stage')
    (sound : e.Sound semantics) (overPosition : FillsOverPosition e) :
    LedgerInv balance stage' e.after.db where
  stands := inv.stands.move move sound
  opened := inv.opened_after move sound overPosition
  filling := inv.filling_after move sound
  balance accountId symbol := by
    have stored : ∀ row position, stage = .filling row position ∨ stage = .funding row position →
        PositionFor row position ∧ position ∈ e.before.db.positions := by
      rintro row position (h | h)
      · exact inv.filling row position h
      · exact absurd h ((inv.opened row).2 position)
    have hposition := move.positionUnits_after accountId symbol sound
      (fun row position h => ⟨(stored row position h).1, position, (stored row position h).2, rfl⟩)
      (move.writesLoaded fun row position h => (stored row position h).2)
    have hfilled := move.filledUnits_after accountId symbol sound
      inv.stands
    rw [ExecStage.credited_eq_weight inv.opened,
      ExecStage.credited_eq_weight (inv.opened_after move sound overPosition)] at hposition
    have hbalance := inv.balance accountId symbol
    omega

end LedgerInv

theorem ledgerInv_of_path {req : ExecRequest} {w w' : World} {events : List (Event backend)}
    {stage : ExecStage}
    (path : (execProtocol req).Path semantics ExecStage.start w events stage w')
    (overPosition : ∀ e ∈ events, FillsOverPosition e) :
    LedgerInv (fun a s => positionUnits a s w.db - filledUnits a s w.db) stage w'.db := by
  refine path.invariant (fun events (stage : ExecStage) (world : World) =>
    (∀ e ∈ events, FillsOverPosition e) →
      LedgerInv (fun a s => positionUnits a s w.db - filledUnits a s w.db) stage world.db) ?_ ?_ overPosition
  · exact fun _ => .start
  · intro events stage e stage' inv move sound overPosition
    exact (inv fun e he => overPosition e (by simp [he])).step move sound (overPosition e (by simp))

/-- One call keeps the ledger, wherever it stops. -/
theorem balance_of_run {py : Platform} {req : ExecRequest} {w w' : World}
    {events : List (Event backend)} {rest : Prog backend (Except Exc OrderExecution × Session)}
    (run : Prog.Run semantics (req.service py).run w events rest w')
    (overPosition : ∀ e ∈ events, FillsOverPosition e) (accountId symbol : String) :
    positionUnits accountId symbol w'.db - filledUnits accountId symbol w'.db =
      positionUnits accountId symbol w.db - filledUnits accountId symbol w.db := by
  obtain ⟨stage, path, -⟩ := run.path (executeSignalForAccount_follows py req)
  exact (ledgerInv_of_path path overPosition).balance accountId symbol

/-- Over any sequence of calls that may stop at every commit: as long as each fill finds its
position stored, a position is its initial quantity plus what was filled. -/
theorem position_eq_initial_add_filled {py : Platform} {w₀ w : World}
    {trace : List (Event backend)} (calls : Calls py w₀ trace w)
    (overPosition : ∀ e ∈ trace, FillsOverPosition e) (accountId symbol : String) :
    positionUnits accountId symbol w.db = positionUnits accountId symbol w₀.db +
      (filledUnits accountId symbol w.db - filledUnits accountId symbol w₀.db) := by
  induction calls with
  | nil => rw [sub_self, add_zero]
  | @call trace events w w' _ _ _ run ih =>
    have before := ih fun e he => overPosition e (by simp [he])
    have during := balance_of_run run (fun e he => overPosition e (by simp [he])) accountId symbol
    omega

/-- A world with one signal to buy one unit, and one unit held already. -/
def heldWorld : World :=
  { db := sampleDb .simulation (oneRow (sampleSignal "s1" .buy))
      (oneRow ⟨"u", "a", "BTCUSDT", oneUnit⟩) }

theorem position_eq_initial_add_filled_held :
    ∃ trace w, Calls asciiPlatform heldWorld trace w ∧
      filledUnits "a" "BTCUSDT" w.db = 10000000000 ∧
      positionUnits "a" "BTCUSDT" w.db = positionUnits "a" "BTCUSDT" heldWorld.db +
        (filledUnits "a" "BTCUSDT" w.db - filledUnits "a" "BTCUSDT" heldWorld.db) := by
  have run := (Config.replay_reaches (environment_allowed ⟨true, .empty⟩)
    (List.replicate 40 ()) 0
    (executing asciiPlatform (fun _ : Unit => sampleRequest "s1") heldWorld)).alone
  have calls := Calls.call (.nil) run
  exact ⟨_, _, calls, by decide +kernel,
    position_eq_initial_add_filled calls (by decide +kernel) "a" "BTCUSDT"⟩

/-- Where the position is missing, the execution is committed as filled together with a new
position of quantity zero; a process that stops there leaves the fill out of the position. -/
theorem position_ne_initial_add_filled :
    ∃ trace w, Calls asciiPlatform sampleWorld trace w ∧
      filledUnits "a" "BTCUSDT" sampleWorld.db = 0 ∧
      positionUnits "a" "BTCUSDT" w.db ≠
        positionUnits "a" "BTCUSDT" sampleWorld.db + filledUnits "a" "BTCUSDT" w.db := by
  have run := (Config.replay_reaches (environment_allowed ⟨true, .empty⟩)
    (List.replicate 22 ()) 0
    (executing asciiPlatform (fun _ : Unit => sampleRequest "s1") sampleWorld)).alone
  exact ⟨_, _, .call .nil run, by decide +kernel, by decide +kernel⟩

end CopyTrading
