import Mathlib.Algebra.BigOperators.Group.Finset.Piecewise
import Mathlib.Data.Fintype.Basic
import CopyTrading.PositionLedger

/-!
Fills of concurrent requests. A request reads a position, adds its quantity in memory and
writes the sum back; as long as no two such sections overlap on one position, every fill
arrives.
-/

namespace CopyTrading

open Transaction DecimalArith

variable {ι : Type} {requests : ι → ExecRequest} {accountId symbol : String}

/-! ### Stored positions and executions -/

section Step

variable {req : ExecRequest} {stage stage' : ExecStage} {e : Event backend}

/-- No move removes a position. -/
theorem ExecMove.positions_kept (move : ExecMove req stage e stage') (sound : e.Sound semantics)
    {old : Position} (hold : old ∈ e.before.db.positions) :
    ∃ new ∈ e.after.db.positions, Row.key new = Row.key old := by
  have kept : ∀ {work : Work} {inserted status moved} {before after : World},
      TradingWork work inserted status moved → before.db.flush work = .ok after.db →
      old ∈ before.db.positions → ∃ new ∈ after.db.positions, Row.key new = Row.key old := by
    intro work inserted status moved before after trading flushed hold
    exact ⟨_, (Table.mem_insertAll (trading.written flushed).positions).mpr
      (.inl (Table.mem_writeBack.mpr ⟨old, hold, rfl⟩)), Table.key_updated _ _⟩
  cases move.effect sound with
  | keeps db => exact ⟨old, db.symm ▸ hold, rfl⟩
  | creates flushed trading => exact kept trading flushed hold
  | writes flushed trading => exact kept trading flushed hold

/-- The position a request is going to write was stored when it was loaded. -/
theorem ExecMove.position_from (move : ExecMove req stage e stage') {row : OrderExecution}
    {position : Position} (hstage : stage' = .filling row position ∨ stage' = .funding row position) :
    (stage = .filling row position ∨ stage = .funding row position) ∨
      PositionFor row position ∧ position ∈ e.after.db.positions := by
  cases move with
  | idle => exact .inl hstage
  | findPosition stored positionFor | loadPosition stored positionFor =>
    refine .inr ⟨?_, ?_⟩ <;> rcases hstage with h | h <;> cases h <;> assumption
  | _ => rcases hstage with h | h <;> cases h

end Step

/-- Each execution was there at first, or it is the row of a request. -/
def Originates (stages : ι → ExecStage) (db₀ db : Db) : Prop :=
  ∀ x ∈ db.executions, (∃ x₀ ∈ db₀.executions, SameOrder x x₀) ∨
    ∃ i row, (stages i).row? = some row ∧ SameOrder x row

/-- What a request that has returned an execution says about it. -/
def Answered (req : ExecRequest) (stage : ExecStage) (db : Db) : Prop :=
  (∀ result, stage = .replayed result → result.signalId = req.signalId ∧
      result.exchangeAccountId = req.accountId ∧ ∃ x ∈ db.executions, SameOrder x result) ∧
    ∀ row fill result, stage = .answered row fill result →
      SameOrder result row ∧ result.status = stage.status

theorem Answered.move {req : ExecRequest} {stage stage' : ExecStage} {e : Event backend}
    (answered : Answered req stage e.before.db) (stands : RowStands stage e.before.db)
    (move : ExecMove req stage e stage') (sound : e.Sound semantics) :
    Answered req stage' e.after.db := by
  have stands' := stands.move move sound
  cases move with
  | idle idle =>
    rw [after_eq_of_idle idle sound]
    exact answered
  | replay stored signalId accountId =>
    refine ⟨fun result hresult => ?_, fun _ _ _ h => by cases h⟩
    cases hresult
    exact ⟨signalId, accountId, _, stored, .refl _⟩
  | answer _ stored id =>
    refine ⟨fun _ h => (by cases h), fun row fill result hresult => ?_⟩
    cases hresult
    obtain ⟨x, hx, same, status⟩ := stands' _ rfl
    obtain rfl := execution_unique stored hx (id.trans same.id.symm)
    exact ⟨same, status⟩
  | _ => exact ⟨fun _ h => (by cases h), fun _ _ _ h => by cases h⟩

structure FillsInv [Fintype ι] (requests : ι → ExecRequest) (world₀ : World)
    (stages : ι → ExecStage) (world : World) : Prop extends
    ExecInv requests stages world.db where
  positions : ∀ i row position, stages i = .filling row position ∨ stages i = .funding row position →
    PositionFor row position ∧ ∃ x ∈ world.db.positions, Row.key x = Row.key position
  origin : Originates stages world₀.db world.db
  answered : ∀ i, Answered (requests i) (stages i) world.db
  sum : ∀ accountId symbol, positionUnits accountId symbol world.db =
    positionUnits accountId symbol world₀.db + ∑ i, (stages i).credited accountId symbol

namespace FillsInv

variable [Fintype ι] [DecidableEq ι] {world₀ : World} {stages : ι → ExecStage} {i : ι}
  {e : Event backend} {stage' : ExecStage}

theorem positions_after (inv : FillsInv requests world₀ stages e.before)
    (move : ExecMove (requests i) (stages i) e stage') (sound : e.Sound semantics) (j : ι)
    (row : OrderExecution) (position : Position)
    (hstage : Function.update stages i stage' j = .filling row position ∨
      Function.update stages i stage' j = .funding row position) :
    PositionFor row position ∧ ∃ x ∈ e.after.db.positions, Row.key x = Row.key position := by
  have kept : ∀ j, stages j = .filling row position ∨ stages j = .funding row position →
      PositionFor row position ∧ ∃ x ∈ e.after.db.positions, Row.key x = Row.key position := by
    intro j hj
    obtain ⟨positionFor, x, hx, hkey⟩ := inv.positions j row position hj
    obtain ⟨y, hy, hsame⟩ := move.positions_kept sound hx
    exact ⟨positionFor, y, hy, hsame.trans hkey⟩
  by_cases hj : j = i
  · subst hj
    rw [Function.update_self] at hstage
    rcases move.position_from hstage with hold | ⟨positionFor, stored⟩
    · exact kept j hold
    · exact ⟨positionFor, position, stored, rfl⟩
  · rw [Function.update_of_ne hj] at hstage
    exact kept j hstage

theorem origin_after (inv : FillsInv requests world₀ stages e.before)
    (move : ExecMove (requests i) (stages i) e stage') (sound : e.Sound semantics) :
    Originates (Function.update stages i stage') world₀.db e.after.db := by
  intro x hx
  rcases move.executions_from sound hx with ⟨old, hold, same⟩ | ⟨-, hrow, -⟩
  · refine (inv.origin old hold).imp (fun ⟨x₀, hx₀, h⟩ => ⟨x₀, hx₀, same.trans h⟩) ?_
    rintro ⟨j, row, hrow, h⟩
    refine ⟨j, row, ?_, same.trans h⟩
    by_cases hj : j = i
    · subst hj
      rw [Function.update_self]
      exact move.row?_kept sound hrow
    · rwa [Function.update_of_ne hj]
  · exact .inr ⟨i, x, by rwa [Function.update_self], .refl x⟩

/-- The sum over all requests moves by what it moves at the request that steps. -/
theorem sum_update (stages : ι → ExecStage) (i : ι) (stage' : ExecStage) :
    ∑ j, (Function.update stages i stage' j).credited accountId symbol =
      ∑ j, (stages j).credited accountId symbol +
        (stage'.credited accountId symbol - (stages i).credited accountId symbol) := by
  have hnew := Finset.add_sum_erase Finset.univ
    (fun j => (Function.update stages i stage' j).credited accountId symbol) (Finset.mem_univ i)
  have hold := Finset.add_sum_erase Finset.univ
    (fun j => (stages j).credited accountId symbol) (Finset.mem_univ i)
  have hrest : ∑ j ∈ Finset.univ.erase i,
        (Function.update stages i stage' j).credited accountId symbol =
      ∑ j ∈ Finset.univ.erase i, (stages j).credited accountId symbol :=
    Finset.sum_congr rfl fun j hj => by rw [Function.update_of_ne (Finset.ne_of_mem_erase hj)]
  rw [hrest, Function.update_self] at hnew
  omega

omit [DecidableEq ι] in
theorem start : FillsInv requests world₀ (fun _ => .start) world₀ where
  toExecInv := .start
  positions _ _ _ h := by rcases h with h | h <;> cases h
  origin x hx := .inl ⟨x, hx, .refl x⟩
  answered _ := ⟨fun _ h => (by cases h), fun _ _ _ h => by cases h⟩
  sum _ _ := by simp [ExecStage.credited]

/-- One step of any request, when a position is written over what was loaded of it. -/
theorem step (inv : FillsInv requests world₀ stages e.before)
    (move : ExecMove (requests i) (stages i) e stage') (sound : e.Sound semantics)
    (loaded : WritesLoaded e) :
    FillsInv requests world₀ (Function.update stages i stage') e.after where
  toExecInv := inv.toExecInv.step move sound
  positions := inv.positions_after move sound
  origin := inv.origin_after move sound
  answered := by
    refine (Function.forall_update_iff stages
      (p := fun j stage => Answered (requests j) stage e.after.db)).mpr
      ⟨(inv.answered i).move (inv.stands i) move sound, fun j _ => ⟨fun result hresult => ?_, (inv.answered j).2⟩⟩
    obtain ⟨signalId, accountId, x, hx, same⟩ := (inv.answered j).1 result hresult
    obtain ⟨y, hy, hsame⟩ := move.executions_kept sound hx
    exact ⟨signalId, accountId, y, hy, hsame.trans same⟩
  sum accountId symbol := by
    rw [sum_update, move.positionUnits_after _ _ sound (fun row position h => inv.positions i row position h)
      loaded, inv.sum accountId symbol, add_assoc]

end FillsInv

/-! ### All requests have returned -/

/-- A request for a pair that nobody else asks for, and that had no execution, fills or fails
a row of its own. -/
theorem FillsInv.answered_of_fresh [Fintype ι] {world₀ world : World} {stages : ι → ExecStage}
    (inv : FillsInv requests world₀ stages world)
    (distinct : ∀ i j, (requests i).signalId = (requests j).signalId →
      (requests i).accountId = (requests j).accountId → i = j)
    (fresh : ∀ x ∈ world₀.db.executions, ∀ i,
      ¬ (x.signalId = (requests i).signalId ∧ x.exchangeAccountId = (requests i).accountId))
    {i : ι} {result : OrderExecution} (returns : ExecReturns result (stages i)) :
    ∃ row fill, stages i = .answered row fill result := by
  rcases returns with replayed | answered
  · obtain ⟨signalId, accountId, x, hx, same⟩ := (inv.answered i).1 result replayed
    have hsignal := same.signalId.trans signalId
    have haccount := same.exchangeAccountId.trans accountId
    rcases inv.origin x hx with ⟨x₀, hx₀, h⟩ | ⟨j, row, hrow, h⟩
    · exact absurd ⟨h.signalId.symm.trans hsignal, h.exchangeAccountId.symm.trans haccount⟩
        (fresh x₀ hx₀ i)
    · -- the row would be the one of this request, which has none
      have rowOf := inv.rowOf j row hrow
      have mine : j = i := distinct j i
        (rowOf.signalId.symm.trans (h.signalId.symm.trans hsignal))
        (rowOf.accountId.symm.trans (h.exchangeAccountId.symm.trans haccount))
      rw [mine, replayed] at hrow
      cases hrow
  · exact answered

theorem fillsInv_of_run [Fintype ι] [DecidableEq ι] {world s : World} {trace : Trace backend ι}
    {stages : ι → ExecStage}
    (run : Protocol.Run (fun i => execProtocol (requests i)) semantics (fun _ => .start) world trace
      stages s) (loaded : ∀ x ∈ trace, WritesLoaded x.2) : FillsInv requests world stages s := by
  refine run.invariant (fun trace stages (s : World) => (∀ x ∈ trace, WritesLoaded x.2) →
    FillsInv requests world stages s) (fun _ => .start) ?_ loaded
  intro trace stages i e stage' inv move sound loaded
  exact (inv fun x hx => loaded x (by simp [hx])).step move sound (loaded (i, e) (by simp))

/-- When requests for different signals have all returned `FILLED` and no position was written
over anything but the quantity that was loaded, each position has received every fill. -/
theorem position_eq_initial_add_fills [Fintype ι] [DecidableEq ι] {py : Platform} {world : World}
    {trace : Trace backend ι} {c : Config backend fun _ : ι => Except Exc OrderExecution × Session}
    {result : ι → OrderExecution}
    (run : Config.Run semantics (executing py requests world) trace c)
    (distinct : ∀ i j, (requests i).signalId = (requests j).signalId →
      (requests i).accountId = (requests j).accountId → i = j)
    (fresh : ∀ x ∈ world.db.executions, ∀ i,
      ¬ (x.signalId = (requests i).signalId ∧ x.exchangeAccountId = (requests i).accountId))
    (loaded : ∀ x ∈ trace, WritesLoaded x.2)
    (returned : ∀ i, ∃ s, c.client i = .done (.ok (result i), s))
    (filled : ∀ i, (result i).status = .filled) (accountId symbol : String) :
    positionUnits accountId symbol c.store.db = positionUnits accountId symbol world.db +
      ∑ i, if (result i).exchangeAccountId = accountId ∧ (result i).symbol = symbol then
        signedUnits (result i) else 0 := by
  obtain ⟨stages, tracked, returns⟩ := executing_tracked run
  have inv := fillsInv_of_run tracked loaded
  rw [inv.sum accountId symbol]
  congr 1
  refine Finset.sum_congr rfl fun i _ => ?_
  obtain ⟨s, hdone⟩ := returned i
  obtain ⟨row, fill, hstage⟩ := inv.answered_of_fresh distinct fresh (returns i _ s hdone)
  obtain ⟨same, status⟩ := (inv.answered i).2 row fill (result i) hstage
  rw [hstage] at status ⊢
  cases fill with
  | false =>
    rw [filled i] at status
    cases status
  | true => rw [same.exchangeAccountId, same.symbol, same.signedUnits]; rfl

/-- Two signals to buy one unit each, and one unit held already. -/
def twoSignalWorld : World :=
  { db := sampleDb .simulation
      ⟨[sampleSignal "s1" .buy, sampleSignal "s2" .buy], by decide +kernel⟩
      (oneRow ⟨"u", "a", "BTCUSDT", oneUnit⟩) }

def twoRequests (first : Bool) : ExecRequest := sampleRequest (if first then "s1" else "s2")

/-- The two requests of a schedule, where the first one stops for a while after `steps`. -/
def twoFills (steps : Nat) : Trace backend Bool ×
    Config backend fun _ : Bool => Except Exc OrderExecution × Session :=
  (executing asciiPlatform twoRequests twoSignalWorld).replay semantics
    (environment ⟨true, .empty⟩) 0
    (List.replicate steps true ++ List.replicate 40 false ++ List.replicate 20 true)

theorem twoFills_run (steps : Nat) :
    Config.Run semantics (executing asciiPlatform twoRequests twoSignalWorld) (twoFills steps).1
      (twoFills steps).2 :=
  Config.replay_reaches (environment_allowed _) _ _ _

theorem twoFills_returned : ∀ steps ∈ [21, 40], ∀ i,
    (returned ((twoFills steps).2.client i)).isSome := by decide +kernel

theorem position_eq_initial_add_fills_serial :
    ∃ (trace : _) (c : _) (result : Bool → OrderExecution), Config.Run semantics
        (executing asciiPlatform twoRequests twoSignalWorld) trace c ∧
      (∀ i, ∃ s, c.client i = .done (.ok (result i), s)) ∧
      positionUnits "a" "BTCUSDT" c.store.db = positionUnits "a" "BTCUSDT" twoSignalWorld.db +
        ∑ i, if (result i).exchangeAccountId = "a" ∧ (result i).symbol = "BTCUSDT" then
          signedUnits (result i) else 0 := by
  have hdone := fun i => done_of_returned (Option.some_get (twoFills_returned 40 (by simp) i)).symm
  exact ⟨_, _, _, twoFills_run 40, hdone,
    position_eq_initial_add_fills (twoFills_run 40) (by decide +kernel)
      (fun x hx => nomatch hx) (by decide +kernel) hdone (by decide +kernel) "a" "BTCUSDT"⟩

/-- Both requests read one unit and write two: one of the two fills is lost. -/
theorem position_ne_initial_add_fills :
    ∃ (trace : _) (c : _) (result : Bool → OrderExecution), Config.Run semantics
        (executing asciiPlatform twoRequests twoSignalWorld) trace c ∧
      (∀ i, ∃ s, c.client i = .done (.ok (result i), s)) ∧
      (∀ i, (result i).status = .filled ∧ (result i).exchangeAccountId = "a" ∧
        (result i).symbol = "BTCUSDT") ∧
      positionUnits "a" "BTCUSDT" c.store.db ≠
        positionUnits "a" "BTCUSDT" twoSignalWorld.db + ∑ i, signedUnits (result i) := by
  have hdone := fun i => done_of_returned (Option.some_get (twoFills_returned 21 (by simp) i)).symm
  exact ⟨_, _, _, twoFills_run 21, hdone, by decide +kernel, by decide +kernel⟩

end CopyTrading
