import CopyTrading.ExecutionProtocol

/-!
What holds between the requests of any run and the committed executions: the row a request
has created stays stored with the status of its phase, and no two requests create rows that
conflict.
-/

namespace CopyTrading

open Transaction

/-! ### What a move does to the executions -/

inductive ExecEffect (req : ExecRequest) (stage stage' : ExecStage) : Event backend → Prop where
  | keeps {e : Event backend} (db : e.after.db = e.before.db) (row : stage'.row? = stage.row?)
      (status : stage'.status = stage.status) : ExecEffect req stage stage' e
  | creates {work : Work} {before after : World} {row : OrderExecution}
      (flushed : before.db.flush work = .ok after.db) (trading : TradingWork work [row] none [])
      (rowOf : RowOf req row) (signal : stage.signal?.isSome) (none : stage.row? = none)
      (created : stage' = .created row) :
      ExecEffect req stage stage' (.commit work before after)
  | writes {work : Work} {before after : World}
      {status : Option (String × OrderExecutionStatus)} {moved : List (Instance Position)}
      (flushed : before.db.flush work = .ok after.db) (trading : TradingWork work [] status moved)
      (row : stage'.row? = stage.row?)
      (status : status = none ∧ stage'.status = stage.status ∨
        ∃ row, stage.row? = some row ∧ stage.status ∉ terminalOrderStatuses ∧
          status = some (row.id, stage'.status)) :
      ExecEffect req stage stage' (.commit work before after)

theorem ExecMove.effect {req : ExecRequest} {stage stage' : ExecStage} {e : Event backend}
    (move : ExecMove req stage e stage') (sound : e.Sound semantics) :
    ExecEffect req stage stage' e := by
  cases move with
  | idle idle => exact .keeps (congrArg World.db (after_eq_of_idle idle sound)) rfl rfl
  | enter | know | own | replay | miss | weigh | clear | findPosition | loadPosition =>
    exact .keeps rfl rfl rfl
  | @place _ answer _ _ _ => exact .keeps (db_eq_of_call (show answers _ _ answer _ from sound)) rfl rfl
  | openPosition trading => exact .writes (World.flush_ok sound).1 trading rfl (.inl ⟨rfl, rfl⟩)
  | create rowOf trading => exact .creates (World.flush_ok sound).1 trading rowOf rfl rfl rfl
  | settle trading | tail trading | fund _ trading =>
    exact .writes (World.flush_ok sound).1 trading rfl (.inl ⟨rfl, rfl⟩)
  | pass trading | submit trading | openFilled trading | fill _ trading =>
    exact .writes (World.flush_ok sound).1 trading rfl (.inr ⟨_, rfl, by simp [ExecStage.status, terminalOrderStatuses], rfl⟩)
  | fail from_ trading =>
    rcases from_ with rfl | ⟨_, rfl⟩ <;>
      exact .writes (World.flush_ok sound).1 trading rfl
        (.inr ⟨_, rfl, by simp [ExecStage.status, terminalOrderStatuses], rfl⟩)
  | @answer _ _ _ _ fill from_ =>
    subst from_
    cases fill <;> exact .keeps rfl rfl rfl

/-- A created row stays the row of its request. -/
theorem ExecMove.row?_kept {req : ExecRequest} {stage stage' : ExecStage} {e : Event backend}
    (move : ExecMove req stage e stage') (sound : e.Sound semantics) {row : OrderExecution}
    (hrow : stage.row? = some row) : stage'.row? = some row := by
  cases move.effect sound with
  | keeps _ hkeep => exact hkeep.trans hrow
  | writes _ _ hkeep => exact hkeep.trans hrow
  | creates _ _ _ _ none => rw [none] at hrow; cases hrow

/-! ### The row of a request -/

/-- The row the request has created is stored with the status of the phase. -/
def RowStands (stage : ExecStage) (db : Db) : Prop :=
  ∀ row, stage.row? = some row →
    ∃ x ∈ db.executions, SameOrder x row ∧ x.status = stage.status

theorem RowStands.start {db : Db} : RowStands .start db := fun _ h => by cases h

theorem RowStands.move {req : ExecRequest} {stage stage' : ExecStage} {e : Event backend}
    (stands : RowStands stage e.before.db) (move : ExecMove req stage e stage')
    (sound : e.Sound semantics) : RowStands stage' e.after.db := by
  intro row hrow
  cases move.effect sound with
  | keeps db hkeep status =>
    obtain ⟨x, hx, same, hstatus⟩ := stands row (hkeep.symm.trans hrow)
    exact ⟨x, db.symm ▸ hx, same, hstatus.trans status.symm⟩
  | creates flushed trading rowOf _ none created =>
    subst created
    cases hrow
    exact ⟨row, trading.inserted_mem flushed (List.mem_singleton_self row), .refl row,
      rowOf.status⟩
  | writes flushed trading hkeep status =>
    obtain ⟨x, hx, same, hstatus⟩ := stands row (hkeep.symm.trans hrow)
    obtain ⟨y, hy, hsame, hy'⟩ := trading.executions_kept flushed hx
    refine ⟨y, hy, hsame.trans same, ?_⟩
    rcases status with ⟨rfl, kept⟩ | ⟨row', hrow', -, rfl⟩
    · exact (hy'.trans hstatus).trans kept.symm
    · obtain rfl := Option.some.inj ((hkeep.symm.trans hrow).symm.trans hrow')
      exact hy'.trans (statusAfter_same same.id.symm)

/-- A request leaves the rows of the others alone. -/
theorem RowStands.frame {req : ExecRequest} {other stage stage' : ExecStage} {e : Event backend}
    (stands : RowStands other e.before.db) (move : ExecMove req stage e stage')
    (sound : e.Sound semantics)
    (apart : ∀ row row', other.row? = some row → stage.row? = some row' → row.id ≠ row'.id) :
    RowStands other e.after.db := by
  intro row hrow
  obtain ⟨x, hx, same, hstatus⟩ := stands row hrow
  cases move.effect sound with
  | keeps db => exact ⟨x, db.symm ▸ hx, same, hstatus⟩
  | creates flushed trading =>
    obtain ⟨y, hy, hsame, hy'⟩ := trading.executions_kept flushed hx
    exact ⟨y, hy, hsame.trans same, hy'.trans hstatus⟩
  | writes flushed trading _ status =>
    obtain ⟨y, hy, hsame, hy'⟩ := trading.executions_kept flushed hx
    refine ⟨y, hy, hsame.trans same, hy'.trans ?_⟩
    rcases status with ⟨rfl, -⟩ | ⟨row', hrow', -, rfl⟩
    · exact hstatus
    · have different : row'.id ≠ x.id := fun h => apart row row' hrow hrow' (same.id.symm.trans h.symm)
      exact (statusAfter_other different).trans hstatus

/-! ### All requests together -/

variable {ι : Type} {requests : ι → ExecRequest}

structure ExecInv (requests : ι → ExecRequest) (stages : ι → ExecStage) (db : Db) : Prop where
  rowOf : ∀ i row, (stages i).row? = some row → RowOf (requests i) row
  stands : ∀ i, RowStands (stages i) db
  apart : ∀ i j row row', i ≠ j → (stages i).row? = some row → (stages j).row? = some row' →
    ¬ Row.Conflict row row'

namespace ExecInv

variable {stages : ι → ExecStage}

theorem start {db : Db} : ExecInv requests (fun _ => .start) db where
  rowOf _ _ h := by cases h
  stands _ := .start
  apart _ _ _ _ _ h := by cases h

/-- Where a created row comes from: it is the row of before, or it is new and conflicts with
nothing stored. -/
theorem row?_of_move {req : ExecRequest} {stage stage' : ExecStage} {e : Event backend}
    (move : ExecMove req stage e stage') (sound : e.Sound semantics) {row : OrderExecution}
    (hrow : stage'.row? = some row) :
    stage.row? = some row ∨
      RowOf req row ∧ ∀ x ∈ e.before.db.executions, ¬ Row.Conflict x row := by
  cases move.effect sound with
  | keeps _ hkeep => exact .inl (hkeep.symm.trans hrow)
  | writes _ _ hkeep => exact .inl (hkeep.symm.trans hrow)
  | creates flushed trading rowOf _ none created =>
    subst created
    cases hrow
    exact .inr ⟨rowOf, fun x hx => trading.inserted_fresh flushed hx⟩

theorem conflict_congr {a b c : OrderExecution} (same : SameOrder a b) :
    Row.Conflict a c ↔ Row.Conflict b c := by
  unfold Row.Conflict
  rw [same.key]

/-- One step of any request keeps the invariant. -/
theorem step [DecidableEq ι] {i : ι} {e : Event backend} {stage' : ExecStage}
    (inv : ExecInv requests stages e.before.db) (move : ExecMove (requests i) (stages i) e stage')
    (sound : e.Sound semantics) :
    ExecInv requests (Function.update stages i stage') e.after.db where
  rowOf j row hrow := by
    by_cases hj : j = i
    · subst hj
      rw [Function.update_self] at hrow
      rcases row?_of_move move sound hrow with hrow | ⟨rowOf, -⟩
      · exact inv.rowOf j row hrow
      · exact rowOf
    · rw [Function.update_of_ne hj] at hrow
      exact inv.rowOf j row hrow
  stands j := by
    by_cases hj : j = i
    · subst hj
      rw [Function.update_self]
      exact (inv.stands j).move move sound
    · rw [Function.update_of_ne hj]
      refine (inv.stands j).frame move sound fun row row' hrow hrow' hid => ?_
      exact inv.apart j i row row' hj hrow hrow' (.inl hid)
  apart := by
    -- a row that was just created conflicts with no stored row, so with no row of another
    have fresh : ∀ j row row', j ≠ i → (stages j).row? = some row →
        stage'.row? = some row' → ¬ Row.Conflict row row' := by
      intro j row row' hj hrow hrow'
      rcases row?_of_move move sound hrow' with hrow' | ⟨-, fresh⟩
      · exact inv.apart j i row row' hj hrow hrow'
      · obtain ⟨x, hx, same, -⟩ := inv.stands j row hrow
        exact fun conflict => fresh x hx ((conflict_congr same).mpr conflict)
    intro j k row row' hjk hrow hrow'
    by_cases hj : j = i
    · subst hj
      rw [Function.update_self] at hrow
      rw [Function.update_of_ne hjk.symm] at hrow'
      exact fun conflict => fresh k row' row hjk.symm hrow' hrow (Row.clash_symm conflict)
    · rw [Function.update_of_ne hj] at hrow
      by_cases hk : k = i
      · subst hk
        rw [Function.update_self] at hrow'
        exact fresh j row row' hj hrow hrow'
      · rw [Function.update_of_ne hk] at hrow'
        exact inv.apart j k row row' hjk hrow hrow'

end ExecInv

end CopyTrading
