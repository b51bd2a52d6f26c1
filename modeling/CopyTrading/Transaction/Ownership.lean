import CopyTrading.Transaction.Table

/-!
Rows that belong to somebody. What is written on behalf of one owner is rows of that owner and
changes of such rows, so the rows of everybody else stay as they are.
-/

namespace Transaction

/-- Rows that name their owner in a column that no change touches. -/
class OwnedRow (ρ : Type) (O : outParam Type) [Row ρ] where
  owner : ρ → O
  owner_apply : ∀ (change : Row.Change ρ) (row : ρ), owner (Row.apply change row) = owner row

open OwnedRow

variable {ρ O : Type} [Row ρ] [OwnedRow ρ O] {mine : O} {before after : Table ρ}
  {dirty : List (Instance ρ)} {added : List ρ}

theorem owner_updated (dirty : List (Instance ρ)) (row : ρ) :
    owner (Table.updated dirty row) = owner row :=
  Table.updated_keeps (P := fun new => owner new = owner row)
    (fun x _ new same => (owner_apply x.change new).trans same) rfl

/-! ### Rows that are written -/

/-- What the changes keep holds of the rows that are written, when it holds of the old and of the
added ones. -/
theorem Table.forall_written {P : ρ → Prop}
    (written : (before.writeBack dirty).insertAll added = some after)
    (apply : ∀ (change : Row.Change ρ) (row : ρ), P row → P (Row.apply change row))
    (old : ∀ row ∈ before, P row) (new : ∀ row ∈ added, P row) : ∀ row ∈ after, P row := by
  intro row mem
  rcases (mem_insertAll written).mp mem with kept | inserted
  · obtain ⟨stored, hstored, rfl⟩ := mem_writeBack.mp kept
    exact updated_keeps (fun x _ row holds => apply x.change row holds) (old stored hstored)
  · exact new row inserted

/-- A row that was there still is, under its key and with its owner. -/
theorem Table.kept_of_written (written : (before.writeBack dirty).insertAll added = some after)
    {row : ρ} (stored : row ∈ before) :
    ∃ new ∈ after, Row.key new = Row.key row ∧ owner new = owner row :=
  ⟨updated dirty row, (mem_insertAll written).mpr (.inl (mem_writeBack.mpr ⟨row, stored, rfl⟩)),
    key_updated dirty row, owner_updated dirty row⟩

/-! ### Sparing the rows of others -/

/-- The rows of the others are those there were. -/
def SparesOthers (mine : O) (before after : Table ρ) : Prop :=
  ∀ row, owner row ≠ mine → (row ∈ after ↔ row ∈ before)

namespace SparesOthers

theorem refl (table : Table ρ) : SparesOthers mine table table := fun _ _ => Iff.rfl

theorem trans {mid : Table ρ} (first : SparesOthers mine before mid)
    (second : SparesOthers mine mid after) : SparesOthers mine before after :=
  fun row other => (second row other).trans (first row other)

/-- Deleting rows of the owner. -/
theorem deleteWhere {p : ρ → Bool} (own : ∀ row ∈ before, p row = true → owner row = mine) :
    SparesOthers mine before (before.deleteWhere p) := by
  intro row other
  rw [Table.mem_deleteWhere]
  refine ⟨fun kept => kept.1, fun stored => ⟨stored, ?_⟩⟩
  by_contra deleted
  exact other (own row stored (eq_true_of_ne_false deleted))

end SparesOthers

/-- The instance changes nothing, or was loaded from a row of the owner. -/
def Instance.ChangesOwn (mine : O) (table : Table ρ) (x : Instance ρ) : Prop :=
  (∀ row, Row.apply x.change row = row) ∨ x.loaded ∈ table ∧ owner x.loaded = mine

/-- What is written to a table on behalf of the owner. -/
structure WritesOwn (mine : O) (table : Table ρ) (dirty : List (Instance ρ)) (added : List ρ) :
    Prop where
  changed : ∀ x ∈ dirty, x.ChangesOwn mine table
  added : ∀ row ∈ added, owner row = mine

namespace WritesOwn

variable {table : Table ρ}

theorem nil : WritesOwn mine table [] [] where
  changed _ mem := (List.not_mem_nil mem).elim
  added _ mem := (List.not_mem_nil mem).elim

theorem add (own : WritesOwn mine table dirty added) {row : ρ} (belongs : owner row = mine) :
    WritesOwn mine table dirty (added ++ [row]) where
  changed := own.changed
  added other mem := by
    rcases List.mem_append.mp mem with earlier | last
    · exact own.added other earlier
    · rw [List.mem_singleton.mp last]
      exact belongs

theorem change (own : WritesOwn mine table dirty added) {x : Instance ρ}
    (changes : x.ChangesOwn mine table) : WritesOwn mine table (dirty ++ [x]) added where
  changed y mem := by
    rcases List.mem_append.mp mem with earlier | last
    · exact own.changed y earlier
    · rw [List.mem_singleton.mp last]
      exact changes
  added := own.added

/-- The rows that are added may be set as the others. -/
theorem map (own : WritesOwn mine table dirty added) {set : ρ → ρ}
    (keeps : ∀ row, owner (set row) = owner row) :
    WritesOwn mine table dirty (added.map set) where
  changed := own.changed
  added row mem := by
    obtain ⟨old, hold, rfl⟩ := List.mem_map.mp mem
    exact (keeps old).trans (own.added old hold)

/-- A row of another owner is not changed. -/
theorem updated_other (own : WritesOwn mine table dirty added) {row : ρ} (stored : row ∈ table)
    (other : owner row ≠ mine) : Table.updated dirty row = row := by
  refine Table.updated_keeps_of_same (P := fun new => new = row) ?_ rfl
  rintro x mem new same rfl
  rcases own.changed x mem with idle | ⟨loaded, belongs⟩
  · exact idle new
  · rw [Table.eq_of_conflict loaded stored same.conflict] at belongs
    exact absurd belongs other

/-- The rows of the others stay as they are. -/
theorem spares (own : WritesOwn mine before dirty added)
    (written : (before.writeBack dirty).insertAll added = some after) :
    SparesOthers mine before after := by
  intro row other
  constructor
  · intro mem
    rcases (Table.mem_insertAll written).mp mem with kept | new
    · obtain ⟨old, stored, rfl⟩ := Table.mem_writeBack.mp kept
      rw [owner_updated] at other
      exact (own.updated_other stored other).symm ▸ stored
    · exact absurd (own.added row new) other
  · intro stored
    refine (Table.mem_insertAll written).mpr (.inl (Table.mem_writeBack.mpr ⟨row, stored, ?_⟩))
    exact own.updated_other stored other

end WritesOwn

end Transaction
