import Mathlib.Algebra.BigOperators.Group.List.Basic
import Mathlib.Algebra.Ring.Int.Defs
import Mathlib.Data.List.Pairwise

/-!
Tables with unique constraints, and the instances an object-relational session
loads from them. A table carries the proof that no two of its rows break a
constraint, so a violating table cannot be built; an insert that would violate one
is refused. An instance remembers the row it was loaded from and the attributes set
since; writing it back touches those attributes only.
-/

namespace Transaction

/-- A kind of row. `key` is what the constraints read, `Clash` when two keys break
one of them, `primary` the primary key, and `Change` a set of attribute updates. -/
class Row (ρ : Type) where
  Key : Type
  key : ρ → Key
  Clash : Key → Key → Prop
  clash_symm : ∀ {a b : Key}, Clash a b → Clash b a
  decideClash : ∀ a b : Key, Decidable (Clash a b)
  Primary : Type
  primary : Key → Primary
  decidePrimary : DecidableEq Primary
  clash_of_primary : ∀ {a b : Key}, primary a = primary b → Clash a b
  Change : Type
  apply : Change → ρ → ρ
  key_apply : ∀ (change : Change) (row : ρ), key (apply change row) = key row

namespace Row

variable {ρ : Type} [Row ρ]

instance (a b : Key ρ) : Decidable (Clash a b) := decideClash a b

instance : DecidableEq (Primary ρ) := decidePrimary

/-- Two rows that may not stand in one table. -/
def Conflict (a b : ρ) : Prop := Clash (key a) (key b)

instance (a b : ρ) : Decidable (Conflict a b) := inferInstanceAs (Decidable (Clash _ _))

def SamePrimary (a b : ρ) : Prop := primary (key a) = primary (key b)

instance (a b : ρ) : Decidable (SamePrimary a b) := inferInstanceAs (Decidable (_ = _))

theorem SamePrimary.conflict {a b : ρ} (same : SamePrimary a b) : Conflict a b :=
  clash_of_primary same

end Row

/-- A loaded row and the attributes set on it since. -/
structure Instance (ρ : Type) [Row ρ] where
  loaded : ρ
  change : Row.Change ρ

/-- The attributes as the session sees them. -/
def Instance.current {ρ : Type} [Row ρ] (x : Instance ρ) : ρ := Row.apply x.change x.loaded

structure Table (ρ : Type) [Row ρ] where
  rows : List ρ
  distinct : rows.Pairwise fun a b => ¬ Row.Conflict a b

namespace Table

variable {ρ : Type} [Row ρ]

instance : Membership ρ (Table ρ) := ⟨fun table row => row ∈ table.rows⟩

theorem mem_def {table : Table ρ} {row : ρ} : row ∈ table ↔ row ∈ table.rows := Iff.rfl

theorem ext {a b : Table ρ} (same : a.rows = b.rows) : a = b := by
  obtain ⟨rows, distinct⟩ := a
  cases same
  rfl

instance {table : Table ρ} {p : ρ → Prop} [DecidablePred p] : Decidable (∀ row ∈ table, p row) :=
  inferInstanceAs (Decidable (∀ row ∈ table.rows, p row))

instance {table : Table ρ} {p : ρ → Prop} [DecidablePred p] : Decidable (∃ row ∈ table, p row) :=
  inferInstanceAs (Decidable (∃ row ∈ table.rows, p row))

def empty : Table ρ := ⟨[], .nil⟩

instance : Inhabited (Table ρ) := ⟨empty⟩

/-- Rows of one table that conflict are the same row. -/
theorem eq_of_conflict {table : Table ρ} {a b : ρ} (ha : a ∈ table) (hb : b ∈ table)
    (conflict : Row.Conflict a b) : a = b := by
  have : Std.Symm fun a b : ρ => ¬ Row.Conflict a b := ⟨fun a b h => mt Row.clash_symm h⟩
  by_contra hne
  exact table.distinct.forall ha hb hne conflict

def find? (table : Table ρ) (p : ρ → Bool) : Option ρ := table.rows.find? p

theorem mem_of_find? {table : Table ρ} {p : ρ → Bool} {row : ρ} (found : table.find? p = some row) :
    row ∈ table :=
  List.mem_of_find?_eq_some found

theorem holds_of_find? {table : Table ρ} {p : ρ → Bool} {row : ρ}
    (found : table.find? p = some row) : p row = true :=
  List.find?_some found

theorem not_of_find?_none {table : Table ρ} {p : ρ → Bool} (missing : table.find? p = none)
    {row : ρ} (hrow : row ∈ table) : p row = false := by
  simpa using List.find?_eq_none.mp missing row hrow

/-! ### Inserting -/

/-- Insert a row, unless a constraint refuses it. -/
def insert (table : Table ρ) (row : ρ) : Option (Table ρ) :=
  if fresh : ∀ old ∈ table.rows, ¬ Row.Conflict old row then
    some ⟨table.rows ++ [row], by
      refine List.pairwise_append.mpr ⟨table.distinct, List.pairwise_singleton _ _, ?_⟩
      intro old hold new hnew
      rw [List.mem_singleton.mp hnew]
      exact fresh old hold⟩
  else
    none

theorem rows_insert {table table' : Table ρ} {row : ρ} (inserted : table.insert row = some table') :
    table'.rows = table.rows ++ [row] := by
  unfold insert at inserted
  split at inserted
  · cases inserted
    rfl
  · cases inserted

theorem fresh_of_insert {table table' : Table ρ} {row : ρ}
    (inserted : table.insert row = some table') {old : ρ} (hold : old ∈ table) :
    ¬ Row.Conflict old row := by
  unfold insert at inserted
  split at inserted
  · next fresh => exact fresh old hold
  · cases inserted

theorem insert_of_fresh {table : Table ρ} {row : ρ}
    (fresh : ∀ old ∈ table, ¬ Row.Conflict old row) : ∃ table', table.insert row = some table' :=
  ⟨_, dif_pos fresh⟩

theorem mem_insert {table table' : Table ρ} {row x : ρ} (inserted : table.insert row = some table') :
    x ∈ table' ↔ x ∈ table ∨ x = row := by
  simp [mem_def, rows_insert inserted]

def insertAll (table : Table ρ) (rows : List ρ) : Option (Table ρ) := rows.foldlM insert table

@[simp] theorem insertAll_nil {table : Table ρ} : table.insertAll [] = some table := rfl

theorem insertAll_cons {table table' : Table ρ} {row : ρ} {rest : List ρ} :
    table.insertAll (row :: rest) = some table' ↔
      ∃ mid, table.insert row = some mid ∧ mid.insertAll rest = some table' := by
  simp [insertAll, List.foldlM_cons, Option.bind_eq_some_iff]

theorem rows_insertAll {table table' : Table ρ} {rows : List ρ}
    (inserted : table.insertAll rows = some table') : table'.rows = table.rows ++ rows := by
  induction rows generalizing table with
  | nil =>
    cases inserted
    simp
  | cons row rest ih =>
    obtain ⟨mid, hrow, hrest⟩ := insertAll_cons.mp inserted
    rw [ih hrest, rows_insert hrow, List.append_assoc, List.singleton_append]

theorem mem_insertAll {table table' : Table ρ} {rows : List ρ} {x : ρ}
    (inserted : table.insertAll rows = some table') : x ∈ table' ↔ x ∈ table ∨ x ∈ rows := by
  simp [mem_def, rows_insertAll inserted]

theorem fresh_of_insertAll {table table' : Table ρ} {rows : List ρ}
    (inserted : table.insertAll rows = some table') {old row : ρ} (hold : old ∈ table)
    (hrow : row ∈ rows) : ¬ Row.Conflict old row := by
  have distinct := table'.distinct
  rw [rows_insertAll inserted] at distinct
  exact (List.pairwise_append.mp distinct).2.2 old hold row hrow

/-! ### Writing instances back -/

/-- A change of rows that leaves what the constraints read. -/
def rewrite (table : Table ρ) (f : ρ → ρ) (keeps : ∀ row, Row.key (f row) = Row.key row) :
    Table ρ where
  rows := table.rows.map f
  distinct := by
    refine List.pairwise_map.mpr (table.distinct.imp ?_)
    intro a b distinct conflict
    unfold Row.Conflict at conflict distinct
    rw [keeps, keeps] at conflict
    exact distinct conflict

/-- What a list of instances makes of a row: the changes of those loaded from it. -/
def updated (dirty : List (Instance ρ)) (row : ρ) : ρ :=
  dirty.foldl (fun row x => if Row.SamePrimary x.loaded row then Row.apply x.change row else row) row

@[simp] theorem updated_nil (row : ρ) : updated [] row = row := rfl

theorem updated_cons (x : Instance ρ) (rest : List (Instance ρ)) (row : ρ) :
    updated (x :: rest) row =
      updated rest (if Row.SamePrimary x.loaded row then Row.apply x.change row else row) := rfl

@[simp] theorem key_updated (dirty : List (Instance ρ)) (row : ρ) :
    Row.key (updated dirty row) = Row.key row := by
  induction dirty generalizing row with
  | nil => rfl
  | cons x rest ih =>
    rw [updated_cons, ih]
    split
    · exact Row.key_apply _ _
    · rfl

/-- What every change of the row keeps is kept by all of them. -/
theorem updated_keeps_of_same {P : ρ → Prop} {dirty : List (Instance ρ)} {row : ρ}
    (each : ∀ x ∈ dirty, ∀ row, Row.SamePrimary x.loaded row → P row → P (Row.apply x.change row))
    (holds : P row) : P (updated dirty row) := by
  induction dirty generalizing row with
  | nil => exact holds
  | cons x rest ih =>
    rw [updated_cons]
    refine ih (fun y hy => each y (List.mem_cons_of_mem _ hy)) ?_
    split
    · next same => exact each x List.mem_cons_self row same holds
    · exact holds

/-- What every change keeps is kept by all of them. -/
theorem updated_keeps {P : ρ → Prop} {dirty : List (Instance ρ)} {row : ρ}
    (each : ∀ x ∈ dirty, ∀ row, P row → P (Row.apply x.change row)) (holds : P row) :
    P (updated dirty row) :=
  updated_keeps_of_same (fun x hx row _ => each x hx row) holds

def writeBack (table : Table ρ) (dirty : List (Instance ρ)) : Table ρ :=
  table.rewrite (updated dirty) (key_updated dirty)

@[simp] theorem rows_writeBack (table : Table ρ) (dirty : List (Instance ρ)) :
    (table.writeBack dirty).rows = table.rows.map (updated dirty) := rfl

theorem mem_writeBack {table : Table ρ} {dirty : List (Instance ρ)} {row : ρ} :
    row ∈ table.writeBack dirty ↔ ∃ old ∈ table, updated dirty old = row := by
  simp [mem_def]

@[simp] theorem writeBack_nil (table : Table ρ) : table.writeBack [] = table := by
  obtain ⟨rows, distinct⟩ := table
  have hid : rows.map (updated []) = rows := List.map_id _
  simp [writeBack, rewrite, hid]

/-- A search by attributes that the updates keep finds the updated row. -/
theorem find?_writeBack {table : Table ρ} {dirty : List (Instance ρ)} {p : ρ → Bool}
    (keeps : ∀ row, p (updated dirty row) = p row) :
    (table.writeBack dirty).find? p = (table.find? p).map (updated dirty) := by
  unfold find?
  rw [rows_writeBack, List.find?_map]
  exact congrArg _ (congrArg (table.rows.find? ·) (funext keeps))

/-- A sum over the rows changes by what it changes at the one row where it does. -/
theorem sum_eq_add_of_mem {table : Table ρ} {f g : ρ → Int} {x : ρ} (hx : x ∈ table)
    (others : ∀ row ∈ table, ¬ Row.Conflict row x → f row = g row) :
    (table.rows.map f).sum = (table.rows.map g).sum + (f x - g x) := by
  obtain ⟨front, back, hrows⟩ := List.append_of_mem hx
  have distinct := table.distinct
  rw [hrows] at distinct
  obtain ⟨-, hback, hfront⟩ := List.pairwise_append.mp distinct
  have hfront' : front.map f = front.map g := List.map_congr_left fun row hrow =>
    others row (by simp [mem_def, hrows, hrow]) (hfront row hrow x List.mem_cons_self)
  have hback' : back.map f = back.map g := List.map_congr_left fun row hrow =>
    others row (by simp [mem_def, hrows, hrow])
      fun conflict => List.rel_of_pairwise_cons hback hrow (Row.clash_symm conflict)
  rw [hrows]
  simp only [List.map_append, List.map_cons, List.sum_append, List.sum_cons, hfront', hback']
  omega

/-! ### Deleting -/

def deleteWhere (table : Table ρ) (p : ρ → Bool) : Table ρ where
  rows := table.rows.filter fun row => !p row
  distinct := table.distinct.filter _

theorem mem_deleteWhere {table : Table ρ} {p : ρ → Bool} {row : ρ} :
    row ∈ table.deleteWhere p ↔ row ∈ table ∧ p row = false := by
  simp [mem_def, deleteWhere]

end Table

end Transaction
