import Mathlib.Data.List.Forall2
import Mathlib.Data.List.Induction
import CopyTrading.Fallible
import CopyTrading.Transaction.Table

/-!
What a session has pending in one table, and rows that are set or added by name. Upserting a
list of entries leaves exactly their rows and the rows that none of them names; doing it again
changes nothing.
-/

namespace Transaction

variable {ρ : Type} [Row ρ]

namespace Table

theorem updated_append (a b : List (Instance ρ)) (row : ρ) :
    updated (a ++ b) row = updated b (updated a row) := List.foldl_append

/-- Rows are inserted when nothing conflicts. -/
theorem insertAll_of_distinct {table : Table ρ} {rows : List ρ}
    (distinct : (table.rows ++ rows).Pairwise fun a b => ¬ Row.Conflict a b) :
    ∃ table', table.insertAll rows = some table' := by
  induction rows generalizing table with
  | nil => exact ⟨table, rfl⟩
  | cons row rest ih =>
    obtain ⟨mid, inserted⟩ : ∃ mid, table.insert row = some mid :=
      insert_of_fresh fun old hold =>
        (List.pairwise_append.mp distinct).2.2 old hold row List.mem_cons_self
    rw [← List.singleton_append, ← List.append_assoc, ← rows_insert inserted] at distinct
    obtain ⟨table', rest⟩ := ih distinct
    exact ⟨table', insertAll_cons.mpr ⟨mid, inserted, rest⟩⟩

end Table

/-! ### Pending rows of one table -/

structure Pending (ρ : Type) [Row ρ] where
  changes : List (Instance ρ) := []
  added : List ρ := []

/-- A test that reads what no change touches, and that rows of one key alone can pass. -/
structure Names (named : ρ → Bool) : Prop where
  stable : ∀ (change : Row.Change ρ) (row : ρ), named (Row.apply change row) = named row
  single : ∀ {a b : ρ}, named a = true → named b = true → Row.SamePrimary a b

theorem Names.updated {named : ρ → Bool} (names : Names named) (dirty : List (Instance ρ))
    (row : ρ) : named (Table.updated dirty row) = named row := by
  induction dirty generalizing row with
  | nil => rfl
  | cons x rest ih =>
    rw [Table.updated_cons, ih]
    split
    · exact names.stable x.change row
    · rfl

/-- Set the named rows, or add one. -/
def upsertRow (named : ρ → Bool) (change : Row.Change ρ) (row : ρ) (rows : List ρ) : List ρ :=
  if rows.any named then rows.map fun old => if named old then Row.apply change old else old
  else rows ++ [row]

namespace Pending

/-- The rows as the open transaction has them. -/
def rows (pending : Pending ρ) (table : Table ρ) : List ρ :=
  table.rows.map (Table.updated pending.changes) ++ pending.added

/-- Set the attributes of the named row, added or committed, or add one. -/
def upsert (table : Table ρ) (named : ρ → Bool) (change : Row.Change ρ) (row : ρ)
    (pending : Pending ρ) : Pending ρ :=
  if pending.added.any named then
    { pending with
      added := pending.added.map fun old => if named old then Row.apply change old else old }
  else
    match table.find? named with
    | some old => { pending with changes := pending.changes ++ [⟨old, change⟩] }
    | none => { pending with added := pending.added ++ [row] }

variable {table : Table ρ} {named : ρ → Bool} {change : Row.Change ρ} {row : ρ}
  {pending : Pending ρ}

/-- Rows that the test does not name stay as they are. -/
theorem map_unnamed {rows : List ρ} (unnamed : ∀ row ∈ rows, named row = false) :
    rows.map (fun old => if named old then Row.apply change old else old) = rows := by
  refine (List.map_congr_left fun old hold => ?_).trans (List.map_id _)
  rw [unnamed old hold]
  rfl

/-- An upsert of what is pending is an upsert of the rows. -/
theorem rows_upsert (names : Names named)
    (distinct : (pending.rows table).Pairwise fun a b => ¬ Row.Conflict a b) :
    (pending.upsert table named change row).rows table =
      upsertRow named change row (pending.rows table) := by
  have apart := (List.pairwise_append.mp distinct).2.2
  unfold upsert upsertRow
  by_cases added : pending.added.any named
  · -- a committed row of that name would conflict with the added one
    have unnamed : ∀ old ∈ table.rows.map (Table.updated pending.changes), named old = false := by
      intro old hold
      obtain ⟨new, hnew, hnamed⟩ := List.any_eq_true.mp added
      by_contra hold'
      exact apart old hold new hnew (names.single (eq_true_of_ne_false hold') hnamed).conflict
    have some : (pending.rows table).any named = true := by
      unfold rows
      rw [List.any_append, added, Bool.or_true]
    rw [if_pos added, if_pos some]
    unfold rows
    rw [List.map_append, map_unnamed unnamed]
  · rw [if_neg added]
    have unadded : ∀ new ∈ pending.added, named new = false := by
      intro new hnew
      by_contra hnamed
      exact added (List.any_eq_true.mpr ⟨new, hnew, eq_true_of_ne_false hnamed⟩)
    cases hfind : table.find? named with
    | some old =>
      have hold : named old = true := Table.holds_of_find? hfind
      have stored := Table.mem_of_find? hfind
      have some : (pending.rows table).any named = true := by
        refine List.any_eq_true.mpr ⟨Table.updated pending.changes old, ?_, ?_⟩
        · exact List.mem_append_left _ (List.mem_map_of_mem stored)
        · rw [names.updated, hold]
      rw [if_pos some]
      unfold rows
      rw [List.map_append, map_unnamed unadded, List.map_map]
      refine congrArg (· ++ pending.added) (List.map_congr_left fun other hother => ?_)
      rw [Table.updated_append, Table.updated_cons, Table.updated_nil, Function.comp_apply]
      -- the loaded row is the one the test names
      refine if_congr ⟨fun same => ?_, fun hnamed => ?_⟩ rfl rfl
      · have key : Row.SamePrimary old other := by
          have same' : Row.SamePrimary old (Table.updated pending.changes other) := same
          unfold Row.SamePrimary at same' ⊢
          rwa [Table.key_updated] at same'
        rw [names.updated, ← Table.eq_of_conflict stored hother key.conflict, hold]
      · exact names.single hold hnamed
    | none =>
      have none : ¬ (pending.rows table).any named = true := by
        intro some
        obtain ⟨found, hfound, hnamed⟩ := List.any_eq_true.mp some
        rcases List.mem_append.mp hfound with hstored | hadded
        · obtain ⟨old, hold, rfl⟩ := List.mem_map.mp hstored
          rw [names.updated, Table.not_of_find?_none hfind hold] at hnamed
          cases hnamed
        · rw [unadded found hadded] at hnamed
          cases hnamed
      rw [if_neg none]
      exact (List.append_assoc _ _ _).symm

/-- An upsert keeps the keys there are. -/
theorem keys_upsert : ∃ more, ((pending.upsert table named change row).rows table).map Row.key =
    (pending.rows table).map Row.key ++ more := by
  have keys (p : Pending ρ) : (p.rows table).map Row.key =
      table.rows.map Row.key ++ p.added.map Row.key := by
    unfold rows
    rw [List.map_append, List.map_map]
    exact congrArg (· ++ _) (List.map_congr_left fun old _ => Table.key_updated _ _)
  rw [keys, keys]
  unfold upsert
  split
  · refine ⟨[], ?_⟩
    rw [List.append_nil, List.map_map]
    refine congrArg (_ ++ ·) (List.map_congr_left fun old _ => ?_)
    rw [Function.comp_apply]
    split
    · exact Row.key_apply _ _
    · rfl
  · split
    · exact ⟨[], (List.append_nil _).symm⟩
    · exact ⟨[Row.key row], by rw [List.map_append, List.append_assoc]; rfl⟩

theorem distinct_of_upsert (distinct : ((pending.upsert table named change row).rows table).Pairwise
    fun a b => ¬ Row.Conflict a b) : (pending.rows table).Pairwise fun a b => ¬ Row.Conflict a b := by
  obtain ⟨more, keys⟩ := @keys_upsert _ _ table named change row pending
  have onKeys : (((pending.upsert table named change row).rows table).map Row.key).Pairwise
      fun a b => ¬ Row.Clash a b := List.pairwise_map.mpr distinct
  rw [keys] at onKeys
  exact List.pairwise_map.mp (List.pairwise_append.mp onKeys).1

/-- The first upsert of a transaction is written, when the test names every row that the
added one would conflict with. -/
theorem exists_write_upsert (named_of_conflict : ∀ old ∈ table, Row.Conflict old row → named old = true) :
    ∃ after, (table.writeBack (upsert table named change row {}).changes).insertAll
      (upsert table named change row {}).added = some after := by
  unfold upsert
  rw [if_neg (by simp)]
  cases hfind : table.find? named with
  | some old => exact ⟨_, Table.insertAll_nil⟩
  | none =>
    have fresh : ∀ old ∈ table, ¬ Row.Conflict old row := by
      intro old hold conflict
      have unnamed := Table.not_of_find?_none hfind hold
      rw [named_of_conflict old hold conflict] at unnamed
      cases unnamed
    obtain ⟨after, inserted⟩ := Table.insert_of_fresh fresh
    refine ⟨after, ?_⟩
    rw [Table.writeBack_nil]
    exact Table.insertAll_cons.mpr ⟨after, inserted, Table.insertAll_nil⟩

end Pending

/-! ### Upserting a list of entries -/

/-- Entries that each determine one row: its name, the attributes set, and the whole row. -/
structure Upserts (ρ ε : Type) [Row ρ] where
  named : ε → ρ → Bool
  change : ε → Row.Change ρ
  row : ε → ρ
  names : ∀ e, Names (named e)
  own : ∀ e, named e (row e) = true
  determined : ∀ {e old}, named e old = true → Row.apply (change e) old = row e

namespace Upserts

variable {ε : Type} (upserts : Upserts ρ ε)

def rows (entries : List ε) (rows : List ρ) : List ρ :=
  entries.foldl (fun rows e => upsertRow (upserts.named e) (upserts.change e) (upserts.row e) rows)
    rows

def pending (table : Table ρ) (entries : List ε) (pending : Pending ρ) : Pending ρ :=
  entries.foldl
    (fun pending e => pending.upsert table (upserts.named e) (upserts.change e) (upserts.row e))
    pending

/-- Two entries that name one row make the same of it. -/
def Apart (entries : List ε) : Prop :=
  ∀ a ∈ entries, ∀ b ∈ entries, upserts.named a (upserts.row b) = true → upserts.row b = upserts.row a

variable {upserts} {entries : List ε} {rows : List ρ} {e : ε}

theorem mem_upsertRow {x : ρ} :
    x ∈ upsertRow (upserts.named e) (upserts.change e) (upserts.row e) rows ↔
      x = upserts.row e ∨ x ∈ rows ∧ upserts.named e x = false := by
  unfold upsertRow
  split
  · next some =>
    obtain ⟨old, hold, hnamed⟩ := List.any_eq_true.mp some
    rw [List.mem_map]
    constructor
    · rintro ⟨old', hold', rfl⟩
      split
      · next named => exact .inl (upserts.determined named)
      · next other => exact .inr ⟨hold', eq_false_of_ne_true other⟩
    · rintro (rfl | ⟨hx, other⟩)
      · exact ⟨old, hold, by rw [if_pos hnamed, upserts.determined hnamed]⟩
      · exact ⟨x, hx, by rw [other]; rfl⟩
  · next none =>
    rw [List.mem_append, List.mem_singleton, or_comm]
    refine or_congr_right ⟨fun hx => ⟨hx, ?_⟩, fun h => h.1⟩
    by_contra named
    exact none (List.any_eq_true.mpr ⟨x, hx, eq_true_of_ne_false named⟩)

/-- The rows of the entries, and the rows that no entry names. -/
theorem mem_rows (apart : upserts.Apart entries) {x : ρ} :
    x ∈ upserts.rows entries rows ↔
      (∃ e ∈ entries, x = upserts.row e) ∨ x ∈ rows ∧ ∀ e ∈ entries, upserts.named e x = false := by
  induction entries generalizing rows with
  | nil => simp [Upserts.rows]
  | cons e rest ih =>
    have apart' : upserts.Apart rest := fun a ha b hb =>
      apart a (List.mem_cons_of_mem _ ha) b (List.mem_cons_of_mem _ hb)
    refine (ih apart').trans ?_
    rw [mem_upsertRow]
    constructor
    · rintro (⟨e', he', rfl⟩ | ⟨rfl | ⟨hx, other⟩, others⟩)
      · exact .inl ⟨e', List.mem_cons_of_mem _ he', rfl⟩
      · exact .inl ⟨e, List.mem_cons_self, rfl⟩
      · exact .inr ⟨hx, List.forall_mem_cons.mpr ⟨other, others⟩⟩
    · rintro (⟨e', he', rfl⟩ | ⟨hx, others⟩)
      · rcases List.mem_cons.mp he' with rfl | he'
        · by_cases later : ∃ e'' ∈ rest, upserts.named e'' (upserts.row e') = true
          · obtain ⟨e'', he'', named⟩ := later
            exact .inl ⟨e'', he'', apart e'' (List.mem_cons_of_mem _ he'') e' List.mem_cons_self named⟩
          · refine .inr ⟨.inl rfl, fun e'' he'' => ?_⟩
            by_contra named
            exact later ⟨e'', he'', eq_true_of_ne_false named⟩
        · exact .inl ⟨e', he', rfl⟩
      · obtain ⟨other, others⟩ := List.forall_mem_cons.mp others
        exact .inr ⟨.inr ⟨hx, other⟩, others⟩

/-- An entry whose row is there already changes nothing. -/
theorem upsertRow_self (present : upserts.row e ∈ rows)
    (only : ∀ x ∈ rows, upserts.named e x = true → x = upserts.row e) :
    upsertRow (upserts.named e) (upserts.change e) (upserts.row e) rows = rows := by
  unfold upsertRow
  rw [if_pos (List.any_eq_true.mpr ⟨_, present, upserts.own e⟩)]
  refine (List.map_congr_left fun old hold => ?_).trans (List.map_id _)
  split
  · next named => rw [upserts.determined named, only old hold named, id]
  · rfl

/-- Upserting one of the entries again changes nothing. -/
theorem upsertRow_again (apart : upserts.Apart entries) (he : e ∈ entries) :
    upsertRow (upserts.named e) (upserts.change e) (upserts.row e) (upserts.rows entries rows) =
      upserts.rows entries rows := by
  refine upsertRow_self ((mem_rows apart).mpr (.inl ⟨e, he, rfl⟩)) fun x hx named => ?_
  rcases (mem_rows apart).mp hx with ⟨e', he', rfl⟩ | ⟨-, others⟩
  · exact apart e he e' he' named
  · rw [others e he] at named
    cases named

/-- Entries whose upserts change no row leave the rows that are pending. -/
theorem rows_pending_self {table : Table ρ} {pending : Pending ρ}
    (distinct : (pending.rows table).Pairwise fun a b => ¬ Row.Conflict a b)
    (same : ∀ e ∈ entries, upsertRow (upserts.named e) (upserts.change e) (upserts.row e)
      (pending.rows table) = pending.rows table) :
    (upserts.pending table entries pending).rows table = pending.rows table := by
  induction entries generalizing pending with
  | nil => rfl
  | cons e rest ih =>
    have first : (pending.upsert table (upserts.named e) (upserts.change e) (upserts.row e)).rows
        table = pending.rows table :=
      (Pending.rows_upsert (upserts.names e) distinct).trans (same e List.mem_cons_self)
    unfold Upserts.pending
    rw [List.foldl_cons, ← first]
    refine ih (first.symm ▸ distinct) fun e' he' => ?_
    rw [first]
    exact same e' (List.mem_cons_of_mem _ he')

theorem distinct_of_pending {table : Table ρ} {pending : Pending ρ}
    (distinct : ((upserts.pending table entries pending).rows table).Pairwise
      fun a b => ¬ Row.Conflict a b) :
    (pending.rows table).Pairwise fun a b => ¬ Row.Conflict a b := by
  induction entries generalizing pending with
  | nil => exact distinct
  | cons e rest ih => exact Pending.distinct_of_upsert (ih distinct)

/-- What is pending after the upserts is what they make of the rows. -/
theorem rows_pending {table : Table ρ} {pending : Pending ρ}
    (distinct : ((upserts.pending table entries pending).rows table).Pairwise
      fun a b => ¬ Row.Conflict a b) :
    (upserts.pending table entries pending).rows table =
      upserts.rows entries (pending.rows table) := by
  induction entries using List.reverseRecOn with
  | nil => rfl
  | append_singleton front e ih =>
    unfold Upserts.pending at distinct
    unfold Upserts.pending Upserts.rows
    rw [List.foldl_append, List.foldl_cons, List.foldl_nil] at distinct
    rw [List.foldl_append, List.foldl_append, List.foldl_cons, List.foldl_cons, List.foldl_nil,
      List.foldl_nil]
    have distinct' := Pending.distinct_of_upsert distinct
    exact (Pending.rows_upsert (upserts.names e) distinct').trans
      (congrArg (upsertRow (upserts.named e) (upserts.change e) (upserts.row e)) (ih distinct'))

end Upserts

/-! ### Rows that are as stated -/

/-- Every statement has its row, a row that a statement names is as stated, and every other row
is as before. -/
structure Table.Writes {σ : Type} (named : σ → ρ → Bool) (shows : σ → ρ → Prop)
    (statements : List σ) (before after : Table ρ) : Prop where
  written : ∀ statement ∈ statements, ∃ row ∈ after, named statement row = true
  stated : ∀ row ∈ after, ∀ statement ∈ statements, named statement row = true →
    shows statement row
  others : ∀ row, (∀ statement ∈ statements, named statement row = false) →
    (row ∈ after ↔ row ∈ before)

/-- Upserting entries writes what they state. -/
theorem Upserts.writes {ε σ : Type} {upserts : Upserts ρ ε} {named : σ → ρ → Bool}
    {shows : σ → ρ → Prop} {R : ε → σ → Prop} {entries : List ε} {statements : List σ}
    {before after : Table ρ} (rows : after.rows = upserts.rows entries before.rows)
    (apart : upserts.Apart entries) (related : List.Forall₂ R entries statements)
    (sameName : ∀ e statement, R e statement → upserts.named e = named statement)
    (shown : ∀ e statement, R e statement → shows statement (upserts.row e)) :
    Table.Writes named shows statements before after := by
  have mem : ∀ row, row ∈ after ↔ (∃ e ∈ entries, row = upserts.row e) ∨
      row ∈ before ∧ ∀ e ∈ entries, upserts.named e row = false := by
    intro row
    rw [Table.mem_def, rows]
    exact mem_rows apart
  constructor
  · intro statement hstatement
    obtain ⟨e, he, h⟩ := Fallible.exists_of_forall₂_right related hstatement
    refine ⟨_, (mem _).mpr (.inl ⟨e, he, rfl⟩), ?_⟩
    rw [← sameName e statement h]
    exact upserts.own e
  · intro row hrow statement hstatement hnamed
    obtain ⟨e, he, h⟩ := Fallible.exists_of_forall₂_right related hstatement
    rw [← sameName e statement h] at hnamed
    rcases (mem row).mp hrow with ⟨e', he', rfl⟩ | ⟨-, unnamed⟩
    · rw [apart e he e' he' hnamed]
      exact shown e statement h
    · rw [unnamed e he] at hnamed
      cases hnamed
  · intro row unnamed
    have unnamed' : ∀ e ∈ entries, upserts.named e row = false := by
      intro e he
      obtain ⟨statement, hstatement, h⟩ := Fallible.exists_of_forall₂_left related he
      rw [sameName e statement h]
      exact unnamed statement hstatement
    rw [mem]
    constructor
    · rintro (⟨e, he, rfl⟩ | ⟨stored, -⟩)
      · have own := upserts.own e
        rw [unnamed' e he] at own
        cases own
      · exact stored
    · exact fun stored => .inr ⟨stored, unnamed'⟩

end Transaction
