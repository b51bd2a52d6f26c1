import CopyTrading.Text.Json

/-!
The keys of a JSON value at every depth, and what is left of a value when the entries with some
of them are dropped.
-/

namespace Json

/-- Induction over the items and the entries of a value. -/
theorem induct {P : Json → Prop} (null : P .null) (bool : ∀ value, P (.bool value))
    (int : ∀ value, P (.int value)) (float : ∀ repr, P (.float repr)) (str : ∀ text, P (.str text))
    (arr : ∀ items, (∀ item ∈ items, P item) → P (.arr items))
    (obj : ∀ fields, (∀ entry ∈ fields, P entry.2) → P (.obj fields)) (value : Json) : P value := by
  refine Json.rec (motive_1 := P) (motive_2 := fun items => ∀ item ∈ items, P item)
    (motive_3 := fun fields => ∀ entry ∈ fields, P entry.2) (motive_4 := fun entry => P entry.2)
    null bool int float str arr obj ?_ ?_ ?_ ?_ ?_ value
  · simp
  · intro item rest hitem hrest
    simpa using ⟨hitem, hrest⟩
  · simp
  · intro entry rest hentry hrest
    exact List.forall_mem_cons.mpr ⟨hentry, hrest⟩
  · exact fun _ _ holds => holds

/-- Some mapping in the value has an entry with this key. -/
inductive HasKey (key : String) : Json → Prop where
  | here {fields : List (String × Json)} {value : Json} (entry : (key, value) ∈ fields) :
      HasKey key (.obj fields)
  | field {fields : List (String × Json)} {name : String} {value : Json}
      (entry : (name, value) ∈ fields) (inner : HasKey key value) : HasKey key (.obj fields)
  | item {items : List Json} {value : Json} (held : value ∈ items) (inner : HasKey key value) :
      HasKey key (.arr items)

mutual

/-- The value without the entries whose key is to be dropped. -/
def dropKeys (drop : String → Bool) : Json → Json
  | .obj fields => .obj (dropFields drop fields)
  | .arr items => .arr (dropItems drop items)
  | value => value

def dropFields (drop : String → Bool) : List (String × Json) → List (String × Json)
  | [] => []
  | (key, value) :: rest =>
      if drop key then dropFields drop rest
      else (key, dropKeys drop value) :: dropFields drop rest

def dropItems (drop : String → Bool) : List Json → List Json
  | [] => []
  | item :: rest => dropKeys drop item :: dropItems drop rest

end

variable {drop : String → Bool} {key : String} {fields : List (String × Json)} {value : Json}

theorem dropFields_eq (fields : List (String × Json)) : dropFields drop fields =
    (fields.filter fun entry => !drop entry.1).map fun entry => (entry.1, dropKeys drop entry.2) := by
  induction fields with
  | nil => rfl
  | cons entry rest ih =>
    unfold dropFields
    by_cases dropped : drop entry.1 = true
    · rw [if_pos dropped, ih, List.filter_cons_of_neg (by simp [dropped])]
    · rw [if_neg dropped, ih, List.filter_cons_of_pos (by simp [dropped]), List.map_cons]

theorem dropItems_eq (items : List Json) : dropItems drop items = items.map (dropKeys drop) := by
  induction items with
  | nil => rfl
  | cons item rest ih => rw [dropItems, ih, List.map_cons]

theorem mem_dropFields {entry : String × Json} : entry ∈ dropFields drop fields ↔
    drop entry.1 = false ∧ ∃ value, (entry.1, value) ∈ fields ∧ entry.2 = dropKeys drop value := by
  obtain ⟨key, left⟩ := entry
  rw [dropFields_eq]
  simp only [List.mem_map, List.mem_filter, Bool.not_eq_true', Prod.mk.injEq, Prod.exists]
  constructor
  · rintro ⟨_, value, ⟨held, kept⟩, rfl, rfl⟩
    exact ⟨kept, value, held, rfl⟩
  · rintro ⟨kept, value, held, rfl⟩
    exact ⟨key, value, ⟨held, kept⟩, rfl, rfl⟩

/-- What is left has none of the dropped keys, and no key that was not there. -/
theorem hasKey_of_dropKeys (has : HasKey key (dropKeys drop value)) :
    drop key = false ∧ HasKey key value := by
  generalize left : dropKeys drop value = rest at has
  induction has generalizing value with
  | here entry =>
    cases value with
    | obj fields =>
      cases left
      obtain ⟨kept, value, held, -⟩ := mem_dropFields.mp entry
      exact ⟨kept, .here held⟩
    | _ => cases left
  | field entry inner ih =>
    cases value with
    | obj fields =>
      cases left
      obtain ⟨-, value, held, same⟩ := mem_dropFields.mp entry
      obtain ⟨kept, has⟩ := ih same.symm
      exact ⟨kept, .field held has⟩
    | _ => cases left
  | item held inner ih =>
    cases value with
    | arr items =>
      cases left
      rw [dropItems_eq] at held
      obtain ⟨value, mem, same⟩ := List.mem_map.mp held
      obtain ⟨kept, has⟩ := ih same
      exact ⟨kept, .item mem has⟩
    | _ => cases left

/-- Where there is nothing to drop the value stays as it is. -/
theorem dropKeys_of_free (free : ∀ key, HasKey key value → drop key = false) :
    dropKeys drop value = value := by
  induction value using induct with
  | arr items ih =>
    have each : ∀ item ∈ items, dropKeys drop item = item := fun item held =>
      ih item held fun key has => free key (.item held has)
    rw [dropKeys, dropItems_eq, List.map_congr_left each, List.map_id']
  | obj fields ih =>
    have kept : ∀ entry ∈ fields, drop entry.1 = false := fun entry held =>
      free entry.1 (.here held)
    have each : ∀ entry ∈ fields, (entry.1, dropKeys drop entry.2) = entry := fun entry held =>
      Prod.ext rfl (ih entry held fun key has => free key (.field held has))
    rw [dropKeys, dropFields_eq, List.filter_eq_self.mpr (by simpa using kept),
      List.map_congr_left each, List.map_id']
  | _ => rfl

/-- A key that is kept is found with what is left of its value. -/
theorem lookup_dropFields (kept : drop key = false) (fields : List (String × Json)) :
    lookup key (dropFields drop fields) = (lookup key fields).map (dropKeys drop) := by
  induction fields with
  | nil => rfl
  | cons entry rest ih =>
    obtain ⟨name, value⟩ := entry
    by_cases same : name = key
    · subst same
      simp [dropFields, lookup, kept]
    · unfold dropFields
      split
      · simp [lookup, same, ih]
      · simp [lookup, same, ih]

theorem get_dropFields (kept : drop key = false) (fields : List (String × Json)) :
    get (dropFields drop fields) key = dropKeys drop (get fields key) := by
  unfold get
  rw [lookup_dropFields kept]
  cases lookup key fields with
  | none => rfl
  | some value => rfl

theorem mapping_dropKeys (value : Json) :
    mapping (dropKeys drop value) = dropFields drop (mapping value) := by
  cases value <;> rfl

end Json
