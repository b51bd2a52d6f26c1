import Mathlib.Data.List.Forall2

/-!
Computations that may fail: what a sequence of two returns, and passes over a list.
-/

namespace Fallible

variable {ε α β γ : Type}

theorem bind_eq_ok {first : Except ε α} {next : α → Except ε β} {result : β} :
    first >>= next = .ok result ↔ ∃ value, first = .ok value ∧ next value = .ok result := by
  cases first with
  | error raised => exact ⟨fun h => (nomatch h), fun ⟨_, h, _⟩ => (nomatch h)⟩
  | ok value => exact ⟨fun h => ⟨value, rfl, h⟩, fun ⟨_, h, hnext⟩ => Except.ok.inj h ▸ hnext⟩

theorem bind_eq_error {first : Except ε α} {next : α → Except ε β} {raised : ε} :
    first >>= next = .error raised ↔
      first = .error raised ∨ ∃ value, first = .ok value ∧ next value = .error raised := by
  cases first with
  | error other =>
    exact ⟨fun h => .inl (congrArg _ (Except.error.inj h)),
      fun h => h.elim (fun h => congrArg _ (Except.error.inj h)) fun ⟨_, h, _⟩ => (nomatch h)⟩
  | ok value =>
    exact ⟨fun h => .inr ⟨value, rfl, h⟩,
      fun h => h.elim (fun h => (nomatch h)) fun ⟨_, h, hnext⟩ => Except.ok.inj h ▸ hnext⟩

theorem ok_bind (value : α) (next : α → Except ε β) : Except.ok value >>= next = next value := rfl

theorem mapM_cons_eq_ok {f : α → Except ε β} {a : α} {rest : List α} {results : List β} :
    (a :: rest).mapM f = .ok results ↔
      ∃ b bs, f a = .ok b ∧ rest.mapM f = .ok bs ∧ results = b :: bs := by
  rw [List.mapM_cons, bind_eq_ok]
  refine exists_congr fun b => ?_
  rw [bind_eq_ok]
  constructor
  · rintro ⟨hb, bs, hbs, done⟩
    exact ⟨bs, hb, hbs, (Except.ok.inj done).symm⟩
  · rintro ⟨bs, hb, hbs, rfl⟩
    exact ⟨hb, bs, hbs, rfl⟩

theorem mapM_append_eq_ok {f : α → Except ε β} {front back : List α} {fs bs : List β}
    (hfront : front.mapM f = .ok fs) (hback : back.mapM f = .ok bs) :
    (front ++ back).mapM f = .ok (fs ++ bs) := by
  induction front generalizing fs with
  | nil =>
    cases hfront
    exact hback
  | cons a rest ih =>
    obtain ⟨b, bs', hb, hrest, rfl⟩ := mapM_cons_eq_ok.mp hfront
    exact mapM_cons_eq_ok.mpr ⟨b, _, hb, ih hrest, rfl⟩

/-- What two passes make of the entries of a list, entry by entry. -/
theorem forall₂_of_mapM {f : α → Except ε β} {g : β → Except ε γ} {σ : Type} {R : α → σ → Prop}
    {S : γ → σ → Prop} {entries : List α} {updates : List β} {columns : List γ}
    (each : ∀ a b c, f a = .ok b → g b = .ok c → ∃ state, R a state ∧ S c state)
    (decoded : entries.mapM f = .ok updates) (bound : updates.mapM g = .ok columns) :
    ∃ states, List.Forall₂ R entries states ∧ List.Forall₂ S columns states := by
  induction entries generalizing updates columns with
  | nil =>
    cases decoded
    cases bound
    exact ⟨[], .nil, .nil⟩
  | cons a rest ih =>
    obtain ⟨b, bs, hb, hrest, rfl⟩ := mapM_cons_eq_ok.mp decoded
    obtain ⟨c, cs, hc, hcs, rfl⟩ := mapM_cons_eq_ok.mp bound
    obtain ⟨state, hR, hS⟩ := each a b c hb hc
    obtain ⟨states, hRs, hSs⟩ := ih hrest hcs
    exact ⟨state :: states, .cons hR hRs, .cons hS hSs⟩

theorem forall_of_mapM {f : α → Except ε β} {g : β → Except ε γ} {P : α → Prop} {entries : List α}
    {updates : List β} {columns : List γ} (each : ∀ a b c, f a = .ok b → g b = .ok c → P a)
    (decoded : entries.mapM f = .ok updates) (bound : updates.mapM g = .ok columns) :
    ∀ a ∈ entries, P a := by
  induction entries generalizing updates columns with
  | nil => simp
  | cons a rest ih =>
    obtain ⟨b, bs, hb, hrest, rfl⟩ := mapM_cons_eq_ok.mp decoded
    obtain ⟨c, cs, hc, hcs, rfl⟩ := mapM_cons_eq_ok.mp bound
    rw [List.forall_mem_cons]
    constructor
    · exact each a b c hb hc
    · exact ih hrest hcs

/-- A pass succeeds when it does on every entry. -/
theorem exists_mapM_of_forall₂ {f : α → Except ε β} {σ κ : Type} {R : α → σ → Prop}
    {name : β → κ} {name' : σ → κ} {entries : List α} {states : List σ}
    (related : List.Forall₂ R entries states)
    (each : ∀ a state, R a state → ∃ b, f a = .ok b ∧ name b = name' state) :
    ∃ results, entries.mapM f = .ok results ∧ results.map name = states.map name' := by
  induction related with
  | nil => exact ⟨[], rfl, rfl⟩
  | cons head _ ih =>
    obtain ⟨b, hb, same⟩ := each _ _ head
    obtain ⟨bs, hbs, sames⟩ := ih
    refine ⟨b :: bs, mapM_cons_eq_ok.mpr ⟨b, bs, hb, hbs, rfl⟩, ?_⟩
    rw [List.map_cons, List.map_cons, same, sames]

/-- A pass over entries that are all related to a result. -/
theorem exists_mapM_of_forall {f : α → Except ε β} {R : α → β → Prop} {entries : List α}
    (each : ∀ a ∈ entries, ∃ b, f a = .ok b ∧ R a b) :
    ∃ results, entries.mapM f = .ok results ∧ List.Forall₂ R entries results := by
  induction entries with
  | nil => exact ⟨[], rfl, .nil⟩
  | cons a rest ih =>
    obtain ⟨⟨b, hb, related⟩, tail⟩ := List.forall_mem_cons.mp each
    obtain ⟨bs, hbs, relateds⟩ := ih tail
    exact ⟨b :: bs, mapM_cons_eq_ok.mpr ⟨b, bs, hb, hbs, rfl⟩, .cons related relateds⟩

/-- Every result of a pass is that of an entry. -/
theorem exists_of_mem_mapM {f : α → Except ε β} {entries : List α} {results : List β} {b : β}
    (decoded : entries.mapM f = .ok results) (hb : b ∈ results) : ∃ a ∈ entries, f a = .ok b := by
  induction entries generalizing results with
  | nil =>
    cases decoded
    cases hb
  | cons a rest ih =>
    obtain ⟨head, tail, hhead, htail, rfl⟩ := mapM_cons_eq_ok.mp decoded
    rcases List.mem_cons.mp hb with rfl | hb
    · exact ⟨a, List.mem_cons_self, hhead⟩
    · obtain ⟨a', ha', result⟩ := ih htail hb
      exact ⟨a', List.mem_cons_of_mem _ ha', result⟩

/-- Every entry of a pass has its result. -/
theorem exists_result_of_mapM {f : α → Except ε β} {entries : List α} {results : List β} {a : α}
    (decoded : entries.mapM f = .ok results) (ha : a ∈ entries) : ∃ b ∈ results, f a = .ok b := by
  induction entries generalizing results with
  | nil => cases ha
  | cons first rest ih =>
    obtain ⟨head, tail, hhead, htail, rfl⟩ := mapM_cons_eq_ok.mp decoded
    rcases List.mem_cons.mp ha with rfl | ha
    · exact ⟨head, List.mem_cons_self, hhead⟩
    · obtain ⟨b, hb, result⟩ := ih htail ha
      exact ⟨b, List.mem_cons_of_mem _ hb, result⟩

theorem forall₂_and_right {σ : Type} {R : α → σ → Prop} {p : σ → Prop} {as : List α}
    {states : List σ} (related : List.Forall₂ R as states) (all : ∀ state ∈ states, p state) :
    List.Forall₂ (fun a state => R a state ∧ p state) as states := by
  induction related with
  | nil => exact .nil
  | cons head _ ih =>
    obtain ⟨hp, hps⟩ := List.forall_mem_cons.mp all
    exact .cons ⟨head, hp⟩ (ih hps)

theorem exists_of_forall₂_left {R : α → β → Prop} {as : List α} {bs : List β} {a : α}
    (related : List.Forall₂ R as bs) (ha : a ∈ as) : ∃ b ∈ bs, R a b := by
  induction related with
  | nil => exact (List.not_mem_nil ha).elim
  | cons head _ ih =>
    rcases List.mem_cons.mp ha with rfl | ha
    · exact ⟨_, List.mem_cons_self, head⟩
    · obtain ⟨b, hb, hR⟩ := ih ha
      exact ⟨b, List.mem_cons_of_mem _ hb, hR⟩

theorem exists_of_forall₂_right {R : α → β → Prop} {as : List α} {bs : List β} {b : β}
    (related : List.Forall₂ R as bs) (hb : b ∈ bs) : ∃ a ∈ as, R a b :=
  exists_of_forall₂_left related.flip hb

theorem append_mapM_eq_ok {f : α → Except ε β} {front back : List α} {results : List β}
    (decoded : (front ++ back).mapM f = .ok results) :
    ∃ fs bs, front.mapM f = .ok fs ∧ back.mapM f = .ok bs ∧ results = fs ++ bs := by
  induction front generalizing results with
  | nil => exact ⟨[], results, rfl, decoded, rfl⟩
  | cons a rest ih =>
    obtain ⟨b, bs', hb, hrest, rfl⟩ := mapM_cons_eq_ok.mp decoded
    obtain ⟨fs, bs, hfs, hbs, rfl⟩ := ih hrest
    exact ⟨b :: fs, bs, mapM_cons_eq_ok.mpr ⟨b, fs, hb, hfs, rfl⟩, hbs, rfl⟩

theorem length_of_mapM {f : α → Except ε β} {entries : List α} {results : List β}
    (decoded : entries.mapM f = .ok results) : results.length = entries.length := by
  induction entries generalizing results with
  | nil =>
    cases decoded
    rfl
  | cons a rest ih =>
    obtain ⟨b, bs, -, hrest, rfl⟩ := mapM_cons_eq_ok.mp decoded
    rw [List.length_cons, List.length_cons, ih hrest]

end Fallible
