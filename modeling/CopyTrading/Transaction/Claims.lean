import CopyTrading.Transaction.Protocol
import CopyTrading.Transaction.Table

/-!
Rows that clients have inserted. Each of them still stands in the table, whatever was written
on it since, and no two of them conflict: the constraint that refuses one of two conflicting
inserts makes a row the property of one client. What only the owner of such a row may do, and
only once, happens once.
-/

namespace Transaction

variable {ρ : Type} [Row ρ] {ι : Type} {same : ρ → ρ → Prop} {rows : ι → Option ρ}
  {before after table : Table ρ}

/-- `rows i` is what client `i` has inserted; `same` is what later writes leave alone. -/
structure Claims (same : ρ → ρ → Prop) (rows : ι → Option ρ) (table : Table ρ) : Prop where
  stands : ∀ i row, rows i = some row → ∃ x ∈ table, same x row
  apart : ∀ i j row row', i ≠ j → rows i = some row → rows j = some row' → ¬ Row.Conflict row row'

namespace Claims

theorem none (unclaimed : ∀ i, rows i = .none) : Claims same rows table := by
  constructor
  · intro i row claimed
    rw [unclaimed i] at claimed
    cases claimed
  · intro i j row row' _ claimed
    rw [unclaimed i] at claimed
    cases claimed

/-- Conflicting rows are the rows of one client. -/
theorem client_unique (claims : Claims same rows table) {i j : ι} {row row' : ρ}
    (hi : rows i = some row) (hj : rows j = some row') (conflict : Row.Conflict row row') :
    i = j := by
  by_contra different
  exact claims.apart i j row row' different hi hj conflict

theorem conflict_congr (keys : ∀ {a b}, same a b → Row.key a = Row.key b) {a b c : ρ}
    (hab : same a b) : Row.Conflict a c ↔ Row.Conflict b c := by
  unfold Row.Conflict
  rw [keys hab]

/-- A step keeps what is stored; the row a client has claimed since conflicts with nothing that
was stored before. -/
theorem step [DecidableEq ι] {i : ι} {claimed : Option ρ} (claims : Claims same rows before)
    (keys : ∀ {a b}, same a b → Row.key a = Row.key b)
    (trans : ∀ {a b c}, same a b → same b c → same a c)
    (kept : ∀ old ∈ before, ∃ new ∈ after, same new old)
    (claim : ∀ row, claimed = some row → rows i = some row ∨
      (∃ x ∈ after, same x row) ∧ ∀ x ∈ before, ¬ Row.Conflict x row) :
    Claims same (Function.update rows i claimed) after := by
  have stands : ∀ j row, rows j = some row → ∃ x ∈ after, same x row := by
    intro j row hrow
    obtain ⟨x, hx, hsame⟩ := claims.stands j row hrow
    obtain ⟨y, hy, hkept⟩ := kept x hx
    exact ⟨y, hy, trans hkept hsame⟩
  have fresh : ∀ j row row', j ≠ i → rows j = some row → claimed = some row' →
      ¬ Row.Conflict row row' := by
    intro j row row' hj hrow hrow'
    rcases claim row' hrow' with hold | ⟨-, unstored⟩
    · exact claims.apart j i row row' hj hrow hold
    · obtain ⟨x, hx, hsame⟩ := claims.stands j row hrow
      exact fun conflict => unstored x hx ((conflict_congr keys hsame).mpr conflict)
  constructor
  · intro j row hrow
    by_cases hj : j = i
    · subst hj
      rw [Function.update_self] at hrow
      rcases claim row hrow with hold | ⟨stored, -⟩
      · exact stands j row hold
      · exact stored
    · rw [Function.update_of_ne hj] at hrow
      exact stands j row hrow
  · intro j k row row' hjk hrow hrow'
    by_cases hj : j = i
    · subst hj
      rw [Function.update_self] at hrow
      rw [Function.update_of_ne hjk.symm] at hrow'
      exact fun conflict => fresh k row' row hjk.symm hrow' hrow (Row.clash_symm conflict)
    · rw [Function.update_of_ne hj] at hrow
      by_cases hk : k = i
      · subst hk
        rw [Function.update_self] at hrow'
        exact fresh j row row' hj hrow hrow'
      · rw [Function.update_of_ne hk] at hrow'
        exact claims.apart j k row row' hjk hrow hrow'

end Claims

/-! ### Acting once -/

/-- An action that leads its client to a phase where it is spent, and that is never taken while
some client is spent, is taken at most once. -/
theorem Protocol.Run.count_le_one {I : Interface} [DecidableEq ι] {Q : ι → Protocol I}
    {sem : Semantics I} {phase₀ phase : ∀ i, (Q i).Phase} {s₀ s : I.Store} {trace : Trace I ι}
    (counts : ι × Event I → Bool) (spent : ∀ i, (Q i).Phase → Prop)
    (run : Run Q sem phase₀ s₀ trace phase s)
    (step : ∀ trace phase i e m, Run Q sem phase₀ s₀ trace phase e.before →
      (Q i).Move (phase i) e m → counts (i, e) = false ∧ (spent i (phase i) → spent i m) ∨
        spent i m ∧ ∀ j, ¬ spent j (phase j)) :
    trace.countP counts ≤ 1 := by
  have counted : trace.countP counts = 0 ∨
      trace.countP counts = 1 ∧ ∃ i, spent i (phase i) := by
    induction run with
    | nil => exact .inl rfl
    | @snoc trace phase s i e m run move sound here ih =>
      subst here
      rw [List.countP_append, List.countP_singleton]
      rcases step trace phase i e m run move with ⟨uncounted, kept⟩ | ⟨now, unspent⟩
      · rw [uncounted]
        refine ih.imp (by simpa using ·) fun ⟨once, j, spentJ⟩ => ⟨by simpa using once, j, ?_⟩
        by_cases hj : j = i
        · subst hj
          rw [Function.update_self]
          exact kept spentJ
        · rw [Function.update_of_ne hj]
          exact spentJ
      · rcases ih with never | ⟨-, j, spentJ⟩
        · rw [never]
          by_cases hcount : counts (i, e) = true
          · refine .inr ⟨by simp [hcount], i, ?_⟩
            rw [Function.update_self]
            exact now
          · exact .inl (by simp [hcount])
        · exact absurd spentJ (unspent j)
  omega

end Transaction
