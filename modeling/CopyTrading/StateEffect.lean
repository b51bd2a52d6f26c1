import Mathlib.Order.Defs.Unbundled

/-!
What a program over a mutable state may do to it, whatever it ends with. A relation between the
state before and after that is reflexive and transitive passes through sequencing.
-/

namespace StateEffect

variable {ε σ α β : Type} {R : σ → σ → Prop}

/-- An exception keeps what the body has done to the state. -/
theorem run_tryCatch (body : EStateM ε σ α) (recover : ε → EStateM ε σ α) (s : σ) :
    (tryCatch body recover).run s =
      match body.run s with
      | .ok value after => .ok value after
      | .error raised after => (recover raised).run after := by
  change EStateM.tryCatch body recover s = _
  unfold EStateM.tryCatch EStateM.run
  cases body s <;> rfl

/-- The program moves the state along `R`, whether it returns or raises. -/
def Within (R : σ → σ → Prop) (program : EStateM ε σ α) : Prop :=
  ∀ s, match program.run s with
    | .ok _ after | .error _ after => R s after

namespace Within

theorem of_ok {program : EStateM ε σ α} (within : Within R program) {s after : σ} {value : α}
    (ran : program.run s = .ok value after) : R s after := by
  have moved := within s
  rw [ran] at moved
  exact moved

theorem of_error {program : EStateM ε σ α} (within : Within R program) {s after : σ} {raised : ε}
    (ran : program.run s = .error raised after) : R s after := by
  have moved := within s
  rw [ran] at moved
  exact moved

theorem modifyGet {f : σ → α × σ} (moves : ∀ s, R s (f s).2) :
    Within R (modifyGet f : EStateM ε σ α) := moves

theorem modify {f : σ → σ} (moves : ∀ s, R s (f s)) :
    Within R (modify f : EStateM ε σ PUnit) := moves

section

variable [Std.Refl R]

theorem pure (value : α) : Within R (Pure.pure value : EStateM ε σ α) := fun s => Std.Refl.refl s

theorem throw (raised : ε) : Within R (throw raised : EStateM ε σ α) := fun s => Std.Refl.refl s

theorem get : Within R (get : EStateM ε σ σ) := fun s => Std.Refl.refl s

end

section

variable [IsTrans σ R]

theorem bind {first : EStateM ε σ α} {next : α → EStateM ε σ β} (hfirst : Within R first)
    (rest : ∀ value, Within R (next value)) : Within R (first >>= next) := by
  intro s
  rw [EStateM.run_bind]
  cases ran : first.run s with
  | error raised after => exact hfirst.of_error ran
  | ok value after =>
    have moved := hfirst.of_ok ran
    dsimp only
    cases later : (next value).run after with
    | error raised last => exact IsTrans.trans _ _ _ moved ((rest value).of_error later)
    | ok result last => exact IsTrans.trans _ _ _ moved ((rest value).of_ok later)

theorem map [Std.Refl R] {program : EStateM ε σ α} (f : α → β) (within : Within R program) :
    Within R (f <$> program) := by
  rw [map_eq_pure_bind]
  exact within.bind fun _ => .pure _

theorem tryCatch {body : EStateM ε σ α} {recover : ε → EStateM ε σ α} (hbody : Within R body)
    (rest : ∀ raised, Within R (recover raised)) :
    Within R (tryCatch body recover) := by
  intro s
  rw [run_tryCatch]
  cases ran : body.run s with
  | ok value after => exact hbody.of_ok ran
  | error raised after =>
    have moved := hbody.of_error ran
    dsimp only
    cases later : (recover raised).run after with
    | error raised last => exact IsTrans.trans _ _ _ moved ((rest _).of_error later)
    | ok result last => exact IsTrans.trans _ _ _ moved ((rest _).of_ok later)

end

end Within

end StateEffect
