import CopyTrading.Transaction.Alone

/-!
Requests that are served one after the other: each is a program that has the store for itself,
and is cut off anywhere or run to its end. What each request keeps holds of every store that is
reached.
-/

namespace Transaction

variable {I : Interface} {R : Type} {α : R → Type}

/-- The stores that are reached by requests `Admitted` lets in. -/
inductive InTurn (sem : Semantics I) (program : (r : R) → Prog I (α r))
    (Admitted : I.Store → R → Prop) (start : I.Store) : I.Store → Prop where
  | start : InTurn sem program Admitted start start
  | request {before after : I.Store} {trace : List (Event I)} {r : R} {rest : Prog I (α r)}
      (reached : InTurn sem program Admitted start before) (admitted : Admitted before r)
      (ran : Prog.Run sem (program r) before trace rest after) :
      InTurn sem program Admitted start after

/-- The invariant rule. -/
theorem InTurn.invariant {sem : Semantics I} {program : (r : R) → Prog I (α r)}
    {Admitted : I.Store → R → Prop} {start store : I.Store} (Inv : I.Store → Prop)
    (reached : InTurn sem program Admitted start store) (init : Inv start)
    (step : ∀ r before trace rest after, Inv before → Admitted before r →
      Prog.Run sem (program r) before trace rest after → Inv after) : Inv store := by
  induction reached with
  | start => exact init
  | request reached admitted ran ih => exact step _ _ _ _ _ ih admitted ran

end Transaction
