import Mathlib.Data.List.Induction
import CopyTrading.Transaction.Program

/-!
Many clients on one store, interleaved at every read, commit and call.
A trace records who moved and what was seen, oldest first. A schedule of client
names can be replayed when the outside world is given as a function.
-/

namespace Transaction

variable {I : Interface} {ι : Type} [DecidableEq ι] {α : ι → Type}

/-- The committed store and what every client still has to do. -/
structure Config (I : Interface) (α : ι → Type) where
  store : I.Store
  client : (i : ι) → Prog I (α i)

abbrev Trace (I : Interface) (ι : Type) := List (ι × Event I)

namespace Config

def advance (c : Config I α) (i : ι) (program : Prog I (α i)) (store : I.Store) : Config I α where
  store := store
  client := Function.update c.client i program

inductive Step (sem : Semantics I) : Config I α → ι → Event I → Config I α → Prop where
  | move {c : Config I α} {i : ι} {e : Event I} {program : Prog I (α i)} {store : I.Store}
      (step : Prog.Step sem (c.client i) c.store e program store) :
      Step sem c i e (c.advance i program store)

/-- Any interleaving of the clients, stopped anywhere. -/
inductive Run (sem : Semantics I) (c₀ : Config I α) : Trace I ι → Config I α → Prop where
  | nil : Run sem c₀ [] c₀
  | snoc {trace : Trace I ι} {c c' : Config I α} {i : ι} {e : Event I}
      (run : Run sem c₀ trace c) (step : Step sem c i e c') :
      Run sem c₀ (trace ++ [(i, e)]) c'

theorem Run.trans {sem : Semantics I} {c₀ c₁ c₂ : Config I α} {first second : Trace I ι}
    (run₁ : Run sem c₀ first c₁) (run₂ : Run sem c₁ second c₂) :
    Run sem c₀ (first ++ second) c₂ := by
  induction run₂ with
  | nil => simpa using run₁
  | snoc run step ih => simpa using ih.snoc step

/-- A run splits at any point of its trace. -/
theorem Run.split {sem : Semantics I} {c₀ c : Config I α} {first second : Trace I ι}
    (run : Run sem c₀ (first ++ second) c) :
    ∃ c₁, Run sem c₀ first c₁ ∧ Run sem c₁ second c := by
  induction second using List.reverseRecOn generalizing c with
  | nil => exact ⟨c, by simpa using run, .nil⟩
  | append_singleton second last ih =>
    rw [← List.append_assoc] at run
    generalize hwhole : (first ++ second) ++ [last] = whole at run
    cases run with
    | nil => simp at hwhole
    | snoc earlier step =>
      obtain ⟨hinit, hlast⟩ := List.append_inj' hwhole rfl
      subst hinit
      simp only [List.cons.injEq, and_true] at hlast
      subst hlast
      obtain ⟨c₁, run₁, run₂⟩ := ih earlier
      exact ⟨c₁, run₁, run₂.snoc step⟩

/-- A client that has the store for itself. -/
theorem Run.alone {β : Type} {sem : Semantics I} {c₀ c : Config I fun _ : Unit => β}
    {trace : Trace I Unit} (run : Run sem c₀ trace c) :
    Prog.Run sem (c₀.client ()) c₀.store (trace.map Prod.snd) (c.client ()) c.store := by
  induction run with
  | nil => exact .nil
  | snoc run step ih =>
    cases step with
    | move step => simpa [advance] using ih.snoc step

end Config

/-! ### Replaying a schedule -/

/-- A world that answers by a function of the position in the schedule, the caller
and the store. A call that is not `ready` has to wait. -/
structure Script (I : Interface) (ι : Type) where
  reply : Nat → ι → I.Store → (query : I.Query) → I.Answer query × I.Store
  ready : I.Store → I.Query → Bool := fun _ _ => true

def Script.Allowed (script : Script I ι) (sem : Semantics I) : Prop :=
  ∀ n i store query, script.ready store query = true →
    sem.Answers store query (script.reply n i store query).1 (script.reply n i store query).2

/-- The next event of client `i` and where it leads; a client that is finished or waits has
none. -/
def Config.next? (sem : Semantics I) (script : Script I ι) (n : Nat) (c : Config I α) (i : ι) :
    Option (Event I × Config I α) :=
  match c.client i with
  | .done _ => none
  | .read next => some (.read c.store, c.advance i (next c.store) c.store)
  | .commit work next =>
      match sem.flush work c.store with
      | .ok after => some (.commit work c.store after, c.advance i (next (.ok ())) after)
      | .error fault => some (.abort work c.store fault, c.advance i (next (.error fault)) c.store)
  | .call query next =>
      if script.ready c.store query then
        let (answer, after) := script.reply n i c.store query
        some (.call query answer c.store after, c.advance i (next answer) after)
      else none

/-- The trace and the configuration a schedule leads to. -/
def Config.replay (sem : Semantics I) (script : Script I ι) :
    Nat → List ι → Config I α → Trace I ι × Config I α
  | _, [], c => ([], c)
  | n, i :: rest, c =>
      match c.next? sem script n i with
      | none => replay sem script (n + 1) rest c
      | some (e, c') =>
        let (trace, final) := replay sem script (n + 1) rest c'
        ((i, e) :: trace, final)

theorem Config.step_of_next? {sem : Semantics I} {script : Script I ι}
    (allowed : script.Allowed sem) {n : Nat} {c c' : Config I α} {i : ι} {e : Event I}
    (hnext : c.next? sem script n i = some (e, c')) : Step sem c i e c' := by
  unfold Config.next? at hnext
  cases hclient : c.client i with
  | done result => simp [hclient] at hnext
  | read next =>
    simp only [hclient, Option.some.injEq, Prod.mk.injEq] at hnext
    obtain ⟨rfl, rfl⟩ := hnext
    exact .move (by rw [hclient]; exact .read)
  | commit work next =>
    cases hflush : sem.flush work c.store with
    | ok after =>
      simp only [hclient, hflush, Option.some.injEq, Prod.mk.injEq] at hnext
      obtain ⟨rfl, rfl⟩ := hnext
      exact .move (by rw [hclient]; exact .commit hflush)
    | error fault =>
      simp only [hclient, hflush, Option.some.injEq, Prod.mk.injEq] at hnext
      obtain ⟨rfl, rfl⟩ := hnext
      exact .move (by rw [hclient]; exact .abort hflush)
  | call query next =>
    simp only [hclient, Option.ite_none_right_eq_some, Option.some.injEq, Prod.mk.injEq] at hnext
    obtain ⟨ready, rfl, rfl⟩ := hnext
    exact .move (by rw [hclient]; exact .call (allowed n i c.store query ready))

/-- What a replay reaches, a run reaches with the same trace. -/
theorem Config.replay_reaches {sem : Semantics I} {script : Script I ι}
    (allowed : script.Allowed sem) (schedule : List ι) (n : Nat) (c : Config I α) :
    Run sem c (c.replay sem script n schedule).1 (c.replay sem script n schedule).2 := by
  induction schedule generalizing n c with
  | nil => exact .nil
  | cons i rest ih =>
    unfold Config.replay
    cases hnext : c.next? sem script n i with
    | none => exact ih (n + 1) c
    | some move =>
      obtain ⟨e, c'⟩ := move
      exact (Run.nil.snoc (step_of_next? allowed hnext)).trans (ih (n + 1) c')

end Transaction
