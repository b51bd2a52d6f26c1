import CopyTrading.Transaction.Alone
import CopyTrading.Transaction.Queries
import Mathlib.Logic.IsEmpty.Basic

/-!
A program whose calls are answered by another one. A run of both is a run of the first, in which
every call is answered by a run of the second: what is known of either holds of the two together.
-/

namespace Transaction

variable {I J : Interface} {σ α : Type}

/-- The program, run in a session, that answers a call made at some step. -/
abbrev Answerer (I J : Interface) (σ : Type) : Type :=
  Nat → (query : J.Query) → σ → Prog I (J.Answer query × σ)

/-- A program that commits nothing and always reads `store`, with its calls answered. -/
def Prog.answeredBy [IsEmpty J.Work] (answer : Answerer I J σ) (store : J.Store) :
    Prog J α → Nat → σ → Prog I (α × σ)
  | .done result, _, s => .done (result, s)
  | .read next, step, s => (next store).answeredBy answer store step s
  | .commit work _, _, _ => isEmptyElim work
  | .call query next, step, s =>
    (answer step query s).bind fun replied =>
      (next replied.1).answeredBy answer store (step + 1) replied.2

/-- The events of the first program, each with the run that answered it. -/
inductive AnsweredBy (sem : Semantics I) (answer : Answerer I J σ) (store : J.Store) :
    Nat → σ → I.Store → List (Event J × List (Event I)) → σ → I.Store → Prop where
  | nil {step : Nat} {s : σ} {w : I.Store} : AnsweredBy sem answer store step s w [] s w
  | read {step : Nat} {s s' : σ} {w w' : I.Store} {rounds : List (Event J × List (Event I))}
      (rest : AnsweredBy sem answer store step s w rounds s' w') :
      AnsweredBy sem answer store step s w ((.read store, []) :: rounds) s' w'
  | call {step : Nat} {query : J.Query} {reply : J.Answer query} {s s₁ s' : σ}
      {w w₁ w' : I.Store} {events : List (Event I)} {rounds : List (Event J × List (Event I))}
      (ran : Prog.Run sem (answer step query s) w events (.done (reply, s₁)) w₁)
      (rest : AnsweredBy sem answer store (step + 1) s₁ w₁ rounds s' w') :
      AnsweredBy sem answer store step s w ((.call query reply store store, events) :: rounds) s' w'

section

variable {sem : Semantics I} {answer : Answerer I J σ} {store : J.Store} {step : Nat}
  {s s' : σ} {w w' : I.Store} {rounds : List (Event J × List (Event I))}

/-- The answers a first program can get. -/
def Answerer.Gives (sem : Semantics I) (answer : Answerer I J σ) (query : J.Query)
    (reply : J.Answer query) : Prop :=
  ∃ step s w events s' w', Prog.Run sem (answer step query s) w events (.done (reply, s')) w'

/-- A program that has ended makes no step. -/
theorem Prog.Run.of_done {result result' : α} {trace : List (Event I)}
    (ran : Prog.Run sem (.done result) w trace (.done result') w') :
    trace = [] ∧ result = result' ∧ w' = w := by
  rcases ran.first with ⟨rfl, ended, rfl⟩ | ⟨_, _, _, _, _, step, _⟩
  · exact ⟨rfl, (Prog.done.inj ended).symm, rfl⟩
  · cases step

/-- A run of both is a run of the first, whose calls the second has answered one by one. -/
theorem Prog.Run.of_answeredBy [IsEmpty J.Work] {first : Semantics J} {program : Prog J α}
    {trace : List (Event I)} {result : α}
    (given : ∀ query reply, answer.Gives sem query reply → first.Answers store query reply store)
    (ran : Prog.Run sem (program.answeredBy answer store step s) w trace (.done (result, s')) w') :
    ∃ rounds : List (Event J × List (Event I)), trace = rounds.flatMap Prod.snd ∧
      AnsweredBy sem answer store step s w rounds s' w' ∧
      Prog.Run first program store (rounds.map Prod.fst) (.done result) store := by
  induction program generalizing step s w trace with
  | done value =>
    obtain ⟨rfl, ended, rfl⟩ := ran.of_done
    cases ended
    exact ⟨[], rfl, .nil, .nil⟩
  | read next ih =>
    obtain ⟨rounds, rfl, answered, later⟩ := ih store ran
    exact ⟨(.read store, []) :: rounds, rfl, .read answered, (Run.nil.snoc .read).trans later⟩
  | commit work next ih => exact isEmptyElim work
  | call query next ih =>
    obtain ⟨front, back, ⟨reply, s₁⟩, w₁, rfl, replied, rest⟩ := ran.split_bind
    obtain ⟨rounds, rfl, answered, later⟩ := ih reply rest
    have move : Step first (.call query next) store (.call query reply store store) (next reply)
        store := .call (given query reply ⟨_, _, _, _, _, _, replied⟩)
    exact ⟨(.call query reply store store, front) :: rounds, rfl, .call replied answered,
      (Run.nil.snoc move).trans later⟩

/-- What every answer preserves holds when all calls are answered. -/
theorem AnsweredBy.preserves {P : σ → I.Store → Prop}
    (answered : AnsweredBy sem answer store step s w rounds s' w')
    (each : ∀ step query s w events reply s' w', P s w →
      Prog.Run sem (answer step query s) w events (.done (reply, s')) w' → P s' w')
    (start : P s w) : P s' w' := by
  induction answered with
  | nil => exact start
  | read _ ih => exact ih start
  | call ran _ ih => exact ih (each _ _ _ _ _ _ _ _ start ran)

/-- Every call was answered by a run of the second program. -/
theorem AnsweredBy.gives {event : Event J} {events : List (Event I)}
    (answered : AnsweredBy sem answer store step s w rounds s' w') (made : (event, events) ∈ rounds) :
    event = .read store ∨
      ∃ query reply, event = .call query reply store store ∧ answer.Gives sem query reply := by
  induction answered with
  | nil => exact (List.not_mem_nil made).elim
  | read _ ih =>
    rcases List.mem_cons.mp made with same | made
    · exact .inl (congrArg Prod.fst same)
    · exact ih made
  | call ran _ ih =>
    rcases List.mem_cons.mp made with same | made
    · exact .inr ⟨_, _, congrArg Prod.fst same, _, _, _, _, _, _, ran⟩
    · exact ih made

/-- Alone on the store, both keep what every answer keeps. -/
theorem Prog.Alone.answeredBy [IsEmpty J.Work] {Each : Event I → Prop} {P : σ → I.Store → Prop}
    {program : Prog J α}
    (each : ∀ step query s w, P s w → (answer step query s).Alone sem Each
      (fun replied w' => P replied.2 w') w) (start : P s w) :
    (program.answeredBy answer store step s).Alone sem Each (fun replied w' => P replied.2 w') w := by
  induction program generalizing step s w with
  | done result => exact start
  | read next ih => exact ih store start
  | commit work next ih => exact isEmptyElim work
  | call query next ih =>
    refine Prog.alone_bind.mpr ((each step query s w start).mono ?_ fun _ acted => acted)
    exact fun replied w' kept => ih replied.1 kept

/-- What the answers may ask is what both may ask. -/
theorem Prog.AsksOnly.answeredBy [IsEmpty J.Work] {Asked : I.Query → Prop} {program : Prog J α}
    (answers : ∀ step query s, (answer step query s).AsksOnly Asked fun _ => True) :
    (program.answeredBy answer store step s).AsksOnly Asked fun _ => True := by
  induction program generalizing step s with
  | done result => exact True.intro
  | read next ih => exact ih store
  | commit work next ih => exact isEmptyElim work
  | call query next ih => exact (answers step query s).bind fun replied _ => ih replied.1

end

/-- Fewer answers are allowed, so fewer runs. -/
theorem Prog.Run.weaken {strict loose : Semantics I} {p p' : Prog I α} {w w' : I.Store}
    {trace : List (Event I)} (ran : Prog.Run strict p w trace p' w')
    (same : strict.flush = loose.flush)
    (answers : ∀ before query answer after, strict.Answers before query answer after →
      loose.Answers before query answer after) : Prog.Run loose p w trace p' w' := by
  induction ran with
  | nil => exact .nil
  | snoc _ last ih =>
    refine ih.snoc ?_
    cases last with
    | read => exact .read
    | commit written => exact .commit (same ▸ written)
    | abort refused => exact .abort (same ▸ refused)
    | call answered => exact .call (answers _ _ _ _ answered)

end Transaction
