import Mathlib.Logic.Function.Basic

/-!
Programs of a client that works on a shared transactional store.
A program reads the committed store, commits units of work that the store may
refuse, and calls the outside world; between two such steps other clients move.
-/

namespace Transaction

/-- What a family of clients shares: the store, the units of work they commit,
the faults the store answers with, and the calls they make. -/
structure Interface where
  Store : Type
  Work : Type
  Fault : Type
  Query : Type
  Answer : Query → Type

variable {I : Interface} {α β γ : Type}

/-- The interaction tree of one client. -/
inductive Prog (I : Interface) (α : Type) where
  | done (result : α)
  | read (next : I.Store → Prog I α)
  | commit (work : I.Work) (next : Except I.Fault Unit → Prog I α)
  | call (query : I.Query) (next : I.Answer query → Prog I α)

namespace Prog

def bind : Prog I α → (α → Prog I β) → Prog I β
  | .done result, f => f result
  | .read next, f => .read fun store => (next store).bind f
  | .commit work next, f => .commit work fun outcome => (next outcome).bind f
  | .call query next, f => .call query fun answer => (next answer).bind f

@[simp] theorem done_bind (result : α) (f : α → Prog I β) :
    (Prog.done result).bind f = f result := rfl

theorem bind_assoc (program : Prog I α) (f : α → Prog I β) (g : β → Prog I γ) :
    (program.bind f).bind g = program.bind fun result => (f result).bind g := by
  induction program with
  | done result => rfl
  | read next ih => exact congrArg Prog.read (funext ih)
  | commit work next ih => exact congrArg (Prog.commit work) (funext ih)
  | call query next ih => exact congrArg (Prog.call query) (funext ih)

end Prog

/-! ### Steps and events -/

/-- How the store and the outside world behave. `flush` is the database writing a
unit of work; `Answers` relates a call to each answer the world may give and to the
store it leaves. -/
structure Semantics (I : Interface) where
  flush : I.Work → I.Store → Except I.Fault I.Store
  Answers : I.Store → (query : I.Query) → I.Answer query → I.Store → Prop

/-- What an observer sees of one step, with the stores around it. -/
inductive Event (I : Interface) where
  | read (store : I.Store)
  | commit (work : I.Work) (before after : I.Store)
  | abort (work : I.Work) (store : I.Store) (fault : I.Fault)
  | call (query : I.Query) (answer : I.Answer query) (before after : I.Store)

namespace Event

@[simp] def before : Event I → I.Store
  | .read store => store
  | .commit _ before _ => before
  | .abort _ store _ => store
  | .call _ _ before _ => before

@[simp] def after : Event I → I.Store
  | .read store => store
  | .commit _ _ after => after
  | .abort _ store _ => store
  | .call _ _ _ after => after

/-- The event is one the store and the outside world can produce. -/
def Sound (sem : Semantics I) : Event I → Prop
  | .read _ => True
  | .commit work before after => sem.flush work before = .ok after
  | .abort work store fault => sem.flush work store = .error fault
  | .call query answer before after => sem.Answers before query answer after

end Event

namespace Prog

/-- One step of a client on the committed store. -/
inductive Step (sem : Semantics I) : Prog I α → I.Store → Event I → Prog I α → I.Store → Prop where
  | read {next : I.Store → Prog I α} {store : I.Store} :
      Step sem (.read next) store (.read store) (next store) store
  | commit {work : I.Work} {next : Except I.Fault Unit → Prog I α} {before after : I.Store}
      (written : sem.flush work before = .ok after) :
      Step sem (.commit work next) before (.commit work before after) (next (.ok ())) after
  | abort {work : I.Work} {next : Except I.Fault Unit → Prog I α} {store : I.Store}
      {fault : I.Fault} (refused : sem.flush work store = .error fault) :
      Step sem (.commit work next) store (.abort work store fault) (next (.error fault)) store
  | call {query : I.Query} {next : I.Answer query → Prog I α} {before after : I.Store}
      {answer : I.Answer query} (answered : sem.Answers before query answer after) :
      Step sem (.call query next) before (.call query answer before after) (next answer) after

theorem Step.before_eq {sem : Semantics I} {p p' : Prog I α} {s s' : I.Store} {e : Event I}
    (step : Step sem p s e p' s') : e.before = s := by
  cases step <;> rfl

theorem Step.after_eq {sem : Semantics I} {p p' : Prog I α} {s s' : I.Store} {e : Event I}
    (step : Step sem p s e p' s') : e.after = s' := by
  cases step <;> rfl

theorem Step.sound {sem : Semantics I} {p p' : Prog I α} {s s' : I.Store} {e : Event I}
    (step : Step sem p s e p' s') : e.Sound sem := by
  cases step with
  | read => exact True.intro
  | commit written => exact written
  | abort refused => exact refused
  | call answered => exact answered

/-- A client running alone for any number of steps, stopped anywhere. -/
inductive Run (sem : Semantics I) :
    Prog I α → I.Store → List (Event I) → Prog I α → I.Store → Prop where
  | nil {p : Prog I α} {s : I.Store} : Run sem p s [] p s
  | snoc {p p' p'' : Prog I α} {s s' s'' : I.Store} {trace : List (Event I)} {e : Event I}
      (run : Run sem p s trace p' s') (step : Step sem p' s' e p'' s'') :
      Run sem p s (trace ++ [e]) p'' s''

end Prog

end Transaction
