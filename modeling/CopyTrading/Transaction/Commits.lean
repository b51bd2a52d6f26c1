import CopyTrading.Transaction.Handler

/-!
What a program may commit, whatever it reads and whatever it is answered. A handler whose
session stays within bounds commits only such work, at any point of any interleaving.
-/

namespace Transaction

variable {I : Interface} {ε σ α β : Type} {Each : I.Work → Prop}

/-- Every unit of work the program can commit is as `Each` says, and its result as `post` says. -/
def Prog.Commits (Each : I.Work → Prop) (post : α → Prop) : Prog I α → Prop
  | .done result => post result
  | .read next => ∀ store, (next store).Commits Each post
  | .commit work next => Each work ∧ ∀ outcome, (next outcome).Commits Each post
  | .call _ next => ∀ answer, (next answer).Commits Each post

namespace Prog.Commits

variable {post : α → Prop}

theorem bind {mid : β → Prop} {program : Prog I β} {f : β → Prog I α}
    (first : program.Commits Each mid) (second : ∀ result, mid result → (f result).Commits Each post) :
    (program.bind f).Commits Each post := by
  induction program with
  | done result => exact second result first
  | read next ih => exact fun store => ih store (first store)
  | commit work next ih => exact ⟨first.1, fun outcome => ih outcome (first.2 outcome)⟩
  | call query next ih => exact fun answer => ih answer (first answer)

/-- Such a program follows every protocol that allows its commits in a phase it stays in. -/
theorem follows {P : Protocol I} {sem : Semantics I} {m : P.Phase} {program : Prog I α}
    (commits : program.Commits Each post) (reads : ∀ store, P.Move m (.read store) m)
    (writes : ∀ work before after, Each work → P.Move m (.commit work before after) m)
    (aborts : ∀ work store fault, P.Move m (.abort work store fault) m)
    (calls : ∀ query answer before after, P.Move m (.call query answer before after) m) :
    program.Follows P sem (fun result _ => post result) m := by
  induction program with
  | done result => exact commits
  | read next ih => exact fun store => ⟨m, reads store, ih store (commits store)⟩
  | commit work next ih =>
    constructor
    · exact fun before after _ => ⟨m, writes work before after commits.1, ih _ (commits.2 _)⟩
    · exact fun store fault _ => ⟨m, aborts work store fault, ih _ (commits.2 _)⟩
  | call query next ih =>
    exact fun before answer after _ => ⟨m, calls query answer before after, ih answer (commits answer)⟩

end Prog.Commits

namespace Handler

/-- The handler, run in a session, commits only such work and ends as `post` says. -/
def Commits (Each : I.Work → Prop) (handler : Handler I ε σ α) (post : Except ε α → σ → Prop)
    (s : σ) : Prop :=
  (handler s).Commits Each fun outcome => post outcome.1 outcome.2

/-- Sessions within `J` stay within it, whatever the handler returns or raises. -/
def Stays (Each : I.Work → Prop) (J : σ → Prop) (handler : Handler I ε σ α) : Prop :=
  ∀ s, J s → handler.Commits Each (fun _ s' => J s') s

namespace Stays

variable {J : σ → Prop}

theorem pure (value : α) : Stays Each J (Pure.pure value : Handler I ε σ α) := fun _ holds => holds

theorem throw (raised : ε) : Stays Each J (throw raised : Handler I ε σ α) := fun _ holds => holds

theorem ofExcept (outcome : Except ε α) : Stays Each J (ofExcept outcome : Handler I ε σ α) :=
  fun _ holds => holds

theorem raiseIf (condition : Prop) [Decidable condition] (raised : ε) :
    Stays Each J (raiseIf condition raised : Handler I ε σ Unit) := by
  unfold Handler.raiseIf
  split
  · exact throw raised
  · exact pure ()

theorem select (query : I.Store → α) : Stays Each J (select query : Handler I ε σ α) :=
  fun _ holds _ => holds

theorem ask (query : I.Query) : Stays Each J (ask query : Handler I ε σ (I.Answer query)) :=
  fun _ holds _ => holds

theorem modify {change : σ → σ} (keeps : ∀ s, J s → J (change s)) :
    Stays Each J (modify change : Handler I ε σ Unit) := keeps

theorem bind {first : Handler I ε σ α} {next : α → Handler I ε σ β} (hfirst : Stays Each J first)
    (rest : ∀ value, Stays Each J (next value)) : Stays Each J (first >>= next) := by
  intro s holds
  refine (hfirst s holds).bind ?_
  rintro ⟨outcome, s'⟩ later
  cases outcome with
  | ok value => exact rest value s' later
  | error raised => exact later

theorem map (f : α → β) {handler : Handler I ε σ α} (stays : Stays Each J handler) :
    Stays Each J (f <$> handler) := by
  rw [map_eq_pure_bind]
  exact stays.bind fun value => pure (f value)

theorem tryCatch {body : Handler I ε σ α} {recover : ε → Handler I ε σ α}
    (hbody : Stays Each J body) (rest : ∀ raised, Stays Each J (recover raised)) :
    Stays Each J (tryCatch body recover) := by
  intro s holds
  refine (hbody s holds).bind ?_
  rintro ⟨outcome, s'⟩ later
  cases outcome with
  | ok value => exact later
  | error raised => exact rest raised s' later

/-- What is done with the current session. -/
theorem session {next : σ → Handler I ε σ α}
    (rest : ∀ s, J s → (next s).Commits Each (fun _ s' => J s') s) :
    Stays Each J (Handler.session >>= next) := rest

end Stays

end Handler

end Transaction
