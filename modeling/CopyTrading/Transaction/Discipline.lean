import CopyTrading.Transaction.Handler

/-!
Disciplines of sessions: what a session satisfies between its operations, and what is asked of
each of its events. A handler obeys a discipline when it keeps the one and does the other,
whatever other clients commit in between.
-/

namespace Transaction

structure Discipline (I : Interface) (σ : Type) where
  Holds : σ → Prop
  Asks : Event I → Prop

/-- Two postconditions of a client whose events are asked for one by one. -/
theorem Prog.Follows.and {I : Interface} {α : Type} {sem : Semantics I} {Asks : Event I → Prop}
    {post post' : α → Unit → Prop} {program : Prog I α}
    (follows : program.Follows (Protocol.each Asks) sem post ())
    (follows' : program.Follows (Protocol.each Asks) sem post' ()) :
    program.Follows (Protocol.each Asks) sem (fun result m => post result m ∧ post' result m) () := by
  induction program with
  | done result => exact ⟨follows, follows'⟩
  | read next ih =>
    intro store
    obtain ⟨_, asked, rest⟩ := follows store
    obtain ⟨_, -, rest'⟩ := follows' store
    exact ⟨(), asked, ih store rest rest'⟩
  | commit work next ih =>
    refine ⟨fun before after written => ?_, fun store fault refused => ?_⟩
    · obtain ⟨_, asked, rest⟩ := follows.1 before after written
      obtain ⟨_, -, rest'⟩ := follows'.1 before after written
      exact ⟨(), asked, ih _ rest rest'⟩
    · obtain ⟨_, asked, rest⟩ := follows.2 store fault refused
      obtain ⟨_, -, rest'⟩ := follows'.2 store fault refused
      exact ⟨(), asked, ih _ rest rest'⟩
  | call query next ih =>
    intro before answer after answered
    obtain ⟨_, asked, rest⟩ := follows before answer after answered
    obtain ⟨_, -, rest'⟩ := follows' before answer after answered
    exact ⟨(), asked, ih answer rest rest'⟩

namespace Handler

variable {I : Interface} {ε σ α β : Type} {D : Discipline I σ} {sem : Semantics I}

theorem Follows.and {Asks : Event I → Prop} {handler : Handler I ε σ α} {s : σ}
    {post post' : Except ε α → σ → Unit → Prop}
    (follows : Follows (Protocol.each Asks) sem handler post s ())
    (follows' : Follows (Protocol.each Asks) sem handler post' s ()) :
    Follows (Protocol.each Asks) sem handler
      (fun outcome s' m => post outcome s' m ∧ post' outcome s' m) s () :=
  Prog.Follows.and follows follows'

def Obeys (D : Discipline I σ) (sem : Semantics I) (handler : Handler I ε σ α) : Prop :=
  ∀ s, D.Holds s →
    Follows (Protocol.each D.Asks) sem handler (fun _ s' _ => D.Holds s') s ()

namespace Obeys

theorem pure (value : α) : Obeys D sem (Pure.pure value : Handler I ε σ α) :=
  fun _ holds => holds

theorem throw (raised : ε) : Obeys D sem (throw raised : Handler I ε σ α) :=
  fun _ holds => holds

theorem ofExcept (outcome : Except ε α) : Obeys D sem (ofExcept outcome : Handler I ε σ α) :=
  fun _ holds => holds

theorem ofExcept_bind {outcome : Except ε α} {next : α → Handler I ε σ β}
    (hnext : ∀ value, outcome = .ok value → Obeys D sem (next value)) :
    Obeys D sem (Handler.ofExcept outcome >>= next) :=
  fun _ holds => follows_ofExcept_bind (fun _ _ => holds) fun value returned =>
    hnext value returned _ holds

theorem raiseIf (condition : Prop) [Decidable condition] (raised : ε) :
    Obeys D sem (raiseIf condition raised : Handler I ε σ Unit) := by
  unfold Handler.raiseIf
  split
  · exact .throw raised
  · exact .pure ()

/-- The sequencing rule. -/
theorem bind {first : Handler I ε σ α} {next : α → Handler I ε σ β} (hfirst : Obeys D sem first)
    (hnext : ∀ value, Obeys D sem (next value)) : Obeys D sem (first >>= next) := by
  intro s holds
  refine (hfirst s holds).bind ?_ fun _ _ _ holds => holds
  exact fun value s' _ holds => hnext value s' holds

theorem tryCatch {body : Handler I ε σ α} {recover : ε → Handler I ε σ α}
    (hbody : Obeys D sem body) (hrecover : ∀ raised, Obeys D sem (recover raised)) :
    Obeys D sem (MonadExceptOf.tryCatch body recover) := by
  intro s holds
  refine Follows.tryCatch _ (hbody s holds) (fun _ _ _ holds => holds) ?_
  exact fun raised s' _ holds => hrecover raised s' holds

theorem session : Obeys D sem (session : Handler I ε σ σ) := fun _ holds => holds

theorem modify {change : σ → σ} (keeps : ∀ s, D.Holds s → D.Holds (change s)) :
    Obeys D sem (modify change : Handler I ε σ Unit) :=
  fun s holds => keeps s holds

theorem select {query : I.Store → α} (reads : ∀ store, D.Asks (.read store)) :
    Obeys D sem (select query : Handler I ε σ α) :=
  fun _ holds store => ⟨(), reads store, holds⟩

theorem ask {query : I.Query} (calls : ∀ answer before after, D.Asks (.call query answer before after)) :
    Obeys D sem (ask query : Handler I ε σ (I.Answer query)) :=
  fun _ holds before answer after _ => ⟨(), calls answer before after, holds⟩

/-- What follows may use what is read of the session. -/
theorem session_bind {next : σ → Handler I ε σ α}
    (hnext : ∀ s, D.Holds s → Follows (Protocol.each D.Asks) sem (next s) (fun _ s' _ => D.Holds s') s ()) :
    Obeys D sem (Handler.session >>= next) :=
  fun s holds => hnext s holds

end Obeys

/-- The events of a handler that obeys a discipline are as it asks. -/
theorem Obeys.asked {handler : Handler I ε σ α} (obeys : Obeys D sem handler) {s : σ}
    (holds : D.Holds s) {store store' : I.Store} {trace : List (Event I)}
    {rest : Prog I (Except ε α × σ)} (run : Prog.Run sem (handler s) store trace rest store') :
    ∀ e ∈ trace, D.Asks e := by
  obtain ⟨_, path, -⟩ := run.path (obeys s holds)
  refine path.invariant (fun trace _ _ => ∀ e ∈ trace, D.Asks e) (fun _ mem => (List.not_mem_nil mem).elim) ?_
  intro trace m e m' asked move _ e' mem
  rcases List.mem_append.mp mem with earlier | last
  · exact asked e' earlier
  · rw [List.mem_singleton.mp last]
    exact move

end Handler

end Transaction
