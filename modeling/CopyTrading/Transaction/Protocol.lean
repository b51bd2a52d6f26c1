import CopyTrading.Transaction.Interleaving

/-!
Protocols abstract clients. A protocol is a transition system on the events of one
client; a client follows it when each event it can produce is a move, whatever the
other clients did to the store in between. A run of clients that follow a protocol
is a run of the protocol, and invariants are proved there.
-/

namespace Transaction

structure Protocol (I : Interface) where
  Phase : Type
  Move : Phase → Event I → Phase → Prop

variable {I : Interface} {α β : Type} {P : Protocol I} {sem : Semantics I}

/-! ### Following a protocol -/

/-- From phase `m` every event of the program is a move of the protocol, and a result
is returned only in a phase that satisfies `post`. -/
def Prog.Follows (P : Protocol I) (sem : Semantics I) :
    Prog I α → (α → P.Phase → Prop) → P.Phase → Prop
  | .done result, post, m => post result m
  | .read next, post, m =>
      ∀ store, ∃ m', P.Move m (.read store) m' ∧ (next store).Follows P sem post m'
  | .commit work next, post, m =>
      (∀ before after, sem.flush work before = .ok after →
        ∃ m', P.Move m (.commit work before after) m' ∧ (next (.ok ())).Follows P sem post m') ∧
      (∀ store fault, sem.flush work store = .error fault →
        ∃ m', P.Move m (.abort work store fault) m' ∧
          (next (.error fault)).Follows P sem post m')
  | .call query next, post, m =>
      ∀ before answer after, sem.Answers before query answer after →
        ∃ m', P.Move m (.call query answer before after) m' ∧
          (next answer).Follows P sem post m'

/-- A client that follows a protocol follows every other one that has its moves. -/
theorem Prog.Follows.map {P' : Protocol I} {post : α → P.Phase → Prop}
    {post' : α → P'.Phase → Prop} (view : P.Phase → P'.Phase)
    (moves : ∀ m e m', P.Move m e m' → P'.Move (view m) e (view m'))
    (ends : ∀ result m, post result m → post' result (view m)) {program : Prog I α} {m : P.Phase}
    (follows : program.Follows P sem post m) : program.Follows P' sem post' (view m) := by
  induction program generalizing m with
  | done result => exact ends _ _ follows
  | read next ih =>
    intro store
    obtain ⟨m', move, rest⟩ := follows store
    exact ⟨view m', moves _ _ _ move, ih store rest⟩
  | commit work next ih =>
    refine ⟨fun before after written => ?_, fun store fault refused => ?_⟩
    · obtain ⟨m', move, rest⟩ := follows.1 before after written
      exact ⟨view m', moves _ _ _ move, ih _ rest⟩
    · obtain ⟨m', move, rest⟩ := follows.2 store fault refused
      exact ⟨view m', moves _ _ _ move, ih _ rest⟩
  | call query next ih =>
    intro before answer after answered
    obtain ⟨m', move, rest⟩ := follows before answer after answered
    exact ⟨view m', moves _ _ _ move, ih answer rest⟩

theorem Prog.Follows.mono {post post' : α → P.Phase → Prop} {program : Prog I α} {m : P.Phase}
    (follows : program.Follows P sem post m)
    (weaker : ∀ result m, post result m → post' result m) : program.Follows P sem post' m :=
  follows.map id (fun _ _ _ move => move) weaker

/-- The sequencing rule. -/
theorem Prog.Follows.bind {mid : α → P.Phase → Prop} {post : β → P.Phase → Prop}
    {program : Prog I α} {f : α → Prog I β} {m : P.Phase}
    (first : program.Follows P sem mid m)
    (second : ∀ result m', mid result m' → (f result).Follows P sem post m') :
    (program.bind f).Follows P sem post m := by
  induction program generalizing m with
  | done result => exact second _ _ first
  | read next ih =>
    intro store
    obtain ⟨m', move, rest⟩ := first store
    exact ⟨m', move, ih store rest⟩
  | commit work next ih =>
    refine ⟨fun before after written => ?_, fun store fault refused => ?_⟩
    · obtain ⟨m', move, rest⟩ := first.1 before after written
      exact ⟨m', move, ih _ rest⟩
    · obtain ⟨m', move, rest⟩ := first.2 store fault refused
      exact ⟨m', move, ih _ rest⟩
  | call query next ih =>
    intro before answer after answered
    obtain ⟨m', move, rest⟩ := first before answer after answered
    exact ⟨m', move, ih answer rest⟩

/-- The protocol of a client that follows `P` is kept by one step. -/
theorem Prog.Follows.step {post : α → P.Phase → Prop} {p p' : Prog I α} {s s' : I.Store}
    {e : Event I} {m : P.Phase} (follows : p.Follows P sem post m)
    (step : Prog.Step sem p s e p' s') :
    ∃ m', P.Move m e m' ∧ p'.Follows P sem post m' := by
  cases step with
  | read => exact follows _
  | commit written => exact follows.1 _ _ written
  | abort refused => exact follows.2 _ _ refused
  | call answered => exact follows _ _ _ answered

namespace Protocol

/-! ### A client alone -/

/-- Moves of one client on a store that nobody else touches. -/
inductive Path (P : Protocol I) (sem : Semantics I) (m₀ : P.Phase) (s₀ : I.Store) :
    List (Event I) → P.Phase → I.Store → Prop where
  | nil : Path P sem m₀ s₀ [] m₀ s₀
  | snoc {m m' : P.Phase} {s : I.Store} {trace : List (Event I)} {e : Event I}
      (path : Path P sem m₀ s₀ trace m s) (move : P.Move m e m')
      (sound : e.Sound sem) (here : e.before = s) :
      Path P sem m₀ s₀ (trace ++ [e]) m' e.after

/-- The invariant rule for a client alone. -/
theorem Path.invariant {m₀ m : P.Phase} {s₀ s : I.Store} {trace : List (Event I)}
    (Inv : List (Event I) → P.Phase → I.Store → Prop) (path : Path P sem m₀ s₀ trace m s)
    (init : Inv [] m₀ s₀)
    (step : ∀ trace m e m', Inv trace m e.before → P.Move m e m' → e.Sound sem →
      Inv (trace ++ [e]) m' e.after) : Inv trace m s := by
  induction path with
  | nil => exact init
  | snoc path move sound here ih =>
    subst here
    exact step _ _ _ _ ih move sound

end Protocol

theorem Prog.Run.path {post : α → P.Phase → Prop} {p p' : Prog I α} {s s' : I.Store}
    {trace : List (Event I)} {m : P.Phase} (run : Prog.Run sem p s trace p' s')
    (follows : p.Follows P sem post m) :
    ∃ m', P.Path sem m s trace m' s' ∧ p'.Follows P sem post m' := by
  induction run with
  | nil => exact ⟨m, .nil, follows⟩
  | snoc run step ih =>
    obtain ⟨m', path, rest⟩ := ih
    obtain ⟨m'', move, rest'⟩ := rest.step step
    have hpath := path.snoc move step.sound step.before_eq
    rw [step.after_eq] at hpath
    exact ⟨m'', hpath, rest'⟩

/-- The outcome of a run that has ended is as the protocol says. -/
theorem Prog.Run.outcome {post : α → P.Phase → Prop} {p : Prog I α} {s s' : I.Store}
    {trace : List (Event I)} {m : P.Phase} {result : α}
    (run : Prog.Run sem p s trace (.done result) s') (follows : p.Follows P sem post m) :
    ∃ m', post result m' := by
  obtain ⟨m', -, ends⟩ := run.path follows
  exact ⟨m', ends⟩

/-- The protocol that allows every event. -/
def Protocol.free (I : Interface) : Protocol I where
  Phase := Unit
  Move _ _ _ := True

/-- The protocol that asks the same of every event. -/
abbrev Protocol.each (P : Event I → Prop) : Protocol I where
  Phase := Unit
  Move _ e _ := P e

/-! ### Clients together -/

variable {ι : Type} [DecidableEq ι] {α : ι → Type} {Q : ι → Protocol I}

namespace Protocol

/-- Interleaved moves of clients, each in a protocol and a phase of its own. -/
inductive Run (Q : ι → Protocol I) (sem : Semantics I) (phase₀ : ∀ i, (Q i).Phase)
    (s₀ : I.Store) : Trace I ι → (∀ i, (Q i).Phase) → I.Store → Prop where
  | nil : Run Q sem phase₀ s₀ [] phase₀ s₀
  | snoc {trace : Trace I ι} {phase : ∀ i, (Q i).Phase} {s : I.Store} {i : ι} {e : Event I}
      {m : (Q i).Phase} (run : Run Q sem phase₀ s₀ trace phase s) (move : (Q i).Move (phase i) e m)
      (sound : e.Sound sem) (here : e.before = s) :
      Run Q sem phase₀ s₀ (trace ++ [(i, e)]) (Function.update phase i m) e.after

/-- The invariant rule: what holds at first and is kept by every move holds of every run. -/
theorem Run.invariant {sem : Semantics I} {phase₀ phase : ∀ i, (Q i).Phase} {s₀ s : I.Store}
    {trace : Trace I ι} (Inv : Trace I ι → (∀ i, (Q i).Phase) → I.Store → Prop)
    (run : Run Q sem phase₀ s₀ trace phase s) (init : Inv [] phase₀ s₀)
    (step : ∀ trace phase i e m, Inv trace phase e.before → (Q i).Move (phase i) e m →
      e.Sound sem → Inv (trace ++ [(i, e)]) (Function.update phase i m) e.after) :
    Inv trace phase s := by
  induction run with
  | nil => exact init
  | snoc run move sound here ih =>
    subst here
    exact step _ _ _ _ _ ih move sound

/-- The last event of a run was a move to where the run is. -/
theorem Run.last {sem : Semantics I} {phase₀ phase : ∀ i, (Q i).Phase} {s₀ s : I.Store}
    {trace : Trace I ι} {i : ι} {e : Event I}
    (run : Run Q sem phase₀ s₀ (trace ++ [(i, e)]) phase s) :
    ∃ phases m, Run Q sem phase₀ s₀ trace phases e.before ∧ (Q i).Move (phases i) e m ∧
      e.Sound sem ∧ e.after = s := by
  generalize hwhole : trace ++ [(i, e)] = whole at run
  cases run with
  | nil => simp at hwhole
  | snoc run move sound here =>
    obtain ⟨hinit, hlast⟩ := List.append_inj' hwhole rfl
    subst hinit
    simp only [List.cons.injEq, Prod.mk.injEq, and_true] at hlast
    obtain ⟨rfl, rfl⟩ := hlast
    subst here
    exact ⟨_, _, run, move, sound, rfl⟩

/-- Every event of a run was a move, at the end of an earlier run. -/
theorem Run.move_of_mem {sem : Semantics I} {phase₀ phase : ∀ i, (Q i).Phase} {s₀ s : I.Store}
    {trace : Trace I ι} (run : Run Q sem phase₀ s₀ trace phase s) {i : ι} {e : Event I}
    (mem : (i, e) ∈ trace) :
    ∃ earlier phases m, Run Q sem phase₀ s₀ earlier phases e.before ∧
      (Q i).Move (phases i) e m ∧ e.Sound sem ∧ earlier ++ [(i, e)] <+: trace := by
  induction run with
  | nil => cases mem
  | @snoc trace phase s j e' m run move sound here ih =>
    rcases List.mem_append.mp mem with earlier | last
    · obtain ⟨before, phases, m', earlierRun, earlierMove, earlierSound, initial⟩ := ih earlier
      exact ⟨before, phases, m', earlierRun, earlierMove, earlierSound,
        initial.trans (List.prefix_append _ _)⟩
    · rw [List.mem_singleton] at last
      cases last
      subst here
      exact ⟨trace, phase, m, run, move, sound, List.prefix_rfl⟩

end Protocol

/-- The simulation theorem: a run of clients that follow their protocols is a run of the
protocols. -/
theorem Config.Run.tracked {post : (i : ι) → α i → (Q i).Phase → Prop} {c₀ c : Config I α}
    {phase₀ : ∀ i, (Q i).Phase} {trace : Trace I ι} (run : Config.Run sem c₀ trace c)
    (follows : ∀ i, (c₀.client i).Follows (Q i) sem (post i) (phase₀ i)) :
    ∃ phase, Protocol.Run Q sem phase₀ c₀.store trace phase c.store ∧
      ∀ i, (c.client i).Follows (Q i) sem (post i) (phase i) := by
  induction run with
  | nil => exact ⟨phase₀, .nil, follows⟩
  | @snoc trace c c' i e run step ih =>
    obtain ⟨phase, abstract, rest⟩ := ih
    cases step with
    | @move program store step =>
      obtain ⟨m, move, rest'⟩ := (rest i).step step
      have hrun := abstract.snoc (i := i) move step.sound step.before_eq
      rw [step.after_eq] at hrun
      refine ⟨Function.update phase i m, hrun, fun j => ?_⟩
      by_cases hj : j = i
      · subst hj
        simpa [Config.advance] using rest'
      · simpa [Config.advance, Function.update_of_ne hj] using rest j

/-- Whatever the others do, the events of a client are as its program asks of each. -/
theorem Config.Run.each {P : Event I → Prop} {c₀ c : Config I α} {trace : Trace I ι} {i : ι}
    (run : Config.Run sem c₀ trace c)
    (follows : (c₀.client i).Follows (Protocol.each P) sem (fun _ _ => True) ()) :
    ∀ e, (i, e) ∈ trace → P e := by
  suffices known : (c.client i).Follows (Protocol.each P) sem (fun _ _ => True) () ∧
      ∀ e, (i, e) ∈ trace → P e from known.2
  induction run with
  | nil => exact ⟨follows, fun e mem => (List.not_mem_nil mem).elim⟩
  | @snoc trace c c' j e' run step ih =>
    obtain ⟨rest, each⟩ := ih
    cases step with
    | @move program store step =>
      by_cases same : j = i
      · subst same
        obtain ⟨m, move, rest'⟩ := rest.step step
        refine ⟨by simpa [Config.advance] using rest', fun e mem => ?_⟩
        rcases List.mem_append.mp mem with earlier | last
        · exact each e earlier
        · simp only [List.mem_singleton, Prod.mk.injEq, true_and] at last
          exact last ▸ move
      · refine ⟨by simpa [Config.advance, Function.update_of_ne (Ne.symm same)] using rest, ?_⟩
        intro e mem
        rcases List.mem_append.mp mem with earlier | last
        · exact each e earlier
        · simp only [List.mem_singleton, Prod.mk.injEq] at last
          exact absurd last.1.symm same

end Transaction
