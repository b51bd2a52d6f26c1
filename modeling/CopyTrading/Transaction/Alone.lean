import CopyTrading.Transaction.Handler

/-!
A client that has the store for itself. What its runs can lead to is computed along the
program, with what is asked of every commit and of every call on the way.
-/

namespace Transaction

variable {I : Interface} {α β : Type} {sem : Semantics I} {Each : Event I → Prop}

/-- A commit that was accepted, or a call. -/
def Event.isAction : Event I → Bool
  | .commit .. | .call .. => true
  | .read _ | .abort .. => false

/-! ### Programs -/

/-- Run from `store` while nobody else moves, the program acts as `Each` asks and ends as
`post` says. -/
def Prog.Alone (sem : Semantics I) (Each : Event I → Prop) :
    Prog I α → (α → I.Store → Prop) → I.Store → Prop
  | .done result, post, store => post result store
  | .read next, post, store => (next store).Alone sem Each post store
  | .commit work next, post, store =>
      (∀ after, sem.flush work store = .ok after →
        Each (.commit work store after) ∧ (next (.ok ())).Alone sem Each post after) ∧
      (∀ fault, sem.flush work store = .error fault →
        (next (.error fault)).Alone sem Each post store)
  | .call query next, post, store =>
      ∀ answer after, sem.Answers store query answer after →
        Each (.call query answer store after) ∧ (next answer).Alone sem Each post after

namespace Prog

theorem Alone.mono {Each' : Event I → Prop} {post post' : α → I.Store → Prop} {program : Prog I α}
    {store : I.Store} (alone : program.Alone sem Each post store)
    (weaker : ∀ result store, post result store → post' result store)
    (each : ∀ e, Each e → Each' e) : program.Alone sem Each' post' store := by
  induction program generalizing store with
  | done result => exact weaker _ _ alone
  | read next ih => exact ih _ alone
  | commit work next ih =>
    constructor
    · intro after written
      obtain ⟨acted, rest⟩ := alone.1 after written
      exact ⟨each _ acted, ih _ rest⟩
    · intro fault refused
      exact ih _ (alone.2 fault refused)
  | call query next ih =>
    intro answer after answered
    obtain ⟨acted, rest⟩ := alone answer after answered
    exact ⟨each _ acted, ih _ rest⟩

theorem Alone.and {post post' : α → I.Store → Prop} {program : Prog I α} {store : I.Store}
    (alone : program.Alone sem Each post store) (alone' : program.Alone sem Each post' store) :
    program.Alone sem Each (fun result store => post result store ∧ post' result store) store := by
  induction program generalizing store with
  | done result => exact ⟨alone, alone'⟩
  | read next ih => exact ih _ alone alone'
  | commit work next ih =>
    constructor
    · intro after written
      exact ⟨(alone.1 after written).1, ih _ (alone.1 after written).2 (alone'.1 after written).2⟩
    · intro fault refused
      exact ih _ (alone.2 fault refused) (alone'.2 fault refused)
  | call query next ih =>
    intro answer after answered
    exact ⟨(alone answer after answered).1,
      ih _ (alone answer after answered).2 (alone' answer after answered).2⟩

/-- What holds of every outcome holds at the end, whatever the program does. -/
theorem Alone.of_forall {post : α → I.Store → Prop} (all : ∀ result store, post result store)
    (program : Prog I α) (store : I.Store) : program.Alone sem (fun _ => True) post store := by
  induction program generalizing store with
  | done result => exact all _ _
  | read next ih => exact ih _ _
  | commit work next ih =>
    constructor
    · intro after _
      exact ⟨True.intro, ih _ _⟩
    · intro fault _
      exact ih _ _
  | call query next ih =>
    intro answer after _
    exact ⟨True.intro, ih _ _⟩

/-- A property of the store that every event keeps holds at every end. -/
theorem Alone.of_preserved {P : I.Store → Prop}
    (each : ∀ e : Event I, e.Sound sem → P e.before → P e.after) (program : Prog I α)
    {store : I.Store} (start : P store) :
    program.Alone sem (fun _ => True) (fun _ store => P store) store := by
  induction program generalizing store with
  | done result => exact start
  | read next ih => exact ih store start
  | commit work next ih =>
    constructor
    · intro after flushed
      exact ⟨True.intro, ih _ (each (.commit work store after) flushed start)⟩
    · intro fault _
      exact ih _ start
  | call query next ih =>
    intro answer after answered
    exact ⟨True.intro, ih _ (each (.call query answer store after) answered start)⟩

theorem alone_bind {post : β → I.Store → Prop} {program : Prog I α} {f : α → Prog I β}
    {store : I.Store} :
    (program.bind f).Alone sem Each post store ↔
      program.Alone sem Each (fun result store => (f result).Alone sem Each post store) store := by
  induction program generalizing store with
  | done result => exact Iff.rfl
  | read next ih => exact ih _
  | commit work next ih =>
    exact and_congr (forall₂_congr fun _ _ => and_congr_right fun _ => ih _)
      (forall₂_congr fun _ _ => ih _)
  | call query next ih => exact forall₃_congr fun _ _ _ => and_congr_right fun _ => ih _

theorem Alone.step {post : α → I.Store → Prop} {p p' : Prog I α} {s s' : I.Store} {e : Event I}
    (alone : p.Alone sem Each post s) (step : Step sem p s e p' s') :
    (e.isAction = true → Each e) ∧ p'.Alone sem Each post s' := by
  cases step with
  | read => exact ⟨fun h => Bool.noConfusion h, alone⟩
  | commit written =>
    obtain ⟨acted, rest⟩ := alone.1 _ written
    exact ⟨fun _ => acted, rest⟩
  | abort refused => exact ⟨fun h => Bool.noConfusion h, alone.2 _ refused⟩
  | call answered =>
    obtain ⟨acted, rest⟩ := alone _ _ answered
    exact ⟨fun _ => acted, rest⟩

/-- The run rule: every action of a run is as asked, and what is left still ends as said. -/
theorem Run.of_alone {post : α → I.Store → Prop} {p p' : Prog I α} {s s' : I.Store}
    {trace : List (Event I)} (run : Run sem p s trace p' s') (alone : p.Alone sem Each post s) :
    (∀ e ∈ trace, e.isAction = true → Each e) ∧ p'.Alone sem Each post s' := by
  induction run with
  | nil => exact ⟨fun _ he => (List.not_mem_nil he).elim, alone⟩
  | snoc run step ih =>
    obtain ⟨earlier, rest⟩ := ih alone
    obtain ⟨last, rest'⟩ := rest.step step
    refine ⟨fun e he => ?_, rest'⟩
    rcases List.mem_append.mp he with he | he
    · exact earlier e he
    · rw [List.mem_singleton.mp he]
      exact last

theorem Run.trans {p p' p'' : Prog I α} {s s' s'' : I.Store} {first second : List (Event I)}
    (run₁ : Run sem p s first p' s') (run₂ : Run sem p' s' second p'' s'') :
    Run sem p s (first ++ second) p'' s'' := by
  induction run₂ with
  | nil => simpa using run₁
  | snoc run step ih => simpa using (ih run₁).snoc step

/-- A run that goes anywhere begins with a step. -/
theorem Run.first {p p'' : Prog I α} {s s'' : I.Store} {trace : List (Event I)}
    (run : Run sem p s trace p'' s'') :
    (trace = [] ∧ p'' = p ∧ s'' = s) ∨
      ∃ e p' s' rest, trace = e :: rest ∧ Step sem p s e p' s' ∧ Run sem p' s' rest p'' s'' := by
  induction run with
  | nil => exact .inl ⟨rfl, rfl, rfl⟩
  | snoc run last ih =>
    rcases ih with ⟨rfl, rfl, rfl⟩ | ⟨e, p', s', rest, rfl, step, run'⟩
    · exact .inr ⟨_, _, _, [], rfl, last, .nil⟩
    · exact .inr ⟨e, p', s', rest ++ [_], rfl, step, run'.snoc last⟩

/-- A run of a program to its end passes the end of its first part. -/
theorem Run.split_bind {p : Prog I α} {f : α → Prog I β} {result : β} {s s' : I.Store}
    {trace : List (Event I)} (run : Run sem (p.bind f) s trace (.done result) s') :
    ∃ first second value mid, trace = first ++ second ∧ Run sem p s first (.done value) mid ∧
      Run sem (f value) mid second (.done result) s' := by
  induction p generalizing s trace with
  | done value => exact ⟨[], trace, value, s, rfl, .nil, run⟩
  | read next ih =>
    rcases run.first with ⟨-, h, -⟩ | ⟨e, p', mid, rest, rfl, step, run'⟩
    · cases h
    · cases step
      obtain ⟨first, second, value, mid, rfl, ran, later⟩ := ih _ run'
      exact ⟨_, second, value, mid, rfl, (Run.nil.snoc .read).trans ran, later⟩
  | commit work next ih =>
    rcases run.first with ⟨-, h, -⟩ | ⟨e, p', mid, rest, rfl, step, run'⟩
    · cases h
    · cases step with
      | commit written =>
        obtain ⟨first, second, value, mid, rfl, ran, later⟩ := ih _ run'
        exact ⟨_, second, value, mid, rfl, (Run.nil.snoc (.commit written)).trans ran, later⟩
      | abort refused =>
        obtain ⟨first, second, value, mid, rfl, ran, later⟩ := ih _ run'
        exact ⟨_, second, value, mid, rfl, (Run.nil.snoc (.abort refused)).trans ran, later⟩
  | call query next ih =>
    rcases run.first with ⟨-, h, -⟩ | ⟨e, p', mid, rest, rfl, step, run'⟩
    · cases h
    · cases step with
      | call answered =>
        obtain ⟨first, second, value, mid, rfl, ran, later⟩ := ih _ run'
        exact ⟨_, second, value, mid, rfl, (Run.nil.snoc (.call answered)).trans ran, later⟩

/-- The run of a program that starts with a call starts with an answer. -/
theorem Run.split_call {query : I.Query} {next : I.Answer query → Prog I α} {result : α}
    {s s' : I.Store} {trace : List (Event I)}
    (run : Run sem (.call query next) s trace (.done result) s') :
    ∃ answer mid rest, trace = .call query answer s mid :: rest ∧
      sem.Answers s query answer mid ∧ Run sem (next answer) mid rest (.done result) s' := by
  rcases run.first with ⟨-, h, -⟩ | ⟨e, p', mid, rest, rfl, step, run'⟩
  · cases h
  · cases step with
    | call answered => exact ⟨_, mid, rest, rfl, answered, run'⟩

/-- When every call is answered, the program has a run to its end. -/
theorem exists_complete (answered : ∀ store query, ∃ answer after,
    sem.Answers store query answer after) (program : Prog I α) (store : I.Store) :
    ∃ trace result store', Run sem program store trace (.done result) store' := by
  induction program generalizing store with
  | done result => exact ⟨[], result, store, .nil⟩
  | read next ih =>
    obtain ⟨trace, result, store', run⟩ := ih store store
    exact ⟨_, result, store', (Run.nil.snoc .read).trans run⟩
  | commit work next ih =>
    cases hflush : sem.flush work store with
    | ok after =>
      obtain ⟨trace, result, store', run⟩ := ih (.ok ()) after
      exact ⟨_, result, store', (Run.nil.snoc (.commit hflush)).trans run⟩
    | error fault =>
      obtain ⟨trace, result, store', run⟩ := ih (.error fault) store
      exact ⟨_, result, store', (Run.nil.snoc (.abort hflush)).trans run⟩
  | call query next ih =>
    obtain ⟨answer, after, allowed⟩ := answered store query
    obtain ⟨trace, result, store', run⟩ := ih answer after
    exact ⟨_, result, store', (Run.nil.snoc (.call allowed)).trans run⟩

/-- What every step of a run preserves holds at its end. -/
theorem Run.preserves {p p' : Prog I α} {s s' : I.Store} {trace : List (Event I)}
    {P : I.Store → Prop} (run : Run sem p s trace p' s') (start : P s)
    (each : ∀ e ∈ trace, e.Sound sem → P e.before → P e.after) : P s' := by
  induction run with
  | nil => exact start
  | snoc run step ih =>
    have last := each _ (List.mem_append_right _ List.mem_cons_self) step.sound
    rw [step.before_eq, step.after_eq] at last
    exact last (ih start fun e he => each e (List.mem_append_left _ he))

/-- A property of the store that a run establishes is established by one of its steps. -/
theorem Run.exists_establishing {p p' : Prog I α} {s s' : I.Store} {trace : List (Event I)}
    {holds : I.Store → Prop} (run : Run sem p s trace p' s') (before : ¬ holds s)
    (after : holds s') : ∃ e ∈ trace, e.Sound sem ∧ ¬ holds e.before ∧ holds e.after := by
  induction run with
  | nil => exact absurd after before
  | @snoc p' p'' s s' s'' trace e run step ih =>
    by_cases earlier : holds s'
    · obtain ⟨e, he, found⟩ := ih before earlier
      exact ⟨e, List.mem_append_left _ he, found⟩
    · refine ⟨e, List.mem_append_right _ List.mem_cons_self, step.sound, ?_⟩
      rw [step.before_eq, step.after_eq]
      exact ⟨earlier, after⟩

end Prog

/-! ### Handlers -/

namespace Handler

variable {ε σ : Type}

/-- `post` holds of the outcome, the session left behind and the store. -/
def Alone (sem : Semantics I) (Each : Event I → Prop) (handler : Handler I ε σ α)
    (post : Except ε α → σ → I.Store → Prop) (session : σ) (store : I.Store) : Prop :=
  (handler session).Alone sem Each (fun outcome store => post outcome.1 outcome.2 store) store

variable {post post' : Except ε α → σ → I.Store → Prop} {postβ : Except ε β → σ → I.Store → Prop}
  {s : σ} {w : I.Store}

theorem Alone.mono {Each' : Event I → Prop} {handler : Handler I ε σ α}
    (alone : Alone sem Each handler post s w)
    (weaker : ∀ outcome s w, post outcome s w → post' outcome s w)
    (each : ∀ e, Each e → Each' e := by exact fun _ h => h) :
    Alone sem Each' handler post' s w :=
  Prog.Alone.mono alone (fun outcome => weaker outcome.1 outcome.2) each

theorem Alone.and {handler : Handler I ε σ α} (alone : Alone sem Each handler post s w)
    (alone' : Alone sem Each handler post' s w) :
    Alone sem Each handler (fun outcome s w => post outcome s w ∧ post' outcome s w) s w :=
  Prog.Alone.and alone alone'

theorem Alone.of_forall (all : ∀ outcome s w, post outcome s w) (handler : Handler I ε σ α)
    (s : σ) (w : I.Store) : Alone sem (fun _ => True) handler post s w := by
  unfold Alone
  exact Prog.Alone.of_forall (fun outcome store => all outcome.1 outcome.2 store) (handler s) w

theorem Alone.of_preserved {P : I.Store → Prop}
    (each : ∀ e : Event I, e.Sound sem → P e.before → P e.after) (handler : Handler I ε σ α)
    (s : σ) (start : P w) : Alone sem (fun _ => True) handler (fun _ _ w => P w) s w :=
  Prog.Alone.of_preserved each (handler s) start

/-- What the first part has to end with: an exception skips the rest. -/
def andThen (sem : Semantics I) (Each : Event I → Prop) (next : α → Handler I ε σ β)
    (post : Except ε β → σ → I.Store → Prop) : Except ε α → σ → I.Store → Prop
  | .ok value, s, w => Alone sem Each (next value) post s w
  | .error raised, s, w => post (.error raised) s w

/-- What the body of a `try` has to end with. -/
def orElse (sem : Semantics I) (Each : Event I → Prop) (recover : ε → Handler I ε σ α)
    (post : Except ε α → σ → I.Store → Prop) : Except ε α → σ → I.Store → Prop
  | .ok value, s, w => post (.ok value) s w
  | .error raised, s, w => Alone sem Each (recover raised) post s w

@[simp] theorem andThen_ok {next : α → Handler I ε σ β} {value : α} :
    andThen sem Each next postβ (.ok value) s w ↔ Alone sem Each (next value) postβ s w := Iff.rfl

@[simp] theorem andThen_error {next : α → Handler I ε σ β} {raised : ε} :
    andThen sem Each next postβ (.error raised) s w ↔ postβ (.error raised) s w := Iff.rfl

@[simp] theorem orElse_ok {recover : ε → Handler I ε σ α} {value : α} :
    orElse sem Each recover post (.ok value) s w ↔ post (.ok value) s w := Iff.rfl

@[simp] theorem orElse_error {recover : ε → Handler I ε σ α} {raised : ε} :
    orElse sem Each recover post (.error raised) s w ↔
      Alone sem Each (recover raised) post s w := Iff.rfl

theorem alone_bind {first : Handler I ε σ α} {next : α → Handler I ε σ β} :
    Alone sem Each (first >>= next) postβ s w ↔
      Alone sem Each first (andThen sem Each next postβ) s w := by
  refine Prog.alone_bind.trans ?_
  refine iff_of_eq (congrArg (fun post => Prog.Alone sem Each (first s) post w) ?_)
  funext outcome store
  obtain ⟨outcome, session'⟩ := outcome
  cases outcome <;> rfl

theorem alone_tryCatch {body : Handler I ε σ α} {recover : ε → Handler I ε σ α} :
    Alone sem Each (MonadExceptOf.tryCatch body recover) post s w ↔
      Alone sem Each body (orElse sem Each recover post) s w := by
  refine Prog.alone_bind.trans ?_
  refine iff_of_eq (congrArg (fun post => Prog.Alone sem Each (body s) post w) ?_)
  funext outcome store
  obtain ⟨outcome, session'⟩ := outcome
  cases outcome <;> rfl

/-- The sequencing rule with the condition in between spelled out. -/
theorem Alone.bind {first : Handler I ε σ α} {next : α → Handler I ε σ β}
    {mid : Except ε α → σ → I.Store → Prop} (hfirst : Alone sem Each first mid s w)
    (returned : ∀ value s w, mid (.ok value) s w → Alone sem Each (next value) postβ s w)
    (raised : ∀ exc s w, mid (.error exc) s w → postβ (.error exc) s w) :
    Alone sem Each (first >>= next) postβ s w := by
  refine alone_bind.mpr (hfirst.mono fun outcome s w hmid => ?_)
  cases outcome with
  | ok value => exact returned value s w hmid
  | error exc => exact raised exc s w hmid

/-- A condition on the store alone that both parts keep. -/
theorem Alone.bind_store {first : Handler I ε σ α} {next : α → Handler I ε σ β}
    {P : I.Store → Prop} (hfirst : Alone sem Each first (fun _ _ w => P w) s w)
    (rest : ∀ value s w, P w → Alone sem Each (next value) (fun _ _ w => P w) s w) :
    Alone sem Each (first >>= next) (fun _ _ w => P w) s w :=
  hfirst.bind rest fun _ _ _ holds => holds

theorem Alone.tryCatch_store {body : Handler I ε σ α} {recover : ε → Handler I ε σ α}
    {P : I.Store → Prop} (hbody : Alone sem Each body (fun _ _ w => P w) s w)
    (caught : ∀ exc s w, P w → Alone sem Each (recover exc) (fun _ _ w => P w) s w) :
    Alone sem Each (MonadExceptOf.tryCatch body recover) (fun _ _ w => P w) s w := by
  refine alone_tryCatch.mpr (hbody.mono fun outcome s w holds => ?_)
  cases outcome with
  | ok value => exact holds
  | error exc => exact caught exc s w holds

@[simp] theorem alone_pure {value : α} :
    Alone sem Each (pure value : Handler I ε σ α) post s w ↔ post (.ok value) s w := Iff.rfl

@[simp] theorem alone_throw {raised : ε} :
    Alone sem Each (throw raised : Handler I ε σ α) post s w ↔ post (.error raised) s w := Iff.rfl

@[simp] theorem alone_session {post : Except ε σ → σ → I.Store → Prop} :
    Alone sem Each (session : Handler I ε σ σ) post s w ↔ post (.ok s) s w := Iff.rfl

@[simp] theorem alone_modify {change : σ → σ} {post : Except ε Unit → σ → I.Store → Prop} :
    Alone sem Each (modify change : Handler I ε σ Unit) post s w ↔ post (.ok ()) (change s) w :=
  Iff.rfl

@[simp] theorem alone_select {query : I.Store → α} :
    Alone sem Each (select query : Handler I ε σ α) post s w ↔ post (.ok (query w)) s w := Iff.rfl

@[simp] theorem alone_submit {work : I.Work}
    {post : Except ε (Except I.Fault Unit) → σ → I.Store → Prop} :
    Alone sem Each (submit work : Handler I ε σ (Except I.Fault Unit)) post s w ↔
      (∀ after, sem.flush work w = .ok after →
        Each (.commit work w after) ∧ post (.ok (.ok ())) s after) ∧
      (∀ fault, sem.flush work w = .error fault → post (.ok (.error fault)) s w) := Iff.rfl

@[simp] theorem alone_ask {query : I.Query}
    {post : Except ε (I.Answer query) → σ → I.Store → Prop} :
    Alone sem Each (ask query : Handler I ε σ (I.Answer query)) post s w ↔
      ∀ answer after, sem.Answers w query answer after →
        Each (.call query answer w after) ∧ post (.ok answer) s after := Iff.rfl

theorem alone_ask_bind {query : I.Query} {next : I.Answer query → Handler I ε σ β} :
    Alone sem Each (ask query >>= next) postβ s w ↔
      ∀ answer after, sem.Answers w query answer after →
        Each (.call query answer w after) ∧ Alone sem Each (next answer) postβ s after := Iff.rfl

@[simp] theorem alone_ofExcept {outcome : Except ε α} :
    Alone sem Each (ofExcept outcome : Handler I ε σ α) post s w ↔ post outcome s w := Iff.rfl

theorem alone_raiseIf {condition : Prop} [Decidable condition] {raised : ε}
    {post : Except ε Unit → σ → I.Store → Prop} :
    Alone sem Each (raiseIf condition raised : Handler I ε σ Unit) post s w ↔
      (condition → post (.error raised) s w) ∧ (¬ condition → post (.ok ()) s w) := by
  unfold raiseIf
  by_cases holds : condition
  · rw [if_pos holds]
    exact ⟨fun h => ⟨fun _ => h, fun fails => absurd holds fails⟩, fun h => h.1 holds⟩
  · rw [if_neg holds]
    exact ⟨fun h => ⟨fun passed => absurd passed holds, fun _ => h⟩, fun h => h.2 holds⟩

theorem alone_discard {handler : Handler I ε σ α} {post : Except ε PUnit → σ → I.Store → Prop} :
    Alone sem Each (discard handler) post s w ↔
      Alone sem Each handler (fun outcome s w => post (outcome.map fun _ => ⟨⟩) s w) s w := by
  have unfolded : (discard handler : Handler I ε σ PUnit) = handler >>= fun _ => pure ⟨⟩ := by
    unfold discard
    rw [LawfulFunctor.map_const, Function.comp_apply, map_eq_pure_bind]
  rw [unfolded, alone_bind]
  refine iff_of_eq (congrArg (fun post => Alone sem Each handler post s w) ?_)
  funext outcome s w
  cases outcome <;> rfl

/-! ### Runs of handlers -/

/-- A run passes the end of the first part, or ends with what the first part raises. -/
theorem split_bind {first : Handler I ε σ α} {next : α → Handler I ε σ β} {trace : List (Event I)}
    {outcome : Except ε β × σ} {w' : I.Store}
    (run : Prog.Run sem ((first >>= next) s) w trace (.done outcome) w') :
    (∃ value s₁ w₁ front back, trace = front ++ back ∧
      Prog.Run sem (first s) w front (.done (.ok value, s₁)) w₁ ∧
      Prog.Run sem (next value s₁) w₁ back (.done outcome) w') ∨
    ∃ raised s₁, outcome = (.error raised, s₁) ∧
      Prog.Run sem (first s) w trace (.done (.error raised, s₁)) w' := by
  obtain ⟨front, back, ⟨passed, s₁⟩, w₁, rfl, earlier, later⟩ := Prog.Run.split_bind run
  cases passed with
  | ok value => exact .inl ⟨value, s₁, w₁, front, back, rfl, earlier, later⟩
  | error raised =>
    rcases later.first with ⟨rfl, ended, rfl⟩ | ⟨_, _, _, _, _, step, _⟩
    · exact .inr ⟨raised, s₁, Prog.done.inj ended, by simpa using earlier⟩
    · cases step

/-- The same within a `try`: what the first part raises is caught. -/
theorem split_tryCatch_bind {first : Handler I ε σ α} {next : α → Handler I ε σ β}
    {recover : ε → Handler I ε σ β} {trace : List (Event I)} {outcome : Except ε β × σ}
    {w' : I.Store}
    (run : Prog.Run sem (tryCatch (first >>= next) recover s) w trace (.done outcome) w') :
    (∃ value s₁ w₁ front back, trace = front ++ back ∧
      Prog.Run sem (first s) w front (.done (.ok value, s₁)) w₁ ∧
      Prog.Run sem (tryCatch (next value) recover s₁) w₁ back (.done outcome) w') ∨
    ∃ raised s₁ w₁ front back, trace = front ++ back ∧
      Prog.Run sem (first s) w front (.done (.error raised, s₁)) w₁ ∧
      Prog.Run sem (recover raised s₁) w₁ back (.done outcome) w' := by
  have whole := (congrArg (fun program => Prog.Run sem program w trace (.done outcome) w')
    (Prog.bind_assoc (first s) _ _)).mp run
  obtain ⟨front, back, ⟨passed, s₁⟩, w₁, rfl, earlier, later⟩ := Prog.Run.split_bind whole
  cases passed with
  | ok value => exact .inl ⟨value, s₁, w₁, front, back, rfl, earlier, later⟩
  | error raised => exact .inr ⟨raised, s₁, w₁, front, back, rfl, earlier, later⟩

end Handler

end Transaction
