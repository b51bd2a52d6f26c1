import CopyTrading.Transaction.Protocol

/-!
Request handlers: programs that carry a client-side session and may raise.
The session survives an exception, as the state of an object does when a caller
catches what was raised.
-/

namespace Transaction

/-- A program over a session of type `σ` that returns a value or raises an `ε`. -/
def Handler (I : Interface) (ε σ α : Type) := σ → Prog I (Except ε α × σ)

variable {I : Interface} {ε σ α β : Type}

namespace Handler

protected def pure (value : α) : Handler I ε σ α := fun session => .done (.ok value, session)

protected def bind (first : Handler I ε σ α) (next : α → Handler I ε σ β) : Handler I ε σ β :=
  fun session => (first session).bind fun
    | (.ok value, session') => next value session'
    | (.error raised, session') => .done (.error raised, session')

instance : Monad (Handler I ε σ) where
  pure := Handler.pure
  bind := Handler.bind

protected def throw (raised : ε) : Handler I ε σ α := fun session => .done (.error raised, session)

protected def tryCatch (body : Handler I ε σ α) (recover : ε → Handler I ε σ α) :
    Handler I ε σ α :=
  fun session => (body session).bind fun
    | (.ok value, session') => .done (.ok value, session')
    | (.error raised, session') => recover raised session'

instance : MonadExceptOf ε (Handler I ε σ) where
  throw := Handler.throw
  tryCatch := Handler.tryCatch

/-- The current session. -/
def session : Handler I ε σ σ := fun session => .done (.ok session, session)

def modify (change : σ → σ) : Handler I ε σ Unit := fun session => .done (.ok (), change session)

/-- A query on the committed store. -/
def select (query : I.Store → α) : Handler I ε σ α :=
  fun session => .read fun store => .done (.ok (query store), session)

/-- A unit of work handed to the store, with the answer of the store. -/
def submit (work : I.Work) : Handler I ε σ (Except I.Fault Unit) :=
  fun session => .commit work fun outcome => .done (.ok outcome, session)

/-- A call to the outside world. -/
def ask (query : I.Query) : Handler I ε σ (I.Answer query) :=
  fun session => .call query fun answer => .done (.ok answer, session)

/-- Return a value or raise what a pure function raised. -/
def ofExcept (outcome : Except ε α) : Handler I ε σ α := fun session => .done (outcome, session)

/-- `if condition: raise exc`. -/
def raiseIf (condition : Prop) [Decidable condition] (raised : ε) : Handler I ε σ Unit :=
  if condition then throw raised else pure ()

private theorem bind_done (handler : Handler I ε σ α) :
    handler.bind Handler.pure = handler := by
  funext session
  unfold Handler.bind
  induction handler session with
  | done outcome =>
    obtain ⟨outcome, session'⟩ := outcome
    cases outcome <;> rfl
  | read next ih => exact congrArg Prog.read (funext ih)
  | commit work next ih => exact congrArg (Prog.commit work) (funext ih)
  | call query next ih => exact congrArg (Prog.call query) (funext ih)

private theorem bind_bind {γ : Type} (first : Handler I ε σ α) (next : α → Handler I ε σ β)
    (last : β → Handler I ε σ γ) :
    (first.bind next).bind last = first.bind fun value => (next value).bind last := by
  funext session
  refine (Prog.bind_assoc (first session) _ _).trans ?_
  refine congrArg (Prog.bind (first session)) (funext fun outcome => ?_)
  obtain ⟨outcome, session'⟩ := outcome
  cases outcome <;> rfl

instance : LawfulMonad (Handler I ε σ) :=
  LawfulMonad.mk' _ bind_done (fun _ _ => rfl) bind_bind

theorem discard_bind (first : Handler I ε σ α) (next : PUnit → Handler I ε σ β) :
    (discard first >>= next) = first >>= fun _ => next ⟨⟩ := by
  unfold discard
  rw [LawfulFunctor.map_const]
  simp only [Function.comp_apply, map_eq_pure_bind, bind_assoc, pure_bind, Function.const_apply]

/-! ### Following a protocol, handler by handler -/

variable {P : Protocol I} {sem : Semantics I}

/-- `post` holds of the outcome, the session left behind and the phase reached. -/
def Follows (P : Protocol I) (sem : Semantics I) (handler : Handler I ε σ α)
    (post : Except ε α → σ → P.Phase → Prop) (session : σ) (m : P.Phase) : Prop :=
  (handler session).Follows P sem (fun outcome m' => post outcome.1 outcome.2 m') m

variable {post post' : Except ε α → σ → P.Phase → Prop}
  {postβ : Except ε β → σ → P.Phase → Prop} {s : σ} {m : P.Phase}

theorem Follows.map {handler : Handler I ε σ α} (follows : Follows P sem handler post s m)
    (P' : Protocol I) {post' : Except ε α → σ → P'.Phase → Prop} (view : P.Phase → P'.Phase)
    (moves : ∀ m e m', P.Move m e m' → P'.Move (view m) e (view m'))
    (ends : ∀ outcome s' m', post outcome s' m' → post' outcome s' (view m')) :
    Follows P' sem handler post' s (view m) := by
  unfold Follows at follows ⊢
  exact Prog.Follows.map view moves (fun outcome m' => ends outcome.1 outcome.2 m') follows

theorem Follows.mono {handler : Handler I ε σ α} (follows : Follows P sem handler post s m)
    (weaker : ∀ outcome s' m', post outcome s' m' → post' outcome s' m') :
    Follows P sem handler post' s m :=
  follows.map P id (fun _ _ _ move => move) weaker

/-- The sequencing rule: a raised exception skips the rest. -/
theorem Follows.bind {first : Handler I ε σ α} {next : α → Handler I ε σ β}
    {M : Except ε α → σ → P.Phase → Prop} (hfirst : Follows P sem first M s m)
    (returned : ∀ value s' m', M (.ok value) s' m' → Follows P sem (next value) postβ s' m')
    (raised : ∀ exc s' m', M (.error exc) s' m' → postβ (.error exc) s' m') :
    Follows P sem (first >>= next) postβ s m := by
  refine Prog.Follows.bind (f := fun
    | (.ok value, session') => next value session'
    | (.error exc, session') => .done (.error exc, session')) hfirst ?_
  rintro ⟨outcome, s'⟩ m' hmid
  cases outcome with
  | ok value => exact returned value s' m' hmid
  | error exc => exact raised exc s' m' hmid

theorem Follows.tryCatch {body : Handler I ε σ α} {recover : ε → Handler I ε σ α}
    (mid : Except ε α → σ → P.Phase → Prop) (hbody : Follows P sem body mid s m)
    (returned : ∀ value s' m', mid (.ok value) s' m' → post (.ok value) s' m')
    (raised : ∀ exc s' m', mid (.error exc) s' m' → Follows P sem (recover exc) post s' m') :
    Follows P sem (MonadExceptOf.tryCatch body recover) post s m := by
  refine Prog.Follows.bind (f := fun
    | (.ok value, session') => .done (.ok value, session')
    | (.error exc, session') => recover exc session') hbody ?_
  rintro ⟨outcome, s'⟩ m' hmid
  cases outcome with
  | ok value => exact returned value s' m' hmid
  | error exc => exact raised exc s' m' hmid

@[simp] theorem follows_pure {value : α} :
    Follows P sem (pure value : Handler I ε σ α) post s m ↔ post (.ok value) s m := Iff.rfl

@[simp] theorem follows_throw {raised : ε} :
    Follows P sem (throw raised : Handler I ε σ α) post s m ↔ post (.error raised) s m := Iff.rfl

@[simp] theorem follows_pure_bind {value : α} {next : α → Handler I ε σ β} :
    Follows P sem (pure value >>= next) postβ s m ↔ Follows P sem (next value) postβ s m := Iff.rfl

@[simp] theorem follows_throw_bind {raised : ε} {next : α → Handler I ε σ β} :
    Follows P sem ((throw raised : Handler I ε σ α) >>= next) postβ s m ↔
      postβ (.error raised) s m := Iff.rfl

theorem follows_ofExcept_bind {outcome : Except ε α} {next : α → Handler I ε σ β}
    (raised : ∀ exc, outcome = .error exc → postβ (.error exc) s m)
    (returned : ∀ value, outcome = .ok value → Follows P sem (next value) postβ s m) :
    Follows P sem (ofExcept outcome >>= next) postβ s m := by
  cases outcome with
  | ok value => exact returned value rfl
  | error exc => exact raised exc rfl

theorem follows_raiseIf_bind {condition : Prop} [Decidable condition] {raised : ε}
    {next : Unit → Handler I ε σ β} (refused : condition → postβ (.error raised) s m)
    (passed : ¬ condition → Follows P sem (next ()) postβ s m) :
    Follows P sem (raiseIf condition raised >>= next) postβ s m := by
  unfold raiseIf
  split
  · next holds => exact refused holds
  · next fails => exact passed fails

@[simp] theorem follows_session_bind {next : σ → Handler I ε σ β} :
    Follows P sem (session >>= next) postβ s m ↔ Follows P sem (next s) postβ s m := Iff.rfl

@[simp] theorem follows_modify_bind {change : σ → σ} {next : Unit → Handler I ε σ β} :
    Follows P sem (modify change >>= next) postβ s m ↔
      Follows P sem (next ()) postβ (change s) m := Iff.rfl

@[simp] theorem follows_modify {change : σ → σ} {post : Except ε Unit → σ → P.Phase → Prop} :
    Follows P sem (modify change : Handler I ε σ Unit) post s m ↔
      post (.ok ()) (change s) m := Iff.rfl

theorem follows_select_bind {query : I.Store → α} {next : α → Handler I ε σ β} :
    Follows P sem (select query >>= next) postβ s m ↔
      ∀ store, ∃ m', P.Move m (.read store) m' ∧
        Follows P sem (next (query store)) postβ s m' := Iff.rfl

theorem follows_ask_bind {query : I.Query} {next : I.Answer query → Handler I ε σ β} :
    Follows P sem (ask query >>= next) postβ s m ↔
      ∀ before answer after, sem.Answers before query answer after →
        ∃ m', P.Move m (.call query answer before after) m' ∧
          Follows P sem (next answer) postβ s m' := Iff.rfl

end Handler

end Transaction
