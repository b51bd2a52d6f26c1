import CopyTrading.Transaction.Answering
import CopyTrading.Transaction.Discipline

/-!
Clients that remember what they have seen of the store. The protocol of an observer asks of each
event what may depend on that knowledge; the rules follow handlers through it by an invariant that
relates the session to the knowledge.
-/

namespace Transaction

structure Observer (I : Interface) where
  Knowledge : Type
  learn : Knowledge → Event I → Knowledge
  Asks : Knowledge → Event I → Prop

namespace Observer

variable {I : Interface} {ε σ α β : Type}

abbrev protocol (O : Observer I) : Protocol I where
  Phase := O.Knowledge
  Move k e k' := O.Asks k e ∧ k' = O.learn k e

/-- The handler keeps the invariant, also when it raises. -/
def Keeps (O : Observer I) (sem : Semantics I) (Holds : σ → O.Knowledge → Prop)
    (handler : Handler I ε σ α) : Prop :=
  ∀ s k, Holds s k →
    Handler.Follows O.protocol sem handler (fun _ s' k' => Holds s' k') s k

/-- The handler leads from one invariant to another one, unless it raises. -/
def Brings (O : Observer I) (sem : Semantics I) (Before After : σ → O.Knowledge → Prop)
    (handler : Handler I ε σ α) : Prop :=
  ∀ s k, Before s k →
    Handler.Follows O.protocol sem handler
      (fun outcome s' k' => ∀ value, outcome = .ok value → After s' k') s k

variable {O : Observer I} {sem : Semantics I} {Holds Before Between After : σ → O.Knowledge → Prop}

namespace Keeps

theorem pure (value : α) : O.Keeps sem Holds (Pure.pure value : Handler I ε σ α) :=
  fun _ _ holds => holds

theorem throw (raised : ε) : O.Keeps sem Holds (throw raised : Handler I ε σ α) :=
  fun _ _ holds => holds

theorem ofExcept (outcome : Except ε α) :
    O.Keeps sem Holds (Handler.ofExcept outcome : Handler I ε σ α) :=
  fun _ _ holds => holds

theorem raiseIf (condition : Prop) [Decidable condition] (raised : ε) :
    O.Keeps sem Holds (Handler.raiseIf condition raised : Handler I ε σ Unit) := by
  unfold Handler.raiseIf
  split
  · exact .throw raised
  · exact .pure ()

/-- The sequencing rule. -/
theorem bind {first : Handler I ε σ α} {next : α → Handler I ε σ β}
    (hfirst : O.Keeps sem Holds first) (hnext : ∀ value, O.Keeps sem Holds (next value)) :
    O.Keeps sem Holds (first >>= next) := by
  intro s k holds
  refine (hfirst s k holds).bind ?_ fun _ _ _ holds => holds
  exact fun value s' k' holds => hnext value s' k' holds

theorem discards {first : Handler I ε σ α} (hfirst : O.Keeps sem Holds first) :
    O.Keeps sem Holds (discard first) :=
  hfirst.bind fun _ => .pure _

theorem tryCatch {body : Handler I ε σ α} {recover : ε → Handler I ε σ α}
    (hbody : O.Keeps sem Holds body) (hrecover : ∀ raised, O.Keeps sem Holds (recover raised)) :
    O.Keeps sem Holds (MonadExceptOf.tryCatch body recover) := by
  intro s k holds
  refine Handler.Follows.tryCatch _ (hbody s k holds) (fun _ _ _ holds => holds) ?_
  exact fun raised s' k' holds => hrecover raised s' k' holds

theorem modify {change : σ → σ} (keeps : ∀ s k, Holds s k → Holds (change s) k) :
    O.Keeps sem Holds (Handler.modify change : Handler I ε σ Unit) :=
  fun s k holds => keeps s k holds

/-- What follows does not depend on the session. -/
theorem session {next : σ → Handler I ε σ α} (hnext : ∀ s, O.Keeps sem Holds (next s)) :
    O.Keeps sem Holds (Handler.session >>= next) :=
  fun s k holds => hnext s s k holds

theorem select {query : I.Store → α}
    (reads : ∀ s k store, Holds s k → O.Asks k (.read store) ∧ Holds s (O.learn k (.read store))) :
    O.Keeps sem Holds (Handler.select query : Handler I ε σ α) :=
  fun s k holds store => ⟨_, ⟨(reads s k store holds).1, rfl⟩, (reads s k store holds).2⟩

theorem ask {query : I.Query}
    (calls : ∀ s k answer before after, Holds s k → O.Asks k (.call query answer before after) ∧
      Holds s (O.learn k (.call query answer before after))) :
    O.Keeps sem Holds (Handler.ask query : Handler I ε σ (I.Answer query)) :=
  fun s k holds before answer after _ =>
    ⟨_, ⟨(calls s k answer before after holds).1, rfl⟩, (calls s k answer before after holds).2⟩

theorem brings {handler : Handler I ε σ α} (keeps : O.Keeps sem Holds handler) :
    O.Brings sem Holds Holds handler :=
  fun s k holds => (keeps s k holds).mono fun _ _ _ holds _ _ => holds

/-- A program whose calls are answered keeps what each of the answers keeps. -/
theorem answeredBy {J : Interface} [IsEmpty J.Work] {answer : Answerer I J σ} {store : J.Store}
    {program : Prog J α} {step : Nat} {s : σ} {k : O.Knowledge}
    (answers : ∀ step query s k, Holds s k →
      (answer step query s).Follows O.protocol sem (fun replied k' => Holds replied.2 k') k)
    (holds : Holds s k) :
    (program.answeredBy answer store step s).Follows O.protocol sem
      (fun replied k' => Holds replied.2 k') k := by
  induction program generalizing step s k with
  | done result => exact holds
  | read next ih => exact ih store holds
  | commit work next ih => exact isEmptyElim work
  | call query next ih =>
    refine (answers step query s k holds).bind ?_
    exact fun replied k' holds => ih replied.1 holds

end Keeps

namespace Brings

theorem throw (raised : ε) : O.Brings sem Before After (throw raised : Handler I ε σ α) := by
  rintro s k - value ⟨⟩

theorem bind {first : Handler I ε σ α} {next : α → Handler I ε σ β}
    (hfirst : O.Brings sem Before Between first)
    (hnext : ∀ value, O.Brings sem Between After (next value)) :
    O.Brings sem Before After (first >>= next) := by
  intro s k holds
  refine (hfirst s k holds).bind ?_ ?_
  · exact fun value s' k' between => hnext value s' k' (between value rfl)
  · rintro raised s' k' - value ⟨⟩

/-- What is raised is answered in any session. -/
theorem tryCatch {body : Handler I ε σ α} {recover : ε → Handler I ε σ α}
    (hbody : O.Brings sem Before After body)
    (hrecover : ∀ raised, O.Brings sem (fun _ _ => True) After (recover raised)) :
    O.Brings sem Before After (MonadExceptOf.tryCatch body recover) := by
  intro s k holds
  refine Handler.Follows.tryCatch _ (hbody s k holds) ?_ ?_
  · rintro value s' k' after value' ⟨⟩
    exact after value rfl
  · exact fun raised s' k' _ => hrecover raised s' k' True.intro

theorem weaken {handler : Handler I ε σ α} (brings : O.Brings sem Between After handler)
    (implies : ∀ s k, Before s k → Between s k) : O.Brings sem Before After handler :=
  fun s k holds => brings s k (implies s k holds)

theorem mono {handler : Handler I ε σ α} {Weaker : σ → O.Knowledge → Prop}
    (brings : O.Brings sem Before After handler) (implies : ∀ s k, After s k → Weaker s k) :
    O.Brings sem Before Weaker handler :=
  fun s k holds => (brings s k holds).mono
    fun _ s' k' after value returned => implies s' k' (after value returned)

end Brings

/-! ### Runs of observers -/

/-- Knowledge that holds of the store stays so, and with it each step keeps what is to be shown. -/
structure Preserves {ι : Type} (O : Observer I) (sem : Semantics I)
    (Valid : O.Knowledge → I.Store → Prop) (Inv : Trace I ι → I.Store → Prop) : Prop where
  learns : ∀ k e, Valid k e.before → O.Asks k e → e.Sound sem → Valid (O.learn k e) e.after
  others : ∀ k k' e, Valid k e.before → Valid k' e.before → O.Asks k e → e.Sound sem →
    Valid k' e.after
  step : ∀ trace i k e, Inv trace e.before → Valid k e.before → O.Asks k e → e.Sound sem →
    Inv (trace ++ [(i, e)]) e.after

theorem Preserves.of_run {ι : Type} [DecidableEq ι] {Valid : O.Knowledge → I.Store → Prop}
    {Inv : Trace I ι → I.Store → Prop} (preserves : O.Preserves sem Valid Inv)
    {known₀ known : ι → O.Knowledge} {store₀ store : I.Store} {trace : Trace I ι}
    (run : Protocol.Run (fun _ => O.protocol) sem known₀ store₀ trace known store)
    (valid : ∀ i, Valid (known₀ i) store₀) (init : Inv [] store₀) : Inv trace store := by
  refine (run.invariant (fun trace known store => Inv trace store ∧ ∀ i, Valid (known i) store)
    ⟨init, valid⟩ ?_).1
  rintro trace known i e m ⟨inv, valid⟩ ⟨asks, rfl⟩ sound
  refine ⟨preserves.step trace i _ e inv (valid i) asks sound, fun j => ?_⟩
  by_cases same : j = i
  · subst same
    rw [Function.update_self]
    exact preserves.learns _ e (valid j) asks sound
  · rw [Function.update_of_ne same]
    exact preserves.others _ _ e (valid i) (valid j) asks sound

end Observer

end Transaction
