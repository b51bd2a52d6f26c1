import CopyTrading.Transaction.Protocol
import CopyTrading.Transaction.Handler

/-!
What a program may ask of its environment, whatever it reads and whatever it is answered. In any
interleaving each call of a client is one of those, so what none of them may do is never done.
-/

namespace Transaction

variable {I : Interface} {ε σ α β : Type} {Asked : I.Query → Prop}

/-- Every query the program can ask is as `Asked` says, and its result as `post` says. -/
def Prog.AsksOnly (Asked : I.Query → Prop) (post : α → Prop) : Prog I α → Prop
  | .done result => post result
  | .read next => ∀ store, (next store).AsksOnly Asked post
  | .commit _ next => ∀ outcome, (next outcome).AsksOnly Asked post
  | .call query next => Asked query ∧ ∀ answer, (next answer).AsksOnly Asked post

/-- A call is one that may be made. -/
def Event.Calls (Asked : I.Query → Prop) : Event I → Prop
  | .call query _ _ _ => Asked query
  | .read _ | .commit .. | .abort .. => True

namespace Prog.AsksOnly

variable {post : α → Prop}

theorem mono {Asked' : I.Query → Prop} {post' : α → Prop} {program : Prog I α}
    (asks : program.AsksOnly Asked post) (queries : ∀ query, Asked query → Asked' query)
    (weaker : ∀ result, post result → post' result) : program.AsksOnly Asked' post' := by
  induction program with
  | done result => exact weaker result asks
  | read next ih => exact fun store => ih store (asks store)
  | commit work next ih => exact fun outcome => ih outcome (asks outcome)
  | call query next ih => exact ⟨queries query asks.1, fun answer => ih answer (asks.2 answer)⟩

theorem bind {mid : β → Prop} {program : Prog I β} {f : β → Prog I α}
    (first : program.AsksOnly Asked mid) (second : ∀ result, mid result → (f result).AsksOnly Asked post) :
    (program.bind f).AsksOnly Asked post := by
  induction program with
  | done result => exact second result first
  | read next ih => exact fun store => ih store (first store)
  | commit work next ih => exact fun outcome => ih outcome (first outcome)
  | call query next ih => exact ⟨first.1, fun answer => ih answer (first.2 answer)⟩

theorem follows {sem : Semantics I} {program : Prog I α} (asks : program.AsksOnly Asked post) :
    program.Follows (Protocol.each (Event.Calls Asked)) sem (fun result _ => post result) () := by
  induction program with
  | done result => exact asks
  | read next ih => exact fun store => ⟨(), True.intro, ih store (asks store)⟩
  | commit work next ih =>
    constructor
    · exact fun before after _ => ⟨(), True.intro, ih _ (asks _)⟩
    · exact fun store fault _ => ⟨(), True.intro, ih _ (asks _)⟩
  | call query next ih =>
    exact fun before answer after _ => ⟨(), asks.1, ih answer (asks.2 answer)⟩

end Prog.AsksOnly

/-- A client alone makes only the calls its program may make. -/
theorem Prog.Run.asked {sem : Semantics I} {post : α → Prop} {program rest : Prog I α}
    {trace : List (Event I)} {s s' : I.Store} (run : Prog.Run sem program s trace rest s')
    (asks : program.AsksOnly Asked post) {query : I.Query} {answer : I.Answer query}
    {before after : I.Store} (called : .call query answer before after ∈ trace) : Asked query := by
  obtain ⟨_, path, -⟩ := run.path asks.follows
  have each := path.invariant (fun trace _ _ => ∀ e ∈ trace, e.Calls Asked)
    (fun _ mem => (List.not_mem_nil mem).elim) fun trace _ e _ known move _ e' mem =>
      (List.mem_append.mp mem).elim (known e') fun last => List.mem_singleton.mp last ▸ move
  exact each _ called

/-- In any interleaving a client makes only the calls its program may make. -/
theorem Config.Run.asked {ι : Type} [DecidableEq ι] {α : ι → Type} {sem : Semantics I}
    {c₀ c : Config I α} {trace : Trace I ι} {i : ι} {post : α i → Prop}
    (run : Config.Run sem c₀ trace c) (asks : (c₀.client i).AsksOnly Asked post) {query : I.Query}
    {answer : I.Answer query} {before after : I.Store}
    (called : (i, .call query answer before after) ∈ trace) : Asked query :=
  run.each (asks.follows.mono fun _ _ _ => True.intro) _ called

namespace Handler

/-- In every session the handler asks such queries, and what it returns is as `post` says. -/
def AsksOnly (Asked : I.Query → Prop) (handler : Handler I ε σ α) (post : α → Prop := fun _ => True) :
    Prop :=
  ∀ s, (handler s).AsksOnly Asked fun outcome => ∀ value, outcome.1 = .ok value → post value

namespace AsksOnly

variable {post : α → Prop} {handler : Handler I ε σ α}

theorem pure {value : α} (holds : post value) :
    AsksOnly Asked (Pure.pure value : Handler I ε σ α) post := by
  rintro s _ ⟨⟩
  exact holds

theorem throw (raised : ε) : AsksOnly Asked (throw raised : Handler I ε σ α) post := by
  rintro s _ ⟨⟩

theorem ofExcept (outcome : Except ε α) :
    AsksOnly Asked (ofExcept outcome : Handler I ε σ α) fun value => outcome = .ok value :=
  fun _ _ returned => returned

theorem raiseIf (condition : Prop) [Decidable condition] (raised : ε) :
    AsksOnly Asked (raiseIf condition raised : Handler I ε σ Unit) fun _ => ¬condition := by
  unfold Handler.raiseIf
  split
  · exact throw raised
  · next refuted => exact pure refuted

theorem session : AsksOnly Asked (session : Handler I ε σ σ) := fun _ _ _ => True.intro

theorem modify (change : σ → σ) : AsksOnly Asked (modify change : Handler I ε σ Unit) :=
  fun _ _ _ => True.intro

theorem select (query : I.Store → α) : AsksOnly Asked (select query : Handler I ε σ α) :=
  fun _ _ _ _ => True.intro

theorem submit (work : I.Work) : AsksOnly Asked (submit work : Handler I ε σ (Except I.Fault Unit)) :=
  fun _ _ _ _ => True.intro

theorem ask {query : I.Query} (asked : Asked query) :
    AsksOnly Asked (ask query : Handler I ε σ (I.Answer query)) :=
  fun _ => ⟨asked, fun _ _ _ => True.intro⟩

theorem mono {post' : α → Prop} (asks : AsksOnly Asked handler post)
    (weaker : ∀ value, post value → post' value) : AsksOnly Asked handler post' :=
  fun s => (asks s).mono (fun _ asked => asked) fun _ holds value returned =>
    weaker value (holds value returned)

theorem weaken (asks : AsksOnly Asked handler post) : AsksOnly Asked handler :=
  asks.mono fun _ _ => True.intro

theorem bind {mid : β → Prop} {first : Handler I ε σ β} {next : β → Handler I ε σ α}
    (hfirst : AsksOnly Asked first mid) (rest : ∀ value, mid value → AsksOnly Asked (next value) post) :
    AsksOnly Asked (first >>= next) post := by
  intro s
  refine (hfirst s).bind ?_
  rintro ⟨outcome, s'⟩ later
  cases outcome with
  | ok value => exact rest value (later value rfl) s'
  | error raised => rintro _ ⟨⟩

/-- The sequencing rule where nothing is used of what is returned. -/
theorem andThen {first : Handler I ε σ β} {next : β → Handler I ε σ α} (hfirst : AsksOnly Asked first)
    (rest : ∀ value, AsksOnly Asked (next value) post) : AsksOnly Asked (first >>= next) post :=
  hfirst.bind fun value _ => rest value

theorem done (value : α) : AsksOnly Asked (Pure.pure value : Handler I ε σ α) := pure True.intro

theorem map {post' : β → Prop} (f : α → β) (asks : AsksOnly Asked handler post)
    (maps : ∀ value, post value → post' (f value)) : AsksOnly Asked (f <$> handler) post' := by
  rw [map_eq_pure_bind]
  exact asks.bind fun value holds => pure (maps value holds)

theorem discards (asks : AsksOnly Asked handler) :
    AsksOnly Asked (discard handler : Handler I ε σ PUnit) := by
  rw [← bind_pure (discard handler), discard_bind]
  exact asks.andThen fun _ => done _

theorem tryCatch {recover : ε → Handler I ε σ α} (hbody : AsksOnly Asked handler post)
    (rest : ∀ raised, AsksOnly Asked (recover raised) post) :
    AsksOnly Asked (tryCatch handler recover) post := by
  intro s
  refine (hbody s).bind ?_
  rintro ⟨outcome, s'⟩ later
  cases outcome with
  | ok value => exact later
  | error raised => exact rest raised s'

end AsksOnly

end Handler

end Transaction
