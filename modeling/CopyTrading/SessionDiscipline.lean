import CopyTrading.SessionAlone
import CopyTrading.Transaction.Discipline

/-!
Session operations among other clients of the database: what they leave in the session, and
that those which only read obey every discipline that lets them.
-/

namespace CopyTrading

open Transaction Transaction.Handler

/-- Attribute access on an execution that is shown. -/
theorem follows_execution_shown {P : Protocol backend} {α : Type}
    {post : Except Exc α → Session → P.Phase → Prop} {s : Session} {m : P.Phase} {id : String}
    {x : OrderExecution} {next : OrderExecution → Service α} (shown : s.shown id = some x) :
    Follows P semantics (Session.execution id >>= next) post s m ↔
      Follows P semantics (next x) post s m := by
  unfold Session.execution
  rw [bind_assoc, follows_session_bind]
  rcases Option.or_eq_some_iff.mp shown with added | ⟨notAdded, held⟩
  · rw [added]
    exact Iff.rfl
  · obtain ⟨y, found, rfl⟩ := Option.map_eq_some_iff.mp held
    rw [notAdded, found]
    exact Iff.rfl

section shows

variable {Asked : Event backend → Prop} (reads : ∀ world, Asked (.read world)) {s : Session}
  {id : String}

include reads

theorem loadExecution_shows : Follows (Protocol.each Asked) semantics (Session.loadExecution id)
    (fun _ _ _ => True) s () := by
  rw [← bind_pure (Session.loadExecution id)]
  exact follows_refreshExecution_bind (fun world _ => ⟨(), reads world, True.intro⟩)
    fun world _ _ _ => ⟨(), reads world, True.intro⟩

/-- Attribute access shows the execution. -/
theorem execution_shows : Follows (Protocol.each Asked) semantics (Session.execution id)
    (fun outcome s' _ => ∀ x, outcome = .ok x → s'.shown id = some x) s () := by
  unfold Session.execution
  rw [follows_session_bind]
  cases added : s.work.executions.find? (·.id = id) with
  | some x =>
    rintro _ ⟨⟩
    simp [Session.shown, added]
  | none =>
    cases held : s.heldExecution id with
    | some x =>
      rintro _ ⟨⟩
      simp [Session.shown, added, held]
    | none =>
      dsimp only
      rw [← bind_pure (Session.loadExecution id)]
      refine follows_refreshExecution_bind
        (fun world _ => ⟨(), reads world, by rintro _ ⟨⟩⟩)
        fun world row stored hid => ⟨(), reads world, ?_⟩
      rintro _ ⟨⟩
      have others : s.executions.filter (·.loaded.id ≠ id) = s.executions := by
        refine List.filter_eq_self.mpr fun x hx => ?_
        simpa using List.find?_eq_none.mp held x hx
      have hidden : s.shown row.id = none := by
        rw [hid]
        simp [Session.shown, added, held]
      have shows := shown_loading hidden
      unfold Session.loading at shows
      rw [others, ← hid]
      exact shows

end shows

/-! ### Disciplines that allow reads -/

/-- Rows may be read, and accounts and keys loaded as they are stored. -/
structure AllowsReads (D : Discipline backend Session) : Prop where
  reads : ∀ world, D.Asks (.read world)
  accounts : ∀ (s : Session) row, D.Holds s →
    D.Holds { s with accounts := s.accounts ++ [⟨row, {}⟩] }
  secrets : ∀ (s : Session) row, D.Holds s → D.Holds { s with secrets := s.secrets ++ [⟨row, {}⟩] }

namespace AllowsReads

variable {D : Discipline backend Session} {α : Type} {userId exchangeAccountId id : String}
  (allows : AllowsReads D)

include allows

theorem query (select : Db → α) : Obeys D semantics (Session.query select) :=
  .select allows.reads

theorem holdAccount (row : ExchangeAccount) : Obeys D semantics (Session.holdAccount row) := by
  unfold Session.holdAccount
  refine Obeys.session.bind fun s => ?_
  split
  · exact .pure _
  · exact Obeys.bind (.modify fun s holds => allows.accounts s row holds) fun _ => .pure _

theorem account : Obeys D semantics (Session.account id) := by
  unfold Session.account
  refine Obeys.session.bind fun s => ?_
  split
  · exact .pure _
  · refine (allows.query _).bind fun found => ?_
    split
    · exact .throw _
    · exact allows.holdAccount _

theorem getOwnedAccount : Obeys D semantics (getOwnedAccount userId exchangeAccountId) := by
  unfold CopyTrading.getOwnedAccount
  refine (allows.query _).bind fun found => ?_
  split
  · exact .pure _
  · rw [map_eq_pure_bind]
    exact (allows.holdAccount _).bind fun _ => .pure _

theorem getApiKeySecretMetadata :
    Obeys D semantics (getApiKeySecretMetadata userId exchangeAccountId) := by
  unfold CopyTrading.getApiKeySecretMetadata
  refine (allows.query _).bind fun found => ?_
  split
  · exact .pure _
  · refine Obeys.session.bind fun s => ?_
    split
    · exact .pure _
    · exact Obeys.bind (.modify fun s holds => allows.secrets s _ holds) fun _ => .pure _

omit allows in
theorem decryptSecret {py : Platform} (encrypted : String) :
    Obeys D semantics (decryptSecret py encrypted) := by
  unfold CopyTrading.decryptSecret
  split
  · exact .pure _
  · exact .throw _

theorem getExchangeCredentials {py : Platform} :
    Obeys D semantics (getExchangeCredentials py userId exchangeAccountId) := by
  unfold CopyTrading.getExchangeCredentials
  refine allows.getApiKeySecretMetadata.bind fun metadata => ?_
  split
  · exact .pure _
  · dsimp only
    split
    · exact (Obeys.pure _).bind fun _ => (decryptSecret _).bind fun _ =>
        (decryptSecret _).bind fun _ => .pure _
    · rw [map_eq_pure_bind]
      exact ((decryptSecret _).bind fun _ => .pure _).bind fun _ =>
        (decryptSecret _).bind fun _ => (decryptSecret _).bind fun _ => .pure _

end AllowsReads

end CopyTrading
