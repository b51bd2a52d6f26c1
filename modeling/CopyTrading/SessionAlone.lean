import CopyTrading.HttpClient
import CopyTrading.SessionRules
import CopyTrading.Transaction.Alone

/-!
Session operations of a client that has the database for itself. A rule says what the
operation returns, what it leaves in the session, and that it changes no row.
-/

namespace CopyTrading

open Transaction Transaction.Handler

variable {sem : Semantics backend} {Each : Event backend → Prop} {α : Type}
  {post : Except Exc α → Session → World → Prop} {s : Session} {w : World}

@[simp] theorem alone_query {select : Db → α} :
    Alone sem Each (Session.query select) post s w ↔ post (.ok (select w.db)) s w := Iff.rfl

@[simp] theorem alone_add {extend : Work → Work} {post : Except Exc Unit → Session → World → Prop} :
    Alone sem Each (Session.add extend) post s w ↔
      post (.ok ()) { s with work := extend s.work } w := Iff.rfl

@[simp] theorem alone_setExecution {id : String}
    {set : OrderExecution.Change → OrderExecution.Change}
    {post : Except Exc Unit → Session → World → Prop} :
    Alone sem Each (Session.setExecution id set) post s w ↔
      post (.ok ()) (s.setting id set) w := Iff.rfl

/-- A commit writes what is pending and expires every instance, or raises. -/
theorem alone_commit {post : Except Exc Unit → Session → World → Prop} :
    Alone sem Each Session.commit post s w ↔
      (∀ after, sem.flush s.pending w = .ok after →
        Each (.commit s.pending w after) ∧ post (.ok ()) {} after) ∧
      (∀ fault, sem.flush s.pending w = .error fault → post (.error .integrityError) {} w) :=
  Iff.rfl

/-- A commit that a column refuses leaves nothing pending. -/
theorem alone_refuseIf {refused : Prop} [Decidable refused]
    {post : Except Exc Unit → Session → World → Prop} :
    Alone sem Each (Session.refuseIf refused) post s w ↔
      (refused → post (.error .dataError) {} w) ∧ (¬ refused → post (.ok ()) s w) := by
  unfold Session.refuseIf
  by_cases holds : refused
  · rw [if_pos holds, alone_bind, alone_modify, andThen_ok]
    exact ⟨fun h => ⟨fun _ => h, fun fails => absurd holds fails⟩, fun h => h.1 holds⟩
  · rw [if_neg holds]
    exact ⟨fun h => ⟨fun passed => absurd passed holds, fun _ => h⟩, fun h => h.2 holds⟩

/-- A flush sends the pending rows, or raises when the database refuses them. -/
theorem alone_flush {post : Except Exc Unit → Session → World → Prop} :
    Alone sem Each Session.flush post s w ↔
      if (w.db.flush s.pending).isOk then post (.ok ()) s w
      else post (.error .integrityError) s w := by
  unfold Session.flush
  rw [alone_bind, alone_session, andThen_ok, alone_bind, alone_select, andThen_ok]
  split
  · exact Iff.rfl
  · exact Iff.rfl

/-! ### Executions -/

/-- The attributes of an execution as the session shows them, if it is added or held. -/
def Session.shown (s : Session) (id : String) : Option OrderExecution :=
  (s.work.executions.find? (·.id = id)).or ((s.heldExecution id).map Instance.current)

/-- The session after an instance was loaded. -/
def Session.loading (s : Session) (row : OrderExecution) : Session :=
  { s with executions := s.executions ++ [⟨row, {}⟩] }

theorem heldExecution_of_shown_none {s : Session} {id : String} (hidden : s.shown id = none) :
    s.heldExecution id = none := by
  unfold Session.shown at hidden
  simpa using (Option.or_eq_none_iff.mp hidden).2

theorem id_of_shown {s : Session} {id : String} {x : OrderExecution} (shown : s.shown id = some x) :
    x.id = id := by
  rcases Option.or_eq_some_iff.mp shown with added | ⟨-, held⟩
  · simpa using List.find?_some added
  · obtain ⟨y, hy, rfl⟩ := Option.map_eq_some_iff.mp held
    have hid : y.loaded.id = id := by simpa using List.find?_some hy
    exact hid

theorem shown_loading {s : Session} {row : OrderExecution} (hidden : s.shown row.id = none) :
    (s.loading row).shown row.id = some row := by
  unfold Session.shown at hidden ⊢
  obtain ⟨notAdded, notHeld⟩ := Option.or_eq_none_iff.mp hidden
  have held : (s.loading row).heldExecution row.id = some ⟨row, {}⟩ := by
    have held : s.heldExecution row.id = none := by simpa using notHeld
    have none : s.executions.find? (·.loaded.id = row.id) = none := held
    unfold Session.heldExecution Session.loading
    rw [List.find?_append, none]
    simp
  have added : (s.loading row).work.executions.find? (·.id = row.id) = none := notAdded
  rw [added, held]
  rfl

theorem alone_holdExecution {row : OrderExecution}
    {post : Except Exc OrderExecution → Session → World → Prop}
    (held : ∀ x, s.heldExecution row.id = some x → post (.ok x.current) s w)
    (fresh : s.heldExecution row.id = none → post (.ok row) (s.loading row) w) :
    Alone sem Each (Session.holdExecution row) post s w := by
  unfold Session.holdExecution
  rw [alone_bind, alone_session, andThen_ok]
  split
  · next x hx => exact held x hx
  · next hnone => exact fresh hnone

theorem alone_loadExecution {id : String}
    {post : Except Exc OrderExecution → Session → World → Prop} (hidden : s.heldExecution id = none)
    (missing : (∀ row ∈ w.db.executions, row.id ≠ id) → post (.error .objectDeleted) s w)
    (found : ∀ row ∈ w.db.executions, row.id = id → post (.ok row) (s.loading row) w) :
    Alone sem Each (Session.loadExecution id) post s w := by
  unfold Session.loadExecution
  rw [alone_bind, alone_query, andThen_ok]
  cases hfind : w.db.executions.find? (·.id = id) with
  | none =>
    refine missing fun row hrow => ?_
    simpa using Table.not_of_find?_none hfind hrow
  | some row =>
    have others : s.executions.filter (·.loaded.id ≠ id) = s.executions := by
      refine List.filter_eq_self.mpr fun x hx => ?_
      simpa using List.find?_eq_none.mp hidden x hx
    have hid : row.id = id := by simpa using Table.holds_of_find? hfind
    have loaded := found row (Table.mem_of_find? hfind) hid
    unfold Session.loading at loaded
    rw [← others] at loaded
    exact loaded

/-- Attribute access shows an execution the session has, or loads its row. -/
inductive Session.Opens (s : Session) (db : Db) (id : String) (x : OrderExecution) :
    Session → Prop where
  | shown (shown : s.shown id = some x) : Opens s db id x s
  | loaded (hidden : s.shown id = none) (stored : x ∈ db.executions) (hid : x.id = id) :
      Opens s db id x (s.loading x)

theorem Session.Opens.shows {s s' : Session} {db : Db} {id : String} {x : OrderExecution}
    (opens : s.Opens db id x s') : s'.shown id = some x := by
  cases opens with
  | shown shown => exact shown
  | loaded hidden stored hid =>
    subst hid
    exact shown_loading hidden

theorem alone_execution {id : String} {post : Except Exc OrderExecution → Session → World → Prop}
    (missing : s.shown id = none → (∀ row ∈ w.db.executions, row.id ≠ id) →
      post (.error .objectDeleted) s w)
    (opened : ∀ x s', s.Opens w.db id x s' → post (.ok x) s' w) :
    Alone sem Each (Session.execution id) post s w := by
  unfold Session.execution
  rw [alone_bind, alone_session, andThen_ok]
  cases hadded : s.work.executions.find? (·.id = id) with
  | some x => exact opened x s (.shown (by simp [Session.shown, hadded]))
  | none =>
    cases hheld : s.heldExecution id with
    | some x => exact opened x.current s (.shown (by simp [Session.shown, hadded, hheld]))
    | none =>
      have hidden : s.shown id = none := by simp [Session.shown, hadded, hheld]
      exact alone_loadExecution hheld (missing hidden) fun row stored hid =>
        opened row _ (.loaded hidden stored hid)

/-- Setting attributes leaves an execution shown. -/
theorem shown_setting {s : Session} {id : String} {x : OrderExecution}
    (set : OrderExecution.Change → OrderExecution.Change) (shown : s.shown id = some x) :
    ∃ y, (s.setting id set).shown id = some y := by
  refine Option.isSome_iff_exists.mp ?_
  unfold Session.shown
  rw [Option.isSome_or, Option.isSome_map, Session.heldExecution]
  rcases Option.or_eq_some_iff.mp shown with added | ⟨-, held⟩
  · have hx := List.mem_of_find?_eq_some added
    have hid : x.id = id := by simpa using List.find?_some added
    refine Bool.or_eq_true_iff.mpr (.inl ?_)
    rw [List.find?_isSome]
    exact ⟨_, List.mem_map.mpr ⟨x, hx, if_pos hid⟩, decide_eq_true hid⟩
  · obtain ⟨y, hy, rfl⟩ := Option.map_eq_some_iff.mp held
    have hmem := List.mem_of_find?_eq_some hy
    have hid : y.loaded.id = id := by simpa using List.find?_some hy
    refine Bool.or_eq_true_iff.mpr (.inr ?_)
    rw [List.find?_isSome]
    exact ⟨_, List.mem_map.mpr ⟨y, hmem, if_pos hid⟩, decide_eq_true hid⟩

/-! ### Transitions -/

theorem alone_addTransition {execution : OrderExecution} {fromStatus : Option OrderExecutionStatus}
    {toStatus : OrderExecutionStatus} {reason : String} {details : Json}
    {post : Except Exc Unit → Session → World → Prop}
    (unsaved : execution.id = "" → ∀ message,
      post (.error (.invalidOrderStateTransition message)) s w)
    (logged : execution.id ≠ "" → post (.ok ())
      (s.logging execution fromStatus toStatus reason details
        (max (maxSequence execution.id w.db.transitions.rows)
          (maxSequence execution.id s.work.transitions) + 1)) w) :
    Alone sem Each (addTransition execution fromStatus toStatus reason details) post s w := by
  unfold addTransition
  rw [alone_bind, alone_raiseIf]
  constructor
  · intro empty
    exact unsaved empty _
  · intro saved
    exact logged saved

/-- The session after the status of an execution was set and logged. -/
def Session.moving (s : Session) (x : OrderExecution) (toStatus : OrderExecutionStatus)
    (reason : String) (details : Json) (sequenceNumber : Nat) : Session :=
  (s.setting x.id fun change => { change with status := some toStatus }).logging x (some x.status)
    toStatus reason details sequenceNumber

theorem shown_moving {s : Session} {x : OrderExecution} {toStatus : OrderExecutionStatus}
    {reason : String} {details : Json} {sequenceNumber : Nat} (shown : s.shown x.id = some x) :
    ∃ y, (s.moving x toStatus reason details sequenceNumber).shown x.id = some y :=
  shown_setting (fun change => { change with status := some toStatus }) shown

theorem transitions_setting (s : Session) (id : String)
    (set : OrderExecution.Change → OrderExecution.Change) :
    (s.setting id set).work.transitions = s.work.transitions := rfl

/-- A transition opens the execution, and is refused or set and logged. -/
theorem alone_transition {id : String} {toStatus : OrderExecutionStatus} {reason : String}
    {details : Json} {post : Except Exc Unit → Session → World → Prop}
    (missing : s.shown id = none → (∀ row ∈ w.db.executions, row.id ≠ id) →
      post (.error .objectDeleted) s w)
    (saved : ∀ x s', s.Opens w.db id x s' → x.id ≠ "")
    (refused : ∀ x s', s.Opens w.db id x s' → toStatus ∉ allowedOrderTransitions x.status →
      ∀ message, post (.error (.invalidOrderStateTransition message)) s' w)
    (logged : ∀ x s', s.Opens w.db id x s' → toStatus ∈ allowedOrderTransitions x.status →
      post (.ok ()) (s'.moving x toStatus reason details
        (max (maxSequence x.id w.db.transitions.rows) (maxSequence x.id s'.work.transitions) + 1))
        w) :
    Alone sem Each (transitionOrderExecution id toStatus reason details) post s w := by
  unfold transitionOrderExecution
  rw [alone_bind]
  refine alone_execution missing fun x s' opens => ?_
  rw [andThen_ok, alone_bind, alone_raiseIf]
  constructor
  · intro forbidden
    exact refused x s' opens forbidden _
  · intro allowed
    rw [andThen_ok, alone_bind, alone_setExecution, andThen_ok]
    refine alone_addTransition (fun empty => absurd empty (saved x s' opens)) fun _ => ?_
    rw [transitions_setting, ← id_of_shown opens.shows]
    exact logged x s' opens (not_not.mp allowed)

/-! ### Operations that only look -/

/-- The accounts a session holds are the committed ones. -/
def Session.SeesAccounts (s : Session) (db : Db) : Prop :=
  ∀ x ∈ s.accounts, x.change = {} ∧ x.loaded ∈ db.accounts

/-- The keys a session holds are the committed ones. -/
def Session.SeesSecrets (s : Session) (db : Db) : Prop :=
  ∀ x ∈ s.secrets, x.change = {} ∧ x.loaded ∈ db.secrets

/-- Nothing was added, no execution was loaded or changed, and no row was written. -/
structure Looked (s : Session) (w : World) (s' : Session) (w' : World) : Prop where
  work : s'.work = s.work
  executions : s'.executions = s.executions
  accounts : s.SeesAccounts w.db → s'.SeesAccounts w.db
  secrets : s.SeesSecrets w.db → s'.SeesSecrets w.db
  db : w'.db = w.db

namespace Looked

theorem refl (s : Session) (w : World) : Looked s w s w :=
  ⟨rfl, rfl, fun seen => seen, fun seen => seen, rfl⟩

theorem trans {s s' s'' : Session} {w w' w'' : World} (first : Looked s w s' w')
    (second : Looked s' w' s'' w'') : Looked s w s'' w'' where
  work := second.work.trans first.work
  executions := second.executions.trans first.executions
  accounts seen := by
    have later := second.accounts
    rw [first.db] at later
    exact later (first.accounts seen)
  secrets seen := by
    have later := second.secrets
    rw [first.db] at later
    exact later (first.secrets seen)
  db := second.db.trans first.db

end Looked

/-- Run alone the handler only looks, and its outcome is as `Q` says. -/
def Looks (sem : Semantics backend) (Each : Event backend → Prop) (handler : Service α)
    (Q : Except Exc α → Prop) (s : Session) (w : World) : Prop :=
  Alone sem Each handler (fun outcome s' w' => Q outcome ∧ Looked s w s' w') s w

namespace Looks

variable {β : Type} {Q Q' : Except Exc α → Prop} {R : Except Exc β → Prop}

theorem mono {handler : Service α} (looks : Looks sem Each handler Q s w)
    (weaker : ∀ outcome, Q outcome → Q' outcome) : Looks sem Each handler Q' s w :=
  Alone.mono looks fun _ _ _ h => ⟨weaker _ h.1, h.2⟩

theorem pure {value : α} (holds : Q (.ok value)) :
    Looks sem Each (pure value) Q s w := ⟨holds, Looked.refl s w⟩

theorem throw {raised : Exc} (holds : Q (.error raised)) :
    Looks sem Each (throw raised) Q s w := ⟨holds, Looked.refl s w⟩

theorem ofExcept {outcome : Except Exc α} (holds : Q outcome) :
    Looks sem Each (Handler.ofExcept outcome) Q s w := ⟨holds, Looked.refl s w⟩

theorem query {select : Db → α} (holds : Q (.ok (select w.db))) :
    Looks sem Each (Session.query select) Q s w := ⟨holds, Looked.refl s w⟩

/-- Operations that look, one after the other. -/
theorem bind {first : Service α} {next : α → Service β} (hfirst : Looks sem Each first Q s w)
    (returned : ∀ value s' w', Q (.ok value) → Looked s w s' w' →
      Looks sem Each (next value) R s' w')
    (raised : ∀ exc, Q (.error exc) → R (.error exc)) : Looks sem Each (first >>= next) R s w := by
  refine Alone.bind hfirst ?_ ?_
  · rintro value s' w' ⟨hvalue, looked⟩
    refine Alone.mono (returned value s' w' hvalue looked) ?_
    rintro outcome s'' w'' ⟨hdone, later⟩
    exact ⟨hdone, looked.trans later⟩
  · rintro exc s' w' ⟨hexc, looked⟩
    exact ⟨raised exc hexc, looked⟩

end Looks

/-- The calls `Each` does not restrict, and which change no row. -/
def Quiet (sem : Semantics backend) (Each : Event backend → Prop) (query : Query) : Prop :=
  ∀ before answer after, sem.Answers before query answer after →
    Each (.call query answer before after) ∧ after.db = before.db

theorem looks_ask {query : Query} (quiet : Quiet sem Each query) :
    Looks sem Each (ask query)
      (fun outcome => ∃ answer before after, sem.Answers before query answer after ∧
        outcome = .ok answer) s w :=
  alone_ask.mpr fun answer after answered =>
    ⟨(quiet w answer after answered).1, ⟨answer, w, after, answered, rfl⟩, rfl, rfl,
      fun seen => seen, fun seen => seen, (quiet w answer after answered).2⟩

/-! ### Accounts and keys -/

theorem looks_holdAccount {row : ExchangeAccount} (seen : s.SeesAccounts w.db)
    (stored : row ∈ w.db.accounts) :
    Looks sem Each (Session.holdAccount row) (fun outcome => outcome = .ok row) s w := by
  unfold Session.holdAccount Looks
  rw [alone_bind, alone_session, andThen_ok]
  split
  · next held found =>
    obtain ⟨clean, loaded⟩ := seen held (List.mem_of_find?_eq_some found)
    have same : held.loaded.id = row.id := by simpa using List.find?_some found
    have hrow : held.loaded = row := Table.eq_of_conflict loaded stored same
    refine ⟨?_, Looked.refl s w⟩
    rw [Instance.current, clean, hrow]
    rfl
  · refine ⟨rfl, rfl, rfl, fun _ x hx => ?_, fun seen => seen, rfl⟩
    rcases List.mem_append.mp hx with hx | hx
    · exact seen x hx
    · rw [List.mem_singleton.mp hx]
      exact ⟨rfl, stored⟩

theorem looks_getOwnedAccount {userId accountId : String} (seen : s.SeesAccounts w.db) :
    Looks sem Each (getOwnedAccount userId accountId)
      (fun outcome =>
        (outcome = .ok none ∧
          ∀ account ∈ w.db.accounts, ¬ (account.id = accountId ∧ account.userId = userId)) ∨
        ∃ account ∈ w.db.accounts, account.id = accountId ∧ account.userId = userId ∧
          outcome = .ok (some account)) s w := by
  unfold getOwnedAccount
  refine (Looks.query (Q := fun outcome => outcome = .ok
    (w.db.accounts.find? fun row => row.id = accountId ∧ row.userId = userId)) rfl).bind ?_ ?_
  · intro found s' w' hfound looked
    cases found with
    | none =>
      refine .pure (.inl ⟨rfl, fun account stored => ?_⟩)
      simpa using Table.not_of_find?_none (Except.ok.inj hfound).symm stored
    | some row =>
      have hrow := (Except.ok.inj hfound).symm
      have stored := Table.mem_of_find? hrow
      have owned := Table.holds_of_find? hrow
      simp only [decide_eq_true_eq] at owned
      have held : Looks sem Each (Session.holdAccount row) (fun outcome => outcome = .ok row) s' w' :=
        looks_holdAccount (looked.db ▸ looked.accounts seen) (looked.db ▸ stored)
      refine held.bind ?_ ?_
      · rintro account s'' w'' heq -
        cases heq
        exact .pure (.inr ⟨row, stored, owned.1, owned.2, rfl⟩)
      · rintro exc heq
        cases heq
  · rintro exc heq
    cases heq

theorem looks_account {id : String} (seen : s.SeesAccounts w.db) :
    Looks sem Each (Session.account id)
      (fun outcome =>
        (outcome = .error .objectDeleted ∧ ∀ account ∈ w.db.accounts, account.id ≠ id) ∨
        ∃ account ∈ w.db.accounts, account.id = id ∧ outcome = .ok account) s w := by
  unfold Session.account Looks
  rw [alone_bind, alone_session, andThen_ok]
  split
  · next held found =>
    obtain ⟨clean, loaded⟩ := seen held (List.mem_of_find?_eq_some found)
    have same : held.loaded.id = id := by simpa using List.find?_some found
    refine ⟨.inr ⟨held.loaded, loaded, same, ?_⟩, Looked.refl s w⟩
    rw [Instance.current, clean]
    rfl
  · rw [alone_bind, alone_query, andThen_ok]
    cases found : w.db.accounts.find? fun row => row.id = id with
    | none =>
      refine ⟨.inl ⟨rfl, fun account stored => ?_⟩, Looked.refl s w⟩
      simpa using Table.not_of_find?_none found stored
    | some row =>
      have stored := Table.mem_of_find? found
      have same : row.id = id := by simpa using Table.holds_of_find? found
      exact (looks_holdAccount seen stored).mono fun outcome heq => .inr ⟨row, stored, same, heq⟩

/-- The stored key of the account, if it has one. -/
def secretOf (userId accountId : String) (db : Db) : Option ApiKeySecret :=
  db.secrets.find? fun row => row.userId = userId ∧ row.exchangeAccountId = accountId

theorem looks_getApiKeySecretMetadata {userId accountId : String} (seen : s.SeesSecrets w.db) :
    Looks sem Each (getApiKeySecretMetadata userId accountId)
      (fun outcome => outcome = .ok (secretOf userId accountId w.db)) s w := by
  unfold getApiKeySecretMetadata Looks
  rw [alone_bind, alone_query, andThen_ok]
  cases found : w.db.secrets.find? fun row =>
      row.userId = userId ∧ row.exchangeAccountId = accountId with
  | none => exact ⟨congrArg Except.ok found.symm, Looked.refl s w⟩
  | some row =>
    have stored := Table.mem_of_find? found
    have owned := Table.holds_of_find? found
    simp only [decide_eq_true_eq] at owned
    dsimp only
    rw [alone_bind, alone_session, andThen_ok]
    split
    · next held hheld =>
      obtain ⟨clean, loaded⟩ := seen held (List.mem_of_find?_eq_some hheld)
      have same : held.loaded.exchangeAccountId = accountId := by
        simpa using List.find?_some hheld
      have hrow : held.loaded = row :=
        Table.eq_of_conflict loaded stored (same.trans owned.2.symm)
      refine ⟨?_, Looked.refl s w⟩
      rw [Instance.current, clean, hrow]
      exact congrArg Except.ok found.symm
    · refine ⟨congrArg Except.ok found.symm, rfl, rfl, fun seen => seen, fun _ x hx => ?_, rfl⟩
      rcases List.mem_append.mp hx with hx | hx
      · exact seen x hx
      · rw [List.mem_singleton.mp hx]
        exact ⟨rfl, stored⟩

/-- What decrypting a stored key gives, or one of its parts is no valid token. -/
def ApiKeySecret.credentials (py : Platform) (secret : ApiKeySecret) :
    Except Exc ExchangeCredentials := do
  let decrypt (encrypted : String) : Except Exc String :=
    match py.decryptSecret encrypted with
    | some secret => .ok secret
    | none => .error .invalidToken
  let passphrase ← match secret.encryptedPassphrase with
    | none => pure none
    | some encrypted => some <$> decrypt encrypted
  let apiKey ← decrypt secret.encryptedApiKey
  let apiSecret ← decrypt secret.encryptedApiSecret
  return { apiKey, apiSecret, passphrase }

theorem looks_getExchangeCredentials {py : Platform} {userId accountId : String}
    (seen : s.SeesSecrets w.db) :
    Looks sem Each (getExchangeCredentials py userId accountId)
      (fun outcome =>
        outcome = match secretOf userId accountId w.db with
          | none => .ok none
          | some secret => some <$> secret.credentials py) s w := by
  unfold getExchangeCredentials
  refine (looks_getApiKeySecretMetadata seen).bind ?_ ?_
  · rintro found s' w' heq -
    cases heq
    cases hsecret : secretOf userId accountId w.db with
    | none => exact .pure rfl
    | some secret =>
      unfold ApiKeySecret.credentials
      obtain ⟨_, _, encryptedApiKey, encryptedApiSecret, encryptedPassphrase⟩ := secret
      cases encryptedPassphrase with
      | none =>
        cases hkey : py.decryptSecret encryptedApiKey <;>
          cases hsecret : py.decryptSecret encryptedApiSecret <;>
          simp only [decryptSecret, hkey, hsecret] <;> exact ⟨rfl, Looked.refl s' w'⟩
      | some encrypted =>
        cases hpassphrase : py.decryptSecret encrypted <;>
          cases hkey : py.decryptSecret encryptedApiKey <;>
          cases hsecret : py.decryptSecret encryptedApiSecret <;>
          simp only [decryptSecret, hpassphrase, hkey, hsecret] <;> exact ⟨rfl, Looked.refl s' w'⟩
  · rintro exc heq
    cases heq

/-! ### Signed requests -/

/-- The client can sign with these credentials: OKX wants a passphrase, the mock exchange has
no signature. -/
def SignedExchangeHttpClient.Signs (client : SignedExchangeHttpClient)
    (credentials : ExchangeCredentials) : Prop :=
  client.exchangeName ≠ .mock ∧ (client.exchangeName = .okx → credentials.passphrase.isSome)

theorem looks_preparePrivate {py : Platform} {client : SignedExchangeHttpClient}
    {method path : String} {credentials : ExchangeCredentials} {params : List (String × String)}
    {body : Option (List (String × Json))} {securityType : ExchangeSecurityType}
    (timestampMs : Quiet sem Each .timestampMs) (isoTimestamp : Quiet sem Each .isoTimestamp) :
    Looks sem Each (client.preparePrivate py method path credentials params body securityType)
      (fun outcome => (∃ request, outcome = .ok request) ↔ client.Signs credentials) s w := by
  unfold SignedExchangeHttpClient.preparePrivate SignedExchangeHttpClient.Signs
  cases client.exchangeName with
  | binance | bybit =>
    refine (looks_ask timestampMs).bind (fun _ _ _ _ _ => .pure ?_) ?_
    · exact iff_of_true ⟨_, rfl⟩ ⟨by decide, fun h => by cases h⟩
    · rintro exc ⟨_, _, _, _, heq⟩
      cases heq
  | okx =>
    unfold SignedExchangeHttpClient.prepareOkxRequest
    cases credentials.passphrase with
    | none => exact .throw (iff_of_false (fun ⟨_, heq⟩ => nomatch heq) fun h => nomatch h.2 rfl)
    | some passphrase =>
      refine (looks_ask isoTimestamp).bind (fun _ _ _ _ _ => .pure ?_) ?_
      · exact iff_of_true ⟨_, rfl⟩ ⟨by decide, fun _ => rfl⟩
      · rintro exc ⟨_, _, _, _, heq⟩
        cases heq
  | mock => exact .throw (iff_of_false (fun ⟨_, heq⟩ => nomatch heq) fun h => h.1 rfl)

end CopyTrading
