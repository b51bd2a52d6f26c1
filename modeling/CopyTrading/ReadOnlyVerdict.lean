import CopyTrading.Effects
import CopyTrading.Environment
import CopyTrading.ReadOnlyCheck
import CopyTrading.SessionAlone

/-!
What a read-only check says about the exchange's answer. The balance parsers turn missing
fields into empty lists, so a body is taken for a success whatever its result code, as long
as its lists of accounts and balances can be walked.
-/

namespace CopyTrading

open Transaction Transaction.Handler

/-! ### Bodies the parsers accept -/

/-- A list of mappings that satisfy `each`; an empty mapping and an empty text walk like an
empty list. -/
def ListOfMappings (each : List (String × Json) → Prop) : Json → Prop
  | .arr items => ∀ item ∈ items, ∃ fields, item = .obj fields ∧ each fields
  | .obj fields => fields = []
  | .str text => text = ""
  | _ => False

/-- `fields.get(key, default)`. -/
def fieldOr (key : String) (default : Json) (fields : List (String × Json)) : Json :=
  (Json.lookup key fields).getD default

/-- The body `{"data": [{"details": [{..}, ..]}, ..]}`, where `data` and `details` may be missing. -/
def okxReadable : Json → Prop
  | .obj fields =>
      ListOfMappings (fun account =>
        ListOfMappings (fun _ => True) (fieldOr "details" (.arr []) account))
        (fieldOr "data" (.arr []) fields)
  | _ => False

/-- The body `{"result": {"list": [{"coin": [{..}, ..]}, ..]}}`, where each may be missing. -/
def bybitReadable : Json → Prop
  | .obj fields =>
      match fieldOr "result" (.obj []) fields with
      | .obj result =>
          ListOfMappings (fun account =>
            ListOfMappings (fun _ => True) (fieldOr "coin" (.arr []) account))
            (fieldOr "list" (.arr []) result)
      | _ => False
  | _ => False

theorem mapM_returns {β : Type} {body : Json → Except Exc β} {items : List Json} :
    (∃ results, items.mapM body = .ok results) ↔ ∀ item ∈ items, ∃ result, body item = .ok result := by
  induction items with
  | nil => exact ⟨fun _ item hitem => (List.not_mem_nil hitem).elim, fun _ => ⟨[], rfl⟩⟩
  | cons item rest ih =>
    rw [List.mapM_cons, List.forall_mem_cons, ← ih]
    cases hitem : body item with
    | error exc =>
      constructor
      · rintro ⟨results, heq⟩
        cases heq
      · rintro ⟨⟨result, heq⟩, -⟩
        cases heq
    | ok result =>
      cases hrest : rest.mapM body with
      | error exc =>
        constructor
        · rintro ⟨results, heq⟩
          cases heq
        · rintro ⟨-, results, heq⟩
          cases heq
      | ok results => exact ⟨fun _ => ⟨⟨result, rfl⟩, results, rfl⟩, fun _ => ⟨_, rfl⟩⟩

/-- A comprehension whose body needs a mapping walks lists of mappings. -/
theorem forEach_returns {β : Type} {body : Json → Except Exc β}
    {each : List (String × Json) → Prop}
    (entry : ∀ item, (∃ result, body item = .ok result) ↔ ∃ fields, item = .obj fields ∧ each fields)
    (value : Json) : (∃ results, forEach body value = .ok results) ↔ ListOfMappings each value := by
  have noText : ∀ text : String, ¬ ∃ result, body (.str text) = .ok result := by
    intro text returns
    obtain ⟨fields, heq, -⟩ := (entry _).mp returns
    cases heq
  cases value with
  | arr items => exact mapM_returns.trans (forall₂_congr fun item _ => entry item)
  | obj fields =>
    refine mapM_returns.trans ?_
    cases fields with
    | nil => simp [ListOfMappings]
    | cons field rest =>
      refine iff_of_false (fun all => ?_) (List.cons_ne_nil _ _)
      exact noText field.1 (all _ (List.mem_cons_self))
  | str text =>
    refine mapM_returns.trans ?_
    cases hchars : text.toList with
    | nil => simp [ListOfMappings, String.toList_eq_nil_iff.mp hchars]
    | cons c rest =>
      refine iff_of_false (fun all => noText (String.singleton c) (all _ ?_)) ?_
      · exact List.mem_cons_self
      · rintro rfl
        cases hchars
  | null | bool | int | float => exact iff_of_false (fun ⟨_, heq⟩ => nomatch heq) id

theorem balanceOf_returns {exchangeName : ExchangeName} {asset free locked : String}
    {total : Option String} (item : Json) :
    (∃ balance, balanceOf exchangeName asset free locked total item = .ok balance) ↔
      ∃ fields, item = .obj fields ∧ True := by
  cases item with
  | obj fields =>
    refine iff_of_true ?_ ⟨fields, rfl, True.intro⟩
    cases total with
    | none => exact ⟨_, rfl⟩
    | some name => exact ⟨_, rfl⟩
  | _ => exact iff_of_false (fun ⟨_, heq⟩ => nomatch heq) fun ⟨_, heq, _⟩ => nomatch heq

/-- The entries of one account, under the name the exchange gives their list. -/
theorem accountBalances_returns {exchangeName : ExchangeName} {entries asset free locked : String}
    {total : Option String} (item : Json) :
    (∃ balances, (do
      let details ← getDefault item entries (.arr [])
      forEach (balanceOf exchangeName asset free locked total) details) = Except.ok balances) ↔
      ∃ fields, item = .obj fields ∧ ListOfMappings (fun _ => True) (fieldOr entries (.arr []) fields) := by
  cases item with
  | obj fields =>
    refine (forEach_returns balanceOf_returns _).trans ?_
    exact ⟨fun walks => ⟨fields, rfl, walks⟩, fun ⟨_, heq, walks⟩ => by cases heq; exact walks⟩
  | _ => exact iff_of_false (fun ⟨_, heq⟩ => nomatch heq) fun ⟨_, heq, _⟩ => nomatch heq

theorem flatten_returns {β : Type} {outcome : Except Exc (List (List β))} :
    (∃ results, (do let found ← outcome; return found.flatten) = Except.ok results) ↔
      ∃ found, outcome = .ok found := by
  cases outcome with
  | error exc => exact iff_of_false (fun ⟨_, heq⟩ => nomatch heq) fun ⟨_, heq⟩ => nomatch heq
  | ok found => exact iff_of_true ⟨_, rfl⟩ ⟨_, rfl⟩

theorem okxBalances_returns (body : Json) :
    (∃ balances, okxBalances body = .ok balances) ↔ okxReadable body := by
  cases body with
  | obj fields => exact flatten_returns.trans (forEach_returns accountBalances_returns _)
  | _ => exact iff_of_false (fun ⟨_, heq⟩ => nomatch heq) id

theorem bybitBalances_returns (body : Json) :
    (∃ balances, bybitBalances body = .ok balances) ↔ bybitReadable body := by
  cases body with
  | obj fields =>
    have unfolded : bybitBalances (.obj fields) = (do
        let accounts ← getDefault (fieldOr "result" (.obj []) fields) "list" (.arr [])
        let balances ← forEach (fun account => do
          let coins ← getDefault account "coin" (.arr [])
          forEach (balanceOf .bybit "coin" "walletBalance" "locked" (some "walletBalance")) coins)
          accounts
        return balances.flatten) := rfl
    rw [unfolded, bybitReadable]
    split
    · next result heq =>
      rw [heq]
      exact flatten_returns.trans (forEach_returns accountBalances_returns _)
    · next notMapping =>
      refine iff_of_false ?_ id
      cases hresult : fieldOr "result" (.obj []) fields with
      | obj result => exact (notMapping result hresult).elim
      | _ => exact fun ⟨_, heq⟩ => nomatch heq
  | _ => exact iff_of_false (fun ⟨_, heq⟩ => nomatch heq) id

/-! ### Checks and result codes -/

/-- The checks of accounts whose exchange puts a result code into the body. -/
inductive BalanceCheck where
  | testnetOkx | testnetBybit | realOkx
  deriving DecidableEq, Repr

namespace BalanceCheck

def exchangeName : BalanceCheck → ExchangeName
  | .testnetOkx | .realOkx => .okx
  | .testnetBybit => .bybit

def service (check : BalanceCheck) (py : Platform) (userId exchangeAccountId : String)
    (testnetAdaptersEnabled : Bool) : Service ReadOnlyCheckResult :=
  match check with
  | .testnetOkx | .testnetBybit =>
      runTestnetReadOnlyCheck py userId exchangeAccountId testnetAdaptersEnabled
  | .realOkx => runRealReadOnlyCheck py userId exchangeAccountId

/-- The body's own result code is a success: `"0"` of OKX, `0` of Bybit. -/
def ReportsSuccess (check : BalanceCheck) (body : Json) : Prop :=
  match check.exchangeName with
  | .okx => ∃ fields, body = .obj fields ∧ Json.lookup "code" fields = some (.str "0")
  | _ => ∃ fields, body = .obj fields ∧ Json.lookup "retCode" fields = some (.int 0)

/-- The balances can be read off the body. -/
def Readable (check : BalanceCheck) (body : Json) : Prop :=
  match check.exchangeName with
  | .okx => okxReadable body
  | _ => bybitReadable body

theorem balances_returns (check : BalanceCheck) (body : Json) :
    (∃ balances, normalizeBalances check.exchangeName body = .ok balances) ↔ check.Readable body := by
  cases check with
  | testnetOkx | realOkx => exact okxBalances_returns body
  | testnetBybit => exact bybitBalances_returns body

end BalanceCheck

/-! ### What is recorded -/

def AuditLog.SaysAuthenticated (log : AuditLog) : Prop :=
  log.payload.lookup "authenticated" = some (.bool true)

theorem payload_authenticated (audit : AuthenticationAudit) :
    audit.payload.lookup "authenticated" = some (.bool audit.authenticated) := rfl

/-- The step stores a new audit row that says `authenticated`. -/
def RecordsSuccess (e : Event backend) : Prop :=
  ∃ log ∈ e.after.db.auditLogs, log ∉ e.before.db.auditLogs ∧ log.SaysAuthenticated

/-- Every answer of `urlopen` is HTTP 200 with this body. -/
def Query.AnsweredWith (body : Json) : (query : Query) → query.Answer → Prop
  | .urlopen _, reply => reply = .payload (some body)
  | _, _ => True

def respondingWith (body : Json) : Semantics backend where
  flush := World.flush
  Answers before query answer after := answers before query answer after ∧ query.AnsweredWith body answer

theorem respondingWith_answers (body : Json) (world : World) (query : Query) :
    ∃ answer after, (respondingWith body).Answers world query answer after := by
  cases query with
  | urlopen request => exact ⟨.payload (some body), world, .inl rfl, rfl⟩
  | newUuid | isoTimestamp => exact ⟨"", world, .inl rfl, True.intro⟩
  | utcNow => exact ⟨(0 : Int), world, .inl rfl, True.intro⟩
  | timestampMs => exact ⟨(0 : Nat), world, .inl rfl, True.intro⟩
  | placeOrder order => exact ⟨.ok .null, world, .inl rfl, True.intro⟩
  | acquireTestnetOrder => exact ⟨.granted, world, .inl rfl, True.intro⟩
  | notifyOrderFailure | notifyEmergencyStopEnabled => exact ⟨(), world, .inl rfl, True.intro⟩

theorem quiet_respondingWith {body : Json} {Each : Event backend → Prop}
    (calls : ∀ (query : Query) (answer : query.Answer) (before after : World),
      after.db = before.db → Each (.call query answer before after)) (query : Query) :
    Quiet (respondingWith body) Each query := fun before answer after answered =>
  ⟨calls query answer before after (db_eq_of_call answered.1), db_eq_of_call answered.1⟩

/-- An audit row with an id of its own is accepted. -/
theorem flush_auditLog (accountChanges : List (Instance ExchangeAccount))
    (executionChanges : List (Instance OrderExecution)) (log : AuditLog) {world : World}
    (fresh : ∀ old ∈ world.db.auditLogs.rows, ¬ Row.Conflict old log) :
    ∃ after, World.flush { auditLogs := [log], accountChanges, executionChanges } world =
      .ok after := by
  obtain ⟨table, inserted⟩ := Table.insert_of_fresh fresh
  have htable : world.db.auditLogs.insertAll [log] = some table :=
    Table.insertAll_cons.mpr ⟨table, inserted, rfl⟩
  simp [World.flush, Db.flush, Work.write, htable, Except.map]

variable {body : Json} {Each : Event backend → Prop} {s : Session} {w : World}

theorem alone_writeAuthenticationAudit {userId exchangeAccountId : String}
    {audit : AuthenticationAudit} (quiet : ∀ query, Quiet (respondingWith body) Each query)
    (each : ∀ log work before after, log.payload = audit.payload → work.auditLogs = [log] →
      work.stop = none → World.flush work before = .ok after → Each (.commit work before after))
    (clean : s.work = {}) :
    Alone (respondingWith body) Each (writeAuthenticationAudit userId exchangeAccountId audit)
      (fun outcome s' w' =>
        (outcome = .ok () ∧ s' = {} ∧ ∃ log ∈ w'.db.auditLogs, log.payload = audit.payload) ∨
        ((∃ exc, outcome = .error exc) ∧ w.db.auditLogs.rows ≠ [])) s w := by
  unfold writeAuthenticationAudit
  refine Alone.bind (looks_ask (quiet .newUuid)) ?_ (by rintro _ _ _ ⟨⟨_, _, _, _, heq⟩, -⟩; cases heq)
  rintro id s₁ w₁ ⟨-, looked₁⟩
  refine Alone.bind (looks_ask (quiet .utcNow)) ?_ (by rintro _ _ _ ⟨⟨_, _, _, _, heq⟩, -⟩; cases heq)
  rintro createdAt s₂ w₂ ⟨-, looked₂⟩
  rw [alone_bind, alone_add, andThen_ok, alone_commit]
  have looked := looked₁.trans looked₂
  obtain ⟨work, executions, accounts, secrets⟩ := s₂
  have hwork : work = {} := looked.work.trans clean
  subst hwork
  have payload : (authenticationLog userId exchangeAccountId audit id createdAt).payload =
      audit.payload := rfl
  generalize authenticationLog userId exchangeAccountId audit id createdAt = log at payload
  constructor
  · intro after flushed
    have written := Work.written_of_flush (World.flush_ok flushed).1 rfl
    refine ⟨each log _ _ _ payload rfl rfl flushed, .inl ⟨rfl, rfl, log, ?_, payload⟩⟩
    exact (Table.mem_insertAll written.auditLogs).mpr (.inr (List.mem_singleton_self _))
  · intro fault refused
    refine .inr ⟨⟨_, rfl⟩, fun empty => ?_⟩
    obtain ⟨after, flushed⟩ := flush_auditLog accounts executions log
      (by rw [looked.db, empty]; exact fun _ h => (List.not_mem_nil h).elim)
    cases refused.symm.trans flushed

theorem saysAuthenticated_of_payload {log : AuditLog} {audit : AuthenticationAudit}
    (payload : log.payload = audit.payload) : log.SaysAuthenticated ↔ audit.authenticated = true := by
  unfold AuditLog.SaysAuthenticated
  rw [payload, payload_authenticated, Option.some.injEq, Json.bool.injEq]

/-- The body is returned exactly when the request can be signed. -/
theorem looks_getPrivate {py : Platform} {client : SignedExchangeHttpClient} {path : String}
    {credentials : ExchangeCredentials} {params : List (String × String)}
    {securityType : ExchangeSecurityType}
    (quiet : ∀ query, Quiet (respondingWith body) Each query) :
    Looks (respondingWith body) Each (client.getPrivate py path credentials params securityType)
      (fun outcome => (outcome = .ok body ∧ client.Signs credentials) ∨
        ((∃ exc, outcome = .error exc) ∧ ¬ client.Signs credentials)) s w := by
  unfold SignedExchangeHttpClient.getPrivate
  refine (looks_preparePrivate (quiet .timestampMs) (quiet .isoTimestamp)).bind ?_ ?_
  · intro request s' w' signed _
    have signs := signed.mp ⟨request, rfl⟩
    unfold transportRequest
    refine (looks_ask (quiet (.urlopen request))).bind ?_ ?_
    · rintro reply s'' w'' ⟨answer, before, after, answered, heq⟩ -
      cases heq
      have hreply : reply = .payload (some body) := answered.2
      rw [hreply]
      exact .ofExcept (.inl ⟨rfl, signs⟩)
    · rintro exc ⟨_, _, _, _, heq⟩
      cases heq
  · intro exc unsigned
    refine .inr ⟨⟨exc, rfl⟩, fun signs => ?_⟩
    obtain ⟨request, heq⟩ := unsigned.mpr signs
    cases heq

/-- The balances are those of the body, and are returned whenever the request can be signed. -/
theorem looks_getBalances {py : Platform} {adapter : ReadOnlyTestnetAdapter}
    (quiet : ∀ query, Quiet (respondingWith body) Each query) :
    Looks (respondingWith body) Each (adapter.getBalances py)
      (fun outcome =>
        (∀ balances, outcome = .ok balances →
          normalizeBalances adapter.exchangeName body = .ok balances) ∧
        (adapter.httpClient.Signs adapter.credentials →
          outcome = normalizeBalances adapter.exchangeName body)) s w := by
  unfold ReadOnlyTestnetAdapter.getBalances
  refine (looks_getPrivate quiet).bind ?_ ?_
  · rintro response s' w' (⟨heq, -⟩ | ⟨⟨exc, heq⟩, -⟩) -
    · cases heq
      exact .ofExcept ⟨fun _ heq => heq, fun _ => rfl⟩
    · cases heq
  · rintro exc (⟨heq, -⟩ | ⟨-, unsigned⟩)
    · cases heq
    · exact ⟨fun _ heq => (nomatch heq), fun signs => absurd signs unsigned⟩

/-- The part both checks share: the balances are asked for, and what came of it is recorded. -/
theorem alone_authenticate {py : Platform} {adapter : ReadOnlyTestnetAdapter}
    {userId exchangeAccountId : String} {failed : Exc → AuthenticationAudit}
    {raisedAs : Exc → Exc} {succeeded : List NormalizedBalance → AuthenticationAudit}
    (hfailed : ∀ exc, (failed exc).authenticated = false)
    (hsucceeded : ∀ balances, (succeeded balances).authenticated = true)
    (quiet : ∀ query, Quiet (respondingWith body) Each query)
    (each : ∀ log work before after,
      (log.SaysAuthenticated →
        ∃ balances, normalizeBalances adapter.exchangeName body = .ok balances) →
      work.auditLogs = [log] → work.stop = none → World.flush work before = .ok after →
      Each (.commit work before after))
    (clean : s.work = {}) :
    Alone (respondingWith body) Each
      (do
        let balances ← tryCatch (adapter.getBalances py) fun raised => do
          writeAuthenticationAudit userId exchangeAccountId (failed raised)
          throw (raisedAs raised)
        writeAuthenticationAudit userId exchangeAccountId (succeeded balances)
        authenticatedResult exchangeAccountId balances)
      (fun _ _ w' => w.db.auditLogs.rows = [] → adapter.httpClient.Signs adapter.credentials →
        (∃ balances, normalizeBalances adapter.exchangeName body = .ok balances) →
        ∃ log ∈ w'.db.auditLogs, log.SaysAuthenticated) s w := by
  rw [alone_bind]
  refine alone_tryCatch.mpr (Alone.mono (looks_getBalances quiet) ?_)
  rintro (exc | balances) s' w' ⟨⟨returned, signed⟩, looked⟩
  · -- the failure is recorded, with `authenticated` false
    refine (alone_writeAuthenticationAudit quiet ?_ (looked.work.trans clean)).bind ?_ ?_
    · intro log work before after payload
      refine each log work before after fun claimed => ?_
      rw [saysAuthenticated_of_payload payload, hfailed] at claimed
      cases claimed
    · rintro _ s'' w'' - - signs ⟨balances, hbalances⟩
      cases (signed signs).trans hbalances
    · rintro exc' s'' w'' - - signs ⟨balances, hbalances⟩
      cases (signed signs).trans hbalances
  · rw [orElse_ok, andThen_ok]
    refine (alone_writeAuthenticationAudit quiet ?_ (looked.work.trans clean)).bind ?_ ?_
    · intro log work before after _
      exact each log work before after fun _ => ⟨balances, returned balances rfl⟩
    · rintro _ s'' w'' (⟨-, rfl, log, hlog, payload⟩ | ⟨⟨_, heq⟩, -⟩)
      · have claimed : log.SaysAuthenticated := (saysAuthenticated_of_payload payload).mpr (hsucceeded balances)
        have none : Session.SeesAccounts {} w''.db := fun x hx => (List.not_mem_nil hx).elim
        refine Alone.bind (looks_account none) ?_ ?_
        · rintro account s₃ w₃ ⟨-, later⟩ - - -
          exact ⟨log, later.db ▸ hlog, claimed⟩
        · rintro exc s₃ w₃ ⟨-, later⟩ - - -
          exact ⟨log, later.db ▸ hlog, claimed⟩
      · cases heq
    · rintro exc s'' w'' (⟨heq, -⟩ | ⟨-, stored⟩) empty
      · cases heq
      · rw [looked.db] at stored
        exact (stored empty).elim

/-! ### Both checks -/

namespace BalanceCheck

def accountMode : BalanceCheck → AccountMode
  | .realOkx => .real
  | _ => .testnet

/-- The account that is named is at the check's exchange. -/
def At (check : BalanceCheck) (exchangeAccountId : String) (db : Db) : Prop :=
  ∀ account ∈ db.accounts, account.id = exchangeAccountId →
    account.exchangeName = check.exchangeName

/-- The account passes the checks before the request, and its keys can be decrypted. -/
def Eligible (py : Platform) (check : BalanceCheck) (userId exchangeAccountId : String)
    (testnetAdaptersEnabled : Bool) (db : Db) : Prop :=
  testnetAdaptersEnabled = true ∧
    (∀ account ∈ db.accounts, account.isActive = true ∧ account.tradingEnabled = false ∧
      account.accountMode = check.accountMode) ∧
    (∃ account ∈ db.accounts, account.id = exchangeAccountId ∧ account.userId = userId) ∧
    ∃ secret credentials, secretOf userId exchangeAccountId db = some secret ∧
      secret.credentials py = .ok credentials ∧ credentials.passphrase.isSome

/-- What is asked of the step that writes the audit row. -/
abbrev Asks (check : BalanceCheck) (body : Json) (Each : Event backend → Prop) : Prop :=
  ∀ log work before after, (log.SaysAuthenticated → check.Readable body) →
    work.auditLogs = [log] → work.stop = none → World.flush work before = .ok after →
    Each (.commit work before after)

/-- An eligible account ends with an audit row that says so, if the body is readable. -/
abbrev Authenticates (check : BalanceCheck) (py : Platform) (userId exchangeAccountId : String)
    (testnetAdaptersEnabled : Bool) (body : Json) (w w' : World) : Prop :=
  w.db.auditLogs.rows = [] →
    check.Eligible py userId exchangeAccountId testnetAdaptersEnabled w.db →
    check.Readable body → ∃ log ∈ w'.db.auditLogs, log.SaysAuthenticated

variable {py : Platform} {check : BalanceCheck} {userId exchangeAccountId : String}
  {adapters : Bool}

/-- A refused check records that it was refused. -/
theorem alone_blocked {audit : AuthenticationAudit} {raised : Exc} {α : Type}
    (quiet : ∀ query, Quiet (respondingWith body) Each query) (each : check.Asks body Each)
    (clean : s.work = {}) (refused : audit.authenticated = false)
    {post : Except Exc α → Session → World → Prop} (ineligible : ∀ outcome s' w', post outcome s' w') :
    Alone (respondingWith body) Each
      (do
        writeAuthenticationAudit userId exchangeAccountId audit
        throw raised) post s w := by
  refine (alone_writeAuthenticationAudit quiet ?_ clean).bind (fun _ _ _ _ => ineligible _ _ _)
    fun _ _ _ _ => ineligible _ _ _
  intro log work before after payload
  refine each log work before after fun claimed => ?_
  rw [saysAuthenticated_of_payload payload, refused] at claimed
  cases claimed

/-- What the lookup of the account and of its keys leaves to the rest of a check. -/
theorem alone_lookup {rest : ExchangeAccount → Option ExchangeCredentials → Service ReadOnlyCheckResult}
    (decided : ∀ account credentials s' w', account ∈ w.db.accounts → account.id = exchangeAccountId →
      (check.Eligible py userId exchangeAccountId adapters w.db →
        ∃ usable : ExchangeCredentials, credentials = some usable ∧ usable.passphrase.isSome) →
      s'.work = {} → w'.db = w.db →
      Alone (respondingWith body) Each (rest account credentials)
        (fun _ _ w'' => check.Authenticates py userId exchangeAccountId adapters body w w'') s' w') :
    Alone (respondingWith body) Each
      (do
        match ← getOwnedAccount userId exchangeAccountId with
        | none => throw (.valueError "account not found")
        | some account =>
          let credentials ← getExchangeCredentials py userId account.id
          rest account credentials)
      (fun _ _ w' => check.Authenticates py userId exchangeAccountId adapters body w w') {} w := by
  have noAccounts : Session.SeesAccounts {} w.db := fun x hx => (List.not_mem_nil hx).elim
  have noSecrets : Session.SeesSecrets {} w.db := fun x hx => (List.not_mem_nil hx).elim
  refine Alone.bind (looks_getOwnedAccount noAccounts) ?_ ?_
  · rintro found s₁ w₁ ⟨⟨heq, missing⟩ | ⟨account, stored, hid, huser, heq⟩, looked₁⟩
    · cases heq
      rintro - ⟨-, -, ⟨account, stored, owned⟩, -⟩
      exact absurd owned (missing account stored)
    · cases heq
      have seen := looked₁.secrets noSecrets
      rw [← looked₁.db] at seen
      refine Alone.bind (looks_getExchangeCredentials seen) ?_ ?_
      · rintro credentials s₂ w₂ ⟨hcredentials, looked₂⟩
        have looked := looked₁.trans looked₂
        refine decided account credentials s₂ w₂ stored hid ?_ looked.work looked.db
        rintro ⟨-, -, -, secret, usable, hsecret, hdecrypt, passphrase⟩
        rw [hid, looked₁.db, hsecret] at hcredentials
        dsimp only at hcredentials
        rw [hdecrypt] at hcredentials
        cases hcredentials
        exact ⟨usable, rfl, passphrase⟩
      · rintro exc s₂ w₂ ⟨hcredentials, -⟩ - ⟨-, -, -, secret, usable, hsecret, hdecrypt, -⟩
        rw [hid, looked₁.db, hsecret] at hcredentials
        dsimp only at hcredentials
        rw [hdecrypt] at hcredentials
        cases hcredentials
  · rintro exc s₁ w₁ ⟨⟨heq, -⟩ | ⟨_, _, _, _, heq⟩, -⟩
    · cases heq
    · cases heq

/-- The request and its record, for an account at the exchange of the check. -/
theorem alone_asked {adapter : ReadOnlyTestnetAdapter} {credentials : ExchangeCredentials}
    {failed : Exc → AuthenticationAudit}
    {raisedAs : Exc → Exc} {succeeded : List NormalizedBalance → AuthenticationAudit}
    (hfailed : ∀ exc, (failed exc).authenticated = false)
    (hsucceeded : ∀ balances, (succeeded balances).authenticated = true)
    (quiet : ∀ query, Quiet (respondingWith body) Each query) (each : check.Asks body Each)
    (clean : s.work = {}) {w₀ : World} (same : w.db = w₀.db)
    (located : adapter.exchangeName = check.exchangeName)
    (client : adapter.httpClient.exchangeName = check.exchangeName)
    (held : adapter.credentials = credentials)
    (signable : check.Eligible py userId exchangeAccountId adapters w₀.db → credentials.passphrase.isSome) :
    Alone (respondingWith body) Each
      (do
        let balances ← tryCatch (adapter.getBalances py) fun raised => do
          writeAuthenticationAudit userId exchangeAccountId (failed raised)
          throw (raisedAs raised)
        writeAuthenticationAudit userId exchangeAccountId (succeeded balances)
        authenticatedResult exchangeAccountId balances)
      (fun _ _ w' => check.Authenticates py userId exchangeAccountId adapters body w₀ w') s w := by
  refine (alone_authenticate hfailed hsucceeded quiet ?_ clean).mono ?_
  · intro log work before after readable
    refine each log work before after fun claimed => (check.balances_returns body).mp ?_
    rw [← located]
    exact readable claimed
  · intro outcome s' w' records empty eligible readable
    refine records (same ▸ empty) ⟨?_, fun _ => held ▸ signable eligible⟩ ?_
    · rw [client]
      cases check <;> decide
    · rw [located]
      exact (check.balances_returns body).mpr readable

/-- An account that is at the exchange of the check passes its checks when it is eligible. -/
theorem Eligible.reasons {db : Db} {account : ExchangeAccount} {credentials : ExchangeCredentials}
    (eligible : check.Eligible py userId exchangeAccountId adapters db)
    (located : account.exchangeName = check.exchangeName) (stored : account ∈ db.accounts) :
    (check = .realOkx → realCheckReasons account (some credentials) = []) ∧
      (check ≠ .realOkx → testnetCheckReasons account adapters (some credentials) = []) := by
  obtain ⟨hadapters, accounts, -⟩ := eligible
  obtain ⟨active, off, mode⟩ := accounts account stored
  cases check <;>
    simp_all [realCheckReasons, testnetCheckReasons, exchangeName, accountMode]

theorem alone_testnet (quiet : ∀ query, Quiet (respondingWith body) Each query)
    (each : check.Asks body Each) (located : check.At exchangeAccountId w.db)
    (testnet : check ≠ .realOkx) :
    Alone (respondingWith body) Each (runTestnetReadOnlyCheck py userId exchangeAccountId adapters)
      (fun _ _ w' => check.Authenticates py userId exchangeAccountId adapters body w w') {} w := by
  refine alone_lookup ?_
  intro account credentials s' w' stored hid usable clean same
  have exchange := located account stored hid
  subst hid
  dsimp only
  split
  · next credentials _ =>
    have client : createTestnetSignedHttpClient account.exchangeName =
        pure { exchangeName := account.exchangeName
               restBaseUrl := (testnetRestBaseUrl account.exchangeName).getD "" } := by
      rw [exchange]
      cases check <;> rfl
    rw [client, pure_bind]
    refine alone_asked (fun _ => rfl) (fun _ => rfl) quiet each clean
      same exchange exchange rfl fun eligible => ?_
    obtain ⟨usable, heq, passphrase⟩ := usable eligible
    cases heq
    exact passphrase
  · next blocked =>
    refine alone_blocked quiet each clean rfl fun _ _ _ _ eligible => ?_
    obtain ⟨credentials, rfl, -⟩ := usable eligible
    exact (blocked credentials ((eligible.reasons exchange stored).2 testnet) rfl).elim

theorem alone_real (quiet : ∀ query, Quiet (respondingWith body) Each query)
    (each : Asks .realOkx body Each) (located : At .realOkx exchangeAccountId w.db) :
    Alone (respondingWith body) Each (runRealReadOnlyCheck py userId exchangeAccountId)
      (fun _ _ w' => Authenticates .realOkx py userId exchangeAccountId adapters body w w') {} w := by
  refine alone_lookup ?_
  intro account credentials s' w' stored hid usable clean same
  have exchange := located account stored hid
  subst hid
  dsimp only
  split
  · next credentials _ =>
    refine alone_asked (fun _ => rfl) (fun _ => rfl) quiet each clean
      same exchange rfl rfl fun eligible => ?_
    obtain ⟨usable, heq, passphrase⟩ := usable eligible
    cases heq
    exact passphrase
  · next blocked =>
    refine alone_blocked quiet each clean rfl fun _ _ _ _ eligible => ?_
    obtain ⟨credentials, rfl, -⟩ := usable eligible
    exact (blocked credentials ((eligible.reasons exchange stored).1 rfl) rfl).elim

theorem alone_service (quiet : ∀ query, Quiet (respondingWith body) Each query)
    (each : check.Asks body Each) (located : check.At exchangeAccountId w.db) :
    Alone (respondingWith body) Each (check.service py userId exchangeAccountId adapters)
      (fun _ _ w' => check.Authenticates py userId exchangeAccountId adapters body w w') {} w := by
  cases check with
  | realOkx => exact alone_real quiet each located
  | testnetOkx | testnetBybit => exact alone_testnet quiet each located (by decide)

/-! ### The verdict -/

/-- Whenever a run of the check, answered with this body, stores an audit row that says
`authenticated`, the body's result code is a success. -/
def RecordsReportedSuccess (check : BalanceCheck) (body : Json) : Prop :=
  ∀ (py : Platform) (userId exchangeAccountId : String) (testnetAdaptersEnabled : Bool)
    (start last : World) (trace : List (Event backend))
    (rest : Prog backend (Except Exc ReadOnlyCheckResult × Session)),
    check.At exchangeAccountId start.db →
    Prog.Run (respondingWith body)
      (check.service py userId exchangeAccountId testnetAdaptersEnabled).run start trace rest last →
    ∀ e ∈ trace, RecordsSuccess e → check.ReportsSuccess body

/-- A new audit row comes with a commit. -/
theorem isAction_of_records {e : Event backend} (records : RecordsSuccess e) :
    e.isAction = true := by
  obtain ⟨log, after, before, -⟩ := records
  cases e with
  | read | abort => exact (before after).elim
  | commit | call => rfl

theorem readable_of_records {start last : World} {trace : List (Event backend)}
    {rest : Prog backend (Except Exc ReadOnlyCheckResult × Session)}
    (located : check.At exchangeAccountId start.db)
    (run : Prog.Run (respondingWith body) (check.service py userId exchangeAccountId adapters).run
      start trace rest last) {e : Event backend} (he : e ∈ trace) (records : RecordsSuccess e) :
    check.Readable body := by
  have calls : ∀ (query : Query) (answer : query.Answer) (before after : World),
      after.db = before.db → RecordsSuccess (.call query answer before after) →
      check.Readable body := by
    rintro query answer before after same ⟨log, hafter, hbefore, -⟩
    exact (hbefore (same ▸ hafter)).elim
  have commits : check.Asks body fun e => RecordsSuccess e → check.Readable body := by
    rintro log work before after readable logs noStop flushed ⟨log', hafter, hbefore, claimed⟩
    have written := Work.written_of_flush (World.flush_ok flushed).1 noStop
    have added := (Table.mem_insertAll written.auditLogs).mp hafter
    rw [logs, List.mem_singleton] at added
    rcases added with old | rfl
    · exact (hbefore old).elim
    · exact readable claimed
  have alone : Alone (respondingWith body) (fun e => RecordsSuccess e → check.Readable body)
      (check.service py userId exchangeAccountId adapters) _ {} start :=
    check.alone_service (quiet_respondingWith calls) commits located
  exact (run.of_alone alone).1 e he (isAction_of_records records) records

/-! #### A body that is readable is recorded as a success -/

/-- An account at the exchange of the check, with keys. -/
def sampleWorld (check : BalanceCheck) : World where
  db :=
    { accounts := oneRow
        { sampleAccount check.accountMode with
          exchangeName := check.exchangeName, tradingEnabled := false }
      secrets := oneRow
        { userId := "u", exchangeAccountId := "a", encryptedApiKey := "key"
          encryptedApiSecret := "secret", encryptedPassphrase := some "passphrase" } }

theorem sampleWorld_at (check : BalanceCheck) : check.At "a" check.sampleWorld.db := by
  intro account stored _
  rw [List.mem_singleton.mp stored]

theorem sampleWorld_eligible (check : BalanceCheck) :
    check.Eligible asciiPlatform "u" "a" true check.sampleWorld.db := by
  refine ⟨rfl, ?_, ⟨_, List.mem_singleton_self _, rfl, rfl⟩, _, _, rfl, rfl, rfl⟩
  intro account stored
  rw [List.mem_singleton.mp stored]
  exact ⟨rfl, rfl, rfl⟩

theorem reports_of_readable (recorded : check.RecordsReportedSuccess body)
    (readable : check.Readable body) : check.ReportsSuccess body := by
  obtain ⟨trace, result, last, run⟩ := Prog.exists_complete (respondingWith_answers body)
    (check.service asciiPlatform "u" "a" true).run check.sampleWorld
  have alone : Alone (respondingWith body) (fun _ => True)
      (check.service asciiPlatform "u" "a" true) _ {} check.sampleWorld :=
    check.alone_service (quiet_respondingWith fun _ _ _ _ _ => True.intro)
      (fun _ _ _ _ _ _ _ _ => True.intro) check.sampleWorld_at
  let authenticated (world : World) : Prop := ∃ log ∈ world.db.auditLogs, log.SaysAuthenticated
  have stored : authenticated last :=
    (run.of_alone alone).2 rfl check.sampleWorld_eligible readable
  have fresh : ¬ authenticated check.sampleWorld := fun ⟨log, hlog, _⟩ => List.not_mem_nil hlog
  obtain ⟨e, he, -, before, log, hlog, claimed⟩ := run.exists_establishing fresh stored
  exact recorded asciiPlatform "u" "a" true _ _ _ _ check.sampleWorld_at run e he
    ⟨log, hlog, fun old => before ⟨log, old, claimed⟩, claimed⟩

/-- A check records only successes the exchange reported exactly when the body reports one or
is not readable as a list of balances. -/
theorem recordsReportedSuccess_iff (check : BalanceCheck) (body : Json) :
    check.RecordsReportedSuccess body ↔ (check.Readable body → check.ReportsSuccess body) := by
  constructor
  · exact reports_of_readable
  · intro reports py userId exchangeAccountId adapters start last trace rest located run e he records
    exact reports (readable_of_records located run he records)

/-- OKX refuses the key with code 50111, and the check records `authenticated`. -/
theorem okx_refusal_recorded_as_success :
    ¬ RecordsReportedSuccess .testnetOkx
      (.obj [("code", .str "50111"), ("msg", .str "Invalid OK-ACCESS-KEY"), ("data", .arr [])]) := by
  intro recorded
  have readable : Readable .testnetOkx
      (.obj [("code", .str "50111"), ("msg", .str "Invalid OK-ACCESS-KEY"), ("data", .arr [])]) :=
    fun _ hitem => (List.not_mem_nil hitem).elim
  obtain ⟨fields, hfields, hcode⟩ := reports_of_readable recorded readable
  cases hfields
  have code : Json.str "50111" = .str "0" := Option.some.inj hcode
  exact absurd (Json.str.inj code) (by decide)

end BalanceCheck

end CopyTrading
