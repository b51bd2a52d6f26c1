import CopyTrading.AuditTrail
import CopyTrading.Effects
import CopyTrading.Environment
import CopyTrading.Fallible
import CopyTrading.Phase4
import CopyTrading.SessionRules

/-!
The Phase 4 approval chain over every interleaving of requests: each record names earlier records
of the same user and account, and its amounts stay within theirs. What a stage has read stays in
the log, so it is enough that a stage commits a record justified by rows it has seen.
-/

namespace CopyTrading

open Transaction Transaction.Handler DecimalArith Fallible

/-! ### The chain -/

/-- The entry of a record is the text of a decimal with this value. -/
def AuditLog.Amount (log : AuditLog) (key : String) (value : ℚ) : Prop :=
  ∃ d : Decimal, Json.lookup key log.payload = some (.str (decimalStr d)) ∧ d.toRat = value

/-- The record names another one of the same user and account. -/
structure AuditLog.Names (log : AuditLog) (key : String) (named : AuditLog) : Prop where
  id : Json.lookup key log.payload = some (.str named.id)
  userId : named.userId = log.userId
  exchangeAccountId : named.exchangeAccountId = log.exchangeAccountId

/-- A review is about a successful read-only check, for at most a hundred. -/
structure ReviewSound (earlier : List AuditLog) (log : AuditLog) : Prop where
  check : ∃ check ∈ earlier, check.action = realCheckAction ∧ check.severity = "INFO" ∧
    log.Names "read_only_audit_log_id" check
  amount : ∃ amount, log.Amount "max_notional" amount ∧ 0 < amount ∧ amount ≤ 100

/-- An order window is about a review, and its order costs at most what it and the review allow. -/
def OrderWindowSound (earlier : List AuditLog) (log : AuditLog) : Prop :=
  ∃ review ∈ earlier, review.action = smallFundReviewAction ∧
    log.Names "review_audit_log_id" review ∧
    ∃ quantity price notional reviewed, log.Amount "max_quantity" quantity ∧
      log.Amount "limit_price" price ∧ log.Amount "max_notional" notional ∧
      review.Amount "max_notional" reviewed ∧
      quantity * price ≤ notional ∧ notional ≤ min reviewed 100

/-- A final check is about a review and an order window, for at most what both allow. -/
def FinalCheckSound (earlier : List AuditLog) (log : AuditLog) : Prop :=
  ∃ review ∈ earlier, ∃ window ∈ earlier, review.action = smallFundReviewAction ∧
    window.action = smallFundOrderWindowAction ∧ log.Names "review_audit_log_id" review ∧
    log.Names "order_window_audit_log_id" window ∧
    ∃ amount reviewed notional, log.Amount "max_notional" amount ∧
      review.Amount "max_notional" reviewed ∧ window.Amount "max_notional" notional ∧
      0 < amount ∧ amount ≤ min reviewed (min notional 100)

/-- What the chain asks of a row, given the rows before it. -/
structure Phase4Sound (earlier : List AuditLog) (log : AuditLog) : Prop where
  review : log.action = smallFundReviewAction → ReviewSound earlier log
  orderWindow : log.action = smallFundOrderWindowAction → OrderWindowSound earlier log
  finalCheck : log.action = finalReleaseCheckAction → FinalCheckSound earlier log

/-- Every row of the log is as the chain asks. -/
def Phase4Chain (logs : List AuditLog) : Prop :=
  ∀ earlier log later, logs = earlier ++ log :: later → Phase4Sound earlier log

theorem Phase4Sound.mono {earlier more : List AuditLog} {log : AuditLog}
    (sound : Phase4Sound earlier log) (sub : earlier ⊆ more) : Phase4Sound more log where
  review is := by
    obtain ⟨⟨check, hcheck, rest⟩, amount⟩ := sound.review is
    exact ⟨⟨check, sub hcheck, rest⟩, amount⟩
  orderWindow is := by
    obtain ⟨review, hreview, rest⟩ := sound.orderWindow is
    exact ⟨review, sub hreview, rest⟩
  finalCheck is := by
    obtain ⟨review, hreview, window, hwindow, rest⟩ := sound.finalCheck is
    exact ⟨review, sub hreview, window, sub hwindow, rest⟩

theorem Phase4Chain.nil : Phase4Chain [] := fun earlier log later split => by simp at split

/-- Rows that are each sound after the log so far extend the chain. -/
theorem Phase4Chain.append {logs added : List AuditLog} (chain : Phase4Chain logs)
    (sound : ∀ log ∈ added, Phase4Sound logs log) : Phase4Chain (logs ++ added) := by
  intro earlier log later split
  rcases List.append_eq_append_iff.mp split with ⟨middle, rfl, rest⟩ | ⟨middle, rfl, rest⟩
  · have mem : log ∈ added := by
      rw [rest]
      simp
    exact (sound log mem).mono (List.subset_append_left _ _)
  · cases middle with
    | nil =>
      rw [List.nil_append] at rest
      have mem : log ∈ added := by
        rw [← rest]
        simp
      have sub : earlier ++ [] ⊆ earlier := by simp
      exact (sound log mem).mono sub
    | cons first middle =>
      obtain ⟨rfl, rfl⟩ := List.cons.inj rest
      exact chain earlier log middle rfl

theorem Phase4Chain.sound {logs : List AuditLog} {log : AuditLog} (chain : Phase4Chain logs)
    (stored : log ∈ logs) : Phase4Sound logs log := by
  obtain ⟨earlier, later, rfl⟩ := List.append_of_mem stored
  exact (chain earlier log later rfl).mono (List.subset_append_left _ _)

/-! ### What the stages check -/

section

variable {py : Platform} {multiply : Decimal → Decimal → Decimal} {role : UserRole}
  {account : ExchangeAccount} {riskSettings : Option RiskSetting}
  {secretMetadata : Option ApiKeySecret} {readOnlyAudit reviewAudit windowAudit : Option AuditLog}

/-- An amount read from a record that holds one. -/
theorem le_of_not_exceeded (solid : py.SolidNumerals) {log : AuditLog} {key : String} {bound : ℚ}
    {value : Decimal} (amount : log.Amount key bound)
    (within : limitExceeded value (auditDecimal py key (some log)) = .ok false) :
    value.toRat ≤ bound := by
  obtain ⟨d, held, rfl⟩ := amount
  obtain ⟨d', read, same⟩ := DecimalLiteral.read_decimalStr solid d
  have audited : auditDecimal py key (some log) = some (.finite d') := by
    unfold auditDecimal
    rw [Option.bind_some, held]
    exact read
  rw [audited] at within
  have notLess : ¬d' < value := by simpa [limitExceeded, DecimalLiteral.exceeded] using within
  exact same ▸ Decimal.not_lt_iff.mp notLess

theorem review_passed {payload : Phase4SmallFundReviewRequest}
    (passed : reviewBlockedReasons role account riskSettings secretMetadata readOnlyAudit payload =
      []) :
    readOnlyAudit.isSome ∧ 0 < payload.maxNotional.toRat ∧ payload.maxNotional.toRat ≤ 100 := by
  simp only [reviewBlockedReasons, phase4KeyReasons, List.append_eq_nil_iff, reasonIf_eq_nil,
    decide_eq_false_iff_not, Decimal.lt_def, Decimal.le_def, Decimal.toRat_ofInt,
    phase4SmallFundMaxNotionalCap] at passed
  obtain ⟨⟨⟨⟨-, -, audited⟩, positive⟩, capped⟩, -⟩ := passed
  refine ⟨?_, ?_, ?_⟩
  · simpa using audited
  · simpa using positive
  · simpa using capped

theorem orderWindow_passed {payload : Phase4SmallFundOrderWindowRequest}
    (passed : orderWindowBlockedReasons py multiply role account riskSettings secretMetadata
      readOnlyAudit reviewAudit payload = .ok []) :
    ∃ review, reviewAudit = some review ∧
      limitExceeded payload.maxNotional (auditDecimal py "max_notional" (some review)) = .ok false ∧
      payload.maxNotional.toRat ≤ 100 ∧
      (multiply payload.maxQuantity payload.limitPrice).toRat ≤ payload.maxNotional.toRat := by
  obtain ⟨exceeded, compared, listed⟩ := bind_eq_ok.mp passed
  have none := Except.ok.inj listed
  simp only [List.append_eq_nil_iff, reasonIf_eq_nil, decide_eq_false_iff_not, Decimal.lt_def,
    Decimal.le_def, Decimal.toRat_ofInt, phase4SmallFundMaxNotionalCap] at none
  obtain ⟨⟨⟨⟨⟨⟨⟨⟨⟨⟨⟨-, reviewed⟩, -⟩, -⟩, quantity⟩, price⟩, -⟩, capped⟩, within⟩, product⟩, -⟩, -⟩ := none
  obtain ⟨review, rfl⟩ : ∃ review, reviewAudit = some review :=
    Option.isSome_iff_exists.mp (by simpa using reviewed)
  refine ⟨review, rfl, within ▸ compared, ?_, ?_⟩
  · simpa using capped
  · have positive : (0 : ℚ) < payload.maxQuantity.toRat ∧ (0 : ℚ) < payload.limitPrice.toRat := by
      constructor
      · simpa using quantity
      · simpa using price
    by_contra above
    exact product ⟨by simpa using positive.1, by simpa using positive.2, not_le.mp above⟩

theorem finalCheck_passed {payload : Phase4FinalReleaseCheckRequest}
    (passed : finalCheckBlockedReasons py role account riskSettings reviewAudit windowAudit
      payload = .ok []) :
    ∃ review window, reviewAudit = some review ∧ windowAudit = some window ∧
      limitExceeded payload.maxNotional (auditDecimal py "max_notional" (some review)) = .ok false ∧
      limitExceeded payload.maxNotional (auditDecimal py "max_notional" (some window)) = .ok false ∧
      0 < payload.maxNotional.toRat ∧ payload.maxNotional.toRat ≤ 100 := by
  obtain ⟨overReview, comparedReview, passed⟩ := bind_eq_ok.mp passed
  obtain ⟨overWindow, comparedWindow, listed⟩ := bind_eq_ok.mp passed
  have none := Except.ok.inj listed
  simp only [List.append_eq_nil_iff, reasonIf_eq_nil, decide_eq_false_iff_not, Decimal.lt_def,
    Decimal.le_def, Decimal.toRat_ofInt, phase4SmallFundMaxNotionalCap] at none
  obtain ⟨⟨⟨⟨⟨⟨⟨⟨⟨⟨⟨⟨⟨⟨⟨-, reviewed⟩, windowed⟩, -⟩, -⟩, positive⟩, capped⟩, withinReview⟩,
    withinWindow⟩, -⟩, -⟩, -⟩, -⟩, -⟩, -⟩, -⟩ := none
  obtain ⟨review, rfl⟩ : ∃ review, reviewAudit = some review :=
    Option.isSome_iff_exists.mp (by simpa using reviewed)
  obtain ⟨window, rfl⟩ : ∃ window, windowAudit = some window :=
    Option.isSome_iff_exists.mp (by simpa using windowed)
  refine ⟨review, window, rfl, rfl, withinReview ▸ comparedReview, withinWindow ▸ comparedWindow,
    ?_, ?_⟩
  · simpa using positive
  · simpa using capped

end

/-! ### Records justified by rows a request has seen -/

section

variable (py : Platform)

/-- The checks a stage makes against the rows it has seen. -/
structure Phase4Justified (seen : List AuditLog) (log : AuditLog) : Prop where
  review : log.action = smallFundReviewAction → ReviewSound seen log
  orderWindow : log.action = smallFundOrderWindowAction →
    ∃ review ∈ seen, review.action = smallFundReviewAction ∧
      log.Names "review_audit_log_id" review ∧
      ∃ quantity price, ∃ notional : Decimal, log.Amount "max_quantity" quantity ∧
        log.Amount "limit_price" price ∧ log.Amount "max_notional" notional.toRat ∧
        limitExceeded notional (auditDecimal py "max_notional" (some review)) = .ok false ∧
        quantity * price ≤ notional.toRat ∧ notional.toRat ≤ 100
  finalCheck : log.action = finalReleaseCheckAction →
    ∃ review ∈ seen, ∃ window ∈ seen, review.action = smallFundReviewAction ∧
      window.action = smallFundOrderWindowAction ∧ log.Names "review_audit_log_id" review ∧
      log.Names "order_window_audit_log_id" window ∧
      ∃ amount : Decimal, log.Amount "max_notional" amount.toRat ∧
        limitExceeded amount (auditDecimal py "max_notional" (some review)) = .ok false ∧
        limitExceeded amount (auditDecimal py "max_notional" (some window)) = .ok false ∧
        0 < amount.toRat ∧ amount.toRat ≤ 100

/-- No unit of work but one that only logs. -/
structure Work.OnlyLogs (work : Work) : Prop where
  accounts : work.accounts = []
  accountChanges : ∀ x ∈ work.accountChanges, x.change = {}
  riskSettings : work.riskSettings = []
  riskSettingChanges : work.riskSettingChanges = []
  executions : work.executions = []
  executionChanges : work.executionChanges = []

/-- A client has seen rows of the log, and commits audit rows they justify. One that records
commits nothing else. -/
def auditProtocol (records : Bool) : Protocol backend where
  Phase := List AuditLog
  Move seen e seen' :=
    match e with
    | .read world => ∀ log ∈ seen', log ∈ seen ∨ log ∈ world.db.auditLogs
    | .commit work _ _ => seen' = seen ∧ LogsOnly (Phase4Justified py seen) work ∧
        (records = true → work.OnlyLogs)
    | .abort .. => seen' = seen
    | .call .. => seen' = seen

end

section

variable {py : Platform}

/-- What is justified by rows of a sound log may be added to it. -/
theorem Phase4Justified.sound (solid : py.SolidNumerals) {seen logs : List AuditLog} {log : AuditLog}
    (justified : Phase4Justified py seen log) (chain : Phase4Chain logs) (sub : seen ⊆ logs) :
    Phase4Sound logs log where
  review is := by
    obtain ⟨⟨check, hcheck, rest⟩, amount⟩ := justified.review is
    exact ⟨⟨check, sub hcheck, rest⟩, amount⟩
  orderWindow is := by
    obtain ⟨review, hreview, reviewIs, names, quantity, price, notional, hquantity, hprice,
      hnotional, within, product, capped⟩ := justified.orderWindow is
    obtain ⟨reviewed, hreviewed, -, -⟩ := ((chain.sound (sub hreview)).review reviewIs).amount
    exact ⟨review, sub hreview, reviewIs, names, quantity, price, notional.toRat, reviewed,
      hquantity, hprice, hnotional, hreviewed, product,
      le_min (le_of_not_exceeded solid hreviewed within) capped⟩
  finalCheck is := by
    obtain ⟨review, hreview, window, hwindow, reviewIs, windowIs, namesReview, namesWindow, amount,
      hamount, withinReview, withinWindow, positive, capped⟩ := justified.finalCheck is
    obtain ⟨reviewed, hreviewed, -, -⟩ := ((chain.sound (sub hreview)).review reviewIs).amount
    obtain ⟨-, -, -, -, -, -, notional, -, -, -, hnotional, -⟩ :=
      (chain.sound (sub hwindow)).orderWindow windowIs
    exact ⟨review, sub hreview, window, sub hwindow, reviewIs, windowIs, namesReview, namesWindow,
      amount.toRat, reviewed, notional, hamount, hreviewed, hnotional, positive,
      le_min (le_of_not_exceeded solid hreviewed withinReview)
        (le_min (le_of_not_exceeded solid hnotional withinWindow) capped)⟩

/-- A row that is no record of a stage. -/
def AuditLog.Unstaged (log : AuditLog) : Prop :=
  log.action ≠ smallFundReviewAction ∧ log.action ≠ smallFundOrderWindowAction ∧
    log.action ≠ finalReleaseCheckAction

/-- Such a row needs no justification. -/
theorem justified_of_unstaged {seen : List AuditLog} {log : AuditLog} (other : log.Unstaged) :
    Phase4Justified py seen log where
  review is := (other.1 is).elim
  orderWindow is := (other.2.1 is).elim
  finalCheck is := (other.2.2 is).elim

/-- A service that logs no record of a stage follows the protocol. -/
theorem Logs.follows {α : Type} {service : Service α} {seen : List AuditLog}
    (logs : Logs AuditLog.Unstaged service) :
    Follows (auditProtocol py false) semantics service (fun _ _ _ => True) {} seen := by
  have commits := logs {} ⟨rfl, fun _ h => (List.not_mem_nil h).elim⟩
  have follows : (service {}).Follows (auditProtocol py false) semantics
      (fun outcome _ => LogsOnly AuditLog.Unstaged outcome.2.work) seen := by
    refine Prog.Commits.follows commits ?_ ?_ ?_ ?_
    · exact fun world log hlog => .inl hlog
    · exact fun work before after each =>
        ⟨rfl, ⟨each.stop, fun log hlog => justified_of_unstaged (each.logs log hlog)⟩, nofun⟩
    · exact fun _ _ _ => rfl
    · exact fun _ _ _ _ => rfl
  exact Prog.Follows.mono follows fun _ _ _ => True.intro

/-! ### The recording operations -/

variable {α : Type} {seen : List AuditLog} {s : Session}

/-- A stage that has only looked so far records a justified row. -/
theorem follows_recordPhase4Audit {userId accountId action : String} {payload : List (String × Json)}
    (looked : s.work = {}) (clean : s.executions = []) (cleanAccounts : ∀ x ∈ s.accounts, x.change = {})
    (justified : ∀ id createdAt, Phase4Justified py seen
      { id, userId, exchangeAccountId := some accountId, action, severity := "CRITICAL", payload
        createdAt }) :
    Follows (auditProtocol py true) semantics (recordPhase4Audit userId accountId action payload)
      (fun _ _ _ => True) s seen := by
  unfold recordPhase4Audit
  refine follows_ask_bind.mpr fun _ id _ _ => ⟨seen, rfl, ?_⟩
  refine follows_ask_bind.mpr fun _ createdAt _ _ => ⟨seen, rfl, ?_⟩
  refine follows_add_bind.mpr ?_
  refine follows_commit_bind.mpr ⟨fun before after _ => ⟨seen, ⟨rfl, ?_, fun _ => ?_⟩, True.intro⟩,
    fun _ _ _ => ⟨seen, rfl, True.intro⟩⟩
  · constructor
    · simp only [Session.pending, looked]
    · intro log hlog
      simp only [Session.pending, looked, List.nil_append, List.mem_singleton] at hlog
      rw [hlog]
      exact justified id createdAt
  · constructor <;> simp only [Session.pending, looked]
    · exact cleanAccounts
    · exact clean

/-- A session that has loaded rows and changed nothing. -/
structure Session.Looking (s : Session) : Prop where
  work : s.work = {}
  executions : s.executions = []
  accounts : ∀ x ∈ s.accounts, x.change = {}

/-- A query of the log: what it selects has been seen. -/
theorem follows_queryLogs_bind {records : Bool} {β : Type} {select : Db → β} {next : β → Service α}
    {post : Except Exc α → Session → List AuditLog → Prop}
    (rest : ∀ (db : Db) (seen' : List AuditLog), seen ⊆ seen' → db.auditLogs.rows ⊆ seen' →
      Follows (auditProtocol py records) semantics (next (select db)) post s seen') :
    Follows (auditProtocol py records) semantics (Session.query select >>= next) post s seen :=
  follows_query_bind.mpr fun world => ⟨seen ++ world.db.auditLogs.rows,
    fun _ hlog => List.mem_append.mp hlog,
    rest world.db _ (List.subset_append_left _ _) (List.subset_append_right _ _)⟩

/-- The account of the user is looked up, or the request ends. -/
theorem follows_withAccount {userId accountId : String} {next : ExchangeAccount → Service α}
    (rest : ∀ (account : ExchangeAccount) (s : Session), s.Looking → s.secrets = [] →
      Follows (auditProtocol py true) semantics (next account) (fun _ _ _ => True) s seen) :
    Follows (auditProtocol py true) semantics
      (do
        match ← getOwnedAccount userId accountId with
        | none => throw (.valueError "account not found")
        | some account => next account) (fun _ _ _ => True) {} seen := by
  have stay {world : World} : (auditProtocol py true).Move seen (.read world) seen :=
    fun _ hlog => .inl hlog
  refine follows_getOwnedAccount_bind rfl (fun world => ⟨seen, stay, True.intro⟩)
    fun world account _ _ _ => ⟨seen, stay, rest account _ ⟨rfl, rfl, ?_⟩ rfl⟩
  intro x hx
  rw [List.mem_singleton.mp hx]

theorem follows_keyMetadata_bind {userId accountId : String}
    {next : Option ApiKeySecret → Service α} {post : Except Exc α → Session → List AuditLog → Prop}
    (looking : s.Looking) (held : s.secrets = [])
    (rest : ∀ (secret : Option ApiKeySecret) (s' : Session), s'.Looking →
      Follows (auditProtocol py true) semantics (next secret) post s' seen) :
    Follows (auditProtocol py true) semantics (getApiKeySecretMetadata userId accountId >>= next)
      post s seen := by
  have stay {world : World} : (auditProtocol py true).Move seen (.read world) seen :=
    fun _ hlog => .inl hlog
  refine follows_getApiKeySecretMetadata_bind held (fun world => ⟨seen, stay, rest none s looking⟩)
    fun world secret _ _ _ => ⟨seen, stay, rest (some secret) _ ?_⟩
  exact ⟨looking.work, looking.executions, looking.accounts⟩

/-- What the latest record with an action is. -/
theorem latestAudit_some {userId accountId action severity : String} {db : Db} {log : AuditLog}
    (found : latestAudit userId accountId action severity db = some log) :
    log ∈ db.auditLogs.rows ∧ log.userId = userId ∧ log.exchangeAccountId = some accountId ∧
      log.action = action ∧ log.severity = severity := by
  have mem := List.mem_filter.mp (mem_of_latestOf found)
  simpa [and_assoc] using mem

theorem stageActions_apart : smallFundReviewAction ≠ smallFundOrderWindowAction ∧
    smallFundReviewAction ≠ finalReleaseCheckAction ∧
    smallFundOrderWindowAction ≠ finalReleaseCheckAction := by decide

theorem follows_smallFundReview {userId accountId : String} {role : UserRole}
    {payload : Phase4SmallFundReviewRequest} :
    Follows (auditProtocol py true) semantics
      (recordPhase4SmallFundReview userId role accountId payload) (fun _ _ _ => True) {} seen := by
  refine follows_withAccount fun account s looking held => ?_
  refine follows_queryLogs_bind fun _ seen₁ _ _ => ?_
  refine follows_keyMetadata_bind looking held fun secretMetadata s' looking' => ?_
  refine follows_queryLogs_bind fun db seen₂ _ logged => ?_
  refine follows_raiseIf_bind (fun _ => True.intro) fun passed => ?_
  obtain ⟨audited, positive, capped⟩ := review_passed (not_not.mp passed)
  obtain ⟨check, found⟩ := Option.isSome_iff_exists.mp audited
  obtain ⟨stored, user, ofAccount, action, severity⟩ := latestAudit_some found
  refine follows_recordPhase4Audit looking'.work looking'.executions looking'.accounts
    fun id createdAt => ⟨fun _ => ⟨⟨check, logged stored, action, severity, ?_, user, ofAccount⟩,
      ⟨_, ⟨payload.maxNotional, rfl, rfl⟩, positive, capped⟩⟩, ?_, ?_⟩
  · simp [reviewPayload, Json.lookup, auditId, found]
  · exact fun is => (stageActions_apart.1 is).elim
  · exact fun is => (stageActions_apart.2.1 is).elim

theorem follows_orderWindow {multiply : Decimal → Decimal → Decimal} {userId accountId : String}
    {role : UserRole} {payload : Phase4SmallFundOrderWindowRequest}
    (exactProduct : (multiply payload.maxQuantity payload.limitPrice).toRat =
      payload.maxQuantity.toRat * payload.limitPrice.toRat) :
    Follows (auditProtocol py true) semantics
      (recordPhase4SmallFundOrderWindowApproval py multiply userId role accountId payload)
      (fun _ _ _ => True) {} seen := by
  refine follows_withAccount fun account s looking held => ?_
  refine follows_queryLogs_bind fun _ seen₁ _ _ => ?_
  refine follows_keyMetadata_bind looking held fun secretMetadata s' looking' => ?_
  refine follows_queryLogs_bind fun _ seen₂ _ _ => ?_
  refine follows_queryLogs_bind fun db seen₃ _ logged => ?_
  refine follows_ofExcept_bind (fun _ _ => True.intro) fun reasons listed => ?_
  refine follows_raiseIf_bind (fun _ => True.intro) fun passed => ?_
  obtain ⟨review, found, within, capped, product⟩ := orderWindow_passed (not_not.mp passed ▸ listed)
  obtain ⟨stored, user, ofAccount, action, -⟩ := latestAudit_some found
  rw [exactProduct] at product
  refine follows_recordPhase4Audit looking'.work looking'.executions looking'.accounts
    fun id createdAt => ⟨?_, fun _ => ⟨review, logged stored, action, ⟨?_, user, ofAccount⟩, _, _,
      payload.maxNotional, ⟨payload.maxQuantity, rfl, rfl⟩, ⟨payload.limitPrice, rfl, rfl⟩,
      ⟨payload.maxNotional, rfl, rfl⟩, within, product, capped⟩, ?_⟩
  · exact fun is => (stageActions_apart.1 is.symm).elim
  · simp [orderWindowPayload, Json.lookup, auditId, found]
  · exact fun is => (stageActions_apart.2.2 is).elim

theorem follows_finalReleaseCheck {userId accountId : String} {role : UserRole}
    {payload : Phase4FinalReleaseCheckRequest} :
    Follows (auditProtocol py true) semantics
      (recordPhase4FinalReleaseCheck py userId role accountId payload) (fun _ _ _ => True) {}
      seen := by
  refine follows_withAccount fun account s looking held => ?_
  refine follows_queryLogs_bind fun _ seen₁ _ _ => ?_
  refine follows_queryLogs_bind fun db seen₂ _ logged => ?_
  refine follows_queryLogs_bind fun db' seen₃ kept logged' => ?_
  refine follows_ofExcept_bind (fun _ _ => True.intro) fun reasons listed => ?_
  refine follows_raiseIf_bind (fun _ => True.intro) fun passed => ?_
  obtain ⟨review, window, found, found', withinReview, withinWindow, positive, capped⟩ :=
    finalCheck_passed (not_not.mp passed ▸ listed)
  obtain ⟨stored, user, ofAccount, action, -⟩ := latestAudit_some found
  obtain ⟨stored', user', ofAccount', action', -⟩ := latestAudit_some found'
  refine follows_recordPhase4Audit looking.work looking.executions looking.accounts
    fun id createdAt => ⟨?_, ?_, fun _ => ⟨review, kept (logged stored), window, logged' stored',
      action, action', ⟨?_, user, ofAccount⟩, ⟨?_, user', ofAccount'⟩, payload.maxNotional,
      ⟨payload.maxNotional, rfl, rfl⟩, withinReview, withinWindow, positive, capped⟩⟩
  · exact fun is => (stageActions_apart.2.1 is.symm).elim
  · exact fun is => (stageActions_apart.2.2 is.symm).elim
  · simp [finalCheckPayload, Json.lookup, auditId, found]
  · simp [finalCheckPayload, Json.lookup, auditId, found']

/-! ### Every request -/

/-- The product of an order window's quantity and price is exact. -/
def Phase4Request.Exact (multiply : Decimal → Decimal → Decimal) : Phase4Request → Prop
  | .orderWindow _ _ _ payload =>
      (multiply payload.maxQuantity payload.limitPrice).toRat =
        payload.maxQuantity.toRat * payload.limitPrice.toRat
  | _ => True

theorem discard_eq {β : Type} (service : Service β) :
    (discard service : Service Unit) = service >>= fun _ => pure () := by
  rw [← discard_bind service pure, bind_pure]

theorem Logs.discard {Ok : AuditLog → Prop} {β : Type} {service : Service β}
    (logs : Logs Ok service) : Logs Ok (discard service) := by
  rw [discard_eq]
  exact Stays.bind logs fun _ => .pure _

theorem follows_discard {records : Bool} {β : Type} {service : Service β}
    (follows : Follows (auditProtocol py records) semantics service (fun _ _ _ => True) s seen) :
    Follows (auditProtocol py records) semantics (discard service) (fun _ _ _ => True) s seen := by
  rw [discard_eq]
  exact follows.bind (fun _ _ _ _ => True.intro) fun _ _ _ _ => True.intro

/-- The rows of the read-only checks are no records of a stage. -/
theorem checkActions_apart {log : AuditLog}
    (is : log.action = testnetCheckAction ∨ log.action = realCheckAction) : log.Unstaged := by
  unfold AuditLog.Unstaged
  rcases is with is | is
  · rw [is]
    decide
  · rw [is]
    decide

theorem follows_serve {multiply : Decimal → Decimal → Decimal} {request : Phase4Request}
    (exactProduct : request.Exact multiply) :
    Follows (auditProtocol py request.records) semantics (request.serve py multiply)
      (fun _ _ _ => True) {} seen := by
  cases request with
  | realReadOnlyCheck userId accountId =>
    exact (logs_runRealReadOnlyCheck fun _ is => checkActions_apart (.inr is)).discard.follows
  | testnetReadOnlyCheck userId accountId enabled =>
    exact (logs_runTestnetReadOnlyCheck fun _ is => checkActions_apart (.inl is)).discard.follows
  | smallFundReview userId role accountId payload => exact follows_discard follows_smallFundReview
  | orderWindow userId role accountId payload => exact follows_discard (follows_orderWindow exactProduct)
  | finalReleaseCheck userId role accountId payload =>
    exact follows_discard follows_finalReleaseCheck
  | addAccount userId payload => exact logs_addAccount.discard.follows
  | patchAccount userId accountId payload => exact logs_patchAccount.discard.follows
  | removeAccount userId accountId => exact logs_removeAccount.follows
  | readRiskSettings userId accountId => exact logs_readRiskSettings.discard.follows
  | patchRiskSettings userId accountId payload => exact logs_patchRiskSettings.discard.follows

end

/-! ### Every run -/

/-- The step leaves accounts, risk settings and orders as they are. -/
structure RowsUntouched (e : Event backend) : Prop where
  accounts : e.after.db.accounts = e.before.db.accounts
  riskSettings : e.after.db.riskSettings = e.before.db.riskSettings
  executions : e.after.db.executions = e.before.db.executions

theorem writeBack_of_updated {ρ : Type} [Row ρ] {table : Table ρ} {dirty : List (Instance ρ)}
    (same : ∀ row, Table.updated dirty row = row) : table.writeBack dirty = table := by
  obtain ⟨rows, distinct⟩ := table
  have kept : rows.map (Table.updated dirty) = rows := by
    rw [List.map_congr_left fun row _ => same row, List.map_id']
  simp [Table.writeBack, Table.rewrite, kept]

theorem Work.OnlyLogs.untouched {work : Work} {before after : World} (only : work.OnlyLogs)
    (written : work.Written before.db after.db) : RowsUntouched (.commit work before after) := by
  have accounts := written.accounts
  have riskSettings := written.riskSettings
  have executions := written.executions
  rw [only.accounts, writeBack_of_updated (updated_accounts only.accountChanges),
    Table.insertAll_nil] at accounts
  rw [only.riskSettings, only.riskSettingChanges, Table.writeBack_nil, Table.insertAll_nil]
    at riskSettings
  rw [only.executions, only.executionChanges, Table.writeBack_nil, Table.insertAll_nil]
    at executions
  exact ⟨(Option.some.inj accounts).symm, (Option.some.inj riskSettings).symm,
    (Option.some.inj executions).symm⟩

theorem RowsUntouched.of_db {e : Event backend} (same : e.after.db = e.before.db) :
    RowsUntouched e :=
  ⟨congrArg Db.accounts same, congrArg Db.riskSettings same, congrArg Db.executions same⟩

theorem db_of_answers {before after : World} {query : Query} {answer : query.Answer}
    (answered : answers before query answer after) : after.db = before.db := by
  rcases answered with rfl | ⟨-, -, -, -, rfl⟩
  · rfl
  · rfl

/-- The log is a chain, holds all that is seen, and recordings have left the rows alone. -/
structure Phase4Inv {ι : Type} (records : ι → Bool) (trace : Trace backend ι)
    (seen : ι → List AuditLog) (world : World) : Prop where
  chain : Phase4Chain world.db.auditLogs.rows
  logged : ∀ i, seen i ⊆ world.db.auditLogs.rows
  untouched : ∀ i e, (i, e) ∈ trace → records i = true → RowsUntouched e

theorem Phase4Inv.step {ι : Type} [DecidableEq ι] {py : Platform} (solid : py.SolidNumerals)
    {records : ι → Bool} {trace : Trace backend ι} {seen : ι → List AuditLog} {i : ι}
    {e : Event backend} {seen' : List AuditLog} (inv : Phase4Inv records trace seen e.before)
    (move : (auditProtocol py (records i)).Move (seen i) e seen') (sound : e.Sound semantics) :
    Phase4Inv records (trace ++ [(i, e)]) (Function.update seen i seen') e.after := by
  have untouchedWith (last : records i = true → RowsUntouched e) :
      ∀ j e', (j, e') ∈ trace ++ [(i, e)] → records j = true → RowsUntouched e' := by
    intro j e' mem recording
    rcases List.mem_append.mp mem with old | new
    · exact inv.untouched j e' old recording
    · cases List.mem_singleton.mp new
      exact last recording
  have seenWith {rows : List AuditLog} (grown : e.before.db.auditLogs.rows ⊆ rows)
      (mine : seen' ⊆ rows) : ∀ j, Function.update seen i seen' j ⊆ rows := by
    intro j
    by_cases same : j = i
    · subst same
      rw [Function.update_self]
      exact mine
    · rw [Function.update_of_ne same]
      exact List.Subset.trans (inv.logged j) grown
  have still (same : e.after.db = e.before.db) (kept : seen' ⊆ e.before.db.auditLogs.rows) :
      Phase4Inv records (trace ++ [(i, e)]) (Function.update seen i seen') e.after :=
    ⟨same ▸ inv.chain, same ▸ seenWith (List.Subset.refl _) kept,
      untouchedWith fun _ => .of_db same⟩
  cases e with
  | read world =>
    refine still rfl fun log hlog => ?_
    exact (move log hlog).elim (fun old => inv.logged i old) id
  | abort work world fault => exact still rfl (move ▸ inv.logged i)
  | call query answer before after =>
    have answered : answers before query answer after := sound
    exact still (db_of_answers answered) (move ▸ inv.logged i)
  | commit work before after =>
    obtain ⟨rfl, each, only⟩ := move
    have written := Work.written_of_flush (World.flush_ok sound).1 each.stop
    have rows := Table.rows_insertAll written.auditLogs
    refine ⟨?_, ?_, untouchedWith fun recording => (only recording).untouched written⟩
    · change Phase4Chain after.db.auditLogs.rows
      rw [rows]
      exact inv.chain.append fun log hlog =>
        (each.logs log hlog).sound solid inv.chain (inv.logged i)
    · change ∀ j, _ ⊆ after.db.auditLogs.rows
      rw [rows]
      exact seenWith (List.subset_append_left _ _)
        (List.Subset.trans (inv.logged i) (List.subset_append_left _ _))

/-- In every interleaving of checks, records, account and risk-setting requests the log stays a
chain, and no step of a recording operation changes an account, a risk setting or an order. -/
theorem phase4_chain {ι : Type} [DecidableEq ι] {py : Platform} (solid : py.SolidNumerals)
    (multiply : Decimal → Decimal → Decimal) (request : ι → Phase4Request)
    (exactProducts : ∀ i, (request i).Exact multiply) {w : World}
    (chain : Phase4Chain w.db.auditLogs.rows) {trace : Trace backend ι}
    {c : Config backend fun _ : ι => Except Exc Unit × Session}
    (run : Config.Run semantics ⟨w, fun i => ((request i).serve py multiply).run⟩ trace c) :
    Phase4Chain c.store.db.auditLogs.rows ∧
      ∀ i e, (i, e) ∈ trace → (request i).records = true → RowsUntouched e := by
  have follows (i : ι) : Prog.Follows (auditProtocol py (request i).records) semantics
      ((request i).serve py multiply).run (fun _ _ => True) [] := follows_serve (exactProducts i)
  obtain ⟨phase, abstract, -⟩ := run.tracked follows
  have inv : Phase4Inv (fun i => (request i).records) trace phase c.store :=
    abstract.invariant (Phase4Inv fun i => (request i).records)
      ⟨chain, fun _ => List.nil_subset _, fun _ _ mem => (List.not_mem_nil mem).elim⟩
      fun _ _ _ _ _ inv move sound => inv.step solid move sound
  exact ⟨inv.chain, inv.untouched⟩

/-! ### A chain recorded -/

theorem asciiPlatform_solidNumerals : asciiPlatform.SolidNumerals := by
  intro c numeral
  refine decide_eq_false ?_
  rintro rfl
  rcases numeral with digit | mark
  · exact absurd digit (by decide)
  · exact absurd mark (by decide)

def realAccount : ExchangeAccount :=
  { sampleAccount .real with exchangeName := .okx, tradingEnabled := false }

/-- A read-only check of the account has succeeded. -/
def checkedWorld : World :=
  { db :=
      { accounts := oneRow realAccount, riskSettings := oneRow (defaultRiskSetting "u" "a")
        secrets := oneRow ⟨"u", "a", "key", "secret", some "passphrase"⟩
        auditLogs := oneRow (authenticationLog "u" "a"
          { action := realCheckAction, exchangeName := .okx, authenticated := true } "check" 0) } }

def approvals : Fin 3 → Phase4Request
  | 0 => .smallFundReview "u" .superAdmin "a" ⟨.ofInt 50, phase4SmallFundReviewAck⟩
  | 1 => .orderWindow "u" .superAdmin "a"
      ⟨"BTC-USDT", .buy, .ofInt 1, .ofInt 40, .ofInt 45, 5, phase4SmallFundOrderWindowAck⟩
  | 2 => .finalReleaseCheck "u" .superAdmin "a"
      ⟨.ofInt 40, true, true, true, true, true, true, phase4FinalReleaseCheckAck⟩

/-- One request after the other. -/
def approvalsServed : Trace backend (Fin 3) ×
    Config backend fun _ : Fin 3 => Except Exc Unit × Session :=
  Config.replay semantics (environment ⟨true, .empty⟩) 0
    (List.replicate 10 0 ++ List.replicate 10 1 ++ List.replicate 10 2)
    ⟨checkedWorld, fun i => ((approvals i).serve asciiPlatform decimalMul).run⟩

/-- All three stages are recorded, and the log is a chain. -/
theorem phase4_chain_approvals :
    approvalsServed.2.store.db.auditLogs.rows.map AuditLog.action =
      [realCheckAction, smallFundReviewAction, smallFundOrderWindowAction,
        finalReleaseCheckAction] ∧
    Phase4Chain approvalsServed.2.store.db.auditLogs.rows := by
  constructor
  · decide +kernel
  · have exactProducts : ∀ i, (approvals i).Exact decimalMul := by
      intro i
      match i with
      | 0 => trivial
      | 1 =>
        change (decimalMul (.ofInt 1) (.ofInt 40)).toRat =
          (Decimal.ofInt 1).toRat * (Decimal.ofInt 40).toRat
        decide +kernel
      | 2 => trivial
    have chain : Phase4Chain checkedWorld.db.auditLogs.rows := by
      refine Phase4Chain.nil.append fun log hlog => ?_
      obtain ⟨review, window, final⟩ :=
        checkActions_apart (.inr (congrArg AuditLog.action (List.mem_singleton.mp hlog)))
      exact ⟨fun is => (review is).elim, fun is => (window is).elim, fun is => (final is).elim⟩
    exact (phase4_chain asciiPlatform_solidNumerals decimalMul approvals exactProducts chain
      (Config.replay_reaches (environment_allowed ⟨true, .empty⟩) _ 0 _)).1

end CopyTrading
