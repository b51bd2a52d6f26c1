import CopyTrading.Environment
import CopyTrading.Observability.ReconciliationWorker

/-!
What one run of the reconciliation worker adds: the audit row, the event and the notifications
of one report, and nothing where there is no report.
-/

namespace CopyTrading

open ObservabilitySession

/-! ### The sanitizer -/

/-- Lower-casing text of lower-case letters and underscores changes nothing. -/
def Platform.LowerKeeps (py : Platform) : Prop :=
  ∀ text : String, (∀ c ∈ text.toList, c.isLower ∨ c = '_') → py.lower text = text

section

variable {py : Platform}

theorem isSensitiveNotificationKey_of_plain (lower : py.LowerKeeps) {key : String}
    (plain : ∀ c ∈ key.toList, c.isLower ∨ c = '_')
    (clean : ∀ fragment ∈ sensitivePayloadKeyFragments, ¬fragment.toList <:+: key.toList) :
    isSensitiveNotificationKey py key = false := by
  unfold isSensitiveNotificationKey
  rw [lower key plain]
  simpa using clean

/-- The keys of the payloads of a report. -/
def reconciliationPayloadKeys : List String :=
  ["user_id", "exchange_account_id", "status", "severity", "difference_count", "auto_fix_allowed",
    "differences", "symbol", "exchange_quantity", "database_quantity", "target_quantity",
    "exchange_database_delta", "exchange_target_delta", "database_target_delta", "reasons"]

theorem isSensitiveNotificationKey_of_reconciliation (lower : py.LowerKeeps) {key : String}
    (known : key ∈ reconciliationPayloadKeys) : isSensitiveNotificationKey py key = false := by
  have plain : ∀ key ∈ reconciliationPayloadKeys,
      (key.toList.all fun c => c.isLower || c == '_') = true := by decide
  apply isSensitiveNotificationKey_of_plain lower
  · intro c hc
    simpa using List.all_eq_true.mp (plain key known) c hc
  · revert key
    decide

theorem copySafeMapping_cons {path : List String} {key : String} {value : Json}
    {rest : List (String × Json)} (safe : isSensitiveNotificationKey py key = false)
    (copied : copySafeValue py (path ++ [key]) value = .ok value)
    (others : copySafeMapping py path rest = .ok rest) :
    copySafeMapping py path ((key, value) :: rest) = .ok ((key, value) :: rest) := by
  unfold copySafeMapping
  rw [if_neg (by simp [safe]), copied, others]
  rfl

theorem copySafeItems_eq {path : List String} {items : List Json}
    (each : ∀ item ∈ items, copySafeValue py path item = .ok item) :
    copySafeItems py path items = .ok items := by
  induction items with
  | nil => rfl
  | cons item rest ih =>
    unfold copySafeItems
    rw [each item List.mem_cons_self, ih fun other hother => each other (List.mem_cons_of_mem _ hother)]
    rfl

theorem copySafeValue_reasons {path : List String} (reasons : List String) :
    copySafeValue py path (.arr (reasons.map .str)) = .ok (.arr (reasons.map .str)) := by
  unfold copySafeValue
  rw [copySafeItems_eq]
  · rfl
  · intro item hitem
    obtain ⟨reason, -, rfl⟩ := List.mem_map.mp hitem
    rfl

theorem copySafeMapping_differencePayload (lower : py.LowerKeeps) {path : List String}
    (difference : PositionReconciliationDifference) :
    copySafeMapping py path (differencePayload difference) = .ok (differencePayload difference) := by
  have safe {key : String} (known : key ∈ reconciliationPayloadKeys) :=
    isSensitiveNotificationKey_of_reconciliation lower known
  unfold differencePayload
  iterate 8
    refine copySafeMapping_cons (safe (by decide)) rfl ?_
  exact copySafeMapping_cons (safe (by decide)) (copySafeValue_reasons _) rfl

/-- The sanitizer copies the payload of a report as it is. -/
theorem safePayload_reportPayload (lower : py.LowerKeeps) (report : PositionReconciliationReport) :
    safePayload py (reportPayload report) = .ok (reportPayload report) := by
  have safe {key : String} (known : key ∈ reconciliationPayloadKeys) :=
    isSensitiveNotificationKey_of_reconciliation lower known
  unfold safePayload reportPayload
  iterate 6
    refine copySafeMapping_cons (safe (by decide)) rfl ?_
  refine copySafeMapping_cons (safe (by decide)) ?_ rfl
  unfold copySafeValue
  rw [copySafeItems_eq]
  · rfl
  · intro item hitem
    obtain ⟨difference, -, rfl⟩ := List.mem_map.mp hitem
    unfold copySafeValue
    rw [copySafeMapping_differencePayload lower]
    rfl

end

/-! ### Notifications that preferences allow -/

def defaultPreference (userId id : String) (now : Instant) : NotificationPreference :=
  { id, userId, createdAt := now, updatedAt := now }

/-- The user has the preferences it had, or a default row where it had none. -/
def DefaultAdded (userId : String) (before after : List NotificationPreference) : Prop :=
  after = before ∨ (before.find? (·.userId = userId) = none ∧
    ∃ id now, after = before ++ [defaultPreference userId id now])

/-- The preferences of the user allow notifications of an event; the defaults do. -/
def allowsEvent (userId : String) (preferences : List NotificationPreference)
    (eventType : Option NotificationEventType) : Bool :=
  (preferences.find? (·.userId = userId)).all (preferencesAllowInternalNotification · eventType)

theorem defaultPreference_allows (userId id : String) (now : Instant)
    (eventType : Option NotificationEventType) :
    preferencesAllowInternalNotification (defaultPreference userId id now) eventType = true := by
  cases eventType with
  | none => rfl
  | some event => cases event <;> rfl

namespace DefaultAdded

variable {userId : String} {before middle after : List NotificationPreference}

theorem refl : DefaultAdded userId before before := .inl rfl

theorem trans (first : DefaultAdded userId before middle)
    (second : DefaultAdded userId middle after) : DefaultAdded userId before after := by
  rcases second with rfl | ⟨missing, id, now, rfl⟩
  · exact first
  · rcases first with rfl | ⟨absent, id', now', rfl⟩
    · exact .inr ⟨missing, id, now, rfl⟩
    · simp [List.find?_append, absent, defaultPreference] at missing

theorem allowsEvent_eq (added : DefaultAdded userId before after)
    (eventType : Option NotificationEventType) :
    allowsEvent userId after eventType = allowsEvent userId before eventType := by
  rcases added with rfl | ⟨missing, id, now, rfl⟩
  · rfl
  · have mine : (defaultPreference userId id now).userId = userId := rfl
    simp [allowsEvent, List.find?_append, missing, mine, defaultPreference_allows]

end DefaultAdded

/-- The session after some notifications are created for a user. Its queries see the preferences
as they will be flushed. -/
structure Notified (userId : String) (s s' : ObservabilitySession)
    (created : List InternalNotification) : Prop where
  committed : s'.committed = s.committed
  auditLogs : s'.settled.auditLogs = s.settled.auditLogs
  systemEvents : s'.settled.systemEvents = s.settled.systemEvents
  positions : s'.settled.positions = s.settled.positions
  notifications : s'.settled.notifications = s.settled.notifications ++ created
  preferences : DefaultAdded userId s.settled.preferences s'.settled.preferences
  seen : s'.flushed.preferences = s'.settled.preferences

namespace Notified

variable {userId : String} {s s' s'' : ObservabilitySession} {created more : List InternalNotification}

theorem refl (seen : s.flushed.preferences = s.settled.preferences) : Notified userId s s [] where
  committed := rfl
  auditLogs := rfl
  systemEvents := rfl
  positions := rfl
  notifications := (List.append_nil _).symm
  preferences := .refl
  seen := seen

theorem trans (first : Notified userId s s' created) (second : Notified userId s' s'' more) :
    Notified userId s s'' (created ++ more) where
  committed := second.committed.trans first.committed
  auditLogs := second.auditLogs.trans first.auditLogs
  systemEvents := second.systemEvents.trans first.systemEvents
  positions := second.positions.trans first.positions
  notifications := by
    rw [second.notifications, first.notifications, List.append_assoc]
  preferences := first.preferences.trans second.preferences
  seen := second.seen

end Notified

/-- The record holds what the input asks for. -/
structure InternalNotificationInput.Recorded (input : InternalNotificationInput)
    (record : InternalNotification) : Prop where
  userId : record.userId = input.userId
  exchangeAccountId : record.exchangeAccountId = input.exchangeAccountId
  channel : record.channel = NotificationChannel.internal.value
  severity : record.severity = input.severity
  title : record.title = input.title
  message : record.message = input.message
  payload : record.payload = input.payload
  unread : record.isRead = false

section

variable {py : Platform} {s : ObservabilitySession}

theorem settled_append (write : ObservabilityWrite) :
    ({ s with pending := s.pending ++ [write] } : ObservabilitySession).settled =
      s.settled.write write := by
  simp [settled, List.foldl_append]

theorem run_getOrCreate (seen : s.flushed.preferences = s.settled.preferences) (userId : String)
    (eventType : Option NotificationEventType) :
    ∃ row s', (getOrCreatePreferences userId).run s = .ok row s' ∧ Notified userId s s' [] ∧
      preferencesAllowInternalNotification row eventType =
        allowsEvent userId s.settled.preferences eventType := by
  have queried : (query (preferenceOf userId)).run s = .ok (preferenceOf userId s.flushed) s := rfl
  unfold getOrCreatePreferences
  rw [EStateM.run_bind, queried]
  cases found : preferenceOf userId s.flushed with
  | some row =>
    refine ⟨row, s, rfl, .refl seen, ?_⟩
    rw [preferenceOf, seen] at found
    simp [allowsEvent, found]
  | none =>
    rw [preferenceOf, seen] at found
    let row := defaultPreference userId (s.uuids s.drawn) s.now
    refine ⟨row, { s with flushed := s.settled.write (.addPreference row), pending := []
                          drawn := s.drawn + 1 }, ?_, ?_, ?_⟩
    · rw [← settled_append]
      rfl
    · exact ⟨rfl, rfl, rfl, rfl, (List.append_nil _).symm, .inr ⟨found, _, _, rfl⟩, rfl⟩
    · simp only [allowsEvent, found]
      exact defaultPreference_allows userId _ _ eventType

theorem run_createInternalNotification {input : InternalNotificationInput}
    (internal : input.channel = .internal) (safe : safePayload py input.payload = .ok input.payload) :
    ∃ record s', (createInternalNotification py input).run s = .ok record s' ∧
      Notified input.userId s s' [record] ∧ input.Recorded record := by
  let record : InternalNotification :=
    { id := s.uuids s.drawn, userId := input.userId, exchangeAccountId := input.exchangeAccountId
      channel := NotificationChannel.internal.value, severity := input.severity
      title := input.title, message := input.message, payload := input.payload, createdAt := s.now }
  refine ⟨record, { s with flushed := s.settled.write (.addNotification record), pending := []
                           drawn := s.drawn + 1 }, ?_, ?_, ?_⟩
  · unfold createInternalNotification raiseWhen
    rw [if_neg (not_not.mpr internal), safe, ← settled_append]
    rfl
  · exact ⟨rfl, rfl, rfl, rfl, rfl, .refl, rfl⟩
  · exact ⟨rfl, rfl, rfl, rfl, rfl, rfl, rfl, rfl⟩

theorem run_createPreferenceAware {input : InternalNotificationInput}
    (seen : s.flushed.preferences = s.settled.preferences)
    (internal : input.channel = .internal) (safe : safePayload py input.payload = .ok input.payload) :
    ∃ record s', (createPreferenceAwareInternalNotification py input).run s = .ok record s' ∧
      Notified input.userId s s' record.toList ∧
      record.isSome = allowsEvent input.userId s.settled.preferences input.eventType ∧
      ∀ row ∈ record, input.Recorded row := by
  obtain ⟨row, s₁, ran, notified, allows⟩ := run_getOrCreate seen input.userId input.eventType
  unfold createPreferenceAwareInternalNotification raiseWhen
  rw [if_neg (not_not.mpr internal), EStateM.run_bind]
  change ∃ record s', ((getOrCreatePreferences input.userId >>= _).run s) = .ok record s' ∧ _
  rw [EStateM.run_bind, ran]
  dsimp only
  rw [allows]
  cases allowsEvent input.userId s.settled.preferences input.eventType with
  | false => exact ⟨none, s₁, rfl, notified, rfl, nofun⟩
  | true =>
    obtain ⟨record, s₂, created, added, recorded⟩ := run_createInternalNotification internal safe
      (s := s₁)
    refine ⟨some record, s₂, ?_, notified.trans added, rfl, ?_⟩
    · rw [if_pos rfl, map_eq_pure_bind, EStateM.run_bind, created]
      rfl
    · rintro _ ⟨⟩
      exact recorded

/-- One record for each internal input, where the preferences allow the event. -/
theorem run_createPreferenceAwareInternalNotifications {userId : String}
    {eventType : Option NotificationEventType} {inputs : List InternalNotificationInput}
    (seen : s.flushed.preferences = s.settled.preferences)
    (same : ∀ input ∈ inputs, input.userId = userId ∧ input.eventType = eventType ∧
      safePayload py input.payload = .ok input.payload) :
    ∃ records s', (createPreferenceAwareInternalNotifications py inputs).run s = .ok records s' ∧
      Notified userId s s' records ∧
      records.length = (if allowsEvent userId s.settled.preferences eventType then
        inputs.countP (·.channel = .internal) else 0) ∧
      ∀ record ∈ records, ∃ input ∈ inputs, input.Recorded record := by
  induction inputs generalizing s with
  | nil => exact ⟨[], s, rfl, .refl seen, by simp, nofun⟩
  | cons input rest ih =>
    have later := fun other (hother : other ∈ rest) => same other (List.mem_cons_of_mem _ hother)
    unfold createPreferenceAwareInternalNotifications
    by_cases internal : input.channel = .internal
    · obtain ⟨rfl, rfl, safe⟩ := same input List.mem_cons_self
      obtain ⟨record, s₁, ran, notified, shown, recorded⟩ :=
        run_createPreferenceAware seen internal safe
      obtain ⟨records, s₂, others, added, count, each⟩ := ih notified.seen later
      refine ⟨record.toList ++ records, s₂, ?_, notified.trans added, ?_, ?_⟩
      · rw [if_neg (not_not.mpr internal), EStateM.run_bind, ran]
        dsimp only
        rw [EStateM.run_bind, others]
        rfl
      · rw [notified.preferences.allowsEvent_eq] at count
        rw [List.length_append, count, List.countP_cons_of_pos (by simpa using internal)]
        cases allowed : allowsEvent input.userId s.settled.preferences input.eventType with
        | false =>
          rw [allowed] at shown
          obtain rfl : record = none := Option.not_isSome_iff_eq_none.mp (by simp [shown])
          rfl
        | true =>
          rw [allowed] at shown
          obtain ⟨row, rfl⟩ := Option.isSome_iff_exists.mp shown
          simp [Nat.add_comm]
      · intro row hrow
        rcases List.mem_append.mp hrow with mine | other
        · exact ⟨input, List.mem_cons_self, recorded row (by simpa using mine)⟩
        · obtain ⟨source, hsource, held⟩ := each row other
          exact ⟨source, List.mem_cons_of_mem _ hsource, held⟩
    · obtain ⟨records, s₁, others, added, count, each⟩ := ih seen later
      refine ⟨records, s₁, ?_, added, ?_, ?_⟩
      · rw [if_pos internal]
        exact others
      · rw [count, List.countP_cons_of_neg (by simpa using internal)]
      · intro row hrow
        obtain ⟨source, hsource, held⟩ := each row hrow
        exact ⟨source, List.mem_cons_of_mem _ hsource, held⟩

end

/-! ### One run -/

/-- How many differences a payload counts. -/
def differenceCount (payload : List (String × Json)) : Option Json :=
  payload.lookup "difference_count"

/-- What a run with a report adds for a user and an account. -/
structure RunRecorded (userId exchangeAccountId : String)
    (channels : List ReconciliationNotificationChannel) (report : PositionReconciliationReport)
    (s s' : ObservabilitySession) : Prop where
  committed : s'.committed = s.committed
  nothingPending : s'.pending = []
  positions : s'.flushed.positions = s.flushed.positions
  preferences : DefaultAdded userId s.flushed.preferences s'.flushed.preferences
  /-- One audit row. -/
  auditLogs : ∃ row, s'.flushed.auditLogs = s.flushed.auditLogs ++ [row] ∧
    row.userId = userId ∧ row.exchangeAccountId = some exchangeAccountId ∧
    differenceCount row.payload = some (.int report.differences.length)
  /-- One event where there is drift. -/
  systemEvents : ∃ rows, s'.flushed.systemEvents = s.flushed.systemEvents ++ rows ∧
    rows.length = (if report.status = .driftDetected then 1 else 0) ∧
    ∀ row ∈ rows, row.userId = some userId ∧ row.exchangeAccountId = some exchangeAccountId ∧
      differenceCount row.payload = some (.int report.differences.length)
  /-- One notification for each internal channel where there is drift and the user wants it. -/
  notifications : ∃ rows, s'.flushed.notifications = s.flushed.notifications ++ rows ∧
    rows.length = (if report.status = .driftDetected ∧
        allowsEvent userId s.flushed.preferences (some .positionDrift) = true then
      channels.count .internal else 0) ∧
    ∀ row ∈ rows, row.userId = userId ∧ row.exchangeAccountId = some exchangeAccountId ∧
      differenceCount row.payload = some (.int report.differences.length)

section

variable {py : Platform} {s : ObservabilitySession}

/-- What a plan asks of the notifications: one input for each channel, where there is drift. -/
def reconciliationInputs (report : PositionReconciliationReport)
    (channels : List ReconciliationNotificationChannel) : List InternalNotificationInput :=
  let plan := buildReconciliationHookPlan report channels
  plan.notifications.map (·.input plan.auditEntry)

theorem countP_reconciliationInputs (report : PositionReconciliationReport)
    (channels : List ReconciliationNotificationChannel) :
    (reconciliationInputs report channels).countP (·.channel = .internal) =
      if report.status = .driftDetected then channels.count .internal else 0 := by
  by_cases drift : report.status = .driftDetected
  · have channelOf (channel : ReconciliationNotificationChannel) :
        decide (channel.notificationChannel = .internal) = (channel == .internal) := by
      cases channel <;> rfl
    simp [reconciliationInputs, buildReconciliationHookPlan, drift, notificationForChannel,
      ReconciliationNotificationPlan.input, List.countP_map, List.count, Function.comp_def, channelOf]
  · simp [reconciliationInputs, buildReconciliationHookPlan, drift]

theorem of_mem_reconciliationInputs {report : PositionReconciliationReport}
    {channels : List ReconciliationNotificationChannel} {input : InternalNotificationInput}
    (asked : input ∈ reconciliationInputs report channels) :
    input.userId = report.userId ∧ input.exchangeAccountId = some report.exchangeAccountId ∧
      input.eventType = some .positionDrift ∧ input.payload = reportPayload report := by
  obtain ⟨plan, hplan, rfl⟩ := List.mem_map.mp asked
  simp only [buildReconciliationHookPlan] at hplan
  split at hplan
  · obtain ⟨channel, -, rfl⟩ := List.mem_map.mp hplan
    exact ⟨rfl, rfl, rfl, rfl⟩
  · exact absurd hplan List.not_mem_nil

/-- The event of a plan, where there is drift. -/
def reconciliationEvent (report : PositionReconciliationReport) : Option SystemEvent :=
  let plan := buildReconciliationHookPlan report []
  plan.systemEvent.map (·.row plan.auditEntry)

/-- The plan of a report is recorded whole. -/
theorem run_persistReconciliationHookPlan (lower : py.LowerKeeps) (clean : s.pending = [])
    (report : PositionReconciliationReport) (channels : List ReconciliationNotificationChannel) :
    ∃ persisted s', (persistReconciliationHookPlan py
        (buildReconciliationHookPlan report channels)).run s = .ok persisted s' ∧
      RunRecorded report.userId report.exchangeAccountId channels report s s' := by
  let auditLog : AuditLog :=
    { id := s.uuids s.drawn, userId := report.userId
      exchangeAccountId := some report.exchangeAccountId
      action := (buildReconciliationHookPlan report channels).auditEntry.action
      severity := report.severity.value, payload := reportPayload report, createdAt := s.now }
  let added : ObservabilitySession :=
    { s with
      pending := .addAuditLog auditLog ::
        ((reconciliationEvent report).map .addSystemEvent).toList
      drawn := s.drawn + 1 }
  have settledAdded : added.settled =
      { s.flushed with
        auditLogs := s.flushed.auditLogs ++ [auditLog]
        systemEvents := s.flushed.systemEvents ++ (reconciliationEvent report).toList } := by
    simp only [settled, added, List.foldl_cons]
    cases reconciliationEvent report with
    | none => simp [ObservabilityDb.write]
    | some event => rfl
  have seen : added.flushed.preferences = added.settled.preferences := by rw [settledAdded]
  have same : ∀ input ∈ reconciliationInputs report channels, input.userId = report.userId ∧
      input.eventType = some .positionDrift ∧ safePayload py input.payload = .ok input.payload := by
    intro input hinput
    obtain ⟨user, -, event, payload⟩ := of_mem_reconciliationInputs hinput
    exact ⟨user, event, payload ▸ safePayload_reportPayload lower report⟩
  obtain ⟨records, s₁, ran, notified, count, each⟩ :=
    run_createPreferenceAwareInternalNotifications seen same
  refine ⟨⟨auditLog, reconciliationEvent report, records⟩,
    { s₁ with flushed := s₁.settled, pending := [] }, ?_, ?_⟩
  · have begun : (addSystemEvent (reconciliationEvent report)).run
        { s with pending := [.addAuditLog auditLog], drawn := s.drawn + 1 } = .ok () added := by
      simp only [added]
      cases reconciliationEvent report <;> rfl
    change EStateM.run (do
        addSystemEvent (reconciliationEvent report)
        let internalNotifications ←
          createPreferenceAwareInternalNotifications py (reconciliationInputs report channels)
        flush
        return PersistedReconciliationHookPlan.mk auditLog (reconciliationEvent report)
          internalNotifications)
      { s with pending := s.pending ++ [.addAuditLog auditLog], drawn := s.drawn + 1 } = _
    rw [clean, List.nil_append, EStateM.run_bind, begun]
    dsimp only
    rw [EStateM.run_bind, ran]
    rfl
  · refine ⟨notified.committed, rfl, ?_, ?_, ⟨auditLog, ?_, rfl, rfl, rfl⟩,
      ⟨(reconciliationEvent report).toList, ?_, ?_, ?_⟩, ⟨records, ?_, ?_, ?_⟩⟩
    · rw [notified.positions, settledAdded]
    · have added := notified.preferences
      rw [settledAdded] at added
      exact added
    · rw [notified.auditLogs, settledAdded]
    · rw [notified.systemEvents, settledAdded]
    · by_cases drift : report.status = .driftDetected
      · simp [reconciliationEvent, buildReconciliationHookPlan, drift]
      · simp [reconciliationEvent, buildReconciliationHookPlan, drift]
    · intro row hrow
      by_cases drift : report.status = .driftDetected
      · simp only [reconciliationEvent, buildReconciliationHookPlan, drift, decide_true, if_true,
          Option.map_some, Option.toList_some, List.mem_singleton] at hrow
        subst hrow
        exact ⟨rfl, rfl, rfl⟩
      · simp [reconciliationEvent, buildReconciliationHookPlan, drift] at hrow
    · rw [notified.notifications, settledAdded]
    · rw [count, countP_reconciliationInputs, settledAdded]
      by_cases drift : report.status = .driftDetected
      · simp [drift]
      · simp [drift]
    · intro row hrow
      obtain ⟨input, hinput, recorded⟩ := each row hrow
      obtain ⟨user, account, -, payload⟩ := of_mem_reconciliationInputs hinput
      refine ⟨recorded.userId.trans user, recorded.exchangeAccountId.trans account, ?_⟩
      rw [recorded.payload, payload]
      rfl

end

/-- All quantities of the snapshots and both bounds are finite. -/
def PositionReconciliationWorker.FiniteFor (worker : PositionReconciliationWorker)
    (positions : List PositionQuantitySnapshot × List PositionQuantitySnapshot ×
      List PositionQuantitySnapshot) : Prop :=
  (∀ snapshot ∈ positions.1 ++ positions.2.1 ++ positions.2.2, snapshot.quantity.Finite) ∧
    worker.quantityTolerance.Finite ∧ worker.criticalThreshold.Finite

section

variable {py : Platform} {worker : PositionReconciliationWorker}
  {userId exchangeAccountId : String} {committed flushed : ObservabilityDb} {uuids : Nat → String}
  {drawn : Nat} {now : Instant} {s' : ObservabilitySession}
  {loaded : Except ObservabilityExc (List PositionQuantitySnapshot × List PositionQuantitySnapshot ×
    List PositionQuantitySnapshot)}
  {exchange database target : List PositionQuantitySnapshot} {raised : ObservabilityExc}
  {report : PositionReconciliationReport}

/-- Loading the snapshots leaves a session without pending rows as it is. -/
theorem run_query_snapshots (loads : worker.snapshots flushed userId exchangeAccountId = loaded) :
    (query fun db => worker.snapshots db userId exchangeAccountId).run
        { committed, flushed, uuids, drawn, now } =
      .ok loaded { committed, flushed, uuids, drawn, now } :=
  loads ▸ rfl

theorem run_runAccount_unloaded
    (loads : worker.snapshots flushed userId exchangeAccountId = .error raised) :
    (worker.runAccount py userId exchangeAccountId).run { committed, flushed, uuids, drawn, now } =
      .error raised { committed, flushed, uuids, drawn, now } := by
  unfold PositionReconciliationWorker.runAccount
  rw [EStateM.run_bind, run_query_snapshots loads]
  rfl

theorem run_runAccount_unreported
    (loads : worker.snapshots flushed userId exchangeAccountId = .ok (exchange, database, target))
    (refused : reconcilePositionSnapshots py userId exchangeAccountId exchange database target
      worker.quantityTolerance worker.criticalThreshold = .error raised) :
    (worker.runAccount py userId exchangeAccountId).run { committed, flushed, uuids, drawn, now } =
      .error raised { committed, flushed, uuids, drawn, now } := by
  unfold PositionReconciliationWorker.runAccount
  rw [EStateM.run_bind, run_query_snapshots loads]
  dsimp only
  rw [EStateM.run_bind]
  change EStateM.run (raising (reconcilePositionSnapshots py userId exchangeAccountId exchange
    database target worker.quantityTolerance worker.criticalThreshold) >>= _) _ = _
  rw [refused]
  rfl

/-- A report is persisted as its hooks are planned. -/
theorem run_runAccount_reported {persisted : PersistedReconciliationHookPlan}
    (loads : worker.snapshots flushed userId exchangeAccountId = .ok (exchange, database, target))
    (computed : reconcilePositionSnapshots py userId exchangeAccountId exchange database target
      worker.quantityTolerance worker.criticalThreshold = .ok report)
    (ran : (persistReconciliationHookPlan py
        (buildReconciliationHookPlan report worker.notificationChannels)).run
      { committed, flushed, uuids, drawn, now } = .ok persisted s') :
    (worker.runAccount py userId exchangeAccountId).run { committed, flushed, uuids, drawn, now } =
      .ok ⟨report, buildReconciliationHookPlan report worker.notificationChannels, persisted, false⟩
        s' := by
  unfold PositionReconciliationWorker.runAccount
  rw [EStateM.run_bind, run_query_snapshots loads]
  dsimp only
  rw [EStateM.run_bind]
  change EStateM.run (raising (reconcilePositionSnapshots py userId exchangeAccountId exchange
    database target worker.quantityTolerance worker.criticalThreshold) >>= _) _ = _
  rw [computed, EStateM.run_bind]
  change EStateM.run (_ >>= _) _ = _
  rw [EStateM.run_bind, ran]
  rfl

end

/-- A run leaves the session as it was where a provider raises, a quantity is no number or is so
large that a sum may be beyond the decimal context; otherwise it records its report. -/
theorem runAccount_records {py : Platform} (lower : py.LowerKeeps)
    (worker : PositionReconciliationWorker) (userId exchangeAccountId : String)
    (committed flushed : ObservabilityDb) (uuids : Nat → String) (drawn : Nat) (now : Instant) :
    let s : ObservabilitySession := { committed, flushed, uuids, drawn, now }
    let loaded := worker.snapshots flushed userId exchangeAccountId
    match (worker.runAccount py userId exchangeAccountId).run s with
    | .error raised s' => s' = s ∧ (loaded = .error raised ∨
        ∃ positions, loaded = .ok positions ∧
          (raised = .invalidOperation ∧ ¬worker.FiniteFor positions ∨ raised = .overflow ∧
            ¬(Moderate positions.1 ∧ Moderate positions.2.1 ∧ Moderate positions.2.2)))
    | .ok result s' => (∃ positions, loaded = .ok positions ∧
        reconcilePositionSnapshots py userId exchangeAccountId positions.1 positions.2.1
          positions.2.2 worker.quantityTolerance worker.criticalThreshold = .ok result.report) ∧
        RunRecorded userId exchangeAccountId worker.notificationChannels result.report s s' := by
  intro s loaded
  cases loads : loaded with
  | error raised =>
    rw [run_runAccount_unloaded loads]
    exact ⟨rfl, .inl rfl⟩
  | ok positions =>
    obtain ⟨exchange, database, target⟩ := positions
    have computes : Computes (worker.FiniteFor (exchange, database, target))
        (Moderate exchange ∧ Moderate database ∧ Moderate target)
        (reconcilePositionSnapshots py userId exchangeAccountId exchange database target
          worker.quantityTolerance worker.criticalThreshold) fun _ => True :=
      computes_reconcilePositionSnapshots (fun finite => finite.1) (fun finite => finite.2.1)
        (fun finite => finite.2.2) id
    cases computed : reconcilePositionSnapshots py userId exchangeAccountId exchange database
        target worker.quantityTolerance worker.criticalThreshold with
    | error raised =>
      rw [computed] at computes
      rw [run_runAccount_unreported loads computed]
      exact ⟨rfl, .inr ⟨_, rfl, computes⟩⟩
    | ok report =>
      obtain ⟨rfl, rfl⟩ := reconcilePositionSnapshots_account computed
      obtain ⟨persisted, s', ran, recorded⟩ :=
        run_persistReconciliationHookPlan lower (s := s) rfl report worker.notificationChannels
      rw [run_runAccount_reported loads computed ran]
      exact ⟨⟨_, rfl, computed⟩, recorded⟩

theorem asciiPlatform_lowerKeeps : asciiPlatform.LowerKeeps := by
  intro text plain
  have kept : text.toList.map Char.toLower = text.toList := by
    rw [List.map_congr_left, List.map_id']
    intro c hc
    have small : ¬('A'.val ≤ c.val ∧ c.val ≤ 'Z'.val) := by
      rintro ⟨-, below⟩
      rcases plain c hc with lower | rfl
      · have above : 'a'.val ≤ c.val := by
          unfold Char.isLower at lower
          simp only [Bool.and_eq_true, decide_eq_true_eq] at lower
          exact lower.1
        exact absurd (UInt32.le_trans above below) (by decide)
      · exact absurd below (by decide)
    exact dif_neg small
  change String.ofList (text.toList.map Char.toLower) = text
  rw [kept, String.ofList_toList]

/-- The exchange holds a position of the given quantity that the database does not know. -/
def sampleWorker (quantity : DecimalLiteral) : PositionReconciliationWorker where
  providers :=
    { exchange := fun _ _ _ => .ok [⟨"BTCUSDT", quantity⟩]
      database := databasePositionSnapshotProvider
      target := fun _ _ _ => .ok [] }

/-- A drift is recorded with one row of each kind. -/
theorem runAccount_records_drift :
    ∃ result s', ((sampleWorker (.finite ⟨1, 0⟩)).runAccount asciiPlatform "u" "a").run
        (opened {} (fun _ => "id") 1) = .ok result s' ∧
      result.report.status = .driftDetected ∧
      RunRecorded "u" "a" [.internal] result.report (opened {} (fun _ => "id") 1) s' := by
  have records := runAccount_records asciiPlatform_lowerKeeps (sampleWorker (.finite ⟨1, 0⟩)) "u"
    "a" {} {} (fun _ => "id") 0 1
  have drifts : (match ((sampleWorker (.finite ⟨1, 0⟩)).runAccount asciiPlatform "u" "a").run
      (opened {} (fun _ => "id") 1) with
    | .ok result _ => decide (result.report.status = .driftDetected)
    | .error .. => false) = true := by decide +kernel
  unfold opened at drifts ⊢
  cases ran : ((sampleWorker (.finite ⟨1, 0⟩)).runAccount asciiPlatform "u" "a").run
      { committed := {}, flushed := {}, uuids := fun _ => "id", now := 1 } with
  | error raised s' =>
    rw [ran] at drifts
    cases drifts
  | ok result s' =>
    rw [ran] at drifts
    simp only [ran] at records
    exact ⟨result, s', rfl, of_decide_eq_true drifts, records.2⟩

/-- No provider raises, and nothing is recorded: the quantity cannot be compared. -/
theorem nan_quantity_unrecorded :
    (∃ positions, (sampleWorker .nan).snapshots {} "u" "a" = .ok positions) ∧
    ((sampleWorker .nan).runAccount asciiPlatform "u" "a").run (opened {} (fun _ => "id") 1) =
      .error .invalidOperation (opened {} (fun _ => "id") 1) := by
  constructor
  · exact ⟨_, rfl⟩
  · rfl

end CopyTrading
