import CopyTrading.Observability.Notifications

/-!
What a notification request leaves behind. The routes flush and never commit, and the session
of a request is closed at its end.
-/

namespace CopyTrading

open ObservabilitySession StateEffect

/-! ### Requests one after the other -/

/-- A request with the identifiers it draws and the time it is made. -/
structure NotificationCall where
  request : NotificationRequest
  uuids : Nat → String
  now : Instant

/-- The requests that change something: `PUT` and `POST`. -/
def NotificationRequest.isUpdate : NotificationRequest → Bool
  | .putPreferences _ | .markRead _ => true
  | .listNotifications .. | .getPreferences => false

/-- The update enables a delivery that is refused. -/
def NotificationPreferenceUpdate.AsksDelivery (update : NotificationPreferenceUpdate) : Prop :=
  update.telegramEnabled = some true ∨ update.emailEnabled = some true ∨
    update.webhookEnabled = some true

instance : DecidablePred NotificationPreferenceUpdate.AsksDelivery := fun _ =>
  inferInstanceAs (Decidable (_ ∨ _))

namespace NotificationCall

/-- The request in a session of its own: its answer, and what is committed afterwards. -/
def serve (userId : String) (call : NotificationCall) (db : ObservabilityDb) :
    Except ObservabilityExc NotificationAnswer × ObservabilityDb :=
  served (call.request.handle userId) (opened db call.uuids call.now)

/-- The rows after the request if it succeeds and its changes are committed. -/
def apply (userId : String) (call : NotificationCall) (db : ObservabilityDb) : ObservabilityDb :=
  if call.request.isUpdate then
    (served (do
      let answer ← call.request.handle userId
      commit
      return answer) (opened db call.uuids call.now)).2
  else db

/-- What the requests leave committed. -/
def serveAll (userId : String) (db : ObservabilityDb) (calls : List NotificationCall) :
    ObservabilityDb :=
  calls.foldl (fun db call => (call.serve userId db).2) db

/-- The rows after all updates that succeed, in order. -/
def applyAll (userId : String) (db : ObservabilityDb) (calls : List NotificationCall) :
    ObservabilityDb :=
  calls.foldl (fun db call => call.apply userId db) db

/-- Every `GET` among the requests answers from the rows with the earlier updates applied. -/
def Durable (userId : String) (db : ObservabilityDb) (calls : List NotificationCall) : Prop :=
  ∀ earlier get later, calls = earlier ++ get :: later → get.request.isUpdate = false →
    (get.serve userId (serveAll userId db earlier)).1 =
      (get.serve userId (applyAll userId db earlier)).1

/-- The preferences the user has, or would be given now. -/
def preferencesNow (userId : String) (db : ObservabilityDb) (call : NotificationCall) :
    NotificationPreference :=
  (preferenceOf userId db).getD
    { id := call.uuids 0, userId, createdAt := call.now, updatedAt := call.now }

/-- The rows with the preferences of the user among them. -/
def withPreferences (userId : String) (db : ObservabilityDb) (call : NotificationCall) :
    ObservabilityDb :=
  if (preferenceOf userId db).isSome then db
  else db.write (.addPreference (call.preferencesNow userId db))

/-- The rows with the preferences the update sets. -/
def settlePreferences (userId : String) (db : ObservabilityDb) (call : NotificationCall)
    (update : NotificationPreferenceUpdate) : ObservabilityDb :=
  let row := call.preferencesNow userId db
  if update.AsksDelivery then db
  else if update.apply row = row then call.withPreferences userId db
  else (call.withPreferences userId db).write
    (.setPreference { update.apply row with updatedAt := call.now })

/-- The rows with the notification read. -/
def settleRead (userId : String) (db : ObservabilityDb) (call : NotificationCall)
    (notificationId : String) : ObservabilityDb :=
  match ownedNotification userId notificationId db with
  | none => db
  | some row =>
      if row.isRead then db
      else db.write (.setNotification { row with isRead := true, readAt := some call.now })

/-- The rows with what the request sets. -/
def settle (userId : String) (db : ObservabilityDb) (call : NotificationCall) : ObservabilityDb :=
  match call.request with
  | .putPreferences update => call.settlePreferences userId db update
  | .markRead notificationId => call.settleRead userId db notificationId
  | .listNotifications .. | .getPreferences => db

/-- What a `GET` shows of the rows is the same. -/
def ShowsSame (userId : String) (db db' : ObservabilityDb) (call : NotificationCall) : Prop :=
  match call.request with
  | .listNotifications unreadOnly limit =>
      notificationPage userId unreadOnly limit db = notificationPage userId unreadOnly limit db'
  | .getPreferences => call.preferencesNow userId db = call.preferencesNow userId db'
  | .putPreferences _ | .markRead _ => True

/-- What the requests before a `GET` set does not show in it. -/
def Unshown (userId : String) (db : ObservabilityDb) (calls : List NotificationCall) : Prop :=
  ∀ earlier get later, calls = earlier ++ get :: later →
    get.ShowsSame userId db (earlier.foldl (settle userId) db)

end NotificationCall

/-! ### Nothing is committed -/

section

variable {userId : String}

theorem untouched_getOrCreatePreferences : Within Untouched (getOrCreatePreferences userId) := by
  unfold getOrCreatePreferences
  refine (untouched_query _).bind fun found => ?_
  split
  · exact .pure _
  · refine untouched_newUuid.bind fun id => untouched_utcNow.bind fun now => ?_
    exact (untouched_add _).bind fun _ => untouched_flush.bind fun _ => .pure _

theorem untouched_updatePreferences {update : NotificationPreferenceUpdate} :
    Within Untouched (updatePreferences userId update) := by
  unfold updatePreferences
  refine Within.bind ?_ fun _ => untouched_getOrCreatePreferences.bind fun preferences => ?_
  · exact (untouched_raiseWhen _ _).bind fun _ => (untouched_raiseWhen _ _).bind fun _ =>
      untouched_raiseWhen _ _
  · split
    · exact .pure _
    · refine untouched_utcNow.bind fun now => ?_
      exact (untouched_add _).bind fun _ => untouched_flush.bind fun _ => .pure _

theorem untouched_markInternalNotificationRead {notificationId : String} :
    Within Untouched (markInternalNotificationRead userId notificationId) := by
  unfold markInternalNotificationRead
  refine (untouched_query _).bind fun found => ?_
  split
  · exact .pure _
  · split
    · exact .pure _
    · refine untouched_utcNow.bind fun now => ?_
      exact (untouched_add _).bind fun _ => untouched_flush.bind fun _ => .pure _

/-- No request commits anything. -/
theorem untouched_handle (request : NotificationRequest) :
    Within Untouched (request.handle userId) := by
  cases request with
  | listNotifications unreadOnly limit => exact (untouched_query _).map _
  | getPreferences => exact untouched_getOrCreatePreferences.map _
  | putPreferences update =>
    refine Within.map _ (untouched_updatePreferences.tryCatch fun raised => ?_)
    split
    · exact .throw _
    · exact .throw _
  | markRead notificationId =>
    refine untouched_markInternalNotificationRead.bind fun found => ?_
    split
    · exact .throw _
    · exact .pure _

end

namespace NotificationCall

variable {userId : String} {db : ObservabilityDb}

theorem serve_db (call : NotificationCall) : (call.serve userId db).2 = db := by
  unfold serve served
  have untouched : Within Untouched (call.request.handle userId) := untouched_handle call.request
  cases ran : (call.request.handle userId).run (opened db call.uuids call.now) with
  | ok answer after => exact (untouched.of_ok ran).committed
  | error raised after => exact (untouched.of_error ran).committed

theorem serveAll_eq (calls : List NotificationCall) : serveAll userId db calls = db := by
  induction calls with
  | nil => rfl
  | cons call rest ih =>
    unfold serveAll at ih ⊢
    rw [List.foldl_cons, serve_db]
    exact ih

theorem apply_of_error {call : NotificationCall} {raised : ObservabilityExc}
    {after : ObservabilitySession}
    (ran : (call.request.handle userId).run (opened db call.uuids call.now) = .error raised after) :
    call.apply userId db = db := by
  have kept := ((untouched_handle call.request).of_error ran).committed
  unfold apply served
  split
  · rw [EStateM.run_bind, ran]
    exact kept
  · rfl

theorem apply_of_ok {call : NotificationCall} {answer : NotificationAnswer}
    {after : ObservabilitySession} (update : call.request.isUpdate = true)
    (ran : (call.request.handle userId).run (opened db call.uuids call.now) = .ok answer after)
    (flushed : after.pending = []) : call.apply userId db = after.flushed := by
  unfold apply served
  rw [if_pos update, EStateM.run_bind, ran]
  change after.pending.foldl ObservabilityDb.write after.flushed = after.flushed
  rw [flushed]
  rfl

/-! ### What each request runs to -/

/-- The session after the preferences are read, and created where there are none. -/
def read (userId : String) (db : ObservabilityDb) (call : NotificationCall) :
    ObservabilitySession :=
  { opened db call.uuids call.now with
    flushed := call.withPreferences userId db
    drawn := if (preferenceOf userId db).isSome then 0 else 1 }

theorem run_getOrCreatePreferences (call : NotificationCall) :
    (getOrCreatePreferences userId).run (opened db call.uuids call.now) =
      .ok (call.preferencesNow userId db) (call.read userId db) := by
  have queried : (query (preferenceOf userId)).run (opened db call.uuids call.now) =
      .ok (preferenceOf userId db) (opened db call.uuids call.now) := rfl
  unfold getOrCreatePreferences read withPreferences preferencesNow
  rw [EStateM.run_bind, queried]
  cases preferenceOf userId db with
  | some row => rfl
  | none => rfl

theorem run_rejectExternalDeliveryEnablement (update : NotificationPreferenceUpdate)
    (s : ObservabilitySession) :
    (∃ channel, update.AsksDelivery ∧ (rejectExternalDeliveryEnablement update).run s =
      .error (.externalNotificationPreferenceDisabled channel) s) ∨
    (¬update.AsksDelivery ∧ (rejectExternalDeliveryEnablement update).run s = .ok () s) := by
  unfold rejectExternalDeliveryEnablement raiseWhen
  by_cases telegram : update.telegramEnabled = some true
  · exact .inl ⟨.telegram, .inl telegram, by rw [if_pos telegram]; rfl⟩
  · by_cases email : update.emailEnabled = some true
    · exact .inl ⟨.email, .inr (.inl email), by rw [if_neg telegram, if_pos email]; rfl⟩
    · by_cases webhook : update.webhookEnabled = some true
      · refine .inl ⟨.webhook, .inr (.inr webhook), ?_⟩
        rw [if_neg telegram, if_neg email, if_pos webhook]
        rfl
      · refine .inr ⟨?_, ?_⟩
        · rintro (asks | asks | asks)
          · exact telegram asks
          · exact email asks
          · exact webhook asks
        · rw [if_neg telegram, if_neg email, if_neg webhook]
          rfl

/-- What the service does to the preferences. -/
theorem run_updatePreferences (update : NotificationPreferenceUpdate) (call : NotificationCall) :
    (∃ channel, update.AsksDelivery ∧
      (updatePreferences userId update).run (opened db call.uuids call.now) =
        .error (.externalNotificationPreferenceDisabled channel) (opened db call.uuids call.now)) ∨
    ∃ row after, (updatePreferences userId update).run (opened db call.uuids call.now) =
        .ok row after ∧
      after.pending = [] ∧ after.flushed = call.settlePreferences userId db update := by
  unfold updatePreferences settlePreferences
  rcases run_rejectExternalDeliveryEnablement update (opened db call.uuids call.now) with
    ⟨channel, asks, raises⟩ | ⟨allowed, passes⟩
  · refine .inl ⟨channel, asks, ?_⟩
    rw [EStateM.run_bind, raises]
  · right
    rw [EStateM.run_bind, passes]
    dsimp only
    rw [EStateM.run_bind, run_getOrCreatePreferences]
    simp only [if_neg allowed]
    by_cases same : update.apply (call.preferencesNow userId db) = call.preferencesNow userId db
    · rw [if_pos same, if_pos same]
      exact ⟨_, _, rfl, rfl, rfl⟩
    · rw [if_neg same, if_neg same]
      exact ⟨_, _, rfl, rfl, rfl⟩

theorem run_markInternalNotificationRead (notificationId : String) (call : NotificationCall) :
    ∃ found after, (markInternalNotificationRead userId notificationId).run
        (opened db call.uuids call.now) = .ok found after ∧
      after.pending = [] ∧ after.flushed = call.settleRead userId db notificationId ∧
      (found = none → ownedNotification userId notificationId db = none) := by
  have queried : (query (ownedNotification userId notificationId)).run
      (opened db call.uuids call.now) =
        .ok (ownedNotification userId notificationId db) (opened db call.uuids call.now) := rfl
  unfold markInternalNotificationRead settleRead
  rw [EStateM.run_bind, queried]
  cases ownedNotification userId notificationId db with
  | none => exact ⟨_, _, rfl, rfl, rfl, fun _ => rfl⟩
  | some row =>
    by_cases isRead : row.isRead
    · simp only [isRead, if_true]
      exact ⟨_, _, rfl, rfl, rfl, nofun⟩
    · simp only [isRead, if_false, Bool.false_eq_true]
      exact ⟨_, _, rfl, rfl, rfl, nofun⟩

theorem handle_putPreferences_of_ok {update : NotificationPreferenceUpdate}
    {s after : ObservabilitySession} {row : NotificationPreference}
    (ran : (updatePreferences userId update).run s = .ok row after) :
    (NotificationRequest.handle userId (.putPreferences update)).run s =
      .ok (.preferences row) after := by
  simp only [NotificationRequest.handle]
  rw [map_eq_pure_bind, EStateM.run_bind, run_tryCatch, ran]
  rfl

theorem handle_putPreferences_of_refused {update : NotificationPreferenceUpdate}
    {s after : ObservabilitySession} {channel : NotificationChannel}
    (ran : (updatePreferences userId update).run s =
      .error (.externalNotificationPreferenceDisabled channel) after) :
    (NotificationRequest.handle userId (.putPreferences update)).run s =
      .error (.httpException 400 (deliveryNotEnabled channel)) after := by
  simp only [NotificationRequest.handle]
  rw [map_eq_pure_bind, EStateM.run_bind, run_tryCatch, ran]
  rfl

/-- A request whose changes are kept sets what it settles. -/
theorem apply_eq (call : NotificationCall) : call.apply userId db = call.settle userId db := by
  obtain ⟨request, uuids, now⟩ := call
  cases request with
  | listNotifications unreadOnly limit => rfl
  | getPreferences => rfl
  | putPreferences update =>
    rcases run_updatePreferences update ⟨.putPreferences update, uuids, now⟩ with
      ⟨channel, asks, raises⟩ | ⟨row, after, ran, flushed, set⟩
    · rw [apply_of_error (handle_putPreferences_of_refused raises)]
      simp [settle, settlePreferences, asks]
    · rw [apply_of_ok rfl (handle_putPreferences_of_ok ran) flushed, set]
      rfl
  | markRead notificationId =>
    obtain ⟨found, after, ran, flushed, set, missing⟩ :=
      run_markInternalNotificationRead notificationId ⟨.markRead notificationId, uuids, now⟩
    cases found with
    | none =>
      have handled : (NotificationRequest.handle userId (.markRead notificationId)).run
          (opened db uuids now) = .error (.httpException 404 "notification not found") after := by
        simp only [NotificationRequest.handle]
        rw [EStateM.run_bind, ran]
        rfl
      rw [apply_of_error handled]
      simp [settle, settleRead, missing rfl]
    | some notification =>
      have handled : (NotificationRequest.handle userId (.markRead notificationId)).run
          (opened db uuids now) = .ok (.notification notification) after := by
        simp only [NotificationRequest.handle]
        rw [EStateM.run_bind, ran]
        rfl
      rw [apply_of_ok rfl handled flushed, set]
      rfl

theorem applyAll_eq (calls : List NotificationCall) :
    applyAll userId db calls = calls.foldl (fun db call => call.settle userId db) db := by
  unfold applyAll
  congr 1
  funext db call
  exact apply_eq call

/-! ### What a `GET` answers -/

/-- A `GET` answers the same from rows that show the same in it. -/
theorem serve_eq_iff {db' : ObservabilityDb} {get : NotificationCall}
    (reads : get.request.isUpdate = false) :
    (get.serve userId db).1 = (get.serve userId db').1 ↔ get.ShowsSame userId db db' := by
  obtain ⟨request, uuids, now⟩ := get
  cases request with
  | listNotifications unreadOnly limit =>
    have answered (rows : ObservabilityDb) :
        (serve userId ⟨.listNotifications unreadOnly limit, uuids, now⟩ rows).1 =
          .ok (.notifications (notificationPage userId unreadOnly limit rows)) := rfl
    rw [answered, answered]
    constructor
    · intro same
      injection same with same
      injection same
    · intro same
      exact congrArg (Except.ok ∘ NotificationAnswer.notifications) same
  | getPreferences =>
    have answered (rows : ObservabilityDb) :
        (serve userId ⟨.getPreferences, uuids, now⟩ rows).1 =
          .ok (.preferences (preferencesNow userId rows ⟨.getPreferences, uuids, now⟩)) := by
      have ran : (NotificationRequest.handle userId .getPreferences).run (opened rows uuids now) =
          .ok (.preferences (preferencesNow userId rows ⟨.getPreferences, uuids, now⟩))
            (read userId rows ⟨.getPreferences, uuids, now⟩) := by
        simp only [NotificationRequest.handle]
        rw [map_eq_pure_bind, EStateM.run_bind,
          run_getOrCreatePreferences ⟨.getPreferences, uuids, now⟩]
        rfl
      simp only [serve, served, ran]
    rw [answered, answered]
    constructor
    · intro same
      injection same with same
      injection same
    · intro same
      exact congrArg (Except.ok ∘ NotificationAnswer.preferences) same
  | putPreferences update => cases reads
  | markRead notificationId => cases reads

end NotificationCall

open NotificationCall

/-- The answers are those of applied updates exactly where no update shows: nothing is kept. -/
theorem notifications_durable_iff_unshown (userId : String) (db : ObservabilityDb)
    (calls : List NotificationCall) : Durable userId db calls ↔ Unshown userId db calls := by
  constructor
  · intro durable earlier get later split
    cases reads : get.request.isUpdate with
    | false =>
      have answered := durable earlier get later split reads
      rw [serveAll_eq, applyAll_eq] at answered
      exact (serve_eq_iff reads).mp answered
    | true =>
      obtain ⟨request, uuids, now⟩ := get
      cases request with
      | listNotifications unreadOnly limit => cases reads
      | getPreferences => cases reads
      | putPreferences update => trivial
      | markRead notificationId => trivial
  · intro unshown earlier get later split reads
    rw [serveAll_eq, applyAll_eq]
    exact (serve_eq_iff reads).mpr (unshown earlier get later split)

/-- Preferences of a user. -/
def samplePreferences : NotificationPreference :=
  { id := "p", userId := "u", createdAt := 1, updatedAt := 1 }

def muteThenRead : List NotificationCall :=
  [⟨.putPreferences { internalEnabled := some false }, fun _ => "x", 2⟩,
    ⟨.getPreferences, fun _ => "y", 3⟩]

/-- Internal notifications are switched off with success, and are on in the next answer. -/
theorem muted_preferences_unmuted :
    (∀ put ∈ muteThenRead.head?, (put.serve "u" { preferences := [samplePreferences] }).1 =
      .ok (.preferences { samplePreferences with internalEnabled := false, updatedAt := 2 })) ∧
    ¬Durable "u" { preferences := [samplePreferences] } muteThenRead := by
  constructor
  · rintro put ⟨⟩
    rfl
  · intro durable
    have answered := durable (muteThenRead.take 1) ⟨.getPreferences, fun _ => "y", 3⟩ [] rfl rfl
    rw [serveAll_eq, applyAll_eq, serve_eq_iff rfl] at answered
    exact absurd (congrArg NotificationPreference.internalEnabled answered) (by decide)

end CopyTrading
