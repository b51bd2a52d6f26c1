import Mathlib.Data.List.Sort
import CopyTrading.Observability.Store
import CopyTrading.Python

/-!
Internal notifications and the preferences of a user: the service, and the requests.
-/

namespace CopyTrading

open ObservabilitySession

inductive NotificationEventType where
  | positionDrift
  | riskRejection
  | orderFailure
  deriving DecidableEq

structure InternalNotificationInput where
  userId : String
  exchangeAccountId : Option String
  severity : String
  title : String
  message : String
  payload : List (String × Json)
  channel : NotificationChannel := .internal
  eventType : Option NotificationEventType := none

structure NotificationPreferenceUpdate where
  internalEnabled : Option Bool := none
  telegramEnabled : Option Bool := none
  emailEnabled : Option Bool := none
  webhookEnabled : Option Bool := none
  positionDriftEnabled : Option Bool := none
  riskRejectionEnabled : Option Bool := none
  orderFailureEnabled : Option Bool := none

/-! ### Safe payloads -/

section

variable (py : Platform)

def sensitivePayloadKeyFragments : List String :=
  ["api_key", "passphrase", "password", "secret", "signature", "token"]

def isSensitiveNotificationKey (key : String) : Bool :=
  sensitivePayloadKeyFragments.any fun fragment =>
    decide (fragment.toList <:+: (py.lower key).toList)

mutual

/-- `_copy_safe_mapping`. -/
def copySafeMapping (keyPath : List String) :
    List (String × Json) → Except ObservabilityExc (List (String × Json))
  | [] => .ok []
  | (key, value) :: rest =>
      if isSensitiveNotificationKey py key then
        .error (.sensitiveNotificationPayload (String.intercalate "." (keyPath ++ [key])))
      else do
        let copied ← copySafeValue (keyPath ++ [key]) value
        let others ← copySafeMapping keyPath rest
        return (key, copied) :: others

def copySafeValue (keyPath : List String) : Json → Except ObservabilityExc Json
  | .obj fields => .obj <$> copySafeMapping keyPath fields
  | .arr items => .arr <$> copySafeItems keyPath items
  | value => .ok value

def copySafeItems (keyPath : List String) : List Json → Except ObservabilityExc (List Json)
  | [] => .ok []
  | item :: rest => do
      let copied ← copySafeValue keyPath item
      let others ← copySafeItems keyPath rest
      return copied :: others

end

def safePayload (payload : List (String × Json)) :
    Except ObservabilityExc (List (String × Json)) := copySafeMapping py [] payload

end

/-! ### Preferences -/

def preferenceOf (userId : String) (db : ObservabilityDb) : Option NotificationPreference :=
  db.preferences.find? (·.userId = userId)

def getOrCreatePreferences (userId : String) : ObservabilityService NotificationPreference := do
  match ← query (preferenceOf userId) with
  | some preferences => return preferences
  | none =>
    let id ← newUuid
    let now ← utcNow
    let preferences : NotificationPreference := { id, userId, createdAt := now, updatedAt := now }
    add (.addPreference preferences)
    flush
    return preferences

/-- `_reject_external_delivery_enablement`. -/
def rejectExternalDeliveryEnablement (update : NotificationPreferenceUpdate) :
    ObservabilityService Unit := do
  raiseWhen (update.telegramEnabled = some true) (.externalNotificationPreferenceDisabled .telegram)
  raiseWhen (update.emailEnabled = some true) (.externalNotificationPreferenceDisabled .email)
  raiseWhen (update.webhookEnabled = some true) (.externalNotificationPreferenceDisabled .webhook)

/-- The attributes that are given are set. -/
def NotificationPreferenceUpdate.apply (update : NotificationPreferenceUpdate)
    (row : NotificationPreference) : NotificationPreference :=
  { row with
    internalEnabled := update.internalEnabled.getD row.internalEnabled
    telegramEnabled := update.telegramEnabled.getD row.telegramEnabled
    emailEnabled := update.emailEnabled.getD row.emailEnabled
    webhookEnabled := update.webhookEnabled.getD row.webhookEnabled
    positionDriftEnabled := update.positionDriftEnabled.getD row.positionDriftEnabled
    riskRejectionEnabled := update.riskRejectionEnabled.getD row.riskRejectionEnabled
    orderFailureEnabled := update.orderFailureEnabled.getD row.orderFailureEnabled }

/-- A row with an attribute that differs is written at the flush, with the time of the write. -/
def updatePreferences (userId : String) (update : NotificationPreferenceUpdate) :
    ObservabilityService NotificationPreference := do
  rejectExternalDeliveryEnablement update
  let preferences ← getOrCreatePreferences userId
  if update.apply preferences = preferences then return preferences
  let now ← utcNow
  let updated := { update.apply preferences with updatedAt := now }
  add (.setPreference updated)
  flush
  return updated

/-- `_preferences_allow_internal_notification`. -/
def preferencesAllowInternalNotification (preferences : NotificationPreference) :
    Option NotificationEventType → Bool
  | none => preferences.internalEnabled
  | some .positionDrift => preferences.internalEnabled && preferences.positionDriftEnabled
  | some .riskRejection => preferences.internalEnabled && preferences.riskRejectionEnabled
  | some .orderFailure => preferences.internalEnabled && preferences.orderFailureEnabled

/-! ### Notifications -/

section

variable (py : Platform)

def raising {α : Type} : Except ObservabilityExc α → ObservabilityService α
  | .ok value => return value
  | .error exc => throw exc

def createInternalNotification (notification : InternalNotificationInput) :
    ObservabilityService InternalNotification := do
  raiseWhen (notification.channel ≠ .internal)
    (.externalNotificationChannelDisabled notification.channel)
  let payload ← raising (safePayload py notification.payload)
  let id ← newUuid
  let now ← utcNow
  let record : InternalNotification :=
    { id, userId := notification.userId, exchangeAccountId := notification.exchangeAccountId
      channel := NotificationChannel.internal.value, severity := notification.severity
      title := notification.title, message := notification.message, payload, createdAt := now }
  add (.addNotification record)
  flush
  return record

def createPreferenceAwareInternalNotification (notification : InternalNotificationInput) :
    ObservabilityService (Option InternalNotification) := do
  raiseWhen (notification.channel ≠ .internal)
    (.externalNotificationChannelDisabled notification.channel)
  let preferences ← getOrCreatePreferences notification.userId
  if preferencesAllowInternalNotification preferences notification.eventType then
    some <$> createInternalNotification py notification
  else return none

def createPreferenceAwareInternalNotifications :
    List InternalNotificationInput → ObservabilityService (List InternalNotification)
  | [] => return []
  | notification :: rest => do
      if notification.channel ≠ .internal then
        createPreferenceAwareInternalNotifications rest
      else
        let record ← createPreferenceAwareInternalNotification py notification
        let others ← createPreferenceAwareInternalNotifications rest
        return record.toList ++ others

end

def maxNotificationPageSize : Nat := 100

/-- `order_by(created_at.desc(), id.desc())`. -/
def InternalNotification.NotLater (a b : InternalNotification) : Prop :=
  b.createdAt < a.createdAt ∨ (a.createdAt = b.createdAt ∧ b.id ≤ a.id)

instance : DecidableRel InternalNotification.NotLater := fun _ _ =>
  inferInstanceAs (Decidable (_ ∨ _))

/-- The newest notifications of the user, as many as a page holds. -/
def notificationPage (userId : String) (unreadOnly : Bool) (limit : Nat) (db : ObservabilityDb) :
    List InternalNotification :=
  ((db.notifications.filter fun row =>
    row.userId = userId && !(unreadOnly && row.isRead)).insertionSort
      InternalNotification.NotLater).take (min (max limit 1) maxNotificationPageSize)

def listInternalNotifications (userId : String) (unreadOnly : Bool) (limit : Nat) :
    ObservabilityService (List InternalNotification) :=
  query (notificationPage userId unreadOnly limit)

def ownedNotification (userId notificationId : String) (db : ObservabilityDb) :
    Option InternalNotification :=
  db.notifications.find? fun row => row.id = notificationId && row.userId = userId

def markInternalNotificationRead (userId notificationId : String) :
    ObservabilityService (Option InternalNotification) := do
  match ← query (ownedNotification userId notificationId) with
  | none => return none
  | some notification =>
    if notification.isRead then return some notification
    else
      let now ← utcNow
      let read := { notification with isRead := true, readAt := some now }
      add (.setNotification read)
      flush
      return some read

/-! ### Requests -/

/-- The requests of one user. The limit of a page is between one and a hundred. -/
inductive NotificationRequest where
  | listNotifications (unreadOnly : Bool) (limit : Nat)
  | getPreferences
  | putPreferences (update : NotificationPreferenceUpdate)
  | markRead (notificationId : String)

inductive NotificationAnswer where
  | notifications (rows : List InternalNotification)
  | preferences (row : NotificationPreference)
  | notification (row : InternalNotification)

/-- The detail of a refused update of preferences. -/
def deliveryNotEnabled (channel : NotificationChannel) : String :=
  channel.value ++ " delivery is not enabled in this phase"

def NotificationRequest.handle (userId : String) :
    NotificationRequest → ObservabilityService NotificationAnswer
  | .listNotifications unreadOnly limit =>
      .notifications <$> listInternalNotifications userId unreadOnly limit
  | .getPreferences => .preferences <$> getOrCreatePreferences userId
  | .putPreferences update =>
      .preferences <$> tryCatch (updatePreferences userId update) fun raised =>
        match raised with
        | .externalNotificationPreferenceDisabled channel =>
            throw (.httpException 400 (deliveryNotEnabled channel))
        | other => throw other
  | .markRead notificationId => do
      match ← markInternalNotificationRead userId notificationId with
      | none => throw (.httpException 404 "notification not found")
      | some notification => return .notification notification

end CopyTrading
