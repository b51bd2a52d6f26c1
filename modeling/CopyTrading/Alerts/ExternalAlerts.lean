import CopyTrading.Python
import CopyTrading.Text.Url

/-!
Alerts that leave the platform: which channels a configuration enables, what each of them is
handed, and what is reported about each delivery.
-/

namespace CopyTrading

inductive ExternalAlertChannel where
  | telegram
  | email
  | webhook
  deriving DecidableEq, Repr

structure ExternalAlertConfig where
  telegramEnabled : Bool := false
  telegramBotToken : String := ""
  telegramChatId : String := ""
  emailEnabled : Bool := false
  smtpHost : String := ""
  smtpPort : Int := 587
  smtpUsername : String := ""
  smtpPassword : String := ""
  alertEmailFrom : String := ""
  alertEmailTo : String := ""
  webhookEnabled : Bool := false
  webhookUrl : String := ""
  webhookSecret : String := ""

structure ExternalAlertEvent where
  severity : String
  title : String
  message : String
  metadata : List (String × String)
  deriving DecidableEq, Repr

structure ExternalAlertDeliveryResult where
  channel : ExternalAlertChannel
  delivered : Bool
  errorMessage : String := ""
  deriving DecidableEq, Repr

structure ExternalAlertPlan where
  enabledChannels : List ExternalAlertChannel
  validationErrors : List String

/-! ### Transports -/

/-- What a transport raises: the text of the exception, and the name of its class. -/
structure TransportError where
  text : String
  className : String

/-- A JSON request. -/
structure AlertPost where
  url : String
  payload : Json
  headers : List (String × String)

structure AlertEmail where
  host : String
  port : Int
  username : String
  password : String
  sender : String
  recipient : String
  subject : String
  content : String

/-- How the transports treat what they are handed. Putting an email together may raise as well,
and then nothing is sent. -/
structure ExternalAlertTransports where
  postJson : AlertPost → Except TransportError Unit
  sendEmail : AlertEmail → Except TransportError Unit

/-! ### The plan -/

/-- `_require`. -/
def requireText (fieldName value : String) : List String :=
  if value = "" then [fieldName ++ " is required"] else []

def requirePositivePort (fieldName : String) (value : Int) : List String :=
  if value ≤ 0 then [fieldName ++ " must be positive"] else []

def buildExternalAlertPlan (config : ExternalAlertConfig) : ExternalAlertPlan where
  enabledChannels :=
    (if config.telegramEnabled then [.telegram] else []) ++
    (if config.emailEnabled then [.email] else []) ++
    (if config.webhookEnabled then [.webhook] else [])
  validationErrors :=
    (if config.telegramEnabled then
      requireText "telegram_bot_token" config.telegramBotToken ++
      requireText "telegram_chat_id" config.telegramChatId
    else []) ++
    (if config.emailEnabled then
      requireText "smtp_host" config.smtpHost ++
      requirePositivePort "smtp_port" config.smtpPort ++
      requireText "smtp_username" config.smtpUsername ++
      requireText "smtp_password" config.smtpPassword ++
      requireText "alert_email_from" config.alertEmailFrom ++
      requireText "alert_email_to" config.alertEmailTo
    else []) ++
    (if config.webhookEnabled then requireText "webhook_url" config.webhookUrl else [])

/-- A plan with a channel and without errors. -/
def ExternalAlertPlan.ready (plan : ExternalAlertPlan) : Prop :=
  plan.enabledChannels ≠ [] ∧ plan.validationErrors = []

instance (plan : ExternalAlertPlan) : Decidable plan.ready := inferInstanceAs (Decidable (_ ∧ _))

section

variable (py : Platform)

/-! ### Texts -/

def safeText (value : String) : String :=
  let line := String.ofList (value.toList.map fun c => if c = '\r' ∨ c = '\n' then ' ' else c)
  String.ofList ((py.strip line).toList.take 500)

/-- The keys of the metadata are those of the alerts below, which stay apart. -/
def sanitizeEvent (event : ExternalAlertEvent) : ExternalAlertEvent where
  severity := safeText py event.severity
  title := safeText py event.title
  message := safeText py event.message
  metadata := event.metadata.map fun (key, value) => (safeText py key, safeText py value)

def formatPlainText (event : ExternalAlertEvent) : String :=
  "\n".intercalate
    (["severity: " ++ event.severity, "title: " ++ event.title, "message: " ++ event.message] ++
      (sortByKey event.metadata).map fun (key, value) => key ++ ": " ++ value)

def redactUrl (value : String) : String :=
  if "://".toList <:+: value.toList then "***" else value

def safeErrorMessage (error : TransportError) : String :=
  let message := redactUrl (safeText py error.text)
  if message = "" then error.className else message

/-! ### Sending -/

/-- `parse.quote(text)`: as in a form, but a slash stays and a blank is percent-encoded. -/
def quotePath (text : String) : String :=
  String.ofList (text.toByteArray.data.toList.flatMap fun byte =>
    if byte = 47 then ['/'] else if byte = 32 then ['%', '2', '0'] else UrlText.quoteByte byte)

def sendTelegram (config : ExternalAlertConfig) (event : ExternalAlertEvent)
    (transports : ExternalAlertTransports) : Except TransportError Unit :=
  transports.postJson
    { url := "https://api.telegram.org/bot" ++ quotePath config.telegramBotToken ++ "/sendMessage"
      payload :=
        .obj [("chat_id", .str config.telegramChatId), ("text", .str (formatPlainText event))]
      headers := [] }

def sendAlertEmail (config : ExternalAlertConfig) (event : ExternalAlertEvent)
    (transports : ExternalAlertTransports) : Except TransportError Unit :=
  transports.sendEmail
    { host := config.smtpHost
      port := config.smtpPort
      username := config.smtpUsername
      password := config.smtpPassword
      sender := config.alertEmailFrom
      recipient := config.alertEmailTo
      subject := "[" ++ py.upper event.severity ++ "] " ++ event.title
      content := formatPlainText event }

/-- With a secret the body is signed. -/
def sendWebhook (config : ExternalAlertConfig) (event : ExternalAlertEvent)
    (transports : ExternalAlertTransports) : Except TransportError Unit :=
  let payload : Json :=
    .obj [("severity", .str event.severity), ("title", .str event.title),
      ("message", .str event.message),
      ("metadata", .obj (event.metadata.map fun (key, value) => (key, .str value)))]
  let headers :=
    if config.webhookSecret = "" then []
    else [("X-Alert-Signature",
      "sha256=" ++ py.hmacSha256Hex config.webhookSecret payload.dumps)]
  transports.postJson { url := config.webhookUrl, payload, headers }

def sendOnChannel (config : ExternalAlertConfig) (event : ExternalAlertEvent)
    (transports : ExternalAlertTransports) : ExternalAlertChannel → Except TransportError Unit
  | .telegram => sendTelegram config event transports
  | .email => sendAlertEmail py config event transports
  | .webhook => sendWebhook py config event transports

/-- What is reported about one channel. -/
def deliveryResult (config : ExternalAlertConfig) (event : ExternalAlertEvent)
    (transports : ExternalAlertTransports) (channel : ExternalAlertChannel) :
    ExternalAlertDeliveryResult :=
  match sendOnChannel py config event transports channel with
  | .ok () => { channel, delivered := true }
  | .error error => { channel, delivered := false, errorMessage := safeErrorMessage py error }

/-- Raises the `ExternalAlertDeliveryError` of a configuration that is not valid; what the
transports raise is reported. -/
def sendExternalAlert (config : ExternalAlertConfig) (event : ExternalAlertEvent)
    (transports : ExternalAlertTransports) :
    Except String (List ExternalAlertDeliveryResult) :=
  let plan := buildExternalAlertPlan config
  if plan.enabledChannels = [] then .ok []
  else if plan.validationErrors ≠ [] then
    .error ("external alert config invalid: " ++ ", ".intercalate plan.validationErrors)
  else
    .ok (plan.enabledChannels.map (deliveryResult py config (sanitizeEvent py event) transports))

end

/-- Some enabled channel takes the alert. -/
def ReachesChannel (py : Platform) (config : ExternalAlertConfig)
    (transports : ExternalAlertTransports) (event : ExternalAlertEvent) : Prop :=
  ∃ channel ∈ (buildExternalAlertPlan config).enabledChannels,
    sendOnChannel py config (sanitizeEvent py event) transports channel = .ok ()

theorem delivered_iff {py : Platform} {config : ExternalAlertConfig}
    {transports : ExternalAlertTransports} {event : ExternalAlertEvent}
    {channel : ExternalAlertChannel} :
    (deliveryResult py config event transports channel).delivered = true ↔
      sendOnChannel py config event transports channel = .ok () := by
  unfold deliveryResult
  cases sendOnChannel py config event transports channel with
  | ok sent => simp
  | error error => simp

/-- With a configuration that is ready nothing is raised, and a delivery is reported exactly when
a channel took the alert. -/
theorem sendExternalAlert_ready (py : Platform) {config : ExternalAlertConfig}
    (ready : (buildExternalAlertPlan config).ready) (transports : ExternalAlertTransports)
    (event : ExternalAlertEvent) :
    ∃ results, sendExternalAlert py config event transports = .ok results ∧
      ((∃ result ∈ results, result.delivered = true) ↔
        ReachesChannel py config transports event) := by
  obtain ⟨enabled, valid⟩ := ready
  refine ⟨_, by rw [sendExternalAlert, if_neg enabled, if_neg (not_not.mpr valid)], ?_⟩
  simp only [List.mem_map, exists_exists_and_eq_and, delivered_iff, ReachesChannel]

end CopyTrading
