import CopyTrading.Alerts.OperationalAlerts
import CopyTrading.Environment
import CopyTrading.Throttling

/-!
Runs of an alert runtime. Dispatches of one key are always an interval apart. That a suppressed
alert follows a delivered one holds only as long as every alert reaches a channel: a dispatch
counts for the throttle even when every channel failed.
-/

namespace CopyTrading

/-! ### Runs -/

/-- A notification at a time, with the transports as they are then. -/
structure AlertStep where
  nowSeconds : Int
  notification : AlertNotification
  transports : ExternalAlertTransports

/-- The runtime before a step, and what the notification returned. -/
structure AlertRecord where
  before : OperationalAlertRuntime
  step : AlertStep
  results : List ExternalAlertDeliveryResult

section

variable (py : Platform)

def alertRun : OperationalAlertRuntime → List AlertStep → List AlertRecord
  | _, [] => []
  | runtime, step :: rest =>
      let notified := runtime.notify py step.transports step.nowSeconds step.notification
      ⟨runtime, step, notified.1⟩ :: alertRun notified.2 rest

/-- The key of the alert that the notification produces. -/
def AlertStep.key (step : AlertStep) : Option String := (step.notification.alert py).map (·.2)

def AlertRecord.throttled (record : AlertRecord) (key : String) : Bool :=
  isThrottled record.before.dispatchState key record.step.nowSeconds defaultAlertThrottleSeconds

/-- The notification produced an alert, which was handed to the channels. -/
def AlertRecord.Dispatched (record : AlertRecord) (key : String) : Prop :=
  record.step.key py = some key ∧ record.throttled key = false

/-- The notification produced an alert, which was not sent. -/
def AlertRecord.Suppressed (record : AlertRecord) (key : String) : Prop :=
  record.step.key py = some key ∧ record.throttled key = true

/-- A channel reported the alert as delivered. -/
def AlertRecord.Delivered (record : AlertRecord) : Prop :=
  ∃ result ∈ record.results, result.delivered = true

/-- Dispatches of a key are an interval apart, and an alert is suppressed only within an interval
after one of its key was delivered. -/
structure AlertsThrottled (records : List AlertRecord) : Prop where
  spaced : records.Pairwise fun a b => ∀ key, a.Dispatched py key → b.Dispatched py key →
    a.step.nowSeconds + defaultAlertThrottleSeconds ≤ b.step.nowSeconds
  suppressed : ∀ first record rest key, records = first ++ record :: rest →
    record.Suppressed py key →
      ∃ earlier ∈ first, earlier.step.key py = some key ∧ earlier.Delivered ∧
        earlier.step.nowSeconds ≤ record.step.nowSeconds ∧
        record.step.nowSeconds < earlier.step.nowSeconds + defaultAlertThrottleSeconds

/-- Whatever alert the step produces, an enabled channel takes it. -/
def AlertStep.Reaches (config : ExternalAlertConfig) (step : AlertStep) : Prop :=
  ∀ event key, step.notification.alert py = some (event, key) →
    ReachesChannel py config step.transports event

end

variable {py : Platform}

/-! ### Steps -/

theorem isThrottled_eq (state : DispatchState) (key : String) (nowSeconds : Int) :
    isThrottled state key nowSeconds defaultAlertThrottleSeconds =
      Throttle.holds state key defaultAlertThrottleSeconds nowSeconds := by
  unfold isThrottled Throttle.holds
  rw [if_neg (by decide)]
  cases state key with
  | none => rfl
  | some lastSentAt => rfl

/-- What a notification does when the configuration is ready. -/
inductive NotifyStep (py : Platform) (runtime : OperationalAlertRuntime) (step : AlertStep) :
    List ExternalAlertDeliveryResult → OperationalAlertRuntime → Prop where
  | quiet (none : step.notification.alert py = none) : NotifyStep py runtime step [] runtime
  | suppressed {event : ExternalAlertEvent} {key : String}
      (alert : step.notification.alert py = some (event, key))
      (throttled : isThrottled runtime.dispatchState key step.nowSeconds
        defaultAlertThrottleSeconds = true) :
      NotifyStep py runtime step [] runtime
  | dispatched {event : ExternalAlertEvent} {key : String}
      {results : List ExternalAlertDeliveryResult}
      (alert : step.notification.alert py = some (event, key))
      (due : isThrottled runtime.dispatchState key step.nowSeconds
        defaultAlertThrottleSeconds = false)
      (sent : sendExternalAlert py runtime.config event step.transports = .ok results) :
      NotifyStep py runtime step results
        { runtime with
          dispatchState := Function.update runtime.dispatchState key (some step.nowSeconds) }

theorem notifyStep (py : Platform) {runtime : OperationalAlertRuntime}
    (ready : (buildExternalAlertPlan runtime.config).ready) (step : AlertStep) :
    NotifyStep py runtime step
      (runtime.notify py step.transports step.nowSeconds step.notification).1
      (runtime.notify py step.transports step.nowSeconds step.notification).2 := by
  rw [OperationalAlertRuntime.notify_eq]
  cases alert : step.notification.alert py with
  | none => exact .quiet alert
  | some found =>
    obtain ⟨event, key⟩ := found
    dsimp only
    unfold dispatchAlert
    by_cases throttled : isThrottled runtime.dispatchState key step.nowSeconds
        defaultAlertThrottleSeconds = true
    · rw [if_pos throttled]
      exact .suppressed alert throttled
    · obtain ⟨results, sent, -⟩ := sendExternalAlert_ready py ready step.transports event
      rw [if_neg throttled, sent]
      exact .dispatched alert (by simpa using throttled) sent

theorem NotifyStep.config {runtime after : OperationalAlertRuntime} {step : AlertStep}
    {results : List ExternalAlertDeliveryResult}
    (notified : NotifyStep py runtime step results after) : after.config = runtime.config := by
  cases notified with
  | quiet _ => rfl
  | suppressed _ _ => rfl
  | dispatched _ _ _ => rfl

/-- An alert that is sent and reaches a channel is delivered. -/
theorem NotifyStep.delivered {runtime after : OperationalAlertRuntime} {step : AlertStep}
    {results : List ExternalAlertDeliveryResult} {key : String}
    (notified : NotifyStep py runtime step results after)
    (ready : (buildExternalAlertPlan runtime.config).ready) (alert : step.key py = some key)
    (due : isThrottled runtime.dispatchState key step.nowSeconds
      defaultAlertThrottleSeconds = false)
    (reaches : step.Reaches py runtime.config) : ∃ result ∈ results, result.delivered = true := by
  unfold AlertStep.key at alert
  cases notified with
  | quiet none =>
    rw [none] at alert
    cases alert
  | suppressed produced throttled =>
    rw [produced] at alert
    cases alert
    rw [due] at throttled
    cases throttled
  | dispatched produced _ sent =>
    obtain ⟨results', sent', delivered⟩ := sendExternalAlert_ready py ready step.transports _
    rw [sent] at sent'
    cases sent'
    exact delivered.mpr (reaches _ _ produced)

/-! ### Runs and throttles -/

/-- A record as an entry of the throttle. -/
def AlertRecord.entry (py : Platform) (record : AlertRecord) :
    Option (Throttle.Entry String Int) :=
  (record.step.key py).map fun key =>
    { key, time := record.step.nowSeconds, passed := !record.throttled key }

theorem AlertRecord.entry_eq_some {record : AlertRecord} {entry : Throttle.Entry String Int} :
    record.entry py = some entry ↔
      record.step.key py = some entry.key ∧ entry.time = record.step.nowSeconds ∧
        entry.passed = !record.throttled entry.key := by
  unfold AlertRecord.entry
  rw [Option.map_eq_some_iff]
  constructor
  · rintro ⟨key, is, rfl⟩
    exact ⟨is, rfl, rfl⟩
  · rintro ⟨is, time, passed⟩
    refine ⟨entry.key, is, ?_⟩
    rw [← time, ← passed]

theorem AlertRecord.entry_of_key {record : AlertRecord} {key : String}
    (alert : record.step.key py = some key) :
    record.entry py = some ⟨key, record.step.nowSeconds, !record.throttled key⟩ :=
  AlertRecord.entry_eq_some.mpr ⟨alert, rfl, rfl⟩

theorem map_step_alertRun (runtime : OperationalAlertRuntime) (steps : List AlertStep) :
    (alertRun py runtime steps).map (·.step) = steps := by
  induction steps generalizing runtime with
  | nil => rfl
  | cons step rest ih => rw [alertRun, List.map_cons, ih]

/-- The dispatch state of a run is that of a throttle. -/
theorem alertRun_decided (py : Platform) {runtime : OperationalAlertRuntime}
    (ready : (buildExternalAlertPlan runtime.config).ready) (steps : List AlertStep) :
    Throttle.Decided defaultAlertThrottleSeconds runtime.dispatchState
      ((alertRun py runtime steps).filterMap (·.entry py)) := by
  induction steps generalizing runtime with
  | nil => exact True.intro
  | cons step rest ih =>
    have notified := notifyStep py ready step
    rw [alertRun]
    generalize runtime.notify py step.transports step.nowSeconds step.notification = outcome
      at notified ⊢
    obtain ⟨results, after⟩ := outcome
    have later := @ih after (notified.config ▸ ready)
    have key (event : ExternalAlertEvent) (key : String)
        (alert : step.notification.alert py = some (event, key)) : step.key py = some key := by
      rw [AlertStep.key, alert]
      rfl
    cases notified with
    | quiet none =>
      rw [List.filterMap_cons_none (by simp [AlertRecord.entry, AlertStep.key, none])]
      exact later
    | @suppressed event alertKey alert throttled =>
      rw [List.filterMap_cons_some (AlertRecord.entry_of_key (key event alertKey alert))]
      unfold AlertRecord.throttled
      dsimp only
      rw [throttled]
      refine ⟨?_, later⟩
      rw [← isThrottled_eq, throttled]
    | @dispatched event alertKey results alert due sent =>
      rw [List.filterMap_cons_some (AlertRecord.entry_of_key (key event alertKey alert))]
      unfold AlertRecord.throttled
      dsimp only
      rw [due]
      refine ⟨?_, later⟩
      rw [← isThrottled_eq, due]

/-- Every record of a run is a step of the runtime it was made on. -/
theorem alertRun_records {runtime : OperationalAlertRuntime}
    (ready : (buildExternalAlertPlan runtime.config).ready) (steps : List AlertStep) :
    ∀ record ∈ alertRun py runtime steps, record.step ∈ steps ∧
      record.before.config = runtime.config ∧
      ∃ after, NotifyStep py record.before record.step record.results after := by
  induction steps generalizing runtime with
  | nil => simp [alertRun]
  | cons step rest ih =>
    have notified := notifyStep py ready step
    rw [alertRun]
    refine List.forall_mem_cons.mpr ⟨⟨List.mem_cons_self, rfl, _, notified⟩, ?_⟩
    intro record mem
    obtain ⟨stepped, config, made⟩ := ih (notified.config ▸ ready) record mem
    exact ⟨List.mem_cons_of_mem _ stepped, config.trans notified.config, made⟩

/-! ### Throttled alerts -/

variable {config : ExternalAlertConfig} {steps : List AlertStep}

theorem times_sorted (py : Platform) (runtime : OperationalAlertRuntime)
    (sorted : steps.Pairwise fun a b => a.nowSeconds ≤ b.nowSeconds) :
    (alertRun py runtime steps).Pairwise fun a b => a.step.nowSeconds ≤ b.step.nowSeconds := by
  rw [← map_step_alertRun runtime steps, List.pairwise_map] at sorted
  exact sorted

theorem entries_sorted (py : Platform) (runtime : OperationalAlertRuntime)
    (sorted : steps.Pairwise fun a b => a.nowSeconds ≤ b.nowSeconds) :
    ((alertRun py runtime steps).filterMap (·.entry py)).Pairwise fun a b => a.time ≤ b.time := by
  refine List.pairwise_filterMap.mpr ((times_sorted py runtime sorted).imp ?_)
  intro a b before entry is entry' is'
  rw [(AlertRecord.entry_eq_some.mp is).2.1, (AlertRecord.entry_eq_some.mp is').2.1]
  exact before

/-- Whatever the channels do, dispatches of a key are an interval apart. -/
theorem dispatches_spaced {runtime : OperationalAlertRuntime}
    (ready : (buildExternalAlertPlan runtime.config).ready)
    (sorted : steps.Pairwise fun a b => a.nowSeconds ≤ b.nowSeconds) :
    (alertRun py runtime steps).Pairwise fun a b => ∀ key, a.Dispatched py key →
      b.Dispatched py key → a.step.nowSeconds + defaultAlertThrottleSeconds ≤ b.step.nowSeconds := by
  have spaced := (alertRun_decided py ready steps).spaced (entries_sorted py runtime sorted)
  refine (List.pairwise_filterMap.mp spaced).imp ?_
  rintro a b apart key ⟨alert, due⟩ ⟨alert', due'⟩
  exact apart _ (AlertRecord.entry_of_key alert) _ (AlertRecord.entry_of_key alert')
    (by simp [due]) (by simp [due']) rfl

/-- An alert is suppressed only within an interval after one of its key was dispatched. -/
theorem suppressed_after_dispatch {runtime : OperationalAlertRuntime}
    (fresh : runtime.dispatchState = fun _ => none)
    (ready : (buildExternalAlertPlan runtime.config).ready) {first rest : List AlertRecord}
    {record : AlertRecord} {key : String}
    (run : alertRun py runtime steps = first ++ record :: rest)
    (suppressed : record.Suppressed py key) :
    ∃ earlier ∈ first, earlier.Dispatched py key ∧
      record.step.nowSeconds < earlier.step.nowSeconds + defaultAlertThrottleSeconds := by
  obtain ⟨alert, throttled⟩ := suppressed
  have decided := alertRun_decided py ready steps
  have entry := AlertRecord.entry_of_key alert
  rw [throttled] at entry
  rw [fresh, run, List.filterMap_append, List.filterMap_cons_some entry] at decided
  obtain ⟨passed, mem, is, same, close⟩ := decided.held_back rfl
  obtain ⟨earlier, hearlier, made⟩ := List.mem_filterMap.mp mem
  obtain ⟨alert', time, decision⟩ := AlertRecord.entry_eq_some.mp made
  dsimp only at same
  rw [same] at alert' decision
  refine ⟨earlier, hearlier, ⟨alert', ?_⟩, time ▸ close⟩
  rw [is] at decision
  simpa using decision.symm

/-- In a run whose alerts all reach a channel, dispatches of a key are an interval apart and an
alert is suppressed only within an interval after one of its key was delivered. -/
theorem alerts_throttled (py : Platform) (ready : (buildExternalAlertPlan config).ready)
    (sorted : steps.Pairwise fun a b => a.nowSeconds ≤ b.nowSeconds)
    (reaches : ∀ step ∈ steps, step.Reaches py config) :
    AlertsThrottled py (alertRun py { config } steps) := by
  constructor
  · exact dispatches_spaced ready sorted
  · intro first record rest key run suppressed
    obtain ⟨earlier, mem, ⟨alert, due⟩, close⟩ :=
      suppressed_after_dispatch rfl ready run suppressed
    have recorded : earlier ∈ alertRun py { config } steps := by
      rw [run]
      exact List.mem_append_left _ mem
    have before : earlier.step.nowSeconds ≤ record.step.nowSeconds := by
      have times := times_sorted py { config } sorted
      rw [run] at times
      exact (List.pairwise_append.mp times).2.2 earlier mem record List.mem_cons_self
    refine ⟨earlier, mem, alert, ?_, before, close⟩
    obtain ⟨stepped, same, after, notified⟩ := alertRun_records ready steps earlier recorded
    have same : earlier.before.config = config := same
    rw [← same] at ready reaches
    exact notified.delivered ready alert due (reaches _ stepped)

/-- A configuration with a web hook. -/
def webhookConfig : ExternalAlertConfig :=
  { webhookEnabled := true, webhookUrl := "https://alerts.example/hooks/token" }

/-- Two emergency stops, the second well within the interval. -/
def emergencyStops (transports : ExternalAlertTransports) : List AlertStep :=
  [⟨100, .emergencyStopEnabled "global", transports⟩,
    ⟨200, .emergencyStopEnabled "global", transports⟩]

def workingTransports : ExternalAlertTransports where
  postJson _ := .ok ()
  sendEmail _ := .ok ()

def failingTransports : ExternalAlertTransports where
  postJson _ := .error ⟨"timed out", "URLError"⟩
  sendEmail _ := .error ⟨"timed out", "TimeoutError"⟩

theorem alerts_throttled_emergencyStops :
    AlertsThrottled asciiPlatform
      (alertRun asciiPlatform { config := webhookConfig } (emergencyStops workingTransports)) := by
  refine alerts_throttled asciiPlatform (by decide) (by simp [emergencyStops]) ?_
  intro step mem event key _
  have working : step.transports = workingTransports := by
    rcases List.mem_pair.mp mem with rfl | rfl
    · rfl
    · rfl
  rw [working]
  exact ⟨.webhook, List.mem_cons_self, rfl⟩

/-- The first alert reaches nobody, and the second one is suppressed all the same. -/
theorem undelivered_alert_suppresses :
    (buildExternalAlertPlan webhookConfig).ready ∧
      ¬ AlertsThrottled asciiPlatform
        (alertRun asciiPlatform { config := webhookConfig } (emergencyStops failingTransports)) := by
  refine ⟨by decide, fun throttled => ?_⟩
  obtain ⟨earlier, mem, -, ⟨result, hresult, delivered⟩, -, -⟩ :=
    throttled.suppressed [_] _ [] "emergency_stop:global" rfl ⟨rfl, rfl⟩
  rw [List.mem_singleton.mp mem] at hresult
  have reported : result = ⟨.webhook, false, "timed out"⟩ := List.mem_singleton.mp hresult
  rw [reported] at delivered
  cases delivered

end CopyTrading
