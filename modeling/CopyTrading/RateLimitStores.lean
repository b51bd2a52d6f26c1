import CopyTrading.RateLimitGuarantees
import CopyTrading.RedisWindows
import CopyTrading.TestnetOrder.Submission

/-!
The rate limiter on either of its two window stores, and why they decide alike. One store keys
its windows by tuples and restarts them lazily, the other by joined strings that expire; a window
that is open in one is open in the other, with the same count, as long as the keys of different
windows are joined to different strings.
-/

namespace CopyTrading

open FixedWindow

/-! ### The service on a store -/

/-- `RateLimitWindowStore`, on states of type `σ`. -/
structure RateLimitWindowStore (σ : Type) where
  acquire : RateLimitKey → Nat → Nat → ℚ → EStateM Exc σ RateLimitWindow

def inMemoryStore : RateLimitWindowStore InMemoryRateLimitWindowStore where
  acquire key _ intervalSeconds now := fun windows =>
    .ok (acquireWindow windows key intervalSeconds now).1
      (acquireWindow windows key intervalSeconds now).2

/-- The Redis store when no command fails and the server has the clock of the service. -/
def redisStore (store : RedisRateLimitWindowStore) : RateLimitWindowStore Redis where
  acquire key limit intervalSeconds now :=
    store.acquire key limit intervalSeconds now ⟨.answered now, .answered now, .answered now⟩

/-- `RuntimeRateLimitService` on a store. -/
structure StoredRateLimitService (σ : Type) where
  store : RateLimitWindowStore σ
  windows : σ
  alertRuntime : Bool := false
  alerts : List RateLimitAlert := []

namespace StoredRateLimitService

variable {σ : Type}

def notifyRateLimitBlocked (service : StoredRateLimitService σ) (exchangeName : ExchangeName)
    (rule : RuntimeRateLimitRule) (retryAfterSeconds : Nat) : StoredRateLimitService σ :=
  if service.alertRuntime then
    { service with
      alerts := service.alerts ++
        [⟨exchangeName.value, safeAlertScope rule.scope, "order", retryAfterSeconds⟩] }
  else service

def acquireRules (exchangeName : ExchangeName) (now : ℚ) :
    List (RuntimeRateLimitRule × RateLimitKey) → StoredRateLimitService σ →
      Except Exc Unit × StoredRateLimitService σ
  | [], service => (.ok (), service)
  | (rule, key) :: rest, service =>
      match service.store.acquire key rule.limit rule.intervalSeconds now service.windows with
      | .error raised windows => (.error raised, { service with windows })
      | .ok window windows =>
          let service := { service with windows }
          if rule.limit < window.count then
            (.error (.rateLimitExceeded rule.name window.retryAfterSeconds),
              service.notifyRateLimitBlocked exchangeName rule window.retryAfterSeconds)
          else acquireRules exchangeName now rest service

def acquireTestnetOrder (service : StoredRateLimitService σ) (exchangeName : ExchangeName)
    (exchangeAccountId requestPath : String) (now : ℚ) :
    Except Exc Unit × StoredRateLimitService σ :=
  match testnetOrderRules exchangeName with
  | .error raised => (.error raised, service)
  | .ok rules =>
      service.acquireRules exchangeName now (rules.map fun rule =>
        (rule, rateLimitKey rule exchangeName exchangeAccountId requestPath))

def serve (service : StoredRateLimitService σ) (request : OrderRequest) :
    Except Exc Unit × StoredRateLimitService σ :=
  service.acquireTestnetOrder request.exchangeName request.exchangeAccountId request.requestPath
    request.now

/-- The answers to the requests, in turn. -/
def answers : StoredRateLimitService σ → List OrderRequest → List (Except Exc Unit)
  | _, [] => []
  | service, request :: rest =>
      (service.serve request).1 :: (service.serve request).2.answers rest

end StoredRateLimitService

namespace RuntimeRateLimitService

def answers : RuntimeRateLimitService → List OrderRequest → List (Except Exc Unit)
  | _, [] => []
  | service, request :: rest =>
      (service.serve request).1 :: (service.serve request).2.answers rest

/-- The same service, with its store as a parameter. -/
def stored (service : RuntimeRateLimitService) :
    StoredRateLimitService InMemoryRateLimitWindowStore :=
  ⟨inMemoryStore, service.store, service.alertRuntime, service.alerts⟩

theorem notifyRateLimitBlocked_stored (service : RuntimeRateLimitService)
    (exchangeName : ExchangeName) (rule : RuntimeRateLimitRule) (wait : Nat) :
    service.stored.notifyRateLimitBlocked exchangeName rule wait =
      (service.notifyRateLimitBlocked exchangeName rule wait).stored := by
  unfold StoredRateLimitService.notifyRateLimitBlocked notifyRateLimitBlocked stored
  split <;> rfl

theorem acquireRules_stored (exchangeName : ExchangeName) (now : ℚ)
    (keyed : List (RuntimeRateLimitRule × RateLimitKey)) (service : RuntimeRateLimitService) :
    service.stored.acquireRules exchangeName now keyed =
      ((service.acquireRules exchangeName now keyed).1,
        (service.acquireRules exchangeName now keyed).2.stored) := by
  induction keyed generalizing service with
  | nil => rfl
  | cons entry rest ih =>
    obtain ⟨rule, key⟩ := entry
    unfold StoredRateLimitService.acquireRules RuntimeRateLimitService.acquireRules
    let counted : RuntimeRateLimitService :=
      { service with store := (acquireWindow service.store key rule.intervalSeconds now).2 }
    by_cases exceeded :
        rule.limit < (acquireWindow service.store key rule.intervalSeconds now).1.count
    · simp only [stored, inMemoryStore, if_pos exceeded]
      exact congrArg (Prod.mk _) (notifyRateLimitBlocked_stored counted exchangeName rule _)
    · simp only [stored, inMemoryStore, if_neg exceeded]
      exact ih counted

theorem serve_stored (service : RuntimeRateLimitService) (request : OrderRequest) :
    service.stored.serve request =
      ((service.serve request).1, (service.serve request).2.stored) := by
  unfold StoredRateLimitService.serve StoredRateLimitService.acquireTestnetOrder
    RuntimeRateLimitService.serve RuntimeRateLimitService.acquireTestnetOrder
  cases testnetOrderRules request.exchangeName with
  | error raised => rfl
  | ok rules => exact acquireRules_stored _ _ _ service

theorem answers_stored (service : RuntimeRateLimitService) (requests : List OrderRequest) :
    service.stored.answers requests = service.answers requests := by
  induction requests generalizing service with
  | nil => rfl
  | cons request rest ih =>
    unfold StoredRateLimitService.answers RuntimeRateLimitService.answers
    rw [serve_stored, ih]

end RuntimeRateLimitService

/-! ### The keys of order requests -/

/-- A character of a UUID string at a place. -/
def uuidChar (place : Nat) (c : Char) : Bool :=
  if place ∈ [8, 13, 18, 23] then c = '-'
  else c.isDigit || ('a' ≤ c && c ≤ 'f') || ('A' ≤ c && c ≤ 'F')

/-- 32 hexadecimal digits in five groups. -/
structure IsUuid (text : String) : Prop where
  length : text.toList.length = 36
  chars : ∀ entry ∈ text.toList.zipIdx, uuidChar entry.2 entry.1 = true

/-- A request of the order submission: for an account whose id is a UUID, on an order path. -/
structure OrderRequest.Submits (request : OrderRequest) : Prop where
  account : IsUuid request.exchangeAccountId
  path : ∃ exchangeName, testnetOrderRequestPath exchangeName = .ok request.requestPath

/-- The keys that requests of the order submission acquire. -/
def SubmissionKey (key : RateLimitKey) : Prop :=
  ∃ (request : OrderRequest) (rules : List RuntimeRateLimitRule) (rule : RuntimeRateLimitRule),
    request.Submits ∧ testnetOrderRules request.exchangeName = .ok rules ∧ rule ∈ rules ∧
      key = request.key rule

theorem uuidChar_separator (place : Nat) {c : Char} (separator : c = ':' ∨ c = '/' ∨ c = '_') :
    uuidChar place c = false := by
  unfold uuidChar
  rcases separator with rfl | rfl | rfl
  all_goals
    split
    · rfl
    · rfl

theorem not_mem_uuid {text : String} (uuid : IsUuid text) {c : Char}
    (separator : c = ':' ∨ c = '/' ∨ c = '_') : c ∉ text.toList := by
  intro hmem
  obtain ⟨place, hplace, rfl⟩ := List.getElem_of_mem hmem
  have allowed := uuid.chars (text.toList[place], place) (List.mk_mem_zipIdx_iff_getElem?.mpr
    (List.getElem?_eq_getElem hplace))
  rw [uuidChar_separator place separator] at allowed
  cases allowed

/-- A text without a separator is not changed. -/
theorem toList_escapeKeyPart_of_clean {text : String} (colon : ':' ∉ text.toList)
    (slash : '/' ∉ text.toList) : (escapeKeyPart text).toList = text.toList := by
  unfold escapeKeyPart
  rw [String.toList_ofList]
  refine List.map_congr_left (fun c hmem => ?_) |>.trans (List.map_id _)
  have ordinary : ¬(c = ':' ∨ c = '/') := by
    rintro (rfl | rfl)
    · exact colon hmem
    · exact slash hmem
  rw [if_neg ordinary]
  rfl

theorem escapeKeyPart_append (front back : String) :
    (escapeKeyPart (front ++ back)).toList =
      (escapeKeyPart front).toList ++ (escapeKeyPart back).toList := by
  simp [escapeKeyPart]

theorem not_mem_escapeKeyPart (text : String) : ':' ∉ (escapeKeyPart text).toList := by
  unfold escapeKeyPart
  rw [String.toList_ofList]
  intro hmem
  obtain ⟨c, -, same⟩ := List.mem_map.mp hmem
  split at same
  · exact absurd same (by decide)
  · next ordinary => exact ordinary (.inl same)

theorem toList_redisKey (store : RedisRateLimitWindowStore) (key : RateLimitKey) :
    (store.redisKey key).toList = store.keyPrefix.toList ++ ':' ::
      ((escapeKeyPart key.1).toList ++ ':' ::
        ((escapeKeyPart key.2.1).toList ++ ':' :: (escapeKeyPart key.2.2).toList)) := by
  simp [RedisRateLimitWindowStore.redisKey, String.intercalate_cons_cons]

/-- What a key of the order submission is made of. -/
structure SubmissionParts (key : RateLimitKey) (exchangeName : ExchangeName)
    (rule : RuntimeRateLimitRule) (scopeKey requestPath : String) : Prop where
  exchange : key.1 = exchangeName.value
  name : key.2.1 = rule.name
  configured : rule ∈ [accountSafetyRule, ⟨"RAW_REQUESTS", .ip, 300000, 300⟩, ⟨"HTTP_IP", .ip, 600, 5⟩]
  scope : key.2.2 = scopeKey ++ ":" ++ requestPath
  clean : ∀ c, c = ':' ∨ c = '/' ∨ c = '_' → c ∉ scopeKey.toList
  path : ∃ exchangeName, testnetOrderRequestPath exchangeName = .ok requestPath

theorem SubmissionKey.parts {key : RateLimitKey} (submission : SubmissionKey key) :
    ∃ exchangeName rule scopeKey requestPath,
      SubmissionParts key exchangeName rule scopeKey requestPath := by
  obtain ⟨request, rules, rule, submits, hrules, hrule, rfl⟩ := submission
  refine ⟨request.exchangeName, rule,
    if rule.scope = .ip then "global" else request.exchangeAccountId, request.requestPath, rfl, rfl,
    ?_, rfl, ?_, submits.path⟩
  · rcases testnetOrderRules_eq hrules with rfl | rfl | rfl
    · rcases List.mem_cons.mp hrule with rfl | hrule
      · simp
      · simp [List.mem_singleton.mp hrule]
    · rcases List.mem_cons.mp hrule with rfl | hrule
      · simp
      · simp [List.mem_singleton.mp hrule]
    · simp [List.mem_singleton.mp hrule]
  · intro c separator
    split
    · rcases separator with rfl | rfl | rfl <;> decide
    · exact not_mem_uuid submits.account separator

theorem requestPath_of_escape {path path' : String}
    (order : ∃ exchangeName, testnetOrderRequestPath exchangeName = .ok path)
    (order' : ∃ exchangeName, testnetOrderRequestPath exchangeName = .ok path')
    (same : (escapeKeyPart path).toList = (escapeKeyPart path').toList) : path = path' := by
  obtain ⟨exchangeName, hpath⟩ := order
  obtain ⟨exchangeName', hpath'⟩ := order'
  cases exchangeName <;> cases hpath <;> cases exchangeName' <;> cases hpath' <;>
    first | rfl | exact absurd same (by decide +kernel)

/-- A list is cut at the first separator in one way. -/
theorem eq_of_append_cons {α : Type} {separator : α} {front front' back back' : List α}
    (clean : separator ∉ front) (clean' : separator ∉ front')
    (same : front ++ separator :: back = front' ++ separator :: back') :
    front = front' ∧ back = back' := by
  induction front generalizing front' with
  | nil =>
    cases front' with
    | nil => exact ⟨rfl, (List.cons.inj same).2⟩
    | cons c rest => exact absurd ((List.cons.inj same).1 ▸ List.mem_cons_self) clean'
  | cons c rest ih =>
    cases front' with
    | nil => exact absurd ((List.cons.inj same).1 ▸ List.mem_cons_self) clean
    | cons c' rest' =>
      obtain ⟨rfl, tails⟩ := List.cons.inj same
      obtain ⟨rfl, rfl⟩ := ih (List.not_mem_of_not_mem_cons clean)
        (List.not_mem_of_not_mem_cons clean') tails
      exact ⟨rfl, rfl⟩

/-- The keys of the order submission are joined to different strings. -/
theorem redisKey_injective (store : RedisRateLimitWindowStore) {key key' : RateLimitKey}
    (submission : SubmissionKey key) (submission' : SubmissionKey key')
    (same : store.redisKey key = store.redisKey key') : key = key' := by
  obtain ⟨exchangeName, rule, scopeKey, path, parts⟩ := submission.parts
  obtain ⟨exchangeName', rule', scopeKey', path', parts'⟩ := submission'.parts
  have joined := congrArg String.toList same
  rw [toList_redisKey, toList_redisKey, List.append_cancel_left_eq, List.cons.injEq] at joined
  obtain ⟨exchanges, joined⟩ := eq_of_append_cons (not_mem_escapeKeyPart _)
    (not_mem_escapeKeyPart _) joined.2
  obtain ⟨names, scopes⟩ := eq_of_append_cons (not_mem_escapeKeyPart _) (not_mem_escapeKeyPart _)
    joined
  rw [parts.exchange, parts'.exchange] at exchanges
  have sameExchange : exchangeName = exchangeName' := by
    cases exchangeName <;> cases exchangeName' <;>
      first | rfl | exact absurd exchanges (by decide +kernel)
  rw [parts.name, parts'.name] at names
  have sameName : rule.name = rule'.name := by
    have configured := parts.configured
    have configured' := parts'.configured
    simp only [List.mem_cons, List.not_mem_nil, or_false] at configured configured'
    rcases configured with rfl | rfl | rfl <;> rcases configured' with rfl | rfl | rfl <;>
      first | rfl | exact absurd names (by decide +kernel)
  have escaped : ∀ scope path : String, (∀ c, c = ':' ∨ c = '/' ∨ c = '_' → c ∉ scope.toList) →
      (escapeKeyPart (scope ++ ":" ++ path)).toList =
        scope.toList ++ '_' :: (escapeKeyPart path).toList := by
    intro scope path clean
    rw [escapeKeyPart_append, escapeKeyPart_append,
      toList_escapeKeyPart_of_clean (clean _ (.inl rfl)) (clean _ (.inr (.inl rfl))),
      List.append_assoc]
    rfl
  rw [parts.scope, parts'.scope, escaped _ _ parts.clean, escaped _ _ parts'.clean] at scopes
  obtain ⟨sameScope, samePath⟩ := eq_of_append_cons (parts.clean _ (.inr (.inr rfl)))
    (parts'.clean _ (.inr (.inr rfl))) scopes
  refine Prod.ext ?_ (Prod.ext ?_ ?_)
  · rw [parts.exchange, parts'.exchange, sameExchange]
  · rw [parts.name, parts'.name, sameName]
  · rw [parts.scope, parts'.scope, String.toList_inj.mp sameScope,
      requestPath_of_escape parts.path parts'.path samePath]

/-! ### Windows that are open in both stores -/

section

variable {store : RedisRateLimitWindowStore} {memory : InMemoryRateLimitWindowStore} {redis : Redis}
  {now later : ℚ} {key : RateLimitKey}

/-- The window an acquisition would count in, if it would not restart it. -/
def openWindow (memory : InMemoryRateLimitWindowStore) (key : RateLimitKey) (now : ℚ) :
    Option (Window ℚ) :=
  (memory.windows key).filter fun window => now - window.startedAt < keyInterval key

/-- The counter of a window. -/
def counterOf (key : RateLimitKey) (window : Window ℚ) : RedisCounter :=
  ⟨window.count, some (window.startedAt + keyInterval key)⟩

/-- From now on the two stores have the same open windows. -/
structure StoresAgree (store : RedisRateLimitWindowStore) (memory : InMemoryRateLimitWindowStore)
    (redis : Redis) (now : ℚ) : Prop where
  opened : ∀ later, now ≤ later → ∀ key, SubmissionKey key →
    redis.live (store.redisKey key) later = (openWindow memory key later).map (counterOf key)
  positive : ∀ key window, memory.windows key = some window → 1 ≤ window.count

theorem storesAgree_empty (store : RedisRateLimitWindowStore) (now : ℚ) :
    StoresAgree store {} Redis.empty now where
  opened _ _ _ _ := rfl
  positive _ _ found := by cases found

theorem StoresAgree.mono (agree : StoresAgree store memory redis now) (le : now ≤ later) :
    StoresAgree store memory redis later :=
  ⟨fun moment after => agree.opened moment (le.trans after), agree.positive⟩

theorem counted_of_openWindow (memory : InMemoryRateLimitWindowStore) (key : RateLimitKey)
    (now : ℚ) :
    memory.counted key (keyInterval key) now =
      match openWindow memory key now with
      | none => ⟨now, 1⟩
      | some window => { window with count := window.count + 1 } := by
  unfold Store.counted Store.active openWindow
  cases memory.windows key with
  | none => rfl
  | some window =>
    by_cases elapsed : keyInterval key ≤ now - window.startedAt
    · simp [elapsed, Option.filter, not_lt.mpr elapsed]
    · simp [elapsed, Option.filter, not_le.mp elapsed]

/-- A window and its counter are open for the same time. -/
theorem live_counterOf {window : Window ℚ} (found : memory.windows key = some window)
    (counter : redis (store.redisKey key) = some (counterOf key window)) (later : ℚ) :
    redis.live (store.redisKey key) later = (openWindow memory key later).map (counterOf key) := by
  unfold Redis.live openWindow
  rw [found, counter]
  have same : later < window.startedAt + keyInterval key ↔
      later - window.startedAt < keyInterval key := by
    constructor <;> intro h <;> linarith
  by_cases opened : later - window.startedAt < keyInterval key
  · simp [Option.filter, counterOf, opened, same.mpr opened]
  · simp [Option.filter, counterOf, opened, not_lt.mp (mt same.mp opened)]

/-- An acquisition in Redis counts as one in memory, and leaves the counter of its window. -/
theorem acquire_counterOf (agree : StoresAgree store memory redis now)
    (submission : SubmissionKey key) {intervalSeconds : Nat} (lasting : 1 ≤ intervalSeconds)
    (interval : keyInterval key = intervalSeconds) (limit : Nat) :
    ∃ wait redis', (redisStore store).acquire key limit intervalSeconds now redis =
        .ok ⟨(memory.counted key intervalSeconds now).count, wait⟩ redis' ∧
      redis' (store.redisKey key) =
        some (counterOf key (memory.counted key intervalSeconds now)) ∧
      ∀ other, other ≠ store.redisKey key → redis' other = redis other := by
  obtain ⟨wait, acquired⟩ := acquire_answered store redis key limit intervalSeconds now now now now
  have live := agree.opened now le_rfl key submission
  have counted := counted_of_openWindow memory key now
  rw [interval] at counted
  cases opened : openWindow memory key now with
  | none =>
    rw [opened] at live counted
    have one : (Redis.incr (store.redisKey key) now redis).1 = 1 := by simp [Redis.incr, live]
    rw [if_pos one, one] at acquired
    refine ⟨wait, _, by rw [counted]; exact acquired, ?_, fun other ne => ?_⟩
    · have fresh : (Redis.incr (store.redisKey key) now redis).2.live (store.redisKey key) now =
          some ⟨1, none⟩ := by
        unfold Redis.live at live ⊢
        rw [Redis.incr_self, Redis.live, live]
        rfl
      have positive : 0 < intervalSeconds := lasting
      simp [Redis.expire, fresh, counted, counterOf, interval, positive]
    · rw [Redis.expire_of_ne ne, Redis.incr_of_ne ne]
  | some window =>
    rw [opened] at live counted
    have least : 1 ≤ window.count :=
      agree.positive key window (Option.filter_eq_some_iff.mp opened).1
    have many : (Redis.incr (store.redisKey key) now redis).1 = window.count + 1 := by
      simp [Redis.incr, live, counterOf]
    rw [if_neg (by omega), many] at acquired
    refine ⟨wait, _, by rw [counted]; exact acquired, ?_, fun other ne => Redis.incr_of_ne ne⟩
    rw [Redis.incr_self, live, counted]
    rfl

/-- The step lemma: an acquisition counts the same in both stores, and they still agree. -/
theorem StoresAgree.acquire (agree : StoresAgree store memory redis now)
    (submission : SubmissionKey key) {intervalSeconds : Nat} (lasting : 1 ≤ intervalSeconds)
    (interval : keyInterval key = intervalSeconds) (limit : Nat) :
    ∃ wait redis', (redisStore store).acquire key limit intervalSeconds now redis =
        .ok ⟨(memory.counted key intervalSeconds now).count, wait⟩ redis' ∧
      StoresAgree store (memory.acquire key intervalSeconds now) redis' now := by
  obtain ⟨wait, redis', acquired, counter, others⟩ :=
    acquire_counterOf agree submission lasting interval limit
  refine ⟨wait, redis', acquired, fun later after other submits => ?_, fun other window found => ?_⟩
  · by_cases same : other = key
    · subst same
      exact live_counterOf (Store.windows_acquire_self _ _ _ _) counter later
    · have apart : store.redisKey other ≠ store.redisKey key :=
        fun joined => same (redisKey_injective store submits submission joined)
      have before := agree.opened later after other submits
      unfold Redis.live openWindow at before ⊢
      rwa [others _ apart, Store.windows_acquire_of_ne _ _ _ same]
  · by_cases same : other = key
    · subst same
      rw [Store.windows_acquire_self, Option.some.injEq] at found
      subst found
      unfold Store.counted
      exact Nat.le_add_left 1 _
    · rw [Store.windows_acquire_of_ne _ _ _ same] at found
      exact agree.positive other window found

end

/-! ### The two services -/

/-- What is decided: the answer without the time to wait. -/
def decision : Except Exc Unit → Except Exc Unit
  | .error (.rateLimitExceeded ruleName _) => .error (.rateLimitExceeded ruleName 0)
  | answer => answer

section

variable {store : RedisRateLimitWindowStore} {memory : RuntimeRateLimitService}
  {service : StoredRateLimitService Redis} {now : ℚ}

@[simp] theorem windows_notifyRateLimitBlocked {σ : Type} (service : StoredRateLimitService σ)
    (exchangeName : ExchangeName) (rule : RuntimeRateLimitRule) (wait : Nat) :
    (service.notifyRateLimitBlocked exchangeName rule wait).windows = service.windows ∧
      (service.notifyRateLimitBlocked exchangeName rule wait).store = service.store := by
  unfold StoredRateLimitService.notifyRateLimitBlocked
  split <;> exact ⟨rfl, rfl⟩

/-- The loop over the rules decides alike on stores that agree. -/
theorem acquireRules_agree {exchangeName : ExchangeName}
    {keyed : List (RuntimeRateLimitRule × RateLimitKey)} (hkeyed : Keyed keyed)
    (submission : ∀ entry ∈ keyed, SubmissionKey entry.2) (onRedis : service.store = redisStore store)
    (agree : StoresAgree store memory.store service.windows now) :
    decision (memory.acquireRules exchangeName now keyed).1 =
        decision (service.acquireRules exchangeName now keyed).1 ∧
      (service.acquireRules exchangeName now keyed).2.store = redisStore store ∧
      StoresAgree store (memory.acquireRules exchangeName now keyed).2.store
        (service.acquireRules exchangeName now keyed).2.windows now := by
  induction keyed generalizing memory service with
  | nil => exact ⟨rfl, onRedis, agree⟩
  | cons entry rest ih =>
    obtain ⟨rule, key⟩ := entry
    obtain ⟨lasting, interval⟩ := hkeyed (rule, key) List.mem_cons_self
    obtain ⟨wait, redis', acquired, agree'⟩ :=
      agree.acquire (submission (rule, key) List.mem_cons_self) lasting interval rule.limit
    unfold StoredRateLimitService.acquireRules
    rw [acquireRules_cons, onRedis]
    simp only [acquired]
    by_cases exceeded : rule.limit < (memory.store.counted key rule.intervalSeconds now).count
    · simp only [if_pos exceeded, windows_notifyRateLimitBlocked, store_notifyRateLimitBlocked]
      exact ⟨rfl, True.intro, agree'⟩
    · simp only [if_neg exceeded]
      exact ih (fun entry hmem => hkeyed entry (List.mem_cons_of_mem _ hmem))
        (fun entry hmem => submission entry (List.mem_cons_of_mem _ hmem)) rfl agree'

/-- A request of the order submission is decided alike. -/
theorem serve_agree {request : OrderRequest} (submits : request.Submits)
    (onRedis : service.store = redisStore store)
    (agree : StoresAgree store memory.store service.windows request.now) :
    decision (memory.serve request).1 = decision (service.serve request).1 ∧
      (service.serve request).2.store = redisStore store ∧
      StoresAgree store (memory.serve request).2.store (service.serve request).2.windows
        request.now := by
  unfold RuntimeRateLimitService.serve RuntimeRateLimitService.acquireTestnetOrder
    StoredRateLimitService.serve StoredRateLimitService.acquireTestnetOrder
  cases hrules : testnetOrderRules request.exchangeName with
  | error raised => exact ⟨rfl, onRedis, agree⟩
  | ok rules =>
    refine acquireRules_agree (OrderRequest.keyedRules_spec hrules).1 (fun entry hmem => ?_) onRedis
      agree
    obtain ⟨rule, hrule, rfl⟩ := List.mem_map.mp hmem
    exact ⟨request, rules, rule, submits, hrules, hrule, rfl⟩

/-- The run lemma. -/
theorem answers_agree {requests : List OrderRequest} (submits : ∀ request ∈ requests, request.Submits)
    (clock : (requests.map (·.now)).Pairwise (· ≤ ·)) (start : ℚ)
    (after : ∀ request ∈ requests, start ≤ request.now) (onRedis : service.store = redisStore store)
    (agree : StoresAgree store memory.store service.windows start) :
    (memory.answers requests).map decision = (service.answers requests).map decision := by
  induction requests generalizing memory service start with
  | nil => rfl
  | cons request rest ih =>
    rw [List.map_cons, List.pairwise_cons] at clock
    obtain ⟨same, onRedis', agree'⟩ := serve_agree (submits request List.mem_cons_self) onRedis
      (agree.mono (after request List.mem_cons_self))
    have rest' := ih (fun other hmem => submits other (List.mem_cons_of_mem _ hmem)) clock.2 _
      (fun other hmem => clock.1 other.now (List.mem_map_of_mem hmem)) onRedis' agree'
    unfold RuntimeRateLimitService.answers StoredRateLimitService.answers
    rw [List.map_cons, List.map_cons, same, rest']

end

/-- Started on empty stores, the service decides every sequence of order submissions alike on the
in-memory store and on the Redis store. -/
theorem stores_decide_alike (store : RedisRateLimitWindowStore) (alertRuntime alertRuntime' : Bool)
    {requests : List OrderRequest} (submits : ∀ request ∈ requests, request.Submits)
    (clock : (requests.map (·.now)).Pairwise (· ≤ ·)) :
    ((StoredRateLimitService.mk inMemoryStore {} alertRuntime []).answers requests).map decision =
      ((StoredRateLimitService.mk (redisStore store) Redis.empty alertRuntime' []).answers
        requests).map decision := by
  have inMemory : StoredRateLimitService.mk inMemoryStore {} alertRuntime [] =
      (RuntimeRateLimitService.mk {} alertRuntime []).stored := rfl
  rw [inMemory, RuntimeRateLimitService.answers_stored]
  cases requests with
  | nil => rfl
  | cons first rest =>
    refine answers_agree submits clock first.now (fun request hmem => ?_) rfl
      (storesAgree_empty store first.now)
    rw [List.map_cons, List.pairwise_cons] at clock
    rcases List.mem_cons.mp hmem with rfl | hmem
    · exact le_rfl
    · exact clock.1 request.now (List.mem_map_of_mem hmem)

/-- Two orders of an account on OKX, half a second apart. -/
def twoSubmissions : List OrderRequest :=
  [⟨.okx, "6f9619ff-8b86-d011-b42d-00cf4fc964ff", "/api/v5/trade/order", 0⟩,
    ⟨.okx, "6f9619ff-8b86-d011-b42d-00cf4fc964ff", "/api/v5/trade/order", 1 / 2⟩]

theorem stores_decide_alike_twoSubmissions :
    ((StoredRateLimitService.mk inMemoryStore {} false []).answers twoSubmissions).map decision =
      ((StoredRateLimitService.mk (redisStore {}) Redis.empty false []).answers
        twoSubmissions).map decision := by
  have submits : ∀ request ∈ twoSubmissions, request.Submits := by
    intro request hmem
    have account : request.exchangeAccountId = "6f9619ff-8b86-d011-b42d-00cf4fc964ff" ∧
        request.requestPath = "/api/v5/trade/order" := by
      simp only [twoSubmissions, List.mem_cons, List.not_mem_nil, or_false] at hmem
      rcases hmem with rfl | rfl <;> exact ⟨rfl, rfl⟩
    constructor
    · rw [account.1]
      exact ⟨by decide +kernel, by decide +kernel⟩
    · exact ⟨.okx, by rw [account.2]; rfl⟩
  exact stores_decide_alike {} false false submits (by simp [twoSubmissions])

end CopyTrading
