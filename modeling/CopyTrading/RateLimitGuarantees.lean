import CopyTrading.RateLimitService

/-!
What the rate limiter guarantees over a run of order requests: admitted orders of one
account and path are a second apart, no rule admits more than its limit in one window, and
the announced waiting time is long enough.
-/

namespace CopyTrading

open FixedWindow RuntimeRateLimitService

/-! ### Rules and keys -/

/-- The interval every acquisition of a key uses: it is fixed by the name of the rule. -/
def keyInterval (key : RateLimitKey) : ℚ :=
  match [accountSafetyRule, ⟨"RAW_REQUESTS", .ip, 300000, 300⟩, ⟨"HTTP_IP", .ip, 600, 5⟩].find?
      (fun rule : RuntimeRateLimitRule => rule.name = key.2.1) with
  | some rule => rule.intervalSeconds
  | none => 1

theorem testnetOrderRules_eq {exchangeName : ExchangeName} {rules : List RuntimeRateLimitRule}
    (hrules : testnetOrderRules exchangeName = .ok rules) :
    rules = [accountSafetyRule, ⟨"RAW_REQUESTS", .ip, 300000, 300⟩] ∨
      rules = [accountSafetyRule, ⟨"HTTP_IP", .ip, 600, 5⟩] ∨ rules = [accountSafetyRule] := by
  cases exchangeName with
  | binance => exact .inl (Except.ok.inj hrules.symm)
  | bybit => exact .inr (.inl (Except.ok.inj hrules.symm))
  | okx => exact .inr (.inr (Except.ok.inj hrules.symm))
  | mock => cases hrules

/-- What the configuration of a rule provides. -/
structure RuntimeRateLimitRule.Configured (rule : RuntimeRateLimitRule) : Prop where
  limit : 1 ≤ rule.limit
  interval : 1 ≤ rule.intervalSeconds
  key : ∀ exchangeName exchangeAccountId requestPath,
    keyInterval (rateLimitKey rule exchangeName exchangeAccountId requestPath) =
      rule.intervalSeconds

theorem configured_of_mem {exchangeName : ExchangeName} {rules : List RuntimeRateLimitRule}
    (hrules : testnetOrderRules exchangeName = .ok rules) :
    (∀ rule ∈ rules, rule.Configured) ∧ (rules.map (·.name)).Nodup ∧ accountSafetyRule ∈ rules := by
  have safety : accountSafetyRule.Configured := ⟨by decide, by decide, fun _ _ _ => rfl⟩
  have raw : (⟨"RAW_REQUESTS", .ip, 300000, 300⟩ : RuntimeRateLimitRule).Configured :=
    ⟨by decide, by decide, fun _ _ _ => rfl⟩
  have http : (⟨"HTTP_IP", .ip, 600, 5⟩ : RuntimeRateLimitRule).Configured :=
    ⟨by decide, by decide, fun _ _ _ => rfl⟩
  rcases testnetOrderRules_eq hrules with rfl | rfl | rfl
  · exact ⟨by simp [safety, raw], by decide, by simp⟩
  · exact ⟨by simp [safety, http], by decide, by simp⟩
  · exact ⟨by simp [safety], by decide, by simp⟩

/-! ### One request -/

/-- Every key of the list is acquired with its own interval. -/
def Keyed (keyed : List (RuntimeRateLimitRule × RateLimitKey)) : Prop :=
  ∀ entry ∈ keyed, 1 ≤ entry.1.intervalSeconds ∧ keyInterval entry.2 = entry.1.intervalSeconds

variable {exchangeName : ExchangeName} {now : ℚ}
  {keyed : List (RuntimeRateLimitRule × RateLimitKey)}
  {service service' : RuntimeRateLimitService} {outcome : Except Exc Unit}

theorem acquireRules_cons (rule : RuntimeRateLimitRule) (key : RateLimitKey)
    (rest : List (RuntimeRateLimitRule × RateLimitKey)) (service : RuntimeRateLimitService) :
    acquireRules exchangeName now ((rule, key) :: rest) service =
      let window := service.store.counted key rule.intervalSeconds now
      let retryAfter := retryAfterSeconds now window.startedAt rule.intervalSeconds
      let counted := { service with store := service.store.acquire key rule.intervalSeconds now }
      if rule.limit < window.count then
        (.error (.rateLimitExceeded rule.name retryAfter),
          counted.notifyRateLimitBlocked exchangeName rule retryAfter)
      else acquireRules exchangeName now rest counted := rfl

@[simp] theorem store_notifyRateLimitBlocked (service : RuntimeRateLimitService)
    (rule : RuntimeRateLimitRule) (retryAfterSeconds : Nat) :
    (service.notifyRateLimitBlocked exchangeName rule retryAfterSeconds).store = service.store := by
  unfold notifyRateLimitBlocked
  split <;> rfl

/-- The invariant of the store between requests. -/
structure StoreInv (store : InMemoryRateLimitWindowStore) (now : ℚ) : Prop where
  ordered : store.Ordered keyInterval
  notAhead : store.NotAhead now

theorem StoreInv.acquire {store : InMemoryRateLimitWindowStore} (inv : StoreInv store now)
    {rule : RuntimeRateLimitRule} {key : RateLimitKey} (positive : 1 ≤ rule.intervalSeconds)
    (interval : keyInterval key = rule.intervalSeconds) :
    StoreInv (store.acquire key rule.intervalSeconds now) now := by
  refine ⟨?_, inv.notAhead.acquire key _⟩
  rw [← interval]
  refine inv.ordered.acquire ?_ now
  rw [interval]
  exact_mod_cast positive

/-- What a pass over the rules leaves behind: it has only added acquisitions at this time, and
where no rule was over its limit every key has been counted within it. -/
theorem acquireRules_spec (hkeyed : Keyed keyed) (inv : StoreInv service.store now)
    (run : acquireRules exchangeName now keyed service = (outcome, service')) :
    StoreInv service'.store now ∧
    ∃ added, service'.store.history = service.store.history ++ added ∧
      (outcome = .ok () → ∀ entry ∈ keyed, ∃ e ∈ added, e.key = entry.2 ∧ e.time = now ∧
        e.window.count ≤ entry.1.limit) := by
  induction keyed generalizing service with
  | nil =>
    cases run
    exact ⟨inv, [], by simp, by simp⟩
  | cons entry rest ih =>
    obtain ⟨rule, key⟩ := entry
    obtain ⟨positive, interval⟩ := hkeyed _ List.mem_cons_self
    have inv' := inv.acquire positive interval
    rw [acquireRules_cons] at run
    dsimp only at run
    by_cases exceeded : rule.limit < (service.store.counted key rule.intervalSeconds now).count
    · rw [if_pos exceeded] at run
      cases run
      exact ⟨by simpa using inv',
        [⟨key, service.store.counted key rule.intervalSeconds now, now⟩], by simp,
        fun h => by cases h⟩
    · rw [if_neg exceeded] at run
      obtain ⟨inv'', added, hadded, counted⟩ :=
        ih (fun e he => hkeyed e (List.mem_cons_of_mem _ he)) inv' run
      refine ⟨inv'', ⟨key, service.store.counted key rule.intervalSeconds now, now⟩ :: added,
        by simp [hadded], fun hok e he => ?_⟩
      rcases List.mem_cons.mp he with rfl | he
      · exact ⟨_, List.mem_cons_self, rfl, rfl, not_lt.mp exceeded⟩
      · obtain ⟨e', he', rest⟩ := counted hok e he
        exact ⟨e', List.mem_cons_of_mem _ he', rest⟩

/-- A rejection comes from a rule that was over its limit before the request, and the window
of its key is the one that counted too far. -/
theorem acquireRules_rejected {raised : Exc} (distinct : (keyed.map (·.2)).Nodup)
    (run : acquireRules exchangeName now keyed service = (.error raised, service')) :
    ∃ rule key, (rule, key) ∈ keyed ∧
      rule.limit < (service.store.counted key rule.intervalSeconds now).count ∧
      raised = .rateLimitExceeded rule.name (retryAfterSeconds now
        (service.store.counted key rule.intervalSeconds now).startedAt rule.intervalSeconds) ∧
      service'.store.windows key = some (service.store.counted key rule.intervalSeconds now) := by
  induction keyed generalizing service with
  | nil => cases run
  | cons entry rest ih =>
    obtain ⟨rule, key⟩ := entry
    rw [acquireRules_cons] at run
    dsimp only at run
    by_cases exceeded : rule.limit < (service.store.counted key rule.intervalSeconds now).count
    · rw [if_pos exceeded] at run
      cases run
      exact ⟨rule, key, List.mem_cons_self, exceeded, rfl, by simp⟩
    · rw [if_neg exceeded] at run
      rw [List.map_cons, List.nodup_cons] at distinct
      obtain ⟨other, key', mem, exceeded', hraised, hwindow⟩ := ih distinct.2 run
      -- another key: the acquisition before it has not touched its window
      have ne : key' ≠ key := by
        rintro rfl
        exact distinct.1 (List.mem_map.mpr ⟨_, mem, rfl⟩)
      have same := Store.counted_congr (other.intervalSeconds : ℚ) now
        (service.store.windows_acquire_of_ne rule.intervalSeconds now ne)
      rw [same] at exceeded' hraised hwindow
      exact ⟨other, key', List.mem_cons_of_mem _ mem, exceeded', hraised, hwindow⟩

/-! ### Requests -/

structure OrderRequest where
  exchangeName : ExchangeName
  exchangeAccountId : String
  requestPath : String
  now : ℚ

namespace RuntimeRateLimitService

/-- The answer to a request, and the service after it. -/
def serve (service : RuntimeRateLimitService) (request : OrderRequest) :
    Except Exc Unit × RuntimeRateLimitService :=
  service.acquireTestnetOrder request.exchangeName request.exchangeAccountId request.requestPath
    request.now

def serveAll (service : RuntimeRateLimitService) (requests : List OrderRequest) :
    RuntimeRateLimitService :=
  requests.foldl (fun service request => (service.serve request).2) service

def Admits (service : RuntimeRateLimitService) (request : OrderRequest) : Prop :=
  (service.serve request).1 = .ok ()

def RejectsWith (service : RuntimeRateLimitService) (request : OrderRequest) (ruleName : String)
    (retryAfterSeconds : Nat) : Prop :=
  (service.serve request).1 = .error (.rateLimitExceeded ruleName retryAfterSeconds)

end RuntimeRateLimitService

def OrderRequest.key (request : OrderRequest) (rule : RuntimeRateLimitRule) : RateLimitKey :=
  rateLimitKey rule request.exchangeName request.exchangeAccountId request.requestPath

def OrderRequest.keyedRules (request : OrderRequest) (rules : List RuntimeRateLimitRule) :
    List (RuntimeRateLimitRule × RateLimitKey) :=
  rules.map fun rule => (rule, request.key rule)

theorem OrderRequest.keyedRules_spec {request : OrderRequest} {rules : List RuntimeRateLimitRule}
    (hrules : testnetOrderRules request.exchangeName = .ok rules) :
    Keyed (request.keyedRules rules) ∧ ((request.keyedRules rules).map (·.2)).Nodup := by
  obtain ⟨configured, distinct, -⟩ := configured_of_mem hrules
  constructor
  · intro entry he
    obtain ⟨rule, hrule, rfl⟩ := List.mem_map.mp he
    exact ⟨(configured rule hrule).interval, (configured rule hrule).key _ _ _⟩
  · rw [keyedRules, List.map_map]
    refine List.Nodup.map_on (fun rule hrule other hother same => ?_) (distinct.of_map _)
    have sameName : rule.name = other.name := (Prod.ext_iff.mp (Prod.ext_iff.mp same).2).1
    exact List.inj_on_of_nodup_map distinct hrule hother sameName

theorem serve_of_rules {request : OrderRequest} {rules : List RuntimeRateLimitRule}
    (hrules : testnetOrderRules request.exchangeName = .ok rules)
    (service : RuntimeRateLimitService) :
    service.serve request =
      acquireRules request.exchangeName request.now (request.keyedRules rules) service := by
  unfold serve acquireTestnetOrder
  rw [hrules]
  rfl

/-- The step lemma: a request at a time no earlier keeps the invariant, and adds to the history
the acquisitions it has made. -/
theorem serve_spec {request : OrderRequest} {before : ℚ} (inv : StoreInv service.store before)
    (clock : before ≤ request.now) :
    StoreInv (service.serve request).2.store request.now ∧
    ∃ added, (service.serve request).2.store.history = service.store.history ++ added ∧
      (service.Admits request → ∃ e ∈ added, e.key = request.key accountSafetyRule ∧
        e.time = request.now ∧ e.window.count ≤ 1) := by
  have inv' : StoreInv service.store request.now := ⟨inv.ordered, inv.notAhead.mono clock⟩
  cases hrules : testnetOrderRules request.exchangeName with
  | error raised =>
    unfold Admits serve acquireTestnetOrder
    rw [hrules]
    exact ⟨inv', [], by simp, fun h => by cases h⟩
  | ok rules =>
    obtain ⟨-, -, safety⟩ := configured_of_mem hrules
    obtain ⟨inv'', added, hadded, counted⟩ :=
      acquireRules_spec (OrderRequest.keyedRules_spec hrules).1 inv' rfl
    unfold Admits
    rw [serve_of_rules hrules]
    exact ⟨inv'', added, hadded, fun ok =>
      counted ok (accountSafetyRule, _) (List.mem_map_of_mem safety)⟩

/-- The run lemma. -/
theorem serveAll_spec {requests : List OrderRequest} {start stop : ℚ}
    (inv : StoreInv service.store start) (clock : (requests.map (·.now)).Pairwise (· ≤ ·))
    (between : ∀ r ∈ requests, start ≤ r.now ∧ r.now ≤ stop) (le : start ≤ stop) :
    StoreInv (service.serveAll requests).store stop ∧
    ∃ added, (service.serveAll requests).store.history = service.store.history ++ added := by
  induction requests generalizing service start with
  | nil => exact ⟨⟨inv.ordered, inv.notAhead.mono le⟩, [], by simp [serveAll]⟩
  | cons request rest ih =>
    obtain ⟨after, before⟩ := between request List.mem_cons_self
    obtain ⟨inv', added, hadded, -⟩ := serve_spec inv after
    rw [List.map_cons, List.pairwise_cons] at clock
    obtain ⟨inv'', more, hmore⟩ := ih inv' clock.2 (fun r hr =>
      ⟨clock.1 _ (List.mem_map_of_mem hr), (between r (List.mem_cons_of_mem _ hr)).2⟩) before
    refine ⟨inv'', added ++ more, ?_⟩
    rw [← List.append_assoc, ← hadded]
    exact hmore

/-- A rejected request names one of the rules of its exchange, over its limit. -/
theorem serve_rejected {request : OrderRequest} {ruleName : String} {wait : Nat}
    (rejected : service.RejectsWith request ruleName wait) :
    ∃ rules rule, testnetOrderRules request.exchangeName = .ok rules ∧ rule ∈ rules ∧
      rule.name = ruleName ∧
      let window := service.store.counted (request.key rule) rule.intervalSeconds request.now
      rule.limit < window.count ∧
      wait = retryAfterSeconds request.now window.startedAt rule.intervalSeconds ∧
      (service.serve request).2.store.windows (request.key rule) = some window := by
  unfold RejectsWith at rejected
  cases hrules : testnetOrderRules request.exchangeName with
  | error raised =>
    -- an exchange that is not configured raises before it counts
    unfold serve acquireTestnetOrder at rejected
    rw [hrules] at rejected
    cases hname : request.exchangeName <;> rw [hname] at hrules <;> cases hrules
    cases rejected
  | ok rules =>
    have hserved := serve_of_rules hrules service
    generalize service.serve request = served at hserved rejected
    obtain ⟨outcome, service'⟩ := served
    dsimp only at rejected
    subst rejected
    obtain ⟨rule, key, mem, exceeded, hraised, hwindow⟩ :=
      acquireRules_rejected (OrderRequest.keyedRules_spec hrules).2 hserved.symm
    obtain ⟨named, hnamed, same⟩ := List.mem_map.mp mem
    cases same
    injection hraised with hname hwait
    exact ⟨rules, rule, rfl, hnamed, hname.symm, exceeded, hwait, hwindow⟩

/-- A request that is rejected is not rejected by the same rule once it has waited as told. -/
theorem serve_after_wait {request : OrderRequest} {ruleName : String} {wait : Nat}
    (notAhead : service.store.NotAhead request.now)
    (rejected : service.RejectsWith request ruleName wait) (wait' : Nat) :
    ¬ (service.serve request).2.RejectsWith
      { request with now := request.now + wait } ruleName wait' := by
  intro again
  obtain ⟨rules, rule, hrules, hrule, hname, -, hwait, hwindow⟩ := serve_rejected rejected
  obtain ⟨rules', rule', hrules', hrule', hname', exceeded, -, -⟩ := serve_rejected again
  obtain rfl : rules = rules' := Except.ok.inj (hrules.symm.trans hrules')
  obtain ⟨configured, distinct, -⟩ := configured_of_mem hrules
  obtain rfl : rule = rule' :=
    List.inj_on_of_nodup_map distinct hrule hrule' (hname.trans hname'.symm)
  -- the window that rejected had started by then, so the wait outlasts it and it restarts
  have started := notAhead.counted (request.key rule) rule.intervalSeconds
  have elapsed : (rule.intervalSeconds : ℚ) ≤ request.now + wait -
      (service.store.counted (request.key rule) rule.intervalSeconds request.now).startedAt := by
    refine outlast rule.intervalSeconds wait ?_
    rw [hwait]
    unfold retryAfterSeconds truncate
    rw [if_pos (sub_nonneg.mpr started)]
    omega
  have restarted := Store.counted_of_over hwindow elapsed
  dsimp only at exceeded
  have same : ({ request with now := request.now + wait } : OrderRequest).key rule =
      request.key rule := rfl
  rw [same, restarted] at exceeded
  exact absurd (configured rule hrule).limit (by simpa using exceeded)

/-! ### Runs -/

section Runs

variable {requests front mid : List OrderRequest} {a b : OrderRequest}

/-- The invariant after a run from a fresh service. -/
theorem storeInv_of_run (fresh : service.store = {})
    (clock : (requests.map (·.now)).Pairwise (· ≤ ·)) {stop : ℚ}
    (before : ∀ r ∈ requests, r.now ≤ stop) : StoreInv (service.serveAll requests).store stop := by
  have empty (start : ℚ) : StoreInv service.store start := by
    rw [fresh]
    exact ⟨Store.ordered_empty _, fun k w hw => by cases hw⟩
  cases requests with
  | nil => exact empty stop
  | cons first rest =>
    refine (serveAll_spec (empty first.now) clock (fun r hr => ⟨?_, before r hr⟩)
      (before first List.mem_cons_self)).1
    rcases List.mem_cons.mp hr with rfl | hr
    · exact le_rfl
    · exact (List.pairwise_cons.mp clock).1 _ (List.mem_map_of_mem hr)

theorem admitted_spaced (fresh : service.store = {})
    (clock : ((front ++ a :: mid ++ [b]).map (·.now)).Pairwise (· ≤ ·))
    (same : a.key accountSafetyRule = b.key accountSafetyRule)
    (first : (service.serveAll front).Admits a)
    (second : (service.serveAll (front ++ a :: mid)).Admits b) : a.now + 1 ≤ b.now := by
  rw [List.append_assoc, List.map_append, List.pairwise_append] at clock
  obtain ⟨clockFront, clockRest, ends⟩ := clock
  rw [List.cons_append, List.map_cons, List.pairwise_cons] at clockRest
  have before : ∀ r ∈ front, r.now ≤ a.now := fun r hr =>
    ends _ (List.mem_map_of_mem hr) _ (by simp)
  obtain ⟨inv, added, hadded, counted⟩ :=
    serve_spec (storeInv_of_run fresh clockFront before) le_rfl
  obtain ⟨e, he, hkey, htime, le⟩ := counted first
  -- from `a` to `b` the history only grows
  have split : service.serveAll (front ++ a :: mid) =
      ((service.serveAll front).serve a).2.serveAll mid := by
    simp [serveAll, List.foldl_append]
  rw [split] at second
  have clockMid := clockRest.2
  rw [List.map_append, List.pairwise_append] at clockMid
  obtain ⟨inv', more, hmore⟩ := serveAll_spec inv clockMid.1
    (fun r hr => ⟨clockRest.1 r.now (List.mem_map_of_mem (List.mem_append_left _ hr)),
      clockMid.2.2 _ (List.mem_map_of_mem hr) b.now (by simp)⟩)
    (clockRest.1 b.now (by simp))
  obtain ⟨inv'', last, hlast, counted'⟩ := serve_spec inv' le_rfl
  obtain ⟨e', he', hkey', htime', le'⟩ := counted' second
  rw [hmore, hadded] at hlast
  have apart := inv''.ordered.spaced hlast (e := e) (by simp [he]) he'
    ((hkey.trans same).trans hkey'.symm) le le'
  have interval : keyInterval e.key = 1 := by rw [hkey]; rfl
  rwa [htime, htime', interval] at apart

theorem window_admits_le (fresh : service.store = {})
    (clock : (requests.map (·.now)).Pairwise (· ≤ ·)) {exchangeName : ExchangeName}
    {rules : List RuntimeRateLimitRule} (hrules : testnetOrderRules exchangeName = .ok rules)
    {rule : RuntimeRateLimitRule} (hrule : rule ∈ rules)
    (exchangeAccountId requestPath : String) (startedAt : ℚ) :
    ((service.serveAll requests).store.history.filter fun e =>
      e.key = rateLimitKey rule exchangeName exchangeAccountId requestPath ∧
        e.window.startedAt = startedAt ∧ e.window.count ≤ rule.limit).length ≤ rule.limit := by
  have configured := (configured_of_mem hrules).1 rule hrule
  have inv : ∃ stop, StoreInv (service.serveAll requests).store stop := by
    cases hlast : requests.getLast? with
    | none =>
      rw [List.getLast?_eq_none_iff] at hlast
      exact ⟨0, storeInv_of_run fresh clock (by simp [hlast])⟩
    | some last =>
      obtain ⟨init, rfl⟩ := List.getLast?_eq_some_iff.mp hlast
      refine ⟨last.now, storeInv_of_run fresh clock fun r hr => ?_⟩
      rw [List.map_append, List.pairwise_append] at clock
      rcases List.mem_append.mp hr with hr | hr
      · exact clock.2.2 _ (List.mem_map_of_mem hr) _ (by simp)
      · rw [List.mem_singleton.mp hr]
  obtain ⟨stop, inv⟩ := inv
  refine inv.ordered.counted_le _ startedAt rule.limit ?_
  rw [configured.key]
  exact_mod_cast configured.interval

end Runs

/-- Whatever the requests, at times that never go back: two admitted requests of one account
and path are at least a second apart; in one window (entries of a key with one start) every rule
admits at most its limit; and a request rejected by a rule is not rejected by that rule when it
is made again, with nothing in between, after the seconds it was told to wait. -/
theorem acquireTestnetOrder_guarantees (alertRuntime : Bool) (requests : List OrderRequest)
    (clock : (requests.map (·.now)).Pairwise (· ≤ ·)) :
    (∀ front a mid b back, requests = front ++ a :: mid ++ b :: back →
      a.exchangeName = b.exchangeName → a.exchangeAccountId = b.exchangeAccountId →
      a.requestPath = b.requestPath →
      (({ alertRuntime } : RuntimeRateLimitService).serveAll front).Admits a →
      (({ alertRuntime } : RuntimeRateLimitService).serveAll (front ++ a :: mid)).Admits b →
      a.now + 1 ≤ b.now) ∧
    (∀ exchangeName rules, testnetOrderRules exchangeName = .ok rules → ∀ rule ∈ rules,
      ∀ exchangeAccountId requestPath startedAt,
        ((({ alertRuntime } : RuntimeRateLimitService).serveAll requests).store.history.filter
          fun e => e.key = rateLimitKey rule exchangeName exchangeAccountId requestPath ∧
            e.window.startedAt = startedAt ∧ e.window.count ≤ rule.limit).length ≤ rule.limit) ∧
    (∀ front a back ruleName wait, requests = front ++ a :: back →
      (({ alertRuntime } : RuntimeRateLimitService).serveAll front).RejectsWith a ruleName wait →
      ∀ wait', ¬ (({ alertRuntime } : RuntimeRateLimitService).serveAll (front ++ [a])).RejectsWith
        { a with now := a.now + wait } ruleName wait') := by
  refine ⟨?_, ?_, ?_⟩
  · rintro front a mid b back rfl exchange account path first second
    refine admitted_spaced rfl ?_ ?_ first second
    · exact clock.sublist (by simp)
    · unfold OrderRequest.key
      rw [exchange, account, path]
  · intro exchangeName rules hrules rule hrule exchangeAccountId requestPath startedAt
    exact window_admits_le rfl clock hrules hrule exchangeAccountId requestPath startedAt
  · rintro front a back ruleName wait rfl rejected wait'
    rw [List.map_append, List.pairwise_append] at clock
    have inv := @storeInv_of_run { alertRuntime } _ rfl clock.1 a.now fun r hr =>
      clock.2.2 _ (List.mem_map_of_mem hr) a.now (by simp)
    have served : ({ alertRuntime } : RuntimeRateLimitService).serveAll (front ++ [a]) =
        ((({ alertRuntime } : RuntimeRateLimitService).serveAll front).serve a).2 := by
      simp [serveAll, List.foldl_append]
    rw [served]
    exact serve_after_wait inv.notAhead rejected wait'

/-- An order half a second after another of its account is told to wait one second. -/
theorem acquireTestnetOrder_guarantees_twoOrders :
    let orders : List OrderRequest :=
      [⟨.okx, "account", "/api/v5/trade/order", 0⟩, ⟨.okx, "account", "/api/v5/trade/order", 1 / 2⟩]
    ¬ (({} : RuntimeRateLimitService).serveAll orders).RejectsWith
      ⟨.okx, "account", "/api/v5/trade/order", 1 / 2 + (1 : Nat)⟩ "TESTNET_ORDER_ACCOUNT_SAFETY" 1 :=
  (acquireTestnetOrder_guarantees false
    [⟨.okx, "account", "/api/v5/trade/order", 0⟩, ⟨.okx, "account", "/api/v5/trade/order", 1 / 2⟩]
    (by decide +kernel)).2.2 [⟨.okx, "account", "/api/v5/trade/order", 0⟩]
    ⟨.okx, "account", "/api/v5/trade/order", 1 / 2⟩ [] "TESTNET_ORDER_ACCOUNT_SAFETY" 1 rfl
    (by unfold RejectsWith; decide +kernel) 1

end CopyTrading
