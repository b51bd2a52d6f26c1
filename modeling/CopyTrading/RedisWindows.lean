import Mathlib.Data.Rat.Floor
import CopyTrading.RateLimitService
import CopyTrading.StateEffect

/-!
The Redis window store of the rate limiter. A window is a counter that expires: `INCR` opens or
counts, and the one call that opened it sends `EXPIRE`. Each command may fail before or after the
server has run it.
-/

namespace CopyTrading

/-! ### The server -/

/-- A counter key, and the moment it expires. -/
structure RedisCounter where
  count : Nat
  expiresAt : Option ℚ := none
  deriving DecidableEq

/-- The counter keys of a server. -/
abbrev Redis := String → Option RedisCounter

namespace Redis

def empty : Redis := fun _ => none

/-- A key whose moment has come is gone. -/
def live (redis : Redis) (key : String) (now : ℚ) : Option RedisCounter :=
  (redis key).filter fun counter => counter.expiresAt.all fun moment => now < moment

/-- `INCR`: a key that is missing counts from 0 and has no expiry. -/
def incr (key : String) (now : ℚ) (redis : Redis) : Nat × Redis :=
  let counter := (redis.live key now).getD ⟨0, none⟩
  (counter.count + 1,
    Function.update redis key (some { counter with count := counter.count + 1 }))

/-- `EXPIRE`: a time that is not positive deletes the key. -/
def expire (key : String) (seconds : Int) (now : ℚ) (redis : Redis) : Unit × Redis :=
  ((), Function.update redis key <| (redis.live key now).bind fun counter =>
    if 0 < seconds then some { counter with expiresAt := some (now + seconds) } else none)

/-- `TTL`, in whole seconds. -/
def ttl (key : String) (now : ℚ) (redis : Redis) : Int × Redis :=
  match redis.live key now with
  | none => (-2, redis)
  | some ⟨_, none⟩ => (-1, redis)
  | some ⟨_, some moment⟩ => (⌊moment - now + 1 / 2⌋, redis)

end Redis

/-- What becomes of a command. The client has a `RedisError` unless it is answered; the server
runs it, at its time, unless it is lost. -/
inductive Delivery where
  | answered (time : ℚ)
  | unanswered (time : ℚ)
  | lost

structure RedisError where

/-- Send a command that the server runs as `command`. -/
def Delivery.send {α : Type} (delivery : Delivery) (command : ℚ → Redis → α × Redis) :
    EStateM RedisError Redis α := fun redis =>
  match delivery with
  | .answered time => .ok (command time redis).1 (command time redis).2
  | .unanswered time => .error {} (command time redis).2
  | .lost => .error {} redis

/-- The commands of one acquisition. -/
structure Deliveries where
  incr : Delivery
  expire : Delivery
  ttl : Delivery

/-! ### The store -/

/-- `_escape_key_part`. -/
def escapeKeyPart (value : String) : String :=
  String.ofList (value.toList.map fun c => if c = ':' ∨ c = '/' then '_' else c)

structure RedisRateLimitWindowStore where
  keyPrefix : String := "trading:rate_limit"

namespace RedisRateLimitWindowStore

def redisKey (store : RedisRateLimitWindowStore) (key : RateLimitKey) : String :=
  ":".intercalate
    [store.keyPrefix, escapeKeyPart key.1, escapeKeyPart key.2.1, escapeKeyPart key.2.2]

/-- The commands of `acquire`: only the call that counted 1 sends `EXPIRE`. -/
def count (store : RedisRateLimitWindowStore) (key : RateLimitKey) (intervalSeconds : Int)
    (deliveries : Deliveries) : EStateM RedisError Redis (Nat × Int) := do
  let count ← deliveries.incr.send (Redis.incr (store.redisKey key))
  if count = 1 then
    deliveries.expire.send (Redis.expire (store.redisKey key) intervalSeconds)
  let ttl ← deliveries.ttl.send (Redis.ttl (store.redisKey key))
  return (count, ttl)

/-- The limit and the caller's clock are not used. -/
def acquire (store : RedisRateLimitWindowStore) (key : RateLimitKey) (_limit : Nat)
    (intervalSeconds : Int) (_now : ℚ) (deliveries : Deliveries) :
    EStateM Exc Redis RateLimitWindow := do
  let (count, ttl) ← EStateM.adaptExcept (fun _ : RedisError => Exc.rateLimitStoreUnavailable)
    (store.count key intervalSeconds deliveries)
  return { count, retryAfterSeconds := (max 1 (if 0 < ttl then ttl else intervalSeconds)).toNat }

end RedisRateLimitWindowStore

/-! ### Runs of acquisitions -/

structure AcquireCall where
  key : RateLimitKey
  limit : Nat
  intervalSeconds : Int
  now : ℚ
  deliveries : Deliveries

namespace AcquireCall

variable (store : RedisRateLimitWindowStore) (call : AcquireCall) (redis : Redis)

def answer : EStateM.Result Exc Redis RateLimitWindow :=
  (store.acquire call.key call.limit call.intervalSeconds call.now call.deliveries).run redis

/-- The server after the call, whatever its client was answered. -/
def after : Redis :=
  match call.answer store redis with
  | .ok _ redis | .error _ redis => redis

/-- A call that opens a window has it expire: it does not lose the answer to its `INCR`, and its
`EXPIRE` takes effect. -/
def Completes : Prop :=
  match call.deliveries.incr with
  | .lost => True
  | .unanswered time => redis.live (store.redisKey call.key) time ≠ none
  | .answered time =>
      redis.live (store.redisKey call.key) time = none → call.deliveries.expire ≠ .lost

end AcquireCall

/-- The server after the calls, which start on an empty one. -/
def redisAfter (store : RedisRateLimitWindowStore) (calls : List AcquireCall) : Redis :=
  calls.foldl (fun redis call => call.after store redis) Redis.empty

theorem redisAfter_append (store : RedisRateLimitWindowStore) (front : List AcquireCall)
    (call : AcquireCall) :
    redisAfter store (front ++ [call]) = call.after store (redisAfter store front) := by
  simp [redisAfter]

/-! ### What a call leaves behind -/

/-- The server after a command. -/
def Delivery.effect (delivery : Delivery) (command : ℚ → Redis → Redis) (redis : Redis) : Redis :=
  match delivery with
  | .answered time | .unanswered time => command time redis
  | .lost => redis

section

variable {store : RedisRateLimitWindowStore} {call : AcquireCall} {redis : Redis} {key : String}
  {now : ℚ}

@[simp] theorem Redis.ttl_state : (Redis.ttl key now redis).2 = redis := by
  unfold Redis.ttl
  split <;> rfl

theorem Redis.incr_of_ne {other : String} (ne : other ≠ key) :
    (Redis.incr key now redis).2 other = redis other := by
  simp [Redis.incr, ne]

theorem Redis.expire_of_ne {other : String} {seconds : Int} (ne : other ≠ key) :
    (Redis.expire key seconds now redis).2 other = redis other := by
  simp [Redis.expire, ne]

theorem Redis.incr_self :
    (Redis.incr key now redis).2 key = some ⟨((redis.live key now).getD ⟨0, none⟩).count + 1,
      ((redis.live key now).getD ⟨0, none⟩).expiresAt⟩ := by
  simp [Redis.incr]

/-- Neither a lost answer nor the `TTL` changes what the other commands have done. -/
theorem AcquireCall.after_eq (store : RedisRateLimitWindowStore) (call : AcquireCall)
    (redis : Redis) :
    call.after store redis =
      match call.deliveries.incr with
      | .lost => redis
      | .unanswered time => (Redis.incr (store.redisKey call.key) time redis).2
      | .answered time =>
          let counted := Redis.incr (store.redisKey call.key) time redis
          if counted.1 = 1 then
            call.deliveries.expire.effect (fun time redis =>
              (Redis.expire (store.redisKey call.key) call.intervalSeconds time redis).2) counted.2
          else counted.2 := by
  obtain ⟨key, limit, interval, now, ⟨incr, expire, ttl⟩⟩ := call
  cases incr with
  | lost => rfl
  | unanswered time => rfl
  | answered time =>
    by_cases one : (Redis.incr (store.redisKey key) time redis).1 = 1
    · cases expire <;> cases ttl <;>
        simp [after, answer, RedisRateLimitWindowStore.acquire, RedisRateLimitWindowStore.count,
          EStateM.run, bind, pure, EStateM.bind, EStateM.pure, EStateM.adaptExcept, Delivery.send,
          Delivery.effect, one]
    · cases ttl <;>
        simp [after, answer, RedisRateLimitWindowStore.acquire, RedisRateLimitWindowStore.count,
          EStateM.run, bind, pure, EStateM.bind, EStateM.pure, EStateM.adaptExcept, Delivery.send,
          one]

/-! ### Keys that expire -/

/-- A key that exists expires. -/
def Redis.Expires (redis : Redis) (key : String) : Prop :=
  ∀ counter, redis key = some counter → counter.expiresAt ≠ none

/-- Every key that exists expires. -/
def Redis.Expiring (redis : Redis) : Prop := ∀ key, redis.Expires key

theorem Redis.Expires.congr {redis' : Redis} (expires : redis.Expires key)
    (same : redis' key = redis key) : redis'.Expires key := by
  unfold Redis.Expires
  rwa [same]

theorem Redis.of_live {counter : RedisCounter} (live : redis.live key now = some counter) :
    redis key = some counter ∧ ∀ moment, counter.expiresAt = some moment → now < moment := by
  unfold Redis.live at live
  obtain ⟨found, notOver⟩ := Option.filter_eq_some_iff.mp live
  refine ⟨found, fun moment hmoment => ?_⟩
  rw [hmoment] at notOver
  simpa using notOver

/-- Counting in an open window leaves its expiry alone. -/
theorem Redis.Expiring.incr (expiring : redis.Expiring) (opened : redis.live key now ≠ none) :
    (Redis.incr key now redis).2.Expiring := by
  intro other
  by_cases same : other = key
  · subst same
    obtain ⟨counter, live⟩ := Option.ne_none_iff_exists'.mp opened
    intro counted hcounted
    rw [Redis.incr_self, live] at hcounted
    cases hcounted
    exact expiring other counter (Redis.of_live live).1
  · exact (expiring other).congr (Redis.incr_of_ne same)

theorem Redis.expires_expire {seconds : Int} :
    (Redis.expire key seconds now redis).2.Expires key := by
  intro counter found
  simp only [Redis.expire, Function.update_self, Option.bind_eq_some_iff] at found
  obtain ⟨before, -, found⟩ := found
  split at found
  · cases found
    exact Option.some_ne_none _
  · cases found

/-- The step lemma: what a call must do for every key to expire after it. -/
theorem expiring_after_iff (expiring : redis.Expiring) :
    (call.after store redis).Expiring ↔ call.Completes store redis := by
  obtain ⟨key, limit, interval, now, ⟨incr, expire, ttl⟩⟩ := call
  rw [AcquireCall.after_eq]
  unfold AcquireCall.Completes
  generalize store.redisKey key = redisKey
  have fresh : ∀ time, redis.live redisKey time = none →
      ¬(Redis.incr redisKey time redis).2.Expiring := by
    intro time missing expires
    exact expires redisKey _ Redis.incr_self (by rw [missing]; rfl)
  cases incr with
  | lost => exact iff_of_true expiring True.intro
  | unanswered time => exact ⟨fun expires missing => fresh time missing expires, expiring.incr⟩
  | answered time =>
    dsimp only
    by_cases opened : redis.live redisKey time = none
    · have one : (Redis.incr redisKey time redis).1 = 1 := by
        simp [Redis.incr, opened]
      have set : ∀ moment, (Redis.expire redisKey interval moment
          (Redis.incr redisKey time redis).2).2.Expiring := by
        intro moment other
        by_cases same : other = redisKey
        · exact same ▸ Redis.expires_expire
        · exact (expiring other).congr
            ((Redis.expire_of_ne same).trans (Redis.incr_of_ne same))
      rw [if_pos one]
      cases expire with
      | lost => exact iff_of_false (fresh time opened) fun completes => completes opened rfl
      | answered moment => exact iff_of_true (set moment) fun _ h => (nomatch h)
      | unanswered moment => exact iff_of_true (set moment) fun _ h => (nomatch h)
    · refine iff_of_true ?_ fun missing => absurd missing opened
      have counted := expiring.incr opened
      split
      · cases expire with
        | lost => exact counted
        | answered moment | unanswered moment =>
          intro other
          by_cases same : other = redisKey
          · exact same ▸ Redis.expires_expire
          · exact (counted other).congr (Redis.expire_of_ne same)
      · exact counted

theorem expiring_empty : Redis.empty.Expiring := by
  intro key counter found
  cases found

/-- The run lemma. -/
theorem expiring_run_iff (calls : List AcquireCall) :
    (∀ front, front <+: calls → (redisAfter store front).Expiring) ↔
      ∀ front call, front ++ [call] <+: calls → call.Completes store (redisAfter store front) := by
  constructor
  · intro expiring front call leading
    have before := expiring front ((List.prefix_append _ _).trans leading)
    have after := expiring (front ++ [call]) leading
    rw [redisAfter_append] at after
    exact (expiring_after_iff before).mp after
  · intro completes front
    induction front using List.reverseRecOn with
    | nil => exact fun _ => expiring_empty
    | append_singleton front call ih =>
      intro leading
      rw [redisAfter_append]
      exact (expiring_after_iff (ih ((List.prefix_append _ _).trans leading))).mpr
        (completes front call leading)

/-! ### When a key is gone -/

/-- When the server ran the command, if it did. -/
def Delivery.ranAt : Delivery → Option ℚ
  | .answered time | .unanswered time => some time
  | .lost => none

/-- If the call is on this key, its interval is at most `length` and no command of it runs
after `last`. -/
def AcquireCall.EndsBy (store : RedisRateLimitWindowStore) (key : String) (last : ℚ) (length : Int)
    (call : AcquireCall) : Prop :=
  store.redisKey call.key = key → call.intervalSeconds ≤ length ∧
    ∀ delivery ∈ [call.deliveries.incr, call.deliveries.expire, call.deliveries.ttl],
      ∀ time, delivery.ranAt = some time → time ≤ last

/-- No expiry of the key is later than `bound`. -/
def Redis.GoneBy (redis : Redis) (key : String) (bound : ℚ) : Prop :=
  ∀ counter, redis key = some counter → ∀ moment, counter.expiresAt = some moment → moment ≤ bound

theorem Redis.GoneBy.incr {bound : ℚ} (gone : redis.GoneBy key bound) :
    (Redis.incr key now redis).2.GoneBy key bound := by
  intro counted hcounted moment hmoment
  rw [Redis.incr_self] at hcounted
  cases hcounted
  cases live : redis.live key now with
  | none =>
    rw [live] at hmoment
    cases hmoment
  | some counter =>
    rw [live] at hmoment
    exact gone counter (Redis.of_live live).1 moment hmoment

theorem Redis.goneBy_expire {last : ℚ} {seconds length : Int} (short : seconds ≤ length)
    (before : now ≤ last) : (Redis.expire key seconds now redis).2.GoneBy key (last + length) := by
  intro counter found moment hmoment
  simp only [Redis.expire, Function.update_self, Option.bind_eq_some_iff] at found
  obtain ⟨earlier, -, found⟩ := found
  split at found
  · cases found
    cases hmoment
    have short' : (seconds : ℚ) ≤ length := by exact_mod_cast short
    exact add_le_add before short'
  · cases found

theorem Redis.GoneBy.after {last : ℚ} {length : Int} (gone : redis.GoneBy key (last + length))
    (ends : call.EndsBy store key last length) :
    (call.after store redis).GoneBy key (last + length) := by
  rw [AcquireCall.after_eq]
  by_cases own : store.redisKey call.key = key
  · obtain ⟨short, ran⟩ := ends own
    rw [own]
    cases call.deliveries.incr with
    | lost => exact gone
    | unanswered time => exact gone.incr
    | answered time =>
      dsimp only
      split
      · cases hexpire : call.deliveries.expire with
        | lost => exact gone.incr
        | answered moment | unanswered moment =>
          exact Redis.goneBy_expire short (ran call.deliveries.expire (by simp) moment
            (by rw [hexpire]; rfl))
      · exact gone.incr
  · -- the call is on another key
    have other : ∀ redis' : Redis, redis' key = redis key → redis'.GoneBy key (last + length) :=
      fun redis' same counter found => gone counter (same ▸ found)
    have counted : ∀ time, (Redis.incr (store.redisKey call.key) time redis).2 key = redis key :=
      fun time => Redis.incr_of_ne fun same => own same.symm
    cases call.deliveries.incr with
    | lost => exact gone
    | unanswered time => exact other _ (counted time)
    | answered time =>
      dsimp only
      split
      · cases call.deliveries.expire with
        | lost => exact other _ (counted time)
        | answered moment | unanswered moment =>
          exact other _ ((Redis.expire_of_ne fun same => own same.symm).trans (counted time))
      · exact other _ (counted time)

theorem goneBy_run {calls : List AcquireCall} {last : ℚ} {length : Int}
    (ends : ∀ call ∈ calls, call.EndsBy store key last length) :
    (redisAfter store calls).GoneBy key (last + length) := by
  induction calls using List.reverseRecOn with
  | nil =>
    intro counter found
    cases found
  | append_singleton front call ih =>
    rw [redisAfter_append]
    exact (ih fun earlier hmem => ends earlier (List.mem_append_left _ hmem)).after
      (ends call (by simp))

/-- A call whose commands are answered returns what its `INCR` counted. -/
theorem acquire_answered (store : RedisRateLimitWindowStore) (redis : Redis) (key : RateLimitKey)
    (limit : Nat) (intervalSeconds : Int) (clock now expireAt ttlAt : ℚ) :
    ∃ wait, (store.acquire key limit intervalSeconds clock
        ⟨.answered now, .answered expireAt, .answered ttlAt⟩).run redis =
      .ok ⟨(Redis.incr (store.redisKey key) now redis).1, wait⟩
        (if (Redis.incr (store.redisKey key) now redis).1 = 1 then
          (Redis.expire (store.redisKey key) intervalSeconds expireAt
            (Redis.incr (store.redisKey key) now redis).2).2
        else (Redis.incr (store.redisKey key) now redis).2) := by
  by_cases one : (Redis.incr (store.redisKey key) now redis).1 = 1
  · apply Exists.intro
    simp only [RedisRateLimitWindowStore.acquire, RedisRateLimitWindowStore.count, EStateM.run,
      bind, pure, EStateM.bind, EStateM.pure, EStateM.adaptExcept, Delivery.send, if_pos one,
      Redis.ttl_state]
    rfl
  · apply Exists.intro
    simp only [RedisRateLimitWindowStore.acquire, RedisRateLimitWindowStore.count, EStateM.run,
      bind, pure, EStateM.bind, EStateM.pure, EStateM.adaptExcept, Delivery.send, if_neg one,
      Redis.ttl_state]
    rfl

/-- After the calls, a key on which no command has run for its interval counts from 1 again. -/
def Readmits (store : RedisRateLimitWindowStore) (calls : List AcquireCall) : Prop :=
  ∀ (key : RateLimitKey) (last : ℚ) (length : Int),
    (∀ call ∈ calls, call.EndsBy store (store.redisKey key) last length) →
    ∀ now, last + length ≤ now → ∀ limit intervalSeconds clock expireAt ttlAt,
      ∃ window redis', (store.acquire key limit intervalSeconds clock
          ⟨.answered now, .answered expireAt, .answered ttlAt⟩).run (redisAfter store calls) =
            .ok window redis' ∧
        window.count = 1

theorem readmits_of_expiring {calls : List AcquireCall}
    (expiring : (redisAfter store calls).Expiring) : Readmits store calls := by
  intro key last length ends now elapsed limit intervalSeconds clock expireAt ttlAt
  have missing : (redisAfter store calls).live (store.redisKey key) now = none := by
    cases live : (redisAfter store calls).live (store.redisKey key) now with
    | none => rfl
    | some counter =>
      obtain ⟨found, ahead⟩ := Redis.of_live live
      obtain ⟨moment, hmoment⟩ := Option.ne_none_iff_exists'.mp (expiring _ counter found)
      have gone := goneBy_run ends counter found moment hmoment
      exact absurd (ahead moment hmoment) (not_lt.mpr (gone.trans elapsed))
  obtain ⟨wait, ran⟩ := acquire_answered store (redisAfter store calls) key limit intervalSeconds
    clock now expireAt ttlAt
  refine ⟨_, _, ran, ?_⟩
  simp [Redis.incr, missing]

/-- Every key expires, and counts from 1 again once its interval has passed, in every state of a
run exactly if every call that opens a window completes it. -/
theorem redis_windows_expire_iff (store : RedisRateLimitWindowStore) (calls : List AcquireCall) :
    (∀ front, front <+: calls →
        (redisAfter store front).Expiring ∧ Readmits store front) ↔
      ∀ front call, front ++ [call] <+: calls →
        call.Completes store (redisAfter store front) := by
  rw [← expiring_run_iff]
  constructor
  · exact fun holds front leading => (holds front leading).1
  · exact fun expiring front leading =>
      ⟨expiring front leading, readmits_of_expiring (expiring front leading)⟩

/-! ### Keys that do not expire -/

/-- A key that exists without an expiry. -/
def Redis.Stuck (redis : Redis) (key : String) : Prop :=
  ∃ count, redis key = some ⟨count + 1, none⟩

theorem Redis.Stuck.live (stuck : redis.Stuck key) (now : ℚ) :
    ∃ count, redis.live key now = some ⟨count + 1, none⟩ := by
  obtain ⟨count, found⟩ := stuck
  exact ⟨count, by simp [Redis.live, found]⟩

/-- Every later call counts in the window that is open already, so none sets an expiry. -/
theorem Redis.Stuck.after (stuck : redis.Stuck key) (store : RedisRateLimitWindowStore)
    (call : AcquireCall) : (call.after store redis).Stuck key := by
  rw [AcquireCall.after_eq]
  have counted : ∀ time, (Redis.incr (store.redisKey call.key) time redis).2.Stuck key := by
    intro time
    by_cases own : key = store.redisKey call.key
    · subst own
      obtain ⟨count, live⟩ := stuck.live time
      exact ⟨count + 1, by rw [Redis.incr_self, live]; rfl⟩
    · obtain ⟨count, found⟩ := stuck
      exact ⟨count, (Redis.incr_of_ne own).trans found⟩
  cases call.deliveries.incr with
  | lost => exact stuck
  | unanswered time => exact counted time
  | answered time =>
    by_cases own : key = store.redisKey call.key
    · subst own
      obtain ⟨count, live⟩ := stuck.live time
      have many : (Redis.incr (store.redisKey call.key) time redis).1 ≠ 1 := by
        simp [Redis.incr, live]
      dsimp only
      rw [if_neg many]
      exact counted time
    · have kept : ∀ moment, (Redis.expire (store.redisKey call.key) call.intervalSeconds moment
          (Redis.incr (store.redisKey call.key) time redis).2).2.Stuck key := by
        intro moment
        obtain ⟨count, found⟩ := counted time
        exact ⟨count, (Redis.expire_of_ne own).trans found⟩
      dsimp only
      split
      · cases call.deliveries.expire with
        | lost => exact counted time
        | answered moment | unanswered moment => exact kept moment
      · exact counted time

theorem stuck_run (store : RedisRateLimitWindowStore) {front : List AcquireCall}
    (stuck : (redisAfter store front).Stuck key) (later : List AcquireCall) :
    (redisAfter store (front ++ later)).Stuck key := by
  induction later using List.reverseRecOn with
  | nil => rwa [List.append_nil]
  | append_singleton rest call ih =>
    rw [← List.append_assoc, redisAfter_append]
    exact ih.after store call

end

/-- The first order of an account; the server never runs its `EXPIRE`. -/
def unexpiringCall : AcquireCall where
  key := ("binance", "TESTNET_ORDER_ACCOUNT_SAFETY", "a1:/api/v3/order")
  limit := 1
  intervalSeconds := 1
  now := 0
  deliveries := ⟨.answered 0, .lost, .lost⟩

theorem lost_expire_locks_out :
    ¬(redisAfter {} [unexpiringCall]).Expiring ∧ ¬Readmits {} [unexpiringCall] ∧
      ∀ later, (redisAfter {} ([unexpiringCall] ++ later)).Stuck
        (RedisRateLimitWindowStore.redisKey {} unexpiringCall.key) := by
  have stuck : (redisAfter {} [unexpiringCall]).Stuck
      (RedisRateLimitWindowStore.redisKey {} unexpiringCall.key) := ⟨0, by decide +kernel⟩
  refine ⟨fun expiring => ?_, fun readmits => ?_, stuck_run {} stuck⟩
  · obtain ⟨count, found⟩ := stuck
    exact expiring _ _ found rfl
  · have ends : ∀ call ∈ [unexpiringCall], call.EndsBy {}
        (RedisRateLimitWindowStore.redisKey {} unexpiringCall.key) 0 1 := by
      intro call hmem _
      rw [List.mem_singleton.mp hmem]
      refine ⟨le_rfl, fun delivery sent time ran => ?_⟩
      simp only [unexpiringCall, List.mem_cons, List.not_mem_nil, or_false] at sent
      rcases sent with rfl | rfl | rfl <;> cases ran
      exact le_rfl
    obtain ⟨window, redis', ran, one⟩ := readmits _ 0 1 ends 60 (by norm_num) 1 1 60 60 60
    obtain ⟨count, live⟩ := stuck.live 60
    obtain ⟨wait, ran'⟩ := acquire_answered {} (redisAfter {} [unexpiringCall])
      unexpiringCall.key 1 1 60 60 60 60
    rw [ran] at ran'
    cases ran'
    simp [Redis.incr, live] at one

end CopyTrading
