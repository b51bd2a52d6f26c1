import CopyTrading.Effects
import CopyTrading.EmergencyStop
import CopyTrading.Environment
import CopyTrading.SessionAlone

/-!
The trading switches of accounts and risk settings while the emergency stop is enabled.
Activating the stop clears them; later requests leave them clear unless one of them asks for
trading, which no request is refused.
-/

namespace CopyTrading

open Transaction Transaction.Handler DecimalArith

/-! ### The database -/

/-- No account and no risk setting has trading enabled. -/
structure Db.TradingOff (db : Db) : Prop where
  accounts : ∀ row ∈ db.accounts, row.tradingEnabled = false
  riskSettings : ∀ row ∈ db.riskSettings, row.tradingEnabled = false

/-- While the stop is enabled trading is off. -/
def Db.StopHolds (db : Db) : Prop := db.emergencyStopEnabled = true → db.TradingOff

/-- Nothing that is pending switches trading on. -/
structure Work.SwitchesNothingOn (work : Work) : Prop where
  accounts : ∀ row ∈ work.accounts, row.tradingEnabled = false
  accountChanges : ∀ x ∈ work.accountChanges, x.change.tradingEnabled ≠ some true
  riskSettings : ∀ row ∈ work.riskSettings, row.tradingEnabled = false
  riskSettingChanges : ∀ x ∈ work.riskSettingChanges, x.change.tradingEnabled ≠ some true

theorem getD_off {change : Option Bool} {switch : Bool} (off : switch = false)
    (clears : change ≠ some true) : change.getD switch = false := by
  cases change with
  | none => exact off
  | some value => simpa using clears

theorem Work.Written.tradingOff {work : Work} {before after : Db}
    (written : work.Written before after) (quiet : work.SwitchesNothingOn)
    (off : before.TradingOff) : after.TradingOff := by
  constructor
  · intro row hrow
    rcases (Table.mem_insertAll written.accounts).mp hrow with hold | hnew
    · obtain ⟨old, stored, rfl⟩ := Table.mem_writeBack.mp hold
      exact Table.updated_keeps (P := fun row : ExchangeAccount => row.tradingEnabled = false)
        (fun x hx _ off => getD_off off (quiet.accountChanges x hx)) (off.accounts old stored)
    · exact quiet.accounts row hnew
  · intro row hrow
    rcases (Table.mem_insertAll written.riskSettings).mp hrow with hold | hnew
    · obtain ⟨old, stored, rfl⟩ := Table.mem_writeBack.mp hold
      exact Table.updated_keeps (P := fun row : RiskSetting => row.tradingEnabled = false)
        (fun x hx _ off => getD_off off (quiet.riskSettingChanges x hx))
        (off.riskSettings old stored)
    · exact quiet.riskSettings row hnew

theorem mem_clearAccounts {accounts : Table ExchangeAccount} {row : ExchangeAccount}
    (stored : row ∈ clearAccounts accounts) : row.tradingEnabled = false := by
  obtain ⟨old, -, rfl⟩ := List.mem_map.mp stored
  rfl

theorem mem_clearRiskSettings {settings : Table RiskSetting} {row : RiskSetting}
    (stored : row ∈ clearRiskSettings settings) : row.tradingEnabled = false := by
  obtain ⟨old, -, rfl⟩ := List.mem_map.mp stored
  rfl

/-- Whatever was stored before, the stop is enabled over trading that is off. -/
theorem StopChange.stopHolds {change : StopChange} {before after : Db}
    (applied : change.apply before = some after) : after.StopHolds := by
  simp only [StopChange.apply, Option.bind_eq_bind, Option.bind_eq_some_iff, Option.pure_def,
    Option.some.injEq] at applied
  obtain ⟨auditLogs, -, rfl⟩ := applied
  intro enabled
  have enabled : change.enabled = true := enabled
  simp only [enabled, if_true]
  exact ⟨fun row => mem_clearAccounts, fun row => mem_clearRiskSettings⟩

/-- A commit that switches nothing on while the stop is enabled keeps it. -/
theorem stopHolds_of_flush {work : Work} {before after : Db}
    (flushed : before.flush work = .ok after) (noStop : work.stop = none)
    (quiet : before.emergencyStopEnabled = true → work.SwitchesNothingOn)
    (holds : before.StopHolds) : after.StopHolds := by
  have written := Work.written_of_flush flushed noStop
  intro enabled
  have before_enabled : before.emergencyStopEnabled = true := by
    rw [Db.emergencyStopEnabled, ← written.control]
    exact enabled
  exact written.tradingOff (quiet before_enabled) (holds before_enabled)

/-- Nor does the commit of the stop itself need anything of the rows before it. -/
theorem stopHolds_of_stop {work : Work} {change : StopChange} {before after : Db}
    (flushed : before.flush work = .ok after) (stop : work.stop = some change) :
    after.StopHolds := by
  obtain ⟨mid, -, applied⟩ := Db.stop_of_flush flushed stop
  exact StopChange.stopHolds applied

/-! ### Sessions -/

/-- A commit leaves trading off if the stop is enabled. -/
def CommitsStopped : Event backend → Prop
  | .commit _ _ after => after.db.StopHolds
  | _ => True

theorem quiet_commitsStopped (query : Query) : Quiet semantics CommitsStopped query :=
  fun before answer after answered =>
    ⟨True.intro, @db_eq_of_call query answer before after answered⟩

/-- Nothing is pending, the stop is as it was, and trading is off if it is enabled. -/
structure Rested (stopped : Bool) (s : Session) (w : World) : Prop where
  work : s.work = {}
  accounts : s.SeesAccounts w.db
  stop : w.db.emergencyStopEnabled = stopped
  holds : w.db.StopHolds

section sessions

variable {α : Type} {stopped : Bool} {s s' : Session} {w w' : World} {py : Platform}

theorem Rested.empty (holds : w.db.StopHolds) : Rested w.db.emergencyStopEnabled {} w where
  work := rfl
  accounts _ h := (List.not_mem_nil h).elim
  stop := rfl
  holds := holds

theorem Rested.look (rested : Rested stopped s w) (looked : Looked s w s' w') :
    Rested stopped s' w' where
  work := looked.work.trans rested.work
  accounts := looked.db ▸ looked.accounts rested.accounts
  stop := looked.db ▸ rested.stop
  holds := looked.db ▸ rested.holds

/-- Run alone the handler commits as `CommitsStopped` asks, and rests if it returns. -/
def Rests (stopped : Bool) (handler : Service α) (s : Session) (w : World) : Prop :=
  Alone semantics CommitsStopped handler
    (fun outcome s' w' => ∀ value, outcome = .ok value → Rested stopped s' w') s w

theorem Rests.bind {β : Type} {first : Service α} {next : α → Service β}
    (hfirst : Rests stopped first s w)
    (returned : ∀ value s' w', Rested stopped s' w' → Rests stopped (next value) s' w') :
    Rests stopped (first >>= next) s w :=
  Alone.bind hfirst (fun value s' w' rests => returned value s' w' (rests value rfl))
    fun _ _ _ _ _ heq => nomatch heq

theorem Rests.throw {raised : Exc} : Rests stopped (throw raised : Service α) s w :=
  fun _ heq => nomatch heq

theorem rests_raiseIf {condition : Prop} [Decidable condition] {raised : Exc}
    (rested : Rested stopped s w) : Rests stopped (Handler.raiseIf condition raised) s w :=
  alone_raiseIf.mpr ⟨fun _ _ heq => (nomatch heq), fun _ _ _ => rested⟩

theorem Rests.of_looks {handler : Service α} {Q : Except Exc α → Prop}
    (looks : Looks semantics CommitsStopped handler Q s w) (rested : Rested stopped s w) :
    Rests stopped handler s w :=
  Alone.mono looks fun _ _ _ h _ _ => rested.look h.2

theorem rests_commit (noStop : s.work.stop = none) (stop : w.db.emergencyStopEnabled = stopped)
    (quiet : stopped = true → s.pending.SwitchesNothingOn) (holds : w.db.StopHolds) :
    Rests stopped Session.commit s w := by
  refine alone_commit.mpr ⟨fun after flushed => ?_, fun fault _ => fun _ heq => nomatch heq⟩
  have committed := (World.flush_ok flushed).1
  have holds' : after.db.StopHolds :=
    stopHolds_of_flush committed noStop (fun enabled => quiet (stop.symm.trans enabled)) holds
  have control := (Work.written_of_flush committed noStop).control
  refine ⟨holds', fun _ _ => ⟨rfl, fun _ h => (List.not_mem_nil h).elim, ?_, holds'⟩⟩
  rw [Db.emergencyStopEnabled, control]
  exact stop

/-- Rows that switch nothing on are added and committed. -/
theorem rests_add_commit {extend : Work → Work} {next : Service α} (rested : Rested stopped s w)
    (noStop : (extend {}).stop = none)
    (quiet : stopped = true → (extend {}).SwitchesNothingOn)
    (returned : ∀ s' w', Rested stopped s' w' → Rests stopped next s' w') :
    Rests stopped (do Session.add extend; Session.commit; next) s w := by
  have work := rested.work
  have committed : Rests stopped Session.commit { s with work := extend s.work } w := by
    refine rests_commit ?_ rested.stop (fun enabled => ?_) rested.holds
    · rw [work]
      exact noStop
    · obtain ⟨accounts, -, riskSettings, riskSettingChanges⟩ := quiet enabled
      rw [work]
      refine ⟨accounts, fun x hx => ?_, riskSettings, riskSettingChanges⟩
      rw [(rested.accounts x hx).1]
      exact fun h => nomatch h
  exact committed.bind fun _ => returned

/-- Columns of a held account are set and committed. -/
theorem rests_setAccount_commit {id : String} {set : ExchangeAccount → ExchangeAccount.Change}
    (rested : Rested stopped s w)
    (clears : stopped = true → ∀ row, (set row).tradingEnabled ≠ some true) :
    Rests stopped (do Session.setAccount id set; Session.commit) s w := by
  have work := rested.work
  refine rests_commit (congrArg Work.stop work) rested.stop (fun enabled => ?_) rested.holds
  dsimp only [Session.pending]
  rw [work]
  refine ⟨fun _ h => (List.not_mem_nil h).elim, fun x hx => ?_,
    fun _ h => (List.not_mem_nil h).elim, fun _ h => (List.not_mem_nil h).elim⟩
  obtain ⟨held, hheld, rfl⟩ := List.mem_map.mp hx
  split
  · exact clears enabled held.loaded
  · rw [(rested.accounts held hheld).1]
    exact fun h => nomatch h

theorem dirtyColumn_clears {loaded : Bool} {value : Option Bool} (clears : value ≠ some true) :
    Session.dirtyColumn loaded value ≠ some true := by
  intro written
  exact clears (Option.mem_filter_iff.mp written).1

/-! ### Requests on their own -/

theorem rests_account {id : String} (rested : Rested stopped s w) :
    Rests stopped (Session.account id) s w :=
  .of_looks (looks_account rested.accounts) rested

theorem rests_getOwnedAccount {userId accountId : String} (rested : Rested stopped s w) :
    Rests stopped (getOwnedAccount userId accountId) s w :=
  .of_looks (looks_getOwnedAccount rested.accounts) rested

theorem rests_query {select : Db → α} (rested : Rested stopped s w) :
    Rests stopped (Session.query select) s w :=
  fun _ _ => rested

theorem rests_refreshRiskSetting {accountId : String} (rested : Rested stopped s w) :
    Rests stopped (refreshRiskSetting accountId) s w := by
  unfold refreshRiskSetting
  refine (rests_query rested).bind fun found s' w' rested' => ?_
  cases found with
  | none => exact .throw
  | some row => exact fun _ _ => rested'

/-- A new row of risk settings has trading disabled. -/
theorem rests_getOrCreateRiskSettings {userId accountId : String} (rested : Rested stopped s w) :
    Rests stopped (getOrCreateRiskSettings userId accountId) s w := by
  unfold getOrCreateRiskSettings
  refine (rests_query rested).bind fun found s' w' rested' => ?_
  cases found with
  | some settings => exact fun _ _ => rested'
  | none =>
    refine rests_add_commit rested' rfl (fun _ => ?_) fun _ _ => rests_refreshRiskSetting
    refine ⟨fun _ h => (List.not_mem_nil h).elim, fun _ h => (List.not_mem_nil h).elim,
      fun row hrow => ?_, fun _ h => (List.not_mem_nil h).elim⟩
    rw [List.mem_singleton.mp hrow]
    rfl

theorem rests_boundColumn {precision scale : Nat} {value : Option (Option Decimal)}
    (rested : Rested stopped s w) :
    Rests stopped (boundColumn value : Service (Option (Option (Numeric precision scale)))) s w := by
  unfold boundColumn
  cases value with
  | none => exact fun _ _ => rested
  | some value =>
    cases value with
    | none => exact fun _ _ => rested
    | some value =>
      dsimp only [toColumn?, toColumn]
      split
      · exact fun _ _ => rested
      · exact .throw

theorem rests_updateRiskSettings {settings : RiskSetting} {data : RiskSettingUpdate}
    {alertRuntime : Bool} (asks : stopped = true → data.tradingEnabled ≠ some (some true))
    (rested : Rested stopped s w) :
    Rests stopped (updateRiskSettings py settings data alertRuntime) s w := by
  unfold updateRiskSettings
  refine (rests_boundColumn rested).bind fun _ _ _ rested => ?_
  refine (rests_boundColumn rested).bind fun _ _ _ rested => ?_
  refine (rests_boundColumn rested).bind fun _ _ _ rested => ?_
  refine (rests_boundColumn rested).bind fun _ _ _ rested => ?_
  refine (rests_boundColumn rested).bind fun _ _ _ rested => ?_
  refine (rests_raiseIf rested).bind fun _ _ _ rested => ?_
  refine rests_add_commit rested rfl (fun enabled => ?_) fun _ _ rested => ?_
  · refine ⟨fun _ h => (List.not_mem_nil h).elim, fun _ h => (List.not_mem_nil h).elim,
      fun _ h => (List.not_mem_nil h).elim, fun x hx => ?_⟩
    rw [List.mem_singleton.mp hx]
    refine dirtyColumn_clears fun written => asks enabled ?_
    exact Option.join_eq_some_iff.mp written
  · refine (rests_refreshRiskSetting rested).bind fun _ _ _ rested => ?_
    unfold notifyEmergencyStopEnabled
    refine Rests.bind ?_ fun _ _ _ rested _ _ => rested
    split
    · exact .of_looks (looks_ask (quiet_commitsStopped _)) rested
    · exact fun _ _ => rested

theorem rests_patchRiskSettings {userId accountId : String} {payload : RiskSettingUpdate}
    (asks : stopped = true → payload.tradingEnabled ≠ some (some true))
    (rested : Rested stopped s w) :
    Rests stopped (patchRiskSettings py userId accountId payload) s w := by
  unfold patchRiskSettings
  refine (rests_getOwnedAccount rested).bind fun found _ _ rested => ?_
  cases found with
  | none => exact .throw
  | some account =>
    refine (rests_raiseIf rested).bind fun _ _ _ rested => ?_
    refine (rests_getOrCreateRiskSettings rested).bind fun _ _ _ rested => ?_
    exact rests_updateRiskSettings asks rested

theorem rests_readRiskSettings {userId accountId : String} (rested : Rested stopped s w) :
    Rests stopped (readRiskSettings userId accountId) s w := by
  unfold readRiskSettings
  refine (rests_getOwnedAccount rested).bind fun found _ _ rested => ?_
  cases found with
  | none => exact .throw
  | some account => exact rests_getOrCreateRiskSettings rested

theorem rests_addAccount {userId : String} {payload : ExchangeAccountCreate}
    (asks : stopped = true → payload.tradingEnabled ≠ true) (rested : Rested stopped s w) :
    Rests stopped (addAccount userId payload) s w := by
  unfold addAccount createAccount
  refine (Rests.of_looks (looks_ask (quiet_commitsStopped _)) rested).bind fun id _ _ rested => ?_
  refine rests_add_commit rested rfl (fun enabled => ?_) fun _ _ => rests_account
  refine ⟨fun row hrow => ?_, fun _ h => (List.not_mem_nil h).elim,
    fun _ h => (List.not_mem_nil h).elim, fun _ h => (List.not_mem_nil h).elim⟩
  rw [List.mem_singleton.mp hrow]
  exact Bool.eq_false_iff.mpr (asks enabled)

theorem rests_patchAccount {userId accountId : String} {payload : ExchangeAccountUpdate}
    (asks : stopped = true → payload.tradingEnabled ≠ some true) (rested : Rested stopped s w) :
    Rests stopped (patchAccount userId accountId payload) s w := by
  unfold patchAccount updateAccount
  refine (rests_getOwnedAccount rested).bind fun found _ _ rested => ?_
  cases found with
  | none => exact .throw
  | some account =>
    dsimp only
    rw [← bind_assoc]
    refine Rests.bind ?_ fun _ _ _ => rests_account
    refine rests_setAccount_commit rested fun enabled row => ?_
    exact dirtyColumn_clears (asks enabled)

theorem rests_removeAccount {userId accountId : String} (rested : Rested stopped s w) :
    Rests stopped (removeAccount userId accountId) s w := by
  unfold removeAccount deleteAccount
  refine (rests_getOwnedAccount rested).bind fun found _ _ rested => ?_
  cases found with
  | none => exact .throw
  | some account =>
    refine rests_setAccount_commit rested fun _ row => ?_
    have off : some false ≠ some true := by simp
    exact dirtyColumn_clears off

theorem alone_setEmergencyStop {enabled : Bool} {actorId reason : String} :
    Alone semantics CommitsStopped (setEmergencyStop py enabled actorId reason) (fun _ _ _ => True)
      s w := by
  unfold setEmergencyStop
  refine alone_ask_bind.mpr fun auditLogId w₁ _ => ⟨True.intro, ?_⟩
  refine alone_ask_bind.mpr fun createdAt w₂ _ => ⟨True.intro, ?_⟩
  rw [alone_bind, alone_add, andThen_ok, alone_bind, alone_commit]
  refine ⟨fun after flushed => ⟨?_, ?_⟩, fun _ _ => True.intro⟩
  · exact stopHolds_of_stop (World.flush_ok flushed).1 rfl
  · rw [andThen_ok]
    unfold getEmergencyStopState
    rw [alone_bind, alone_query, andThen_ok]
    split
    · exact True.intro
    · exact True.intro

end sessions

/-! ### Requests, one after the other -/

inductive ControlRequest where
  | setEmergencyStop (enabled : Bool) (actorId reason : String)
  | createAccount (userId : String) (payload : ExchangeAccountCreate)
  | updateAccount (userId accountId : String) (payload : ExchangeAccountUpdate)
  | deleteAccount (userId accountId : String)
  | readRiskSettings (userId accountId : String)
  | updateRiskSettings (userId accountId : String) (payload : RiskSettingUpdate)

def ControlRequest.service (py : Platform) : ControlRequest → Service Unit
  | .setEmergencyStop enabled actorId reason => discard <| CopyTrading.setEmergencyStop py enabled actorId reason
  | .createAccount userId payload => discard <| addAccount userId payload
  | .updateAccount userId accountId payload => discard <| patchAccount userId accountId payload
  | .deleteAccount userId accountId => removeAccount userId accountId
  | .readRiskSettings userId accountId => discard <| CopyTrading.readRiskSettings userId accountId
  | .updateRiskSettings userId accountId payload =>
    discard <| patchRiskSettings py userId accountId payload

/-- The request carries `trading_enabled = true`. -/
def ControlRequest.AsksForTrading : ControlRequest → Prop
  | .createAccount _ payload => payload.tradingEnabled = true
  | .updateAccount _ _ payload => payload.tradingEnabled = some true
  | .updateRiskSettings _ _ payload => payload.tradingEnabled = some (some true)
  | _ => False

/-- Requests that `Admitted` lets in, one at a time, each in a session of its own, cut off
anywhere or run to its end. -/
inductive ControlRun (py : Platform) (Admitted : Db → ControlRequest → Prop) (start : World) :
    World → Prop where
  | start : ControlRun py Admitted start start
  | request {before after : World} {trace : List (Event backend)}
      {rest : Prog backend (Except Exc Unit × Session)} (run : ControlRun py Admitted start before)
      (request : ControlRequest) (admitted : Admitted before.db request)
      (ran : Prog.Run semantics (request.service py).run before trace rest after) :
      ControlRun py Admitted start after

/-- Nobody asks for trading while the stop is enabled. -/
def RespectsStop (db : Db) (request : ControlRequest) : Prop :=
  db.emergencyStopEnabled = true → ¬ request.AsksForTrading

/-- Run alone, an admitted request commits only with trading off if the stop is enabled. -/
theorem ControlRequest.commitsStopped {py : Platform} (request : ControlRequest) {w : World}
    (respects : RespectsStop w.db request) (holds : w.db.StopHolds) :
    Alone semantics CommitsStopped (request.service py) (fun _ _ _ => True) {} w := by
  have rested := Rested.empty holds
  have ends {α : Type} {service : Service α}
      (rests : Rests w.db.emergencyStopEnabled service {} w) :
      Alone semantics CommitsStopped (discard service) (fun _ _ _ => True) {} w :=
    alone_discard.mpr (Alone.mono rests fun _ _ _ _ => True.intro)
  cases request with
  | setEmergencyStop => exact alone_discard.mpr alone_setEmergencyStop
  | createAccount => exact ends (rests_addAccount respects rested)
  | updateAccount => exact ends (rests_patchAccount respects rested)
  | deleteAccount => exact Alone.mono (rests_removeAccount rested) fun _ _ _ _ => True.intro
  | readRiskSettings => exact ends (rests_readRiskSettings rested)
  | updateRiskSettings => exact ends (rests_patchRiskSettings respects rested)

/-- A sound step keeps trading off under the stop if its commit does. -/
theorem stopHolds_of_step {e : Event backend} (sound : e.Sound semantics)
    (commits : e.isAction = true → CommitsStopped e) (before : e.before.db.StopHolds) :
    e.after.db.StopHolds := by
  cases e with
  | read | abort => exact before
  | commit => exact commits rfl
  | call query answer before' after =>
    have same : after.db = before'.db := @db_eq_of_call query answer before' after sound
    exact same ▸ before

/-- While every request made under the stop leaves trading alone, the stop is enabled over no
account and no risk setting that has trading enabled. -/
theorem stop_keeps_trading_off {py : Platform} {start last : World} (holds : start.db.StopHolds)
    (run : ControlRun py RespectsStop start last) (stopped : last.db.emergencyStopEnabled = true) :
    (∀ account ∈ last.db.accounts, account.tradingEnabled = false) ∧
    ∀ settings ∈ last.db.riskSettings, settings.tradingEnabled = false := by
  have kept : last.db.StopHolds := by
    clear stopped
    induction run with
    | start => exact holds
    | request run request respects ran ih =>
      obtain ⟨commits, -⟩ := ran.of_alone (request.commitsStopped respects ih)
      exact ran.preserves (P := fun world : World => world.db.StopHolds) ih
        fun e he sound => stopHolds_of_step sound (commits e he)
  exact ⟨(kept stopped).accounts, (kept stopped).riskSettings⟩

/-- The world after a request was served. -/
def servedWorld (request : ControlRequest) (world : World) : World :=
  (Exchange.serving ⟨true, .empty⟩ (request.service asciiPlatform).run world 20).2.store

theorem ControlRun.serve {Admitted : Db → ControlRequest → Prop} {start world : World}
    (run : ControlRun asciiPlatform Admitted start world) (request : ControlRequest)
    (admitted : Admitted world.db request) :
    ControlRun asciiPlatform Admitted start (servedWorld request world) :=
  run.request request admitted
    (Exchange.serving_run ⟨true, .empty⟩ (request.service asciiPlatform).run world 20)

/-- An account that trades from the start. -/
def tradingAccount : ExchangeAccountCreate where
  exchangeName := .binance
  accountLabel := "sample"
  tradingEnabled := true

/-- The account is created, then the stop is enabled. -/
def stoppedWorld : World :=
  servedWorld (.setEmergencyStop true "admin" "drill")
    (servedWorld (.createAccount "u" tradingAccount) {})

theorem stop_keeps_trading_off_drill :
    stoppedWorld.db.emergencyStopEnabled = true ∧
    (∃ account ∈ stoppedWorld.db.accounts, account.userId = "u") ∧
    (∀ account ∈ stoppedWorld.db.accounts, account.tradingEnabled = false) ∧
    ∀ settings ∈ stoppedWorld.db.riskSettings, settings.tradingEnabled = false := by
  have stopped : stoppedWorld.db.emergencyStopEnabled = true := by decide +kernel
  have started : (servedWorld (.createAccount "u" tradingAccount) {}).db.emergencyStopEnabled =
      false := by decide +kernel
  have holds : Db.StopHolds {} := fun h => nomatch h
  have run : ControlRun asciiPlatform RespectsStop {} stoppedWorld :=
    (ControlRun.start.serve _ fun h => nomatch h).serve _ fun h => nomatch started.symm.trans h
  exact ⟨stopped, by decide +kernel, stop_keeps_trading_off holds run stopped⟩

/-- No request is refused under the stop: the account is switched on again. -/
theorem trading_switched_on_under_stop :
    ∃ last, ControlRun asciiPlatform (fun _ _ => True) {} last ∧
      last.db.emergencyStopEnabled = true ∧
      ∃ account ∈ last.db.accounts, account.tradingEnabled = true := by
  let switchOn : ControlRequest := .updateAccount "u" "id0" { tradingEnabled := some true }
  have run : ControlRun asciiPlatform (fun _ _ => True) {} (servedWorld switchOn stoppedWorld) :=
    ((ControlRun.start.serve _ True.intro).serve _ True.intro).serve _ True.intro
  exact ⟨_, run, by decide +kernel, by decide +kernel⟩

end CopyTrading
