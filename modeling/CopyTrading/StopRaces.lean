import CopyTrading.ExecutionRefinement
import CopyTrading.ExecutionSafety
import CopyTrading.TestnetOrder.SubmissionSafety
import CopyTrading.TradingSwitches

/-!
The emergency stop among running orders. Both order paths read the stop and the trading flags
before they place anything, with commits in between: an order is placed under the stop only by a
request whose checks were all behind when the stop was committed.
-/

namespace CopyTrading

open Transaction Transaction.Handler DecimalArith

/-! ### Requests -/

inductive StopRequest where
  | execute (req : ExecRequest)
  | submit (req : SubmitRequest)
  | stop (enabled : Bool) (actorId reason : String)

/-- `set_emergency_stop` writes nothing but the stop. -/
abbrev stopProtocol : Protocol backend where
  Phase := Unit
  Move _ e _ := asksNoExchange e = true ∨
    ∃ change before after, e = .commit { stop := some change } before after

theorem setEmergencyStop_follows (py : Platform) (enabled : Bool) (actorId reason : String) :
    Follows stopProtocol semantics (setEmergencyStop py enabled actorId reason)
      (fun _ _ _ => True) {} () := by
  unfold setEmergencyStop
  refine follows_ask_bind.mpr fun _ _ _ _ => ⟨(), .inl rfl, ?_⟩
  refine follows_ask_bind.mpr fun _ _ _ _ => ⟨(), .inl rfl, ?_⟩
  refine follows_add_bind.mpr (follows_commit_bind.mpr ⟨fun before after _ => ?_, fun _ _ _ => ?_⟩)
  · refine ⟨(), .inr ⟨_, before, after, rfl⟩, ?_⟩
    unfold getEmergencyStopState
    refine follows_query_bind.mpr fun world => ⟨(), .inl rfl, ?_⟩
    split <;> exact True.intro
  · exact ⟨(), .inl rfl, True.intro⟩

namespace StopRequest

abbrev Outcome : StopRequest → Type
  | execute _ => Except Exc OrderExecution × Session
  | submit _ => Except Exc TestnetOrderSubmitResponse × Session
  | stop .. => Except Exc EmergencyStopState × Session

def program (py : Platform) : (r : StopRequest) → Prog backend r.Outcome
  | execute req => (req.service py).run
  | submit req => (req.service py).run
  | stop enabled actorId reason => (setEmergencyStop py enabled actorId reason).run

/-- The account whose flags the request reads. -/
def accountId? : StopRequest → Option String
  | execute req => some req.accountId
  | submit req => some req.payload.exchangeAccountId
  | stop .. => none

abbrev protocol (py : Platform) : StopRequest → Protocol backend
  | execute req => execProtocol req
  | submit req => submitProtocol py req
  | stop .. => stopProtocol

def start (py : Platform) : (r : StopRequest) → (r.protocol py).Phase
  | execute _ => .start
  | submit _ => .start
  | stop .. => ()

/-- What is known of a finished request. -/
def Ended (py : Platform) : (r : StopRequest) → r.Outcome → (r.protocol py).Phase → Prop
  | execute _ => fun outcome stage =>
      Returning (fun result _ => ExecReturns result) outcome.1 outcome.2 stage
  | submit req => fun outcome stage =>
      Ending (fun response _ stage => SubmitReturns py req response stage) outcome.1 outcome.2 stage
  | stop .. => fun _ _ => True

theorem program_follows (py : Platform) (r : StopRequest) :
    (r.program py).Follows (r.protocol py) semantics (r.Ended py) (r.start py) := by
  cases r with
  | execute req => exact executeSignalForAccount_follows py req
  | submit req => exact submitTestnetOrder_follows py req
  | stop enabled actorId reason => exact setEmergencyStop_follows py enabled actorId reason

end StopRequest

variable {ι : Type} {py : Platform} {requests : ι → StopRequest}

/-- Requests that start on a committed database, each in a session of its own. -/
def stopping (py : Platform) (requests : ι → StopRequest) (world : World) :
    Config backend fun i => (requests i).Outcome where
  store := world
  client i := (requests i).program py

/-- An adapter is called, or an order request is handed to the transport. -/
def placesOrder : Event backend → Bool
  | .call query _ _ _ => query.isPlacement
  | _ => false

theorem not_placesOrder {e : Event backend} (idle : isIdle e = true) : placesOrder e = false := by
  cases e with
  | call => simpa [isIdle, placesOrder] using idle
  | read | commit | abort => rfl

/-! ### What a request has read -/

/-- Among the worlds the request has read are one in which the stop is off, one in which the
account may trade and one in which its risk settings allow it. -/
structure Checked (accountId : String) (seen : World → Prop) : Prop where
  stopOff : ∃ w, seen w ∧ w.db.emergencyStopEnabled = false
  accountOn : ∃ w, seen w ∧ ∃ account ∈ w.db.accounts,
    account.id = accountId ∧ account.tradingEnabled = true
  riskOn : ∃ w, seen w ∧ ∃ settings ∈ w.db.riskSettings,
    settings.exchangeAccountId = accountId ∧ settings.tradingEnabled = true

/-- The row was read. -/
def SeesAccount (accountId : String) (seen : World → Prop) (account : ExchangeAccount) : Prop :=
  account.id = accountId ∧ ∃ w, seen w ∧ account ∈ w.db.accounts

def SeesSettings (accountId : String) (seen : World → Prop) (settings : RiskSetting) : Prop :=
  settings.exchangeAccountId = accountId ∧ ∃ w, seen w ∧ settings ∈ w.db.riskSettings

section Knows

variable {seen later : World → Prop} {accountId : String}

theorem exists_seen_mono {p : World → Prop} (found : ∃ w, seen w ∧ p w)
    (still : ∀ w, seen w → later w) : ∃ w, later w ∧ p w := by
  obtain ⟨w, hw, holds⟩ := found
  exact ⟨w, still w hw, holds⟩

theorem Checked.mono (checked : Checked accountId seen) (still : ∀ w, seen w → later w) :
    Checked accountId later where
  stopOff := exists_seen_mono checked.stopOff still
  accountOn := exists_seen_mono checked.accountOn still
  riskOn := exists_seen_mono checked.riskOn still

namespace ExecStage

/-- The reads behind a stage of `execute_signal_for_account`. -/
def Knows (req : ExecRequest) (seen : World → Prop) : ExecStage → Prop
  | admitted | known _ | owned _ | absent _ | created _ =>
    ∃ w, seen w ∧ w.db.emergencyStopEnabled = false
  | weighed _ settings => (∃ w, seen w ∧ w.db.emergencyStopEnabled = false) ∧
    SeesSettings req.accountId seen settings
  | cleared _ | passed _ | submitted _ => Checked req.accountId seen
  | _ => True

/-- All checks of the request are behind, and its order has not been placed. -/
def Cleared : ExecStage → Prop
  | cleared _ | passed _ | submitted _ => True
  | _ => False

variable {req : ExecRequest} {stage stage' : ExecStage} {e : Event backend}

theorem Knows.mono (knows : stage.Knows req seen) (still : ∀ w, seen w → later w) :
    stage.Knows req later := by
  cases stage with
  | admitted | known | owned | absent | created => exact exists_seen_mono knows still
  | weighed => exact ⟨exists_seen_mono knows.1 still, knows.2.1, exists_seen_mono knows.2.2 still⟩
  | cleared | passed | submitted => exact Checked.mono knows still
  | _ => exact True.intro

theorem Knows.move (knows : stage.Knows req seen) (move : ExecMove req stage e stage')
    (still : ∀ w, seen w → later w) (reads : ∀ w, e = .read w → later w) :
    stage'.Knows req later := by
  have kept := knows.mono still
  cases move with
  | idle | know | own | miss | openPosition | create | settle | pass | submit => exact kept
  | enter off => exact ⟨_, reads _ rfl, off⟩
  | weigh stored accountId => exact ⟨kept, accountId, _, reads _ rfl, stored⟩
  | clear stored accountId accountOn riskOn =>
    obtain ⟨off, settingsId, w, hw, storedSettings⟩ := kept
    exact ⟨off, ⟨_, reads _ rfl, _, stored, accountId, accountOn⟩,
      ⟨w, hw, _, storedSettings, settingsId, riskOn⟩⟩
  | _ => exact True.intro

/-- The last check is a read of the account with trading enabled. -/
theorem cleared_from (move : ExecMove req stage e stage') (cleared : stage'.Cleared) :
    stage.Cleared ∨ ¬ e.before.db.TradingOff := by
  cases move with
  | idle => exact .inl cleared
  | pass | submit => exact .inl True.intro
  | clear stored _ accountOn =>
    refine .inr fun off => ?_
    rw [off.accounts _ stored] at accountOn
    cases accountOn
  | _ => cases cleared

/-- The adapter is called by a request whose checks are behind. -/
theorem cleared_of_placement (move : ExecMove req stage e stage') (places : placesOrder e = true) :
    stage.Cleared := by
  cases move with
  | idle idle =>
    rw [not_placesOrder idle] at places
    cases places
  | place => exact True.intro
  | _ => cases places

end ExecStage

namespace SubmitStage

variable {req : SubmitRequest}

/-- The reads behind a stage of `submit_testnet_order`. -/
def Knows (seen : World → Prop) : SubmitStage py req → Prop
  | admitted | settled | refreshed _ => ∃ w, seen w ∧ w.db.emergencyStopEnabled = false
  | owned account | risked account _ => (∃ w, seen w ∧ w.db.emergencyStopEnabled = false) ∧
    SeesAccount req.payload.exchangeAccountId seen account
  | gated account _ | windowed account _ _ | authorized account _ _ _ =>
    (∃ w, seen w ∧ w.db.emergencyStopEnabled = false) ∧ account.tradingEnabled = true ∧
    SeesAccount req.payload.exchangeAccountId seen account
  | ready adm | absent adm => (∃ w, seen w ∧ w.db.emergencyStopEnabled = false) ∧
    SeesAccount req.payload.exchangeAccountId seen adm.context.account
  | weighed adm settings => (∃ w, seen w ∧ w.db.emergencyStopEnabled = false) ∧
    SeesAccount req.payload.exchangeAccountId seen adm.context.account ∧
    SeesSettings req.payload.exchangeAccountId seen settings
  | submitted .. | held .. => Checked req.payload.exchangeAccountId seen
  | _ => True

/-- All checks of the request have been read, and its order has not been sent. -/
def Cleared : SubmitStage py req → Prop
  | weighed _ settings => settings.tradingEnabled = true
  | submitted .. | held .. => True
  | _ => False

variable {stage stage' : SubmitStage py req} {e : Event backend}

theorem Knows.mono (knows : stage.Knows seen) (still : ∀ w, seen w → later w) :
    stage.Knows later := by
  have sees : ∀ {account}, SeesAccount req.payload.exchangeAccountId seen account →
      SeesAccount req.payload.exchangeAccountId later account := fun sees =>
    ⟨sees.1, exists_seen_mono sees.2 still⟩
  cases stage with
  | admitted | settled | refreshed => exact exists_seen_mono knows still
  | owned | risked | ready | absent => exact ⟨exists_seen_mono knows.1 still, sees knows.2⟩
  | gated | windowed | authorized =>
    exact ⟨exists_seen_mono knows.1 still, knows.2.1, sees knows.2.2⟩
  | weighed =>
    exact ⟨exists_seen_mono knows.1 still, sees knows.2.1, knows.2.2.1,
      exists_seen_mono knows.2.2.2 still⟩
  | submitted | held => exact Checked.mono knows still
  | _ => exact True.intro

theorem Knows.move (knows : stage.Knows seen) (move : SubmitMove py req stage e stage')
    (still : ∀ w, seen w → later w) (reads : ∀ w, e = .read w → later w) :
    stage'.Knows later := by
  have kept := knows.mono still
  cases move with
  | idle | risk | refresh | window | authorize | miss | hold => exact kept
  | enter off => exact ⟨_, reads _ rfl, off⟩
  | own stored accountId => exact ⟨kept, accountId, _, reads _ rfl, stored⟩
  | settle => exact kept.1
  | reload stored accountId => exact ⟨kept, accountId, _, reads _ rfl, stored⟩
  | gate _ _ accountOn => exact ⟨kept.1, accountOn, kept.2⟩
  | prepare => exact ⟨kept.1, kept.2.2⟩
  | weigh stored accountId => exact ⟨kept.1, kept.2, accountId, _, reads _ rfl, stored⟩
  | @submit _ _ _ adm settings row submission status passed =>
    obtain ⟨off, ⟨accountId, w, hw, stored⟩, settingsId, w', hw', storedSettings⟩ := kept
    exact ⟨off, ⟨w, hw, _, stored, accountId, adm.accountOn⟩,
      ⟨w', hw', _, storedSettings, settingsId, passed.settingsOn⟩⟩
  | _ => exact True.intro

/-- The last check is a read of risk settings with trading enabled. -/
theorem cleared_from (move : SubmitMove py req stage e stage') (cleared : stage'.Cleared) :
    stage.Cleared ∨ ¬ e.before.db.TradingOff := by
  cases move with
  | idle => exact .inl cleared
  | weigh stored =>
    refine .inr fun off => ?_
    have on : _ = true := cleared
    rw [off.riskSettings _ stored] at on
    cases on
  | submit _ _ passed => exact .inl passed.settingsOn
  | hold => exact .inl True.intro
  | _ => cases cleared

/-- The exchange is asked by a request whose checks are behind. -/
theorem cleared_of_placement (move : SubmitMove py req stage e stage') (settled : stage ≠ .lost)
    (places : placesOrder e = true) : stage.Cleared := by
  cases move with
  | idle quiet =>
    rw [not_placesOrder (isIdle_of_asksNoExchange quiet)] at places
    cases places
  | wander => exact absurd rfl settled
  | send => exact True.intro
  | _ => cases places

end SubmitStage

end Knows

/-! ### One step of a request -/

namespace StopRequest

variable {r : StopRequest}

/-- The reads behind a phase. -/
def Knows (py : Platform) (seen : World → Prop) : (r : StopRequest) → (r.protocol py).Phase → Prop
  | execute req => fun stage => ExecStage.Knows req seen stage
  | submit _ => fun stage => SubmitStage.Knows seen stage
  | stop .. => fun _ => True

/-- All checks are behind, and nothing has been placed. -/
def Cleared (py : Platform) : (r : StopRequest) → (r.protocol py).Phase → Prop
  | execute _ => ExecStage.Cleared
  | submit _ => SubmitStage.Cleared
  | stop .. => fun _ => False

/-- The risk settings a submission has read are stored, so that it finds them again. -/
def Settled (py : Platform) (db : Db) : (r : StopRequest) → (r.protocol py).Phase → Prop
  | execute _ => fun _ => True
  | submit req => fun stage => stage ≠ .lost ∧ (stage.hasSettings = true →
      ∃ settings ∈ db.riskSettings, SettingsFor req settings)
  | stop .. => fun _ => True

variable {m m' : (r.protocol py).Phase} {e : Event backend} {seen later : World → Prop}

theorem Knows.mono (knows : r.Knows py seen m) (still : ∀ w, seen w → later w) :
    r.Knows py later m := by
  cases r with
  | execute req => exact ExecStage.Knows.mono knows still
  | submit req => exact SubmitStage.Knows.mono knows still
  | stop => exact True.intro

theorem Knows.move (knows : r.Knows py seen m) (move : (r.protocol py).Move m e m')
    (still : ∀ w, seen w → later w) (reads : ∀ w, e = .read w → later w) :
    r.Knows py later m' := by
  cases r with
  | execute req => exact ExecStage.Knows.move knows move still reads
  | submit req => exact SubmitStage.Knows.move knows move still reads
  | stop => exact True.intro

/-- What was read on the way to a cleared phase. -/
theorem checked_of_cleared (knows : r.Knows py seen m) (cleared : r.Cleared py m) :
    ∃ accountId ∈ r.accountId?, Checked accountId seen := by
  cases r with
  | stop => cases cleared
  | execute req =>
    refine ⟨_, rfl, ?_⟩
    cases m with
    | cleared | passed | submitted => exact knows
    | _ => cases cleared
  | submit req =>
    refine ⟨_, rfl, ?_⟩
    cases m with
    | submitted | held => exact knows
    | weighed adm settings =>
      obtain ⟨off, ⟨accountId, w, hw, stored⟩, settingsId, w', hw', storedSettings⟩ := knows
      exact ⟨off, ⟨w, hw, _, stored, accountId, adm.accountOn⟩,
        ⟨w', hw', _, storedSettings, settingsId, cleared⟩⟩
    | _ => cases cleared

theorem cleared_from (move : (r.protocol py).Move m e m') (cleared : r.Cleared py m') :
    r.Cleared py m ∨ ¬ e.before.db.TradingOff := by
  cases r with
  | execute req => exact ExecStage.cleared_from move cleared
  | submit req => exact SubmitStage.cleared_from move cleared
  | stop => cases cleared

theorem cleared_of_placement {db : Db} (move : (r.protocol py).Move m e m')
    (settled : r.Settled py db m) (places : placesOrder e = true) : r.Cleared py m := by
  cases r with
  | execute req => exact ExecStage.cleared_of_placement move places
  | submit req => exact SubmitStage.cleared_of_placement move settled.1 places
  | stop =>
    rcases move with quiet | ⟨change, before, after, rfl⟩
    · rw [not_placesOrder (isIdle_of_asksNoExchange quiet)] at places
      cases places
    · cases places

end StopRequest

/-! ### What a step does to the flags -/

/-- Risk settings stay stored for their account, and trading that is off stays off. -/
structure KeepsOff (before after : Db) : Prop where
  riskRows : ∀ row ∈ before.riskSettings, ∃ row' ∈ after.riskSettings,
    row'.userId = row.userId ∧ row'.exchangeAccountId = row.exchangeAccountId
  off : before.TradingOff → after.TradingOff

theorem KeepsControls.keepsOff {before after : Db} (keeps : KeepsControls before after) :
    KeepsOff before after where
  riskRows row stored := ⟨row, keeps.riskRows row stored, rfl, rfl⟩
  off off := by
    constructor
    · exact fun row stored => off.accounts row ((keeps.accounts row).mp stored)
    · intro row stored
      by_contra on
      have on := Bool.eq_true_of_not_eq_false on
      rw [off.riskSettings row (keeps.riskSettings row stored on)] at on
      cases on

/-- The commit of a stop, on the rows as they are. -/
theorem StopChange.keepsOff {change : StopChange} {before after : Db}
    (applied : change.apply before = some after) : KeepsOff before after := by
  simp only [StopChange.apply, Option.bind_eq_bind, Option.bind_eq_some_iff, Option.pure_def,
    Option.some.injEq] at applied
  obtain ⟨auditLogs, -, rfl⟩ := applied
  cases henabled : change.enabled with
  | false => exact ⟨fun row stored => ⟨row, stored, rfl, rfl⟩, fun off => ⟨off.1, off.2⟩⟩
  | true =>
    constructor
    · exact fun row stored => ⟨_, List.mem_map.mpr ⟨row, stored, rfl⟩, rfl, rfl⟩
    · exact fun _ => ⟨fun _ => mem_clearAccounts, fun _ => mem_clearRiskSettings⟩

theorem keepsOff_of_stop {change : StopChange} {before after : Db}
    (flushed : before.flush { stop := some change } = .ok after) : KeepsOff before after := by
  obtain ⟨mid, written, applied⟩ := Db.stop_of_flush flushed rfl
  have keeps := StopChange.keepsOff applied
  have same := Work.written_of_write written
  have accounts : mid.accounts = before.accounts :=
    (Option.some.inj same.accounts).symm.trans (Table.writeBack_nil _)
  have riskSettings : mid.riskSettings = before.riskSettings :=
    (Option.some.inj same.riskSettings).symm.trans (Table.writeBack_nil _)
  constructor
  · exact riskSettings ▸ keeps.riskRows
  · exact fun off => keeps.off ⟨accounts ▸ off.accounts, riskSettings ▸ off.riskSettings⟩

namespace StopRequest

variable {r : StopRequest} {m m' : (r.protocol py).Phase} {e : Event backend}

theorem keepsOff {db : Db} (move : (r.protocol py).Move m e m') (settled : r.Settled py db m)
    (sound : e.Sound semantics) : KeepsOff e.before.db e.after.db := by
  cases r with
  | execute req =>
    cases ExecMove.effect move sound with
    | keeps db =>
      rw [db]
      exact (KeepsControls.refl _).keepsOff
    | creates flushed trading =>
      exact (trading.controls.keeps (trading.written flushed)).keepsOff
    | writes flushed trading =>
      exact (trading.controls.keeps (trading.written flushed)).keepsOff
  | submit req => exact (SubmitMove.effect move sound settled.1).keepsControls.keepsOff
  | stop =>
    rcases move with quiet | ⟨change, before, after, rfl⟩
    · rw [after_eq_of_idle (isIdle_of_asksNoExchange quiet) sound]
      exact (KeepsControls.refl _).keepsOff
    · exact keepsOff_of_stop (World.flush_ok sound).1

theorem Settled.keep {before after : Db} (settled : r.Settled py before m)
    (keeps : KeepsOff before after) : r.Settled py after m := by
  cases r with
  | execute | stop => exact True.intro
  | submit req =>
    refine ⟨settled.1, fun read => ?_⟩
    obtain ⟨settings, stored, user, account⟩ := settled.2 read
    obtain ⟨kept, stored', user', account'⟩ := keeps.riskRows settings stored
    exact ⟨kept, stored', user'.trans user, account'.trans account⟩

theorem Settled.move (settled : r.Settled py e.before.db m) (move : (r.protocol py).Move m e m')
    (sound : e.Sound semantics) : r.Settled py e.after.db m' := by
  have keeps := keepsOff move settled sound
  cases r with
  | execute | stop => exact True.intro
  | submit req =>
    refine ⟨SubmitMove.not_lost move settled.1 settled.2, fun read => ?_⟩
    rcases SubmitMove.settings_from move sound read with before | found
    · exact (Settled.keep settled keeps).2 before
    · exact found

end StopRequest

/-- The commit that enables the stop. -/
def enablesStop : Event backend → Bool
  | .commit work _ _ => work.stop.any (·.enabled)
  | _ => false

theorem enabled_of_stop {work : Work} {change : StopChange} {before after : Db}
    (flushed : before.flush work = .ok after) (stop : work.stop = some change) :
    after.emergencyStopEnabled = change.enabled := by
  obtain ⟨mid, -, applied⟩ := Db.stop_of_flush flushed stop
  simp only [StopChange.apply, Option.bind_eq_bind, Option.bind_eq_some_iff, Option.pure_def,
    Option.some.injEq] at applied
  obtain ⟨auditLogs, -, rfl⟩ := applied
  rfl

theorem tradingOff_of_enablesStop {e : Event backend} (enables : enablesStop e = true)
    (sound : e.Sound semantics) : e.after.db.TradingOff := by
  cases e with
  | commit work before after =>
    have flushed := (World.flush_ok sound).1
    cases stop : work.stop with
    | none =>
      rw [enablesStop, stop] at enables
      cases enables
    | some change =>
      rw [enablesStop, stop] at enables
      exact stopHolds_of_stop flushed stop ((enabled_of_stop flushed stop).trans enables)
  | read | abort | call => cases enables

/-! ### Runs -/

/-- What holds of every run. -/
structure StopInv (requests : ι → StopRequest) (trace : Trace backend ι)
    (phases : ∀ i, ((requests i).protocol py).Phase) (db : Db) : Prop where
  knows : ∀ i, (requests i).Knows py (fun w => (i, .read w) ∈ trace) (phases i)
  settled : ∀ i, (requests i).Settled py db (phases i)

theorem StopInv.start {db : Db} :
    StopInv requests [] (fun i => (requests i).start py) db where
  knows i := by
    cases requests i with
    | execute | submit | stop => exact True.intro
  settled i := by
    cases requests i with
    | execute | stop => exact True.intro
    | submit => exact ⟨by simp [StopRequest.start], fun read => by cases read⟩

theorem StopInv.step [DecidableEq ι] {trace : Trace backend ι}
    {phases : ∀ i, ((requests i).protocol py).Phase} {i : ι} {e : Event backend}
    {m : ((requests i).protocol py).Phase} (inv : StopInv requests trace phases e.before.db)
    (move : ((requests i).protocol py).Move (phases i) e m) (sound : e.Sound semantics) :
    StopInv requests (trace ++ [(i, e)]) (Function.update phases i m) e.after.db := by
  constructor
  · intro j
    have still : ∀ w, (j, (.read w : Event backend)) ∈ trace → (j, .read w) ∈ trace ++ [(i, e)] :=
      fun w => List.mem_append_left _
    by_cases same : j = i
    · subst same
      rw [Function.update_self]
      refine (inv.knows j).move move still ?_
      rintro w rfl
      exact List.mem_append_right _ (List.mem_singleton_self _)
    · rw [Function.update_of_ne same]
      exact (inv.knows j).mono still
  · exact (Function.forall_update_iff phases fun j phase =>
      (requests j).Settled py e.after.db phase).mpr ⟨(inv.settled i).move move sound,
        fun j _ => (inv.settled j).keep (StopRequest.keepsOff move (inv.settled i) sound)⟩

theorem StopInv.of_run [DecidableEq ι] {world s : World} {trace : Trace backend ι}
    {phases : ∀ i, ((requests i).protocol py).Phase}
    (run : Protocol.Run (fun i => (requests i).protocol py) semantics
      (fun i => (requests i).start py) world trace phases s) :
    StopInv requests trace phases s.db :=
  run.invariant (fun trace (phases : ∀ i, ((requests i).protocol py).Phase) (s : World) =>
    StopInv requests trace phases s.db) .start fun _ _ _ _ _ inv move sound => inv.step move sound

/-- Once trading is off no request gets behind its checks. -/
theorem cleared_before [DecidableEq ι] {world s : World} {trace : Trace backend ι}
    {phases₀ phases : ∀ i, ((requests i).protocol py).Phase}
    (run : Protocol.Run (fun i => (requests i).protocol py) semantics phases₀ world trace phases s)
    (settled : ∀ i, (requests i).Settled py world.db (phases₀ i)) (off : world.db.TradingOff) :
    (∀ i, (requests i).Settled py s.db (phases i)) ∧
      ∀ i, (requests i).Cleared py (phases i) → (requests i).Cleared py (phases₀ i) := by
  have known := run.invariant
    (fun _ (phases : ∀ i, ((requests i).protocol py).Phase) (s : World) => s.db.TradingOff ∧
      (∀ i, (requests i).Settled py s.db (phases i)) ∧
      ∀ i, (requests i).Cleared py (phases i) → (requests i).Cleared py (phases₀ i))
    ⟨off, settled, fun _ => id⟩ ?_
  · exact known.2
  intro trace phases i e m ⟨off, settled, cleared⟩ move sound
  have keeps := StopRequest.keepsOff move (settled i) sound
  refine ⟨keeps.off off, ?_, ?_⟩
  · exact (Function.forall_update_iff phases fun j phase =>
      (requests j).Settled py e.after.db phase).mpr
        ⟨(settled i).move move sound, fun j _ => (settled j).keep keeps⟩
  · refine (Function.forall_update_iff phases fun j phase =>
      (requests j).Cleared py phase → (requests j).Cleared py (phases₀ j)).mpr
        ⟨fun now => ?_, fun j _ => cleared j⟩
    rcases StopRequest.cleared_from move now with before | on
    · exact cleared i before
    · exact absurd off on

/-! ### A sample run -/

/-- An execution, and an administrator who stops trading. -/
def raced : Bool → StopRequest
  | false => .execute (sampleRequest "s1")
  | true => .stop true "admin" "drill"

/-- The stop is committed when the execution is about to call the adapter. -/
def racedRun : Trace backend Bool × Config backend fun i => (raced i).Outcome :=
  Config.replay semantics (environment ⟨true, .empty⟩) 0
    (List.replicate 17 false ++ List.replicate 4 true ++ [false])
    (stopping asciiPlatform raced sampleWorld)

theorem racedRun_reaches :
    Config.Run semantics (stopping asciiPlatform raced sampleWorld) racedRun.1 racedRun.2 :=
  Config.replay_reaches (environment_allowed ⟨true, .empty⟩) _ _ _

theorem racedRun_length : 19 + 1 + 1 < racedRun.1.length := by decide +kernel

/-- Two elements of a list and what is around them. -/
theorem eq_around_two {α : Type} {l : List α} {k n : Nat} (long : k + 1 + n < l.length) :
    l = l.take k ++ l[k] :: ((l.drop (k + 1)).take n ++ l[k + 1 + n] :: l.drop (k + 1 + n + 1)) := by
  have second : l.drop (k + 1) =
      (l.drop (k + 1)).take n ++ l[k + 1 + n] :: l.drop (k + 1 + n + 1) := by
    have further : l.drop (k + 1 + n) = (l.drop (k + 1)).drop n := List.drop_drop.symm
    rw [← List.drop_eq_getElem_cons long, further, List.take_append_drop]
  calc l = l.take k ++ l.drop k := (List.take_append_drop k l).symm
    _ = l.take k ++ l[k] :: l.drop (k + 1) := by rw [List.drop_eq_getElem_cons (by omega)]
    _ = _ := by rw [← second]

/-! ### The guarantee -/

/-- In every interleaving of the stop with executions and submissions, a request that places an
order after the commit that enables the stop has read, before that commit, the stop as off and
trading as on, for its account and in its risk settings. -/
theorem placed_under_stop_checked [DecidableEq ι] {world : World} {first mid rest : Trace backend ι}
    {i j : ι} {stop place : Event backend} {c : Config backend fun i => (requests i).Outcome}
    (run : Config.Run semantics (stopping py requests world)
      (first ++ (j, stop) :: (mid ++ (i, place) :: rest)) c)
    (enables : enablesStop stop = true) (places : placesOrder place = true) :
    ∃ accountId ∈ (requests i).accountId?, Checked accountId fun w => (i, .read w) ∈ first := by
  have parts : first ++ (j, stop) :: (mid ++ (i, place) :: rest) =
      (first ++ [(j, stop)]) ++ (mid ++ (i, place) :: rest) := by simp
  rw [parts] at run
  obtain ⟨c₁, run₁, run₂⟩ := run.split
  obtain ⟨phases₁, tracked₁, follows₁⟩ := run₁.tracked fun i => (requests i).program_follows py
  obtain ⟨phases₂, tracked₂, -⟩ := run₂.tracked follows₁
  have inv := StopInv.of_run tracked₁
  have off : c₁.store.db.TradingOff := by
    obtain ⟨-, -, -, -, sound, last⟩ := tracked₁.last
    exact last ▸ tradingOff_of_enablesStop enables sound
  have placed : (i, place) ∈ mid ++ (i, place) :: rest :=
    List.mem_append_right _ List.mem_cons_self
  obtain ⟨earlier, phases, m, run, move, -, -⟩ := tracked₂.move_of_mem placed
  obtain ⟨settled, cleared⟩ := cleared_before run inv.settled off
  have behind := cleared i (StopRequest.cleared_of_placement move (settled i) places)
  obtain ⟨accountId, account, checked⟩ := StopRequest.checked_of_cleared (inv.knows i) behind
  refine ⟨accountId, account, checked.mono fun w read => ?_⟩
  rcases List.mem_append.mp read with before | last
  · exact before
  · rw [List.mem_singleton] at last
    cases last
    cases enables

/-- The order that is placed under the stop was checked before it. -/
theorem placed_under_stop_checked_raced :
    ∃ (first : Trace backend Bool) (i : Bool), ∃ accountId ∈ (raced i).accountId?,
      Checked accountId fun w => (i, (.read w : Event backend)) ∈ first := by
  have run := racedRun_reaches
  rw [eq_around_two racedRun_length] at run
  have enables : enablesStop (racedRun.1.get ⟨19, lt_trans (by decide) racedRun_length⟩).2 = true := by
    decide +kernel
  have places : placesOrder (racedRun.1.get ⟨19 + 1 + 1, racedRun_length⟩).2 = true := by
    decide +kernel
  exact ⟨_, _, placed_under_stop_checked run enables places⟩

/-- The adapter is called while the stop is enabled. -/
theorem placed_under_stop :
    ∃ trace c, Config.Run semantics (stopping asciiPlatform raced sampleWorld) trace c ∧
      sampleWorld.db.emergencyStopEnabled = false ∧
      ∃ x ∈ trace, placesOrder x.2 = true ∧ x.2.before.db.emergencyStopEnabled = true := by
  have found : racedRun.1.any (fun x =>
      placesOrder x.2 && x.2.before.db.emergencyStopEnabled) = true := by decide +kernel
  obtain ⟨x, mem, holds⟩ := List.any_eq_true.mp found
  rw [Bool.and_eq_true] at holds
  exact ⟨_, _, racedRun_reaches, rfl, x, mem, holds.1, holds.2⟩

end CopyTrading
