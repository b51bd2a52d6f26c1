import CopyTrading.Transaction.Claims
import CopyTrading.TestnetOrder.SubmissionRefinement

/-!
What holds between the submissions of any run and the committed rows: the row a request has
committed stays stored and belongs to no other request, the risk settings a request has read
are still there, and every execution was stored at first or is the row of a request.
-/

namespace CopyTrading

open Transaction

namespace SubmitStage

variable {py : Platform} {req : SubmitRequest}

/-- The row the request has committed. -/
def row? : SubmitStage py req → Option OrderExecution
  | rejected row | submitted _ row | vanished row | held _ row _ | failing _ row _ _
  | blocked _ row _ _ | sent _ row _ _ | accepted row | failed row => some row
  | start | admitted | owned _ | settled | refreshed _ | risked .. | gated .. | windowed ..
  | authorized .. | ready _ | replayed _ | absent _ | weighed .. | lost => none

/-- The committed row is one that the request inserts. -/
def Recorded : SubmitStage py req → Prop
  | rejected row | vanished row | accepted row | failed row =>
    ∃ adm : Admission py req, SubmissionRow adm row
  | submitted adm row | held adm row _ | failing adm row _ _ | blocked adm row _ _
  | sent adm row _ _ => SubmissionRow adm row
  | _ => True

/-- The execution the request has found under its client order id. -/
def found? : SubmitStage py req → Option OrderExecution
  | replayed row => some row
  | _ => none

/-- The risk settings of the account have been read or committed. -/
def hasSettings : SubmitStage py req → Bool
  | settled | refreshed _ | risked .. | gated .. | windowed .. | authorized .. | ready _
  | absent _ | weighed .. => true
  | _ => false

end SubmitStage

/-! ### What a move does to the rows -/

section Move

variable {py : Platform} {req : SubmitRequest} {stage stage' : SubmitStage py req}
  {e : Event backend}

inductive SubmitEffect (stage stage' : SubmitStage py req) : Event backend → Prop where
  | keeps {e : Event backend} (db : e.after.db = e.before.db) (row : stage'.row? = stage.row?) :
      SubmitEffect stage stage' e
  | writes {work : Work} {before after : World} {status : Option (String × OrderExecutionStatus)}
      (flushed : before.db.flush work = .ok after.db) (trading : TradingWork work [] status [])
      (row : stage'.row? = stage.row?) : SubmitEffect stage stage' (.commit work before after)
  | creates {work : Work} {before after : World} {adm : Admission py req} {row : OrderExecution}
      (flushed : before.db.flush work = .ok after.db) (trading : TradingWork work [row] none [])
      (rowOf : SubmissionRow adm row) (unclaimed : stage.row? = none)
      (created : stage'.row? = some row) :
      SubmitEffect stage stage' (.commit work before after)

theorem SubmitMove.effect (move : SubmitMove py req stage e stage') (sound : e.Sound semantics)
    (settled : stage ≠ .lost) : SubmitEffect stage stage' e := by
  cases move with
  | idle quiet =>
    exact .keeps (congrArg World.db (after_eq_of_idle (isIdle_of_asksNoExchange quiet) sound)) rfl
  | wander => exact absurd rfl settled
  | settle trading => exact .writes (World.flush_ok sound).1 trading rfl
  | reject submission | submit submission =>
    exact .creates (World.flush_ok sound).1 submission.trading submission.rowOf rfl rfl
  | accept write | failSent write | fail write =>
    exact .writes (World.flush_ok sound).1 write.trading rfl
  | @send _ _ _ _ _ _ reply =>
    exact .keeps (db_eq_of_call (show answers _ _ reply _ from sound)) rfl
  | @authorize _ _ _ _ _ now =>
    exact .keeps (db_eq_of_call (show answers _ _ now _ from sound)) rfl
  | _ => exact .keeps rfl rfl

theorem SubmitEffect.executions_kept (effect : SubmitEffect stage stage' e) :
    ∀ old ∈ e.before.db.executions, ∃ new ∈ e.after.db.executions, SameOrder new old := by
  intro old hold
  cases effect with
  | keeps db => exact ⟨old, db.symm ▸ hold, .refl old⟩
  | writes flushed trading =>
    obtain ⟨new, hnew, same, -⟩ := trading.executions_kept flushed hold
    exact ⟨new, hnew, same⟩
  | creates flushed trading =>
    obtain ⟨new, hnew, same, -⟩ := trading.executions_kept flushed hold
    exact ⟨new, hnew, same⟩

/-- A stored execution was stored before, or it is the row of the request. -/
theorem SubmitEffect.executions_from (effect : SubmitEffect stage stage' e) {x : OrderExecution}
    (hx : x ∈ e.after.db.executions) :
    (∃ old ∈ e.before.db.executions, SameOrder x old) ∨
      ∃ adm : Admission py req, SubmissionRow adm x := by
  cases effect with
  | keeps db => exact .inl ⟨x, db ▸ hx, .refl x⟩
  | writes flushed trading =>
    rcases trading.executions_after flushed hx with hnew | ⟨old, hold, same, -⟩
    · cases hnew
    · exact .inl ⟨old, hold, same⟩
  | creates flushed trading rowOf =>
    rcases trading.executions_after flushed hx with hnew | ⟨old, hold, same, -⟩
    · rw [List.mem_singleton.mp hnew]
      exact .inr ⟨_, rowOf⟩
    · exact .inl ⟨old, hold, same⟩

theorem SubmitEffect.keepsControls (effect : SubmitEffect stage stage' e) :
    KeepsControls e.before.db e.after.db := by
  cases effect with
  | keeps db =>
    rw [db]
    exact .refl _
  | writes flushed trading => exact trading.controls.keeps (trading.written flushed)
  | creates flushed trading => exact trading.controls.keeps (trading.written flushed)

theorem SubmitEffect.riskSettings_kept (effect : SubmitEffect stage stage' e)
    {settings : RiskSetting} (stored : settings ∈ e.before.db.riskSettings) :
    settings ∈ e.after.db.riskSettings := effect.keepsControls.riskRows _ stored

/-- The row of a request is its row of before, or it is new and conflicts with nothing stored. -/
theorem SubmitEffect.row_from (effect : SubmitEffect stage stage' e) {row : OrderExecution}
    (hrow : stage'.row? = some row) :
    stage.row? = some row ∨ (∃ x ∈ e.after.db.executions, SameOrder x row) ∧
      ∀ x ∈ e.before.db.executions, ¬ Row.Conflict x row := by
  cases effect with
  | keeps _ hkeep => exact .inl (hkeep.symm.trans hrow)
  | writes _ _ hkeep => exact .inl (hkeep.symm.trans hrow)
  | creates flushed trading _ _ created =>
    obtain rfl := Option.some.inj (created.symm.trans hrow)
    refine .inr ⟨⟨_, trading.inserted_mem flushed (List.mem_singleton_self _), .refl _⟩, ?_⟩
    exact fun x hx => trading.inserted_fresh flushed hx

/-- A committed row stays the row of its request. -/
theorem SubmitEffect.row_kept (effect : SubmitEffect stage stage' e) {row : OrderExecution}
    (hrow : stage.row? = some row) : stage'.row? = some row := by
  cases effect with
  | keeps _ hkeep => exact hkeep.trans hrow
  | writes _ _ hkeep => exact hkeep.trans hrow
  | creates _ _ _ unclaimed =>
    rw [unclaimed] at hrow
    cases hrow

theorem SubmitStage.Recorded.rowOf (recorded : stage.Recorded) {row : OrderExecution}
    (hrow : stage.row? = some row) : ∃ adm : Admission py req, SubmissionRow adm row := by
  cases stage <;> cases hrow <;> first | exact recorded | exact ⟨_, recorded⟩

theorem SubmitMove.recorded (move : SubmitMove py req stage e stage') (recorded : stage.Recorded) :
    stage'.Recorded := by
  cases move with
  | idle | wander | vanish | hold | send | number | block => first | exact recorded | exact ⟨_, recorded⟩
  | reject submission => exact ⟨_, submission.rowOf⟩
  | submit submission => exact submission.rowOf
  | accept | failSent | fail => exact ⟨_, recorded⟩
  | _ => exact True.intro

/-- The settings of the account, for the caller. -/
def SettingsFor (req : SubmitRequest) (settings : RiskSetting) : Prop :=
  settings.userId = req.userId ∧ settings.exchangeAccountId = req.payload.exchangeAccountId

theorem SubmitMove.settings_from (move : SubmitMove py req stage e stage')
    (sound : e.Sound semantics) (settled : stage'.hasSettings = true) :
    stage.hasSettings = true ∨ ∃ settings ∈ e.after.db.riskSettings, SettingsFor req settings := by
  cases move with
  | idle => exact .inl settled
  | risk stored userId accountId => exact .inr ⟨_, stored, userId, accountId⟩
  | settle trading _ _ settings =>
    have written := (trading.written (World.flush_ok sound).1).riskSettings
    rw [settings] at written
    exact .inr ⟨_, (Table.mem_insertAll written).mpr (.inr (List.mem_singleton_self _)), rfl, rfl⟩
  | refresh | reload | gate | window | authorize | prepare | miss | weigh => exact .inl rfl
  | _ => cases settled

/-- The settings that were read are still there when they are read again. -/
theorem SubmitMove.not_lost (move : SubmitMove py req stage e stage') (notLost : stage ≠ .lost)
    (settings : stage.hasSettings = true →
      ∃ settings ∈ e.before.db.riskSettings, SettingsFor req settings) : stage' ≠ .lost := by
  cases move with
  | idle => exact notLost
  | wander => exact absurd rfl notLost
  | lose missing =>
    obtain ⟨found, stored, user, account⟩ := settings rfl
    have other := Table.not_of_find?_none missing stored
    simp [user, account] at other
  | _ => simp

end Move

/-! ### All requests together -/

variable {ι : Type} {py : Platform} {requests : ι → SubmitRequest}

/-- What holds of requests that started on the database `db₀`. -/
structure SubmitInv (requests : ι → SubmitRequest) (db₀ : Db)
    (stages : ∀ i, SubmitStage py (requests i)) (db : Db) : Prop where
  claims : Claims SameOrder (fun i => (stages i).row?) db.executions
  recorded : ∀ i, (stages i).Recorded
  settings : ∀ i, (stages i).hasSettings = true →
    ∃ settings ∈ db.riskSettings, SettingsFor (requests i) settings
  notLost : ∀ i, stages i ≠ .lost
  weighed : ∀ i adm settings, stages i = .weighed adm settings → settings ∈ db.riskSettings ∧
    settings.exchangeAccountId = (requests i).payload.exchangeAccountId
  found : ∀ i row, (stages i).found? = some row → (∃ x ∈ db.executions, SameOrder x row) ∧
    row.clientOrderId = (requests i).payload.clientOrderId ∧ row.userId = (requests i).userId ∧
    row.exchangeAccountId = (requests i).payload.exchangeAccountId
  origin : ∀ x ∈ db.executions, (∃ old ∈ db₀.executions, SameOrder x old) ∨
    ∃ i, ∃ adm : Admission py (requests i), SubmissionRow adm x

namespace SubmitInv

variable {db₀ : Db} {stages : ∀ i, SubmitStage py (requests i)}

theorem start : SubmitInv requests db₀ (fun i => (.start : SubmitStage py (requests i))) db₀ where
  claims := .none fun _ => rfl
  recorded _ := True.intro
  settings _ h := by cases h
  notLost _ h := by cases h
  weighed _ _ _ h := by cases h
  found _ _ h := by cases h
  origin x hx := .inl ⟨x, hx, .refl x⟩

section Step

variable {i : ι} {e : Event backend} {stage' : SubmitStage py (requests i)}

theorem not_lost (inv : SubmitInv requests db₀ stages e.before.db)
    (move : SubmitMove py (requests i) (stages i) e stage') : stage' ≠ .lost :=
  move.not_lost (inv.notLost i) (inv.settings i)

/-- Settings are weighed as they were read, and no request writes them since. -/
theorem weighed_after (inv : SubmitInv requests db₀ stages e.before.db)
    (move : SubmitMove py (requests i) (stages i) e stage') (sound : e.Sound semantics)
    {adm : Admission py (requests i)} {settings : RiskSetting}
    (weighed : stage' = .weighed adm settings) : settings ∈ e.after.db.riskSettings ∧
      settings.exchangeAccountId = (requests i).payload.exchangeAccountId := by
  have effect := move.effect sound (inv.notLost i)
  have before := inv.weighed i adm settings
  generalize stages i = stage at move effect before
  cases move with
  | idle =>
    obtain ⟨stored, account⟩ := before weighed
    exact ⟨effect.riskSettings_kept stored, account⟩
  | weigh stored account =>
    cases weighed
    exact ⟨stored, account⟩
  | wander => cases weighed
  | _ => cases weighed

/-- The execution a request has found was stored under its client order id. -/
theorem found_after (inv : SubmitInv requests db₀ stages e.before.db)
    (move : SubmitMove py (requests i) (stages i) e stage') (sound : e.Sound semantics)
    {row : OrderExecution} (found : stage'.found? = some row) :
    (∃ x ∈ e.after.db.executions, SameOrder x row) ∧
      row.clientOrderId = (requests i).payload.clientOrderId ∧ row.userId = (requests i).userId ∧
      row.exchangeAccountId = (requests i).payload.exchangeAccountId := by
  have effect := move.effect sound (inv.notLost i)
  have before := inv.found i row
  generalize stages i = stage at move effect before
  cases move with
  | idle =>
    obtain ⟨⟨x, hx, same⟩, order⟩ := before found
    obtain ⟨y, hy, kept⟩ := effect.executions_kept x hx
    exact ⟨⟨y, hy, kept.trans same⟩, order⟩
  | replay stored clientOrderId userId accountId =>
    cases found
    exact ⟨⟨row, stored, .refl row⟩, clientOrderId, userId, accountId⟩
  | _ => cases found

/-- One step of any request keeps the invariant. -/
theorem step [DecidableEq ι] (inv : SubmitInv requests db₀ stages e.before.db)
    (move : SubmitMove py (requests i) (stages i) e stage') (sound : e.Sound semantics) :
    SubmitInv requests db₀ (Function.update stages i stage') e.after.db := by
  have effect := move.effect sound (inv.notLost i)
  constructor
  · have rows : (fun j => (Function.update stages i stage' j).row?) =
        Function.update (fun j => (stages j).row?) i stage'.row? :=
      funext fun j => Function.apply_update (fun _ stage => SubmitStage.row? stage) stages i stage' j
    rw [rows]
    refine inv.claims.step SameOrder.key SameOrder.trans effect.executions_kept fun row hrow => ?_
    exact effect.row_from hrow
  · exact (Function.forall_update_iff stages fun _ stage => stage.Recorded).mpr
      ⟨move.recorded (inv.recorded i), fun j _ => inv.recorded j⟩
  · have kept : ∀ j, (∃ settings ∈ e.before.db.riskSettings, SettingsFor (requests j) settings) →
        ∃ settings ∈ e.after.db.riskSettings, SettingsFor (requests j) settings := by
      rintro j ⟨settings, stored, settingsFor⟩
      exact ⟨settings, effect.riskSettings_kept stored, settingsFor⟩
    refine (Function.forall_update_iff stages fun j stage => stage.hasSettings = true →
      ∃ settings ∈ e.after.db.riskSettings, SettingsFor (requests j) settings).mpr
        ⟨fun settled => ?_, fun j _ settled => kept j (inv.settings j settled)⟩
    rcases move.settings_from sound settled with settled | found
    · exact kept i (inv.settings i settled)
    · exact found
  · exact (Function.forall_update_iff stages fun _ stage => stage ≠ .lost).mpr
      ⟨inv.not_lost move, fun j _ => inv.notLost j⟩
  · refine (Function.forall_update_iff stages fun j stage => ∀ adm settings,
      stage = .weighed adm settings → settings ∈ e.after.db.riskSettings ∧
        settings.exchangeAccountId = (requests j).payload.exchangeAccountId).mpr
      ⟨fun _ _ weighed => inv.weighed_after move sound weighed, fun j _ adm settings weighed => ?_⟩
    obtain ⟨stored, account⟩ := inv.weighed j adm settings weighed
    exact ⟨effect.riskSettings_kept stored, account⟩
  · refine (Function.forall_update_iff stages fun j stage => ∀ row, stage.found? = some row →
      (∃ x ∈ e.after.db.executions, SameOrder x row) ∧
        row.clientOrderId = (requests j).payload.clientOrderId ∧
        row.userId = (requests j).userId ∧
        row.exchangeAccountId = (requests j).payload.exchangeAccountId).mpr
      ⟨fun row found => inv.found_after move sound found, fun j _ row found => ?_⟩
    obtain ⟨⟨x, hx, same⟩, order⟩ := inv.found j row found
    obtain ⟨y, hy, kept⟩ := effect.executions_kept x hx
    exact ⟨⟨y, hy, kept.trans same⟩, order⟩
  · intro x hx
    rcases effect.executions_from hx with ⟨old, hold, same⟩ | ⟨adm, rowOf⟩
    · rcases inv.origin old hold with ⟨first, hfirst, same'⟩ | ⟨j, adm, rowOf⟩
      · exact .inl ⟨first, hfirst, same.trans same'⟩
      · exact .inr ⟨j, adm, rowOf.congr same⟩
    · exact .inr ⟨i, adm, rowOf⟩

end Step

/-- What holds of every run. -/
theorem of_run [DecidableEq ι] {world s : World} {trace : Trace backend ι}
    (run : Protocol.Run (fun i => submitProtocol py (requests i)) semantics (fun _ => .start) world
      trace stages s) : SubmitInv requests world.db stages s.db :=
  run.invariant (fun _ stages (s : World) => SubmitInv requests world.db stages s.db) .start
    fun _ _ _ _ _ inv move sound => inv.step move sound

end SubmitInv

end CopyTrading
