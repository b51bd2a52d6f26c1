import CopyTrading.ExecutionInvariant
import CopyTrading.ExecutionRefinement
import CopyTrading.TransitionLog

/-!
The shape of the stored risk settings: which symbols they block, and whose they are. Requests
run one after the other, each cut off anywhere; every commit keeps the shape as long as no
update sets the list to `None`.
-/

namespace CopyTrading

open Transaction Transaction.Handler DecimalArith

/-! ### Blocked symbols -/

/-- Sorted, without duplicates, in upper case. -/
structure BlockedSymbols (py : Platform) (symbols : List String) : Prop where
  sorted : symbols.Pairwise (· < ·)
  upper : ∀ symbol ∈ symbols, py.upper symbol = symbol

theorem mem_insertSymbol {symbol other : String} {symbols : List String} :
    other ∈ insertSymbol symbol symbols ↔ other = symbol ∨ other ∈ symbols := by
  induction symbols with
  | nil => simp [insertSymbol]
  | cons head rest ih =>
    unfold insertSymbol
    split
    · exact List.mem_cons
    · split
      · next same =>
        subst same
        simp
      · rw [List.mem_cons, ih, List.mem_cons]
        exact or_left_comm

theorem insertSymbol_sorted {symbol : String} {symbols : List String}
    (sorted : symbols.Pairwise (· < ·)) : (insertSymbol symbol symbols).Pairwise (· < ·) := by
  induction symbols with
  | nil => exact List.pairwise_singleton _ _
  | cons head rest ih =>
    obtain ⟨below, sortedRest⟩ := List.pairwise_cons.mp sorted
    unfold insertSymbol
    split
    · next before =>
      refine List.pairwise_cons.mpr ⟨fun other hother => ?_, sorted⟩
      rcases List.mem_cons.mp hother with rfl | hother
      · exact before
      · exact String.lt_trans before (below other hother)
    · next notBefore =>
      split
      · exact sorted
      · next different =>
        refine List.pairwise_cons.mpr ⟨fun other hother => ?_, ih sortedRest⟩
        rcases mem_insertSymbol.mp hother with rfl | hother
        · by_contra notAfter
          exact different (String.le_antisymm (String.not_lt.mp notAfter) (String.not_lt.mp notBefore))
        · exact below other hother

theorem blockedSymbolsOf_shape {py : Platform} (stable : py.UpperStable) (value : List String) :
    BlockedSymbols py (blockedSymbolsOf py value) := by
  unfold blockedSymbolsOf
  induction value with
  | nil => exact ⟨.nil, fun _ h => (List.not_mem_nil h).elim⟩
  | cons symbol rest ih =>
    rw [List.map_cons, List.foldr_cons]
    constructor
    · exact insertSymbol_sorted ih.sorted
    · intro other hother
      rcases mem_insertSymbol.mp hother with rfl | hother
      · exact stable.upper_upper symbol
      · exact ih.upper other hother

/-- A stored list of blocked symbols is there, and is well formed. -/
def BlocksWell (py : Platform) (blocked : Option (List String)) : Prop :=
  ∃ symbols, blocked = some symbols ∧ BlockedSymbols py symbols

theorem blocksWell_default (py : Platform) (userId exchangeAccountId : String) :
    BlocksWell py (defaultRiskSetting userId exchangeAccountId).blockedSymbols :=
  ⟨[], rfl, .nil, fun _ h => (List.not_mem_nil h).elim⟩

theorem BlocksWell.checked {py : Platform} {settings : RiskSetting}
    (blocks : BlocksWell py settings.blockedSymbols) (account : ExchangeAccount)
    (order : RiskOrderInput) (allow : Bool) :
    ∃ result, checkOrderRisk account settings order allow = .ok result := by
  obtain ⟨symbols, heq, -⟩ := blocks
  unfold checkOrderRisk
  rw [heq]
  exact ⟨_, rfl⟩

/-! ### Stored rows -/

/-- The row blocks a well formed list, and belongs to the owner of its account. -/
structure RiskShape (py : Platform) (accounts : Table ExchangeAccount) (row : RiskSetting) :
    Prop where
  blocked : BlocksWell py row.blockedSymbols
  owner : ∀ account ∈ accounts, account.id = row.exchangeAccountId → account.userId = row.userId

def Db.RisksShaped (py : Platform) (db : Db) : Prop :=
  ∀ row ∈ db.riskSettings, RiskShape py db.accounts row

theorem RiskShape.of_accounts {py : Platform} {accounts accounts' : Table ExchangeAccount}
    {row : RiskSetting} (shape : RiskShape py accounts row)
    (same : ∀ account, account ∈ accounts' → account ∈ accounts) : RiskShape py accounts' row where
  blocked := shape.blocked
  owner account stored := shape.owner account (same account stored)

/-- What is written on a row replaces its list by a well formed one. -/
theorem riskShape_updated {py : Platform} {accounts : Table ExchangeAccount}
    {dirty : List (Instance RiskSetting)} {row : RiskSetting}
    (changed : ∀ x ∈ dirty, ∀ value ∈ x.change.blockedSymbols, BlocksWell py value)
    (shape : RiskShape py accounts row) : RiskShape py accounts (Table.updated dirty row) := by
  refine Table.updated_keeps (fun x hx row shape => ⟨?_, shape.owner⟩) shape
  change BlocksWell py (x.change.blockedSymbols.getD row.blockedSymbols)
  cases hvalue : x.change.blockedSymbols with
  | none => exact shape.blocked
  | some value => exact changed x hx value hvalue

/-- What the session would commit keeps the shape. -/
structure RiskSession (py : Platform) (s : Session) (w : World) : Prop
    extends ChainedSession s w where
  rows : w.db.RisksShaped py
  added : ∀ row ∈ s.work.riskSettings, RiskShape py w.db.accounts row
  changed : ∀ x ∈ s.work.riskSettingChanges, ∀ value ∈ x.change.blockedSymbols,
    BlocksWell py value
  noAccounts : s.work.accounts = []

namespace RiskSession

variable {py : Platform} {s s' : Session} {w w' : World}

theorem empty (chained : w.db.Chained) (rows : w.db.RisksShaped py) : RiskSession py {} w where
  toChainedSession := .empty chained
  rows := rows
  added _ h := (List.not_mem_nil h).elim
  changed _ h := (List.not_mem_nil h).elim
  noAccounts := rfl

/-- Only the logs and the risk settings of what is pending count. -/
theorem of_work (risk : RiskSession py s w) (chained : ChainedSession s' w)
    (riskSettings : s'.work.riskSettings = s.work.riskSettings)
    (riskSettingChanges : s'.work.riskSettingChanges = s.work.riskSettingChanges)
    (accounts : s'.work.accounts = s.work.accounts) : RiskSession py s' w where
  toChainedSession := chained
  rows := risk.rows
  added := riskSettings ▸ risk.added
  changed := riskSettingChanges ▸ risk.changed
  noAccounts := accounts.trans risk.noAccounts

theorem look (risk : RiskSession py s w) (looked : Looked s w s' w') : RiskSession py s' w' where
  toChainedSession := risk.toChainedSession.look looked
  rows := looked.db ▸ risk.rows
  added := by
    rw [looked.work, looked.db]
    exact risk.added
  changed := looked.work ▸ risk.changed
  noAccounts := looked.work ▸ risk.noAccounts

/-- A commit writes no account. -/
theorem accounts_after {after : Db} (risk : RiskSession py s w)
    (written : s.pending.Written w.db after) (account : ExchangeAccount) :
    account ∈ after.accounts ↔ account ∈ w.db.accounts := by
  have added : s.pending.accounts = [] := risk.noAccounts
  have clean : ∀ x ∈ s.pending.accountChanges, x.change = {} := fun x hx => (risk.accounts x hx).1
  rw [Table.mem_insertAll written.accounts, added, Table.mem_writeBack]
  simp [updated_accounts clean]

theorem commit {after : World} (risk : RiskSession py s w)
    (flushed : semantics.flush s.pending w = .ok after) : RiskSession py {} after := by
  have written := Work.written_of_flush (World.flush_ok flushed).1 risk.noStop
  have accounts := risk.accounts_after written
  refine .empty (risk.toChainedSession.commit flushed) fun row hrow => ?_
  refine RiskShape.of_accounts ?_ fun account stored => (accounts account).mp stored
  rcases (Table.mem_insertAll written.riskSettings).mp hrow with hold | hnew
  · obtain ⟨old, stored, rfl⟩ := Table.mem_writeBack.mp hold
    exact riskShape_updated risk.changed (risk.rows old stored)
  · exact risk.added row hnew

end RiskSession

/-- The accounts are those of the user. -/
def Scope.ofUser (userId : String) : Scope where
  userId := userId
  account id db := ∃ account ∈ db.accounts, account.id = id ∧ account.userId = userId
  signal _ _ := True
  execution _ := True
  account_of {_ row} stored owner := ⟨row, stored, rfl, owner⟩
  signal_of _ _ := True.intro
  execution_of _ := True.intro
  stable _ _ _ := True.intro

/-- A new row of risk settings belongs to the owner of its account. -/
theorem riskShape_default {py : Platform} {db : Db} {userId accountId : String}
    (owned : (Scope.ofUser userId).account accountId db) :
    RiskShape py db.accounts (defaultRiskSetting userId accountId) where
  blocked := blocksWell_default py userId accountId
  owner account stored named := by
    obtain ⟨mine, hmine, hid, huser⟩ := owned
    have same : account = mine := Table.eq_of_conflict stored hmine (named.trans hid.symm)
    rw [same]
    exact huser

/-- A commit leaves the logs chained and the risk settings in shape. -/
def CommitsShaped (py : Platform) : Event backend → Prop
  | .commit _ _ after => after.db.Chained ∧ after.db.RisksShaped py
  | _ => True

theorem riskInvariant (py : Platform) (userId : String) :
    OrderInvariant semantics (CommitsShaped py) (Scope.ofUser userId) (RiskSession py) where
  look := RiskSession.look
  accounts risk := risk.accounts
  secrets risk := risk.secrets
  held risk := risk.held
  distinct risk := risk.distinct
  saved risk := (chainedInvariant userId).saved risk.toChainedSession
  hold risk stored fresh := risk.of_work (risk.toChainedSession.hold stored fresh) rfl rfl rfl
  annotate risk _ _ annotates :=
    risk.of_work (risk.toChainedSession.annotate annotates) rfl rfl rfl
  move risk shown _ allowed := risk.of_work (risk.toChainedSession.move shown allowed) rfl rfl rfl
  insert risk _ created saved _ _ accepted :=
    risk.of_work (risk.toChainedSession.insert created saved accepted) rfl rfl rfl
  addSignal risk _ := risk.of_work (risk.adding rfl rfl rfl) rfl rfl rfl
  addRiskSetting risk owned :=
    { toChainedSession := risk.adding rfl rfl rfl
      rows := risk.rows
      added := by
        intro row hrow
        rcases List.mem_append.mp hrow with hrow | hrow
        · exact risk.added row hrow
        · rw [List.mem_singleton.mp hrow]
          exact riskShape_default owned
      changed := risk.changed
      noAccounts := risk.noAccounts }
  addPosition risk _ _ := risk.of_work (risk.adding rfl rfl rfl) rfl rfl rfl
  movePosition risk _ _ := risk.of_work (risk.adding rfl rfl rfl) rfl rfl rfl
  addAuditLog risk _ := risk.of_work (risk.adding rfl rfl rfl) rfl rfl rfl
  commit {s w after} risk flushed := by
    have committed := risk.commit flushed
    refine ⟨⟨committed.stored, committed.rows⟩, committed, ?_, fun _ => True.intro, fun _ =>
      ⟨fun _ _ _ => True.intro, fun _ _ _ => True.intro⟩⟩
    rintro id ⟨account, stored, owned⟩
    have written := Work.written_of_flush (World.flush_ok flushed).1 risk.noStop
    exact ⟨account, (risk.accounts_after written account).mpr stored, owned⟩
  abort risk := .empty risk.stored risk.rows
  quiet query before answer after answered :=
    ⟨True.intro, @db_eq_of_call query answer before after answered⟩

/-! ### Updates -/

/-- The update does not set the list of blocked symbols to `None`. -/
def RiskSettingUpdate.KeepsList (data : RiskSettingUpdate) : Prop :=
  data.blockedSymbols ≠ some none

section update

variable {sem : Semantics backend} {Each : Event backend → Prop} {scope : Scope}
  {J : Session → World → Prop} {py : Platform} {s : Session} {w : World}

theorem keeps_boundColumn {precision scale : Nat} {value : Option (Option Decimal)}
    (holds : J s w) :
    Keeps sem Each scope J (boundColumn value : Service (Option (Option (Numeric precision scale))))
      (fun _ s' w' => s' = s ∧ w' = w) s w := by
  unfold boundColumn
  split
  · exact .pure holds ⟨rfl, rfl⟩
  · rw [map_eq_pure_bind]
    exact (keeps_toOptionalColumn holds).bind fun _ _ _ holds' _ same => .pure holds' same

/-- The pending changes of risk settings with one more. -/
def Work.withRiskSettingChange (x : Instance RiskSetting) (work : Work) : Work :=
  { work with riskSettingChanges := work.riskSettingChanges ++ [x] }

/-- The change replaces the list of blocked symbols as the update asks. -/
def RiskSetting.Change.ReplacesList (py : Platform) (settings : RiskSetting)
    (data : RiskSettingUpdate) (change : RiskSetting.Change) : Prop :=
  change.blockedSymbols = Session.dirtyColumn settings.blockedSymbols
    (data.blockedSymbols.map (Option.map (blockedSymbolsOf py)))

variable (inv : OrderInvariant sem Each scope J)
include inv

theorem keeps_updateRiskSettings {settings : RiskSetting} {data : RiskSettingUpdate}
    {alertRuntime : Bool} (holds : J s w)
    (writes : ∀ change : RiskSetting.Change, change.ReplacesList py settings data →
      J (s.adding (Work.withRiskSettingChange ⟨settings, change⟩)) w) :
    Keeps sem Each scope J (updateRiskSettings py settings data alertRuntime) (fun _ _ _ => True)
      s w := by
  unfold updateRiskSettings
  refine (keeps_boundColumn holds).bind ?_
  rintro maxSingleOrderNotional s₁ w₁ holds₁ - ⟨rfl, rfl⟩
  refine (keeps_boundColumn holds₁).bind ?_
  rintro maxPositionNotional s₂ w₂ holds₂ - ⟨rfl, rfl⟩
  refine (keeps_boundColumn holds₂).bind ?_
  rintro maxLeverage s₃ w₃ holds₃ - ⟨rfl, rfl⟩
  refine (keeps_boundColumn holds₃).bind ?_
  rintro minOrderQuantity s₄ w₄ holds₄ - ⟨rfl, rfl⟩
  refine (keeps_boundColumn holds₄).bind ?_
  rintro maxOrderQuantity s₅ w₅ holds₅ - ⟨rfl, rfl⟩
  refine (Keeps.raiseIf holds₅).bind ?_
  rintro - s₆ w₆ holds₆ - ⟨rfl, rfl, -⟩
  dsimp only
  refine (keeps_add ?_ rfl).bind ?_
  · exact writes _ rfl
  · rintro - s₇ w₇ holds₇ - -
    refine (keeps_commit inv holds₇).bind ?_
    rintro - s₈ w₈ holds₈ - rfl
    refine (keeps_refreshRiskSetting holds₈).bind ?_
    rintro updated s₉ w₉ holds₉ - -
    unfold notifyEmergencyStopEnabled
    refine Keeps.bind (Q := fun _ _ _ => True) ?_ ?_
    · split
      · exact (keeps_ask inv holds₉).mono fun _ _ _ _ _ _ => True.intro
      · exact .pure holds₉ True.intro
    · rintro - s₁₀ w₁₀ holds₁₀ - -
      exact .pure holds₁₀ True.intro

theorem keeps_patchRiskSettings {accountId : String} {payload : RiskSettingUpdate} (holds : J s w)
    (writes : ∀ {s w settings change}, J s w → settings ∈ w.db.riskSettings →
      scope.account settings.exchangeAccountId w.db →
      RiskSetting.Change.ReplacesList py settings payload change →
      J (s.adding (Work.withRiskSettingChange ⟨settings, change⟩)) w) :
    Keeps sem Each scope J (patchRiskSettings py scope.userId accountId payload)
      (fun _ _ _ => True) s w := by
  unfold patchRiskSettings
  refine (keeps_getOwnedAccount inv holds).bind ?_
  rintro found s₁ w₁ holds₁ - ⟨-, hfound⟩
  split
  · exact .throw holds₁
  · next account =>
    obtain ⟨-, -, -, owned⟩ := hfound account rfl
    refine (Keeps.raiseIf holds₁).bind ?_
    rintro - s₂ w₂ holds₂ - ⟨rfl, rfl, -⟩
    refine (keeps_getOrCreateRiskSettings inv holds₂ owned).bind ?_
    rintro settings s₃ w₃ holds₃ kept₃ ⟨stored, named⟩
    exact keeps_updateRiskSettings inv holds₃ fun change =>
      writes holds₃ stored (named ▸ kept₃.account owned)

theorem keeps_readRiskSettings {accountId : String} (holds : J s w) :
    Keeps sem Each scope J (readRiskSettings scope.userId accountId) (fun _ _ _ => True) s w := by
  unfold readRiskSettings
  refine (keeps_getOwnedAccount inv holds).bind ?_
  rintro found s₁ w₁ holds₁ - ⟨-, hfound⟩
  split
  · exact .throw holds₁
  · next account =>
    obtain ⟨-, -, -, owned⟩ := hfound account rfl
    exact (keeps_getOrCreateRiskSettings inv holds₁ owned).mono fun _ _ _ _ _ _ => True.intro

end update

/-- What an update writes on the list is well formed. -/
theorem blocksWell_of_update {py : Platform} (stable : py.UpperStable) {data : RiskSettingUpdate}
    (keeps : data.KeepsList) {loaded value : Option (List String)}
    (written : value ∈ Session.dirtyColumn loaded
      (data.blockedSymbols.map (Option.map (blockedSymbolsOf py)))) : BlocksWell py value := by
  obtain ⟨set, -⟩ := Option.mem_filter_iff.mp written
  obtain ⟨list, hlist, rfl⟩ := Option.map_eq_some_iff.mp set
  cases list with
  | none => exact absurd hlist keeps
  | some symbols => exact ⟨_, rfl, blockedSymbolsOf_shape stable symbols⟩

/-- An update that keeps the list keeps its shape. -/
theorem RiskSession.change {py : Platform} (stable : py.UpperStable) {data : RiskSettingUpdate}
    (keeps : data.KeepsList) {s : Session} {w : World} (risk : RiskSession py s w)
    {settings : RiskSetting} {change : RiskSetting.Change}
    (replaces : change.ReplacesList py settings data) :
    RiskSession py (s.adding (Work.withRiskSettingChange ⟨settings, change⟩)) w := by
  refine ⟨risk.adding rfl rfl rfl, risk.rows, risk.added, ?_, risk.noAccounts⟩
  intro x hx
  rcases List.mem_append.mp hx with hx | hx
  · exact risk.changed x hx
  · rw [List.mem_singleton.mp hx]
    intro value written
    rw [replaces] at written
    exact blocksWell_of_update stable keeps written

/-! ### Requests, one after the other -/

inductive RiskRequest where
  | patch (userId accountId : String) (payload : RiskSettingUpdate)
  | read (userId accountId : String)
  | execute (req : ExecRequest)

def RiskRequest.service (py : Platform) : RiskRequest → Service Unit
  | .patch userId accountId payload => discard <| patchRiskSettings py userId accountId payload
  | .read userId accountId => discard <| readRiskSettings userId accountId
  | .execute req => discard <| req.service py

def RiskRequest.KeepsList : RiskRequest → Prop
  | .patch _ _ payload => payload.KeepsList
  | _ => True

/-- What the rest of the system may do: the risk settings stay, the logs stay chained, and an
account that has risk settings keeps its owner. -/
structure Elsewhere (before after : Db) : Prop where
  riskSettings : after.riskSettings = before.riskSettings
  chained : after.Chained
  accounts : ∀ row ∈ before.riskSettings, ∀ account ∈ after.accounts,
    account.id = row.exchangeAccountId →
      ∃ old ∈ before.accounts, old.id = account.id ∧ old.userId = account.userId

/-- Requests one at a time, each in a session of its own, cut off anywhere or run to its end. -/
inductive RiskRun (py : Platform) (start : World) : World → Prop where
  | start : RiskRun py start start
  | request {before after : World} {trace : List (Event backend)}
      {rest : Prog backend (Except Exc Unit × Session)} (run : RiskRun py start before)
      (request : RiskRequest) (keeps : request.KeepsList)
      (ran : Prog.Run semantics (request.service py).run before trace rest after) :
      RiskRun py start after
  | elsewhere {before after : World} (run : RiskRun py start before)
      (other : Elsewhere before.db after.db) : RiskRun py start after

theorem RiskRequest.commitsShaped {py : Platform} (stable : py.UpperStable) (request : RiskRequest)
    (keeps : request.KeepsList) {w : World} (chained : w.db.Chained) (rows : w.db.RisksShaped py) :
    Alone semantics (CommitsShaped py) (request.service py) (fun _ _ _ => True) {} w := by
  have risk : RiskSession py {} w := .empty chained rows
  have ends {α : Type} {service : Service α} {userId : String} {Q : α → Session → World → Prop}
      (h : Ends semantics (CommitsShaped py) (Scope.ofUser userId) (RiskSession py) service Q {} w) :
      Alone semantics (CommitsShaped py) (discard service) (fun _ _ _ => True) {} w :=
    alone_discard.mpr (Alone.mono h fun _ _ _ _ => True.intro)
  cases request with
  | patch userId =>
    exact ends (keeps_patchRiskSettings (riskInvariant py userId) risk
      fun risk _ _ replaces => risk.change stable keeps replaces).ends
  | read userId => exact ends (keeps_readRiskSettings (riskInvariant py userId) risk).ends
  | execute req => exact ends (ends_executeSignalForAccount (riskInvariant py req.userId) risk)

/-- A step that is sound keeps the shape if its commit does. -/
theorem shaped_of_step {py : Platform} {e : Event backend} (sound : e.Sound semantics)
    (commits : e.isAction = true → CommitsShaped py e)
    (before : e.before.db.Chained ∧ e.before.db.RisksShaped py) :
    e.after.db.Chained ∧ e.after.db.RisksShaped py := by
  cases e with
  | read | abort => exact before
  | commit => exact commits rfl
  | call query answer before' after =>
    have same : after.db = before'.db := @db_eq_of_call query answer before' after sound
    exact same ▸ before

theorem RiskRun.invariant {py : Platform} {start last : World} (stable : py.UpperStable)
    (run : RiskRun py start last) (chained : start.db.Chained) (rows : start.db.RisksShaped py) :
    last.db.Chained ∧ last.db.RisksShaped py := by
  induction run with
  | start => exact ⟨chained, rows⟩
  | request run request keeps ran ih =>
    obtain ⟨commits, -⟩ := ran.of_alone (request.commitsShaped stable keeps ih.1 ih.2)
    exact ran.preserves (P := fun world : World => world.db.Chained ∧ world.db.RisksShaped py) ih
      fun e he sound => shaped_of_step sound (commits e he)
  | elsewhere run other ih =>
    refine ⟨other.chained, fun row hrow => ?_⟩
    rw [other.riskSettings] at hrow
    refine ⟨(ih.2 row hrow).blocked, fun account stored named => ?_⟩
    obtain ⟨old, hold, hid, huser⟩ := other.accounts row hrow account stored named
    rw [← huser]
    exact (ih.2 row hrow).owner old hold (hid.trans named)

end CopyTrading
