import CopyTrading.Effects
import CopyTrading.SessionAlone
import CopyTrading.TestnetOrder.Lifecycle

/-!
What the order services can do to a session and the database, said once. An invariant that
is kept by the elementary changes listed in `OrderInvariant` is kept by every service; the
services are composed here, whatever the invariant.
-/

namespace CopyTrading

open Transaction Transaction.Handler DecimalArith

/-- The rows a request may attach what it writes to. -/
structure Scope where
  userId : String
  account : String → Db → Prop
  signal : String → Db → Prop
  execution : OrderExecution → Prop
  account_of : ∀ {db : Db} {row : ExchangeAccount}, row ∈ db.accounts → row.userId = userId →
    account row.id db
  signal_of : ∀ {db : Db} {row : TradingSignal}, row ∈ db.signals → row.userId = userId →
    signal row.id db
  execution_of : ∀ {row : OrderExecution}, row.userId = userId → execution row
  stable : ∀ (change : OrderExecution.Change) (row : OrderExecution),
    execution row → execution (Row.apply change row)

/-- Every execution with this id, stored or about to be, is in the scope. -/
structure Scope.Covers (scope : Scope) (id : String) (s : Session) (w : World) : Prop where
  stored : ∀ row ∈ w.db.executions, row.id = id → scope.execution row
  added : ∀ row ∈ s.work.executions, row.id = id → scope.execution row

/-- What a service may rely on later stays as it was found. -/
structure Kept (scope : Scope) (s : Session) (w : World) (s' : Session) (w' : World) : Prop where
  account : ∀ {id}, scope.account id w.db → scope.account id w'.db
  signal : ∀ {id}, scope.signal id w.db → scope.signal id w'.db
  covers : ∀ {id}, scope.Covers id s w → scope.Covers id s' w'

namespace Kept

variable {scope : Scope} {s s' s'' : Session} {w w' w'' : World}

theorem refl : Kept scope s w s w := ⟨id, id, id⟩

theorem trans (first : Kept scope s w s' w') (second : Kept scope s' w' s'' w'') :
    Kept scope s w s'' w'' :=
  ⟨second.account ∘ first.account, second.signal ∘ first.signal, second.covers ∘ first.covers⟩

/-- A session that pends no other executions, over the same rows. -/
theorem of_session (same : w'.db = w.db) (added : s'.work.executions = s.work.executions) :
    Kept scope s w s' w' := by
  refine ⟨fun h => same ▸ h, fun h => same ▸ h, fun covers => ⟨?_, ?_⟩⟩
  · rw [same]
    exact covers.stored
  · rw [added]
    exact covers.added

/-- A transaction that was rolled back pends nothing. -/
theorem dropped : Kept scope s w {} w :=
  ⟨id, id, fun covers => ⟨covers.stored, fun _ hrow => (List.not_mem_nil hrow).elim⟩⟩

/-- Setting attributes leaves every execution in its scope. -/
theorem setting (s : Session) (w : World) (id : String)
    (set : OrderExecution.Change → OrderExecution.Change) :
    Kept scope s w (s.setting id set) w := by
  refine ⟨fun h => h, fun h => h, fun covers => ⟨covers.stored, fun row hrow hid => ?_⟩⟩
  obtain ⟨old, hold, rfl⟩ := List.mem_map.mp hrow
  split at hid
  · next same =>
    rw [if_pos same]
    exact scope.stable _ _ (covers.added old hold hid)
  · next other =>
    rw [if_neg other]
    exact covers.added old hold hid

theorem moving (s : Session) (w : World) (x : OrderExecution) (toStatus : OrderExecutionStatus)
    (reason : String) (details : Json) (sequenceNumber : Nat) :
    Kept scope s w (s.moving x toStatus reason details sequenceNumber) w :=
  (setting s w x.id fun change => { change with status := some toStatus }).trans
    (of_session rfl rfl)

end Kept

/-- The session with more pending. -/
def Session.adding (s : Session) (extend : Work → Work) : Session :=
  { s with work := extend s.work }

/-- The pending executions with one more. -/
def Work.withExecution (row : OrderExecution) (work : Work) : Work :=
  { work with executions := work.executions ++ [row] }

/-- The number the next transition of an execution gets. -/
def Session.nextSequence (s : Session) (id : String) (db : Db) : Nat :=
  max (maxSequence id db.transitions.rows) (maxSequence id s.work.transitions) + 1

/-- An invariant of sessions and the database that every elementary change of the order
services keeps; a commit is also as `Each` asks. -/
structure OrderInvariant (sem : Semantics backend) (Each : Event backend → Prop) (scope : Scope)
    (J : Session → World → Prop) : Prop where
  look : ∀ {s w s' w'}, J s w → Looked s w s' w' → J s' w'
  accounts : ∀ {s w}, J s w → s.SeesAccounts w.db
  secrets : ∀ {s w}, J s w → s.SeesSecrets w.db
  held : ∀ {s w}, J s w → ∀ x ∈ s.executions, x.loaded ∈ w.db.executions
  distinct : ∀ {s w}, J s w → ∀ x ∈ s.work.executions, ∀ y ∈ w.db.executions, y.id ≠ x.id
  saved : ∀ {s w id x s'}, J s w → s.Opens w.db id x s' → x.id ≠ ""
  hold : ∀ {s w row}, J s w → row ∈ w.db.executions → s.heldExecution row.id = none →
    J (s.loading row) w
  annotate : ∀ {s w id x set}, J s w → s.shown id = some x → scope.execution x →
    (∀ change : OrderExecution.Change, (set change).status = change.status) →
    J (s.setting id set) w
  move : ∀ {s w id x toStatus reason details}, J s w → s.shown id = some x → scope.execution x →
    toStatus ∈ allowedOrderTransitions x.status →
    J (s.moving x toStatus reason details (s.nextSequence x.id w.db)) w
  insert : ∀ {s w row reason}, J s w → row.userId = scope.userId → row.status = .created → row.id ≠ "" →
    scope.account row.exchangeAccountId w.db →
    (scope.signal row.signalId w.db ∨
      ∃ signal ∈ s.work.signals, signal.id = row.signalId ∧ signal.userId = scope.userId) →
    (w.db.flush (s.adding (Work.withExecution row)).pending).isOk = true →
    J ((s.adding (Work.withExecution row)).logging row none .created reason .null
      (s.nextSequence row.id w.db)) w
  addSignal : ∀ {s w signal}, J s w → signal.userId = scope.userId →
    J (s.adding fun work => { work with signals := work.signals ++ [signal] }) w
  addRiskSetting : ∀ {s w accountId}, J s w → scope.account accountId w.db →
    J (s.adding fun work =>
      { work with
        riskSettings := work.riskSettings ++ [defaultRiskSetting scope.userId accountId] }) w
  addPosition : ∀ {s w position}, J s w → position.userId = scope.userId →
    scope.account position.exchangeAccountId w.db →
    J (s.adding fun work => { work with positions := work.positions ++ [position] }) w
  movePosition : ∀ {s w position quantity}, J s w → position ∈ w.db.positions →
    scope.account position.exchangeAccountId w.db →
    J (s.adding fun work =>
      { work with positionChanges := work.positionChanges ++ [⟨position, quantity⟩] }) w
  addAuditLog : ∀ {s w log}, J s w → log.userId = scope.userId →
    J (s.adding fun work => { work with auditLogs := work.auditLogs ++ [log] }) w
  commit : ∀ {s w after}, J s w → sem.flush s.pending w = .ok after →
    Each (.commit s.pending w after) ∧ J {} after ∧ Kept scope s w {} after
  abort : ∀ {s w}, J s w → J {} w
  quiet : ∀ query, Quiet sem Each query

variable {sem : Semantics backend} {Each : Event backend → Prop} {scope : Scope}
  {J : Session → World → Prop} {α β : Type} {s : Session} {w : World}

/-- The invariant holds whatever the outcome; what is returned is as `Q` says. -/
def Keeps (sem : Semantics backend) (Each : Event backend → Prop) (scope : Scope)
    (J : Session → World → Prop) (handler : Service α) (Q : α → Session → World → Prop)
    (s : Session) (w : World) : Prop :=
  Alone sem Each handler (fun outcome s' w' =>
    J s' w' ∧ Kept scope s w s' w' ∧ ∀ value, outcome = .ok value → Q value s' w') s w

/-- The invariant holds if the handler returns. After an exception the session is dropped. -/
def Ends (sem : Semantics backend) (Each : Event backend → Prop) (scope : Scope)
    (J : Session → World → Prop) (handler : Service α) (Q : α → Session → World → Prop)
    (s : Session) (w : World) : Prop :=
  Alone sem Each handler (fun outcome s' w' =>
    ∀ value, outcome = .ok value → J s' w' ∧ Kept scope s w s' w' ∧ Q value s' w') s w

section rules

variable {Q : α → Session → World → Prop} {R : β → Session → World → Prop}

theorem Keeps.ends {handler : Service α} (keeps : Keeps sem Each scope J handler Q s w) :
    Ends sem Each scope J handler Q s w :=
  Alone.mono keeps fun _ _ _ h value heq => ⟨h.1, h.2.1, h.2.2 value heq⟩

theorem Keeps.mono {handler : Service α} {Q' : α → Session → World → Prop}
    (keeps : Keeps sem Each scope J handler Q s w)
    (weaker : ∀ value s' w', J s' w' → Kept scope s w s' w' → Q value s' w' → Q' value s' w') :
    Keeps sem Each scope J handler Q' s w :=
  Alone.mono keeps fun _ _ _ h => ⟨h.1, h.2.1, fun value heq => weaker value _ _ h.1 h.2.1 (h.2.2 value heq)⟩

theorem Keeps.bind {first : Service α} {next : α → Service β}
    (hfirst : Keeps sem Each scope J first Q s w)
    (returned : ∀ value s' w', J s' w' → Kept scope s w s' w' → Q value s' w' →
      Keeps sem Each scope J (next value) R s' w') :
    Keeps sem Each scope J (first >>= next) R s w := by
  refine Alone.bind hfirst ?_ ?_
  · rintro value s' w' ⟨holds, kept, hvalue⟩
    refine Alone.mono (returned value s' w' holds kept (hvalue value rfl)) ?_
    rintro outcome s'' w'' ⟨later, kept', houtcome⟩
    exact ⟨later, kept.trans kept', houtcome⟩
  · rintro exc s' w' ⟨holds, kept, -⟩
    exact ⟨holds, kept, fun _ heq => nomatch heq⟩

theorem Ends.bind {first : Service α} {next : α → Service β}
    (hfirst : Ends sem Each scope J first Q s w)
    (returned : ∀ value s' w', J s' w' → Kept scope s w s' w' → Q value s' w' →
      Ends sem Each scope J (next value) R s' w') :
    Ends sem Each scope J (first >>= next) R s w := by
  refine Alone.bind hfirst ?_ fun _ _ _ _ _ heq => nomatch heq
  intro value s' w' ends
  obtain ⟨holds, kept, hvalue⟩ := ends value rfl
  refine Alone.mono (returned value s' w' holds kept hvalue) ?_
  intro outcome s'' w'' ends' result heq
  obtain ⟨later, kept', hresult⟩ := ends' result heq
  exact ⟨later, kept.trans kept', hresult⟩

theorem Keeps.pure {value : α} (holds : J s w) (returns : Q value s w) :
    Keeps sem Each scope J (Pure.pure value) Q s w :=
  ⟨holds, .refl, fun _ heq => by cases heq; exact returns⟩

theorem Keeps.throw {raised : Exc} (holds : J s w) :
    Keeps sem Each scope J (throw raised : Service α) Q s w :=
  ⟨holds, .refl, fun _ heq => nomatch heq⟩

theorem Keeps.ofExcept {outcome : Except Exc α} (holds : J s w)
    (returns : ∀ value, outcome = .ok value → Q value s w) :
    Keeps sem Each scope J (Handler.ofExcept outcome) Q s w :=
  ⟨holds, .refl, returns⟩

theorem Keeps.raiseIf {condition : Prop} [Decidable condition] {raised : Exc} (holds : J s w) :
    Keeps sem Each scope J (Handler.raiseIf condition raised)
      (fun _ s' w' => s' = s ∧ w' = w ∧ ¬ condition) s w := by
  refine alone_raiseIf.mpr ⟨fun _ => ⟨holds, .refl, fun _ heq => nomatch heq⟩, fun passed => ?_⟩
  exact ⟨holds, .refl, fun _ _ => ⟨rfl, rfl, passed⟩⟩

theorem Keeps.tryCatch {body : Service α} {recover : Exc → Service α}
    (hbody : Keeps sem Each scope J body Q s w)
    (recovered : ∀ raised s' w', J s' w' → Kept scope s w s' w' →
      Keeps sem Each scope J (recover raised) Q s' w') :
    Keeps sem Each scope J (MonadExceptOf.tryCatch body recover) Q s w := by
  refine alone_tryCatch.mpr (Alone.mono hbody ?_)
  rintro (raised | value) s' w' ⟨holds, kept, hvalue⟩
  · rw [orElse_error]
    refine Alone.mono (recovered raised s' w' holds kept) ?_
    rintro outcome s'' w'' ⟨later, kept', houtcome⟩
    exact ⟨later, kept.trans kept', houtcome⟩
  · exact ⟨holds, kept, hvalue⟩

theorem Keeps.discard {handler : Service α} {P : Session → World → Prop}
    (keeps : Keeps sem Each scope J handler (fun _ s' w' => P s' w') s w) :
    Keeps sem Each scope J (discard handler) (fun _ s' w' => P s' w') s w := by
  refine alone_discard.mpr (Alone.mono keeps ?_)
  rintro outcome s' w' ⟨holds, kept, hvalue⟩
  refine ⟨holds, kept, fun value heq => ?_⟩
  cases outcome with
  | ok result => exact hvalue result rfl
  | error exc => cases heq

end rules

/-! ### Elementary operations -/

section services

variable (inv : OrderInvariant sem Each scope J)
include inv

theorem Looks.keeps {handler : Service α} {Q : Except Exc α → Prop}
    (looks : Looks sem Each handler Q s w) (holds : J s w) :
    Keeps sem Each scope J handler (fun value s' w' => Q (.ok value) ∧ Looked s w s' w') s w := by
  refine Alone.mono looks ?_
  rintro outcome s' w' ⟨houtcome, looked⟩
  exact ⟨inv.look holds looked,
    .of_session looked.db (congrArg Work.executions looked.work),
    fun value heq => ⟨heq ▸ houtcome, looked⟩⟩

omit inv in
theorem keeps_query {select : Db → α} (holds : J s w) :
    Keeps sem Each scope J (Session.query select)
      (fun value s' w' => value = select w.db ∧ s' = s ∧ w' = w) s w :=
  ⟨holds, .refl, fun _ heq => ⟨(Except.ok.inj heq).symm, rfl, rfl⟩⟩

theorem keeps_ask {query : Query} (holds : J s w) :
    Keeps sem Each scope J (ask query) (fun _ s' w' => Looked s w s' w') s w :=
  (Looks.keeps inv (looks_ask (inv.quiet query)) holds).mono fun _ _ _ _ _ h => h.2

omit inv in
theorem keeps_add {extend : Work → Work} (holds : J (s.adding extend) w)
    (executions : (extend s.work).executions = s.work.executions) :
    Keeps sem Each scope J (Session.add extend)
      (fun _ s' w' => s' = s.adding extend ∧ w' = w) s w :=
  ⟨holds, .of_session rfl executions, fun _ _ => ⟨rfl, rfl⟩⟩

theorem keeps_commit (holds : J s w) :
    Keeps sem Each scope J Session.commit (fun _ s' _ => s' = {}) s w := by
  refine alone_commit.mpr ⟨fun after flushed => ?_, fun fault _ => ?_⟩
  · obtain ⟨each, holds', kept⟩ := inv.commit holds flushed
    exact ⟨each, holds', kept, fun _ _ => rfl⟩
  · exact ⟨inv.abort holds, .dropped, fun _ heq => nomatch heq⟩

theorem keeps_refuseIf {refused : Prop} [Decidable refused] (holds : J s w) :
    Keeps sem Each scope J (Session.refuseIf refused)
      (fun _ s' w' => s' = s ∧ w' = w) s w := by
  refine alone_refuseIf.mpr ⟨fun _ => ?_, fun _ => ⟨holds, .refl, fun _ _ => ⟨rfl, rfl⟩⟩⟩
  exact ⟨inv.abort holds, .dropped, fun _ heq => nomatch heq⟩

omit inv in
theorem keeps_flush (holds : J s w) :
    Keeps sem Each scope J Session.flush (fun _ s' w' => s' = s ∧ w' = w) s w := by
  unfold Keeps
  rw [alone_flush]
  split
  · exact ⟨holds, .refl, fun _ _ => ⟨rfl, rfl⟩⟩
  · exact ⟨holds, .refl, fun _ heq => nomatch heq⟩

/-- Opening an execution of the scope: what is shown is in the scope. -/
theorem OrderInvariant.opened {id : String} {x : OrderExecution} {s' : Session}
    (holds : J s w) (covers : scope.Covers id s w) (opens : s.Opens w.db id x s') :
    scope.execution x := by
  cases opens with
  | shown shown =>
    rcases Option.or_eq_some_iff.mp shown with added | ⟨-, held⟩
    · exact covers.added x (List.mem_of_find?_eq_some added) (by simpa using List.find?_some added)
    · obtain ⟨y, hy, rfl⟩ := Option.map_eq_some_iff.mp held
      refine scope.stable _ _ (covers.stored _ (inv.held holds y (List.mem_of_find?_eq_some hy)) ?_)
      simpa using List.find?_some hy
  | loaded hidden stored hid => exact covers.stored x stored hid

/-- Opening an execution loads at most its row. -/
theorem OrderInvariant.opens {id : String} {x : OrderExecution} {s' : Session} (holds : J s w)
    (opens : s.Opens w.db id x s') : J s' w ∧ Kept scope s w s' w := by
  cases opens with
  | shown shown => exact ⟨holds, .refl⟩
  | loaded hidden stored hid =>
    subst hid
    exact ⟨inv.hold holds stored (heldExecution_of_shown_none hidden), .of_session rfl rfl⟩

/-- A stored execution of the user is covered by the scope. -/
theorem OrderInvariant.covers {row : OrderExecution} (holds : J s w)
    (stored : row ∈ w.db.executions) (owner : row.userId = scope.userId) :
    scope.Covers row.id s w := by
  constructor
  · intro other hother same
    rw [execution_unique hother stored same]
    exact scope.execution_of owner
  · intro added hadded same
    exact (inv.distinct holds added hadded row stored same.symm).elim

theorem keeps_execution {id : String} (holds : J s w) :
    Keeps sem Each scope J (Session.execution id)
      (fun x s' w' => s'.shown id = some x ∧ w' = w) s w := by
  refine alone_execution (fun _ _ => ⟨holds, .refl, fun _ heq => nomatch heq⟩) fun x s' opens => ?_
  obtain ⟨holds', kept⟩ := inv.opens holds opens
  refine ⟨holds', kept, fun _ heq => ?_⟩
  cases heq
  exact ⟨opens.shows, rfl⟩

theorem keeps_annotate {id : String} {x : OrderExecution}
    {set : OrderExecution.Change → OrderExecution.Change} (holds : J s w)
    (covers : scope.Covers id s w) (shown : s.shown id = some x)
    (annotates : ∀ change : OrderExecution.Change, (set change).status = change.status) :
    Keeps sem Each scope J (Session.setExecution id set)
      (fun _ s' w' => (∃ y, s'.shown id = some y) ∧ w' = w) s w :=
  ⟨inv.annotate holds shown (inv.opened holds covers (.shown shown)) annotates, .setting _ _ _ _,
    fun _ _ => ⟨shown_setting set shown, rfl⟩⟩

theorem keeps_transition {id : String} {toStatus : OrderExecutionStatus} {reason : String}
    {details : Json} (holds : J s w) (covers : scope.Covers id s w) :
    Keeps sem Each scope J (transitionOrderExecution id toStatus reason details)
      (fun _ s' w' => (∃ y, s'.shown id = some y) ∧ w' = w) s w := by
  refine alone_transition (fun _ _ => ⟨holds, .refl, fun _ heq => nomatch heq⟩)
    (fun x s' opens => inv.saved holds opens) (fun x s' opens _ _ => ?_) fun x s' opens allowed => ?_
  · obtain ⟨holds', kept⟩ := inv.opens holds opens
    exact ⟨holds', kept, fun _ heq => nomatch heq⟩
  · obtain ⟨holds', kept⟩ := inv.opens holds opens
    obtain rfl : x.id = id := id_of_shown opens.shows
    exact ⟨inv.move holds' opens.shows (inv.opened holds covers opens) allowed,
      kept.trans (.moving _ _ _ _ _ _ _), fun _ _ => ⟨shown_moving opens.shows, rfl⟩⟩

theorem keeps_holdExecution {row : OrderExecution} (holds : J s w)
    (stored : row ∈ w.db.executions) :
    Keeps sem Each scope J (Session.holdExecution row)
      (fun x s' w' => s'.shown row.id = some x ∧ w' = w) s w := by
  have notAdded : s.work.executions.find? (·.id = row.id) = none := by
    refine List.find?_eq_none.mpr fun added hadded => ?_
    simpa using (inv.distinct holds added hadded row stored).symm
  refine alone_holdExecution (fun x hx => ?_) fun fresh => ?_
  · refine ⟨holds, .refl, fun _ heq => ⟨?_, rfl⟩⟩
    cases heq
    unfold Session.shown
    rw [notAdded, hx]
    rfl
  · have hidden : s.shown row.id = none := by
      unfold Session.shown
      rw [notAdded, fresh]
      rfl
    refine ⟨inv.hold holds stored fresh, .of_session rfl rfl, fun _ heq => ⟨?_, rfl⟩⟩
    cases heq
    exact shown_loading hidden

/-- Loading an execution again after a commit. -/
theorem keeps_load {id : String} (holds : J {} w) :
    Keeps sem Each scope J (Session.loadExecution id) (fun _ _ w' => w' = w) {} w := by
  refine alone_loadExecution rfl (fun _ => ⟨holds, .refl, fun _ heq => nomatch heq⟩) ?_
  intro row stored hid
  exact ⟨inv.hold holds stored rfl, .of_session rfl rfl, fun _ _ => rfl⟩

/-! ### Positions, risk settings and new executions -/

omit inv in
theorem keeps_refreshRiskSetting {accountId : String} (holds : J s w) :
    Keeps sem Each scope J (refreshRiskSetting accountId)
      (fun settings s' w' => settings ∈ w'.db.riskSettings ∧
        settings.exchangeAccountId = accountId ∧ s' = s ∧ w' = w) s w := by
  unfold refreshRiskSetting
  refine (keeps_query holds).bind ?_
  rintro found s' w' holds' - ⟨hfound, rfl, rfl⟩
  split
  · exact .throw holds'
  · next row =>
    exact .pure holds' ⟨Table.mem_of_find? hfound.symm,
      by simpa using Table.holds_of_find? hfound.symm, rfl, rfl⟩

theorem keeps_getOrCreateRiskSettings {accountId : String} (holds : J s w)
    (owned : scope.account accountId w.db) :
    Keeps sem Each scope J (getOrCreateRiskSettings scope.userId accountId)
      (fun settings _ w' => settings ∈ w'.db.riskSettings ∧ settings.exchangeAccountId = accountId)
      s w := by
  unfold getOrCreateRiskSettings
  refine (keeps_query holds).bind ?_
  rintro found s' w' holds' - ⟨hfound, rfl, rfl⟩
  split
  · next settings =>
    have named := Table.holds_of_find? hfound.symm
    simp only [decide_eq_true_eq] at named
    exact .pure holds' ⟨Table.mem_of_find? hfound.symm, named.2⟩
  · refine (keeps_add (inv.addRiskSetting holds' owned) rfl).bind ?_
    rintro - s₁ w₁ holds₁ - ⟨rfl, rfl⟩
    refine (keeps_commit inv holds₁).bind ?_
    rintro - s₂ w₂ holds₂ - rfl
    exact (keeps_refreshRiskSetting holds₂).mono fun _ _ _ _ _ h => ⟨h.2.2.2 ▸ h.1, h.2.1⟩

omit inv in
theorem keeps_refreshPosition {accountId symbol : String} (holds : J s w) :
    Keeps sem Each scope J (refreshPosition accountId symbol)
      (fun position s' w' => position ∈ w'.db.positions ∧
        position.exchangeAccountId = accountId ∧ s' = s ∧ w' = w) s w := by
  unfold refreshPosition
  refine (keeps_query holds).bind ?_
  rintro found s' w' holds' - ⟨hfound, rfl, rfl⟩
  split
  · exact .throw holds'
  · next row =>
    have named := Table.holds_of_find? hfound.symm
    simp only [decide_eq_true_eq] at named
    exact .pure holds' ⟨Table.mem_of_find? hfound.symm, named.1, rfl, rfl⟩

theorem keeps_getOrCreatePosition {accountId symbol : String} (holds : J s w)
    (owned : scope.account accountId w.db) :
    Keeps sem Each scope J (getOrCreatePosition scope.userId accountId symbol)
      (fun position _ w' => position ∈ w'.db.positions ∧ position.exchangeAccountId = accountId)
      s w := by
  unfold getOrCreatePosition
  refine (keeps_query holds).bind ?_
  rintro found s' w' holds' - ⟨hfound, rfl, rfl⟩
  split
  · next position =>
    have named := Table.holds_of_find? hfound.symm
    simp only [decide_eq_true_eq] at named
    exact .pure holds' ⟨Table.mem_of_find? hfound.symm, named.2.1⟩
  · refine (keeps_add (inv.addPosition holds' rfl owned) rfl).bind ?_
    rintro - s₁ w₁ holds₁ - ⟨rfl, rfl⟩
    refine (keeps_commit inv holds₁).bind ?_
    rintro - s₂ w₂ holds₂ - rfl
    refine (keeps_refreshPosition holds₂).mono ?_
    rintro position s₃ w₃ - - ⟨stored, named, rfl, rfl⟩
    exact ⟨stored, named⟩

omit inv in
theorem keeps_toColumn {precision scale : Nat} {value : Decimal} (holds : J s w) :
    Keeps sem Each scope J (toColumn value : Service (Numeric precision scale))
      (fun _ s' w' => s' = s ∧ w' = w) s w := by
  unfold toColumn
  split
  · exact .pure holds ⟨rfl, rfl⟩
  · exact .throw holds

omit inv in
theorem keeps_toOptionalColumn {precision scale : Nat} {value : Option Decimal} (holds : J s w) :
    Keeps sem Each scope J (toColumn? value : Service (Option (Numeric precision scale)))
      (fun _ s' w' => s' = s ∧ w' = w) s w := by
  unfold toColumn?
  split
  · exact .pure holds ⟨rfl, rfl⟩
  · rw [map_eq_pure_bind]
    exact (keeps_toColumn holds).bind fun _ _ _ holds' _ h => .pure holds' h

theorem keeps_applyFill {accountId symbol : String} {side : OrderSide}
    {quantity : Decimal} (holds : J s w) (owned : scope.account accountId w.db) :
    Keeps sem Each scope J (applyFill scope.userId accountId symbol side quantity)
      (fun _ _ _ => True) s w := by
  unfold applyFill
  refine (keeps_getOrCreatePosition inv holds owned).bind ?_
  rintro position s₁ w₁ holds₁ kept₁ ⟨stored, named⟩
  refine (keeps_toColumn holds₁).bind ?_
  rintro filled s₂ w₂ holds₂ - ⟨rfl, rfl⟩
  refine (keeps_add (inv.movePosition holds₂ stored (named ▸ kept₁.account owned)) rfl).bind ?_
  rintro - s₃ w₃ holds₃ - ⟨rfl, rfl⟩
  refine (keeps_commit inv holds₃).bind ?_
  rintro - s₄ w₄ holds₄ - rfl
  exact (keeps_refreshPosition holds₄).mono fun _ _ _ _ _ _ => True.intro

end services

/-! ### New executions -/

/-- What a flush would insert has an id of its own, among the stored executions and among
those that are inserted with it. -/
theorem fresh_of_flush {work : Work} {db : Db} {row : OrderExecution} {others : List OrderExecution}
    (accepted : (db.flush work).isOk = true) (added : work.executions = others ++ [row]) :
    (∀ old ∈ db.executions, old.id ≠ row.id) ∧ ∀ other ∈ others, other.id ≠ row.id := by
  obtain ⟨after, flushed⟩ := isOk_iff.mp accepted
  obtain ⟨mid, hmid, -⟩ := Db.flush_eq_ok.mp flushed
  have inserted := (Work.written_of_write hmid).executions
  constructor
  · intro old stored same
    have mine : row ∈ work.executions := added ▸ List.mem_append_right _ (List.mem_singleton_self row)
    refine Table.fresh_of_insertAll inserted (Table.mem_writeBack.mpr ⟨old, stored, rfl⟩) mine
      (.inl ?_)
    rw [Table.key_updated]
    exact same
  · intro other hother same
    have distinct := mid.executions.distinct
    rw [Table.rows_insertAll inserted, added] at distinct
    have pending := (List.pairwise_append.mp distinct).2.1
    exact (List.pairwise_append.mp pending).2.2 other hother row (List.mem_singleton_self row)
      (.inl same)

section services

variable (inv : OrderInvariant sem Each scope J)
include inv

/-- A new execution is added, sent to the database and logged as created. -/
theorem ends_insert (row : OrderExecution) (reason : String) (holds : J s w)
    (owner : row.userId = scope.userId) (created : row.status = .created)
    (account : scope.account row.exchangeAccountId w.db)
    (signal : scope.signal row.signalId w.db ∨
      ∃ signal ∈ s.work.signals, signal.id = row.signalId ∧ signal.userId = scope.userId) :
    Ends sem Each scope J
      (do
        Session.add (Work.withExecution row)
        Session.flush
        recordInitialOrderState row.id reason)
      (fun _ s' w' => scope.Covers row.id s' w') s w := by
  unfold Ends
  rw [alone_bind, alone_add, andThen_ok, alone_bind, alone_flush]
  split
  · next accepted =>
    obtain ⟨notStored, notAdded⟩ := fresh_of_flush accepted rfl
    have shown : (s.adding (Work.withExecution row)).shown row.id = some row := by
      have none : s.work.executions.find? (·.id = row.id) = none := by
        simpa [List.find?_eq_none] using notAdded
      unfold Session.shown Session.adding Work.withExecution
      rw [List.find?_append, none]
      simp
    have kept : Kept scope s w (s.adding (Work.withExecution row)) w := by
      refine ⟨fun h => h, fun h => h, fun covers => ⟨covers.stored, fun new hnew hid => ?_⟩⟩
      rcases List.mem_append.mp hnew with hold | hrow
      · exact covers.added new hold hid
      · rw [List.mem_singleton.mp hrow]
        exact scope.execution_of owner
    have named : scope.Covers row.id s w :=
      ⟨fun old stored same => (notStored old stored same).elim,
        fun old added same => (notAdded old added same).elim⟩
    unfold recordInitialOrderState
    rw [andThen_ok, alone_bind]
    refine alone_execution (fun hidden => ?_) fun x s' opens => ?_
    · cases shown.symm.trans hidden
    · cases opens with
      | loaded hidden => cases shown.symm.trans hidden
      | shown hshown =>
        cases shown.symm.trans hshown
        rw [andThen_ok, alone_bind, alone_raiseIf]
        constructor
        · intro refused
          exact (refused created).elim
        · intro _
          rw [andThen_ok]
          refine alone_addTransition (fun _ _ _ heq => nomatch heq) fun saved => ?_
          intro _ _
          have logged (number : Nat) : Kept scope s w
              ((s.adding (Work.withExecution row)).logging row none .created reason .null number) w :=
            kept.trans (.of_session rfl rfl)
          exact ⟨inv.insert holds owner created saved account signal accepted, logged _,
            (logged _).covers named⟩
  · exact fun _ heq => nomatch heq

theorem ends_insert_bind (row : OrderExecution) (reason : String) {next : Service β}
    {R : β → Session → World → Prop} (holds : J s w)
    (owner : row.userId = scope.userId) (created : row.status = .created)
    (account : scope.account row.exchangeAccountId w.db)
    (signal : scope.signal row.signalId w.db ∨
      ∃ signal ∈ s.work.signals, signal.id = row.signalId ∧ signal.userId = scope.userId)
    (continued : ∀ s' w', J s' w' → Kept scope s w s' w' → scope.Covers row.id s' w' →
      Ends sem Each scope J next R s' w') :
    Ends sem Each scope J
      (do
        Session.add (Work.withExecution row)
        Session.flush
        recordInitialOrderState row.id reason
        next) R s w := by
  have ends : Ends sem Each scope J
      ((do
        Session.add (Work.withExecution row)
        Session.flush
        recordInitialOrderState row.id reason) >>= fun _ => next) R s w :=
    (ends_insert inv row reason holds owner created account signal).bind
      fun _ s' w' => continued s' w'
  simpa only [bind_assoc] using ends

end services

end CopyTrading
