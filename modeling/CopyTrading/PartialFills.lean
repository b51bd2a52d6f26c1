import CopyTrading.EventScope

/-!
Partial fills: an order is reported as filled in part again and again, each time further. The
state machine lets a partially filled order stay partially filled, while the processor takes a
report of the same status for a duplicate.
-/

namespace CopyTrading

open Transaction Transaction.Handler DecimalArith

/-- The filled quantity a transition carries in its details, `null` where there is none. -/
def OrderExecutionTransition.filledQuantity (row : OrderExecutionTransition) : Json :=
  Json.get (Json.mapping row.details) "filled_quantity"

/-- As it stands in the details of a transition. -/
def NormalizedTestnetOrderEvent.quantityText (event : NormalizedTestnetOrderEvent) : Json :=
  match event.filledQuantity with
  | some quantity => .str quantity.str
  | none => .null

/-- The last transition of the execution carries the filled quantity of the event. -/
def LastCarries (x : OrderExecution) (event : NormalizedTestnetOrderEvent) (db : Db) : Prop :=
  ∃ row ∈ db.transitions, row.orderExecutionId = x.id ∧
    row.sequenceNumber = maxSequence x.id db.transitions.rows ∧
    row.filledQuantity = event.quantityText

/-- The event reports less than the other one. -/
def LessFilled (a b : NormalizedTestnetOrderEvent) : Prop :=
  ∃ quantity quantity' : Decimal, a.filledQuantity = some (.finite quantity) ∧
    b.filledQuantity = some (.finite quantity') ∧ quantity.toRat < quantity'.toRat

/-- Reports of partial fills that the columns take, each further than those before. -/
structure PartialFills (events : List NormalizedTestnetOrderEvent) : Prop where
  status : ∀ event ∈ events, event.status = .partiallyFilled
  fits : ∀ event ∈ events, event.Fits
  increasing : events.Pairwise LessFilled

theorem filledQuantity_transition {event : NormalizedTestnetOrderEvent} {x : OrderExecution}
    {reason : String} {number : Nat} :
    (event.transition x reason number).filledQuantity = event.quantityText := by
  unfold OrderExecutionTransition.filledQuantity NormalizedTestnetOrderEvent.transition
    NormalizedTestnetOrderEvent.quantityText safeTransitionDetails
  cases event.eventId <;> cases event.filledQuantity <;> rfl

theorem decimalStr_injective {a b : Decimal} (same : decimalStr a = decimalStr b) :
    a.toRat = b.toRat := by
  have texts : a.toText = b.toText := String.ofList_injective same
  obtain ⟨read, parsed, value⟩ := Decimal.parse_toText a
  obtain ⟨read', parsed', value'⟩ := Decimal.parse_toText b
  rw [texts, parsed', Option.some.injEq] at parsed
  rw [← value, ← value', parsed]

theorem LessFilled.texts_ne {a b : NormalizedTestnetOrderEvent} (less : LessFilled a b) :
    a.quantityText ≠ b.quantityText := by
  obtain ⟨quantity, quantity', ha, hb, lt⟩ := less
  unfold NormalizedTestnetOrderEvent.quantityText
  rw [ha, hb]
  intro same
  exact lt.ne (decimalStr_injective (Json.str.inj same))

/-! ### What is recorded of partial fills -/

section

variable {x : OrderExecution} {start db db' : Db} {event first : NormalizedTestnetOrderEvent}
  {events : List NormalizedTestnetOrderEvent} {userId exchangeAccountId reason : String}

/-- The transition of an event that counts is the last one of its execution. -/
theorem lastCarries_committed
    (committed : EventCommitted first
      (first.transition x reason (maxSequence x.id db.transitions.rows + 1)) x db db') :
    LastCarries x event db' ↔ first.quantityText = event.quantityText := by
  generalize hlogged : first.transition x reason (maxSequence x.id db.transitions.rows + 1) = logged
    at committed
  have named : logged.orderExecutionId = x.id := by rw [← hlogged]; rfl
  have number : logged.sequenceNumber = maxSequence x.id db.transitions.rows + 1 := by
    rw [← hlogged]
    rfl
  have quantity : logged.filledQuantity = first.quantityText := by
    rw [← hlogged]
    exact filledQuantity_transition
  have stored : logged ∈ db'.transitions := by
    rw [Table.mem_def, committed.transitions]
    exact List.mem_append_right _ (List.mem_singleton_self _)
  have last : maxSequence x.id db'.transitions.rows = logged.sequenceNumber := by
    have own : maxSequence x.id [logged] = logged.sequenceNumber := by simp [maxSequence, named]
    rw [committed.transitions, maxSequence_append, own, number]
    omega
  constructor
  · rintro ⟨row, hrow, hid, hlast, carries⟩
    have same : row = logged := by
      refine Table.eq_of_conflict hrow stored ?_
      change OrderExecutionTransition.Key.mk _ _ = OrderExecutionTransition.Key.mk _ _
      rw [hid, named, hlast, last]
    rw [← quantity, ← same, carries]
  · intro same
    exact ⟨logged, stored, named, last.symm, quantity.trans same⟩

/-- The first report of a partial fill counts, where the order was not partially filled yet, and
no other one does. -/
inductive FirstCounts (x : OrderExecution) (start : Db) :
    List NormalizedTestnetOrderEvent → Db → Prop where
  | unmoved {events : List NormalizedTestnetOrderEvent}
      (nothing : events = [] ∨ x.status = .partiallyFilled) : FirstCounts x start events start
  | moved {first : NormalizedTestnetOrderEvent} {rest : List NormalizedTestnetOrderEvent}
      {reason : String} {db : Db} (other : x.status ≠ .partiallyFilled)
      (committed : EventCommitted first
        (first.transition x reason (maxSequence x.id start.transitions.rows + 1)) x start db) :
      FirstCounts x start (first :: rest) db

/-- An event that names an execution names it after another event has counted. -/
theorem NormalizedTestnetOrderEvent.Matches.applied
    (matched : event.Matches userId exchangeAccountId x) (first : NormalizedTestnetOrderEvent) :
    event.Matches userId exchangeAccountId (first.applied x) where
  userId := matched.userId
  exchangeAccountId := matched.exchangeAccountId
  exchangeName := matched.exchangeName
  identifier := by
    rcases matched.identifier with ⟨id, h, same⟩ | ⟨id, h, same⟩
    · exact .inl ⟨id, h, same⟩
    · exact .inr ⟨id, h, exchangeOrderId_applied first (usable_ne h) same⟩

/-- The search that took an execution takes it again after an event has counted for it. -/
theorem findExecution_committed {logged : OrderExecutionTransition} (stored : x ∈ db.executions)
    (committed : EventCommitted first logged x db db')
    (matched : event.Matches userId exchangeAccountId x)
    (only : ∀ row ∈ db.executions, event.Matches userId exchangeAccountId row → row = x) :
    findExecution userId exchangeAccountId event db' = some (first.applied x) := by
  refine (matched.applied first).findExecution ?_ fun row hrow hmatch => ?_
  · rw [Table.mem_def, committed.executions]
    exact List.mem_map.mpr ⟨x, stored, if_pos rfl⟩
  · rw [Table.mem_def, committed.executions] at hrow
    obtain ⟨old, hold, rfl⟩ := List.mem_map.mp hrow
    split at hmatch
    · next named => rw [if_pos named]
    · next other => exact absurd (congrArg _ (only old hold hmatch)) other

end

theorem EventRun.firstCounts {userId exchangeAccountId : String} {start last : World}
    {x : OrderExecution} {events : List NormalizedTestnetOrderEvent}
    {outcomes : List (Except Exc TestnetOrderLifecycleResult)} {s : Session}
    (run : EventRun userId exchangeAccountId start events outcomes s last)
    (stored : x ∈ start.db.executions) (saved : x.id ≠ "")
    (live : x.status ∈ [OrderExecutionStatus.submitted, .accepted, .partiallyFilled])
    (fills : ∀ event ∈ events, event.status = .partiallyFilled)
    (fits : ∀ event ∈ events, event.Fits)
    (matched : ∀ event ∈ events, event.Matches userId exchangeAccountId x ∧
      ∀ row ∈ start.db.executions, event.Matches userId exchangeAccountId row → row = x) :
    s.SeesCommitted last.db ∧ FirstCounts x start.db events last.db := by
  induction run with
  | start sees => exact ⟨sees, .unmoved (.inl rfl)⟩
  | reopen run sees ih => exact ⟨sees, (ih fills fits matched).2⟩
  | @apply events outcomes s s' w w' event reason outcome trace run ran ih =>
    obtain ⟨sees, counts⟩ := ih (fun e he => fills e (List.mem_append_left _ he))
      (fun e he => fits e (List.mem_append_left _ he))
      fun e he => matched e (List.mem_append_left _ he)
    have taken := (fits event (List.mem_append_right _ List.mem_cons_self)).not_refused
    obtain ⟨named, only⟩ := matched event (List.mem_append_right _ List.mem_cons_self)
    have fill := fills event (List.mem_append_right _ List.mem_cons_self)
    generalize hdb : w.db = db at counts
    cases counts with
    | unmoved nothing =>
      rw [← hdb] at stored only
      have found := named.findExecution stored only
      obtain ⟨sees', outcome⟩ :=
        (ran.of_alone (alone_applyTestnetOrderEvent_outcome rfl sees saved found)).2
      refine ⟨sees', ?_⟩
      cases outcome with
      | refused refused => exact absurd refused (taken x)
      | ignored _ stays =>
        have filled : x.status = .partiallyFilled := by
          unfold NormalizedTestnetOrderEvent.Advances at stays
          rw [fill] at stays
          revert stays live
          cases x.status <;> decide
        rw [hdb]
        exact .unmoved (.inr filled)
      | moved counts committed =>
        have other := counts.1.1
        rw [fill] at other
        rcases nothing with rfl | filled
        · rw [hdb] at committed
          exact .moved other.symm committed
        · exact absurd filled.symm other
    | @moved first rest _ _ other committed =>
      have found := findExecution_committed stored committed named only
      rw [← hdb] at found
      obtain ⟨sees', outcome⟩ := (ran.of_alone
        (alone_applyTestnetOrderEvent_outcome (x := first.applied x) rfl sees saved found)).2
      have filled : (first.applied x).status = .partiallyFilled := fills first (by simp)
      refine ⟨sees', ?_⟩
      cases outcome with
      | refused refused => exact absurd refused (taken _)
      | ignored =>
        rw [hdb]
        exact .moved other committed
      | moved counts => exact absurd (fill.trans filled.symm) counts.1.1

/-! ### Sample reports -/

/-- The submitted order is reported as filled in part. -/
def partialFill (quantity : Int) : NormalizedTestnetOrderEvent :=
  { sampleOrderEvent .partiallyFilled with filledQuantity := some (.finite (.ofInt quantity)) }

theorem partialFill_matches (quantity : Int) : (partialFill quantity).Matches "u" "a" submittedExecution ∧
    ∀ row ∈ submittedWorld.db.executions, (partialFill quantity).Matches "u" "a" row →
      row = submittedExecution :=
  ⟨⟨rfl, rfl, rfl, .inl ⟨"c", rfl, rfl⟩⟩, fun _ hrow _ => List.mem_singleton.mp hrow⟩

theorem partialFill_fits (quantity : Int) : (partialFill quantity).Fits := ⟨rfl, rfl⟩

theorem submittedExecution_stored : submittedExecution ∈ submittedWorld.db.executions :=
  List.mem_singleton_self _

/-! ### The guarantee -/

/-- The last transition carries the quantity of the last report exactly if the order was not
partially filled yet and there is only this report, or it was and the last transition had this
quantity before. -/
theorem partial_fills_recorded_iff {userId exchangeAccountId : String} {start last : World}
    {x : OrderExecution} {events : List NormalizedTestnetOrderEvent}
    {event : NormalizedTestnetOrderEvent}
    {outcomes : List (Except Exc TestnetOrderLifecycleResult)} {s : Session}
    (run : EventRun userId exchangeAccountId start (events ++ [event]) outcomes s last)
    (stored : x ∈ start.db.executions) (saved : x.id ≠ "")
    (live : x.status ∈ [OrderExecutionStatus.submitted, .accepted, .partiallyFilled])
    (fills : PartialFills (events ++ [event]))
    (matched : ∀ e ∈ events ++ [event], e.Matches userId exchangeAccountId x ∧
      ∀ row ∈ start.db.executions, e.Matches userId exchangeAccountId row → row = x) :
    LastCarries x event last.db ↔
      x.status ≠ .partiallyFilled ∧ events = [] ∨
        x.status = .partiallyFilled ∧ LastCarries x event start.db := by
  obtain ⟨-, counts⟩ := run.firstCounts stored saved live fills.status fills.fits matched
  have increasing := fills.increasing
  generalize hevents : events ++ [event] = all at counts increasing
  generalize last.db = db at counts
  cases counts with
  | unmoved nothing =>
    have filled : x.status = .partiallyFilled := by
      rcases nothing with rfl | filled
      · simp at hevents
      · exact filled
    simp [filled]
  | @moved first rest _ _ other committed =>
    rw [lastCarries_committed committed]
    cases events with
    | nil =>
      cases hevents
      simp [other]
    | cons earlier middle =>
      cases hevents
      have less : LessFilled first event := List.rel_of_pairwise_cons increasing (by simp)
      simp [other, less.texts_ne]

/-- One report of a partial fill is recorded with its quantity. -/
theorem partial_fills_recorded_iff_once :
    ∃ outcomes s last, EventRun "u" "a" submittedWorld [partialFill 1] outcomes s last ∧
      LastCarries submittedExecution (partialFill 1) last.db := by
  obtain ⟨outcomes, s, last, run⟩ := EventRun.exists "u" "a" submittedWorld ([] ++ [partialFill 1])
  refine ⟨outcomes, s, last, run, ?_⟩
  have fills : PartialFills ([] ++ [partialFill 1]) :=
    ⟨by simp [partialFill, sampleOrderEvent], by simp [partialFill_fits], by simp⟩
  refine (partial_fills_recorded_iff run submittedExecution_stored (by decide) (by decide)
    fills ?_).mpr (.inl ⟨by decide, rfl⟩)
  simpa using partialFill_matches 1

/-- Of two reports, the second one further than the first, only the first one is recorded. -/
theorem second_partial_fill_not_recorded :
    (∃ outcomes s last, EventRun "u" "a" submittedWorld [partialFill 1, partialFill 2] outcomes s last) ∧
      PartialFills [partialFill 1, partialFill 2] ∧
      ∀ outcomes s last, EventRun "u" "a" submittedWorld [partialFill 1, partialFill 2] outcomes s last →
        ¬ LastCarries submittedExecution (partialFill 2) last.db := by
  have fills : PartialFills [partialFill 1, partialFill 2] := by
    constructor
    · simp [partialFill, sampleOrderEvent]
    · simp [partialFill_fits]
    · refine List.pairwise_pair.mpr ⟨.ofInt 1, .ofInt 2, rfl, rfl, ?_⟩
      rw [Decimal.toRat_ofInt, Decimal.toRat_ofInt]
      norm_num
  refine ⟨EventRun.exists _ _ _ _, fills, fun outcomes s last run carries => ?_⟩
  obtain ⟨-, counts⟩ := run.firstCounts submittedExecution_stored (by decide) (by decide) fills.status
    fills.fits (by simpa using ⟨partialFill_matches 1, partialFill_matches 2⟩)
  generalize last.db = db at counts carries
  cases counts with
  | unmoved nothing => exact absurd nothing (by decide)
  | moved _ committed =>
    have less : LessFilled (partialFill 1) (partialFill 2) :=
      List.rel_of_pairwise_cons fills.increasing (by simp)
    exact less.texts_ne ((lastCarries_committed committed).mp carries)

end CopyTrading
