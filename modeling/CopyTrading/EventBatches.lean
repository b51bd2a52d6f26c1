import CopyTrading.EventScope

/-!
Payloads of the order stream that carry several rows. Only the first row is read, so the
payload does what its rows do one by one exactly if the others have nothing left to do.
-/

namespace CopyTrading

open Transaction Transaction.Handler

variable {py : Platform} {exchangeName : ExchangeName} {userId exchangeAccountId reason : String}
  {event : NormalizedTestnetOrderEvent} {x : OrderExecution} {db db' : Db}

/-! ### What an event does to the tables -/

/-- The executions after an event: the one its search takes is changed, if the event counts. -/
def executionsAfter (userId exchangeAccountId : String) (event : NormalizedTestnetOrderEvent)
    (db : Db) : Table OrderExecution :=
  match findExecution userId exchangeAccountId event db with
  | none => db.executions
  | some x =>
      if event.CountsFor x then
        db.executions.rewrite (fun row => if row.id = x.id then event.applied row else row)
          fun row => by split <;> rfl
      else db.executions

/-- The transitions an event logs. -/
def transitionsOfEvent (userId exchangeAccountId reason : String)
    (event : NormalizedTestnetOrderEvent) (db : Db) : List OrderExecutionTransition :=
  match findExecution userId exchangeAccountId event db with
  | none => []
  | some x =>
      if event.CountsFor x then
        [event.transition x reason (maxSequence x.id db.transitions.rows + 1)]
      else []

/-- The event does nothing: it names no execution, or does not count for the one it names. -/
def EventSpent (userId exchangeAccountId : String) (event : NormalizedTestnetOrderEvent) (db : Db) :
    Prop :=
  ∀ x, findExecution userId exchangeAccountId event db = some x → ¬ event.CountsFor x

instance (userId exchangeAccountId : String) (event : NormalizedTestnetOrderEvent) (db : Db) :
    Decidable (EventSpent userId exchangeAccountId event db) :=
  inferInstanceAs (Decidable (∀ x ∈ findExecution userId exchangeAccountId event db, _))

/-- What the tables hold once the event was handled. -/
structure Handled (userId exchangeAccountId reason : String) (event : NormalizedTestnetOrderEvent)
    (db db' : Db) : Prop where
  executions : db'.executions.rows = (executionsAfter userId exchangeAccountId event db).rows
  transitions : db'.transitions.rows =
    db.transitions.rows ++ transitionsOfEvent userId exchangeAccountId reason event db

theorem handled_of_spent (spent : EventSpent userId exchangeAccountId event db) :
    Handled userId exchangeAccountId reason event db db := by
  constructor
  · unfold executionsAfter
    cases found : findExecution userId exchangeAccountId event db with
    | none => rfl
    | some x =>
      dsimp only
      rw [if_neg (spent x found)]
  · unfold transitionsOfEvent
    cases found : findExecution userId exchangeAccountId event db with
    | none => simp
    | some x =>
      dsimp only
      rw [if_neg (spent x found), List.append_nil]

theorem handled_of_committed (found : findExecution userId exchangeAccountId event db = some x)
    (counts : event.CountsFor x)
    (committed : EventCommitted event
      (event.transition x reason (maxSequence x.id db.transitions.rows + 1)) x db db') :
    Handled userId exchangeAccountId reason event db db' := by
  constructor
  · unfold executionsAfter
    rw [found, committed.executions]
    dsimp only
    rw [if_pos counts]
    refine List.map_congr_left fun row hrow => ?_
    split
    · next named => rw [execution_unique hrow (Table.mem_of_find? found) named]
    · rfl
  · unfold transitionsOfEvent
    rw [found, committed.transitions]
    dsimp only
    rw [if_pos counts]

/-- Handling an event, whatever it names. -/
theorem alone_handled {sem : Semantics backend} {s : Session} {w : World}
    (stores : sem.flush = World.flush) (sees : s.SeesCommitted w.db)
    (saved : ∀ row ∈ w.db.executions, row.id ≠ "") :
    Alone sem (fun _ => True) (applyTestnetOrderEvent userId exchangeAccountId event reason)
      (fun _ s' w' => s'.SeesCommitted w'.db ∧
        Handled userId exchangeAccountId reason event w.db w'.db) s w := by
  cases found : findExecution userId exchangeAccountId event w.db with
  | none =>
    refine (alone_applyTestnetOrderEvent_missed sees found).mono ?_
    rintro outcome s' w' ⟨sees', rfl⟩
    refine ⟨sees', handled_of_spent fun x taken => ?_⟩
    cases found.symm.trans taken
  | some x =>
    have stored : x ∈ w.db.executions := Table.mem_of_find? found
    refine (alone_applyTestnetOrderEvent_outcome stores sees (saved x stored) found).mono ?_
    have spent (stays : ¬ event.CountsFor x) :
        Handled userId exchangeAccountId reason event w.db w.db := by
      refine handled_of_spent fun row taken => ?_
      cases found.symm.trans taken
      exact stays
    rintro outcome s' w' ⟨sees', result⟩
    cases result with
    | refused refused => exact ⟨sees', spent fun counts => counts.2 refused⟩
    | ignored _ stays => exact ⟨sees', spent fun counts => stays counts.1⟩
    | moved counts committed => exact ⟨sees', handled_of_committed found counts committed⟩

theorem Handled.of_spent (handled : Handled userId exchangeAccountId reason event db db')
    (spent : EventSpent userId exchangeAccountId event db) :
    db'.executions.rows = db.executions.rows ∧ db'.transitions.rows = db.transitions.rows := by
  obtain ⟨executions, transitions⟩ := @handled_of_spent userId exchangeAccountId reason event db spent
  exact ⟨handled.executions.trans executions.symm, handled.transitions.trans transitions.symm⟩

/-- An event that does something is logged. -/
theorem Handled.spent_iff (handled : Handled userId exchangeAccountId reason event db db') :
    EventSpent userId exchangeAccountId event db ↔ db'.transitions.rows = db.transitions.rows := by
  constructor
  · exact fun spent => (handled.of_spent spent).2
  · intro same x found counts
    have logged := handled.transitions
    rw [same, transitionsOfEvent, found] at logged
    simp [counts] at logged

theorem spent_congr (same : db'.executions.rows = db.executions.rows) :
    EventSpent userId exchangeAccountId event db' ↔ EventSpent userId exchangeAccountId event db := by
  unfold EventSpent findExecution
  rw [Table.ext same]

/-- Events handled one after the other. -/
inductive HandledAll (userId exchangeAccountId reason : String) :
    List NormalizedTestnetOrderEvent → Db → Db → Prop where
  | nil {db : Db} : HandledAll userId exchangeAccountId reason [] db db
  | cons {event : NormalizedTestnetOrderEvent} {rest : List NormalizedTestnetOrderEvent}
      {db mid db' : Db} (first : Handled userId exchangeAccountId reason event db mid)
      (others : HandledAll userId exchangeAccountId reason rest mid db') :
      HandledAll userId exchangeAccountId reason (event :: rest) db db'

namespace HandledAll

variable {events : List NormalizedTestnetOrderEvent} {mid : Db}

theorem snoc (handled : HandledAll userId exchangeAccountId reason events db mid)
    (last : Handled userId exchangeAccountId reason event mid db') :
    HandledAll userId exchangeAccountId reason (events ++ [event]) db db' := by
  induction handled with
  | nil => exact .cons last .nil
  | cons first _ ih => exact .cons first (ih last)

theorem transitions_length (handled : HandledAll userId exchangeAccountId reason events db db') :
    db.transitions.rows.length ≤ db'.transitions.rows.length := by
  induction handled with
  | nil => exact le_rfl
  | cons first _ ih =>
    have grown := congrArg List.length first.transitions
    rw [List.length_append] at grown
    omega

/-- Nothing has happened exactly if no event had anything to do at first. -/
theorem unchanged_iff (handled : HandledAll userId exchangeAccountId reason events db db') :
    (db'.executions.rows = db.executions.rows ∧ db'.transitions.rows = db.transitions.rows) ↔
      ∀ event ∈ events, EventSpent userId exchangeAccountId event db := by
  induction handled with
  | nil => simp
  | @cons event rest db mid db' first others ih =>
    have both : EventSpent userId exchangeAccountId event db →
        mid.executions.rows = db.executions.rows ∧ mid.transitions.rows = db.transitions.rows :=
      first.of_spent
    constructor
    · rintro ⟨executions, transitions⟩
      -- the log only grows, so that the first event has not logged anything
      have spent : EventSpent userId exchangeAccountId event db := by
        refine first.spent_iff.mpr ?_
        have grown := first.transitions
        have length := others.transitions_length
        rw [transitions, grown, List.length_append] at length
        have none : transitionsOfEvent userId exchangeAccountId reason event db = [] :=
          List.length_eq_zero_iff.mp (by omega)
        rw [grown, none, List.append_nil]
      obtain ⟨executions', transitions'⟩ := both spent
      have later := ih.mp ⟨executions.trans executions'.symm, transitions.trans transitions'.symm⟩
      intro other hother
      rcases List.mem_cons.mp hother with rfl | hother
      · exact spent
      · exact (spent_congr executions').mp (later other hother)
    · intro spent
      obtain ⟨executions', transitions'⟩ := both (spent event List.mem_cons_self)
      obtain ⟨executions, transitions⟩ := ih.mpr fun other hother =>
        (spent_congr executions').mpr (spent other (List.mem_cons_of_mem _ hother))
      exact ⟨executions.trans executions', transitions.trans transitions'⟩

end HandledAll

theorem Handled.saved (handled : Handled userId exchangeAccountId reason event db db')
    (saved : ∀ row ∈ db.executions, row.id ≠ "") : ∀ row ∈ db'.executions, row.id ≠ "" := by
  intro row hrow
  rw [Table.mem_def, handled.executions] at hrow
  unfold executionsAfter at hrow
  split at hrow
  · exact saved row hrow
  · split at hrow
    · obtain ⟨old, hold, rfl⟩ := List.mem_map.mp hrow
      have kept := saved old hold
      split
      · exact kept
      · exact kept
    · exact saved row hrow

/-! ### Payloads -/

/-- The payload with one row instead of all. -/
def singleRowPayload (payload : List (String × Json)) (row : Json) : List (String × Json) :=
  ("data", .arr [row]) :: payload.filter (·.1 ≠ "data")

theorem get_singleRowPayload_data (payload : List (String × Json)) (row : Json) :
    Json.get (singleRowPayload payload row) "data" = .arr [row] := rfl

theorem get_singleRowPayload (payload : List (String × Json)) (row : Json) (key : String)
    (other : key ≠ "data") : Json.get (singleRowPayload payload row) key = Json.get payload key := by
  have kept : Json.lookup key (payload.filter (·.1 ≠ "data")) = Json.lookup key payload := by
    induction payload with
    | nil => rfl
    | cons entry rest ih =>
      obtain ⟨name, value⟩ := entry
      by_cases data : name = "data"
      · subst data
        simpa [Json.lookup, other.symm] using ih
      · by_cases named : name = key
        · simp [Json.lookup, named, other]
        · simpa [Json.lookup, data, named] using ih
  unfold Json.get singleRowPayload
  rw [Json.lookup, if_neg other.symm, kept]

/-- Only the first row of a payload is read. -/
theorem normalize_singleRowPayload {payload : List (String × Json)} {first : Json} {rest : List Json}
    (rows : Json.get payload "data" = .arr (first :: rest))
    (batched : exchangeName = .bybit ∨ exchangeName = .okx) :
    normalizeTestnetUserStreamOrderEvent py exchangeName payload =
      normalizeTestnetUserStreamOrderEvent py exchangeName (singleRowPayload payload first) := by
  have sameRow : firstMapping (Json.get payload "data") =
      firstMapping (Json.get (singleRowPayload payload first) "data") := by
    rw [rows, get_singleRowPayload_data]
    cases first <;> rfl
  rcases batched with rfl | rfl
  · change normalizeBybit py _ = normalizeBybit py _
    unfold normalizeBybit
    rw [sameRow, get_singleRowPayload payload first "id" (by decide),
      get_singleRowPayload payload first "creationTime" (by decide)]
  · change normalizeOkx py _ = normalizeOkx py _
    unfold normalizeOkx
    rw [sameRow]

/-- Payloads handled one after the other by one processor. -/
inductive PayloadRun (py : Platform) (userId exchangeAccountId : String)
    (exchangeName : ExchangeName) (start : World) :
    List (List (String × Json)) → Session → World → Prop where
  | start {s : Session} (sees : s.SeesCommitted start.db) :
      PayloadRun py userId exchangeAccountId exchangeName start [] s start
  | handle {payloads : List (List (String × Json))} {s s' : Session} {w w' : World}
      {payload : List (String × Json)} {outcome : Except Exc TestnetOrderLifecycleResult}
      {trace : List (Event backend)}
      (run : PayloadRun py userId exchangeAccountId exchangeName start payloads s w)
      (ran : Prog.Run semantics
        (handleUserStreamOrderEvent py userId exchangeAccountId exchangeName payload s) w trace
        (.done (outcome, s')) w') :
      PayloadRun py userId exchangeAccountId exchangeName start (payloads ++ [payload]) s' w'

theorem exists_map_ok {α β ε : Type} {f : α → Except ε β} {items : List α}
    (valid : ∀ item ∈ items, ∃ value, f item = .ok value) :
    ∃ values : List β, values.map Except.ok = items.map f := by
  induction items with
  | nil => exact ⟨[], rfl⟩
  | cons item rest ih =>
    obtain ⟨value, hvalue⟩ := valid item List.mem_cons_self
    obtain ⟨values, hvalues⟩ := ih fun other hother => valid other (List.mem_cons_of_mem _ hother)
    exact ⟨value :: values, by rw [List.map_cons, List.map_cons, hvalue, hvalues]⟩

/-- The run of payloads that are read as these events. -/
theorem PayloadRun.handledAll {start last : World} {payloads : List (List (String × Json))}
    {events : List NormalizedTestnetOrderEvent} {s : Session}
    (run : PayloadRun py userId exchangeAccountId exchangeName start payloads s last)
    (saved : ∀ row ∈ start.db.executions, row.id ≠ "")
    (read : events.map Except.ok =
      payloads.map (normalizeTestnetUserStreamOrderEvent py exchangeName)) :
    s.SeesCommitted last.db ∧ (∀ row ∈ last.db.executions, row.id ≠ "") ∧
      HandledAll userId exchangeAccountId "testnet_user_stream_event" events start.db last.db := by
  induction run generalizing events with
  | start sees =>
    obtain rfl := List.map_eq_nil_iff.mp read
    exact ⟨sees, saved, .nil⟩
  | @handle payloads s s' w w' payload outcome trace run ran ih =>
    rw [List.map_append] at read
    obtain ⟨earlier, lasts, rfl, readEarlier, readLast⟩ := List.map_eq_append_iff.mp read
    obtain ⟨event, rfl, readEvent⟩ := List.map_eq_singleton_iff.mp readLast
    obtain ⟨sees, saved', handled⟩ := ih readEarlier
    have applies : handleUserStreamOrderEvent py userId exchangeAccountId exchangeName payload =
        applyTestnetOrderEvent userId exchangeAccountId event := by
      unfold handleUserStreamOrderEvent
      rw [← readEvent]
      rfl
    rw [applies] at ran
    obtain ⟨sees', last⟩ := (ran.of_alone (alone_handled rfl sees saved')).2
    exact ⟨sees', last.saved saved', handled.snoc last⟩

/-- The row has nothing to do once the first row was handled: its event names no execution, or
repeats the status of the one it names, or its status is not allowed there, or the database refuses
its identifiers. -/
def RowSpent (py : Platform) (userId exchangeAccountId : String) (exchangeName : ExchangeName)
    (payload : List (String × Json)) (first row : Json) (db : Db) : Prop :=
  ∀ firstEvent event,
    normalizeTestnetUserStreamOrderEvent py exchangeName (singleRowPayload payload first) =
      .ok firstEvent →
    normalizeTestnetUserStreamOrderEvent py exchangeName (singleRowPayload payload row) = .ok event →
    EventSpent userId exchangeAccountId event
      { db with executions := executionsAfter userId exchangeAccountId firstEvent db }

/-! ### Sample payloads -/

/-- Two orders of one Bybit account. -/
def bybitOrdersWorld : World :=
  { db :=
      { executions :=
          ⟨[{ firstOrder with exchangeName := "bybit" }, { secondOrder with exchangeName := "bybit" }],
            by decide +kernel⟩ } }

theorem bybitOrdersWorld_saved : ∀ row ∈ bybitOrdersWorld.db.executions, row.id ≠ "" := by
  intro row hrow
  rcases List.mem_cons.mp hrow with rfl | hrow
  · decide
  · rw [List.mem_singleton.mp hrow]
    decide

def bybitRow (clientOrderId status : String) : Json :=
  .obj [("orderLinkId", .str clientOrderId), ("orderStatus", .str status)]

def bybitPayload (rows : List Json) : List (String × Json) :=
  [("topic", .str "order"), ("id", .str "5"), ("data", .arr rows)]

/-- As what a sample row is read. -/
def bybitEvent (clientOrderId : String) (status : OrderExecutionStatus) :
    NormalizedTestnetOrderEvent where
  exchangeName := .bybit
  clientOrderId := some clientOrderId
  exchangeOrderId := none
  status := status
  eventId := some "5"

theorem PayloadRun.exists (py : Platform) (userId exchangeAccountId : String)
    (exchangeName : ExchangeName) (start : World) (payloads : List (List (String × Json))) :
    ∃ s last, PayloadRun py userId exchangeAccountId exchangeName start payloads s last := by
  induction payloads using List.reverseRecOn with
  | nil => exact ⟨{}, start, .start (.fresh _)⟩
  | append_singleton payloads payload ih =>
    obtain ⟨s, w, run⟩ := ih
    have answered : ∀ store query, ∃ answer after, semantics.Answers store query answer after :=
      fun store query => ⟨_, _, environment_allowed ⟨true, .empty⟩ 0 () store query rfl⟩
    obtain ⟨trace, ⟨outcome, s'⟩, last, ran⟩ := Prog.exists_complete answered
      (handleUserStreamOrderEvent py userId exchangeAccountId exchangeName payload s) w
    exact ⟨s', last, run.handle ran⟩

/-! ### The guarantee -/

/-- A payload of several rows leaves executions and transitions as its rows do one by one,
exactly if no row but the first has anything left to do. -/
theorem batched_payload_iff {start last last' : World} {payload : List (String × Json)}
    {first : Json} {rest : List Json} {s s' : Session}
    (batched : exchangeName = .bybit ∨ exchangeName = .okx)
    (rows : Json.get payload "data" = .arr (first :: rest))
    (valid : ∀ row ∈ first :: rest, ∃ event,
      normalizeTestnetUserStreamOrderEvent py exchangeName (singleRowPayload payload row) = .ok event)
    (saved : ∀ row ∈ start.db.executions, row.id ≠ "")
    (run : PayloadRun py userId exchangeAccountId exchangeName start [payload] s last)
    (single : PayloadRun py userId exchangeAccountId exchangeName start
      ((first :: rest).map (singleRowPayload payload)) s' last') :
    (last'.db.executions.rows = last.db.executions.rows ∧
        last'.db.transitions.rows = last.db.transitions.rows) ↔
      ∀ row ∈ rest, RowSpent py userId exchangeAccountId exchangeName payload first row start.db := by
  obtain ⟨events, read⟩ := exists_map_ok (f := fun row =>
    normalizeTestnetUserStreamOrderEvent py exchangeName (singleRowPayload payload row)) valid
  obtain ⟨firstEvent, others, rfl, readFirst, readRest⟩ := List.map_eq_cons_iff.mp read
  have readBatch : [firstEvent].map Except.ok =
      [payload].map (normalizeTestnetUserStreamOrderEvent py exchangeName) := by
    rw [List.map_singleton, List.map_singleton, readFirst, normalize_singleRowPayload rows batched]
  obtain ⟨-, -, handledBatch⟩ := run.handledAll saved readBatch
  have readSingle : (firstEvent :: others).map Except.ok =
      ((first :: rest).map (singleRowPayload payload)).map
        (normalizeTestnetUserStreamOrderEvent py exchangeName) := by
    rw [read, List.map_map]
    rfl
  obtain ⟨-, -, handledSingle⟩ := single.handledAll saved readSingle
  cases handledBatch with
  | cons handled nothing =>
  cases nothing
  cases handledSingle with
  | @cons _ _ _ mid _ handled' rest' =>
  have executions : mid.executions.rows = last.db.executions.rows :=
    handled'.executions.trans handled.executions.symm
  have transitions : mid.transitions.rows = last.db.transitions.rows :=
    handled'.transitions.trans handled.transitions.symm
  rw [← executions, ← transitions, rest'.unchanged_iff]
  have spent : ∀ event, EventSpent userId exchangeAccountId event mid ↔
      EventSpent userId exchangeAccountId event
        { start.db with
          executions := executionsAfter userId exchangeAccountId firstEvent start.db } :=
    fun event => spent_congr handled'.executions
  constructor
  · intro all row hrow first' event read' readRow
    obtain rfl := Except.ok.inj (readFirst.trans read')
    have among : Except.ok event ∈ others.map Except.ok :=
      readRest ▸ List.mem_map.mpr ⟨row, hrow, readRow⟩
    obtain ⟨_, hevent, same⟩ := List.mem_map.mp among
    obtain rfl := Except.ok.inj same
    exact (spent _).mp (all _ hevent)
  · intro all event hevent
    have among := List.mem_map_of_mem (f := (Except.ok : _ → Except Exc _)) hevent
    rw [readRest] at among
    obtain ⟨row, hrow, readRow⟩ := List.mem_map.mp among
    exact (spent event).mpr (all row hrow firstEvent event readFirst.symm readRow)

/-- An order that is filled, and reported as new behind that. -/
theorem batched_payload_iff_late :
    ∃ s last s' last',
      PayloadRun asciiPlatform "u" "a" .bybit bybitOrdersWorld
        [bybitPayload [bybitRow "c1" "Filled", bybitRow "c1" "New"]] s last ∧
      PayloadRun asciiPlatform "u" "a" .bybit bybitOrdersWorld
        ([bybitRow "c1" "Filled", bybitRow "c1" "New"].map
          (singleRowPayload (bybitPayload [bybitRow "c1" "Filled", bybitRow "c1" "New"]))) s' last' ∧
      last'.db.transitions.rows = last.db.transitions.rows := by
  obtain ⟨s, last, run⟩ := PayloadRun.exists asciiPlatform "u" "a" .bybit bybitOrdersWorld
    [bybitPayload [bybitRow "c1" "Filled", bybitRow "c1" "New"]]
  obtain ⟨s', last', single⟩ := PayloadRun.exists asciiPlatform "u" "a" .bybit bybitOrdersWorld
    ([bybitRow "c1" "Filled", bybitRow "c1" "New"].map
      (singleRowPayload (bybitPayload [bybitRow "c1" "Filled", bybitRow "c1" "New"])))
  refine ⟨s, last, s', last', run, single, ((batched_payload_iff (.inl rfl) rfl ?_
    bybitOrdersWorld_saved run single).mpr ?_).2⟩
  · intro row hrow
    rcases List.mem_pair.mp hrow with rfl | rfl
    · exact ⟨bybitEvent "c1" .filled, rfl⟩
    · exact ⟨bybitEvent "c1" .accepted, rfl⟩
  · intro row hrow firstEvent event read readRow
    obtain rfl := List.mem_singleton.mp hrow
    obtain rfl : bybitEvent "c1" .filled = firstEvent := Except.ok.inj read
    obtain rfl : bybitEvent "c1" .accepted = event := Except.ok.inj readRow
    decide +kernel

/-- Two orders that are filled are reported in one payload: the second fill is dropped. -/
theorem second_row_dropped :
    (∃ s last, PayloadRun asciiPlatform "u" "a" .bybit bybitOrdersWorld
        [bybitPayload [bybitRow "c1" "Filled", bybitRow "c2" "Filled"]] s last) ∧
      ∀ s last s' last', PayloadRun asciiPlatform "u" "a" .bybit bybitOrdersWorld
          [bybitPayload [bybitRow "c1" "Filled", bybitRow "c2" "Filled"]] s last →
        PayloadRun asciiPlatform "u" "a" .bybit bybitOrdersWorld
          ([bybitRow "c1" "Filled", bybitRow "c2" "Filled"].map
            (singleRowPayload (bybitPayload [bybitRow "c1" "Filled", bybitRow "c2" "Filled"])))
          s' last' →
        ¬ (last'.db.executions.rows = last.db.executions.rows ∧
          last'.db.transitions.rows = last.db.transitions.rows) := by
  refine ⟨PayloadRun.exists _ _ _ _ _ _, fun s last s' last' run single same => ?_⟩
  have readBatch : [bybitEvent "c1" .filled].map Except.ok =
      [bybitPayload [bybitRow "c1" "Filled", bybitRow "c2" "Filled"]].map
        (normalizeTestnetUserStreamOrderEvent asciiPlatform .bybit) := rfl
  have readSingle : [bybitEvent "c1" .filled, bybitEvent "c2" .filled].map Except.ok =
      ([bybitRow "c1" "Filled", bybitRow "c2" "Filled"].map
        (singleRowPayload (bybitPayload [bybitRow "c1" "Filled", bybitRow "c2" "Filled"]))).map
        (normalizeTestnetUserStreamOrderEvent asciiPlatform .bybit) := rfl
  have handledBatch := (run.handledAll bybitOrdersWorld_saved readBatch).2.2
  have handledSingle := (single.handledAll bybitOrdersWorld_saved readSingle).2.2
  cases handledBatch with
  | cons handled nothing =>
  cases nothing
  cases handledSingle with
  | cons handled' rest =>
  rw [handled.executions, handled.transitions, ← handled'.executions, ← handled'.transitions,
    rest.unchanged_iff] at same
  have spent : EventSpent "u" "a" (bybitEvent "c2" .filled)
      { bybitOrdersWorld.db with
        executions := executionsAfter "u" "a" (bybitEvent "c1" .filled) bybitOrdersWorld.db } :=
    (spent_congr handled'.executions).mp (same _ (List.mem_singleton_self _))
  exact absurd spent (by decide +kernel)

end CopyTrading
