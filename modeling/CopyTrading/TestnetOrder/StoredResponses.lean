import CopyTrading.Effects
import CopyTrading.Environment
import CopyTrading.SessionDiscipline
import CopyTrading.Text.JsonKeys
import CopyTrading.TestnetOrder.Submission

/-!
What is stored of the answer of the exchange: the value without its sensitive keys, and the
order id that is read from it.
-/

namespace CopyTrading

open Transaction Transaction.Handler

variable {py : Platform} {value : Json} {fields : List (String × Json)}

/-! ### Redaction -/

/-- `_safe_value` drops the sensitive keys. -/
theorem safeValue_eq (value : Json) : safeValue py value = value.dropKeys (isSensitiveKey py) := by
  induction value using Json.induct with
  | arr items ih =>
    rw [safeValue, Json.dropKeys]
    refine congrArg Json.arr ?_
    induction items with
    | nil => rfl
    | cons item rest ihs =>
      rw [safeItems, Json.dropItems, ih item List.mem_cons_self,
        ihs fun other held => ih other (List.mem_cons_of_mem _ held)]
  | obj fields ih =>
    rw [safeValue, Json.dropKeys]
    refine congrArg Json.obj ?_
    induction fields with
    | nil => rfl
    | cons entry rest ihs =>
      rw [safeFields, Json.dropFields, ih entry List.mem_cons_self,
        ihs fun other held => ih other (List.mem_cons_of_mem _ held)]
  | _ => rfl

/-- No mapping in the value has a sensitive key. -/
def Redacted (py : Platform) (value : Json) : Prop :=
  ∀ key, value.HasKey key → isSensitiveKey py key = false

theorem redacted_safeValue (value : Json) : Redacted py (safeValue py value) := by
  intro key has
  rw [safeValue_eq] at has
  exact (Json.hasKey_of_dropKeys has).1

theorem safeValue_of_redacted (redacted : Redacted py value) : safeValue py value = value := by
  rw [safeValue_eq]
  exact Json.dropKeys_of_free redacted

/-- What the redaction of a value is, one level at a time: every other entry and every item is
kept, in order, with its redacted value. -/
structure RedactsInOrder (py : Platform) : Prop where
  fields : ∀ fields, safeValue py (.obj fields) =
    .obj ((fields.filter fun entry => !isSensitiveKey py entry.1).map fun entry =>
      (entry.1, safeValue py entry.2))
  items : ∀ items, safeValue py (.arr items) = .arr (items.map (safeValue py))
  scalars : ∀ value, (∀ fields, value ≠ .obj fields) → (∀ items, value ≠ .arr items) →
    safeValue py value = value

theorem redactsInOrder (py : Platform) : RedactsInOrder py where
  fields fields := by
    simp only [safeValue_eq]
    rw [Json.dropKeys, Json.dropFields_eq]
  items items := by
    have each : safeValue py = Json.dropKeys (isSensitiveKey py) := funext safeValue_eq
    rw [each, Json.dropKeys, Json.dropItems_eq]
  scalars value noMapping noList := by
    cases value with
    | obj fields => exact absurd rfl (noMapping fields)
    | arr items => exact absurd rfl (noList items)
    | _ => rfl

/-! ### What is read from it -/

/-- `str.lower` of ASCII text. -/
def Platform.LowersAscii (py : Platform) : Prop :=
  ∀ text : String, (∀ c ∈ text.toList, c.toNat < 128) →
    py.lower text = String.ofList (text.toList.map Char.toLower)

/-- The keys the result codes and the order ids are found at. -/
def responseKeys : List String := ["retCode", "code", "orderId", "result", "data", "ordId"]

theorem not_sensitive_responseKey (lowers : py.LowersAscii) {key : String}
    (known : key ∈ responseKeys) : isSensitiveKey py key = false := by
  have ascii : ∀ key ∈ responseKeys, ((key.toList.map fun c => if c = '-' then '_' else c).all
      fun c => decide (c.toNat < 128)) = true := by decide
  have other : ∀ key ∈ responseKeys, sensitiveResponseKeys.contains (String.ofList
      ((key.toList.map fun c => if c = '-' then '_' else c).map Char.toLower)) = false := by decide
  unfold isSensitiveKey
  rw [lowers]
  · rw [String.toList_ofList]
    exact other key known
  · intro c hc
    rw [String.toList_ofList] at hc
    simpa using List.all_eq_true.mp (ascii key known) c hc

theorem get_safeValue (lowers : py.LowersAscii) {key : String} (known : key ∈ responseKeys)
    (value : Json) : Json.get (Json.mapping (safeValue py value)) key =
      safeValue py (Json.get (Json.mapping value) key) := by
  rw [safeValue_eq, safeValue_eq, Json.mapping_dropKeys]
  exact Json.get_dropFields (not_sensitive_responseKey lowers known) _

/-- A code that is a mapping or a list is an error code before and after. -/
theorem isErrorCode_safeValue (value : Json) :
    isErrorCode (safeValue py value) = isErrorCode value := by
  cases value <;> rfl

/-- The redacted answer is rejected as the answer itself is. -/
theorem raiseForExchangeRejection_safeValue (lowers : py.LowersAscii) (exchangeName : String)
    (value : Json) : raiseForExchangeRejection exchangeName (safeValue py value) =
      raiseForExchangeRejection exchangeName value := by
  cases value with
  | obj fields =>
    have code (key : String) (known : key ∈ responseKeys) :
        isErrorCode (Json.get (safeFields py fields) key) = isErrorCode (Json.get fields key) := by
      have same := get_safeValue lowers known (.obj fields)
      rw [safeValue] at same
      change Json.get (safeFields py fields) key = _ at same
      rw [same, isErrorCode_safeValue]
      rfl
    have retCode := code "retCode" (by decide)
    have code := code "code" (by decide)
    rw [safeValue]
    unfold raiseForExchangeRejection
    split <;> simp_all
  | arr items =>
    rw [safeValue]
    unfold raiseForExchangeRejection
    split <;> simp_all
  | _ => rfl

/-- The value the order id is the text of; `null` where there is none. -/
def exchangeOrderIdValue (exchangeName : String) (response : Json) : Json :=
  match exchangeName with
  | "binance" => Json.get (Json.mapping response) "orderId"
  | "bybit" => Json.get (Json.mapping (Json.get (Json.mapping response) "result")) "orderId"
  | "okx" =>
      match Json.get (Json.mapping response) "data" with
      | .arr (row :: _) => Json.get (Json.mapping row) "ordId"
      | _ => .null
  | _ => .null

theorem exchangeOrderIdText_eq (exchangeName : String) (response : Json) :
    exchangeOrderIdText py exchangeName response =
      optionalText py (exchangeOrderIdValue exchangeName response) := by
  unfold exchangeOrderIdText exchangeOrderIdValue
  split
  · rfl
  · rfl
  · dsimp only
    cases Json.get (Json.mapping response) "data" with
    | arr items => cases items <;> rfl
    | _ => rfl
  · simp_all [optionalText]

/-- The order id is found where it was, redacted as the rest. -/
theorem exchangeOrderIdValue_safeValue (lowers : py.LowersAscii) (exchangeName : String)
    (response : Json) : exchangeOrderIdValue exchangeName (safeValue py response) =
      safeValue py (exchangeOrderIdValue exchangeName response) := by
  have get {key : String} (known : key ∈ responseKeys) (value : Json) :=
    get_safeValue lowers known value
  unfold exchangeOrderIdValue
  split
  · exact get (by decide) response
  · rw [get (by decide), get (by decide)]
  · rw [get (by decide)]
    cases Json.get (Json.mapping response) "data" with
    | arr items =>
      cases items with
      | nil => rfl
      | cons row rest => exact get (by decide) row
    | _ => rfl
  · rfl

/-! ### What is committed -/

theorem response_updated {dirty : List (Instance OrderExecution)} {row : OrderExecution}
    (set : ∀ x ∈ dirty, x.loaded.id = row.id →
      ∃ response, x.change.exchangeResponse = some response ∧ Redacted py response)
    (covered : Redacted py row.exchangeResponse ∨ ∃ x ∈ dirty, x.loaded.id = row.id) :
    Redacted py (Table.updated dirty row).exchangeResponse := by
  induction dirty generalizing row with
  | nil =>
    rcases covered with redacted | ⟨x, mem, -⟩
    · exact redacted
    · exact (List.not_mem_nil mem).elim
  | cons x rest ih =>
    have later (row' : OrderExecution) (same : row'.id = row.id)
        (covered : Redacted py row'.exchangeResponse ∨ ∃ x ∈ rest, x.loaded.id = row'.id) :
        Redacted py (Table.updated rest row').exchangeResponse :=
      ih (fun y held hy => set y (List.mem_cons_of_mem _ held) (hy.trans same)) covered
    rw [Table.updated_cons]
    split
    · next same =>
      obtain ⟨response, written, redacted⟩ := set x List.mem_cons_self same
      refine later _ rfl (.inl ?_)
      change Redacted py (x.change.exchangeResponse.getD row.exchangeResponse)
      rw [written]
      exact redacted
    · next other =>
      refine later row rfl ?_
      rcases covered with redacted | ⟨y, mem, hy⟩
      · exact .inl redacted
      · rcases List.mem_cons.mp mem with rfl | held
        · exact absurd hy other
        · exact .inr ⟨y, held, hy⟩

/-- The session shows the execution, and whatever it writes of it carries a redacted answer. -/
structure Session.WritesRedacted (py : Platform) (id : String) (s : Session) : Prop where
  shown : ∃ x, s.shown id = some x
  held : ∀ x ∈ s.executions, x.loaded.id = id →
    ∃ response, x.change.exchangeResponse = some response ∧ Redacted py response
  added : ∀ row ∈ s.work.executions, row.id = id → Redacted py row.exchangeResponse

namespace Session.WritesRedacted

variable {s : Session} {id : String}

/-- Setting the answer on an execution that is shown. -/
theorem set_response {x : OrderExecution} {response : Json} {exchangeOrderId : Option String}
    (shown : s.shown id = some x) (redacted : Redacted py response) :
    (s.setting id fun change =>
      { change with
        exchangeResponse := some response
        exchangeOrderId := exchangeOrderId.map some }).WritesRedacted py id where
  shown := shown_setting _ shown
  held y mem hid := by
    obtain ⟨held, -, rfl⟩ := List.mem_map.mp mem
    split at hid
    · next same =>
      rw [if_pos same]
      exact ⟨response, rfl, redacted⟩
    · next other => exact absurd hid other
  added row mem hid := by
    obtain ⟨added, -, rfl⟩ := List.mem_map.mp mem
    split at hid
    · next same =>
      rw [if_pos same]
      exact redacted
    · next other => exact absurd hid other

/-- Setting the status leaves the answer. -/
theorem set_status (writes : s.WritesRedacted py id) (status : OrderExecutionStatus) :
    (s.setting id fun change => { change with status := some status }).WritesRedacted py id where
  shown := by
    obtain ⟨x, shown⟩ := writes.shown
    exact shown_setting _ shown
  held y mem hid := by
    obtain ⟨held, loaded, rfl⟩ := List.mem_map.mp mem
    split at hid
    · next same =>
      rw [if_pos same]
      exact writes.held held loaded same
    · next other => exact absurd hid other
  added row mem hid := by
    obtain ⟨added, pending, rfl⟩ := List.mem_map.mp mem
    split at hid
    · next same =>
      rw [if_pos same]
      exact writes.added added pending same
    · next other => exact absurd hid other

/-- The row that is stored after the commit carries a redacted answer. -/
theorem committed {before after : Db} (writes : s.WritesRedacted py id)
    (flushed : before.flush s.pending = .ok after) {row : OrderExecution}
    (stored : row ∈ after.executions) (hid : row.id = id) : Redacted py row.exchangeResponse := by
  have inserted := executions_of_flush flushed
  rcases (Table.mem_insertAll inserted).mp stored with kept | new
  · obtain ⟨old, mem, rfl⟩ := Table.mem_writeBack.mp kept
    have same : old.id = id := (sameOrder_updated s.executions old).id.symm.trans hid
    refine response_updated (fun x held hx => writes.held x held (hx.trans same)) (.inr ?_)
    obtain ⟨x, shown⟩ := writes.shown
    rcases Option.or_eq_some_iff.mp shown with added | ⟨-, held⟩
    · have hx : x.id = id := by simpa using List.find?_some added
      refine absurd (.inl ?_) (Table.fresh_of_insertAll inserted
        (Table.mem_writeBack.mpr ⟨old, mem, rfl⟩) (List.mem_of_find?_eq_some added))
      exact hid.trans hx.symm
    · obtain ⟨y, found, -⟩ := Option.map_eq_some_iff.mp held
      have hy : y.loaded.id = id := by simpa using List.find?_some found
      exact ⟨y, List.mem_of_find?_eq_some found, hy.trans same.symm⟩
  · exact writes.added row new hid

end Session.WritesRedacted

/-- A commit leaves the execution with a redacted answer. -/
def StoresRedacted (py : Platform) (id : String) : Event backend → Prop
  | .commit _ _ after => ∀ row ∈ after.db.executions, row.id = id → Redacted py row.exchangeResponse
  | _ => True

section follows

variable {Asked : Event backend → Prop} (reads : ∀ world, Asked (.read world)) {s : Session}
  {id : String}

include reads

/-- A transition leaves the answer that is to be written. -/
theorem transition_writes {toStatus : OrderExecutionStatus} {reason : String} {details : Json}
    (writes : s.WritesRedacted py id) :
    Follows (Protocol.each Asked) semantics (transitionOrderExecution id toStatus reason details)
      (fun outcome s' _ => outcome = .ok () → s'.WritesRedacted py id) s () := by
  obtain ⟨x, shown⟩ := writes.shown
  unfold transitionOrderExecution
  rw [follows_execution_shown shown]
  refine follows_raiseIf_bind (fun _ heq => nomatch heq) fun _ => ?_
  refine follows_setExecution_bind.mpr ?_
  have later := writes.set_status toStatus
  rw [← bind_pure (addTransition x _ _ _ _)]
  refine follows_addTransition_bind (fun _ _ heq => nomatch heq) fun _ world =>
    ⟨(), reads world, fun _ => ?_⟩
  exact ⟨later.shown, later.held, later.added⟩

end follows

/-- Each event of the recording is as `StoresRedacted` asks, whatever others do meanwhile. -/
theorem recordAccepted_follows {id : String} {exchangeResponse : Json} (s : Session) :
    Follows (Protocol.each (StoresRedacted py id)) semantics
      (recordTestnetSubmissionAccepted py id exchangeResponse) (fun _ _ _ => True) s () := by
  have reads : ∀ world : World, StoresRedacted py id (.read world) := fun _ => True.intro
  unfold recordTestnetSubmissionAccepted
  refine (execution_shows reads).bind ?_ fun _ _ _ _ => True.intro
  intro x s₁ _ shows
  refine follows_ofExcept_bind (fun _ _ => True.intro) fun _ _ => ?_
  refine follows_raiseIf_bind (fun _ => True.intro) fun _ => ?_
  refine follows_refuseIf_bind (fun _ => True.intro) fun _ => ?_
  refine follows_setExecution_bind.mpr ?_
  refine (transition_writes reads (.set_response (shows x rfl) (redacted_safeValue _))).bind ?_
    fun _ _ _ _ => True.intro
  intro _ s₂ _ writes
  refine follows_commit_bind.mpr ⟨fun before after flushed => ⟨(), ?_, loadExecution_shows reads⟩,
    fun _ _ _ => ⟨(), True.intro, True.intro⟩⟩
  exact fun row stored hid => (writes rfl).committed (World.flush_ok flushed).1 stored hid

/-- The recording of an answer, in a session of its own, among other clients of the database. -/
def recordingAmong {κ : Type} {α : κ → Type} (py : Platform) (id : String) (exchangeResponse : Json)
    (session : Session) (others : ∀ k, Prog backend (α k)) (world : World) :
    Config backend fun client : Option κ => client.elim (Except Exc OrderExecution × Session) α where
  store := world
  client
    | none => recordTestnetSubmissionAccepted py id exchangeResponse session
    | some k => others k

/-! ### The guarantee -/

/-- The redacted value has no sensitive key, keeps the rest in order and is its own redaction; it
is what every commit of the recording leaves stored. It is rejected as the value itself is, and
its codes and order ids are the redacted ones of the value. -/
theorem exchange_response_redacted (lowers : py.LowersAscii) (value : Json) :
    Redacted py (safeValue py value) ∧ RedactsInOrder py ∧
    safeValue py (safeValue py value) = safeValue py value ∧
    (∀ {κ : Type} [DecidableEq κ] {α : κ → Type} (id : String) (session : Session)
      (others : ∀ k, Prog backend (α k)) (world : World) (trace : Trace backend (Option κ))
      (c : Config backend fun client : Option κ => client.elim (Except Exc OrderExecution × Session) α),
      Config.Run semantics (recordingAmong py id value session others world) trace c →
      ∀ work before after, (none, .commit work before after) ∈ trace →
      ∀ row ∈ after.db.executions, row.id = id → Redacted py row.exchangeResponse) ∧
    (∀ key ∈ ["retCode", "code"], Json.get (Json.mapping (safeValue py value)) key =
      safeValue py (Json.get (Json.mapping value) key)) ∧
    ∀ exchangeName,
      raiseForExchangeRejection exchangeName (safeValue py value) =
        raiseForExchangeRejection exchangeName value ∧
      exchangeOrderIdText py exchangeName (safeValue py value) =
        optionalText py (safeValue py (exchangeOrderIdValue exchangeName value)) ∧
      (Redacted py (exchangeOrderIdValue exchangeName value) →
        exchangeOrderIdText py exchangeName (safeValue py value) =
          exchangeOrderIdText py exchangeName value) := by
  have orderId (exchangeName : String) : exchangeOrderIdText py exchangeName (safeValue py value) =
      optionalText py (safeValue py (exchangeOrderIdValue exchangeName value)) := by
    rw [exchangeOrderIdText_eq, exchangeOrderIdValue_safeValue lowers]
  refine ⟨redacted_safeValue value, redactsInOrder py, ?_, ?_, ?_, ?_⟩
  · exact safeValue_of_redacted (redacted_safeValue value)
  · intro κ _ α id session others world trace c run work before after committed
    exact run.each (P := StoresRedacted py id) (i := none) (recordAccepted_follows session) _ committed
  · intro key known
    refine get_safeValue lowers ?_ value
    revert key
    decide
  · intro exchangeName
    refine ⟨raiseForExchangeRejection_safeValue lowers exchangeName value, orderId exchangeName, ?_⟩
    intro redacted
    rw [orderId, safeValue_of_redacted redacted, ← exchangeOrderIdText_eq]

theorem asciiPlatform_lowersAscii : asciiPlatform.LowersAscii := fun _ _ => rfl

/-- An answer with a signature next to the order id. -/
def signedAnswer : Json := .obj [("orderId", .int 7), ("Sign", .str "x")]

theorem exchange_response_redacted_signed :
    Redacted asciiPlatform (safeValue asciiPlatform signedAnswer) ∧
    exchangeOrderIdText asciiPlatform "binance" (safeValue asciiPlatform signedAnswer) =
      exchangeOrderIdText asciiPlatform "binance" signedAnswer := by
  obtain ⟨redacted, -, -, -, -, codes⟩ :=
    exchange_response_redacted asciiPlatform_lowersAscii signedAnswer
  exact ⟨redacted, (codes "binance").2.2 fun key has => nomatch has⟩

/-- An order id that is a mapping is redacted with the rest, and reads differently. -/
theorem nested_order_id_redacted :
    exchangeOrderIdText asciiPlatform "binance"
        (safeValue asciiPlatform (.obj [("orderId", .obj [("sign", .str "x")])])) ≠
      exchangeOrderIdText asciiPlatform "binance"
        (.obj [("orderId", .obj [("sign", .str "x")])]) := by
  decide +kernel

end CopyTrading
