import CopyTrading.Observability.ReconciliationRecords
import CopyTrading.Text.JsonKeys
import CopyTrading.TestnetOrder.Submission

/-!
The filter of notification payloads beside the filter of order responses. The first refuses a
payload with a key that contains one of its fragments, at any depth; the second has a list of
keys of its own, and some of them contain no fragment.
-/

namespace CopyTrading

open ObservabilitySession

/-! ### Payloads -/

/-- What a payload holds besides mappings, lists and tuples. -/
inductive PayloadScalar where
  | null
  | bool (value : Bool)
  | int (value : Int)
  | float (repr : String)
  | str (value : String)

def PayloadScalar.json : PayloadScalar → Json
  | .null => .null
  | .bool value => .bool value
  | .int value => .int value
  | .float repr => .float repr
  | .str value => .str value

/-- A value of a payload. A key is the text `str(key)`. -/
inductive PayloadValue where
  | scalar (value : PayloadScalar)
  | mapping (entries : List (String × PayloadValue))
  | list (items : List PayloadValue)
  | tuple (items : List PayloadValue)

namespace PayloadValue

/-- Some mapping in the value has an entry with this key. -/
inductive HasKey (key : String) : PayloadValue → Prop where
  | here {entries : List (String × PayloadValue)} {value : PayloadValue}
      (entry : (key, value) ∈ entries) : HasKey key (.mapping entries)
  | field {entries : List (String × PayloadValue)} {name : String} {value : PayloadValue}
      (entry : (name, value) ∈ entries) (inner : HasKey key value) : HasKey key (.mapping entries)
  | listed {items : List PayloadValue} {value : PayloadValue} (held : value ∈ items)
      (inner : HasKey key value) : HasKey key (.list items)
  | packed {items : List PayloadValue} {value : PayloadValue} (held : value ∈ items)
      (inner : HasKey key value) : HasKey key (.tuple items)

/-! The value as it is stored: a tuple is copied into a list. -/

mutual

def json : PayloadValue → Json
  | .scalar value => value.json
  | .mapping entries => .obj (jsonFields entries)
  | .list items => .arr (jsonItems items)
  | .tuple items => .arr (jsonItems items)

def jsonFields : List (String × PayloadValue) → List (String × Json)
  | [] => []
  | (key, value) :: rest => (key, json value) :: jsonFields rest

def jsonItems : List PayloadValue → List Json
  | [] => []
  | item :: rest => json item :: jsonItems rest

end

section

variable (py : Platform)

mutual

/-- `_copy_safe_mapping`. -/
def copySafeMapping (keyPath : List String) :
    List (String × PayloadValue) → Except ObservabilityExc (List (String × Json))
  | [] => .ok []
  | (key, value) :: rest =>
      if isSensitiveNotificationKey py key then
        .error (.sensitiveNotificationPayload (String.intercalate "." (keyPath ++ [key])))
      else do
        let copied ← copySafeValue (keyPath ++ [key]) value
        let others ← copySafeMapping keyPath rest
        return (key, copied) :: others

/-- `_copy_safe_value` looks into tuples as into lists. -/
def copySafeValue (keyPath : List String) : PayloadValue → Except ObservabilityExc Json
  | .mapping entries => .obj <$> copySafeMapping keyPath entries
  | .list items => .arr <$> copySafeItems keyPath items
  | .tuple items => .arr <$> copySafeItems keyPath items
  | .scalar value => .ok value.json

def copySafeItems (keyPath : List String) :
    List PayloadValue → Except ObservabilityExc (List Json)
  | [] => .ok []
  | item :: rest => do
      let copied ← copySafeValue keyPath item
      let others ← copySafeItems keyPath rest
      return copied :: others

end

mutual

/-- Copying a payload is copying the value it is stored as. -/
theorem copySafeMapping_json (keyPath : List String) :
    ∀ entries, copySafeMapping py keyPath entries =
      CopyTrading.copySafeMapping py keyPath (jsonFields entries)
  | [] => rfl
  | (key, value) :: rest => by
      rw [copySafeMapping, jsonFields, CopyTrading.copySafeMapping, copySafeValue_json,
        copySafeMapping_json]

theorem copySafeValue_json (keyPath : List String) :
    ∀ value, copySafeValue py keyPath value = CopyTrading.copySafeValue py keyPath (json value)
  | .mapping entries => by
      rw [copySafeValue, json, CopyTrading.copySafeValue, copySafeMapping_json]
  | .list items => by rw [copySafeValue, json, CopyTrading.copySafeValue, copySafeItems_json]
  | .tuple items => by rw [copySafeValue, json, CopyTrading.copySafeValue, copySafeItems_json]
  | .scalar value => by cases value <;> rfl

theorem copySafeItems_json (keyPath : List String) :
    ∀ items, copySafeItems py keyPath items =
      CopyTrading.copySafeItems py keyPath (jsonItems items)
  | [] => rfl
  | item :: rest => by
      rw [copySafeItems, jsonItems, CopyTrading.copySafeItems, copySafeValue_json,
        copySafeItems_json]

end

end

theorem jsonFields_eq (entries : List (String × PayloadValue)) :
    jsonFields entries = entries.map fun entry => (entry.1, json entry.2) := by
  induction entries with
  | nil => rfl
  | cons entry rest ih => rw [jsonFields, ih, List.map_cons]

theorem jsonItems_eq (items : List PayloadValue) : jsonItems items = items.map json := by
  induction items with
  | nil => rfl
  | cons item rest ih => rw [jsonItems, ih, List.map_cons]

/-- The stored value has the keys of the payload. -/
theorem hasKey_json {key : String} {value : PayloadValue} :
    (json value).HasKey key ↔ value.HasKey key := by
  constructor
  · intro has
    generalize stored : json value = copy at has
    induction has generalizing value with
    | here entry =>
      cases value with
      | mapping entries =>
        cases stored
        rw [jsonFields_eq] at entry
        obtain ⟨⟨name, value⟩, held, same⟩ := List.mem_map.mp entry
        cases same
        exact .here held
      | scalar value => cases value <;> cases stored
      | _ => cases stored
    | field entry inner ih =>
      cases value with
      | mapping entries =>
        cases stored
        rw [jsonFields_eq] at entry
        obtain ⟨⟨name, value⟩, held, same⟩ := List.mem_map.mp entry
        cases same
        exact .field held (ih rfl)
      | scalar value => cases value <;> cases stored
      | _ => cases stored
    | item held inner ih =>
      cases value with
      | list items =>
        cases stored
        rw [jsonItems_eq] at held
        obtain ⟨value, mem, same⟩ := List.mem_map.mp held
        exact .listed mem (ih same)
      | tuple items =>
        cases stored
        rw [jsonItems_eq] at held
        obtain ⟨value, mem, same⟩ := List.mem_map.mp held
        exact .packed mem (ih same)
      | scalar value => cases value <;> cases stored
      | _ => cases stored
  · intro has
    induction has with
    | @here entries value entry =>
      have stored : (key, json value) ∈ jsonFields entries := by
        rw [jsonFields_eq]
        exact List.mem_map.mpr ⟨_, entry, rfl⟩
      exact .here stored
    | @field entries name value entry inner ih =>
      have stored : (name, json value) ∈ jsonFields entries := by
        rw [jsonFields_eq]
        exact List.mem_map.mpr ⟨_, entry, rfl⟩
      exact .field stored ih
    | listed held inner ih | packed held inner ih =>
      refine .item ?_ ih
      rw [jsonItems_eq]
      exact List.mem_map.mpr ⟨_, held, rfl⟩

end PayloadValue

/-! ### What is rejected -/

section

variable {py : Platform}

/-- A mapping is copied entry by entry. -/
theorem copySafeMapping_ok {path : List String} {fields copied : List (String × Json)}
    (ok : copySafeMapping py path fields = .ok copied) :
    ∀ entry ∈ fields, isSensitiveNotificationKey py entry.1 = false ∧
      ∃ value, copySafeValue py (path ++ [entry.1]) entry.2 = .ok value := by
  induction fields generalizing copied with
  | nil => exact fun _ held => (List.not_mem_nil held).elim
  | cons entry rest ih =>
    obtain ⟨key, value⟩ := entry
    unfold copySafeMapping at ok
    split at ok
    · cases ok
    · next safe =>
      cases first : copySafeValue py (path ++ [key]) value with
      | error raised =>
        rw [first] at ok
        cases ok
      | ok head =>
        cases others : copySafeMapping py path rest with
        | error raised =>
          rw [first, others] at ok
          cases ok
        | ok tail =>
          refine List.forall_mem_cons.mpr ⟨⟨by simpa using safe, head, first⟩, ih others⟩

theorem copySafeItems_ok {path : List String} {items copied : List Json}
    (ok : copySafeItems py path items = .ok copied) :
    ∀ item ∈ items, ∃ value, copySafeValue py path item = .ok value := by
  induction items generalizing copied with
  | nil => exact fun _ held => (List.not_mem_nil held).elim
  | cons item rest ih =>
    unfold copySafeItems at ok
    cases first : copySafeValue py path item with
    | error raised =>
      rw [first] at ok
      cases ok
    | ok head =>
      cases others : copySafeItems py path rest with
      | error raised =>
        rw [first, others] at ok
        cases ok
      | ok tail => exact List.forall_mem_cons.mpr ⟨⟨head, first⟩, ih others⟩

/-- A copied value has no sensitive key, at any depth. -/
theorem not_sensitive_of_copied {path : List String} {key : String} {value copied : Json}
    (ok : copySafeValue py path value = .ok copied) (has : value.HasKey key) :
    isSensitiveNotificationKey py key = false := by
  induction has generalizing path copied with
  | @here fields value entry =>
    unfold copySafeValue at ok
    cases mapping : copySafeMapping py path fields with
    | error raised =>
      rw [mapping] at ok
      cases ok
    | ok fields => exact (copySafeMapping_ok mapping _ entry).1
  | @field fields name value entry inner ih =>
    unfold copySafeValue at ok
    cases mapping : copySafeMapping py path fields with
    | error raised =>
      rw [mapping] at ok
      cases ok
    | ok fields =>
      obtain ⟨-, copy, ok⟩ := copySafeMapping_ok mapping _ entry
      exact ih ok
  | @item items value held inner ih =>
    unfold copySafeValue at ok
    cases list : copySafeItems py path items with
    | error raised =>
      rw [list] at ok
      cases ok
    | ok items =>
      obtain ⟨copy, ok⟩ := copySafeItems_ok list _ held
      exact ih ok

/-- A value without a sensitive key is copied as it is. -/
theorem copySafeValue_of_clean {path : List String} {value : Json}
    (clean : ∀ key, value.HasKey key → isSensitiveNotificationKey py key = false) :
    copySafeValue py path value = .ok value := by
  induction value using Json.induct generalizing path with
  | arr items ih =>
    unfold copySafeValue
    rw [copySafeItems_eq fun item held => ih item held fun key has => clean key (.item held has)]
    rfl
  | obj fields ih =>
    unfold copySafeValue
    have each : copySafeMapping py path fields = .ok fields := by
      induction fields generalizing path with
      | nil => rfl
      | cons entry rest ihs =>
        refine copySafeMapping_cons (clean entry.1 (.here List.mem_cons_self)) ?_ ?_
        · exact ih entry List.mem_cons_self fun key has => clean key (.field List.mem_cons_self has)
        · refine ihs (fun other held => ih other (List.mem_cons_of_mem _ held)) fun key has => ?_
          refine clean key ?_
          cases has with
          | here entry => exact .here (List.mem_cons_of_mem _ entry)
          | field entry inner => exact .field (List.mem_cons_of_mem _ entry) inner
    rw [each]
    rfl
  | _ => rfl

/-- The notification is refused, whatever the session, and nothing is added. -/
def RejectsNotification (py : Platform) (notification : InternalNotificationInput) : Prop :=
  ∀ session, ∃ raised,
    (createInternalNotification py notification).run session = .error raised session

theorem rejectsNotification_iff {notification : InternalNotificationInput} :
    RejectsNotification py notification ↔ (notification.channel = .internal →
      ∃ key, (Json.obj notification.payload).HasKey key ∧
        isSensitiveNotificationKey py key = true) := by
  constructor
  · intro rejects internal
    by_contra clean
    have safe : safePayload py notification.payload = .ok notification.payload := by
      have copied : copySafeValue py [] (.obj notification.payload) = .ok (.obj notification.payload) :=
        copySafeValue_of_clean fun key has => by
          by_contra sensitive
          exact clean ⟨key, has, by simpa using sensitive⟩
      unfold copySafeValue at copied
      unfold safePayload
      cases mapping : copySafeMapping py [] notification.payload with
      | error raised =>
        rw [mapping] at copied
        cases copied
      | ok fields =>
        rw [mapping] at copied
        cases copied
        rfl
    obtain ⟨raised, refused⟩ := rejects (.opened {} (fun _ => "") 0)
    obtain ⟨record, later, created, -⟩ := run_createInternalNotification internal safe
    rw [created] at refused
    cases refused
  · intro sensitive session
    unfold createInternalNotification raiseWhen
    by_cases internal : notification.channel = .internal
    · obtain ⟨key, has, sensitive⟩ := sensitive internal
      cases copied : safePayload py notification.payload with
      | ok fields =>
        have ok : copySafeValue py [] (.obj notification.payload) = .ok (.obj fields) := by
          unfold copySafeValue
          unfold safePayload at copied
          rw [copied]
          rfl
        rw [not_sensitive_of_copied ok has] at sensitive
        cases sensitive
      | error raised =>
        refine ⟨raised, ?_⟩
        rw [if_neg (not_not.mpr internal)]
        rfl
    · refine ⟨.externalNotificationChannelDisabled notification.channel, ?_⟩
      rw [if_pos internal]
      rfl

end

/-! ### The two lists of keys -/

/-- `str.replace("-", "_")` and `str.lower` may be exchanged. -/
def Platform.LowersDashes (py : Platform) : Prop :=
  ∀ text : String, py.lower (String.ofList (text.toList.map fun c => if c = '-' then '_' else c)) =
    String.ofList ((py.lower text).toList.map fun c => if c = '-' then '_' else c)

/-- The lower-cased keys that only the filter of order responses knows. -/
def unnoticedKeys : List String := ["api-key", "apikey", "authorization", "sign"]

theorem eq_of_dash {c d : Char} (other : d ≠ '_') (same : (if c = '-' then '_' else c) = d) :
    c = d := by
  split at same
  · exact absurd same.symm other
  · exact same

theorem eq_of_map_dash {text target : List Char} (plain : ∀ d ∈ target, d ≠ '_')
    (same : (text.map fun c => if c = '-' then '_' else c) = target) : text = target := by
  induction text generalizing target with
  | nil => exact same
  | cons c rest ih =>
    cases target with
    | nil => cases same
    | cons d others =>
      rw [List.map_cons, List.cons.injEq] at same
      rw [eq_of_dash (plain d List.mem_cons_self) same.1,
        ih (fun e held => plain e (List.mem_cons_of_mem _ held)) same.2]

/-- A text that becomes `front ++ "_" ++ back` has a dash or an underscore in between. -/
theorem dashed_of_map_dash {text front back : List Char} (plainFront : ∀ d ∈ front, d ≠ '_')
    (plainBack : ∀ d ∈ back, d ≠ '_')
    (same : (text.map fun c => if c = '-' then '_' else c) = front ++ '_' :: back) :
    text = front ++ '-' :: back ∨ text = front ++ '_' :: back := by
  obtain ⟨before, rest, rfl, hbefore, hrest⟩ := List.map_eq_append_iff.mp same
  obtain ⟨c, after, rfl, hc, hafter⟩ := List.map_eq_cons_iff.mp hrest
  rw [eq_of_map_dash plainFront hbefore, eq_of_map_dash plainBack hafter]
  by_cases dash : c = '-'
  · exact .inl (by rw [dash])
  · rw [if_neg dash] at hc
    exact .inr (by rw [hc])

section

variable {py : Platform} {key : String}

theorem sensitiveKey_iff (lowers : py.LowersDashes) : isSensitiveKey py key = true ↔
    String.ofList ((py.lower key).toList.map fun c => if c = '-' then '_' else c) ∈
      sensitiveResponseKeys := by
  unfold isSensitiveKey
  rw [lowers, List.contains_iff_mem]

/-- A key that the order responses are stored without is noticed in a payload, or is one of
the four. -/
theorem noticed_or_unnoticed (lowers : py.LowersDashes) (sensitive : isSensitiveKey py key = true) :
    isSensitiveNotificationKey py key = true ∨ py.lower key ∈ unnoticedKeys := by
  have lowered {text : List Char} (same : (py.lower key).toList = text) :
      py.lower key = String.ofList text := by rw [← same, String.ofList_toList]
  have plain (target : String) (solid : target.toList.all (· != '_') = true)
      (same : String.ofList ((py.lower key).toList.map fun c => if c = '-' then '_' else c) = target) :
      py.lower key = target := by
    have letters : ∀ d ∈ target.toList, d ≠ '_' := by simpa using solid
    rw [lowered (eq_of_map_dash letters (by rw [← same, String.toList_ofList])), String.ofList_toList]
  have dashed (front back : String) (solid : front.toList.all (· != '_') = true)
      (solid' : back.toList.all (· != '_') = true)
      (same : String.ofList ((py.lower key).toList.map fun c => if c = '-' then '_' else c) =
        String.ofList (front.toList ++ '_' :: back.toList)) :
      py.lower key = String.ofList (front.toList ++ '-' :: back.toList) ∨
        py.lower key = String.ofList (front.toList ++ '_' :: back.toList) := by
    have letters : ∀ d ∈ front.toList, d ≠ '_' := by simpa using solid
    have letters' : ∀ d ∈ back.toList, d ≠ '_' := by simpa using solid'
    rcases dashed_of_map_dash letters letters' (String.ofList_injective same) with dash | underscore
    · exact .inl (lowered dash)
    · exact .inr (lowered underscore)
  have notices {text : String} (same : py.lower key = text)
      (holds : (sensitivePayloadKeyFragments.any fun fragment =>
        decide (fragment.toList <:+: text.toList)) = true) :
      isSensitiveNotificationKey py key = true := by
    unfold isSensitiveNotificationKey
    rw [same]
    exact holds
  have listed := (sensitiveKey_iff lowers).mp sensitive
  simp only [sensitiveResponseKeys, List.mem_cons, List.not_mem_nil, or_false] at listed
  rcases listed with same | same | same | same | same | same | same | same
  · rcases dashed "api" "key" (by decide) (by decide) same with dash | underscore
    · exact .inr (by rw [dash]; decide)
    · exact .inl (notices underscore (by decide))
  · exact .inr (by rw [plain _ (by decide) same]; decide)
  · rcases dashed "api" "secret" (by decide) (by decide) same with dash | underscore
    · exact .inl (notices dash (by decide))
    · exact .inl (notices underscore (by decide))
  · exact .inl (notices (plain _ (by decide) same) (by decide))
  · exact .inl (notices (plain _ (by decide) same) (by decide))
  · exact .inr (by rw [plain _ (by decide) same]; decide)
  · exact .inl (notices (plain _ (by decide) same) (by decide))
  · exact .inr (by rw [plain _ (by decide) same]; decide)

theorem sensitive_of_unnoticed (lowers : py.LowersDashes) (unnoticed : py.lower key ∈ unnoticedKeys) :
    isSensitiveKey py key = true := by
  have listed : ∀ text ∈ unnoticedKeys,
      String.ofList (text.toList.map fun c => if c = '-' then '_' else c) ∈ sensitiveResponseKeys := by
    decide
  exact (sensitiveKey_iff lowers).mpr (listed _ unnoticed)

/-! ### Where the filters agree -/

/-- The payload has a key, at some depth, that the order responses are stored without. -/
def CarriesSecret (py : Platform) (payload : List (String × PayloadValue)) : Prop :=
  ∃ key, (PayloadValue.mapping payload).HasKey key ∧ isSensitiveKey py key = true

/-- The notification with this payload. -/
def InternalNotificationInput.carrying (notification : InternalNotificationInput)
    (payload : List (String × PayloadValue)) : InternalNotificationInput :=
  { notification with payload := PayloadValue.jsonFields payload }

/-- That a payload which carries a secret is rejected holds exactly where, on the internal
channel, one of the four keys comes with a key that contains a fragment. -/
theorem secret_rejected_iff (lowers : py.LowersDashes) (notification : InternalNotificationInput)
    (payload : List (String × PayloadValue)) :
    (CarriesSecret py payload → RejectsNotification py (notification.carrying payload)) ↔
      (notification.channel = .internal →
        (∃ key, (PayloadValue.mapping payload).HasKey key ∧ py.lower key ∈ unnoticedKeys) →
        ∃ key, (PayloadValue.mapping payload).HasKey key ∧
          ∃ fragment ∈ sensitivePayloadKeyFragments, fragment.toList <:+: (py.lower key).toList) := by
  have noticed : ∀ key, isSensitiveNotificationKey py key = true ↔
      ∃ fragment ∈ sensitivePayloadKeyFragments, fragment.toList <:+: (py.lower key).toList := by
    intro key
    simp [isSensitiveNotificationKey]
  have rejects : RejectsNotification py (notification.carrying payload) ↔
      (notification.channel = .internal → ∃ key, (PayloadValue.mapping payload).HasKey key ∧
        isSensitiveNotificationKey py key = true) := by
    have stored (key : String) : (PayloadValue.json (.mapping payload)).HasKey key ↔
        (PayloadValue.mapping payload).HasKey key := PayloadValue.hasKey_json
    refine rejectsNotification_iff.trans (imp_congr_right fun _ => exists_congr fun key => ?_)
    exact and_congr_left fun _ => stored key
  simp only [← noticed, rejects]
  constructor
  · rintro agrees internal ⟨key, has, unnoticed⟩
    exact agrees ⟨key, has, sensitive_of_unnoticed lowers unnoticed⟩ internal
  · rintro condition ⟨key, has, sensitive⟩ internal
    rcases noticed_or_unnoticed lowers sensitive with seen | unnoticed
    · exact ⟨key, has, seen⟩
    · exact condition internal ⟨key, has, unnoticed⟩

theorem eq_dash_of_toLower {c : Char} (lower : c.toLower = '-') : c = '-' := by
  by_cases upper : 'A'.val ≤ c.val ∧ c.val ≤ 'Z'.val
  · have shifted : c.toLower.val = c.val + ('a'.val - 'A'.val) := by
      unfold Char.toLower
      rw [dif_pos upper]
    rw [lower] at shifted
    obtain ⟨above, below⟩ := upper
    rw [UInt32.le_iff_toNat_le] at above below
    have moved := congrArg UInt32.toNat shifted
    rw [UInt32.toNat_add] at moved
    have shift : ('a'.val - 'A'.val).toNat = 32 := by decide
    have least : 'A'.val.toNat = 65 := by decide
    have most : 'Z'.val.toNat = 90 := by decide
    have mark : '-'.val.toNat = 45 := by decide
    omega
  · unfold Char.toLower at lower
    rwa [dif_neg upper] at lower

theorem asciiPlatform_lowersDashes : asciiPlatform.LowersDashes := by
  intro text
  change String.ofList ((String.ofList _).toList.map Char.toLower) =
    String.ofList ((String.ofList (text.toList.map Char.toLower)).toList.map _)
  rw [String.toList_ofList, String.toList_ofList, List.map_map, List.map_map]
  refine congrArg String.ofList (List.map_congr_left fun c _ => ?_)
  change Char.toLower (if c = '-' then '_' else c) = if c.toLower = '-' then '_' else c.toLower
  by_cases dash : c = '-'
  · rw [dash]
    decide
  · rw [if_neg dash, if_neg fun lower => dash (eq_dash_of_toLower lower)]

/-- A nested dashed key of an internal notification. -/
def orderFailureNotice : InternalNotificationInput where
  userId := "u"
  exchangeAccountId := none
  severity := "WARNING"
  title := "order failure"
  message := "sample"
  payload := []

/-- A secret beside a key that is noticed is rejected with it. -/
theorem secret_rejected_iff_token :
    RejectsNotification asciiPlatform (orderFailureNotice.carrying
      [("request", .tuple [.mapping [("Sign", .scalar .null), ("access_token", .scalar .null)]])]) := by
  have token : (PayloadValue.mapping [("request", .tuple [.mapping [("Sign", .scalar .null),
      ("access_token", .scalar .null)]])]).HasKey "access_token" :=
    .field List.mem_cons_self (.packed List.mem_cons_self (.here (List.mem_cons_of_mem _ List.mem_cons_self)))
  have sign : (PayloadValue.mapping [("request", .tuple [.mapping [("Sign", .scalar .null),
      ("access_token", .scalar .null)]])]).HasKey "Sign" :=
    .field List.mem_cons_self (.packed List.mem_cons_self (.here List.mem_cons_self))
  refine (secret_rejected_iff asciiPlatform_lowersDashes orderFailureNotice _).mpr ?_ ?_
  · exact fun _ _ => ⟨_, token, by decide⟩
  · exact ⟨_, sign, by decide⟩

/-- A payload with an authorization header is accepted and recorded. -/
theorem authorization_recorded :
    CarriesSecret asciiPlatform [("authorization", .scalar (.str "Bearer x"))] ∧
    ¬ RejectsNotification asciiPlatform
      (orderFailureNotice.carrying [("authorization", .scalar (.str "Bearer x"))]) ∧
    ∃ record later, (createInternalNotification asciiPlatform
        (orderFailureNotice.carrying [("authorization", .scalar (.str "Bearer x"))])).run
          (.opened {} (fun _ => "n1") 0) = .ok record later ∧
      later.flushed.notifications.map (·.payload.map (·.1)) = [["authorization"]] := by
  have accepted : ∃ record later, (createInternalNotification asciiPlatform
      (orderFailureNotice.carrying [("authorization", .scalar (.str "Bearer x"))])).run
        (.opened {} (fun _ => "n1") 0) = .ok record later ∧
      later.flushed.notifications.map (·.payload.map (·.1)) = [["authorization"]] :=
    ⟨_, _, rfl, by decide⟩
  refine ⟨⟨"authorization", .here List.mem_cons_self, by decide⟩, ?_, accepted⟩
  intro rejects
  obtain ⟨record, later, created, -⟩ := accepted
  obtain ⟨raised, refused⟩ := rejects (.opened {} (fun _ => "n1") 0)
  rw [created] at refused
  cases refused

end

end CopyTrading
