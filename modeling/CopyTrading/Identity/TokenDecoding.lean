import CopyTrading.Identity.Environment
import CopyTrading.Transaction.Alone
import CopyTrading.Fallible

/-!
Which texts can be read as tokens. What is read is signed and has not expired; a text whose
last part is not ASCII, or whose payload is signed but no token's, raises instead of being
answered.
-/

namespace CopyTrading

open Transaction Handler Fallible

/-! ### Parts -/

theorem splitOnce_eq_some {separator : Char} {text first last : List Char} :
    splitOnce separator text = some (first, last) ↔
      text = first ++ separator :: last ∧ separator ∉ first := by
  constructor
  · intro found
    induction text generalizing first with
    | nil => cases found
    | cons c rest ih =>
      rw [splitOnce] at found
      by_cases here : c = separator
      · rw [if_pos here] at found
        obtain ⟨rfl, rfl⟩ := Prod.mk.inj (Option.some.inj found)
        exact ⟨by rw [here, List.nil_append], List.not_mem_nil⟩
      · rw [if_neg here] at found
        obtain ⟨⟨first', last'⟩, later, parts⟩ := Option.map_eq_some_iff.mp found
        obtain ⟨rfl, rfl⟩ := Prod.mk.inj parts
        obtain ⟨rfl, absent⟩ := ih later
        exact ⟨rfl, by simpa [Ne.symm here] using absent⟩
  · rintro ⟨rfl, absent⟩
    exact splitOnce_append absent last

/-- The three parts of a token. -/
structure TokenParts where
  header : List Char
  payload : List Char
  signature : List Char

def TokenParts.signingInput (parts : TokenParts) : String :=
  String.ofList parts.header ++ "." ++ String.ofList parts.payload

/-- `token.split(".", 2)` gives the parts. -/
structure Splits (token : String) (parts : TokenParts) : Prop where
  text : token.toList = parts.header ++ '.' :: (parts.payload ++ '.' :: parts.signature)
  header : '.' ∉ parts.header
  payload : '.' ∉ parts.payload

variable {py : IdentityPlatform}

/-- The signature is that of the other two parts. -/
def TokenParts.Signed (py : IdentityPlatform) (parts : TokenParts) : Prop :=
  String.ofList parts.signature = sign py parts.signingInput

/-- The payload part is a JSON object with an integral expiry, zero when there is none. -/
def ReadsAs (py : IdentityPlatform) (parts : TokenParts) (payload : List (String × Json))
    (expiresAt : Int) : Prop :=
  ∃ bytes, b64decode (String.ofList parts.payload) = .ok bytes ∧
    loadsBytes py bytes = .ok (.obj payload) ∧
    intOfJson py ((Json.lookup "exp" payload).getD (.int 0)) = .ok expiresAt

/-- A signed token that has not expired and carries the payload. -/
def Genuine (py : IdentityPlatform) (token : String) (now : Instant)
    (payload : List (String × Json)) : Prop :=
  ∃ parts expiresAt, Splits token parts ∧ parts.Signed py ∧ ReadsAs py parts payload expiresAt ∧
    timestampSeconds now ≤ expiresAt

/-- The last part can be compared with a signature, and if it is the signature the payload can be
read. -/
def ReadableToken (py : IdentityPlatform) (token : String) : Prop :=
  ∀ parts, Splits token parts →
    isAscii (String.ofList parts.signature) = true ∧
      (parts.Signed py → ∃ payload expiresAt, ReadsAs py parts payload expiresAt)

theorem Splits.unique {token : String} {parts parts' : TokenParts} (splits : Splits token parts)
    (splits' : Splits token parts') : parts = parts' := by
  have first := splitOnce_append splits.header (parts.payload ++ '.' :: parts.signature)
  rw [← splits.text, splits'.text, splitOnce_append splits'.header] at first
  obtain ⟨header, rest⟩ := Prod.mk.inj (Option.some.inj first)
  have second := splitOnce_append splits.payload parts.signature
  rw [← rest, splitOnce_append splits'.payload] at second
  obtain ⟨payload, signature⟩ := Prod.mk.inj (Option.some.inj second)
  cases parts
  cases parts'
  exact TokenParts.mk.injEq .. ▸ ⟨header.symm, payload.symm, signature.symm⟩

/-- A text that does not split is no token. -/
theorem decodeAccessToken_whole {token : String} (now : Instant)
    (whole : ¬ ∃ parts, Splits token parts) : decodeAccessToken py token now = .ok none := by
  unfold decodeAccessToken
  cases first : splitOnce '.' token.toList with
  | none => rfl
  | some front =>
    obtain ⟨header, rest⟩ := front
    cases second : splitOnce '.' rest with
    | none => simp only [second]
    | some back =>
      obtain ⟨payload, signature⟩ := back
      obtain ⟨text, absentHeader⟩ := splitOnce_eq_some.mp first
      obtain ⟨rfl, absentPayload⟩ := splitOnce_eq_some.mp second
      exact absurd ⟨⟨header, payload, signature⟩, text, absentHeader, absentPayload⟩ whole

/-- A text that splits is read when its signature is the right one. -/
theorem decodeAccessToken_splits {token : String} {parts : TokenParts} (now : Instant)
    (splits : Splits token parts) :
    decodeAccessToken py token now = (do
      if !(← compareDigest (sign py parts.signingInput) (String.ofList parts.signature)) then
        return none
      let bytes ← b64decode (String.ofList parts.payload)
      match ← loadsBytes py bytes with
      | .obj payload =>
        let expiresAt ← intOfJson py ((Json.lookup "exp" payload).getD (.int 0))
        if expiresAt < timestampSeconds now then return none
        return some payload
      | _ => .error .attributeError) := by
  unfold decodeAccessToken TokenParts.signingInput
  rw [splits.text, splitOnce_append splits.header]
  dsimp only
  rewrite [splitOnce_append splits.payload]
  rfl

theorem compareDigest_sign (py : IdentityPlatform) (parts : TokenParts) :
    compareDigest (sign py parts.signingInput) (String.ofList parts.signature) =
      if isAscii (String.ofList parts.signature) = true then
        .ok (sign py parts.signingInput == String.ofList parts.signature)
      else .error .typeError := by
  unfold compareDigest
  have signed : isAscii (sign py parts.signingInput) = true := isAscii_b64encode _
  rw [signed, Bool.true_and]

/-- The payload is decided on once the signature is. -/
theorem decodeAccessToken_signed {token : String} {parts : TokenParts} (now : Instant)
    (splits : Splits token parts) (signed : parts.Signed py) :
    (∀ payload expiresAt, ReadsAs py parts payload expiresAt →
      decodeAccessToken py token now =
        .ok (if expiresAt < timestampSeconds now then none else some payload)) ∧
    ((∃ found, decodeAccessToken py token now = .ok found) →
      ∃ payload expiresAt, ReadsAs py parts payload expiresAt) := by
  have matched : compareDigest (sign py parts.signingInput) (String.ofList parts.signature) =
      .ok true := by
    rw [signed]
    exact compareDigest_self (isAscii_b64encode _)
  rw [decodeAccessToken_splits now splits, matched, ok_bind, if_neg (by simp)]
  constructor
  · rintro payload expiresAt ⟨bytes, decoded, loaded, expiry⟩
    rw [decoded, ok_bind, loaded, ok_bind]
    dsimp only
    rw [expiry, ok_bind]
    by_cases expired : expiresAt < timestampSeconds now
    · rw [if_pos expired, if_pos expired]
      rfl
    · rw [if_neg expired, if_neg expired]
      rfl
  · rintro ⟨found, decoded⟩
    obtain ⟨bytes, hbytes, decoded⟩ := bind_eq_ok.mp decoded
    obtain ⟨value, loaded, decoded⟩ := bind_eq_ok.mp decoded
    cases value with
    | obj payload =>
      obtain ⟨expiresAt, expiry, -⟩ := bind_eq_ok.mp decoded
      exact ⟨payload, expiresAt, bytes, hbytes, loaded, expiry⟩
    | _ => cases decoded

/-- What does not bear its signature is answered when it can be compared with it. -/
theorem decodeAccessToken_unsigned {token : String} {parts : TokenParts} (now : Instant)
    (splits : Splits token parts) (unsigned : ¬ parts.Signed py) :
    decodeAccessToken py token now =
      if isAscii (String.ofList parts.signature) = true then .ok none else .error .typeError := by
  rw [decodeAccessToken_splits now splits, compareDigest_sign]
  by_cases ascii : isAscii (String.ofList parts.signature) = true
  · have differs : (sign py parts.signingInput == String.ofList parts.signature) = false :=
      beq_eq_false_iff_ne.mpr (Ne.symm unsigned)
    rw [if_pos ascii, if_pos ascii, ok_bind, differs]
    rfl
  · rw [if_neg ascii, if_neg ascii]
    rfl

/-- A text is answered, whatever the time, exactly when it is readable. -/
theorem decodeAccessToken_ok_iff {token : String} (now : Instant) :
    (∃ found, decodeAccessToken py token now = .ok found) ↔ ReadableToken py token := by
  by_cases split : ∃ parts, Splits token parts
  · obtain ⟨parts, splits⟩ := split
    have readable : ReadableToken py token ↔ isAscii (String.ofList parts.signature) = true ∧
        (parts.Signed py → ∃ payload expiresAt, ReadsAs py parts payload expiresAt) := by
      constructor
      · exact fun readable => readable parts splits
      · intro readable parts' splits'
        rw [← splits.unique splits']
        exact readable
    rw [readable]
    by_cases signed : parts.Signed py
    · obtain ⟨reads, read⟩ := @decodeAccessToken_signed py token parts now splits signed
      have ascii : isAscii (String.ofList parts.signature) = true := by
        rw [signed]
        exact isAscii_b64encode _
      constructor
      · exact fun answered => ⟨ascii, fun _ => read answered⟩
      · rintro ⟨-, payloads⟩
        obtain ⟨payload, expiresAt, is⟩ := payloads signed
        exact ⟨_, reads payload expiresAt is⟩
    · rw [decodeAccessToken_unsigned now splits signed]
      by_cases ascii : isAscii (String.ofList parts.signature) = true
      · simp [ascii, signed]
      · simp [ascii]
  · rw [decodeAccessToken_whole now split]
    exact iff_of_true ⟨none, rfl⟩ fun parts splits => absurd ⟨parts, splits⟩ split

/-- Only genuine tokens are decoded. -/
theorem genuine_of_decoded {token : String} {now : Instant} {payload : List (String × Json)}
    (decoded : decodeAccessToken py token now = .ok (some payload)) :
    Genuine py token now payload := by
  by_cases split : ∃ parts, Splits token parts
  · obtain ⟨parts, splits⟩ := split
    by_cases signed : parts.Signed py
    · obtain ⟨reads, read⟩ := @decodeAccessToken_signed py token parts now splits signed
      obtain ⟨payload', expiresAt, is⟩ := read ⟨_, decoded⟩
      rw [reads payload' expiresAt is] at decoded
      by_cases expired : expiresAt < timestampSeconds now
      · rw [if_pos expired] at decoded
        cases decoded
      · rw [if_neg expired] at decoded
        cases decoded
        exact ⟨parts, expiresAt, splits, signed, is, not_lt.mp expired⟩
    · rw [decodeAccessToken_unsigned now splits signed] at decoded
      split at decoded
      · cases decoded
      · cases decoded
  · rw [decodeAccessToken_whole now split] at decoded
    cases decoded

/-! ### Requests -/

variable {ι : Type} [DecidableEq ι]

/-- The user when the tokens were good, a 401 otherwise. -/
def RequestAnswered (good : Prop) : Except IdentityExc User → Prop
  | .ok _ => good
  | .error raised => ∃ detail, raised = unauthorized detail

/-- At a time the clock showed during the request the token was genuine. -/
def GenuineWhenRead (py : IdentityPlatform) (token : String) (trace : List (Event (identity ι))) :
    Prop :=
  ∃ (now : Instant) (before after : UserStore ι) (payload : List (String × Json)),
    Event.call (I := identity ι) .utcNow now before after ∈ trace ∧ Genuine py token now payload

/-- Both tokens of a request decode or are refused, and the request with them is answered with
their user or with a 401. -/
structure TokensAnswered (ι : Type) [DecidableEq ι] (py : IdentityPlatform) (token : String)
    (xReauthToken : Option String) : Prop where
  decoded : ∀ text ∈ [token, xReauthToken.getD ""], ∀ now,
    ∃ found, decodeAccessToken py text now = .ok found ∧
      ∀ payload ∈ found, Genuine py text now payload
  current : ∀ (s s' : UserSession ι) store store' trace outcome,
    Prog.Run (identitySemantics ι) (getCurrentUser py token s) store trace (.done (outcome, s'))
      store' → RequestAnswered (GenuineWhenRead py token trace) outcome
  reauthenticated : ∀ (s s' : UserSession ι) store store' trace outcome,
    Prog.Run (identitySemantics ι) (getReauthenticatedUser py token xReauthToken s) store trace
      (.done (outcome, s')) store' →
        RequestAnswered (GenuineWhenRead py token trace ∧
          GenuineWhenRead py (xReauthToken.getD "") trace) outcome

theorem getUserById_returns (id : String) (s : UserSession ι) (w : UserStore ι) :
    Alone (identitySemantics ι) (fun _ => True) (getUserById id)
      (fun outcome _ _ => ∃ found, outcome = .ok found) s w := by
  unfold getUserById
  rw [alone_bind, UserSession.query, alone_select, andThen_ok]
  cases w.users.find? (·.id = id) with
  | none => exact ⟨none, rfl⟩
  | some row => exact ⟨some row, rfl⟩

theorem getPayloadUser_answered {good : Prop} (holds : good) (payload : List (String × Json))
    (s : UserSession ι) (w : UserStore ι) :
    Alone (identitySemantics ι) (fun _ => True) (getPayloadUser py payload)
      (fun outcome _ _ => RequestAnswered good outcome) s w := by
  unfold getPayloadUser
  refine Alone.bind (getUserById_returns _ s w) ?_ ?_
  · rintro found s' w' -
    cases found with
    | none => exact ⟨_, rfl⟩
    | some user =>
      dsimp only
      rw [alone_bind, alone_raiseIf]
      constructor
      · exact fun _ => ⟨_, rfl⟩
      · intro _
        rw [andThen_ok, alone_bind, alone_raiseIf]
        exact ⟨fun _ => ⟨_, rfl⟩, fun _ => holds⟩
  · rintro raised s' w' ⟨found, returned⟩
    cases returned

/-- The rest of `get_current_user`, at the time the clock showed. -/
def currentUserAt (py : IdentityPlatform) (token : String) (now : Instant) : UserService ι User := do
  match ← Handler.ofExcept (decodeAccessToken py token now) with
  | none => throw (unauthorized "invalid authentication token")
  | some payload =>
    if isAccessPayload payload then getPayloadUser py payload
    else throw (unauthorized "invalid authentication token")

/-- The rest of `get_reauthenticated_user`, at the time the clock showed. -/
def reauthenticatedUserAt (py : IdentityPlatform) (currentUser : User) (token : String)
    (now : Instant) : UserService ι User := do
  match ← Handler.ofExcept (decodeAccessToken py token now) with
  | none => throw (unauthorized "recent password reauthentication required")
  | some payload =>
    if isReauthenticationOf currentUser payload then return currentUser
    else throw (unauthorized "recent password reauthentication required")

theorem currentUserAt_answered {token : String} (readable : ReadableToken py token) (now : Instant)
    (s : UserSession ι) (w : UserStore ι) :
    Alone (identitySemantics ι) (fun _ => True) (currentUserAt py token now)
      (fun outcome _ _ => RequestAnswered (∃ payload, Genuine py token now payload) outcome) s w := by
  obtain ⟨found, decoded⟩ := (decodeAccessToken_ok_iff now).mpr readable
  unfold currentUserAt
  rw [decoded, alone_bind, alone_ofExcept, andThen_ok]
  cases found with
  | none => exact ⟨_, rfl⟩
  | some payload =>
    dsimp only
    by_cases access : isAccessPayload payload = true
    · rw [if_pos access]
      exact getPayloadUser_answered ⟨payload, genuine_of_decoded decoded⟩ payload s w
    · rw [if_neg access]
      exact ⟨_, rfl⟩

theorem reauthenticatedUserAt_answered {token : String} (readable : ReadableToken py token)
    (currentUser : User) (now : Instant) (s : UserSession ι) (w : UserStore ι) :
    Alone (identitySemantics ι) (fun _ => True) (reauthenticatedUserAt py currentUser token now)
      (fun outcome _ _ => RequestAnswered (∃ payload, Genuine py token now payload) outcome) s w := by
  obtain ⟨found, decoded⟩ := (decodeAccessToken_ok_iff now).mpr readable
  unfold reauthenticatedUserAt
  rw [decoded, alone_bind, alone_ofExcept, andThen_ok]
  cases found with
  | none => exact ⟨_, rfl⟩
  | some payload =>
    dsimp only
    by_cases recent : isReauthenticationOf currentUser payload = true
    · rw [if_pos recent]
      exact ⟨payload, genuine_of_decoded decoded⟩
    · rw [if_neg recent]
      exact ⟨_, rfl⟩

/-- The clock is read, and what follows is answered for that time. -/
theorem answered_at_clock {token : String} {rest : Instant → UserService ι User}
    (answers : ∀ now s w, Alone (identitySemantics ι) (fun _ => True) (rest now)
      (fun outcome _ _ => RequestAnswered (∃ payload, Genuine py token now payload) outcome) s w)
    {s s' : UserSession ι} {store store' : UserStore ι} {trace : List (Event (identity ι))}
    {outcome : Except IdentityExc User}
    (run : Prog.Run (identitySemantics ι) ((UserSession.ask .utcNow >>= rest) s) store trace
      (.done (outcome, s')) store') :
    RequestAnswered (GenuineWhenRead py token trace) outcome := by
  obtain ⟨now, mid, later, rfl, -, run⟩ := Prog.Run.split_call run
  have answered := (run.of_alone (answers now s mid)).2
  cases outcome with
  | error raised => exact answered
  | ok user =>
    obtain ⟨payload, genuine⟩ := answered
    exact ⟨now, store, mid, payload, List.mem_cons_self, genuine⟩

theorem currentUser_answered {token : String} (readable : ReadableToken py token)
    {s s' : UserSession ι} {store store' : UserStore ι} {trace : List (Event (identity ι))}
    {outcome : Except IdentityExc User}
    (run : Prog.Run (identitySemantics ι) (getCurrentUser py token s) store trace
      (.done (outcome, s')) store') : RequestAnswered (GenuineWhenRead py token trace) outcome :=
  answered_at_clock (currentUserAt_answered readable) run

theorem reauthenticatedUser_answered {token : String} {xReauthToken : Option String}
    (readable : ReadableToken py token) (recent : ReadableToken py (xReauthToken.getD ""))
    {s s' : UserSession ι} {store store' : UserStore ι} {trace : List (Event (identity ι))}
    {outcome : Except IdentityExc User}
    (run : Prog.Run (identitySemantics ι) (getReauthenticatedUser py token xReauthToken s) store
      trace (.done (outcome, s')) store') :
    RequestAnswered (GenuineWhenRead py token trace ∧
      GenuineWhenRead py (xReauthToken.getD "") trace) outcome := by
  unfold getReauthenticatedUser at run
  rcases split_bind run with ⟨user, s₁, w₁, front, back, rfl, first, second⟩ |
    ⟨raised, s₁, ended, first⟩
  · obtain ⟨now, before, after, payload, read, genuine⟩ := currentUser_answered readable first
    have answered := answered_at_clock (reauthenticatedUserAt_answered recent user) second
    cases outcome with
    | error raised => exact answered
    | ok user =>
      obtain ⟨now', before', after', payload', read', genuine'⟩ := answered
      exact ⟨⟨now, before, after, payload, List.mem_append_left _ read, genuine⟩,
        now', before', after', payload', List.mem_append_right _ read', genuine'⟩
  · obtain ⟨rfl, -⟩ := Prod.mk.inj ended
    exact currentUser_answered readable first

/-- The tokens of a request are answered exactly when both can be read. -/
theorem tokens_answered_iff (ι : Type) [DecidableEq ι] (py : IdentityPlatform) (token : String)
    (xReauthToken : Option String) :
    TokensAnswered ι py token xReauthToken ↔
      ReadableToken py token ∧ ReadableToken py (xReauthToken.getD "") := by
  constructor
  · intro answered
    have readable text (mem : text ∈ [token, xReauthToken.getD ""]) : ReadableToken py text := by
      obtain ⟨found, decoded, -⟩ := answered.decoded text mem 0
      exact (decodeAccessToken_ok_iff 0).mp ⟨found, decoded⟩
    exact ⟨readable _ List.mem_cons_self, readable _ (List.mem_cons_of_mem _ List.mem_cons_self)⟩
  · rintro ⟨readable, recent⟩
    constructor
    · intro text mem now
      have text_readable : ReadableToken py text := by
        rcases List.mem_pair.mp mem with rfl | rfl
        · exact readable
        · exact recent
      obtain ⟨found, decoded⟩ := (decodeAccessToken_ok_iff now).mpr text_readable
      refine ⟨found, decoded, ?_⟩
      rintro payload rfl
      exact genuine_of_decoded decoded
    · intro s s' store store' trace outcome run
      exact currentUser_answered readable run
    · intro s s' store store' trace outcome run
      exact reauthenticatedUser_answered readable recent run

/-- A last part that is not ASCII raises before it is compared. -/
theorem accented_signature_raises :
    ¬ TokensAnswered Unit plainIdentity "a.b.\u00e9" none := by
  intro answered
  obtain ⟨found, decoded, -⟩ := answered.decoded _ List.mem_cons_self 60000000
  have raised : decodeAccessToken plainIdentity "a.b.\u00e9" 60000000 = .error .typeError :=
    rfl
  rw [raised] at decoded
  cases decoded

end CopyTrading
