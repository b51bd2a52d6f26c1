import CopyTrading.Identity.Environment
import CopyTrading.Transaction.Alone

/-!
Revocation and scoping of tokens over sequential runs of requests. A user's authentication
version never goes down, a token carries the version of its user at the time it was issued,
and a token is accepted only while the two are equal.
-/

namespace CopyTrading

open Transaction Handler

variable {ι α β : Type} [DecidableEq ι] {py : IdentityPlatform}

/-- Anything may happen on the way; what matters is the end. -/
abbrev AloneIn (handler : UserService ι α)
    (post : Except IdentityExc α → UserSession ι → UserStore ι → Prop) (s : UserSession ι)
    (w : UserStore ι) : Prop :=
  Handler.Alone (identitySemantics ι) (fun _ => True) handler post s w

/-! ### Versions -/

def UserStore.versionOf (store : UserStore ι) (id : String) : Option Int :=
  (store.users.find? (·.id = id)).map (·.authVersion)

/-- No user disappears and no version goes down. -/
def VersionsGrow (before after : UserStore ι) : Prop :=
  ∀ id version, before.versionOf id = some version →
    ∃ version', after.versionOf id = some version' ∧ version ≤ version'

omit [DecidableEq ι] in
theorem VersionsGrow.refl (store : UserStore ι) : VersionsGrow store store :=
  fun _ version h => ⟨version, h, le_refl _⟩

omit [DecidableEq ι] in
theorem VersionsGrow.trans {a b c : UserStore ι} (first : VersionsGrow a b)
    (second : VersionsGrow b c) : VersionsGrow a c := by
  intro id version h
  obtain ⟨version', h', le⟩ := first id version h
  obtain ⟨version'', h'', le'⟩ := second id version' h'
  exact ⟨version'', h'', le.trans le'⟩

omit [DecidableEq ι] in
theorem UserStore.versionOf_of_mem {store : UserStore ι} {user : User} (mem : user ∈ store.users) :
    store.versionOf user.id = some user.authVersion := by
  unfold versionOf
  cases hfind : store.users.find? (·.id = user.id) with
  | none => simpa using Table.not_of_find?_none hfind mem
  | some row =>
    have hid : row.id = user.id := by simpa using Table.holds_of_find? hfind
    rw [Table.eq_of_conflict (Table.mem_of_find? hfind) mem (.inl hid)]
    rfl

omit [DecidableEq ι] in
theorem versionsGrow_of_users {before after : UserStore ι} (same : after.users = before.users) :
    VersionsGrow before after := by
  intro id version h
  refine ⟨version, ?_, le_refl _⟩
  unfold UserStore.versionOf
  rw [same]
  exact h

/-- How the version a session holds may differ from the one it loaded. -/
structure VersionRule (rule : Int → Int → Prop) : Prop where
  unchanged : ∀ version, rule version version
  le : ∀ {loaded current}, rule loaded current → loaded ≤ current

theorem versionRule_eq : VersionRule (· = ·) := ⟨fun _ => rfl, fun h => h.le⟩

theorem versionRule_le : VersionRule (· ≤ ·) := ⟨le_refl, fun h => h⟩

variable {rule : Int → Int → Prop}

/-- The held instance was loaded from a row that is still as it was. -/
def HoldsRow (rule : Int → Int → Prop) (s : UserSession ι) (w : UserStore ι) : Prop :=
  ∀ loaded current, s.user = some (loaded, current) →
    loaded ∈ w.users ∧ current.id = loaded.id ∧ rule loaded.authVersion current.authVersion

theorem authVersion_updated {dirty : Option (Instance User)} {row : User}
    (kept : ∀ x ∈ dirty, x.loaded.id = row.id →
      row.authVersion ≤ x.change.authVersion.getD row.authVersion) :
    row.authVersion ≤ (Table.updated dirty.toList row).authVersion := by
  cases dirty with
  | none => exact le_refl _
  | some x =>
    rw [Option.toList_some, Table.updated_cons, Table.updated_nil]
    split
    · next same => exact kept x rfl same
    · exact le_refl _

omit [DecidableEq ι] in
theorem HoldsRow.grows_write (ruled : VersionRule rule) {s : UserSession ι} {w : UserStore ι}
    (holds : HoldsRow rule s w) : VersionsGrow w (w.write s.pending) := by
  intro id version h
  have key (row : User) : decide ((Table.updated s.dirty.toList row).id = id) =
      decide (row.id = id) := by
    have same : (Table.updated s.dirty.toList row).id = row.id :=
      congrArg User.Key.id (Table.key_updated s.dirty.toList row)
    rw [same]
  unfold UserStore.versionOf at h ⊢
  change ∃ version', ((w.users.writeBack s.dirty.toList).find? _).map _ = some version' ∧ _
  rw [Table.find?_writeBack key]
  cases hfind : w.users.find? (·.id = id) with
  | none => simp [hfind] at h
  | some row =>
    rw [hfind, Option.map_some, Option.some.injEq] at h
    refine ⟨_, rfl, ?_⟩
    rw [← h]
    refine authVersion_updated fun x hx same => ?_
    obtain ⟨⟨loaded, current⟩, huser, hdirty⟩ := Option.bind_eq_some_iff.mp hx
    obtain ⟨mem, -, hrule⟩ := holds loaded current huser
    dsimp only at hdirty
    split at hdirty
    · cases hdirty
    · cases hdirty
      have hrow : loaded = row := Table.eq_of_conflict mem (Table.mem_of_find? hfind) (.inl same)
      rw [← hrow]
      change loaded.authVersion ≤ (changedColumn loaded.authVersion _).getD loaded.authVersion
      rw [getD_changedColumn]
      exact ruled.le hrule

/-! ### Handlers that keep the versions -/

/-- Started on a row that is as it was loaded, the handler leaves such a session behind and
lets no version go down. -/
def KeepsVersions (rule : Int → Int → Prop) (handler : UserService ι α) : Prop :=
  ∀ s w, HoldsRow rule s w →
    AloneIn handler (fun _ s' w' => HoldsRow rule s' w' ∧ VersionsGrow w w') s w

namespace KeepsVersions

theorem bind {first : UserService ι α} {next : α → UserService ι β}
    (hfirst : KeepsVersions rule first) (hnext : ∀ value, KeepsVersions rule (next value)) :
    KeepsVersions rule (first >>= next) := by
  intro s w holds
  refine Alone.bind (hfirst s w holds) ?_ ?_
  · intro value s' w' ⟨holds', grows⟩
    exact (hnext value s' w' holds').mono fun _ _ _ h => ⟨h.1, grows.trans h.2⟩
  · intro exc s' w' h
    exact h

theorem tryCatch {body : UserService ι α} {recover : IdentityExc → UserService ι α}
    (hbody : KeepsVersions rule body) (hrecover : ∀ exc, KeepsVersions rule (recover exc)) :
    KeepsVersions rule (MonadExceptOf.tryCatch body recover) := by
  intro s w holds
  refine alone_tryCatch.mpr ((hbody s w holds).mono ?_)
  rintro (exc | value) s' w' ⟨holds', grows⟩
  · rw [orElse_error]
    exact (hrecover exc s' w' holds').mono fun _ _ _ h => ⟨h.1, grows.trans h.2⟩
  · exact ⟨holds', grows⟩

theorem pure (value : α) : KeepsVersions rule (pure value : UserService ι α) :=
  fun _ w holds => ⟨holds, .refl w⟩

theorem throw (raised : IdentityExc) : KeepsVersions rule (throw raised : UserService ι α) :=
  fun _ w holds => ⟨holds, .refl w⟩

theorem ofExcept (outcome : Except IdentityExc α) :
    KeepsVersions rule (Handler.ofExcept outcome : UserService ι α) :=
  fun _ w holds => ⟨holds, .refl w⟩

theorem raiseIf (condition : Prop) [Decidable condition] (raised : IdentityExc) :
    KeepsVersions rule (Handler.raiseIf condition raised : UserService ι Unit) :=
  fun _ w holds => alone_raiseIf.mpr ⟨fun _ => ⟨holds, .refl w⟩, fun _ => ⟨holds, .refl w⟩⟩

/-- A call that leaves the users as they are. -/
theorem ask {query : UserQuery ι} (idle : ∀ before answer after,
    UserStore.Answers before query answer after → after.users = before.users) :
    KeepsVersions rule (UserSession.ask query) := by
  intro s w holds
  refine alone_ask.mpr fun answer after answered => ⟨trivial, ?_, ?_⟩
  · intro loaded current huser
    rw [show after.users = w.users from idle w answer after answered]
    exact holds loaded current huser
  · exact versionsGrow_of_users (idle w answer after answered)

/-- The session keeps the instance it holds. -/
theorem modify {change : UserSession ι → UserSession ι} (kept : ∀ s, (change s).user = s.user) :
    KeepsVersions rule (Handler.modify change : UserService ι Unit) := by
  intro s w holds
  refine ⟨fun loaded current huser => ?_, .refl w⟩
  exact holds loaded current ((kept s).symm.trans huser)

theorem set {change : User → User} (id : ∀ user, (change user).id = user.id)
    (version : ∀ loaded (user : User), rule loaded user.authVersion →
      rule loaded (change user).authVersion) :
    KeepsVersions rule (UserSession.set change : UserService ι Unit) := by
  intro s w holds
  refine ⟨fun loaded current huser => ?_, .refl w⟩
  obtain ⟨⟨loaded', current'⟩, hheld, heq⟩ := Option.map_eq_some_iff.mp huser
  cases heq
  obtain ⟨mem, hid, hrule⟩ := holds loaded current' hheld
  exact ⟨mem, (id current').trans hid, version _ _ hrule⟩

theorem log (entry : UserAuditLog) : KeepsVersions rule (UserSession.log entry : UserService ι Unit) :=
  modify fun _ => rfl

theorem verify (userId : String) (factor : MfaFactor) :
    KeepsVersions rule (UserSession.verify userId factor : UserService ι Unit) :=
  modify fun _ => rfl

theorem commit (ruled : VersionRule rule) :
    KeepsVersions rule (UserSession.commit : UserService ι Unit) := by
  intro s w holds
  have expired (after : UserStore ι) (grows : VersionsGrow w after) :
      HoldsRow rule ({ who := s.who } : UserSession ι) after ∧ VersionsGrow w after :=
    ⟨fun _ _ huser => (nomatch huser), grows⟩
  unfold UserSession.commit
  rw [AloneIn, alone_bind, alone_session, andThen_ok]
  refine alone_ask_bind.mpr fun answer after answered => ⟨trivial, ?_⟩
  obtain ⟨-, wrote⟩ := answered
  cases answer with
  | ok _ =>
    refine expired after ?_
    rw [wrote]
    exact (holds.grows_write ruled).trans (versionsGrow_of_users rfl)
  | error raised =>
    refine expired after ?_
    rw [wrote.2]
    exact versionsGrow_of_users rfl

theorem hold_of_mem (ruled : VersionRule rule) {row : User} {s : UserSession ι} {w : UserStore ι}
    (mem : row ∈ w.users) :
    AloneIn (UserSession.hold row)
      (fun outcome s' w' => outcome = .ok row ∧ s' = { s with user := some (row, row) } ∧ w' = w ∧
        HoldsRow rule s' w') s w := by
  refine ⟨rfl, rfl, rfl, fun loaded current huser => ?_⟩
  cases huser
  exact ⟨mem, rfl, ruled.unchanged _⟩

/-- Attribute access: what is read is what the session holds, or the row as it is. -/
theorem current_spec (ruled : VersionRule rule) {id : String} {s : UserSession ι}
    {w : UserStore ι} (holds : HoldsRow rule s w) :
    AloneIn (UserSession.current id)
      (fun outcome s' w' => w' = w ∧ HoldsRow rule s' w ∧
        ∀ user, outcome = .ok user → ∃ loaded, s'.user = some (loaded, user)) s w := by
  unfold UserSession.current
  rw [AloneIn, alone_bind, alone_session, andThen_ok]
  cases huser : s.user with
  | some held =>
    refine ⟨rfl, holds, fun user h => ⟨held.1, ?_⟩⟩
    cases h
    exact huser
  | none =>
    rw [alone_bind, UserSession.query, alone_select, andThen_ok]
    cases hfind : w.users.find? (·.id = id) with
    | none => exact ⟨rfl, holds, fun user h => by cases h⟩
    | some row =>
      refine (hold_of_mem ruled (Table.mem_of_find? hfind)).mono ?_
      rintro outcome s' w' ⟨rfl, rfl, rfl, holds'⟩
      refine ⟨rfl, holds', fun user h => ⟨row, ?_⟩⟩
      cases h
      rfl

theorem current (ruled : VersionRule rule) (id : String) :
    KeepsVersions rule (UserSession.current id : UserService ι User) := by
  intro s w holds
  refine (current_spec ruled holds).mono ?_
  rintro outcome s' w' ⟨rfl, holds', -⟩
  exact ⟨holds', .refl _⟩

theorem hold (ruled : VersionRule rule) {row : User} {next : User → UserService ι β}
    {s : UserSession ι} {w : UserStore ι} (mem : row ∈ w.users)
    (hnext : KeepsVersions rule (next row)) :
    AloneIn (UserSession.hold row >>= next)
      (fun _ s' w' => HoldsRow rule s' w' ∧ VersionsGrow w w') s w := by
  refine Alone.bind (hold_of_mem ruled mem) ?_ ?_
  · rintro value s' w' ⟨heq, -, rfl, holds'⟩
    cases heq
    exact hnext s' _ holds'
  · rintro exc s' w' ⟨heq, -⟩
    cases heq

end KeepsVersions

/-! ### The services -/

section Services

variable (ruled : VersionRule rule)

theorem keeps_utcNow : KeepsVersions rule (UserSession.ask .utcNow : UserService ι Instant) :=
  .ask fun _ _ _ answered => congrArg _ answered

theorem keeps_matchTotp (secret code : String) (last : Option Int) (now : Option Instant) :
    KeepsVersions rule (matchTotp py secret code last now : UserService ι (Option Int)) := by
  unfold matchTotp
  split
  · exact .pure _
  · cases now with
    | some moment => exact .bind (.pure moment) fun _ => .ofExcept _
    | none => exact .bind keeps_utcNow fun _ => .ofExcept _

theorem keeps_decryptMfaSecret (encrypted : String) :
    KeepsVersions rule (decryptMfaSecret py encrypted : UserService ι String) := by
  unfold decryptMfaSecret
  split
  · exact .pure _
  · exact .throw _

theorem keeps_useRecoveryCode (user : User) (code : String) :
    KeepsVersions rule (useRecoveryCode py user code : UserService ι Bool) := by
  unfold useRecoveryCode
  refine .bind (.ofExcept _) fun remaining => ?_
  split
  · exact .pure _
  · exact .bind (.set (fun _ => rfl) fun _ _ h => h) fun _ => .bind (.log _) fun _ =>
      .bind (.verify _ _) fun _ => .pure _

theorem keeps_useTotp (user : User) (encrypted code : String) (now : Option Instant) :
    KeepsVersions rule (useTotp py user encrypted code now : UserService ι Bool) := by
  unfold useTotp
  refine .bind (keeps_decryptMfaSecret encrypted) fun secret =>
    .bind (keeps_matchTotp secret code _ now) fun matched => ?_
  cases matched with
  | none => exact .pure _
  | some step =>
    exact .bind (.set (fun _ => rfl) fun _ _ h => h) fun _ => .bind (.verify _ _) fun _ => .pure _

include ruled

theorem keeps_verifyMfaChallenge (id code : String) (now : Option Instant) :
    KeepsVersions rule (verifyMfaChallenge py id code now : UserService ι Bool) := by
  unfold verifyMfaChallenge
  refine .bind (.current ruled id) fun user => ?_
  split
  · split
    · exact keeps_useTotp user _ code now
    · exact keeps_useRecoveryCode user code
  · exact .pure _

theorem keeps_getUserById (id : String) :
    KeepsVersions rule (getUserById id : UserService ι (Option User)) := by
  intro s w holds
  unfold getUserById
  rw [AloneIn, alone_bind, UserSession.query, alone_select, andThen_ok]
  cases hfind : w.users.find? (·.id = id) with
  | none => exact ⟨holds, .refl w⟩
  | some row =>
    dsimp only
    rw [map_eq_pure_bind]
    exact KeepsVersions.hold ruled (Table.mem_of_find? hfind) (.pure _)

theorem keeps_getCurrentUser (token : String) :
    KeepsVersions rule (getCurrentUser py token : UserService ι User) := by
  unfold getCurrentUser
  refine .bind keeps_utcNow fun now => .bind (.ofExcept _) fun decoded => ?_
  cases decoded with
  | none => exact .throw _
  | some payload =>
    dsimp only
    split
    · refine .bind (keeps_getUserById ruled _) fun found => ?_
      cases found with
      | none => exact .throw _
      | some user =>
        exact .bind (.raiseIf _ _) fun _ => .bind (.raiseIf _ _) fun _ => .pure _
    · exact .throw _

theorem keeps_getReauthenticatedUser (token : String) (xReauthToken : Option String) :
    KeepsVersions rule (getReauthenticatedUser py token xReauthToken : UserService ι User) := by
  unfold getReauthenticatedUser
  refine .bind (keeps_getCurrentUser ruled token) fun user =>
    .bind keeps_utcNow fun now => .bind (.ofExcept _) fun decoded => ?_
  cases decoded with
  | none => exact .throw _
  | some payload =>
    dsimp only
    split
    · exact .pure _
    · exact .throw _

theorem keeps_authenticateUser (name password : String) (code : Option String) :
    KeepsVersions rule (authenticateUser py name password code :
      UserService ι (Option String)) := by
  intro s w holds
  unfold authenticateUser
  rw [AloneIn, alone_bind, alone_session, andThen_ok]
  refine alone_ask_bind.mpr fun found after answered => ⟨trivial, ?_⟩
  obtain ⟨-, hafter, hfound⟩ := answered
  have users : after.users = w.users := by rw [hafter]; rfl
  have grows : VersionsGrow w after := versionsGrow_of_users users
  have holds' : HoldsRow rule s after := by
    intro loaded current huser
    rw [users]
    exact holds loaded current huser
  cases found with
  | none => exact ⟨holds', grows⟩
  | some row =>
    refine (KeepsVersions.hold ruled (users ▸ hfound.1) ?_).mono
      fun _ _ _ h => ⟨h.1, grows.trans h.2⟩
    split
    · exact .pure _
    · refine .bind (.ofExcept _) fun right => ?_
      split
      · exact .pure _
      · split
        · cases code with
          | none => exact .throw _
          | some code =>
            refine .bind (keeps_verifyMfaChallenge ruled _ code none) fun verified => ?_
            split
            · exact .bind (.commit ruled) fun _ => .pure _
            · exact .pure _
        · exact .pure _

theorem keeps_recordReauthentication (id password : String) :
    KeepsVersions rule (recordReauthentication py id password : UserService ι Unit) := by
  unfold recordReauthentication
  refine .bind (.current ruled id) fun user => .bind (.ofExcept _) fun right => ?_
  split
  · exact .bind (.log _) fun _ => .commit ruled
  · exact .bind (.log _) fun _ => .bind (.commit ruled) fun _ => .throw _

end Services

theorem keeps_changePassword (id current new : String) :
    KeepsVersions (· ≤ ·) (changePassword py id current new : UserService ι Unit) := by
  unfold changePassword
  refine .bind (.current versionRule_le id) fun user => .bind (.ofExcept _) fun _ =>
    .bind (.raiseIf _ _) fun _ => .bind (.ofExcept _) fun _ => .bind (.raiseIf _ _) fun _ =>
    .bind (.ask fun _ _ _ answered => congrArg _ answered) fun salt => .bind (.set ?_ ?_) fun _ =>
    .bind (.log _) fun _ => .commit versionRule_le
  · exact fun _ => rfl
  · intro loaded user h
    exact h.trans (by simp)

theorem keeps_startMfaEnrollment (id issuer : String) :
    KeepsVersions (· ≤ ·) (startMfaEnrollment id issuer : UserService ι (String × String)) := by
  unfold startMfaEnrollment
  refine .bind (.current versionRule_le id) fun user => .bind (.raiseIf _ _) fun _ =>
    .bind (.ask fun _ _ _ answered => congrArg _ answered) fun secret =>
    .bind (.ask fun _ _ _ answered => congrArg _ answered) fun encrypted =>
    .bind (.set (fun _ => rfl) fun _ _ h => h) fun _ => .bind (.log _) fun _ =>
    .bind (.commit versionRule_le) fun _ => .bind (.current versionRule_le id) fun user =>
    .bind (.ask fun _ _ _ answered => congrArg _ answered) fun uri => .pure _

theorem keeps_generateRecoveryCodes (count : Nat) :
    KeepsVersions rule (generateRecoveryCodes py count : UserService ι (List String)) := by
  induction count with
  | zero => exact .pure _
  | succ count ih =>
    refine .bind (.bind (.ask fun _ _ _ answered => congrArg _ answered) fun _ => .pure _)
      fun code => .bind ih fun codes => .pure _

theorem keeps_confirmMfaEnrollment (id code : String) (now : Option Instant) :
    KeepsVersions (· ≤ ·) (confirmMfaEnrollment py id code now : UserService ι (List String)) := by
  unfold confirmMfaEnrollment
  refine .bind (.current versionRule_le id) fun user => ?_
  split
  · refine .bind (keeps_decryptMfaSecret _) fun secret =>
      .bind (keeps_matchTotp secret code none now) fun matched => ?_
    cases matched with
    | none => exact .throw _
    | some step =>
      refine .bind (keeps_generateRecoveryCodes _) fun codes => .bind (.set ?_ ?_) fun _ =>
        .bind (.log _) fun _ => .bind (.commit versionRule_le) fun _ => .pure _
      · exact fun _ => rfl
      · intro loaded user h
        exact h.trans (by simp)
  · exact .throw _

theorem keeps_disableMfa (id code : String) (now : Option Instant) :
    KeepsVersions (· ≤ ·) (disableMfa py id code now : UserService ι Unit) := by
  unfold disableMfa
  refine .bind (.current versionRule_le id) fun user => .bind (.raiseIf _ _) fun _ =>
    .bind (keeps_verifyMfaChallenge versionRule_le id code now) fun _ =>
    .bind (.raiseIf _ _) fun _ => .bind (.set ?_ ?_) fun _ => .bind (.log _) fun _ =>
    .commit versionRule_le
  · exact fun _ => rfl
  · intro loaded user h
    exact h.trans (by simp [User.withoutMfa])

/-! ### Issued tokens -/

/-- The token was made for this user, with this version of it. -/
def TokenFor (py : IdentityPlatform) (purpose userId : String) (version : Int) (token : String) :
    Prop :=
  ∃ expiry, token = tokenOf py (tokenPayload userId version purpose expiry)

theorem tokenFor_access (subject : String) (version : Int) (delta : Option Int) (now : Instant) :
    TokenFor py "access" subject version (createAccessToken py subject version delta now) :=
  ⟨_, rfl⟩

theorem tokenFor_reauthentication (subject : String) (version : Int) (now : Instant) :
    TokenFor py "reauthentication" subject version
      (createReauthenticationToken py subject version now) :=
  ⟨_, rfl⟩

/-- The token a response carries, with its purpose. -/
def IdentityResponse.issued : IdentityResponse → Option (String × String)
  | .token accessToken => some ("access", accessToken)
  | .reauthentication reauthenticationToken => some ("reauthentication", reauthenticationToken)
  | _ => none

/-- A response carries a token only for a user of the store, with the user's version. -/
def IssuesCurrent (py : IdentityPlatform) (outcome : Except IdentityExc IdentityResponse)
    (w : UserStore ι) : Prop :=
  ∀ response purpose token, outcome = .ok response → response.issued = some (purpose, token) →
    ∃ user ∈ w.users, TokenFor py purpose user.id user.authVersion token

/-- The last step of a request that issues a token: the user is read, then the clock. -/
theorem issue_spec {id : String} (respond : User → Instant → IdentityResponse)
    (made : ∀ user now purpose token, (respond user now).issued = some (purpose, token) →
      TokenFor py purpose user.id user.authVersion token)
    {s : UserSession ι} {w : UserStore ι} (holds : HoldsRow (· = ·) s w) :
    AloneIn
      (do
        let user ← UserSession.current id
        let now ← UserSession.ask .utcNow
        return respond user now)
      (fun outcome _ w' => IssuesCurrent py outcome w' ∧ VersionsGrow w w') s w := by
  refine Alone.bind (KeepsVersions.current_spec versionRule_eq holds) ?_ ?_
  · rintro user s' w' ⟨rfl, holds', held⟩
    refine alone_ask_bind.mpr fun now after answered => ⟨trivial, ?_⟩
    have same : after = w' := answered
    subst same
    refine ⟨fun response purpose token hresponse issued => ?_, .refl _⟩
    obtain ⟨loaded, huser⟩ := held user rfl
    obtain ⟨mem, hid, hversion⟩ := holds' loaded user huser
    cases hresponse
    refine ⟨loaded, mem, ?_⟩
    rw [hversion, ← hid]
    exact made user now purpose token issued
  · rintro exc s' w' ⟨rfl, -, -⟩
    exact ⟨fun _ _ _ h => (nomatch h), .refl _⟩

/-- A handler that keeps the versions, followed by one that issues a token. -/
theorem KeepsVersions.then_issues {first : UserService ι α}
    {next : α → UserService ι IdentityResponse} (hfirst : KeepsVersions (· = ·) first)
    (hnext : ∀ value s w, HoldsRow (· = ·) s w →
      AloneIn (next value) (fun outcome _ w' => IssuesCurrent py outcome w' ∧ VersionsGrow w w')
        s w)
    {s : UserSession ι} {w : UserStore ι} (holds : HoldsRow (· = ·) s w) :
    AloneIn (first >>= next)
      (fun outcome _ w' => IssuesCurrent py outcome w' ∧ VersionsGrow w w') s w := by
  refine Alone.bind (hfirst s w holds) ?_ ?_
  · rintro value s' w' ⟨holds', grows⟩
    exact (hnext value s' w' holds').mono fun _ _ _ h => ⟨h.1, grows.trans h.2⟩
  · rintro exc s' w' ⟨-, grows⟩
    exact ⟨fun _ _ _ h => (nomatch h), grows⟩

theorem login_issues (name password : String) (code : Option String) {s : UserSession ι}
    {w : UserStore ι} (holds : HoldsRow (· = ·) s w) :
    AloneIn (login py name password code)
      (fun outcome _ w' => IssuesCurrent py outcome w' ∧ VersionsGrow w w') s w := by
  unfold login
  refine KeepsVersions.then_issues ?_ ?_ holds
  · refine .tryCatch (keeps_authenticateUser versionRule_eq name password code) fun exc => ?_
    split
    · exact .throw _
    · exact .throw _
  · intro found s w holds
    cases found with
    | none => exact ⟨fun _ _ _ h => (nomatch h), .refl _⟩
    | some id =>
      refine issue_spec (fun user now =>
        .token (createAccessToken py user.id user.authVersion none now)) ?_ holds
      intro user now purpose token issued
      cases issued
      exact tokenFor_access user.id user.authVersion none now

theorem reauthenticate_issues (token password : String) {s : UserSession ι} {w : UserStore ι}
    (holds : HoldsRow (· = ·) s w) :
    AloneIn (reauthenticate py token password)
      (fun outcome _ w' => IssuesCurrent py outcome w' ∧ VersionsGrow w w') s w := by
  unfold reauthenticate
  refine KeepsVersions.then_issues (keeps_getCurrentUser versionRule_eq token) ?_ holds
  intro user s w holds
  refine KeepsVersions.then_issues ?_ ?_ holds
  · refine .tryCatch (keeps_recordReauthentication versionRule_eq user.id password) fun exc => ?_
    split
    · exact .throw _
    · exact .throw _
  · intro _ s w holds
    refine issue_spec (fun user now =>
      .reauthentication (createReauthenticationToken py user.id user.authVersion now)) ?_ holds
    intro user now purpose token issued
    cases issued
    exact tokenFor_reauthentication user.id user.authVersion now

/-- A handler that never returns a token. -/
theorem KeepsVersions.silent (py : IdentityPlatform) {first : UserService ι α}
    (respond : α → IdentityResponse) (hfirst : KeepsVersions (· ≤ ·) first)
    (silent : ∀ value, (respond value).issued = none) {s : UserSession ι} {w : UserStore ι}
    (holds : HoldsRow (· ≤ ·) s w) :
    AloneIn (first >>= fun value => Pure.pure (respond value))
      (fun outcome _ w' => IssuesCurrent py outcome w' ∧ VersionsGrow w w') s w := by
  refine Alone.bind (hfirst s w holds) ?_ ?_
  · rintro value s' w' ⟨-, grows⟩
    refine ⟨fun response purpose token h issued => ?_, grows⟩
    cases h
    rw [silent value] at issued
    cases issued
  · rintro exc s' w' ⟨-, grows⟩
    exact ⟨fun _ _ _ h => (nomatch h), grows⟩

theorem keeps_requireSuperAdmin (user : User) :
    KeepsVersions rule (requireSuperAdmin user : UserService ι Unit) := .raiseIf _ _

/-- Every request lets the versions grow, and issues tokens of current versions only. -/
theorem handle_issues (request : IdentityRequest) (who : ι) (w : UserStore ι) :
    AloneIn (request.handle py)
      (fun outcome _ w' => IssuesCurrent py outcome w' ∧ VersionsGrow w w') { who := who } w := by
  have fresh (rule : Int → Int → Prop) : HoldsRow rule ({ who := who } : UserSession ι) w :=
    fun _ _ huser => nomatch huser
  cases request with
  | login name password code => exact login_issues name password code (fresh _)
  | reauthenticate token password => exact reauthenticate_issues token password (fresh _)
  | updatePassword token current new =>
    have body (rejected : IdentityExc → UserService ι Unit)
        (throws : ∀ raised, KeepsVersions (· ≤ ·) (rejected raised)) : KeepsVersions (· ≤ ·) (do
        let user ← getCurrentUser py token
        tryCatch (changePassword py user.id current new) rejected) :=
      .bind (keeps_getCurrentUser versionRule_le token) fun user =>
        .tryCatch (keeps_changePassword user.id current new) throws
    have h (rejected) (throws) := (body rejected throws).silent py (fun _ => .passwordChanged)
      (fun _ => rfl) (fresh _)
    simp only [bind_assoc] at h
    refine h _ fun raised => ?_
    split
    · exact .throw _
    · exact .throw _
  | enrollMfa token reauth =>
    have body (rejected : IdentityExc → UserService ι (String × String))
        (throws : ∀ raised, KeepsVersions (· ≤ ·) (rejected raised)) : KeepsVersions (· ≤ ·) (do
        let user ← getReauthenticatedUser py token reauth
        requireSuperAdmin user
        tryCatch (startMfaEnrollment user.id) rejected) :=
      .bind (keeps_getReauthenticatedUser versionRule_le token reauth) fun user =>
        .bind (keeps_requireSuperAdmin user) fun _ =>
        .tryCatch (keeps_startMfaEnrollment user.id _) throws
    have h (rejected) (throws) := (body rejected throws).silent py
      (fun found => .mfaEnrollment found.2 found.1) (fun _ => rfl) (fresh _)
    simp only [bind_assoc] at h
    refine h _ fun raised => ?_
    split
    · exact .throw _
    · exact .throw _
  | confirmMfa token reauth code =>
    have body : KeepsVersions (· ≤ ·) (do
        let user ← getReauthenticatedUser py token reauth
        requireSuperAdmin user
        tryCatch (confirmMfaEnrollment py user.id code) fun raised =>
          throw (rejectedMfa (.httpException 400 "mfa confirmation rejected") raised) :
        UserService ι (List String)) :=
      .bind (keeps_getReauthenticatedUser versionRule_le token reauth) fun user =>
        .bind (keeps_requireSuperAdmin user) fun _ =>
        .tryCatch (keeps_confirmMfaEnrollment user.id code none) fun exc => .throw _
    have h := body.silent py .mfaConfirmed (fun _ => rfl) (fresh _)
    simp only [bind_assoc] at h
    exact h
  | removeMfa token reauth code =>
    have body : KeepsVersions (· ≤ ·) (do
        let user ← getReauthenticatedUser py token reauth
        requireSuperAdmin user
        tryCatch (disableMfa py user.id code) fun raised =>
          throw (rejectedMfa (.httpException 400 "mfa disable rejected") raised) :
        UserService ι Unit) :=
      .bind (keeps_getReauthenticatedUser versionRule_le token reauth) fun user =>
        .bind (keeps_requireSuperAdmin user) fun _ =>
        .tryCatch (keeps_disableMfa user.id code none) fun exc => .throw _
    have h := body.silent py (fun _ => .mfaDisabled) (fun _ => rfl) (fresh _)
    simp only [bind_assoc] at h
    exact h

theorem closing_spec {post : Except IdentityExc α → UserStore ι → Prop} {body : UserService ι α}
    {s : UserSession ι} {w : UserStore ι}
    (hbody : AloneIn body (fun outcome _ w' => post outcome w') s w)
    (released : ∀ outcome w who, post outcome w → post outcome (w.release who)) :
    AloneIn (UserSession.closing body) (fun outcome _ w' => post outcome w') s w := by
  have caught : AloneIn (tryCatch (Except.ok <$> body) fun exc => Pure.pure (.error exc))
      (fun outcome _ w' => ∃ returned, outcome = .ok returned ∧ post returned w') s w := by
    refine alone_tryCatch.mpr ?_
    rw [map_eq_pure_bind, alone_bind]
    refine hbody.mono ?_
    rintro (exc | value) s' w' h
    · exact ⟨.error exc, rfl, h⟩
    · exact ⟨.ok value, rfl, h⟩
  unfold UserSession.closing
  refine Alone.bind caught ?_ ?_
  · rintro returned s' w' ⟨_, h, holds⟩
    cases h
    rw [alone_bind, alone_session, andThen_ok]
    refine alone_ask_bind.mpr fun _ after closed => ⟨trivial, ?_⟩
    rw [show after = w'.release s'.who from closed]
    exact released returned w' s'.who holds
  · rintro exc s' w' ⟨_, h, -⟩
    cases h

/-! ### Who is accepted -/

theorem getUserById_spec (id : String) (s : UserSession ι) (w : UserStore ι) :
    AloneIn (getUserById id) (fun outcome _ w' => w' = w ∧
      ∀ user, outcome = .ok (some user) → user ∈ w.users ∧ user.id = id) s w := by
  unfold getUserById
  rw [AloneIn, alone_bind, UserSession.query, alone_select, andThen_ok]
  cases hfind : w.users.find? (·.id = id) with
  | none => exact ⟨rfl, fun _ h => nomatch h⟩
  | some row =>
    dsimp only
    refine ⟨rfl, fun user h => ?_⟩
    cases h
    exact ⟨Table.mem_of_find? hfind, by simpa using Table.holds_of_find? hfind⟩

/-- The user an access token is accepted for, in the store as it is. -/
structure AccessOf (py : IdentityPlatform) (token : String) (w : UserStore ι) (user : User) :
    Prop where
  mem : user ∈ w.users
  payload : ∃ now payload, decodeAccessToken py token now = .ok (some payload) ∧
    isAccessPayload payload = true ∧ user.id = py.strOf (Json.get payload "sub") ∧
    isNumber user.authVersion (Json.get payload "ver") = true

theorem getCurrentUser_spec (token : String) (s : UserSession ι) (w : UserStore ι) :
    AloneIn (getCurrentUser py token) (fun outcome _ w' => w' = w ∧
      ∀ user, outcome = .ok user → AccessOf py token w user) s w := by
  unfold getCurrentUser
  refine alone_ask_bind.mpr fun now after answered => ⟨trivial, ?_⟩
  have same : after = w := answered
  subst same
  rw [alone_bind, alone_ofExcept]
  cases hdecode : decodeAccessToken py token now with
  | error raised => exact ⟨rfl, fun _ h => nomatch h⟩
  | ok decoded =>
    rw [andThen_ok]
    cases decoded with
    | none => exact ⟨rfl, fun _ h => nomatch h⟩
    | some payload =>
      dsimp only
      split
      · next isAccess =>
        refine Alone.bind (getUserById_spec _ s after) ?_ ?_
        · rintro found s' w' ⟨rfl, hfound⟩
          cases found with
          | none => exact ⟨rfl, fun _ h => nomatch h⟩
          | some user =>
            obtain ⟨mem, hid⟩ := hfound user rfl
            dsimp only
            rw [alone_bind, alone_raiseIf]
            constructor
            · exact fun _ => ⟨rfl, fun _ h => nomatch h⟩
            · intro _
              rw [andThen_ok, alone_bind, alone_raiseIf]
              constructor
              · exact fun _ => ⟨rfl, fun _ h => nomatch h⟩
              · intro version
                refine ⟨rfl, fun user' h => ?_⟩
                cases h
                exact ⟨mem, now, payload, hdecode, isAccess, hid, by simpa using version⟩
        · rintro exc s' w' ⟨rfl, -⟩
          exact ⟨rfl, fun _ h => nomatch h⟩
      · exact ⟨rfl, fun _ h => nomatch h⟩

theorem getReauthenticatedUser_spec (token : String) (xReauthToken : Option String)
    (s : UserSession ι) (w : UserStore ι) :
    AloneIn (getReauthenticatedUser py token xReauthToken) (fun outcome _ w' => w' = w ∧
      ∀ user, outcome = .ok user → AccessOf py token w user ∧
        ∃ now payload, decodeAccessToken py (xReauthToken.getD "") now = .ok (some payload) ∧
          isReauthenticationOf user payload = true) s w := by
  unfold getReauthenticatedUser
  refine Alone.bind (getCurrentUser_spec token s w) ?_ ?_
  · rintro user s' w' ⟨rfl, accepted⟩
    refine alone_ask_bind.mpr fun now after answered => ⟨trivial, ?_⟩
    have same : after = w' := answered
    subst same
    rw [alone_bind, alone_ofExcept]
    cases hdecode : decodeAccessToken py (xReauthToken.getD "") now with
    | error raised => exact ⟨rfl, fun _ h => nomatch h⟩
    | ok decoded =>
      rw [andThen_ok]
      cases decoded with
      | none => exact ⟨rfl, fun _ h => nomatch h⟩
      | some payload =>
        dsimp only
        split
        · next recent =>
          refine ⟨rfl, fun user' h => ?_⟩
          cases h
          exact ⟨accepted user rfl, now, payload, hdecode, recent⟩
        · exact ⟨rfl, fun _ h => nomatch h⟩
  · rintro exc s' w' ⟨rfl, -⟩
    exact ⟨rfl, fun _ h => nomatch h⟩

/-- The handler, run alone on the store, can return the user. -/
def Accepts (handler : UserService ι User) (store : UserStore ι) (user : User) : Prop :=
  ∃ who trace session store', Prog.Run (identitySemantics ι) (handler { who := who }) store trace
    (.done (.ok user, session)) store'

theorem accessOf_of_accepts {token : String} {store : UserStore ι} {user : User}
    (accepts : Accepts (getCurrentUser py token) store user) : AccessOf py token store user := by
  obtain ⟨who, trace, session, store', run⟩ := accepts
  exact ((run.of_alone (getCurrentUser_spec token _ store)).2).2 user rfl

theorem reauthenticationOf_of_accepts {token : String} {xReauthToken : Option String}
    {store : UserStore ι} {user : User}
    (accepts : Accepts (getReauthenticatedUser py token xReauthToken) store user) :
    AccessOf py token store user ∧
      ∃ now payload, decodeAccessToken py (xReauthToken.getD "") now = .ok (some payload) ∧
        isReauthenticationOf user payload = true := by
  obtain ⟨who, trace, session, store', run⟩ := accepts
  exact ((run.of_alone (getReauthenticatedUser_spec token xReauthToken _ store)).2).2 user rfl

theorem TokenFor.decoded {purpose userId token : String} {version : Int}
    {payload : List (String × Json)} {now : Instant}
    (made : TokenFor py purpose userId version token)
    (decoded : decodeAccessToken py token now = .ok (some payload)) :
    ∃ expiry, payload = tokenPayload userId version purpose expiry := by
  obtain ⟨expiry, rfl⟩ := made
  rw [decodeAccessToken_tokenOf] at decoded
  split at decoded
  · cases decoded
  · cases decoded
    exact ⟨expiry, rfl⟩

omit [DecidableEq ι] in
/-- An issued token that is accepted for access is an access token of that user, with the
user's present version. -/
theorem TokenFor.access {purpose userId token : String} {version : Int} {store : UserStore ι}
    {user : User} (made : TokenFor py purpose userId version token)
    (access : AccessOf py token store user) :
    purpose = "access" ∧ user.id = userId ∧ user.authVersion = version := by
  obtain ⟨now, payload, decoded, isAccess, hid, hversion⟩ := access.payload
  obtain ⟨expiry, rfl⟩ := made.decoded decoded
  simp only [isAccessPayload, Bool.and_eq_true] at isAccess
  exact ⟨of_decide_eq_true isAccess.2, hid, (of_decide_eq_true hversion).symm⟩

/-- An issued token that is accepted as a reauthentication is one of that user, with the
user's present version. -/
theorem TokenFor.reauthentication {purpose userId token : String} {version : Int} {user : User}
    {payload : List (String × Json)} {now : Instant}
    (made : TokenFor py purpose userId version token)
    (decoded : decodeAccessToken py token now = .ok (some payload))
    (recent : isReauthenticationOf user payload = true) :
    purpose = "reauthentication" ∧ user.id = userId ∧ user.authVersion = version := by
  obtain ⟨expiry, rfl⟩ := made.decoded decoded
  simp only [isReauthenticationOf, Bool.and_eq_true] at recent
  obtain ⟨⟨hpurpose, hid⟩, hversion⟩ := recent
  exact ⟨of_decide_eq_true hpurpose, (of_decide_eq_true hid).symm,
    (of_decide_eq_true hversion).symm⟩

/-! ### Sequential runs -/

/-- A request that was served, with the stores before and after it. -/
structure Served (ι : Type) where
  request : IdentityRequest
  outcome : Except IdentityExc IdentityResponse
  before : UserStore ι
  after : UserStore ι

/-- The token in the answer, with its purpose. -/
def Served.issued (served : Served ι) : Option (String × String) :=
  match served.outcome with
  | .ok response => response.issued
  | .error _ => none

/-- The request moved the user's authentication version. -/
def Served.bumps (served : Served ι) (userId : String) : Prop :=
  served.after.versionOf userId ≠ served.before.versionOf userId

/-- Requests served one after the other, each in a session of its own. -/
inductive SequentialRun (py : IdentityPlatform) (store₀ : UserStore ι) :
    List (Served ι) → UserStore ι → Prop where
  | nil : SequentialRun py store₀ [] store₀
  | snoc {history : List (Served ι)} {before after : UserStore ι} {request : IdentityRequest}
      {outcome : Except IdentityExc IdentityResponse} {who : ι} {session : UserSession ι}
      {trace : List (Event (identity ι))} (run : SequentialRun py store₀ history before)
      (served : Prog.Run (identitySemantics ι) (request.serve py who) before trace
        (.done (outcome, session)) after) :
      SequentialRun py store₀ (history ++ [⟨request, outcome, before, after⟩]) after

theorem served_spec {request : IdentityRequest} {who : ι} {before after : UserStore ι}
    {outcome : Except IdentityExc IdentityResponse} {session : UserSession ι}
    {trace : List (Event (identity ι))}
    (run : Prog.Run (identitySemantics ι) (request.serve py who) before trace
      (.done (outcome, session)) after) :
    IssuesCurrent py outcome after ∧ VersionsGrow before after := by
  have handled : AloneIn (request.handle py)
      (fun outcome _ w' => IssuesCurrent py outcome w' ∧ VersionsGrow before w') { who } before :=
    handle_issues request who before
  have spec := closing_spec handled fun _ _ _ h => h
  exact (run.of_alone spec).2

theorem SequentialRun.grows {store₀ store : UserStore ι} {history : List (Served ι)}
    (run : SequentialRun py store₀ history store) : VersionsGrow store₀ store := by
  induction run with
  | nil => exact .refl _
  | snoc run served ih => exact ih.trans (served_spec served).2

/-- After the user's version moved, it is past every version from before. -/
theorem SequentialRun.passes {store₀ store : UserStore ι} {history : List (Served ι)}
    {userId : String} {version : Int} (run : SequentialRun py store₀ history store)
    (start : store₀.versionOf userId = some version) (bumped : ∃ b ∈ history, b.bumps userId) :
    ∃ version', store.versionOf userId = some version' ∧ version < version' := by
  induction run with
  | nil =>
    obtain ⟨b, hb, -⟩ := bumped
    cases hb
  | @snoc history before after request outcome who session trace run served ih =>
    obtain ⟨b, hb, moves⟩ := bumped
    obtain ⟨middle, hmiddle, le⟩ := run.grows userId version start
    obtain ⟨last, hlast, le'⟩ := (served_spec served).2 userId middle hmiddle
    rcases List.mem_append.mp hb with earlier | here
    · obtain ⟨version', h, lt⟩ := ih ⟨b, earlier, moves⟩
      rw [hmiddle] at h
      cases h
      exact ⟨last, hlast, lt_of_lt_of_le lt le'⟩
    · rw [List.mem_singleton.mp here] at moves
      refine ⟨last, hlast, lt_of_le_of_ne (le.trans le') fun same => moves ?_⟩
      change after.versionOf userId = before.versionOf userId
      rw [hlast, hmiddle, le_antisymm le' (same ▸ le)]

theorem SequentialRun.split {store₀ store : UserStore ι} {earlier later : List (Served ι)}
    {served : Served ι} (run : SequentialRun py store₀ (earlier ++ served :: later) store) :
    IssuesCurrent py served.outcome served.after ∧
      SequentialRun py served.after later store := by
  induction later using List.reverseRecOn generalizing store with
  | nil =>
    generalize hwhole : earlier ++ [served] = whole at run
    cases run with
    | nil => simp at hwhole
    | snoc run step =>
      obtain ⟨-, hlast⟩ := List.append_inj' hwhole rfl
      cases hlast
      exact ⟨(served_spec step).1, .nil⟩
  | append_singleton later last ih =>
    rw [← List.cons_append, ← List.append_assoc] at run
    generalize hwhole : (earlier ++ served :: later) ++ [last] = whole at run
    cases run with
    | nil => simp at hwhole
    | snoc run step =>
      obtain ⟨hinit, hlast⟩ := List.append_inj' hwhole rfl
      subst hinit
      cases hlast
      obtain ⟨issues, rest⟩ := ih run
      exact ⟨issues, rest.snoc step⟩

/-- Each token of a sequential run belongs to one user. Once that user's version has moved it
is accepted nowhere; an access token is never taken for a reauthentication nor the reverse,
and a reauthentication of one user is taken for no other. A token that has not expired
decodes to what it was created from. None of this needs the tags to be unforgeable: it is
about the tokens that were issued, whatever else is presented in between. -/
theorem tokens_revoked_and_scoped {store₀ store : UserStore ι} {history : List (Served ι)}
    (run : SequentialRun py store₀ history store) :
    (∀ earlier served later purpose token, history = earlier ++ served :: later →
      served.issued = some (purpose, token) →
      ∃ userId version, TokenFor py purpose userId version token ∧
        served.after.versionOf userId = some version ∧
        ((∃ b ∈ later, b.bumps userId) → ∀ user,
          ¬ Accepts (getCurrentUser py token) store user ∧
          (∀ xReauthToken, ¬ Accepts (getReauthenticatedUser py token xReauthToken) store user) ∧
          ∀ bearer, ¬ Accepts (getReauthenticatedUser py bearer (some token)) store user) ∧
        (∀ (anyStore : UserStore ι) user, Accepts (getCurrentUser py token) anyStore user →
          purpose = "access") ∧
        ∀ (anyStore : UserStore ι) bearer user,
          Accepts (getReauthenticatedUser py bearer (some token)) anyStore user →
          purpose = "reauthentication" ∧ user.id = userId) ∧
    ∀ subject version purpose expiresDelta now moment,
      timestampSeconds moment ≤ timestampSeconds (now + expiresDelta) →
      decodeAccessToken py (createToken py subject version purpose expiresDelta now) moment =
        .ok (some (tokenPayload subject version purpose
          (timestampSeconds (now + expiresDelta)))) := by
  constructor
  · rintro earlier served later purpose token rfl issued
    obtain ⟨issues, rest⟩ := run.split
    unfold Served.issued at issued
    split at issued
    · next response houtcome =>
      obtain ⟨owner, mem, made⟩ := issues response purpose token houtcome issued
      have start := UserStore.versionOf_of_mem mem
      refine ⟨owner.id, owner.authVersion, made, start, fun bumped user => ?_, ?_, ?_⟩
      · obtain ⟨version', present, past⟩ := rest.passes start bumped
        -- whoever accepts the token holds the present version of its user
        have stale (mem : user ∈ store.users) (hid : user.id = owner.id)
            (hversion : user.authVersion = owner.authVersion) : False := by
          have now := UserStore.versionOf_of_mem mem
          rw [hid, present, hversion, Option.some.injEq] at now
          exact absurd now past.ne'
        refine ⟨fun accepts => ?_, fun xReauthToken accepts => ?_, fun bearer accepts => ?_⟩
        · have access := accessOf_of_accepts accepts
          obtain ⟨-, hid, hversion⟩ := made.access access
          exact stale access.mem hid hversion
        · obtain ⟨access, -⟩ := reauthenticationOf_of_accepts accepts
          obtain ⟨-, hid, hversion⟩ := made.access access
          exact stale access.mem hid hversion
        · obtain ⟨access, now, payload, decoded, recent⟩ := reauthenticationOf_of_accepts accepts
          obtain ⟨-, hid, hversion⟩ := made.reauthentication decoded recent
          exact stale access.mem hid hversion
      · intro anyStore user accepts
        exact (made.access (accessOf_of_accepts accepts)).1
      · intro anyStore bearer user accepts
        obtain ⟨-, now, payload, decoded, recent⟩ := reauthenticationOf_of_accepts accepts
        obtain ⟨hpurpose, hid, -⟩ := made.reauthentication decoded recent
        exact ⟨hpurpose, hid⟩
    · cases issued
  · intro subject version purpose expiresDelta now moment unexpired
    unfold createToken
    rw [decodeAccessToken_tokenOf, if_neg (not_lt.mpr unexpired)]

/-- A request served by the sample environment. -/
def sampleServe (request : IdentityRequest) (store : UserStore Unit) : Trace (identity Unit) Unit ×
    Config (identity Unit)
      fun _ : Unit => Except IdentityExc IdentityResponse × UserSession Unit :=
  Config.replay (identitySemantics Unit) identityScript 0 (List.replicate 30 ())
    ⟨store, fun _ => request.serve plainIdentity ()⟩

/-- What a finished request answered. -/
def responseOf : Prog (identity Unit) (Except IdentityExc IdentityResponse × UserSession Unit) →
    Option IdentityResponse
  | .done (.ok response, _) => some response
  | _ => none

theorem sampleServe_run (request : IdentityRequest) (store : UserStore Unit)
    (response : IdentityResponse)
    (ends : responseOf ((sampleServe request store).2.client ()) = some response) :
    ∃ session, Prog.Run (identitySemantics Unit) (request.serve plainIdentity ()) store
      ((sampleServe request store).1.map Prod.snd) (.done (.ok response, session))
      (sampleServe request store).2.store := by
  have run := (Config.replay_reaches identityScript_allowed (List.replicate 30 ()) 0
    (⟨store, fun _ => request.serve plainIdentity ()⟩ : Config (identity Unit)
      fun _ : Unit => Except IdentityExc IdentityResponse × UserSession Unit)).alone
  unfold responseOf at ends
  split at ends
  · next session hdone =>
    cases ends
    refine ⟨session, ?_⟩
    rw [← hdone]
    exact run
  · cases ends

def sampleLogin : IdentityRequest := .login "u" "" (some "000000")

def sampleRemoval : IdentityRequest :=
  .removeMfa sampleAccessToken (some sampleReauthToken) "000000"

theorem decode_sampleAccessToken :
    decodeAccessToken plainIdentity sampleAccessToken 0 =
      .ok (some (tokenPayload "u" 0 "access" 3600)) := by
  unfold sampleAccessToken createAccessToken createToken
  rw [decodeAccessToken_tokenOf]
  rfl

/-- The token of a login is not accepted after the second factor was disabled. -/
theorem tokens_revoked_and_scoped_login :
    ∃ (history : List (Served Unit)) (store : UserStore Unit) (token : String),
      SequentialRun plainIdentity (sampleUsers Unit) history store ∧
      history.head?.bind Served.issued = some ("access", token) ∧
      ∀ user, ¬ Accepts (getCurrentUser plainIdentity token) store user := by
  obtain ⟨session, first⟩ := sampleServe_run sampleLogin (sampleUsers Unit)
    (.token sampleAccessToken) (by decide +kernel)
  obtain ⟨session', second⟩ := sampleServe_run sampleRemoval
    (sampleServe sampleLogin (sampleUsers Unit)).2.store .mfaDisabled (by decide +kernel)
  have run := (SequentialRun.nil.snoc first).snoc second
  obtain ⟨userId, version, made, -, revoked, -⟩ :=
    (tokens_revoked_and_scoped run).1 [] _ _ "access" sampleAccessToken rfl rfl
  obtain ⟨expiry, hpayload⟩ := made.decoded decode_sampleAccessToken
  have hid : "u" = userId := Json.str.inj (congrArg Prod.snd (List.cons.inj hpayload).1)
  refine ⟨_, _, sampleAccessToken, run, rfl, fun user => (revoked ⟨_, List.mem_singleton_self _, ?_⟩ user).1⟩
  rw [← hid]
  unfold Served.bumps
  decide +kernel

end CopyTrading
