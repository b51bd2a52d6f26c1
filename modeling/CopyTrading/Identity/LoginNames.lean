import CopyTrading.Identity.Environment
import CopyTrading.Identity.Registration
import CopyTrading.Transaction.Alone

/-!
Which user a login name finds. A name is looked up in two columns, and each column is unique
by itself; a user whose email is the username of another one makes the name ambiguous.
-/

namespace CopyTrading

open Transaction Transaction.Handler

/-! ### Ambiguous names -/

/-- No text is the email or the username of two users. -/
def Unambiguous (users : Table User) : Prop :=
  ∀ a ∈ users, ∀ b ∈ users, ∀ name, a.named name → b.named name → a = b

/-- The email of the user is nobody's username, and the username nobody's email. -/
def ApartFrom (users : Table User) (user : User) : Prop :=
  ∀ old ∈ users, user.email ≠ old.username ∧ user.username ≠ old.email

theorem User.named_iff {user : User} {name : String} :
    user.named name = true ↔ user.email = name ∨ user.username = name := by
  simp [User.named]

theorem unambiguous_empty : Unambiguous .empty := fun _ h => (List.not_mem_nil h).elim

/-- An insert keeps names unambiguous exactly when the new user is apart from the others. -/
theorem unambiguous_insert_iff {users users' : Table User} {user : User}
    (inserted : users.insert user = some users') :
    Unambiguous users' ↔ Unambiguous users ∧ ApartFrom users user := by
  have fresh : ∀ old ∈ users, ¬ Row.Conflict old user := fun old hold =>
    Table.fresh_of_insert inserted hold
  have kept : ∀ old ∈ users, old ∈ users' := fun old hold =>
    (Table.mem_insert inserted).mpr (.inl hold)
  have added : user ∈ users' := (Table.mem_insert inserted).mpr (.inr rfl)
  constructor
  · intro unambiguous
    have other : ∀ old ∈ users, ∀ name, old.named name → ¬ user.named name := by
      intro old hold name hname named
      obtain rfl := unambiguous old (kept old hold) user added name hname named
      exact fresh old hold (.inl rfl)
    constructor
    · intro a ha b hb
      exact unambiguous a (kept a ha) b (kept b hb)
    · intro old hold
      constructor
      · intro same
        exact other old hold user.email (User.named_iff.mpr (.inr same.symm))
          (User.named_iff.mpr (.inl rfl))
      · intro same
        exact other old hold user.username (User.named_iff.mpr (.inl same.symm))
          (User.named_iff.mpr (.inr rfl))
  · rintro ⟨unambiguous, apart⟩
    have other : ∀ old ∈ users, ∀ name, old.named name → ¬ user.named name := by
      intro old hold name hname named
      rcases User.named_iff.mp hname with email | username
      · rcases User.named_iff.mp named with email' | username'
        · exact fresh old hold (.inr (.inl (email.trans email'.symm)))
        · exact (apart old hold).2 (username'.trans email.symm)
      · rcases User.named_iff.mp named with email' | username'
        · exact (apart old hold).1 (email'.trans username.symm)
        · exact fresh old hold (.inr (.inr (username.trans username'.symm)))
    intro a ha b hb name hname hname'
    rcases (Table.mem_insert inserted).mp ha with ha | rfl
    · rcases (Table.mem_insert inserted).mp hb with hb | rfl
      · exact unambiguous a ha b hb name hname hname'
      · exact (other a ha name hname hname').elim
    · rcases (Table.mem_insert inserted).mp hb with hb | rfl
      · exact (other b hb name hname' hname).elim
      · rfl

/-! ### Runs of registrations -/

section

variable {ι : Type} [DecidableEq ι]

/-- The user an event creates is apart from those stored before. -/
def SeparatedBy : Event registration → Prop
  | .commit work before _ => ApartFrom before.users work.user
  | .read _ | .abort .. | .call .. => True

instance (users : Table User) (user : User) : Decidable (ApartFrom users user) :=
  inferInstanceAs (Decidable (∀ old ∈ users, _ ∧ _))

instance : DecidablePred SeparatedBy
  | .commit work before _ => inferInstanceAs (Decidable (ApartFrom before.users work.user))
  | .read _ | .abort .. | .call .. => .isTrue True.intro

theorem unambiguous_step_iff {e : Event registration} (sound : e.Sound registrationSemantics) :
    Unambiguous e.after.users ↔ Unambiguous e.before.users ∧ SeparatedBy e := by
  cases e with
  | read store => simp [SeparatedBy]
  | abort work store fault => simp [SeparatedBy]
  | call query answer before after =>
    have same : after = before := sound
    simp [SeparatedBy, same]
  | commit work before after =>
    have flushed : RegistrationStore.flush work before = .ok after := sound
    unfold RegistrationStore.flush at flushed
    split at flushed
    · next users inserted =>
      cases flushed
      exact unambiguous_insert_iff inserted
    · cases flushed

/-- Requests that start on committed users, each in a session of its own. -/
def registering (py : RegistrationPlatform) (requests : ι → RegistrationRequest py)
    (start : RegistrationStore) :
    Config registration fun _ : ι => Except RegistrationExc String × Unit where
  store := start
  client i := (requests i).handle py ()

theorem unambiguous_run_iff {α : ι → Type} {c₀ c : Config registration α}
    {trace : Trace registration ι} (run : Config.Run registrationSemantics c₀ trace c)
    (start : Unambiguous c₀.store.users) :
    Unambiguous c.store.users ↔ ∀ step ∈ trace, SeparatedBy step.2 := by
  induction run with
  | nil => exact iff_of_true start fun _ h => (List.not_mem_nil h).elim
  | @snoc trace c c' i e run step ih =>
    cases step with
    | @move program store step =>
      have moved := unambiguous_step_iff step.sound
      rw [step.before_eq, step.after_eq] at moved
      change Unambiguous store.users ↔ _
      rw [moved, ih, List.forall_mem_append, List.forall_mem_singleton]

end

/-! ### Logging in -/

/-- Whom a login lets in, a stored row of this name does. -/
theorem alone_authenticateUser {ι : Type} [DecidableEq ι] {py : IdentityPlatform}
    {name password : String} {mfaCode : Option String} {s : UserSession ι} {w : UserStore ι} :
    Alone (identitySemantics ι) (fun _ => True) (authenticateUser py name password mfaCode)
      (fun outcome _ _ => ∀ id, outcome = .ok (some id) →
        ∃ row ∈ w.users, row.named name ∧ row.id = id) s w := by
  unfold authenticateUser
  rw [alone_bind, alone_session, andThen_ok, alone_ask_bind]
  rintro (_ | row) after ⟨-, -, found⟩
  · exact ⟨True.intro, fun _ heq => nomatch heq⟩
  · refine ⟨True.intro, ?_⟩
    obtain ⟨stored, named⟩ := found
    -- what is returned from here on is the id of the row, or nobody
    have lets : ∀ id, (Except.ok (some row.id) : Except IdentityExc (Option String)) =
        .ok (some id) → ∃ row ∈ w.users, row.named name ∧ row.id = id := by
      rintro id heq
      cases heq
      exact ⟨row, stored, named, rfl⟩
    have nobody : ∀ id, (Except.ok none : Except IdentityExc (Option String)) =
        .ok (some id) → ∃ row ∈ w.users, row.named name ∧ row.id = id := nofun
    have raises : ∀ (raised : IdentityExc) id, (Except.error raised : Except IdentityExc
        (Option String)) = .ok (some id) → ∃ row ∈ w.users, row.named name ∧ row.id = id := nofun
    dsimp only
    unfold UserSession.hold
    rw [alone_bind, alone_bind, alone_modify, andThen_ok, alone_pure, andThen_ok]
    split
    · exact nobody
    · rw [alone_bind, alone_ofExcept]
      cases verifyPassword py password row.passwordHash with
      | error raised => exact raises raised
      | ok verified =>
        rw [andThen_ok]
        split
        · exact nobody
        · split
          · split
            · exact raises .mfaRequired
            · next code =>
              refine Alone.bind (.of_forall (fun _ _ _ => True.intro) _ _ _) ?_
                fun raised _ _ _ => raises raised
              intro verified s' w' _
              split
              · refine Alone.bind (.of_forall (fun _ _ _ => True.intro) _ _ _) ?_
                  fun raised _ _ _ => raises raised
                intro _ _ _ _
                exact lets
              · exact nobody
          · exact lets

/-- When a name is unambiguous, only the user of that name is let in by it. -/
theorem authenticateUser_names {κ : Type} [DecidableEq κ] {py : IdentityPlatform}
    {name password id : String} {mfaCode : Option String} {s s' : UserSession κ}
    {w w' : UserStore κ} {trace : List (Event (identity κ))} {user : User}
    (unambiguous : Unambiguous w.users) (stored : user ∈ w.users) (named : user.named name)
    (ran : Prog.Run (identitySemantics κ) (authenticateUser py name password mfaCode s) w trace
      (.done (.ok (some id), s')) w') : id = user.id := by
  obtain ⟨row, hrow, hnamed, hid⟩ := (ran.of_alone alone_authenticateUser).2 id rfl
  rw [← hid, unambiguous row hrow user stored name hnamed named]

/-! ### Two registrations -/

/-- Every text with an `@` is its own normal form. -/
def plainRegistration : RegistrationPlatform :=
  { plainIdentity with
    validateEmail := fun text => if '@' ∈ text.toList then some text else none }

def registrationScript : Script registration Bool where
  reply n _ store
    | .newUuid => ("id" ++ toString n, store)
    | .tokenBytes count => (List.replicate count 0, store)

theorem registrationScript_allowed : registrationScript.Allowed registrationSemantics := by
  intro n i store query _
  cases query <;> rfl

def sampleRegistration (email username : String) (valid : '@' ∈ email.toList)
    (length : 3 ≤ username.length ∧ username.length ≤ 80) :
    RegistrationRequest plainRegistration :=
  .register
    { email, username, password := "long enough password"
      email_valid := ⟨email, if_pos valid⟩
      username_length := length
      password_length := by decide }

/-- Two users with names of their own. -/
def apartRegistrations : Bool → RegistrationRequest plainRegistration
  | true => sampleRegistration "a@example.com" "first" (by decide) (by decide)
  | false => sampleRegistration "b@example.com" "second" (by decide) (by decide)

/-- The first user takes the email of the second one as username. -/
def crossedRegistrations : Bool → RegistrationRequest plainRegistration
  | true => sampleRegistration "a@example.com" "b@example.com" (by decide) (by decide)
  | false => sampleRegistration "b@example.com" "second" (by decide) (by decide)

/-- Where the two registrations lead, one after the other. -/
def registered (requests : Bool → RegistrationRequest plainRegistration) :
    Trace registration Bool ×
      Config registration fun _ : Bool => Except RegistrationExc String × Unit :=
  (registering plainRegistration requests { users := .empty }).replay registrationSemantics
    registrationScript 0 (List.replicate 6 true ++ List.replicate 6 false)

theorem registered_run (requests : Bool → RegistrationRequest plainRegistration) :
    Config.Run registrationSemantics
      (registering plainRegistration requests { users := .empty }) (registered requests).1
      (registered requests).2 :=
  Config.replay_reaches registrationScript_allowed _ _ _

/-- In every run of registrations and bootstraps, every text names at most one user exactly when
each user was apart from the others as it was created; and then a login by a user's email or
username lets in no other user. -/
theorem login_names_unambiguous_iff {ι : Type} [DecidableEq ι] {py : RegistrationPlatform}
    {requests : ι → RegistrationRequest py} {start : RegistrationStore}
    {trace : Trace registration ι}
    {c : Config registration fun _ : ι => Except RegistrationExc String × Unit}
    (fresh : Unambiguous start.users)
    (run : Config.Run registrationSemantics (registering py requests start) trace c) :
    (Unambiguous c.store.users ↔ ∀ step ∈ trace, SeparatedBy step.2) ∧
    ((∀ step ∈ trace, SeparatedBy step.2) →
      ∀ user ∈ c.store.users, ∀ name, user.named name →
      ∀ (κ : Type) [DecidableEq κ] (w w' : UserStore κ) (s s' : UserSession κ) password mfaCode id
        events, w.users = c.store.users →
        Prog.Run (identitySemantics κ)
          (authenticateUser py.toIdentityPlatform name password mfaCode s) w events
          (.done (.ok (some id), s')) w' → id = user.id) := by
  have iff : Unambiguous c.store.users ↔ ∀ step ∈ trace, SeparatedBy step.2 :=
    unambiguous_run_iff run fresh
  refine ⟨iff, ?_⟩
  intro separated user stored name named κ _ w w' s s' password mfaCode id events same ran
  rw [← same] at stored
  exact authenticateUser_names (same ▸ iff.mpr separated) stored named ran


theorem login_names_unambiguous_iff_apart :
    ∃ trace c, Config.Run registrationSemantics
        (registering plainRegistration apartRegistrations { users := .empty }) trace c ∧
      c.store.users.rows.length = 2 ∧ Unambiguous c.store.users := by
  refine ⟨_, _, registered_run apartRegistrations, by decide +kernel, ?_⟩
  refine (login_names_unambiguous_iff unambiguous_empty
    (registered_run apartRegistrations)).1.mpr ?_
  decide +kernel

/-- The users that the crossed registrations lead to, as a login finds them. -/
def crossedUsers : UserStore Unit := { users := (registered crossedRegistrations).2.store.users }

/-- The login by the email of the second user, with the password of the first. -/
def crossedLogin : Trace (identity Unit) Unit ×
    Config (identity Unit)
      fun _ : Unit => Except IdentityExc (Option String) × UserSession Unit :=
  Config.replay (identitySemantics Unit) identityScript 0 (List.replicate 10 ())
    ⟨crossedUsers, fun _ => authenticateUser plainIdentity "b@example.com" "long enough password"
      none { who := () }⟩

/-- The user a finished login lets in. -/
def letIn : Prog (identity Unit) (Except IdentityExc (Option String) × UserSession Unit) →
    Option String
  | .done (.ok found, _) => found
  | _ => none

theorem done_of_letIn {p : Prog (identity Unit)
      (Except IdentityExc (Option String) × UserSession Unit)} {id : String}
    (lets : letIn p = some id) : ∃ s, p = .done (.ok (some id), s) := by
  unfold letIn at lets
  split at lets
  · next found s =>
    subst lets
    exact ⟨s, rfl⟩
  · cases lets

/-- Both registrations are accepted, one text names two users, and a login by the email of the
second one lets the first one in. -/
theorem login_name_of_two_users :
    (∃ trace c, Config.Run registrationSemantics
        (registering plainRegistration crossedRegistrations { users := .empty }) trace c ∧
      c.store.users = crossedUsers.users) ∧
    ¬ Unambiguous crossedUsers.users ∧
    ∃ first ∈ crossedUsers.users, ∃ second ∈ crossedUsers.users,
      first.username = "b@example.com" ∧ second.email = "b@example.com" ∧
      first.id ≠ second.id ∧
      ∃ events s' w', Prog.Run (identitySemantics Unit)
        (authenticateUser plainIdentity "b@example.com" "long enough password" none { who := () })
        crossedUsers events (.done (.ok (some first.id), s')) w' := by
  obtain ⟨first, hfirst, second, hsecond, username, email, different, lets⟩ :
      ∃ first ∈ crossedUsers.users, ∃ second ∈ crossedUsers.users,
        first.username = "b@example.com" ∧ second.email = "b@example.com" ∧
        first.id ≠ second.id ∧ letIn (crossedLogin.2.client ()) = some first.id := by
    decide +kernel
  refine ⟨⟨_, _, registered_run crossedRegistrations, rfl⟩, ?_, first, hfirst, second, hsecond,
    username, email, different, ?_⟩
  · intro unambiguous
    refine different (congrArg User.id (unambiguous first hfirst second hsecond "b@example.com"
      (User.named_iff.mpr (.inr username)) (User.named_iff.mpr (.inl email))))
  · have ran : Prog.Run (identitySemantics Unit) _ _ _ (crossedLogin.2.client ()) _ :=
      (Config.replay_reaches identityScript_allowed (List.replicate 10 ()) 0 _).alone
    obtain ⟨s', done⟩ := done_of_letIn lets
    rw [done] at ran
    exact ⟨_, s', _, ran⟩

end CopyTrading
