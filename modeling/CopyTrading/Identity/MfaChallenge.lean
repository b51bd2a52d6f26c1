import CopyTrading.Identity.SingleUse
import CopyTrading.Fallible
import CopyTrading.Transaction.Alone

/-!
A single multi-factor challenge: what it comes to for every code, every user and every time,
which formattings of a recovery code it takes, and when it raises nothing.
-/

namespace CopyTrading

open Transaction Fallible

variable {ι : Type}

/-! ### A challenge at a moment -/

/-- The session of a user who has passed a challenge. -/
def UserSession.passing (s : UserSession ι) (userId : String) (change : User → User)
    (logs : List UserAuditLog) (factor : MfaFactor) : UserSession ι :=
  { s with
    user := s.user.map fun (loaded, current) => (loaded, change current)
    auditLogs := s.auditLogs ++ logs
    verified := s.verified ++ [(userId, factor)] }

def recoveryCodeLog (userId : String) (remaining : Nat) : UserAuditLog where
  userId := userId
  action := "user.mfa.recovery_code.used"
  severity := "WARNING"
  payload := [("user_id", .str userId), ("remaining_recovery_codes", .int remaining)]

section

variable (py : IdentityPlatform)

/-- What a code is looked up by among the stored hashes. -/
def candidateHash (code : String) : String :=
  hashRecoveryCode py (normalizeRecoveryCode py code)

/-- A code that is compared with the stored hashes. -/
def recoveryAnswer (user : User) (code : String) (s : UserSession ι) :
    Except IdentityExc Bool × UserSession ι :=
  match remainingHashes (candidateHash py code) user.mfaRecoveryCodeHashes with
  | .error raised => (.error raised, s)
  | .ok remaining =>
    if remaining.length = user.mfaRecoveryCodeHashes.length then (.ok false, s)
    else
      (.ok true, s.passing user.id (fun user => { user with mfaRecoveryCodeHashes := remaining })
        [recoveryCodeLog user.id remaining.length] (.recoveryCode (candidateHash py code)))

def stepAt (moment : Instant) : Int := timestampSeconds moment / totpIntervalSeconds

/-- A code of six digits at a moment. -/
def totpAnswer (user : User) (secret code : String) (moment : Instant) (s : UserSession ι) :
    Except IdentityExc Bool × UserSession ι :=
  match firstMatch py secret code user.mfaLastUsedStep (stepAt moment) [-1, 0, 1] with
  | .error raised => (.error raised, s)
  | .ok none => (.ok false, s)
  | .ok (some step) =>
    (.ok true, s.passing user.id (fun user => { user with mfaLastUsedStep := some step }) []
      (.totpStep step))

/-- A code of digits. -/
def digitsAnswer (user : User) (encrypted code : String) (moment : Instant) (s : UserSession ι) :
    Except IdentityExc Bool × UserSession ι :=
  match py.decryptSecret encrypted with
  | none => (.error .invalidToken, s)
  | some secret =>
    if code.length = 6 then totpAnswer py user secret code moment s else (.ok false, s)

/-- What the challenge of a user comes to. -/
def challengeAnswer (user : User) (code : String) (moment : Instant) (s : UserSession ι) :
    Except IdentityExc Bool × UserSession ι :=
  match user.mfaEnabled, user.mfaSecretEncrypted with
  | true, some encrypted =>
    if isDigits py code then digitsAnswer py user encrypted code moment s
    else recoveryAnswer py user code s
  | _, _ => (.ok false, s)

end

variable {py : IdentityPlatform}

theorem useRecoveryCode_eq (user : User) (code : String) (s : UserSession ι) :
    useRecoveryCode py user code s = .done (recoveryAnswer py user code s) := by
  unfold useRecoveryCode recoveryAnswer candidateHash
  cases remainingHashes (hashRecoveryCode py (normalizeRecoveryCode py code))
      user.mfaRecoveryCodeHashes with
  | error raised => rfl
  | ok remaining =>
    dsimp only [Handler.ofExcept, bind, Handler.bind, Prog.bind]
    by_cases same : remaining.length = user.mfaRecoveryCodeHashes.length
    · rw [if_pos same, if_pos same]
      rfl
    · rw [if_neg same, if_neg same]
      rfl

theorem foundStep_eq {secret code : String} (user : User) (moment : Instant) (s : UserSession ι) :
    ((do
      match ← (Handler.ofExcept (firstMatch py secret code user.mfaLastUsedStep
          (stepAt moment) [-1, 0, 1]) : UserService ι _) with
      | none => return false
      | some matchedStep =>
        UserSession.set fun user => { user with mfaLastUsedStep := some matchedStep }
        UserSession.verify user.id (.totpStep matchedStep)
        return true) : UserService ι Bool) s =
      .done (totpAnswer py user secret code moment s) := by
  unfold totpAnswer
  cases firstMatch py secret code user.mfaLastUsedStep (stepAt moment) [-1, 0, 1] with
  | error raised => rfl
  | ok found =>
    cases found with
    | none => rfl
    | some step =>
      unfold UserSession.passing
      rw [List.append_nil]
      rfl

/-- The clock is read when no time is given. -/
theorem useTotp_eq {secret encrypted code : String} (user : User) (now : Option Instant)
    (s : UserSession ι) (decrypts : py.decryptSecret encrypted = some secret)
    (digits : isDigits py code = true) :
    useTotp py user encrypted code now s =
      if code.length = 6 then
        match now with
        | some moment => .done (totpAnswer py user secret code moment s)
        | none => .call .utcNow fun moment => .done (totpAnswer py user secret code moment s)
      else .done (.ok false, s) := by
  unfold useTotp decryptMfaSecret matchTotp
  rw [decrypts]
  dsimp only
  rw [pure_bind]
  by_cases six : code.length = 6
  · rw [if_pos six, if_neg (by simp [six, digits])]
    cases now with
    | some moment =>
      dsimp only
      rw [pure_bind]
      exact foundStep_eq user moment s
    | none =>
      dsimp only
      rw [bind_assoc]
      exact congrArg (Prog.call (I := identity ι) .utcNow)
        (funext fun moment => foundStep_eq user moment s)
  · rw [if_neg six, if_pos (.inl six)]
    rfl

/-- A challenge ends at once, or reads the clock once before. -/
theorem verifyMfaChallenge_eq {loaded user : User} {s : UserSession ι} (id code : String)
    (now : Option Instant) (held : s.user = some (loaded, user)) :
    (∃ answer, verifyMfaChallenge py id code now s = .done answer ∧
      ∀ moment, (∀ given ∈ now, given = moment) → answer = challengeAnswer py user code moment s) ∨
    (now = none ∧ verifyMfaChallenge py id code now s =
      .call .utcNow fun moment => .done (challengeAnswer py user code moment s)) := by
  have holds : verifyMfaChallenge py id code now s =
      (match user.mfaEnabled, user.mfaSecretEncrypted with
        | true, some encrypted =>
          if isDigits py code then useTotp py user encrypted code now
          else useRecoveryCode py user code
        | _, _ => return false : UserService ι Bool) s := by
    unfold verifyMfaChallenge
    rw [UserSession.current]
    dsimp only [Handler.session, bind, Handler.bind, Prog.bind]
    rw [held]
    rfl
  rw [holds]
  unfold challengeAnswer
  cases user.mfaEnabled with
  | false => exact .inl ⟨_, rfl, fun _ _ => rfl⟩
  | true =>
    cases user.mfaSecretEncrypted with
    | none => exact .inl ⟨_, rfl, fun _ _ => rfl⟩
    | some encrypted =>
      dsimp only
      by_cases digits : isDigits py code = true
      · rw [if_pos digits]
        simp only [if_pos digits, digitsAnswer]
        cases decrypts : py.decryptSecret encrypted with
        | none =>
          have raised : useTotp py user encrypted code now s =
              .done (.error IdentityExc.invalidToken, s) := by
            unfold useTotp decryptMfaSecret
            rw [decrypts]
            rfl
          exact .inl ⟨_, raised, fun _ _ => rfl⟩
        | some secret =>
          rw [useTotp_eq user now s decrypts digits]
          dsimp only
          by_cases six : code.length = 6
          · simp only [if_pos six]
            cases now with
            | none => exact .inr ⟨rfl, rfl⟩
            | some moment =>
              refine .inl ⟨_, rfl, fun other given => ?_⟩
              rw [given moment rfl]
          · simp only [if_neg six]
            exact .inl ⟨_, rfl, fun _ _ => rfl⟩
      · rw [if_neg digits, useRecoveryCode_eq]
        simp only [if_neg digits]
        exact .inl ⟨_, rfl, fun _ _ => rfl⟩

/-- The clock shows the moment whenever it is read. -/
def ShowsTime (moment : Instant) : Event (identity ι) → Prop
  | .call .utcNow now _ _ => now = moment
  | _ => True

/-- Run to its end at the moment, the challenge of a code can come to this. -/
def ChallengeEnds [DecidableEq ι] (py : IdentityPlatform) (id code : String) (moment : Instant)
    (s : UserSession ι) (ends : Except IdentityExc Bool × UserSession ι) : Prop :=
  ∃ now trace store store', (∀ given ∈ now, given = moment) ∧
    Prog.Run (identitySemantics ι) (verifyMfaChallenge py id code now s) store trace (.done ends)
      store' ∧ ∀ e ∈ trace, ShowsTime moment e

theorem challengeEnds_iff [DecidableEq ι] {loaded user : User} {s : UserSession ι}
    (id code : String) (moment : Instant) (held : s.user = some (loaded, user))
    (ends : Except IdentityExc Bool × UserSession ι) :
    ChallengeEnds py id code moment s ends ↔ ends = challengeAnswer py user code moment s := by
  constructor
  · rintro ⟨now, trace, store, store', given, run, shows⟩
    rcases verifyMfaChallenge_eq id code now held with ⟨answer, once, is⟩ | ⟨-, asks⟩
    · rw [once] at run
      rcases run.first with ⟨-, done, -⟩ | ⟨_, _, _, _, _, step, _⟩
      · rw [← is moment given]
        exact Prog.done.inj done
      · cases step
    · rw [asks] at run
      obtain ⟨read, mid, rest, rfl, -, run⟩ := run.split_call
      have reads : read = moment := shows _ List.mem_cons_self
      rw [reads] at run
      rcases run.first with ⟨-, done, -⟩ | ⟨_, _, _, _, _, step, _⟩
      · exact Prog.done.inj done
      · cases step
  · rintro rfl
    have given : ∀ given ∈ (none : Option Instant), given = moment := by simp
    obtain ⟨store⟩ : Nonempty (UserStore ι) := ⟨{ users := Table.empty }⟩
    rcases @verifyMfaChallenge_eq ι py loaded user s id code none held with
      ⟨answer, once, is⟩ | ⟨-, asks⟩
    · have run : Prog.Run (identitySemantics ι) (verifyMfaChallenge py id code none s) store []
          (.done (challengeAnswer py user code moment s)) store := by
        rw [once, is moment given]
        exact .nil
      exact ⟨none, [], store, store, given, run, by simp⟩
    · have answered : (identitySemantics ι).Answers store .utcNow moment store := rfl
      have run : Prog.Run (identitySemantics ι) (verifyMfaChallenge py id code none s) store
          ([] ++ [.call .utcNow moment store store])
          (.done (challengeAnswer py user code moment s)) store := by
        rw [asks]
        exact .snoc .nil (.call answered)
      exact ⟨none, _, store, store, given, run, by simp [ShowsTime]⟩

/-! ### Challenges that raise nothing -/

/-- Digests are hexadecimal and one-time codes are ASCII digits. -/
structure AsciiDigests (py : IdentityPlatform) : Prop where
  digests : ∀ bytes, isAscii (py.hexDigest bytes) = true
  codes : ∀ secret seconds expected, py.totpAt secret seconds = some expected →
    isAscii expected = true

/-- A later step near the current one was used, or one stored hash was removed. -/
def UsesFactor (user : User) (moment : Instant) (user' : User) : Prop :=
  (∃ step, (∀ last ∈ user.mfaLastUsedStep, last < step) ∧ |step - stepAt moment| ≤ 1 ∧
    user' = { user with mfaLastUsedStep := some step }) ∨
  ∃ first codeHash rest, user.mfaRecoveryCodeHashes = first ++ codeHash :: rest ∧
    user' = { user with mfaRecoveryCodeHashes := first ++ rest }

/-- The challenge was answered: nothing changed on `False`, one factor was used on `True`. -/
def EndsClean (loaded user : User) (moment : Instant) (s : UserSession ι) :
    Except IdentityExc Bool × UserSession ι → Prop
  | (.error _, _) => False
  | (.ok false, s') => s' = s
  | (.ok true, s') => ∃ user', UsesFactor user moment user' ∧ s'.user = some (loaded, user')

/-- The challenge ends, and however it ends it was answered. -/
def CleanChallenge [DecidableEq ι] (py : IdentityPlatform) (loaded user : User) (code : String)
    (moment : Instant) (s : UserSession ι) : Prop :=
  (∃ ends, ChallengeEnds py user.id code moment s ends) ∧
    ∀ ends, ChallengeEnds py user.id code moment s ends → EndsClean loaded user moment s ends

/-- The steps of the window that are later than the last used one. -/
def openSteps (lastUsedStep : Option Int) (currentStep : Int) (offsets : List Int) : List Int :=
  (offsets.map (currentStep + ·)).filter fun step => !lastUsedStep.any (step ≤ ·)

/-- Whatever step is tried gives a code, and one that the input can be compared with. -/
def Comparable (py : IdentityPlatform) (secret code : String) (steps : List Int) : Prop :=
  ∀ before step after, steps = before ++ step :: after →
    (∀ earlier ∈ before, py.totpAt secret (earlier * totpIntervalSeconds) ≠ some code) →
    isAscii code = true ∧ (py.totpAt secret (step * totpIntervalSeconds)).isSome = true

/-- What the challenge compares can be compared, and no stored hash stands twice. -/
def AnswersCleanly (py : IdentityPlatform) (user : User) (code : String) (moment : Instant) : Prop :=
  ∀ encrypted ∈ user.mfaSecretEncrypted,
    if isDigits py code then
      ∃ secret, py.decryptSecret encrypted = some secret ∧
        (code.length = 6 →
          Comparable py secret code (openSteps user.mfaLastUsedStep (stepAt moment) [-1, 0, 1]))
    else
      (∀ storedHash ∈ user.mfaRecoveryCodeHashes, isAscii storedHash = true) ∧
        user.mfaRecoveryCodeHashes.count (candidateHash py code) ≤ 1

theorem mem_openSteps {lastUsedStep : Option Int} {currentStep step : Int} {offsets : List Int} :
    step ∈ openSteps lastUsedStep currentStep offsets ↔
      (∃ offset ∈ offsets, currentStep + offset = step) ∧ ∀ last ∈ lastUsedStep, last < step := by
  unfold openSteps
  rw [List.mem_filter, List.mem_map]
  cases lastUsedStep with
  | none => simp
  | some last => simp

/-- The search goes through the open steps. -/
theorem firstMatch_cases (py : IdentityPlatform) (secret code : String)
    (lastUsedStep : Option Int) (currentStep offset : Int) (rest : List Int) :
    (openSteps lastUsedStep currentStep (offset :: rest) =
        openSteps lastUsedStep currentStep rest ∧
      firstMatch py secret code lastUsedStep currentStep (offset :: rest) =
        firstMatch py secret code lastUsedStep currentStep rest) ∨
    (openSteps lastUsedStep currentStep (offset :: rest) =
        (currentStep + offset) :: openSteps lastUsedStep currentStep rest ∧
      firstMatch py secret code lastUsedStep currentStep (offset :: rest) =
        match py.totpAt secret ((currentStep + offset) * totpIntervalSeconds) with
        | none => .error .valueError
        | some expected => do
          if ← compareDigest expected code then return some (currentStep + offset)
          else firstMatch py secret code lastUsedStep currentStep rest) := by
  unfold openSteps
  rw [List.map_cons, firstMatch]
  by_cases used : lastUsedStep.any (currentStep + offset ≤ ·) = true
  · rw [if_pos used, List.filter_cons_of_neg (by simpa using used)]
    exact .inl ⟨rfl, rfl⟩
  · rw [if_neg used, List.filter_cons_of_pos (by simpa using used)]
    exact .inr ⟨rfl, rfl⟩

theorem comparable_cons {secret code : String} {step : Int} {rest : List Int} :
    Comparable py secret code (step :: rest) ↔
      (isAscii code = true ∧ (py.totpAt secret (step * totpIntervalSeconds)).isSome = true) ∧
        (py.totpAt secret (step * totpIntervalSeconds) ≠ some code →
          Comparable py secret code rest) := by
  constructor
  · intro comparable
    refine ⟨comparable [] step rest rfl (by simp), fun other before tried after split skipped => ?_⟩
    refine comparable (step :: before) tried after (by rw [split, List.cons_append]) ?_
    exact List.forall_mem_cons.mpr ⟨other, skipped⟩
  · rintro ⟨here, later⟩ before tried after split skipped
    cases before with
    | nil =>
      obtain ⟨rfl, -⟩ := List.cons.inj split
      exact here
    | cons first before =>
      obtain ⟨rfl, tail⟩ := List.cons.inj split
      obtain ⟨other, skipped⟩ := List.forall_mem_cons.mp skipped
      exact later other before tried after tail skipped

/-- The search raises nothing exactly when what it tries can be compared. -/
theorem firstMatch_ok_iff (ascii : AsciiDigests py) {secret code : String}
    {lastUsedStep : Option Int} {currentStep : Int} (offsets : List Int) :
    (∃ found, firstMatch py secret code lastUsedStep currentStep offsets = .ok found) ↔
      Comparable py secret code (openSteps lastUsedStep currentStep offsets) := by
  induction offsets with
  | nil =>
    refine iff_of_true ⟨none, rfl⟩ fun before step after split => ?_
    simp [openSteps] at split
  | cons offset rest ih =>
    rcases firstMatch_cases py secret code lastUsedStep currentStep offset rest with
      ⟨steps, search⟩ | ⟨steps, search⟩
    · rw [steps, search]
      exact ih
    · rw [steps, search, comparable_cons, ← ih]
      cases gives : py.totpAt secret ((currentStep + offset) * totpIntervalSeconds) with
      | none => simp
      | some expected =>
        have expectedAscii := ascii.codes _ _ _ gives
        by_cases codeAscii : isAscii code = true
        · by_cases same : expected = code
          · simp [compareDigest, same, codeAscii, bind, Except.bind, pure, Except.pure]
          · simp [compareDigest, same, codeAscii, expectedAscii, bind, Except.bind]
        · simp [compareDigest, codeAscii, bind, Except.bind]

/-- A step that is found is an open one. -/
theorem mem_openSteps_of_found {secret code : String} {lastUsedStep : Option Int}
    {currentStep step : Int} {offsets : List Int}
    (found : firstMatch py secret code lastUsedStep currentStep offsets = .ok (some step)) :
    step ∈ openSteps lastUsedStep currentStep offsets := by
  induction offsets with
  | nil => simp [firstMatch] at found
  | cons offset rest ih =>
    rcases firstMatch_cases py secret code lastUsedStep currentStep offset rest with
      ⟨steps, search⟩ | ⟨steps, search⟩
    · rw [steps]
      exact ih (search ▸ found)
    · rw [steps]
      rw [search] at found
      split at found
      · cases found
      · obtain ⟨same, -, found⟩ := bind_eq_ok.mp found
        cases same with
        | true =>
          obtain rfl := Option.some.inj (Except.ok.inj found)
          exact List.mem_cons_self
        | false => exact List.mem_cons_of_mem _ (ih found)

theorem near_of_mem_openSteps {lastUsedStep : Option Int} {currentStep step : Int}
    (is_open : step ∈ openSteps lastUsedStep currentStep [-1, 0, 1]) :
    |step - currentStep| ≤ 1 := by
  obtain ⟨⟨offset, window, rfl⟩, -⟩ := mem_openSteps.mp is_open
  rw [add_sub_cancel_left]
  simp only [List.mem_cons, List.not_mem_nil, or_false] at window
  rcases window with rfl | rfl | rfl
  · simp
  · simp
  · simp

theorem totpAnswer_clean_iff (ascii : AsciiDigests py) {loaded user : User} {s : UserSession ι}
    {secret code : String} {moment : Instant} (held : s.user = some (loaded, user)) :
    EndsClean loaded user moment s (totpAnswer py user secret code moment s) ↔
      Comparable py secret code (openSteps user.mfaLastUsedStep (stepAt moment) [-1, 0, 1]) := by
  rw [← firstMatch_ok_iff ascii]
  unfold totpAnswer
  cases search : firstMatch py secret code user.mfaLastUsedStep (stepAt moment) [-1, 0, 1] with
  | error raised => exact ⟨False.elim, fun ⟨_, found⟩ => (nomatch found)⟩
  | ok found =>
    refine iff_of_true ?_ ⟨found, rfl⟩
    cases found with
    | none => exact rfl
    | some step =>
      have is_open := mem_openSteps_of_found search
      refine ⟨_, .inl ⟨step, (mem_openSteps.mp is_open).2, near_of_mem_openSteps is_open, rfl⟩, ?_⟩
      rw [UserSession.passing, held]
      rfl

/-! ### Recovery codes -/

theorem remainingHashes_ok_iff {candidate : String} (ascii : isAscii candidate = true)
    (hashes : List String) :
    (∃ remaining, remainingHashes candidate hashes = .ok remaining) ↔
      ∀ storedHash ∈ hashes, isAscii storedHash = true := by
  induction hashes with
  | nil => exact iff_of_true ⟨[], rfl⟩ (by simp)
  | cons storedHash rest ih =>
    rw [List.forall_mem_cons, ← ih, remainingHashes, compareDigest, ascii, Bool.and_true]
    by_cases here : isAscii storedHash = true
    · rw [if_pos here, ok_bind]
      constructor
      · rintro ⟨remaining, checked⟩
        obtain ⟨others, hothers, -⟩ := bind_eq_ok.mp checked
        exact ⟨here, others, hothers⟩
      · rintro ⟨-, others, hothers⟩
        rw [hothers, ok_bind]
        exact ⟨_, rfl⟩
    · rw [if_neg here]
      constructor
      · rintro ⟨_, ⟨⟩⟩
      · rintro ⟨ascii, -⟩
        exact absurd ascii here

theorem length_eq_count_add (candidate : String) (hashes : List String) :
    hashes.length = hashes.count candidate + (hashes.filter (· ≠ candidate)).length := by
  rw [List.count, ← List.countP_eq_length_filter, List.length_eq_countP_add_countP (· == candidate)]
  simp

/-- Removing every copy of a stored hash removes one when there is one. -/
theorem filter_removes_one_iff {candidate : String} {hashes : List String}
    (stored : candidate ∈ hashes) :
    (∃ first codeHash rest, hashes = first ++ codeHash :: rest ∧
      hashes.filter (· ≠ candidate) = first ++ rest) ↔ hashes.count candidate ≤ 1 := by
  constructor
  · rintro ⟨first, codeHash, rest, split, kept⟩
    have lengths := length_eq_count_add candidate hashes
    rw [kept, split] at lengths
    simp only [List.length_append, List.length_cons] at lengths
    rw [split]
    omega
  · intro once
    obtain ⟨first, rest, rfl⟩ := List.append_of_mem stored
    rw [List.count_append, List.count_cons_self] at once
    have inFirst : candidate ∉ first := List.count_eq_zero.mp (by omega)
    have inRest : candidate ∉ rest := List.count_eq_zero.mp (by omega)
    have kept {hashes : List String} (absent : candidate ∉ hashes) :
        hashes.filter (· ≠ candidate) = hashes := by
      refine List.filter_eq_self.mpr fun storedHash mem => decide_eq_true ?_
      rintro rfl
      exact absent mem
    refine ⟨first, candidate, rest, rfl, ?_⟩
    rw [List.filter_append, List.filter_cons_of_neg (by simp), kept inFirst, kept inRest]

theorem recoveryAnswer_clean_iff (ascii : AsciiDigests py) {loaded user : User}
    {s : UserSession ι} {code : String} {moment : Instant} (held : s.user = some (loaded, user)) :
    EndsClean loaded user moment s (recoveryAnswer py user code s) ↔
      (∀ storedHash ∈ user.mfaRecoveryCodeHashes, isAscii storedHash = true) ∧
        user.mfaRecoveryCodeHashes.count (candidateHash py code) ≤ 1 := by
  have candidateAscii : isAscii (candidateHash py code) = true := ascii.digests _
  rw [← remainingHashes_ok_iff candidateAscii]
  unfold recoveryAnswer
  cases checked : remainingHashes (candidateHash py code) user.mfaRecoveryCodeHashes with
  | error raised => exact ⟨False.elim, fun ⟨⟨_, found⟩, _⟩ => (nomatch found)⟩
  | ok remaining =>
    have kept := remainingHashes_eq checked
    have lengths := length_eq_count_add (candidateHash py code) user.mfaRecoveryCodeHashes
    rw [← kept] at lengths
    dsimp only
    by_cases same : remaining.length = user.mfaRecoveryCodeHashes.length
    · rw [if_pos same]
      exact iff_of_true rfl ⟨⟨_, rfl⟩, by omega⟩
    · have stored : candidateHash py code ∈ user.mfaRecoveryCodeHashes :=
        mem_of_remaining (kept ▸ same)
      rw [if_neg same, ← filter_removes_one_iff stored, ← kept]
      have after : (s.passing user.id (fun user => { user with mfaRecoveryCodeHashes := remaining })
          [recoveryCodeLog user.id remaining.length]
          (.recoveryCode (candidateHash py code))).user =
            some (loaded, { user with mfaRecoveryCodeHashes := remaining }) := by
        rw [UserSession.passing, held]
        rfl
      constructor
      · rintro ⟨user', uses, is⟩
        obtain rfl : { user with mfaRecoveryCodeHashes := remaining } = user' := by
          rw [after] at is
          exact (Prod.ext_iff.mp (Option.some.inj is)).2
        refine ⟨⟨_, rfl⟩, ?_⟩
        rcases uses with ⟨step, -, -, is⟩ | ⟨first, codeHash, rest, split, is⟩
        · have hashes := congrArg User.mfaRecoveryCodeHashes is
          exact absurd (congrArg List.length hashes) same
        · exact ⟨first, codeHash, rest, split, congrArg User.mfaRecoveryCodeHashes is⟩
      · rintro ⟨-, first, codeHash, rest, split, is⟩
        exact ⟨_, .inr ⟨first, codeHash, rest, split, by rw [is]⟩, after⟩

/-! ### When a challenge is answered -/

/-- A challenge is answered, with nothing changed on `False` and one factor used on `True`,
exactly when whatever it compares can be compared. -/
theorem challenge_clean_iff [DecidableEq ι] (ascii : AsciiDigests py) {loaded user : User}
    {s : UserSession ι} (held : s.user = some (loaded, user)) (enabled : user.mfaEnabled = true)
    (code : String) (moment : Instant) :
    CleanChallenge py loaded user code moment s ↔ AnswersCleanly py user code moment := by
  have ends (ends : Except IdentityExc Bool × UserSession ι) :
      ChallengeEnds py user.id code moment s ends ↔
        ends = challengeAnswer py user code moment s :=
    challengeEnds_iff user.id code moment held ends
  have clean : CleanChallenge py loaded user code moment s ↔
      EndsClean loaded user moment s (challengeAnswer py user code moment s) := by
    constructor
    · rintro ⟨-, clean⟩
      exact clean _ ((ends _).mpr rfl)
    · intro clean
      refine ⟨⟨_, (ends _).mpr rfl⟩, fun other ended => ?_⟩
      rw [(ends other).mp ended]
      exact clean
  rw [clean]
  unfold challengeAnswer AnswersCleanly
  rw [enabled]
  cases user.mfaSecretEncrypted with
  | none => exact iff_of_true rfl (by simp)
  | some encrypted =>
    simp only [Option.mem_some_iff, forall_eq']
    by_cases digits : isDigits py code = true
    · rw [if_pos digits, if_pos digits]
      unfold digitsAnswer
      cases decrypts : py.decryptSecret encrypted with
      | none => exact ⟨False.elim, fun ⟨_, decrypted, _⟩ => (nomatch decrypted)⟩
      | some secret =>
        simp only [Option.some.injEq, exists_eq_left']
        by_cases six : code.length = 6
        · rw [if_pos six, totpAnswer_clean_iff ascii held]
          simp [six]
        · rw [if_neg six]
          exact iff_of_true rfl fun is => absurd is six
    · rw [if_neg digits, if_neg digits]
      exact recoveryAnswer_clean_iff ascii held

theorem plainIdentity_asciiDigests : AsciiDigests plainIdentity where
  digests _ := by
    change isAscii "00" = true
    decide
  codes _ _ _ gives := by
    obtain rfl := Option.some.inj gives
    decide

/-- The session of a request of the sample user. -/
def sampleSession : UserSession Unit := { who := (), user := some (sampleUser, sampleUser) }

theorem challenge_clean_iff_oneTimeCode :
    CleanChallenge plainIdentity sampleUser sampleUser "000000" 60000000 sampleSession := by
  refine (challenge_clean_iff plainIdentity_asciiDigests rfl rfl "000000" 60000000).mpr ?_
  rintro encrypted -
  rw [if_pos (by decide)]
  exact ⟨encrypted, rfl, fun _ _ _ _ _ _ => ⟨by decide, rfl⟩⟩

/-- `str.isdigit` also takes the digits of other scripts. -/
def unicodeIdentity : IdentityPlatform :=
  { plainIdentity with isDigit := fun c => c.isDigit || ('\u0660' ≤ c && c ≤ '\u0669') }

/-- Six Arabic-Indic digits are compared with the expected code, which raises. -/
theorem arabic_digits_raise :
    ¬ CleanChallenge unicodeIdentity sampleUser sampleUser
      "\u0661\u0662\u0663\u0664\u0665\u0666" 60000000 sampleSession := by
  rintro ⟨-, clean⟩
  have raised : challengeAnswer unicodeIdentity sampleUser
      "\u0661\u0662\u0663\u0664\u0665\u0666" 60000000 sampleSession =
        (.error .typeError, sampleSession) := by
    rfl
  have ended := (challengeEnds_iff sampleUser.id _ 60000000 rfl _).mpr raised.symm
  exact clean _ ended

end CopyTrading
