import CopyTrading.Identity.Environment

/-!
Single use of MFA codes over interleaved login and disable requests. A factor that was used
is spent: the row a request verifies it against no longer accepts it. Login locks the row it
checks; `disable_mfa` checks a row that others may have changed since it was loaded, so it is
single use as long as it commits over what it loaded.
-/

namespace CopyTrading

open Transaction Handler

variable {ι : Type} [DecidableEq ι] {py : IdentityPlatform}

/-! ### Spent factors -/

/-- The user's row accepts the factor no more. -/
def Spent (user : User) (factor : MfaFactor) : Prop :=
  user.mfaEnabled = true →
    match factor with
    | .totpStep step => ∃ last, user.mfaLastUsedStep = some last ∧ step ≤ last
    | .recoveryCode codeHash => codeHash ∉ user.mfaRecoveryCodeHashes

/-- Two rows with the same anti-replay state. -/
structure SameMfa (a b : User) : Prop where
  enabled : a.mfaEnabled = b.mfaEnabled
  lastUsedStep : a.mfaLastUsedStep = b.mfaLastUsedStep
  recoveryCodeHashes : a.mfaRecoveryCodeHashes = b.mfaRecoveryCodeHashes

theorem SameMfa.refl (user : User) : SameMfa user user := ⟨rfl, rfl, rfl⟩

theorem SameMfa.symm {a b : User} (same : SameMfa a b) : SameMfa b a :=
  ⟨same.enabled.symm, same.lastUsedStep.symm, same.recoveryCodeHashes.symm⟩

theorem SameMfa.spent {a b : User} (same : SameMfa a b) {factor : MfaFactor}
    (spent : Spent a factor) : Spent b factor := by
  unfold Spent at spent ⊢
  rw [← same.enabled, ← same.lastUsedStep, ← same.recoveryCodeHashes]
  exact spent

/-- From `before` to `after` the factor is used up, and nothing becomes usable again. -/
structure Spends (before after : User) (factor : MfaFactor) : Prop where
  id : after.id = before.id
  fresh : ¬ Spent before factor
  spent : Spent after factor
  kept : ∀ other, Spent before other → Spent after other

theorem spent_withoutMfa (user : User) (factor : MfaFactor) : Spent user.withoutMfa factor :=
  fun enabled => absurd enabled (by simp [User.withoutMfa])

theorem Spends.withoutMfa {before after : User} {factor : MfaFactor}
    (spends : Spends before after factor) : Spends before after.withoutMfa factor where
  id := spends.id
  fresh := spends.fresh
  spent := spent_withoutMfa after factor
  kept other _ := spent_withoutMfa after other

theorem spends_totpStep {user : User} {step : Int} (enabled : user.mfaEnabled = true)
    (later : ∀ last ∈ user.mfaLastUsedStep, last < step) :
    Spends user { user with mfaLastUsedStep := some step } (.totpStep step) where
  id := rfl
  fresh spent := by
    obtain ⟨last, hlast, le⟩ := spent enabled
    exact absurd (later last hlast) (not_lt.mpr le)
  spent _ := ⟨step, rfl, le_refl step⟩
  kept other spent _ := by
    have old := spent enabled
    cases other with
    | totpStep used =>
      obtain ⟨last, hlast, le⟩ := old
      exact ⟨step, rfl, le.trans (later last hlast).le⟩
    | recoveryCode codeHash => exact old

theorem spends_recoveryCode {user : User} {codeHash : String} {remaining : List String}
    (enabled : user.mfaEnabled = true) (stored : codeHash ∈ user.mfaRecoveryCodeHashes)
    (hremaining : remaining = user.mfaRecoveryCodeHashes.filter (· ≠ codeHash)) :
    Spends user { user with mfaRecoveryCodeHashes := remaining } (.recoveryCode codeHash) where
  id := rfl
  fresh spent := spent enabled stored
  spent _ := by
    rw [hremaining]
    simp
  kept other spent _ := by
    have old := spent enabled
    cases other with
    | totpStep used => exact old
    | recoveryCode other =>
      rw [hremaining]
      exact fun mem => old (List.mem_of_mem_filter mem)

theorem remainingHashes_eq {candidateHash : String} {hashes remaining : List String}
    (checked : remainingHashes candidateHash hashes = .ok remaining) :
    remaining = hashes.filter (· ≠ candidateHash) := by
  induction hashes generalizing remaining with
  | nil =>
    cases checked
    rfl
  | cons storedHash rest ih =>
    rw [remainingHashes] at checked
    cases hcompare : compareDigest storedHash candidateHash with
    | error raised => simp [hcompare, bind, Except.bind] at checked
    | ok same =>
      cases hrest : remainingHashes candidateHash rest with
      | error raised => simp [hcompare, hrest, bind, Except.bind] at checked
      | ok others =>
        simp only [hcompare, hrest, bind, Except.bind, pure, Except.pure, Except.ok.injEq] at checked
        have hsame : same = (storedHash == candidateHash) := by
          unfold compareDigest at hcompare
          split at hcompare
          · exact (Except.ok.inj hcompare).symm
          · cases hcompare
        rw [← checked, ih hrest, hsame]
        by_cases heq : storedHash = candidateHash
        · simp [heq]
        · simp [heq]

theorem mem_of_remaining {candidateHash : String} {hashes : List String}
    (shorter : (hashes.filter (· ≠ candidateHash)).length ≠ hashes.length) :
    candidateHash ∈ hashes := by
  by_contra absent
  refine shorter (congrArg List.length (List.filter_eq_self.mpr fun storedHash mem => ?_))
  simp only [ne_eq, decide_not, Bool.not_eq_true', decide_eq_false_iff_not]
  rintro rfl
  exact absent mem

/-! ### The protocol of a request -/

/-- What a request has done: nothing yet, loaded its user, or ended its transaction. -/
inductive MfaPhase where
  | idle
  | holding (row : User)
  | ended

/-- The transaction of a request that passed a challenge on the row it loaded. -/
def ChallengeWork (row : User) (work : UserWork) : Prop :=
  ∃ factor current, Spends row current factor ∧ work.verified = [(row.id, factor)] ∧
    work.dirty = some ⟨row, row.changes current⟩

/-- Reads, and calls that neither lock nor end a transaction. -/
def isQuiet : Event (identity ι) → Bool
  | .read _ => true
  | .call (.lockUser ..) .. | .call (.commit ..) .. | .call (.close _) .. => false
  | .call .. => true
  | .commit .. | .abort .. => false

/-- A request that `locks` loads its user under a lock, another one without. -/
inductive MfaMove (locks : Bool) (who : ι) : MfaPhase → Event (identity ι) → MfaPhase → Prop where
  | quiet {phase : MfaPhase} {e : Event (identity ι)} (quiet : isQuiet e = true) :
      MfaMove locks who phase e phase
  | load {store : UserStore ι} {row : User} (unlocked : locks = false)
      (stored : row ∈ store.users) :
      MfaMove locks who .idle (.read store) (.holding row)
  | lock {before after : UserStore ι} {name : String} {row : User} :
      MfaMove locks who .idle (.call (.lockUser who name) (some row) before after) (.holding row)
  | miss {before after : UserStore ι} {name : String} :
      MfaMove locks who .idle (.call (.lockUser who name) none before after) .ended
  | commit {row : User} {work : UserWork} {outcome : Except IdentityExc Unit}
      {before after : UserStore ι} (challenge : ChallengeWork row work) :
      MfaMove locks who (.holding row) (.call (.commit who work) outcome before after) .ended
  | close {phase : MfaPhase} {before after : UserStore ι} :
      MfaMove locks who phase (.call (.close who) () before after) .ended

abbrev mfaProtocol (locks : Bool) (who : ι) : Protocol (identity ι) where
  Phase := MfaPhase
  Move := MfaMove locks who

/-! ### Used factors -/

/-- The user's factors that a committed transaction verified. -/
def factorsOf (userId : String) : Event (identity ι) → List MfaFactor
  | .call (.commit _ work) outcome _ _ =>
      match outcome with
      | .ok () => (work.verified.filter (·.1 = userId)).map (·.2)
      | .error _ => []
  | _ => []

def verifiedFactors (userId : String) (trace : Trace (identity ι) ι) : List MfaFactor :=
  trace.flatMap fun x => factorsOf userId x.2

/-- A transaction that is committed finds the anti-replay state of its user as it was loaded. -/
def FindsLoaded : Event (identity ι) → Prop
  | .call (.commit _ work) outcome before _ =>
      match outcome with
      | .ok () => ∀ x ∈ work.dirty, ∀ row ∈ before.users, row.id = x.loaded.id → SameMfa row x.loaded
      | .error _ => True
  | _ => True

omit [DecidableEq ι] in
theorem verifiedFactors_snoc (userId : String) (trace : Trace (identity ι) ι) (i : ι)
    (e : Event (identity ι)) :
    verifiedFactors userId (trace ++ [(i, e)]) = verifiedFactors userId trace ++ factorsOf userId e := by
  simp [verifiedFactors]

omit [DecidableEq ι] in
theorem factorsOf_quiet {userId : String} {e : Event (identity ι)} (quiet : isQuiet e = true) :
    factorsOf userId e = [] := by
  unfold factorsOf
  split
  · cases quiet
  · rfl

theorem after_eq_of_quiet {e : Event (identity ι)} (quiet : isQuiet e = true)
    (sound : e.Sound (identitySemantics ι)) : e.after = e.before := by
  cases e with
  | read store => rfl
  | commit work before after => cases quiet
  | abort work store fault => cases quiet
  | call query answer before after =>
    cases query with
    | lockUser who name => cases quiet
    | commit who work => cases quiet
    | close who => cases quiet
    | _ => exact sound

omit [DecidableEq ι] in
theorem sameMfa_apply {row loaded current : User} (same : SameMfa row loaded) :
    SameMfa (Row.apply (loaded.changes current) row) current := by
  constructor
  · change (changedColumn loaded.mfaEnabled current.mfaEnabled).getD row.mfaEnabled = _
    rw [same.enabled, getD_changedColumn]
  · change (changedColumn loaded.mfaLastUsedStep current.mfaLastUsedStep).getD row.mfaLastUsedStep
      = _
    rw [same.lastUsedStep, getD_changedColumn]
  · change (changedColumn loaded.mfaRecoveryCodeHashes current.mfaRecoveryCodeHashes).getD
      row.mfaRecoveryCodeHashes = _
    rw [same.recoveryCodeHashes, getD_changedColumn]

theorem holder_release {store : UserStore ι} {i j : ι} {id : String} (other : j ≠ i)
    (held : store.holder id = some j) : (store.release i).holder id = some j := by
  change (if store.holder id = some i then none else store.holder id) = some j
  rw [if_neg (by rw [held]; simpa using other), held]

/-! ### The transaction of a challenge -/

section

variable {row current : User} {work : UserWork} {factor : MfaFactor}

theorem updated_challenge (dirty : work.dirty = some ⟨row, row.changes current⟩) (stored : User) :
    Table.updated work.dirty.toList stored =
      if row.id = stored.id then Row.apply (row.changes current) stored else stored := by
  rw [dirty, Option.toList_some, Table.updated_cons, Table.updated_nil]
  rfl

/-- What becomes of a stored user: the verified factor is used up, and no other becomes usable. -/
theorem Spends.updated (spends : Spends row current factor)
    (dirty : work.dirty = some ⟨row, row.changes current⟩) {stored : User}
    (loaded : stored.id = row.id → SameMfa stored row) {other : MfaFactor}
    (old : Spent stored other ∨ other = factor ∧ stored.id = row.id) :
    Spent (Table.updated work.dirty.toList stored) other := by
  rw [updated_challenge dirty]
  by_cases hid : row.id = stored.id
  · rw [if_pos hid]
    have same := loaded hid.symm
    refine (sameMfa_apply same).symm.spent ?_
    rcases old with old | ⟨rfl, -⟩
    · exact spends.kept other (same.spent old)
    · exact spends.spent
  · rw [if_neg hid]
    rcases old with old | ⟨-, same⟩
    · exact old
    · exact absurd same.symm hid

omit [DecidableEq ι] in
theorem factorsOf_challenge (verified : work.verified = [(row.id, factor)]) {userId : String}
    {i : ι} {before after : UserStore ι} :
    factorsOf userId (.call (.commit i work) (.ok ()) before after) =
      if row.id = userId then [factor] else [] := by
  change (work.verified.filter (·.1 = userId)).map (·.2) = _
  rw [verified]
  by_cases hid : row.id = userId
  · simp [hid]
  · simp [hid]

/-- A row that another request has locked is not written over. -/
theorem mem_write_of_held {before : UserStore ι} {i j : ι} {kept : User}
    (dirty : work.dirty = some ⟨row, row.changes current⟩) (free : before.Free i row.id)
    (other : j ≠ i) (held : before.holder kept.id = some j) (mem : kept ∈ before.users) :
    kept ∈ ((before.write work).release i).users := by
  refine Table.mem_writeBack.mpr ⟨kept, mem, ?_⟩
  rw [updated_challenge dirty, if_neg]
  intro hid
  unfold UserStore.Free at free
  rw [hid, held] at free
  rcases free with unlocked | mine
  · cases unlocked
  · exact other (Option.some.inj mine)

end

/-! ### The invariant -/

/-- A request that locks holds the lock of the row it loaded, which is as it was loaded; every
factor that was used is spent; none was used twice. -/
structure SingleUseInv (locks : ι → Bool) (userId : String) (trace : Trace (identity ι) ι)
    (phases : ι → MfaPhase) (store : UserStore ι) : Prop where
  present : ∀ i row, phases i = .holding row → ∃ stored ∈ store.users, stored.id = row.id
  locked : ∀ i row, locks i = true → phases i = .holding row →
    store.holder row.id = some i ∧ row ∈ store.users
  spent : ∀ factor ∈ verifiedFactors userId trace, ∀ row ∈ store.users, row.id = userId →
    Spent row factor
  nodup : (verifiedFactors userId trace).Nodup

namespace SingleUseInv

variable {locks : ι → Bool} {userId : String} {trace : Trace (identity ι) ι}
  {phases : ι → MfaPhase} {i : ι} {before after : UserStore ι}

/-- A step that uses no factor and leaves the users as they are. -/
theorem frame {e : Event (identity ι)} {phase : MfaPhase}
    (inv : SingleUseInv locks userId trace phases before) (unused : factorsOf userId e = [])
    (users : after.users = before.users)
    (mine : ∀ row, phase = .holding row → (∃ stored ∈ before.users, stored.id = row.id) ∧
      (locks i = true → after.holder row.id = some i ∧ row ∈ after.users))
    (others : ∀ j id, j ≠ i → before.holder id = some j → after.holder id = some j) :
    SingleUseInv locks userId (trace ++ [(i, e)]) (Function.update phases i phase) after where
  present j row hphase := by
    rw [users]
    by_cases same : j = i
    · subst same
      rw [Function.update_self] at hphase
      exact (mine row hphase).1
    · rw [Function.update_of_ne same] at hphase
      exact inv.present j row hphase
  locked j row hj hphase := by
    by_cases same : j = i
    · subst same
      rw [Function.update_self] at hphase
      exact (mine row hphase).2 hj
    · rw [Function.update_of_ne same] at hphase
      obtain ⟨held, mem⟩ := inv.locked j row hj hphase
      exact ⟨others j row.id same held, users ▸ mem⟩
  spent factor hfactor row hrow hid := by
    rw [verifiedFactors_snoc, unused, List.append_nil] at hfactor
    exact inv.spent factor hfactor row (users ▸ hrow) hid
  nodup := by
    rw [verifiedFactors_snoc, unused, List.append_nil]
    exact inv.nodup

omit [DecidableEq ι] in
theorem lock_others {name : String} {j : ι} {id : String}
    (free : ∀ row ∈ before.users, row.named name = true → before.Free i row.id) (other : j ≠ i)
    (held : before.holder id = some j) : (before.lock i name).holder id = some j := by
  change (if before.users.rows.any fun row => row.named name && row.id = id then some i
    else before.holder id) = some j
  rw [if_neg, held]
  intro matched
  obtain ⟨row, hrow, hmatch⟩ := List.any_eq_true.mp matched
  simp only [Bool.and_eq_true, decide_eq_true_eq] at hmatch
  obtain ⟨named, rfl⟩ := hmatch
  have := free row hrow named
  unfold UserStore.Free at this
  rw [held] at this
  rcases this with h | h
  · cases h
  · exact other (Option.some.inj h)

omit [DecidableEq ι] in
theorem lock_mine {name : String} {row : User} (mem : row ∈ before.users)
    (named : row.named name = true) : (before.lock i name).holder row.id = some i := by
  refine if_pos (List.any_eq_true.mpr ⟨row, mem, ?_⟩)
  rw [named, decide_eq_true rfl]
  rfl

/-- A transaction that passed a challenge and was written over what it loaded. -/
theorem challenge {row : User} {work : UserWork}
    (inv : SingleUseInv locks userId trace phases before) (work_ : ChallengeWork row work)
    (free : ∀ x ∈ work.dirty, before.Free i x.loaded.id)
    (loaded : ∀ stored ∈ before.users, stored.id = row.id → SameMfa stored row)
    (present : ∃ stored ∈ before.users, stored.id = row.id) :
    SingleUseInv locks userId
      (trace ++ [(i, .call (.commit i work) (.ok ()) before ((before.write work).release i))])
      (Function.update phases i .ended) ((before.write work).release i) := by
  obtain ⟨factor, current, spends, hverified, hdirty⟩ := work_
  constructor
  · intro j kept hphase
    by_cases same : j = i
    · subst same
      rw [Function.update_self] at hphase
      cases hphase
    · rw [Function.update_of_ne same] at hphase
      obtain ⟨stored, mem, hid⟩ := inv.present j kept hphase
      refine ⟨_, Table.mem_writeBack.mpr ⟨stored, mem, rfl⟩, Eq.trans ?_ hid⟩
      exact congrArg User.Key.id (Table.key_updated work.dirty.toList stored)
  · intro j kept hj hphase
    by_cases same : j = i
    · subst same
      rw [Function.update_self] at hphase
      cases hphase
    · rw [Function.update_of_ne same] at hphase
      obtain ⟨held, mem⟩ := inv.locked j kept hj hphase
      have blocked : before.Free i row.id := free ⟨row, row.changes current⟩ hdirty
      exact ⟨holder_release same held, mem_write_of_held hdirty blocked same held mem⟩
  · intro used hused stored hstored hid
    obtain ⟨old, hold, rfl⟩ := Table.mem_writeBack.mp hstored
    have hold_id : old.id = userId := by
      rw [← hid]
      exact (congrArg User.Key.id (Table.key_updated work.dirty.toList old)).symm
    refine spends.updated hdirty (loaded old hold) ?_
    rw [verifiedFactors_snoc, List.mem_append, factorsOf_challenge hverified] at hused
    rcases hused with earlier | now
    · exact .inl (inv.spent used earlier old hold hold_id)
    · by_cases hrow : row.id = userId
      · rw [if_pos hrow, List.mem_singleton] at now
        exact .inr ⟨now, hold_id.trans hrow.symm⟩
      · rw [if_neg hrow] at now
        cases now
  · rw [verifiedFactors_snoc, factorsOf_challenge hverified]
    by_cases hrow : row.id = userId
    · rw [if_pos hrow]
      refine List.nodup_append'.mpr ⟨inv.nodup, List.nodup_singleton _, ?_⟩
      rw [List.disjoint_singleton]
      intro earlier
      obtain ⟨stored, mem, hid⟩ := present
      exact spends.fresh ((loaded stored mem hid).spent
        (inv.spent factor earlier stored mem (hid.trans hrow)))
    · rw [if_neg hrow, List.append_nil]
      exact inv.nodup

/-- One step of any request; a transaction without the lock finds what it loaded. -/
theorem step {e : Event (identity ι)} {phase : MfaPhase}
    (inv : SingleUseInv locks userId trace phases e.before)
    (move : MfaMove (locks i) i (phases i) e phase) (sound : e.Sound (identitySemantics ι))
    (found : locks i = false → FindsLoaded e) :
    SingleUseInv locks userId (trace ++ [(i, e)]) (Function.update phases i phase) e.after := by
  generalize hstart : phases i = start at move
  cases move with
  | quiet quiet =>
    rw [after_eq_of_quiet quiet sound]
    refine inv.frame (factorsOf_quiet quiet) rfl (fun row hphase => ?_) fun _ _ _ held => held
    rw [← hstart] at hphase
    exact ⟨inv.present i row hphase, fun hlocks => inv.locked i row hlocks hphase⟩
  | load unlocked stored =>
    refine inv.frame rfl rfl (fun row hphase => ?_) fun _ _ _ held => held
    cases hphase
    exact ⟨⟨_, stored, rfl⟩, fun hlocks => by rw [unlocked] at hlocks; cases hlocks⟩
  | @lock before after name row =>
    obtain ⟨free, hafter, mem, named⟩ := sound
    have users : after.users = before.users := by rw [hafter]; rfl
    refine inv.frame rfl users (fun row' hphase => ?_) fun j id other held => ?_
    · cases hphase
      exact ⟨⟨row, mem, rfl⟩, fun _ => ⟨hafter ▸ lock_mine mem named, users ▸ mem⟩⟩
    · exact hafter ▸ lock_others free other held
  | @miss before after name =>
    obtain ⟨free, hafter, -⟩ := sound
    have users : after.users = before.users := by rw [hafter]; rfl
    refine inv.frame rfl users (fun _ hphase => nomatch hphase) fun j id other held => ?_
    exact hafter ▸ lock_others free other held
  | @close _ before after =>
    have released : after = before.release i := sound
    subst released
    exact inv.frame rfl rfl (fun _ hphase => nomatch hphase) fun j id other held =>
      holder_release other held
  | @commit row work outcome before after challenge =>
    obtain ⟨free, wrote⟩ := sound
    cases outcome with
    | error raised =>
      obtain ⟨-, hafter⟩ := wrote
      subst hafter
      exact inv.frame rfl rfl (fun _ hphase => nomatch hphase) fun j id other held =>
        holder_release other held
    | ok _ =>
      have hafter : after = (before.write work).release i := wrote
      subst hafter
      refine inv.challenge challenge free (fun stored mem hid => ?_) (inv.present i row hstart)
      cases hlocks : locks i with
      | true =>
        obtain ⟨-, same⟩ := inv.locked i row hlocks hstart
        rw [Table.eq_of_conflict mem same (.inl hid)]
        exact .refl row
      | false =>
        obtain ⟨factor, current, -, -, hdirty⟩ := challenge
        exact found hlocks ⟨row, row.changes current⟩ hdirty stored mem hid

end SingleUseInv

theorem singleUseInv_of_run {locks : ι → Bool} {userId : String} {store₀ store : UserStore ι}
    {trace : Trace (identity ι) ι} {phases : ι → MfaPhase}
    (run : Protocol.Run (fun i => mfaProtocol (locks i) i) (identitySemantics ι) (fun _ => .idle)
      store₀ trace phases store)
    (found : ∀ x ∈ trace, locks x.1 = false → FindsLoaded x.2) :
    SingleUseInv locks userId trace phases store := by
  refine run.invariant (fun trace phases store =>
    (∀ x ∈ trace, locks x.1 = false → FindsLoaded x.2) →
      SingleUseInv locks userId trace phases store) (fun _ => ?_) ?_ found
  · exact ⟨fun _ _ h => (nomatch h), fun _ _ _ h => (nomatch h), fun _ h => (nomatch h),
      List.nodup_nil⟩
  · intro trace phases i e phase inv move sound found
    exact (inv fun x hx => found x (by simp [hx])).step move sound (found (i, e) (by simp))

/-! ### The requests follow the protocol -/

section Refinement

variable {α β : Type} {locks : Bool} {who : ι} {row : User} {s : UserSession ι} {m : MfaPhase}
  {post : Except IdentityExc α → UserSession ι → MfaPhase → Prop}
  {postβ : Except IdentityExc β → UserSession ι → MfaPhase → Prop}

abbrev FollowsMfa (locks : Bool) (who : ι) (handler : UserService ι α)
    (post : Except IdentityExc α → UserSession ι → MfaPhase → Prop) (s : UserSession ι)
    (m : MfaPhase) : Prop :=
  Handler.Follows (mfaProtocol locks who) (identitySemantics ι) handler post s m

/-- The session holds the row as it was loaded, and has verified nothing. -/
structure Loaded (who : ι) (row : User) (s : UserSession ι) : Prop where
  who : s.who = who
  user : s.user = some (row, row)
  verified : s.verified = []

/-- The session has passed a challenge on the row it loaded. -/
def Passed (who : ι) (row : User) (s : UserSession ι) : Prop :=
  s.who = who ∧ ∃ factor current, Spends row current factor ∧ s.user = some (row, current) ∧
    s.verified = [(row.id, factor)]

theorem follows_utcNow_bind {next : Instant → UserService ι β}
    (rest : ∀ now, FollowsMfa locks who (next now) postβ s m) :
    FollowsMfa locks who (UserSession.ask .utcNow >>= next) postβ s m :=
  follows_ask_bind.mpr fun _ now _ _ => ⟨m, .quiet rfl, rest now⟩

theorem follows_matchTotp {secret code : String} {last : Option Int} {now : Option Instant} :
    FollowsMfa locks who (matchTotp py secret code last now) (fun outcome s' m' => s' = s ∧ m' = m ∧
      ∀ step, outcome = .ok (some step) → ∀ used ∈ last, used < step) s m := by
  have later (currentStep : Int) : ∀ step,
      firstMatch py secret code last currentStep [-1, 0, 1] = .ok (some step) →
      ∀ used ∈ last, used < step := by
    rintro step found used hused
    rw [Option.mem_def.mp hused] at found
    exact firstMatch_later py found
  unfold matchTotp
  split
  · exact ⟨rfl, rfl, fun _ h => nomatch h⟩
  · cases now with
    | some moment => exact ⟨rfl, rfl, later _⟩
    | none => exact follows_utcNow_bind fun moment => ⟨rfl, rfl, later _⟩

/-- What a challenge leaves behind. -/
def Challenged (who : ι) (row : User) (s : UserSession ι) (m : MfaPhase)
    (outcome : Except IdentityExc Bool) (s' : UserSession ι) (m' : MfaPhase) : Prop :=
  m' = m ∧ s'.who = who ∧ (outcome = .ok true → Passed who row s') ∧ (outcome = .ok false → s' = s)

theorem follows_useTotp {encrypted code : String} {now : Option Instant}
    (loaded : Loaded who row s) (enabled : row.mfaEnabled = true) :
    FollowsMfa locks who (useTotp py row encrypted code now) (Challenged who row s m) s m := by
  unfold useTotp decryptMfaSecret
  split
  · rw [pure_bind]
    refine Follows.bind follows_matchTotp ?_ ?_
    · rintro found s' m' ⟨rfl, rfl, later⟩
      cases found with
      | none => exact ⟨rfl, loaded.who, fun h => (nomatch h), fun _ => rfl⟩
      | some step =>
        refine ⟨rfl, loaded.who, fun _ => ⟨loaded.who, .totpStep step, _,
          spends_totpStep enabled (later step rfl), ?_, ?_⟩, fun h => nomatch h⟩
        · exact congrArg (Option.map _) loaded.user
        · exact congrArg (· ++ _) loaded.verified
    · rintro exc s' m' ⟨rfl, rfl, -⟩
      exact ⟨rfl, loaded.who, fun h => (nomatch h), fun h => nomatch h⟩
  · exact ⟨rfl, loaded.who, fun h => (nomatch h), fun h => nomatch h⟩

theorem follows_useRecoveryCode {code : String} (loaded : Loaded who row s)
    (enabled : row.mfaEnabled = true) :
    FollowsMfa locks who (useRecoveryCode py row code) (Challenged who row s m) s m := by
  unfold useRecoveryCode
  refine follows_ofExcept_bind (fun exc _ => ?_) fun remaining hremaining => ?_
  · exact ⟨rfl, loaded.who, fun h => (nomatch h), fun h => nomatch h⟩
  · have filtered := remainingHashes_eq hremaining
    split
    · exact ⟨rfl, loaded.who, fun h => (nomatch h), fun _ => rfl⟩
    · next shorter =>
      refine ⟨rfl, loaded.who, fun _ => ⟨loaded.who, .recoveryCode _, _,
        spends_recoveryCode enabled (mem_of_remaining (filtered ▸ shorter)) filtered, ?_, ?_⟩,
        fun h => nomatch h⟩
      · exact congrArg (Option.map _) loaded.user
      · exact congrArg (· ++ _) loaded.verified

theorem follows_current_held {held : User × User} {id : String} {next : User → UserService ι β}
    (huser : s.user = some held) :
    FollowsMfa locks who (UserSession.current id >>= next) postβ s m ↔
      FollowsMfa locks who (next held.2) postβ s m := by
  unfold UserSession.current
  rw [FollowsMfa, bind_assoc, follows_session_bind, huser]
  exact Iff.rfl

theorem follows_verifyMfaChallenge {id code : String} {now : Option Instant}
    (loaded : Loaded who row s) :
    FollowsMfa locks who (verifyMfaChallenge py id code now) (Challenged who row s m) s m := by
  unfold verifyMfaChallenge
  refine (follows_current_held loaded.user).mpr ?_
  dsimp only
  split
  · next enabled _ =>
    split
    · exact follows_useTotp loaded enabled
    · exact follows_useRecoveryCode loaded enabled
  · exact ⟨rfl, loaded.who, fun h => (nomatch h), fun _ => rfl⟩

/-- The commit of a request that passed a challenge. -/
theorem follows_commit (passed : Passed who row s) :
    FollowsMfa locks who UserSession.commit (fun _ s' m' => s' = { who := who } ∧ m' = .ended) s
      (.holding row) := by
  obtain ⟨hwho, factor, current, spends, huser, hverified⟩ := passed
  have changed : current ≠ row := by
    rintro rfl
    exact spends.fresh spends.spent
  have work : ChallengeWork row s.pending := by
    refine ⟨factor, current, spends, hverified, ?_⟩
    simp [UserSession.pending, UserSession.dirty, huser, changed]
  unfold UserSession.commit
  rw [FollowsMfa, follows_session_bind]
  refine follows_ask_bind.mpr fun before outcome after _ => ⟨.ended, ?_, ?_⟩
  · rw [hwho]
    exact .commit work
  · refine ⟨?_, rfl⟩
    change ({ who := s.who } : UserSession ι) = { who := who }
    rw [hwho]

theorem follows_disableMfa {id code : String} (loaded : Loaded who row s) :
    FollowsMfa locks who (disableMfa py id code) (fun _ s' _ => s'.who = who) s
      (.holding row) := by
  unfold disableMfa
  refine (follows_current_held loaded.user).mpr ?_
  refine follows_raiseIf_bind (fun _ => loaded.who) fun _ => ?_
  refine Follows.bind (follows_verifyMfaChallenge loaded) ?_ ?_
  · rintro verified s' m' ⟨rfl, hwho, hpassed, -⟩
    refine follows_raiseIf_bind (fun _ => hwho) fun hverified => ?_
    have passed : Passed who row s' := hpassed (by simpa using hverified)
    obtain ⟨-, factor, current, spends, huser, hv⟩ := passed
    refine follows_modify_bind.mpr (follows_modify_bind.mpr ?_)
    refine (follows_commit ?_).mono ?_
    · exact ⟨hwho, factor, current.withoutMfa, spends.withoutMfa, congrArg (Option.map _) huser, hv⟩
    · rintro outcome s'' m'' ⟨rfl, -⟩
      rfl
  · rintro exc s' m' ⟨-, hwho, -, -⟩
    exact hwho

/-- Reading the user and the clock, in any phase. -/
theorem follows_issue {id : String} {respond : User → Instant → β} (hwho : s.who = who) :
    FollowsMfa locks who
      (do
        let user ← UserSession.current id
        let now ← UserSession.ask .utcNow
        return respond user now) (fun _ s' _ => s'.who = who) s m := by
  cases huser : s.user with
  | some held =>
    exact (follows_current_held huser).mpr (follows_utcNow_bind fun _ => hwho)
  | none =>
    unfold UserSession.current
    rw [FollowsMfa, bind_assoc, follows_session_bind, huser]
    dsimp only
    rw [bind_assoc]
    refine follows_select_bind.mpr fun store => ⟨m, .quiet rfl, ?_⟩
    split
    · exact hwho
    · unfold UserSession.hold
      rw [bind_assoc]
      exact follows_modify_bind.mpr (follows_utcNow_bind fun _ => hwho)

theorem follows_authenticateUser {name password : String} {code : Option String}
    (hwho : s.who = who) (hverified : s.verified = []) :
    FollowsMfa locks who (authenticateUser py name password code) (fun _ s' _ => s'.who = who) s
      .idle := by
  unfold authenticateUser
  rw [FollowsMfa, follows_session_bind]
  refine follows_ask_bind.mpr fun before found after _ => ?_
  cases found with
  | none => exact ⟨.ended, hwho ▸ .miss, hwho⟩
  | some row =>
    refine ⟨.holding row, hwho ▸ .lock, ?_⟩
    have loaded : Loaded who row { s with user := some (row, row) } := ⟨hwho, rfl, hverified⟩
    dsimp only
    unfold UserSession.hold
    rw [bind_assoc]
    refine follows_modify_bind.mpr ?_
    rw [pure_bind]
    split
    · exact hwho
    · refine follows_ofExcept_bind (fun _ _ => hwho) fun right _ => ?_
      split
      · exact hwho
      · split
        · cases code with
          | none => exact hwho
          | some code =>
            refine Follows.bind (follows_verifyMfaChallenge loaded) ?_ ?_
            · rintro verified s' m' ⟨rfl, hwho', hpassed, -⟩
              cases verified with
              | false => exact hwho'
              | true =>
                refine Follows.bind (follows_commit (hpassed rfl)) ?_ ?_
                · rintro _ s'' m'' ⟨rfl, -⟩
                  rfl
                · rintro _ s'' m'' ⟨rfl, -⟩
                  rfl
            · rintro exc s' m' ⟨-, hwho', -, -⟩
              exact hwho'
        · exact hwho

theorem follows_login {name password : String} {code : Option String} (hwho : s.who = who)
    (hverified : s.verified = []) :
    FollowsMfa locks who (login py name password code) (fun _ s' _ => s'.who = who) s .idle := by
  unfold login
  refine Follows.bind (M := fun _ s' _ => s'.who = who) ?_ ?_ fun _ _ _ h => h
  · refine Follows.tryCatch (fun _ s' _ => s'.who = who)
      (follows_authenticateUser hwho hverified) (fun _ _ _ h => h) fun exc s' m' h => ?_
    split
    · exact h
    · exact h
  · intro found s' m' h
    cases found with
    | none => exact h
    | some id => exact follows_issue h

theorem follows_getUserById {id : String} {next : Option User → UserService ι β}
    (unlocked : locks = false)
    (missing : FollowsMfa locks who (next none) postβ s .idle)
    (found : ∀ row, FollowsMfa locks who (next (some row)) postβ
      { s with user := some (row, row) } (.holding row)) :
    FollowsMfa locks who (getUserById id >>= next) postβ s .idle := by
  unfold getUserById
  rw [FollowsMfa, bind_assoc]
  refine follows_select_bind.mpr fun store => ?_
  dsimp only
  cases hfind : store.users.find? (·.id = id) with
  | none => exact ⟨.idle, .quiet rfl, missing⟩
  | some row =>
    refine ⟨.holding row, .load unlocked (Table.mem_of_find? hfind), ?_⟩
    simp only [map_eq_pure_bind, bind_assoc, pure_bind]
    exact found row

theorem follows_getCurrentUser {token : String} (unlocked : locks = false) (hwho : s.who = who)
    (hverified : s.verified = []) :
    FollowsMfa locks who (getCurrentUser py token) (fun outcome s' m' => s'.who = who ∧
      ∀ user, outcome = .ok user → m' = .holding user ∧ Loaded who user s') s .idle := by
  unfold getCurrentUser
  refine follows_utcNow_bind fun now => ?_
  refine follows_ofExcept_bind (fun _ _ => ⟨hwho, fun _ h => nomatch h⟩) fun decoded _ => ?_
  cases decoded with
  | none => exact ⟨hwho, fun _ h => nomatch h⟩
  | some payload =>
    dsimp only
    split
    · refine follows_getUserById unlocked ⟨hwho, fun _ h => nomatch h⟩ fun row => ?_
      refine follows_raiseIf_bind (fun _ => ⟨hwho, fun _ h => nomatch h⟩) fun _ => ?_
      refine follows_raiseIf_bind (fun _ => ⟨hwho, fun _ h => nomatch h⟩) fun _ => ?_
      refine ⟨hwho, fun user h => ?_⟩
      cases h
      exact ⟨rfl, hwho, rfl, hverified⟩
    · exact ⟨hwho, fun _ h => nomatch h⟩

theorem follows_removeMfa {token code : String} {xReauthToken : Option String}
    (unlocked : locks = false) (hwho : s.who = who) (hverified : s.verified = []) :
    FollowsMfa locks who (removeMfa py token xReauthToken code) (fun _ s' _ => s'.who = who) s
      .idle := by
  unfold removeMfa getReauthenticatedUser
  rw [bind_assoc]
  refine Follows.bind (follows_getCurrentUser unlocked hwho hverified) ?_ fun _ _ _ h => h.1
  rintro user s' m' ⟨hwho', hloaded⟩
  obtain ⟨rfl, loaded⟩ := hloaded user rfl
  simp only [bind_assoc]
  refine follows_utcNow_bind fun now => ?_
  refine follows_ofExcept_bind (fun _ _ => hwho') fun decoded _ => ?_
  cases decoded with
  | none => exact hwho'
  | some payload =>
    dsimp only
    split
    · rw [pure_bind]
      refine follows_raiseIf_bind (fun _ => hwho') fun _ => ?_
      refine Follows.bind (M := fun _ s' _ => s'.who = who) ?_ (fun _ _ _ h => h)
        fun _ _ _ h => h
      exact Follows.tryCatch (fun _ s' _ => s'.who = who) (follows_disableMfa loaded)
        (fun _ _ _ h => h) fun _ _ _ h => h
    · exact hwho'

theorem follows_closing {body : UserService ι α}
    (hbody : FollowsMfa locks who body (fun _ s' _ => s'.who = who) s m) :
    FollowsMfa locks who (UserSession.closing body) (fun _ _ m' => m' = .ended) s m := by
  unfold UserSession.closing
  refine Follows.bind (M := fun outcome s' _ => s'.who = who ∧ ∃ o, outcome = .ok o) ?_ ?_ ?_
  · refine Follows.tryCatch (fun _ s' _ => s'.who = who) ?_ (fun _ _ _ h => ⟨h, _, rfl⟩)
      fun _ _ _ h => ⟨h, _, rfl⟩
    rw [map_eq_pure_bind]
    exact Follows.bind hbody (fun _ _ _ h => h) fun _ _ _ h => h
  · rintro outcome s' m' ⟨hwho, -⟩
    rw [follows_session_bind]
    refine follows_ask_bind.mpr fun before _ after _ => ⟨.ended, ?_, rfl⟩
    rw [hwho]
    exact .close
  · rintro exc s' m' ⟨-, o, h⟩
    cases h

end Refinement

/-! ### Interleaved requests -/

/-- A login, or a request to disable the second factor. -/
inductive MfaRequest where
  | login (usernameOrEmail password : String) (mfaCode : Option String)
  | disable (token : String) (xReauthToken : Option String) (code : String)

def MfaRequest.request : MfaRequest → IdentityRequest
  | .login usernameOrEmail password mfaCode => .login usernameOrEmail password mfaCode
  | .disable token xReauthToken code => .removeMfa token xReauthToken code

def MfaRequest.locks : MfaRequest → Bool
  | .login .. => true
  | .disable .. => false

/-- Each request in a session of its own. -/
def challenging (py : IdentityPlatform) (requests : ι → MfaRequest) (store : UserStore ι) :
    Config (identity ι) fun _ : ι => Except IdentityExc IdentityResponse × UserSession ι where
  store := store
  client i := (requests i).request.serve py i

theorem challenging_follows (py : IdentityPlatform) (request : MfaRequest) (who : ι) :
    (request.request.serve py who).Follows (mfaProtocol request.locks who) (identitySemantics ι)
      (fun _ phase => phase = .ended) .idle := by
  cases request with
  | login name password code => exact follows_closing (follows_login rfl rfl)
  | disable token reauth code => exact follows_closing (follows_removeMfa rfl rfl rfl)

/-- If every disable request commits over the anti-replay state it loaded, no time step and no
recovery code of a user is used twice. -/
theorem verifiedFactors_nodup {requests : ι → MfaRequest} {store : UserStore ι}
    {trace : Trace (identity ι) ι}
    {c : Config (identity ι) fun _ : ι => Except IdentityExc IdentityResponse × UserSession ι}
    (run : Config.Run (identitySemantics ι) (challenging py requests store) trace c)
    (found : ∀ x ∈ trace, (requests x.1).locks = false → FindsLoaded x.2) (userId : String) :
    (verifiedFactors userId trace).Nodup := by
  obtain ⟨phases, tracked, -⟩ := run.tracked fun i => challenging_follows py (requests i) i
  exact (singleUseInv_of_run tracked found).nodup

/-- A login and a disable request with the same code, the second after the first `steps` of
the disable request. -/
def sampleRequests (disabling : Bool) : MfaRequest :=
  if disabling then .disable sampleAccessToken (some sampleReauthToken) "000000"
  else .login "u" "" (some "000000")

def sampleChallenges (steps : Nat) : Trace (identity Bool) Bool ×
    Config (identity Bool) fun _ : Bool => Except IdentityExc IdentityResponse × UserSession Bool :=
  (challenging plainIdentity sampleRequests (sampleUsers Bool)).replay (identitySemantics Bool)
    identityScript 0 (List.replicate steps true ++ List.replicate 20 false ++ List.replicate 20 true)

theorem sampleChallenges_run (steps : Nat) :
    Config.Run (identitySemantics Bool)
      (challenging plainIdentity sampleRequests (sampleUsers Bool)) (sampleChallenges steps).1
      (sampleChallenges steps).2 :=
  Config.replay_reaches identityScript_allowed _ _ _

instance (a b : User) : Decidable (SameMfa a b) :=
  decidable_of_iff (a.mfaEnabled = b.mfaEnabled ∧ a.mfaLastUsedStep = b.mfaLastUsedStep ∧
    a.mfaRecoveryCodeHashes = b.mfaRecoveryCodeHashes)
    ⟨fun h => ⟨h.1, h.2.1, h.2.2⟩, fun h => ⟨h.enabled, h.lastUsedStep, h.recoveryCodeHashes⟩⟩

/-- `FindsLoaded`, to be evaluated on a trace. -/
def findsLoaded : Event (identity ι) → Bool
  | .call (.commit _ work) outcome before _ =>
      match outcome with
      | .ok () => decide
          (∀ x ∈ work.dirty, ∀ row ∈ before.users, row.id = x.loaded.id → SameMfa row x.loaded)
      | .error _ => true
  | _ => true

omit [DecidableEq ι] in
theorem findsLoaded_of_eq {e : Event (identity ι)} (h : findsLoaded e = true) : FindsLoaded e := by
  unfold findsLoaded at h
  unfold FindsLoaded
  split
  · split
    · exact of_decide_eq_true h
    · exact True.intro
  · exact True.intro

/-- One after the other they use two time steps. -/
theorem verifiedFactors_nodup_serial :
    verifiedFactors "u" (sampleChallenges 0).1 = [.totpStep (-1), .totpStep 0] ∧
      (verifiedFactors "u" (sampleChallenges 0).1).Nodup :=
  ⟨by decide +kernel,
    verifiedFactors_nodup (sampleChallenges_run 0)
      (fun x hx _ => findsLoaded_of_eq
        ((by decide +kernel : ∀ x ∈ (sampleChallenges 0).1, findsLoaded x.2 = true) x hx)) "u"⟩

/-- The disable request loads the user before the login commits: both use one time step. -/
theorem verifiedFactors_not_nodup :
    ∃ trace c, Config.Run (identitySemantics Bool)
        (challenging plainIdentity sampleRequests (sampleUsers Bool)) trace c ∧
      verifiedFactors "u" trace = [.totpStep (-1), .totpStep (-1)] ∧
      ¬ (verifiedFactors "u" trace).Nodup :=
  ⟨_, _, sampleChallenges_run 3, by decide +kernel, by decide +kernel⟩

end CopyTrading
