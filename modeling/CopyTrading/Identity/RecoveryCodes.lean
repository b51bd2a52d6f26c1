import CopyTrading.Identity.MfaChallenge

/-!
The formattings of a recovery code. A code is looked up by its letters and digits alone, but
whether a text is looked up at all is decided on the text as it was typed.
-/

namespace CopyTrading

open Transaction Fallible

variable {ι : Type} {py : IdentityPlatform}

/-! ### Codes and formattings -/

/-- The hexadecimal digits of a token. -/
def hexDigits : List Char :=
  ['0', '1', '2', '3', '4', '5', '6', '7', '8', '9', 'a', 'b', 'c', 'd', 'e', 'f']

/-- What `secrets.token_hex(count)` can be: two hexadecimal digits a byte. -/
def IsTokenHex (count : Nat) (value : String) : Prop :=
  value.toList.length = 2 * count ∧ value.toList.all (· ∈ hexDigits) = true

instance (count : Nat) (value : String) : Decidable (IsTokenHex count value) :=
  inferInstanceAs (Decidable (_ ∧ _))

/-- The code of a token. -/
def recoveryCodeOf (py : IdentityPlatform) (value : String) : String :=
  String.ofList (List.intercalate ['-'] (groupsOfFour (py.upper value).toList))

/-- A token that is drawn is hexadecimal. -/
def DrawsHex : Event (identity ι) → Prop
  | .call (.tokenHex count) value _ _ => IsTokenHex count value
  | _ => True

/-- A run of `_generate_recovery_code` can return the code. -/
def CanGenerate (ι : Type) [DecidableEq ι] (py : IdentityPlatform) (code : String) : Prop :=
  ∃ (s s' : UserSession ι) (store store' : UserStore ι) (trace : List (Event (identity ι))),
    Prog.Run (identitySemantics ι) (generateRecoveryCode py s) store trace
      (.done (.ok code, s')) store' ∧ ∀ e ∈ trace, DrawsHex e

theorem CanGenerate.exists_token [DecidableEq ι] {code : String}
    (generated : CanGenerate ι py code) :
    ∃ value, IsTokenHex 8 value ∧ code = recoveryCodeOf py value := by
  obtain ⟨s, s', store, store', trace, run, draws⟩ := generated
  have asks : generateRecoveryCode py s =
      .call (I := identity ι) (.tokenHex 8) fun value => .done (.ok (recoveryCodeOf py value), s) :=
    rfl
  rw [asks] at run
  obtain ⟨value, mid, rest, rfl, -, run⟩ := run.split_call
  refine ⟨value, draws _ List.mem_cons_self, ?_⟩
  rcases run.first with ⟨-, done, -⟩ | ⟨_, _, _, _, _, step, _⟩
  · exact Except.ok.inj (Prod.ext_iff.mp (Prog.done.inj done)).1
  · cases step

/-- The text without dashes and spaces. -/
def letters (text : String) : List Char := (text.toList.filter (· ≠ '-')).filter (· ≠ ' ')

/-- The texts differ in dashes, spaces and letter case only. -/
def Formats (code text : String) : Prop :=
  (letters text).map Char.toUpper = (letters code).map Char.toUpper

instance (code text : String) : Decidable (Formats code text) := inferInstanceAs (Decidable (_ = _))

/-- The hexadecimal digits of a code. -/
def codeDigits : List Char :=
  ['0', '1', '2', '3', '4', '5', '6', '7', '8', '9', 'A', 'B', 'C', 'D', 'E', 'F']

theorem toUpper_hex {c : Char} (hex : c ∈ hexDigits) : c.toNat < 128 ∧ c.toUpper ∈ codeDigits := by
  have each : hexDigits.all (fun c => c.toNat < 128 ∧ c.toUpper ∈ codeDigits) = true := by decide
  exact of_decide_eq_true (List.all_eq_true.mp each c hex)

theorem codeDigit_facts {c : Char} (digit : c ∈ codeDigits) :
    c ≠ '-' ∧ c ≠ ' ' ∧ c.toNat < 128 ∧ c.toUpper = c := by
  have each : codeDigits.all (fun c => c ≠ '-' ∧ c ≠ ' ' ∧ c.toNat < 128 ∧ c.toUpper = c) =
      true := by decide
  exact of_decide_eq_true (List.all_eq_true.mp each c digit)

/-! ### What a formatting leaves -/

theorem filter_intercalate {keep : Char → Bool} {separator : Char} (dropped : keep separator = false)
    (groups : List (List Char)) :
    (List.intercalate [separator] groups).filter keep = groups.flatten.filter keep := by
  induction groups with
  | nil => rfl
  | cons first rest ih =>
    cases rest with
    | nil => simp
    | cons second rest =>
      rw [List.intercalate_cons_cons, List.filter_append, List.filter_append, ih,
        List.filter_cons_of_neg (by simp [dropped]), List.filter_nil, List.append_nil,
        ← List.filter_append]
      rfl

theorem flatten_groupsOfFour (digits : List Char) : (groupsOfFour digits).flatten = digits := by
  induction digits using groupsOfFour.induct with
  | case1 a b c d rest ih => simp [groupsOfFour, ih]
  | case2 => rfl
  | case3 rest _ _ => simp [groupsOfFour]

/-- Dashes, spaces and letter case are no matter to the digits of a code. -/
theorem bare_digits {digits : List Char} (hex : ∀ c ∈ digits, c ∈ codeDigits) :
    ((digits.filter (· ≠ '-')).filter (· ≠ ' ')).map Char.toUpper = digits := by
  have facts c (hc : c ∈ digits) := codeDigit_facts (hex c hc)
  have dashes : digits.filter (· ≠ '-') = digits :=
    List.filter_eq_self.mpr fun c hc => by simpa using (facts c hc).1
  have spaces : digits.filter (· ≠ ' ') = digits :=
    List.filter_eq_self.mpr fun c hc => by simpa using (facts c hc).2.1
  rw [dashes, spaces]
  exact (List.map_congr_left fun c hc => (facts c hc).2.2.2).trans (List.map_id _)

theorem upper_ascii (ascii : py.toPlatform.Ascii) {chars : List Char}
    (plain : ∀ c ∈ chars, c.toNat < 128) :
    (py.upper (String.ofList chars)).toList = chars.map Char.toUpper := by
  unfold Platform.upper
  rw [String.toList_ofList, String.toList_ofList, List.map_eq_flatMap]
  exact List.flatMap_congr fun c hc => ascii.upper c (plain c hc)

/-- The digits of a code, whatever its formatting. -/
structure Spelled (code : String) (digits : List Char) : Prop where
  letters : (letters code).map Char.toUpper = digits
  sixteen : digits.length = 16
  hex : ∀ c ∈ digits, c ∈ codeDigits

theorem exists_spelled (ascii : py.toPlatform.Ascii) {value : String} (token : IsTokenHex 8 value) :
    ∃ digits, Spelled (recoveryCodeOf py value) digits := by
  obtain ⟨sixteen, digits⟩ := token
  have hex : ∀ c ∈ value.toList, c ∈ hexDigits := fun c hc =>
    of_decide_eq_true (List.all_eq_true.mp digits c hc)
  have upper : (py.upper value).toList = value.toList.map Char.toUpper := by
    have upper := upper_ascii ascii fun c hc => (toUpper_hex (hex c hc)).1
    rwa [String.ofList_toList] at upper
  have digits : ∀ c ∈ value.toList.map Char.toUpper, c ∈ codeDigits := by
    intro c hc
    obtain ⟨old, hold, rfl⟩ := List.mem_map.mp hc
    exact (toUpper_hex (hex old hold)).2
  refine ⟨value.toList.map Char.toUpper, ?_, by rw [List.length_map, sixteen], digits⟩
  unfold letters recoveryCodeOf
  rw [String.toList_ofList, upper, filter_intercalate (by simp), flatten_groupsOfFour]
  exact bare_digits digits

theorem Spelled.formats {code text : String} {digits : List Char} (spelled : Spelled code digits)
    (formats : Formats code text) : Spelled text digits where
  letters := Eq.trans formats spelled.letters
  sixteen := spelled.sixteen
  hex := spelled.hex

namespace Spelled

variable {code : String} {digits : List Char} (spelled : Spelled code digits)

include spelled

/-- A letter whose upper case is a digit of the code is an ASCII one. -/
theorem plain {c : Char} (letter : c ∈ CopyTrading.letters code) : c.toNat < 128 := by
  have digit : c.toUpper ∈ codeDigits :=
    spelled.hex _ (spelled.letters ▸ List.mem_map_of_mem letter)
  by_contra far
  have fixed : c.toUpper = c := by
    refine toUpper_of_not_lower fun lower => far ?_
    have below : c.val.toNat ≤ 'z'.val.toNat := UInt32.le_iff_toNat_le.mp lower.2
    have most : 'z'.val.toNat = 122 := by decide
    have same : c.toNat = c.val.toNat := rfl
    omega
  rw [fixed] at digit
  exact far (codeDigit_facts digit).2.2.1

theorem normalized (ascii : py.toPlatform.Ascii) :
    normalizeRecoveryCode py code = String.ofList digits := by
  have upper := upper_ascii ascii fun _ => spelled.plain
  rw [spelled.letters] at upper
  rw [← upper, String.ofList_toList]
  rfl

/-- The digits alone are a formatting of the code. -/
theorem bare : Spelled (String.ofList digits) digits where
  letters := by
    unfold CopyTrading.letters
    rw [String.toList_ofList]
    exact bare_digits spelled.hex
  sixteen := spelled.sixteen
  hex := spelled.hex

theorem hashed (ascii : py.toPlatform.Ascii) :
    hashRecoveryCode py code =
      py.hexDigest (py.hmacSha256 (utf8 py.secretEncryptionKey) (utf8 (String.ofList digits))) := by
  unfold hashRecoveryCode
  rw [spelled.normalized ascii]

theorem candidate (ascii : py.toPlatform.Ascii) :
    candidateHash py code =
      py.hexDigest (py.hmacSha256 (utf8 py.secretEncryptionKey) (utf8 (String.ofList digits))) := by
  unfold candidateHash
  rw [spelled.normalized ascii, spelled.bare.hashed ascii]

/-- A formatting is longer than a one-time code. -/
theorem long : code.length ≠ 6 := by
  have letters := congrArg List.length spelled.letters
  rw [List.length_map, spelled.sixteen] at letters
  have fewer : (CopyTrading.letters code).length ≤ code.toList.length :=
    (List.length_filter_le _ _).trans (List.length_filter_le _ _)
  rw [String.length_toList] at fewer
  omega

end Spelled

/-! ### Challenges with a recovery code -/

/-- A user as an enrolment leaves it: the stored secret decrypts, and what is stored beside it
are the hashes of codes. -/
structure Enrolled (py : IdentityPlatform) (user : User) : Prop where
  enabled : user.mfaEnabled = true
  stored : ∃ encrypted secret, user.mfaSecretEncrypted = some encrypted ∧
    py.decryptSecret encrypted = some secret
  hashes : ∀ storedHash ∈ user.mfaRecoveryCodeHashes, ∃ code, storedHash = hashRecoveryCode py code

/-- The user without one of the stored hashes. -/
def User.withoutHash (user : User) (codeHash : String) : User :=
  { user with mfaRecoveryCodeHashes := user.mfaRecoveryCodeHashes.filter (· ≠ codeHash) }

/-- In this session the text passes the challenge, the hash of the code and no other is
removed, and no formatting passes a second time. -/
def WorksOnce [DecidableEq ι] (py : IdentityPlatform) (loaded user : User) (code text : String)
    (s : UserSession ι) : Prop :=
  ∀ moment, (∃ ends, ChallengeEnds py user.id text moment s ends) ∧
    ∀ ends, ChallengeEnds py user.id text moment s ends →
      ends.1 = .ok true ∧
      ends.2.user = some (loaded, user.withoutHash (hashRecoveryCode py code)) ∧
      ∀ (text' : String) (moment' : Instant) (loaded' : User) (s' : UserSession ι) ends',
        Formats code text' →
        s'.user = some (loaded', user.withoutHash (hashRecoveryCode py code)) →
        ChallengeEnds py user.id text' moment' s' ends' → ends'.1 = .ok false

theorem Enrolled.withoutHash {user : User} (enrolled : Enrolled py user) (codeHash : String) :
    Enrolled py (user.withoutHash codeHash) where
  enabled := enrolled.enabled
  stored := enrolled.stored
  hashes storedHash mem := enrolled.hashes storedHash (List.mem_of_mem_filter mem)

theorem Enrolled.remainingHashes_eq {user : User} (enrolled : Enrolled py user)
    (ascii : AsciiDigests py) (code : String) :
    remainingHashes (candidateHash py code) user.mfaRecoveryCodeHashes =
      .ok (user.withoutHash (candidateHash py code)).mfaRecoveryCodeHashes := by
  have candidateAscii : isAscii (candidateHash py code) = true := ascii.digests _
  obtain ⟨remaining, checked⟩ := (remainingHashes_ok_iff candidateAscii
    user.mfaRecoveryCodeHashes).mpr fun storedHash mem => by
      obtain ⟨code, rfl⟩ := enrolled.hashes storedHash mem
      exact ascii.digests _
  rw [checked, CopyTrading.remainingHashes_eq checked]
  rfl

/-- A text of digits only is taken for a one-time code, and is too long for one. -/
theorem challenge_digits {user : User} (enrolled : Enrolled py user) {text : String}
    (moment : Instant) (s : UserSession ι) (digits : isDigits py text = true)
    (long : text.length ≠ 6) : challengeAnswer py user text moment s = (.ok false, s) := by
  obtain ⟨encrypted, secret, stored, decrypts⟩ := enrolled.stored
  unfold challengeAnswer digitsAnswer
  rw [enrolled.enabled, stored]
  dsimp only
  rw [if_pos digits, decrypts]
  dsimp only
  rw [if_neg long]

/-- Any other text is compared with the stored hashes. -/
theorem challenge_letters {user : User} (enrolled : Enrolled py user) {text : String}
    (moment : Instant) (s : UserSession ι) (other : ¬ isDigits py text = true) :
    challengeAnswer py user text moment s = recoveryAnswer py user text s := by
  obtain ⟨encrypted, secret, stored, -⟩ := enrolled.stored
  unfold challengeAnswer
  rw [enrolled.enabled, stored]
  dsimp only
  rw [if_neg other]

/-- A stored code passes and is removed. -/
theorem recoveryAnswer_stored {loaded user : User} {s : UserSession ι} (enrolled : Enrolled py user)
    (ascii : AsciiDigests py) {text : String} (held : s.user = some (loaded, user))
    (stored : candidateHash py text ∈ user.mfaRecoveryCodeHashes) :
    (recoveryAnswer py user text s).1 = .ok true ∧
      (recoveryAnswer py user text s).2.user =
        some (loaded, user.withoutHash (candidateHash py text)) := by
  have shorter : (user.withoutHash (candidateHash py text)).mfaRecoveryCodeHashes.length ≠
      user.mfaRecoveryCodeHashes.length := by
    have lengths := length_eq_count_add (candidateHash py text) user.mfaRecoveryCodeHashes
    have counted := List.count_pos_iff.mpr stored
    unfold User.withoutHash
    dsimp only
    omega
  unfold recoveryAnswer
  rw [enrolled.remainingHashes_eq ascii]
  dsimp only
  rw [if_neg shorter, UserSession.passing, held]
  exact ⟨rfl, rfl⟩

/-- A code that is not stored does not pass. -/
theorem recoveryAnswer_absent {user : User} (s : UserSession ι) (enrolled : Enrolled py user)
    (ascii : AsciiDigests py) {text : String}
    (absent : candidateHash py text ∉ user.mfaRecoveryCodeHashes) :
    recoveryAnswer py user text s = (.ok false, s) := by
  have whole : (user.withoutHash (candidateHash py text)).mfaRecoveryCodeHashes.length =
      user.mfaRecoveryCodeHashes.length := by
    have lengths := length_eq_count_add (candidateHash py text) user.mfaRecoveryCodeHashes
    have counted := List.count_eq_zero.mpr absent
    unfold User.withoutHash
    dsimp only
    omega
  unfold recoveryAnswer
  rw [enrolled.remainingHashes_eq ascii]
  dsimp only
  rw [if_pos whole]

/-- A formatting of a recovery code whose hash is stored works once exactly when it is not all
digits. -/
theorem recovery_code_works_iff [DecidableEq ι] (ascii : py.toPlatform.Ascii)
    (digests : AsciiDigests py) {loaded user : User} {s : UserSession ι} {code text : String}
    (generated : CanGenerate ι py code) (formats : Formats code text)
    (enrolled : Enrolled py user) (stored : hashRecoveryCode py code ∈ user.mfaRecoveryCodeHashes)
    (held : s.user = some (loaded, user)) :
    WorksOnce py loaded user code text s ↔ isDigits py text = false := by
  obtain ⟨value, token, rfl⟩ := generated.exists_token
  obtain ⟨digits, spelled⟩ := exists_spelled ascii token
  have candidate {text : String} (formats : Formats (recoveryCodeOf py value) text) :
      candidateHash py text = hashRecoveryCode py (recoveryCodeOf py value) := by
    rw [(spelled.formats formats).candidate ascii, spelled.hashed ascii]
  have ends (moment : Instant) (ends : Except IdentityExc Bool × UserSession ι) :
      ChallengeEnds py user.id text moment s ends ↔
        ends = challengeAnswer py user text moment s :=
    challengeEnds_iff user.id text moment held ends
  constructor
  · intro works
    obtain ⟨⟨answer, ended⟩, passes⟩ := works 0
    by_contra allDigits
    have refused := challenge_digits enrolled 0 s (by simpa using allDigits)
      (spelled.formats formats).long
    obtain ⟨passed, -⟩ := passes answer ended
    rw [(ends 0 answer).mp ended, refused] at passed
    cases passed
  · intro other moment
    have other : ¬ isDigits py text = true := by simp [other]
    refine ⟨⟨_, (ends moment _).mpr rfl⟩, fun answer ended => ?_⟩
    rw [(ends moment answer).mp ended, challenge_letters enrolled moment s other]
    rw [← candidate formats] at stored ⊢
    obtain ⟨passed, removed⟩ := recoveryAnswer_stored enrolled digests held stored
    refine ⟨passed, removed, fun text' moment' loaded' s' ends' formats' held' ended' => ?_⟩
    have left := enrolled.withoutHash (candidateHash py text)
    rw [(challengeEnds_iff user.id text' moment' held' ends').mp ended']
    by_cases allDigits : isDigits py text' = true
    · rw [challenge_digits left moment' s' allDigits (spelled.formats formats').long]
    · rw [challenge_letters left moment' s' allDigits, recoveryAnswer_absent s' left digests]
      rw [candidate formats', ← candidate formats]
      simp [User.withoutHash]

/-- A code that can be drawn. -/
theorem canGenerate_recoveryCodeOf {value : String} (token : IsTokenHex 8 value) :
    CanGenerate Unit py (recoveryCodeOf py value) := by
  obtain ⟨store⟩ : Nonempty (UserStore Unit) := ⟨{ users := Table.empty }⟩
  have answered : (identitySemantics Unit).Answers store (.tokenHex 8) value store := rfl
  have run : Prog.Run (identitySemantics Unit) (generateRecoveryCode py sampleSession) store
      ([] ++ [.call (.tokenHex 8) value store store])
      (.done (.ok (recoveryCodeOf py value), sampleSession)) store := .snoc .nil (.call answered)
  exact ⟨_, _, _, _, _, run, by simpa [DrawsHex] using token⟩

/-- The sample user with one recovery code. -/
def codeUser : User := { sampleUser with mfaRecoveryCodeHashes := ["00"] }

theorem codeUser_enrolled : Enrolled plainIdentity codeUser where
  enabled := rfl
  stored := ⟨"A", "A", rfl, rfl⟩
  hashes _ mem := ⟨"", List.mem_singleton.mp mem⟩

def codeSession : UserSession Unit := { who := (), user := some (codeUser, codeUser) }

theorem recovery_code_works_iff_mixed :
    WorksOnce plainIdentity codeUser codeUser "0A1B-2C3D-4E5F-6789" "0a1b2c3d 4e5f6789"
      codeSession := by
  have code : "0A1B-2C3D-4E5F-6789" = recoveryCodeOf plainIdentity "0a1b2c3d4e5f6789" := by decide
  have generated : CanGenerate Unit plainIdentity "0A1B-2C3D-4E5F-6789" := by
    rw [code]
    exact canGenerate_recoveryCodeOf (by decide)
  have formats : Formats "0A1B-2C3D-4E5F-6789" "0a1b2c3d 4e5f6789" := by decide
  exact (recovery_code_works_iff asciiPlatform_ascii plainIdentity_asciiDigests generated formats
    codeUser_enrolled List.mem_cons_self rfl).mpr (by decide)

/-- A code without letters, typed without its dashes, is refused. -/
theorem digits_only_code_refused :
    CanGenerate Unit plainIdentity "1111-2222-3333-4444" ∧
      Formats "1111-2222-3333-4444" "1111222233334444" ∧
      hashRecoveryCode plainIdentity "1111-2222-3333-4444" ∈ codeUser.mfaRecoveryCodeHashes ∧
      ¬ WorksOnce plainIdentity codeUser codeUser "1111-2222-3333-4444" "1111222233334444"
        codeSession := by
  have code : "1111-2222-3333-4444" = recoveryCodeOf plainIdentity "1111222233334444" := by decide
  refine ⟨?_, by decide, List.mem_cons_self, fun works => ?_⟩
  · rw [code]
    exact canGenerate_recoveryCodeOf (by decide)
  · have refused : challengeAnswer plainIdentity codeUser "1111222233334444" 60000000 codeSession =
        (.ok false, codeSession) :=
      challenge_digits codeUser_enrolled 60000000 codeSession (by decide) (by decide)
    have ended := (challengeEnds_iff codeUser.id "1111222233334444" 60000000 rfl _).mpr refused.symm
    obtain ⟨passed, -⟩ := (works 60000000).2 _ ended
    cases passed

end CopyTrading
