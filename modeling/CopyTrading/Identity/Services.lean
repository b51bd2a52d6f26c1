import CopyTrading.Identity.Users

/-!
Login, reauthentication, password change and multi-factor authentication: the services and
the requests that use them.
-/

namespace CopyTrading

open Transaction

variable {ι : Type} (py : IdentityPlatform)

/-! ### Multi-factor codes -/

def totpIntervalSeconds : Int := 30

def recoveryCodeCount : Nat := 8

/-- `code.isdigit()`. -/
def isDigits (code : String) : Bool := code ≠ "" && code.toList.all py.isDigit

def normalizeRecoveryCode (code : String) : String :=
  py.upper (String.ofList ((code.toList.filter (· ≠ '-')).filter (· ≠ ' ')))

def hashRecoveryCode (code : String) : String :=
  py.hexDigest
    (py.hmacSha256 (utf8 py.secretEncryptionKey) (utf8 (normalizeRecoveryCode py code)))

def groupsOfFour : List Char → List (List Char)
  | a :: b :: c :: d :: rest => [a, b, c, d] :: groupsOfFour rest
  | [] => []
  | rest => [rest]

def generateRecoveryCode : UserService ι String := do
  let value ← UserSession.ask (.tokenHex 8)
  return String.ofList (List.intercalate ['-'] (groupsOfFour (py.upper value).toList))

def generateRecoveryCodes : Nat → UserService ι (List String)
  | 0 => return []
  | count + 1 => do
    let code ← generateRecoveryCode py
    let codes ← generateRecoveryCodes count
    return code :: codes

/-- The first step of the window that is later than the last used one and gives the code. -/
def firstMatch (secret code : String) (lastUsedStep : Option Int) (currentStep : Int) :
    List Int → Except IdentityExc (Option Int)
  | [] => .ok none
  | offset :: rest =>
      let candidateStep := currentStep + offset
      if lastUsedStep.any (candidateStep ≤ ·) then
        firstMatch secret code lastUsedStep currentStep rest
      else
        match py.totpAt secret (candidateStep * totpIntervalSeconds) with
        | none => .error .valueError
        | some expected => do
          if ← compareDigest expected code then return some candidateStep
          else firstMatch secret code lastUsedStep currentStep rest

/-- A step that is used now is later than the one used last. -/
theorem firstMatch_later {secret code : String} {last step currentStep : Int} {offsets : List Int}
    (found : firstMatch py secret code (some last) currentStep offsets = .ok (some step)) :
    last < step := by
  induction offsets with
  | nil => cases found
  | cons offset rest ih =>
    rw [firstMatch] at found
    split at found
    · exact ih found
    · next later =>
      split at found
      · cases found
      · next expected _ =>
        cases hcompare : compareDigest expected code with
        | error raised => simp [hcompare, bind, Except.bind] at found
        | ok same =>
          cases same with
          | false =>
            simp only [hcompare, bind, Except.bind, Bool.false_eq_true, if_false] at found
            exact ih found
          | true =>
            simp only [hcompare, bind, Except.bind, if_true, pure, Except.pure,
              Except.ok.injEq, Option.some.injEq] at found
            simp only [Option.any_some, decide_eq_true_eq, not_le] at later
            rw [← found]
            exact later

def matchTotp (secret code : String) (lastUsedStep : Option Int) (now : Option Instant) :
    UserService ι (Option Int) := do
  if code.length ≠ 6 ∨ isDigits py code = false then return none
  let moment ← match now with
    | some moment => pure moment
    | none => UserSession.ask .utcNow
  let currentStep := timestampSeconds moment / totpIntervalSeconds
  Handler.ofExcept (firstMatch py secret code lastUsedStep currentStep [-1, 0, 1])

def decryptMfaSecret (encrypted : String) : UserService ι String :=
  match py.decryptSecret encrypted with
  | some secret => pure secret
  | none => throw .invalidToken

/-- The stored hashes that are not the candidate's. -/
def remainingHashes (candidateHash : String) : List String → Except IdentityExc (List String)
  | [] => .ok []
  | storedHash :: rest => do
      let same ← compareDigest storedHash candidateHash
      let remaining ← remainingHashes candidateHash rest
      return if same then remaining else storedHash :: remaining

def useRecoveryCode (user : User) (code : String) : UserService ι Bool := do
  let candidateHash := hashRecoveryCode py (normalizeRecoveryCode py code)
  let remaining ← Handler.ofExcept (remainingHashes candidateHash user.mfaRecoveryCodeHashes)
  if remaining.length = user.mfaRecoveryCodeHashes.length then return false
  UserSession.set fun user => { user with mfaRecoveryCodeHashes := remaining }
  UserSession.log
    { userId := user.id, action := "user.mfa.recovery_code.used", severity := "WARNING"
      payload := [("user_id", .str user.id), ("remaining_recovery_codes", .int remaining.length)] }
  UserSession.verify user.id (.recoveryCode candidateHash)
  return true

def useTotp (user : User) (encrypted code : String) (now : Option Instant) :
    UserService ι Bool := do
  let secret ← decryptMfaSecret py encrypted
  match ← matchTotp py secret code user.mfaLastUsedStep now with
  | none => return false
  | some matchedStep =>
    UserSession.set fun user => { user with mfaLastUsedStep := some matchedStep }
    UserSession.verify user.id (.totpStep matchedStep)
    return true

/-- A code that is all digits is a time-based one, any other a recovery code. -/
def verifyMfaChallenge (id code : String) (now : Option Instant := none) :
    UserService ι Bool := do
  let user ← UserSession.current id
  match user.mfaEnabled, user.mfaSecretEncrypted with
  | true, some encrypted =>
    if isDigits py code then useTotp py user encrypted code now
    else useRecoveryCode py user code
  | _, _ => return false

/-! ### The MFA services -/

def startMfaEnrollment (id : String) (issuerName : String := "Crypto Trading Platform") :
    UserService ι (String × String) := do
  let user ← UserSession.current id
  Handler.raiseIf (user.mfaEnabled = true) (.mfaEnrollment "mfa is already enabled")
  let secret ← UserSession.ask .randomBase32
  let encrypted ← UserSession.ask (.encryptSecret secret)
  UserSession.set fun user => { user with mfaPendingSecretEncrypted := some encrypted }
  UserSession.log
    { userId := user.id, action := "user.mfa.enrollment.started", severity := "INFO"
      payload := [("user_id", .str user.id)] }
  UserSession.commit
  let user ← UserSession.current id
  let provisioningUri ← UserSession.ask (.provisioningUri secret user.email issuerName)
  return (secret, provisioningUri)

def confirmMfaEnrollment (id code : String) (now : Option Instant := none) :
    UserService ι (List String) := do
  let user ← UserSession.current id
  match user.mfaEnabled, user.mfaPendingSecretEncrypted with
  | false, some encryptedSecret =>
    let secret ← decryptMfaSecret py encryptedSecret
    match ← matchTotp py secret code none now with
    | none => throw (.mfaVerification "invalid mfa code")
    | some matchedStep =>
      let recoveryCodes ← generateRecoveryCodes py recoveryCodeCount
      UserSession.set fun user =>
        { user with
          mfaSecretEncrypted := some encryptedSecret
          mfaPendingSecretEncrypted := none
          mfaEnabled := true
          mfaLastUsedStep := some matchedStep
          mfaRecoveryCodeHashes := recoveryCodes.map (hashRecoveryCode py)
          authVersion := user.authVersion + 1 }
      UserSession.log
        { userId := user.id, action := "user.mfa.enabled", severity := "WARNING"
          payload :=
            [("user_id", .str user.id), ("recovery_code_count", .int recoveryCodes.length),
              ("new_auth_version", .int (user.authVersion + 1))] }
      UserSession.commit
      return recoveryCodes
  | _, _ => throw (.mfaEnrollment "mfa enrollment is not pending")

/-- What `disable_mfa` makes of a user. -/
def User.withoutMfa (user : User) : User :=
  { user with
    mfaEnabled := false, mfaSecretEncrypted := none, mfaPendingSecretEncrypted := none
    mfaLastUsedStep := none, mfaRecoveryCodeHashes := [], authVersion := user.authVersion + 1 }

def disableMfa (id code : String) (now : Option Instant := none) : UserService ι Unit := do
  let user ← UserSession.current id
  Handler.raiseIf (user.mfaEnabled = false) (.mfaEnrollment "mfa is not enabled")
  let verified ← verifyMfaChallenge py id code now
  Handler.raiseIf (verified = false) (.mfaVerification "invalid mfa code")
  UserSession.set User.withoutMfa
  UserSession.log
    { userId := user.id, action := "user.mfa.disabled", severity := "CRITICAL"
      payload := [("user_id", .str user.id), ("new_auth_version", .int (user.authVersion + 1))] }
  UserSession.commit

/-! ### The user services -/

/-- The row is locked until the session ends or commits. -/
def authenticateUser (usernameOrEmail password : String) (mfaCode : Option String) :
    UserService ι (Option String) := do
  let session ← Handler.session
  match ← UserSession.ask (.lockUser session.who usernameOrEmail) with
  | none => return none
  | some row =>
    let user ← UserSession.hold row
    if user.isActive = false then return none
    if !(← Handler.ofExcept (verifyPassword py password user.passwordHash)) then return none
    if user.mfaEnabled then
      match mfaCode with
      | none => throw .mfaRequired
      | some code =>
        if ← verifyMfaChallenge py user.id code then
          UserSession.commit
          return some user.id
        else return none
    else return some user.id

def reauthenticationLog (id action severity : String) (payload : List (String × Json)) :
    UserAuditLog where
  userId := id
  action := action
  severity := severity
  payload := ("user_id", .str id) :: payload

def recordReauthentication (id password : String) : UserService ι Unit := do
  let user ← UserSession.current id
  if ← Handler.ofExcept (verifyPassword py password user.passwordHash) then
    UserSession.log
      (reauthenticationLog user.id "user.reauthentication.succeeded" "INFO" [])
    UserSession.commit
  else
    UserSession.log
      (reauthenticationLog user.id "user.reauthentication.failed" "WARNING"
        [("reason", .str "invalid_password")])
    UserSession.commit
    throw (.reauthentication "password reauthentication failed")

def changePassword (id currentPassword newPassword : String) : UserService ι Unit := do
  let user ← UserSession.current id
  let current ← Handler.ofExcept (verifyPassword py currentPassword user.passwordHash)
  Handler.raiseIf (current = false) (.passwordChange "current password is invalid")
  let same ← Handler.ofExcept (verifyPassword py newPassword user.passwordHash)
  Handler.raiseIf (same = true)
    (.passwordChange "new password must differ from current password")
  let salt ← UserSession.ask (.tokenBytes 16)
  UserSession.set fun user =>
    { user with
      passwordHash := hashPassword py salt newPassword
      authVersion := user.authVersion + 1 }
  UserSession.log
    { userId := user.id, action := "user.password.changed", severity := "WARNING"
      payload :=
        [("user_id", .str user.id), ("revoked_auth_version", .int user.authVersion),
          ("new_auth_version", .int (user.authVersion + 1))] }
  UserSession.commit

/-- `db.get(User, user_id)`. -/
def getUserById (id : String) : UserService ι (Option User) := do
  match ← UserSession.query (·.find? (·.id = id)) with
  | none => return none
  | some row => some <$> UserSession.hold row

/-! ### Dependencies -/

/-- `value == text`. -/
def isText (text : String) : Json → Bool
  | .str value => value = text
  | _ => false

/-- `value == number`, for a number of the `Integer` column. -/
def isNumber (number : Int) : Json → Bool
  | .int value => value = number
  | .bool value => (if value then 1 else 0) = number
  | .float repr => repr = toString number ++ ".0" || repr = "-0.0" && number = 0
  | _ => false

def unauthorized (detail : String) : IdentityExc := .httpException 401 detail

/-- The payload may be used as an access token. -/
def isAccessPayload (payload : List (String × Json)) : Bool :=
  isTruthy (Json.get payload "sub") &&
    isText "access" ((Json.lookup "purpose" payload).getD (.str "access"))

/-- The payload is a recent reauthentication of this user. -/
def isReauthenticationOf (user : User) (payload : List (String × Json)) : Bool :=
  isText "reauthentication" (Json.get payload "purpose") &&
    isText user.id (Json.get payload "sub") && isNumber user.authVersion (Json.get payload "ver")

/-- The user an access payload names, when it is active and has not revoked the token. -/
def getPayloadUser (payload : List (String × Json)) : UserService ι User := do
  match ← getUserById (py.strOf (Json.get payload "sub")) with
  | none => throw (unauthorized "inactive or missing user")
  | some user =>
    Handler.raiseIf (user.isActive = false) (unauthorized "inactive or missing user")
    Handler.raiseIf (isNumber user.authVersion (Json.get payload "ver") = false)
      (unauthorized "authentication token has been revoked")
    return user

def getCurrentUser (token : String) : UserService ι User := do
  let now ← UserSession.ask .utcNow
  match ← Handler.ofExcept (decodeAccessToken py token now) with
  | none => throw (unauthorized "invalid authentication token")
  | some payload =>
    if isAccessPayload payload then getPayloadUser py payload
    else throw (unauthorized "invalid authentication token")

def getReauthenticatedUser (token : String) (xReauthToken : Option String) :
    UserService ι User := do
  let currentUser ← getCurrentUser py token
  let now ← UserSession.ask .utcNow
  match ← Handler.ofExcept (decodeAccessToken py (xReauthToken.getD "") now) with
  | none => throw (unauthorized "recent password reauthentication required")
  | some payload =>
    if isReauthenticationOf currentUser payload then return currentUser
    else throw (unauthorized "recent password reauthentication required")

/-! ### Requests -/

inductive IdentityRequest where
  | login (usernameOrEmail password : String) (mfaCode : Option String)
  | reauthenticate (token password : String)
  | updatePassword (token currentPassword newPassword : String)
  | enrollMfa (token : String) (xReauthToken : Option String)
  | confirmMfa (token : String) (xReauthToken : Option String) (code : String)
  | removeMfa (token : String) (xReauthToken : Option String) (code : String)

inductive IdentityResponse where
  | token (accessToken : String)
  | reauthentication (reauthenticationToken : String)
  | passwordChanged
  | mfaEnrollment (provisioningUri manualEntryKey : String)
  | mfaConfirmed (recoveryCodes : List String)
  | mfaDisabled
  deriving DecidableEq

def login (usernameOrEmail password : String) (mfaCode : Option String) :
    UserService ι IdentityResponse := do
  let found ← tryCatch (authenticateUser py usernameOrEmail password mfaCode) fun raised =>
    match raised with
    | .mfaRequired => throw (unauthorized "mfa code required")
    | other => throw other
  match found with
  | none => throw (unauthorized "invalid username/email, password, or mfa code")
  | some id =>
    let user ← UserSession.current id
    let now ← UserSession.ask .utcNow
    return .token (createAccessToken py user.id user.authVersion none now)

def reauthenticate (token password : String) : UserService ι IdentityResponse := do
  let currentUser ← getCurrentUser py token
  tryCatch (recordReauthentication py currentUser.id password) fun raised =>
    match raised with
    | .reauthentication _ => throw (unauthorized "password reauthentication failed")
    | other => throw other
  let user ← UserSession.current currentUser.id
  let now ← UserSession.ask .utcNow
  return .reauthentication (createReauthenticationToken py user.id user.authVersion now)

def updatePassword (token currentPassword newPassword : String) :
    UserService ι IdentityResponse := do
  let currentUser ← getCurrentUser py token
  tryCatch (changePassword py currentUser.id currentPassword newPassword) fun raised =>
    match raised with
    | .passwordChange _ => throw (.httpException 400 "password change rejected")
    | other => throw other
  return .passwordChanged

def requireSuperAdmin (user : User) : UserService ι Unit :=
  Handler.raiseIf (user.role ≠ .superAdmin)
    (.httpException 403 "super admin privileges required")

/-- The two MFA exceptions become the refusal of the request. -/
def rejectedMfa (refusal raised : IdentityExc) : IdentityExc :=
  match raised with
  | .mfaEnrollment _ | .mfaVerification _ => refusal
  | other => other

def enrollMfa (token : String) (xReauthToken : Option String) :
    UserService ι IdentityResponse := do
  let currentUser ← getReauthenticatedUser py token xReauthToken
  requireSuperAdmin currentUser
  let (secret, provisioningUri) ← tryCatch (startMfaEnrollment currentUser.id) fun raised =>
    match raised with
    | .mfaEnrollment _ => throw (.httpException 409 "mfa enrollment rejected")
    | other => throw other
  return .mfaEnrollment provisioningUri secret

def confirmMfa (token : String) (xReauthToken : Option String) (code : String) :
    UserService ι IdentityResponse := do
  let currentUser ← getReauthenticatedUser py token xReauthToken
  requireSuperAdmin currentUser
  let recoveryCodes ← tryCatch (confirmMfaEnrollment py currentUser.id code) fun raised =>
    throw (rejectedMfa (.httpException 400 "mfa confirmation rejected") raised)
  return .mfaConfirmed recoveryCodes

def removeMfa (token : String) (xReauthToken : Option String) (code : String) :
    UserService ι IdentityResponse := do
  let currentUser ← getReauthenticatedUser py token xReauthToken
  requireSuperAdmin currentUser
  tryCatch (disableMfa py currentUser.id code) fun raised =>
    throw (rejectedMfa (.httpException 400 "mfa disable rejected") raised)
  return .mfaDisabled

def IdentityRequest.handle : IdentityRequest → UserService ι IdentityResponse
  | .login usernameOrEmail password mfaCode => CopyTrading.login py usernameOrEmail password mfaCode
  | .reauthenticate token password => CopyTrading.reauthenticate py token password
  | .updatePassword token currentPassword newPassword =>
      CopyTrading.updatePassword py token currentPassword newPassword
  | .enrollMfa token xReauthToken => CopyTrading.enrollMfa py token xReauthToken
  | .confirmMfa token xReauthToken code => CopyTrading.confirmMfa py token xReauthToken code
  | .removeMfa token xReauthToken code => CopyTrading.removeMfa py token xReauthToken code

/-- A request in a session of its own. -/
def IdentityRequest.serve (request : IdentityRequest) (who : ι) :
    Prog (identity ι) (Except IdentityExc IdentityResponse × UserSession ι) :=
  UserSession.closing (request.handle py) { who := who }

end CopyTrading
