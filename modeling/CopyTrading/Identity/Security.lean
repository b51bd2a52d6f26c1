import CopyTrading.Models
import CopyTrading.Text.Base64

/-!
Password hashes and signed tokens. A token is a header, a payload and the tag of both,
each in URL-safe Base64; its payload names a user, the user's authentication version, a
purpose and an expiry.
-/

namespace CopyTrading

open Transaction

/-- The exceptions of the identity services. -/
inductive IdentityExc where
  | httpException (status : Nat) (detail : String)
  | mfaRequired
  | mfaEnrollment (message : String)
  | mfaVerification (message : String)
  | passwordChange (message : String)
  | reauthentication (message : String)
  | valueError
  | typeError
  | attributeError
  | invalidToken
  | objectDeleted
  | databaseError
  deriving DecidableEq, Repr

/-- Settings, cryptography, and the parts of the runtime tokens and codes go through. -/
structure IdentityPlatform extends Platform where
  jwtSecretKey : String
  jwtExpiresMinutes : Int
  secretEncryptionKey : String
  hmacSha256 : List UInt8 → List UInt8 → List UInt8
  pbkdf2HmacSha256 : List UInt8 → List UInt8 → Int → List UInt8
  /-- `hexdigest()`. -/
  hexDigest : List UInt8 → String
  /-- `pyotp.TOTP(secret, interval=30).at(seconds)`, `none` when it raises. -/
  totpAt : String → Int → Option String
  /-- `str.isdigit` of one code point. -/
  isDigit : Char → Bool
  /-- `repr(float(text))`. -/
  readFloat : String → String
  /-- `int(value)` of a float with this `repr`. -/
  intOfFloat : String → Option Int
  /-- `bytes.decode` with an encoding other than UTF-8 that `json.loads` detects. -/
  decodeDetected : List UInt8 → Option String

def utf8 (text : String) : List UInt8 := text.toUTF8.data.toList

/-- `bytes.decode("utf-8")`. -/
def decodeUtf8 (bytes : List UInt8) : Option String := String.fromUTF8? ⟨bytes.toArray⟩

theorem decodeUtf8_utf8 (text : String) : decodeUtf8 (utf8 text) = some text := by
  unfold decodeUtf8 utf8 String.fromUTF8?
  rw [Array.toArray_toList]
  exact dif_pos text.isValidUTF8

def isAscii (text : String) : Bool := text.toList.all (·.toNat < 128)

/-- `hmac.compare_digest` of two texts, which have to be ASCII. -/
def compareDigest (a b : String) : Except IdentityExc Bool :=
  if isAscii a && isAscii b then .ok (a == b) else .error .typeError

def b64encode (value : List UInt8) : String := String.ofList (Base64Text.encode value)

def b64decode (value : String) : Except IdentityExc (List UInt8) :=
  match Base64Text.decode value.toList with
  | some bytes => .ok bytes
  | none => .error .valueError

theorem b64decode_b64encode (bytes : List UInt8) : b64decode (b64encode bytes) = .ok bytes := by
  unfold b64decode b64encode
  rw [String.toList_ofList, Base64Text.decode_encode]

theorem isAscii_b64encode (bytes : List UInt8) : isAscii (b64encode bytes) = true := by
  unfold isAscii b64encode
  rw [String.toList_ofList, List.all_eq_true]
  intro c mem
  obtain ⟨n, h, rfl⟩ := Base64Text.mem_encode mem
  exact decide_eq_true (Base64Text.digit_spec h).2.2.2

theorem compareDigest_self {text : String} (ascii : isAscii text = true) :
    compareDigest text text = .ok true := by
  simp [compareDigest, ascii]

/-! ### Splitting -/

/-- What stands before and after the first `separator`. -/
def splitOnce (separator : Char) : List Char → Option (List Char × List Char)
  | [] => none
  | c :: rest =>
      if c = separator then some ([], rest)
      else (splitOnce separator rest).map fun (first, last) => (c :: first, last)

theorem splitOnce_append {separator : Char} {first : List Char} (absent : separator ∉ first)
    (last : List Char) : splitOnce separator (first ++ separator :: last) = some (first, last) := by
  induction first with
  | nil => simp [splitOnce]
  | cons c first ih =>
    obtain ⟨different, rest⟩ := not_or.mp (List.mem_cons.not.mp absent)
    rw [List.cons_append, splitOnce, if_neg (Ne.symm different), ih rest]
    rfl

/-! ### Passwords -/

def hashIterations : Int := 390000

/-- `hash_password` with the salt it drew. -/
def hashPassword (py : IdentityPlatform) (salt : List UInt8) (password : String) : String :=
  "pbkdf2_sha256$" ++ toString hashIterations ++ "$" ++ b64encode salt ++ "$" ++
    b64encode (py.pbkdf2HmacSha256 (utf8 password) salt hashIterations)

def verifyPassword (py : IdentityPlatform) (password passwordHash : String) :
    Except IdentityExc Bool :=
  match splitOnce '$' passwordHash.toList with
  | none => .ok false
  | some (algorithm, rest) =>
    match splitOnce '$' rest with
    | none => .ok false
    | some (iterations, rest) =>
      match splitOnce '$' rest with
      | none => .ok false
      | some (salt, expected) =>
        if String.ofList algorithm ≠ "pbkdf2_sha256" then .ok false
        else do
          let salt ← b64decode (String.ofList salt)
          match parseInt py.toPlatform (String.ofList iterations) with
          | none => .error .valueError
          | some iterations =>
            if iterations < 1 then .error .valueError
            else
              compareDigest (b64encode (py.pbkdf2HmacSha256 (utf8 password) salt iterations))
                (String.ofList expected)

/-! ### Tokens -/

def secondMicros : Int := 1000000

/-- `int(moment.timestamp())`. -/
def timestampSeconds (moment : Instant) : Int := moment.tdiv secondMicros

def reauthenticationTokenMinutes : Int := 5

def sign (py : IdentityPlatform) (value : String) : String :=
  b64encode (py.hmacSha256 (utf8 py.jwtSecretKey) (utf8 value))

def jsonB64 (value : List (String × Json)) : String := b64encode (utf8 (Json.obj value).dumps)

def tokenHeader : List (String × Json) := [("alg", .str "HS256"), ("typ", .str "JWT")]

def tokenPayload (subject : String) (authVersion : Int) (purpose : String) (expiry : Int) :
    List (String × Json) :=
  [("sub", .str subject), ("ver", .int authVersion), ("purpose", .str purpose), ("exp", .int expiry)]

/-- The text of a token with a given payload. -/
def tokenOf (py : IdentityPlatform) (payload : List (String × Json)) : String :=
  let signingInput := jsonB64 tokenHeader ++ "." ++ jsonB64 payload
  signingInput ++ "." ++ sign py signingInput

/-- `_create_token`, at the moment `now`. -/
def createToken (py : IdentityPlatform) (subject : String) (authVersion : Int) (purpose : String)
    (expiresDelta : Int) (now : Instant) : String :=
  tokenOf py (tokenPayload subject authVersion purpose (timestampSeconds (now + expiresDelta)))

/-- A zero `expires_delta` is falsy and gives the default lifetime. -/
def createAccessToken (py : IdentityPlatform) (subject : String) (authVersion : Int)
    (expiresDelta : Option Int) (now : Instant) : String :=
  let default := 60 * secondMicros * py.jwtExpiresMinutes
  let tokenLifetime := match expiresDelta with
    | some delta => if delta = 0 then default else delta
    | none => default
  createToken py subject authVersion "access" tokenLifetime now

def createReauthenticationToken (py : IdentityPlatform) (subject : String) (authVersion : Int)
    (now : Instant) : String :=
  createToken py subject authVersion "reauthentication"
    (60 * secondMicros * reauthenticationTokenMinutes) now

/-! ### Reading a token -/

/-- What `json.loads` takes for UTF-8: no byte order mark, and no zero among the first two
bytes of two, or of four and more. -/
def detectsUtf8 (bytes : List UInt8) : Bool :=
  !([0xEF, 0xBB, 0xBF].isPrefixOf bytes || [0xFE, 0xFF].isPrefixOf bytes ||
    [0xFF, 0xFE].isPrefixOf bytes) &&
  if bytes.length = 2 ∨ 4 ≤ bytes.length then (bytes.take 2).all (· ≠ 0) else true

/-- `json.loads` of bytes. -/
def loadsBytes (py : IdentityPlatform) (bytes : List UInt8) : Except IdentityExc Json :=
  let text := if detectsUtf8 bytes then decodeUtf8 bytes else py.decodeDetected bytes
  match text.bind (Json.loads py.readFloat) with
  | some value => .ok value
  | none => .error .valueError

/-- `int(value)` of a JSON value. -/
def intOfJson (py : IdentityPlatform) : Json → Except IdentityExc Int
  | .int value => .ok value
  | .bool value => .ok (if value then 1 else 0)
  | .float repr =>
      match py.intOfFloat repr with
      | some value => .ok value
      | none => .error .valueError
  | .str text =>
      match parseInt py.toPlatform text with
      | some value => .ok value
      | none => .error .valueError
  | .null | .arr _ | .obj _ => .error .typeError

/-- The payload of a token whose tag is right and that has not expired at the moment `now`. -/
def decodeAccessToken (py : IdentityPlatform) (token : String) (now : Instant) :
    Except IdentityExc (Option (List (String × Json))) :=
  match splitOnce '.' token.toList with
  | none => .ok none
  | some (headerB64, rest) =>
    match splitOnce '.' rest with
    | none => .ok none
    | some (payloadB64, signature) => do
      let signingInput := String.ofList headerB64 ++ "." ++ String.ofList payloadB64
      if !(← compareDigest (sign py signingInput) (String.ofList signature)) then
        return none
      let bytes ← b64decode (String.ofList payloadB64)
      match ← loadsBytes py bytes with
      | .obj payload =>
        let expiresAt ← intOfJson py ((Json.lookup "exp" payload).getD (.int 0))
        if expiresAt < timestampSeconds now then return none
        return some payload
      | _ => .error .attributeError

/-! ### What was issued reads back -/

theorem detectsUtf8_object (fields : List Char) :
    detectsUtf8 (utf8 (String.ofList ('\x7b' :: '"' :: fields))) = true := by
  have bytes : utf8 (String.ofList ('\x7b' :: '"' :: fields)) =
      0x7B :: 0x22 :: utf8 (String.ofList fields) := by
    unfold utf8
    simp only [String.toUTF8_eq_toByteArray, String.toByteArray_ofList]
    change (['\x7b'] ++ (['"'] ++ fields)).utf8Encode.data.toList = _
    rw [List.utf8Encode_append, List.utf8Encode_append]
    simp only [ByteArray.data_append, Array.toList_append]
    rfl
  rw [bytes]
  simp [detectsUtf8, List.isPrefixOf]

theorem plain_tokenPayload (subject : String) (authVersion : Int) (purpose : String)
    (expiry : Int) : (Json.obj (tokenPayload subject authVersion purpose expiry)).Plain := by
  simp [tokenPayload, Json.Plain, Json.PlainFields]

theorem loadsBytes_tokenPayload (py : IdentityPlatform) (subject : String) (authVersion : Int)
    (purpose : String) (expiry : Int) :
    loadsBytes py (utf8 (Json.obj (tokenPayload subject authVersion purpose expiry)).dumps) =
      .ok (.obj (tokenPayload subject authVersion purpose expiry)) := by
  have utf : detectsUtf8 (utf8 (Json.obj (tokenPayload subject authVersion purpose expiry)).dumps)
      = true := detectsUtf8_object _
  unfold loadsBytes
  rw [if_pos utf, decodeUtf8_utf8]
  dsimp only [Option.bind_some]
  rw [Json.loads_dumps py.readFloat (plain_tokenPayload subject authVersion purpose expiry)]

/-- A token decodes to the payload it was created from until it expires. -/
theorem decodeAccessToken_tokenOf (py : IdentityPlatform) (subject : String) (authVersion : Int)
    (purpose : String) (expiry : Int) (now : Instant) :
    decodeAccessToken py (tokenOf py (tokenPayload subject authVersion purpose expiry)) now =
      .ok (if expiry < timestampSeconds now then none
        else some (tokenPayload subject authVersion purpose expiry)) := by
  have split : (tokenOf py (tokenPayload subject authVersion purpose expiry)).toList =
      Base64Text.encode (utf8 (Json.obj tokenHeader).dumps) ++ '.' ::
        (Base64Text.encode (utf8 (Json.obj (tokenPayload subject authVersion purpose expiry)).dumps) ++
          '.' :: (sign py (jsonB64 tokenHeader ++ "." ++
            jsonB64 (tokenPayload subject authVersion purpose expiry))).toList) := by
    unfold tokenOf
    simp only [String.toList_append]
    simp [jsonB64, b64encode]
  unfold decodeAccessToken
  rw [split, splitOnce_append (Base64Text.dot_notMem_encode _)]
  dsimp only
  rw [splitOnce_append (Base64Text.dot_notMem_encode _)]
  dsimp only
  rw [String.ofList_toList]
  have signed : compareDigest
      (sign py (String.ofList (Base64Text.encode (utf8 (Json.obj tokenHeader).dumps)) ++ "." ++
        String.ofList (Base64Text.encode
          (utf8 (Json.obj (tokenPayload subject authVersion purpose expiry)).dumps))))
      (sign py (jsonB64 tokenHeader ++ "." ++
        jsonB64 (tokenPayload subject authVersion purpose expiry))) = .ok true :=
    compareDigest_self (isAscii_b64encode _)
  rw [signed]
  have read := b64decode_b64encode
    (utf8 (Json.obj (tokenPayload subject authVersion purpose expiry)).dumps)
  unfold b64encode at read
  simp only [Except.bind, bind, Bool.not_true, Bool.false_eq_true, if_false, read,
    loadsBytes_tokenPayload]
  have expires : Json.lookup "exp" (tokenPayload subject authVersion purpose expiry) =
      some (.int expiry) := rfl
  simp only [expires, Option.getD_some, intOfJson]
  split
  · rfl
  · rfl

end CopyTrading
