import CopyTrading.Environment
import CopyTrading.Identity.Services

/-!
An environment for schedules of identity requests: a cryptography that tells nothing apart,
a clock that stands still, and a database that makes a session wait for a locked row.
-/

namespace CopyTrading

open Transaction

def plainIdentity : IdentityPlatform :=
  { asciiPlatform with
    jwtSecretKey := ""
    jwtExpiresMinutes := 60
    secretEncryptionKey := ""
    hmacSha256 := fun _ _ => []
    pbkdf2HmacSha256 := fun _ _ _ => []
    hexDigest := fun _ => "00"
    totpAt := fun _ _ => some "000000"
    isDigit := Char.isDigit
    readFloat := fun text => text
    intOfFloat := fun _ => none
    decodeDetected := fun _ => none }

section Replay

variable {ι : Type} [DecidableEq ι]

instance (store : UserStore ι) (who : ι) (id : String) : Decidable (store.Free who id) :=
  inferInstanceAs (Decidable (_ ∨ _))

/-- The first matching row, every commit, and the start of the epoch. -/
def identityScript : Script (identity ι) ι where
  reply _ _ store
    | .lockUser who name => (store.users.find? (·.named name), store.lock who name)
    | .commit who work => (.ok (), (store.write work).release who)
    | .close who => ((), store.release who)
    | .utcNow => ((0 : Int), store)
    | .tokenBytes _ => ([], store)
    | .tokenHex _ => ("00", store)
    | .randomBase32 => ("A", store)
    | .encryptSecret secret => (secret, store)
    | .provisioningUri .. => ("", store)
  ready store
    | .lockUser who name =>
        store.users.rows.all fun row => !row.named name || decide (store.Free who row.id)
    | .commit who work => work.dirty.all fun x => decide (store.Free who x.loaded.id)
    | _ => true

theorem identityScript_allowed :
    (identityScript : Script (identity ι) ι).Allowed (identitySemantics ι) := by
  intro n i store query ready
  cases query with
  | lockUser who name =>
    refine ⟨fun row hrow named => ?_, rfl, ?_⟩
    · have hready := List.all_eq_true.mp ready row hrow
      rw [named] at hready
      exact of_decide_eq_true hready
    · have found : (identityScript.reply n i store (.lockUser who name)).1 =
          store.users.find? (·.named name) := rfl
      rw [found]
      cases hfind : store.users.find? (·.named name) with
      | none =>
        intro row hrow
        simpa using Table.not_of_find?_none hfind hrow
      | some row =>
        exact ⟨Table.mem_of_find? hfind, by simpa using Table.holds_of_find? hfind⟩
  | commit who work =>
    refine ⟨fun x hx => ?_, rfl⟩
    have hx : work.dirty = some x := hx
    have hready : work.dirty.all (fun x => decide (store.Free who x.loaded.id)) = true := ready
    rw [hx] at hready
    exact of_decide_eq_true hready
  | _ => rfl

end Replay

/-! ### Rows -/

/-- An administrator with a second factor enrolled. -/
def sampleUser : User where
  id := "u"
  email := "u@example.org"
  username := "u"
  passwordHash := "pbkdf2_sha256$1$$"
  authVersion := 0
  mfaEnabled := true
  mfaSecretEncrypted := some "A"
  mfaPendingSecretEncrypted := none
  mfaLastUsedStep := none
  mfaRecoveryCodeHashes := []
  role := .superAdmin
  isActive := true

def sampleUsers (ι : Type) : UserStore ι := { users := oneRow sampleUser }

def sampleAccessToken : String := createAccessToken plainIdentity "u" 0 none 0

def sampleReauthToken : String := createReauthenticationToken plainIdentity "u" 0 0

end CopyTrading
