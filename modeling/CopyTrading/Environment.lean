import CopyTrading.OrderEngine
import CopyTrading.Text.Url
import CopyTrading.Transaction.Interleaving

/-!
An environment that schedules can be replayed in: ASCII text, a cipher that hides nothing,
identifiers numbered by the step, and an exchange that answers as it is told. The rows are
those of one user with one account.
-/

namespace CopyTrading

open Transaction DecimalArith

def asciiPlatform : Platform where
  upperChar c := [c.toUpper]
  lower text := String.ofList (text.toList.map Char.toLower)
  isSpace c := c = ' '
  isAlnum := Char.isAlphanum
  digit _ := none
  reprStr text := "'" ++ text ++ "'"
  decryptSecret := some
  hmacSha256Hex _ _ := "00"
  hmacSha256Base64 _ _ := "AA=="
  urlencode := UrlText.urlencode
  dumpsSorted fields := (Json.obj (sortByKey fields)).dumps

theorem toUpper_of_not_lower {c : Char} (other : ¬ ('a'.val ≤ c.val ∧ c.val ≤ 'z'.val)) :
    c.toUpper = c := dif_neg other

theorem asciiPlatform_upperStable : asciiPlatform.UpperStable := by
  intro c upper hupper
  rw [List.mem_singleton.mp hupper]
  change [c.toUpper.toUpper] = [c.toUpper]
  by_cases lower : 'a'.val ≤ c.val ∧ c.val ≤ 'z'.val
  · have shifted : c.toUpper.val = c.val + ('A'.val - 'a'.val) := by
      unfold Char.toUpper
      rw [dif_pos lower]
    rw [toUpper_of_not_lower]
    rw [shifted]
    obtain ⟨above, below⟩ := lower
    rintro ⟨above', below'⟩
    rw [UInt32.le_iff_toNat_le] at above below above' below'
    rw [UInt32.toNat_add] at above' below'
    have shift : ('A'.val - 'a'.val).toNat = 4294967264 := by decide
    have least : 'a'.val.toNat = 97 := by decide
    have most : 'z'.val.toNat = 122 := by decide
    omega
  · rw [toUpper_of_not_lower lower, toUpper_of_not_lower lower]

theorem asciiPlatform_ascii : asciiPlatform.Ascii where
  upper _ _ := rfl
  solid c word := by
    refine decide_eq_false ?_
    rintro rfl
    exact absurd word (by decide)
  alnum _ word := word

/-- How the exchange treats an order: whether it takes it, and what it answers. -/
structure Exchange where
  takes : Bool
  reply : HttpReply

/-- The adapter fills, the rate limiter grants, and the exchange does as `exchange` says. -/
def environment {ι : Type} (exchange : Exchange) : Script backend ι where
  reply step _ world
    | .newUuid => ("id" ++ toString step, world)
    | .utcNow => ((1 : Int), world)
    | .timestampMs => ((0 : Nat), world)
    | .isoTimestamp => ("1970-01-01T00:00:00.000Z", world)
    | .placeOrder _ => (.ok (.obj [("exchange_order_id", .str "mock")]), world)
    | .acquireTestnetOrder .. => (.granted, world)
    | .urlopen request =>
      (exchange.reply,
        match exchange.takes, request.clientOrderId with
        | true, some clientOrderId => { world with book := clientOrderId :: world.book }
        | _, _ => world)
    | .notifyOrderFailure .. => ((), world)
    | .notifyEmergencyStopEnabled _ => ((), world)

theorem environment_allowed {ι : Type} (exchange : Exchange) :
    (environment exchange : Script backend ι).Allowed semantics := by
  intro n i world query _
  cases query with
  | urlopen request =>
    cases htakes : exchange.takes with
    | false => exact .inl (by simp [environment, htakes])
    | true =>
      cases hid : request.clientOrderId with
      | none => exact .inl (by simp [environment, htakes, hid])
      | some clientOrderId =>
        exact .inr ⟨request, clientOrderId, rfl, hid, by simp [environment, htakes, hid]⟩
  | _ => exact .inl rfl

/-! ### Rows -/

def oneRow {ρ : Type} [Row ρ] (row : ρ) : Table ρ := ⟨[row], List.pairwise_singleton _ _⟩

def sampleAccount (accountMode : AccountMode) : ExchangeAccount where
  id := "a"
  userId := "u"
  exchangeName := .binance
  accountMode := accountMode
  accountLabel := "sample"
  tradingEnabled := true
  isActive := true

def sampleRiskSetting : RiskSetting :=
  { defaultRiskSetting "u" "a" with tradingEnabled := true }

/-- One unit of a `Numeric(28, 10)` column. -/
def oneUnit : Quantity := ⟨10000000000, by decide⟩

def sampleSignal (id : String) (side : OrderSide) : TradingSignal where
  id := id
  userId := "u"
  source := .manual
  symbol := "BTCUSDT"
  side := side
  orderType := .market
  price := none
  quantity := some oneUnit
  targetPositionQuantity := none
  rawPayload := .null

/-- The user's account may trade, and has the signals and positions given. -/
def sampleDb (accountMode : AccountMode) (signals : Table TradingSignal)
    (positions : Table Position) : Db :=
  { accounts := oneRow (sampleAccount accountMode), riskSettings := oneRow sampleRiskSetting
    signals, positions }

/-- A world with one signal to buy one unit, and no position yet. -/
def sampleWorld : World :=
  { db := sampleDb .simulation (oneRow (sampleSignal "s1" .buy)) .empty }

/-- What a finished request has returned. -/
def returned {α : Type} : Prog backend (Except Exc α × Session) → Option α
  | .done (.ok value, _) => some value
  | _ => none

theorem done_of_returned {α : Type} {program : Prog backend (Except Exc α × Session)} {value : α}
    (hreturned : returned program = some value) : ∃ s, program = .done (.ok value, s) := by
  unfold returned at hreturned
  split at hreturned
  · next value' s =>
    cases hreturned
    exact ⟨s, rfl⟩
  · cases hreturned

/-- What a finished request has raised. -/
def raised {α : Type} : Prog backend (Except Exc α × Session) → Option Exc
  | .done (.error exc, _) => some exc
  | _ => none

theorem done_of_raised {α : Type} {program : Prog backend (Except Exc α × Session)} {exc : Exc}
    (hraised : raised program = some exc) : ∃ s, program = .done (.error exc, s) := by
  unfold raised at hraised
  split at hraised
  · next exc' s =>
    cases hraised
    exact ⟨s, rfl⟩
  · cases hraised

/-- A client that is alone makes so many steps. -/
def Exchange.serving {α : Type} (exchange : Exchange) (program : Prog backend α) (world : World)
    (steps : Nat) : Trace backend Unit × Config backend fun _ : Unit => α :=
  Config.replay semantics (environment exchange) 0 (List.replicate steps ())
    ⟨world, fun _ => program⟩

theorem Exchange.serving_run {α : Type} (exchange : Exchange) (program : Prog backend α)
    (world : World) (steps : Nat) :
    Prog.Run semantics program world ((exchange.serving program world steps).1.map Prod.snd)
      ((exchange.serving program world steps).2.client ())
      (exchange.serving program world steps).2.store :=
  (Config.replay_reaches (environment_allowed exchange) (List.replicate steps ()) 0
    ⟨world, fun _ => program⟩).alone

/-- A request that is served to its end has run there. -/
theorem Exchange.served_returns {α : Type} {exchange : Exchange}
    {program : Prog backend (Except Exc α × Session)} {world : World} {steps : Nat} {value : α}
    (hreturned : returned ((exchange.serving program world steps).2.client ()) = some value) :
    ∃ trace s, Prog.Run semantics program world trace (.done (.ok value, s))
      (exchange.serving program world steps).2.store := by
  obtain ⟨s, done⟩ := done_of_returned hreturned
  have ran := exchange.serving_run program world steps
  rw [done] at ran
  exact ⟨_, s, ran⟩

theorem Exchange.served_raises {α : Type} {exchange : Exchange}
    {program : Prog backend (Except Exc α × Session)} {world : World} {steps : Nat} {exc : Exc}
    (hraised : raised ((exchange.serving program world steps).2.client ()) = some exc) :
    ∃ trace s, Prog.Run semantics program world trace (.done (.error exc, s))
      (exchange.serving program world steps).2.store := by
  obtain ⟨s, done⟩ := done_of_raised hraised
  have ran := exchange.serving_run program world steps
  rw [done] at ran
  exact ⟨_, s, ran⟩

end CopyTrading
