import CopyTrading.Environment
import CopyTrading.TestnetOrder.SubmissionInvariant

/-!
Submissions over every interleaving: at most one request to the exchange is made for each
client order id.
-/

namespace CopyTrading

open Transaction Transaction.Handler DecimalArith

variable {ι : Type} {py : Platform} {requests : ι → SubmitRequest}

/-- Submissions that start on a committed database, each in a session of its own. -/
def submitting (py : Platform) (requests : ι → SubmitRequest) (world : World) :
    Config backend fun _ : ι => Except Exc TestnetOrderSubmitResponse × Session where
  store := world
  client i := ((requests i).service py).run

/-- The stages of submissions in a run, with what each returns. -/
theorem submitting_tracked [DecidableEq ι] {world : World} {trace : Trace backend ι}
    {c : Config backend fun _ : ι => Except Exc TestnetOrderSubmitResponse × Session}
    (run : Config.Run semantics (submitting py requests world) trace c) :
    ∃ stages : ∀ i, SubmitStage py (requests i),
      Protocol.Run (fun i => submitProtocol py (requests i)) semantics (fun _ => .start) world
        trace stages c.store ∧
      ∀ i response s, c.client i = .done (.ok response, s) →
        SubmitReturns py (requests i) response (stages i) := by
  obtain ⟨stages, tracked, follows⟩ :=
    run.tracked fun i => submitTestnetOrder_follows py (requests i)
  refine ⟨stages, tracked, fun i response s hdone => ?_⟩
  have returned := follows i
  rw [hdone] at returned
  exact returned

/-! ### One request to the exchange -/

/-- An order request whose exchange reads this client order id. -/
def isPostOf (clientOrderId : String) : ι × Event backend → Bool
  | (_, .call (.urlopen prepared) _ _ _) => prepared.clientOrderId = some clientOrderId
  | _ => false

/-- It is the event that counts. -/
theorem isPostOf_congr {κ : Type} (clientOrderId : String) (i : ι) (k : κ) (e : Event backend) :
    isPostOf clientOrderId (i, e) = isPostOf clientOrderId (k, e) := by
  cases e with
  | call query => cases query <;> rfl
  | read | commit | abort => rfl

/-- The stages behind the request to the exchange. -/
def SubmitStage.isPastSending {req : SubmitRequest} : SubmitStage py req → Bool
  | .sent .. | .accepted _ | .failed _ => true
  | _ => false

theorem SubmitStage.row_of_isPastSending {req : SubmitRequest} {stage : SubmitStage py req}
    (past : stage.isPastSending = true) : stage.row?.isSome := by
  cases stage <;> first | rfl | cases past

/-- Only the request of a held row is an order request, and no move goes back. -/
theorem SubmitMove.posts {i : ι} {stage stage' : SubmitStage py (requests i)} {e : Event backend}
    (move : SubmitMove py (requests i) stage e stage') (settled : stage ≠ .lost)
    (clientOrderId : String) :
    isPostOf clientOrderId (i, e) = false ∧
        (stage.isPastSending = true → stage'.isPastSending = true) ∨
      stage.isPastSending = false ∧ stage'.isPastSending = true ∧ stage.row?.isSome ∧
        (isPostOf clientOrderId (i, e) = true →
          (requests i).payload.clientOrderId = clientOrderId) := by
  cases move with
  | wander => exact absurd rfl settled
  | idle quiet =>
    refine .inl ⟨?_, id⟩
    cases e with
    | call query answer before after =>
      cases query with
      | urlopen prepared => cases quiet
      | _ => rfl
    | read | commit | abort => rfl
  | @send _ _ adm _ _ _ _ prepares =>
    refine .inr ⟨rfl, rfl, rfl, fun post => ?_⟩
    have same := prepares.clientOrderId
    rw [adm.order] at same
    simp only [isPostOf, same, decide_eq_true_eq, Option.some.injEq] at post
    exact post
  | accept | failSent | fail => exact .inl ⟨rfl, fun _ => rfl⟩
  | _ => exact .inl ⟨rfl, fun past => by cases past⟩

/-- The request to the exchange under this client order id is behind. -/
def SubmitStage.Spent {req : SubmitRequest} (clientOrderId : String) (stage : SubmitStage py req) :
    Prop :=
  stage.isPastSending = true ∧ req.payload.clientOrderId = clientOrderId

/-- A request to the exchange is made only while none under its client order id is behind: the
row with the id is that of one request. -/
theorem SubmitInv.spends_once {db₀ : Db} {stages : ∀ i, SubmitStage py (requests i)} {i : ι}
    {e : Event backend} {stage' : SubmitStage py (requests i)}
    (inv : SubmitInv requests db₀ stages e.before.db)
    (move : SubmitMove py (requests i) (stages i) e stage') (clientOrderId : String) :
    isPostOf clientOrderId (i, e) = false ∧
        ((stages i).Spent clientOrderId → stage'.Spent clientOrderId) ∨
      stage'.Spent clientOrderId ∧ ∀ j, ¬ (stages j).Spent clientOrderId := by
  rcases move.posts (inv.notLost i) clientOrderId with ⟨noPost, kept⟩ | ⟨unsent, sent, hrow, post⟩
  · exact .inl ⟨noPost, fun ⟨past, same⟩ => ⟨kept past, same⟩⟩
  by_cases hpost : isPostOf clientOrderId (i, e) = true
  · refine .inr ⟨⟨sent, post hpost⟩, fun j ⟨past, same⟩ => ?_⟩
    -- an earlier request of that id has a row with the id, as this one has
    obtain ⟨row, hi⟩ := Option.isSome_iff_exists.mp hrow
    obtain ⟨row', hj⟩ := Option.isSome_iff_exists.mp (SubmitStage.row_of_isPastSending past)
    obtain ⟨adm, rowOf⟩ := (inv.recorded i).rowOf hi
    obtain ⟨adm', rowOf'⟩ := (inv.recorded j).rowOf hj
    have ids : row'.clientOrderId = row.clientOrderId :=
      (rowOf'.clientOrderId.trans same).trans ((post hpost).symm.trans rowOf.clientOrderId.symm)
    obtain rfl := inv.claims.client_unique hj hi (.inr (.inr (.inl ids)))
    rw [unsent] at past
    cases past
  · refine .inl ⟨by simpa using hpost, fun ⟨past, _⟩ => ?_⟩
    rw [unsent] at past
    cases past

theorem submitting_posts_once [DecidableEq ι] {world s : World} {trace : Trace backend ι}
    {stages : ∀ i, SubmitStage py (requests i)}
    (run : Protocol.Run (fun i => submitProtocol py (requests i)) semantics (fun _ => .start) world
      trace stages s) (clientOrderId : String) : trace.countP (isPostOf clientOrderId) ≤ 1 := by
  refine run.count_le_one (isPostOf clientOrderId)
    (fun _ stage => SubmitStage.Spent clientOrderId stage) ?_
  intro trace stages i e stage' earlier move
  exact (SubmitInv.of_run earlier).spends_once move clientOrderId

/-! ### Sample submissions -/

/-- A limit order, of which symbol and quantity are given. -/
def sampleOrder (symbol : String) (quantity : Decimal) (positive : 0 < quantity.toRat) :
    SubmitRequest where
  userId := "u"
  payload :=
    { exchangeAccountId := "a", symbol, side := .buy, orderType := .limit, quantity
      price := some (.ofInt 10), clientOrderId := "c1", manualTestnetOrderEnableConfirmed := true
      quantity_pos := positive
      price_pos := fun p hp => by
        cases hp
        rw [Decimal.toRat_ofInt]
        norm_num
      limit_price := fun _ => rfl }
  testnetAdaptersEnabled := true

theorem toRat_oneUnit_pos : 0 < (Decimal.ofInt 1).toRat := by
  rw [Decimal.toRat_ofInt]
  norm_num

/-- An approval of at most five units of a symbol for five minutes. -/
def sampleApproval (symbol : String) : AuditLog where
  id := "approval"
  userId := "u"
  exchangeAccountId := some "a"
  action := windowApprovalAction
  severity := "warning"
  payload :=
    [("symbol", .str symbol), ("side", .str "BUY"), ("max_quantity", .str "5"),
      ("max_notional", .str "100"), ("duration_minutes", .int 5)]
  createdAt := 0

def sampleSecret : ApiKeySecret where
  userId := "u"
  exchangeAccountId := "a"
  encryptedApiKey := "key"
  encryptedApiSecret := "secret"
  encryptedPassphrase := some "passphrase"

/-- A world in which orders for the symbol are approved on the account. -/
def approvedWorld (exchangeName : ExchangeName) (symbol : String) (blocked : List String) : World :=
  { db :=
      { accounts := oneRow { sampleAccount .testnet with exchangeName }
        riskSettings := oneRow { sampleRiskSetting with blockedSymbols := some blocked }
        secrets := oneRow sampleSecret, auditLogs := oneRow (sampleApproval symbol) } }

/-- The exchange takes every order. -/
def takingExchange : Exchange := ⟨true, .payload (some (.obj [("orderId", .int 7)]))⟩

end CopyTrading
