import CopyTrading.ExecutionSafety

/-!
The client order ids of executed signals: eight characters of the signal id and eight of the
account id. The column is unique, so two pairs that agree in these characters shut each other
out.
-/

namespace CopyTrading

open Transaction DecimalArith

/-- The text of a UUID, as the primary keys are. -/
def IsUuidText (id : String) : Prop := id.length = 36

/-- Ids of signals or accounts that the client order id does not tell apart. -/
def SamePrefix (id id' : String) : Prop := id.toList.take 8 = id'.toList.take 8

instance (id : String) : Decidable (IsUuidText id) := inferInstanceAs (Decidable (_ = _))

instance (id id' : String) : Decidable (SamePrefix id id') := inferInstanceAs (Decidable (_ = _))

theorem length_take_eight {id : String} (uuid : IsUuidText id) : (id.toList.take 8).length = 8 := by
  have length : id.toList.length = 36 := uuid
  rw [List.length_take]
  omega

/-- A client order id is read back as the characters it is made of. -/
theorem clientOrderIdOf_eq_iff {signalId accountId signalId' accountId' : String}
    (uuid : IsUuidText signalId) (uuid' : IsUuidText signalId') :
    clientOrderIdOf signalId accountId = clientOrderIdOf signalId' accountId' ↔
      SamePrefix signalId signalId' ∧ SamePrefix accountId accountId' := by
  unfold clientOrderIdOf SamePrefix
  constructor
  · intro same
    have texts := congrArg String.toList same
    simp only [String.toList_append, String.toList_ofList, List.append_assoc] at texts
    have afterSig := List.append_cancel_left texts
    have lengths := (length_take_eight uuid).trans (length_take_eight uuid').symm
    obtain ⟨signals, afterSignal⟩ := List.append_inj afterSig lengths
    exact ⟨signals, List.append_cancel_left afterSignal⟩
  · rintro ⟨signals, accounts⟩
    rw [signals, accounts]

/-- The rows that two executions insert differ in their client order ids, and may stand in one
table, exactly if the two pairs differ in these characters. -/
theorem executions_apart_iff {userId userId' id id' executionId executionId' : String}
    {signal signal' : TradingSignal} {account account' : ExchangeAccount} {side side' : OrderSide}
    {quantity quantity' : Quantity} (uuid : IsUuidText signal.id) (uuid' : IsUuidText signal'.id)
    (other : (signal.id, account.id) ≠ (signal'.id, account'.id)) (ids : id ≠ id')
    (executionIds : executionId ≠ executionId') :
    ((newExecution userId signal account side quantity id executionId).clientOrderId ≠
        (newExecution userId' signal' account' side' quantity' id' executionId').clientOrderId ↔
      ¬ (SamePrefix signal.id signal'.id ∧ SamePrefix account.id account'.id)) ∧
    (¬ Row.Conflict (newExecution userId signal account side quantity id executionId)
        (newExecution userId' signal' account' side' quantity' id' executionId') ↔
      ¬ (SamePrefix signal.id signal'.id ∧ SamePrefix account.id account'.id)) := by
  have sameIds := @clientOrderIdOf_eq_iff _ account.id _ account'.id uuid uuid'
  constructor
  · exact not_congr sameIds
  · refine not_congr ⟨fun conflict => sameIds.mp ?_, fun samePrefixes => ?_⟩
    · rcases conflict with same | same | same | ⟨sameSignal, sameAccount⟩
      · exact absurd same ids
      · exact absurd same executionIds
      · exact same
      · exact absurd (Prod.ext sameSignal sameAccount) other
    · exact .inr (.inr (.inl (sameIds.mpr samePrefixes)))

/-! ### Sample pairs -/

def uuidAccount : String := "9b2e7a10-52c4-4a53-b6de-7f41c0a9d812"

/-- Two signals whose ids agree in the first eight characters. -/
def twinSignal : Bool → String
  | true => "3f2504e0-4f89-41d3-9a0c-0305e82c3301"
  | false => "3f2504e0-7b1c-4c5d-8e2f-1c9d5f6a7b80"

/-- A signal for the account whose id differs from both in the first character. -/
def otherSignal : String := "4f2504e0-4f89-41d3-9a0c-0305e82c3301"

/-- The user has the account `uuidAccount` and the two signals. -/
def twinWorld : World :=
  { db :=
      { accounts := oneRow { sampleAccount .simulation with id := uuidAccount }
        riskSettings := oneRow { defaultRiskSetting "u" uuidAccount with tradingEnabled := true }
        signals := ⟨[sampleSignal (twinSignal true) .buy, sampleSignal (twinSignal false) .buy],
          by decide +kernel⟩ } }

def twinRequest (first : Bool) : ExecRequest where
  userId := "u"
  signalId := twinSignal first
  accountId := uuidAccount

theorem executions_apart_iff_other :
    (newExecution "u" (sampleSignal (twinSignal true) .buy)
        { sampleAccount .simulation with id := uuidAccount } .buy oneUnit "x1" "e1").clientOrderId ≠
      (newExecution "u" (sampleSignal otherSignal .buy)
        { sampleAccount .simulation with id := uuidAccount } .buy oneUnit "x2" "e2").clientOrderId :=
  (executions_apart_iff (by decide) (by decide) (by decide) (by decide) (by decide)).1.mpr (by decide)

/-- The first signal is filled, and the second one fails on the unique client order id. -/
theorem twin_signal_refused :
    ∃ trace c, Config.Run semantics (executing asciiPlatform twinRequest twinWorld) trace c ∧
      (∀ first, IsUuidText (twinRequest first).signalId) ∧ IsUuidText uuidAccount ∧
      (twinRequest true).signalId ≠ (twinRequest false).signalId ∧
      clientOrderIdOf (twinRequest true).signalId uuidAccount =
        clientOrderIdOf (twinRequest false).signalId uuidAccount ∧
      (returned (c.client true)).map (·.status) = some .filled ∧
      raised (c.client false) = some .integrityError := by
  refine ⟨_, _, Config.replay_reaches (environment_allowed ⟨true, .empty⟩)
    (List.replicate 30 true ++ List.replicate 30 false) 0 _, ?_⟩
  decide +kernel

end CopyTrading
