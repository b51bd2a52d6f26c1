import Mathlib.Data.List.ReduceOption
import CopyTrading.Observability.DriftReports

/-!
Repair planning: a reconciliation report is turned into proposals, one for each difference it
lists. Nothing is executed. Whether a trade is proposed is decided on the sign of the distance
between exchange and target, and not on the tolerance the report was made with.
-/

namespace CopyTrading

open DecimalArith (Decimal)
open Fallible

/-! ### Plans -/

inductive ReconciliationRepairStatus where
  | disabled
  | noDrift
  | proposalCreated
  | executionBlocked
  deriving DecidableEq

inductive ReconciliationRepairAction where
  | buyToTarget
  | sellToTarget
  | reviewDatabasePosition
  deriving DecidableEq

structure ReconciliationRepairSettings where
  proposalGenerationEnabled : Bool := false
  executionEnabled : Bool := false

structure ReconciliationRepairProposal where
  symbol : String
  action : ReconciliationRepairAction
  quantityDelta : DecimalLiteral
  exchangeQuantity : DecimalLiteral
  databaseQuantity : DecimalLiteral
  targetQuantity : DecimalLiteral
  severity : PositionReconciliationSeverity
  reasons : List String

structure ReconciliationRepairPlan where
  userId : String
  exchangeAccountId : String
  status : ReconciliationRepairStatus
  proposals : List ReconciliationRepairProposal
  autoFixAllowed : Bool := false
  executionAllowed : Bool := false

/-- `value != Decimal("0")`, which holds of a NaN and raises nothing. -/
def DecimalLiteral.isNonzero : DecimalLiteral → Bool
  | .finite value => value.coeff ≠ 0
  | .infinity _ | .nan => true

/-- `_proposal`. -/
def repairProposal (difference : PositionReconciliationDifference)
    (action : ReconciliationRepairAction) (quantityDelta : DecimalLiteral) :
    ReconciliationRepairProposal where
  symbol := difference.symbol
  action := action
  quantityDelta := quantityDelta
  exchangeQuantity := difference.exchangeQuantity
  databaseQuantity := difference.databaseQuantity
  targetQuantity := difference.targetQuantity
  severity := difference.severity
  reasons := difference.reasons

/-- `_proposal_for_difference`. -/
def proposalForDifference (difference : PositionReconciliationDifference) :
    Except ObservabilityExc (Option ReconciliationRepairProposal) := do
  let targetExchangeDelta ← difference.targetQuantity.sub difference.exchangeQuantity
  if ← DecimalLiteral.zero.less targetExchangeDelta then
    return some (repairProposal difference .buyToTarget targetExchangeDelta)
  else if ← targetExchangeDelta.less .zero then
    return some (repairProposal difference .sellToTarget targetExchangeDelta.abs)
  else if difference.databaseTargetDelta.isNonzero then
    return some (repairProposal difference .reviewDatabasePosition
      difference.databaseTargetDelta.abs)
  else return none

/-- `_plan`. -/
def repairPlan (report : PositionReconciliationReport) (status : ReconciliationRepairStatus)
    (proposals : List ReconciliationRepairProposal) : ReconciliationRepairPlan where
  userId := report.userId
  exchangeAccountId := report.exchangeAccountId
  status := status
  proposals := proposals
  autoFixAllowed := false
  executionAllowed := false

def buildReconciliationRepairPlan (report : PositionReconciliationReport)
    (settings : Option ReconciliationRepairSettings) :
    Except ObservabilityExc ReconciliationRepairPlan := do
  let repairSettings := settings.getD {}
  if repairSettings.proposalGenerationEnabled = false then
    return repairPlan report .disabled []
  else if report.status = .matched then
    return repairPlan report .noDrift []
  else
    let proposals ← report.differences.mapM proposalForDifference
    return repairPlan report
      (if repairSettings.executionEnabled then .executionBlocked else .proposalCreated)
      proposals.reduceOption

/-! ### Signs -/

namespace DecimalLiteral

variable {a b c delta tolerance : DecimalLiteral}

/-- One of the two is below the other. -/
def Differs (a b : DecimalLiteral) : Prop := a.less b = .ok true ∨ b.less a = .ok true

theorem decimalAdd_neg (a b : Decimal) : decimalAdd b a.neg = (decimalAdd a b.neg).neg := by
  have exact : Decimal.addExact b a.neg = (Decimal.addExact a b.neg).neg := by
    unfold Decimal.addExact Decimal.neg
    simp only [min_comm b.exp a.exp, Decimal.mk.injEq, and_true]
    ring
  unfold decimalAdd Decimal.add
  rw [exact, Decimal.round_neg]

theorem of_ofContext {value : Decimal} (computed : ofContext value = .ok delta) :
    ¬ (value.coeff ≠ 0 ∧ decimalEmax < value.adjusted) ∧ delta = .finite value := by
  unfold ofContext at computed
  split at computed
  · cases computed
  · next small => exact ⟨small, (Except.ok.inj computed).symm⟩

/-- The context has both signs of a number. -/
theorem ofContext_neg {value : Decimal}
    (small : ¬ (value.coeff ≠ 0 ∧ decimalEmax < value.adjusted)) :
    ofContext value.neg = .ok (.finite value.neg) := by
  unfold ofContext
  have zero : value.neg.coeff = 0 ↔ value.coeff = 0 := Int.neg_eq_zero
  have same : value.neg.adjusted = value.adjusted := by
    simp [Decimal.adjusted, Decimal.neg]
  rw [if_neg]
  rwa [ne_eq, zero, same]

/-- A difference taken the other way has the other sign, rounded or not. -/
theorem sub_swap (subtracted : a.sub b = .ok delta) : b.sub a = .ok delta.neg := by
  unfold sub at subtracted ⊢
  cases a with
  | nan =>
    cases subtracted
    cases b <;> rfl
  | infinity negative =>
    cases b with
    | nan =>
      cases subtracted
      rfl
    | finite value =>
      cases subtracted
      rfl
    | infinity other =>
      cases negative <;> cases other <;> cases subtracted <;> rfl
  | finite value =>
    cases b with
    | nan =>
      cases subtracted
      rfl
    | infinity other =>
      cases subtracted
      cases other <;> rfl
    | finite other =>
      obtain ⟨small, rfl⟩ := of_ofContext subtracted
      change ofContext (decimalAdd other value.neg) = .ok (.finite (decimalAdd value other.neg).neg)
      rw [decimalAdd_neg]
      exact ofContext_neg small

theorem zero_less_neg : zero.less delta.neg = delta.less zero := by
  cases delta with
  | nan => rfl
  | infinity negative => cases negative <;> rfl
  | finite value =>
    have sides : (Decimal.ofInt 0 < value.neg) = (value < Decimal.ofInt 0) := by
      rw [Decimal.lt_def, Decimal.lt_def, Decimal.toRat_neg]
      simp
    unfold zero neg less
    simp only [sides]

/-- The sign of a difference says which of the two is larger. -/
theorem zero_less_of_sub (subtracted : a.sub b = .ok delta) : zero.less delta = b.less a := by
  unfold sub at subtracted
  cases a with
  | nan =>
    cases subtracted
    cases b <;> rfl
  | infinity negative =>
    cases b with
    | nan =>
      cases subtracted
      rfl
    | finite value =>
      cases subtracted
      rfl
    | infinity other =>
      cases negative <;> cases other <;> cases subtracted <;> rfl
  | finite value =>
    cases b with
    | nan =>
      cases subtracted
      rfl
    | infinity other =>
      cases subtracted
      cases other <;> rfl
    | finite other =>
      obtain ⟨-, rfl⟩ := of_ofContext subtracted
      have sides : (Decimal.ofInt 0 < decimalAdd value other.neg) = (other < value) := by
        unfold decimalAdd Decimal.add
        rw [Decimal.lt_def, Decimal.toRat_ofInt, Int.cast_zero,
          Decimal.toRat_round_pos_iff (by decide), Decimal.toRat_addExact, Decimal.toRat_neg,
          Decimal.lt_def, ← sub_eq_add_neg, sub_pos]
      unfold zero less
      simp only [sides]

theorem less_zero_of_sub (subtracted : a.sub b = .ok delta) : delta.less zero = a.less b := by
  rw [← zero_less_neg]
  exact zero_less_of_sub (sub_swap subtracted)

theorem not_differs_zero : ¬Differs zero zero := by
  unfold Differs
  rw [is_zero.less is_zero]
  simp

theorem finite_of_sub {value : Decimal} (subtracted : a.sub b = .ok (.finite value)) :
    ∃ x y, a = .finite x ∧ b = .finite y := by
  unfold sub at subtracted
  cases a with
  | nan => cases b <;> cases subtracted
  | infinity negative =>
    cases b with
    | nan | finite other => cases subtracted
    | infinity other => cases negative <;> cases other <;> cases subtracted
  | finite x =>
    cases b with
    | nan | infinity other => cases subtracted
    | finite y => exact ⟨x, y, rfl, rfl⟩

/-- Comparisons see the number only. -/
theorem differs_congr {x y : Decimal} (same : x.toRat = y.toRat) :
    a.Differs (.finite x) ↔ a.Differs (.finite y) := by
  cases a with
  | nan | infinity negative => exact Iff.rfl
  | finite value => simp only [Differs, less, Decimal.lt_def, same]

/-- What is outside a tolerance is not zero. -/
theorem apart_of_outside (nonnegative : tolerance.atLeast zero = .ok true)
    (outside : outsideTolerance delta tolerance = .ok true) :
    zero.less delta = .ok true ∨ delta.less zero = .ok true := by
  unfold outsideTolerance at outside
  cases delta with
  | nan => cases tolerance <;> cases outside
  | infinity negative => cases negative <;> simp [zero, less]
  | finite value =>
    cases tolerance with
    | nan => cases outside
    | infinity negative =>
      cases negative
      · cases outside
      · cases nonnegative
    | finite limit =>
      simp only [abs, less, Except.ok.injEq, decide_eq_true_eq] at outside
      unfold atLeast at nonnegative
      simp only [zero, less, Except.map_ok, Except.ok.injEq, Bool.not_eq_true', decide_eq_false_iff_not,
        Decimal.not_lt_iff, Decimal.le_def, Decimal.toRat_ofInt, Int.cast_zero] at nonnegative
      have apart : value.coeff ≠ 0 := by
        intro nothing
        have rounded : (value.abs.round decimalPrecision).toRat = 0 := by
          rw [Decimal.round_of_small (by decide) (by simp [Decimal.abs, nothing])]
          simp [Decimal.abs, Decimal.toRat, nothing]
        rw [Decimal.lt_def, rounded] at outside
        exact absurd outside (not_lt.mpr nonnegative)
      have sign : value.toRat ≠ 0 := fun h => apart (Decimal.toRat_eq_zero_iff.mp h)
      rcases lt_or_gt_of_ne sign with below | above
      · refine .inr (congrArg _ (decide_eq_true ?_))
        simpa [Decimal.lt_def] using below
      · refine .inl (congrArg _ (decide_eq_true ?_))
        simpa [Decimal.lt_def] using above

end DecimalLiteral

/-! ### Differences as they are computed -/

section

variable {difference : PositionReconciliationDifference}
  {proposal : ReconciliationRepairProposal} {tolerance threshold : DecimalLiteral}

/-- The two are further apart than the tolerance. -/
def DriftsBeyond (tolerance a b : DecimalLiteral) : Prop :=
  ∃ delta, a.sub b = .ok delta ∧ outsideTolerance delta tolerance = .ok true

theorem DriftsBeyond.differs {a b : DecimalLiteral}
    (nonnegative : tolerance.atLeast .zero = .ok true) (drifts : DriftsBeyond tolerance a b) :
    a.Differs b := by
  obtain ⟨delta, subtracted, outside⟩ := drifts
  rcases DecimalLiteral.apart_of_outside nonnegative outside with above | below
  · exact .inr ((DecimalLiteral.zero_less_of_sub subtracted).symm.trans above)
  · exact .inl ((DecimalLiteral.less_zero_of_sub subtracted).symm.trans below)

/-- The reason that names a drift between exchange and target. -/
def exchangeTargetReason : String := "exchange position differs from target position"

/-- A difference whose deltas and reasons were computed from its quantities. -/
structure ComputedDifference (tolerance : DecimalLiteral)
    (difference : PositionReconciliationDifference) : Prop where
  exchangeDatabase : difference.exchangeQuantity.sub difference.databaseQuantity =
    .ok difference.exchangeDatabaseDelta
  exchangeTarget : difference.exchangeQuantity.sub difference.targetQuantity =
    .ok difference.exchangeTargetDelta
  databaseTarget : difference.databaseQuantity.sub difference.targetQuantity =
    .ok difference.databaseTargetDelta
  reasons : differenceReasons difference.exchangeDatabaseDelta difference.exchangeTargetDelta
    difference.databaseTargetDelta tolerance = .ok difference.reasons

theorem computed_differenceForSymbol {symbol : String} {e d t : DecimalLiteral}
    (computed : differenceForSymbol symbol e d t tolerance threshold = .ok difference) :
    ComputedDifference tolerance difference ∧ difference.symbol = symbol ∧
      difference.exchangeQuantity = e ∧ difference.targetQuantity = t ∧
      (difference.severity ≠ .ok ↔ difference.reasons ≠ []) := by
  unfold differenceForSymbol at computed
  obtain ⟨first, hfirst, computed⟩ := bind_eq_ok.mp computed
  obtain ⟨second, hsecond, computed⟩ := bind_eq_ok.mp computed
  obtain ⟨third, hthird, computed⟩ := bind_eq_ok.mp computed
  obtain ⟨reasons, hreasons, computed⟩ := bind_eq_ok.mp computed
  obtain ⟨severity, hseverity, computed⟩ := bind_eq_ok.mp computed
  cases computed
  refine ⟨⟨hfirst, hsecond, hthird, hreasons⟩, rfl, rfl, rfl, ?_⟩
  unfold differenceSeverity at hseverity
  by_cases none : reasons = []
  · rw [if_pos none] at hseverity
    cases hseverity
    simp [none]
  · rw [if_neg none] at hseverity
    obtain ⟨critical, -, judged⟩ := bind_eq_ok.mp hseverity
    have severe : severity ≠ .ok := by
      cases critical <;> cases judged <;> decide
    simp [none, severe]

/-- The reasons name the pairs that are further apart than the tolerance. -/
theorem ComputedDifference.drifts_iff (computed : ComputedDifference tolerance difference) :
    exchangeTargetReason ∈ difference.reasons ↔
      DriftsBeyond tolerance difference.exchangeQuantity difference.targetQuantity := by
  obtain ⟨first, -, reasons⟩ := bind_eq_ok.mp computed.reasons
  obtain ⟨second, hsecond, reasons⟩ := bind_eq_ok.mp reasons
  obtain ⟨third, -, reasons⟩ := bind_eq_ok.mp reasons
  have listed : exchangeTargetReason ∈ difference.reasons ↔ second = true := by
    rw [← Except.ok.inj reasons]
    cases first <;> cases second <;> cases third <;> decide
  rw [listed]
  constructor
  · rintro rfl
    exact ⟨_, computed.exchangeTarget, hsecond⟩
  · rintro ⟨delta, subtracted, outside⟩
    cases computed.exchangeTarget.symm.trans subtracted
    exact Except.ok.inj (hsecond.symm.trans outside)

/-- A listed difference drifts somewhere. -/
theorem ComputedDifference.drifts (computed : ComputedDifference tolerance difference)
    (severe : difference.reasons ≠ []) :
    DriftsBeyond tolerance difference.exchangeQuantity difference.databaseQuantity ∨
      DriftsBeyond tolerance difference.exchangeQuantity difference.targetQuantity ∨
      DriftsBeyond tolerance difference.databaseQuantity difference.targetQuantity := by
  obtain ⟨first, hfirst, reasons⟩ := bind_eq_ok.mp computed.reasons
  obtain ⟨second, hsecond, reasons⟩ := bind_eq_ok.mp reasons
  obtain ⟨third, hthird, reasons⟩ := bind_eq_ok.mp reasons
  by_cases one : first = true
  · exact .inl ⟨_, computed.exchangeDatabase, one ▸ hfirst⟩
  by_cases two : second = true
  · exact .inr (.inl ⟨_, computed.exchangeTarget, two ▸ hsecond⟩)
  by_cases three : third = true
  · exact .inr (.inr ⟨_, computed.databaseTarget, three ▸ hthird⟩)
  rw [Bool.not_eq_true] at one two three
  subst one two three
  exact absurd (Except.ok.inj reasons).symm severe

/-- Both comparisons of the two sides were made. -/
theorem ComputedDifference.compared (computed : ComputedDifference tolerance difference) :
    (∃ below, difference.exchangeQuantity.less difference.targetQuantity = .ok below) ∧
      ∃ above, difference.targetQuantity.less difference.exchangeQuantity = .ok above := by
  obtain ⟨_, -, reasons⟩ := bind_eq_ok.mp computed.reasons
  obtain ⟨_, hsecond, -⟩ := bind_eq_ok.mp reasons
  rw [← DecimalLiteral.less_zero_of_sub computed.exchangeTarget,
    ← DecimalLiteral.zero_less_of_sub computed.exchangeTarget]
  unfold outsideTolerance at hsecond
  cases delta : difference.exchangeTargetDelta with
  | nan =>
    rw [delta] at hsecond
    cases tolerance <;> cases hsecond
  | infinity negative => exact ⟨⟨_, rfl⟩, ⟨_, rfl⟩⟩
  | finite value => exact ⟨⟨_, rfl⟩, ⟨_, rfl⟩⟩

/-- Where exchange and target agree, the database does not. -/
theorem ComputedDifference.database_differs (computed : ComputedDifference tolerance difference)
    (nonnegative : tolerance.atLeast .zero = .ok true) (severe : difference.reasons ≠ [])
    (same : ¬difference.exchangeQuantity.Differs difference.targetQuantity) :
    difference.databaseTargetDelta.isNonzero = true := by
  by_contra zero
  have database := computed.databaseTarget
  obtain ⟨value, delta, nothing⟩ : ∃ value : Decimal,
      difference.databaseTargetDelta = .finite value ∧ value.coeff = 0 := by
    cases delta : difference.databaseTargetDelta with
    | finite value => exact ⟨value, rfl, by simpa [DecimalLiteral.isNonzero, delta] using zero⟩
    | infinity | nan => simp [DecimalLiteral.isNonzero, delta] at zero
  have number : value.toRat = 0 := Decimal.toRat_eq_zero_iff.mpr nothing
  rw [delta] at database
  obtain ⟨x, y, hx, hy⟩ := DecimalLiteral.finite_of_sub database
  have equal : x.toRat = y.toRat := by
    have above := DecimalLiteral.zero_less_of_sub database
    have below := DecimalLiteral.less_zero_of_sub database
    rw [hx, hy] at above below
    simp only [DecimalLiteral.zero, DecimalLiteral.less, Decimal.lt_def, number,
      Decimal.toRat_ofInt, Int.cast_zero, lt_irrefl, Except.ok.injEq, decide_eq_decide,
      false_iff, not_lt] at above below
    exact le_antisymm above below
  -- so the drift that is named is one between exchange and target
  have moved : difference.exchangeQuantity.Differs difference.databaseQuantity ↔
      difference.exchangeQuantity.Differs difference.targetQuantity := by
    rw [hx, hy]
    exact DecimalLiteral.differs_congr equal
  rcases computed.drifts severe with drifts | drifts | drifts
  · exact same (moved.mp (drifts.differs nonnegative))
  · exact same (drifts.differs nonnegative)
  · have apart := drifts.differs nonnegative
    rw [hx, hy] at apart
    simp only [DecimalLiteral.Differs, DecimalLiteral.less, Decimal.lt_def, equal, lt_irrefl,
      decide_false, Except.ok.injEq, Bool.false_eq_true, or_self] at apart

/-! ### The proposals -/

/-- The proposal that is made for a difference. -/
inductive Proposes (difference : PositionReconciliationDifference) :
    ReconciliationRepairProposal → Prop where
  | buy {delta : DecimalLiteral}
      (below : difference.exchangeQuantity.less difference.targetQuantity = .ok true)
      (subtracted : difference.targetQuantity.sub difference.exchangeQuantity = .ok delta) :
      Proposes difference (repairProposal difference .buyToTarget delta)
  | sell {delta : DecimalLiteral}
      (above : difference.targetQuantity.less difference.exchangeQuantity = .ok true)
      (subtracted : difference.targetQuantity.sub difference.exchangeQuantity = .ok delta) :
      Proposes difference (repairProposal difference .sellToTarget delta.abs)
  | review (same : ¬difference.exchangeQuantity.Differs difference.targetQuantity)
      (apart : difference.databaseTargetDelta.isNonzero = true) :
      Proposes difference (repairProposal difference .reviewDatabasePosition
        difference.databaseTargetDelta.abs)

/-- No difference of a report is left without a proposal. -/
theorem proposalForDifference_proposes (computed : ComputedDifference tolerance difference)
    (nonnegative : tolerance.atLeast .zero = .ok true) (severe : difference.reasons ≠ []) :
    ∃ proposal, proposalForDifference difference = .ok (some proposal) ∧
      Proposes difference proposal := by
  have subtracted := DecimalLiteral.sub_swap computed.exchangeTarget
  obtain ⟨⟨below, hbelow⟩, above, habove⟩ := computed.compared
  have first := DecimalLiteral.zero_less_of_sub subtracted
  have second := DecimalLiteral.less_zero_of_sub subtracted
  unfold proposalForDifference
  rw [subtracted, ok_bind, first, second, hbelow, habove, ok_bind]
  cases below with
  | true => exact ⟨_, rfl, .buy hbelow subtracted⟩
  | false =>
    rw [if_neg Bool.false_ne_true, ok_bind]
    cases above with
    | true => exact ⟨_, rfl, .sell habove subtracted⟩
    | false =>
      have same : ¬difference.exchangeQuantity.Differs difference.targetQuantity := by
        rintro (h | h)
        · cases hbelow.symm.trans h
        · cases habove.symm.trans h
      have apart := computed.database_differs nonnegative severe same
      rw [if_neg Bool.false_ne_true, if_pos apart]
      exact ⟨_, rfl, .review same apart⟩

end

/-! ### The plan of a report -/

section

variable {py : Platform} {userId exchangeAccountId : String}
  {exchange database target : List PositionQuantitySnapshot} {tolerance threshold : DecimalLiteral}
  {report : PositionReconciliationReport}

/-- What a report says of the quantities that are aggregated by symbol. -/
structure ReportsDrift (tolerance : DecimalLiteral) (exchange target : QuantityBySymbol)
    (report : PositionReconciliationReport) : Prop where
  computed : ∀ difference ∈ report.differences, ComputedDifference tolerance difference ∧
    difference.reasons ≠ []
  quantities : ∀ difference ∈ report.differences,
    difference.exchangeQuantity = exchange.get difference.symbol ∧
      difference.targetQuantity = target.get difference.symbol
  listed : ∀ symbol, DriftsBeyond tolerance (exchange.get symbol) (target.get symbol) →
    ∃ difference ∈ report.differences, difference.symbol = symbol
  matched : report.status = .matched → report.differences = []

theorem reports_of_reconcile (nonnegative : tolerance.atLeast .zero = .ok true)
    (reconciled : reconcilePositionSnapshots py userId exchangeAccountId exchange database target
      tolerance threshold = .ok report) :
    ∃ exchangeBySymbol targetBySymbol, normalizeSnapshots py exchange = .ok exchangeBySymbol ∧
      normalizeSnapshots py target = .ok targetBySymbol ∧
      ReportsDrift tolerance exchangeBySymbol targetBySymbol report := by
  unfold reconcilePositionSnapshots at reconciled
  obtain ⟨e, hexchange, reconciled⟩ := bind_eq_ok.mp reconciled
  obtain ⟨d, -, reconciled⟩ := bind_eq_ok.mp reconciled
  obtain ⟨t, htarget, reconciled⟩ := bind_eq_ok.mp reconciled
  obtain ⟨differences, hdifferences, reconciled⟩ := bind_eq_ok.mp reconciled
  cases reconciled
  have listed : ∀ difference ∈ differences.filter (·.severity ≠ .ok), ∃ symbol,
      differenceForSymbol symbol (e.get symbol) (d.get symbol) (t.get symbol) tolerance threshold =
        .ok difference ∧ difference.severity ≠ .ok := by
    intro difference hmem
    obtain ⟨hmem, severe⟩ := List.mem_filter.mp hmem
    obtain ⟨symbol, -, computed⟩ := exists_of_mem_mapM hdifferences hmem
    exact ⟨symbol, computed, by simpa using severe⟩
  refine ⟨e, t, hexchange, htarget, ⟨fun difference hmem => ?_, fun difference hmem => ?_,
    fun symbol drifts => ?_, fun matched => ?_⟩⟩
  · obtain ⟨symbol, compared, severe⟩ := listed difference hmem
    obtain ⟨computed, -, -, -, severity⟩ := computed_differenceForSymbol compared
    exact ⟨computed, severity.mp severe⟩
  · obtain ⟨symbol, compared, -⟩ := listed difference hmem
    obtain ⟨-, rfl, exchangeQuantity, targetQuantity, -⟩ := computed_differenceForSymbol compared
    exact ⟨exchangeQuantity, targetQuantity⟩
  · have compared : symbol ∈ reconciledSymbols e d t := by
      by_contra missing
      simp only [reconciledSymbols, List.mem_insertionSort, List.mem_dedup, List.map_append,
        List.mem_append, not_or] at missing
      rw [QuantityBySymbol.get_of_not_mem missing.1.1, QuantityBySymbol.get_of_not_mem missing.2]
        at drifts
      exact DecimalLiteral.not_differs_zero (drifts.differs nonnegative)
    obtain ⟨difference, hmem, computed⟩ := exists_result_of_mapM hdifferences compared
    obtain ⟨computed, hsymbol, exchangeQuantity, targetQuantity, severity⟩ :=
      computed_differenceForSymbol computed
    rw [← exchangeQuantity, ← targetQuantity] at drifts
    have severe := severity.mpr (List.ne_nil_of_mem (computed.drifts_iff.mpr drifts))
    exact ⟨difference, List.mem_filter.mpr ⟨hmem, by simpa using severe⟩, hsymbol⟩
  · by_contra drifted
    exact absurd matched ((if_neg drifted).trans_ne (by decide))

/-- One proposal for each difference, in the order of the report. -/
theorem buildReconciliationRepairPlan_proposes {e t : QuantityBySymbol}
    (reports : ReportsDrift tolerance e t report) (nonnegative : tolerance.atLeast .zero = .ok true)
    (executionEnabled : Bool) :
    ∃ plan, buildReconciliationRepairPlan report (some ⟨true, executionEnabled⟩) = .ok plan ∧
      List.Forall₂ Proposes report.differences plan.proposals := by
  unfold buildReconciliationRepairPlan
  rw [Option.getD_some, if_neg (fun disabled => (nomatch disabled))]
  by_cases matched : report.status = .matched
  · rw [if_pos matched, reports.matched matched]
    exact ⟨_, rfl, .nil⟩
  · rw [if_neg matched]
    have each : ∀ difference ∈ report.differences, ∃ result,
        proposalForDifference difference = .ok result ∧
          ∃ proposal, result = some proposal ∧ Proposes difference proposal := by
      intro difference hmem
      obtain ⟨computed, severe⟩ := reports.computed difference hmem
      obtain ⟨proposal, decided, proposes⟩ :=
        proposalForDifference_proposes computed nonnegative severe
      exact ⟨some proposal, decided, proposal, rfl, proposes⟩
    obtain ⟨results, decided, proposed⟩ := exists_mapM_of_forall each
    rw [decided, ok_bind]
    refine ⟨_, rfl, ?_⟩
    change List.Forall₂ Proposes report.differences results.reduceOption
    generalize report.differences = differences at proposed
    clear decided
    induction proposed with
    | nil => exact .nil
    | cons head _ ih =>
      obtain ⟨proposal, rfl, proposes⟩ := head
      rw [List.reduceOption_cons_of_some]
      exact .cons proposes ih

/-! ### Trades and drifts -/

def ReconciliationRepairAction.isTrade : ReconciliationRepairAction → Bool
  | .buyToTarget | .sellToTarget => true
  | .reviewDatabasePosition => false

/-- Trades are proposed for the symbols whose exchange quantity is further from the target than
the tolerance, under the reason that says so, and the other listed symbols are to be reviewed. -/
structure RepairsDrift (tolerance : DecimalLiteral) (exchange target : QuantityBySymbol)
    (report : PositionReconciliationReport) (plan : ReconciliationRepairPlan) : Prop where
  trades : ∀ symbol,
    (∃ proposal ∈ plan.proposals, proposal.symbol = symbol ∧ proposal.action.isTrade = true) ↔
      DriftsBeyond tolerance (exchange.get symbol) (target.get symbol)
  reasons : ∀ proposal ∈ plan.proposals, proposal.action.isTrade = true →
    exchangeTargetReason ∈ proposal.reasons
  reviews : ∀ difference ∈ report.differences,
    ¬DriftsBeyond tolerance difference.exchangeQuantity difference.targetQuantity →
    ∃ proposal ∈ plan.proposals, proposal.symbol = difference.symbol ∧
      proposal.action = .reviewDatabasePosition

variable {difference : PositionReconciliationDifference} {proposal : ReconciliationRepairProposal}

theorem Proposes.carries (proposes : Proposes difference proposal) :
    proposal.symbol = difference.symbol ∧ proposal.reasons = difference.reasons := by
  cases proposes <;> exact ⟨rfl, rfl⟩

theorem Proposes.isTrade_iff (proposes : Proposes difference proposal) :
    proposal.action.isTrade = true ↔
      difference.exchangeQuantity.Differs difference.targetQuantity := by
  cases proposes with
  | buy below => exact iff_of_true rfl (.inl below)
  | sell above => exact iff_of_true rfl (.inr above)
  | review same => exact iff_of_false Bool.false_ne_true same

theorem ReconciliationRepairAction.eq_review_of_not_isTrade {action : ReconciliationRepairAction}
    (kept : ¬action.isTrade = true) : action = .reviewDatabasePosition := by
  cases action <;> first | rfl | exact absurd rfl kept

/-- Trades are proposed for drifts only exactly if no listed symbol is off its target by less than
the tolerance allows. -/
theorem trades_only_drift_iff (nonnegative : tolerance.atLeast .zero = .ok true)
    (reconciled : reconcilePositionSnapshots py userId exchangeAccountId exchange database target
      tolerance threshold = .ok report) (executionEnabled : Bool) :
    ∃ exchangeBySymbol targetBySymbol plan, normalizeSnapshots py exchange = .ok exchangeBySymbol ∧
      normalizeSnapshots py target = .ok targetBySymbol ∧
      buildReconciliationRepairPlan report (some ⟨true, executionEnabled⟩) = .ok plan ∧
      (RepairsDrift tolerance exchangeBySymbol targetBySymbol report plan ↔
        ∀ difference ∈ report.differences,
          difference.exchangeQuantity.Differs difference.targetQuantity →
          DriftsBeyond tolerance difference.exchangeQuantity difference.targetQuantity) := by
  obtain ⟨e, t, hexchange, htarget, reports⟩ := reports_of_reconcile nonnegative reconciled
  obtain ⟨plan, built, proposed⟩ :=
    buildReconciliationRepairPlan_proposes reports nonnegative executionEnabled
  refine ⟨e, t, plan, hexchange, htarget, built, fun repairs => ?_, fun outside => ?_⟩
  · intro difference hmem differs
    obtain ⟨proposal, hproposal, proposes⟩ := exists_of_forall₂_left proposed hmem
    have drifts := (repairs.trades difference.symbol).mp
      ⟨proposal, hproposal, proposes.carries.1, proposes.isTrade_iff.mpr differs⟩
    rwa [← (reports.quantities difference hmem).1, ← (reports.quantities difference hmem).2]
      at drifts
  constructor
  · intro symbol
    constructor
    · rintro ⟨proposal, hproposal, rfl, trade⟩
      obtain ⟨difference, hmem, proposes⟩ := exists_of_forall₂_right proposed hproposal
      have drifts := outside difference hmem (proposes.isTrade_iff.mp trade)
      rwa [(reports.quantities difference hmem).1, (reports.quantities difference hmem).2,
        ← proposes.carries.1] at drifts
    · intro drifts
      obtain ⟨difference, hmem, rfl⟩ := reports.listed symbol drifts
      obtain ⟨proposal, hproposal, proposes⟩ := exists_of_forall₂_left proposed hmem
      rw [← (reports.quantities difference hmem).1, ← (reports.quantities difference hmem).2]
        at drifts
      exact ⟨proposal, hproposal, proposes.carries.1,
        proposes.isTrade_iff.mpr (drifts.differs nonnegative)⟩
  · intro proposal hproposal trade
    obtain ⟨difference, hmem, proposes⟩ := exists_of_forall₂_right proposed hproposal
    rw [proposes.carries.2, (reports.computed difference hmem).1.drifts_iff]
    exact outside difference hmem (proposes.isTrade_iff.mp trade)
  · intro difference hmem within
    obtain ⟨proposal, hproposal, proposes⟩ := exists_of_forall₂_left proposed hmem
    have kept : ¬proposal.action.isTrade = true :=
      fun trade => within (outside difference hmem (proposes.isTrade_iff.mp trade))
    exact ⟨proposal, hproposal, proposes.carries.1,
      ReconciliationRepairAction.eq_review_of_not_isTrade kept⟩

end

/-- The database agrees with the exchange, so what is listed is off its target. -/
theorem trades_only_drift_iff_off_target :
    ∃ report exchange target plan,
      reconcilePositionSnapshots asciiPlatform "user" "account" (wholePositions [("BTCUSDT", 3)])
        (wholePositions [("BTCUSDT", 3)]) (wholePositions [("BTCUSDT", 5)]) (.finite (.ofInt 0))
        (.finite (.ofInt 1)) = .ok report ∧
      buildReconciliationRepairPlan report (some ⟨true, false⟩) = .ok plan ∧
      RepairsDrift (.finite (.ofInt 0)) exchange target report plan := by
  have exact : ExactSides asciiPlatform (wholePositions [("BTCUSDT", 3)])
      (wholePositions [("BTCUSDT", 3)]) (wholePositions [("BTCUSDT", 5)]) :=
    exactSides_of_whole (by decide +kernel)
  have nonnegative : (DecimalLiteral.finite (.ofInt 0)).atLeast .zero = .ok true := by
    have zero : (DecimalLiteral.finite (.ofInt 0)).Is 0 := DecimalLiteral.is_zero
    rw [zero.atLeast DecimalLiteral.is_zero]
    simp
  obtain ⟨report, computed, stated⟩ := reconcilePositionSnapshots_exact (.ofInt 1) exact
    (by decide +kernel : 0 ≤ (Decimal.ofInt 0).toRat) "user" "account"
  obtain ⟨e, t, -, -, reports⟩ := reports_of_reconcile nonnegative computed
  obtain ⟨e', t', plan, -, -, built, repairs⟩ := trades_only_drift_iff nonnegative computed false
  refine ⟨report, e', t', plan, computed, built, repairs.mpr fun difference hmem _ => ?_⟩
  have drifts := (stated.listed difference.symbol).mp ⟨difference, hmem, rfl⟩
  have apart : (Decimal.ofInt 0).toRat < |symbolSum asciiPlatform (wholePositions [("BTCUSDT", 3)])
      difference.symbol - symbolSum asciiPlatform (wholePositions [("BTCUSDT", 5)])
      difference.symbol| := by
    simpa [Drifts] using drifts
  rw [← (reports.computed difference hmem).1.drifts_iff, (stated.carried difference hmem).reasons_eq,
    driftReasons, decide_eq_true apart]
  simp [reasonWhen, exchangeTargetReason]

/-- The database has drifted, and the exchange is off its target by half of the tolerance: a trade
is proposed all the same. -/
theorem trade_within_tolerance :
    ∃ report exchange target plan,
      reconcilePositionSnapshots asciiPlatform "user" "account" (wholePositions [("BTCUSDT", 7)])
        (wholePositions [("BTCUSDT", 20)]) (wholePositions [("BTCUSDT", 8)]) (.finite (.ofInt 2))
        (.finite (.ofInt 1)) = .ok report ∧
      normalizeSnapshots asciiPlatform (wholePositions [("BTCUSDT", 7)]) = .ok exchange ∧
      normalizeSnapshots asciiPlatform (wholePositions [("BTCUSDT", 8)]) = .ok target ∧
      buildReconciliationRepairPlan report (some ⟨true, false⟩) = .ok plan ∧
      ¬RepairsDrift (.finite (.ofInt 2)) exchange target report plan := by
  have exact : ExactSides asciiPlatform (wholePositions [("BTCUSDT", 7)])
      (wholePositions [("BTCUSDT", 20)]) (wholePositions [("BTCUSDT", 8)]) :=
    exactSides_of_whole (by decide +kernel)
  have two : (DecimalLiteral.finite (.ofInt 2)).Is 2 := ⟨trivial, by simp [DecimalLiteral.toRat]⟩
  have nonnegative : (DecimalLiteral.finite (.ofInt 2)).atLeast .zero = .ok true := by
    rw [two.atLeast DecimalLiteral.is_zero]
    simp
  obtain ⟨report, computed, stated⟩ := reconcilePositionSnapshots_exact (.ofInt 1) exact
    (by decide +kernel : 0 ≤ (Decimal.ofInt 2).toRat) "user" "account"
  obtain ⟨e, t, hexchange, htarget, reports⟩ := reports_of_reconcile nonnegative computed
  obtain ⟨plan, built, proposed⟩ := buildReconciliationRepairPlan_proposes reports nonnegative false
  refine ⟨report, e, t, plan, computed, hexchange, htarget, built, fun repairs => ?_⟩
  have seven : symbolSum asciiPlatform (wholePositions [("BTCUSDT", 7)]) "BTCUSDT" = 7 := by
    decide +kernel
  have twenty : symbolSum asciiPlatform (wholePositions [("BTCUSDT", 20)]) "BTCUSDT" = 20 := by
    decide +kernel
  have eight : symbolSum asciiPlatform (wholePositions [("BTCUSDT", 8)]) "BTCUSDT" = 8 := by
    decide +kernel
  obtain ⟨difference, hmem, symbol⟩ := (stated.listed "BTCUSDT").mpr
    (by rw [seven, twenty, eight, Drifts]; norm_num [abs_of_neg])
  have carried := stated.carried difference hmem
  rw [symbol, seven, twenty, eight] at carried
  obtain ⟨proposal, hproposal, proposes⟩ := exists_of_forall₂_left proposed hmem
  have below : difference.exchangeQuantity.less difference.targetQuantity = .ok true := by
    rw [carried.exchange_is.less carried.target_is]
    norm_num
  have reasoned := repairs.reasons proposal hproposal (proposes.isTrade_iff.mpr (.inl below))
  rw [proposes.carries.2, carried.reasons_eq] at reasoned
  norm_num [driftReasons, reasonWhen, exchangeTargetReason, abs_of_neg] at reasoned
  rcases reasoned with h | h <;> exact absurd h (by decide)

/-! ### Complete plans -/

/-- What a proposal says of the three sums of its symbol: its delta takes the exchange to the
target, or it is the distance of the database from both. -/
structure Repairs (exchange database target : String → ℚ)
    (difference : PositionReconciliationDifference) (proposal : ReconciliationRepairProposal) :
    Prop where
  symbol : proposal.symbol = difference.symbol
  exchangeQuantity : proposal.exchangeQuantity = difference.exchangeQuantity
  databaseQuantity : proposal.databaseQuantity = difference.databaseQuantity
  targetQuantity : proposal.targetQuantity = difference.targetQuantity
  severity : proposal.severity = difference.severity
  reasons : proposal.reasons = difference.reasons
  delta : ∃ delta : ℚ, 0 < delta ∧ proposal.quantityDelta.Is delta ∧
    match proposal.action with
    | .buyToTarget => exchange difference.symbol + delta = target difference.symbol
    | .sellToTarget => exchange difference.symbol - delta = target difference.symbol
    | .reviewDatabasePosition => exchange difference.symbol = target difference.symbol ∧
        delta = |database difference.symbol - target difference.symbol|

section

variable {py : Platform} {difference : PositionReconciliationDifference}
  {proposal : ReconciliationRepairProposal} {e d t : String → ℚ} {tolerance threshold : ℚ}

theorem Proposes.repairs
    (proposes : Proposes difference proposal)
    (described : IsDifference difference.symbol (e difference.symbol) (d difference.symbol)
      (t difference.symbol) tolerance threshold difference)
    (digits : ExactDifferences (e difference.symbol) (d difference.symbol) (t difference.symbol)) :
    Repairs e d t difference proposal := by
  have subtracts {delta : DecimalLiteral}
      (subtracted : difference.targetQuantity.sub difference.exchangeQuantity = .ok delta) :
      delta.Is (t difference.symbol - e difference.symbol) := by
    have swapped := digits.exchangeTarget.neg
    rw [neg_sub] at swapped
    obtain ⟨delta', subtracted', number⟩ := described.target_is.sub described.exchange_is swapped
    cases subtracted.symm.trans subtracted'
    exact number
  cases proposes with
  | buy below subtracted =>
    rw [described.exchange_is.less described.target_is, Except.ok.injEq, decide_eq_true_eq] at below
    refine ⟨rfl, rfl, rfl, rfl, rfl, rfl, _, sub_pos.mpr below, subtracts subtracted, ?_⟩
    exact add_sub_cancel _ _
  | sell above subtracted =>
    rw [described.target_is.less described.exchange_is, Except.ok.injEq, decide_eq_true_eq] at above
    have swapped := digits.exchangeTarget.neg
    rw [neg_sub] at swapped
    have magnitude := (subtracts subtracted).abs swapped
    rw [abs_of_neg (sub_neg.mpr above), neg_sub] at magnitude
    refine ⟨rfl, rfl, rfl, rfl, rfl, rfl, _, sub_pos.mpr above, magnitude, ?_⟩
    exact sub_sub_cancel _ _
  | review same apart =>
    unfold DecimalLiteral.Differs at same
    rw [described.exchange_is.less described.target_is,
      described.target_is.less described.exchange_is] at same
    simp only [Except.ok.injEq, decide_eq_true_eq, not_or, not_lt] at same
    obtain ⟨value, delta, number⟩ := described.databaseTarget_is.exists
    rw [delta, DecimalLiteral.isNonzero, decide_eq_true_eq] at apart
    have distinct : d difference.symbol - t difference.symbol ≠ 0 := by
      rw [← number]
      exact fun zero => apart (Decimal.toRat_eq_zero_iff.mp zero)
    refine ⟨rfl, rfl, rfl, rfl, rfl, rfl, _, abs_pos.mpr distinct,
      described.databaseTarget_is.abs digits.databaseTarget, ?_⟩
    exact ⟨le_antisymm same.2 same.1, rfl⟩

/-- Every plan forbids what it proposes. -/
theorem buildReconciliationRepairPlan_forbids {report : PositionReconciliationReport}
    {settings : Option ReconciliationRepairSettings} {plan : ReconciliationRepairPlan}
    (built : buildReconciliationRepairPlan report settings = .ok plan) :
    plan.executionAllowed = false ∧ plan.autoFixAllowed = false := by
  unfold buildReconciliationRepairPlan at built
  dsimp only at built
  split at built
  · cases built
    exact ⟨rfl, rfl⟩
  split at built
  · cases built
    exact ⟨rfl, rfl⟩
  · obtain ⟨proposals, -, built⟩ := bind_eq_ok.mp built
    cases built
    exact ⟨rfl, rfl⟩

/-- Without rounding, every plan of a report that lists proposals has one for each difference, in
the order of the report, and no plan allows anything to be executed. -/
theorem repair_plan_complete {exchange database target : List PositionQuantitySnapshot}
    {tolerance : Decimal} (threshold : Decimal) (exact : ExactSides py exchange database target)
    (nonnegative : 0 ≤ tolerance.toRat) (userId exchangeAccountId : String) :
    ∃ report, reconcilePositionSnapshots py userId exchangeAccountId exchange database target
        (.finite tolerance) (.finite threshold) = .ok report ∧
      (∀ executionEnabled, ∃ plan,
        buildReconciliationRepairPlan report (some ⟨true, executionEnabled⟩) = .ok plan ∧
        List.Forall₂ (Repairs (symbolSum py exchange) (symbolSum py database)
          (symbolSum py target)) report.differences plan.proposals) ∧
      ∀ settings, ∃ plan, buildReconciliationRepairPlan report settings = .ok plan ∧
        plan.executionAllowed = false ∧ plan.autoFixAllowed = false := by
  obtain ⟨report, computed, stated⟩ :=
    reconcilePositionSnapshots_exact threshold exact nonnegative userId exchangeAccountId
  have limit : (DecimalLiteral.finite tolerance).atLeast .zero = .ok true := by
    have number : (DecimalLiteral.finite tolerance).Is tolerance.toRat := ⟨trivial, rfl⟩
    rw [number.atLeast DecimalLiteral.is_zero, decide_eq_true nonnegative]
  obtain ⟨_, _, -, -, reports⟩ := reports_of_reconcile limit computed
  refine ⟨report, computed, fun executionEnabled => ?_, fun settings => ?_⟩
  · obtain ⟨plan, built, proposed⟩ :=
      buildReconciliationRepairPlan_proposes reports limit executionEnabled
    refine ⟨plan, built, ?_⟩
    rw [List.forall₂_iff_zip] at proposed ⊢
    refine ⟨proposed.1, fun {difference proposal} hmem => ?_⟩
    have listed := (List.of_mem_zip hmem).1
    exact (proposed.2 hmem).repairs (stated.carried difference listed)
      (exact.differences difference.symbol)
  · obtain ⟨plan, built⟩ : ∃ plan, buildReconciliationRepairPlan report settings = .ok plan := by
      by_cases enabled : (settings.getD {}).proposalGenerationEnabled = true
      · have same : buildReconciliationRepairPlan report settings =
            buildReconciliationRepairPlan report
              (some ⟨true, (settings.getD {}).executionEnabled⟩) := by
          unfold buildReconciliationRepairPlan
          simp [enabled]
        obtain ⟨plan, built, -⟩ := buildReconciliationRepairPlan_proposes reports limit
          (settings.getD {}).executionEnabled
        exact ⟨plan, same.trans built⟩
      · exact ⟨_, if_pos (by simpa using enabled)⟩
    exact ⟨plan, built, buildReconciliationRepairPlan_forbids built⟩

end

theorem repair_plan_complete_whole :
    ∃ report, reconcilePositionSnapshots asciiPlatform "user" "account"
        (wholePositions [("BTCUSDT", 3), ("ethusdt", 2)]) (wholePositions [("ETHUSDT", 1)])
        (wholePositions [("ETHUSDT", 2)]) (.finite (.ofInt 0)) (.finite (.ofInt 1)) = .ok report ∧
      ∃ plan, buildReconciliationRepairPlan report (some ⟨true, true⟩) = .ok plan ∧
        plan.proposals.length = report.differences.length ∧ plan.executionAllowed = false := by
  obtain ⟨report, computed, proposed, -⟩ := repair_plan_complete (.ofInt 1)
    (exactSides_of_whole (by decide +kernel) : ExactSides asciiPlatform
      (wholePositions [("BTCUSDT", 3), ("ethusdt", 2)]) (wholePositions [("ETHUSDT", 1)])
      (wholePositions [("ETHUSDT", 2)]))
    (by decide +kernel : 0 ≤ (Decimal.ofInt 0).toRat) "user" "account"
  obtain ⟨plan, built, repairs⟩ := proposed true
  exact ⟨report, computed, plan, built, repairs.length_eq.symm,
    (buildReconciliationRepairPlan_forbids built).1⟩

end CopyTrading
