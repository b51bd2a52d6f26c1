import CopyTrading.Observability.RepairPlanning

/-!
A plan carried out. The plan executes nothing; whoever carries its trades out at the exchange, and
writes the outcome to the database, reconciles without drift afterwards. Where the database is
left alone, the next plan asks for reviews only.
-/

namespace CopyTrading

open DecimalArith (Decimal)
open DecimalArith.Decimal (Representable)
open Fallible

/-! ### Trades -/

/-- What a proposal trades at the exchange: a sale changes the position by less than nothing. -/
def ReconciliationRepairProposal.trades (proposal : ReconciliationRepairProposal) :
    List PositionQuantitySnapshot :=
  match proposal.action with
  | .buyToTarget => [⟨proposal.symbol, proposal.quantityDelta⟩]
  | .sellToTarget => [⟨proposal.symbol, proposal.quantityDelta.neg⟩]
  | .reviewDatabasePosition => []

def ReconciliationRepairPlan.trades (plan : ReconciliationRepairPlan) :
    List PositionQuantitySnapshot :=
  plan.proposals.flatMap (·.trades)

section

variable {py : Platform} {exchange database target : List PositionQuantitySnapshot}
  {e d t : String → ℚ} {differences : List PositionReconciliationDifference}
  {difference : PositionReconciliationDifference}
  {proposal : ReconciliationRepairProposal} {proposals : List ReconciliationRepairProposal}

theorem symbolSum_eq_zero {snapshots : List PositionQuantitySnapshot} {symbol : String}
    (unlisted : symbol ∉ snapshots.map fun snapshot => py.upper snapshot.symbol) :
    symbolSum py snapshots symbol = 0 := by
  unfold symbolSum
  rw [List.filter_eq_nil_iff.mpr fun snapshot hmem => ?_]
  · rfl
  · rw [decide_eq_true_eq]
    rintro rfl
    exact unlisted (List.mem_map_of_mem hmem)

theorem drifts_self_iff {limit a b : ℚ} (nonnegative : 0 ≤ limit) :
    Drifts limit b a b ↔ limit < |a - b| := by
  unfold Drifts
  rw [sub_self, abs_zero, abs_sub_comm b a]
  simp [not_lt.mpr nonnegative]

theorem drifts_updated_iff {limit a b : ℚ} (nonnegative : 0 ≤ limit) :
    Drifts limit a a b ↔ limit < |a - b| := by
  unfold Drifts
  rw [sub_self, abs_zero]
  simp [not_lt.mpr nonnegative]

/-- A symbol of which there is a position is written in capitals. -/
theorem upper_of_symbolSum (stable : py.UpperStable) {snapshots : List PositionQuantitySnapshot}
    {symbol : String} (held : symbolSum py snapshots symbol ≠ 0) : py.upper symbol = symbol := by
  by_contra other
  refine held (symbolSum_eq_zero ?_)
  rintro listed
  obtain ⟨snapshot, -, rfl⟩ := List.mem_map.mp listed
  exact other (stable.upper_upper _)

theorem upper_of_drifts (stable : py.UpperStable) {tolerance : ℚ} {symbol : String}
    (nonnegative : 0 ≤ tolerance)
    (drifts : Drifts tolerance (symbolSum py exchange symbol) (symbolSum py database symbol)
      (symbolSum py target symbol)) : py.upper symbol = symbol := by
  by_contra other
  have none (snapshots : List PositionQuantitySnapshot) : symbolSum py snapshots symbol = 0 :=
    not_not.mp fun held => other (upper_of_symbolSum stable held)
  rw [none exchange, none database, none target, drifts_self_iff nonnegative, sub_zero,
    abs_zero] at drifts
  exact absurd drifts (not_lt.mpr nonnegative)

/-- The trades of a proposal are the distance of the exchange from the target, at the symbol of the
proposal. -/
theorem Repairs.symbolSum_trades (repairs : Repairs e d t difference proposal)
    (capitals : py.upper difference.symbol = difference.symbol) (symbol : String) :
    symbolSum py proposal.trades symbol =
      if difference.symbol = symbol then t symbol - e symbol else 0 := by
  obtain ⟨delta, -, number, effect⟩ := repairs.delta
  unfold ReconciliationRepairProposal.trades
  cases action : proposal.action with
  | buyToTarget =>
    rw [action] at effect
    dsimp only at effect ⊢
    rw [symbolSum_single, repairs.symbol, capitals, number.number]
    split
    · next same => rw [← same, ← effect, add_sub_cancel_left]
    · rfl
  | sellToTarget =>
    rw [action] at effect
    dsimp only at effect ⊢
    rw [symbolSum_single, repairs.symbol, capitals, number.neg.number]
    split
    · next same => rw [← same, ← effect, sub_sub_cancel_left]
    · rfl
  | reviewDatabasePosition =>
    rw [action] at effect
    dsimp only at effect ⊢
    split
    · next same => rw [← same, effect.1, sub_self]; rfl
    · rfl

theorem Repairs.finite_trades (repairs : Repairs e d t difference proposal) :
    ∀ trade ∈ proposal.trades, trade.quantity.Finite := by
  obtain ⟨delta, -, number, -⟩ := repairs.delta
  unfold ReconciliationRepairProposal.trades
  intro trade traded
  cases action : proposal.action with
  | buyToTarget =>
    rw [action] at traded
    rw [List.mem_singleton.mp traded]
    exact number.finite
  | sellToTarget =>
    rw [action] at traded
    rw [List.mem_singleton.mp traded]
    exact number.neg.finite
  | reviewDatabasePosition =>
    rw [action] at traded
    exact absurd traded List.not_mem_nil

/-- Together the proposals trade every listed symbol from the exchange to the target, and no
other. -/
theorem symbolSum_trades (repaired : List.Forall₂ (Repairs e d t) differences proposals)
    (ordered : differences.Pairwise fun a b => a.symbol < b.symbol)
    (capitals : ∀ difference ∈ differences, py.upper difference.symbol = difference.symbol)
    (symbol : String) :
    symbolSum py (proposals.flatMap (·.trades)) symbol =
      if symbol ∈ differences.map (·.symbol) then t symbol - e symbol else 0 := by
  induction repaired with
  | nil => rfl
  | @cons difference proposal differences proposals repairs _ ih =>
    obtain ⟨first, ordered⟩ := List.pairwise_cons.mp ordered
    obtain ⟨head, capitals⟩ := List.forall_mem_cons.mp capitals
    rw [List.flatMap_cons, symbolSum_append, repairs.symbolSum_trades head, ih ordered capitals,
      List.map_cons]
    simp only [List.mem_cons]
    by_cases same : difference.symbol = symbol
    · have once : symbol ∉ differences.map (·.symbol) := by
        intro again
        obtain ⟨other, hmem, hother⟩ := List.mem_map.mp again
        exact absurd (first other hmem) (by rw [same, hother]; exact String.lt_irrefl symbol)
      rw [if_pos same, if_neg once, if_pos (.inl same.symm), add_zero]
    · rw [if_neg same, zero_add]
      exact if_congr ⟨.inr, fun h => h.resolve_left (Ne.symm same)⟩ rfl rfl

/-- A proposal trades its own symbol, or nothing. -/
theorem Repairs.trades_sublist (repairs : Repairs e d t difference proposal) :
    (proposal.trades.map (·.symbol)).Sublist [difference.symbol] := by
  unfold ReconciliationRepairProposal.trades
  cases proposal.action with
  | buyToTarget | sellToTarget => simp [repairs.symbol]
  | reviewDatabasePosition => simp

theorem trades_sublist (repaired : List.Forall₂ (Repairs e d t) differences proposals) :
    ((proposals.flatMap (·.trades)).map (·.symbol)).Sublist (differences.map (·.symbol)) := by
  induction repaired with
  | nil => exact .slnil
  | @cons difference proposal differences proposals repairs _ ih =>
    rw [List.flatMap_cons, List.map_append]
    exact repairs.trades_sublist.append ih

/-- No symbol is traded twice. -/
theorem nodup_trades (repaired : List.Forall₂ (Repairs e d t) differences proposals)
    (ordered : differences.Pairwise fun a b => a.symbol < b.symbol) :
    ((proposals.flatMap (·.trades)).map (·.symbol)).Nodup :=
  (trades_sublist repaired).nodup (List.pairwise_map.mpr (ordered.imp String.ne_of_lt))

theorem Repairs.traded (repairs : Repairs e d t difference proposal) :
    ∀ trade ∈ proposal.trades, trade.symbol = difference.symbol ∧
      e difference.symbol ≠ t difference.symbol := by
  obtain ⟨delta, positive, -, effect⟩ := repairs.delta
  unfold ReconciliationRepairProposal.trades
  intro trade traded
  cases action : proposal.action with
  | buyToTarget =>
    rw [action] at traded effect
    rw [List.mem_singleton.mp traded]
    dsimp only at effect ⊢
    exact ⟨repairs.symbol, fun same => by linarith⟩
  | sellToTarget =>
    rw [action] at traded effect
    rw [List.mem_singleton.mp traded]
    dsimp only at effect ⊢
    exact ⟨repairs.symbol, fun same => by linarith⟩
  | reviewDatabasePosition =>
    rw [action] at traded
    exact absurd traded List.not_mem_nil

/-- What is traded is a listed symbol that is off its target. -/
theorem traded_of_mem (repaired : List.Forall₂ (Repairs e d t) differences proposals) :
    ∀ trade ∈ proposals.flatMap (·.trades), trade.quantity.Finite ∧
      trade.symbol ∈ differences.map (·.symbol) ∧ e trade.symbol ≠ t trade.symbol := by
  intro trade traded
  obtain ⟨proposal, hproposal, traded⟩ := List.mem_flatMap.mp traded
  obtain ⟨difference, hmem, repairs⟩ := exists_of_forall₂_right repaired hproposal
  obtain ⟨symbol, apart⟩ := repairs.traded trade traded
  rw [symbol]
  exact ⟨repairs.finite_trades trade traded, List.mem_map_of_mem hmem, apart⟩

/-! ### Positions of distinct symbols -/

/-- Where no symbol is listed twice, a part of the positions has the sums of the whole, or none. -/
theorem symbolSum_of_prefix {front snapshots : List PositionQuantitySnapshot}
    (distinct : (snapshots.map fun snapshot => py.upper snapshot.symbol).Nodup)
    (leading : front <+: snapshots) (symbol : String) :
    symbolSum py front symbol = symbolSum py snapshots symbol ∨ symbolSum py front symbol = 0 := by
  obtain ⟨back, rfl⟩ := leading
  rw [List.map_append] at distinct
  by_cases listed : symbol ∈ front.map fun snapshot => py.upper snapshot.symbol
  · refine .inl ?_
    have absent : symbolSum py back symbol = 0 :=
      symbolSum_eq_zero fun again => (List.disjoint_of_nodup_append distinct) listed again
    rw [symbolSum_append, absent, add_zero]
  · exact .inr (symbolSum_eq_zero listed)

/-- Where no running sum is rounded, none is when positions of distinct symbols are added whose
sums need no more digits. -/
theorem ExactSums.append {front back : List PositionQuantitySnapshot} (exact : ExactSums py front)
    (finite : ∀ snapshot ∈ back, snapshot.quantity.Finite)
    (distinct : (back.map fun snapshot => py.upper snapshot.symbol).Nodup)
    (sums : ∀ symbol, Representable decimalPrecision decimalEmax (symbolSum py (front ++ back) symbol)) :
    ExactSums py (front ++ back) := by
  refine ⟨fun snapshot hmem => ?_, fun leading hleading symbol => ?_⟩
  · exact (List.mem_append.mp hmem).elim (exact.finite snapshot) (finite snapshot)
  rcases List.prefix_or_prefix_of_prefix hleading (List.prefix_append front back) with
    short | ⟨later, rfl⟩
  · exact exact.sums leading short symbol
  · rw [List.prefix_append_right_inj] at hleading
    rw [symbolSum_append]
    rcases symbolSum_of_prefix distinct hleading symbol with whole | nothing
    · rw [whole, ← symbolSum_append]
      exact sums symbol
    · rw [nothing, add_zero]
      exact exact.sums front (List.prefix_refl front) symbol

end

/-! ### A plan that is carried out -/

section

variable {py : Platform} {exchange database target : List PositionQuantitySnapshot}
  {tolerance : Decimal}

/-- The exchange after the trades of a plan, compared with what the database held before them: every
symbol that had drifted is at its target, and no trades bring them all there that are fewer. The
next report finds no drift where the database was updated, and asks for reviews of what the
database has wrong where it was not. -/
structure CarriedOut (py : Platform) (userId exchangeAccountId : String)
    (exchange database target : List PositionQuantitySnapshot) (tolerance threshold : Decimal)
    (settings : ReconciliationRepairSettings) (trades : List PositionQuantitySnapshot) : Prop where
  drifted : ∀ symbol, Drifts tolerance.toRat (symbolSum py exchange symbol)
      (symbolSum py database symbol) (symbolSum py target symbol) →
    symbolSum py (exchange ++ trades) symbol = symbolSum py target symbol
  others : ∀ symbol, ¬Drifts tolerance.toRat (symbolSum py exchange symbol)
      (symbolSum py database symbol) (symbolSum py target symbol) →
    symbolSum py (exchange ++ trades) symbol = symbolSum py exchange symbol
  fewest : ∀ fewer : List PositionQuantitySnapshot,
    (∀ symbol, Drifts tolerance.toRat (symbolSum py exchange symbol) (symbolSum py database symbol)
      (symbolSum py target symbol) →
      symbolSum py (exchange ++ fewer) symbol = symbolSum py target symbol) →
    trades.length ≤ fewer.length
  updated : ∃ report plan, reconcilePositionSnapshots py userId exchangeAccountId
      (exchange ++ trades) (exchange ++ trades) target (.finite tolerance) (.finite threshold) =
        .ok report ∧
    report.status = .matched ∧ report.severity = .ok ∧
    buildReconciliationRepairPlan report (some settings) = .ok plan ∧
    plan.status = .noDrift ∧ plan.proposals = []
  stale : ∃ report plan, reconcilePositionSnapshots py userId exchangeAccountId
      (exchange ++ trades) database target (.finite tolerance) (.finite threshold) = .ok report ∧
    buildReconciliationRepairPlan report (some settings) = .ok plan ∧ plan.trades = [] ∧
    ∀ symbol, (∃ proposal ∈ plan.proposals, proposal.symbol = symbol) ↔
      tolerance.toRat < |symbolSum py database symbol - symbolSum py target symbol|

/-- The report, and the plan that has one proposal for each of its differences. -/
theorem exists_repair_plan (threshold : Decimal) (exact : ExactSides py exchange database target)
    (nonnegative : 0 ≤ tolerance.toRat) (userId exchangeAccountId : String)
    (executionEnabled : Bool) :
    ∃ report plan, reconcilePositionSnapshots py userId exchangeAccountId exchange database target
        (.finite tolerance) (.finite threshold) = .ok report ∧
      ReportOf userId exchangeAccountId (symbolSum py exchange) (symbolSum py database)
        (symbolSum py target) tolerance.toRat threshold.toRat report ∧
      buildReconciliationRepairPlan report (some ⟨true, executionEnabled⟩) = .ok plan ∧
      List.Forall₂ (Repairs (symbolSum py exchange) (symbolSum py database)
        (symbolSum py target)) report.differences plan.proposals := by
  obtain ⟨report, computed, stated⟩ :=
    reconcilePositionSnapshots_exact threshold exact nonnegative userId exchangeAccountId
  have limit : (DecimalLiteral.finite tolerance).atLeast .zero = .ok true := by
    have number : (DecimalLiteral.finite tolerance).Is tolerance.toRat := ⟨trivial, rfl⟩
    rw [number.atLeast DecimalLiteral.is_zero, decide_eq_true nonnegative]
  obtain ⟨_, _, -, -, reports⟩ := reports_of_reconcile limit computed
  obtain ⟨plan, built, proposed⟩ :=
    buildReconciliationRepairPlan_proposes reports limit executionEnabled
  refine ⟨report, plan, computed, stated, built, ?_⟩
  rw [List.forall₂_iff_zip] at proposed ⊢
  refine ⟨proposed.1, fun {difference proposal} hmem => ?_⟩
  have listed := (List.of_mem_zip hmem).1
  exact (proposed.2 hmem).repairs (stated.carried difference listed)
    (exact.differences difference.symbol)

theorem representable_zero : Representable decimalPrecision decimalEmax 0 :=
  ⟨0, 0, by decide, by decide, by simp⟩

/-- The database is brought to the exchange. -/
theorem ExactDifferences.updated {e d t : ℚ} (digits : ExactDifferences e d t) :
    ExactDifferences e e t := by
  refine ⟨?_, digits.exchangeTarget, digits.exchangeTarget⟩
  rw [sub_self]
  exact representable_zero

/-- The exchange is brought to the target. -/
theorem ExactDifferences.reached {e d t : ℚ} (digits : ExactDifferences e d t) :
    ExactDifferences t d t := by
  refine ⟨?_, ?_, digits.databaseTarget⟩
  · rw [← neg_sub]
    exact digits.databaseTarget.neg
  · rw [sub_self]
    exact representable_zero

theorem buildReconciliationRepairPlan_matched {report : PositionReconciliationReport}
    (matched : report.status = .matched) (executionEnabled : Bool) :
    buildReconciliationRepairPlan report (some ⟨true, executionEnabled⟩) =
      .ok (repairPlan report .noDrift []) := by
  unfold buildReconciliationRepairPlan
  rw [Option.getD_some, if_neg Bool.true_eq_false.mp, if_pos matched]
  rfl

/-- What a report lists is what drifts. -/
theorem ReportOf.listed_iff {userId exchangeAccountId : String} {e d t : String → ℚ}
    {limit threshold : ℚ} {report : PositionReconciliationReport}
    (stated : ReportOf userId exchangeAccountId e d t limit threshold report) (symbol : String) :
    symbol ∈ report.differences.map (·.symbol) ↔ Drifts limit (e symbol) (d symbol) (t symbol) := by
  rw [List.mem_map]
  exact stated.listed symbol

/-- At the positions `after`, every symbol that had drifted is at its target, and every other one
where it was. -/
def Settles (py : Platform) (exchange database target : List PositionQuantitySnapshot)
    (tolerance : Decimal) (after : List PositionQuantitySnapshot) : Prop :=
  ∀ symbol,
    Drifts tolerance.toRat (symbolSum py exchange symbol) (symbolSum py database symbol)
        (symbolSum py target symbol) ∧
      symbolSum py after symbol = symbolSum py target symbol ∨
    ¬Drifts tolerance.toRat (symbolSum py exchange symbol) (symbolSum py database symbol)
        (symbolSum py target symbol) ∧
      symbolSum py after symbol = symbolSum py exchange symbol

section

variable {userId exchangeAccountId : String} {threshold : Decimal}
  {report : PositionReconciliationReport} {proposals : List ReconciliationRepairProposal}
  {after trades : List PositionQuantitySnapshot}

theorem capitals_of_report (stable : py.UpperStable) (nonnegative : 0 ≤ tolerance.toRat)
    (stated : ReportOf userId exchangeAccountId (symbolSum py exchange) (symbolSum py database)
      (symbolSum py target) tolerance.toRat threshold.toRat report) :
    ∀ difference ∈ report.differences, py.upper difference.symbol = difference.symbol :=
  fun difference hmem => upper_of_drifts stable nonnegative
    ((stated.listed_iff difference.symbol).mp (List.mem_map_of_mem hmem))

/-- The trades of the proposals settle the positions. -/
theorem settles_trades (stable : py.UpperStable) (nonnegative : 0 ≤ tolerance.toRat)
    (stated : ReportOf userId exchangeAccountId (symbolSum py exchange) (symbolSum py database)
      (symbolSum py target) tolerance.toRat threshold.toRat report)
    (repaired : List.Forall₂ (Repairs (symbolSum py exchange) (symbolSum py database)
      (symbolSum py target)) report.differences proposals) :
    Settles py exchange database target tolerance
      (exchange ++ proposals.flatMap (·.trades)) := by
  intro symbol
  have traded := symbolSum_trades repaired stated.ordered
    (capitals_of_report stable nonnegative stated) symbol
  rw [symbolSum_append, traded]
  by_cases drifts : Drifts tolerance.toRat (symbolSum py exchange symbol)
      (symbolSum py database symbol) (symbolSum py target symbol)
  · refine .inl ⟨drifts, ?_⟩
    rw [if_pos ((stated.listed_iff symbol).mpr drifts), add_sub_cancel]
  · refine .inr ⟨drifts, ?_⟩
    rw [if_neg (mt (stated.listed_iff symbol).mp drifts), add_zero]

/-- No symbol is traded twice, in whatever spelling. -/
theorem nodup_upper_trades (stable : py.UpperStable) (nonnegative : 0 ≤ tolerance.toRat)
    (stated : ReportOf userId exchangeAccountId (symbolSum py exchange) (symbolSum py database)
      (symbolSum py target) tolerance.toRat threshold.toRat report)
    (repaired : List.Forall₂ (Repairs (symbolSum py exchange) (symbolSum py database)
      (symbolSum py target)) report.differences proposals) :
    ((proposals.flatMap (·.trades)).map fun trade => py.upper trade.symbol).Nodup := by
  have spelled : (proposals.flatMap (·.trades)).map (fun trade => py.upper trade.symbol) =
      (proposals.flatMap (·.trades)).map (·.symbol) := List.map_congr_left fun trade hmem => by
    obtain ⟨-, listed, -⟩ := traded_of_mem repaired trade hmem
    obtain ⟨difference, hdifference, symbol⟩ := List.mem_map.mp listed
    rw [← symbol]
    exact capitals_of_report stable nonnegative stated difference hdifference
  rw [spelled]
  exact nodup_trades repaired stated.ordered

/-- Whatever settles the drifted symbols trades each one the proposals trade. -/
theorem length_trades_le (stated : ReportOf userId exchangeAccountId (symbolSum py exchange)
      (symbolSum py database) (symbolSum py target) tolerance.toRat threshold.toRat report)
    (repaired : List.Forall₂ (Repairs (symbolSum py exchange) (symbolSum py database)
      (symbolSum py target)) report.differences proposals)
    (reaches : ∀ symbol, Drifts tolerance.toRat (symbolSum py exchange symbol)
        (symbolSum py database symbol) (symbolSum py target symbol) →
      symbolSum py (exchange ++ trades) symbol = symbolSum py target symbol) :
    (proposals.flatMap (·.trades)).length ≤ trades.length := by
  have covered : (proposals.flatMap (·.trades)).map (·.symbol) ⊆
      trades.map fun trade => py.upper trade.symbol := by
    intro symbol hmem
    obtain ⟨trade, htrade, rfl⟩ := List.mem_map.mp hmem
    obtain ⟨-, listed, apart⟩ := traded_of_mem repaired trade htrade
    by_contra missing
    have moved := reaches trade.symbol ((stated.listed_iff trade.symbol).mp listed)
    rw [symbolSum_append, symbolSum_eq_zero missing, add_zero] at moved
    exact apart moved
  simpa using (nodup_trades repaired stated.ordered).length_le_of_subset covered

namespace Settles

theorem differences (settles : Settles py exchange database target tolerance after)
    (exact : ExactSides py exchange database target) (symbol : String) :
    ExactDifferences (symbolSum py after symbol) (symbolSum py database symbol)
      (symbolSum py target symbol) := by
  rcases settles symbol with ⟨-, reached⟩ | ⟨-, kept⟩
  · exact reached ▸ (exact.differences symbol).reached
  · exact kept ▸ exact.differences symbol

theorem sums (settles : Settles py exchange database target tolerance (exchange ++ trades))
    (exact : ExactSides py exchange database target)
    (finite : ∀ trade ∈ trades, trade.quantity.Finite)
    (distinct : (trades.map fun trade => py.upper trade.symbol).Nodup) :
    ExactSums py (exchange ++ trades) := by
  refine exact.exchangeSums.append finite distinct fun symbol => ?_
  rcases settles symbol with ⟨-, reached⟩ | ⟨-, kept⟩
  · rw [reached]
    exact exact.targetSums.sums target (List.prefix_refl _) symbol
  · rw [kept]
    exact exact.exchangeSums.sums exchange (List.prefix_refl _) symbol

/-- With the database brought up to date, nothing drifts. -/
theorem updated (settles : Settles py exchange database target tolerance after)
    (exact : ExactSides py exchange database target) (sums : ExactSums py after)
    (nonnegative : 0 ≤ tolerance.toRat) (threshold : Decimal) (userId exchangeAccountId : String)
    (executionEnabled : Bool) :
    ∃ report plan, reconcilePositionSnapshots py userId exchangeAccountId after after target
        (.finite tolerance) (.finite threshold) = .ok report ∧
      report.status = .matched ∧ report.severity = .ok ∧
      buildReconciliationRepairPlan report (some ⟨true, executionEnabled⟩) = .ok plan ∧
      plan.status = .noDrift ∧ plan.proposals = [] := by
  obtain ⟨report, plan, computed, stated, built, -⟩ := exists_repair_plan threshold
    ⟨sums, sums, exact.targetSums, fun symbol => (settles.differences exact symbol).updated⟩
    nonnegative userId exchangeAccountId executionEnabled
  have none : report.differences = [] := by
    refine List.eq_nil_iff_forall_not_mem.mpr fun difference hmem => ?_
    have drifts := (stated.listed difference.symbol).mp ⟨difference, hmem, rfl⟩
    rw [drifts_updated_iff nonnegative] at drifts
    rcases settles difference.symbol with ⟨-, reached⟩ | ⟨within, kept⟩
    · rw [reached, sub_self, abs_zero] at drifts
      exact absurd drifts (not_lt.mpr nonnegative)
    · rw [kept] at drifts
      exact within (.inr (.inl drifts))
  have matched : report.status = .matched := by rw [stated.status, if_pos none]
  rw [buildReconciliationRepairPlan_matched matched] at built
  refine ⟨report, plan, computed, matched, stated.severity.none (by rw [none]; rfl), ?_⟩
  cases built
  exact ⟨buildReconciliationRepairPlan_matched matched executionEnabled, rfl, rfl⟩

/-- With the database left alone, what drifts is what the database has off its target, and there is
nothing to trade. -/
theorem stale (settles : Settles py exchange database target tolerance after)
    (exact : ExactSides py exchange database target) (sums : ExactSums py after)
    (nonnegative : 0 ≤ tolerance.toRat) (threshold : Decimal) (userId exchangeAccountId : String)
    (executionEnabled : Bool) :
    ∃ report plan, reconcilePositionSnapshots py userId exchangeAccountId after database target
        (.finite tolerance) (.finite threshold) = .ok report ∧
      buildReconciliationRepairPlan report (some ⟨true, executionEnabled⟩) = .ok plan ∧
      plan.trades = [] ∧ ∀ symbol, (∃ proposal ∈ plan.proposals, proposal.symbol = symbol) ↔
        tolerance.toRat < |symbolSum py database symbol - symbolSum py target symbol| := by
  obtain ⟨report, plan, computed, stated, built, repaired⟩ := exists_repair_plan threshold
    ⟨sums, exact.databaseSums, exact.targetSums, settles.differences exact⟩ nonnegative userId
    exchangeAccountId executionEnabled
  have listed (symbol : String) : symbol ∈ report.differences.map (·.symbol) ↔
      tolerance.toRat < |symbolSum py database symbol - symbolSum py target symbol| := by
    refine (stated.listed_iff symbol).trans ?_
    rcases settles symbol with ⟨-, reached⟩ | ⟨within, kept⟩
    · rw [reached, drifts_self_iff nonnegative]
    · rw [kept]
      exact iff_of_false within fun apart => within (.inr (.inr apart))
  refine ⟨report, plan, computed, built, ?_, fun symbol => ?_⟩
  · refine List.eq_nil_iff_forall_not_mem.mpr fun trade hmem => ?_
    obtain ⟨-, again, apart⟩ := traded_of_mem repaired trade hmem
    rw [listed] at again
    rcases settles trade.symbol with ⟨-, reached⟩ | ⟨within, -⟩
    · exact apart reached
    · exact within (.inr (.inr again))
  · rw [← listed symbol, List.mem_map]
    constructor
    · rintro ⟨proposal, hproposal, rfl⟩
      obtain ⟨difference, hmem, repairs⟩ := exists_of_forall₂_right repaired hproposal
      exact ⟨difference, hmem, repairs.symbol.symm⟩
    · rintro ⟨difference, hmem, rfl⟩
      obtain ⟨proposal, hproposal, repairs⟩ := exists_of_forall₂_left repaired hmem
      exact ⟨proposal, hproposal, repairs.symbol⟩

end Settles

end

/-- The plan of a report, carried out at the exchange, takes every drifted symbol to its target in
the fewest trades, and reconciling again finds nothing more to trade. -/
theorem repair_plan_converges (stable : py.UpperStable) (threshold : Decimal)
    (exact : ExactSides py exchange database target) (nonnegative : 0 ≤ tolerance.toRat)
    (userId exchangeAccountId : String) (executionEnabled : Bool) :
    ∃ report plan, reconcilePositionSnapshots py userId exchangeAccountId exchange database target
        (.finite tolerance) (.finite threshold) = .ok report ∧
      buildReconciliationRepairPlan report (some ⟨true, executionEnabled⟩) = .ok plan ∧
      CarriedOut py userId exchangeAccountId exchange database target tolerance threshold
        ⟨true, executionEnabled⟩ plan.trades := by
  obtain ⟨report, plan, computed, stated, built, repaired⟩ :=
    exists_repair_plan threshold exact nonnegative userId exchangeAccountId executionEnabled
  have settles : Settles py exchange database target tolerance (exchange ++ plan.trades) :=
    settles_trades stable nonnegative stated repaired
  have sums : ExactSums py (exchange ++ plan.trades) :=
    settles.sums exact (fun trade hmem => (traded_of_mem repaired trade hmem).1)
      (nodup_upper_trades stable nonnegative stated repaired)
  refine ⟨report, plan, computed, built, ?_⟩
  constructor
  case drifted =>
    intro symbol drifts
    rcases settles symbol with ⟨-, reached⟩ | ⟨within, -⟩
    · exact reached
    · exact absurd drifts within
  case others =>
    intro symbol within
    rcases settles symbol with ⟨drifts, -⟩ | ⟨-, kept⟩
    · exact absurd drifts within
    · exact kept
  case fewest => exact fun fewer reaches => length_trades_le stated repaired reaches
  case updated =>
    exact settles.updated exact sums nonnegative threshold userId exchangeAccountId executionEnabled
  case stale =>
    exact settles.stale exact sums nonnegative threshold userId exchangeAccountId executionEnabled

end

theorem repair_plan_converges_whole :
    ∃ report plan, reconcilePositionSnapshots asciiPlatform "user" "account"
        (wholePositions [("BTCUSDT", 3), ("ethusdt", 2)]) (wholePositions [("ETHUSDT", 1)])
        (wholePositions [("ETHUSDT", 2)]) (.finite (.ofInt 0)) (.finite (.ofInt 1)) = .ok report ∧
      buildReconciliationRepairPlan report (some ⟨true, false⟩) = .ok plan ∧
      symbolSum asciiPlatform (wholePositions [("BTCUSDT", 3), ("ethusdt", 2)] ++ plan.trades)
        "BTCUSDT" = 0 := by
  obtain ⟨report, plan, computed, built, carriedOut⟩ := repair_plan_converges
    asciiPlatform_upperStable (.ofInt 1)
    (exactSides_of_whole (by decide +kernel) : ExactSides asciiPlatform
      (wholePositions [("BTCUSDT", 3), ("ethusdt", 2)]) (wholePositions [("ETHUSDT", 1)])
      (wholePositions [("ETHUSDT", 2)]))
    (by decide +kernel : 0 ≤ (Decimal.ofInt 0).toRat) "user" "account" false
  have held : symbolSum asciiPlatform (wholePositions [("BTCUSDT", 3), ("ethusdt", 2)]) "BTCUSDT" =
      3 := by decide +kernel
  have meant : symbolSum asciiPlatform (wholePositions [("ETHUSDT", 2)]) "BTCUSDT" = 0 := by
    decide +kernel
  refine ⟨report, plan, computed, built, ?_⟩
  rw [carriedOut.drifted "BTCUSDT" (.inr (.inl (by rw [held, meant]; norm_num))), meant]

end CopyTrading
