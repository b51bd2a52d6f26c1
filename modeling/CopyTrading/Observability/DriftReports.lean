import CopyTrading.Decimal.Exact
import CopyTrading.Decimal.Stored
import CopyTrading.Environment
import CopyTrading.Observability.PositionReconciliation

/-!
What a reconciliation report says. Where no sum and no difference has more digits than the
context, and none is beyond it, the report is a function of the per-symbol sums alone: it lists
the symbols at which two of the three sides are further apart than the tolerance, in order.
-/

namespace CopyTrading

open DecimalArith (Decimal)
open DecimalArith.Decimal (Representable)
open Fallible

/-! ### Decimals that are numbers -/

namespace DecimalLiteral

variable {a b : DecimalLiteral} {p q : ℚ}

/-- The number of a finite decimal. -/
def toRat : DecimalLiteral → ℚ
  | .finite value => value.toRat
  | .infinity _ | .nan => 0

/-- The decimal is finite and is this number. -/
structure Is (d : DecimalLiteral) (q : ℚ) : Prop where
  finite : d.Finite
  number : d.toRat = q

theorem Is.exists (ha : a.Is p) : ∃ value : Decimal, a = .finite value ∧ value.toRat = p := by
  obtain ⟨finite, number⟩ := ha
  cases a with
  | finite value => exact ⟨value, rfl, number⟩
  | infinity negative => exact finite.elim
  | nan => exact finite.elim

theorem Is.unique (hp : a.Is p) (hq : a.Is q) : p = q := hp.number.symm.trans hq.number

theorem is_zero : zero.Is 0 := ⟨trivial, by simp [zero, toRat]⟩

theorem Is.neg (ha : a.Is p) : a.neg.Is (-p) := by
  obtain ⟨value, rfl, rfl⟩ := ha.exists
  exact ⟨trivial, Decimal.toRat_neg value⟩

/-- What the context has is its result. -/
theorem ofContext_eq {value : Decimal}
    (digits : Representable decimalPrecision decimalEmax value.toRat) :
    ofContext value = .ok (.finite value) := by
  unfold ofContext
  rw [if_neg]
  rintro ⟨nonzero, beyond⟩
  exact (Decimal.adjusted_le_of_representable digits).elim nonzero (not_le.mpr beyond)

theorem Is.add (ha : a.Is p) (hb : b.Is q)
    (digits : Representable decimalPrecision decimalEmax (p + q)) :
    ∃ sum, a.add b = .ok sum ∧ sum.Is (p + q) := by
  obtain ⟨value, rfl, rfl⟩ := ha.exists
  obtain ⟨other, rfl, rfl⟩ := hb.exists
  rw [← Decimal.toRat_addExact] at digits ⊢
  have number : (decimalAdd value other).toRat = (Decimal.addExact value other).toRat :=
    Decimal.toRat_round_of_representable (by decide) digits
  rw [← number] at digits
  exact ⟨_, ofContext_eq digits, trivial, number⟩

theorem Is.sub (ha : a.Is p) (hb : b.Is q)
    (digits : Representable decimalPrecision decimalEmax (p - q)) :
    ∃ difference, a.sub b = .ok difference ∧ difference.Is (p - q) := by
  rw [sub_eq_add_neg] at digits ⊢
  exact ha.add hb.neg digits

theorem Is.abs (ha : a.Is p) (digits : Representable decimalPrecision decimalEmax p) :
    a.abs.Is |p| := by
  obtain ⟨value, rfl, rfl⟩ := ha.exists
  have magnitude : value.abs.toRat = |value.toRat| := by
    rw [Decimal.toRat_of_natAbs, Decimal.abs, Decimal.toRat, Nat.cast_natAbs]
  have digits := digits.abs
  rw [← magnitude] at digits ⊢
  exact ⟨trivial, Decimal.toRat_round_of_representable (by decide) digits⟩

theorem Is.less (ha : a.Is p) (hb : b.Is q) : a.less b = .ok (decide (p < q)) := by
  obtain ⟨value, rfl, rfl⟩ := ha.exists
  obtain ⟨other, rfl, rfl⟩ := hb.exists
  rfl

theorem Is.atLeast (ha : a.Is p) (hb : b.Is q) : a.atLeast b = .ok (decide (q ≤ p)) := by
  unfold DecimalLiteral.atLeast
  rw [ha.less hb]
  by_cases below : p < q
  · simp [below]
  · simp [below, not_lt.mp below]

/-- `a == b` for numbers. -/
def Same (a b : DecimalLiteral) : Prop := ∃ q, a.Is q ∧ b.Is q

end DecimalLiteral

/-! ### The sums -/

section

variable {py : Platform} {snapshots : List PositionQuantitySnapshot} {symbol : String}

/-- The quantities of a symbol added up, whatever the case of its letters. -/
def symbolSum (py : Platform) (snapshots : List PositionQuantitySnapshot) (symbol : String) : ℚ :=
  ((snapshots.filter fun snapshot => py.upper snapshot.symbol = symbol).map
    (·.quantity.toRat)).sum

/-- The quantities are numbers, and no running sum of a symbol is rounded or beyond the context. -/
structure ExactSums (py : Platform) (snapshots : List PositionQuantitySnapshot) : Prop where
  finite : ∀ snapshot ∈ snapshots, snapshot.quantity.Finite
  sums : ∀ front, front <+: snapshots → ∀ symbol,
    Representable decimalPrecision decimalEmax (symbolSum py front symbol)

theorem symbolSum_append (front back : List PositionQuantitySnapshot) :
    symbolSum py (front ++ back) symbol = symbolSum py front symbol + symbolSum py back symbol := by
  simp [symbolSum]

theorem symbolSum_of_symbol (each : ∀ snapshot ∈ snapshots, py.upper snapshot.symbol = symbol)
    (other : String) :
    symbolSum py snapshots other =
      if symbol = other then (snapshots.map (·.quantity.toRat)).sum else 0 := by
  unfold symbolSum
  by_cases same : symbol = other
  · rw [if_pos same, List.filter_eq_self.mpr fun snapshot hmem => by simp [each snapshot hmem, same]]
  · rw [if_neg same, List.filter_eq_nil_iff.mpr fun snapshot hmem => by
      simp [each snapshot hmem, same]]
    rfl

theorem symbolSum_single (entry : PositionQuantitySnapshot) (other : String) :
    symbolSum py [entry] other =
      if py.upper entry.symbol = other then entry.quantity.toRat else 0 := by
  rw [symbolSum_of_symbol (fun snapshot hmem => by rw [List.mem_singleton.mp hmem]) other,
    List.map_singleton, List.sum_singleton]

theorem ExactSums.leading {front : List PositionQuantitySnapshot} (exact : ExactSums py snapshots)
    (leading : front <+: snapshots) : ExactSums py front :=
  ⟨fun snapshot hmem => exact.finite snapshot (leading.subset hmem),
   fun earlier h => exact.sums earlier (h.trans leading)⟩

theorem QuantityBySymbol.get_set (quantities : QuantityBySymbol) (symbol : String)
    (quantity : DecimalLiteral) (other : String) :
    QuantityBySymbol.get (QuantityBySymbol.set quantities symbol quantity) other =
      if symbol = other then quantity else QuantityBySymbol.get quantities other := by
  unfold QuantityBySymbol.get QuantityBySymbol.set
  by_cases same : symbol = other
  · simp [same]
  · have kept : (quantities.filter (·.1 ≠ symbol)).lookup other = quantities.lookup other := by
      induction quantities with
      | nil => rfl
      | cons entry rest ih =>
        obtain ⟨key, value⟩ := entry
        by_cases dropped : key = symbol
        · subst dropped
          have elsewhere : (other == key) = false := by simpa using fun h => same h.symm
          simpa [List.lookup_cons, elsewhere] using ih
        · rw [List.filter_cons_of_pos (by simpa using dropped), List.lookup_cons, List.lookup_cons,
            ih]
    have elsewhere : (other == symbol) = false := by simpa using fun h => same h.symm
    rw [if_neg same, List.lookup_cons, elsewhere, kept]

/-- What is aggregated under each symbol is its sum. -/
theorem normalizeSnapshots_exact (exact : ExactSums py snapshots) :
    ∃ quantities, normalizeSnapshots py snapshots = .ok quantities ∧
      ∀ symbol, (QuantityBySymbol.get quantities symbol).Is (symbolSum py snapshots symbol) := by
  induction snapshots using List.reverseRecOn with
  | nil => exact ⟨[], rfl, fun _ => DecimalLiteral.is_zero⟩
  | append_singleton front last ih =>
    obtain ⟨quantities, computed, sums⟩ := ih (exact.leading (List.prefix_append _ _))
    have quantity : last.quantity.Is last.quantity.toRat := ⟨exact.finite last (by simp), rfl⟩
    have digits := exact.sums _ (List.prefix_refl _) (py.upper last.symbol)
    rw [symbolSum_append, symbolSum_single, if_pos rfl] at digits
    obtain ⟨sum, added, sumIs⟩ := (sums (py.upper last.symbol)).add quantity digits
    refine ⟨QuantityBySymbol.set quantities (py.upper last.symbol) sum, ?_, fun symbol => ?_⟩
    · unfold normalizeSnapshots at computed ⊢
      rw [List.foldlM_append, computed, ok_bind, List.foldlM_cons]
      simp only [added]
      rfl
    · rw [QuantityBySymbol.get_set, symbolSum_append, symbolSum_single]
      by_cases same : py.upper last.symbol = symbol
      · subst same
        simpa using sumIs
      · simpa [same] using sums symbol

end

/-! ### The difference of a symbol -/

section

variable {symbol : String} {exchange database target tolerance threshold p q r : ℚ}

/-- Two of the three sides are further apart than the tolerance. -/
def Drifts (tolerance exchange database target : ℚ) : Prop :=
  tolerance < |exchange - database| ∨ tolerance < |exchange - target| ∨
    tolerance < |database - target|

/-- Two of the three sides are as far apart as the threshold. -/
def Reaches (threshold exchange database target : ℚ) : Prop :=
  threshold ≤ |exchange - database| ∨ threshold ≤ |exchange - target| ∨
    threshold ≤ |database - target|

/-- One reason for each pair that is further apart than the tolerance. -/
def driftReasons (tolerance exchange database target : ℚ) : List String :=
  reasonWhen (decide (tolerance < |exchange - database|))
      "exchange position differs from database position" ++
    reasonWhen (decide (tolerance < |exchange - target|))
      "exchange position differs from target position" ++
    reasonWhen (decide (tolerance < |database - target|))
      "database position differs from target position"

theorem driftReasons_eq_nil_iff :
    driftReasons tolerance exchange database target = [] ↔
      ¬Drifts tolerance exchange database target := by
  unfold driftReasons Drifts reasonWhen
  by_cases first : tolerance < |exchange - database|
  · simp [first]
  · by_cases second : tolerance < |exchange - target|
    · simp [first, second]
    · by_cases third : tolerance < |database - target|
      · simp [first, second, third]
      · simp [first, second, third]

/-- The difference of a symbol, for its three sums. -/
structure IsDifference (symbol : String) (exchange database target tolerance threshold : ℚ)
    (difference : PositionReconciliationDifference) : Prop where
  symbol_eq : difference.symbol = symbol
  exchange_is : difference.exchangeQuantity.Is exchange
  database_is : difference.databaseQuantity.Is database
  target_is : difference.targetQuantity.Is target
  exchangeDatabase_is : difference.exchangeDatabaseDelta.Is (exchange - database)
  exchangeTarget_is : difference.exchangeTargetDelta.Is (exchange - target)
  databaseTarget_is : difference.databaseTargetDelta.Is (database - target)
  reasons_eq : difference.reasons = driftReasons tolerance exchange database target
  ok_iff : difference.severity = .ok ↔ ¬Drifts tolerance exchange database target
  critical_iff : difference.severity = .critical ↔
    Drifts tolerance exchange database target ∧ Reaches threshold exchange database target

/-- The differences of the three sides are not rounded or beyond the context. -/
structure ExactDifferences (exchange database target : ℚ) : Prop where
  exchangeDatabase : Representable decimalPrecision decimalEmax (exchange - database)
  exchangeTarget : Representable decimalPrecision decimalEmax (exchange - target)
  databaseTarget : Representable decimalPrecision decimalEmax (database - target)

theorem anyCritical_exact {a b c d : DecimalLiteral} (hd : d.Is threshold) (ha : a.abs.Is p)
    (hb : b.abs.Is q) (hc : c.abs.Is r) :
    anyCritical d [a, b, c] = .ok (decide (threshold ≤ p ∨ threshold ≤ q ∨ threshold ≤ r)) := by
  unfold anyCritical
  rw [ha.atLeast hd, ok_bind]
  by_cases first : threshold ≤ p
  · simp [first]
    rfl
  · unfold anyCritical
    rw [hb.atLeast hd, ok_bind]
    by_cases second : threshold ≤ q
    · simp [first, second]
      rfl
    · unfold anyCritical anyCritical
      rw [hc.atLeast hd, ok_bind]
      by_cases third : threshold ≤ r
      · simp [first, second, third]
        rfl
      · simp [first, second, third]

/-- Without rounding the difference of a symbol is computed from the three numbers. -/
theorem differenceForSymbol_exact {e d t tol c : DecimalLiteral} (he : e.Is exchange)
    (hd : d.Is database) (ht : t.Is target) (htol : tol.Is tolerance) (hc : c.Is threshold)
    (digits : ExactDifferences exchange database target) (symbol : String) :
    ∃ difference, differenceForSymbol symbol e d t tol c = .ok difference ∧
      IsDifference symbol exchange database target tolerance threshold difference := by
  obtain ⟨first, subtracted, hfirst⟩ := he.sub hd digits.exchangeDatabase
  obtain ⟨second, subtracted', hsecond⟩ := he.sub ht digits.exchangeTarget
  obtain ⟨third, subtracted'', hthird⟩ := hd.sub ht digits.databaseTarget
  have abs := hfirst.abs digits.exchangeDatabase
  have abs' := hsecond.abs digits.exchangeTarget
  have abs'' := hthird.abs digits.databaseTarget
  have reasoned : differenceReasons first second third tol =
      .ok (driftReasons tolerance exchange database target) := by
    unfold differenceReasons outsideTolerance
    rw [htol.less abs, ok_bind, htol.less abs', ok_bind, htol.less abs'', ok_bind]
    rfl
  have judged : ∃ severity,
      differenceSeverity [first, second, third]
        (driftReasons tolerance exchange database target) c = .ok severity ∧
      (severity = .ok ↔ ¬Drifts tolerance exchange database target) ∧
      (severity = .critical ↔ Drifts tolerance exchange database target ∧
        Reaches threshold exchange database target) := by
    unfold differenceSeverity
    by_cases drifts : Drifts tolerance exchange database target
    · have reasons : driftReasons tolerance exchange database target ≠ [] :=
        fun h => driftReasons_eq_nil_iff.mp h drifts
      rw [if_neg reasons, anyCritical_exact hc abs abs' abs'', ok_bind]
      by_cases reaches : Reaches threshold exchange database target
      · refine ⟨.critical, if_pos ?_, by simp [drifts], by simp [drifts, reaches]⟩
        rwa [decide_eq_true_eq]
      · refine ⟨.warning, if_neg ?_, by simp [drifts], by simp [reaches]⟩
        rwa [decide_eq_true_eq]
    · rw [if_pos (driftReasons_eq_nil_iff.mpr drifts)]
      exact ⟨.ok, rfl, by simp [drifts], by simp [drifts]⟩
  obtain ⟨severity, judged, ok_iff, critical_iff⟩ := judged
  refine ⟨⟨symbol, e, d, t, first, second, third, severity, _⟩, ?_,
    ⟨rfl, he, hd, ht, hfirst, hsecond, hthird, rfl, ok_iff, critical_iff⟩⟩
  unfold differenceForSymbol
  rw [subtracted, ok_bind, subtracted', ok_bind, subtracted'', ok_bind, reasoned, ok_bind, judged,
    ok_bind]
  rfl

end

/-! ### The report -/

/-- How bad a severity is. -/
def PositionReconciliationSeverity.rank : PositionReconciliationSeverity → Nat
  | .ok => 0
  | .warning => 1
  | .critical => 2

/-- The severity of a list is that of its worst entry. -/
structure WorstOf (severities : List PositionReconciliationSeverity)
    (severity : PositionReconciliationSeverity) : Prop where
  covers : ∀ other ∈ severities, other.rank ≤ severity.rank
  attained : severities ≠ [] → severity ∈ severities
  none : severities = [] → severity = .ok

theorem worstOf_reportSeverity {differences : List PositionReconciliationDifference}
    (drifted : ∀ difference ∈ differences, difference.severity ≠ .ok) :
    WorstOf (differences.map (·.severity)) (reportSeverity differences) := by
  unfold reportSeverity
  by_cases critical : differences.any (·.severity = .critical) = true
  · rw [if_pos critical]
    obtain ⟨worst, hmem, hworst⟩ := List.any_eq_true.mp critical
    rw [decide_eq_true_eq] at hworst
    constructor
    · rintro (_ | _ | _) -
      all_goals decide
    · intro _
      exact List.mem_map.mpr ⟨worst, hmem, hworst⟩
    · intro empty
      rw [List.map_eq_nil_iff.mp empty] at hmem
      exact absurd hmem List.not_mem_nil
  · have warning : ∀ difference ∈ differences, difference.severity = .warning := by
      intro difference hmem
      have uncritical : difference.severity ≠ .critical := fun h =>
        critical (List.any_eq_true.mpr ⟨difference, hmem, decide_eq_true h⟩)
      cases severity : difference.severity with
      | ok => exact absurd severity (drifted difference hmem)
      | warning => rfl
      | critical => exact absurd severity uncritical
    rw [if_neg critical]
    cases differences with
    | nil => exact ⟨by simp, by simp, fun _ => rfl⟩
    | cons first rest =>
      rw [if_pos (List.cons_ne_nil first rest)]
      constructor
      · intro other hmem
        obtain ⟨difference, hdifference, rfl⟩ := List.mem_map.mp hmem
        rw [warning difference hdifference]
      · intro _
        exact List.mem_map.mpr ⟨first, List.mem_cons_self, warning first List.mem_cons_self⟩
      · simp

theorem WorstOf.unique {severities : List PositionReconciliationSeverity}
    {a b : PositionReconciliationSeverity} (ha : WorstOf severities a) (hb : WorstOf severities b) :
    a = b := by
  by_cases empty : severities = []
  · rw [ha.none empty, hb.none empty]
  · have above := ha.covers b (hb.attained empty)
    have below := hb.covers a (ha.attained empty)
    have injective : ∀ c d : PositionReconciliationSeverity, c.rank = d.rank → c = d := by
      intro c d same
      cases c <;> cases d <;> first | rfl | exact absurd same (by decide)
    exact injective a b (Nat.le_antisymm below above)

/-- What a report says of three sums by symbol. -/
structure ReportOf (userId exchangeAccountId : String) (exchange database target : String → ℚ)
    (tolerance threshold : ℚ) (report : PositionReconciliationReport) : Prop where
  user : report.userId = userId
  account : report.exchangeAccountId = exchangeAccountId
  ordered : report.differences.Pairwise fun a b => a.symbol < b.symbol
  listed : ∀ symbol, (∃ difference ∈ report.differences, difference.symbol = symbol) ↔
    Drifts tolerance (exchange symbol) (database symbol) (target symbol)
  carried : ∀ difference ∈ report.differences,
    IsDifference difference.symbol (exchange difference.symbol) (database difference.symbol)
      (target difference.symbol) tolerance threshold difference
  severities : ∀ difference ∈ report.differences,
    (difference.severity = .critical ↔ Reaches threshold (exchange difference.symbol)
      (database difference.symbol) (target difference.symbol)) ∧
    (difference.severity = .warning ↔ ¬Reaches threshold (exchange difference.symbol)
      (database difference.symbol) (target difference.symbol))
  status : report.status =
    if report.differences = [] then .matched else .driftDetected
  severity : WorstOf (report.differences.map (·.severity)) report.severity
  autoFix : report.autoFixAllowed = false

/-- `==` on differences. -/
structure PositionReconciliationDifference.Same (a b : PositionReconciliationDifference) :
    Prop where
  symbol : a.symbol = b.symbol
  exchangeQuantity : a.exchangeQuantity.Same b.exchangeQuantity
  databaseQuantity : a.databaseQuantity.Same b.databaseQuantity
  targetQuantity : a.targetQuantity.Same b.targetQuantity
  exchangeDatabaseDelta : a.exchangeDatabaseDelta.Same b.exchangeDatabaseDelta
  exchangeTargetDelta : a.exchangeTargetDelta.Same b.exchangeTargetDelta
  databaseTargetDelta : a.databaseTargetDelta.Same b.databaseTargetDelta
  severity : a.severity = b.severity
  reasons : a.reasons = b.reasons

/-- `==` on reports. -/
structure PositionReconciliationReport.Same (a b : PositionReconciliationReport) : Prop where
  user : a.userId = b.userId
  account : a.exchangeAccountId = b.exchangeAccountId
  status : a.status = b.status
  severity : a.severity = b.severity
  differences : List.Forall₂ PositionReconciliationDifference.Same a.differences b.differences
  autoFix : a.autoFixAllowed = b.autoFixAllowed

section

variable {symbol : String} {e d t tolerance threshold : ℚ}

theorem IsDifference.same {a b : PositionReconciliationDifference}
    (ha : IsDifference symbol e d t tolerance threshold a)
    (hb : IsDifference symbol e d t tolerance threshold b) : a.Same b where
  symbol := ha.symbol_eq.trans hb.symbol_eq.symm
  exchangeQuantity := ⟨e, ha.exchange_is, hb.exchange_is⟩
  databaseQuantity := ⟨d, ha.database_is, hb.database_is⟩
  targetQuantity := ⟨t, ha.target_is, hb.target_is⟩
  exchangeDatabaseDelta := ⟨_, ha.exchangeDatabase_is, hb.exchangeDatabase_is⟩
  exchangeTargetDelta := ⟨_, ha.exchangeTarget_is, hb.exchangeTarget_is⟩
  databaseTargetDelta := ⟨_, ha.databaseTarget_is, hb.databaseTarget_is⟩
  severity := by
    have ok := ha.ok_iff.trans hb.ok_iff.symm
    have critical := ha.critical_iff.trans hb.critical_iff.symm
    cases severity : a.severity with
    | ok => exact (ok.mp severity).symm
    | critical => exact (critical.mp severity).symm
    | warning =>
      cases other : b.severity with
      | ok => exact absurd (ok.mpr other) (by simp [severity])
      | critical => exact absurd (critical.mpr other) (by simp [severity])
      | warning => rfl
  reasons := ha.reasons_eq.trans hb.reasons_eq.symm

end

section

variable {userId exchangeAccountId : String} {exchange database target : String → ℚ}
  {tolerance threshold : ℚ}

/-- The three sums of every symbol decide what the report says. -/
theorem ReportOf.same {a b : PositionReconciliationReport}
    (ha : ReportOf userId exchangeAccountId exchange database target tolerance threshold a)
    (hb : ReportOf userId exchangeAccountId exchange database target tolerance threshold b) :
    a.Same b := by
  have symbols : a.differences.map (·.symbol) = b.differences.map (·.symbol) := by
    refine List.Pairwise.eq_of_mem_iff (List.pairwise_map.mpr ha.ordered)
      (List.pairwise_map.mpr hb.ordered) fun symbol => ?_
    simp only [List.mem_map]
    exact (ha.listed symbol).trans (hb.listed symbol).symm
  have differences : List.Forall₂ PositionReconciliationDifference.Same a.differences
      b.differences := by
    have paired : List.Forall₂ (fun x y : PositionReconciliationDifference => x.symbol = y.symbol)
        a.differences b.differences := by
      rwa [← List.forall₂_eq_eq_eq, List.forall₂_map_left_iff, List.forall₂_map_right_iff] at symbols
    rw [List.forall₂_iff_zip] at paired ⊢
    refine ⟨paired.1, fun {x y} hmem => ?_⟩
    obtain ⟨hx, hy⟩ := List.of_mem_zip hmem
    have described := hb.carried y hy
    rw [← paired.2 hmem] at described
    exact (ha.carried x hx).same described
  have severities : a.differences.map (·.severity) = b.differences.map (·.severity) := by
    rw [← List.forall₂_eq_eq_eq, List.forall₂_map_left_iff, List.forall₂_map_right_iff]
    exact differences.imp fun _ _ same => same.severity
  have empty : a.differences = [] ↔ b.differences = [] := by
    rw [← List.map_eq_nil_iff (f := (·.symbol)), symbols, List.map_eq_nil_iff]
  have severity := ha.severity
  rw [severities] at severity
  refine ⟨ha.user.trans hb.user.symm, ha.account.trans hb.account.symm, ?_,
    severity.unique hb.severity, differences, ha.autoFix.trans hb.autoFix.symm⟩
  rw [ha.status, hb.status]
  by_cases none : a.differences = []
  · rw [if_pos none, if_pos (empty.mp none)]
  · rw [if_neg none, if_neg (none ∘ empty.mpr)]

theorem pairwise_reconciledSymbols (e d t : QuantityBySymbol) :
    (reconciledSymbols e d t).Pairwise (· < ·) := by
  unfold reconciledSymbols
  have distinct : (((e ++ d ++ t).map Prod.fst).dedup.insertionSort (· ≤ ·)).Nodup :=
    (List.perm_insertionSort _ _).nodup_iff.mpr (List.nodup_dedup _)
  exact ((List.pairwise_insertionSort (· ≤ ·) _).and distinct).imp fun h => Std.lt_of_le_of_ne h.1 h.2

theorem QuantityBySymbol.get_of_not_mem {quantities : QuantityBySymbol} {symbol : String}
    (missing : symbol ∉ quantities.map Prod.fst) : quantities.get symbol = .zero := by
  unfold QuantityBySymbol.get
  have absent : quantities.lookup symbol = none := by
    rw [List.lookup_eq_none_iff]
    intro entry hmem
    simp only [bne_iff_ne, ne_eq]
    rintro rfl
    exact missing (List.mem_map_of_mem hmem)
  rw [absent]
  rfl

/-- A symbol at which a side is not zero is compared. -/
theorem mem_reconciledSymbols {e d t : QuantityBySymbol} {symbol : String}
    (he : (e.get symbol).Is (exchange symbol)) (hd : (d.get symbol).Is (database symbol))
    (ht : (t.get symbol).Is (target symbol)) (nonnegative : 0 ≤ tolerance)
    (drifts : Drifts tolerance (exchange symbol) (database symbol) (target symbol)) :
    symbol ∈ reconciledSymbols e d t := by
  by_contra missing
  simp only [reconciledSymbols, List.mem_insertionSort, List.mem_dedup, List.map_append,
    List.mem_append, not_or] at missing
  obtain ⟨⟨he', hd'⟩, ht'⟩ := missing
  rw [QuantityBySymbol.get_of_not_mem he'] at he
  rw [QuantityBySymbol.get_of_not_mem hd'] at hd
  rw [QuantityBySymbol.get_of_not_mem ht'] at ht
  unfold Drifts at drifts
  rw [he.unique DecimalLiteral.is_zero, hd.unique DecimalLiteral.is_zero,
    ht.unique DecimalLiteral.is_zero, sub_zero, abs_zero] at drifts
  rcases drifts with above | above | above <;> exact absurd above (not_lt.mpr nonnegative)

/-- The drifted ones of the differences of all compared symbols make a report. -/
theorem reportOf_filter {symbols : List String}
    {differenceOf : String → PositionReconciliationDifference}
    (ordered : symbols.Pairwise (· < ·))
    (described : ∀ symbol, IsDifference symbol (exchange symbol) (database symbol) (target symbol)
      tolerance threshold (differenceOf symbol))
    (compared : ∀ symbol, Drifts tolerance (exchange symbol) (database symbol) (target symbol) →
      symbol ∈ symbols)
    {drifted : List PositionReconciliationDifference}
    (hdrifted : drifted = (symbols.map differenceOf).filter (·.severity ≠ .ok)) :
    ReportOf userId exchangeAccountId exchange database target tolerance threshold
      { userId, exchangeAccountId
        status := if drifted = [] then .matched else .driftDetected
        severity := reportSeverity drifted
        differences := drifted } := by
  have mem_drifted : ∀ difference, difference ∈ drifted ↔
      ∃ symbol ∈ symbols, differenceOf symbol = difference ∧
        Drifts tolerance (exchange symbol) (database symbol) (target symbol) := by
    intro difference
    rw [hdrifted, List.mem_filter, List.mem_map]
    constructor
    · rintro ⟨⟨symbol, hmem, rfl⟩, severe⟩
      refine ⟨symbol, hmem, rfl, not_not.mp fun small => ?_⟩
      exact absurd ((described symbol).ok_iff.mpr small) (by simpa using severe)
    · rintro ⟨symbol, hmem, rfl, drifts⟩
      have severe := (not_congr (described symbol).ok_iff).mpr (not_not.mpr drifts)
      exact ⟨⟨symbol, hmem, rfl⟩, by simpa using severe⟩
  refine ⟨rfl, rfl, ?_, fun symbol => ?_, fun difference hmem => ?_, fun difference hmem => ?_,
    rfl, worstOf_reportSeverity fun difference hmem => ?_, rfl⟩
  · have mapped := ordered.map (S := fun a b => a.symbol < b.symbol) differenceOf
      fun a b below => by rwa [(described a).symbol_eq, (described b).symbol_eq]
    exact hdrifted ▸ mapped.filter _
  · constructor
    · rintro ⟨difference, hmem, rfl⟩
      obtain ⟨symbol, -, rfl, drifts⟩ := (mem_drifted difference).mp hmem
      rwa [(described symbol).symbol_eq]
    · intro drifts
      exact ⟨differenceOf symbol, (mem_drifted _).mpr ⟨symbol, compared symbol drifts, rfl, drifts⟩,
        (described symbol).symbol_eq⟩
  · obtain ⟨symbol, -, rfl, -⟩ := (mem_drifted difference).mp hmem
    rw [(described symbol).symbol_eq]
    exact described symbol
  · obtain ⟨symbol, -, rfl, drifts⟩ := (mem_drifted difference).mp hmem
    rw [(described symbol).symbol_eq]
    have critical_iff := (described symbol).critical_iff
    cases severity : (differenceOf symbol).severity with
    | ok => exact absurd drifts ((described symbol).ok_iff.mp severity)
    | warning =>
      have apart : ¬Reaches threshold (exchange symbol) (database symbol) (target symbol) :=
        fun reaches => absurd (critical_iff.mpr ⟨drifts, reaches⟩) (by simp [severity])
      simp [apart]
    | critical => simp [(critical_iff.mp severity).2]
  · obtain ⟨symbol, -, rfl, drifts⟩ := (mem_drifted difference).mp hmem
    exact fun ok => (described symbol).ok_iff.mp ok drifts

end

section

variable {py : Platform} {exchange database target : List PositionQuantitySnapshot}
  {tolerance : Decimal}

/-- No aggregation of the three sides and no difference of two of them is rounded. -/
structure ExactSides (py : Platform) (exchange database target : List PositionQuantitySnapshot) :
    Prop where
  exchangeSums : ExactSums py exchange
  databaseSums : ExactSums py database
  targetSums : ExactSums py target
  differences : ∀ symbol, ExactDifferences (symbolSum py exchange symbol)
    (symbolSum py database symbol) (symbolSum py target symbol)

/-- The report is computed, and says what the sums say. -/
theorem reconcilePositionSnapshots_exact (threshold : Decimal)
    (exact : ExactSides py exchange database target) (nonnegative : 0 ≤ tolerance.toRat)
    (userId exchangeAccountId : String) :
    ∃ report, reconcilePositionSnapshots py userId exchangeAccountId exchange database target
        (.finite tolerance) (.finite threshold) = .ok report ∧
      ReportOf userId exchangeAccountId (symbolSum py exchange) (symbolSum py database)
        (symbolSum py target) tolerance.toRat threshold.toRat report := by
  obtain ⟨e, ecomputed, he⟩ := normalizeSnapshots_exact exact.exchangeSums
  obtain ⟨d, dcomputed, hd⟩ := normalizeSnapshots_exact exact.databaseSums
  obtain ⟨t, tcomputed, ht⟩ := normalizeSnapshots_exact exact.targetSums
  have limit : (DecimalLiteral.finite tolerance).Is tolerance.toRat := ⟨trivial, rfl⟩
  have critical : (DecimalLiteral.finite threshold).Is threshold.toRat := ⟨trivial, rfl⟩
  have each := fun symbol => differenceForSymbol_exact (he symbol) (hd symbol) (ht symbol) limit
    critical (exact.differences symbol) symbol
  choose differenceOf computed described using each
  have compared : (reconciledSymbols e d t).mapM (fun symbol =>
      differenceForSymbol symbol (e.get symbol) (d.get symbol) (t.get symbol) (.finite tolerance)
        (.finite threshold)) = .ok ((reconciledSymbols e d t).map differenceOf) := by
    rw [funext computed]
    exact List.mapM_pure
  refine ⟨_, ?_, reportOf_filter (pairwise_reconciledSymbols e d t) described (fun symbol =>
    mem_reconciledSymbols (he symbol) (hd symbol) (ht symbol) nonnegative) rfl⟩
  unfold reconcilePositionSnapshots
  rw [ecomputed, ok_bind, dcomputed, ok_bind, tcomputed, ok_bind, compared, ok_bind]
  rfl

/-! Quantities that are multiples of one unit are not rounded while the multiples fit. -/

section

variable {scale : Nat} {units : PositionQuantitySnapshot → Int}

/-- The units of a list of positions, without their signs. -/
def grossUnits (units : PositionQuantitySnapshot → Int)
    (snapshots : List PositionQuantitySnapshot) : Nat :=
  (snapshots.map fun snapshot => (units snapshot).natAbs).sum

theorem symbolSum_units (py : Platform) {snapshots : List PositionQuantitySnapshot}
    (each : ∀ snapshot ∈ snapshots, snapshot.quantity.Is (units snapshot / 10 ^ scale))
    (symbol : String) :
    ∃ coeff : Int, coeff.natAbs ≤ grossUnits units snapshots ∧
      symbolSum py snapshots symbol = coeff * 10 ^ (-scale : Int) := by
  induction snapshots with
  | nil => exact ⟨0, by simp [grossUnits], by simp [symbolSum]⟩
  | cons first rest ih =>
    obtain ⟨head, tail⟩ := List.forall_mem_cons.mp each
    obtain ⟨coeff, bounded, sum⟩ := ih tail
    have step : symbolSum py (first :: rest) symbol =
        symbolSum py [first] symbol + symbolSum py rest symbol := symbolSum_append [first] rest
    rw [symbolSum_single, sum, head.number] at step
    have gross : grossUnits units (first :: rest) = (units first).natAbs + grossUnits units rest :=
      by simp [grossUnits]
    by_cases same : py.upper first.symbol = symbol
    · refine ⟨units first + coeff, ?_, ?_⟩
      · have triangle := Int.natAbs_add_le (units first) coeff
        omega
      · rw [step, if_pos same, zpow_neg, zpow_natCast]
        push_cast
        ring
    · exact ⟨coeff, by omega, by rw [step, if_neg same, zero_add]⟩

theorem exactSides_of_units
    (each : ∀ snapshot ∈ exchange ++ database ++ target,
      snapshot.quantity.Is (units snapshot / 10 ^ scale))
    (bounded : grossUnits units (exchange ++ database ++ target) < 10 ^ decimalPrecision) :
    ExactSides py exchange database target := by
  -- a unit is at most one, far below the largest exponent
  have within : -(scale : Int) + decimalPrecision ≤ decimalEmax + 1 := by
    unfold decimalPrecision decimalEmax
    omega
  have total : grossUnits units exchange + grossUnits units database + grossUnits units target =
      grossUnits units (exchange ++ database ++ target) := by
    simp [grossUnits, add_assoc]
  have he : ∀ snapshot ∈ exchange, snapshot.quantity.Is (units snapshot / 10 ^ scale) :=
    fun snapshot hmem => each snapshot (by simp [hmem])
  have hd : ∀ snapshot ∈ database, snapshot.quantity.Is (units snapshot / 10 ^ scale) :=
    fun snapshot hmem => each snapshot (by simp [hmem])
  have ht : ∀ snapshot ∈ target, snapshot.quantity.Is (units snapshot / 10 ^ scale) :=
    fun snapshot hmem => each snapshot (by simp [hmem])
  have sums : ∀ {snapshots : List PositionQuantitySnapshot},
      (∀ snapshot ∈ snapshots, snapshot.quantity.Is (units snapshot / 10 ^ scale)) →
      grossUnits units snapshots < 10 ^ decimalPrecision → ExactSums py snapshots := by
    intro snapshots each bounded
    refine ⟨fun snapshot hmem => (each snapshot hmem).finite, fun front leading symbol => ?_⟩
    obtain ⟨coeff, few, sum⟩ := symbolSum_units py
      (fun snapshot hmem => each snapshot (leading.subset hmem)) symbol
    have shorter : grossUnits units front ≤ grossUnits units snapshots :=
      (leading.sublist.map _).sum_le_sum fun _ _ => Nat.zero_le _
    exact ⟨coeff, -scale, by omega, within, sum⟩
  have apart : ∀ {a b : ℚ} {m n : Nat}, m + n < 10 ^ decimalPrecision →
      (∃ coeff : Int, coeff.natAbs ≤ m ∧ a = coeff * 10 ^ (-scale : Int)) →
      (∃ coeff : Int, coeff.natAbs ≤ n ∧ b = coeff * 10 ^ (-scale : Int)) →
      Representable decimalPrecision decimalEmax (a - b) := by
    rintro a b m n few ⟨first, hfirst, rfl⟩ ⟨second, hsecond, rfl⟩
    have triangle := Int.natAbs_sub_le first second
    exact ⟨first - second, -scale, by omega, within, by push_cast; ring⟩
  refine ⟨sums he (by omega), sums hd (by omega), sums ht (by omega), fun symbol => ?_⟩
  have exchangeUnits := symbolSum_units py he symbol
  have databaseUnits := symbolSum_units py hd symbol
  have targetUnits := symbolSum_units py ht symbol
  exact ⟨apart (by omega) exchangeUnits databaseUnits, apart (by omega) exchangeUnits targetUnits,
    apart (by omega) databaseUnits targetUnits⟩

end

/-! ### The same positions, listed otherwise -/

/-- The positions in another order, and entries split into several of the same sum. -/
inductive Relisted (py : Platform) :
    List PositionQuantitySnapshot → List PositionQuantitySnapshot → Prop where
  | permuted {before after : List PositionQuantitySnapshot} (h : before.Perm after) :
      Relisted py before after
  | split (front back parts : List PositionQuantitySnapshot) (entry : PositionQuantitySnapshot)
      (symbol : ∀ part ∈ parts, py.upper part.symbol = py.upper entry.symbol)
      (sum : (parts.map (·.quantity.toRat)).sum = entry.quantity.toRat) :
      Relisted py (front ++ entry :: back) (front ++ parts ++ back)
  | trans {before between after : List PositionQuantitySnapshot} :
      Relisted py before between → Relisted py between after → Relisted py before after

/-- No sum depends on how the positions are listed. -/
theorem Relisted.symbolSum_eq {before after : List PositionQuantitySnapshot}
    (relisted : Relisted py before after) : symbolSum py before = symbolSum py after := by
  induction relisted with
  | permuted h => exact funext fun symbol => ((h.filter _).map _).sum_eq
  | split front back parts entry symbol sum =>
    funext other
    rw [List.append_cons, symbolSum_append, symbolSum_append, symbolSum_append, symbolSum_append,
      symbolSum_single, symbolSum_of_symbol symbol other, sum]
  | trans _ _ first second => exact first.trans second

/-- Without rounding a report lists the drifts in the order of their symbols, and it stays the
same when the positions are listed otherwise. -/
theorem reconciliation_report_specified (threshold : Decimal)
    (exact : ExactSides py exchange database target) (nonnegative : 0 ≤ tolerance.toRat)
    (userId exchangeAccountId : String) :
    ∃ report, reconcilePositionSnapshots py userId exchangeAccountId exchange database target
        (.finite tolerance) (.finite threshold) = .ok report ∧
      ReportOf userId exchangeAccountId (symbolSum py exchange) (symbolSum py database)
        (symbolSum py target) tolerance.toRat threshold.toRat report ∧
      ∀ exchange' database' target', Relisted py exchange exchange' →
        Relisted py database database' → Relisted py target target' →
        ExactSums py exchange' → ExactSums py database' → ExactSums py target' →
        ∃ report', reconcilePositionSnapshots py userId exchangeAccountId exchange' database'
            target' (.finite tolerance) (.finite threshold) = .ok report' ∧
          report.Same report' := by
  obtain ⟨report, computed, stated⟩ :=
    reconcilePositionSnapshots_exact threshold exact nonnegative userId exchangeAccountId
  refine ⟨report, computed, stated, fun exchange' database' target' he hd ht es ds ts => ?_⟩
  have differences := exact.differences
  rw [he.symbolSum_eq, hd.symbolSum_eq, ht.symbolSum_eq] at differences stated
  obtain ⟨report', computed', stated'⟩ := reconcilePositionSnapshots_exact
    threshold ⟨es, ds, ts, differences⟩ nonnegative userId exchangeAccountId
  exact ⟨report', computed', stated.same stated'⟩

end

/-- Positions of whole quantities. -/
def wholePositions (entries : List (String × Int)) : List PositionQuantitySnapshot :=
  entries.map fun entry => ⟨entry.1, .finite (.ofInt entry.2)⟩

/-- The quantity of a position that has a whole one. -/
def wholeUnits (snapshot : PositionQuantitySnapshot) : Int := snapshot.quantity.toRat.num

theorem exactSides_of_whole {py : Platform} {exchange database target : List (String × Int)}
    (bounded : grossUnits wholeUnits (wholePositions exchange ++ wholePositions database ++
      wholePositions target) < 10 ^ decimalPrecision) :
    ExactSides py (wholePositions exchange) (wholePositions database) (wholePositions target) := by
  have whole : ∀ snapshot ∈ wholePositions exchange ++ wholePositions database ++
      wholePositions target, snapshot.quantity.Is (wholeUnits snapshot / 10 ^ 0) := by
    unfold wholePositions
    rw [← List.map_append, ← List.map_append]
    intro snapshot hmem
    obtain ⟨entry, -, rfl⟩ := List.mem_map.mp hmem
    exact ⟨trivial, by simp [wholeUnits, DecimalLiteral.toRat]⟩
  exact exactSides_of_units whole bounded

theorem reconciliation_report_specified_split :
    ∃ report, reconcilePositionSnapshots asciiPlatform "user" "account"
        (wholePositions [("BTCUSDT", 3), ("ethusdt", 1)]) (wholePositions [("ETHUSDT", 1)])
        (wholePositions []) (.finite (.ofInt 0)) (.finite (.ofInt 1)) = .ok report ∧
      ∃ report', reconcilePositionSnapshots asciiPlatform "user" "account"
          (wholePositions [("btcusdt", 2), ("BTCUSDT", 1), ("ethusdt", 1)])
          (wholePositions [("ETHUSDT", 1)]) (wholePositions []) (.finite (.ofInt 0))
          (.finite (.ofInt 1)) = .ok report' ∧
        report.Same report' := by
  have exact : ExactSides asciiPlatform (wholePositions [("BTCUSDT", 3), ("ethusdt", 1)])
      (wholePositions [("ETHUSDT", 1)]) (wholePositions []) :=
    exactSides_of_whole (by decide +kernel)
  have resplit : ExactSides asciiPlatform
      (wholePositions [("btcusdt", 2), ("BTCUSDT", 1), ("ethusdt", 1)])
      (wholePositions [("ETHUSDT", 1)]) (wholePositions []) :=
    exactSides_of_whole (by decide +kernel)
  have relisted : Relisted asciiPlatform (wholePositions [("BTCUSDT", 3), ("ethusdt", 1)])
      (wholePositions [("btcusdt", 2), ("BTCUSDT", 1), ("ethusdt", 1)]) :=
    .split [] (wholePositions [("ethusdt", 1)]) (wholePositions [("btcusdt", 2), ("BTCUSDT", 1)])
      ⟨"BTCUSDT", .finite (.ofInt 3)⟩ (by decide +kernel) (by decide +kernel)
  have nonnegative : 0 ≤ (Decimal.ofInt 0).toRat := by decide +kernel
  obtain ⟨report, computed, -, same⟩ :=
    reconciliation_report_specified (.ofInt 1) exact nonnegative "user" "account"
  exact ⟨report, computed, same _ _ _ relisted (.permuted (.refl _)) (.permuted (.refl _))
    resplit.exchangeSums resplit.databaseSums resplit.targetSums⟩

end CopyTrading
