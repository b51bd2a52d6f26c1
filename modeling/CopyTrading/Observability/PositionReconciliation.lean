import Mathlib.Data.List.Sort
import CopyTrading.Decimal.Exact
import CopyTrading.Fallible
import CopyTrading.Observability.Store

/-!
Position reconciliation: the quantities at the exchange, in the database and at the target are
compared by symbol. Quantities are any decimals, so the arithmetic and the comparisons may raise.
-/

namespace CopyTrading

open DecimalArith (Decimal)
open Fallible

/-! ### Decimals that may not be finite -/

namespace DecimalLiteral

def zero : DecimalLiteral := .finite (.ofInt 0)

def Finite : DecimalLiteral → Prop
  | .finite _ => True
  | .infinity _ | .nan => False

def neg : DecimalLiteral → DecimalLiteral
  | .finite value => .finite value.neg
  | .infinity negative => .infinity !negative
  | .nan => .nan

/-- A result of the context, which raises beyond its largest exponent. -/
def ofContext (value : Decimal) : Except ObservabilityExc DecimalLiteral :=
  if value.coeff ≠ 0 ∧ decimalEmax < value.adjusted then .error .overflow
  else .ok (.finite value)

/-- `a + b`. The sum of opposite infinities raises. -/
def add : DecimalLiteral → DecimalLiteral → Except ObservabilityExc DecimalLiteral
  | .nan, _ | _, .nan => .ok .nan
  | .infinity a, .infinity b => if a = b then .ok (.infinity a) else .error .invalidOperation
  | .infinity a, .finite _ | .finite _, .infinity a => .ok (.infinity a)
  | .finite a, .finite b => ofContext (decimalAdd a b)

def sub (a b : DecimalLiteral) : Except ObservabilityExc DecimalLiteral := a.add b.neg

/-- `abs(value)`, which rounds to the context as well. It is taken of differences, which are within
the largest exponent already. -/
def abs : DecimalLiteral → DecimalLiteral
  | .finite value => .finite (value.abs.round decimalPrecision)
  | .infinity _ => .infinity false
  | .nan => .nan

/-- `a < b`; comparing with a NaN raises. -/
def less : DecimalLiteral → DecimalLiteral → Except ObservabilityExc Bool
  | .nan, _ | _, .nan => .error .invalidOperation
  | .infinity a, .infinity b => .ok (a && !b)
  | .infinity a, .finite _ => .ok a
  | .finite _, .infinity b => .ok !b
  | .finite a, .finite b => .ok (decide (a < b))

/-- `a >= b`. -/
def atLeast (a b : DecimalLiteral) : Except ObservabilityExc Bool := (!·) <$> a.less b

end DecimalLiteral

/-! ### Reports -/

inductive PositionReconciliationStatus where
  | matched
  | driftDetected
  deriving DecidableEq

def PositionReconciliationStatus.value : PositionReconciliationStatus → String
  | .matched => "MATCHED"
  | .driftDetected => "DRIFT_DETECTED"

inductive PositionReconciliationSeverity where
  | ok
  | warning
  | critical
  deriving DecidableEq

def PositionReconciliationSeverity.value : PositionReconciliationSeverity → String
  | .ok => "OK"
  | .warning => "WARNING"
  | .critical => "CRITICAL"

structure PositionQuantitySnapshot where
  symbol : String
  quantity : DecimalLiteral

structure PositionReconciliationDifference where
  symbol : String
  exchangeQuantity : DecimalLiteral
  databaseQuantity : DecimalLiteral
  targetQuantity : DecimalLiteral
  exchangeDatabaseDelta : DecimalLiteral
  exchangeTargetDelta : DecimalLiteral
  databaseTargetDelta : DecimalLiteral
  severity : PositionReconciliationSeverity
  reasons : List String

structure PositionReconciliationReport where
  userId : String
  exchangeAccountId : String
  status : PositionReconciliationStatus
  severity : PositionReconciliationSeverity
  differences : List PositionReconciliationDifference
  autoFixAllowed : Bool := false

/-- Quantities by symbol. -/
abbrev QuantityBySymbol := List (String × DecimalLiteral)

def QuantityBySymbol.get (quantities : QuantityBySymbol) (symbol : String) : DecimalLiteral :=
  (quantities.lookup symbol).getD .zero

def QuantityBySymbol.set (quantities : QuantityBySymbol) (symbol : String)
    (quantity : DecimalLiteral) : QuantityBySymbol :=
  (symbol, quantity) :: quantities.filter (·.1 ≠ symbol)

/-- `_normalize_snapshots`. -/
def normalizeSnapshots (py : Platform) (snapshots : List PositionQuantitySnapshot) :
    Except ObservabilityExc QuantityBySymbol :=
  snapshots.foldlM (fun normalized snapshot => do
    let symbol := py.upper snapshot.symbol
    let quantity ← (QuantityBySymbol.get normalized symbol).add snapshot.quantity
    return QuantityBySymbol.set normalized symbol quantity) []

def outsideTolerance (delta tolerance : DecimalLiteral) : Except ObservabilityExc Bool :=
  tolerance.less delta.abs

def reasonWhen (outside : Bool) (reason : String) : List String := if outside then [reason] else []

/-- `_difference_reasons`. -/
def differenceReasons (exchangeDatabaseDelta exchangeTargetDelta databaseTargetDelta
    quantityTolerance : DecimalLiteral) : Except ObservabilityExc (List String) := do
  let first ← outsideTolerance exchangeDatabaseDelta quantityTolerance
  let second ← outsideTolerance exchangeTargetDelta quantityTolerance
  let third ← outsideTolerance databaseTargetDelta quantityTolerance
  return reasonWhen first "exchange position differs from database position" ++
    reasonWhen second "exchange position differs from target position" ++
    reasonWhen third "database position differs from target position"

/-- `any(abs(delta) >= critical_threshold for delta in deltas)` stops at the first one. -/
def anyCritical (criticalThreshold : DecimalLiteral) :
    List DecimalLiteral → Except ObservabilityExc Bool
  | [] => .ok false
  | delta :: rest => do
      if ← delta.abs.atLeast criticalThreshold then return true
      else anyCritical criticalThreshold rest

/-- `_difference_severity`. -/
def differenceSeverity (deltas : List DecimalLiteral) (reasons : List String)
    (criticalThreshold : DecimalLiteral) :
    Except ObservabilityExc PositionReconciliationSeverity :=
  if reasons = [] then return .ok
  else do
    if ← anyCritical criticalThreshold deltas then return .critical
    else return .warning

/-- `_difference_for_symbol`. -/
def differenceForSymbol (symbol : String) (exchangeQuantity databaseQuantity targetQuantity
    quantityTolerance criticalThreshold : DecimalLiteral) :
    Except ObservabilityExc PositionReconciliationDifference := do
  let exchangeDatabaseDelta ← exchangeQuantity.sub databaseQuantity
  let exchangeTargetDelta ← exchangeQuantity.sub targetQuantity
  let databaseTargetDelta ← databaseQuantity.sub targetQuantity
  let reasons ← differenceReasons exchangeDatabaseDelta exchangeTargetDelta databaseTargetDelta
    quantityTolerance
  let severity ← differenceSeverity [exchangeDatabaseDelta, exchangeTargetDelta,
    databaseTargetDelta] reasons criticalThreshold
  return { symbol, exchangeQuantity, databaseQuantity, targetQuantity, exchangeDatabaseDelta,
           exchangeTargetDelta, databaseTargetDelta, severity, reasons }

/-- `_report_severity`. -/
def reportSeverity (differences : List PositionReconciliationDifference) :
    PositionReconciliationSeverity :=
  if differences.any (·.severity = .critical) then .critical
  else if differences ≠ [] then .warning
  else .ok

/-- The symbols of the three sides, in order. -/
def reconciledSymbols (exchange database target : QuantityBySymbol) : List String :=
  ((exchange ++ database ++ target).map Prod.fst).dedup.insertionSort (· ≤ ·)

def reconcilePositionSnapshots (py : Platform) (userId exchangeAccountId : String)
    (exchangePositions databasePositions targetPositions : List PositionQuantitySnapshot)
    (quantityTolerance criticalThreshold : DecimalLiteral) :
    Except ObservabilityExc PositionReconciliationReport := do
  let exchange ← normalizeSnapshots py exchangePositions
  let database ← normalizeSnapshots py databasePositions
  let target ← normalizeSnapshots py targetPositions
  let differences ← (reconciledSymbols exchange database target).mapM fun symbol =>
    differenceForSymbol symbol (exchange.get symbol) (database.get symbol) (target.get symbol)
      quantityTolerance criticalThreshold
  let drifted := differences.filter (·.severity ≠ .ok)
  return { userId, exchangeAccountId
           status := if drifted = [] then .matched else .driftDetected
           severity := reportSeverity drifted
           differences := drifted }

/-- A report is about the user and the account it is asked for. -/
theorem reconcilePositionSnapshots_account {py : Platform} {userId exchangeAccountId : String}
    {exchange database target : List PositionQuantitySnapshot}
    {tolerance threshold : DecimalLiteral} {report : PositionReconciliationReport}
    (computed : reconcilePositionSnapshots py userId exchangeAccountId exchange database target
      tolerance threshold = .ok report) :
    userId = report.userId ∧ exchangeAccountId = report.exchangeAccountId := by
  unfold reconcilePositionSnapshots at computed
  obtain ⟨exchange', -, computed⟩ := bind_eq_ok.mp computed
  obtain ⟨database', -, computed⟩ := bind_eq_ok.mp computed
  obtain ⟨target', -, computed⟩ := bind_eq_ok.mp computed
  obtain ⟨differences, -, computed⟩ := bind_eq_ok.mp computed
  cases computed
  exact ⟨rfl, rfl⟩

/-! ### When a report can be computed -/

/-- Sums of this many quantities of this size stay within the context, rounded or not. -/
def quantityCeiling : ℚ := 10 ^ (decimalEmax - decimalPrecision)

/-- A finite quantity is within the limit. -/
def DecimalLiteral.Within (limit : ℚ) : DecimalLiteral → Prop
  | .finite value => |value.toRat| ≤ limit
  | .infinity _ | .nan => True

/-- Quantities that can be added up: one side has at most `10 ^ 27` of them, each below the
ceiling. -/
structure Moderate (snapshots : List PositionQuantitySnapshot) : Prop where
  few : snapshots.length ≤ 10 ^ 27
  small : ∀ snapshot ∈ snapshots, snapshot.quantity.Within quantityCeiling

/-- The value is computed and satisfies `P`. Otherwise a NaN or an infinity was compared, or a sum
of immoderate quantities is beyond the context. -/
def Computes {α : Type} (finite moderate : Prop) (result : Except ObservabilityExc α)
    (P : α → Prop) : Prop :=
  match result with
  | .ok value => P value
  | .error raised => raised = .invalidOperation ∧ ¬finite ∨ raised = .overflow ∧ ¬moderate

/-- What is known of a sum of `count` quantities. -/
structure Summed (finite moderate : Prop) (count : Nat) (sum : DecimalLiteral) : Prop where
  finite : finite → sum.Finite
  within : moderate → sum.Within (count * quantityCeiling)

theorem Summed.neg {finite moderate : Prop} {count : Nat} {sum : DecimalLiteral}
    (summed : Summed finite moderate count sum) : Summed finite moderate count sum.neg := by
  cases sum with
  | finite value =>
    refine ⟨summed.finite, fun h => ?_⟩
    change |value.neg.toRat| ≤ _
    rw [Decimal.toRat_neg, abs_neg]
    exact summed.within h
  | infinity negative => exact ⟨summed.finite, fun _ => trivial⟩
  | nan => exact ⟨summed.finite, fun _ => trivial⟩

namespace Computes

variable {α β : Type} {finite moderate : Prop} {P : α → Prop} {Q : β → Prop}

theorem bind {result : Except ObservabilityExc α} {next : α → Except ObservabilityExc β}
    (computes : Computes finite moderate result P)
    (rest : ∀ value, P value → Computes finite moderate (next value) Q) :
    Computes finite moderate (result >>= next) Q := by
  cases result with
  | error raised => exact computes
  | ok value => exact rest value computes

theorem mapM {f : α → Except ObservabilityExc β} {items : List α}
    (each : ∀ item, Computes finite moderate (f item) Q) :
    Computes finite moderate (items.mapM f) fun _ => True := by
  induction items with
  | nil => exact trivial
  | cons item rest ih =>
    rw [List.mapM_cons]
    exact (each item).bind fun _ _ => ih.bind fun _ _ => trivial

/-- After `count` steps `P count` holds. -/
theorem foldlM {P : Nat → α → Prop} {f : α → β → Except ObservabilityExc α} {items : List β}
    {start : α} {count : Nat} (initial : P count start)
    (each : ∀ i < count + items.length, ∀ value, P i value → ∀ item ∈ items,
      Computes finite moderate (f value item) (P (i + 1))) :
    Computes finite moderate (items.foldlM f start) (P (count + items.length)) := by
  induction items generalizing start count with
  | nil => exact initial
  | cons item rest ih =>
    have length : count + (item :: rest).length = count + 1 + rest.length := by
      rw [List.length_cons, Nat.add_assoc, Nat.add_comm rest.length]
    rw [length] at each ⊢
    rw [List.foldlM_cons]
    have first := each count (by omega) start initial item List.mem_cons_self
    refine first.bind fun value computed => ?_
    exact ih computed fun i below value holds item hitem =>
      each i below value holds item (List.mem_cons_of_mem _ hitem)

/-- A rounded sum of moderately many quantities is within the context. -/
theorem ofContext {count : Nat} {sum : Decimal} (few : moderate → count ≤ 10 ^ decimalPrecision)
    (within : moderate → |sum.toRat| ≤ count * quantityCeiling) :
    Computes finite moderate (DecimalLiteral.ofContext (sum.round decimalPrecision))
      (Summed finite moderate count) := by
  have rounded (h : moderate) : |(sum.round decimalPrecision).toRat| ≤ count * quantityCeiling :=
    Decimal.abs_round_le (by decide) (few h) (within h)
  unfold DecimalLiteral.ofContext
  split
  · next beyond =>
    refine .inr ⟨rfl, fun h => ?_⟩
    have below : |(sum.round decimalPrecision).toRat| < 10 ^ (decimalEmax + 1) := by
      calc |(sum.round decimalPrecision).toRat| ≤ count * quantityCeiling := rounded h
        _ ≤ 10 ^ (decimalPrecision : Int) * quantityCeiling := by
            refine mul_le_mul_of_nonneg_right ?_ (Decimal.ten_zpow_pos _).le
            rw [zpow_natCast]
            exact_mod_cast few h
        _ = 10 ^ decimalEmax := by
            rw [quantityCeiling, ← zpow_add₀ (by norm_num), add_sub_cancel]
        _ < 10 ^ (decimalEmax + 1) := zpow_lt_zpow_right₀ (by norm_num) (lt_add_one _)
    rcases Decimal.adjusted_lt_of_bounded below with zero | small
    · exact beyond.1 zero
    · exact absurd beyond.2 (not_lt.mpr (Int.lt_add_one_iff.mp small))
  · exact ⟨fun _ => trivial, rounded⟩

theorem add {a b : DecimalLiteral} {count count' : Nat} (ha : Summed finite moderate count a)
    (hb : Summed finite moderate count' b)
    (few : moderate → count + count' ≤ 10 ^ decimalPrecision) :
    Computes finite moderate (a.add b) (Summed finite moderate (count + count')) := by
  cases a with
  | nan => exact ⟨fun h => (ha.finite h).elim, fun _ => trivial⟩
  | infinity negative =>
    cases b with
    | nan => exact ⟨fun h => (hb.finite h).elim, fun _ => trivial⟩
    | finite value => exact ⟨fun h => (ha.finite h).elim, fun _ => trivial⟩
    | infinity other =>
      change Computes finite moderate (if negative = other then .ok (.infinity negative)
        else .error .invalidOperation) (Summed finite moderate (count + count'))
      split
      · exact ⟨fun h => (ha.finite h).elim, fun _ => trivial⟩
      · exact .inl ⟨rfl, fun h => ha.finite h⟩
  | finite value =>
    cases b with
    | nan => exact ⟨fun h => (hb.finite h).elim, fun _ => trivial⟩
    | infinity other => exact ⟨fun h => (hb.finite h).elim, fun _ => trivial⟩
    | finite other =>
      refine ofContext few fun h => ?_
      rw [Decimal.toRat_addExact, Nat.cast_add, add_mul]
      exact (abs_add_le _ _).trans (add_le_add (ha.within h) (hb.within h))

theorem less {a b : DecimalLiteral} (ha : finite → a.Finite) (hb : finite → b.Finite) :
    Computes finite moderate (a.less b) fun _ => True := by
  cases a with
  | nan => exact .inl ⟨rfl, fun h => ha h⟩
  | infinity negative =>
    cases b with
    | nan => exact .inl ⟨rfl, fun h => hb h⟩
    | finite value => exact trivial
    | infinity other => exact trivial
  | finite value =>
    cases b with
    | nan => exact .inl ⟨rfl, fun h => hb h⟩
    | finite other => exact trivial
    | infinity other => exact trivial

end Computes

theorem DecimalLiteral.Finite.abs {a : DecimalLiteral} (h : a.Finite) : a.abs.Finite := by
  cases a <;> exact h

theorem DecimalLiteral.Within.mono {limit limit' : ℚ} {a : DecimalLiteral} (h : a.Within limit)
    (le : limit ≤ limit') : a.Within limit' := by
  cases a with
  | finite value => exact le_trans h le
  | infinity negative => trivial
  | nan => trivial

section

variable {finite moderate : Prop} {py : Platform}

/-- All quantities by symbol are sums of at most so many. -/
def QuantityBySymbol.Summed (finite moderate : Prop) (count : Nat) (quantities : QuantityBySymbol) :
    Prop :=
  ∀ entry ∈ quantities, CopyTrading.Summed finite moderate count entry.2

theorem Summed.mono {count count' : Nat} {sum : DecimalLiteral}
    (summed : Summed finite moderate count sum) (le : count ≤ count') :
    Summed finite moderate count' sum := by
  refine ⟨summed.finite, fun h => (summed.within h).mono ?_⟩
  exact mul_le_mul_of_nonneg_right (by exact_mod_cast le) (Decimal.ten_zpow_pos _).le

theorem QuantityBySymbol.Summed.get {quantities : QuantityBySymbol} {count : Nat}
    (summed : quantities.Summed finite moderate count) (symbol : String) :
    CopyTrading.Summed finite moderate count (quantities.get symbol) := by
  unfold QuantityBySymbol.get
  cases found : quantities.lookup symbol with
  | none =>
    refine ⟨fun _ => trivial, fun _ => ?_⟩
    change |(Decimal.ofInt 0).toRat| ≤ _
    rw [Decimal.toRat_ofInt, Int.cast_zero, abs_zero]
    exact mul_nonneg (Nat.cast_nonneg _) (Decimal.ten_zpow_pos _).le
  | some quantity =>
    obtain ⟨before, after, rfl, -⟩ := List.lookup_eq_some_iff.mp found
    exact summed (symbol, quantity) (by simp)

theorem computes_normalizeSnapshots {snapshots : List PositionQuantitySnapshot}
    (each : finite → ∀ snapshot ∈ snapshots, snapshot.quantity.Finite)
    (sums : moderate → Moderate snapshots) :
    Computes finite moderate (normalizeSnapshots py snapshots) fun quantities =>
      quantities.Summed finite moderate snapshots.length := by
  have start : QuantityBySymbol.Summed finite moderate 0 [] := by simp [QuantityBySymbol.Summed]
  rw [← Nat.zero_add snapshots.length]
  refine Computes.foldlM (P := QuantityBySymbol.Summed finite moderate) start
    fun i below normalized summed snapshot hmem => ?_
  have single : Summed finite moderate 1 snapshot.quantity := by
    refine ⟨fun h => each h snapshot hmem, fun h => ?_⟩
    rw [Nat.cast_one, one_mul]
    exact (sums h).small snapshot hmem
  refine (Computes.add (summed.get (py.upper snapshot.symbol)) single fun h => ?_).bind
    fun quantity more entry hentry => ?_
  · have room := (sums h).few
    unfold decimalPrecision
    omega
  · rcases List.mem_cons.mp hentry with rfl | kept
    · exact more
    · exact (summed entry (List.mem_filter.mp kept).1).mono (Nat.le_succ i)

theorem computes_outsideTolerance {delta tolerance : DecimalLiteral}
    (hdelta : finite → delta.Finite) (htolerance : finite → tolerance.Finite) :
    Computes finite moderate (outsideTolerance delta tolerance) fun _ => True :=
  .less htolerance fun h => (hdelta h).abs

theorem computes_anyCritical {threshold : DecimalLiteral} (hthreshold : finite → threshold.Finite)
    {deltas : List DecimalLiteral} (each : finite → ∀ delta ∈ deltas, delta.Finite) :
    Computes finite moderate (anyCritical threshold deltas) fun _ => True := by
  induction deltas with
  | nil => exact trivial
  | cons delta rest ih =>
    unfold anyCritical DecimalLiteral.atLeast
    rw [map_eq_pure_bind]
    refine Computes.bind (P := fun _ => True) (Computes.bind
      (.less (fun h => (each h delta List.mem_cons_self).abs) hthreshold)
      fun _ _ => trivial) fun reached _ => ?_
    cases reached with
    | true => exact trivial
    | false => exact ih fun h other hother => each h other (List.mem_cons_of_mem _ hother)

theorem computes_differenceForSymbol {symbol : String} {count : Nat}
    {exchange database target tolerance threshold : DecimalLiteral}
    (few : moderate → count + count ≤ 10 ^ decimalPrecision)
    (hexchange : Summed finite moderate count exchange)
    (hdatabase : Summed finite moderate count database)
    (htarget : Summed finite moderate count target) (htolerance : finite → tolerance.Finite)
    (hthreshold : finite → threshold.Finite) :
    Computes finite moderate
      (differenceForSymbol symbol exchange database target tolerance threshold) fun _ => True := by
  unfold differenceForSymbol DecimalLiteral.sub
  refine (Computes.add hexchange hdatabase.neg few).bind fun first hfirst => ?_
  refine (Computes.add hexchange htarget.neg few).bind fun second hsecond => ?_
  refine (Computes.add hdatabase htarget.neg few).bind fun third hthird => ?_
  have reasoned : Computes finite moderate (differenceReasons first second third tolerance)
      fun _ => True := by
    unfold differenceReasons
    exact (computes_outsideTolerance hfirst.finite htolerance).bind fun _ _ =>
      (computes_outsideTolerance hsecond.finite htolerance).bind fun _ _ =>
        (computes_outsideTolerance hthird.finite htolerance).bind fun _ _ => trivial
  refine reasoned.bind fun reasons _ => ?_
  have judged : Computes finite moderate
      (differenceSeverity [first, second, third] reasons threshold) fun _ => True := by
    unfold differenceSeverity
    split
    · exact trivial
    · refine (computes_anyCritical hthreshold ?_).bind fun reached _ => ?_
      · simp only [List.mem_cons, List.not_mem_nil, or_false]
        rintro h delta (rfl | rfl | rfl)
        · exact hfirst.finite h
        · exact hsecond.finite h
        · exact hthird.finite h
      · split
        · exact trivial
        · exact trivial
  exact judged.bind fun _ _ => trivial

/-- Without a NaN or an infinity, and with moderate quantities, the report is computed. -/
theorem computes_reconcilePositionSnapshots {userId accountId : String}
    {exchange database target : List PositionQuantitySnapshot}
    {tolerance threshold : DecimalLiteral}
    (each : finite → ∀ snapshot ∈ exchange ++ database ++ target, snapshot.quantity.Finite)
    (htolerance : finite → tolerance.Finite) (hthreshold : finite → threshold.Finite)
    (sums : moderate → Moderate exchange ∧ Moderate database ∧ Moderate target) :
    Computes finite moderate (reconcilePositionSnapshots py userId accountId exchange database
      target tolerance threshold) fun _ => True := by
  unfold reconcilePositionSnapshots
  refine (computes_normalizeSnapshots (fun h snapshot hmem => each h snapshot (by simp [hmem]))
    fun h => (sums h).1).bind fun exchange' hexchange => ?_
  refine (computes_normalizeSnapshots (fun h snapshot hmem => each h snapshot (by simp [hmem]))
    fun h => (sums h).2.1).bind fun database' hdatabase => ?_
  refine (computes_normalizeSnapshots (fun h snapshot hmem => each h snapshot (by simp [hmem]))
    fun h => (sums h).2.2).bind fun target' htarget => ?_
  obtain ⟨most, hexchange', hdatabase', htarget', few⟩ :
      ∃ most, exchange.length ≤ most ∧ database.length ≤ most ∧ target.length ≤ most ∧
        (moderate → most + most ≤ 10 ^ decimalPrecision) := by
    refine ⟨max exchange.length (max database.length target.length), by omega, by omega, by omega,
      fun h => ?_⟩
    have side := (sums h).1.few
    have side' := (sums h).2.1.few
    have side'' := (sums h).2.2.few
    unfold decimalPrecision
    omega
  have compared : Computes finite moderate ((reconciledSymbols exchange' database' target').mapM
      fun symbol => differenceForSymbol symbol (exchange'.get symbol) (database'.get symbol)
        (target'.get symbol) tolerance threshold) fun _ => True :=
    .mapM fun symbol => computes_differenceForSymbol few
      ((hexchange.get symbol).mono hexchange') ((hdatabase.get symbol).mono hdatabase')
      ((htarget.get symbol).mono htarget') htolerance hthreshold
  exact compared.bind fun _ _ => trivial

end

end CopyTrading
