import Mathlib.Algebra.Order.Field.Rat
import Mathlib.Data.Rat.Cast.Order
import Mathlib.Tactic.Positivity
import Mathlib.Tactic.Ring
import Mathlib.Tactic.FieldSimp

/-!
Decimal arithmetic with a finite precision, and fixed-point columns.
A `Decimal` is a coefficient and an exponent; arithmetic is exact and then rounded
half to even to the digits of the context. A `Numeric` column holds an integer
number of units of its last place, and a value that does not fit is refused.
-/

namespace DecimalArith

/-- A finite decimal number `coeff * 10 ^ exp`. The sign of a zero is not kept. -/
structure Decimal where
  coeff : Int
  exp : Int
  deriving DecidableEq, Repr

namespace Decimal

def toRat (d : Decimal) : ℚ := d.coeff * (10 : ℚ) ^ d.exp

def ofInt (n : Int) : Decimal := ⟨n, 0⟩

@[simp] theorem toRat_ofInt (n : Int) : (ofInt n).toRat = n := by simp [toRat, ofInt]

instance : LT Decimal := ⟨fun a b => a.toRat < b.toRat⟩

instance : LE Decimal := ⟨fun a b => a.toRat ≤ b.toRat⟩

theorem lt_def {a b : Decimal} : a < b ↔ a.toRat < b.toRat := Iff.rfl

theorem le_def {a b : Decimal} : a ≤ b ↔ a.toRat ≤ b.toRat := Iff.rfl

instance (a b : Decimal) : Decidable (a < b) := inferInstanceAs (Decidable (a.toRat < b.toRat))

instance (a b : Decimal) : Decidable (a ≤ b) := inferInstanceAs (Decidable (a.toRat ≤ b.toRat))

theorem not_lt_iff {a b : Decimal} : ¬ a < b ↔ b ≤ a := by rw [lt_def, le_def, Rat.not_lt]

/-! ### Rounding to the context -/

def digitCount (n : Nat) : Nat := (Nat.toDigits 10 n).length

/-- `n / 10 ^ k` rounded half to even. -/
def roundHalfEven (n k : Nat) : Nat :=
  let quotient := n / 10 ^ k
  let rest := n % 10 ^ k
  if 10 ^ k < 2 * rest ∨ (2 * rest = 10 ^ k ∧ quotient % 2 = 1) then quotient + 1 else quotient

/-- Keep the leading `precision` digits. A carry out of the leading digit leaves the
coefficient `10 ^ precision`, whose value is that of the context's result. -/
def round (precision : Nat) (d : Decimal) : Decimal :=
  let excess := digitCount d.coeff.natAbs - precision
  if excess = 0 then d
  else ⟨d.coeff.sign * roundHalfEven d.coeff.natAbs excess, d.exp + excess⟩

/-- The exponent of the leading digit. -/
def adjusted (d : Decimal) : Int := d.exp + digitCount d.coeff.natAbs - 1

theorem digitCount_le_iff {n k : Nat} (hk : 0 < k) : digitCount n ≤ k ↔ n < 10 ^ k :=
  Nat.length_toDigits_le_iff (by decide) hk

theorem round_of_small {precision : Nat} (hp : 0 < precision) {d : Decimal}
    (small : d.coeff.natAbs < 10 ^ precision) : d.round precision = d := by
  have hdigits := (digitCount_le_iff hp).mpr small
  simp [round, Nat.sub_eq_zero_of_le hdigits]

theorem div_le_roundHalfEven (n k : Nat) : n / 10 ^ k ≤ roundHalfEven n k := by
  unfold roundHalfEven
  dsimp only
  split <;> omega

theorem toRat_of_natAbs {d : Decimal} : |d.toRat| = d.coeff.natAbs * (10 : ℚ) ^ d.exp := by
  rw [toRat, abs_mul, abs_of_pos (zpow_pos (by norm_num : (0 : ℚ) < 10) _), Nat.cast_natAbs,
    Int.cast_abs]

/-- What does not fit the precision stays at least as large as the first such number. -/
theorem le_abs_round_of_large {precision : Nat} (hp : 0 < precision) {d : Decimal}
    (large : 10 ^ precision ≤ d.coeff.natAbs) :
    (10 : ℚ) ^ precision * 10 ^ d.exp ≤ |(d.round precision).toRat| := by
  obtain ⟨n, hn⟩ : ∃ n, n = d.coeff.natAbs := ⟨_, rfl⟩
  rw [← hn] at large
  have hcount : precision < digitCount n := by
    by_contra hle
    have hsmall : n < 10 ^ precision := (digitCount_le_iff hp).mp (not_lt.mp hle)
    omega
  obtain ⟨excess, hexcess⟩ : ∃ excess, digitCount n = precision + (excess + 1) :=
    ⟨digitCount n - precision - 1, by omega⟩
  have hlow : 10 ^ (precision + excess) ≤ n := by
    by_contra hlt
    have hfew : digitCount n ≤ precision + excess :=
      (digitCount_le_iff (by omega)).mpr (not_le.mp hlt)
    omega
  have hquotient : 10 ^ (precision - 1) ≤ roundHalfEven n (excess + 1) := by
    refine le_trans ?_ (div_le_roundHalfEven n (excess + 1))
    rw [Nat.le_div_iff_mul_le (by positivity), ← pow_add]
    exact le_trans (Nat.pow_le_pow_right (by norm_num) (by omega)) hlow
  have hround : d.round precision =
      ⟨d.coeff.sign * roundHalfEven n (excess + 1), d.exp + (excess + 1 : Nat)⟩ := by
    have hdrop : digitCount n - precision = excess + 1 := by omega
    simp [round, ← hn, hdrop]
  have hsign : d.coeff ≠ 0 := by
    intro hzero
    have : n = 0 := by simp [hn, hzero]
    have : 0 < 10 ^ precision := by positivity
    omega
  have hten : (0 : ℚ) < (10 : ℚ) ^ d.exp := zpow_pos (by norm_num) _
  rw [hround, toRat_of_natAbs]
  simp only [Int.natAbs_mul, Int.natAbs_sign_of_ne_zero hsign, one_mul, Int.natAbs_natCast]
  rw [zpow_add₀ (by norm_num), zpow_natCast, mul_comm ((10 : ℚ) ^ d.exp), ← mul_assoc]
  refine mul_le_mul_of_nonneg_right ?_ hten.le
  calc (10 : ℚ) ^ precision = 10 ^ (precision - 1) * 10 := by
        rw [← pow_succ, Nat.sub_add_cancel hp]
    _ ≤ (roundHalfEven n (excess + 1) : ℚ) * 10 ^ (excess + 1) := by
        refine mul_le_mul (by exact_mod_cast hquotient) ?_ (by norm_num) (by positivity)
        exact le_self_pow₀ (by norm_num) (by omega)

/-! ### Arithmetic -/

def neg (d : Decimal) : Decimal := ⟨-d.coeff, d.exp⟩

def abs (d : Decimal) : Decimal := ⟨|d.coeff|, d.exp⟩

def addExact (a b : Decimal) : Decimal :=
  let exp := min a.exp b.exp
  ⟨a.coeff * 10 ^ (a.exp - exp).toNat + b.coeff * 10 ^ (b.exp - exp).toNat, exp⟩

def add (precision : Nat) (a b : Decimal) : Decimal := (addExact a b).round precision

def sub (precision : Nat) (a b : Decimal) : Decimal := add precision a b.neg

def mulExact (a b : Decimal) : Decimal := ⟨a.coeff * b.coeff, a.exp + b.exp⟩

def mul (precision : Nat) (a b : Decimal) : Decimal := (mulExact a b).round precision

theorem toRat_mulExact (a b : Decimal) : (mulExact a b).toRat = a.toRat * b.toRat := by
  simp only [mulExact, toRat, Int.cast_mul]
  rw [zpow_add₀ (by norm_num)]
  ring

theorem toRat_neg (d : Decimal) : d.neg.toRat = -d.toRat := by simp [neg, toRat]

/-- Drop trailing zeros of a coefficient, at most as many as the first argument says. -/
def stripZeros : Nat → Int → Int → Decimal
  | 0, coeff, exp => ⟨coeff, exp⟩
  | fuel + 1, coeff, exp =>
      if coeff % 10 = 0 then stripZeros fuel (coeff / 10) (exp + 1) else ⟨coeff, exp⟩

theorem toRat_stripZeros (fuel : Nat) (coeff exp : Int) :
    (stripZeros fuel coeff exp).toRat = toRat ⟨coeff, exp⟩ := by
  induction fuel generalizing coeff exp with
  | zero => rfl
  | succ fuel ih =>
    unfold stripZeros
    split
    · next divides =>
      have hcoeff : coeff = coeff / 10 * 10 := (Int.ediv_mul_cancel (Int.dvd_of_emod_eq_zero divides)).symm
      rw [ih]
      simp only [toRat]
      rw [zpow_add₀ (by norm_num), zpow_one]
      conv_rhs => rw [hcoeff]
      push_cast
      ring
    · rfl

/-- Round to the context and drop trailing zeros. -/
def normalize (precision : Nat) (d : Decimal) : Decimal :=
  let rounded := d.round precision
  if rounded.coeff = 0 then ⟨0, 0⟩
  else stripZeros (digitCount rounded.coeff.natAbs) rounded.coeff rounded.exp

theorem toRat_normalize (precision : Nat) (d : Decimal) :
    (d.normalize precision).toRat = (d.round precision).toRat := by
  unfold normalize
  dsimp only
  split
  · next hzero => simp [toRat, hzero]
  · exact toRat_stripZeros _ _ _

end Decimal

/-! ### Fixed-point columns -/

/-- The values of a column with `precision` digits, `scale` of them after the point. -/
structure Numeric (precision scale : Nat) where
  units : Int
  bounded : units.natAbs < 10 ^ precision
  deriving DecidableEq

namespace Numeric

variable {precision scale : Nat}

theorem ext {a b : Numeric precision scale} (h : a.units = b.units) : a = b := by
  cases a
  cases b
  cases h
  rfl

def zero : Numeric precision scale := ⟨0, by simp⟩

def toDecimal (x : Numeric precision scale) : Decimal := ⟨x.units, -scale⟩

def value (x : Numeric precision scale) : ℚ := x.units / 10 ^ scale

theorem toRat_toDecimal (x : Numeric precision scale) : x.toDecimal.toRat = x.value := by
  simp [toDecimal, Decimal.toRat, value, div_eq_mul_inv]

/-- The number of units of the last place, rounded half away from zero. -/
def rescale (scale : Nat) (d : Decimal) : Int :=
  let shift := d.exp + scale
  if 0 ≤ shift then d.coeff * 10 ^ shift.toNat
  else
    let drop := (-shift).toNat
    d.coeff.sign * ((d.coeff.natAbs + 10 ^ drop / 2) / 10 ^ drop : Nat)

/-- What the column stores for a value, if it fits. -/
def ofDecimal? (precision scale : Nat) (d : Decimal) : Option (Numeric precision scale) :=
  if bounded : (rescale scale d).natAbs < 10 ^ precision then some ⟨rescale scale d, bounded⟩
  else none

theorem units_of_ofDecimal? {d : Decimal} {x : Numeric precision scale}
    (fits : ofDecimal? precision scale d = some x) : x.units = rescale scale d := by
  unfold ofDecimal? at fits
  split at fits
  · cases fits
    rfl
  · cases fits

theorem rescale_at_scale (scale : Nat) (units : Int) : rescale scale ⟨units, -scale⟩ = units := by
  simp [rescale]

@[simp] theorem ofDecimal?_toDecimal (x : Numeric precision scale) :
    ofDecimal? precision scale x.toDecimal = some x := by
  unfold ofDecimal? toDecimal
  simp [rescale_at_scale, x.bounded]

private theorem abs_lt_of_fits {d : Decimal} {x : Numeric precision scale}
    (shift : 0 ≤ d.exp + scale) (fits : ofDecimal? precision scale d = some x) :
    |d.toRat| < 10 ^ precision * (10 : ℚ) ^ (-scale : Int) := by
  obtain ⟨k, hk⟩ := Int.eq_ofNat_of_zero_le shift
  have hexp : d.exp = k - scale := by omega
  have hscaled : rescale scale d = d.coeff * 10 ^ k := by simp [rescale, hk]
  have hbound : (x.units.natAbs : ℚ) < 10 ^ precision := by exact_mod_cast x.bounded
  rw [units_of_ofDecimal? fits, hscaled, Int.natAbs_mul, Int.natAbs_pow] at hbound
  push_cast at hbound
  rw [Decimal.toRat_of_natAbs, hexp, zpow_sub₀ (by norm_num), zpow_neg, zpow_natCast,
    zpow_natCast, ← mul_div_assoc, ← div_eq_mul_inv]
  refine (div_lt_div_iff_of_pos_right (by positivity)).mpr ?_
  simpa [Nat.cast_natAbs] using hbound

private theorem shift_round (units : Int) :
    0 ≤ ((⟨units, -scale⟩ : Decimal).round precision).exp + scale := by
  unfold Decimal.round
  dsimp only
  split <;> simp

private theorem small_of_fits_round (hp : 0 < precision) {units : Int}
    {x : Numeric precision scale} {d : Decimal}
    (hd : |d.toRat| = |((⟨units, -scale⟩ : Decimal).round precision).toRat|)
    (shift : 0 ≤ d.exp + scale) (fits : ofDecimal? precision scale d = some x) :
    units.natAbs < 10 ^ precision := by
  by_contra hlarge
  have hlow := Decimal.le_abs_round_of_large hp (d := ⟨units, -scale⟩) (not_lt.mp hlarge)
  have hhigh := abs_lt_of_fits shift fits
  rw [hd] at hhigh
  exact absurd hlow (not_le.mpr hhigh)

/-- Storing a rounded number of units: either no digit was lost or the column overflows. -/
theorem ofDecimal?_round (hp : 0 < precision) {units : Int} {x : Numeric precision scale}
    (fits : ofDecimal? precision scale ((⟨units, -scale⟩ : Decimal).round precision) = some x) :
    x.units = units := by
  have small := small_of_fits_round hp rfl (shift_round units) fits
  have hunits := units_of_ofDecimal? fits
  rwa [Decimal.round_of_small hp small, rescale_at_scale] at hunits

/-- The magnitude of a rounded number of units is what the column stores of it. -/
theorem toDecimal_of_abs_round (hp : 0 < precision) {units : Int} {x : Numeric precision scale}
    (fits : ofDecimal? precision scale ((⟨units, -scale⟩ : Decimal).round precision).abs = some x) :
    ((⟨units, -scale⟩ : Decimal).round precision).abs = x.toDecimal := by
  have habs : |((⟨units, -scale⟩ : Decimal).round precision).abs.toRat| =
      |((⟨units, -scale⟩ : Decimal).round precision).toRat| := by
    rw [Decimal.toRat_of_natAbs, Decimal.toRat_of_natAbs]
    simp [Decimal.abs]
  have small := small_of_fits_round hp habs (shift_round units) fits
  have hunits := units_of_ofDecimal? fits
  rw [Decimal.round_of_small hp small] at hunits ⊢
  simp only [Decimal.abs] at hunits ⊢
  rw [rescale_at_scale] at hunits
  rw [toDecimal, hunits]

/-- Adding two column values in a context as wide as the column is exact when it is stored. -/
theorem units_add (hp : 0 < precision) {a b x : Numeric precision scale}
    (fits : ofDecimal? precision scale (a.toDecimal.add precision b.toDecimal) = some x) :
    x.units = a.units + b.units := by
  refine ofDecimal?_round hp ?_
  simpa [Decimal.add, Decimal.addExact, toDecimal] using fits

theorem units_sub (hp : 0 < precision) {a b x : Numeric precision scale}
    (fits : ofDecimal? precision scale (a.toDecimal.sub precision b.toDecimal) = some x) :
    x.units = a.units - b.units := by
  refine ofDecimal?_round hp ?_
  simpa [Decimal.sub, Decimal.add, Decimal.addExact, Decimal.neg, toDecimal, sub_eq_add_neg]
    using fits

end Numeric

end DecimalArith
