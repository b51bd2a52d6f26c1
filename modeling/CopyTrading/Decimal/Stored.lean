import CopyTrading.Decimal.Exact

/-!
When a decimal survives: rounding to the digits of a context and to the places of a column
leave a value alone exactly if it has no more decimal places than the column.
-/

namespace DecimalArith

namespace Decimal

/-- The value is a whole number of units of the last place. -/
def HasPlaces (scale : Nat) (d : Decimal) : Prop := ∃ units : Int, d.toRat * 10 ^ scale = units

/-- The coefficient of a value with so many places, shifted to the last one. -/
theorem coeff_of_units {scale : Nat} {d : Decimal} {units : Int}
    (places : d.toRat * 10 ^ scale = units) (shift : 0 ≤ d.exp + scale) :
    units = d.coeff * 10 ^ (d.exp + scale).toNat := by
  have hunits : (units : ℚ) = d.coeff * 10 ^ (d.exp + scale).toNat := by
    rw [← places, toRat, ← zpow_natCast, ← zpow_natCast (10 : ℚ) (d.exp + scale).toNat, mul_assoc,
      ← zpow_add₀ (by norm_num), Int.toNat_of_nonneg shift]
  exact_mod_cast hunits

theorem coeff_eq_units_mul {scale : Nat} {d : Decimal} {units : Int}
    (places : d.toRat * 10 ^ scale = units) (shift : d.exp + scale ≤ 0) :
    d.coeff = units * 10 ^ (-(d.exp + scale)).toNat := by
  have hcoeff : (d.coeff : ℚ) = units * 10 ^ (-(d.exp + scale)).toNat := by
    rw [← places, toRat, ← zpow_natCast, ← zpow_natCast (10 : ℚ) (-(d.exp + scale)).toNat,
      mul_assoc, mul_assoc, ← zpow_add₀ (by norm_num), ← zpow_add₀ (by norm_num),
      Int.toNat_of_nonneg (by omega)]
    simp
  exact_mod_cast hcoeff

/-- Dropping zeros is exact. -/
theorem roundHalfEven_mul (n k : Nat) : roundHalfEven (n * 10 ^ k) k = n := by
  have pos : 0 < 10 ^ k := by positivity
  have exact : ¬ (10 ^ k < 2 * 0 ∨ 2 * 0 = 10 ^ k ∧ n % 2 = 1) := by omega
  unfold roundHalfEven
  dsimp only
  rw [Nat.mul_mod_left, Nat.mul_div_cancel _ pos, if_neg exact]

/-- Rounding drops only zeros of a coefficient that ends in enough of them. -/
theorem toRat_round_of_multiple {precision drop : Nat} {d : Decimal} {units : Int}
    (hp : 0 < precision) (hcoeff : d.coeff = units * 10 ^ drop)
    (bounded : units.natAbs < 10 ^ precision) : (d.round precision).toRat = d.toRat := by
  have habs : d.coeff.natAbs = units.natAbs * 10 ^ drop := by
    rw [hcoeff, Int.natAbs_mul, Int.natAbs_pow]
    rfl
  -- the digits that do not fit are among the zeros that were shifted in
  obtain ⟨excess, hexcess⟩ : ∃ excess, excess = digitCount d.coeff.natAbs - precision := ⟨_, rfl⟩
  have dropped : excess ≤ drop := by
    have few : digitCount d.coeff.natAbs ≤ precision + drop := by
      rw [digitCount_le_iff (by omega), habs, pow_add]
      exact Nat.mul_lt_mul_of_pos_right bounded (by positivity)
    omega
  obtain ⟨rest, rfl⟩ := Nat.exists_eq_add_of_le dropped
  have rounded : roundHalfEven d.coeff.natAbs excess = units.natAbs * 10 ^ rest := by
    rw [habs, pow_add, mul_comm (10 ^ excess), ← mul_assoc, roundHalfEven_mul]
  have value : d.coeff.sign * ((units.natAbs * 10 ^ rest : Nat) : Int) * 10 ^ excess = d.coeff := by
    conv_rhs => rw [← Int.sign_mul_natAbs d.coeff, habs]
    push_cast
    ring
  unfold round
  dsimp only
  rw [← hexcess]
  split
  · rfl
  · rw [rounded, toRat, toRat]
    conv_rhs => rw [← value]
    rw [zpow_add₀ (by norm_num), zpow_natCast]
    push_cast
    ring

/-- Rounding to a context that holds every unit changes no value. -/
theorem toRat_round_of_units {precision scale : Nat} {d : Decimal} {units : Int}
    (hp : 0 < precision) (places : d.toRat * 10 ^ scale = units)
    (bounded : units.natAbs < 10 ^ precision) : (d.round precision).toRat = d.toRat := by
  by_cases small : d.coeff.natAbs < 10 ^ precision
  · rw [round_of_small hp small]
  have shift : d.exp + scale ≤ 0 := by
    by_contra positive
    have hunits := congrArg Int.natAbs (coeff_of_units places (by omega))
    rw [Int.natAbs_mul, Int.natAbs_pow] at hunits
    have large : d.coeff.natAbs * 1 ≤ d.coeff.natAbs * Int.natAbs 10 ^ (d.exp + scale).toNat :=
      Nat.mul_le_mul_left _ (Nat.one_le_pow _ _ (by decide))
    omega
  exact toRat_round_of_multiple hp (coeff_eq_units_mul places shift) bounded

/-- A context of so many digits, with this largest exponent, has the number. -/
def Representable (precision : Nat) (emax : Int) (q : ℚ) : Prop :=
  ∃ coeff exp : Int, coeff.natAbs < 10 ^ precision ∧ exp + precision ≤ emax + 1 ∧
    q = coeff * 10 ^ exp

theorem Representable.neg {precision : Nat} {emax : Int} {q : ℚ}
    (digits : Representable precision emax q) : Representable precision emax (-q) := by
  obtain ⟨coeff, exp, bounded, small, same⟩ := digits
  refine ⟨-coeff, exp, by rwa [Int.natAbs_neg], small, ?_⟩
  rw [same]
  push_cast
  ring

theorem Representable.abs {precision : Nat} {emax : Int} {q : ℚ}
    (digits : Representable precision emax q) : Representable precision emax |q| := by
  rcases abs_choice q with same | negated
  · rwa [same]
  · rw [negated]
    exact digits.neg

/-- What the context has is not beyond its largest exponent. -/
theorem adjusted_le_of_representable {precision : Nat} {emax : Int} {d : Decimal}
    (digits : Representable precision emax d.toRat) : d.coeff = 0 ∨ d.adjusted ≤ emax := by
  obtain ⟨coeff, exp, bounded, small, same⟩ := digits
  have magnitude : |d.toRat| < 10 ^ (emax + 1) := by
    have few : (coeff.natAbs : ℚ) < 10 ^ (precision : Int) := by
      rw [zpow_natCast]
      exact_mod_cast bounded
    calc |d.toRat| = coeff.natAbs * 10 ^ exp := by
          rw [same, abs_mul, abs_of_pos (ten_zpow_pos exp), Nat.cast_natAbs, Int.cast_abs]
      _ < 10 ^ (precision : Int) * 10 ^ exp := mul_lt_mul_of_pos_right few (ten_zpow_pos exp)
      _ = 10 ^ (exp + precision) := by rw [add_comm, zpow_add₀ (by norm_num)]
      _ ≤ 10 ^ (emax + 1) := zpow_le_zpow_right₀ (by norm_num) small
  exact (adjusted_lt_of_bounded magnitude).imp_right Int.lt_add_one_iff.mp

/-- Rounding to the digits of a context changes no number that has no more of them. -/
theorem toRat_round_of_representable {precision : Nat} {emax : Int} {d : Decimal}
    (hp : 0 < precision) (digits : Representable precision emax d.toRat) :
    (d.round precision).toRat = d.toRat := by
  obtain ⟨coeff, exp, bounded, -, same⟩ := digits
  by_cases small : d.coeff.natAbs < 10 ^ precision
  · rw [round_of_small hp small]
  have lower : d.exp ≤ exp := by
    by_contra higher
    have step : (10 : ℚ) ^ exp ≤ 10 ^ d.exp := zpow_le_zpow_right₀ (by norm_num) (by omega)
    have positive : (0 : ℚ) < 10 ^ exp := zpow_pos (by norm_num) exp
    have large : (coeff.natAbs : ℚ) < d.coeff.natAbs := by
      exact_mod_cast bounded.trans_le (not_lt.mp small)
    have sizes : (d.coeff.natAbs : ℚ) * 10 ^ d.exp = coeff.natAbs * 10 ^ exp := by
      rw [← toRat_of_natAbs, same, abs_mul, abs_of_pos positive, Nat.cast_natAbs, Int.cast_abs]
    have more : (coeff.natAbs : ℚ) * 10 ^ exp < d.coeff.natAbs * 10 ^ d.exp :=
      (mul_lt_mul_of_pos_right large positive).trans_le
        (mul_le_mul_of_nonneg_left step (Nat.cast_nonneg _))
    exact absurd sizes more.ne'
  obtain ⟨drop, hdrop⟩ := Int.eq_ofNat_of_zero_le (Int.sub_nonneg_of_le lower)
  have hcoeff : d.coeff = coeff * 10 ^ drop := by
    rw [show exp = drop + d.exp by omega, zpow_add₀ (by norm_num), zpow_natCast, ← mul_assoc, toRat,
      mul_left_inj' (zpow_pos (by norm_num : (0 : ℚ) < 10) d.exp).ne'] at same
    exact_mod_cast same
  exact toRat_round_of_multiple hp hcoeff bounded

end Decimal

namespace Numeric

open Decimal

variable {precision scale : Nat} {d : Decimal} {x : Numeric precision scale}

/-- A column stores a value exactly if it has no more places than the column. -/
theorem units_of_places {units : Int} (fits : ofDecimal? precision scale d = some x)
    (places : d.toRat * 10 ^ scale = units) : x.units = units := by
  rw [units_of_ofDecimal? fits]
  unfold rescale
  dsimp only
  split
  · next shift => exact (coeff_of_units places shift).symm
  · next shift =>
    have hcoeff := coeff_eq_units_mul places (by omega)
    generalize (-(d.exp + scale)).toNat = drop at hcoeff ⊢
    have half : 10 ^ drop / 2 / 10 ^ drop = 0 :=
      Nat.div_eq_of_lt (Nat.div_lt_self (by positivity) (by decide))
    have quotient : (d.coeff.natAbs + 10 ^ drop / 2) / 10 ^ drop = units.natAbs := by
      rw [hcoeff, Int.natAbs_mul, Int.natAbs_pow, add_comm]
      change (10 ^ drop / 2 + units.natAbs * 10 ^ drop) / 10 ^ drop = units.natAbs
      rw [Nat.add_mul_div_right _ _ (by positivity), half, zero_add]
    have sign : d.coeff.sign = units.sign := by
      have pos : (0 : Int) < 10 ^ drop := by positivity
      rw [hcoeff, Int.sign_mul, Int.sign_eq_one_of_pos pos, mul_one]
    rw [quotient, sign, Int.sign_mul_natAbs]

theorem stored_exactly_iff (fits : ofDecimal? precision scale d = some x) :
    x.toDecimal.toRat = d.toRat ↔ d.HasPlaces scale := by
  have ten : (10 : ℚ) ^ scale ≠ 0 := by positivity
  rw [toRat_toDecimal, value]
  constructor
  · intro same
    exact ⟨x.units, by rw [← same, div_mul_cancel₀ _ ten]⟩
  · rintro ⟨units, places⟩
    rw [units_of_places fits places, ← places, mul_div_cancel_right₀ _ ten]

/-- What a column stores exactly keeps its value in a context as wide as the column. -/
theorem normalize_exact (hp : 0 < precision) (fits : ofDecimal? precision scale d = some x)
    (places : d.HasPlaces scale) : (d.normalize precision).toRat = d.toRat := by
  obtain ⟨units, places⟩ := places
  rw [toRat_normalize]
  refine toRat_round_of_units hp places ?_
  rw [← units_of_places fits places]
  exact x.bounded

end Numeric

end DecimalArith
