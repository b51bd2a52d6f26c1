import CopyTrading.Decimal.Basic

/-!
Decimal arithmetic that loses no digit. A number with at most `scale` places and less than
`10 ^ whole` in magnitude fits a context of `whole + scale` digits; a sum that does not fit is
at least `10 ^ whole`, and no column of that size stores it.
-/

namespace DecimalArith

namespace Decimal

/-- At most `scale` decimal places. -/
def Places (scale : Nat) (d : Decimal) : Prop := -(scale : Int) ≤ d.exp

/-- At most `scale` decimal places, and at most `whole` digits before the point. -/
structure Fits (whole scale : Nat) (d : Decimal) : Prop where
  places : d.Places scale
  bounded : |d.toRat| < 10 ^ whole

variable {whole scale : Nat} {a b d : Decimal}

theorem ten_zpow_pos (n : Int) : (0 : ℚ) < 10 ^ n := zpow_pos (by norm_num) n

theorem toRat_addExact (a b : Decimal) : (addExact a b).toRat = a.toRat + b.toRat := by
  have scaled : ∀ {exp : Int} (d : Decimal), exp ≤ d.exp →
      ((d.coeff * 10 ^ (d.exp - exp).toNat : Int) : ℚ) * 10 ^ exp = d.toRat := by
    intro exp d hexp
    obtain ⟨k, hk⟩ := Int.eq_ofNat_of_zero_le (Int.sub_nonneg_of_le hexp)
    have hd : d.exp = k + exp := by omega
    rw [hk, Int.toNat_natCast, toRat, hd, zpow_add₀ (by norm_num), zpow_natCast]
    push_cast
    ring
  unfold addExact
  dsimp only
  rw [toRat, Int.cast_add, add_mul]
  exact congrArg₂ (· + ·) (scaled a (min_le_left _ _)) (scaled b (min_le_right _ _))

theorem Places.addExact (ha : a.Places scale) (hb : b.Places scale) :
    (addExact a b).Places scale := le_min ha hb

theorem Places.neg (ha : a.Places scale) : a.neg.Places scale := ha

theorem Places.round (hd : d.Places scale) (precision : Nat) : (d.round precision).Places scale := by
  unfold Places at hd ⊢
  unfold Decimal.round
  dsimp only
  split
  · exact hd
  · dsimp only
    omega

theorem Places.ofInt_zero : (⟨0, 0⟩ : Decimal).Places scale := by
  unfold Places
  dsimp only
  omega

/-- The coefficient of a number that fits has few digits. -/
theorem Fits.coeff_lt (fits : d.Fits whole scale) : d.coeff.natAbs < 10 ^ (whole + scale) := by
  have places : -(scale : Int) ≤ d.exp := fits.places
  have bounded := fits.bounded
  rw [toRat_of_natAbs] at bounded
  have step : (10 : ℚ) ^ (-(scale : Int)) ≤ 10 ^ d.exp :=
    zpow_le_zpow_right₀ (by norm_num) places
  have scaled : (d.coeff.natAbs : ℚ) * 10 ^ (-(scale : Int)) < 10 ^ whole :=
    (mul_le_mul_of_nonneg_left step (Nat.cast_nonneg _)).trans_lt bounded
  rw [zpow_neg, zpow_natCast, ← div_eq_mul_inv, div_lt_iff₀ (by positivity), ← pow_add] at scaled
  exact_mod_cast scaled

/-- Rounding keeps a number that fits. -/
theorem Fits.round (fits : d.Fits whole scale) (digits : 0 < whole + scale) :
    d.round (whole + scale) = d :=
  round_of_small digits fits.coeff_lt

/-- Rounding keeps a number or leaves one that does not fit. -/
theorem round_or_large (digits : 0 < whole + scale) (places : d.Places scale) :
    d.round (whole + scale) = d ∨ (10 : ℚ) ^ whole ≤ |(d.round (whole + scale)).toRat| := by
  by_cases small : d.coeff.natAbs < 10 ^ (whole + scale)
  · exact .inl (round_of_small digits small)
  · have large := le_abs_round_of_large digits (not_lt.mp small)
    refine .inr (le_trans ?_ large)
    have places : -(scale : Int) ≤ d.exp := places
    have step : (10 : ℚ) ^ (-(scale : Int)) ≤ 10 ^ d.exp :=
      zpow_le_zpow_right₀ (by norm_num) places
    calc (10 : ℚ) ^ whole = 10 ^ (whole + scale) * 10 ^ (-(scale : Int)) := by
          rw [zpow_neg, zpow_natCast, pow_add, mul_assoc, mul_inv_cancel₀ (by positivity), mul_one]
      _ ≤ 10 ^ (whole + scale) * 10 ^ d.exp := mul_le_mul_of_nonneg_left step (by positivity)

theorem toRat_nonneg_iff : 0 ≤ d.toRat ↔ 0 ≤ d.coeff := by
  unfold toRat
  rw [mul_nonneg_iff_of_pos_right (ten_zpow_pos d.exp)]
  exact_mod_cast Iff.rfl

theorem toRat_eq_zero_iff : d.toRat = 0 ↔ d.coeff = 0 := by
  unfold toRat
  rw [mul_eq_zero, or_iff_left (ten_zpow_pos d.exp).ne']
  exact_mod_cast Iff.rfl

theorem toRat_round_nonneg (nonneg : 0 ≤ d.toRat) (precision : Nat) :
    0 ≤ (d.round precision).toRat := by
  rw [toRat_nonneg_iff] at nonneg ⊢
  unfold Decimal.round
  dsimp only
  split
  · exact nonneg
  · exact mul_nonneg (Int.sign_nonneg_iff.mpr nonneg) (Nat.cast_nonneg _)

/-- A sum of nonnegative numbers that is not above one that fits is not rounded. -/
theorem add_of_not_lt {total : Decimal} (digits : 0 < whole + scale) (ha : a.Places scale)
    (hb : b.Places scale) (nonneg : 0 ≤ a.toRat + b.toRat) (htotal : total.Fits whole scale)
    (notLess : ¬ total < a.add (whole + scale) b) : a.add (whole + scale) b = addExact a b := by
  have below : (a.add (whole + scale) b).toRat ≤ total.toRat := not_lt_iff.mp notLess
  rw [← toRat_addExact] at nonneg
  unfold add at below ⊢
  rcases round_or_large digits (ha.addExact hb) with exact | large
  · exact exact
  · rw [abs_of_nonneg (toRat_round_nonneg nonneg _)] at large
    exact absurd (large.trans below) (not_le.mpr (lt_of_abs_lt htotal.bounded))

theorem add_le_of_not_lt {total : Decimal} (digits : 0 < whole + scale) (ha : a.Places scale)
    (hb : b.Places scale) (nonneg : 0 ≤ a.toRat + b.toRat) (htotal : total.Fits whole scale)
    (notLess : ¬ total < a.add (whole + scale) b) : a.toRat + b.toRat ≤ total.toRat := by
  have below : (a.add (whole + scale) b).toRat ≤ total.toRat := not_lt_iff.mp notLess
  rwa [add_of_not_lt digits ha hb nonneg htotal notLess, toRat_addExact] at below

/-- A sum of nonnegative numbers below one that fits is not rounded above it. -/
theorem not_lt_of_add_le {total : Decimal} (digits : 0 < whole + scale) (ha : a.Places scale)
    (hb : b.Places scale) (nonneg : 0 ≤ a.toRat + b.toRat) (htotal : total.Fits whole scale)
    (covered : a.toRat + b.toRat ≤ total.toRat) : ¬ total < a.add (whole + scale) b := by
  have fits : (addExact a b).Fits whole scale := by
    refine ⟨ha.addExact hb, ?_⟩
    rw [toRat_addExact, abs_of_nonneg nonneg]
    exact covered.trans_lt (lt_of_abs_lt htotal.bounded)
  have exact : a.add (whole + scale) b = addExact a b := fits.round digits
  rw [← toRat_addExact] at covered
  rw [exact]
  exact not_lt_iff.mpr covered

/-- A difference that fits is not rounded. -/
theorem sub_of_bounded (digits : 0 < whole + scale) (ha : a.Places scale) (hb : b.Places scale)
    (bounded : |a.toRat - b.toRat| < 10 ^ whole) :
    a.sub (whole + scale) b = addExact a b.neg := by
  have exact : (addExact a b.neg).toRat = a.toRat - b.toRat := by
    rw [toRat_addExact, toRat_neg, sub_eq_add_neg]
  have fits : (addExact a b.neg).Fits whole scale := ⟨ha.addExact hb.neg, by rwa [exact]⟩
  exact fits.round digits

theorem toRat_sub (digits : 0 < whole + scale) (ha : a.Places scale) (hb : b.Places scale)
    (bounded : |a.toRat - b.toRat| < 10 ^ whole) :
    (a.sub (whole + scale) b).toRat = a.toRat - b.toRat ∧ (a.sub (whole + scale) b).Places scale := by
  rw [sub_of_bounded digits ha hb bounded]
  constructor
  · rw [toRat_addExact, toRat_neg, sub_eq_add_neg]
  · exact ha.addExact hb.neg

/-- What was rounded keeps the leading digits of the context, at least. -/
theorem round_of_large {precision : Nat} (large : 10 ^ precision ≤ d.coeff.natAbs)
    (digits : 0 < precision) :
    ∃ excess, 10 ^ (precision - 1) ≤ d.coeff.natAbs / 10 ^ excess ∧
      d.round precision =
        ⟨d.coeff.sign * roundHalfEven d.coeff.natAbs excess, d.exp + excess⟩ := by
  have many : precision < digitCount d.coeff.natAbs := by
    by_contra few
    exact absurd ((digitCount_le_iff digits).mp (not_lt.mp few)) (not_lt.mpr large)
  refine ⟨digitCount d.coeff.natAbs - precision, ?_, ?_⟩
  · rw [Nat.le_div_iff_mul_le (by positivity), ← pow_add]
    by_contra below
    have fewer := (digitCount_le_iff (by omega)).mpr (not_le.mp below)
    omega
  · unfold Decimal.round
    rw [if_neg (by omega)]

theorem toRat_pos_iff : 0 < d.toRat ↔ 0 < d.coeff := by
  unfold toRat
  rw [mul_pos_iff_of_pos_right (ten_zpow_pos d.exp)]
  exact_mod_cast Iff.rfl

/-- Rounding keeps the sign. -/
theorem toRat_round_pos_iff {precision : Nat} (digits : 0 < precision) :
    0 < (d.round precision).toRat ↔ 0 < d.toRat := by
  by_cases small : d.coeff.natAbs < 10 ^ precision
  · rw [round_of_small digits small]
  · obtain ⟨excess, leading, rounded⟩ := round_of_large (not_lt.mp small) digits
    have kept : 0 < roundHalfEven d.coeff.natAbs excess :=
      (Nat.pow_pos (by decide)).trans_le (leading.trans (div_le_roundHalfEven _ _))
    rw [toRat_pos_iff, toRat_pos_iff, rounded]
    rw [mul_pos_iff_of_pos_right (by exact_mod_cast kept)]
    exact Int.sign_pos_iff

theorem round_neg (precision : Nat) (d : Decimal) : d.neg.round precision = (d.round precision).neg := by
  unfold round neg
  simp only [Int.natAbs_neg, Int.sign_neg]
  split
  · rfl
  · rw [neg_mul]

/-- Rounding a positive number leaves it above every number of the column below it. -/
theorem le_toRat_round {precision scale : Nat} (x : Numeric precision scale)
    (digits : 0 < precision) (positive : 0 < d.toRat) (below : x.value ≤ d.toRat) :
    x.value ≤ (d.round precision).toRat := by
  by_cases small : d.coeff.natAbs < 10 ^ precision
  · rwa [round_of_small digits small]
  · obtain ⟨excess, leading, rounded⟩ := round_of_large (not_lt.mp small) digits
    have coeff : 0 < d.coeff := by
      refine lt_of_le_of_ne (toRat_nonneg_iff.mp positive.le) fun zero => ?_
      rw [toRat_eq_zero_iff.mpr zero.symm] at positive
      exact lt_irrefl _ positive
    have abs : d.coeff = d.coeff.natAbs := (Int.natAbs_of_nonneg coeff.le).symm
    generalize d.coeff.natAbs = n at abs leading rounded
    have floor : ((n / 10 ^ excess : Nat) : ℚ) * 10 ^ (d.exp + excess) ≤
        (d.round precision).toRat := by
      rw [rounded, toRat, Int.sign_eq_one_of_pos coeff]
      refine mul_le_mul_of_nonneg_right ?_ (ten_zpow_pos _).le
      simpa using div_le_roundHalfEven n excess
    refine le_trans ?_ floor
    rw [Numeric.value, div_eq_mul_inv, ← zpow_natCast, ← zpow_neg]
    by_cases fine : d.exp + excess ≤ -(scale : Int)
    · -- the column is as coarse as what was kept, so no unit of it was dropped
      obtain ⟨k, hk⟩ := Int.eq_ofNat_of_zero_le (Int.sub_nonneg_of_le fine)
      have scaled : -(scale : Int) = k + excess + d.exp := by omega
      have whole : x.units * 10 ^ (k + excess) ≤ n := by
        rw [Numeric.value, div_eq_mul_inv, ← zpow_natCast, ← zpow_neg, scaled, toRat,
          zpow_add₀ (by norm_num), ← mul_assoc, mul_le_mul_iff_left₀ (ten_zpow_pos _), abs] at below
        exact_mod_cast below
      have kept : x.units * 10 ^ k ≤ (n / 10 ^ excess : Nat) := by
        rw [Int.natCast_div, Int.le_ediv_iff_mul_le (by positivity)]
        calc x.units * 10 ^ k * ((10 ^ excess : Nat) : Int)
            = x.units * 10 ^ (k + excess) := by push_cast; ring
          _ ≤ n := whole
      rw [show -(scale : Int) = k + (d.exp + excess) by omega, zpow_add₀ (by norm_num),
        ← mul_assoc, zpow_natCast]
      refine mul_le_mul_of_nonneg_right ?_ (ten_zpow_pos _).le
      have kept' : ((x.units * 10 ^ k : Int) : ℚ) ≤ ((n / 10 ^ excess : Nat) : Int) :=
        Int.cast_le.mpr kept
      simpa only [Int.cast_natCast, Int.cast_mul, Int.cast_pow, Int.cast_ofNat] using kept'
    · have bounded : (x.units : ℚ) ≤ 10 ^ precision := by
        have few : x.units ≤ 10 ^ precision := by
          refine le_trans Int.le_natAbs ?_
          exact_mod_cast x.bounded.le
        exact_mod_cast few
      calc (x.units : ℚ) * 10 ^ (-(scale : Int))
          ≤ 10 ^ precision * 10 ^ (-(scale : Int)) :=
            mul_le_mul_of_nonneg_right bounded (ten_zpow_pos _).le
        _ = 10 ^ (precision - 1) * 10 ^ (-(scale : Int) + 1) := by
            rw [zpow_add₀ (by norm_num), zpow_one, ← Nat.sub_add_cancel digits, pow_succ]
            simp only [Nat.add_sub_cancel]
            ring
        _ ≤ 10 ^ (precision - 1) * 10 ^ (d.exp + excess) :=
            mul_le_mul_of_nonneg_left
              (zpow_le_zpow_right₀ (by norm_num) (by omega)) (by positivity)
        _ ≤ (n / 10 ^ excess : Nat) * 10 ^ (d.exp + excess) :=
            mul_le_mul_of_nonneg_right (by exact_mod_cast leading) (ten_zpow_pos _).le

theorem roundHalfEven_le {n k bound : Nat} (below : n ≤ bound * 10 ^ k) :
    roundHalfEven n k ≤ bound := by
  have positive : 0 < 10 ^ k := Nat.pow_pos (by decide)
  unfold roundHalfEven
  dsimp only
  by_cases room : n / 10 ^ k < bound
  · split <;> omega
  · have whole : n = bound * 10 ^ k :=
      le_antisymm below ((Nat.le_div_iff_mul_le positive).mp (not_lt.mp room))
    rw [whole, Nat.mul_mod_left, Nat.mul_div_cancel _ positive, if_neg (by omega)]

/-- Rounding does not lift a number over a bound of which the context has all digits. -/
theorem abs_round_le {precision bound : Nat} {e : Int} {d : Decimal} (digits : 0 < precision)
    (few : bound ≤ 10 ^ precision) (below : |d.toRat| ≤ bound * 10 ^ e) :
    |(d.round precision).toRat| ≤ bound * 10 ^ e := by
  by_cases small : d.coeff.natAbs < 10 ^ precision
  · rwa [round_of_small digits small]
  obtain ⟨excess, leading, rounded⟩ := round_of_large (not_lt.mp small) digits
  have large : 10 ^ (precision - 1) * 10 ^ excess ≤ d.coeff.natAbs :=
    (Nat.le_div_iff_mul_le (Nat.pow_pos (by decide))).mp leading
  have scaled (k : Nat) : (k : ℚ) * 10 ^ (d.exp + excess) = (k * 10 ^ excess : Nat) * 10 ^ d.exp := by
    rw [add_comm, zpow_add₀ (by norm_num), zpow_natCast]
    push_cast
    ring
  rw [toRat_of_natAbs] at below
  -- the bound, in units of the last digit that is kept
  obtain ⟨kept, covers, within⟩ : ∃ kept : Nat, d.coeff.natAbs ≤ kept * 10 ^ excess ∧
      (kept : ℚ) * 10 ^ (d.exp + excess) ≤ bound * 10 ^ e := by
    by_cases fine : d.exp + excess ≤ e
    · obtain ⟨k, hk⟩ := Int.eq_ofNat_of_zero_le (Int.sub_nonneg_of_le fine)
      have same : ((bound * 10 ^ k : Nat) : ℚ) * 10 ^ (d.exp + excess) = bound * 10 ^ e := by
        rw [show e = k + (d.exp + excess) by omega, zpow_add₀ (by norm_num) (k : Int), zpow_natCast]
        push_cast
        ring
      refine ⟨bound * 10 ^ k, ?_, same.le⟩
      rw [← same, scaled, mul_le_mul_iff_left₀ (ten_zpow_pos d.exp)] at below
      exact_mod_cast below
    · have edge : (bound : ℚ) * 10 ^ e ≤ (10 ^ (precision - 1) : Nat) * 10 ^ (d.exp + excess) := by
        calc (bound : ℚ) * 10 ^ e ≤ (10 ^ precision : Nat) * 10 ^ e :=
              mul_le_mul_of_nonneg_right (by exact_mod_cast few) (ten_zpow_pos e).le
          _ = (10 ^ (precision - 1) : Nat) * 10 ^ (e + 1) := by
              rw [zpow_add₀ (by norm_num), zpow_one, mul_comm ((10 : ℚ) ^ e), ← mul_assoc]
              congr 1
              exact_mod_cast (Nat.pow_pred_mul digits).symm
          _ ≤ _ := mul_le_mul_of_nonneg_left
              (zpow_le_zpow_right₀ (by norm_num) (by omega)) (Nat.cast_nonneg _)
      have least : ((10 ^ (precision - 1) : Nat) : ℚ) * 10 ^ (d.exp + excess) ≤
          d.coeff.natAbs * 10 ^ d.exp := by
        rw [scaled, mul_le_mul_iff_left₀ (ten_zpow_pos d.exp)]
        exact_mod_cast large
      refine ⟨10 ^ (precision - 1), ?_, least.trans below⟩
      have exact := below.trans edge
      rw [scaled, mul_le_mul_iff_left₀ (ten_zpow_pos d.exp)] at exact
      exact_mod_cast exact
  refine le_trans ?_ within
  have magnitude : (d.coeff.sign * (roundHalfEven d.coeff.natAbs excess : Int)).natAbs ≤ kept := by
    have signed : d.coeff ≠ 0 := by
      intro zero
      have some_digit : 0 < 10 ^ precision := Nat.pow_pos (by decide)
      rw [zero] at small
      exact small some_digit
    rw [Int.natAbs_mul, Int.natAbs_sign_of_ne_zero signed, one_mul, Int.natAbs_natCast]
    exact roundHalfEven_le covers
  rw [rounded, toRat_of_natAbs]
  exact mul_le_mul_of_nonneg_right (by exact_mod_cast magnitude) (ten_zpow_pos _).le

/-- What has few digits before the point is bounded by them. -/
theorem bounded_of_adjusted {n : Nat} (small : d.coeff = 0 ∨ d.adjusted < n) :
    |d.toRat| < 10 ^ n := by
  rcases small with zero | small
  · rw [toRat_eq_zero_iff.mpr zero, abs_zero]
    positivity
  · unfold adjusted at small
    rw [toRat_of_natAbs]
    have few : d.coeff.natAbs < 10 ^ digitCount d.coeff.natAbs := by
      have positive : 0 < digitCount d.coeff.natAbs := Nat.length_toDigits_pos
      exact (digitCount_le_iff positive).mp le_rfl
    have few' : (d.coeff.natAbs : ℚ) < 10 ^ (digitCount d.coeff.natAbs : Int) := by
      rw [zpow_natCast]
      exact_mod_cast few
    calc (d.coeff.natAbs : ℚ) * 10 ^ d.exp
        < 10 ^ (digitCount d.coeff.natAbs : Int) * 10 ^ d.exp :=
          mul_lt_mul_of_pos_right few' (ten_zpow_pos d.exp)
      _ = 10 ^ ((digitCount d.coeff.natAbs : Int) + d.exp) := (zpow_add₀ (by norm_num) _ _).symm
      _ ≤ 10 ^ (n : Int) := zpow_le_zpow_right₀ (by norm_num) (by omega)
      _ = 10 ^ n := zpow_natCast _ _

/-- What is below a power of ten has its leading digit below it. -/
theorem adjusted_lt_of_bounded {n : Int} (bounded : |d.toRat| < 10 ^ n) :
    d.coeff = 0 ∨ d.adjusted < n := by
  by_contra large
  obtain ⟨nonzero, large⟩ := not_or.mp large
  unfold adjusted at large
  rw [toRat_of_natAbs] at bounded
  have many : 10 ^ (digitCount d.coeff.natAbs - 1) ≤ d.coeff.natAbs := by
    by_cases one : digitCount d.coeff.natAbs ≤ 1
    · rw [Nat.sub_eq_zero_of_le one, pow_zero]
      exact Int.natAbs_pos.mpr nonzero
    · refine not_lt.mp fun few => ?_
      have fewer := (digitCount_le_iff (by omega)).mpr few
      omega
  have many' : (10 : ℚ) ^ ((digitCount d.coeff.natAbs - 1 : Nat) : Int) ≤ d.coeff.natAbs := by
    rw [zpow_natCast]
    exact_mod_cast many
  refine absurd bounded (not_lt.mpr ?_)
  calc (10 : ℚ) ^ n
      ≤ 10 ^ (((digitCount d.coeff.natAbs - 1 : Nat) : Int) + d.exp) :=
        zpow_le_zpow_right₀ (by norm_num) (by omega)
    _ = 10 ^ ((digitCount d.coeff.natAbs - 1 : Nat) : Int) * 10 ^ d.exp :=
        zpow_add₀ (by norm_num) _ _
    _ ≤ d.coeff.natAbs * 10 ^ d.exp :=
        mul_le_mul_of_nonneg_right many' (ten_zpow_pos d.exp).le

/-- What is bounded has few digits before the point. -/
theorem adjusted_of_bounded {n : Nat} (bounded : |d.toRat| < 10 ^ n) :
    d.coeff = 0 ∨ d.adjusted < n := by
  rw [← zpow_natCast] at bounded
  exact adjusted_lt_of_bounded bounded

end Decimal

namespace Numeric

variable {whole scale : Nat} {d a b : Decimal} {x : Numeric (whole + scale) scale}

theorem abs_value_lt (x : Numeric (whole + scale) scale) : |x.value| < 10 ^ whole := by
  have bounded : (x.units.natAbs : ℚ) < 10 ^ (whole + scale) := by exact_mod_cast x.bounded
  unfold value
  rw [abs_div, abs_of_pos (by positivity : (0 : ℚ) < 10 ^ scale), div_lt_iff₀ (by positivity),
    ← pow_add]
  rwa [Nat.cast_natAbs, Int.cast_abs] at bounded

/-- A column stores a number with few places exactly. -/
theorem value_of_ofDecimal? (places : d.Places scale)
    (stored : ofDecimal? (whole + scale) scale d = some x) : x.value = d.toRat := by
  have places : -(scale : Int) ≤ d.exp := places
  obtain ⟨k, hk⟩ := Int.eq_ofNat_of_zero_le (show 0 ≤ d.exp + scale by omega)
  have hexp : d.exp = k - scale := by omega
  have scaled : rescale scale d = d.coeff * 10 ^ k := by simp [rescale, hk]
  rw [value, units_of_ofDecimal? stored, scaled, Decimal.toRat, hexp, zpow_sub₀ (by norm_num),
    zpow_natCast, zpow_natCast]
  push_cast
  ring

/-- A sum the column stores was not rounded. -/
theorem add_of_ofDecimal? (digits : 0 < whole + scale) (ha : a.Places scale) (hb : b.Places scale)
    (stored : ofDecimal? (whole + scale) scale (a.add (whole + scale) b) = some x) :
    a.add (whole + scale) b = Decimal.addExact a b := by
  have rounded := value_of_ofDecimal? ((ha.addExact hb).round _) stored
  rcases Decimal.round_or_large digits (ha.addExact hb) with exact | large
  · exact exact
  · rw [← rounded] at large
    exact absurd large (not_le.mpr x.abs_value_lt)

/-- A sum the column stores is exact. -/
theorem value_of_add (digits : 0 < whole + scale) (ha : a.Places scale) (hb : b.Places scale)
    (stored : ofDecimal? (whole + scale) scale (a.add (whole + scale) b) = some x) :
    x.value = a.toRat + b.toRat := by
  rw [add_of_ofDecimal? digits ha hb stored] at stored
  rw [value_of_ofDecimal? (ha.addExact hb) stored, Decimal.toRat_addExact]

/-- At most `whole` digits before the point, and at most `scale` after it. -/
structure Storable (whole scale : Nat) (number : ℚ) : Prop where
  bounded : |number| < 10 ^ whole
  places : ∃ units : Int, number * 10 ^ scale = units

theorem storable_value (x : Numeric (whole + scale) scale) :
    Storable whole scale x.value := by
  constructor
  · exact x.abs_value_lt
  · exact ⟨x.units, div_mul_cancel₀ _ (by positivity)⟩

end Numeric

end DecimalArith
