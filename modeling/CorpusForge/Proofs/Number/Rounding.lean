import CorpusForge.Proofs.Number.Whole

/-!
# Rounding

A positive number is rounded to a nearby one: up by a `2 ^ 53`-th of it at most, and never below the
smallest positive number when it was not below that before.

* `Number.pow2_magnitude_le`, `Number.lt_pow2_magnitude_add_one`: between which powers of two;
* `Number.round53_le`: how far up;
* `Number.least_le_round53`: how far down.
-/

namespace CorpusForge.Number

theorem pow2_pos (k : Int) : 0 < pow2 k := zpow_pos (by norm_num) k

theorem pow2_le_pow2 {j k : Int} (h : j ≤ k) : pow2 j ≤ pow2 k :=
  zpow_le_zpow_right₀ (by norm_num) h

theorem pow2_add (j k : Int) : pow2 (j + k) = pow2 j * pow2 k := zpow_add₀ (by norm_num) j k

/-! ### Magnitudes -/

/-- The quotient of the highest powers of two in numerator and denominator is within a factor of
    two. -/
theorem pow2_log2_sub_log2 {q : Rat} (hq : 0 < q) :
    pow2 ((q.num.natAbs.log2 : Int) - q.den.log2 - 1) ≤ q ∧
      q < pow2 ((q.num.natAbs.log2 : Int) - q.den.log2 + 1) := by
  have hnum : 0 < q.num := Rat.num_pos.2 hq
  have hden : 0 < (q.den : Rat) := by exact_mod_cast q.den_pos
  have hmul : q * q.den = q.num.natAbs := by
    rw [Rat.mul_den_eq_num, ← Int.cast_natCast, Int.natAbs_of_nonneg hnum.le]
  -- both logarithms say between which powers of two numerator and denominator lie
  have hn_low : pow2 (q.num.natAbs.log2 : Int) ≤ q.num.natAbs := by
    rw [pow2_natCast, Nat.cast_le]
    exact Nat.log2_self_le (by omega)
  have hn_high : (q.num.natAbs : Rat) < pow2 ((q.num.natAbs.log2 : Int) + 1) := by
    rw [← Nat.cast_add_one, pow2_natCast, Nat.cast_lt]
    exact Nat.lt_log2_self
  have hd_low : pow2 (q.den.log2 : Int) ≤ q.den := by
    rw [pow2_natCast, Nat.cast_le]
    exact Nat.log2_self_le q.den_nz
  have hd_high : (q.den : Rat) < pow2 ((q.den.log2 : Int) + 1) := by
    rw [← Nat.cast_add_one, pow2_natCast, Nat.cast_lt]
    exact Nat.lt_log2_self
  constructor
  · refine le_of_mul_le_mul_right ?_ hden
    calc pow2 ((q.num.natAbs.log2 : Int) - q.den.log2 - 1) * q.den
        ≤ pow2 ((q.num.natAbs.log2 : Int) - q.den.log2 - 1) * pow2 ((q.den.log2 : Int) + 1) :=
          mul_le_mul_of_nonneg_left hd_high.le (pow2_pos _).le
      _ = pow2 (q.num.natAbs.log2 : Int) := by rw [← pow2_add]; congr 1; omega
      _ ≤ q * q.den := hmul ▸ hn_low
  · refine lt_of_mul_lt_mul_right ?_ hden.le
    calc q * q.den < pow2 ((q.num.natAbs.log2 : Int) + 1) := hmul ▸ hn_high
      _ = pow2 ((q.num.natAbs.log2 : Int) - q.den.log2 + 1) * pow2 (q.den.log2 : Int) := by
          rw [← pow2_add]; congr 1; omega
      _ ≤ pow2 ((q.num.natAbs.log2 : Int) - q.den.log2 + 1) * q.den :=
          mul_le_mul_of_nonneg_left hd_low (pow2_pos _).le

theorem pow2_magnitude_le {q : Rat} (hq : 0 < q) : pow2 (magnitude q) ≤ q := by
  have hlow := (pow2_log2_sub_log2 hq).1
  simp only [magnitude, abs_eq, abs_of_pos hq]
  split
  next => exact hlow
  next hnot => exact not_lt.1 hnot

theorem lt_pow2_magnitude_add_one {q : Rat} (hq : 0 < q) : q < pow2 (magnitude q + 1) := by
  have hhigh := (pow2_log2_sub_log2 hq).2
  simp only [magnitude, abs_eq, abs_of_pos hq]
  split
  next hlt => simpa using hlt
  next => exact hhigh

/-! ### The distance -/

theorem gap_pos (q : Rat) : 0 < gap q := pow2_pos _

theorem nearestEven_le (q : Rat) : (nearestEven q : Rat) ≤ q + 1 / 2 := by
  have hfloor : (q.floor : Rat) ≤ q := Rat.floor_le q
  simp only [nearestEven]
  split_ifs <;> push_cast <;> linarith

theorem floor_le_nearestEven (q : Rat) : q.floor ≤ nearestEven q := by
  simp only [nearestEven]
  split_ifs <;> omega

theorem round53_le_add_half_gap {q : Rat} : round53 q ≤ q + gap q / 2 := by
  rw [round53]
  split
  next hzero => linarith [gap_pos q]
  next =>
    calc (nearestEven (q / gap q) : Rat) * gap q
        ≤ (q / gap q + 1 / 2) * gap q :=
          mul_le_mul_of_nonneg_right (nearestEven_le _) (gap_pos q).le
      _ = q + gap q / 2 := by
          rw [add_mul, div_mul_cancel₀ _ (gap_pos q).ne']
          ring

/-- From the smallest normal number on, the gap is a `2 ^ 52`-th of the number at most. -/
theorem gap_le {q : Rat} (hq : pow2 (-1022) ≤ q) : gap q ≤ q / 2 ^ 52 := by
  have hpos : 0 < q := (pow2_pos _).trans_le hq
  have hmagnitude : -1022 ≤ magnitude q := by
    have hlt := hq.trans_lt (lt_pow2_magnitude_add_one hpos)
    have := (zpow_lt_zpow_iff_right₀ (by norm_num : (1 : Rat) < 2)).1 hlt
    omega
  rw [gap, max_eq_left (by omega), sub_eq_add_neg, pow2_add, div_eq_mul_inv]
  refine mul_le_mul (pow2_magnitude_le hpos) (le_of_eq ?_) (pow2_pos _).le hpos.le
  rw [pow2, zpow_neg]
  norm_num

/-- A number is rounded up by a `2 ^ 53`-th of it at most. -/
theorem round53_le {q : Rat} (hq : pow2 (-1022) ≤ q) : round53 q ≤ q + q / 2 ^ 53 := by
  have hgap := gap_le hq
  calc round53 q ≤ q + gap q / 2 := round53_le_add_half_gap
    _ ≤ q + q / 2 ^ 53 := by linarith

theorem round53_nonneg {q : Rat} (hq : 0 ≤ q) : 0 ≤ round53 q := by
  rw [round53]
  split
  next => exact le_rfl
  next =>
    have hquot : 0 ≤ q / gap q := div_nonneg hq (gap_pos q).le
    have hnearest : (0 : Int) ≤ nearestEven (q / gap q) :=
      (Rat.le_floor_iff.2 (by exact_mod_cast hquot)).trans (floor_le_nearestEven _)
    exact mul_nonneg (by exact_mod_cast hnearest) (gap_pos q).le

/-! ### The smallest positive number -/

/-- The smallest positive number. -/
def least : Rat := pow2 (-1074)

theorem least_pos : 0 < least := pow2_pos _

theorem least_le_gap (q : Rat) : least ≤ gap q := pow2_le_pow2 (le_max_right _ _)

/-- What is not below the smallest positive number is not rounded below it. -/
theorem least_le_round53 {q : Rat} (hq : least ≤ q) : least ≤ round53 q := by
  have hpos : 0 < q := least_pos.trans_le hq
  have hgap : gap q ≤ q := by
    rw [gap]
    rcases max_choice (magnitude q - 52) (-1074) with h | h <;> rw [h]
    · exact (pow2_le_pow2 (by omega)).trans (pow2_magnitude_le hpos)
    · exact hq
  have hnearest : (1 : Int) ≤ nearestEven (q / gap q) := by
    refine (Rat.le_floor_iff.2 ?_).trans (floor_le_nearestEven _)
    rw [Int.cast_one, one_le_div (gap_pos q)]
    exact hgap
  rw [round53, if_neg hpos.ne']
  calc least ≤ gap q := least_le_gap q
    _ = 1 * gap q := (one_mul _).symm
    _ ≤ nearestEven (q / gap q) * gap q :=
        mul_le_mul_of_nonneg_right (by exact_mod_cast hnearest) (gap_pos q).le

instance : DecidablePred IsBinary64
  | .real q => inferInstanceAs (Decidable (round53 q = q ∧ q.abs < overflow))
  | .nan | .infinite _ | .negZero => isTrue trivial

/-- A positive number of the grid is not below the smallest one. -/
theorem least_le_of_isBinary64 {q : Rat} (hq : 0 < q) (hgrid : (real q).IsBinary64) :
    least ≤ q := by
  have hround : round53 q = q := hgrid.1
  rw [round53, if_neg hq.ne'] at hround
  have hpos : 0 < (nearestEven (q / gap q) : Rat) := by
    rw [← mul_pos_iff_of_pos_right (gap_pos q), hround]
    exact hq
  have hone : (1 : Rat) ≤ nearestEven (q / gap q) := by
    have : 0 < nearestEven (q / gap q) := by exact_mod_cast hpos
    exact_mod_cast this
  calc least ≤ gap q := least_le_gap q
    _ = 1 * gap q := (one_mul _).symm
    _ ≤ nearestEven (q / gap q) * gap q := mul_le_mul_of_nonneg_right hone (gap_pos q).le
    _ = q := hround

end CorpusForge.Number
