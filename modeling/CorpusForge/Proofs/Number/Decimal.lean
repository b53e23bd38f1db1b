import CorpusForge.Number.Decimal
import CorpusForge.Proofs.Number.Grid
import CorpusForge.Proofs.Number.Text

/-!
# The number of a decimal

A decimal that is far from the finite numbers is settled by the place of its leading digit. That is
no rule of its own: what is beyond is infinite, what is below is zero, as for every exact value. So
a decimal always denotes the number nearest to it.

* `Number.round53_eq_zero`: what is rounded to zero;
* `Decimal.toNumber_eq`: the number of a decimal;
* `Decimal.toNumber_natCast`: a whole one is exact up to `2 ^ 53`.
-/

namespace CorpusForge

/-! ### Rounding to zero -/

/-- What is less than half of the smallest positive number is rounded to zero. -/
theorem Number.round53_eq_zero {q : Rat} (hq : 0 ≤ q) (hsmall : q < Number.least / 2) :
    Number.round53 q = 0 := by
  rcases hq.eq_or_lt with rfl | hpos
  · rfl
  have hgap := Number.gap_pos q
  have hhalf : q / Number.gap q < 1 / 2 := by
    rw [div_lt_iff₀ hgap]
    linarith [Number.least_le_gap q]
  have hfloor : (q / Number.gap q).floor = 0 :=
    Int.floor_eq_zero_iff.2 ⟨div_nonneg hq hgap.le, by linarith⟩
  have hnearest : Number.nearestEven (q / Number.gap q) = 0 := by
    rw [Number.nearestEven, hfloor, Int.cast_zero, sub_zero, if_pos hhalf]
  rw [Number.round53, if_neg hpos.ne', hnearest, Int.cast_zero, zero_mul]

namespace Decimal

/-! ### Far decimals -/

variable {n : Nat} {d : Decimal}

/-- The place of the leading digit. -/
def lead (d : Decimal) : Int := (digitsOf d.digits).length + d.exponent

theorem pow_length_digitsOf_le (hn : 0 < n) : 10 ^ ((digitsOf n).length - 1) ≤ n := by
  by_cases hone : (digitsOf n).length - 1 = 0
  · rw [hone]
    exact hn
  · by_contra hlt
    have hle := (Nat.length_toDigits_le_iff (n := n) (by norm_num : 1 < 10)
      (Nat.pos_of_ne_zero hone)).2 (Nat.lt_of_not_le hlt)
    have hlength : (Nat.toDigits 10 n).length = (digitsOf n).length := rfl
    omega

theorem lt_pow_length_digitsOf (n : Nat) : n < 10 ^ (digitsOf n).length :=
  (Nat.length_toDigits_le_iff (by norm_num) Nat.length_toDigits_pos).1 le_rfl

theorem toRat_nonneg (d : Decimal) : 0 ≤ d.toRat :=
  mul_nonneg (Nat.cast_nonneg _) (zpow_nonneg (by norm_num) _)

/-- A decimal is at least the power of ten at its leading digit. -/
theorem le_toRat (hd : 0 < d.digits) : (10 : Rat) ^ (d.lead - 1) ≤ d.toRat := by
  have hpos : 0 < (digitsOf d.digits).length := Nat.length_toDigits_pos
  have hlead : d.lead - 1 = ((digitsOf d.digits).length - 1 : Nat) + d.exponent := by
    rw [lead]
    omega
  rw [hlead, zpow_add₀ (by norm_num), zpow_natCast, toRat, pow10]
  refine mul_le_mul_of_nonneg_right ?_ (zpow_nonneg (by norm_num) _)
  exact_mod_cast pow_length_digitsOf_le hd

/-- A decimal is less than the power of ten before its leading digit. -/
theorem toRat_lt (d : Decimal) : d.toRat < (10 : Rat) ^ d.lead := by
  rw [lead, zpow_add₀ (by norm_num), zpow_natCast, toRat, pow10]
  refine mul_lt_mul_of_pos_right ?_ (zpow_pos (by norm_num) _)
  exact_mod_cast lt_pow_length_digitsOf d.digits

/-- The finite numbers are well inside of four hundred places, on either side. -/
theorem two_pow_le_ten_pow {k : Nat} (hk : k ≤ 1200) : (2 : Rat) ^ k ≤ 10 ^ 400 := by
  calc (2 : Rat) ^ k ≤ 2 ^ (3 * 400) := pow_le_pow_right₀ (by norm_num) hk
    _ = (2 ^ 3) ^ 400 := pow_mul _ _ _
    _ ≤ 10 ^ 400 := pow_le_pow_left₀ (by norm_num) (by norm_num) 400

theorem ofRat_of_lead_gt (hd : 0 < d.digits) (hlead : 400 < d.lead) :
    Number.ofRat d.toRat = .infinite false := by
  have hlarge : Number.overflow ≤ d.toRat := by
    calc Number.overflow = 2 ^ 1024 := zpow_natCast _ _
      _ ≤ 10 ^ 400 := two_pow_le_ten_pow (by norm_num)
      _ = (10 : Rat) ^ (400 : Int) := (zpow_natCast _ _).symm
      _ ≤ 10 ^ (d.lead - 1) := zpow_le_zpow_right₀ (by norm_num) (by omega)
      _ ≤ d.toRat := le_toRat hd
  have hgrid : Number.round53 Number.overflow = Number.overflow := by
    have hpow : Number.overflow = 2 ^ 1024 := zpow_natCast _ _
    rw [hpow, Number.round53_two_pow]
  have hround := Number.le_round53 hgrid (Number.pow2_pos _).le hlarge
  rw [Number.ofRat, Number.abs_eq, abs_of_nonneg (Number.round53_nonneg d.toRat_nonneg),
    if_pos hround, decide_eq_false (not_lt.2 d.toRat_nonneg)]

theorem ofRat_of_lead_lt (hlead : d.lead < -400) : Number.ofRat d.toRat = .real 0 := by
  have hleast : Number.least = (2 ^ 1074 : Rat)⁻¹ := zpow_neg _ _
  have hsmall : d.toRat < Number.least / 2 := by
    calc d.toRat < (10 : Rat) ^ d.lead := d.toRat_lt
      _ ≤ 10 ^ (-400 : Int) := zpow_le_zpow_right₀ (by norm_num) (by omega)
      _ = (10 ^ 400 : Rat)⁻¹ := zpow_neg _ _
      _ ≤ (2 ^ (1074 + 1) : Rat)⁻¹ := inv_anti₀ (by positivity) (two_pow_le_ten_pow (by norm_num))
      _ = (2 ^ 1074 : Rat)⁻¹ / 2 := by rw [pow_succ, mul_inv, div_eq_mul_inv]
      _ = Number.least / 2 := by rw [hleast]
  have hround := Number.round53_eq_zero d.toRat_nonneg hsmall
  have hover : (0 : Rat) < Number.overflow := Number.pow2_pos _
  rw [Number.ofRat_of_nonneg d.toRat_nonneg (hround ▸ hover), hround]

/-! ### The number of a decimal -/

/-- A decimal denotes the number nearest to it, with the sign before it. -/
theorem toNumber_eq (negative : Bool) (d : Decimal) :
    toNumber negative d =
      if negative then (Number.ofRat d.toRat).neg else Number.ofRat d.toRat := by
  have hsize : (if d.digits = 0 then .real 0 else if 400 < d.lead then .infinite false
      else if d.lead < -400 then .real 0 else .ofRat d.toRat) = Number.ofRat d.toRat := by
    by_cases hzero : d.digits = 0
    · rw [if_pos hzero, toRat, hzero, Nat.cast_zero, zero_mul]
      exact (Number.ofRat_intCast (n := 0) (by norm_num)).symm
    rw [if_neg hzero]
    split
    next hlead => exact (ofRat_of_lead_gt (Nat.pos_of_ne_zero hzero) hlead).symm
    split
    next hlead => exact (ofRat_of_lead_lt hlead).symm
    next => rfl
  rw [← hsize]
  rfl

theorem toNumber_natCast (hn : n ≤ 2 ^ 53) : toNumber false ⟨n, 0⟩ = .real n := by
  have hrat : toRat ⟨n, 0⟩ = ((n : Int) : Rat) := by simp [toRat, pow10]
  rw [toNumber_eq, hrat, Number.ofRat_intCast (by omega)]
  rfl

end Decimal

end CorpusForge
