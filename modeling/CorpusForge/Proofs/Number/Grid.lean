import CorpusForge.Proofs.Number.Rounding

/-!
# The order of the grid

Rounding does not pass a point of the grid, on either side of zero. So what is computed from numbers
with a lower bound has one, however it is rounded, and what is computed from a number that is far
from zero is far from zero.

* `Number.round53_mul_pow2`: multiples of powers of two are on the grid;
* `Number.le_round53`, `Number.round53_le_of_le`, `Number.abs_round53`: order, and the two sides;
* `Number.floor_ofRat_div`: the whole part of a quotient;
* `Number.AtLeast`: numbers that are not less than a bound, if they are finite;
* `Number.IsFar`: numbers that are at least so far from zero, if they are finite.
-/

namespace CorpusForge.Number

variable {p q : Rat}

/-! ### Both sides of zero -/

theorem floor_neg (hq : q ≠ q.floor) : (-q).floor = -q.floor - 1 := by
  have hlow : (q.floor : Rat) < q := (Rat.floor_le q).lt_of_ne hq.symm
  have hhigh := Rat.lt_floor_add_one q
  refine le_antisymm (Int.le_sub_one_of_lt (Rat.floor_lt_iff.2 ?_)) (Rat.le_floor_iff.2 ?_)
  · push_cast
    linarith
  · push_cast at hhigh ⊢
    linarith

theorem nearestEven_neg (q : Rat) : nearestEven (-q) = -nearestEven q := by
  by_cases hwhole : q = q.floor
  · rw [hwhole, ← Int.cast_neg]
    simp only [nearestEven, Rat.floor_intCast, sub_self, one_div, inv_pos, Nat.ofNat_pos, if_true]
  · -- what is above the whole part on one side of zero is missing to the next on the other
    have hrest : -q - ((-q.floor - 1 : Int) : Rat) = 1 - (q - q.floor) := by
      push_cast
      ring
    simp only [nearestEven, floor_neg hwhole, hrest]
    generalize q - (q.floor : Rat) = rest
    rcases lt_trichotomy rest (1 / 2) with h | rfl | h
    · rw [if_neg (by linarith), if_pos (by linarith), if_pos h]
      ring
    · norm_num
      split_ifs <;> omega
    · rw [if_pos (by linarith), if_neg (by linarith), if_pos h]
      ring

theorem magnitude_neg (q : Rat) : magnitude (-q) = magnitude q := by
  simp only [magnitude, abs_eq, abs_neg, Rat.neg_num, Rat.neg_den, Int.natAbs_neg]

theorem magnitude_abs (q : Rat) : magnitude |q| = magnitude q := by
  rcases abs_choice q with h | h <;> rw [h]
  exact magnitude_neg q

theorem round53_neg (q : Rat) : round53 (-q) = -round53 q := by
  have hgap : gap (-q) = gap q := by rw [gap, gap, magnitude_neg]
  simp only [round53, neg_eq_zero, hgap, neg_div, nearestEven_neg]
  split
  · rw [neg_zero]
  · push_cast
    ring

theorem abs_round53 (q : Rat) : |round53 q| = round53 |q| := by
  rcases le_total 0 q with hq | hq
  · rw [abs_of_nonneg hq, abs_of_nonneg (round53_nonneg hq)]
  · have hneg := round53_nonneg (neg_nonneg.2 hq)
    rw [abs_of_nonpos hq, round53_neg, abs_of_nonpos]
    rwa [round53_neg, neg_nonneg] at hneg

/-! ### Points of the grid -/

/-- What is below a number is not above its nearest point, if the gap there divides it. -/
theorem mul_gap_le_round53 (hq : q ≠ 0) {m : Int} (h : m * gap q ≤ q) : m * gap q ≤ round53 q := by
  have hquot : (m : Rat) ≤ q / gap q := (le_div_iff₀ (gap_pos q)).2 h
  have hnearest : m ≤ nearestEven (q / gap q) :=
    (Rat.le_floor_iff.2 hquot).trans (floor_le_nearestEven _)
  rw [round53, if_neg hq]
  exact mul_le_mul_of_nonneg_right (by exact_mod_cast hnearest) (gap_pos q).le

theorem magnitude_lt {e : Int} (hq : q ≠ 0) (h : |q| < pow2 e) : magnitude q < e := by
  have hlow := pow2_magnitude_le (abs_pos.2 hq)
  rw [magnitude_abs] at hlow
  exact (zpow_lt_zpow_iff_right₀ (by norm_num : (1 : Rat) < 2)).1 (hlow.trans_lt h)

/-- The gap divides the powers of two that are not less. -/
theorem exists_mul_gap_eq_pow2 {e : Int} (he : -1074 ≤ e) (h : magnitude q ≤ 52 + e) :
    ∃ m : Int, m * gap q = pow2 e := by
  have hle : max (magnitude q - 52) (-1074) ≤ e := max_le (by omega) he
  refine ⟨2 ^ (e - max (magnitude q - 52) (-1074)).toNat, ?_⟩
  have hexponent : e = ((e - max (magnitude q - 52) (-1074)).toNat : Int) +
      max (magnitude q - 52) (-1074) := by omega
  conv_rhs => rw [hexponent, pow2_add, pow2_natCast]
  rw [gap]
  push_cast
  rfl

/-- What is below a number is not above its nearest point either if it is a whole number, and the
    gap there is one or less. -/
theorem intCast_le_round53 {a : Int} (hq : q ≠ 0) (hsize : |q| < pow2 53) (h : (a : Rat) ≤ q) :
    (a : Rat) ≤ round53 q := by
  have hmagnitude := magnitude_lt hq hsize
  obtain ⟨m, hm⟩ := @exists_mul_gap_eq_pow2 q 0 (by norm_num) (by omega)
  have hmul : ((a * m : Int) : Rat) * gap q = a := by
    rw [Int.cast_mul, mul_assoc, hm]
    exact mul_one _
  rw [← hmul] at h ⊢
  exact mul_gap_le_round53 hq h

theorem abs_mul_pow2_lt {n e : Int} (hn : n.natAbs < 2 ^ 53) :
    |(n * pow2 e : Rat)| < pow2 (53 + e) := by
  have hcast : |(n : Rat)| < pow2 (53 : Nat) := by
    rw [abs_intCast, pow2_natCast]
    exact_mod_cast hn
  rw [abs_mul, abs_of_pos (pow2_pos e), pow2_add]
  exact mul_lt_mul_of_pos_right hcast (pow2_pos e)

/-- A multiple of a power of two by a number of 53 bits lies on the grid. -/
theorem round53_mul_pow2 {n e : Int} (hn : n.natAbs < 2 ^ 53) (he : -1074 ≤ e) :
    round53 (n * pow2 e) = n * pow2 e := by
  rcases eq_or_ne n 0 with rfl | hne
  · simp [round53]
  have hq : (n * pow2 e : Rat) ≠ 0 := mul_ne_zero (by exact_mod_cast hne) (pow2_pos e).ne'
  have hmagnitude := magnitude_lt hq (abs_mul_pow2_lt hn)
  obtain ⟨m, hm⟩ := @exists_mul_gap_eq_pow2 (n * pow2 e) e he (by omega)
  refine round53_of_mul_gap (n * m) ?_
  push_cast
  rw [mul_assoc, hm]

theorem round53_two_pow (k : Nat) : round53 (2 ^ k) = 2 ^ k := by
  have hround := round53_mul_pow2 (n := 1) (e := k) (by norm_num) (by omega)
  rw [Int.cast_one, one_mul, pow2_natCast] at hround
  exact_mod_cast hround

/-- Rounding does not pass a point of the grid. -/
theorem le_round53 (hp : round53 p = p) (hnonneg : 0 ≤ p) (h : p ≤ q) : p ≤ round53 q := by
  rcases hnonneg.eq_or_lt with rfl | hpos
  · exact round53_nonneg h
  have hq : 0 < q := hpos.trans_le h
  have hform : (nearestEven (p / gap p) : Rat) * gap p = p := by
    rwa [round53, if_neg hpos.ne'] at hp
  have hmagnitude : magnitude p < magnitude q + 1 :=
    magnitude_lt hpos.ne' (by rw [abs_of_pos hpos]; exact h.trans_lt (lt_pow2_magnitude_add_one hq))
  rcases (Int.lt_add_one_iff.1 hmagnitude).lt_or_eq with hlt | heq
  · -- the power of two below the number is between the two, and on the grid
    have hleast : -1074 < magnitude p + 1 := by
      have hnearest : (1 : Int) ≤ nearestEven (p / gap p) := by
        have hmul : 0 < (nearestEven (p / gap p) : Rat) * gap p := by rwa [hform]
        exact_mod_cast pos_of_mul_pos_left hmul (gap_pos p).le
      have hgap : gap p ≤ p := by
        conv_rhs => rw [← hform]
        exact le_mul_of_one_le_left (gap_pos p).le (by exact_mod_cast hnearest)
      have hlow := ((least_le_gap p).trans hgap).trans_lt (lt_pow2_magnitude_add_one hpos)
      exact (zpow_lt_zpow_iff_right₀ (by norm_num : (1 : Rat) < 2)).1 hlow
    obtain ⟨m, hm⟩ := @exists_mul_gap_eq_pow2 q (magnitude q) (by omega) (by omega)
    calc p ≤ pow2 (magnitude p + 1) := (lt_pow2_magnitude_add_one hpos).le
      _ ≤ pow2 (magnitude q) := pow2_le_pow2 (by omega)
      _ = m * gap q := hm.symm
      _ ≤ round53 q := mul_gap_le_round53 hq.ne' (hm.trans_le (pow2_magnitude_le hq))
  · have hgap : gap q = gap p := by rw [gap, gap, heq]
    rw [← hform, ← hgap]
    exact mul_gap_le_round53 hq.ne' (by rwa [hgap, hform])

/-- Nor does it pass one on the way up. -/
theorem round53_le_of_le (hp : round53 p = p) (hnonneg : 0 ≤ q) (h : q ≤ p) : round53 q ≤ p := by
  rcases hnonneg.eq_or_lt with rfl | hq
  · exact h
  have hpos : 0 < p := hq.trans_le h
  have hmagnitude : magnitude q < magnitude p + 1 :=
    magnitude_lt hq.ne' (by rw [abs_of_pos hq]; exact h.trans_lt (lt_pow2_magnitude_add_one hpos))
  -- the gap at the lesser number divides the one at the greater number
  obtain ⟨k, hk⟩ := @exists_mul_gap_eq_pow2 q (max (magnitude p - 52) (-1074)) (by omega) (by omega)
  have hgap : gap p = k * gap q := hk.symm
  have hform : ((nearestEven (p / gap p) * k : Int) : Rat) * gap q = p := by
    rw [round53, if_neg hpos.ne'] at hp
    rw [Int.cast_mul, mul_assoc, ← hgap]
    exact hp
  have hquot : q / gap q ≤ (nearestEven (p / gap p) * k : Int) := by
    rw [div_le_iff₀ (gap_pos q), hform]
    exact h
  have hnearest : nearestEven (q / gap q) ≤ nearestEven (p / gap p) * k := by
    have hhalf := (nearestEven_le (q / gap q)).trans (add_le_add_left hquot (1 / 2))
    have hlt : (nearestEven (q / gap q) : Rat) < (nearestEven (p / gap p) * k + 1 : Int) := by
      push_cast at hhalf ⊢
      linarith
    exact Int.lt_add_one_iff.1 (by exact_mod_cast hlt)
  rw [round53, if_neg hq.ne', ← hform]
  exact mul_le_mul_of_nonneg_right (by exact_mod_cast hnearest) (gap_pos q).le

theorem ofRat_of_nonneg (hq : 0 ≤ q) (hsmall : round53 q < overflow) :
    ofRat q = real (round53 q) := by
  rw [ofRat, abs_eq, abs_of_nonneg (round53_nonneg hq), if_neg (not_le.2 hsmall),
    if_neg fun h => absurd h.2 (not_lt.2 hq)]

/-- What lies between two points of the grid is rounded to a number between them. -/
theorem exists_ofRat_eq {low high : Rat} (hlow : round53 low = low) (hnonneg : 0 ≤ low)
    (hhigh : round53 high = high) (hsmall : high < overflow) (hleast : low ≤ q) (hmost : q ≤ high) :
    ∃ r, low ≤ r ∧ r ≤ high ∧ ofRat q = real r := by
  have hup := round53_le_of_le hhigh (hnonneg.trans hleast) hmost
  exact ⟨round53 q, le_round53 hlow hnonneg hleast, hup,
    ofRat_of_nonneg (hnonneg.trans hleast) (hup.trans_lt hsmall)⟩

/-- A point of the grid that is not too large is a number. -/
theorem ofRat_of_round53 (hq : round53 q = q) (hsmall : |q| < overflow) : ofRat q = real q := by
  have hzero : ¬(q = 0 ∧ q < 0) := fun h => h.2.ne h.1
  rw [ofRat, hq, abs_eq, if_neg (not_le.2 hsmall), if_neg hzero]

/-- So a whole number is exact, however large, if enough of its last bits are zero. -/
theorem ofRat_mul_two_pow {n : Int} {e : Nat} (hn : n.natAbs < 2 ^ 53) (he : e ≤ 900) :
    ofRat ((n * 2 ^ e : Int) : Rat) = real ((n * 2 ^ e : Int) : Rat) := by
  have hcast : ((n * 2 ^ e : Int) : Rat) = n * pow2 e := by
    rw [pow2_natCast]
    push_cast
    rfl
  rw [hcast]
  refine ofRat_of_round53 (round53_mul_pow2 hn (by omega)) ((abs_mul_pow2_lt hn).trans_le ?_)
  exact pow2_le_pow2 (by omega)

/-! ### Whole parts -/

/-- A number that is rounded to one with a given whole part. -/
theorem floor_ofRat {a : Int} (ha : a.natAbs ≤ 2 ^ 53) (hlow : (a : Rat) ≤ round53 q)
    (hhigh : round53 q < a + 1) (hq : q < 0 → a < 0) : (ofRat q).floor = real a := by
  have hbound : |(a : Rat)| ≤ 2 ^ 53 := by
    rw [abs_intCast]
    exact_mod_cast ha
  have hsmall : |round53 q| < overflow := by
    obtain ⟨habove, hbelow⟩ := abs_le.1 hbound
    exact lt_overflow (abs_le.2 ⟨by linarith, by linarith⟩)
  have hsign : ¬(round53 q = 0 ∧ q < 0) := by
    rintro ⟨hzero, hneg⟩
    have hcast : (a : Rat) + 1 ≤ 0 := by exact_mod_cast hq hneg
    linarith
  have hfloor : (round53 q).floor = a := by
    refine le_antisymm (Int.lt_add_one_iff.1 (Rat.floor_lt_iff.2 ?_)) (Rat.le_floor_iff.2 hlow)
    exact_mod_cast hhigh
  rw [ofRat, abs_eq, if_neg (not_le.2 hsmall), if_neg hsign, floor, hfloor]

/-- Where a number of `d`-th parts has 53 bits, the gap is less than two of them. -/
theorem gap_mul_lt_two {d : Nat} (hd : 0 < d) (hd' : d ≤ 2 ^ 53) (hone : 1 ≤ |q| * d)
    (hparts : |q| * d < 2 ^ 53) : gap q * d < 2 := by
  have hpos : (0 : Rat) < d := by exact_mod_cast hd
  have hnormal : pow2 (-1022) ≤ |q| := by
    have hcast : (d : Rat) ≤ 2 ^ 53 := by exact_mod_cast hd'
    have hpow : pow2 (-1022) * d ≤ 1 :=
      calc pow2 (-1022) * d ≤ pow2 (-53) * 2 ^ 53 :=
            mul_le_mul (pow2_le_pow2 (by norm_num)) hcast hpos.le (pow2_pos _).le
        _ = 1 := by rw [pow2, zpow_neg]; norm_num
    exact le_of_mul_le_mul_right (hpow.trans hone) hpos
  have hgap := mul_le_mul_of_nonneg_right (gap_le hnormal) hpos.le
  rw [gap, magnitude_abs, ← gap, div_mul_eq_mul_div] at hgap
  linarith

/-- The whole part of a quotient of exact whole numbers is not lost when the quotient is rounded. -/
theorem floor_ofRat_div {n : Int} {d : Nat} (hn : n.natAbs < 2 ^ 53) (hd : 0 < d)
    (hd' : d ≤ 2 ^ 53) : (ofRat ((n : Rat) / d)).floor = real ((n / d : Int) : Rat) := by
  rcases eq_or_ne n 0 with rfl | hne
  · rw [Int.zero_ediv, Int.cast_zero, zero_div]
    decide +kernel
  have hpos : (0 : Rat) < d := by exact_mod_cast hd
  have hdInt : (0 : Int) < d := by exact_mod_cast hd
  generalize hq : (n : Rat) / d = q
  have hnum : q * d = d * (n / d : Int) + (n % d : Int) := by
    rw [← hq, div_mul_cancel₀ _ hpos.ne']
    exact_mod_cast (Int.mul_ediv_add_emod n d).symm
  have hrest : (0 : Rat) ≤ (n % d : Int) ∧ ((n % d : Int) : Rat) ≤ d - 1 := by
    have hmod : 0 ≤ n % d ∧ n % d ≤ d - 1 :=
      ⟨Int.emod_nonneg _ hdInt.ne', Int.le_sub_one_of_lt (Int.emod_lt_of_pos _ hdInt)⟩
    exact_mod_cast hmod
  have hzero : q ≠ 0 := by
    rw [← hq]
    exact div_ne_zero (by exact_mod_cast hne) hpos.ne'
  have habs : |q| * d = n.natAbs := by
    rw [← hq, abs_div, abs_of_pos hpos, div_mul_cancel₀ _ hpos.ne', abs_intCast]
  have hparts : |q| * d < 2 ^ 53 := habs ▸ by exact_mod_cast hn
  have hsize : |q| < pow2 53 := by
    have hone : (1 : Rat) ≤ d := by exact_mod_cast hd
    have hpow : (pow2 53 : Rat) = 2 ^ 53 := pow2_natCast 53
    rw [hpow]
    exact (le_mul_of_one_le_right (abs_nonneg q) hone).trans_lt hparts
  have hlow : ((n / d : Int) : Rat) ≤ q := by
    refine le_of_mul_le_mul_right ?_ hpos
    rw [hnum, mul_comm]
    exact le_add_of_nonneg_right hrest.1
  refine floor_ofRat ((Int.natAbs_ediv_le_natAbs n d).trans hn.le)
    (intCast_le_round53 hzero hsize hlow) ?_ fun hneg => ?_
  · -- half the gap is less than what is missing to the next whole number
    have hgap := gap_mul_lt_two hd hd' (habs ▸ by exact_mod_cast Int.natAbs_pos.2 hne) hparts
    have hround := mul_le_mul_of_nonneg_right (@round53_le_add_half_gap q) hpos.le
    refine lt_of_mul_lt_mul_right (hround.trans_lt ?_) hpos.le
    rw [add_mul, hnum, add_mul]
    linarith
  · have hcast : (n : Rat) < 0 := by
      rw [← hq, div_lt_iff₀ hpos, zero_mul] at hneg
      exact hneg
    exact Int.ediv_neg_of_neg_of_pos (by exact_mod_cast hcast) hdInt

variable {m n number : Number} {c r t : Rat}

theorem real_mul_real (p q : Rat) :
    real p * real q =
      if p = 0 ∨ q = 0 then zero (xor (decide (p < 0)) (decide (q < 0))) else ofRat (p * q) := rfl

theorem div_real (hp : p ≠ 0) (hq : q ≠ 0) : div (real p) (real q) = ofRat (p / q) :=
  (if_neg hq).trans (if_neg hp)

/-- The whole part of a quotient of counts is that of the counts. -/
theorem floor_div_natCast {n d : Nat} (hn : 0 < n) (hn' : n < 2 ^ 53) (hd : 0 < d)
    (hd' : d ≤ 2 ^ 53) : (real n / real d).floor = real ((n / d : Nat) : Rat) := by
  have hdiv : real n / real d = ofRat (((n : Int) : Rat) / d) :=
    div_real (by exact_mod_cast hn.ne') (by exact_mod_cast hd.ne')
  rw [hdiv, floor_ofRat_div (by omega) hd hd']
  rfl

theorem neg_real (hq : q ≠ 0) : neg (real q) = real (-q) := if_neg hq

theorem real_sub_real (p : Rat) (hq : q ≠ 0) : real p - real q = ofRat (p - q) := by
  have hsub : real p - real q = add (real p) (neg (real q)) := rfl
  rw [hsub, neg_real hq, add, ← sub_eq_add_neg]

theorem toRat_zero (negative : Bool) : (zero negative).toRat = 0 := by cases negative <;> rfl

/-! ### Lower bounds -/

/-- The number is at least that, if it is finite. -/
def AtLeast (p : Rat) (number : Number) : Prop := number.isFinite = true → p ≤ number.toRat

theorem AtLeast.mono (h : number.AtLeast q) (hpq : p ≤ q) : number.AtLeast p :=
  fun hfinite => hpq.trans (h hfinite)

theorem atLeast_of_not_finite (h : number.isFinite = false) : number.AtLeast p :=
  fun hfinite => absurd (h.symm.trans hfinite) Bool.false_ne_true

/-- What is at least a point of the grid stays so when it is rounded. -/
theorem atLeast_ofRat (hp : round53 p = p) (hnonneg : 0 ≤ p) (h : p ≤ q) :
    (ofRat q).AtLeast p := by
  have hround := le_round53 hp hnonneg h
  simp only [ofRat]
  split
  next => exact atLeast_of_not_finite rfl
  next =>
    split
    next hzero => exact absurd (hnonneg.trans h) (not_le.2 hzero.2)
    next => exact fun _ => hround

theorem AtLeast.add (hm : m.AtLeast p) (hn : n.AtLeast q) (hr : round53 r = r) (hnonneg : 0 ≤ r)
    (hsum : r ≤ p + q) : (add m n).AtLeast r := by
  cases m with
  | nan => exact atLeast_of_not_finite rfl
  | infinite negative =>
    cases n with
    | infinite negative' =>
      rw [Number.add]
      split <;> exact atLeast_of_not_finite rfl
    | nan | negZero | real => exact atLeast_of_not_finite rfl
  | negZero =>
    have hp : p ≤ 0 := hm rfl
    cases n with
    | nan | infinite => exact atLeast_of_not_finite rfl
    | negZero | real => exact hn.mono (by linarith)
  | real a =>
    have hp : p ≤ a := hm rfl
    cases n with
    | nan | infinite => exact atLeast_of_not_finite rfl
    | negZero =>
      have hq : q ≤ 0 := hn rfl
      exact hm.mono (by linarith)
    | real b =>
      have hq : q ≤ b := hn rfl
      exact atLeast_ofRat hr hnonneg (by linarith)

theorem AtLeast.mul (h : number.AtLeast p) (hp : 0 ≤ p) (hc : 0 ≤ c) (hr : round53 r = r)
    (hnonneg : 0 ≤ r) (hprod : r ≤ p * c) : (mul number (real c)).AtLeast r := by
  -- a product that is zero has a factor that is
  have hzero : ∀ negative q, p ≤ q → q = 0 ∨ c = 0 → (zero negative).AtLeast r := by
    rintro negative q hq hfactor -
    rw [toRat_zero]
    refine hprod.trans (le_of_eq (mul_eq_zero.2 (hfactor.imp_left ?_)))
    rintro rfl
    exact hq.antisymm hp
  cases number with
  | nan => exact atLeast_of_not_finite rfl
  | infinite negative =>
    by_cases hzero : c = 0
    · have hmul : Number.mul (infinite negative) (real c) = nan := if_pos hzero
      rw [hmul]
      exact atLeast_of_not_finite rfl
    · have hmul : Number.mul (infinite negative) (real c) =
          infinite (xor negative (decide (c < 0))) := if_neg hzero
      rw [hmul]
      exact atLeast_of_not_finite rfl
  | negZero =>
    have hmul : Number.mul negZero (real c) = zero (xor true (decide (c < 0))) := by
      simp [Number.mul, toRat, isNegative]
    rw [hmul]
    exact hzero _ 0 (h rfl) (.inl rfl)
  | real q =>
    have hq : p ≤ q := h rfl
    have hmul : Number.mul (real q) (real c) = _ := real_mul_real q c
    rw [hmul]
    split
    next hfactor => exact hzero _ q hq hfactor
    next => exact atLeast_ofRat hr hnonneg (hprod.trans (mul_le_mul_of_nonneg_right hq hc))

theorem mul_swap (m n : Number) : mul m n = mul n m := by
  have hxor := Bool.xor_comm m.isNegative n.isNegative
  cases m <;> cases n <;> simp only [Number.mul, hxor, or_comm, mul_comm]

/-! ### Far from zero -/

/-- The number is at least so far from zero, if it is finite. -/
def IsFar (p : Rat) (number : Number) : Prop := number.isFinite = true → p ≤ |number.toRat|

theorem isFar_of_not_finite (h : number.isFinite = false) : number.IsFar p :=
  fun hfinite => absurd (h.symm.trans hfinite) Bool.false_ne_true

/-- What is far from zero stays so when it is rounded. -/
theorem isFar_ofRat (hp : round53 p = p) (hpos : 0 < p) (h : p ≤ |q|) : (ofRat q).IsFar p := by
  have hround : p ≤ |round53 q| := by
    rw [abs_round53]
    exact le_round53 hp hpos.le h
  simp only [ofRat]
  split
  next => exact isFar_of_not_finite rfl
  next =>
    split
    next hzero => rw [hzero.1, abs_zero] at hround; exact absurd hround (not_le.2 hpos)
    next => exact fun _ => hround

theorem isFinite_neg (number : Number) : number.neg.isFinite = number.isFinite := by
  cases number with
  | nan | infinite | negZero => rfl
  | real q => rw [neg]; split <;> rfl

theorem toRat_neg (number : Number) : number.neg.toRat = -number.toRat := by
  cases number with
  | nan | infinite | negZero => exact neg_zero.symm
  | real q =>
    rw [neg]
    split
    next hzero => rw [hzero]; exact neg_zero.symm
    next => rfl

theorem Denotes.neg (h : number.Denotes q) : number.neg.Denotes (-q) :=
  ⟨(isFinite_neg number).trans h.1, by rw [toRat_neg, h.2]⟩

theorem IsFar.neg (h : number.IsFar p) : number.neg.IsFar p := by
  intro hfinite
  rw [isFinite_neg] at hfinite
  rw [toRat_neg, abs_neg]
  exact h hfinite

theorem IsFar.add (h : number.IsFar p) (hpos : 0 < p) (hr : round53 r = r) (hrpos : 0 < r)
    (hsum : r + |t| ≤ p) : (add (real t) number).IsFar r := by
  cases number with
  | nan | infinite => exact isFar_of_not_finite rfl
  | negZero => exact absurd (h rfl) (by simpa [toRat] using hpos)
  | real q =>
    have hq : p ≤ |q| := h rfl
    refine isFar_ofRat hr hrpos ?_
    have htriangle := abs_sub_abs_le_abs_sub q (-t)
    rw [abs_neg, sub_neg_eq_add, add_comm q] at htriangle
    linarith

theorem IsFar.mul (h : number.IsFar p) (hpos : 0 < p) (hr : round53 r = r) (hrpos : 0 < r)
    (hc : c ≠ 0) (hprod : r ≤ p * |c|) : (mul number (real c)).IsFar r := by
  cases number with
  | nan => exact isFar_of_not_finite rfl
  | infinite negative =>
    have hmul : mul (infinite negative) (real c) =
        infinite (xor negative (decide (c < 0))) := if_neg hc
    rw [hmul]
    exact isFar_of_not_finite rfl
  | negZero => exact absurd (h rfl) (by simpa [toRat] using hpos)
  | real q =>
    have hq : p ≤ |q| := h rfl
    have hzero : ¬(q = 0 ∨ c = 0) := by
      rintro (rfl | rfl)
      · rw [abs_zero] at hq
        linarith
      · exact hc rfl
    have hmul : mul (real q) (real c) = ofRat (q * c) := if_neg hzero
    rw [hmul]
    refine isFar_ofRat hr hrpos (hprod.trans ?_)
    rw [abs_mul]
    exact mul_le_mul_of_nonneg_right hq (abs_nonneg c)

theorem IsFar.div (h : number.IsFar p) (hpos : 0 < p) (hr : round53 r = r) (hrpos : 0 < r)
    (hc : c ≠ 0) (hquot : r * |c| ≤ p) : (div number (real c)).IsFar r := by
  cases number with
  | nan | infinite => exact isFar_of_not_finite rfl
  | negZero => exact absurd (h rfl) (by simpa [toRat] using hpos)
  | real q =>
    have hq : p ≤ |q| := h rfl
    have hzero : q ≠ 0 := by
      rintro rfl
      rw [abs_zero] at hq
      linarith
    rw [div_real hzero hc]
    refine isFar_ofRat hr hrpos ?_
    rw [abs_div, le_div_iff₀ (abs_pos.2 hc)]
    exact hquot.trans hq

theorem IsFar.floor {n : Nat} (h : number.IsFar n) : number.floor.IsFar n := by
  cases number with
  | nan | infinite | negZero => exact h
  | real q =>
    intro _
    have hq : (n : Rat) ≤ |q| := h rfl
    have hcast : (n : Int) ≤ |q.floor| := by
      rcases le_total 0 q with hsign | hsign
      · rw [abs_of_nonneg hsign] at hq
        exact (Rat.le_floor_iff.2 (by exact_mod_cast hq)).trans (le_abs_self _)
      · rw [abs_of_nonpos hsign] at hq
        have hfloor : (q.floor : Rat) ≤ -n := (Rat.floor_le q).trans (by linarith)
        exact (le_neg.1 (by exact_mod_cast hfloor)).trans (neg_le_abs _)
    rw [Number.floor, toRat]
    exact_mod_cast hcast

end CorpusForge.Number
