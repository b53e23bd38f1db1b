import Mathlib.Algebra.Order.Field.Rat
import Mathlib.Algebra.Order.Ring.Abs
import Mathlib.Data.Rat.Floor
import Mathlib.Tactic
import CorpusForge.Number.Basic

/-!
# Whole numbers

Up to `2 ^ 53` the binary64 grid holds every whole number, so counting and adding there is exact.

* `Number.round53_intCast`: such a number is not rounded;
* `Number.add_intCast`: nor is a sum of two of them;
* `Number.iterate_next`: counting by ones adds up;
* `Number.Denotes`: what finite numbers stand for, and how they are ordered and added.
-/

namespace CorpusForge.Number

/-! ### The grid -/

theorem abs_eq (q : Rat) : q.abs = |q| := by
  rw [Rat.abs]
  split
  · rw [abs_of_nonneg ‹_›]
  · rw [abs_of_neg (not_le.1 ‹_›)]

theorem abs_intCast (n : Int) : |(n : Rat)| = n.natAbs := by
  rw [← Int.cast_abs, Int.abs_eq_natAbs, Int.cast_natCast]

theorem pow2_natCast (n : Nat) : pow2 (n : Int) = ((2 ^ n : Nat) : Rat) := by
  rw [pow2, zpow_natCast]
  norm_cast

theorem magnitude_intCast {n : Int} (hn : n ≠ 0) : magnitude (n : Rat) = (n.natAbs.log2 : Int) := by
  have hlow : pow2 (n.natAbs.log2 : Int) ≤ |(n : Rat)| := by
    rw [pow2_natCast, abs_intCast, Nat.cast_le]
    exact Nat.log2_self_le (Int.natAbs_ne_zero.2 hn)
  have hone : Nat.log2 1 = 0 := rfl
  simp only [magnitude, Rat.num_intCast, Rat.den_intCast, hone, Nat.cast_zero, sub_zero, abs_eq]
  exact if_neg (not_lt.2 hlow)

/-- A multiple of the gap lies on the grid. -/
theorem round53_of_mul_gap {q : Rat} (m : Int) (hm : (m : Rat) * gap q = q) : round53 q = q := by
  rcases eq_or_ne q 0 with rfl | hq
  · simp [round53]
  have hgap : gap q ≠ 0 := fun h => hq (by rw [← hm, h, mul_zero])
  have hdiv : q / gap q = (m : Rat) := by rw [div_eq_iff hgap, hm]
  have heven : nearestEven (m : Rat) = m := by simp [nearestEven, Rat.floor_intCast]
  rw [round53, if_neg hq, hdiv, heven, hm]

/-- Whole numbers up to `2 ^ 53` lie on the grid. -/
theorem round53_intCast {n : Int} (hn : n.natAbs ≤ 2 ^ 53) : round53 (n : Rat) = n := by
  rcases eq_or_ne n 0 with rfl | hne
  · simp [round53]
  have hlog : n.natAbs.log2 ≤ 53 := by
    have := Nat.log2_self_le (Int.natAbs_ne_zero.2 hne)
    exact (Nat.pow_le_pow_iff_right (by norm_num)).1 (this.trans hn)
  rcases hlog.lt_or_eq with hlt | heq
  · -- The gap is a power of two with an exponent that is not positive.
    have hgap : gap (n : Rat) = ((2 : Rat) ^ (52 - n.natAbs.log2))⁻¹ := by
      rw [gap, magnitude_intCast hne, max_eq_left (by omega), pow2, ← zpow_natCast, ← zpow_neg]
      congr 1
      omega
    refine round53_of_mul_gap (n * 2 ^ (52 - n.natAbs.log2)) ?_
    rw [hgap]
    push_cast
    field_simp
  · -- Only the bound itself is as great as this, and it is even.
    have habs : n.natAbs = 2 ^ 53 := by
      have := Nat.log2_self_le (Int.natAbs_ne_zero.2 hne)
      rw [heq] at this
      exact le_antisymm hn this
    have hgap : gap (n : Rat) = 2 := by
      rw [gap, magnitude_intCast hne, heq, max_eq_left (by omega), pow2]
      norm_num
    refine round53_of_mul_gap (n / 2) ?_
    have hdvd : (2 : Int) ∣ n := Int.natAbs_dvd_natAbs.1 ⟨2 ^ 52, by rw [habs]; norm_num⟩
    rw [hgap, Int.cast_div hdvd (by norm_num)]
    norm_num

theorem round53_ofNat (n : Nat) [n.AtLeastTwo] (hn : n ≤ 2 ^ 53) :
    round53 (OfNat.ofNat n) = OfNat.ofNat n := by
  have hround := round53_intCast (n := n) (by omega)
  exact_mod_cast hround

/-- Numbers of up to 54 bits are not too large. -/
theorem lt_overflow {q : Rat} (hq : q ≤ 2 ^ 54) : q < overflow :=
  calc q ≤ pow2 (54 : Nat) := by rw [pow2_natCast]; exact_mod_cast hq
    _ < overflow := zpow_lt_zpow_right₀ (by norm_num) (by norm_num)

theorem ofRat_intCast {n : Int} (hn : n.natAbs ≤ 2 ^ 53) : ofRat (n : Rat) = .real n := by
  have hsmall : |(n : Rat)| < overflow := by
    rw [abs_intCast]
    exact lt_overflow (by exact_mod_cast hn.trans (by norm_num))
  have hzero : ¬((n : Rat) = 0 ∧ (n : Rat) < 0) := fun h => absurd h.1 h.2.ne
  rw [ofRat, round53_intCast hn, abs_eq, if_neg (not_le.2 hsmall), if_neg hzero]

/-! ### Sums and counts -/

theorem add_intCast {m n : Int} (h : (m + n).natAbs ≤ 2 ^ 53) :
    add (.real m) (.real n) = .real ((m + n : Int) : Rat) := by
  rw [add, ← Int.cast_add, ofRat_intCast h]

theorem ofNat_eq {n : Nat} (hn : n ≤ 2 ^ 53) : ofNat n = real n := by
  have habs : (n : Int).natAbs ≤ 9007199254740992 := by simpa using hn
  rw [ofNat, ofInt, if_pos habs, Int.cast_natCast]

theorem next_natCast {n : Nat} (hn : n < 2 ^ 53) :
    next (.real n) = .real ((n + 1 : Nat) : Rat) := by
  have h := add_intCast (m := n) (n := 1) (by omega)
  simpa [next] using h

/-- Counting `k` steps by ones adds `k`, as long as the end is at most `2 ^ 53`. -/
theorem iterate_next {n k : Nat} (h : n + k ≤ 2 ^ 53) :
    next^[k] (.real n) = .real ((n + k : Nat) : Rat) := by
  induction k with
  | zero => rfl
  | succ k ih =>
    rw [Function.iterate_succ_apply', ih (by omega), next_natCast (by omega)]
    rfl

/-- The negative zero is counted from like the positive one. -/
theorem next_negZero : next .negZero = .real 1 := rfl

/-! ### Whole numbers -/

theorem isFinite_of_isInteger {n : Number} (h : n.isInteger = true) : n.isFinite = true := by
  cases n <;> first | rfl | exact nomatch h

theorem exists_intCast_of_isInteger {q : Rat} (h : (real q).isInteger = true) :
    ∃ m : Int, q = m := by
  have hden : q.den = 1 := by simpa [isInteger] using h
  exact ⟨q.num, (Rat.coe_int_num_of_den_eq_one hden).symm⟩

theorem floor_of_isInteger {n : Number} (h : n.isInteger = true) : n.floor = n := by
  cases n with
  | nan | infinite => exact nomatch h
  | negZero => rfl
  | real q =>
    obtain ⟨m, rfl⟩ := exists_intCast_of_isInteger h
    rw [floor, Rat.floor_intCast]

theorem ceil_of_isInteger {n : Number} (h : n.isInteger = true) : n.ceil = n := by
  cases n with
  | nan | infinite => exact nomatch h
  | negZero => rfl
  | real q =>
    obtain ⟨m, rfl⟩ := exists_intCast_of_isInteger h
    -- between minus one and zero the ceiling is the negative zero, but no whole number lies there
    have hgap : ¬((m : Rat) < 0 ∧ -1 < (m : Rat)) := by
      rintro ⟨hneg, habove⟩
      have hneg' : m < 0 := by exact_mod_cast hneg
      have habove' : -1 < m := by exact_mod_cast habove
      omega
    rw [ceil, if_neg hgap, Rat.ceil_intCast]

/-! ### Counts -/

/-- A whole number that is not below zero. The negative zero is one. -/
def IsCount (number : Number) (n : Nat) : Prop := number.isFinite = true ∧ number.toRat = n

theorem isCount_real (n : Nat) : (real n).IsCount n := ⟨rfl, rfl⟩

theorem IsCount.unique {number : Number} {m n : Nat} (h : number.IsCount m)
    (h' : number.IsCount n) : m = n := by
  exact_mod_cast h.2.symm.trans h'.2

theorem floor_toRat_natCast (n : Nat) : (n : Rat).floor = n := by
  rw [← Int.cast_natCast, Rat.floor_intCast]

theorem IsCount.toInt {number : Number} {n : Nat} (h : number.IsCount n) : number.toInt = n := by
  have hneg : ¬number.toRat < 0 := by
    rw [h.2]
    exact not_lt.2 (Nat.cast_nonneg n)
  rw [Number.toInt, if_neg hneg, h.2, floor_toRat_natCast]

/-- Counting on is exact as far as numbers are. -/
theorem IsCount.iterate_next {number : Number} {n : Nat} (h : number.IsCount n) {k : Nat}
    (hk : n + k ≤ 2 ^ 53) : (next^[k] number).IsCount (n + k) := by
  obtain ⟨hfinite, hn⟩ := h
  cases number with
  | nan | infinite => exact nomatch hfinite
  | negZero =>
    obtain rfl : n = 0 := by
      have hzero : (n : Rat) = 0 := hn.symm
      exact_mod_cast hzero
    -- the first step leaves the negative zero, and the others count from one
    cases k with
    | zero => exact ⟨rfl, hn⟩
    | succ k =>
      have hone : (real 1 : Number) = real (1 : Nat) := rfl
      rw [Function.iterate_succ_apply, next_negZero, hone, Number.iterate_next (by omega),
        Nat.zero_add, Nat.add_comm]
      exact isCount_real _
  | real q =>
    obtain rfl : q = n := hn
    rw [Number.iterate_next hk]
    exact isCount_real _

/-- Counting on from the last exact number stays there. -/
theorem next_of_isCount_top {number : Number} (h : number.IsCount (2 ^ 53)) :
    number.next.IsCount (2 ^ 53) := by
  obtain ⟨hfinite, htop⟩ := h
  cases number with
  | nan | infinite => exact nomatch hfinite
  | negZero => exact absurd htop (by simp [toRat])
  | real q =>
    obtain rfl : q = ((2 ^ 53 : Nat) : Rat) := htop
    have hnext : next (real ((2 ^ 53 : Nat) : Rat)) = real ((2 ^ 53 : Nat) : Rat) := by
      decide +kernel
    rw [hnext]
    exact isCount_real _

/-- Counting on is exact up to `2 ^ 53`, and gets no further. -/
theorem IsCount.iterate_next_min {number : Number} {n : Nat} (h : number.IsCount n)
    (hn : n ≤ 2 ^ 53) (k : Nat) : (next^[k] number).IsCount (min (n + k) (2 ^ 53)) := by
  by_cases hk : n + k ≤ 2 ^ 53
  · rw [min_eq_left hk]
    exact h.iterate_next hk
  · -- the steps after the last exact number change nothing
    obtain ⟨more, rfl⟩ : ∃ more, k = more + (2 ^ 53 - n) := ⟨k - (2 ^ 53 - n), by omega⟩
    rw [min_eq_right (by omega), Function.iterate_add_apply]
    have htop : (next^[2 ^ 53 - n] number).IsCount (2 ^ 53) := by
      have hcount := h.iterate_next (k := 2 ^ 53 - n) (by omega)
      rwa [Nat.add_sub_cancel' hn] at hcount
    clear hk
    induction more with
    | zero => exact htop
    | succ more ih =>
      rw [Function.iterate_succ_apply']
      exact next_of_isCount_top ih

/-! ### Order -/

theorem lt_real_iff {p q : Rat} : (real p).lt (real q) = true ↔ p < q := by
  simp only [lt, toRat]
  exact decide_eq_true_iff

theorem le_real_iff {p q : Rat} : (real p).le (real q) = true ↔ p ≤ q := by
  simp only [le, eq, Bool.or_eq_true, Bool.and_eq_true, Bool.not_eq_true', Bool.eq_false_iff,
    ne_eq, lt_real_iff]
  constructor
  · rintro (h | ⟨-, h⟩)
    · exact h.le
    · exact not_lt.1 h
  · intro h
    exact h.lt_or_eq.imp id fun he => ⟨he.not_lt, he.symm.not_lt⟩

/-- Finite numbers are ordered like what they denote. -/
theorem lt_eq_of_isFinite {a b : Number} (ha : a.isFinite = true) (hb : b.isFinite = true) :
    a.lt b = decide (a.toRat < b.toRat) := by
  cases a <;> cases b <;> simp_all [isFinite, lt]

theorem eq_eq_of_isFinite {a b : Number} (ha : a.isFinite = true) (hb : b.isFinite = true) :
    a.eq b = (!a.lt b && !b.lt a) := by
  cases a <;> cases b <;> simp_all [isFinite, eq]

theorem IsCount.lt_of_lt {a b : Number} {m n : Nat} (ha : a.IsCount m) (hb : b.IsCount n)
    (h : m < n) : a.lt b = true := by
  rw [lt_eq_of_isFinite ha.1 hb.1, ha.2, hb.2, decide_eq_true_eq]
  exact_mod_cast h

theorem lt_eq_false_of_le {a b : Number} (ha : a.isFinite = true) (hb : b.isFinite = true)
    (h : a.le b = true) : b.lt a = false := by
  -- among finite numbers, equal ones are those of which neither is less
  rw [lt_eq_of_isFinite hb ha, decide_eq_false_iff_not, not_lt]
  rw [le, eq_eq_of_isFinite ha hb, lt_eq_of_isFinite ha hb, lt_eq_of_isFinite hb ha] at h
  simp only [Bool.or_eq_true, Bool.and_eq_true, Bool.not_eq_true', decide_eq_true_eq,
    decide_eq_false_iff_not, not_lt] at h
  exact h.elim le_of_lt And.right

theorem atMost_real_iff {q : Rat} {n : Nat} : (real q).atMost n = true ↔ q ≤ n := le_real_iff

theorem atMost_natCast_iff {m n : Nat} : (real m).atMost n = true ↔ m ≤ n := by
  rw [atMost_real_iff, Nat.cast_le]

/-- What is at most a count is at most a greater one. -/
theorem atMost_mono {number : Number} {m n : Nat} (hmn : m ≤ n) (h : number.atMost m = true) :
    number.atMost n = true := by
  have hcast : (m : Rat) ≤ n := by exact_mod_cast hmn
  cases number with
  | nan => exact h
  | infinite negative => cases negative <;> simp_all [atMost, le, lt, eq]
  | negZero => exact le_real_iff.2 ((le_real_iff.1 h).trans hcast)
  | real q => exact atMost_real_iff.2 ((atMost_real_iff.1 h).trans hcast)

theorem atMost_eq_false_of_le {number : Number} {m n : Nat} (hmn : m ≤ n)
    (h : number.atMost n = false) : number.atMost m = false := by
  by_contra hm
  exact absurd (atMost_mono hmn (by simpa using hm)) (by simp [h])

/-- What is above a rational is above a lesser one. -/
theorem lt_of_real_lt {number : Number} {p q : Rat} (hpq : p ≤ q)
    (h : (real q).lt number = true) : (real p).lt number = true := by
  cases number with
  | nan => exact nomatch h
  | infinite negative => cases negative <;> exact h
  | negZero => exact decide_eq_true (hpq.trans_lt (of_decide_eq_true h))
  | real r => exact lt_real_iff.2 (hpq.trans_lt (lt_real_iff.1 h))

theorem steps_real {q : Rat} (hq : 0 ≤ q) : (real q).steps = q.ceil.toNat := by
  rw [steps, ceil, if_neg fun hneg => absurd hneg.1 (not_lt.2 hq)]
  simp only [toRat, Rat.floor_intCast]

theorem steps_natCast (n : Nat) : (real n).steps = n := by
  rw [steps_real (Nat.cast_nonneg n), ← Int.cast_natCast, Rat.ceil_intCast, Int.toNat_natCast]

/-- What a number is above is among as many things as the number says. -/
theorem lt_upTo {number : Number} {k n : Nat} (hkn : k < n)
    (h : (real k).lt number = true) : k < number.upTo n := by
  rw [upTo]
  split
  next hmost =>
    cases number with
    | nan => exact nomatch h
    | negZero =>
      have hneg : (k : Rat) < 0 := of_decide_eq_true h
      exact absurd hneg (not_lt.2 (Nat.cast_nonneg k))
    | infinite negative => cases negative <;> simp_all [lt, atMost, le, eq]
    | real q =>
      -- the count goes on to the least whole number that is not below this one
      have hq : (k : Rat) < q := lt_real_iff.1 h
      have hceil : (k : Int) < q.ceil := by
        have hlt : (k : Rat) < q.ceil := hq.trans_le Rat.le_ceil
        exact_mod_cast hlt
      have hpos : (0 : Rat) ≤ k := Nat.cast_nonneg k
      rw [steps_real (hpos.trans hq.le)]
      omega
  next => exact hkn

/-- A number that is not below one is not at most zero. -/
theorem atMost_zero_of_not_lt_one {number : Number} (h : number.lt 1 = false) :
    number.atMost 0 = false := by
  have hone : (1 : Number) = real 1 := rfl
  rw [hone] at h
  cases number with
  | nan => rfl
  | infinite negative => cases negative <;> simp_all [lt, atMost, le, eq]
  | negZero => exact absurd h (by decide)
  | real q =>
    rw [Bool.eq_false_iff, ne_eq, lt_real_iff] at h
    rw [Bool.eq_false_iff, ne_eq, atMost_real_iff, Nat.cast_zero]
    linarith

/-! ### What is denoted -/

/-- The rational that a finite number denotes. Both zeros denote zero. -/
def Denotes (number : Number) (q : Rat) : Prop := number.isFinite = true ∧ number.toRat = q

/-- A number from zero to one. -/
def IsProbability (number : Number) : Prop := ∃ q, number.Denotes q ∧ 0 ≤ q ∧ q ≤ 1

theorem isInteger_iff {number : Number} :
    number.isInteger = true ↔ ∃ k : Int, number.Denotes k := by
  constructor
  · intro h
    cases number with
    | nan | infinite => simp [isInteger] at h
    | negZero => exact ⟨0, rfl, by simp [toRat]⟩
    | real q =>
      obtain ⟨k, rfl⟩ := exists_intCast_of_isInteger h
      exact ⟨k, rfl, rfl⟩
  · rintro ⟨k, hfinite, hk⟩
    cases number with
    | nan | infinite => simp [isFinite] at hfinite
    | negZero => rfl
    | real q =>
      obtain rfl : q = k := hk
      simp [isInteger]

theorem denotes_ofInt {k : Int} (hk : k.natAbs ≤ 2 ^ 53) : (ofInt k).Denotes k := by
  have habs : k.natAbs ≤ 9007199254740992 := by simpa using hk
  rw [ofInt, if_pos habs]
  exact ⟨rfl, rfl⟩

variable {a b : Number} {p q : Rat}

theorem Denotes.lt_iff (ha : a.Denotes p) (hb : b.Denotes q) : a.lt b = true ↔ p < q := by
  rw [lt_eq_of_isFinite ha.1 hb.1, ha.2, hb.2, decide_eq_true_eq]

theorem Denotes.eq_iff (ha : a.Denotes p) (hb : b.Denotes q) : a.eq b = true ↔ p = q := by
  rw [eq_eq_of_isFinite ha.1 hb.1, Bool.and_eq_true, Bool.not_eq_true', Bool.not_eq_true',
    Bool.eq_false_iff, Bool.eq_false_iff, ne_eq, ne_eq, ha.lt_iff hb, hb.lt_iff ha, not_lt, not_lt]
  exact ⟨fun h => le_antisymm h.2 h.1, fun h => ⟨h.ge, h.le⟩⟩

theorem Denotes.le_iff (ha : a.Denotes p) (hb : b.Denotes q) : a.le b = true ↔ p ≤ q := by
  rw [le, eq_eq_of_isFinite ha.1 hb.1, Bool.or_eq_true, Bool.and_eq_true, Bool.not_eq_true',
    Bool.not_eq_true', Bool.eq_false_iff, Bool.eq_false_iff, ne_eq, ne_eq, ha.lt_iff hb,
    hb.lt_iff ha]
  constructor
  · rintro (hlt | ⟨-, hle⟩)
    · exact hlt.le
    · exact not_lt.1 hle
  · intro hle
    exact hle.lt_or_eq.imp id fun heq => ⟨heq.not_lt, heq.symm.not_lt⟩

theorem Denotes.not_lt_iff {m n : Int} (ha : a.Denotes m) (hb : b.Denotes n) :
    (!b.lt a) = true ↔ m ≤ n := by
  rw [Bool.not_eq_true', Bool.eq_false_iff, ne_eq, hb.lt_iff ha, not_lt, Int.cast_le]

/-- Only zero is denoted by two numbers. -/
theorem Denotes.eq_real (h : a.Denotes q) (hq : q ≠ 0) : a = real q := by
  obtain ⟨hfinite, rfl⟩ := h
  cases a with
  | nan | infinite => exact nomatch hfinite
  | negZero => exact absurd rfl hq
  | real q => rfl

/-- The sum of two exact whole numbers; a zero of either sign adds nothing. -/
theorem Denotes.real_add {m n : Int} (hb : b.Denotes n) (h : (m + n).natAbs ≤ 2 ^ 53) :
    real m + b = real (m + n : Int) := by
  obtain ⟨hfinite, hn⟩ := hb
  cases b with
  | nan | infinite => exact nomatch hfinite
  | negZero =>
    obtain rfl : n = 0 := by
      have hzero : (0 : Rat) = n := hn
      exact_mod_cast hzero.symm
    rw [add_zero]
    rfl
  | real q =>
    obtain rfl : q = n := hn
    exact add_intCast h

theorem Denotes.add {m n : Int} (ha : a.Denotes m) (hb : b.Denotes n)
    (h : (m + n).natAbs ≤ 2 ^ 53) : (a + b).Denotes (m + n : Int) := by
  obtain ⟨hfinite, hm⟩ := ha
  cases a with
  | nan | infinite => exact nomatch hfinite
  | negZero =>
    obtain rfl : m = 0 := by
      have hzero : (0 : Rat) = m := hm
      exact_mod_cast hzero.symm
    rw [zero_add]
    cases b with
    | nan | infinite => exact nomatch hb.1
    | negZero | real => exact hb
  | real p =>
    obtain rfl : p = m := hm
    rw [hb.real_add h]
    exact ⟨rfl, rfl⟩

end CorpusForge.Number
