import CorpusForge.Proofs.Number.Grid
import CorpusForge.Proofs.Random.Drawing

/-!
# What is chosen

A whole number that is drawn from a range lies in it, a sample has as many items as were asked for,
and weights of which one is positive never refuse a draw.

* `Drawing.spread_natCast`: the numbers of a range;
* `Drawing.yields_int`, `Drawing.yields_within`: draws from it;
* `Drawing.yields_sample`: samples;
* `Drawing.isTotal_weightedIndex`: draws by weight.
-/

namespace CorpusForge

namespace Number

/-! ### Whole numbers -/

theorem isInteger_natCast (n : Nat) : (real n).isInteger = true := by
  simp [isInteger]

theorem floor_natCast (n : Nat) : (real n).floor = real n :=
  floor_of_isInteger (isInteger_natCast n)

theorem ceil_natCast (n : Nat) : (real n).ceil = real n := ceil_of_isInteger (isInteger_natCast n)

theorem lt_natCast_iff {m n : Nat} : (real m).lt (real n) = true ↔ m < n := by
  rw [lt_real_iff, Nat.cast_lt]

theorem le_natCast_iff {m n : Nat} : (real m).le (real n) = true ↔ m ≤ n := by
  rw [le_real_iff, Nat.cast_le]

theorem toInt_natCast (n : Nat) : (real n).toInt = n := (isCount_real n).toInt

theorem IsCount.steps {number : Number} {n : Nat} (h : number.IsCount n) : number.steps = n := by
  obtain ⟨hfinite, hn⟩ := h
  cases number with
  | nan | infinite => exact nomatch hfinite
  | negZero =>
    obtain rfl : n = 0 := by
      have hzero : (n : Rat) = 0 := hn.symm
      exact_mod_cast hzero
    rfl
  | real q =>
    obtain rfl : q = n := hn
    exact steps_natCast n

/-- As many things as a whole number says. -/
theorem upTo_natCast (m n : Nat) : (real m).upTo n = min m n := by
  rw [upTo]
  split
  next hmost =>
    rw [steps_natCast]
    exact (Nat.min_eq_left (atMost_natCast_iff.1 hmost)).symm
  next hnot =>
    rw [atMost_natCast_iff, not_le] at hnot
    exact (Nat.min_eq_right hnot.le).symm

theorem sub_natCast {m n : Nat} (hmn : m ≤ n) (hn : n ≤ 2 ^ 53) :
    real n - real m = real ((n - m : Nat) : Rat) := by
  rcases m.eq_zero_or_pos with rfl | hpos
  · rfl
  · have hcast : (n - m : Rat) = ((n - m : Nat) : Int) := by
      rw [Int.cast_natCast, Nat.cast_sub hmn]
    rw [real_sub_real _ (by exact_mod_cast hpos.ne'), hcast, ofRat_intCast (by omega),
      Int.cast_natCast]

theorem minimum_natCast {m n : Nat} (hm : 0 < m) (hn : 0 < n) :
    minimum (real m) (real n) = real ((min m n : Nat) : Rat) := by
  have hneg : ∀ k : Nat, 0 < k → neg (real k) = real (-k) := fun k hk =>
    neg_real (by exact_mod_cast hk.ne')
  have hback : ∀ k : Nat, 0 < k → neg (real (-k)) = real k := fun k hk => by
    rw [neg_real (by simpa using hk.ne'), neg_neg]
  rw [minimum, hneg m hm, hneg n hn, maximum, if_neg (by simp)]
  -- the greater one of the negated numbers is the lesser one
  rcases lt_trichotomy m n with h | rfl | h
  · have hnot : ¬(real (-m)).lt (real (-n)) = true := by
      rw [lt_real_iff, neg_lt_neg_iff, Nat.cast_lt]
      exact h.not_gt
    have hlt : (real (-n)).lt (real (-m)) = true := by
      rw [lt_real_iff, neg_lt_neg_iff, Nat.cast_lt]
      exact h
    rw [if_neg hnot, if_pos hlt, hback m hm, min_eq_left h.le]
  · have hnot : ¬(real (-m)).lt (real (-m)) = true := by
      rw [lt_real_iff]
      exact lt_irrefl _
    rw [if_neg hnot, if_neg hnot, if_neg (by simp), hback m hm, min_self]
  · have hlt : (real (-m)).lt (real (-n)) = true := by
      rw [lt_real_iff, neg_lt_neg_iff, Nat.cast_lt]
      exact h
    rw [if_pos hlt, hback n hn, min_eq_right h.le]

theorem maximum_one_natCast {n : Nat} (hn : 0 < n) : maximum 1 (real n) = real n := by
  have hone : (1 : Number) = real (1 : Nat) := rfl
  rw [hone, maximum, if_neg (by simp)]
  split
  next => rfl
  next hnot =>
    have hn1 : n = 1 := by
      rw [lt_natCast_iff] at hnot
      omega
    have hself : ¬(real ((1 : Nat) : Rat)).lt (real (1 : Nat)) = true := by
      rw [lt_natCast_iff]
      omega
    rw [hn1, if_neg hself, if_neg (by simp)]

theorem maximum_one_natCast_max (n : Nat) : maximum 1 (real n) = real ((max 1 n : Nat) : Rat) := by
  rcases n.eq_zero_or_pos with rfl | hpos
  · rfl
  · rw [maximum_one_natCast hpos, Nat.max_eq_right hpos]

end Number

namespace Drawing

variable {ε α : Type}

/-! ### Ranges -/

/-- A fraction of a whole number lies below it, also when it is rounded. -/
theorem exists_fraction_mul (u : UInt32) {width : Nat} (hpos : 0 < width)
    (hwidth : width ≤ 2 ^ 53) :
    ∃ q : Rat, 0 ≤ q ∧ q < width ∧ fraction u * Number.real width = .real q := by
  have hwide : (1 : Rat) ≤ width := by exact_mod_cast hpos
  rw [fraction, Number.real_mul_real]
  by_cases hzero : (u.toNat : Rat) / 4294967296 = 0 ∨ (width : Rat) = 0
  · have hu : ¬(u.toNat : Rat) / 4294967296 < 0 := not_lt.2 (by positivity)
    have hw : ¬(width : Rat) < 0 := not_lt.2 (by positivity)
    rw [if_pos hzero, decide_eq_false hu, decide_eq_false hw]
    exact ⟨0, le_rfl, by linarith, rfl⟩
  · -- the fraction falls short of one by more than the rounding can make up for
    obtain ⟨hu, -⟩ := not_or.1 hzero
    have hone : (1 : Rat) ≤ u.toNat := by
      have hne : u.toNat ≠ 0 := fun h => hu (by simp [h])
      exact_mod_cast Nat.one_le_iff_ne_zero.2 hne
    have hmost : (u.toNat : Rat) ≤ 4294967295 := by exact_mod_cast Nat.le_of_lt_succ u.toNat_lt
    have hless : (u.toNat : Rat) * width ≤ 4294967295 * width :=
      mul_le_mul_of_nonneg_right hmost (by linarith)
    have hmore : (1 : Rat) ≤ u.toNat * width := one_le_mul_of_one_le_of_one_le hone hwide
    rw [if_neg hzero]
    generalize hx : (u.toNat : Rat) / 4294967296 * width = x
    have hprod : x * 4294967296 = u.toNat * width := by
      rw [← hx]
      ring
    have hnormal : Number.pow2 (-1022) ≤ x := by
      calc Number.pow2 (-1022) ≤ Number.pow2 (-32) := Number.pow2_le_pow2 (by norm_num)
        _ = 1 / 4294967296 := by rw [Number.pow2, zpow_neg]; norm_num
        _ ≤ x := by linarith
    have hxpos : 0 < x := (Number.pow2_pos _).trans_le hnormal
    have hlt : Number.round53 x < width := by
      have hround := Number.round53_le hnormal
      linarith
    have hnonneg := Number.round53_nonneg hxpos.le
    have hfinite : Number.round53 x < Number.overflow := by
      refine Number.lt_overflow (hlt.le.trans ?_)
      exact_mod_cast hwidth.trans (by norm_num)
    refine ⟨Number.round53 x, hnonneg, hlt, ?_⟩
    rw [Number.ofRat, Number.abs_eq, abs_of_nonneg hnonneg, if_neg (not_le.2 hfinite),
      if_neg fun h => absurd h.2 (not_lt.2 hxpos.le)]

/-- The whole part of a fraction of a whole number. -/
theorem exists_floor_fraction_mul (u : UInt32) {width : Nat} (hpos : 0 < width)
    (hwidth : width ≤ 2 ^ 53) :
    ∃ n : Nat, n < width ∧ (fraction u * Number.real width).floor = .real n := by
  obtain ⟨q, hnonneg, hlt, hq⟩ := exists_fraction_mul u hpos hwidth
  have hfloor : 0 ≤ q.floor := Rat.le_floor_iff.2 (by exact_mod_cast hnonneg)
  have hbelow : (q.floor : Rat) < width := (Rat.floor_le q).trans_lt hlt
  have hbelow' : q.floor < width := by exact_mod_cast hbelow
  refine ⟨q.floor.toNat, by omega, ?_⟩
  rw [hq, Number.floor, ← Int.cast_natCast, Int.toNat_of_nonneg hfloor]

/-- A word stands for a whole number of the range. -/
theorem spread_natCast (u : UInt32) {low high : Nat} (hle : low ≤ high) (hhigh : high < 2 ^ 53) :
    ∃ n : Nat, low ≤ n ∧ n ≤ high ∧ spread u (.real low) (.real high) = .real n := by
  obtain ⟨n, hn, hfloor⟩ := @exists_floor_fraction_mul u (high - low + 1) (Nat.succ_pos _)
    (by omega)
  refine ⟨n + low, Nat.le_add_left _ _, by omega, ?_⟩
  have hadd := Number.add_intCast (m := n) (n := low) (by omega)
  push_cast at hadd
  rw [spread, Number.sub_natCast hle hhigh.le, Number.next_natCast (by omega), hfloor]
  push_cast
  exact hadd

/-- What is drawn from a range of whole numbers is one of them. -/
theorem yields_int {low high : Nat} (hle : low ≤ high) (hhigh : high < 2 ^ 53) :
    (int (.real low) (.real high)).Yields fun number =>
      ∃ n : Nat, low ≤ n ∧ n ≤ high ∧ number = .real n := by
  rw [int, Number.floor_natCast, Number.ceil_natCast]
  split
  next => exact yields_refuse _
  next => exact yields_bind_of_forall fun u => yields_pure (spread_natCast u hle hhigh)

theorem isTotal_int_natCast {low high : Nat} (hle : low ≤ high) :
    (int (.real low) (.real high)).IsTotal :=
  isTotal_int_of_le (Number.isInteger_natCast low) (Number.isInteger_natCast high)
    (Number.le_natCast_iff.2 hle)

theorem yields_within {low high : Nat} (hle : low ≤ high) (hhigh : high < 2 ^ 53) :
    (within low high : Drawing ε Int).Yields fun n : Int => low ≤ n ∧ n ≤ high := by
  refine yields_bind_of_forall fun u => yields_pure ?_
  have hlow : Number.ofInt low = .real low := Number.ofNat_eq (hle.trans hhigh.le)
  have hhigh' : Number.ofInt high = .real high := Number.ofNat_eq hhigh.le
  obtain ⟨n, hn, hn', hspread⟩ := spread_natCast u hle hhigh
  rw [hlow, hhigh', hspread, Number.toInt_natCast]
  omega

theorem isTotal_within (low high : Int) : (within low high : Drawing ε Int).IsTotal :=
  isTotal_word.bind fun _ => isTotal_pure _

/-! ### Samples -/

theorem length_exchange (items : List α) (i j : Nat) :
    (exchange items i j).length = items.length := by
  rw [exchange]
  split <;> simp

theorem isTotal_shuffle (rounds settled : Nat) (items : List α) :
    (shuffle rounds settled items : Drawing ε (List α)).IsTotal := by
  induction rounds generalizing settled items with
  | zero => exact isTotal_pure _
  | succ rounds ih => exact isTotal_word.bind fun _ => ih _ _

theorem yields_shuffle (rounds settled : Nat) (items : List α) :
    (shuffle rounds settled items : Drawing ε (List α)).Yields fun shuffled =>
      shuffled.length = items.length := by
  induction rounds generalizing settled items with
  | zero => exact yields_pure rfl
  | succ rounds ih =>
    refine yields_bind_of_forall fun u => ?_
    have hrest := ih (settled + 1)
      (exchange items settled (settled + indexOf u (items.length - settled)))
    rw [length_exchange] at hrest
    exact hrest

theorem isTotal_sample {items : List α} {count : Nat} (h : count ≤ items.length) :
    (sample items (.real count)).IsTotal := by
  rw [sample, if_neg (by rw [Number.lt_natCast_iff]; omega)]
  exact (isTotal_shuffle _ _ _).bind fun _ => isTotal_pure _

theorem cut_eq_take {number : Number} {n : Nat} (h : number.IsCount n) (items : List α) :
    cut number items = items.take n := by
  rw [cut, h.toInt, if_pos (Int.natCast_nonneg _), Int.toNat_natCast]

/-- A sample has as many items as were asked for. -/
theorem yields_sample {items : List α} {count : Nat} (h : count ≤ items.length) :
    (sample items (.real count)).Yields fun chosen => chosen.length = count := by
  rw [sample, if_neg (by rw [Number.lt_natCast_iff]; omega)]
  refine (yields_shuffle _ _ _).bind fun shuffled hshuffled => yields_pure ?_
  rw [cut_eq_take (Number.isCount_real count), List.length_take, hshuffled, min_eq_left h]

end Drawing

/-! ### Weights -/

namespace Number

/-- A number from `low` on, or the infinity. -/
def IsFrom (low : Rat) (n : Number) : Prop := n = .infinite false ∨ ∃ q, n = .real q ∧ low ≤ q

/-- A sum of numbers that are not negative is from where one of them is, when nothing from there on
    is rounded below it. -/
theorem IsFrom.add {low : Rat} (hlow : 0 ≤ low) (hround : ∀ q, low ≤ q → low ≤ round53 q)
    {a b : Number} (ha : a.IsFrom low) (hb : b.IsFrom 0) : (a + b).IsFrom low := by
  rcases ha with rfl | ⟨p, rfl, hp⟩
  · rcases hb with rfl | ⟨q, rfl, -⟩ <;> exact .inl rfl
  · rcases hb with rfl | ⟨q, rfl, hq⟩
    · exact .inl rfl
    · have hsum : low ≤ p + q := by linarith
      have hnot : ¬(p + q < 0) := by linarith
      have hadd : real p + real q = ofRat (p + q) := rfl
      rw [hadd, ofRat]
      split
      next => exact .inl (by rw [decide_eq_false hnot])
      next =>
        rw [if_neg fun h => hnot h.2]
        exact .inr ⟨_, rfl, hround _ hsum⟩

theorem IsFrom.add_comm {a b : Number} (ha : a.IsFrom 0) (hb : b.IsFrom 0) : a + b = b + a := by
  rcases ha with rfl | ⟨p, rfl, -⟩ <;> rcases hb with rfl | ⟨q, rfl, -⟩ <;> try rfl
  exact congrArg ofRat (Rat.add_comm p q)

theorem IsFrom.le_zero_eq_false {a : Number} (ha : a.IsFrom least) : a.le (real 0) = false := by
  rcases ha with rfl | ⟨q, rfl, hq⟩
  · rfl
  · rw [Bool.eq_false_iff, ne_eq, le_real_iff, not_le]
    exact least_pos.trans_le hq

end Number

namespace Drawing

open Number

/-- The share of a weight is not negative. -/
theorem isFrom_zero_share {weight : Number} (hweight : weight ≠ .nan) :
    (share weight).IsFrom 0 := by
  rw [share, maximum, if_neg (by simpa using hweight)]
  cases weight with
  | nan => exact absurd rfl hweight
  | infinite negative =>
    cases negative with
    | false => exact .inl rfl
    | true => exact .inr ⟨0, rfl, le_rfl⟩
  | negZero => exact .inr ⟨0, rfl, le_rfl⟩
  | real q =>
    split
    next hpos => exact .inr ⟨q, rfl, (lt_real_iff.1 hpos).le⟩
    next => split <;> exact .inr ⟨0, rfl, le_rfl⟩

/-- A weight that is not positive has no share. -/
theorem share_eq_zero {weight : Number} (hweight : weight ≠ .nan)
    (h : (real 0).lt weight = false) : share weight = .real 0 := by
  rw [share, maximum, if_neg (by simpa using hweight)]
  cases weight with
  | nan => exact absurd rfl hweight
  | infinite negative =>
    cases negative with
    | false => exact nomatch h
    | true => rfl
  | negZero => rfl
  | real q =>
    rw [if_neg (by simp [h])]
    split <;> rfl

/-- The share of a positive weight is the weight. -/
theorem isFrom_least_share {weight : Number} (hpos : (real 0).lt weight = true)
    (hgrid : weight.IsBinary64) : (share weight).IsFrom least := by
  cases weight with
  | nan | negZero => exact nomatch hpos
  | infinite negative =>
    cases negative with
    | false => exact .inl rfl
    | true => exact nomatch hpos
  | real q =>
    rw [share, maximum, if_neg (by simp), if_pos hpos]
    exact .inr ⟨q, rfl, least_le_of_isBinary64 (lt_real_iff.1 hpos) hgrid⟩

theorem isFrom_foldl_share {low : Rat} (hlow : 0 ≤ low)
    (hround : ∀ q, low ≤ q → low ≤ round53 q) {weights : List Number}
    (hweights : ∀ weight ∈ weights, weight ≠ .nan) {sum : Number} (hsum : sum.IsFrom low) :
    (weights.foldl (fun sum weight => sum + share weight) sum).IsFrom low := by
  induction weights generalizing sum with
  | nil => exact hsum
  | cons weight rest ih =>
    simp only [List.forall_mem_cons] at hweights
    exact ih hweights.2 (hsum.add hlow hround (isFrom_zero_share hweights.1))

/-- Of weights with a positive one, the sum is positive. -/
theorem isFrom_least_foldl_share {weights : List Number}
    (hweights : ∀ weight ∈ weights, weight ≠ .nan)
    (hpos : ∃ weight ∈ weights, (real 0).lt weight = true ∧ weight.IsBinary64) {sum : Number}
    (hsum : sum.IsFrom 0) :
    (weights.foldl (fun sum weight => sum + share weight) sum).IsFrom least := by
  induction weights generalizing sum with
  | nil =>
    obtain ⟨weight, hmem, -⟩ := hpos
    exact absurd hmem List.not_mem_nil
  | cons weight rest ih =>
    simp only [List.forall_mem_cons] at hweights
    have hshare := isFrom_zero_share hweights.1
    obtain ⟨positive, hmem, hlt, hgrid⟩ := hpos
    rcases List.mem_cons.1 hmem with rfl | hmem
    · -- from the positive weight on, the sum stays positive
      have hnext : (sum + share positive).IsFrom least := by
        rw [hsum.add_comm hshare]
        exact (isFrom_least_share hlt hgrid).add least_pos.le (fun _ => least_le_round53) hsum
      exact isFrom_foldl_share least_pos.le (fun _ => least_le_round53) hweights.2 hnext
    · exact ih hweights.2 ⟨positive, hmem, hlt, hgrid⟩
        (hsum.add le_rfl (fun _ => round53_nonneg) hshare)

/-- By weights of which one is positive, an index can be drawn. -/
theorem isTotal_weightedIndex {weights : List Number}
    (hweights : ∀ weight ∈ weights, weight ≠ .nan)
    (hpos : ∃ weight ∈ weights, (real 0).lt weight = true ∧ weight.IsBinary64) :
    (weightedIndex weights).IsTotal := by
  have hsum := isFrom_least_foldl_share hweights hpos (.inr ⟨0, rfl, le_rfl⟩)
  have hle := hsum.le_zero_eq_false
  rw [weightedIndex]
  simp only [hle, Bool.false_eq_true, if_false]
  exact isTotal_word.bind fun _ => isTotal_pure _

/-- Without a positive weight no index can be drawn. -/
theorem refuses_weightedIndex {weights : List Number}
    (hweights : ∀ weight ∈ weights, weight ≠ .nan ∧ (real 0).lt weight = false) :
    (weightedIndex weights).Refuses .noPositiveWeight := by
  have hsum : weights.foldl (fun sum weight => sum + share weight) (.real 0) = .real 0 := by
    induction weights with
    | nil => rfl
    | cons weight rest ih =>
      obtain ⟨⟨hweight, hnot⟩, hrest⟩ := List.forall_mem_cons.1 hweights
      have hzero : (real 0 : Number) + real 0 = real 0 := by decide +kernel
      rw [List.foldl_cons, share_eq_zero hweight hnot, hzero]
      exact ih hrest
  rw [weightedIndex, hsum]
  exact fun _ => rfl

end Drawing

end CorpusForge
