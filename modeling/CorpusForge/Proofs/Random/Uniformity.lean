import Mathlib.Algebra.Order.Floor.Div
import Mathlib.Data.FinEnum
import CorpusForge.Proofs.Random.Choices

/-!
# How evenly whole numbers are drawn

A word stands for a fraction of a range, and the whole part of it is drawn. In a range of at most
`2 ^ 21` whole numbers none of this is rounded (`Drawing.spread_eq`), so the words that stand for
one of the numbers are those of an interval (`Drawing.filter_mul_div_eq`), and all these intervals
are of one length, up to one word (`Drawing.draws_evenly`).
-/

namespace CorpusForge

namespace Drawing

/-! ### Indexes -/

variable {u : UInt32} {width v : Nat}

/-- A product with a word keeps within 53 bits when the other factor has 21. -/
theorem toNat_mul_lt (u : UInt32) (hwidth : width ≤ 2 ^ 21) : u.toNat * width < 2 ^ 53 := by
  have hu : u.toNat ≤ 2 ^ 32 - 1 := Nat.le_of_lt_succ u.toNat_lt
  calc u.toNat * width ≤ (2 ^ 32 - 1) * 2 ^ 21 := Nat.mul_le_mul hu hwidth
    _ < 2 ^ 53 := by norm_num

theorem indexOf_eq (u : UInt32) (hwidth : width ≤ 2 ^ 21) :
    indexOf u width = u.toNat * width / 2 ^ 32 := by
  have hpow : (4294967296 : Nat) = 2 ^ 32 := by norm_num
  rw [indexOf, Gen.roundCounter_of_le (toNat_mul_lt u hwidth).le, hpow]

/-- A fraction of a width is exact when the product has 53 bits. -/
theorem fraction_mul_eq (h : u.toNat * width < 2 ^ 53) :
    fraction u * Number.real width = .real ((u.toNat * width : Nat) / (2 ^ 32 : Nat)) := by
  have hpow : (4294967296 : Rat) = (2 ^ 32 : Nat) := by norm_num
  rw [fraction, Number.real_mul_real, hpow]
  split
  next hzero =>
    have hprod : u.toNat * width = 0 := by
      simpa using hzero
    have hsign : ∀ n : Nat, ¬(n : Rat) < 0 := fun n => not_lt.2 (Nat.cast_nonneg n)
    rw [hprod, decide_eq_false (hsign width), decide_eq_false]
    · rw [Nat.cast_zero, zero_div]
      rfl
    · exact not_lt.2 (by positivity)
  next =>
    have hgrid := Number.round53_mul_pow2 (n := (u.toNat * width : Nat)) (e := -32)
      (by rwa [Int.natAbs_natCast]) (by norm_num)
    have hvalue : (((u.toNat * width : Nat) : Int) : Rat) * Number.pow2 (-32) =
        (u.toNat * width : Nat) / (2 ^ 32 : Nat) := by
      rw [Int.cast_natCast, Number.pow2, zpow_neg, div_eq_mul_inv]
      norm_num
    have hfactor : (u.toNat : Rat) / (2 ^ 32 : Nat) * width =
        (u.toNat * width : Nat) / (2 ^ 32 : Nat) := by
      rw [Nat.cast_mul]
      ring
    rw [hvalue] at hgrid
    rw [hfactor]
    refine Number.ofRat_of_round53 hgrid ?_
    rw [abs_of_nonneg (by positivity)]
    refine Number.lt_overflow ?_
    calc ((u.toNat * width : Nat) : Rat) / (2 ^ 32 : Nat) ≤ (u.toNat * width : Nat) :=
          div_le_self (Nat.cast_nonneg _) (by norm_num)
      _ ≤ 2 ^ 54 := by exact_mod_cast h.le.trans (by norm_num)

/-- The whole part of a fraction of a width is the index that the word stands for. -/
theorem floor_fraction_mul (u : UInt32) (hwidth : width ≤ 2 ^ 21) :
    (fraction u * Number.real width).floor = .real (indexOf u width) := by
  have hfloor := Rat.floor_intCast_div_natCast (u.toNat * width : Nat) (2 ^ 32)
  rw [Int.cast_natCast] at hfloor
  rw [fraction_mul_eq (toNat_mul_lt u hwidth), Number.floor, indexOf_eq u hwidth]
  refine congrArg Number.real ?_
  rw [← Int.cast_natCast (u.toNat * width / 2 ^ 32), Int.natCast_ediv]
  exact congrArg Int.cast hfloor

/-! ### Counts -/

/-- Words are counted like the numbers below `2 ^ 32`. -/
theorem card_filter_toNat (p : Nat → Prop) [DecidablePred p] :
    (Finset.univ.filter fun u : UInt32 => p u.toNat).card =
      ((Finset.range (2 ^ 32)).filter p).card := by
  refine Finset.card_bij (fun u _ => u.toNat) (fun u hu => ?_) (fun u _ v _ => UInt32.toNat_inj.1)
    fun n hn => ?_
  · rw [Finset.mem_filter, Finset.mem_range]
    exact ⟨u.toNat_lt, (Finset.mem_filter.1 hu).2⟩
  · obtain ⟨hlt, hp⟩ := Finset.mem_filter.1 hn
    have hword : (UInt32.ofNat n).toNat = n :=
      UInt32.toNat_ofNat_of_lt' (Finset.mem_range.1 hlt)
    exact ⟨UInt32.ofNat n, Finset.mem_filter.2 ⟨Finset.mem_univ _, by rwa [hword]⟩, hword⟩

/-- The numbers whose share of a width has a given whole part are those of an interval. -/
theorem filter_mul_div_eq {size : Nat} (hv : v < width) :
    ((Finset.range size).filter fun n => n * width / size = v) =
      Finset.Ico ((v * size) ⌈/⌉ width) (((v + 1) * size) ⌈/⌉ width) := by
  ext n
  have hpos : 0 < width := by omega
  have hfrom : (v * size) ⌈/⌉ width ≤ n ↔ v * size ≤ n * width := by
    rw [ceilDiv_le_iff_le_mul hpos, Nat.mul_comm width]
  have hto : n < ((v + 1) * size) ⌈/⌉ width ↔ n * width < (v + 1) * size := by
    rw [← not_le, ceilDiv_le_iff_le_mul hpos, not_le, Nat.mul_comm width]
  rw [Finset.mem_filter, Finset.mem_range, Finset.mem_Ico, hfrom, hto]
  constructor
  · rintro ⟨hn, rfl⟩
    exact ⟨Nat.div_mul_le_self _ _, Nat.lt_mul_of_div_lt (Nat.lt_succ_self _) (by omega)⟩
  · rintro ⟨hleast, hmost⟩
    have hsize : (v + 1) * size ≤ width * size := Nat.mul_le_mul_right _ hv
    have hn : n < size := by
      refine Nat.lt_of_mul_lt_mul_right (a := width) (hmost.trans_le ?_)
      rwa [Nat.mul_comm size]
    exact ⟨hn, Nat.div_eq_of_lt_le hleast hmost⟩

/-- Marks that lie one share of the whole apart are, when they are rounded up, apart by the share
    rounded down or up. -/
theorem ceilDiv_sub_ceilDiv (size v : Nat) (hpos : 0 < width) :
    ((v + 1) * size) ⌈/⌉ width - (v * size) ⌈/⌉ width = size / width ∨
      ((v + 1) * size) ⌈/⌉ width - (v * size) ⌈/⌉ width = size ⌈/⌉ width := by
  have hleast : ∀ k, k ≤ width * (k ⌈/⌉ width) := fun k => (ceilDiv_le_iff_le_mul hpos).1 le_rfl
  have hmost : ∀ k, width * (k ⌈/⌉ width) < k + width := fun k => by
    have hceil := Nat.mul_div_le (k + width - 1) width
    rw [Nat.ceilDiv_eq_add_pred_div]
    omega
  have hfrom_least := hleast (v * size)
  have hfrom_most := hmost (v * size)
  have hto_least := hleast ((v + 1) * size)
  have hto_most := hmost ((v + 1) * size)
  generalize (v * size) ⌈/⌉ width = first at *
  generalize ((v + 1) * size) ⌈/⌉ width = last at *
  rw [Nat.succ_mul] at hto_least hto_most
  -- the distance, times the width, is the whole up to less than one width
  have hdown : size / width ≤ last - first := by
    rw [← Nat.lt_succ_iff, Nat.div_lt_iff_lt_mul hpos, Nat.mul_comm, Nat.mul_succ, Nat.mul_sub]
    omega
  have hup : last - first ≤ size ⌈/⌉ width := by
    refine Nat.le_of_lt_succ (Nat.lt_of_mul_lt_mul_left (a := width) ?_)
    have := hleast size
    rw [Nat.mul_succ, Nat.mul_sub]
    omega
  have hnear : size ⌈/⌉ width ≤ size / width + 1 := by
    refine (ceilDiv_le_iff_le_mul hpos).2 ?_
    exact (Nat.lt_mul_div_succ size hpos).le
  omega

/-- As many words stand for one index as for another, up to one. -/
theorem card_indexOf_eq (hv : v < width) (hwidth : width ≤ 2 ^ 21) :
    (Finset.univ.filter fun u => indexOf u width = v).card = 2 ^ 32 / width ∨
      (Finset.univ.filter fun u => indexOf u width = v).card = 2 ^ 32 ⌈/⌉ width := by
  simp only [indexOf_eq _ hwidth]
  rw [card_filter_toNat fun n => n * width / 2 ^ 32 = v, filter_mul_div_eq hv, Nat.card_Ico]
  exact ceilDiv_sub_ceilDiv _ _ (by omega)

/-- Every index is that of some word. -/
theorem exists_indexOf_eq (hv : v < width) (hwidth : width ≤ 2 ^ 21) :
    ∃ u, indexOf u width = v := by
  have hpos : 0 < width := by omega
  have hshare : 0 < 2 ^ 32 / width := Nat.div_pos (hwidth.trans (by norm_num)) hpos
  have hceil : 0 < 2 ^ 32 ⌈/⌉ width := by
    rw [Nat.ceilDiv_eq_add_pred_div]
    exact Nat.div_pos (by omega) hpos
  have hcard : 0 < (Finset.univ.filter fun u => indexOf u width = v).card := by
    rcases card_indexOf_eq hv hwidth with h | h <;> rw [h] <;> assumption
  obtain ⟨u, hu⟩ := Finset.card_pos.1 hcard
  exact ⟨u, (Finset.mem_filter.1 hu).2⟩

/-! ### Ranges -/

variable {low high : Number} {a b : Int}

/-- The whole number of a range that a word stands for is found by its index. -/
theorem spread_eq (hlow : low.Denotes a) (hhigh : high.Denotes b) (hle : a ≤ b)
    (hspan : b - a + 1 ≤ 2 ^ 21) (hb : b.natAbs < 2 ^ 52) (u : UInt32) :
    spread u low high = .real (a + indexOf u (b - a + 1).toNat : Int) := by
  obtain ⟨width, hwidth⟩ : ∃ width : Nat, b - a + 1 = width := ⟨(b - a + 1).toNat, by omega⟩
  have hdifference : (high - low).Denotes (b - a : Int) := by
    have hsum := hhigh.add (b := low.neg) (n := -a) (by exact_mod_cast hlow.neg) (by omega)
    rwa [← sub_eq_add_neg] at hsum
  have hcount : (high - low).next = .real width := by
    have hone : (Number.real 1).Denotes (1 : Int) := ⟨rfl, Int.cast_one.symm⟩
    have hnext : ((high - low) + .real 1).Denotes (b - a + 1 : Int) :=
      hdifference.add hone (by omega)
    rw [hwidth, Int.cast_natCast] at hnext
    have hpos : width ≠ 0 := by omega
    exact hnext.eq_real (by exact_mod_cast hpos)
  have hpos : 0 < width := by omega
  have hbelow := indexOf_lt u hpos
  rw [spread, hcount, floor_fraction_mul u (by omega), hwidth, Int.toNat_natCast,
    ← Int.cast_natCast, hlow.real_add (by omega), Int.add_comm]

/-- From a range of at most `2 ^ 21` whole numbers, one of them is drawn by the next word; and of
    the `2 ^ 32` words, each of the numbers has its share, rounded down or up. -/
theorem draws_evenly (hlow : low.Denotes a) (hhigh : high.Denotes b) (hle : a ≤ b)
    (hspan : b - a + 1 ≤ 2 ^ 21) (hb : b.natAbs < 2 ^ 52) :
    (∀ g, (int low high).run g = (.ok (spread g.word low.ceil high.floor), g.advance)) ∧
    (∀ u, ∃ v : Int, a ≤ v ∧ v ≤ b ∧ spread u low.ceil high.floor = .real v) ∧
    ∀ v : Int, a ≤ v → v ≤ b →
      (Finset.univ.filter fun u => spread u low.ceil high.floor = .real v).card =
          2 ^ 32 / (b - a + 1).toNat ∨
        (Finset.univ.filter fun u => spread u low.ceil high.floor = .real v).card =
          2 ^ 32 ⌈/⌉ (b - a + 1).toNat := by
  have hceil : low.ceil = low := Number.ceil_of_isInteger (Number.isInteger_iff.2 ⟨a, hlow⟩)
  have hfloor : high.floor = high := Number.floor_of_isInteger (Number.isInteger_iff.2 ⟨b, hhigh⟩)
  have hrange : high.floor.lt low.ceil = false := by
    rw [hfloor, hceil, Bool.eq_false_iff, ne_eq, hhigh.lt_iff hlow, not_lt]
    exact_mod_cast hle
  have hspread := spread_eq hlow hhigh hle hspan hb
  refine ⟨run_int hrange, fun u => ?_, fun v hav hvb => ?_⟩
  · have hpos : 0 < (b - a + 1).toNat := by omega
    have hindex := indexOf_lt u hpos
    rw [hceil, hfloor]
    exact ⟨_, by omega, by omega, hspread u⟩
  · obtain ⟨k, rfl⟩ : ∃ k : Nat, v = a + k := ⟨(v - a).toNat, by omega⟩
    have hindex : ∀ u, spread u low.ceil high.floor = .real (a + k : Int) ↔
        indexOf u (b - a + 1).toNat = k := fun u => by
      rw [hceil, hfloor, hspread, Number.real.injEq, Int.cast_inj]
      omega
    simp only [hindex]
    exact card_indexOf_eq (by omega) (by omega)

/-- Seven numbers, on both sides of zero. -/
theorem draws_evenly_seven :
    let low : Number := .real (-3)
    let high : Number := .real 3
    low.Denotes (-3 : Int) ∧ high.Denotes (3 : Int) ∧
      ((Finset.univ.filter fun u => spread u low.ceil high.floor = .real (2 : Int)).card =
          613566756 ∨
        (Finset.univ.filter fun u => spread u low.ceil high.floor = .real (2 : Int)).card =
          613566757) := by
  intro low high
  have hlow : low.Denotes (-3 : Int) := ⟨rfl, by norm_num [low, Number.toRat]⟩
  have hhigh : high.Denotes (3 : Int) := ⟨rfl, by norm_num [high, Number.toRat]⟩
  have hdown : 2 ^ 32 / ((3 : Int) - -3 + 1).toNat = 613566756 := by decide
  have hup : 2 ^ 32 ⌈/⌉ ((3 : Int) - -3 + 1).toNat = 613566757 := by
    rw [Nat.ceilDiv_eq_add_pred_div]
    decide
  obtain ⟨-, -, hshares⟩ := draws_evenly hlow hhigh (by decide) (by decide) (by decide)
  have hshare := hshares 2 (by decide) (by decide)
  rw [hdown, hup] at hshare
  exact ⟨hlow, hhigh, hshare⟩

end Drawing

end CorpusForge
