import CorpusForge.Proofs.Pieces
import CorpusForge.Proofs.Random.Uniformity

/-!
# Draws by weight

A draw by weight cuts the range up to the total into intervals, one for each weight and as long as
that, and gives the index of the interval that the drawn fraction of the total lies in. The interval
is found by taking the weights off the fraction in turn. When the weights are whole numbers and
their total is at most `2 ^ 21`, none of this is rounded (`Number.real_div_sub_natCast`), so the
index is that of the piece that the whole part lies in (`Drawing.exists_bucket`), and one is always
found (`Drawing.weighs_exactly`).
-/

namespace CorpusForge

/-! ### Exact differences -/

namespace Number

/-- A multiple of a power of two by a whole number up to `2 ^ 53` lies on the grid. -/
theorem round53_mul_pow2_of_le {n e : Int} (hn : n.natAbs ≤ 2 ^ 53) (he : -1074 ≤ e) :
    round53 (n * pow2 e) = n * pow2 e := by
  rcases hn.lt_or_eq with hlt | heq
  · exact round53_mul_pow2 hlt he
  · -- the bound is a power of two itself
    obtain ⟨sign, hsign, hn⟩ : ∃ sign : Int, sign.natAbs < 2 ^ 53 ∧ n = sign * 2 ^ 53 := by
      rcases Int.natAbs_eq n with h | h
      · exact ⟨1, by norm_num, by omega⟩
      · exact ⟨-1, by norm_num, by omega⟩
    have hpower : pow2 (53 : Nat) = 2 ^ 53 := by
      rw [pow2_natCast]
      norm_num
    have hshift : (n * pow2 e : Rat) = sign * pow2 ((53 : Nat) + e) := by
      rw [hn, pow2_add, hpower]
      push_cast
      ring
    rw [hshift]
    exact round53_mul_pow2 hsign (by omega)

/-- A whole number is taken exactly off a fraction with 32 binary places. -/
theorem real_div_sub_natCast {n m : Nat} (h : ((n : Int) - m * 2 ^ 32).natAbs ≤ 2 ^ 53) :
    real ((n : Rat) / 2 ^ 32) - real m = real (((n - m * 2 ^ 32 : Int) : Rat) / 2 ^ 32) := by
  have hdifference : ((n - m * 2 ^ 32 : Int) : Rat) / 2 ^ 32 = (n : Rat) / 2 ^ 32 - m := by
    push_cast
    ring
  rcases m.eq_zero_or_pos with rfl | hpos
  · rw [hdifference, Nat.cast_zero, sub_zero]
    rfl
  · have hgrid := round53_mul_pow2_of_le (e := -32) h (by norm_num)
    have hscaled : (((n - m * 2 ^ 32 : Int) : Rat) * pow2 (-32)) =
        ((n - m * 2 ^ 32 : Int) : Rat) / 2 ^ 32 := by
      rw [pow2, zpow_neg, div_eq_mul_inv]
      norm_num
    rw [hscaled] at hgrid
    rw [real_sub_real _ (by exact_mod_cast hpos.ne'), ← hdifference]
    refine ofRat_of_round53 hgrid (lt_overflow ?_)
    calc |((n - m * 2 ^ 32 : Int) : Rat) / 2 ^ 32|
        ≤ |((n - m * 2 ^ 32 : Int) : Rat)| := by
          rw [abs_div]
          exact div_le_self (abs_nonneg _) (by norm_num)
      _ ≤ 2 ^ 54 := by
          rw [abs_intCast]
          exact_mod_cast h.trans (by norm_num)

end Number

namespace Drawing

open Number

/-! ### Shares -/

/-- The sum of the shares of all weights. -/
def totalShare (weights : List Number) : Number :=
  weights.foldl (fun sum weight => sum + share weight) (.real 0)

/-- The parts of whole weights that count. -/
def shares (weights : List Int) : List Nat := weights.map Int.toNat

/-- The numbers are the whole numbers of a list. -/
abbrev AreWeights (numbers : List Number) (weights : List Int) : Prop :=
  List.Forall₂ (fun number (weight : Int) => number.Denotes weight) numbers weights

variable {numbers : List Number} {weights : List Int} {number : Number} {weight : Int}

/-- The share of a whole number. -/
theorem share_of_denotes (h : number.Denotes weight) :
    share number = .real weight.toNat := by
  have hfinite := h.1
  rcases lt_or_ge 0 weight with hpos | hneg
  · have hreal : number = .real weight := h.eq_real (by exact_mod_cast hpos.ne')
    have hcast : ((weight.toNat : Int) : Rat) = weight := by rw [Int.toNat_of_nonneg hpos.le]
    rw [Int.cast_natCast] at hcast
    rw [hcast, hreal, share, maximum, if_neg (by simp),
      if_pos (lt_real_iff.2 (by exact_mod_cast hpos))]
  · have hzero : (Number.real 0).Denotes 0 := ⟨rfl, rfl⟩
    have hnot : (real 0).lt number = false := by
      rw [Bool.eq_false_iff, ne_eq, hzero.lt_iff h, not_lt]
      exact_mod_cast hneg
    rw [Int.toNat_of_nonpos hneg, Nat.cast_zero]
    refine share_eq_zero ?_ hnot
    rintro rfl
    exact absurd hfinite Bool.false_ne_true

/-- The shares are added up exactly. -/
theorem foldl_share_eq (h : AreWeights numbers weights) {sum : Nat}
    (hsum : sum + (shares weights).sum ≤ 2 ^ 53) :
    numbers.foldl (fun sum weight => sum + share weight) (.real sum) =
      .real (sum + (shares weights).sum : Nat) := by
  induction h generalizing sum with
  | nil => rfl
  | @cons number weight numbers weights hnumber _ ih =>
    rw [shares, List.map_cons, List.sum_cons, ← shares] at hsum ⊢
    have hadd := add_intCast (m := sum) (n := weight.toNat) (by omega)
    rw [← Int.natCast_add] at hadd
    simp only [Int.cast_natCast] at hadd
    have hnext : (real sum + share number : Number) = real (sum + weight.toNat : Nat) := by
      rw [share_of_denotes hnumber]
      exact hadd
    rw [List.foldl_cons, hnext, ih (by omega), Nat.add_assoc]

theorem totalShare_eq (h : AreWeights numbers weights) (htotal : (shares weights).sum ≤ 2 ^ 53) :
    totalShare numbers = .real (shares weights).sum := by
  have hsum := @foldl_share_eq _ _ h 0 (by omega)
  rwa [Nat.zero_add, Nat.cast_zero] at hsum

/-! ### Buckets -/

theorem bucket_cons (threshold number : Number) (numbers : List Number) :
    bucket threshold (number :: numbers) =
      if (threshold - share number).lt (.real 0) then some 0
      else (bucket (threshold - share number) numbers).map (· + 1) := rfl

/-- Taking the shares off a fraction of their sum in turn finds the one that its whole part lies
    in. -/
theorem exists_bucket (h : AreWeights numbers weights) {ticket : Nat}
    (hticket : ticket < (shares weights).sum * 2 ^ 32) (htotal : (shares weights).sum ≤ 2 ^ 21) :
    ∃ i, bucket (.real ((ticket : Rat) / 2 ^ 32)) numbers = some i ∧
      Pieces.At (shares weights) (ticket / 2 ^ 32) i := by
  induction h generalizing ticket with
  | nil => simp [shares] at hticket
  | @cons number weight numbers weights hnumber _ ih =>
    rw [shares, List.map_cons, List.sum_cons, ← shares] at hticket htotal
    rw [shares, List.map_cons, ← shares]
    have hleft := real_div_sub_natCast (n := ticket) (m := weight.toNat) (by omega)
    rw [← share_of_denotes hnumber] at hleft
    rw [bucket_cons, hleft]
    by_cases hhead : ticket < weight.toNat * 2 ^ 32
    · -- what is left is below zero
      have hless : (ticket - weight.toNat * 2 ^ 32 : Int) < 0 := by omega
      have hneg : (((ticket - weight.toNat * 2 ^ 32 : Int) : Rat) / 2 ^ 32) < 0 :=
        div_neg_of_neg_of_pos (Int.cast_lt_zero.2 hless) (by norm_num)
      rw [if_pos (lt_real_iff.2 hneg)]
      exact ⟨0, rfl, .zero ((Nat.div_lt_iff_lt_mul (by norm_num)).2 hhead)⟩
    · obtain ⟨rest, rfl⟩ := Nat.exists_eq_add_of_le (not_lt.1 hhead)
      have hrest : ((weight.toNat * 2 ^ 32 + rest : Nat) - weight.toNat * 2 ^ 32 : Int) = rest := by
        push_cast
        ring
      have hnot : ¬(real ((rest : Rat) / 2 ^ 32)).lt (real 0) = true := by
        rw [lt_real_iff, not_lt]
        positivity
      rw [hrest, Int.cast_natCast, if_neg hnot]
      obtain ⟨i, hi, hat⟩ := @ih rest (by omega) (by omega)
      refine ⟨i + 1, by rw [hi]; rfl, ?_⟩
      rw [Nat.mul_comm weight.toNat, Nat.mul_add_div (by norm_num)]
      exact hat.succ

/-! ### Draws -/

/-- With a positive total, an index is drawn by the next word. -/
theorem run_weightedIndex (hpos : (totalShare numbers).le (.real 0) = false) (g : Gen) :
    (weightedIndex numbers).run g =
      (.ok ((bucket (fraction g.word * totalShare numbers) numbers).getD (lastBucket numbers)),
        g.advance) := by
  rw [totalShare] at hpos ⊢
  rw [weightedIndex]
  simp only [hpos]
  rfl

/-- No index is drawn by whole weights none of which is positive. -/
theorem AreWeights.refuses (h : AreWeights numbers weights)
    (hnone : ∀ weight ∈ weights, weight ≤ 0) :
    (weightedIndex numbers).Refuses .noPositiveWeight := by
  refine refuses_weightedIndex fun number hmem => ?_
  obtain ⟨i, hi, rfl⟩ := List.getElem_of_mem hmem
  have hi' : i < weights.length := h.length_eq ▸ hi
  have hnumber : numbers[i].Denotes weights[i] := h.get hi hi'
  have hzero : (Number.real 0).Denotes 0 := ⟨rfl, rfl⟩
  refine ⟨fun hnan => ?_, ?_⟩
  · rw [hnan] at hnumber
    exact absurd hnumber.1 Bool.false_ne_true
  · rw [Bool.eq_false_iff, ne_eq, hzero.lt_iff hnumber, not_lt]
    exact_mod_cast hnone _ (List.getElem_mem hi')

/-- Whole weights that add up to at most `2 ^ 21`, where negative ones count as zero: every word
    stands for the one index whose piece holds the share of the total that the word stands for, when
    the weights are laid end to end. The weight at that index is positive, the index is found before
    the weights are used up, and one word is drawn for it. When no weight is positive, the draw is
    refused and takes no word. -/
theorem weighs_exactly (h : AreWeights numbers weights) :
    (1 ≤ (shares weights).sum → (shares weights).sum ≤ 2 ^ 21 →
      ∀ u : UInt32, ∃ i,
        (∀ j, (Pieces.start (shares weights) j * 2 ^ 32 ≤ u.toNat * (shares weights).sum ∧
            u.toNat * (shares weights).sum < Pieces.start (shares weights) (j + 1) * 2 ^ 32) ↔
          j = i) ∧
        (∃ weight, weights[i]? = some weight ∧ 0 < weight) ∧
        bucket (fraction u * totalShare numbers) numbers = some i ∧
        ∀ g : Gen, g.word = u → (weightedIndex numbers).run g = (.ok i, g.advance)) ∧
    ((∀ weight ∈ weights, weight ≤ 0) →
      ∀ g, (weightedIndex numbers).run g = (.error .noPositiveWeight, g)) := by
  refine ⟨fun hpos htotal u => ?_, h.refuses⟩
  have hsum := totalShare_eq h (htotal.trans (by norm_num))
  have hproduct := fraction_mul_eq (toNat_mul_lt u htotal)
  have hticket : u.toNat * (shares weights).sum < (shares weights).sum * 2 ^ 32 := by
    rw [Nat.mul_comm]
    exact Nat.mul_lt_mul_of_pos_left u.toNat_lt hpos
  obtain ⟨i, hbucket, hat⟩ := exists_bucket h hticket htotal
  have hfound : bucket (fraction u * totalShare numbers) numbers = some i := by
    rw [hsum, hproduct, ← hbucket, Nat.cast_pow, Nat.cast_ofNat]
  obtain ⟨size, hsize, hlt⟩ := hat.exists_pos
  rw [shares, List.getElem?_map, Option.map_eq_some_iff] at hsize
  obtain ⟨weight, hweight, rfl⟩ := hsize
  have hle : (totalShare numbers).le (.real 0) = false := by
    rw [hsum, Bool.eq_false_iff, ne_eq, le_real_iff, not_le]
    exact_mod_cast hpos
  refine ⟨i, fun j => ?_, ⟨weight, hweight, by omega⟩, hfound, fun g hg => ?_⟩
  · rw [← Pieces.at_div_iff (by norm_num)]
    exact ⟨fun hj => hj.unique hat, fun hj => hj ▸ hat⟩
  · rw [run_weightedIndex hle, hg, hfound, Option.getD_some]

/-- A word on the mark between two weights, with an empty interval at the mark. -/
theorem weighs_exactly_mark :
    let numbers : List Number := [.real (-2), .real 1, .negZero, .real 3, .real 0]
    let weights : List Int := [-2, 1, 0, 3, 0]
    AreWeights numbers weights ∧ (shares weights).sum = 4 ∧
      bucket (fraction 1073741824 * totalShare numbers) numbers = some 3 ∧
      AreWeights [.real (-2), .real 0] [-2, 0] ∧
      ∀ g, (weightedIndex [.real (-2), .real 0]).run g = (.error .noPositiveWeight, g) := by
  intro numbers weights
  have hweights : AreWeights numbers weights :=
    .cons ⟨rfl, by decide⟩ <| .cons ⟨rfl, by decide⟩ <| .cons ⟨rfl, by decide⟩ <|
      .cons ⟨rfl, by decide⟩ <| .cons ⟨rfl, by decide⟩ .nil
  have hnone : AreWeights [.real (-2), .real 0] [-2, 0] :=
    .cons ⟨rfl, by decide⟩ <| .cons ⟨rfl, by decide⟩ .nil
  obtain ⟨i, hi, -, hfound, -⟩ :=
    (weighs_exactly hweights).1 (by decide) (by decide) 1073741824
  have hmark : 3 = i := (hi 3).1 (by decide)
  exact ⟨hweights, rfl, hmark ▸ hfound, hnone, (weighs_exactly hnone).2 (by decide)⟩

end Drawing

end CorpusForge
