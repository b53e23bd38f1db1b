import CorpusForge.Proofs.Number.Grid
import CorpusForge.Random.Drawing

/-!
# The stream of a seed

The counter of a generator goes on by a fixed odd distance, from the hash of its seed. As long as it
is exact, the words of the stream are those at the positions counted modulo `2 ^ 32`, in plain
arithmetic of natural numbers (`Gen.output`). From `2 ^ 53` on the counter is rounded, so that every
position that is reached is even, while those that are counted take turns in being odd.

* `Gen.toNat_scramble`: the words, in arithmetic modulo `2 ^ 32`;
* `Gen.forall_reached_eq_iff`: how far the counter is the one that is counted;
* `Gen.draws_as_counted_iff`: the values that are drawn.
-/

namespace CorpusForge

namespace Number

/-- From `2 ^ 53` on the grid holds even numbers only. -/
theorem exists_round53_eq_two_mul {n : Nat} (h : 2 ^ 53 ≤ n) :
    ∃ m : Nat, 2 ^ 52 ≤ m ∧ round53 n = (2 * m : Nat) := by
  have hne : n ≠ 0 := by omega
  have hlog : 53 ≤ n.log2 := (Nat.le_log2 hne).2 h
  -- the gap is a power of two, and not the smallest one
  obtain ⟨e, he⟩ : ∃ e, n.log2 = e + 53 := ⟨n.log2 - 53, by omega⟩
  have hmagnitude : magnitude n = (n.log2 : Int) := by
    have hcast := magnitude_intCast (n := n) (by omega)
    rwa [Int.cast_natCast, Int.natAbs_natCast] at hcast
  have hgap : gap n = (2 * 2 ^ e : Nat) := by
    have hexponent : max (magnitude n - 52) (-1074) = ((e + 1 : Nat) : Int) := by
      rw [hmagnitude, he]
      omega
    rw [gap, hexponent, pow2_natCast, pow_succ, mul_comm]
  have hround : round53 n = nearestEven (n / gap n) * gap n := by
    rw [round53, if_neg (by exact_mod_cast hne)]
  have hgrid := round53_two_pow 53
  have hleast := le_round53 hgrid (by norm_num) (by exact_mod_cast h : (2 ^ 53 : Rat) ≤ n)
  obtain ⟨k, hk⟩ : ∃ k : Nat, nearestEven (n / gap n) = k := by
    refine Int.eq_ofNat_of_zero_le ((Rat.le_floor_iff.2 ?_).trans (floor_le_nearestEven _))
    rw [Int.cast_zero]
    exact div_nonneg (Nat.cast_nonneg n) (gap_pos _).le
  have hmul : round53 n = (2 * (k * 2 ^ e) : Nat) := by
    rw [hround, hk, hgap]
    push_cast
    ring
  refine ⟨k * 2 ^ e, ?_, hmul⟩
  rw [hmul] at hleast
  have hleast' : 2 ^ 53 ≤ 2 * (k * 2 ^ e) := by exact_mod_cast hleast
  omega

/-- And up to `2 ^ 54` it holds all of them. -/
theorem round53_two_mul {m : Nat} (h : m < 2 ^ 53) :
    round53 ((2 * m : Nat) : Rat) = (2 * m : Nat) := by
  have hround := round53_mul_pow2 (n := m) (e := 1) (by omega) (by norm_num)
  have hcast : ((m : Int) : Rat) * pow2 1 = (2 * m : Nat) := by
    rw [pow2, zpow_one]
    push_cast
    ring
  rwa [hcast] at hround

end Number

namespace Gen

/-! ### Draws in a row -/

/-- The words that come next. -/
def words : Nat → Gen → List UInt32
  | 0, _ => []
  | n + 1, g => g.word :: words n g.advance

theorem length_words (n : Nat) (g : Gen) : (g.words n).length = n := by
  induction n generalizing g with
  | zero => rfl
  | succ n ih => exact congrArg (· + 1) (ih g.advance)

theorem after_succ (n : Nat) (g : Gen) : g.after (n + 1) = g.advance.after n := by
  delta Gen.after Gen.after._f
  -- with the step itself in the goal, its counter would be reduced one by one
  generalize Gen.advance = advance
  rfl

theorem after_zero (g : Gen) : g.after 0 = g := rfl

theorem advance_after (n : Nat) (g : Gen) : (g.after n).advance = g.after (n + 1) := by
  induction n generalizing g with
  | zero => rw [after_succ, after_zero, after_zero]
  | succ n ih => rw [after_succ, ih, ← after_succ]

theorem after_after (m n : Nat) (g : Gen) : (g.after m).after n = g.after (m + n) := by
  induction m generalizing g with
  | zero => rw [after_zero, Nat.zero_add]
  | succ m ih => rw [after_succ, ih, Nat.succ_add, ← after_succ]

/-! ### The counter -/

theorem counter_advance (g : Gen) :
    g.advance.counter = roundCounter (g.counter + increment) := by
  rw [advance]

theorem roundCounter_of_le {n : Nat} (h : n ≤ 2 ^ 53) : roundCounter n = n :=
  if_pos (by omega)

theorem roundCounter_of_lt {n : Nat} (h : 2 ^ 53 < n) :
    roundCounter n = (Number.round53 n).floor.toNat :=
  if_neg (by omega)

/-- Beyond `2 ^ 53` the counter loses its last bit, and it does not come back. -/
theorem roundCounter_even {n : Nat} (h : 2 ^ 53 < n) :
    2 ∣ roundCounter n ∧ 2 ^ 53 ≤ roundCounter n := by
  obtain ⟨m, hm, hround⟩ := Number.exists_round53_eq_two_mul h.le
  rw [roundCounter_of_lt h, hround, ← Int.cast_natCast, Rat.floor_intCast, Int.toNat_natCast]
  exact ⟨⟨m, rfl⟩, by omega⟩

theorem roundCounter_of_even {n : Nat} (heven : 2 ∣ n) (h : n < 2 ^ 54) : roundCounter n = n := by
  by_cases hle : n ≤ 2 ^ 53
  · exact roundCounter_of_le hle
  · obtain ⟨m, rfl⟩ := heven
    rw [roundCounter_of_lt (not_le.1 hle), Number.round53_two_mul (by omega), ← Int.cast_natCast,
      Rat.floor_intCast, Int.toNat_natCast]

/-! ### Words -/

/-- The word at a position, computed with natural numbers: every sum and every product is reduced
    to 32 bits, and a shift to the right is a division. -/
def output (t : Nat) : Nat :=
  let a := (t ^^^ t / 2 ^ 15) * (t ||| 1) % 2 ^ 32
  let b := a ^^^ (a + (a ^^^ a / 2 ^ 7) * (a ||| 61) % 2 ^ 32) % 2 ^ 32
  b ^^^ b / 2 ^ 14

theorem toNat_scramble (t : UInt32) : (scramble t).toNat = output t.toNat := by
  have hshift : ∀ (u : UInt32) (k : UInt32), k.toNat < 32 →
      (u >>> k).toNat = u.toNat / 2 ^ k.toNat := fun u k hk => by
    rw [UInt32.toNat_shiftRight, Nat.mod_eq_of_lt hk, Nat.shiftRight_eq_div_pow]
  simp only [scramble, output, UInt32.toNat_xor, UInt32.toNat_add, UInt32.toNat_mul,
    UInt32.toNat_or, hshift _ 15 (by decide), hshift _ 7 (by decide), hshift _ 14 (by decide)]
  rfl

theorem toNat_word (g : Gen) : g.word.toNat = output (g.advance.counter % 2 ^ 32) := by
  rw [word, toNat_scramble, UInt32.toNat_ofNat']

/-! ### The counter of a seed -/

/-- The position that `n` steps lead to from the hash of a seed, when none of it is rounded. -/
def position (seed : String) (n : Nat) : Nat := (seedHash seed).toNat + n * increment

/-- The position that `n` draws lead to. -/
def reached (seed : String) (n : Nat) : Nat := ((ofText seed).after n).counter

variable {seed : String} {n : Nat}

theorem position_succ (seed : String) (n : Nat) :
    position seed (n + 1) = position seed n + increment := by
  rw [position, position, Nat.succ_mul, Nat.add_assoc]

theorem reached_zero (seed : String) : reached seed 0 = position seed 0 := by
  rw [reached, after_zero, position, Nat.zero_mul, Nat.add_zero, ofText, ofWord]

theorem reached_succ (seed : String) (n : Nat) :
    reached seed (n + 1) = roundCounter (reached seed n + increment) := by
  rw [reached, ← advance_after, counter_advance, reached]

/-- As far as numbers are exact, the position is that which is counted. -/
theorem reached_eq_position (h : position seed n ≤ 2 ^ 53) : reached seed n = position seed n := by
  induction n with
  | zero => exact reached_zero seed
  | succ n ih =>
    rw [position_succ] at h
    rw [reached_succ, ih (by omega), position_succ, roundCounter_of_le h]

/-- Beyond, the position is even, and it does not come back. -/
theorem reached_even (h : 2 ^ 53 < position seed n) :
    2 ∣ reached seed n ∧ 2 ^ 53 ≤ reached seed n := by
  have hstep : 0 < increment := by decide
  induction n with
  | zero =>
    have hstart := (seedHash seed).toNat_lt
    rw [position] at h
    omega
  | succ n ih =>
    rw [reached_succ]
    refine roundCounter_even ?_
    rw [position_succ] at h
    by_cases hexact : position seed n ≤ 2 ^ 53
    · rwa [reached_eq_position hexact]
    · have hbeyond := (ih (not_le.1 hexact)).2
      omega

/-- The position after `n` steps is not rounded: it is in the exact range of the numbers, or it is
    the first one beyond, and even. -/
def IsExact (seed : String) (n : Nat) : Prop :=
  position seed n ≤ 2 ^ 53 ∨ position seed n ≤ 2 ^ 53 + increment ∧ 2 ∣ position seed n

theorem IsExact.reached_eq (h : IsExact seed n) : reached seed n = position seed n := by
  rcases h with h | ⟨hnear, heven⟩
  · exact reached_eq_position h
  cases n with
  | zero => exact reached_zero seed
  | succ n =>
    have hprevious : position seed n ≤ 2 ^ 53 := by
      rw [position_succ] at hnear
      omega
    have hsmall : position seed (n + 1) < 2 ^ 54 := by
      have hstep : increment < 2 ^ 53 := by decide
      omega
    rw [reached_succ, reached_eq_position hprevious, ← position_succ,
      roundCounter_of_even heven hsmall]

/-- An exact position has exact ones before it. -/
theorem IsExact.of_le {m : Nat} (h : IsExact seed n) (hmn : m ≤ n) : IsExact seed m := by
  rcases hmn.eq_or_lt with rfl | hlt
  · exact h
  obtain ⟨k, rfl⟩ := Nat.exists_eq_add_of_lt hlt
  have hnear : position seed (m + k + 1) ≤ 2 ^ 53 + increment := by
    rcases h with h | h
    · exact h.trans (Nat.le_add_right _ _)
    · exact h.1
  rw [position_succ, position, Nat.add_mul, ← Nat.add_assoc, ← position] at hnear
  exact .inl (by omega)

theorem isExact_of_le (h : n ≤ 4917756) : IsExact seed n := by
  have hstart := (seedHash seed).toNat_lt
  have hsteps : n * increment ≤ 4917756 * increment := Nat.mul_le_mul_right _ h
  have hwidth : 4917756 * increment + 2 ^ 32 ≤ 2 ^ 53 := by decide
  exact .inl (by rw [position]; omega)

/-- Of two positions in a row beyond the exact range, one is not that which is counted: the counted
    ones take turns in being odd. -/
theorem reached_ne_position (h : 2 ^ 53 < position seed n) :
    reached seed n % 2 ^ 32 ≠ position seed n % 2 ^ 32 ∨
      reached seed (n + 1) % 2 ^ 32 ≠ position seed (n + 1) % 2 ^ 32 := by
  have hnext := position_succ seed n
  have hodd : increment % 2 = 1 := by decide
  have hbeyond : 2 ^ 53 < position seed (n + 1) := by omega
  obtain ⟨hthis, -⟩ := reached_even h
  obtain ⟨hthat, -⟩ := reached_even hbeyond
  omega

theorem forall_reached_eq_iff :
    (∀ m ≤ n, reached seed m % 2 ^ 32 = position seed m % 2 ^ 32) ↔ IsExact seed n := by
  constructor
  · intro h
    by_cases hexact : position seed n ≤ 2 ^ 53
    · exact .inl hexact
    obtain ⟨heven, -⟩ := reached_even (not_le.1 hexact)
    have hthis := h n le_rfl
    refine .inr ⟨?_, by omega⟩
    -- the position before would be beyond the exact range as well, and one of the two is odd
    by_contra hfar
    cases n with
    | zero =>
      have hstart := (seedHash seed).toNat_lt
      rw [position] at hexact
      omega
    | succ n =>
      rw [position_succ] at hfar
      exact (reached_ne_position (by omega)).elim (absurd (h n n.le_succ)) (absurd hthis)
  · exact fun h m hm => by rw [(h.of_le hm).reached_eq]

/-- The value that is drawn after `n` others is the word at the position that is reached, as a
    fraction of `2 ^ 32`. The positions up to there are those that are counted from the hash of the
    seed on, exactly as long as no one is rounded (`IsExact`), and then so is the value. For every
    seed that is so for the first 4917756 values; and once `2 ^ 53` is passed, one of any two
    positions in a row is another one. -/
theorem draws_as_counted_iff (seed : String) (n : Nat) :
    ∃ w : UInt32,
      (Drawing.word : Drawing Refusal UInt32).run ((ofText seed).after n) =
        (.ok w, (ofText seed).after (n + 1)) ∧
      Drawing.fraction w = .real (output (reached seed (n + 1) % 2 ^ 32) / 2 ^ 32) ∧
      (IsExact seed (n + 1) →
        Drawing.fraction w = .real (output (position seed (n + 1) % 2 ^ 32) / 2 ^ 32)) ∧
      ((∀ m ≤ n + 1, reached seed m % 2 ^ 32 = position seed m % 2 ^ 32) ↔
        IsExact seed (n + 1)) ∧
      (n + 1 ≤ 4917756 → IsExact seed (n + 1)) ∧
      (2 ^ 53 < position seed (n + 1) →
        reached seed (n + 1) % 2 ^ 32 ≠ position seed (n + 1) % 2 ^ 32 ∨
          reached seed (n + 2) % 2 ^ 32 ≠ position seed (n + 2) % 2 ^ 32) := by
  have hfraction : Drawing.fraction ((ofText seed).after n).word =
      .real (output (reached seed (n + 1) % 2 ^ 32) / 2 ^ 32) := by
    rw [Drawing.fraction, toNat_word, advance_after, reached]
    norm_num
  refine ⟨((ofText seed).after n).word, ?_, hfraction, fun h => ?_, forall_reached_eq_iff,
    isExact_of_le, reached_ne_position⟩
  · rw [← advance_after]
    rfl
  · rw [hfraction, h.reached_eq]

/-- The last exact position of a seed. -/
theorem draws_as_counted_iff_seed :
    IsExact "seed" 4917758 ∧
      ∃ w : UInt32,
        (Drawing.word : Drawing Refusal UInt32).run ((ofText "seed").after 4917757) =
          (.ok w, (ofText "seed").after 4917758) ∧
        Drawing.fraction w = .real (2517623627 / 2 ^ 32) := by
  have hexact : IsExact "seed" 4917758 := .inl (by decide +kernel)
  have hword : output (position "seed" 4917758 % 2 ^ 32) = 2517623627 := by decide +kernel
  obtain ⟨w, hrun, -, hvalue, -⟩ := draws_as_counted_iff "seed" 4917757
  have hfraction := hvalue hexact
  rw [hword] at hfraction
  exact ⟨hexact, w, hrun, hfraction⟩

/-- The value after it is another one than the position that is counted stands for. -/
theorem drawn_ne_counted_seed :
    Drawing.fraction ((ofText "seed").after 4917758).word ≠
      .real (output (position "seed" 4917759 % 2 ^ 32) / 2 ^ 32) := by
  have hreached : reached "seed" 4917759 = 9007200607720632 := by
    have hbefore : position "seed" 4917758 + increment = 9007200607720631 := by decide +kernel
    rw [reached_succ, reached_eq_position (by decide +kernel), hbefore]
    decide +kernel
  have hword : ((ofText "seed").after 4917758).word.toNat = 1340533106 := by
    rw [toNat_word, advance_after, ← reached, hreached]
    decide +kernel
  have hcounted : output (position "seed" 4917759 % 2 ^ 32) = 750447268 := by decide +kernel
  rw [Drawing.fraction, hword, hcounted]
  intro h
  injection h with hvalue
  norm_num at hvalue

end Gen
end CorpusForge
