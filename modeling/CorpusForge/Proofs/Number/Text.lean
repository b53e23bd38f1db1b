import CorpusForge.Number.Decimal
import CorpusForge.Proofs.Number.Whole
import CorpusForge.Text.Search

/-!
# The text of whole numbers

A whole number below `2 ^ 53` is written with its decimal digits, after its sign if it is negative.
The digits tell the number, also when zeros are put before them.
-/

namespace CorpusForge

namespace Number

/-- A positive whole number is written with its digits. -/
theorem positiveText_natCast {n : Nat} (hn : n < 2 ^ 53) :
    positiveText n = Decimal.digitsOf n := by
  have hsmall : (n : Rat).den = 1 ∧ (n : Rat).num < 9007199254740992 := by
    rw [Rat.num_natCast, Rat.den_natCast]
    omega
  rw [positiveText, if_pos hsmall, Rat.num_natCast, Int.toNat_natCast]

/-- A whole number is written with its digits. -/
theorem text_natCast {n : Nat} (hn : n < 2 ^ 53) :
    (real n).text = String.ofList (Decimal.digitsOf n) := by
  rw [text]
  by_cases hzero : n = 0
  · subst hzero
    rfl
  · have hpos : ¬(n : Rat) = 0 := by exact_mod_cast hzero
    have hnonneg : ¬(n : Rat) < 0 := not_lt.2 (Nat.cast_nonneg n)
    rw [if_neg hpos, if_neg hnonneg, positiveText_natCast hn]

/-- An integer is written with its digits, after its sign. -/
theorem intText_eq_toString {n : Int} (hn : n.natAbs < 2 ^ 53) : intText n = toString n := by
  have hsmall : n.natAbs ≤ 9007199254740992 := by omega
  rw [intText, ofInt, if_pos hsmall]
  cases n with
  | ofNat m => exact text_natCast hn
  | negSucc m =>
    have hcast : ((Int.negSucc m : Int) : Rat) = -((m + 1 : Nat) : Rat) := Int.cast_negSucc m
    have hpos : (0 : Rat) < (m + 1 : Nat) := by positivity
    rw [text, hcast, if_neg (by linarith), if_pos (by linarith), neg_neg,
      positiveText_natCast (n := m + 1) hn]
    exact @String.ofList_append ['-'] _

/-- A count is written with its digits, as far as numbers are exact. -/
theorem IsCount.text {number : Number} {n : Nat} (h : number.IsCount n) (hn : n ≤ 2 ^ 53) :
    number.text = String.ofList (Decimal.digitsOf n) := by
  obtain ⟨hfinite, hrat⟩ := h
  cases number with
  | nan | infinite => exact nomatch hfinite
  | negZero =>
    obtain rfl : n = 0 := by
      have hzero : (n : Rat) = 0 := hrat.symm
      exact_mod_cast hzero
    rfl
  | real q =>
    obtain rfl : q = (n : Rat) := hrat
    rcases hn.lt_or_eq with hlt | rfl
    · exact text_natCast hlt
    · decide +kernel

end Number

namespace Decimal

theorem ofDigitChars_digitsOf (n : Nat) : Nat.ofDigitChars 10 (digitsOf n) 0 = n :=
  Nat.ofDigitChars_ten_toDigits

theorem digitsOf_injective : Function.Injective digitsOf :=
  Function.LeftInverse.injective ofDigitChars_digitsOf

/-- The number that digits denote, whatever zeros stand before them. -/
theorem ofDigitChars_padLeft (width n : Nat) :
    Nat.ofDigitChars 10 (Text.padLeft width '0' (digitsOf n)) 0 = n := by
  rw [Text.padLeft, Nat.ofDigitChars_append, Nat.ofDigitChars_replicate_zero, Nat.mul_zero,
    ofDigitChars_digitsOf]

theorem padLeft_digitsOf_injective (width : Nat) :
    Function.Injective fun n => Text.padLeft width '0' (digitsOf n) :=
  Function.LeftInverse.injective (ofDigitChars_padLeft width)

/-- Padded digits are digits. -/
theorem isDigit_of_mem_padLeft {width n : Nat} {c : Char}
    (h : c ∈ Text.padLeft width '0' (digitsOf n)) : c.isDigit = true := by
  rcases List.mem_append.1 h with hzero | hdigit
  · rw [List.eq_of_mem_replicate hzero]
    rfl
  · exact Nat.isDigit_of_mem_toDigits (by norm_num) (by norm_num) hdigit

theorem padLeft_digitsOf_ne_nil (width n : Nat) : Text.padLeft width '0' (digitsOf n) ≠ [] :=
  List.append_ne_nil_of_right_ne_nil _ (List.length_pos_iff.1 Nat.length_toDigits_pos)

end Decimal

end CorpusForge
