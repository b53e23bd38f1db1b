import CorpusForge.Proofs.Number.Text
import Mathlib.Data.Char
import Mathlib.Data.List.Lex

/-!
# The order of written numbers

Digits are compared from the left on. Among as many digits this is the order of the numbers that
they denote; of a number with more digits only the first ones are compared. So padding keeps the
order of numbers as long as it makes them equally wide.

* `Decimal.lt_iff_ofDigitChars_lt`: digits of one width;
* `Decimal.padded_lt_iff`: padded numbers.
-/

namespace CorpusForge.Decimal

variable {c d : Char} {cs ds rest : List Char} {a b m n start : Nat}

theorem toNat_of_isDigit (h : c.isDigit = true) :
    '0'.toNat ≤ c.toNat ∧ c.toNat ≤ '0'.toNat + 9 := by
  simp only [Char.isDigit, Bool.and_eq_true, decide_eq_true_eq] at h
  exact h

theorem ofDigitChars_lt (h : ∀ c ∈ cs, c.isDigit = true) :
    Nat.ofDigitChars 10 cs 0 < 10 ^ cs.length := by
  induction cs with
  | nil => exact Nat.one_pos
  | cons c cs ih =>
    obtain ⟨hc, hcs⟩ := List.forall_mem_cons.1 h
    have hdigit : c.toNat - '0'.toNat ≤ 9 := by
      have hbounds := toNat_of_isDigit hc
      omega
    have hlead : 10 ^ cs.length * (c.toNat - '0'.toNat) ≤ 10 ^ cs.length * 9 :=
      Nat.mul_le_mul_left _ hdigit
    have hrest := ih hcs
    rw [Nat.ofDigitChars_cons, Nat.ofDigitChars_eq_ofDigitChars_zero, List.length_cons, pow_succ,
      Nat.mul_zero, Nat.zero_add]
    omega

/-! ### Digits of one width -/

/-- What stands before the digits weighs more than they do. -/
theorem ofDigitChars_lt_ofDigitChars (hcs : ∀ c ∈ cs, c.isDigit = true)
    (hlength : cs.length = ds.length) (h : a < b) :
    Nat.ofDigitChars 10 cs a < Nat.ofDigitChars 10 ds b := by
  have hrest := ofDigitChars_lt hcs
  rw [@Nat.ofDigitChars_eq_ofDigitChars_zero cs a, @Nat.ofDigitChars_eq_ofDigitChars_zero ds b,
    ← hlength]
  calc
    10 ^ cs.length * a + Nat.ofDigitChars 10 cs 0 < 10 ^ cs.length * a + 10 ^ cs.length := by omega
    _ = 10 ^ cs.length * (a + 1) := (Nat.mul_succ _ _).symm
    _ ≤ 10 ^ cs.length * b := Nat.mul_le_mul_left _ h
    _ ≤ 10 ^ cs.length * b + Nat.ofDigitChars 10 ds 0 := Nat.le_add_right _ _

theorem lt_iff_ofDigitChars_lt (hcs : ∀ c ∈ cs, c.isDigit = true)
    (hds : ∀ d ∈ ds, d.isDigit = true) (hlength : cs.length = ds.length) (start : Nat) :
    cs < ds ↔ Nat.ofDigitChars 10 cs start < Nat.ofDigitChars 10 ds start := by
  induction cs generalizing ds start with
  | nil =>
    obtain rfl := List.length_eq_zero_iff.1 hlength.symm
    simp
  | cons c cs ih =>
    obtain ⟨d, ds, rfl⟩ := List.exists_cons_of_length_eq_add_one hlength.symm
    obtain ⟨hc, htail⟩ := List.forall_mem_cons.1 hcs
    obtain ⟨hd, htail'⟩ := List.forall_mem_cons.1 hds
    have hrest : cs.length = ds.length := Nat.succ.inj hlength
    have hc := toNat_of_isDigit hc
    have hd := toNat_of_isDigit hd
    have hlead : c < d ↔ c.toNat < d.toNat := Iff.rfl
    rw [List.cons_lt_cons_iff, Nat.ofDigitChars_cons, Nat.ofDigitChars_cons, hlead]
    rcases lt_trichotomy c.toNat d.toNat with hlt | heq | hgt
    · have hall := ofDigitChars_lt_ofDigitChars htail hrest
        (a := 10 * start + (c.toNat - '0'.toNat)) (b := 10 * start + (d.toNat - '0'.toNat))
        (by omega)
      exact iff_of_true (.inl hlt) hall
    · obtain rfl := Char.toNat_inj.1 heq
      rw [← ih htail htail' hrest]
      simp
    · have hall := ofDigitChars_lt_ofDigitChars htail' hrest.symm
        (a := 10 * start + (d.toNat - '0'.toNat)) (b := 10 * start + (c.toNat - '0'.toNat))
        (by omega)
      refine iff_of_false ?_ hall.not_gt
      rintro (hlt | ⟨rfl, -⟩)
      · exact hlt.not_gt hgt
      · exact hgt.ne rfl

/-- Digits of one width tell their number. -/
theorem eq_iff_ofDigitChars_eq (hcs : ∀ c ∈ cs, c.isDigit = true)
    (hds : ∀ d ∈ ds, d.isDigit = true) (hlength : cs.length = ds.length) :
    cs = ds ↔ Nat.ofDigitChars 10 cs 0 = Nat.ofDigitChars 10 ds 0 := by
  refine ⟨fun h => by rw [h], fun h => ?_⟩
  have hnot : ¬cs < ds := by
    rw [lt_iff_ofDigitChars_lt hcs hds hlength 0, h]
    exact lt_irrefl _
  have hnot' : ¬ds < cs := by
    rw [lt_iff_ofDigitChars_lt hds hcs hlength.symm 0, h]
    exact lt_irrefl _
  exact le_antisymm (not_lt.1 hnot') (not_lt.1 hnot)

/-! ### Padded numbers -/

/-- The digits of a number, with zeros before them up to five places. -/
def padded (n : Nat) : List Char := Text.padLeft 5 '0' (digitsOf n)

theorem isDigit_of_mem_padded (h : c ∈ padded n) : c.isDigit = true := isDigit_of_mem_padLeft h

theorem ofDigitChars_padded (n : Nat) : Nat.ofDigitChars 10 (padded n) 0 = n :=
  ofDigitChars_padLeft 5 n

theorem padded_injective : Function.Injective padded := padLeft_digitsOf_injective 5

theorem length_padded (n : Nat) : (padded n).length = max 5 (digitsOf n).length := by
  rw [padded, Text.padLeft, List.length_append, List.length_replicate]
  omega

theorem length_padded_mono (h : m ≤ n) : (padded m).length ≤ (padded n).length := by
  have hpos : 0 < (digitsOf n).length := Nat.length_toDigits_pos
  have hn : n < 10 ^ (digitsOf n).length := (Nat.length_toDigits_le_iff (by norm_num) hpos).1 le_rfl
  have hm : (digitsOf m).length ≤ (digitsOf n).length :=
    (Nat.length_toDigits_le_iff (by norm_num) hpos).2 (h.trans_lt hn)
  rw [length_padded, length_padded]
  exact max_le_max le_rfl hm

/-- A text goes before a longer one when it goes before its front, or is its front. -/
theorem lt_append_iff (hlength : cs.length = ds.length) :
    cs < ds ++ rest ↔ cs < ds ∨ cs = ds ∧ rest ≠ [] := by
  induction cs generalizing ds with
  | nil =>
    obtain rfl := List.length_eq_zero_iff.1 hlength.symm
    cases rest <;> simp
  | cons c cs ih =>
    obtain ⟨d, ds, rfl⟩ := List.exists_cons_of_length_eq_add_one hlength.symm
    have hrest : cs.length = ds.length := Nat.succ.inj hlength
    rw [List.cons_append, List.cons_lt_cons_iff, List.cons_lt_cons_iff, ih hrest, List.cons.injEq]
    tauto

/-- Of two padded numbers the lesser one goes first when it is at most the front of the greater one
    that is as wide. -/
theorem padded_lt_iff (h : m < n) :
    padded m < padded n ↔ m ≤ n / 10 ^ ((padded n).length - (padded m).length) := by
  have hwidth := length_padded_mono h.le
  set front := (padded n).take (padded m).length with hfront
  set rest := (padded n).drop (padded m).length with hrest
  have hsplit : padded n = front ++ rest := (List.take_append_drop _ _).symm
  have hlength : (padded m).length = front.length := by rw [hfront, List.length_take_of_le hwidth]
  have hdigits : ∀ c ∈ front, c.isDigit = true := fun c hc =>
    isDigit_of_mem_padded (List.mem_of_mem_take hc)
  have hbelow : Nat.ofDigitChars 10 rest 0 < 10 ^ rest.length :=
    ofDigitChars_lt fun c hc => isDigit_of_mem_padded (List.mem_of_mem_drop hc)
  -- the front denotes what is left when the digits behind it are cut off
  have hvalue : n / 10 ^ ((padded n).length - (padded m).length) = Nat.ofDigitChars 10 front 0 := by
    have hn : n = 10 ^ rest.length * Nat.ofDigitChars 10 front 0 + Nat.ofDigitChars 10 rest 0 := by
      rw [← Nat.ofDigitChars_eq_ofDigitChars_zero, ← Nat.ofDigitChars_append, ← hsplit,
        ofDigitChars_padded]
    rw [← List.length_drop, ← hrest]
    conv_lhs => rw [hn]
    rw [Nat.mul_add_div (Nat.pow_pos (by norm_num)), Nat.div_eq_of_lt hbelow, Nat.add_zero]
  have hmore : m = Nat.ofDigitChars 10 front 0 → rest ≠ [] := by
    intro hm hnil
    rw [hnil, List.append_nil] at hsplit
    rw [← hsplit, ofDigitChars_padded] at hm
    exact h.ne hm
  conv_lhs => rw [hsplit]
  rw [lt_append_iff hlength,
    lt_iff_ofDigitChars_lt (fun c => isDigit_of_mem_padded) hdigits hlength 0,
    eq_iff_ofDigitChars_eq (fun c => isDigit_of_mem_padded) hdigits hlength, ofDigitChars_padded,
    hvalue, Nat.le_iff_lt_or_eq]
  exact or_congr_right (and_iff_left_of_imp hmore)

end CorpusForge.Decimal
