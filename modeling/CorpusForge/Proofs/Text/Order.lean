import CorpusForge.Text.Units
import Mathlib.Data.List.Lex
import Mathlib.Tactic

/-!
# The order of texts

A text is told by its UTF-16 units, since no unit of a surrogate pair is a character by itself. So
the lexicographic order of the units is a strict linear order of texts, and sorted texts are in that
order.

* `Text.units_injective`: texts with the same units;
* `Text.precedes_iff`: the order is that of the lists of units;
* `Text.pairwise_sort`: different texts, once they are sorted.
-/

namespace CorpusForge.Text

variable {c d : Char} {us vs : List Nat} {texts : List String}

/-! ### Units -/

theorem charUnits_ne_nil (c : Char) : charUnits c ≠ [] := by
  simp only [charUnits]
  split <;> exact List.cons_ne_nil _ _

/-- The units of texts are of 16 bits. -/
theorem lt_of_mem_units {unit : Nat} {text : String} (h : unit ∈ units text) : unit < 2 ^ 16 := by
  obtain ⟨c, -, hunit⟩ := List.mem_flatMap.1 h
  have hvalid : c.toNat < 0xD800 ∨ 0xDFFF < c.toNat ∧ c.toNat < 0x110000 := c.valid
  simp only [charUnits] at hunit
  split at hunit
  · obtain rfl := List.mem_singleton.1 hunit
    omega
  · rw [List.mem_pair] at hunit
    omega

/-- The units of a character are told apart from those behind them. -/
theorem charUnits_append_inj (h : charUnits c ++ us = charUnits d ++ vs) : c = d ∧ us = vs := by
  have hvalid : ∀ c : Char, c.toNat < 0xD800 ∨ 0xDFFF < c.toNat ∧ c.toNat < 0x110000 :=
    fun c => c.valid
  have hc := hvalid c
  have hd := hvalid d
  rw [← Char.toNat_inj]
  simp only [charUnits] at h
  split at h <;> split at h <;>
    simp only [List.cons_append, List.nil_append, List.cons.injEq] at h
  · exact h
  · -- the first unit of a pair is no character
    omega
  · omega
  · obtain ⟨hhigh, hlow, hrest⟩ := h
    exact ⟨by omega, hrest⟩

/-- A text is told by its units. -/
theorem units_injective : Function.Injective units := by
  intro s t h
  apply String.toList_injective
  simp only [units] at h
  generalize s.toList = cs at h ⊢
  generalize t.toList = ds at h ⊢
  induction cs generalizing ds with
  | nil =>
    cases ds with
    | nil => rfl
    | cons d ds => exact absurd h.symm (List.append_ne_nil_of_left_ne_nil (charUnits_ne_nil d) _)
  | cons c cs ih =>
    cases ds with
    | nil => exact absurd h (List.append_ne_nil_of_left_ne_nil (charUnits_ne_nil c) _)
    | cons d ds =>
      obtain ⟨rfl, hrest⟩ := charUnits_append_inj h
      rw [ih ds hrest]

/-! ### Sorting -/

theorem unitsPrecede_iff : unitsPrecede us vs = true ↔ us < vs := by
  fun_induction unitsPrecede us vs with
  | case1 us => simp
  | case2 v vs => simp
  | case3 u us v vs hlt => simp [List.cons_lt_cons_iff, hlt]
  | case4 u us v vs hnot hlt => simp [List.cons_lt_cons_iff, hnot, hlt.ne']
  | case5 u us v vs hnot hnot' ih =>
    obtain rfl : u = v := by omega
    simp [ih]

theorem precedes_iff {s t : String} : precedes s t = true ↔ units s < units t := unitsPrecede_iff

theorem ne_of_precedes {s t : String} (h : precedes s t = true) : s ≠ t := by
  rintro rfl
  exact lt_irrefl _ (precedes_iff.1 h)

theorem nodup_eraseDups (texts : List String) : texts.eraseDups.Nodup := by
  induction hlength : texts.length using Nat.strong_induction_on generalizing texts with
  | h n ih =>
    cases texts with
    | nil => exact List.nodup_nil
    | cons text rest =>
      rw [List.eraseDups_cons, List.nodup_cons]
      refine ⟨by simp, ih _ ?_ _ rfl⟩
      exact hlength ▸ Nat.lt_succ_of_le (List.length_filter_le _ _)

/-- Different texts that are sorted come one after the other. -/
theorem pairwise_sort (h : texts.Nodup) :
    (sort texts).Pairwise fun s t => precedes s t = true := by
  have hle : ∀ {s t : String}, (!precedes t s) = true ↔ units s ≤ units t := by
    intro s t
    rw [Bool.not_eq_true', ← Bool.not_eq_true, precedes_iff, not_lt]
  have hsorted : (sort texts).Pairwise fun s t => (!precedes t s) = true := by
    refine List.pairwise_mergeSort (fun s t u hst htu => ?_) (fun s t => ?_) texts
    · exact hle.2 ((hle.1 hst).trans (hle.1 htu))
    · simpa only [Bool.or_eq_true, hle] using le_total (units s) (units t)
  have hnodup : (sort texts).Nodup := (List.mergeSort_perm texts _).nodup_iff.2 h
  refine (hsorted.and hnodup).imp fun {s t} hst => ?_
  exact precedes_iff.2 ((hle.1 hst.1).lt_of_ne (units_injective.ne hst.2))

end CorpusForge.Text
