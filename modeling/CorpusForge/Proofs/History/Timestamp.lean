import CorpusForge.History.Timestamp
import CorpusForge.Proofs.Config.Acceptance
import CorpusForge.Proofs.Number.Grid

/-!
# Dates

A date is a whole number of milliseconds that is near enough to the beginning of 1970 to be counted
exactly. So no rounding is seen in what is computed of dates: whole numbers lead to the date that
they stand for, or out of the calendar.

* `Timestamp.ofNumber_ofRat_intCast`: the date of a whole number, rounded;
* `Timestamp.bootstrap_eq`: the beginning of a span, in whole seconds.
-/

namespace CorpusForge

namespace Number

/-- The whole part of a whole number of thousandths is not lost when the quotient is rounded. -/
theorem floor_ofRat_div_thousand {n : Int} (hn : n.natAbs ≤ 2 ^ 53) :
    (ofRat ((n : Rat) / 1000)).floor = real ((n / 1000 : Int) : Rat) := by
  rcases hn.lt_or_eq with hlt | heq
  · exact floor_ofRat_div (d := 1000) hlt (by norm_num) (by norm_num)
  · have hends : n = 2 ^ 53 ∨ n = -2 ^ 53 := by omega
    rcases hends with rfl | rfl <;> decide +kernel

/-- What is taken off an exact whole number, be it a zero of either sign. -/
theorem Denotes.sub_eq {number : Number} {k n : Int} (h : number.Denotes k)
    (hn : n.natAbs ≤ 2 ^ 53) : Number.add (real n) number.neg = ofRat (n - k : Int) := by
  obtain ⟨hfinite, hk⟩ := h
  cases number with
  | nan | infinite => exact nomatch hfinite
  | negZero =>
    have hcast : (k : Rat) = 0 := hk.symm
    have hzero : k = 0 := by exact_mod_cast hcast
    rw [hzero, sub_zero]
    exact congrArg ofRat (add_zero _)
  | real q =>
    obtain rfl : q = k := hk
    rw [Number.neg]
    split
    next hzero =>
      have hzero : k = 0 := by exact_mod_cast hzero
      rw [hzero, sub_zero, ofRat_intCast hn]
      rfl
    next =>
      rw [Int.cast_sub, sub_eq_add_neg]
      rfl

end Number

namespace Timestamp

variable {number : Number} {p : Rat} {ms : Int}

theorem date?_eq_some_iff {t : Int} :
    date? ms = some t ↔ ms.natAbs ≤ 8640000000000000 ∧ ms = t := by
  rw [date?]
  split <;> simp_all

theorem date?_eq_none_iff : date? ms = none ↔ 8640000000000000 < ms.natAbs := by
  rw [date?]
  split <;> simp_all

/-- Milliseconds are their own date, or that of none. -/
theorem date?_cases (ms : Int) :
    date? ms = none ∨ ms.natAbs ≤ 8640000000000000 ∧ date? ms = some ms := by
  rw [date?]
  split <;> simp_all

theorem toNumber_some (h : ms.natAbs ≤ 2 ^ 53) : toNumber (some ms) = .real ms := by
  have hexact : ms.natAbs ≤ 9007199254740992 := h
  exact if_pos hexact

theorem ofNumber_intCast (ms : Int) : ofNumber (.real ms) = date? ms := by
  have hint : (Number.real ms).toInt = ms := by
    simp [Number.toInt, Number.toRat, Rat.floor_intCast, Rat.ceil_intCast]
  rw [ofNumber, hint]
  rfl

/-- What is far from zero is no date. -/
theorem ofNumber_of_isFar (h : number.IsFar p) (hp : 8640000000000001 ≤ p) :
    ofNumber number = none := by
  rw [ofNumber]
  split
  next hfinite =>
    have hfar : 8640000000000001 ≤ |number.toRat| := hp.trans (h hfinite)
    rw [date?_eq_none_iff]
    simp only [Number.toInt]
    split
    next hneg =>
      rw [abs_of_neg hneg] at hfar
      have hceil : number.toRat.ceil ≤ -8640000000000001 := by
        refine Rat.ceil_le_iff.2 ?_
        push_cast
        linarith
      omega
    next hneg =>
      rw [abs_of_nonneg (not_lt.1 hneg)] at hfar
      have hfloor : 8640000000000001 ≤ number.toRat.floor :=
        Rat.le_floor_iff.2 (by exact_mod_cast hfar)
      omega
  next => rfl

/-- Whole numbers that are rounded are no dates, nor are the numbers next to them. -/
theorem ofNumber_ofRat_intCast (ms : Int) : ofNumber (.ofRat ms) = date? ms := by
  by_cases hms : ms.natAbs ≤ 2 ^ 53
  · rw [Number.ofRat_intCast hms, ofNumber_intCast]
  · have hgrid := Number.round53_ofNat 9007199254740992 (by norm_num)
    have hfar : (9007199254740992 : Rat) ≤ |(ms : Rat)| := by
      rw [Number.abs_intCast]
      exact_mod_cast (not_le.1 hms).le
    rw [ofNumber_of_isFar (Number.isFar_ofRat hgrid (by norm_num) hfar) (by norm_num), eq_comm,
      date?_eq_none_iff]
    omega

/-- A whole number of days in milliseconds: exactly, or far from zero. -/
theorem mul_dayMs_cases {days : Int} (h : number.Denotes days) :
    (number * .ofInt dayMs).Denotes (days * dayMs : Int) ∨
      2 ^ 63 ≤ (days * dayMs).natAbs ∧ (number * .ofInt dayMs).IsFar (2 ^ 63) := by
  have hday : Number.ofInt dayMs = .real 86400000 := rfl
  rw [hday]
  rcases eq_or_ne days 0 with rfl | hzero
  · obtain ⟨hfinite, hdays⟩ := h
    refine .inl ?_
    cases number with
    | nan | infinite => exact nomatch hfinite
    | negZero => exact ⟨rfl, rfl⟩
    | real q =>
      obtain rfl : q = 0 := by exact_mod_cast hdays
      exact ⟨rfl, rfl⟩
  have hmul : number * .real 86400000 = .ofRat ((days * dayMs : Int) : Rat) := by
    obtain rfl := h.eq_real (by exact_mod_cast hzero)
    refine (if_neg ?_).trans (congrArg Number.ofRat (by simp [Number.toRat, dayMs]))
    simpa [Number.toRat] using hzero
  rw [hmul]
  by_cases hexact : (days * 84375).natAbs < 2 ^ 53
  · -- a day is 1024 times a number that is not too large
    have hday : days * dayMs = days * 84375 * 2 ^ 10 := by
      simp only [dayMs]
      omega
    rw [hday, Number.ofRat_mul_two_pow hexact (by norm_num)]
    exact .inl ⟨rfl, rfl⟩
  · have hlarge : 2 ^ 63 ≤ (days * dayMs).natAbs := by simp only [dayMs]; omega
    have hgrid := Number.round53_two_pow 63
    refine .inr ⟨hlarge, Number.isFar_ofRat hgrid (by norm_num) ?_⟩
    rw [Number.abs_intCast]
    exact_mod_cast hlarge

/-- A span before a date, in milliseconds: exactly, or far from zero. -/
theorem sub_days_cases {now days : Int} (hnow : now.natAbs ≤ 2 ^ 53) (h : number.Denotes days) :
    (now - days * dayMs).natAbs ≤ 2 ^ 53 ∧
        toNumber (some now) - number * .ofInt dayMs = .real (now - days * dayMs : Int) ∨
      2 ^ 53 < (now - days * dayMs).natAbs ∧
        (toNumber (some now) - number * .ofInt dayMs).IsFar (2 ^ 53) := by
  have hgrid := Number.round53_two_pow 53
  have hsub : ∀ n : Number, Number.real now - n = .add (.real now) n.neg := fun _ => rfl
  rw [toNumber_some hnow, hsub]
  generalize hproduct : number * .ofInt dayMs = product
  rcases hproduct ▸ mul_dayMs_cases h with hexact | ⟨hlarge, hfar⟩
  · rw [hexact.sub_eq hnow]
    by_cases hsmall : (now - days * dayMs).natAbs ≤ 2 ^ 53
    · exact .inl ⟨hsmall, Number.ofRat_intCast hsmall⟩
    · refine .inr ⟨not_le.1 hsmall, Number.isFar_ofRat hgrid (by norm_num) ?_⟩
      rw [Number.abs_intCast]
      exact_mod_cast (not_le.1 hsmall).le
  · refine .inr ⟨by omega, hfar.neg.add (by norm_num) hgrid (by norm_num) ?_⟩
    have hcast : |(now : Rat)| ≤ 2 ^ 53 := by
      rw [Number.abs_intCast]
      exact_mod_cast hnow
    linarith

/-- The beginning of a span is a whole number of seconds before its end, or no date. -/
theorem bootstrap_eq {now days : Int} (hnow : now.natAbs ≤ 2 ^ 53) (h : number.Denotes days) :
    bootstrap (some now) number = date? ((now - days * dayMs) / 1000 * 1000) := by
  have hthousand : (1000 : Number) = .real 1000 := rfl
  rw [bootstrap, hthousand]
  rcases sub_days_cases hnow h with ⟨hsmall, hexact⟩ | ⟨hlarge, hfar⟩
  · rw [hexact]
    generalize now - days * dayMs = n at hsmall
    have hdiv : (Number.real n / .real 1000).floor = .real (n / 1000 : Int) := by
      rcases eq_or_ne n 0 with rfl | hne
      · decide +kernel
      · have hquot : Number.real n / .real 1000 = .ofRat ((n : Rat) / 1000) :=
          Number.div_real (by exact_mod_cast hne) (by norm_num)
        rw [hquot, Number.floor_ofRat_div_thousand hsmall]
    have hmul : ofNumber (.real (n / 1000 : Int) * .real 1000) = date? (n / 1000 * 1000) := by
      generalize n / 1000 = a
      rcases eq_or_ne a 0 with rfl | hne
      · decide +kernel
      · have hprod : Number.real a * .real 1000 = .ofRat ((a * 1000 : Int) : Rat) := by
          rw [Int.cast_mul]
          refine if_neg ?_
          simpa [Number.toRat] using hne
        rw [hprod, ofNumber_ofRat_intCast]
    rw [hdiv, hmul]
  · -- a thousandth of what is far from zero is so far that a thousand times it is no date
    have hdivided := Number.round53_ofNat 9007199254740 (by norm_num)
    have hback := Number.round53_ofNat 9007199254740000 (by norm_num)
    have hquot : (Number.div (toNumber (some now) - number * .ofInt dayMs) (.real 1000)).IsFar
        (9007199254740 : Nat) :=
      hfar.div (by norm_num) (by exact_mod_cast hdivided) (by norm_num) (by norm_num) (by norm_num)
    have hproduct := hquot.floor.mul (by norm_num) hback (by norm_num)
      (c := 1000) (by norm_num) (by norm_num)
    refine (ofNumber_of_isFar hproduct (by norm_num)).trans (date?_eq_none_iff.2 ?_).symm
    omega

end Timestamp

end CorpusForge
