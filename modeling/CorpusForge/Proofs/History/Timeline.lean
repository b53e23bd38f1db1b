import CorpusForge.Proofs.History.Schedule
import CorpusForge.Proofs.History.Timestamp
import CorpusForge.Proofs.Number.Text
import CorpusForge.Proofs.Random.Choices

/-!
# The dates of a history

The first date of a history is computed from now, and each later one from the one before it, in
binary64 numbers. What is drawn between two of them is a whole number of hours (`Number.IsWithin`),
and as long as the dates stay in the calendar they are exact (`Timestamp.IsTracked`); a date that
has left the calendar does not come back. So a step leads from a date to one that follows it
(`Timestamp.IsTracked.step`), and a history is a chain of such dates
(`Schedule.isChain_of_run_plan`).

* `Drawing.isWithin_spread`: the hours that a word stands for;
* `Timestamp.mul_hourMs_cases`: their milliseconds;
* `Schedule.exists_seconds_of_run_plan`: the law of the dates, and what is written of them.
-/

namespace CorpusForge

/-! ### Hours -/

namespace Number

/-- A whole number of a range. One that is large may be rounded. -/
def IsWithin (low high : Nat) (number : Number) : Prop :=
  (∃ k : Nat, low ≤ k ∧ k ≤ high ∧ k < 2 ^ 38 ∧ number = real k) ∨
    2 ^ 38 ≤ high ∧ number.AtLeast (2 ^ 38)

theorem isWithin_natCast {low high k : Nat} (hlow : low ≤ k) (hhigh : k ≤ high) :
    (real k).IsWithin low high := by
  by_cases hsmall : k < 2 ^ 38
  · exact .inl ⟨k, hlow, hhigh, hsmall, rfl⟩
  · refine .inr ⟨(not_lt.1 hsmall).trans hhigh, fun _ => ?_⟩
    rw [toRat]
    exact_mod_cast not_lt.1 hsmall

end Number

namespace Drawing

/-- What a fraction of a range keeps of it is not negative, however it is rounded. -/
theorem atLeast_zero_fraction_mul (u : UInt32) {low high : Nat} (hle : low ≤ high) :
    (fraction u * (Number.real high - .real low).next).AtLeast 0 := by
  have hzero : Number.round53 0 = 0 := rfl
  have hnegative : (Number.neg (.real low)).AtLeast (-low) := fun _ => by
    rw [Number.toRat_neg, Number.toRat]
  have hhigh : (Number.real high).AtLeast high := fun _ => le_rfl
  have hone : (Number.real 1).AtLeast 0 := fun _ => zero_le_one
  have hdifference : (Number.real high - .real low).AtLeast 0 :=
    hhigh.add hnegative hzero le_rfl (by simpa using hle)
  have hwidth : (Number.real high - .real low).next.AtLeast 0 :=
    hdifference.add hone hzero le_rfl (by norm_num)
  have hproduct := hwidth.mul (c := u.toNat / 4294967296) le_rfl (by positivity) hzero le_rfl
    (by simp)
  rwa [Number.mul_swap] at hproduct

/-- A word stands for a whole number of the range. -/
theorem isWithin_spread (u : UInt32) {low high : Nat} (hle : low ≤ high) :
    (spread u (.real low) (.real high)).IsWithin low high := by
  by_cases hhigh : high < 2 ^ 53
  · obtain ⟨k, hlow, hmost, hk⟩ := spread_natCast u hle hhigh
    rw [hk]
    exact Number.isWithin_natCast hlow hmost
  have hgrid := Number.round53_two_pow 38
  have hpart := atLeast_zero_fraction_mul u hle
  rw [spread]
  generalize fraction u * (Number.real high - .real low).next = part at hpart
  cases part with
  | nan | infinite => exact .inr ⟨by omega, Number.atLeast_of_not_finite rfl⟩
  | negZero => exact Number.isWithin_natCast le_rfl hle
  | real q =>
    have hq : 0 ≤ q.floor := Rat.le_floor_iff.2 (by exact_mod_cast hpart rfl)
    obtain ⟨j, hj⟩ := Int.eq_ofNat_of_zero_le hq
    have hsum : Number.floor (.real q) + .real low = .ofRat ((j + low : Nat) : Rat) := by
      rw [Number.floor, hj, Nat.cast_add]
      rfl
    rw [hsum]
    -- a sum that is small is exact, and any other is not rounded below what is small
    by_cases hsmall : j + low < 2 ^ 38
    · have hexact := @Number.ofRat_intCast (j + low : Nat) (by omega)
      rw [Int.cast_natCast] at hexact
      rw [hexact]
      exact Number.isWithin_natCast (Nat.le_add_left _ _) (by omega)
    · exact .inr ⟨by omega, Number.atLeast_ofRat hgrid (by norm_num)
        (by exact_mod_cast not_lt.1 hsmall)⟩

/-- What is drawn from a range of whole numbers is one of them, or it is large. -/
theorem yields_int_isWithin {low high : Nat} (hle : low ≤ high) :
    (int (.real low) (.real high)).Yields fun number => number.IsWithin low high := by
  rw [int, Number.floor_natCast, Number.ceil_natCast]
  split
  next => exact yields_refuse _
  next => exact yields_bind_of_forall fun u => yields_pure (isWithin_spread u hle)

end Drawing

/-! ### Steps -/

namespace Timestamp

/-- The date some hours after another one, as long as they are in the calendar. -/
def after (hours : Nat) (t : Timestamp) : Timestamp := t.bind fun ms => date? (ms + hours * hourMs)

@[simp]
theorem after_none (hours : Nat) : after hours none = none := rfl

@[simp]
theorem after_some (hours : Nat) (ms : Int) :
    after hours (some ms) = date? (ms + hours * hourMs) := rfl

/-- A date lies a whole number of hours of the range after another one. -/
def Follows (low high : Nat) (t t' : Timestamp) : Prop :=
  ∃ hours : Nat, low ≤ hours ∧ hours ≤ high ∧ t' = after hours t

/-- Milliseconds that are those of a date, or beyond every date. -/
def IsTracked (ms : Number) : Prop :=
  (∃ t, date? t = some t ∧ ms = .real (t : Int)) ∨ ms.AtLeast 8640000000000001

variable {low high : Nat} {ms hours : Number}

theorem ofNumber_of_atLeast (h : ms.AtLeast 8640000000000001) : ofNumber ms = none :=
  ofNumber_of_isFar (fun hfinite => (h hfinite).trans (le_abs_self _)) le_rfl

theorem isTracked_ofRat {t : Int} (h : -8640000000000000 ≤ t) : IsTracked (.ofRat t) := by
  by_cases hdate : t.natAbs ≤ 8640000000000000
  · exact .inl ⟨t, date?_eq_some_iff.2 ⟨hdate, rfl⟩, Number.ofRat_intCast (by omega)⟩
  · have hgrid := Number.round53_ofNat 8640000000000001 (by norm_num)
    have hlarge : (8640000000000001 : Int) ≤ t := by omega
    exact .inr (Number.atLeast_ofRat hgrid (by norm_num) (by exact_mod_cast hlarge))

/-- A whole number of hours in milliseconds: exactly, or beyond every date. -/
theorem mul_hourMs_cases (h : hours.IsWithin low high) :
    (∃ k : Nat, low ≤ k ∧ k ≤ high ∧ hours * .ofInt hourMs = .real (k * hourMs : Int)) ∨
      2 ^ 38 ≤ high ∧ (hours * .ofInt hourMs).AtLeast (2 ^ 59) := by
  have hhour : Number.ofInt hourMs = .real 3600000 := rfl
  rw [hhour]
  rcases h with ⟨k, hlow, hmost, hsmall, rfl⟩ | ⟨hlarge, hhours⟩
  · refine .inl ⟨k, hlow, hmost, ?_⟩
    rw [Number.real_mul_real]
    split
    next hzero =>
      obtain rfl : k = 0 := by
        have hzero : (k : Rat) = 0 := hzero.resolve_right (by norm_num)
        exact_mod_cast hzero
      rfl
    next =>
      -- an hour is 128 times a number that is not too large
      have hhours : (k * hourMs : Int) = k * 28125 * 2 ^ 7 := by
        simp only [hourMs]
        omega
      have hcast : (k : Rat) * 3600000 = (k * hourMs : Int) := by
        push_cast [hourMs]
        rfl
      rw [hcast, hhours]
      exact Number.ofRat_mul_two_pow (by omega) (by norm_num)
  · have hgrid := Number.round53_two_pow 59
    exact .inr ⟨hlarge, hhours.mul (by norm_num) (by norm_num) hgrid (by norm_num) (by norm_num)⟩

/-- What a step of some hours leads to. -/
theorem IsTracked.step (h : IsTracked ms) (hhours : hours.IsWithin low high) (hle : low ≤ high) :
    IsTracked (ms + hours * .ofInt hourMs) ∧
      Follows low high (ofNumber ms) (ofNumber (ms + hours * .ofInt hourMs)) := by
  have hgrid := Number.round53_ofNat 8640000000000001 (by norm_num)
  have hcases := mul_hourMs_cases hhours
  generalize hours * .ofInt hourMs = gap at hcases
  rcases h with ⟨t, ht, rfl⟩ | hlost
  · -- from a date, the hours are counted exactly, or they are so many that they lead to none
    rw [ofNumber_intCast, ht]
    obtain ⟨hdate, -⟩ := date?_eq_some_iff.1 ht
    rcases hcases with ⟨k, hlow, hmost, rfl⟩ | ⟨hlarge, hgap⟩
    · have hadd : Number.real t + .real (k * hourMs : Int) = .ofRat (t + k * hourMs : Int) := by
        rw [Int.cast_add]
        rfl
      have hafter : 0 ≤ (k : Int) * hourMs := by simp only [hourMs]; omega
      rw [hadd, ofNumber_ofRat_intCast]
      exact ⟨isTracked_ofRat (by omega), k, hlow, hmost, rfl⟩
    · have hstart : (Number.real t).AtLeast (-8640000000000000) := fun _ => by
        rw [Number.toRat]
        exact_mod_cast (by omega : -8640000000000000 ≤ t)
      have hsum : (Number.real t + gap).AtLeast 8640000000000001 :=
        hstart.add hgap hgrid (by norm_num) (by norm_num)
      refine ⟨.inr hsum, high, hle, le_rfl, ?_⟩
      rw [ofNumber_of_atLeast hsum, after_some, eq_comm, date?_eq_none_iff]
      simp only [hourMs]
      omega
  · -- what is beyond every date stays there, since hours are not negative
    have hgap : gap.AtLeast 0 := by
      rcases hcases with ⟨k, -, -, rfl⟩ | ⟨-, hgap⟩
      · intro _
        rw [Number.toRat]
        exact_mod_cast (by simp only [hourMs]; omega : 0 ≤ (k : Int) * hourMs)
      · exact hgap.mono (by norm_num)
    have hsum : (ms + gap).AtLeast 8640000000000001 :=
      hlost.add hgap hgrid (by norm_num) (by norm_num)
    refine ⟨.inr hsum, high, hle, le_rfl, ?_⟩
    rw [ofNumber_of_atLeast hlost, ofNumber_of_atLeast hsum, after_none]

/-- The milliseconds of a date are tracked. -/
theorem isTracked_toNumber (x : Int) : IsTracked (date? x).toNumber := by
  rcases date?_cases x with hx | ⟨hdate, hx⟩ <;> rw [hx]
  · exact .inr (Number.atLeast_of_not_finite rfl)
  · exact .inl ⟨x, hx, toNumber_some (hdate.trans (by norm_num))⟩

theorem ofNumber_toNumber (x : Int) : ofNumber (date? x).toNumber = date? x := by
  rcases date?_cases x with hx | ⟨hdate, hx⟩ <;> rw [hx]
  · rfl
  · rw [toNumber_some (hdate.trans (by norm_num)), ofNumber_intCast, hx]

end Timestamp

/-! ### Histories -/

namespace Schedule

open Timestamp

variable {input : Input} {now days : Int} {low high : Nat} {g g' : Gen} {commits : List Commit}

/-- What the dates of a history are made from: there is someone to commit, now is a date, the span
    is a whole number of days, and the gaps are from a range of whole hours, one at least. -/
structure Input.IsTimed (input : Input) (now days : Int) (low high : Nat) : Prop where
  contributors : input.contributors ≠ []
  present : input.now = some now
  isDate : now.natAbs ≤ 8640000000000000
  spanDays : input.timeline.spanDays.Denotes days
  minGapHours : input.timeline.minGapHours = .real low
  maxGapHours : input.timeline.maxGapHours = .real high
  one_le : 1 ≤ low
  ordered : low ≤ high

theorem Input.IsTimed.isTotal_plan (h : input.IsTimed now days low high) :
    (plan input).IsTotal := by
  have hgap : (Drawing.int input.timeline.minGapHours input.timeline.maxGapHours).IsTotal := by
    rw [h.minGapHours, h.maxGapHours]
    exact Drawing.isTotal_int_natCast h.ordered
  exact Schedule.isTotal_plan h.contributors hgap

/-- The dates of the commits follow each other. -/
theorem yields_commitsFrom_isChain (h : input.IsTimed now days low high) (index : Nat)
    {ms : Number} (hms : IsTracked ms) (batches : List (List String)) :
    (commitsFrom input index ms batches).Yields fun commits =>
      (ofNumber ms :: commits.map Commit.timestamp).IsChain (Follows low high) := by
  induction batches generalizing index ms with
  | nil => exact Drawing.yields_pure (List.isChain_singleton _)
  | cons files rest ih =>
    have hgap : (Drawing.int input.timeline.minGapHours input.timeline.maxGapHours).Yields
        (Number.IsWithin low high) := by
      rw [h.minGapHours, h.maxGapHours]
      exact Drawing.yields_int_isWithin h.ordered
    refine Drawing.yields_bind_of_forall fun _ => Drawing.yields_bind_of_forall fun _ =>
      hgap.bind fun hours hhours => ?_
    obtain ⟨htracked, hfollows⟩ := hms.step hhours h.ordered
    exact (ih (index + 1) htracked).bind fun commits hcommits =>
      Drawing.yields_pure (hcommits.cons_cons hfollows)

/-- The first second of a history: the span before now, without the fraction. -/
def firstSecond (now days : Int) : Int := (now - days * dayMs) / 1000

/-- The dates of a history follow each other from the first second on. -/
theorem isChain_of_run_plan (h : input.IsTimed now days low high)
    (hrun : (plan input).run g = (.ok commits, g')) :
    ∃ rest, commits.map Commit.timestamp = date? (firstSecond now days * 1000) :: rest ∧
      (date? (firstSecond now days * 1000) :: rest).IsChain (Follows low high) := by
  suffices hplan : (plan input).Yields fun commits => ∃ rest,
      commits.map Commit.timestamp = date? (firstSecond now days * 1000) :: rest ∧
        (date? (firstSecond now days * 1000) :: rest).IsChain (Follows low high) from hplan hrun
  have hexact : now.natAbs ≤ 2 ^ 53 := h.isDate.trans (by norm_num)
  have hstart := bootstrap_eq hexact h.spanDays
  rw [← h.present] at hstart
  rw [plan]
  split
  next hnone => exact absurd hnone h.contributors
  next founder others _ =>
    simp only [hstart]
    split
    next => exact Drawing.yields_pure ⟨[], rfl, List.isChain_singleton _⟩
    next =>
      have htracked := isTracked_toNumber (firstSecond now days * 1000)
      refine (yields_commitsFrom_isChain h 1 htracked _).bind fun commits hcommits => ?_
      rw [ofNumber_toNumber] at hcommits
      exact Drawing.yields_pure ⟨_, rfl, hcommits⟩

/-- The gap between two seconds is a whole number of hours of the range. -/
def IsGap (low high : Nat) (s s' : Int) : Prop :=
  ∃ k : Nat, low ≤ k ∧ k ≤ high ∧ s' * 1000 = s * 1000 + k * 3600000

theorem IsGap.lt {s s' : Int} (h : IsGap low high s s') (hlow : 1 ≤ low) : s < s' := by
  obtain ⟨k, hk, -, hgap⟩ := h
  omega

theorem pairwise_lt_of_isChain {seconds : List Int} (h : seconds.IsChain (IsGap low high))
    (hlow : 1 ≤ low) : seconds.Pairwise (· < ·) :=
  List.isChain_iff_pairwise.1 (h.imp fun _ _ hgap => hgap.lt hlow)

/-- Dates that follow each other from a whole second on are whole seconds. -/
theorem exists_seconds_of_isChain {dates : List Timestamp} {second : Int}
    (hchain : (date? (second * 1000) :: dates).IsChain (Follows low high))
    (hdates : ∀ t ∈ dates, t ≠ none) (hfirst : date? (second * 1000) ≠ none) :
    ∃ seconds : List Int, dates = seconds.map (fun s => date? (s * 1000)) ∧
      (second :: seconds).IsChain (IsGap low high) := by
  induction dates generalizing second with
  | nil => exact ⟨[], rfl, List.isChain_singleton _⟩
  | cons t rest ih =>
    obtain ⟨⟨k, hlow, hmost, ht⟩, hrest⟩ := List.isChain_cons_cons.1 hchain
    obtain ⟨hdate, hothers⟩ := List.forall_mem_cons.1 hdates
    obtain ⟨-, hsecond⟩ := (date?_cases _).resolve_left hfirst
    have hnext : second * 1000 + k * hourMs = (second + k * 3600) * 1000 := by
      simp only [hourMs]
      omega
    rw [hsecond, after_some, hnext] at ht
    rw [ht] at hrest hdate
    obtain ⟨seconds, hseconds, hgaps⟩ := ih hrest hothers hdate
    refine ⟨(second + k * 3600) :: seconds, ?_, hgaps.cons_cons ⟨k, hlow, hmost, by omega⟩⟩
    rw [ht, hseconds, List.map_cons]

/-- A date that is a whole second is written as that. -/
theorem rawText_date? {s : Int} (h : date? (s * 1000) ≠ none) :
    rawText (date? (s * 1000)) = "@" ++ toString s ++ " +0000" := by
  obtain ⟨hdate, hsome⟩ := (date?_cases _).resolve_left h
  rw [hsome, rawText, Int.mul_ediv_cancel s (by norm_num), Number.intText_eq_toString (by omega)]

/-- The law of a timeline. A history can be planned for every number of commits, and when none of
    its dates leaves the calendar, they are whole seconds. The first one is the span before now,
    without the fraction of a second, and each later one follows its predecessor by a whole number
    of hours of the range. So the seconds grow, and they are what is written of the dates. -/
theorem exists_seconds_of_run_plan (h : input.IsTimed now days low high) (g : Gen) :
    (input.targetCommits ≠ .nan → ∃ commits g', (plan input).run g = (.ok commits, g')) ∧
      ∀ commits g', (plan input).run g = (.ok commits, g') →
        (∀ commit ∈ commits, commit.timestamp ≠ none) →
        ∃ seconds : List Int,
          commits.map Commit.timestamp = seconds.map (fun s => some (s * 1000)) ∧
          seconds.head? = some ((now - days * 86400000) / 1000) ∧
          (seconds.IsChain fun (s s' : Int) =>
            ∃ k : Nat, low ≤ k ∧ k ≤ high ∧ s' * 1000 = s * 1000 + k * 3600000) ∧
          seconds.Pairwise (· < ·) ∧
          commits.map (fun commit => commit.timestamp.rawText) =
            seconds.map fun s => "@" ++ toString s ++ " +0000" := by
  refine ⟨fun _ => h.isTotal_plan g, fun commits g' hrun hdates => ?_⟩
  obtain ⟨rest, hcommits, hchain⟩ := isChain_of_run_plan h hrun
  have hsome : ∀ t ∈ date? (firstSecond now days * 1000) :: rest, t ≠ none := by
    rw [← hcommits, List.forall_mem_map]
    exact hdates
  obtain ⟨hfirst, hrest⟩ := List.forall_mem_cons.1 hsome
  obtain ⟨others, rfl, hgaps⟩ := exists_seconds_of_isChain hchain hrest hfirst
  rw [← List.map_cons (f := fun s : Int => date? (s * 1000))] at hcommits hsome
  rw [List.forall_mem_map] at hsome
  refine ⟨firstSecond now days :: others, ?_, rfl, hgaps, pairwise_lt_of_isChain hgaps h.one_le, ?_⟩
  · rw [hcommits]
    exact List.map_congr_left fun s hs => ((date?_cases _).resolve_left (hsome s hs)).2
  · rw [← Function.comp_def rawText, ← List.map_map, hcommits, List.map_map]
    exact List.map_congr_left fun s hs => rawText_date? (hsome s hs)

/-- Two days over the beginning of 1970. -/
theorem exists_seconds_of_run_plan_1969 :
    let input : Input :=
      { files := ["README.md", "a", "b", "c"], bootstrapFiles := ["README.md"]
        targetCommits := .real 9, contributors := [⟨"founder", "founder@example.com"⟩]
        now := some 1500
        timeline := ⟨.real 1, .real 1, .real 2⟩ }
    input.IsTimed 1500 1 1 2 ∧
      ∃ commits g', (plan input).run (.ofText "seed") = (.ok commits, g') ∧
        (∀ commit ∈ commits, commit.timestamp ≠ none) ∧
        ∃ seconds : List Int,
          commits.map Commit.timestamp = seconds.map (fun s => some (s * 1000)) ∧
          seconds.head? = some (-86399) ∧ seconds.Pairwise (· < ·) := by
  intro input
  have hinput : input.IsTimed 1500 1 1 2 :=
    { contributors := List.cons_ne_nil _ _
      present := rfl
      isDate := by decide
      spanDays := ⟨rfl, by norm_num [input, Number.toRat]⟩
      minGapHours := by simp [input]
      maxGapHours := by simp [input]
      one_le := le_rfl
      ordered := by decide }
  obtain ⟨hexists, hlaw⟩ := exists_seconds_of_run_plan hinput (.ofText "seed")
  obtain ⟨commits, g', hrun⟩ := hexists (by decide)
  have hdated : ((plan input).run (.ofText "seed")).1.map
      (fun commits => commits.all fun commit => commit.timestamp.isSome) = .ok true := by
    decide +kernel
  rw [hrun] at hdated
  have hdates : ∀ commit ∈ commits, commit.timestamp ≠ none := fun commit hmem =>
    Option.isSome_iff_ne_none.1 (List.all_eq_true.1 (Except.ok.inj hdated) commit hmem)
  obtain ⟨seconds, hseconds, hhead, -, hlt, -⟩ := hlaw commits g' hrun hdates
  exact ⟨hinput, commits, g', hrun, hdates, seconds, hseconds, hhead, hlt⟩

end Schedule

end CorpusForge
