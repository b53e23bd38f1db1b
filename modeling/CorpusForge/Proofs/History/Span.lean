import CorpusForge.Proofs.Config.Tables
import CorpusForge.Proofs.History.Timeline

/-!
# How far a history goes

A history begins a whole span before now and goes on by what is drawn. Nothing ends it at now: the
date of a commit tells how many hours were drawn up to it (`Schedule.exists_hours_of_run_plan`), and
it is one of the span just when these are hours of the span
(`Schedule.dated_in_span_iff_of_isAccepted`). So a history may go on after now
(`Schedule.dated_after_now`).
-/

namespace CorpusForge

namespace Timestamp

variable {x t : Int} {hours : Nat}

/-- What comes after what has left the calendar has left it too. -/
theorem date?_add_eq_none (hx : -8640000000000000 ≤ x) (h : date? x = none) (hours : Nat) :
    date? (x + hours * hourMs) = none := by
  rw [date?_eq_none_iff] at h ⊢
  simp only [hourMs]
  omega

theorem after_zero (x : Int) : after 0 (date? x) = date? x := by
  rcases date?_cases x with hx | ⟨-, hx⟩
  · rw [hx, after_none]
  · rw [hx, after_some, Nat.cast_zero, zero_mul, add_zero, hx]

/-- Hours after hours are hours. -/
theorem after_after (x : Int) (first second : Nat) :
    after second (after first (date? x)) = after (first + second) (date? x) := by
  rcases date?_cases x with hx | ⟨hdate, hx⟩
  · rw [hx, after_none, after_none, after_none]
  · have hsum : x + (first + second : Nat) * hourMs = x + first * hourMs + second * hourMs := by
      push_cast
      ring
    have hlow : -8640000000000000 ≤ x + first * hourMs := by
      simp only [hourMs]
      omega
    rw [hx, after_some, after_some, hsum]
    rcases date?_cases (x + first * hourMs) with hfirst | ⟨-, hfirst⟩
    · rw [hfirst, after_none, date?_add_eq_none hlow hfirst]
    · rw [hfirst, after_some]

theorem eq_of_after_eq_some (h : after hours (date? x) = some t) : t = x + hours * hourMs := by
  rcases date?_cases x with hx | ⟨-, hx⟩ <;> rw [hx] at h
  · exact nomatch h
  · exact (date?_eq_some_iff.1 h).2.symm

end Timestamp

namespace Schedule

open Timestamp

variable {input : Input} {now days : Int} {low high : Nat} {g g' : Gen} {commits : List Commit}

/-- The gaps of a chain of dates add up. -/
theorem exists_hours_of_isChain {dates : List Timestamp} {x : Int}
    (hfirst : dates[0]? = some (date? x)) (hchain : dates.IsChain (Follows low high)) (i : Nat)
    {t : Timestamp} (ht : dates[i]? = some t) :
    ∃ hours : Nat, i * low ≤ hours ∧ hours ≤ i * high ∧ t = after hours (date? x) := by
  induction i generalizing t with
  | zero =>
    rw [hfirst] at ht
    exact ⟨0, by omega, by omega, (Option.some.inj ht).symm.trans (after_zero x).symm⟩
  | succ i ih =>
    obtain ⟨hlast, rfl⟩ := List.getElem?_eq_some_iff.1 ht
    obtain ⟨hours, hleast, hmost, hbefore⟩ := ih (List.getElem?_eq_getElem (by omega))
    obtain ⟨gap, hlow, hhigh, hgap⟩ := List.isChain_iff_getElem.1 hchain i hlast
    refine ⟨hours + gap, ?_, ?_, ?_⟩
    · rw [Nat.succ_mul]
      omega
    · rw [Nat.succ_mul]
      omega
    · rw [hgap, hbefore, after_after]

/-- The date of a commit tells the hours that were drawn up to it. -/
theorem exists_hours_of_run_plan (h : input.IsTimed now days low high)
    (hrun : (plan input).run g = (.ok commits, g')) {i : Nat} {commit : Commit}
    (hcommit : commits[i]? = some commit) :
    ∃ hours : Nat, i * low ≤ hours ∧ hours ≤ i * high ∧
      commit.timestamp = after hours (date? (firstSecond now days * 1000)) := by
  obtain ⟨rest, hdates, hchain⟩ := isChain_of_run_plan h hrun
  rw [← hdates] at hchain
  refine exists_hours_of_isChain ?_ hchain i ?_
  · rw [hdates]
    rfl
  · rw [List.getElem?_map, hcommit]
    rfl

/-- The hours of the days of a span lead up to now, but not beyond. -/
theorem firstSecond_add_le_iff {hours : Nat} :
    firstSecond now days * 1000 + hours * hourMs ≤ now ↔ hours ≤ 24 * days := by
  simp only [firstSecond, hourMs, dayMs]
  omega

/-- Whatever timeline is accepted, a history can be planned on it, for every number of commits. The
    commit with the number `i` is dated a whole number of hours after the beginning of the span,
    from `i` times the least gap to `i` times the greatest one, as long as that is a date. Its date
    is not after now just when these are not more hours than the span has. -/
theorem dated_in_span_iff_of_isAccepted {config : Config} (hconfig : config.IsAccepted)
    (htimeline : input.timeline = config.timeline) (hcontributors : input.contributors ≠ [])
    (hnow : input.now = some now) (hdate : now.natAbs ≤ 8640000000000000) (g : Gen) :
    (input.targetCommits ≠ .nan → ∃ commits g', (plan input).run g = (.ok commits, g')) ∧
      ∃ days low high : Nat, config.timeline = ⟨.real days, .real low, .real high⟩ ∧
        1 ≤ days ∧ 1 ≤ low ∧ low ≤ high ∧
        ∀ commits g', (plan input).run g = (.ok commits, g') →
          ∀ (i : Nat) (commit : Commit), commits[i]? = some commit →
            ∃ hours : Nat, i * low ≤ hours ∧ hours ≤ i * high ∧
              commit.timestamp = after hours (date? ((now - days * 86400000) / 1000 * 1000)) ∧
              ∀ t, commit.timestamp = some t →
                t = (now - days * 86400000) / 1000 * 1000 + hours * 3600000 ∧
                (t ≤ now ↔ hours ≤ 24 * days) := by
  obtain ⟨days, low, high, hdays, hlow, hle, hwhole⟩ := hconfig.isWhole_timeline
  have htimed : input.IsTimed now days low high := by
    rw [← htimeline] at hwhole
    exact
      { contributors := hcontributors
        present := hnow
        isDate := hdate
        spanDays := by rw [hwhole]; exact ⟨rfl, (Int.cast_natCast days).symm⟩
        minGapHours := by rw [hwhole]
        maxGapHours := by rw [hwhole]
        one_le := hlow
        ordered := hle }
  refine ⟨fun _ => htimed.isTotal_plan g, days, low, high, hwhole, hdays, hlow, hle, ?_⟩
  intro commits g' hrun i commit hcommit
  obtain ⟨hours, hleast, hmost, hafter⟩ := exists_hours_of_run_plan htimed hrun hcommit
  refine ⟨hours, hleast, hmost, hafter, fun t ht => ?_⟩
  obtain rfl := eq_of_after_eq_some (hafter.symm.trans ht)
  exact ⟨rfl, firstSecond_add_le_iff.trans (by norm_cast)⟩

/-- The second commit on the default timeline. -/
theorem dated_in_span_iff_of_isAccepted_default :
    ∃ config, Config.load [] (.object []) = .ok config ∧
      let input : Input :=
        { files := ["README.md", "a", "b"], bootstrapFiles := ["README.md"]
          targetCommits := .real 9, contributors := [⟨"founder", "founder@example.com"⟩]
          now := some 1700000000000
          timeline := config.timeline }
      ∃ commits g', (plan input).run (.ofText "seed") = (.ok commits, g') ∧
        ∀ commit, commits[1]? = some commit →
          ∀ t, commit.timestamp = some t → 1668464000000 < t ∧ t ≤ 1700000000000 := by
  obtain ⟨config, hload, htimeline⟩ : ∃ config, Config.load [] (.object []) = .ok config ∧
      config.timeline = ⟨.real (365 : Nat), .real (1 : Nat), .real (48 : Nat)⟩ := ⟨_, rfl, rfl⟩
  refine ⟨config, hload, ?_⟩
  intro input
  obtain ⟨hexists, days, low, high, hparts, -, -, -, hdated⟩ :=
    @dated_in_span_iff_of_isAccepted input 1700000000000 config ⟨_, _, hload⟩ rfl
      (List.cons_ne_nil _ _) rfl (by decide) (.ofText "seed")
  obtain ⟨commits, g', hrun⟩ := hexists nofun
  refine ⟨commits, g', hrun, fun commit hcommit t ht => ?_⟩
  rw [htimeline] at hparts
  simp only [Timeline.mk.injEq, Number.real.injEq, Nat.cast_inj] at hparts
  obtain ⟨rfl, rfl, rfl⟩ := hparts
  obtain ⟨hours, hleast, hmost, -, hdate⟩ := hdated commits g' hrun 1 commit hcommit
  obtain ⟨hvalue, hnow⟩ := hdate t ht
  exact ⟨by omega, hnow.2 (by omega)⟩

/-- A span of one day, and two days to the second commit: it is dated after now. -/
theorem dated_after_now :
    let timeline : Value := .object [("spanDays", .number 1), ("minGapHours", .number 48),
      ("maxGapHours", .number 48)]
    ∃ config, Config.load [] (.object [("timeline", timeline)]) = .ok config ∧
      let input : Input :=
        { files := ["README.md", "a"], bootstrapFiles := ["README.md"]
          targetCommits := .real 5, contributors := [⟨"founder", "founder@example.com"⟩]
          now := some 1700000000000
          timeline := config.timeline }
      ∃ commits g', (plan input).run (.ofText "seed") = (.ok commits, g') ∧
        ∃ commit ∈ commits, ∃ t, commit.timestamp = some t ∧ 1700000000000 < t := by
  intro timeline
  obtain ⟨config, hload, htimeline⟩ : ∃ config,
      Config.load [] (.object [("timeline", timeline)]) = .ok config ∧
        config.timeline = ⟨.real 1, .real 48, .real 48⟩ := ⟨_, rfl, rfl⟩
  refine ⟨config, hload, ?_⟩
  rw [htimeline]
  intro input
  have hdates : ((plan input).run (.ofText "seed")).1.map
      (fun commits => commits.map Commit.timestamp) =
        .ok [some 1699913600000, some 1700086400000] := by
    decide +kernel
  generalize hrun : (plan input).run (.ofText "seed") = outcome at hdates
  obtain ⟨_ | commits, g'⟩ := outcome
  · exact nomatch hdates
  obtain ⟨first, rest, rfl, -, hrest⟩ := List.map_eq_cons_iff.1 (Except.ok.inj hdates)
  obtain ⟨commit, others, rfl, hcommit, -⟩ := List.map_eq_cons_iff.1 hrest
  exact ⟨_, g', rfl, commit, by simp, _, hcommit, by decide⟩

end Schedule

end CorpusForge
