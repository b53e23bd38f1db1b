import CorpusForge.Proofs.Config.Acceptance

/-!
# Accepted configurations

A configuration is *accepted* when loading some plain value under some environment gives it
(`Config.IsAccepted`). Each of its settings then has been read by its own reader
(`Config.IsRead`), from which its limits follow.

* `Config.IsAccepted.targetCount`, `Config.IsAccepted.concurrency`: whole numbers above zero;
* `Config.IsAccepted.startIndex`: a whole number up to `99999`;
* `Config.IsAccepted.contributors`: there is someone to commit.
-/

namespace CorpusForge

open Reading Spot

/-! ### Numbers with limits -/

namespace Number

/-- A whole number that passes the lower limit zero. -/
theorem exists_isCount {number : Number} (hwhole : number.isInteger = true)
    (hlimit : defectsBelow 0 number = []) : ∃ n, number.IsCount n := by
  cases number with
  | nan | infinite => simp [isInteger] at hwhole
  | negZero => exact ⟨0, rfl, by simp [toRat]⟩
  | real q =>
    have hpos : 0 ≤ q := by
      by_contra hneg
      have hlt : (real q).lt (ofInt 0) = true := lt_real_iff.2 (by simpa using hneg)
      simp [defectsBelow, hlt] at hlimit
    have hden : q.den = 1 := by simpa [isInteger] using hwhole
    refine ⟨q.num.toNat, rfl, ?_⟩
    rw [toRat, ← Int.cast_natCast, Int.toNat_of_nonneg (Rat.num_nonneg.2 hpos)]
    exact (Rat.coe_int_num_of_den_eq_one hden).symm

/-- A whole number that passes the limit of the positive ones. -/
theorem exists_eq_real_of_positive {number : Number} (hwhole : number.isInteger = true)
    (hlimit : defectsPositive number = []) : ∃ n : Nat, 0 < n ∧ number = real n := by
  cases number with
  | nan | infinite => simp [isInteger] at hwhole
  | negZero => simp [defectsPositive, le, lt, eq, toRat] at hlimit
  | real q =>
    have hpos : 0 < q := by
      by_contra hneg
      have hle : (real q).le (real 0) = true := le_real_iff.2 (not_lt.1 hneg)
      simp [defectsPositive, hle] at hlimit
    have hden : q.den = 1 := by simpa [isInteger] using hwhole
    have hnum : 0 < q.num := Rat.num_pos.2 hpos
    refine ⟨q.num.toNat, by omega, ?_⟩
    rw [← Int.cast_natCast, Int.toNat_of_nonneg hnum.le, Rat.coe_int_num_of_den_eq_one hden]

end Number

theorem Spot.exists_eq_real_of_gives_positive {spot : Spot} {number : Number}
    (h : spot.positive.Gives number) : ∃ n : Nat, 0 < n ∧ number = .real n := by
  obtain ⟨-, hwhole, hlimit⟩ := gives_whole_iff.1 h
  exact Number.exists_eq_real_of_positive hwhole hlimit

/-! ### The settings -/

namespace Config

/-- Each setting of the configuration is what its reader gives. -/
structure IsRead (field : String → Spot) (c : Config) : Prop where
  outputDir : ((field "outputDir").withDefault "./corpus" Spot.name).Gives c.outputDir
  targetCount : ((field "targetCount").withDefault 1000 Spot.positive).Gives c.targetCount
  startIndex : ((field "startIndex").withDefault 5001 (fun spot =>
    spot.whole fun n => n.defectsBelow 0 ++ n.defectsAbove 99999)).Gives c.startIndex
  seed : (Seed.read (field "seed")).Gives c.seed
  concurrency : ((field "concurrency").withDefault 1 Spot.positive).Gives c.concurrency
  skipExisting : ((field "skipExisting").withDefault true Spot.flag).Gives c.skipExisting
  ranges : (Ranges.read (field "ranges")).Gives c.ranges
  timeline : (Timeline.read (field "timeline")).Gives c.timeline
  faultInjection : (FaultInjection.read (field "faultInjection")).Gives c.faultInjection
  categories : ((field "categories").withDefault Corpus.bundledCategories
    (fun spot => spot.list 1 Category.read)).Gives c.categories
  languages : ((field "languages").withDefault Corpus.bundledLanguages
    (fun spot => spot.list 1 Language.read)).Gives c.languages
  contributors : ((field "contributors").withDefault Corpus.bundledContributors
    (fun spot => spot.list 1 Contributor.read)).Gives c.contributors

/-- What is read as a configuration: its settings, one by one, and nothing else. -/
theorem gives_read_iff {spot : Spot} {c : Config} :
    (read spot).Gives c ↔ ∃ fields, spot.value = some (.object fields) ∧
      IsRead (fun key => ⟨Fields.get? key fields, spot.path ++ [key]⟩) c ∧
      ∀ field ∈ fields, field.1 ∈ keys := by
  rw [read, gives_record_iff]
  refine exists_congr fun fields => and_congr_right fun _ =>
    and_congr ?_ filter_unknown_eq_nil_iff
  -- the settings are read one after the other, and the last one is the outermost
  simp only [gives_seq_iff, gives_map_iff]
  constructor
  · rintro ⟨_, contributors, ⟨_, languages, ⟨_, categories, ⟨_, faults, ⟨_, timeline, ⟨_, ranges,
      ⟨_, skip, ⟨_, concurrency, ⟨_, seed, ⟨_, start, ⟨_, target, ⟨dir, hdir, rfl⟩, htarget, rfl⟩,
      hstart, rfl⟩, hseed, rfl⟩, hconcurrency, rfl⟩, hskip, rfl⟩, hranges, rfl⟩, htimeline, rfl⟩,
      hfaults, rfl⟩, hcategories, rfl⟩, hlanguages, rfl⟩, hcontributors, rfl⟩
    exact ⟨hdir, htarget, hstart, hseed, hconcurrency, hskip, hranges, htimeline, hfaults,
      hcategories, hlanguages, hcontributors⟩
  · intro h
    exact ⟨_, _, ⟨_, _, ⟨_, _, ⟨_, _, ⟨_, _, ⟨_, _, ⟨_, _, ⟨_, _, ⟨_, _, ⟨_, _, ⟨_, _,
      ⟨_, h.outputDir, rfl⟩, h.targetCount, rfl⟩, h.startIndex, rfl⟩, h.seed, rfl⟩,
      h.concurrency, rfl⟩, h.skipExisting, rfl⟩, h.ranges, rfl⟩, h.timeline, rfl⟩,
      h.faultInjection, rfl⟩, h.categories, rfl⟩, h.languages, rfl⟩, h.contributors, rfl⟩

theorem exists_isRead {spot : Spot} {c : Config} (h : (read spot).Gives c) :
    ∃ field, IsRead field c := by
  obtain ⟨_, -, hread, -⟩ := gives_read_iff.1 h
  exact ⟨_, hread⟩

/-- Loading some plain value gives the configuration. -/
def IsAccepted (c : Config) : Prop := ∃ env source, load env source = .ok c

namespace IsAccepted

variable {c : Config}

theorem isRead (h : c.IsAccepted) : ∃ field, IsRead field c := by
  obtain ⟨env, source, hload⟩ := h
  obtain ⟨value, -, hread⟩ := load_eq_ok_iff.1 hload
  exact exists_isRead hread

theorem targetCount (h : c.IsAccepted) : ∃ n : Nat, 0 < n ∧ c.targetCount = .real n := by
  obtain ⟨field, hread⟩ := h.isRead
  rcases gives_withDefault_iff.1 hread.targetCount with ⟨-, hdefault⟩ | ⟨-, hgiven⟩
  · exact ⟨1000, by norm_num, by rw [← hdefault]; rfl⟩
  · exact exists_eq_real_of_gives_positive hgiven

theorem concurrency (h : c.IsAccepted) : ∃ n : Nat, 0 < n ∧ c.concurrency = .real n := by
  obtain ⟨field, hread⟩ := h.isRead
  rcases gives_withDefault_iff.1 hread.concurrency with ⟨-, hdefault⟩ | ⟨-, hgiven⟩
  · exact ⟨1, by norm_num, by rw [← hdefault]; rfl⟩
  · exact exists_eq_real_of_gives_positive hgiven

theorem startIndex (h : c.IsAccepted) : ∃ n ≤ 99999, c.startIndex.IsCount n := by
  obtain ⟨field, hread⟩ := h.isRead
  rcases gives_withDefault_iff.1 hread.startIndex with ⟨-, hdefault⟩ | ⟨-, hgiven⟩
  · exact ⟨5001, by norm_num, by rw [← hdefault]; exact Number.isCount_real 5001⟩
  · obtain ⟨-, hwhole, hlimits⟩ := gives_whole_iff.1 hgiven
    obtain ⟨hlow, hhigh⟩ := List.append_eq_nil_iff.1 hlimits
    obtain ⟨n, hfinite, hn⟩ := Number.exists_isCount hwhole hlow
    refine ⟨n, ?_, hfinite, hn⟩
    by_contra habove
    -- a number that denotes more than the limit is above it, and would have been reported
    have hlt : (Number.ofInt 99999).lt c.startIndex = true := by
      cases hc : c.startIndex with
      | nan | infinite => simp [hc, Number.isInteger] at hwhole
      | negZero =>
        have hzero : (0 : Rat) = n := by rw [← hn, hc]; rfl
        norm_cast at hzero
        omega
      | real q =>
        have hq : q = n := by rw [← hn, hc]; rfl
        refine Number.lt_real_iff.2 ?_
        rw [hq]
        exact_mod_cast not_le.1 habove
    simp [Number.defectsAbove, hlt] at hhigh

theorem contributors (h : c.IsAccepted) : c.contributors ≠ [] := by
  obtain ⟨field, hread⟩ := h.isRead
  rcases gives_withDefault_iff.1 hread.contributors with ⟨-, hdefault⟩ | ⟨-, hgiven⟩
  · rw [← hdefault]
    exact List.cons_ne_nil _ _
  · exact List.length_pos_iff.1 (least_le_of_gives_list hgiven)

end IsAccepted

end Config

end CorpusForge
