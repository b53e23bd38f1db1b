import CorpusForge.Proofs.Config.Accepted
import CorpusForge.Proofs.Random.Choices

/-!
# Ranges and tables

What an accepted configuration says of sizes and histories are ranges of whole numbers, and its
tables leave no choice empty.

* `Config.IsAccepted.ranges`: the sizes can be drawn;
* `Config.IsAccepted.timeline`: so can the gaps between commits;
* `Config.IsAccepted.templates`, `Config.IsAccepted.languages`: tables without holes.
-/

namespace CorpusForge

open Reading Spot

/-! ### Sizes -/

namespace Number

/-- A whole number that passes a lower limit above zero. -/
theorem exists_eq_real_of_least {least : Nat} (hpos : 0 < least) (hleast : least ≤ 2 ^ 53)
    {number : Number} (hwhole : number.isInteger = true)
    (hlimit : defectsBelow least number = []) : ∃ n : Nat, least ≤ n ∧ number = real n := by
  have hreal : ofInt least = real least := ofNat_eq hleast
  have hnot : number.lt (real least) = false := by
    by_contra hlt
    rw [Bool.not_eq_false] at hlt
    simp [defectsBelow, hreal, hlt] at hlimit
  cases number with
  | nan | infinite => simp [isInteger] at hwhole
  | negZero =>
    -- the negative zero is below every limit that is above zero
    have hlt : (0 : Rat) < least := by exact_mod_cast hpos
    exact absurd hnot (by simp [lt, toRat, hlt])
  | real q =>
    obtain ⟨m, rfl⟩ := exists_intCast_of_isInteger hwhole
    rw [Bool.eq_false_iff, ne_eq, lt_real_iff, not_lt] at hnot
    have hm : (least : Int) ≤ m := by exact_mod_cast hnot
    refine ⟨m.toNat, by omega, ?_⟩
    rw [← Int.cast_natCast, Int.toNat_of_nonneg (by omega)]

end Number

/-- A whole number above zero. -/
def Number.IsPositive (number : Number) : Prop := ∃ n : Nat, 0 < n ∧ number = .real n

/-- A range of whole numbers from `least` on, of which there is one at least. -/
def Range.IsFrom (least : Nat) (range : Range) : Prop :=
  ∃ low high : Nat, least ≤ low ∧ low ≤ high ∧ range = ⟨.real low, .real high⟩

theorem Range.isFrom_of_gives_read {least : Nat} (hpos : 0 < least) (hleast : least ≤ 2 ^ 53)
    {spot : Spot} {range : Range} (h : (Range.read least spot).Gives range) :
    range.IsFrom least := by
  obtain ⟨hpair, horder⟩ := gives_check_iff.1 h
  rw [demand_eq_nil_iff] at horder
  obtain ⟨⟨low, high⟩, hgives, rfl⟩ := gives_map_iff.1 hpair
  obtain ⟨_, _, -, hlow, hhigh⟩ := gives_pair_iff.1 hgives
  obtain ⟨-, hlow, hlowLimit⟩ := gives_whole_iff.1 hlow
  obtain ⟨-, hhigh, hhighLimit⟩ := gives_whole_iff.1 hhigh
  obtain ⟨a, ha, rfl⟩ := Number.exists_eq_real_of_least hpos hleast hlow hlowLimit
  obtain ⟨b, -, rfl⟩ := Number.exists_eq_real_of_least hpos hleast hhigh hhighLimit
  exact ⟨a, b, ha, Number.le_natCast_iff.1 horder, rfl⟩

/-- The sizes of a repository can be drawn: a line at least, two commits at least, and someone who
    makes them. -/
structure Ranges.IsDrawable (r : Ranges) : Prop where
  lines : r.lines.IsFrom 1
  commits : r.commits.IsFrom 2
  maxContributors : r.maxContributors.IsPositive

theorem Ranges.isDrawable_default : Ranges.IsDrawable {} where
  lines := ⟨1000, 50000, by norm_num, by norm_num, rfl⟩
  commits := ⟨100, 500, by norm_num, by norm_num, rfl⟩
  maxContributors := ⟨5, by norm_num, rfl⟩

theorem Ranges.isDrawable_of_gives_read {spot : Spot} {r : Ranges} (h : (read spot).Gives r) :
    r.IsDrawable := by
  refine of_gives_withDefault h isDrawable_default fun hgiven => ?_
  obtain ⟨fields, -, hread, -⟩ := gives_record_iff.1 hgiven
  simp only [gives_seq_iff, gives_map_iff] at hread
  obtain ⟨_, most, ⟨_, commits, ⟨lines, hlines, rfl⟩, hcommits, rfl⟩, hmost, rfl⟩ := hread
  exact
    ⟨of_gives_withDefault hlines isDrawable_default.lines
      (Range.isFrom_of_gives_read (by norm_num) (by norm_num)),
    of_gives_withDefault hcommits isDrawable_default.commits
      (Range.isFrom_of_gives_read (by norm_num) (by norm_num)),
    of_gives_withDefault (P := Number.IsPositive) hmost isDrawable_default.maxContributors
      exists_eq_real_of_gives_positive⟩

/-- The gaps between the commits of a history can be drawn. -/
structure Timeline.IsDrawable (t : Timeline) : Prop where
  minGapHours : t.minGapHours.isInteger = true
  maxGapHours : t.maxGapHours.isInteger = true
  ordered : t.minGapHours.le t.maxGapHours = true

/-- A span of whole days, and gaps from a range of whole hours, one at least of each. -/
def Timeline.IsWhole (t : Timeline) : Prop :=
  ∃ days low high : Nat, 1 ≤ days ∧ 1 ≤ low ∧ low ≤ high ∧ t = ⟨.real days, .real low, .real high⟩

theorem Timeline.isWhole_of_gives_read {spot : Spot} {t : Timeline} (h : (read spot).Gives t) :
    t.IsWhole := by
  refine of_gives_withDefault h ⟨365, 1, 48, by norm_num, by norm_num, by norm_num, rfl⟩
    fun hgiven => ?_
  obtain ⟨hrecord, horder⟩ := gives_check_iff.1 hgiven
  rw [demand_eq_nil_iff, Bool.not_eq_true'] at horder
  obtain ⟨fields, -, hread, -⟩ := gives_record_iff.1 hrecord
  simp only [gives_seq_iff, gives_map_iff] at hread
  obtain ⟨_, high, ⟨_, low, ⟨span, hspan, rfl⟩, hlow, rfl⟩, hhigh, rfl⟩ := hread
  -- both gaps are whole numbers above zero, so one that is not below the other is at most that
  obtain ⟨days, hdays, rfl⟩ := of_gives_withDefault (P := Number.IsPositive) hspan
    ⟨365, by norm_num, rfl⟩ exists_eq_real_of_gives_positive
  obtain ⟨a, ha, rfl⟩ := of_gives_withDefault (P := Number.IsPositive) hlow
    ⟨1, by norm_num, rfl⟩ exists_eq_real_of_gives_positive
  obtain ⟨b, -, rfl⟩ := of_gives_withDefault (P := Number.IsPositive) hhigh
    ⟨48, by norm_num, rfl⟩ exists_eq_real_of_gives_positive
  rw [Bool.eq_false_iff, ne_eq, Number.lt_natCast_iff, not_lt] at horder
  exact ⟨days, a, b, hdays, ha, horder, rfl⟩

theorem Timeline.IsWhole.isDrawable {t : Timeline} (h : t.IsWhole) : t.IsDrawable := by
  obtain ⟨days, low, high, -, -, hle, rfl⟩ := h
  exact ⟨Number.isInteger_natCast low, Number.isInteger_natCast high, Number.le_natCast_iff.2 hle⟩

/-! ### Tables -/

theorem Category.templates_ne_nil_of_gives_read {spot : Spot} {c : Category}
    (h : (read spot).Gives c) : c.templates ≠ [] := by
  obtain ⟨fields, -, hread, -⟩ := gives_record_iff.1 h
  simp only [gives_seq_iff, gives_map_iff] at hread
  obtain ⟨_, templates, ⟨_, count, ⟨name, -, rfl⟩, -, rfl⟩, htemplates, rfl⟩ := hread
  exact List.length_pos_iff.1 (least_le_of_gives_list htemplates)

/-- The weight of a language is a number, and it has an extension; each begins with a dot. -/
structure Language.IsSound (l : Language) : Prop where
  weight : l.weight ≠ .nan
  extensions : l.extensions ≠ []
  dots : ∀ extension ∈ l.extensions, extension.toList.head? = some '.'

instance (l : Language) : Decidable l.IsSound :=
  decidable_of_iff (l.weight ≠ .nan ∧ l.extensions ≠ [] ∧
      ∀ extension ∈ l.extensions, extension.toList.head? = some '.')
    ⟨fun ⟨hweight, hextensions, hdots⟩ => ⟨hweight, hextensions, hdots⟩,
      fun h => ⟨h.weight, h.extensions, h.dots⟩⟩

theorem Language.isSound_of_gives_read {spot : Spot} {l : Language} (h : (read spot).Gives l) :
    l.IsSound := by
  obtain ⟨fields, -, hread, -⟩ := gives_record_iff.1 h
  simp only [gives_seq_iff, gives_map_iff] at hread
  obtain ⟨_, extensions, ⟨_, weight, ⟨name, -, rfl⟩, hweight, rfl⟩, hextensions, rfl⟩ := hread
  refine ⟨(gives_number_iff.1 (gives_check_iff.1 hweight).1).2,
    List.length_pos_iff.1 (least_le_of_gives_list hextensions), fun extension hmem => ?_⟩
  obtain ⟨item, hitem⟩ := exists_gives_of_gives_list hextensions extension hmem
  have hdot := (gives_check_iff.1 hitem).2
  rw [demand_eq_nil_iff, decide_eq_true_eq] at hdot
  exact hdot

namespace Config.IsAccepted

variable {c : Config}

theorem ranges (h : c.IsAccepted) : c.ranges.IsDrawable := by
  obtain ⟨field, hread⟩ := h.isRead
  exact Ranges.isDrawable_of_gives_read hread.ranges

theorem isWhole_timeline (h : c.IsAccepted) : c.timeline.IsWhole := by
  obtain ⟨field, hread⟩ := h.isRead
  exact Timeline.isWhole_of_gives_read hread.timeline

theorem timeline (h : c.IsAccepted) : c.timeline.IsDrawable := h.isWhole_timeline.isDrawable

theorem templates (h : c.IsAccepted) : ∀ category ∈ c.categories, category.templates ≠ [] := by
  obtain ⟨field, hread⟩ := h.isRead
  refine of_gives_withDefault
    (P := fun categories => ∀ category ∈ categories, category.templates ≠ []) hread.categories
    (by decide) fun hgiven category hmem => ?_
  obtain ⟨item, hitem⟩ := exists_gives_of_gives_list hgiven category hmem
  exact Category.templates_ne_nil_of_gives_read hitem

theorem languages (h : c.IsAccepted) : ∀ language ∈ c.languages, language.IsSound := by
  obtain ⟨field, hread⟩ := h.isRead
  refine of_gives_withDefault (P := fun languages => ∀ language ∈ languages, language.IsSound)
    hread.languages (by decide +kernel) fun hgiven language hmem => ?_
  obtain ⟨item, hitem⟩ := exists_gives_of_gives_list hgiven language hmem
  exact Language.isSound_of_gives_read hitem

end Config.IsAccepted

end CorpusForge
