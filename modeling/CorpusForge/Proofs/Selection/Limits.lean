import Mathlib.Data.List.TakeWhile
import CorpusForge.Proofs.Random.Sampling
import CorpusForge.Proofs.Random.Weighing
import CorpusForge.Proofs.Selection

/-!
# The limits of a specification

What is drawn for a specification keeps to the tables and ranges of the configuration, also where
its numbers are rounded: a weight that is not positive has no share
(`Drawing.exists_pos_of_bucket`), and rounding does not leave a range whose ends are numbers
themselves (`Range.exists_run_int`). The draws follow each other in one stream: one word each for
the language, the lines, the commits and the number of contributors, and one for each contributor
(`Selector.select_obeys`).
-/

namespace CorpusForge

namespace Number

/-- A whole number is rounded to a whole number. -/
theorem exists_round53_natCast (n : Nat) : ∃ m : Nat, round53 n = m := by
  by_cases hn : n ≤ 2 ^ 53
  · have hexact := round53_intCast (n := n) (by omega)
    exact ⟨n, by exact_mod_cast hexact⟩
  · obtain ⟨m, -, hm⟩ := exists_round53_eq_two_mul (not_le.1 hn).le
    exact ⟨2 * m, hm⟩

theorem lt_ofRat_of_nonneg {q : Rat} (hq : 0 ≤ q) : (ofRat q).lt (real 0) = false := by
  have hneg : ¬q < 0 := not_lt.2 hq
  by_cases hsmall : round53 q < overflow
  · rw [ofRat_of_nonneg hq hsmall, Bool.eq_false_iff, ne_eq, lt_real_iff, not_lt]
    exact round53_nonneg hq
  · rw [ofRat, abs_eq, abs_of_nonneg (round53_nonneg hq), if_pos (not_lt.1 hsmall),
      decide_eq_false hneg]
    rfl

/-- Nothing is taken off. -/
theorem sub_real_zero (a : Number) : a - real 0 = a := by
  cases a <;> rfl

/-- All but the missing numbers are compared with zero. -/
theorem le_zero_iff {a : Number} (ha : a ≠ .nan) :
    a.le (real 0) = true ↔ (real 0).lt a = false := by
  cases a with
  | nan => exact absurd rfl ha
  | infinite negative => cases negative <;> simp [le, lt, eq]
  | negZero => simp [le, lt, eq, toRat]
  | real q => rw [le_real_iff, Bool.eq_false_iff, ne_eq, lt_real_iff, not_lt]

end Number

/-! ### Weights -/

namespace Drawing

open Number

variable {weights : List Number} {threshold : Number} {i : Nat}

/-- What brings a threshold below zero is positive. -/
theorem exists_pos_of_bucket (hweights : ∀ weight ∈ weights, weight ≠ .nan)
    (hthreshold : threshold.lt (real 0) = false) (h : bucket threshold weights = some i) :
    ∃ weight, weights[i]? = some weight ∧ (real 0).lt weight = true := by
  induction weights generalizing threshold i with
  | nil => cases h
  | cons weight rest ih =>
    obtain ⟨hweight, hrest⟩ := List.forall_mem_cons.1 hweights
    rw [bucket_cons] at h
    split at h
    next hbelow =>
      cases h
      refine ⟨weight, rfl, ?_⟩
      by_contra hnot
      rw [share_eq_zero hweight (Bool.eq_false_iff.2 hnot), sub_real_zero, hthreshold] at hbelow
      exact absurd hbelow Bool.false_ne_true
    next hleft =>
      obtain ⟨j, hj, rfl⟩ := Option.map_eq_some_iff.1 h
      exact ih hrest (Bool.eq_false_iff.2 hleft) hj

/-- The last resort is a positive weight, if there is one. -/
theorem exists_pos_of_lastBucket (hweights : ∀ weight ∈ weights, weight ≠ .nan)
    (hpos : ∃ weight ∈ weights, (real 0).lt weight = true) :
    ∃ weight, weights[lastBucket weights]? = some weight ∧ (real 0).lt weight = true := by
  obtain ⟨positive, hmem, hlt⟩ := hpos
  cases hrest : weights.reverse.dropWhile fun weight => weight.le (real 0) with
  | nil =>
    have hle := List.dropWhile_eq_nil_iff.1 hrest positive (List.mem_reverse.2 hmem)
    rw [le_zero_iff (hweights positive hmem), hlt] at hle
    exact absurd hle.symm Bool.false_ne_true
  | cons last rest =>
    -- what is passed over stands behind the last positive weight
    have hsplit : weights = (rest.reverse ++ [last]) ++
        (weights.reverse.takeWhile fun weight => weight.le (real 0)).reverse := by
      rw [← List.reverse_cons, ← hrest, ← List.reverse_append, List.takeWhile_append_dropWhile,
        List.reverse_reverse]
    have hlast : last ∈ weights := by
      rw [hsplit]
      simp
    have hstop : ¬last.le (real 0) = true := by
      have hne : weights.reverse.dropWhile (fun weight => weight.le (real 0)) ≠ [] := by
        rw [hrest]
        exact List.cons_ne_nil _ _
      have hhead := List.head_dropWhile_not _ hne
      simpa [hrest] using hhead
    refine ⟨last, ?_, ?_⟩
    · rw [lastBucket, hrest, hsplit]
      simp
    · rwa [le_zero_iff (hweights last hlast), Bool.not_eq_false] at hstop

/-- The threshold that a word stands for is not below zero. -/
theorem lt_fraction_mul (u : UInt32) {total : Number} (htotal : total.IsFrom 0) :
    (fraction u * total).lt (real 0) = false := by
  have hnonneg : (0 : Rat) ≤ (u.toNat : Rat) / 4294967296 := by positivity
  rcases htotal with rfl | ⟨q, rfl, hq⟩
  · have hmul : fraction u * infinite false =
        if (u.toNat : Rat) / 4294967296 = 0 then nan
        else infinite (xor (decide ((u.toNat : Rat) / 4294967296 < 0)) false) := rfl
    rw [hmul, decide_eq_false (not_lt.2 hnonneg)]
    split <;> rfl
  · rw [fraction, real_mul_real]
    split
    next =>
      rw [decide_eq_false (not_lt.2 hnonneg), decide_eq_false (not_lt.2 hq)]
      rfl
    next => exact lt_ofRat_of_nonneg (mul_nonneg hnonneg hq)

/-- An index that is drawn is that of a positive weight. -/
theorem exists_pos_of_run_weightedIndex (hweights : ∀ weight ∈ weights, weight ≠ .nan) {g g' : Gen}
    (h : (weightedIndex weights).run g = (.ok i, g')) :
    (∃ weight, weights[i]? = some weight ∧ (real 0).lt weight = true) ∧ g' = g.advance := by
  have hpos : ∃ weight ∈ weights, (real 0).lt weight = true := by
    by_contra hnone
    simp only [not_exists, not_and, Bool.not_eq_true] at hnone
    rw [refuses_weightedIndex (fun weight hmem => ⟨hweights weight hmem, hnone weight hmem⟩) g] at h
    cases h
  have hsum : (totalShare weights).IsFrom 0 :=
    isFrom_foldl_share le_rfl (fun _ => round53_nonneg) hweights (.inr ⟨0, rfl, le_rfl⟩)
  have htotal : (totalShare weights).le (real 0) = false := by
    by_contra hle
    rw [Bool.not_eq_false, totalShare] at hle
    rw [weightedIndex] at h
    simp only [hle] at h
    cases h
  rw [run_weightedIndex htotal] at h
  cases h
  refine ⟨?_, rfl⟩
  cases hbucket : bucket (fraction g.word * totalShare weights) weights with
  | none => exact exists_pos_of_lastBucket hweights hpos
  | some i => exact exists_pos_of_bucket hweights (lt_fraction_mul _ hsum) hbucket

end Drawing

/-- A language that is picked has a positive weight. -/
theorem Language.exists_pos_of_run_pick {languages : List Language}
    (hsound : ∀ language ∈ languages, language.IsSound) {g g' : Gen} {name : String}
    (h : (pick languages).run g = (.ok name, g')) :
    (∃ language ∈ languages, (Number.real 0).lt language.weight = true ∧ name = language.name) ∧
      g' = g.advance := by
  obtain ⟨i, g₁, hindex, hname⟩ := Drawing.exists_run_of_run_bind h
  obtain ⟨⟨weight, hweight, hpos⟩, rfl⟩ := Drawing.exists_pos_of_run_weightedIndex
    (List.forall_mem_map.2 fun language hmem => (hsound language hmem).weight) hindex
  rw [List.getElem?_map, Option.map_eq_some_iff] at hweight
  obtain ⟨language, hlanguage, rfl⟩ := hweight
  cases hname
  refine ⟨⟨language, List.mem_of_getElem? hlanguage, hpos, ?_⟩, rfl⟩
  rw [hlanguage]
  rfl

/-! ### Ranges -/

namespace Range

/-- The number is one of the whole numbers of the range, ends included. -/
structure Contains (range : Range) (number : Number) : Prop where
  whole : number.isInteger = true
  low_le : range.low.le number = true
  le_high : number.le range.high = true

/-- The ends of the range are numbers, at most `2 ^ 21` apart. -/
structure IsNarrow (range : Range) : Prop where
  low : range.low.IsBinary64
  high : range.high.IsBinary64
  span : range.high.toRat - range.low.toRat ≤ 2 ^ 21

/-- What is drawn from a range lies in it, also beyond the whole numbers that are exact. -/
theorem exists_run_int {least : Nat} {range : Range} (hrange : range.IsFrom least)
    (hnarrow : range.IsNarrow) (g : Gen) :
    ∃ number, (Drawing.int range.low range.high).run g = (.ok number, g.advance) ∧
      range.Contains number := by
  obtain ⟨low, high, -, hle, rfl⟩ := hrange
  obtain ⟨hlow, hhigh, hspan⟩ := hnarrow
  have hwidth : high - low ≤ 2 ^ 21 := by
    have hspan' : (high : Rat) - low ≤ 2 ^ 21 := hspan
    rw [← Nat.cast_sub hle] at hspan'
    exact_mod_cast hspan'
  have hdifference : Number.real high - Number.real low = .real ((high - low : Nat) : Rat) := by
    rcases low.eq_zero_or_pos with rfl | hpos
    · rw [Nat.cast_zero, Number.sub_real_zero, Nat.sub_zero]
    · have hexact := Number.ofRat_intCast (n := (high - low : Nat)) (by omega)
      rw [Int.cast_natCast] at hexact
      rw [Number.real_sub_real _ (by exact_mod_cast hpos.ne'), ← Nat.cast_sub hle, hexact]
  have hnot : (Number.real high).floor.lt (Number.real low).ceil = false := by
    rw [Number.floor_natCast, Number.ceil_natCast, Bool.eq_false_iff, ne_eq, Number.lt_natCast_iff]
    omega
  refine ⟨_, Drawing.run_int hnot g, ?_⟩
  obtain ⟨n, hn, hfloor⟩ := @Drawing.exists_floor_fraction_mul g.word (high - low + 1)
    (Nat.succ_pos _) (by omega)
  -- what is added to the lower end keeps between the ends, and so does the number next to it
  have hnonneg : (0 : Rat) ≤ ((n + low : Nat) : Rat) := Nat.cast_nonneg _
  have hleast := Number.le_round53 hlow.1 (Nat.cast_nonneg low)
    (by exact_mod_cast Nat.le_add_left low n : (low : Rat) ≤ (n + low : Nat))
  have hmost := Number.round53_le_of_le hhigh.1 hnonneg
    (by exact_mod_cast (by omega : n + low ≤ high))
  have hsmall : (high : Rat) < Number.overflow := by
    have hsize := hhigh.2
    rwa [Number.abs_eq, abs_of_nonneg (Nat.cast_nonneg high)] at hsize
  have hspread : Drawing.spread g.word (Number.real low).ceil (Number.real high).floor =
      .real (Number.round53 (n + low : Nat)) := by
    rw [Number.floor_natCast, Number.ceil_natCast, Drawing.spread, hdifference,
      Number.next_natCast (by omega), hfloor,
      ← Number.ofRat_of_nonneg hnonneg (hmost.trans_lt hsmall), Nat.cast_add]
    rfl
  obtain ⟨m, hm⟩ := Number.exists_round53_natCast (n + low)
  rw [hspread]
  refine ⟨?_, Number.le_real_iff.2 hleast, Number.le_real_iff.2 hmost⟩
  rw [hm]
  exact Number.isInteger_natCast m

end Range

/-! ### Contributors -/

namespace Pool

variable {pool : Pool} {maxCount : Number}

/-- The number of contributors is drawn by one word. -/
theorem exists_run_count (hpool : pool.members.length < 2 ^ 32) (hmax : maxCount.IsPositive)
    (g : Gen) :
    ∃ n : Nat, (Drawing.int 1 (pool.limit maxCount)).run g = (.ok (.real n), g.advance) ∧
      1 ≤ n ∧ n ≤ pool.members.length ∧ (Number.real n).le maxCount = true := by
  obtain ⟨most, hmost, rfl⟩ := hmax
  have hmembers : 0 < pool.members.length := List.length_pos_iff.2 pool.nonempty
  have hone : (1 : Number) = .real (1 : Nat) := rfl
  have hrange : (Number.real (min most pool.members.length : Nat)).floor.lt
      (Number.real (1 : Nat)).ceil = false := by
    rw [Number.floor_natCast, Number.ceil_natCast, Bool.eq_false_iff, ne_eq, Number.lt_natCast_iff]
    omega
  obtain ⟨n, hleast, hn, hspread⟩ := @Drawing.spread_natCast g.word 1
    (min most pool.members.length) (by omega) (by omega)
  refine ⟨n, ?_, hleast, hn.trans (Nat.min_le_right _ _),
    Number.le_natCast_iff.2 (hn.trans (Nat.min_le_left _ _))⟩
  rw [limit_eq hpool hmost, hone, Drawing.run_int hrange, Number.floor_natCast,
    Number.ceil_natCast, hspread]

/-- The chosen ones are members at distinct positions. -/
def IsChoice (members chosen : List Contributor) : Prop :=
  ∃ positions : List Nat, positions.Nodup ∧ (∀ p ∈ positions, p < members.length) ∧
    chosen.map some = positions.map fun p => members[p]?

/-- A word is drawn for the number of contributors, and one for each of them. -/
theorem exists_run_draw (hpool : pool.members.length < 2 ^ 32) (hmax : maxCount.IsPositive)
    (g : Gen) :
    ∃ chosen, (pool.draw maxCount).run g = (.ok chosen, g.after (1 + chosen.length)) ∧
      IsChoice pool.members chosen ∧ 1 ≤ chosen.length ∧
      chosen.length ≤ pool.members.length ∧
      (Number.real chosen.length).le maxCount = true := by
  obtain ⟨n, hcount, hleast, hmembers, hmost⟩ := exists_run_count hpool hmax g
  have hsample := Drawing.run_sample (Number.isCount_real n) hmembers g.advance
  have hlength := Drawing.length_indexesFrom pool.members.length n 0 g.advance
  have hdrawn : Drawing.IsDrawn pool.members.length 0
      (Drawing.indexesFrom pool.members.length n 0 g.advance) :=
    Drawing.isDrawn_indexesFrom (by omega) g.advance
  obtain ⟨hpositions, hnodup, hbelow⟩ :=
    (Drawing.bijOn_selection pool.members.length n).mapsTo ⟨hlength, hdrawn⟩
  have hselected := Drawing.map_some_take_arrange pool.members
    (Drawing.indexesFrom pool.members.length n 0 g.advance)
  rw [hlength] at hselected
  generalize (Drawing.arrange 0 pool.members
    (Drawing.indexesFrom pool.members.length n 0 g.advance)).take n = chosen at hsample hselected
  have hchosen : chosen.length = n := by
    have hlengths := congrArg List.length hselected
    rwa [List.length_map, List.length_map, hpositions] at hlengths
  refine ⟨chosen, ?_, ⟨_, hnodup, hbelow, hselected⟩, by omega, by omega, hchosen ▸ hmost⟩
  rw [draw, Drawing.run_bind, hcount]
  dsimp only
  rw [hsample, hchosen, Nat.add_comm, Gen.after_succ]

end Pool

/-! ### Specifications -/

namespace Selector

variable {config : Config} {selector : Selector} {slot : Slot} {id : Number} {spec : Spec}

/-- A specification keeps to the tables and ranges of a configuration, and to its slot. -/
structure Obeys (config : Config) (slot : Slot) (spec : Spec) : Prop where
  language : ∃ language ∈ config.languages,
    (Number.real 0).lt language.weight = true ∧ spec.language = language.name
  targetLines : config.ranges.lines.Contains spec.targetLines
  targetCommits : config.ranges.commits.Contains spec.targetCommits
  contributors : Pool.IsChoice config.contributors spec.contributors
  one_le_length : 1 ≤ spec.contributors.length
  length_le_pool : spec.contributors.length ≤ config.contributors.length
  length_le_max : (Number.real spec.contributors.length).le config.ranges.maxContributors = true
  category : spec.category = slot.category
  template : spec.template = slot.template

/-- With an accepted configuration whose ranges of lines and commits span at most `2 ^ 21`, and that
    has no more contributors than an array can, what is drawn for a slot keeps to the tables, the
    ranges and the slot; and four words are drawn for it, with one more for each contributor. -/
theorem select_obeys (hconfig : config.IsAccepted) (hlines : config.ranges.lines.IsNarrow)
    (hcommits : config.ranges.commits.IsNarrow) (hpool : config.contributors.length < 2 ^ 32)
    (hselector : ofConfig config = .ok selector) (slot : Slot) (id : Number) {g g' : Gen}
    (h : (selector.select slot id).run g = (.ok spec, g')) :
    Obeys config slot spec ∧ g' = g.after (4 + spec.contributors.length) := by
  obtain ⟨hlanguages, hmembers, hranges⟩ := isOf_ofConfig hselector
  have hdrawable := hconfig.ranges
  rw [select, hlanguages, hranges] at h
  obtain ⟨language, g₁, hrunPick, h⟩ := Drawing.exists_run_of_run_bind h
  obtain ⟨hlanguage, rfl⟩ := Language.exists_pos_of_run_pick hconfig.languages hrunPick
  obtain ⟨lines, hrunLines, hinLines⟩ := Range.exists_run_int hdrawable.lines hlines g.advance
  obtain ⟨commits, hrunCommits, hinCommits⟩ :=
    Range.exists_run_int hdrawable.commits hcommits g.advance.advance
  obtain ⟨chosen, hrunDraw, hchoice, hleast, hmost, hmax⟩ := Pool.exists_run_draw
    (by rwa [hmembers]) hdrawable.maxContributors g.advance.advance.advance
  rw [Drawing.run_bind, hrunLines] at h
  dsimp only at h
  rw [Drawing.run_bind, hrunCommits] at h
  dsimp only at h
  rw [Drawing.run_bind, hrunDraw] at h
  cases h
  rw [hmembers] at hchoice hmost
  refine ⟨⟨hlanguage, hinLines, hinCommits, hchoice, hleast, hmost, hmax, rfl, rfl⟩, ?_⟩
  have hfour : 4 + chosen.length = (1 + chosen.length) + 1 + 1 + 1 := by omega
  rw [hfour, Gen.after_succ, Gen.after_succ, Gen.after_succ]

/-- The first slot of the default settings. -/
theorem select_obeys_default :
    let slot : Slot := ⟨"open_source_clones", some "react-clone", 0⟩
    let g : Gen := .ofRepository "again" 5001
    ∃ config selector spec g', Config.load [] (.object []) = .ok config ∧
      config.ranges.lines.IsNarrow ∧ config.ranges.commits.IsNarrow ∧
      config.contributors.length < 2 ^ 32 ∧ ofConfig config = .ok selector ∧
      Quota.slot? config.categories 0 = some slot ∧
      (selector.select slot 5001).run g = (.ok spec, g') ∧
      Obeys config slot spec ∧ g' = g.after (4 + spec.contributors.length) := by
  intro slot g
  obtain ⟨config, hload, hlanguages, hcontributors, hranges, hslot⟩ : ∃ config,
      Config.load [] (.object []) = .ok config ∧
        config.languages = Corpus.bundledLanguages ∧
        config.contributors = Corpus.bundledContributors ∧ config.ranges = {} ∧
        Quota.slot? config.categories 0 = some slot := ⟨_, rfl, rfl, rfl, rfl, rfl⟩
  have hconfig : config.IsAccepted := ⟨_, _, hload⟩
  have hheld := Config.isHeld_of_bundled hlanguages hcontributors
  have hlines : config.ranges.lines.IsNarrow := by
    rw [hranges]
    exact ⟨by decide +kernel, by decide +kernel, by decide +kernel⟩
  have hcommits : config.ranges.commits.IsNarrow := by
    rw [hranges]
    exact ⟨by decide +kernel, by decide +kernel, by decide +kernel⟩
  obtain ⟨selector, hselector⟩ := exists_ofConfig hconfig
  obtain ⟨spec, g', hrun⟩ := isTotal_select hconfig hheld
    (Config.hasLanguage_of_bundled hlanguages) (isOf_ofConfig hselector) slot 5001 g
  obtain ⟨hobeys, hdrawn⟩ :=
    select_obeys hconfig hlines hcommits hheld.contributors hselector slot 5001 hrun
  exact ⟨config, selector, spec, g', hload, hlines, hcommits, hheld.contributors, hselector, hslot,
    hrun, hobeys, hdrawn⟩

end Selector

end CorpusForge
