import CorpusForge.Plan
import CorpusForge.Proofs.Config.Tables

/-!
# Specifications are drawn

With an accepted configuration every slot has a template, and its specification is never refused
as long as some language has a positive weight. A specification that is drawn has the number, the
category and the template of its slot, and names someone who works on it.

* `Pool.yields_draw`: a draw of contributors is not empty;
* `Config.CanSelect`: what a configuration needs so that all specifications can be drawn;
* `Selector.isTotal_select`: they are;
* `Selector.yields_select`: what a specification takes from its slot.
-/

namespace CorpusForge

/-! ### Contributors -/

namespace Pool

variable {pool : Pool} {maxCount : Number}

/-- A list that a program can hold has fewer items than there are places in an array. -/
theorem limit_eq (hpool : pool.members.length < 2 ^ 32) {n : Nat} (hn : 0 < n) :
    pool.limit (.real n) = .real ((min n pool.members.length : Nat) : Rat) := by
  have hmembers : 0 < pool.members.length := List.length_pos_iff.2 pool.nonempty
  rw [limit, Number.ofNat_eq (by omega), Number.minimum_natCast hn hmembers,
    Number.maximum_one_natCast (by omega)]

/-- The number of contributors that are drawn. -/
theorem yields_count (hpool : pool.members.length < 2 ^ 32) (hmax : maxCount.IsPositive) :
    (Drawing.int 1 (pool.limit maxCount)).Yields fun count =>
      ∃ n : Nat, 1 ≤ n ∧ n ≤ pool.members.length ∧ count = .real n := by
  obtain ⟨n, hn, rfl⟩ := hmax
  have hmembers : 0 < pool.members.length := List.length_pos_iff.2 pool.nonempty
  have hone : (1 : Number) = .real (1 : Nat) := rfl
  rw [limit_eq hpool hn, hone]
  intro g count g' h
  obtain ⟨k, hlow, hhigh, rfl⟩ := Drawing.yields_int (by omega) (by omega) h
  exact ⟨k, hlow, hhigh.trans (Nat.min_le_right _ _), rfl⟩

theorem isTotal_count (hpool : pool.members.length < 2 ^ 32) (hmax : maxCount.IsPositive) :
    (Drawing.int 1 (pool.limit maxCount)).IsTotal := by
  obtain ⟨n, hn, rfl⟩ := hmax
  have hmembers : 0 < pool.members.length := List.length_pos_iff.2 pool.nonempty
  have hone : (1 : Number) = .real (1 : Nat) := rfl
  rw [limit_eq hpool hn, hone]
  exact Drawing.isTotal_int_natCast (by omega)

theorem yields_draw (hpool : pool.members.length < 2 ^ 32) (hmax : maxCount.IsPositive) :
    (pool.draw maxCount).Yields fun chosen => chosen ≠ [] := by
  refine (yields_count hpool hmax).bind fun count hcount => ?_
  obtain ⟨n, hpos, hn, rfl⟩ := hcount
  intro g chosen g' h
  have hlength := Drawing.yields_sample hn h
  exact List.length_pos_iff.1 (by omega)

theorem isTotal_draw (hpool : pool.members.length < 2 ^ 32) (hmax : maxCount.IsPositive) :
    (pool.draw maxCount).IsTotal := by
  refine (isTotal_count hpool hmax).bind_of_yields (yields_count hpool hmax) fun count hcount => ?_
  obtain ⟨n, -, hn, rfl⟩ := hcount
  exact Drawing.isTotal_sample hn

end Pool

/-! ### Specifications -/

/-- The tables of a configuration fit into a program: its weights are binary64 numbers, and it has
    no more contributors than there are places in an array. -/
structure Config.IsHeld (c : Config) : Prop where
  weights : ∀ language ∈ c.languages, language.weight.IsBinary64
  contributors : c.contributors.length < 2 ^ 32

/-- Some language may be drawn. -/
def Config.HasLanguage (c : Config) : Prop :=
  ∃ language ∈ c.languages, (Number.real 0).lt language.weight = true

/-- The bundled tables fit into a program. -/
theorem Config.isHeld_of_bundled {c : Config} (hlanguages : c.languages = Corpus.bundledLanguages)
    (hcontributors : c.contributors = Corpus.bundledContributors) : c.IsHeld where
  weights := by
    rw [hlanguages]
    decide +kernel
  contributors := by
    rw [hcontributors]
    decide

theorem Config.hasLanguage_of_bundled {c : Config}
    (hlanguages : c.languages = Corpus.bundledLanguages) : c.HasLanguage := by
  rw [HasLanguage, hlanguages]
  decide +kernel

namespace Selector

variable {config : Config} {selector : Selector}

/-- The tables of a selector are those of its configuration. -/
structure IsOf (config : Config) (selector : Selector) : Prop where
  languages : selector.languages = config.languages
  members : selector.pool.members = config.contributors
  ranges : selector.ranges = config.ranges

theorem isOf_ofConfig (h : ofConfig config = .ok selector) : selector.IsOf config := by
  simp only [ofConfig, Pool.ofList] at h
  split at h
  next => exact nomatch h
  next =>
    cases h
    exact ⟨rfl, rfl, rfl⟩

/-- An accepted configuration has a selector. -/
theorem exists_ofConfig (h : config.IsAccepted) : ∃ selector, ofConfig config = .ok selector := by
  simp only [ofConfig, Pool.ofList, dif_neg h.contributors]
  exact ⟨_, rfl⟩

theorem isTotal_pick {languages : List Language}
    (hsound : ∀ language ∈ languages, language.IsSound)
    (hheld : ∀ language ∈ languages, language.weight.IsBinary64)
    (hpos : ∃ language ∈ languages, (Number.real 0).lt language.weight = true) :
    (Language.pick languages).IsTotal := by
  refine (Drawing.isTotal_weightedIndex ?_ ?_).bind fun _ => Drawing.isTotal_pure _
  · exact List.forall_mem_map.2 fun language hmem => (hsound language hmem).weight
  · obtain ⟨language, hmem, hlt⟩ := hpos
    exact ⟨language.weight, List.mem_map_of_mem hmem, hlt, hheld language hmem⟩

theorem isTotal_range {least : Nat} {range : Range} (h : range.IsFrom least) :
    (Drawing.int range.low range.high).IsTotal := by
  obtain ⟨low, high, -, hle, rfl⟩ := h
  exact Drawing.isTotal_int_natCast hle

/-- Every specification can be drawn. -/
theorem isTotal_select (hconfig : config.IsAccepted) (hheld : config.IsHeld)
    (hlanguage : config.HasLanguage) (hselector : selector.IsOf config) (slot : Slot)
    (id : Number) : (selector.select slot id).IsTotal := by
  have hpool : selector.pool.members.length < 2 ^ 32 := by
    rw [hselector.members]
    exact hheld.contributors
  have hranges := hconfig.ranges
  rw [← hselector.ranges] at hranges
  refine Drawing.IsTotal.bind ?_ fun language => (isTotal_range hranges.lines).bind fun lines =>
    (isTotal_range hranges.commits).bind fun commits =>
      (Pool.isTotal_draw hpool hranges.maxContributors).bind fun _ => Drawing.isTotal_pure _
  rw [hselector.languages]
  exact isTotal_pick hconfig.languages hheld.weights hlanguage

/-- What a specification takes from its slot. -/
structure IsFor (slot : Slot) (id : Number) (spec : Spec) : Prop where
  name : spec.name = repositoryName id slot.template
  category : spec.category = slot.category
  template : spec.template = slot.template

theorem yields_select (selector : Selector) (slot : Slot) (id : Number) :
    (selector.select slot id).Yields (IsFor slot id) := by
  rw [select]
  exact Drawing.yields_bind_of_forall fun _ => Drawing.yields_bind_of_forall fun _ =>
    Drawing.yields_bind_of_forall fun _ => Drawing.yields_bind_of_forall fun _ =>
      Drawing.yields_pure ⟨rfl, rfl, rfl⟩

/-- The language of a repository is one of the table, or has no name. -/
theorem yields_language (selector : Selector) (slot : Slot) (id : Number) :
    (selector.select slot id).Yields fun spec =>
      spec.language = "" ∨ ∃ language ∈ selector.languages, spec.language = language.name := by
  have hpick : (Language.pick selector.languages).Yields fun name =>
      name = "" ∨ ∃ language ∈ selector.languages, name = language.name :=
    Drawing.yields_bind_of_forall fun index => Drawing.yields_pure (by
      cases hlanguage : selector.languages[index]? with
      | none => exact .inl rfl
      | some language => exact .inr ⟨language, List.mem_of_getElem? hlanguage, rfl⟩)
  rw [select]
  exact hpick.bind fun _ hname => Drawing.yields_bind_of_forall fun _ =>
    Drawing.yields_bind_of_forall fun _ => Drawing.yields_bind_of_forall fun _ =>
      Drawing.yields_pure hname

/-- Someone works on a repository. -/
theorem yields_contributors (hpool : selector.pool.members.length < 2 ^ 32)
    (hmax : selector.ranges.maxContributors.IsPositive) (slot : Slot) (id : Number) :
    (selector.select slot id).Yields fun spec => spec.contributors ≠ [] := by
  rw [select]
  exact Drawing.yields_bind_of_forall fun _ => Drawing.yields_bind_of_forall fun _ =>
    Drawing.yields_bind_of_forall fun _ => (Pool.yields_draw hpool hmax).bind fun _ hchosen =>
      Drawing.yields_pure hchosen

end Selector

/-! ### Slots -/

theorem Quota.exists_category {categories : List Category} {k : Nat} {slot : Slot}
    (hslot : Quota.slot? categories k = some slot) :
    ∃ category ∈ categories, ∃ ordinal, slot = category.slot ordinal := by
  have hmem : slot ∈ Quota.slots categories := by
    rw [Quota.slot?_eq] at hslot
    exact List.mem_of_getElem? hslot
  obtain ⟨category, hcategory, hslot⟩ := List.mem_flatMap.1 hmem
  obtain ⟨ordinal, -, rfl⟩ := List.mem_map.1 hslot
  exact ⟨category, hcategory, ordinal, rfl⟩

/-- Every slot of an accepted configuration has a template. -/
theorem Config.IsAccepted.exists_template {config : Config} (h : config.IsAccepted) {k : Nat}
    {slot : Slot} (hslot : Quota.slot? config.categories k = some slot) :
    ∃ template, slot.template = some template := by
  obtain ⟨category, hcategory, ordinal, rfl⟩ := Quota.exists_category hslot
  have hlength : 0 < category.templates.length :=
    List.length_pos_iff.2 (h.templates category hcategory)
  exact ⟨_, List.getElem?_eq_getElem (Nat.mod_lt ordinal hlength)⟩

end CorpusForge
