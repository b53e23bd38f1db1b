import CorpusForge.Proofs.History.Schedule
import CorpusForge.Proofs.Plan
import CorpusForge.Proofs.Run.Course
import CorpusForge.Proofs.Run.Fate

/-!
# When specifications can be drawn

The rules of a configuration see to all that a specification is drawn from, except that some
language has a positive weight. When one has, a specification can be drawn for every slot, whatever
the generator: every plan is made, and no job of a run ends before the making of its repository. But
a configuration in which all languages have the weight zero is accepted as well. With it nothing can
be drawn at all.

* `Config.Draws`, `Config.DrawsNothing`: the two kinds of configurations;
* `Config.IsAccepted.draws_or_not`: an accepted configuration is of one of them, by its languages;
* `Config.drawsNothing_weightless`: an accepted configuration of the second kind.
-/

namespace CorpusForge

/-! ### Refused specifications -/

/-- Without a positive weight no language is drawn. -/
theorem Language.refuses_pick {languages : List Language}
    (hsound : ∀ language ∈ languages, language.IsSound)
    (hnone : ∀ language ∈ languages, (Number.real 0).lt language.weight = false) :
    (pick languages).Refuses .noPositiveWeight := by
  refine (Drawing.refuses_weightedIndex (List.forall_mem_map.2 fun language hmem => ?_)).bind
  exact ⟨(hsound language hmem).weight, hnone language hmem⟩

theorem Selector.refuses_select {config : Config} (hconfig : config.IsAccepted)
    (hnone : ¬config.HasLanguage) {selector : Selector} (hselector : selector.IsOf config)
    (slot : Slot) (id : Number) : (selector.select slot id).Refuses .noPositiveWeight := by
  refine Drawing.Refuses.bind ?_
  rw [hselector.languages]
  refine Language.refuses_pick hconfig.languages fun language hmem => ?_
  rw [Bool.eq_false_iff]
  exact fun hpos => hnone ⟨language, hmem, hpos⟩

namespace Plan

variable {config : Config} {selector : Selector} {refusal : Refusal}

/-- A plan is refused at its first slot. -/
theorem ofSlots_eq_error (hselect : ∀ slot id, (selector.select slot id).Refuses refusal)
    (seed : String) (index : Number) {slots : List Slot} (hslots : slots ≠ []) :
    ofSlots selector seed index slots = .error refusal := by
  obtain ⟨slot, rest, rfl⟩ := List.exists_cons_of_ne_nil hslots
  rw [ofSlots, hselect slot index]
  rfl

theorem repositories_eq_error (hselector : Selector.ofConfig config = .ok selector)
    (hselect : ∀ slot id, (selector.select slot id).Refuses refusal) (seed : String)
    {count : Number} (hcount : 0 < count.upTo (Quota.size config.categories))
    (hsize : 0 < Quota.size config.categories) :
    repositories config seed count = .error refusal := by
  simp only [repositories, hselector, bind, Except.bind]
  refine ofSlots_eq_error hselect _ _ (List.length_pos_iff.1 ?_)
  rw [Quota.first_eq, List.length_take, Quota.length_slots]
  exact lt_min (lt_min hcount hsize) hsize

end Plan

namespace Course

variable {course : Course} {job : Job}

/-- When its specification can be drawn, a job ends with a repository that was made, or was to be
    made. -/
theorem exists_repository_of_leads (hselect : (course.selector.select job.slot job.index).IsTotal)
    {t : List Exchange} {outcome : Except Failure Repository}
    (h : (course.work job).Leads t (.done outcome)) : ∃ repository, outcome = .ok repository := by
  rcases leads_work_done h with ⟨refusal, gen, hrefused, -, -⟩ | ⟨_, _, repository, _, -, rfl, -⟩
  · obtain ⟨spec, gen', hdrawn⟩ := hselect (.ofRepository course.seed job.index)
    exact nomatch hrefused.symm.trans hdrawn
  · exact ⟨repository, rfl⟩

/-- When its specification is refused, a job ends before anything is asked. -/
theorem work_eq_of_refuses {refusal : Refusal}
    (hselect : (course.selector.select job.slot job.index).Refuses refusal) :
    course.work job = .done (.error (Mishap.refusal refusal).normalize) := by
  rw [work, drawSpec, hselect]
  rfl

end Course

/-! ### Two kinds of configurations -/

namespace Config

/-- Everything can be drawn with a configuration. -/
structure Draws (config : Config) : Prop where
  /-- A specification is drawn for every slot, number and generator. -/
  select : ∀ selector, Selector.ofConfig config = .ok selector →
    ∀ slot id, (selector.select slot id).IsTotal
  /-- Every plan is made. -/
  plan : ∀ seed count, ∃ plan, Plan.repositories config seed count = .ok plan
  /-- Whatever is answered, no job of a run ends before the making of its repository. -/
  job : ∀ seed cwd now shelf course, Course.of config seed cwd now shelf = .ok course →
    ∀ job t outcome, (course.work job).Leads t (.done outcome) →
      ∃ repository, outcome = .ok repository

/-- Nothing can be drawn with a configuration. -/
structure DrawsNothing (config : Config) : Prop where
  /-- A specification is refused for every slot, number and generator. -/
  select : ∀ selector, Selector.ofConfig config = .ok selector →
    ∀ slot id, (selector.select slot id).Refuses .noPositiveWeight
  /-- Every plan with a slot is refused. -/
  plan : ∀ seed count, 0 < Number.upTo count (Quota.size config.categories) →
    0 < Quota.size config.categories →
      Plan.repositories config seed count = .error .noPositiveWeight
  /-- Every job of a run ends before anything is asked. -/
  job : ∀ seed cwd now shelf course, Course.of config seed cwd now shelf = .ok course →
    ∀ job, course.work job = .done (.error (Mishap.refusal .noPositiveWeight).normalize)

namespace IsAccepted

variable {config : Config}

theorem draws (hconfig : config.IsAccepted) (hheld : config.IsHeld)
    (hlanguage : config.HasLanguage) : config.Draws := by
  have hselect : ∀ selector, Selector.ofConfig config = .ok selector →
      ∀ slot id, (selector.select slot id).IsTotal := fun selector hselector slot id =>
    Selector.isTotal_select hconfig hheld hlanguage (Selector.isOf_ofConfig hselector) slot id
  refine ⟨hselect, fun seed count => ?_,
    fun seed cwd now shelf course hcourse job t outcome h => ?_⟩
  · obtain ⟨selector, hselector⟩ := Selector.exists_ofConfig hconfig
    obtain ⟨plan, hplan, -⟩ :=
      Plan.exists_repositories hselector (hselect selector hselector) seed count
    exact ⟨plan, hplan⟩
  · obtain ⟨selector, hselector, rfl⟩ := Course.exists_eq_of hcourse
    refine Course.exists_repository_of_leads ?_ h
    exact hselect selector hselector job.slot job.index

theorem drawsNothing (hconfig : config.IsAccepted) (hnone : ¬config.HasLanguage) :
    config.DrawsNothing := by
  have hselect : ∀ selector, Selector.ofConfig config = .ok selector →
      ∀ slot id, (selector.select slot id).Refuses .noPositiveWeight :=
    fun selector hselector slot id =>
      Selector.refuses_select hconfig hnone (Selector.isOf_ofConfig hselector) slot id
  refine ⟨hselect, fun seed count hcount hsize => ?_,
    fun seed cwd now shelf course hcourse job => ?_⟩
  · obtain ⟨selector, hselector⟩ := Selector.exists_ofConfig hconfig
    exact Plan.repositories_eq_error hselector (hselect selector hselector) seed hcount hsize
  · obtain ⟨selector, hselector, rfl⟩ := Course.exists_eq_of hcourse
    exact Course.work_eq_of_refuses (hselect selector hselector job.slot job.index)

/-- What an accepted configuration lets draw. With a language that has a positive weight it is
    everything, and without one it is nothing. -/
theorem draws_or_not (hconfig : config.IsAccepted) (hheld : config.IsHeld) :
    (∃ selector, Selector.ofConfig config = .ok selector) ∧
      (config.HasLanguage → config.Draws) ∧ (¬config.HasLanguage → config.DrawsNothing) :=
  ⟨Selector.exists_ofConfig hconfig, hconfig.draws hheld, hconfig.drawsNothing⟩

end IsAccepted

/-- With the default settings everything can be drawn. -/
theorem draws_or_not_default :
    ∃ config, Config.load [] (.object []) = .ok config ∧ config.IsHeld ∧ config.Draws := by
  obtain ⟨config, hload, hlanguages, hcontributors⟩ : ∃ config,
      Config.load [] (.object []) = .ok config ∧
        config.languages = Corpus.bundledLanguages ∧
        config.contributors = Corpus.bundledContributors := ⟨_, rfl, rfl, rfl⟩
  have hheld := isHeld_of_bundled hlanguages hcontributors
  obtain ⟨-, hdraws, -⟩ := IsAccepted.draws_or_not ⟨_, _, hload⟩ hheld
  exact ⟨config, hload, hheld, hdraws (hasLanguage_of_bundled hlanguages)⟩

/-- One language, of the weight zero: the configuration is accepted, there is a slot, and nothing is
    drawn for it. -/
theorem drawsNothing_weightless :
    let language : Value := .object [("name", .string "ada"), ("weight", .number 0),
      ("extensions", .array [.string ".adb"])]
    ∃ config selector slot, Config.load [] (.object [("languages", .array [language])]) =
        .ok config ∧
      config.IsHeld ∧ Selector.ofConfig config = .ok selector ∧
      Quota.slot? config.categories 0 = some slot ∧
      (∀ g, (selector.select slot config.startIndex).run g = (.error .noPositiveWeight, g)) ∧
      Plan.repositories config "again" 1 = .error .noPositiveWeight := by
  intro language
  obtain ⟨config, hload, hlanguages, hcontributors, hcategories⟩ : ∃ config,
      Config.load [] (.object [("languages", .array [language])]) = .ok config ∧
        config.languages = [⟨"ada", 0, [".adb"]⟩] ∧
        config.contributors = Corpus.bundledContributors ∧
        config.categories = Corpus.bundledCategories := ⟨_, rfl, rfl, rfl, rfl⟩
  have hconfig : config.IsAccepted := ⟨_, _, hload⟩
  have hheld : config.IsHeld := by
    refine ⟨?_, ?_⟩
    · rw [hlanguages]
      decide +kernel
    · rw [hcontributors]
      decide
  have hnone : ¬config.HasLanguage := by
    rw [HasLanguage, hlanguages]
    decide +kernel
  obtain ⟨selector, hselector⟩ := Selector.exists_ofConfig hconfig
  have hnothing := hconfig.drawsNothing hnone
  obtain ⟨slot, hslot⟩ : ∃ slot, Quota.slot? config.categories 0 = some slot := by
    rw [hcategories]
    exact ⟨_, rfl⟩
  have hsize : 0 < Quota.size config.categories := by
    rw [hcategories]
    decide +kernel
  refine ⟨config, selector, slot, hload, hheld, hselector, hslot,
    hnothing.select selector hselector slot config.startIndex, hnothing.plan "again" 1 ?_ hsize⟩
  rw [Number.one_upTo hsize]
  exact Nat.one_pos

end Config

end CorpusForge
