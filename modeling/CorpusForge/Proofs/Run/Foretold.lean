import CorpusForge.Proofs.Plan
import CorpusForge.Proofs.Run.Conservation
import CorpusForge.Proofs.Run.Telling

/-!
# A run is foretold

A run and a plan walk over the slots on their own: a run takes an index for every slot, also for one
that is skipped or fails, and a plan counts its entries. Still they agree slot for slot, whatever
the run finds, in whatever order it works, and whatever it is refused.

* `Interleaving.Reachable.isForetold`: every event is about a slot that plans foretell, and agrees
  with what they say of it;
* `Interleaving.ends_as_foretold`: so it is with an accepted configuration, and a run in which no
  slot fails takes the slots of the plan.
-/

namespace CorpusForge

/-! ### What is planned for a job -/

/-- A repository is the planned one: it has the planned specification and, when it has an
    archetype, the planned one. -/
structure Repository.IsAsPlanned (planned : Planned) (repository : Repository) : Prop where
  spec : repository.spec = planned.spec
  archetype : ∀ archetype, repository.archetype = some archetype → archetype = planned.archetype

/-- An event about a repository agrees with what was planned for it. -/
def Event.AgreesWith (planned : Planned) : Event → Prop
  | repositoryStarted _ spec => spec = planned.spec
  | repositorySkipped _ name _ => name = planned.spec.name
  | repositoryCompleted _ repository => repository.IsAsPlanned planned
  | repositoryFailed _ name _ => name = planned.spec.name
  | runStarted _ _ _ | categoryStarted _ _ | runCompleted _ => True

namespace Course

variable {course : Course} {job : Job} {planned : Planned} {t : List Exchange}

/-- The entry is what is planned for a job. -/
def Plans (course : Course) (job : Job) (planned : Planned) : Prop :=
  course.selector.Plans course.seed job.slot job.index planned

/-- What is planned for the job of a slot, all plans that get that far say of the slot. -/
theorem exists_plans (course : Course)
    (hselector : Selector.ofConfig course.config = .ok course.selector)
    (hselect : ∀ slot id, (course.selector.select slot id).IsTotal) {k : Nat} {slot : Slot}
    (hslot : Quota.slot? course.config.categories k = some slot) :
    ∃ planned, Plan.Foretells course.config course.seed k planned ∧
      course.Plans (course.job k slot) planned :=
  Plan.exists_foretells hselector hselect hslot

theorem Plans.drawSpec_fst (h : course.Plans job planned) :
    (course.drawSpec job).1 = .ok planned.spec := by
  obtain ⟨spec, hspec, rfl⟩ := h
  exact hspec

/-- The work of a job with a planned specification ends with its repository. -/
theorem Plans.exists_of_leads_work_done (h : course.Plans job planned)
    {outcome : Except Failure Repository} (hwork : (course.work job).Leads t (.done outcome)) :
    ∃ repository, outcome = .ok repository ∧ repository.IsAsPlanned planned := by
  obtain ⟨spec, hspec, rfl⟩ := h
  have hdraw : (course.drawSpec job).1 = .ok spec := hspec
  rcases leads_work_done hwork with ⟨refusal, gen, hrefused, -, -⟩ |
    ⟨spec', gen, repository, draft, hdrawn, rfl, hmade⟩
  · rw [hrefused] at hdraw
    exact nomatch hdraw
  · rw [hdrawn] at hdraw
    obtain rfl : spec' = spec := Except.ok.inj hdraw
    obtain ⟨hspec', harchetype⟩ := Repository.spec_of_leads_work_done hmade
    refine ⟨repository, rfl, hspec', fun archetype heq => ?_⟩
    obtain ⟨template, htemplate, rfl⟩ := harchetype archetype heq
    rw [Planned.ofSpec, htemplate]
    rfl

/-- The name of a job is that of its specification. -/
theorem Plans.name_eq {k : Nat} {slot : Slot} (h : course.Plans (course.job k slot) planned) :
    planned.spec.name = (course.job k slot).name := by
  obtain ⟨spec, hspec, rfl⟩ := h
  exact (course.selector.yields_select slot (course.indexAt k) (Prod.ext hspec rfl)).name

/-- What is told of a job agrees with what is planned for it. -/
theorem Plans.agreesWith {k : Nat} {slot : Slot} (h : course.Plans (course.job k slot) planned)
    {event : Event} (htells : course.Tells (course.job k slot) event) :
    event.AgreesWith planned := by
  cases htells with
  | kept => exact h.name_eq.symm
  | started hspec => exact Except.ok.inj (hspec.symm.trans h.drawSpec_fst)
  | ended hwork =>
    obtain ⟨repository, rfl, hplanned⟩ := h.exists_of_leads_work_done hwork
    simp only [Job.ending]
    split
    · exact congrArg Spec.name hplanned.spec
    · exact hplanned

end Course

namespace Interleaving

variable {σ : Type} {host : Host σ} {found : String → σ → Bool} {course : Course} {state : σ}
  {i : Interleaving σ}

/-! ### What is foretold of a run -/

/-- Plans foretell what a run makes of the slots that it takes: every event about a repository has
    the index of a slot, and agrees with the entry of that slot in every plan that gets that far,
    and so does every repository in the making. -/
structure IsForetold (course : Course) (i : Interleaving σ) : Prop where
  events : ∀ event ∈ i.run.events, ∀ index, event.index? = some index →
    ∃ k planned, k < i.next ∧ index = course.indexAt k ∧
      Plan.Foretells course.config course.seed k planned ∧ event.AgreesWith planned
  running : ∀ r ∈ i.run.running, ∀ outcome, r.work = .done outcome →
    ∃ k planned repository, k < i.next ∧ r.job.index = course.indexAt k ∧
      Plan.Foretells course.config course.seed k planned ∧ outcome = .ok repository ∧
      repository.IsAsPlanned planned

theorem Reachable.isForetold (hi : Reachable host found course state i)
    (hselector : Selector.ofConfig course.config = .ok course.selector)
    (hselect : ∀ slot id, (course.selector.select slot id).IsTotal) : i.IsForetold course := by
  refine ⟨fun event hevent index hindex => ?_, fun r hr outcome houtcome => ?_⟩
  · obtain ⟨k, slot, hk, hslot, htells⟩ := hi.tells event hevent index hindex
    obtain ⟨planned, hforetells, hplans⟩ := course.exists_plans hselector hselect hslot
    exact ⟨k, planned, hk, Option.some.inj (hindex.symm.trans htells.index?_eq), hforetells,
      hplans.agreesWith htells⟩
  · have hpending : r.job ∈ i.pending := List.mem_append_left _ (List.mem_map_of_mem hr)
    obtain ⟨k, slot, hk, hslot, hjob⟩ := hi.exists_slot r.job hpending
    obtain ⟨planned, hforetells, hplans⟩ := course.exists_plans hselector hselect hslot
    obtain ⟨t, hwork, -⟩ := hi.answered.2 r hr
    rw [houtcome, hjob] at hwork
    obtain ⟨repository, houtcome', hplanned⟩ := hplans.exists_of_leads_work_done hwork
    exact ⟨k, planned, repository, hk, congrArg Job.index hjob, hforetells, houtcome', hplanned⟩

/-- As far as numbers are exact, an index tells the slot. -/
theorem IsForetold.agreesWith (h : i.IsForetold course) {start k : Nat}
    (hstart : course.config.startIndex.IsCount start) (hk : start + k < 2 ^ 53) {event : Event}
    (hevent : event ∈ i.run.events) (hindex : event.index? = some (course.indexAt k)) :
    ∃ planned, Plan.Foretells course.config course.seed k planned ∧
      event.AgreesWith planned := by
  obtain ⟨m, planned, -, heq, hforetells, hagrees⟩ := h.events event hevent _ hindex
  have hkcount := hstart.iterate_next_min (by omega) k
  have hmcount := hstart.iterate_next_min (by omega) m
  have hsame : Number.next^[k] course.config.startIndex =
      Number.next^[m] course.config.startIndex := heq
  rw [hsame] at hkcount
  obtain rfl : k = m := by
    have := hkcount.unique hmcount
    omega
  exact ⟨planned, hforetells, hagrees⟩

/-- A run is foretold. With an accepted configuration that a program can hold and in which some
    language has a positive weight, whatever exists, whatever is refused and in whatever order: at
    every moment of a run, every event about a repository agrees with the entry of its slot in every
    plan that gets that far, and as far as numbers are exact its index tells the slot. Every run
    ends, and when no slot failed it has taken the slots of the plan for its target, no more and no
    fewer. -/
theorem ends_as_foretold {config : Config} (hconfig : config.IsAccepted) (hheld : config.IsHeld)
    (hlanguage : config.HasLanguage) (seed cwd : String) (now : Timestamp) (shelf : Shelf) :
    ∃ course, Course.of config seed cwd now shelf = .ok course ∧
      ∃ start, config.startIndex.IsCount start ∧
        ∀ {σ : Type} (host : Host σ) (found : String → σ → Bool) (state : σ),
          (∀ i, Reachable host found course state i → i.IsForetold course ∧
            ∀ k, start + k < 2 ^ 53 → ∀ event ∈ i.run.events,
              event.index? = some (course.indexAt k) →
              ∃ planned, Plan.Foretells config seed k planned ∧ event.AgreesWith planned) ∧
          Ends host found course
            (fun i => i.run.tally.failed = 0 →
              ∃ plan, Plan.repositories config seed config.targetCount = .ok plan ∧
                i.next = plan.length ∧
                i.run.tally.nextIndex = course.indexAt plan.length)
            (begin course state) := by
  obtain ⟨course, hcourse⟩ := Course.exists_of_isAccepted hconfig seed cwd now shelf
  obtain ⟨target, -, htarget⟩ := hconfig.targetCount
  obtain ⟨start, -, hstart⟩ := hconfig.startIndex
  obtain ⟨selector, hselector, rfl⟩ := Course.exists_eq_of hcourse
  have hselect : ∀ slot id, (selector.select slot id).IsTotal := fun slot id =>
    Selector.isTotal_select hconfig hheld hlanguage (Selector.isOf_ofConfig hselector) slot id
  refine ⟨_, hcourse, start, hstart, fun host found state => ⟨fun i hi => ?_, ?_⟩⟩
  · have hforetold := hi.isForetold hselector hselect
    exact ⟨hforetold, fun k hk event hevent hindex =>
      hforetold.agreesWith hstart hk hevent hindex⟩
  · refine ends_of_reachable hconfig.place (fun i hi hover hfailed => ?_) .begin
    obtain ⟨plan, hplan, hlength, -⟩ :=
      Plan.exists_repositories hselector hselect seed config.targetCount
    have hnext := hover.next_eq_min htarget hi hfailed
    obtain ⟨entries, haccount⟩ := exists_isAccount hi
    have hsame : i.next = plan.length := by
      rw [hlength, hnext, htarget, Number.upTo_natCast, min_assoc, min_self]
    refine ⟨plan, hplan, hsame, ?_⟩
    rw [haccount.tally, hsame]

/-- Four at a time, with the default settings otherwise, on a host where some histories fail and
    some directories exist. -/
theorem ends_as_foretold_four :
    let host := Host.accepting fun path => path.length % 3 != 0
    let found := fun path (_ : Unit) => path.length % 5 == 0
    ∃ config course, Config.load [] (.object [("concurrency", .number 4)]) = .ok config ∧
      config.IsHeld ∧ config.HasLanguage ∧
      Course.of config "seed" "/" (some 0) .bundled = .ok course ∧
      (∀ i, Reachable host found course () i → i.IsForetold course) ∧
      Ends host found course
        (fun i => i.run.tally.failed = 0 →
          ∃ plan, Plan.repositories config "seed" config.targetCount = .ok plan ∧
            i.next = plan.length ∧ i.run.tally.nextIndex = course.indexAt plan.length)
        (begin course ()) := by
  intro host found
  obtain ⟨config, hload, hlanguages, hcontributors⟩ : ∃ config,
      Config.load [] (.object [("concurrency", .number 4)]) = .ok config ∧
        config.languages = Corpus.bundledLanguages ∧
        config.contributors = Corpus.bundledContributors := ⟨_, rfl, rfl, rfl⟩
  have hheld := Config.isHeld_of_bundled hlanguages hcontributors
  have hlanguage := Config.hasLanguage_of_bundled hlanguages
  obtain ⟨course, hcourse, start, -, hruns⟩ :=
    ends_as_foretold ⟨_, _, hload⟩ hheld hlanguage "seed" "/" (some 0) .bundled
  obtain ⟨hforetold, hends⟩ := hruns host found ()
  exact ⟨config, course, hload, hheld, hlanguage, hcourse, fun i hi => (hforetold i hi).1, hends⟩

end Interleaving

end CorpusForge
