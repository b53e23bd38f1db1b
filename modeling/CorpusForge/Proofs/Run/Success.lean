import CorpusForge.Proofs.Repository.Success
import CorpusForge.Proofs.Run.Conservation
import CorpusForge.Proofs.Run.Telling

/-!
# Runs without failures

A run whose host refuses nothing has no failures: with an accepted configuration that can be worked
with, every repository is made with all its commits, in whatever order the jobs are worked on and
whatever directories are found.

* `Config.IsFit`: a configuration that can be worked with;
* `Course.exists_success`: the outcome of every job;
* `Interleaving.ends_without_failure`: every run.
-/

namespace CorpusForge

variable {σ : Type}

/-- The tables fit into a program, some language may be drawn, no language is called like something
    that every record inherits, and the extensions are parts of names. -/
structure Config.IsFit (c : Config) : Prop extends c.IsHeld where
  language : c.HasLanguage
  names : ∀ language ∈ c.languages, Fields.isInherited language.name = false
  extensions : ∀ language ∈ c.languages, ∀ extension ∈ language.extensions,
    '/' ∉ extension.toList

/-- The bundled tables can be worked with. -/
theorem Config.isFit_of_bundled {c : Config} (hlanguages : c.languages = Corpus.bundledLanguages)
    (hcontributors : c.contributors = Corpus.bundledContributors) : c.IsFit where
  toIsHeld := isHeld_of_bundled hlanguages hcontributors
  language := hasLanguage_of_bundled hlanguages
  names := by
    rw [hlanguages]
    decide
  extensions := by
    rw [hlanguages]
    decide +kernel

/-! ### Jobs -/

namespace Course

variable {config : Config} {seed cwd : String} {now : Timestamp} {shelf : Shelf} {course : Course}
  {k : Nat} {slot : Slot}

/-- For every slot a specification can be drawn from which a repository can be made. -/
theorem exists_drawSpec (hconfig : config.IsAccepted) (hfit : config.IsFit)
    (hcourse : Course.of config seed cwd now shelf = .ok course)
    (hslot : Quota.slot? config.categories k = some slot) :
    ∃ spec gen, course.drawSpec (course.job k slot) = (.ok spec, gen) ∧
      spec.IsWorkable course.workshop.languages := by
  obtain ⟨selector, hselector, rfl⟩ := exists_eq_of hcourse
  obtain ⟨spec, gen, hselect⟩ := Selector.isTotal_select hconfig hfit.toIsHeld hfit.language
    (Selector.isOf_ofConfig hselector) slot (indexAt _ k) (.ofRepository seed (indexAt _ k))
  obtain ⟨template, htemplate⟩ := hconfig.exists_template hslot
  exact ⟨spec, gen, hselect, Selector.isWorkable_of_select hconfig hfit.contributors
    hfit.extensions hselector htemplate hselect
    (Selector.isInherited_of_select hfit.names (Selector.isOf_ofConfig hselector) hselect)⟩

/-- A job of an accepted configuration ends with a repository whose making has come to its end. -/
theorem exists_making (hconfig : config.IsAccepted) (hfit : config.IsFit)
    (hcourse : Course.of config seed cwd now shelf = .ok course)
    (hslot : Quota.slot? config.categories k = some slot) {t : List Exchange}
    {outcome : Except Failure Repository}
    (h : (course.work (course.job k slot)).Leads t (.done outcome)) :
    ∃ spec path gen repository draft, spec.IsWorkable course.workshop.languages ∧
      outcome = .ok repository ∧
      (Repository.work course.workshop spec path { gen }).Leads t (.done (repository, draft)) := by
  obtain ⟨spec, gen, hdraw, hworkable⟩ := exists_drawSpec hconfig hfit hcourse hslot
  rcases leads_work_done h with ⟨refusal, gen', hrefused, -, -⟩ |
    ⟨spec', gen', repository, draft, hdrawn, houtcome, hmade⟩
  · exact nomatch hdraw.symm.trans hrefused
  · obtain ⟨⟨⟩, rfl⟩ := Prod.mk.inj (hdraw.symm.trans hdrawn)
    exact ⟨spec, _, gen, repository, draft, hworkable, houtcome, hmade⟩

/-- What a host that refuses nothing has answered. -/
theorem answer_eq_grant {host : Host σ} (hopen : host.IsOpen) {job : Job}
    {work : Work (Except Failure Repository)} {t : List Exchange}
    (hleads : (course.work job).Leads t work)
    (hanswers : ∀ exchange ∈ t, host.Answers course.workshop.shelf exchange) :
    ∀ exchange ∈ t, exchange.2 = exchange.1.grant := by
  intro exchange hmem
  obtain ⟨s, hholds, hanswer⟩ := hanswers exchange hmem
  rw [← hanswer]
  exact hopen.answer_eq_grant hholds (course.asks_work job hleads exchange hmem)

/-- On a host that refuses nothing every job ends with a success. -/
theorem exists_success (hconfig : config.IsAccepted) (hfit : config.IsFit)
    (hcourse : Course.of config seed cwd now .bundled = .ok course)
    (hslot : Quota.slot? config.categories k = some slot) {host : Host σ} (hopen : host.IsOpen)
    {outcome : Except Failure Repository}
    (h : course.HasAnswered host (course.job k slot) (.done outcome)) :
    ∃ repository, outcome = .ok repository ∧ repository.status = .success ∧
      repository.error = none := by
  obtain ⟨t, hleads, hanswers⟩ := h
  have hgrant := answer_eq_grant hopen hleads hanswers
  obtain ⟨spec, path, gen, repository, draft, hworkable, rfl, hmade⟩ :=
    exists_making hconfig hfit hcourse hslot hleads
  obtain ⟨selector, -, rfl⟩ := exists_eq_of hcourse
  obtain ⟨structured, commits, faults, draft', hanswered⟩ := Repository.answeredBy_work rfl
    hconfig.timeline hworkable path { gen }
  have hresult := (hmade.eq_answeredBy hgrant).trans hanswered
  obtain ⟨rfl, -⟩ := Prod.mk.inj hresult
  exact ⟨_, rfl, rfl, rfl⟩

end Course

/-! ### Runs -/

/-- Without entries that fail or are noted, nothing failed, and nothing was made in part. -/
theorem Tally.ofEntries_of_forall_counts {entries : List (Job × Fate)}
    (h : ∀ entry ∈ entries, entry.2.counts = true ∧ entry.2.isNoted = false ∧ entry.2.IsSound) :
    (ofEntries entries).failed = 0 ∧ (ofEntries entries).partly = 0 ∧
      (ofEntries entries).failures = [] := by
  have hproduced : (ofEntries entries).produced = entries.length := by
    rw [produced_ofEntries]
    exact List.countP_eq_length.2 fun entry hentry => (h entry hentry).1
  have hfailures : (ofEntries entries).failures = [] := by
    have hindexes := failures_ofEntries entries
    rw [List.filter_eq_nil_iff.2 fun entry hentry => by simp [(h entry hentry).2.1]] at hindexes
    exact List.map_eq_nil_iff.1 hindexes
  have hsum := produced_add_failed_ofEntries entries
  have hlength := length_failures_ofEntries fun entry hentry => (h entry hentry).2.2
  rw [hfailures, List.length_nil] at hlength
  exact ⟨by omega, by omega, hfailures⟩

namespace Interleaving

variable {config : Config} {seed cwd : String} {now : Timestamp} {course : Course} {host : Host σ}
  {found : String → σ → Bool} {state : σ} {i : Interleaving σ}

/-- Wherever a run gets on a host that refuses nothing, it has no failures. -/
theorem Reachable.failed_eq_zero (hconfig : config.IsAccepted) (hfit : config.IsFit)
    (hcourse : Course.of config seed cwd now .bundled = .ok course) (hopen : host.IsOpen)
    (hi : Reachable host found course state i) :
    i.run.tally.failed = 0 ∧ i.run.tally.partly = 0 ∧ i.run.tally.failures = [] := by
  obtain ⟨entries, haccount, hentries⟩ := exists_account
    (Q := fun job fate => fate.IsAnswered host course job)
    (fun i job fate hi hcounts => hi.isAnswered hcounts) hi
  rw [haccount.tally]
  refine Tally.ofEntries_of_forall_counts fun entry hentry => ?_
  obtain ⟨k, slot, -, hslot, hjob⟩ := haccount.exists_slot hentry
  have hanswered := hentries entry hentry
  obtain ⟨job, fate⟩ := entry
  cases fate with
  | kept => exact ⟨rfl, rfl, trivial⟩
  | made outcome =>
    obtain rfl : job = course.job k slot := hjob
    rw [Course.config_of hcourse] at hslot
    obtain ⟨repository, rfl, hstatus, herror⟩ :=
      Course.exists_success hconfig hfit hcourse hslot hopen hanswered
    refine ⟨?_, ?_, iff_of_true hstatus herror⟩
    · simp [Fate.counts, hstatus]
    · simp [Fate.isNoted, herror]

/-- With an accepted configuration that can be worked with and the bundled templates, on a host that
    refuses nothing, whatever is found and in whatever order: no run has a failure at any moment,
    and every run ends when it has as many repositories as it was to make, or has taken all
    slots. -/
theorem ends_without_failure (hconfig : config.IsAccepted) (hfit : config.IsFit)
    (seed cwd : String) (now : Timestamp) :
    ∃ course target, Course.of config seed cwd now .bundled = .ok course ∧
      config.targetCount = .real (target : Nat) ∧
      ∀ {σ : Type} {host : Host σ}, host.IsOpen → ∀ (found : String → σ → Bool) (state : σ),
        (∀ i, Reachable host found course state i →
          i.run.tally.failed = 0 ∧ i.run.tally.partly = 0 ∧ i.run.tally.failures = []) ∧
        Ends host found course
          (fun i => i.run.tally.generated + i.run.tally.skipped =
            min target (Quota.size config.categories))
          (begin course state) := by
  obtain ⟨course, hcourse⟩ := Course.exists_of_isAccepted hconfig seed cwd now .bundled
  obtain ⟨target, -, htarget⟩ := hconfig.targetCount
  have hsame := Course.config_of hcourse
  refine ⟨course, target, hcourse, htarget, fun {σ host} hopen found state => ⟨fun i hi =>
    hi.failed_eq_zero hconfig hfit hcourse hopen, ?_⟩⟩
  have hplace : course.config.concurrency.lt 1 = false := hsame ▸ hconfig.place
  refine ends_of_reachable hplace (fun i hi hover => ?_) .begin
  obtain ⟨hfailed, hpartly, -⟩ := hi.failed_eq_zero hconfig hfit hcourse hopen
  have htarget' : course.config.targetCount = .real target := hsame ▸ htarget
  have hnext := hover.next_eq_min htarget' hi hfailed
  have hsum := hover.produced_add_failed hi
  rw [← hsame, ← hnext, ← hsum, hfailed, Tally.produced, hpartly]
  omega

end Interleaving

end CorpusForge
