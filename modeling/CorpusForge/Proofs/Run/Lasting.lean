import CorpusForge.Proofs.Path
import CorpusForge.Proofs.Run.Course
import CorpusForge.Proofs.Run.Telling
import CorpusForge.Proofs.Selection

/-!
# What a run leaves behind

On a *lasting* host a directory that was made is found, and what is found stays, whatever is asked.
The first thing that is asked for a repository is its own directory. So wherever a run has got, the
directories of the slots that it has counted are there, unless a repository failed before it was
laid out.

* `Repository.made_or_unlaid`: the first request of a making;
* `Interleaving.Reachable.isKeeping`: what is found while a run goes on;
* `Interleaving.exists_laid_account`: the directories of the slots that were counted.
-/

namespace CorpusForge

variable {σ : Type}

/-! ### Hosts -/

/-- A directory that was made is found, and nothing that is asked takes away what is found. -/
structure Host.IsLasting (host : Host σ) (found : String → σ → Bool) : Prop where
  made : ∀ path s, (host.makeDirs path s).1 = .ok () → found path (host.makeDirs path s).2 = true
  makeDirs : ∀ path other s, found path s = true → found path (host.makeDirs other s).2 = true
  writeFile : ∀ path other text s, found path s = true →
    found path (host.writeFile other text s).2 = true
  call : ∀ path other c s, found path s = true → found path (host.call other c s).2 = true

section

variable {host : Host σ} {found : String → σ → Bool} {path : String}

theorem Host.IsLasting.found_answer (h : host.IsLasting found) (request : Request)
    {s : Shared σ} (hfound : found path s.host = true) :
    found path (host.answer request s).2.host = true := by
  cases request with
  | makeDirs other => exact h.makeDirs path other s.host hfound
  | writeFile other text => exact h.writeFile path other text s.host hfound
  | render => exact hfound
  | call other c => exact h.call path other c s.host hfound

theorem Host.IsLasting.found_made (h : host.IsLasting found) {s : Shared σ}
    (hok : (host.answer (.makeDirs path) s).1 = .ok ()) :
    found path (host.answer (.makeDirs path) s).2.host = true :=
  h.made path s.host hok

/-- A step of a run takes nothing away. -/
theorem Interleaving.Step.still_found {course : Course} {i j : Interleaving σ}
    (hstep : Step host found course i j) (h : host.IsLasting found)
    (hfound : found path i.run.host = true) : found path j.run.host = true := by
  rcases hstep.toShared_eq with hsame | ⟨job, request, rest, -, hsame⟩
  · rw [hsame]
    exact hfound
  · rw [hsame]
    exact h.found_answer request hfound

end

/-- A host that keeps a list of the directories that were made, and takes calls for the paths that
    `accepts` says. -/
def Host.recording (accepts : String → Bool) : Host (List String) where
  makeDirs path made := (.ok (), path :: made)
  writeFile _ _ made := (.ok (), made)
  call path _ made :=
    (if accepts path then .ok () else .error (.foreign (.exception "refused" none)), made)

theorem Host.isLasting_recording (accepts : String → Bool) :
    (recording accepts).IsLasting fun path made => made.contains path where
  made path made _ := by simp [recording]
  makeDirs path other made h := by
    simp only [recording, List.contains_cons, h, Bool.or_true]
  writeFile _ _ _ _ h := h
  call _ _ _ _ h := h

/-! ### The first directory -/

/-- A repository that ends has failed before it was laid out, or its directory was made. -/
theorem Repository.made_or_unlaid {shop : Workshop} {spec : Spec} {path : String}
    {draft draft' : Draft} {t : List Exchange} {repository : Repository}
    (h : (work shop spec path draft).Leads t (.done (repository, draft'))) :
    (repository.status = .failed ∧ repository.archetype = none) ∨
      ⟨.makeDirs (Path.join [path, ""]), .ok ()⟩ ∈ t := by
  rw [work_eq] at h
  obtain ⟨t₁, t₂, ⟨laid, draft₁⟩, rfl, hlaid, h⟩ := Work.leads_bind_done h
  cases laid with
  | error thrown =>
    cases (Work.leads_done_iff.1 h).2
    exact .inl ⟨rfl, rfl⟩
  | ok structured => exact .inr (List.mem_append_left _ (Making.made_of_leads_laying hlaid))

namespace Course

variable {course : Course} {k : Nat} {slot : Slot} {t : List Exchange}

/-- Repositories are made below a directory that is found from the root. -/
theorem isRooted_of {config : Config} {seed cwd : String} {now : Timestamp} {shelf : Shelf}
    (h : Course.of config seed cwd now shelf = .ok course) : Path.IsRooted course.outputDir := by
  rw [outputDir_of h]
  exact Path.isRooted_resolve _ _

/-- A repository of a job that ends has failed before it was laid out, or the directory of the job
    was made. -/
theorem made_or_unlaid (hroot : Path.IsRooted course.outputDir) {repository : Repository}
    (h : (course.work (course.job k slot)).Leads t (.done (.ok repository))) :
    (repository.status = .failed ∧ repository.archetype = none) ∨
      ⟨.makeDirs (course.path (course.job k slot)), .ok ()⟩ ∈ t := by
  rcases leads_work_done h with ⟨refusal, gen, -, -, hrefused⟩ |
    ⟨spec, gen, made, draft, hdraw, hmade, hwork⟩
  · exact nomatch hrefused
  · obtain rfl : repository = made := Except.ok.inj hmade
    -- the specification has the name of the job, and joining nothing to the path leaves it as it is
    have hname : spec.name = (course.job k slot).name :=
      (course.selector.yields_select slot (course.indexAt k) hdraw).name
    have hpath : Path.join [Path.join [course.outputDir, spec.name], ""] =
        course.path (course.job k slot) := by
      rw [Path.join_join hroot, hname]
      rfl
    rw [← hpath]
    exact Repository.made_or_unlaid hwork

end Course

/-! ### Fates -/

/-- The job got as far as its directory: it was there, or the repository is no failure, or it failed
    when it was laid out already. -/
def Fate.IsLaid : Fate → Prop
  | kept => True
  | made (.error _) => False
  | made (.ok repository) => repository.status ≠ .failed ∨ repository.archetype ≠ none

/-- What counts towards the target got as far as its directory. -/
theorem Fate.isLaid_of_counts {fate : Fate} (h : fate.counts = true) : fate.IsLaid := by
  cases fate with
  | kept => exact trivial
  | made outcome =>
    cases outcome with
    | error failure => exact nomatch h
    | ok repository => exact .inl (by simpa [counts] using h)

/-- What a counted job leaves behind: its directory was found, or its work has come to its outcome
    and the directories that were made in it are there. -/
def Fate.Leaves (there : String → Bool) (course : Course) (job : Job) : Fate → Prop
  | kept => there (course.path job) = true
  | made outcome => ∃ t, (course.work job).Leads t (.done outcome) ∧
      ∀ path, ⟨.makeDirs path, .ok ()⟩ ∈ t → there path = true

namespace Fate.Leaves

variable {there there' : String → Bool} {course : Course} {job : Job} {fate : Fate} {k : Nat}
  {slot : Slot}

theorem mono (h : fate.Leaves there course job)
    (hthere : ∀ path, there path = true → there' path = true) : fate.Leaves there' course job := by
  cases fate with
  | kept => exact hthere _ h
  | made outcome =>
    obtain ⟨t, hwork, hmade⟩ := h
    exact ⟨t, hwork, fun path hmem => hthere path (hmade path hmem)⟩

/-- A job that got as far as its directory has it, however it ended. -/
theorem there_path (h : fate.Leaves there course (course.job k slot))
    (hroot : Path.IsRooted course.outputDir) (hlaid : fate.IsLaid) :
    there (course.path (course.job k slot)) = true := by
  cases fate with
  | kept => exact h
  | made outcome =>
    cases outcome with
    | error failure => exact hlaid.elim
    | ok repository =>
      obtain ⟨t, hwork, hmade⟩ := h
      rcases Course.made_or_unlaid hroot hwork with ⟨hfailed, hnone⟩ | hmem
      · exact hlaid.elim (absurd hfailed) (absurd hnone)
      · exact hmade _ hmem

end Fate.Leaves

namespace Interleaving

variable {host : Host σ} {found : String → σ → Bool} {course : Course} {state : σ}
  {i j : Interleaving σ}

/-- What a run on a lasting host keeps: a directory that is to be kept is there, and so are those
    that were made for the jobs in the making. -/
structure IsKeeping (found : String → σ → Bool) (course : Course) (i : Interleaving σ) : Prop where
  keeping : ∀ job, i.phase = .keeping job → found (course.path job) i.run.host = true
  running : ∀ r ∈ i.run.running, ∃ t, (course.work r.job).Leads t r.work ∧
    ∀ path, ⟨.makeDirs path, .ok ()⟩ ∈ t → found path i.run.host = true

theorem Reachable.isKeeping (h : host.IsLasting found)
    (hi : Reachable host found course state i) : i.IsKeeping found course := by
  induction hi with
  | begin => exact ⟨nofun, fun r hr => absurd hr List.not_mem_nil⟩
  | @step i j hi hstep ih =>
    obtain ⟨hkeeping, hrunning⟩ := ih
    have hstays : ∀ path, found path i.run.host = true → found path j.run.host = true :=
      fun path => hstep.still_found h
    refine ⟨fun job hphase => ?_, hstep.forall_running hrunning ?_ ?_
      fun _ _ => ⟨[], .refl _, fun _ hmem => absurd hmem List.not_mem_nil⟩⟩
    · rcases hstep.of_keeping hphase with hsame | ⟨-, hkept⟩
      · exact hstays _ (hkeeping job hsame)
      · exact hstays _ (Bool.and_eq_true_iff.1 hkept).2
    · rintro r ⟨t, hwork, hmade⟩
      exact ⟨t, hwork, fun path hmem => hstays path (hmade path hmem)⟩
    · rintro job request rest ⟨t, hwork, hmade⟩ hshared
      refine ⟨_, hwork.answered _, fun path hmem => ?_⟩
      rcases List.mem_append.1 hmem with hold | hnew
      · exact hstays path (hmade path hold)
      · -- the directory was made just now
        obtain ⟨rfl, hok⟩ := Sigma.mk.inj (List.mem_singleton.1 hnew)
        rw [hshared]
        exact h.found_made (eq_of_heq hok).symm

/-- What a step on a lasting host counts has left its directories. -/
theorem Reachable.leaves (h : host.IsLasting found) (hi : Reachable host found course state i)
    (hstep : Step host found course i j) {job : Job} {fate : Fate} (hcounts : i.Counts job fate) :
    fate.Leaves (fun path => found path j.run.host) course job := by
  obtain ⟨hkeeping, hrunning⟩ := hi.isKeeping h
  rcases hcounts with ⟨hphase, rfl⟩ | ⟨outcome, hmem, rfl⟩
  · exact hstep.still_found h (hkeeping job hphase)
  · obtain ⟨t, hwork, hmade⟩ := hrunning _ hmem
    exact ⟨t, hwork, fun path hmem => hstep.still_found h (hmade path hmem)⟩

/-- Wherever a run on a lasting host gets, every job that it has counted and that got as far as its
    directory has left it. -/
theorem exists_laid_account (h : host.IsLasting found) (hroot : Path.IsRooted course.outputDir)
    (hi : Reachable host found course state i) :
    ∃ entries, i.IsAccount course entries ∧ ∀ entry ∈ entries,
      entry.2.IsAnswered host course entry.1 ∧
        (entry.2.IsLaid → found (course.path entry.1) i.run.host = true) := by
  obtain ⟨entries, haccount, hentries⟩ := exists_account_of_step
    (Q := fun i job fate => fate.IsAnswered host course job ∧
      fate.Leaves (fun path => found path i.run.host) course job)
    (fun i j job fate hi hstep hcounts => ⟨hi.isAnswered hcounts, hi.leaves h hstep hcounts⟩)
    (fun i j job fate hi hstep hleaves =>
      ⟨hleaves.1, hleaves.2.mono fun path => hstep.still_found h⟩) hi
  refine ⟨entries, haccount, fun entry hentry => ⟨(hentries entry hentry).1, fun hlaid => ?_⟩⟩
  obtain ⟨k, slot, -, -, hjob⟩ := haccount.exists_slot hentry
  have hleaves := (hentries entry hentry).2
  rw [hjob] at hleaves ⊢
  exact hleaves.there_path hroot hlaid

end Interleaving

end CorpusForge
