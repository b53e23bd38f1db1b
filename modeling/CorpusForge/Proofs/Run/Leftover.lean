import CorpusForge.Proofs.Run.Resume

/-!
# What failures leave behind

Whether a slot is skipped depends on its directory alone. A repository that fails when it is laid
out already leaves its directory behind, and a later run that keeps what it finds takes it for one
that was made: it skips the slot, counts it towards the target, and never makes the repository.

* `Interleaving.keeps_leftovers`: a slot that got as far as its directory is kept by every later
  run, whatever became of it;
* `Interleaving.counts_failures`: after a run whose backend took no call, a later run keeps one
  failure for each repository that it was to make;
* `Interleaving.counts_failures_tool`: so a failure counts on a later run.
-/

namespace CorpusForge

variable {σ : Type}

/-! ### Slots that are kept -/

namespace Interleaving

variable {host : Host σ} {found : String → σ → Bool} {course : Course} {state : σ}
  {i : Interleaving σ}

/-- What is found at first is found throughout a run. -/
theorem Reachable.still_found (h : host.IsLasting found)
    (hi : Reachable host found course state i) {path : String} (hfound : found path state = true) :
    found path i.run.host = true := by
  induction hi with
  | begin => exact hfound
  | step hi hstep ih => exact hstep.still_found h ih

/-- The jobs that wait or are in the making are those whose directories were not there at first. -/
structure IsSparing (found : String → σ → Bool) (course : Course) (state : σ)
    (i : Interleaving σ) : Prop where
  waiting : ∀ job, i.phase = .waiting job → found (course.path job) state = false
  running : ∀ r ∈ i.run.running, found (course.path r.job) state = false

theorem Reachable.isSparing (h : host.IsLasting found) (hskip : course.config.skipExisting = true)
    (hi : Reachable host found course state i) : i.IsSparing found course state := by
  induction hi with
  | begin => exact ⟨fun _ h => Phase.noConfusion h, fun r hr => absurd hr List.not_mem_nil⟩
  | @step i j hi hstep ih =>
    obtain ⟨hwaiting, hrunning⟩ := ih
    refine ⟨fun job hphase => ?_,
      hstep.forall_running hrunning (fun _ hnot => hnot) (fun _ _ _ hnot _ => hnot) hwaiting⟩
    rcases hstep.of_waiting hphase with hsame | ⟨-, hnot⟩
    · exact hwaiting job hsame
    · -- had it been there at first, it would be there still, and be kept
      rw [Run.isKept, hskip, Bool.true_and] at hnot
      refine Bool.eq_false_iff.2 fun hthere => Bool.eq_false_iff.1 hnot ?_
      exact hi.still_found h hthere

/-- What a run counts and whose directory was there at first, it has kept. -/
theorem Reachable.eq_kept_of_counts (h : host.IsLasting found)
    (hskip : course.config.skipExisting = true) (hi : Reachable host found course state i)
    {job : Job} {fate : Fate} (hcounts : i.Counts job fate)
    (hthere : found (course.path job) state = true) : fate = .kept := by
  rcases hcounts with ⟨-, rfl⟩ | ⟨outcome, hmem, rfl⟩
  · rfl
  · have hnot := (hi.isSparing h hskip).running _ hmem
    rw [hthere] at hnot
    exact nomatch hnot

end Interleaving

/-! ### Hosts without a backend -/

/-- A host that makes all directories and writes all files, and refuses all calls. -/
structure Host.IsMute (host : Host σ) : Prop where
  makeDirs : ∀ path s, (host.makeDirs path s).1 = .ok ()
  writeFile : ∀ path text s, (host.writeFile path text s).1 = .ok ()
  call : ∀ path c s, ∃ thrown, (host.call path c s).1 = .error thrown

/-- What such a host has answered: calls were refused, and all else was done. -/
def Exchange.IsMute (shelf : Shelf) (exchange : Exchange) : Prop :=
  (exchange.1.IsMaking shelf → exchange.2 = exchange.1.grant) ∧
    (exchange.1.IsMaking shelf ∨ exchange.isRefused = true)

theorem Host.IsMute.isMute {host : Host σ} (h : host.IsMute) {shelf : Shelf} {exchange : Exchange}
    (hanswers : host.Answers shelf exchange) (hon : exchange.1.IsOn shelf) :
    exchange.IsMute shelf := by
  obtain ⟨request, answer⟩ := exchange
  obtain ⟨s, hholds, hanswer⟩ := hanswers
  simp only at hanswer
  subst hanswer
  cases request with
  | makeDirs path => exact ⟨fun _ => h.makeDirs path s.host, .inl trivial⟩
  | writeFile path text => exact ⟨fun _ => h.writeFile path text s.host, .inl trivial⟩
  | render shelf' path role context =>
    obtain rfl : shelf' = shelf := hon
    exact ⟨fun _ => Artifact.render_fst_of_holds hholds path role context, .inl rfl⟩
  | call path c =>
    obtain ⟨thrown, hthrown⟩ := h.call path c s.host
    refine ⟨nofun, .inr ?_⟩
    have hanswer : (host.answer (.call path c) s).1 = .error thrown := hthrown
    simp only [Exchange.isRefused, hanswer]
    rfl

namespace Repository

variable {shop : Workshop} {spec : Spec} {path : String} {draft draft' : Draft}
  {t : List Exchange} {repository : Repository}

/-- When all calls are refused, a repository that ends has failed. -/
theorem status_of_refused (hrefused : ∀ exchange ∈ t,
      exchange.1.IsMaking shop.shelf ∨ exchange.isRefused = true)
    (h : (work shop spec path draft).Leads t (.done (repository, draft'))) :
    repository.status = .failed := by
  rcases leads_work h with ⟨-, hfailed⟩ |
    ⟨t₁, t₂, t₃, structured, draft₁, commits, draft₂, rfl, -, -, hreplay⟩
  · obtain ⟨structured, faults, mishap, rfl⟩ := hfailed _ _ rfl
    rfl
  · obtain ⟨ended, rfl, hrun⟩ := leads_finishing_done hreplay
    -- a history begins with a call
    rw [Call.history] at hrun
    cases hrun with
    | @head _ _ answer t _ hrest =>
      have hfirst := hrefused ⟨.call path .init, answer⟩
        (List.mem_append_right _ List.mem_cons_self)
      cases answer with
      | ok => exact absurd (hfirst.resolve_left id) Bool.false_ne_true
      | error thrown =>
        obtain ⟨-, hdone⟩ := Work.leads_done_iff.1 hrest
        cases hdone
        rw [Replay.outcome]
        cases thrown.normalize <;> rfl

/-- When directories are made, a workable repository is laid out. -/
theorem archetype_of_granted (hgrant : ∀ exchange ∈ t,
      exchange.1.IsMaking shop.shelf → exchange.2 = exchange.1.grant)
    (hspec : spec.IsWorkable shop.languages)
    (h : (work shop spec path draft).Leads t (.done (repository, draft'))) :
    repository.archetype ≠ none := by
  obtain ⟨kind, htemplate⟩ := hspec.template
  obtain ⟨structured, draft₁, hlaid, -⟩ :=
    Making.grants_laying htemplate hspec.language hspec.extension path draft
  rw [work_eq] at h
  obtain ⟨t₁, t₂, made, rfl, hlaying, h⟩ := Work.leads_bind_done h
  have hquiet := @Making.isQuiet_laying shop.shelf shop.languages spec path _ _ _ hlaying
  obtain rfl : made = (.ok structured, draft₁) := (hlaying.eq_answeredBy fun exchange hmem =>
    hgrant exchange (List.mem_append_left _ hmem) (hquiet exchange hmem)).trans hlaid
  obtain ⟨t₂, t₃, ⟨filled, draft₂⟩, rfl, -, h⟩ := Work.leads_bind_done h
  cases filled with
  | error mishap =>
    cases (Work.leads_done_iff.1 h).2
    exact Option.some_ne_none _
  | ok commits =>
    obtain ⟨ended, rfl, -⟩ := leads_finishing_done h
    rw [concluded_archetype]
    exact Option.some_ne_none _

end Repository

/-- Without a backend a job gets as far as its directory, and fails. -/
theorem Course.isLaid_of_isMute {config : Config} {seed cwd : String} {now : Timestamp}
    {shelf : Shelf} {course : Course} {k : Nat} {slot : Slot} {host : Host σ}
    (hconfig : config.IsAccepted) (hfit : config.IsFit)
    (hcourse : Course.of config seed cwd now shelf = .ok course)
    (hslot : Quota.slot? config.categories k = some slot) (hmute : host.IsMute)
    {outcome : Except Failure Repository}
    (h : course.HasAnswered host (course.job k slot) (.done outcome)) :
    (Fate.made outcome).IsLaid ∧ (Fate.made outcome).counts = false := by
  obtain ⟨t, hleads, hanswers⟩ := h
  have hexchanges : ∀ exchange ∈ t, exchange.IsMute course.workshop.shelf := fun exchange hmem =>
    hmute.isMute (hanswers exchange hmem) (course.asks_work _ hleads exchange hmem)
  obtain ⟨spec, path, gen, repository, draft, hworkable, rfl, hmade⟩ :=
    exists_making hconfig hfit hcourse hslot hleads
  have harchetype := Repository.archetype_of_granted
    (fun exchange hmem => (hexchanges exchange hmem).1) hworkable hmade
  have hstatus := Repository.status_of_refused
    (fun exchange hmem => (hexchanges exchange hmem).2) hmade
  exact ⟨.inr harchetype, by simp [Fate.counts, hstatus]⟩

/-! ### Later runs -/

/-- A job that has an outcome was made or has failed. -/
theorem Tally.made_countOutcome (t : Tally) (job : Job) (outcome : Except Failure Repository) :
    (t.countOutcome job outcome).generated + (t.countOutcome job outcome).partly +
      (t.countOutcome job outcome).failed = t.generated + t.partly + t.failed + 1 := by
  cases outcome with
  | error failure => rfl
  | ok repository =>
    simp only [countOutcome, count, countStatus]
    split <;> split <;> simp only [note] <;> omega

/-- When only what is kept counts, nothing was made. -/
theorem Tally.ofEntries_of_forall_kept {entries : List (Job × Fate)}
    (h : ∀ entry ∈ entries, entry.2.counts = true → entry.2 = .kept) :
    (ofEntries entries).generated = 0 ∧ (ofEntries entries).partly = 0 := by
  induction entries using List.reverseRecOn with
  | nil => exact ⟨rfl, rfl⟩
  | append_singleton entries entry ih =>
    simp only [List.forall_mem_append, List.forall_mem_singleton] at h
    obtain ⟨hgenerated, hpartly⟩ := ih h.1
    obtain ⟨job, fate⟩ := entry
    rw [ofEntries_append_singleton]
    cases fate with
    | kept => exact ⟨hgenerated, hpartly⟩
    | made outcome =>
      have hnot : (Fate.made outcome).counts = false :=
        Bool.eq_false_iff.2 fun hcounts => nomatch h.2 hcounts
      have hproduced := produced_settle (ofEntries entries) job (.made outcome)
      have hskipped := skipped_countOutcome (ofEntries entries) job outcome
      simp only [settle, hnot, produced, Bool.false_eq_true, if_false] at hproduced ⊢
      omega

namespace Interleaving

variable {host : Host σ} {found : String → σ → Bool} {course : Course} {state : σ}
  {i : Interleaving σ} {target : Nat} {config : Config} {seed cwd : String} {now : Timestamp}
  {shelf : Shelf}

/-- What was left behind is kept. Let a run with an accepted configuration that keeps what it finds
    have come to any moment, on a lasting host. Then whatever the host, the seed, the time and the
    templates are in a later run that finds what was there at that moment, and in whatever order it
    works: of the jobs that the first run has counted and that got as far as their directories, it
    has kept all that it has counted, whether they were made, were kept, or have failed. -/
theorem keeps_leftovers (hconfig : config.IsAccepted) (hskip : config.skipExisting = true)
    (hcourse : Course.of config seed cwd now shelf = .ok course) (hlasting : host.IsLasting found)
    (hi : Reachable host found course state i) (seed' : String) (now' : Timestamp)
    (shelf' : Shelf) :
    ∃ course', Course.of config seed' cwd now' shelf' = .ok course' ∧
      ∃ entries, i.IsAccount course entries ∧
        ∀ {τ : Type} {host' : Host τ} {found' : String → τ → Bool}, host'.IsLasting found' →
          ∀ state', (∀ path, found' path state' = found path i.run.host) →
          ∀ j, Reachable host' found' course' state' j →
            ∃ entries', j.IsAccount course' entries' ∧
              ∀ job fate fate', (job, fate) ∈ entries → fate.IsLaid → (job, fate') ∈ entries' →
                fate' = .kept := by
  obtain ⟨course', hcourse'⟩ := Course.exists_of_isAccepted hconfig seed' cwd now' shelf'
  have hdir : course'.outputDir = course.outputDir := by
    rw [Course.outputDir_of hcourse, Course.outputDir_of hcourse']
  have hskip' : course'.config.skipExisting = true := Course.config_of hcourse' ▸ hskip
  obtain ⟨entries, haccount, hentries⟩ := exists_laid_account hlasting (Course.isRooted_of hcourse) hi
  refine ⟨course', hcourse', entries, haccount, fun hlasting' state' hsame j hj => ?_⟩
  obtain ⟨entries', haccount', hentries'⟩ := exists_account
    (Q := fun job fate => _ → fate = .kept)
    (fun j job fate hj hcounts => hj.eq_kept_of_counts hlasting' hskip' hcounts) hj
  refine ⟨entries', haccount', fun job fate fate' hfate hlaid hfate' => hentries' _ hfate' ?_⟩
  have hthere := (hentries _ hfate).2 hlaid
  rw [hsame, Course.path, hdir]
  exact hthere

/-- Four at a time, with the default settings otherwise, on a host where all histories fail. -/
theorem keeps_leftovers_four :
    let host := Host.recording fun _ => false
    let found := fun path (made : List String) => made.contains path
    ∃ config course i entries, Config.load [] (.object [("concurrency", .number 4)]) = .ok config ∧
      Course.of config "seed" "/" (some 0) .bundled = .ok course ∧
      Reachable host found course [] i ∧ i.IsOver course ∧ i.IsAccount course entries ∧
      ∀ j, Reachable host found course i.run.host j →
        ∃ entries', j.IsAccount course entries' ∧ ∀ job fate fate', (job, fate) ∈ entries →
          fate.IsLaid → (job, fate') ∈ entries' → fate' = .kept := by
  intro host found
  obtain ⟨config, hload, hskip⟩ : ∃ config,
      Config.load [] (.object [("concurrency", .number 4)]) = .ok config ∧
        config.skipExisting = true := ⟨_, rfl, rfl⟩
  have hconfig : config.IsAccepted := ⟨_, _, hload⟩
  obtain ⟨course, hcourse⟩ := Course.exists_of_isAccepted hconfig "seed" "/" (some 0) .bundled
  have hplace : course.config.concurrency.lt 1 = false :=
    Course.config_of hcourse ▸ hconfig.place
  have hlasting : host.IsLasting found := Host.isLasting_recording _
  obtain ⟨i, hi, hover, -⟩ := @isRun_generate _ host found course [] hplace
  obtain ⟨course', hcourse', entries, haccount, hkeeps⟩ :=
    keeps_leftovers hconfig hskip hcourse hlasting hi "seed" (some 0) .bundled
  obtain rfl : course = course' := Except.ok.inj (hcourse.symm.trans hcourse')
  exact ⟨config, course, i, entries, hload, hcourse, hi, hover, haccount,
    hkeeps hlasting i.run.host fun _ => rfl⟩

/-- A run that has neither made nor failed to make anything leaves all as it was, and skips nothing
    when nothing was there. -/
theorem Reachable.untouched (hnothing : ∀ path, found path state = false)
    (hi : Reachable host found course state i) (hrunning : i.run.running = [])
    (hcounts : i.run.tally.generated + i.run.tally.partly + i.run.tally.failed = 0) :
    i.run.host = state ∧ i.run.tally.skipped = 0 ∧ ∀ job, i.phase ≠ .keeping job := by
  induction hi with
  | begin => exact ⟨rfl, rfl, nofun⟩
  | @step i j hi hstep ih =>
    cases hstep with
    | work hcons | start hplace => exact absurd hrunning (by simp)
    | @count run next phase older younger job outcome hcons =>
      -- the job was made or has failed
      have hmade := Tally.made_countOutcome run.tally job outcome
      simp only [Run.record_tally] at hcounts
      omega
    | take hslot hopen =>
      simp only [Run.announce_running, Run.announce_tally] at hrunning hcounts
      obtain ⟨hhost, hskipped, -⟩ := ih hrunning hcounts
      simp only [Run.announce_tally, Run.announce_toShared]
      exact ⟨hhost, hskipped, nofun⟩
    | @look run next job =>
      obtain ⟨hhost, hskipped, -⟩ := ih hrunning hcounts
      have hnot : run.isKept found course job = false := by
        simp only at hhost
        rw [Run.isKept, hhost, hnothing, Bool.and_false]
      exact ⟨hhost, hskipped, by simp [hnot]⟩
    | @skip run next job => exact absurd rfl ((ih hrunning hcounts).2.2 job)

/-- A run without a backend makes nothing, and every slot that it counts has left its directory. -/
theorem Reachable.exists_failing_account (hconfig : config.IsAccepted) (hfit : config.IsFit)
    (hcourse : Course.of config seed cwd now shelf = .ok course) (hlasting : host.IsLasting found)
    (hmute : host.IsMute) (hi : Reachable host found course state i) :
    i.run.tally.generated = 0 ∧ i.run.tally.partly = 0 ∧
      ∃ entries, i.IsAccount course entries ∧
        ∀ entry ∈ entries, found (course.path entry.1) i.run.host = true := by
  obtain ⟨entries, haccount, hentries⟩ := exists_laid_account hlasting (Course.isRooted_of hcourse) hi
  have hlaid : ∀ entry ∈ entries, entry.2.IsLaid ∧ (entry.2.counts = true → entry.2 = .kept) := by
    intro entry hentry
    obtain ⟨k, slot, -, hslot, hjob⟩ := haccount.exists_slot hentry
    have hanswered := (hentries entry hentry).1
    obtain ⟨job, fate⟩ := entry
    cases fate with
    | kept => exact ⟨trivial, fun _ => rfl⟩
    | made outcome =>
      obtain rfl : job = course.job k slot := hjob
      rw [Course.config_of hcourse] at hslot
      obtain ⟨hlaid, hnot⟩ := Course.isLaid_of_isMute hconfig hfit hcourse hslot hmute hanswered
      exact ⟨hlaid, fun hcounts => nomatch hnot.symm.trans hcounts⟩
  obtain ⟨hgenerated, hpartly⟩ :=
    Tally.ofEntries_of_forall_kept fun entry hentry => (hlaid entry hentry).2
  refine ⟨?_, ?_, entries, haccount, fun entry hentry =>
    (hentries entry hentry).2 (hlaid entry hentry).1⟩
  · rw [haccount.tally]
    exact hgenerated
  · rw [haccount.tally]
    exact hpartly

/-- Failures count on a later run. When a run without a backend is over, nothing was made, and
    still a later run has nothing to do: it skips as many slots as repositories were to be made, or
    all. -/
theorem IsOver.counts_failures (hconfig : config.IsAccepted)
    (hskip : config.skipExisting = true) (hfit : config.IsFit)
    (htarget : config.targetCount = .real target)
    (hcourse : Course.of config seed cwd now shelf = .ok course) (hlasting : host.IsLasting found)
    (hmute : host.IsMute) (hi : Reachable host found course state i) (hover : i.IsOver course) :
    i.run.tally.generated = 0 ∧ i.run.tally.partly = 0 ∧
      ∀ {host' : Host σ} {j : Interleaving σ}, Reachable host' found course i.run.host j →
        j.IsOver course → j.run.tally.skipped = min target (Quota.size config.categories) := by
  obtain ⟨hgenerated, hpartly, entries, haccount, hthere⟩ :=
    hi.exists_failing_account hconfig hfit hcourse hlasting hmute
  refine ⟨hgenerated, hpartly, fun {host' j} hj hjover => ?_⟩
  obtain rfl := Course.config_of hcourse
  have hstocked : course.IsStocked (fun path => found path i.run.host)
      (min target (Quota.size course.config.categories)) := fun k hk =>
    hover.isStocked haccount hthere k (hk.trans_le (hover.min_le_next htarget hi))
  obtain ⟨hnext, htally⟩ := hjover.tally_of_isStocked htarget hskip hstocked hj
  rw [htally]
  exact hnext

/-- A backend that takes no call, and one repository to be made: it fails in a run from nothing, and
    counts in a later run. -/
theorem counts_failures_tool :
    let host := Host.recording fun _ => false
    let found := fun path (made : List String) => made.contains path
    let category : Value := .object [("name", .string "cli_tools"), ("count", .number 1),
      ("templates", .array [.string "tool"])]
    ∃ config course i j, Config.load [] (.object [("seed", .string "again"),
        ("targetCount", .number 1), ("categories", .array [category])]) = .ok config ∧
      config.skipExisting = true ∧
      Course.of config "again" "/" (some 0) .bundled = .ok course ∧
      Reachable host found course [] i ∧ i.IsOver course ∧ i.run.tally.generated = 0 ∧
      i.run.tally.partly = 0 ∧ i.run.tally.failed = 1 ∧
      Reachable host found course i.run.host j ∧ j.IsOver course ∧ j.run.tally.skipped = 1 := by
  intro host found category
  obtain ⟨config, hload, hskip, htarget, hsize, hlanguages, hcontributors⟩ : ∃ config,
      Config.load [] (.object [("seed", .string "again"), ("targetCount", .number 1),
        ("categories", .array [category])]) = .ok config ∧
        config.skipExisting = true ∧ config.targetCount = .real (1 : Nat) ∧
        Quota.size config.categories = 1 ∧ config.languages = Corpus.bundledLanguages ∧
        config.contributors = Corpus.bundledContributors := ⟨_, rfl, rfl, rfl, rfl, rfl, rfl⟩
  have hconfig : config.IsAccepted := ⟨_, _, hload⟩
  have hfit := Config.isFit_of_bundled hlanguages hcontributors
  obtain ⟨course, hcourse⟩ := Course.exists_of_isAccepted hconfig "again" "/" (some 0) .bundled
  have hplace : course.config.concurrency.lt 1 = false :=
    Course.config_of hcourse ▸ hconfig.place
  have hlasting : host.IsLasting found := Host.isLasting_recording _
  have hmute : host.IsMute := ⟨fun _ _ => rfl, fun _ _ _ => rfl, fun _ _ _ => ⟨_, rfl⟩⟩
  obtain ⟨i, hi, hover, -⟩ := @isRun_generate _ host found course [] hplace
  obtain ⟨j, hj, hjover, -⟩ := @isRun_generate _ host found course i.run.host hplace
  obtain ⟨hgenerated, hpartly, hskipped⟩ :=
    hover.counts_failures hconfig hskip hfit htarget hcourse hlasting hmute hi
  have hjskipped : j.run.tally.skipped = 1 := by
    rw [hskipped hj hjover, hsize]
    rfl
  -- the run has taken its one slot, and as nothing was there, it has not skipped it
  have hfailed : i.run.tally.failed = 1 := by
    have hsame := Course.config_of hcourse
    obtain ⟨entries, haccount⟩ := exists_isAccount hi
    have hmost : i.next ≤ 1 := by
      rw [← hsize, ← hsame, ← Course.length_jobs]
      exact haccount.next_le
    have hleast : min 1 (Quota.size course.config.categories) ≤ i.next :=
      hover.min_le_next (hsame ▸ htarget) hi
    rw [hsame, hsize, min_self] at hleast
    have hsum := hover.produced_add_failed hi
    have huntouched := hi.untouched (fun _ => rfl) hover.2.1
    rw [Tally.produced, hgenerated, hpartly] at hsum
    rw [hgenerated, hpartly] at huntouched
    by_contra hnot
    have hskipped := (huntouched (by omega)).2.1
    omega
  exact ⟨config, course, i, j, hload, hskip, hcourse, hi, hover, hgenerated, hpartly, hfailed, hj,
    hjover, hjskipped⟩

end Interleaving

end CorpusForge
