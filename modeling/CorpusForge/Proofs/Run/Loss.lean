import CorpusForge.Proofs.History.Shape
import CorpusForge.Proofs.Repository.Success
import CorpusForge.Proofs.Run.Journal
import CorpusForge.Proofs.Run.Success
import CorpusForge.Proofs.Selection.Limits

/-!
# Commits that are lost

What was thrown must have a text, or else the replay that it ends fails itself, and the commits that
were made until then are not reported. So a backend that takes one commit and then throws a record
without a text makes every repository fail, and none of its commits is counted.

* `Host.untelling`: such a backend;
* `Repository.perform_work_untelling`: what becomes of a repository on it;
* `Run.loses_commit`: a run that counts no commit though one was made.
-/

namespace CorpusForge

/-- A host that makes and writes everything. Its backend takes all calls up to the first commit, and
    throws what has no text from then on. -/
def Host.untelling : Host Bool where
  makeDirs _ committed := (.ok (), committed)
  writeFile _ _ committed := (.ok (), committed)
  call _ c committed := if committed then (.error .untold, committed) else (.ok (), c.isCommit)

/-! ### The replay -/

/-- The history of two commits or more has one commit, a call after it, and no other before. -/
theorem Call.exists_history_eq {commits : List Commit} (h : 2 ≤ commits.length) :
    ∃ made c next rest, history commits = made ++ c :: next :: rest ∧
      made.countP isCommit = 0 ∧ c.isCommit = true := by
  match commits, h with
  | first :: second :: others, _ =>
    refine ⟨init :: preparing first, commit first.message first.timestamp,
      setIdentity second.author, second.files.map stage ++
        commit second.message second.timestamp :: others.flatMap ofCommit, ?_, ?_, rfl⟩
    · simp [history, ofCommit, preparing]
    · exact (List.countP_cons_of_neg Bool.false_ne_true).trans (countP_isCommit_preparing first)

namespace Replay

/-- The first commit is made, and the call after it throws. -/
theorem run_untelling {made : List Call} (hmade : made.countP Call.isCommit = 0) {c : Call}
    (hc : c.isCommit = true) (path : String) (applied : Nat) (next : Call) (rest : List Call) :
    run (m := StateM Bool) (Host.untelling.call path) applied (made ++ c :: next :: rest) false =
      ((some .untold, applied + 1), true) := by
  induction made with
  | nil =>
    rw [List.nil_append, run_cons]
    simp only [Host.untelling, Bool.false_eq_true, if_false, hc, if_true]
    rw [run_cons]
    rfl
  | cons d made ih =>
    have hd : d.isCommit = false := by
      rw [List.countP_cons] at hmade
      split at hmade
      next => omega
      next hnot => simpa using hnot
    rw [List.countP_cons_of_neg (by simp [hd])] at hmade
    rw [List.cons_append, run_cons]
    simp only [Host.untelling, Bool.false_eq_true, if_false, hd]
    exact ih hmade

/-- The replay of two commits or more fails itself, and one commit is made. -/
theorem replay_untelling {commits : List Commit} (h : 2 ≤ commits.length) (path : String)
    (noted : Transcript) :
    ∃ t : Transcript, t.commits = noted.commits + 1 ∧
      replay (Host.untelling.journaled.call path) commits (false, noted) =
        (.error .noText, true, t) := by
  obtain ⟨made, c, next, rest, hhistory, hmade, hc⟩ := Call.exists_history_eq h
  obtain ⟨t, -, hrun, hnoting⟩ :=
    run_noting (Host.untelling.call path) 0 (Call.history commits) false noted
  have huntelling := run_untelling hmade hc path 0 next rest
  rw [← hhistory] at huntelling
  rw [huntelling] at hrun hnoting
  refine ⟨noted ++ t, ?_, ?_⟩
  · have hcount := (Prod.mk.inj hrun).2
    rw [Transcript.commits, Transcript.accepted_append, List.countP_append, Transcript.commits]
    omega
  · rw [replay_eq]
    exact (congrArg (fun ended => (outcome ended.1, ended.2)) hnoting).trans rfl

end Replay

/-! ### Histories of two commits -/

/-- A repository has a file that is not in its first commit. -/
theorem Structure.IsPlanned.exists_remaining {spec : Spec} {languages : List Language} {g : Gen}
    {structured : Structure} (h : IsPlanned spec languages g structured) :
    ∃ file ∈ structured.manifest.map ManifestEntry.path, file ∉ Artifact.bootstrapFiles := by
  obtain ⟨-, -, sources, artifacts, -, hartifacts, hmanifest, -⟩ := h.exists_sources
  refine ⟨"LICENSE", ?_, by decide⟩
  rw [hmanifest, List.map_append, Artifact.map_path_entry]
  exact List.mem_append_right _ (Artifact.common_subset_list hartifacts (by decide))

/-- A budget above one has a second commit, when there is a file for it. -/
theorem Schedule.two_le_length {input : Input} (htarget : input.targetCommits.le 1 = false)
    (hfile : ∃ file ∈ input.files, file ∉ input.bootstrapFiles) {commits : List Commit} {g g' : Gen}
    (h : (plan input).run g = (.ok commits, g')) : 2 ≤ commits.length := by
  obtain ⟨hparts, -⟩ := yields_plan input h
  have hcover := (covers_of_run_plan h).files
  rw [parts, htarget] at hparts
  obtain ⟨file, hmem, hnot⟩ := hfile
  cases commits with
  | nil => exact absurd hparts (List.cons_ne_nil _ _).symm
  | cons first others =>
    cases others with
    | nil =>
      -- the only commit would hold the bootstrap files and no other
      obtain ⟨hfirst, -⟩ := List.cons.inj hparts
      rw [List.flatMap_cons, List.flatMap_nil, List.append_nil, hfirst] at hcover
      have hnone : remaining input = [] := List.self_eq_append_right.1 hcover
      exact absurd (List.mem_filter.2 ⟨hmem, by simpa using hnot⟩) (hnone ▸ List.not_mem_nil)
    | cons second others => exact Nat.le_add_left 2 others.length

/-! ### The making -/

/-- What is done before the replay goes as on a host that refuses nothing, and is not noted. -/
theorem Work.perform_untelling {α : Type} {shelf : Shelf} {x : Work α}
    (hx : x.Asks (Request.IsMaking shelf)) {s : Shared (Bool × Transcript)}
    (hkept : shelf.Holds s.kept) :
    ∃ kept, shelf.Holds kept ∧
      x.perform Host.untelling.journaled s = (x.answeredBy Request.grant, ⟨kept, s.host⟩) := by
  induction x generalizing s with
  | done result => exact ⟨s.kept, hkept, rfl⟩
  | ask request next ih =>
    have hmaking := hx.request request.grant
    have hholds : shelf.Holds (Host.untelling.journaled.answer request s).2.kept :=
      Host.holds_answer hkept hmaking.isOn
    have hanswer : (Host.untelling.journaled.answer request s).1 = request.grant ∧
        (Host.untelling.journaled.answer request s).2.host = s.host := by
      cases request with
      | makeDirs path => exact ⟨rfl, rfl⟩
      | writeFile path text => exact ⟨rfl, rfl⟩
      | call path c => exact hmaking.elim
      | render shelf' path role context =>
        obtain rfl : shelf' = shelf := hmaking
        exact ⟨Artifact.render_fst_of_holds hkept path role context, rfl⟩
    obtain ⟨hreply, hhost⟩ := hanswer
    have hstep : (ask request next).perform Host.untelling.journaled s =
        (next (Host.untelling.journaled.answer request s).1).perform Host.untelling.journaled
          (Host.untelling.journaled.answer request s).2 := rfl
    rw [hstep, hreply, ← hhost]
    exact ih _ (hx.next _) hholds

namespace Repository

variable {shop : Workshop} {spec : Spec}

/-- The history of a repository that is filled has two commits or more, when its budget is above
    one. -/
theorem Making.two_le_length (htarget : spec.targetCommits.le 1 = false) {path path' : String}
    {structured : Structure} {commits : List Commit} {draft draft' draft₁ draft₂ : Draft}
    {t t' : List Exchange}
    (hlaid : (Making.laying shop.languages spec path draft).Leads t (.done (.ok structured, draft₁)))
    (hfilled : (Making.filling shop spec path' structured draft').Leads t'
      (.done (.ok commits, draft₂))) : 2 ≤ commits.length := by
  obtain ⟨g, g', hplan⟩ := Making.exists_plan_of_leads_filling hfilled
  exact Schedule.two_le_length htarget
    (Making.isPlanned_of_leads_laying hlaid).exists_remaining hplan

/-- A workable repository of two commits or more fails on the host, with none of its commits counted
    though one was made. -/
theorem perform_work_untelling (hshelf : shop.shelf = .bundled)
    (htimeline : shop.timeline.IsDrawable) (hspec : spec.IsWorkable shop.languages)
    (htarget : spec.targetCommits.le 1 = false) (path : String) (draft : Draft)
    {s : Shared (Bool × Transcript)} (hkept : shop.shelf.Holds s.kept)
    (hfresh : s.host.1 = false) :
    let made := (work shop spec path draft).perform Host.untelling.journaled s
    made.1.1.status = .failed ∧ made.1.1.commitsApplied = 0 ∧
      made.2.host.2.commits = s.host.2.commits + 1 := by
  obtain ⟨kind, htemplate⟩ := hspec.template
  obtain ⟨structured, draft₁, hlaid, hmanifest⟩ :=
    Making.grants_laying htemplate hspec.language hspec.extension path draft
  obtain ⟨commits, draft₂, hfilled, -⟩ :=
    Making.grants_filling hshelf htimeline htemplate hspec.contributors path hmanifest draft₁
  obtain ⟨kept₁, hkept₁, hlaying⟩ := Work.perform_untelling
    (@Making.isQuiet_laying shop.shelf shop.languages spec path draft) hkept
  obtain ⟨kept₂, hkept₂, hfilling⟩ := Work.perform_untelling
    (Making.isQuiet_filling shop spec path structured draft₁) (s := ⟨kept₁, s.host⟩) hkept₁
  rw [hlaid] at hlaying
  rw [hfilled] at hfilling
  have hlength : 2 ≤ commits.length := by
    obtain ⟨t₁, hleads₁⟩ := Work.exists_leads_perform Host.untelling.journaled
      (Making.laying shop.languages spec path draft) s
    obtain ⟨t₂, hleads₂⟩ := Work.exists_leads_perform Host.untelling.journaled
      (Making.filling shop spec path structured draft₁) ⟨kept₁, s.host⟩
    rw [hlaying] at hleads₁
    rw [hfilling] at hleads₂
    exact Making.two_le_length htarget hleads₁ hleads₂
  obtain ⟨t, ht, hreplay⟩ := Replay.replay_untelling hlength path s.host.2
  have hstate : s.host = (false, s.host.2) := Prod.ext hfresh rfl
  have hfinish : (finishing spec path structured commits draft₂).perform Host.untelling.journaled
      ⟨kept₂, s.host⟩ =
        ((failed spec path (some structured) draft₂.faults (.misuse .noText), draft₂),
          ⟨kept₂, true, t⟩) := by
    rw [finishing, Work.perform_bind, perform_replaying, hstate, hreplay]
    rfl
  rw [work_eq, Work.perform_bind, hlaying]
  dsimp only
  rw [laidOut, Work.perform_bind, hfilling]
  dsimp only
  rw [hfinish]
  exact ⟨rfl, rfl, ht⟩

end Repository

/-- The numbers of a range that begins at two or more are above one. -/
theorem Range.Contains.le_one_eq_false {range : Range} {number : Number}
    (h : range.Contains number) {low : Nat} (hlow : range.low = .real low) (hleast : 2 ≤ low) :
    number.le 1 = false := by
  have hfinite := Number.isFinite_of_isInteger h.whole
  have hnot := Number.lt_eq_false_of_le rfl hfinite (hlow ▸ h.low_le)
  rw [Number.lt_eq_of_isFinite hfinite rfl, decide_eq_false_iff_not, not_lt] at hnot
  have htwo : (2 : Rat) ≤ low := by exact_mod_cast hleast
  have hone : (1 : Number).toRat = 1 := rfl
  have hmore : (1 : Rat) < number.toRat := lt_of_lt_of_le one_lt_two (htwo.trans hnot)
  rw [Number.le, Number.eq_eq_of_isFinite hfinite rfl, Number.lt_eq_of_isFinite hfinite rfl,
    Number.lt_eq_of_isFinite (a := 1) rfl hfinite, hone]
  simp [hmore, hmore.le]

/-- What is drawn has a budget above one. -/
theorem Selector.le_one_eq_false_of_select {config : Config} (hconfig : config.IsAccepted)
    (hcommits : config.ranges.commits.IsNarrow) {selector : Selector}
    (hselector : selector.IsOf config) {slot : Slot} {id : Number} {g g' : Gen} {spec : Spec}
    (h : (selector.select slot id).run g = (.ok spec, g')) : spec.targetCommits.le 1 = false := by
  obtain ⟨low, high, hleast, -, hrange⟩ := hconfig.ranges.commits
  have hyields : (Drawing.int config.ranges.commits.low config.ranges.commits.high :
      Drawing Refusal Number).Yields config.ranges.commits.Contains := by
    intro g number g' hrun
    obtain ⟨drawn, hdrawn, hcontains⟩ := Range.exists_run_int hconfig.ranges.commits hcommits g
    obtain ⟨heq, -⟩ := Prod.mk.inj (hrun.symm.trans hdrawn)
    rwa [Except.ok.inj heq]
  suffices hselect : (selector.select slot id).Yields fun spec =>
      spec.targetCommits.le 1 = false from hselect h
  rw [select, hselector.ranges]
  refine Drawing.yields_bind_of_forall fun _ => Drawing.yields_bind_of_forall fun _ =>
    hyields.bind fun target htarget => Drawing.yields_bind_of_forall fun _ =>
      Drawing.yields_pure (htarget.le_one_eq_false ?_ hleast)
  rw [hrange]

/-! ### Runs -/

/-- Every job of an accepted configuration that can be worked with fails on the host, with no commit
    counted though one was made. -/
theorem Course.perform_work_untelling {config : Config} (hconfig : config.IsAccepted)
    (hfit : config.IsFit) (hcommits : config.ranges.commits.IsNarrow) {seed cwd : String}
    {now : Timestamp} {course : Course}
    (hcourse : Course.of config seed cwd now .bundled = .ok course) {k : Nat} {slot : Slot}
    (hslot : Quota.slot? config.categories k = some slot) {s : Shared (Bool × Transcript)}
    (hkept : Shelf.bundled.Holds s.kept) (hfresh : s.host.1 = false) :
    let made := (course.work (course.job k slot)).perform Host.untelling.journaled s
    (∃ repository, made.1 = .ok repository ∧ repository.status = .failed ∧
      repository.commitsApplied = 0) ∧ made.2.host.2.commits = s.host.2.commits + 1 := by
  obtain ⟨spec, gen, hdraw, hspec⟩ := exists_drawSpec hconfig hfit hcourse hslot
  have hwork : course.work (course.job k slot) =
      (Repository.work course.workshop spec (Path.join [course.outputDir, spec.name])
        { gen }).bind fun made => .done (.ok made.1) := by
    rw [work, hdraw]
    rfl
  obtain ⟨selector, hselector, rfl⟩ := exists_eq_of hcourse
  have htarget :=
    Selector.le_one_eq_false_of_select hconfig hcommits (Selector.isOf_ofConfig hselector) hdraw
  rw [hwork, Work.perform_bind]
  obtain ⟨hstatus, hnone, hmade⟩ := Repository.perform_work_untelling rfl hconfig.timeline hspec
    htarget _ { gen } hkept hfresh
  exact ⟨⟨_, rfl, hstatus, hnone⟩, hmade⟩

namespace Run

variable {σ : Type} {host : Host σ} {found : String → σ → Bool} {course : Course} {state : σ}

theorem settlePrompt_of_running_eq_nil {run : Run σ} (h : run.running = []) :
    run.settlePrompt = run := by
  obtain ⟨shared, tally, running, events⟩ := run
  obtain rfl : running = [] := h
  rfl

/-- A run with one slot, whose directory is not there, does the work of one job and counts it. -/
theorem generate_of_size_eq_one {slot : Slot} (hsize : Quota.size course.config.categories = 1)
    (hslot : Quota.slot? course.config.categories 0 = some slot)
    (htarget : course.config.targetCount.atMost 0 = false)
    (hplace : course.config.concurrency.atMost 0 = false)
    (hnothing : ∀ path, found path state = false) :
    let made := (course.work (course.job 0 slot)).perform host ⟨[], state⟩
    let run := generate host found course state
    run.tally = ({ nextIndex := course.config.startIndex.next } : Tally).countOutcome
        (course.job 0 slot) made.1 ∧
      run.toShared = made.2 := by
  have hawait : (begin course state).await course = begin course state := by
    have hopen : (begin course state).mayBeEnough course = false := htarget
    rw [await, hopen]
    rfl
  have hmore : (begin course state).isEnough course = false := htarget
  have hrunning : ((begin course state).announce course slot).running = [] := announce_running _ _ _
  have hfree : ((begin course state).announce course slot).isKept found course
      (course.job 0 slot) = false := by
    simp [isKept, begin, hnothing]
  have hjob : (begin course state).nextJob slot = course.job 0 slot := rfl
  have htake : (begin course state).take host found course slot =
      ((begin course state).announce course slot).start host course (course.job 0 slot) := by
    simp only [take, settlePrompt_of_running_eq_nil hrunning, ite_self, hjob, hfree,
      Bool.false_eq_true, if_false, enqueue, hrunning, List.length_nil, hplace]
  have hwalk : walk host found course 1 0 (begin course state) =
      ((begin course state).announce course slot).start host course (course.job 0 slot) := by
    rw [walk]
    simp only [hawait, hmore, Bool.false_eq_true, if_false, hslot, htake, walk]
  have hshared : (((begin course state).announce course slot).tellStart course
      (course.job 0 slot)).toShared = ⟨[], state⟩ := by
    rw [tellStart_toShared, announce_toShared]
    rfl
  simp only [generate, hsize, hwalk, start, hshared, settleAll, settle, join, tellStart_running,
    hrunning, List.nil_append, List.foldl_cons, List.foldl_nil, count, emit_tally, emit_toShared,
    record_tally, record_toShared, tellStart_tally, announce_tally]
  exact ⟨rfl, trivial⟩

/-- One repository is to be made, and its backend throws what has no text after the first commit.
    The run counts no commit, though one was made. -/
theorem loses_commit :
    let category : Value := .object [("name", .string "cli_tools"), ("count", .number 1),
      ("templates", .array [.string "tool"])]
    ∃ config course run, Config.load [] (.object [("seed", .string "again"),
        ("targetCount", .number 1), ("categories", .array [category])]) = .ok config ∧
      Course.of config "again" "/" (some 0) .bundled = .ok course ∧
      run = generate Host.untelling.journaled (fun _ _ => false) course (false, []) ∧
      run.tally.failed = 1 ∧ run.tally.totalCommits = 0 ∧ run.host.2.commits = 1 := by
  intro category
  obtain ⟨config, slot, hload, htarget, hsize, hslot, hlanguages, hcontributors, hranges⟩ :
      ∃ config slot, Config.load [] (.object [("seed", .string "again"),
        ("targetCount", .number 1), ("categories", .array [category])]) = .ok config ∧
        config.targetCount.atMost 0 = false ∧ Quota.size config.categories = 1 ∧
        Quota.slot? config.categories 0 = some slot ∧
        config.languages = Corpus.bundledLanguages ∧
        config.contributors = Corpus.bundledContributors ∧ config.ranges = {} :=
    ⟨_, _, rfl, rfl, rfl, rfl, rfl, rfl, rfl⟩
  have hconfig : config.IsAccepted := ⟨_, _, hload⟩
  have hfit := Config.isFit_of_bundled hlanguages hcontributors
  have hcommits : config.ranges.commits.IsNarrow := by
    rw [hranges]
    exact ⟨by decide +kernel, by decide +kernel, by decide +kernel⟩
  obtain ⟨course, hcourse⟩ := Course.exists_of_isAccepted hconfig "again" "/" (some 0) .bundled
  obtain ⟨⟨repository, hmade, hstatus, hnone⟩, hcommit⟩ :=
    Course.perform_work_untelling (s := ⟨[], false, []⟩) hconfig hfit hcommits hcourse hslot
      (Artifact.holds_nil .bundled) rfl
  obtain rfl := Course.config_of hcourse
  obtain ⟨htally, hshared⟩ := @generate_of_size_eq_one _ Host.untelling.journaled
    (fun _ _ => false) course (false, []) slot hsize hslot htarget
    (Number.atMost_zero_of_not_lt_one hconfig.place) fun _ => rfl
  refine ⟨course.config, course, _, hload, hcourse, rfl, ?_⟩
  rw [htally, hshared, hmade]
  refine ⟨?_, ?_, hcommit⟩
  · rw [Tally.countOutcome, Tally.count, Tally.countStatus, hstatus]
    cases repository.error <;> rfl
  · rw [Tally.totalCommits_countOutcome, committed, hnone]

end Run

end CorpusForge
