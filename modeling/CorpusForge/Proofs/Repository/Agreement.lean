import CorpusForge.Config.Corpus
import CorpusForge.Proofs.History.Schedule
import CorpusForge.Proofs.Repository.Outcome

/-!
# Content, schedule and history agree

The backend is not called before every file of the manifest is written, and what is staged are
files of the manifest. When something of the content is missing, nothing is staged, and the making
fails. When the making succeeds, every file of the manifest was staged once.

* `Repository.Agrees`: what the exchanges of a making say;
* `Repository.IsFilled.agrees`: so it is when the content is complete;
* `Repository.agrees_of_isMaking`: and before.
-/

namespace CorpusForge

variable {shop : Workshop} {spec : Spec} {path : String} {draft draft' : Draft}
  {t : List Exchange} {commits : List Commit}

/-! ### Calls -/

theorem Call.filterMap_staged?_ofCommit (commit : Commit) :
    (Call.ofCommit commit).filterMap Call.staged? = commit.files := by
  have hfiles : commit.files.filterMap (Call.staged? ∘ Call.stage) = commit.files :=
    List.filterMap_some
  rw [Call.ofCommit, List.cons_append, List.filterMap_cons_none rfl, List.filterMap_append,
    List.filterMap_map, hfiles]
  exact List.append_nil _

/-- The files that a history stages are those of its commits. -/
theorem Call.filterMap_staged?_history (commits : List Commit) :
    (Call.history commits).filterMap Call.staged? = commits.flatMap Commit.files := by
  rw [Call.history, List.filterMap_cons_none rfl, List.filterMap_flatMap]
  simp only [Call.filterMap_staged?_ofCommit]

theorem Exchange.filterMap_staged? (t : List Exchange) :
    t.filterMap Exchange.staged? = (t.filterMap Exchange.call?).filterMap Call.staged? := by
  rw [List.filterMap_filterMap]
  rfl

theorem Exchange.call?_eq_none_of_isMaking {shelf : Shelf} {exchange : Exchange}
    (h : exchange.1.IsMaking shelf) : exchange.call? = none := by
  obtain ⟨request, answer⟩ := exchange
  cases request with
  | call path c => exact h.elim
  | makeDirs | writeFile | render => rfl

namespace Repository

variable {structured : Structure} {g : Gen} {draft₁ draft₂ : Draft} {t₁ t₂ : List Exchange}

/-- The files of a history are those of the manifest. -/
theorem perm_of_covers (hplanned : Structure.IsPlanned spec shop.languages g structured)
    (hcovers : Schedule.Covers (Making.scheduleInput shop spec structured) commits) :
    (commits.flatMap Commit.files).Perm (structured.manifest.map ManifestEntry.path) := by
  obtain ⟨hnodup, hbootstrap⟩ := hplanned.paths
  have hfiles := @Schedule.nodup_append_remaining (Making.scheduleInput shop spec structured)
    hnodup Artifact.nodup_bootstrapFiles
  -- neither list has a repetition, so it is enough that they have the same files
  rw [hcovers.files, List.perm_ext_iff_of_nodup hfiles hnodup]
  intro file
  constructor
  · intro hmem
    rcases List.mem_append.1 hmem with hfirst | hlater
    · exact hbootstrap hfirst
    · exact (List.mem_filter.1 hlater).1
  · exact @Schedule.mem_append_remaining (Making.scheduleInput shop spec structured) file

/-- A repository that was laid out and filled: its structure was planned, its history covers the
    files, which are all written, and nothing was refused nor the backend called. -/
structure IsFilled (shop : Workshop) (spec : Spec) (path : String) (g : Gen)
    (t : List Exchange) (structured : Structure) (commits : List Commit) : Prop where
  planned : Structure.IsPlanned spec shop.languages g structured
  covers : Schedule.Covers (Making.scheduleInput shop spec structured) commits
  written : ∀ entry ∈ structured.manifest, Making.IsWritten path t entry
  accepted : ∀ exchange ∈ t, exchange.isRefused = false
  quiet : ∀ exchange ∈ t, exchange.call? = none

theorem isFilled_of_leads
    (hlaid : (Making.laying shop.languages spec path draft).Leads t₁
      (.done (.ok structured, draft₁)))
    (hfilled : (Making.filling shop spec path structured draft₁).Leads t₂
      (.done (.ok commits, draft₂))) :
    IsFilled shop spec path draft.gen (t₁ ++ t₂) structured commits := by
  refine ⟨Making.isPlanned_of_leads_laying hlaid, ?_, fun entry hentry => ?_, ?_, ?_⟩
  · obtain ⟨g, g', hplan⟩ := Making.exists_plan_of_leads_filling hfilled
    exact Schedule.covers_of_run_plan hplan
  · exact (Making.isWritten_of_leads_filling hfilled entry hentry).mono
      (List.subset_append_right _ _)
  · exact List.forall_mem_append.2
      ⟨Making.isStrict_laying _ _ _ hlaid, Making.isStrict_filling _ _ _ _ hfilled⟩
  · refine List.forall_mem_append.2 ⟨fun exchange hmem => ?_, fun exchange hmem => ?_⟩
    · exact Exchange.call?_eq_none_of_isMaking
        (@Making.isQuiet_laying shop.shelf _ _ _ _ _ _ hlaid exchange hmem)
    · exact Exchange.call?_eq_none_of_isMaking
        (Making.isQuiet_filling _ _ _ _ _ hfilled exchange hmem)

/-- What the last stage has called is a beginning of the history. -/
theorem exists_calls_of_leads_finishing {w : Work (Repository × Draft)}
    (h : (finishing spec path structured commits draft).Leads t w) :
    ∃ rest, Call.history commits = t.filterMap Exchange.call? ++ rest := by
  obtain ⟨_, hreplaying⟩ := Work.exists_leads_of_bind_done (fun _ => ⟨_, rfl⟩) h
  obtain ⟨_, hrun⟩ := Work.exists_leads_of_bind_done (fun _ => ⟨_, rfl⟩) hreplaying
  exact exists_calls_of_leads_replayRun hrun

/-- What was asked before a call, when nothing in the first part of the exchanges is a call. -/
theorem exists_eq_append_of_call {t t₁ u v : List Exchange} {exchange : Exchange}
    (hquiet : ∀ exchange ∈ t, exchange.call? = none) (hcall : exchange.call? ≠ none)
    (h : t ++ t₁ = u ++ exchange :: v) : ∃ rest, u = t ++ rest ∧ t₁ = rest ++ exchange :: v := by
  rcases List.append_eq_append_iff.1 h with ⟨rest, hu, ht₁⟩ | ⟨rest, ht, hv⟩
  · exact ⟨rest, hu, ht₁⟩
  · cases rest with
    | nil => exact ⟨[], by simpa using ht.symm, by simpa using hv.symm⟩
    | cons first rest =>
      obtain ⟨rfl, -⟩ := List.cons.inj hv
      exact absurd (hquiet exchange (by simp [ht])) hcall

/-! ### Agreement -/

/-- Something of the content of a repository is missing: its structure could not be planned,
    something other than a call was refused, or a file of its manifest is not written. -/
def IsMissing (shop : Workshop) (spec : Spec) (path : String) (g : Gen) (t : List Exchange) :
    Prop :=
  (∃ mishap g', (Structure.plan spec shop.languages).run g = (.error mishap, g')) ∨
  (∃ exchange ∈ t, exchange.call? = none ∧ exchange.isRefused = true) ∨
  ∃ structured, Structure.IsPlanned spec shop.languages g structured ∧
    ∃ entry ∈ structured.manifest, ¬Making.IsWritten path t entry

/-- The content and the history of a repository agree in the exchanges of its making, of which the
    work `w` is left. -/
structure Agrees (shop : Workshop) (spec : Spec) (path : String) (g : Gen) (t : List Exchange)
    (w : Work (Repository × Draft)) : Prop where
  /-- Before any call, every file of the manifest is written. -/
  written : ∀ before exchange after, t = before ++ exchange :: after → exchange.call? ≠ none →
    ∃ structured, Structure.IsPlanned spec shop.languages g structured ∧
      ∀ entry ∈ structured.manifest, Making.IsWritten path before entry
  /-- What is staged is a file of the manifest, and it is written. -/
  staged : ∀ before exchange after file, t = before ++ exchange :: after →
    exchange.staged? = some file →
    ∃ structured, Structure.IsPlanned spec shop.languages g structured ∧
      ∃ entry ∈ structured.manifest, entry.path = file ∧ Making.IsWritten path before entry
  /-- As long as something is missing, there is no call. -/
  missing : IsMissing shop spec path g t → ∀ exchange ∈ t, exchange.call? = none
  /-- What ends without a call has failed, and nothing is committed. -/
  uncalled : (∀ exchange ∈ t, exchange.call? = none) → ∀ repository draft',
    w = .done (repository, draft') →
      repository.status = .failed ∧ repository.commits = [] ∧ repository.commitsApplied = 0
  /-- A success has staged every file of the manifest once. -/
  covered : ∀ repository draft', w = .done (repository, draft') → repository.status = .success →
    (t.filterMap Exchange.staged?).Perm (repository.manifest.map ManifestEntry.path) ∧
      (t.filterMap Exchange.staged?).Nodup

/-- In a repository that is filled, nothing is missing. -/
theorem IsFilled.not_isMissing (h : IsFilled shop spec path g t₁ structured commits)
    (hcalls : ∀ exchange ∈ t₂, exchange.call? ≠ none) :
    ¬IsMissing shop spec path g (t₁ ++ t₂) := by
  rintro (⟨mishap, g', hrefused⟩ | ⟨exchange, hmem, hquiet, hrefused⟩ |
    ⟨structured', hplanned, entry, hentry, hunwritten⟩)
  · obtain ⟨g'', hplan⟩ := h.planned
    rw [hplan] at hrefused
    exact nomatch hrefused
  · -- a request that is no call was asked in the first two stages, where none was refused
    rcases List.mem_append.1 hmem with hmem | hmem
    · exact absurd (h.accepted exchange hmem) (by simp [hrefused])
    · exact hcalls exchange hmem hquiet
  · obtain rfl := hplanned.unique h.planned
    exact hunwritten ((h.written entry hentry).mono (List.subset_append_left _ _))

/-- A making that has come no further than its content. -/
theorem agrees_of_isMaking {w : Work (Repository × Draft)}
    (hmaking : ∀ exchange ∈ t, exchange.1.IsMaking shop.shelf)
    (hfailed : ∀ repository draft', w = .done (repository, draft') →
      ∃ structured faults mishap, repository = failed spec path structured faults mishap) :
    Agrees shop spec path g t w := by
  have hquiet : ∀ exchange ∈ t, exchange.call? = none := fun exchange hmem =>
    Exchange.call?_eq_none_of_isMaking (hmaking exchange hmem)
  refine ⟨?_, ?_, fun _ => hquiet, ?_, ?_⟩
  · intro before exchange after ht hcall
    exact absurd (hquiet exchange (by simp [ht])) hcall
  · intro before exchange after file ht hstaged
    rw [Exchange.staged?, hquiet exchange (by simp [ht])] at hstaged
    exact nomatch hstaged
  · intro _ repository draft' hdone
    obtain ⟨structured, faults, mishap, rfl⟩ := hfailed repository draft' hdone
    exact ⟨rfl, rfl, rfl⟩
  · intro repository draft' hdone hsuccess
    obtain ⟨structured, faults, mishap, rfl⟩ := hfailed repository draft' hdone
    exact nomatch hsuccess

variable {w : Work (Repository × Draft)}

/-- The last stage asks for calls only. -/
theorem call?_ne_none_of_leads_finishing
    (h : (finishing spec path structured commits draft).Leads t w) :
    ∀ exchange ∈ t, exchange.call? ≠ none := by
  rintro ⟨request, answer⟩ hmem
  obtain ⟨c, rfl⟩ := asks_finishing spec path structured commits draft h _ hmem
  exact Option.some_ne_none c

/-- What the last stage has staged are files of the history. -/
theorem mem_files_of_leads_finishing
    (h : (finishing spec path structured commits draft).Leads t w) {exchange : Exchange}
    (hmem : exchange ∈ t) {file : String} (hfile : exchange.staged? = some file) :
    file ∈ commits.flatMap Commit.files := by
  obtain ⟨left, hhistory⟩ := exists_calls_of_leads_finishing h
  rw [← Call.filterMap_staged?_history, hhistory, List.filterMap_append,
    ← Exchange.filterMap_staged?]
  exact List.mem_append_left _ (List.mem_filterMap.2 ⟨exchange, hmem, hfile⟩)

/-- A replay that is done has made a call. -/
theorem ne_nil_of_leads_finishing_done {repository : Repository}
    (h : (finishing spec path structured commits draft).Leads t (.done (repository, draft'))) :
    t ≠ [] := by
  rintro rfl
  obtain ⟨ended, -, hrun⟩ := leads_finishing_done h
  exact nomatch hrun

/-- A success has staged the files of the history. -/
theorem staged_of_leads_finishing_done {repository : Repository}
    (h : (finishing spec path structured commits draft).Leads t (.done (repository, draft')))
    (hsuccess : repository.status = .success) :
    t.filterMap Exchange.staged? = commits.flatMap Commit.files ∧
      repository.manifest = structured.manifest := by
  obtain ⟨⟨thrown, applied⟩, rfl, hrun⟩ := leads_finishing_done h
  have hnone : thrown = none := by
    have herror := (isSound_concluded spec path structured commits draft.faults
      (thrown, applied)).1 hsuccess
    cases thrown with
    | none => rfl
    | some thrown => exact absurd herror (error_concluded_ne_none _ _ _ _ _ _ _)
  rw [Exchange.filterMap_staged?, (of_leads_replayRun_done hrun).2.1 hnone,
    Call.filterMap_staged?_history]
  exact ⟨rfl, concluded_manifest⟩

/-- A making that has come to its history. -/
theorem IsFilled.agrees (hcontent : IsFilled shop spec path g t₁ structured commits)
    (h : (finishing spec path structured commits draft).Leads t₂ w) :
    Agrees shop spec path g (t₁ ++ t₂) w := by
  have hperm := perm_of_covers hcontent.planned hcontent.covers
  have hcalls := call?_ne_none_of_leads_finishing h
  have hwritten : ∀ rest, ∀ entry ∈ structured.manifest,
      Making.IsWritten path (t₁ ++ rest) entry := fun rest entry hentry =>
    (hcontent.written entry hentry).mono (List.subset_append_left _ _)
  refine ⟨?_, ?_, fun hmissing => absurd hmissing (hcontent.not_isMissing hcalls), ?_, ?_⟩
  · intro before exchange after ht hcall
    obtain ⟨rest, rfl, -⟩ := exists_eq_append_of_call hcontent.quiet hcall ht
    exact ⟨structured, hcontent.planned, hwritten rest⟩
  · intro before exchange after file ht hstaged
    obtain ⟨c, hc, -⟩ := Option.bind_eq_some_iff.1 hstaged
    obtain ⟨rest, rfl, rfl⟩ :=
      exists_eq_append_of_call hcontent.quiet (hc ▸ Option.some_ne_none c) ht
    have hfile := mem_files_of_leads_finishing h (by simp) hstaged
    obtain ⟨entry, hentry, rfl⟩ := List.mem_map.1 (hperm.subset hfile)
    exact ⟨structured, hcontent.planned, entry, hentry, rfl, hwritten rest entry hentry⟩
  · rintro hquiet repository draft' rfl
    -- a replay that is done has made a call
    obtain ⟨exchange, rest, rfl⟩ := List.exists_cons_of_ne_nil (ne_nil_of_leads_finishing_done h)
    exact absurd (hquiet exchange (by simp)) (hcalls exchange List.mem_cons_self)
  · rintro repository draft' rfl hsuccess
    obtain ⟨hstaged, hmanifest⟩ := staged_of_leads_finishing_done h hsuccess
    have hnone : t₁.filterMap Exchange.staged? = [] := by
      rw [Exchange.filterMap_staged?, List.filterMap_eq_nil_iff.2 hcontent.quiet]
      rfl
    rw [List.filterMap_append, hnone, List.nil_append, hstaged, hmanifest]
    exact ⟨hperm, hperm.nodup_iff.2 hcontent.planned.paths.1⟩

/-- Content, schedule and history agree at every point of the making, whatever was answered. -/
theorem content_before_history (h : (work shop spec path draft).Leads t w) :
    Agrees shop spec path draft.gen t w := by
  rcases leads_work h with ⟨hmaking, hfailed⟩ |
    ⟨t₁, t₂, t₃, structured, draft₁, commits, draft₂, rfl, hlaid, hfilled, hreplay⟩
  · exact agrees_of_isMaking hmaking hfailed
  · exact (isFilled_of_leads hlaid hfilled).agrees hreplay

/-- Making a repository at once has its exchanges. -/
theorem exists_leads_make {σ : Type} (host : Host σ) (shop : Workshop) (spec : Spec)
    (path : String) (bench : Bench σ) :
    ∃ t draft', (work shop spec path ⟨bench.gen, bench.faults⟩).Leads t
      (.done ((make host shop spec path bench).1, draft')) :=
  (Work.exists_leads_perform host (work shop spec path ⟨bench.gen, bench.faults⟩)
    ⟨bench.kept, bench.host⟩).imp fun _ ht => ⟨_, ht⟩

/-- A web application, on a host that accepts everything. -/
theorem content_before_history_webApp :
    let shop : Workshop :=
      { languages := Corpus.bundledLanguages, timeline := {}, faultInjection := {}
        now := some 0, shelf := .bundled }
    let spec : Spec :=
      { id := .real 5001, name := "repo-05001-react-clone", category := "open_source_clones"
        template := some "react-clone", language := "javascript", targetLines := .real 2000
        targetCommits := .real 20, contributors := Corpus.bundledContributors }
    let bench : Bench Unit := ⟨.ofText "seed", [], 0, ()⟩
    ∃ t draft', Agrees shop spec "/corpus/repo-05001-react-clone" bench.gen t
      (.done ((make (.accepting fun _ => true) shop spec "/corpus/repo-05001-react-clone" bench).1,
        draft')) := by
  intro shop spec bench
  obtain ⟨t, draft', h⟩ :=
    exists_leads_make (.accepting fun _ => true) shop spec "/corpus/repo-05001-react-clone" bench
  exact ⟨t, draft', content_before_history h⟩

end Repository

end CorpusForge
