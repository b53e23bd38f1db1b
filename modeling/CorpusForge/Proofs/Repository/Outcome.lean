import CorpusForge.Proofs.Artifact.Render
import CorpusForge.Proofs.Repository.Making

/-!
# The making and its outcome

The making of a repository either is in one of its first two stages, where the backend is not
called, or it has come to the replay, with all files written (`Repository.leads_work`). Its outcome
tells how many commits were accepted, and has an error exactly when it is no success.

* `Repository.leads_work`: what the making may have asked;
* `Repository.of_leads_work_done`: what its outcome tells.
-/

namespace CorpusForge

/-- A rendering uses the templates of the shelf. -/
def Request.IsOn (shelf : Shelf) : Request → Prop
  | .render shelf' _ _ _ => shelf' = shelf
  | _ => True

theorem Request.IsMaking.isOn {shelf : Shelf} {request : Request} (h : request.IsMaking shelf) :
    request.IsOn shelf := by
  cases request with
  | render => exact h
  | makeDirs | writeFile | call => exact trivial

/-- What is kept after an answer is on the shelf as well. -/
theorem Host.holds_answer {σ : Type} {host : Host σ} {shelf : Shelf} {s : Shared σ}
    (hkept : shelf.Holds s.kept) {request : Request} (hrequest : request.IsOn shelf) :
    shelf.Holds (host.answer request s).2.kept := by
  cases request with
  | makeDirs | writeFile | call => exact hkept
  | render shelf' path role context =>
    obtain rfl : shelf' = shelf := hrequest
    exact Artifact.holds_render_snd hkept path role context

namespace Repository

variable {shop : Workshop} {spec : Spec} {path : String} {draft draft' : Draft}
  {t : List Exchange}

/-! ### The replay -/

/-- A replay only calls the backend, for the repository at its path. -/
theorem asks_replayRun (path : String) (applied : Nat) (calls : List Call) :
    (Replay.run (fun c => .ask (.call path c) .done) applied calls : Work _).Asks
      fun request => ∃ c, request = .call path c := by
  induction calls generalizing applied with
  | nil => exact Work.asks_done _
  | cons c rest ih =>
    refine Work.asks_ask ⟨c, rfl⟩ fun answer => ?_
    cases answer with
    | ok => exact ih _
    | error thrown => exact Work.asks_done _

theorem asks_replaying (path : String) (commits : List Commit) :
    (replaying path commits).Asks fun request => ∃ c, request = .call path c :=
  (asks_replayRun path 0 _).bind fun _ => Work.asks_done _

/-- What a replay has called is a beginning of its calls. -/
theorem exists_calls_of_leads_replayRun {applied : Nat} {calls : List Call}
    {w : Work (Option Thrown × Nat)}
    (h : (Replay.run (fun c => .ask (.call path c) .done) applied calls : Work _).Leads t w) :
    ∃ rest, calls = t.filterMap Exchange.call? ++ rest := by
  induction calls generalizing applied t with
  | nil =>
    rw [(Work.leads_done_iff.1 h).1]
    exact ⟨[], rfl⟩
  | cons c rest ih =>
    cases h with
    | refl => exact ⟨c :: rest, rfl⟩
    | @head _ _ answer t _ h =>
      cases answer with
      | ok =>
        obtain ⟨left, hleft⟩ := ih h
        exact ⟨left, congrArg (c :: ·) hleft⟩
      | error thrown =>
        rw [(Work.leads_done_iff.1 h).1]
        exact ⟨rest, rfl⟩

/-- A replay counts the commits that were accepted, and makes all its calls unless one throws. -/
theorem of_leads_replayRun_done {applied n : Nat} {calls : List Call} {thrown : Option Thrown}
    (h : (Replay.run (fun c => .ask (.call path c) .done) applied calls : Work _).Leads t
      (.done (thrown, n))) :
    n = applied + t.countP Exchange.isCommit ∧
      (thrown = none → t.filterMap Exchange.call? = calls) ∧
      ∀ x, thrown = some x → ∃ c, ⟨.call path c, .error x⟩ ∈ t := by
  induction calls generalizing applied t with
  | nil =>
    obtain ⟨rfl, hdone⟩ := Work.leads_done_iff.1 h
    cases hdone
    exact ⟨rfl, fun _ => rfl, nofun⟩
  | cons c rest ih =>
    cases h with
    | @head _ _ answer t _ h =>
      cases answer with
      | ok =>
        obtain ⟨hn, hcalls, hthrown⟩ := ih h
        refine ⟨?_, fun hnone => congrArg (c :: ·) (hcalls hnone), fun x hx =>
          (hthrown x hx).imp fun _ hmem => List.mem_cons_of_mem _ hmem⟩
        rw [hn, List.countP_cons]
        cases hc : c.isCommit <;> simp [Exchange.isCommit, hc, Except.isOk, Except.toBool]
        omega
      | error thrown =>
        obtain ⟨rfl, hdone⟩ := Work.leads_done_iff.1 h
        cases hdone
        refine ⟨by simp [Exchange.isCommit, Except.isOk, Except.toBool], nofun, ?_⟩
        rintro _ ⟨⟩
        exact ⟨c, List.mem_cons_self⟩

/-! ### The whole making -/

section

variable {structured : Structure} {commits : List Commit} {faults : Nat}
  {replay : Except Misuse Replay}

@[simp] theorem concluded_spec :
    (concluded spec path structured commits faults replay).spec = spec := by cases replay <;> rfl

@[simp] theorem concluded_archetype :
    (concluded spec path structured commits faults replay).archetype =
      some structured.archetype := by cases replay <;> rfl

@[simp] theorem concluded_manifest :
    (concluded spec path structured commits faults replay).manifest = structured.manifest := by
  cases replay <;> rfl

@[simp] theorem concluded_faultsInjected :
    (concluded spec path structured commits faults replay).faultsInjected = faults := by
  cases replay <;> rfl

end

/-- The outcome of the making when its first two stages are done. -/
def finishing (spec : Spec) (path : String) (structured : Structure) (commits : List Commit)
    (draft : Draft) : Work (Repository × Draft) :=
  (replaying path commits).bind fun replay =>
    .done (concluded spec path structured commits draft.faults replay, draft)

theorem asks_finishing (spec : Spec) (path : String) (structured : Structure)
    (commits : List Commit) (draft : Draft) :
    (finishing spec path structured commits draft).Asks fun request =>
      ∃ c, request = .call path c :=
  (asks_replaying path commits).bind fun _ => Work.asks_done _

/-- What is left of the making when the first stage is done. -/
def laidOut (shop : Workshop) (spec : Spec) (path : String) :
    Except Mishap Structure × Draft → Work (Repository × Draft)
  | (.error mishap, draft) => .done (failed spec path none draft.faults mishap, draft)
  | (.ok structured, draft) =>
    (Making.filling shop spec path structured draft).bind fun
      | (.error mishap, draft) =>
        .done (failed spec path (some structured) draft.faults mishap, draft)
      | (.ok commits, draft) => finishing spec path structured commits draft

theorem work_eq (shop : Workshop) (spec : Spec) (path : String) (draft : Draft) :
    work shop spec path draft =
      (Making.laying shop.languages spec path draft).bind (laidOut shop spec path) := by
  refine congrArg (Work.bind (Making.laying shop.languages spec path draft)) (funext fun laid => ?_)
  obtain ⟨laid, draft⟩ := laid
  cases laid with
  | error mishap => rfl
  | ok structured =>
    refine congrArg (Work.bind (Making.filling shop spec path structured draft))
      (funext fun filled => ?_)
    obtain ⟨filled, draft⟩ := filled
    cases filled <;> rfl

/-- The making either has asked nothing of the backend, and fails when it ends; or the repository
    was laid out and filled, and its history is replayed. -/
theorem leads_work {w : Work (Repository × Draft)}
    (h : (work shop spec path draft).Leads t w) :
    ((∀ exchange ∈ t, exchange.1.IsMaking shop.shelf) ∧
      ∀ repository draft', w = .done (repository, draft') →
        ∃ structured faults mishap, repository = failed spec path structured faults mishap) ∨
    ∃ t₁ t₂ t₃ structured draft₁ commits draft₂, t = t₁ ++ t₂ ++ t₃ ∧
      (Making.laying shop.languages spec path draft).Leads t₁ (.done (.ok structured, draft₁)) ∧
      (Making.filling shop spec path structured draft₁).Leads t₂
        (.done (.ok commits, draft₂)) ∧
      (finishing spec path structured commits draft₂).Leads t₃ w := by
  have hlaying : (Making.laying shop.languages spec path draft).Asks
      (Request.IsMaking shop.shelf) := Making.isQuiet_laying _ _ _ _
  -- the making may be in its first stage, have failed in it, or be past it; then so for the second
  rw [work_eq] at h
  rcases Work.leads_bind h with ⟨_, _, hlaid, rfl⟩ | ⟨t₁, t₂, ⟨laid, draft₁⟩, rfl, hlaid, h⟩
  · exact .inl ⟨hlaying hlaid, fun _ _ hdone => nomatch hdone⟩
  cases laid with
  | error mishap =>
    obtain ⟨rfl, rfl⟩ := Work.leads_done_iff.1 h
    refine .inl ⟨by simpa using hlaying hlaid, fun repository draft' hdone => ?_⟩
    cases hdone
    exact ⟨_, _, _, rfl⟩
  | ok structured =>
    have hfilling := Making.isQuiet_filling shop spec path structured draft₁
    rw [laidOut] at h
    rcases Work.leads_bind h with ⟨_, _, hfilled, rfl⟩ | ⟨t₂, t₃, ⟨filled, draft₂⟩, rfl, hfilled, h⟩
    · exact .inl ⟨List.forall_mem_append.2 ⟨hlaying hlaid, hfilling hfilled⟩,
        fun _ _ hdone => nomatch hdone⟩
    cases filled with
    | error mishap =>
      obtain ⟨rfl, rfl⟩ := Work.leads_done_iff.1 h
      refine .inl ⟨?_, fun repository draft' hdone => ?_⟩
      · simpa using List.forall_mem_append.2 ⟨hlaying hlaid, hfilling hfilled⟩
      · cases hdone
        exact ⟨_, _, _, rfl⟩
    | ok commits =>
      exact .inr ⟨t₁, t₂, t₃, structured, draft₁, commits, draft₂, (List.append_assoc _ _ _).symm,
        hlaid, hfilled, h⟩

/-- The making of a repository uses the templates of one shelf. -/
theorem asks_work (shop : Workshop) (spec : Spec) (path : String) (draft : Draft) :
    (work shop spec path draft).Asks (Request.IsOn shop.shelf) := by
  intro t w h exchange hmem
  rcases leads_work h with ⟨hquiet, -⟩ |
    ⟨t₁, t₂, t₃, structured, draft₁, commits, draft₂, rfl, hlaid, hfilled, hreplay⟩
  · exact (hquiet exchange hmem).isOn
  · rcases List.mem_append.1 hmem with hmem | hmem
    · rcases List.mem_append.1 hmem with hmem | hmem
      · exact (Making.isQuiet_laying _ _ _ _ hlaid exchange hmem).isOn
      · exact (Making.isQuiet_filling _ _ _ _ _ hfilled exchange hmem).isOn
    · obtain ⟨c, hc⟩ := asks_finishing spec path structured commits draft₂ hreplay exchange hmem
      rw [hc]
      exact trivial

/-! ### The outcome -/

/-- An outcome has an error exactly when it is no success. -/
def IsSound (repository : Repository) : Prop :=
  repository.status = .success ↔ repository.error = none

theorem isSound_failed (spec : Spec) (path : String) (structured : Option Structure)
    (faults : Nat) (mishap : Mishap) : (failed spec path structured faults mishap).IsSound :=
  iff_of_false nofun nofun

/-- What is no success has an error. -/
theorem error_concluded_ne_none (spec : Spec) (path : String) (structured : Structure)
    (commits : List Commit) (faults : Nat) (thrown : Thrown) (applied : Nat) :
    (concluded spec path structured commits faults
      (Replay.outcome (some thrown, applied))).error ≠ none := by
  rw [Replay.outcome]
  cases thrown.normalize <;> exact Option.some_ne_none _

theorem isSound_concluded (spec : Spec) (path : String) (structured : Structure)
    (commits : List Commit) (faults : Nat) (ended : Option Thrown × Nat) :
    (concluded spec path structured commits faults (Replay.outcome ended)).IsSound := by
  rcases ended with ⟨_ | thrown, applied⟩
  · exact iff_of_true rfl rfl
  refine iff_of_false ?_ (error_concluded_ne_none _ _ _ _ _ _ _)
  rw [Replay.outcome]
  cases thrown.normalize with
  | error misuse => exact nofun
  | ok failure =>
    simp only [Except.map, concluded, replayed, Replay.stopped]
    split <;> exact nofun

/-- The commits that were applied are counted, unless something was thrown that has no text. -/
theorem commitsApplied_concluded (spec : Spec) (path : String) (structured : Structure)
    (commits : List Commit) (faults : Nat) (ended : Option Thrown × Nat) :
    let repository := concluded spec path structured commits faults (Replay.outcome ended)
    repository.commitsApplied ≤ ended.2 ∧
      ((∀ thrown, ended.1 = some thrown → thrown.text? ≠ none) →
        repository.commitsApplied = ended.2) := by
  rcases ended with ⟨_ | thrown, applied⟩
  · exact ⟨le_refl _, fun _ => rfl⟩
  rw [Replay.outcome]
  rcases thrown.normalize_cases with ⟨failure, hfailure, -⟩ | ⟨hnone, htext⟩
  · rw [hfailure]
    exact ⟨le_refl _, fun _ => rfl⟩
  · rw [hnone]
    exact ⟨Nat.zero_le _, fun htold => absurd htext (htold thrown rfl)⟩

theorem leads_finishing_done {structured : Structure} {commits : List Commit}
    {repository : Repository}
    (h : (finishing spec path structured commits draft).Leads t (.done (repository, draft'))) :
    ∃ ended, repository = concluded spec path structured commits draft.faults
        (Replay.outcome ended) ∧
      (Replay.run (fun c => .ask (.call path c) .done) 0 (Call.history commits) : Work _).Leads t
        (.done ended) := by
  obtain ⟨t₁, t₂, replay, rfl, hreplaying, hdone⟩ := Work.leads_bind_done h
  obtain ⟨rfl, hdone⟩ := Work.leads_done_iff.1 hdone
  cases hdone
  obtain ⟨t₁, t₂, ended, rfl, hrun, hdone⟩ := Work.leads_bind_done hreplaying
  obtain ⟨rfl, hdone⟩ := Work.leads_done_iff.1 hdone
  cases hdone
  exact ⟨ended, rfl, by simpa using hrun⟩

/-- A repository that did not fail has a replay that did not fail itself. -/
theorem exists_outcome_of_status {structured : Structure} {commits : List Commit} {faults : Nat}
    {ended : Option Thrown × Nat}
    (h : (concluded spec path structured commits faults (Replay.outcome ended)).status ≠ .failed) :
    ∃ replay, Replay.outcome ended = .ok replay := by
  cases houtcome : Replay.outcome ended with
  | ok replay => exact ⟨replay, rfl⟩
  | error misuse =>
    rw [houtcome] at h
    exact absurd rfl h

/-- Nothing is committed before the history is replayed. -/
theorem countP_isCommit_of_isMaking {shelf : Shelf}
    (h : ∀ exchange ∈ t, exchange.1.IsMaking shelf) : t.countP Exchange.isCommit = 0 := by
  rw [List.countP_eq_zero]
  rintro ⟨request, answer⟩ hmem
  cases request with
  | call path c => exact (h _ hmem).elim
  | makeDirs | writeFile | render => exact Bool.false_ne_true

/-- An outcome is sound, and tells how many commits were accepted: never more, and all of them
    unless something was thrown that has no text. -/
theorem of_leads_work_done {repository : Repository}
    (h : (work shop spec path draft).Leads t (.done (repository, draft'))) :
    repository.IsSound ∧ repository.commitsApplied ≤ t.countP Exchange.isCommit ∧
      (Exchange.AreTold t → repository.commitsApplied = t.countP Exchange.isCommit) := by
  rcases leads_work h with ⟨hquiet, hfailed⟩ |
    ⟨t₁, t₂, t₃, structured, draft₁, commits, draft₂, rfl, hlaid, hfilled, hreplay⟩
  · obtain ⟨structured, faults, mishap, rfl⟩ := hfailed _ _ rfl
    exact ⟨isSound_failed _ _ _ _ _, Nat.zero_le _, fun _ =>
      (countP_isCommit_of_isMaking hquiet).symm⟩
  · obtain ⟨⟨thrown, applied⟩, rfl, hrun⟩ := leads_finishing_done hreplay
    have hlaying := countP_isCommit_of_isMaking
      (@Making.isQuiet_laying shop.shelf _ _ _ _ _ _ hlaid)
    have hfilling := countP_isCommit_of_isMaking (Making.isQuiet_filling _ _ _ _ _ hfilled)
    obtain ⟨happlied, -, hthrown⟩ := of_leads_replayRun_done hrun
    obtain ⟨hle, htold⟩ := commitsApplied_concluded spec path structured commits draft₂.faults
      (thrown, applied)
    rw [List.countP_append, List.countP_append, hlaying, hfilling, ← happlied]
    refine ⟨isSound_concluded _ _ _ _ _ _, hle, fun hall => htold fun x hx => ?_⟩
    obtain ⟨c, hmem⟩ := hthrown x hx
    exact hall path c x (List.mem_append_right _ hmem)

/-- A repository is made for its specification, and has the archetype of its category and template
    from when it is laid out. -/
theorem spec_of_leads_work_done {repository : Repository}
    (h : (work shop spec path draft).Leads t (.done (repository, draft'))) :
    repository.spec = spec ∧ ∀ archetype, repository.archetype = some archetype →
      ∃ template, spec.template = some template ∧
        archetype = .classify spec.category template := by
  rw [work_eq] at h
  obtain ⟨t₁, t₂, ⟨laid, draft₁⟩, rfl, hlaid, h⟩ := Work.leads_bind_done h
  cases laid with
  | error mishap =>
    cases (Work.leads_done_iff.1 h).2
    exact ⟨rfl, nofun⟩
  | ok structured =>
    obtain ⟨template, htemplate, harchetype⟩ :=
      (Making.isPlanned_of_leads_laying hlaid).archetype
    have hsome : ∀ archetype, some structured.archetype = some archetype →
        ∃ template, spec.template = some template ∧
          archetype = .classify spec.category template := by
      rintro _ ⟨⟩
      exact ⟨template, htemplate, harchetype⟩
    obtain ⟨t₂, t₃, ⟨filled, draft₂⟩, rfl, -, h⟩ := Work.leads_bind_done h
    cases filled with
    | error mishap =>
      cases (Work.leads_done_iff.1 h).2
      exact ⟨rfl, hsome⟩
    | ok commits =>
      obtain ⟨ended, rfl, -⟩ := leads_finishing_done h
      exact ⟨concluded_spec, by rwa [concluded_archetype]⟩

end Repository

end CorpusForge
