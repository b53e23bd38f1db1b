import CorpusForge.Proofs.History.Replay
import CorpusForge.Proofs.Repository.Agreement
import CorpusForge.Proofs.Selection
import CorpusForge.Proofs.Structure.Expansion

/-!
# No failure comes from within

When the directories are made, the files are written and the backend takes its calls, nothing else
can keep a repository from being made: for a specification drawn with an accepted configuration the
structure can be planned, every file has a text and the history can be planned, whatever the
generator.

* `Making.Grants`: a stage that is done when nothing is refused;
* `Repository.make_of_isOpen`: the making;
* `Repository.make_succeeds`: so it is with an accepted configuration.
-/

namespace CorpusForge

variable {σ : Type}

/-! ### Hosts that refuse nothing -/

/-- A host that makes all directories, writes all files and takes all calls. -/
structure Host.IsOpen (host : Host σ) : Prop where
  makeDirs : ∀ path s, (host.makeDirs path s).1 = .ok ()
  writeFile : ∀ path text s, (host.writeFile path text s).1 = .ok ()
  call : ∀ path c s, (host.call path c s).1 = .ok ()

theorem Host.isOpen_accepting : (accepting fun _ => true).IsOpen where
  makeDirs _ _ := rfl
  writeFile _ _ _ := rfl
  call _ _ _ := rfl

/-- The answer to a request when nothing is refused. -/
def Request.grant : (request : Request) → request.Answer
  | .makeDirs _ | .writeFile _ _ => .ok ()
  | .render shelf path role context => (Artifact.render shelf path role context []).1
  | .call _ _ => .ok ()

theorem Host.IsOpen.answer_eq_grant {host : Host σ} (h : host.IsOpen) {shelf : Shelf}
    {s : Shared σ} (hkept : shelf.Holds s.kept) {request : Request}
    (hrequest : request.IsOn shelf) : (host.answer request s).1 = request.grant := by
  cases request with
  | makeDirs path => exact h.makeDirs path s.host
  | writeFile path text => exact h.writeFile path text s.host
  | call path c => exact h.call path c s.host
  | render shelf' path role context =>
    obtain rfl : shelf' = shelf := hrequest
    exact Artifact.render_fst_of_holds hkept path role context

/-- A work with the templates of one shelf has one result on such hosts. -/
theorem Work.perform_of_isOpen {α : Type} {host : Host σ} (h : host.IsOpen) {shelf : Shelf}
    {x : Work α} (hx : x.Asks (Request.IsOn shelf)) {s : Shared σ} (hkept : shelf.Holds s.kept) :
    (x.perform host s).1 = x.answeredBy Request.grant := by
  induction x generalizing s with
  | done result => rfl
  | ask request next ih =>
    have hon := hx.request request.grant
    have hholds : shelf.Holds (host.answer request s).2.kept := Host.holds_answer hkept hon
    rw [Work.answeredBy, ← h.answer_eq_grant hkept hon]
    exact ih _ (hx.next _) hholds

/-! ### Stages -/

namespace Making

variable {α β ε : Type} {P : α → Prop} {Q : β → Prop}

/-- When nothing is refused the stage is done, with a result as `P` says. -/
def Grants (P : α → Prop) (x : Making α) : Prop :=
  ∀ draft, ∃ a draft', (x draft).answeredBy Request.grant = (.ok a, draft') ∧ P a

theorem grants_pure {a : α} (ha : P a) : Grants P (pure a) := fun draft => ⟨a, draft, rfl, ha⟩

theorem Grants.bind {x : Making α} {f : α → Making β} (hx : Grants P x)
    (hf : ∀ a, P a → Grants Q (f a)) : Grants Q (x >>= f) := by
  intro draft
  obtain ⟨a, draft₁, hfirst, ha⟩ := hx draft
  obtain ⟨b, draft₂, hsecond, hb⟩ := hf a ha draft₁
  refine ⟨b, draft₂, ?_, hb⟩
  rw [bind_apply, Work.answeredBy_bind, hfirst]
  exact hsecond

theorem grants_ask {request : Request} {receive : request.Answer → Except Mishap α} {a : α}
    (hreceive : receive request.grant = .ok a) (ha : P a) : Grants P (ask request receive) :=
  fun draft => ⟨a, draft, congrArg (·, draft) hreceive, ha⟩

theorem grants_draw {d : Drawing ε α} (htotal : d.IsTotal) (hyields : d.Yields P)
    (wrap : ε → Mishap) : Grants P (draw wrap d) := by
  intro draft
  obtain ⟨a, gen, hrun⟩ := htotal draft.gen
  refine ⟨a, { draft with gen }, ?_, hyields hrun⟩
  rw [draw, hrun]
  rfl

theorem grants_makeAll (spec : Spec) (path : String) (dirs : List String) :
    Grants (fun _ => True) (makeAll spec path dirs) := by
  induction dirs with
  | nil => exact grants_pure trivial
  | cons dir rest ih =>
    have hdir : Grants (fun _ => True) (makeDir spec (Path.join [path, dir])) :=
      grants_ask rfl trivial
    exact hdir.bind fun _ _ => ih

theorem grants_writeFile (path name text : String) :
    Grants (fun _ => True) (writeFile path name text) := by
  have hdir : Grants (fun _ => True) (ask (.makeDirs (Path.dirname (Path.join [path, name])))
      (Except.mapError fun cause =>
        .failure (.writeRefused name (Path.join [path, name]) cause))) := grants_ask rfl trivial
  exact hdir.bind fun _ _ => grants_ask rfl trivial

end Making

/-! ### Contents -/

/-- Every source file has a text. -/
theorem Source.isTotal_synthesize {ε : Type} (registry : Registry) (request : Request)
    (faults : FaultInjection) :
    (synthesize registry request faults : Drawing ε Synthesized).IsTotal := by
  have units : ∀ base role count index,
      (drawUnits base role faults count index : Drawing ε (List CodeUnit)).IsTotal := by
    intro base role count
    induction count with
    | zero => exact fun _ => Drawing.isTotal_pure _
    | succ count ih =>
      intro index
      rw [drawUnits]
      have hrest : ∀ unit, (do
          let rest ← drawUnits base role faults count (index + 1)
          return unit :: rest : Drawing ε (List CodeUnit)).IsTotal := fun _ =>
        (ih _).bind fun _ => Drawing.isTotal_pure _
      split
      · exact (Drawing.isTotal_word.bind fun _ => Drawing.isTotal_pure _).bind fun _ => hrest _
      · exact (Drawing.isTotal_pure _).bind fun _ => hrest _
  rw [synthesize]
  split
  next => exact Drawing.isTotal_pure _
  next => exact (units _ _ _ _).bind fun _ => Drawing.isTotal_pure _

namespace Making

variable {shop : Workshop} {spec : Spec} {context : RenderContext} {kind : String}

/-- Files whose texts there are: sources, and what is to be rendered. -/
def HaveTexts (spec : Spec) (archetype : Archetype) (manifest : List ManifestEntry) : Prop :=
  ∃ artifacts, Artifact.list spec.language archetype = .ok artifacts ∧
    ∀ entry ∈ manifest, entry.kind = .artifact →
      entry.role = .migration ∨ entry.path ∈ artifacts.map Artifact.path

theorem grants_content (hshelf : shop.shelf = .bundled)
    (htemplate : context.spec.template = some kind) {artifacts : List Artifact}
    (hlist : Artifact.list context.spec.language context.archetype = .ok artifacts)
    {entry : ManifestEntry} (hentry : entry.kind = .artifact →
      entry.role = .migration ∨ entry.path ∈ artifacts.map Artifact.path) :
    Grants (fun _ => True) (content shop context entry) := by
  rw [content]
  split
  next hkind =>
    obtain ⟨text, htext⟩ := Artifact.exists_render_bundled htemplate hlist (hentry hkind)
      (Artifact.holds_nil .bundled)
    refine grants_ask (a := text) ?_ trivial
    rw [hshelf, Request.grant, htext]
    rfl
  next =>
    have hsource := grants_draw (Source.isTotal_synthesize shop.registry
      ⟨entry.language, entry.role.text, .ofInt entry.targetLines⟩ shop.faultInjection)
      (fun _ _ _ _ => trivial) Mishap.refusal
    have hfaults : ∀ n, Grants (fun _ => True) (addFaults n) := fun n draft =>
      ⟨(), _, rfl, trivial⟩
    exact hsource.bind fun file _ => (hfaults _).bind fun _ _ => grants_pure trivial

theorem grants_writeAll (hshelf : shop.shelf = .bundled)
    (htemplate : context.spec.template = some kind) (path : String) {manifest : List ManifestEntry}
    (hmanifest : HaveTexts context.spec context.archetype manifest) :
    Grants (fun _ => True) (writeAll shop context path manifest) := by
  obtain ⟨artifacts, hlist, hmanifest⟩ := hmanifest
  induction manifest with
  | nil => exact grants_pure trivial
  | cons entry rest ih =>
    obtain ⟨hentry, hrest⟩ := List.forall_mem_cons.1 hmanifest
    exact (grants_content hshelf htemplate hlist hentry).bind fun text _ =>
      (grants_writeFile _ _ _).bind fun _ _ => ih hrest

/-- A structure can be planned, and all its directories are made. -/
theorem grants_laying {languages : List Language} (htemplate : spec.template = some kind)
    (hlanguage : Fields.isInherited spec.language = false)
    (hextension : '/' ∉ (Structure.extensionFor spec.language languages).toList) (path : String) :
    Grants (fun structured => HaveTexts spec structured.archetype structured.manifest)
      (laying languages spec path) := by
  have hplan := grants_draw (Structure.isTotal_plan htemplate hlanguage hextension)
    (Structure.yields_plan hextension) id
  exact hplan.bind fun structured hstructured =>
    (grants_makeAll _ _ _).bind fun _ _ => grants_pure hstructured

/-- All files are written, and a history can be planned. -/
theorem grants_filling (hshelf : shop.shelf = .bundled) (htimeline : shop.timeline.IsDrawable)
    (htemplate : spec.template = some kind) (hcontributors : spec.contributors ≠ [])
    (path : String) {structured : Structure}
    (hmanifest : HaveTexts spec structured.archetype structured.manifest) :
    Grants (fun _ => True) (filling shop spec path structured) := by
  have hgap := Drawing.isTotal_int_of_le htimeline.minGapHours htimeline.maxGapHours
    htimeline.ordered
  have hplan : (Schedule.plan (scheduleInput shop spec structured)).IsTotal :=
    Schedule.isTotal_plan hcontributors hgap
  have hwrite : ∀ year, Grants (fun _ => True)
      (writeAll shop ⟨spec, structured.archetype, year⟩ path structured.manifest) := fun year =>
    @grants_writeAll shop ⟨spec, structured.archetype, year⟩ kind hshelf htemplate path _ hmanifest
  exact (hwrite _).bind fun _ _ => grants_draw hplan (fun _ _ _ _ => trivial) Mishap.refusal

end Making

/-! ### The making -/

/-- A specification from which a repository can be made: it names a template, a language that is not
    called like something which every record inherits, and someone to work on it, and its files have
    names. -/
structure Spec.IsWorkable (spec : Spec) (languages : List Language) : Prop where
  template : ∃ kind, spec.template = some kind
  language : Fields.isInherited spec.language = false
  contributors : spec.contributors ≠ []
  extension : '/' ∉ (Structure.extensionFor spec.language languages).toList

namespace Repository

variable {shop : Workshop} {spec : Spec} {path : String}

/-- When all calls are taken, all commits are made. -/
theorem answeredBy_replayRun (path : String) (applied : Nat) (calls : List Call) :
    (Replay.run (fun c => .ask (.call path c) .done) applied calls :
      Work (Option Thrown × Nat)).answeredBy Request.grant =
      (none, applied + calls.countP Call.isCommit) := by
  induction calls generalizing applied with
  | nil => rfl
  | cons c rest ih =>
    have hnext := ih (if c.isCommit then applied + 1 else applied)
    refine Eq.trans hnext (congrArg (Prod.mk none) ?_)
    rw [List.countP_cons]
    split <;> omega

theorem answeredBy_finishing (spec : Spec) (path : String) (structured : Structure)
    (commits : List Commit) (draft : Draft) :
    (finishing spec path structured commits draft).answeredBy Request.grant =
      (replayed spec path structured commits draft.faults ⟨.success, commits.length, none⟩,
        draft) := by
  have hreplaying : (replaying path commits).answeredBy Request.grant =
      .ok ⟨.success, commits.length, none⟩ := by
    refine (Work.answeredBy_bind _ _ _).trans ?_
    rw [answeredBy_replayRun, Call.countP_isCommit_history, Nat.zero_add]
    rfl
  rw [finishing, Work.answeredBy_bind, hreplaying]
  rfl

/-- When nothing is refused, a workable repository is made with all its commits. -/
theorem answeredBy_work (hshelf : shop.shelf = .bundled) (htimeline : shop.timeline.IsDrawable)
    (hspec : spec.IsWorkable shop.languages) (path : String) (draft : Draft) :
    ∃ structured commits faults draft', (work shop spec path draft).answeredBy Request.grant =
      (replayed spec path structured commits faults ⟨.success, commits.length, none⟩, draft') := by
  obtain ⟨kind, htemplate⟩ := hspec.template
  obtain ⟨structured, draft₁, hlaid, hmanifest⟩ :=
    Making.grants_laying htemplate hspec.language hspec.extension path draft
  obtain ⟨commits, draft₂, hfilled, -⟩ :=
    Making.grants_filling hshelf htimeline htemplate hspec.contributors path hmanifest draft₁
  refine ⟨structured, commits, draft₂.faults, draft₂, ?_⟩
  rw [work_eq, Work.answeredBy_bind, hlaid, laidOut, Work.answeredBy_bind, hfilled]
  exact answeredBy_finishing _ _ _ _ _

/-- A repository that was made without a failure: with the files of a structure that was planned for
    it, and with all commits of a history that was planned for them. -/
structure IsComplete (shop : Workshop) (spec : Spec) (gen : Gen) (repository : Repository) :
    Prop where
  status : repository.status = .success
  error : repository.error = none
  commitsApplied : repository.commitsApplied = repository.commits.length
  planned : ∃ structured, Structure.IsPlanned spec shop.languages gen structured ∧
    repository.manifest = structured.manifest ∧
    ∃ g g', (Schedule.plan (Making.scheduleInput shop spec structured)).run g =
      (.ok repository.commits, g')

/-- On a host that refuses nothing a workable repository is made, whatever the generator. -/
theorem make_of_isOpen {host : Host σ} (hopen : host.IsOpen) (hshelf : shop.shelf = .bundled)
    (htimeline : shop.timeline.IsDrawable) (hspec : spec.IsWorkable shop.languages)
    (path : String) {bench : Bench σ} (hkept : Shelf.bundled.Holds bench.kept) :
    IsComplete shop spec bench.gen (make host shop spec path bench).1 := by
  obtain ⟨t, draft', hleads⟩ := exists_leads_make host shop spec path bench
  obtain ⟨structured, commits, faults, draft₁, hanswered⟩ := answeredBy_work hshelf htimeline
    hspec path ⟨bench.gen, bench.faults⟩
  have hmade : (make host shop spec path bench).1 =
      replayed spec path structured commits faults ⟨.success, commits.length, none⟩ := by
    rw [← hshelf] at hkept
    have hperform := Work.perform_of_isOpen hopen
      (asks_work shop spec path ⟨bench.gen, bench.faults⟩) (s := ⟨bench.kept, bench.host⟩) hkept
    exact congrArg Prod.fst (hperform.trans hanswered)
  rw [hmade] at hleads ⊢
  refine ⟨rfl, rfl, rfl, ?_⟩
  -- a success has come through both stages, with the structure and the history planned in them
  rcases leads_work hleads with ⟨-, hfailed⟩ |
    ⟨t₁, t₂, t₃, structured', draft₂, commits', draft₃, -, hlaid, hfilled, hreplay⟩
  · obtain ⟨_, _, _, hfailed⟩ := hfailed _ _ rfl
    exact nomatch congrArg Repository.status hfailed
  · obtain ⟨ended, hreplayed, -⟩ := leads_finishing_done hreplay
    have hstatus := congrArg Repository.status hreplayed
    obtain ⟨replay, houtcome⟩ := exists_outcome_of_status (by rw [← hstatus]; exact nofun)
    rw [houtcome] at hreplayed
    have hmanifest : structured.manifest = structured'.manifest :=
      congrArg Repository.manifest hreplayed
    have hcommits : commits = commits' := congrArg Repository.commits hreplayed
    refine ⟨structured', Making.isPlanned_of_leads_laying hlaid, hmanifest, ?_⟩
    rw [hcommits]
    exact Making.exists_plan_of_leads_filling hfilled

end Repository

/-! ### With an accepted configuration -/

/-- A specification that was drawn with an accepted configuration is workable. -/
theorem Selector.isWorkable_of_select {config : Config} (hconfig : config.IsAccepted)
    (hcontributors : config.contributors.length < 2 ^ 32)
    (hextensions : ∀ language ∈ config.languages, ∀ extension ∈ language.extensions,
      '/' ∉ extension.toList)
    {selector : Selector} (hselector : ofConfig config = .ok selector) {slot : Slot}
    {template : String} (htemplate : slot.template = some template) {id : Number} {g g' : Gen}
    {spec : Spec} (hselect : (selector.select slot id).run g = (.ok spec, g'))
    (hlanguage : Fields.isInherited spec.language = false) :
    spec.IsWorkable config.languages := by
  obtain ⟨hlanguages, hmembers, hranges⟩ := isOf_ofConfig hselector
  have hpool : selector.pool.members.length < 2 ^ 32 := by rwa [hmembers]
  have hmax : selector.ranges.maxContributors.IsPositive := by
    rw [hranges]
    exact hconfig.ranges.maxContributors
  exact ⟨⟨template, (yields_select selector slot id hselect).template.trans htemplate⟩, hlanguage,
    yields_contributors hpool hmax slot id hselect,
    Structure.notMem_extensionFor hextensions spec.language⟩

/-- What is drawn from languages with names of their own has a language with such a name. -/
theorem Selector.isInherited_of_select {config : Config}
    (hnames : ∀ language ∈ config.languages, Fields.isInherited language.name = false)
    {selector : Selector} (hselector : selector.IsOf config) {slot : Slot} {id : Number}
    {g g' : Gen} {spec : Spec} (hselect : (selector.select slot id).run g = (.ok spec, g')) :
    Fields.isInherited spec.language = false := by
  rcases yields_language selector slot id hselect with heq | ⟨language, hmem, heq⟩
  · rw [heq]
    decide
  · rw [heq]
    exact hnames language (hselector.languages ▸ hmem)

/-- The workshop of a configuration with the bundled templates. -/
def Config.workshop (config : Config) (now : Timestamp) : Workshop where
  languages := config.languages
  timeline := config.timeline
  faultInjection := config.faultInjection
  now := now
  shelf := .bundled

/-- With an accepted configuration whose extensions are parts of names, and with the bundled
    templates, every repository whose specification could be drawn is made: when the host refuses
    nothing, there is no failure, whatever the slot, its number and the generators. Only its language
    must not be called like something that every record inherits. -/
theorem Repository.make_succeeds {config : Config} (hconfig : config.IsAccepted)
    (hcontributors : config.contributors.length < 2 ^ 32)
    (hextensions : ∀ language ∈ config.languages, ∀ extension ∈ language.extensions,
      '/' ∉ extension.toList)
    {selector : Selector} (hselector : Selector.ofConfig config = .ok selector)
    {category template : String} {ordinal : Nat} {id : Number} {g g' : Gen} {spec : Spec}
    (hselect : (selector.select ⟨category, some template, ordinal⟩ id).run g = (.ok spec, g'))
    (hlanguage : Fields.isInherited spec.language = false)
    {host : Host σ} (hopen : host.IsOpen) {bench : Bench σ}
    (hkept : Shelf.bundled.Holds bench.kept) (now : Timestamp) (path : String) :
    IsComplete (config.workshop now) spec bench.gen
      (make host (config.workshop now) spec path bench).1 := by
  have hspec : spec.IsWorkable (config.workshop now).languages :=
    Selector.isWorkable_of_select hconfig hcontributors hextensions hselector rfl hselect hlanguage
  have htimeline := hconfig.timeline
  have hshelf : (config.workshop now).shelf = .bundled := rfl
  exact make_of_isOpen hopen hshelf htimeline hspec path hkept

/-- A game whose template has a slash in its name, with the default settings. -/
theorem Repository.make_succeeds_game :
    let slot : Slot := ⟨"games", some "retro/arcade", 0⟩
    let bench : Bench Unit := ⟨.ofText "games:5001", [], 0, ()⟩
    ∃ config selector spec g', Config.load [] (.object []) = .ok config ∧
      Selector.ofConfig config = .ok selector ∧
      (selector.select slot (.real 5001)).run (.ofText "seed:5001") = (.ok spec, g') ∧
      IsComplete (config.workshop (some 0)) spec bench.gen (make (.accepting fun _ => true)
        (config.workshop (some 0)) spec "/corpus/game" bench).1 := by
  intro slot bench
  obtain ⟨config, hload, hlanguages, hcontributors⟩ : ∃ config,
      Config.load [] (.object []) = .ok config ∧
        config.languages = Corpus.bundledLanguages ∧
        config.contributors = Corpus.bundledContributors := ⟨_, rfl, rfl, rfl⟩
  have hconfig : config.IsAccepted := ⟨_, _, hload⟩
  have hheld := Config.isHeld_of_bundled hlanguages hcontributors
  have hlanguage := Config.hasLanguage_of_bundled hlanguages
  have hextensions : ∀ language ∈ config.languages, ∀ extension ∈ language.extensions,
      '/' ∉ extension.toList := by
    rw [hlanguages]
    decide +kernel
  have hnames : ∀ language ∈ config.languages, Fields.isInherited language.name = false := by
    rw [hlanguages]
    decide
  obtain ⟨selector, hselector⟩ := Selector.exists_ofConfig hconfig
  obtain ⟨spec, g', hselect⟩ := Selector.isTotal_select hconfig hheld hlanguage
    (Selector.isOf_ofConfig hselector) slot (.real 5001) (.ofText "seed:5001")
  exact ⟨config, selector, spec, g', hload, hselector, hselect,
    make_succeeds hconfig hheld.contributors hextensions hselector hselect
      (Selector.isInherited_of_select hnames (Selector.isOf_ofConfig hselector) hselect)
      Host.isOpen_accepting (Artifact.holds_nil .bundled) (some 0) "/corpus/game"⟩

end CorpusForge
