import CorpusForge.Proofs.Structure.Plan
import CorpusForge.Proofs.Work
import CorpusForge.Repository

/-!
# The stages of the making

What the stages of the making of a repository may ask, and what was answered when they are done: all
that was asked was made, and every file of the manifest was written.

* `Making.IsPervasive`: what all stages have, when what they are made of has it;
* `Making.isPervasive_isQuiet`: no stage calls the backend;
* `Making.isPervasive_isStrict`: no stage is done after a refusal;
* `Making.isWritten_of_leads_filling`: what is written.
-/

namespace CorpusForge

/-- What is asked before the history is replayed: anything but a call, with templates of one
    shelf only. -/
def Request.IsMaking (shelf : Shelf) : Request → Prop
  | .makeDirs _ | .writeFile _ _ => True
  | .render shelf' _ _ _ => shelf' = shelf
  | .call _ _ => False

namespace Making

variable {α β ε : Type} {shelf : Shelf}

/-- One stage after the other, on a draft. -/
theorem bind_apply (x : Making α) (f : α → Making β) (draft : Draft) :
    (x >>= f) draft = (x draft).bind fun made =>
      match made.1 with
      | .ok a => f a made.2
      | .error mishap => .done (.error mishap, made.2) := by
  -- a failure goes by the second stage, with the draft as the first one left it
  refine congrArg (Work.bind (x draft)) (funext fun made => ?_)
  obtain ⟨made, draft⟩ := made
  cases made <;> rfl

/-- An answer is received as it was given: what was refused fails. -/
def Heeds (request : Request) (receive : request.Answer → Except Mishap α) : Prop :=
  ∀ answer a, receive answer = .ok a → Exchange.isRefused ⟨request, answer⟩ = false

theorem eq_ok_of_mapError_eq_ok {answer : Except ε α} {wrap : ε → Mishap} {a : α}
    (h : answer.mapError wrap = .ok a) : answer = .ok a := by
  cases answer with
  | ok b => exact congrArg Except.ok (Except.ok.inj h)
  | error e => exact nomatch h

/-! ### What all stages have -/

/-- A property of all that stages are made of: draws, and requests whose refusals are heeded, one
    after the other. -/
structure IsPervasive (shelf : Shelf) (Q : (α : Type) → Making α → Prop) : Prop where
  pure {α : Type} (a : α) : Q α (pure a)
  bind {α β : Type} {x : Making α} {f : α → Making β} (hx : Q α x) (hf : ∀ a, Q β (f a)) :
    Q β (x >>= f)
  draw {ε α : Type} (wrap : ε → Mishap) (d : Drawing ε α) : Q α (draw wrap d)
  addFaults (n : Nat) : Q Unit (addFaults n)
  ask {α : Type} (request : Request) {receive : request.Answer → Except Mishap α}
    (hrequest : request.IsMaking shelf) (hreceive : Heeds request receive) :
    Q α (ask request receive)

namespace IsPervasive

variable {Q : (α : Type) → Making α → Prop}

theorem makeDir (h : IsPervasive shelf Q) (spec : Spec) (target : String) :
    Q Unit (makeDir spec target) := by
  refine h.ask (.makeDirs target) trivial fun answer a hok => ?_
  rw [eq_ok_of_mapError_eq_ok hok]
  rfl

theorem writeFile (h : IsPervasive shelf Q) (path name text : String) :
    Q Unit (writeFile path name text) := by
  refine h.bind (h.ask (.makeDirs _) trivial fun answer a hok => ?_) fun _ =>
    h.ask (.writeFile _ _) trivial fun answer a hok => ?_
  · rw [eq_ok_of_mapError_eq_ok hok]
    rfl
  · rw [eq_ok_of_mapError_eq_ok hok]
    rfl

theorem makeAll (h : IsPervasive shelf Q) (spec : Spec) (path : String) (dirs : List String) :
    Q Unit (makeAll spec path dirs) := by
  induction dirs with
  | nil => exact h.pure ()
  | cons dir rest ih => exact h.bind (h.makeDir _ _) fun _ => ih

theorem laying (h : IsPervasive shelf Q) (languages : List Language) (spec : Spec)
    (path : String) : Q Structure (laying languages spec path) :=
  h.bind (h.draw _ _) fun _ => h.bind (h.makeAll _ _ _) fun _ => h.pure _

variable {shop : Workshop}

theorem content (h : IsPervasive shop.shelf Q) (context : RenderContext) (entry : ManifestEntry) :
    Q String (content shop context entry) := by
  rw [Making.content]
  split
  · refine h.ask (.render _ _ _ _) rfl fun answer a hok => ?_
    obtain rfl : answer = .ok a := hok
    rfl
  · exact h.bind (h.draw _ _) fun _ => h.bind (h.addFaults _) fun _ => h.pure _

theorem writeAll (h : IsPervasive shop.shelf Q) (context : RenderContext) (path : String)
    (manifest : List ManifestEntry) : Q Unit (writeAll shop context path manifest) := by
  induction manifest with
  | nil => exact h.pure ()
  | cons entry rest ih =>
    exact h.bind (h.content _ _) fun _ => h.bind (h.writeFile _ _ _) fun _ => ih

theorem filling (h : IsPervasive shop.shelf Q) (spec : Spec) (path : String)
    (structured : Structure) : Q (List Commit) (filling shop spec path structured) :=
  h.bind (h.writeAll _ _ _) fun _ => h.draw _ _

end IsPervasive

/-! ### What stages ask -/

/-- A stage asks only what is as `p` says. -/
def Only (p : Request → Prop) (x : Making α) : Prop := ∀ draft, (x draft).Asks p

section

variable {p : Request → Prop}

/-- What a stage asks after another may depend on what that one made. -/
theorem Only.bind_of_leads {x : Making α} {f : α → Making β} (hx : Only p x)
    (hf : ∀ ⦃draft t a draft'⦄, (x draft).Leads t (.done (.ok a, draft')) → (f a draft').Asks p) :
    Only p (x >>= f) := by
  intro draft
  rw [bind_apply]
  refine (hx draft).bind_of_leads fun t made hleads => ?_
  obtain ⟨made, draft'⟩ := made
  cases made with
  | ok a => exact hf hleads
  | error mishap => exact Work.asks_done _

theorem Only.bind {x : Making α} {f : α → Making β} (hx : Only p x) (hf : ∀ a, Only p (f a)) :
    Only p (x >>= f) := hx.bind_of_leads fun _ _ a draft' _ => hf a draft'

theorem only_pure (a : α) : Only p (pure a : Making α) := fun _ => Work.asks_done _

theorem only_draw (wrap : ε → Mishap) (d : Drawing ε α) : Only p (draw wrap d) := fun draft => by
  rw [draw]
  split <;> exact Work.asks_done _

theorem only_ask {request : Request} {receive : request.Answer → Except Mishap α}
    (hrequest : p request) : Only p (ask request receive) :=
  fun _ => Work.asks_ask hrequest fun _ => Work.asks_done _

variable {shop : Workshop} {spec : Spec} {path : String}

/-- Only the directories are made. -/
theorem only_makeAll {dirs : List String}
    (hdirs : ∀ dir ∈ dirs, p (.makeDirs (Path.join [path, dir]))) :
    Only p (makeAll spec path dirs) := by
  induction dirs with
  | nil => exact only_pure ()
  | cons dir rest ih =>
    obtain ⟨hdir, hrest⟩ := List.forall_mem_cons.1 hdirs
    exact (only_ask hdir).bind fun _ => ih hrest

theorem only_content {context : RenderContext} {entry : ManifestEntry}
    (hrender : p (.render shop.shelf entry.path entry.role context)) :
    Only p (content shop context entry) := by
  rw [content]
  split
  · exact only_ask hrender
  · exact (only_draw _ _).bind fun _ => Only.bind (fun _ => Work.asks_done _) fun _ => only_pure _

/-- Only the files of the manifest are rendered and written, and the directories that hold them are
    made. -/
theorem only_writeAll {context : RenderContext} {manifest : List ManifestEntry}
    (hrender : ∀ entry ∈ manifest, p (.render shop.shelf entry.path entry.role context))
    (hdirs : ∀ entry ∈ manifest, p (.makeDirs (Path.dirname (Path.join [path, entry.path]))))
    (hwrite : ∀ entry ∈ manifest, ∀ text, p (.writeFile (Path.join [path, entry.path]) text)) :
    Only p (writeAll shop context path manifest) := by
  induction manifest with
  | nil => exact only_pure ()
  | cons entry rest ih =>
    simp only [List.forall_mem_cons] at hrender hdirs hwrite
    refine (only_content hrender.1).bind fun text => Only.bind ?_ fun _ =>
      ih hrender.2 hdirs.2 hwrite.2
    exact (only_ask hdirs.1).bind fun _ => only_ask (hwrite.1 text)

end

/-- A stage asks only what may be asked before the history is replayed. -/
def IsQuiet (shelf : Shelf) (x : Making α) : Prop :=
  ∀ draft, (x draft).Asks (Request.IsMaking shelf)

theorem isPervasive_isQuiet (shelf : Shelf) : IsPervasive shelf fun _ x => IsQuiet shelf x where
  pure := only_pure
  bind := Only.bind
  draw := only_draw
  addFaults _ := fun _ => Work.asks_done _
  ask _ _ hrequest _ := only_ask hrequest

theorem isQuiet_laying (languages : List Language) (spec : Spec) (path : String) :
    IsQuiet shelf (laying languages spec path) :=
  (isPervasive_isQuiet shelf).laying languages spec path

theorem isQuiet_filling (shop : Workshop) (spec : Spec) (path : String) (structured : Structure) :
    IsQuiet shop.shelf (filling shop spec path structured) :=
  (isPervasive_isQuiet shop.shelf).filling spec path structured

/-! ### Stages that are done -/

/-- A stage after another is done when both are. -/
theorem leads_bind_ok {x : Making α} {f : α → Making β} {draft draft' : Draft} {b : β}
    {t : List Exchange} (h : ((x >>= f) draft).Leads t (.done (.ok b, draft'))) :
    ∃ t₁ t₂ a draft₁, t = t₁ ++ t₂ ∧ (x draft).Leads t₁ (.done (.ok a, draft₁)) ∧
      (f a draft₁).Leads t₂ (.done (.ok b, draft')) := by
  rw [bind_apply] at h
  obtain ⟨t₁, t₂, ⟨made, draft₁⟩, rfl, hx, hf⟩ := Work.leads_bind_done h
  cases made with
  | ok a => exact ⟨t₁, t₂, a, draft₁, rfl, hx, hf⟩
  | error mishap => exact nomatch (Work.leads_done_iff.1 hf).2

/-- What a stage that is done has asked, when it asks one request only. -/
theorem eq_of_leads_ask {request : Request} {receive : request.Answer → Except Mishap α}
    {draft draft' : Draft} {a : α} {t : List Exchange}
    (h : (ask request receive draft).Leads t (.done (.ok a, draft'))) :
    ∃ answer, t = [⟨request, answer⟩] ∧ receive answer = .ok a := by
  cases h with
  | @head _ _ answer _ _ h =>
    obtain ⟨rfl, hdone⟩ := Work.leads_done_iff.1 h
    simp only [Work.done.injEq, Prod.mk.injEq] at hdone
    exact ⟨answer, rfl, hdone.1.symm⟩

/-- A stage is done only when nothing that it asked was refused. -/
def IsStrict (x : Making α) : Prop :=
  ∀ ⦃draft draft' a t⦄, (x draft).Leads t (.done (.ok a, draft')) →
    ∀ exchange ∈ t, exchange.isRefused = false

theorem isStrict_of_asks_nothing {x : Making α} (h : ∀ draft, ∃ made, x draft = .done made) :
    IsStrict x := by
  intro draft draft' a t hleads exchange hmem
  obtain ⟨made, hmade⟩ := h draft
  rw [hmade] at hleads
  rw [(Work.leads_done_iff.1 hleads).1] at hmem
  exact absurd hmem List.not_mem_nil

theorem IsStrict.bind {x : Making α} {f : α → Making β} (hx : IsStrict x)
    (hf : ∀ a, IsStrict (f a)) : IsStrict (x >>= f) := by
  intro draft draft' b t h exchange hmem
  obtain ⟨t₁, t₂, a, draft₁, rfl, hfirst, hsecond⟩ := leads_bind_ok h
  rcases List.mem_append.1 hmem with hmem | hmem
  · exact hx hfirst exchange hmem
  · exact hf a hsecond exchange hmem

theorem isPervasive_isStrict (shelf : Shelf) : IsPervasive shelf fun _ x => IsStrict x where
  pure _ := isStrict_of_asks_nothing fun _ => ⟨_, rfl⟩
  bind := IsStrict.bind
  draw wrap d := isStrict_of_asks_nothing fun draft => by
    rw [draw]
    split <;> exact ⟨_, rfl⟩
  addFaults _ := isStrict_of_asks_nothing fun _ => ⟨_, rfl⟩
  ask _ _ _ hreceive := by
    intro draft draft' a t h
    obtain ⟨answer, rfl, hok⟩ := eq_of_leads_ask h
    exact List.forall_mem_singleton.2 (hreceive answer a hok)

theorem isStrict_laying (languages : List Language) (spec : Spec) (path : String) :
    IsStrict (laying languages spec path) :=
  (isPervasive_isStrict ⟨"", fun _ => none⟩).laying languages spec path

theorem isStrict_filling (shop : Workshop) (spec : Spec) (path : String) (structured : Structure) :
    IsStrict (filling shop spec path structured) :=
  (isPervasive_isStrict shop.shelf).filling spec path structured

/-! ### What is planned and written -/

/-- A draw that is done drew its result from the generator of the draft. -/
theorem run_eq_of_leads_draw {wrap : ε → Mishap} {d : Drawing ε α} {draft draft' : Draft} {a : α}
    {t : List Exchange} (h : (draw wrap d draft).Leads t (.done (.ok a, draft'))) :
    d.run draft.gen = (.ok a, draft'.gen) := by
  rw [draw] at h
  split at h
  next b gen hrun =>
    have hdone := (Work.leads_done_iff.1 h).2
    simp only [Work.done.injEq, Prod.mk.injEq, Except.ok.injEq] at hdone
    rw [hrun, hdone.1, hdone.2]
  next => exact nomatch (Work.leads_done_iff.1 h).2

/-- A repository that was laid out has the structure that was planned for it. -/
theorem isPlanned_of_leads_laying {languages : List Language} {spec : Spec} {path : String}
    {draft draft' : Draft} {structured : Structure} {t : List Exchange}
    (h : (laying languages spec path draft).Leads t (.done (.ok structured, draft'))) :
    Structure.IsPlanned spec languages draft.gen structured := by
  obtain ⟨t₁, t₂, planned, draft₁, rfl, hplan, h⟩ := leads_bind_ok h
  obtain ⟨t₃, t₄, _, draft₂, rfl, -, h⟩ := leads_bind_ok h
  cases (Work.leads_done_iff.1 h).2
  exact ⟨_, run_eq_of_leads_draw hplan⟩

/-- The directory of a repository is the first one that is made for it. -/
theorem made_of_leads_laying {languages : List Language} {spec : Spec} {path : String}
    {draft draft' : Draft} {structured : Structure} {t : List Exchange}
    (h : (laying languages spec path draft).Leads t (.done (.ok structured, draft'))) :
    ⟨.makeDirs (Path.join [path, ""]), .ok ()⟩ ∈ t := by
  obtain ⟨t₁, t₂, _, draft₁, rfl, -, h⟩ := leads_bind_ok h
  obtain ⟨t₃, t₄, _, draft₂, rfl, hall, -⟩ := leads_bind_ok h
  obtain ⟨t₅, t₆, _, draft₃, rfl, hfirst, -⟩ := leads_bind_ok hall
  obtain ⟨answer, rfl, hok⟩ := eq_of_leads_ask hfirst
  obtain rfl : answer = .ok () := eq_ok_of_mapError_eq_ok hok
  simp

/-- The history of a repository that was filled is the one that was planned for its files. -/
theorem exists_plan_of_leads_filling {shop : Workshop} {spec : Spec} {path : String}
    {structured : Structure} {draft draft' : Draft} {commits : List Commit} {t : List Exchange}
    (h : (filling shop spec path structured draft).Leads t (.done (.ok commits, draft'))) :
    ∃ gen gen', (Schedule.plan (scheduleInput shop spec structured)).run gen =
      (.ok commits, gen') := by
  obtain ⟨t₁, t₂, _, draft₁, rfl, -, h⟩ := leads_bind_ok h
  exact ⟨_, _, run_eq_of_leads_draw h⟩

/-- The file of an entry was written. -/
def IsWritten (path : String) (t : List Exchange) (entry : ManifestEntry) : Prop :=
  ∃ text, ⟨.writeFile (Path.join [path, entry.path]) text, .ok ()⟩ ∈ t

theorem IsWritten.mono {path : String} {t t' : List Exchange} {entry : ManifestEntry}
    (h : IsWritten path t entry) (hsubset : t ⊆ t') : IsWritten path t' entry :=
  h.imp fun _ hmem => hsubset hmem

theorem isWritten_of_leads_writeAll {shop : Workshop} {context : RenderContext} {path : String}
    {manifest : List ManifestEntry} {draft draft' : Draft} {t : List Exchange}
    (h : (writeAll shop context path manifest draft).Leads t (.done (.ok (), draft'))) :
    ∀ entry ∈ manifest, IsWritten path t entry := by
  induction manifest generalizing draft t with
  | nil => exact fun _ hmem => absurd hmem List.not_mem_nil
  | cons entry rest ih =>
    -- the text of the first file, its directory and the file itself, and then the other files
    obtain ⟨t₁, t₂, text, draft₁, rfl, -, h⟩ := leads_bind_ok h
    obtain ⟨t₃, t₄, _, draft₂, rfl, hwrite, hrest⟩ := leads_bind_ok h
    obtain ⟨t₅, t₆, _, draft₃, rfl, -, hfile⟩ := leads_bind_ok hwrite
    obtain ⟨answer, rfl, hok⟩ := eq_of_leads_ask hfile
    obtain rfl : answer = .ok () := eq_ok_of_mapError_eq_ok hok
    refine List.forall_mem_cons.2 ⟨⟨text, by simp⟩, fun later hlater => ?_⟩
    exact (ih hrest later hlater).mono fun _ hmem => by simp [hmem]

/-- All files of a repository that was filled were written. -/
theorem isWritten_of_leads_filling {shop : Workshop} {spec : Spec} {path : String}
    {structured : Structure} {draft draft' : Draft} {commits : List Commit} {t : List Exchange}
    (h : (filling shop spec path structured draft).Leads t (.done (.ok commits, draft'))) :
    ∀ entry ∈ structured.manifest, IsWritten path t entry := by
  obtain ⟨t₁, t₂, _, draft₁, rfl, hwrite, -⟩ := leads_bind_ok h
  exact fun entry hentry =>
    (isWritten_of_leads_writeAll hwrite entry hentry).mono (List.subset_append_left _ _)

end Making

end CorpusForge
