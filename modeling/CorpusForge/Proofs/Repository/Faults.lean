import CorpusForge.Proofs.Repository.Agreement
import CorpusForge.Proofs.Source.Synthesis

/-!
# A greater probability of faults

Two makings of one repository that differ in the probability of faults draw the same words. With the
same answers they go side by side: they ask for the same, but for the texts of source files, in
which units that are faulty in the first making are so in the second one, and their outcomes are
told apart by the number of faults alone.

* `Work.Couples`, `Making.Couples`: works and stages that go side by side;
* `Making.couples_filling`: so do the files, whatever the probabilities;
* `Repository.faults_only_grow`: the whole making.
-/

namespace CorpusForge

namespace Work

variable {α β γ δ : Type} {R : Exchange → Exchange → Prop} {S : α → β → Prop} {S' : γ → δ → Prop}
  {x : Work α} {y : Work β} {f : α → Work γ} {f' : β → Work δ}

/-- Two works with exchanges as `R` says, and with the same answers, that end as `S` says. A file
    may have another text in the second one. -/
inductive Couples (R : Exchange → Exchange → Prop) (S : α → β → Prop) :
    Work α → Work β → Prop where
  | done {a : α} {b : β} (h : S a b) : Couples R S (.done a) (.done b)
  | ask {request : Request} {next : request.Answer → Work α} {next' : request.Answer → Work β}
      (h : ∀ answer, R ⟨request, answer⟩ ⟨request, answer⟩)
      (hnext : ∀ answer, Couples R S (next answer) (next' answer)) :
      Couples R S (.ask request next) (.ask request next')
  | write {path text text' : String} {next : Except Foreign Unit → Work α}
      {next' : Except Foreign Unit → Work β}
      (h : ∀ answer, R ⟨.writeFile path text, answer⟩ ⟨.writeFile path text', answer⟩)
      (hnext : ∀ answer, Couples R S (next answer) (next' answer)) :
      Couples R S (.ask (.writeFile path text) next) (.ask (.writeFile path text') next')

theorem Couples.bind (h : Couples R S x y)
    (hf : ∀ a b, S a b → Couples R S' (f a) (f' b)) : Couples R S' (x.bind f) (y.bind f') := by
  induction h with
  | done hab => exact hf _ _ hab
  | ask hR _ ih => exact .ask hR ih
  | write hR _ ih => exact .write hR ih

/-- Answers that lead through the first work lead through the second one. -/
theorem Couples.exists_leads (h : Couples R S x y) {t : List Exchange} {a : α}
    (hx : x.Leads t (.done a)) :
    ∃ t' b, y.Leads t' (.done b) ∧ List.Forall₂ R t t' ∧ S a b := by
  induction h generalizing t with
  | done hab =>
    obtain ⟨rfl, hdone⟩ := leads_done_iff.1 hx
    cases hdone
    exact ⟨[], _, .refl _, .nil, hab⟩
  | ask hR _ ih =>
    cases hx with
    | @head _ _ answer t _ hx =>
      obtain ⟨t', b, hy, hexchanges, hab⟩ := ih answer hx
      exact ⟨_ :: t', b, .head hy, .cons (hR answer) hexchanges, hab⟩
  | write hR _ ih =>
    cases hx with
    | @head _ _ answer t _ hx =>
      obtain ⟨t', b, hy, hexchanges, hab⟩ := ih answer hx
      exact ⟨_ :: t', b, .head hy, .cons (hR answer) hexchanges, hab⟩

/-- A work goes side by side with itself. -/
theorem couples_self {x : Work α}
    (hx : x.Asks fun request => ∀ answer, R ⟨request, answer⟩ ⟨request, answer⟩) :
    Couples R Eq x x := by
  induction x with
  | done a => exact .done rfl
  | ask request next ih =>
    exact .ask (fun answer => hx.request answer answer) fun answer => ih answer (hx.next answer)

end Work

/-- What a source file of a manifest is to be. -/
def ManifestEntry.request (entry : ManifestEntry) : Source.Request :=
  ⟨entry.language, entry.role.text, .ofInt entry.targetLines⟩

namespace Source

/-- How many units the file of an entry has: none when it is not synthesised in some style. -/
def unitsOf (registry : Registry) (entry : ManifestEntry) : Nat :=
  match entry.kind with
  | .artifact => 0
  | .source =>
    if (registry.get? entry.language).isSome then (unitCount entry.request.lines).steps else 0

/-- How many units the files of a manifest have. -/
def units (registry : Registry) (manifest : List ManifestEntry) : Nat :=
  (manifest.map (unitsOf registry)).sum

/-- Two texts for the file of an entry: one text when it is rendered or has no style, and otherwise
    what is synthesised, with more units faulty in the second one. -/
inductive Texts (registry : Registry) (entry : ManifestEntry) : String → String → Prop where
  | rendered {text : String} (hkind : entry.kind = .artifact) : Texts registry entry text text
  | placeholder (hkind : entry.kind = .source) (hstyle : registry.get? entry.language = none) :
    Texts registry entry (placeholderText entry.request.lines)
      (placeholderText entry.request.lines)
  | synthesized {style : Style} {faulty faulty' : List Bool} (hkind : entry.kind = .source)
    (hstyle : registry.get? entry.language = some style)
    (hlength : faulty.length = (unitCount entry.request.lines).steps)
    (hfaulty : IsFaultier faulty faulty') :
    Texts registry entry (fileText style entry.request faulty)
      (fileText style entry.request faulty')

end Source

/-- The request writes a file. -/
def Request.isWrite : Request → Bool
  | .writeFile _ _ => true
  | _ => false

/-- Two exchanges that are the same, but for the text of a file of the manifest. -/
inductive Exchange.Couples (registry : Source.Registry) (manifest : List ManifestEntry)
    (path : String) : Exchange → Exchange → Prop where
  | same {request : Request} {answer : request.Answer} (h : request.isWrite = false) :
    Couples registry manifest path ⟨request, answer⟩ ⟨request, answer⟩
  | written {entry : ManifestEntry} {text text' : String} {answer : Except Foreign Unit}
    (hentry : entry ∈ manifest) (htexts : Source.Texts registry entry text text') :
    Couples registry manifest path ⟨.writeFile (Path.join [path, entry.path]) text, answer⟩
      ⟨.writeFile (Path.join [path, entry.path]) text', answer⟩

theorem Exchange.Couples.mono {registry : Source.Registry} {manifest manifest' : List ManifestEntry}
    {path : String} {e e' : Exchange} (h : e.Couples registry manifest path e')
    (hsubset : manifest ⊆ manifest') : e.Couples registry manifest' path e' := by
  cases h with
  | same hwrite => exact .same hwrite
  | written hentry htexts => exact .written (hsubset hentry) htexts

/-! ### Stages -/

/-- Two drafts at one place of the stream. The first one has no more faults than the second one, and
    none at all with the probability zero. -/
structure Draft.IsBelow (p : Number) (draft draft' : Draft) : Prop where
  gen : draft'.gen = draft.gen
  faults : draft.faults ≤ draft'.faults
  none : p.Denotes 0 → draft.faults = 0

theorem Draft.isBelow_self {p : Number} {draft : Draft} (h : draft.faults = 0) :
    draft.IsBelow p draft := ⟨rfl, le_rfl, fun _ => h⟩

namespace Making

variable {α β γ δ ε : Type} {p q : Number} {x y : Rat} {R : Exchange → Exchange → Prop}
  {V : α → β → Prop} {V' : γ → δ → Prop}

/-- How two stages end: both with results as `V` says, or both with one failure. -/
inductive Ends (p : Number) (V : α → β → Prop) :
    Except Mishap α × Draft → Except Mishap β × Draft → Prop where
  | ok {a : α} {b : β} {draft draft' : Draft} (h : V a b) (hdraft : draft.IsBelow p draft') :
    Ends p V (.ok a, draft) (.ok b, draft')
  | error {mishap : Mishap} {draft draft' : Draft} (hdraft : draft.IsBelow p draft') :
    Ends p V (.error mishap, draft) (.error mishap, draft')

theorem Ends.eq {made made' : Except Mishap α × Draft} (h : Ends p Eq made made') :
    made'.1 = made.1 ∧ made.2.IsBelow p made'.2 := by
  cases h with
  | ok hab hdraft => exact ⟨congrArg Except.ok hab.symm, hdraft⟩
  | error hdraft => exact ⟨rfl, hdraft⟩

/-- Two stages that go side by side. -/
def Couples (p : Number) (R : Exchange → Exchange → Prop) (V : α → β → Prop) (stage : Making α)
    (stage' : Making β) : Prop :=
  ∀ ⦃draft draft'⦄, draft.IsBelow p draft' → Work.Couples R (Ends p V) (stage draft) (stage' draft')

theorem Couples.bind {stage : Making α} {stage' : Making β} {f : α → Making γ} {f' : β → Making δ}
    (h : Couples p R V stage stage') (hf : ∀ a b, V a b → Couples p R V' (f a) (f' b)) :
    Couples p R V' (stage >>= f) (stage' >>= f') := by
  intro draft draft' hdraft
  rw [bind_apply, bind_apply]
  refine (h hdraft).bind fun made made' hends => ?_
  cases hends with
  | ok hab hdraft => exact hf _ _ hab hdraft
  | error hdraft => exact .done (.error hdraft)

theorem couples_pure {a : α} {b : β} (h : V a b) : Couples p R V (pure a) (pure b) :=
  fun _ _ hdraft => .done (.ok h hdraft)

theorem couples_draw (wrap : ε → Mishap) (d : Drawing ε α) :
    Couples p R Eq (draw wrap d) (draw wrap d) := by
  intro draft draft' hdraft
  rw [draw, draw, hdraft.gen]
  split
  next => exact .done (.ok rfl ⟨rfl, hdraft.faults, hdraft.none⟩)
  next => exact .done (.error ⟨rfl, hdraft.faults, hdraft.none⟩)

theorem ends_of_refl {V : α → α → Prop} (hV : ∀ a, V a a) {result : Except Mishap α}
    {draft draft' : Draft} (h : draft.IsBelow p draft') :
    Ends p V (result, draft) (result, draft') := by
  cases result with
  | ok a => exact .ok (hV a) h
  | error mishap => exact .error h

theorem couples_ask {V : α → α → Prop} (hV : ∀ a, V a a) {request : Request}
    {receive : request.Answer → Except Mishap α}
    (h : ∀ answer, R ⟨request, answer⟩ ⟨request, answer⟩) :
    Couples p R V (ask request receive) (ask request receive) :=
  fun _ _ hdraft => .ask h fun _ => .done (ends_of_refl hV hdraft)

theorem couples_write {path text text' : String}
    {receive : Except Foreign Unit → Except Mishap α}
    (h : ∀ answer, R ⟨.writeFile path text, answer⟩ ⟨.writeFile path text', answer⟩) :
    Couples p R Eq (ask (.writeFile path text) receive) (ask (.writeFile path text') receive) :=
  fun _ _ hdraft => .write h fun _ => .done (ends_of_refl (fun _ => rfl) hdraft)

end Making

/-- A workshop with faults of a probability. -/
def Workshop.withFaults (shop : Workshop) (probability : Number) : Workshop :=
  { shop with faultInjection := ⟨true, probability⟩ }

namespace Making

variable {p q : Number} {x y : Rat} {shop : Workshop} {spec : Spec} {path : String}
  {context : RenderContext} {entry : ManifestEntry} {manifest : List ManifestEntry}

theorem couples_laying (languages : List Language) (spec : Spec) (path : String) :
    Couples p (Exchange.Couples shop.registry [] path) Eq (laying languages spec path)
      (laying languages spec path) := by
  have hdirs : ∀ dirs, Couples p (Exchange.Couples shop.registry [] path) Eq
      (makeAll spec path dirs) (makeAll spec path dirs) := fun dirs => by
    induction dirs with
    | nil => exact couples_pure rfl
    | cons dir rest ih => exact (couples_ask (fun _ => rfl) fun _ => .same rfl).bind fun _ _ _ => ih
  refine (couples_draw _ _).bind ?_
  rintro structured _ rfl
  exact (hdirs _).bind fun _ _ _ => couples_pure rfl

/-- A source file that is synthesised. -/
theorem content_eq_of_run {draft : Draft} {file : Source.Synthesized} {gen : Gen}
    (hkind : entry.kind = .source)
    (hrun : (Source.synthesize shop.registry entry.request ⟨true, p⟩ : Drawing Refusal _).run
      draft.gen = (.ok file, gen)) :
    content (shop.withFaults p) context entry draft =
      .done (.ok file.text, ⟨gen, draft.faults + file.faultsInjected⟩) := by
  have hdraw : draw Mishap.refusal (Source.synthesize shop.registry entry.request ⟨true, p⟩) draft =
      .done (.ok file, { draft with gen }) := by
    rw [draw, hrun]
    rfl
  rw [content, hkind]
  dsimp only
  rw [bind_apply]
  exact congrArg (fun made => Work.bind made _) hdraw

/-- What has no style has no faults. -/
theorem content_eq_placeholder (hkind : entry.kind = .source)
    (hstyle : shop.registry.get? entry.language = none) (draft : Draft) :
    content (shop.withFaults p) context entry draft =
      .done (.ok (Source.placeholderText entry.request.lines), draft) := by
  have hnone : shop.registry.get? entry.request.language = none := hstyle
  rw [content_eq_of_run hkind (Source.run_synthesize_none hnone ⟨true, p⟩ draft.gen)]
  rfl

/-- A file with a style has faults as the words say. -/
theorem content_eq_fileText (hkind : entry.kind = .source) {style : Source.Style}
    (hstyle : shop.registry.get? entry.language = some style) (draft : Draft) :
    content (shop.withFaults p) context entry draft =
      .done (.ok (Source.fileText style entry.request
          (Source.drawnFaults p entry.request draft.gen)),
        ⟨draft.gen.after (Source.unitCount entry.request.lines).steps,
          draft.faults + (Source.drawnFaults p entry.request draft.gen).count true⟩) := by
  have hsome : shop.registry.get? entry.request.language = some style := hstyle
  obtain ⟨file, hrun, htext, hfaults⟩ := Source.run_synthesize hsome draft.gen
  rw [content_eq_of_run hkind hrun, htext, hfaults]

/-- The files of an entry are synthesised from the same words. -/
theorem couples_content (hp : p.Denotes x) (hq : q.Denotes y) (hle : x ≤ y) :
    Couples p (Exchange.Couples shop.registry manifest path) (Source.Texts shop.registry entry)
      (content (shop.withFaults p) context entry) (content (shop.withFaults q) context entry) := by
  cases hkind : entry.kind with
  | artifact =>
    simp only [content, hkind]
    exact couples_ask (fun _ => .rendered hkind) fun _ => .same rfl
  | source =>
    intro draft draft' hdraft
    cases hstyle : shop.registry.get? entry.language with
    | none =>
      rw [content_eq_placeholder hkind hstyle, content_eq_placeholder hkind hstyle]
      exact .done (.ok (.placeholder hkind hstyle) hdraft)
    | some style =>
      rw [content_eq_fileText hkind hstyle, content_eq_fileText hkind hstyle, hdraft.gen]
      have hfaulty := Source.isFaultier_drawnFaults hp hq hle entry.request draft.gen
      refine .done (.ok (.synthesized hkind hstyle (Source.length_drawnFaults _ _ _) hfaulty)
        ⟨rfl, Nat.add_le_add hdraft.faults hfaulty.count_le, fun hzero => ?_⟩)
      simp only [hdraft.none hzero, Source.count_drawnFaults_zero hzero]

theorem couples_writeFile (hentry : entry ∈ manifest) {text text' : String}
    (htexts : Source.Texts shop.registry entry text text') :
    Couples p (Exchange.Couples shop.registry manifest path) Eq (writeFile path entry.path text)
      (writeFile path entry.path text') :=
  (couples_ask (fun _ => rfl) fun _ => .same rfl).bind fun _ _ _ =>
    couples_write fun _ => .written hentry htexts

theorem couples_writeAll (hp : p.Denotes x) (hq : q.Denotes y) (hle : x ≤ y)
    {entries : List ManifestEntry} (hentries : entries ⊆ manifest) :
    Couples p (Exchange.Couples shop.registry manifest path) Eq
      (writeAll (shop.withFaults p) context path entries)
      (writeAll (shop.withFaults q) context path entries) := by
  induction entries with
  | nil => exact couples_pure rfl
  | cons entry rest ih =>
    obtain ⟨hentry, hrest⟩ := List.cons_subset.1 hentries
    exact (couples_content hp hq hle).bind fun _ _ htexts =>
      (couples_writeFile hentry htexts).bind fun _ _ _ => ih hrest

/-- The files and the history that is planned after them, with two probabilities. -/
theorem couples_filling (hp : p.Denotes x) (hq : q.Denotes y) (hle : x ≤ y)
    (structured : Structure) :
    Couples p (Exchange.Couples shop.registry structured.manifest path) Eq
      (filling (shop.withFaults p) spec path structured)
      (filling (shop.withFaults q) spec path structured) :=
  (couples_writeAll hp hq hle (List.Subset.refl _)).bind fun _ _ _ => couples_draw _ _

/-! ### Faults -/

variable {α β ε : Type} {m n : Nat}

/-- When nothing is refused, the stage has counted `n` faults where it ends. -/
def Counts (n : Nat) (stage : Making α) : Prop :=
  ∀ ⦃draft made t⦄, (stage draft).Leads t (.done made) →
    (∀ exchange ∈ t, exchange.isRefused = false) → made.2.faults = draft.faults + n

/-- When nothing is refused, the stage does not fail, and has counted `n` faults. -/
def Adds (n : Nat) (stage : Making α) : Prop :=
  ∀ ⦃draft made t⦄, (stage draft).Leads t (.done made) →
    (∀ exchange ∈ t, exchange.isRefused = false) →
      (∃ a, made.1 = .ok a) ∧ made.2.faults = draft.faults + n

theorem Adds.counts {stage : Making α} (h : Adds n stage) : Counts n stage :=
  fun _ _ _ hleads haccepted => (h hleads haccepted).2

theorem adds_pure (a : α) : Adds 0 (pure a : Making α) := by
  intro draft made t h _
  cases (Work.leads_done_iff.1 h).2
  exact ⟨⟨a, rfl⟩, rfl⟩

theorem Adds.bind {stage : Making α} {f : α → Making β} (h : Adds m stage)
    (hf : ∀ a, Adds n (f a)) : Adds (m + n) (stage >>= f) := by
  intro draft made t hleads haccepted
  rw [bind_apply] at hleads
  obtain ⟨t₁, t₂, ⟨first, draft₁⟩, rfl, hfirst, hrest⟩ := Work.leads_bind_done hleads
  obtain ⟨haccepted₁, haccepted₂⟩ := List.forall_mem_append.1 haccepted
  obtain ⟨⟨a, rfl⟩, hfaults⟩ := h hfirst haccepted₁
  obtain ⟨hok, hmore⟩ := hf a hrest haccepted₂
  refine ⟨hok, ?_⟩
  rw [hmore, hfaults, Nat.add_assoc]

/-- What counts no faults may fail. -/
theorem Counts.bind {stage : Making α} {f : α → Making β} (h : Counts n stage)
    (hf : ∀ a, Counts 0 (f a)) : Counts n (stage >>= f) := by
  intro draft made t hleads haccepted
  rw [bind_apply] at hleads
  obtain ⟨t₁, t₂, ⟨first, draft₁⟩, rfl, hfirst, hrest⟩ := Work.leads_bind_done hleads
  obtain ⟨haccepted₁, haccepted₂⟩ := List.forall_mem_append.1 haccepted
  have hfaults := h hfirst haccepted₁
  cases first with
  | ok a => exact (hf a hrest haccepted₂).trans hfaults
  | error mishap =>
    cases (Work.leads_done_iff.1 hrest).2
    exact hfaults

theorem counts_draw (wrap : ε → Mishap) (d : Drawing ε α) : Counts 0 (draw wrap d) := by
  intro draft made t h _
  rw [draw] at h
  split at h <;> cases (Work.leads_done_iff.1 h).2 <;> rfl

theorem adds_ask {request : Request} {receive : request.Answer → Except Mishap α}
    (hreceive : ∀ answer, Exchange.isRefused ⟨request, answer⟩ = false →
      ∃ a, receive answer = .ok a) : Adds 0 (ask request receive) := by
  intro draft made t h haccepted
  cases h with
  | head h =>
    obtain ⟨rfl, hdone⟩ := Work.leads_done_iff.1 h
    cases hdone
    exact ⟨hreceive _ (haccepted _ List.mem_cons_self), rfl⟩

/-- What is not refused was answered. -/
theorem exists_eq_ok {answer : Except ε α} (h : (!answer.isOk) = false) :
    ∃ a, answer = .ok a := by
  cases answer with
  | ok a => exact ⟨a, rfl⟩
  | error e => exact nomatch h

/-- What is not refused is received. -/
theorem exists_mapError_eq_ok {answer : Except ε α} {wrap : ε → Mishap}
    (h : (!answer.isOk) = false) : ∃ a, answer.mapError wrap = .ok a := by
  obtain ⟨a, rfl⟩ := exists_eq_ok h
  exact ⟨a, rfl⟩

theorem adds_makeDirs (path : String) (wrap : Foreign → Mishap) :
    Adds 0 (ask (.makeDirs path) (Except.mapError wrap)) :=
  adds_ask fun answer h => @exists_mapError_eq_ok _ _ answer wrap h

theorem adds_write (path text : String) (wrap : Foreign → Mishap) :
    Adds 0 (ask (.writeFile path text) (Except.mapError wrap)) :=
  adds_ask fun answer h => @exists_mapError_eq_ok _ _ answer wrap h

theorem adds_writeFile (path name text : String) : Adds 0 (writeFile path name text) :=
  Adds.bind (m := 0) (n := 0) (adds_makeDirs _ _) fun _ => adds_write _ _ _

theorem adds_makeAll (spec : Spec) (path : String) (dirs : List String) :
    Adds 0 (makeAll spec path dirs) := by
  induction dirs with
  | nil => exact adds_pure ()
  | cons dir rest ih => exact (adds_makeDirs _ _).bind fun _ => ih

theorem counts_laying (languages : List Language) (spec : Spec) (path : String) :
    Counts 0 (laying languages spec path) :=
  (counts_draw _ _).bind fun _ => (adds_makeAll _ _ _).counts.bind fun _ => (adds_pure _).counts

/-- With the probability one, every unit is faulty. -/
theorem adds_content (hq : q.Denotes 1) :
    Adds (Source.unitsOf shop.registry entry) (content (shop.withFaults q) context entry) := by
  cases hkind : entry.kind with
  | artifact =>
    simp only [content, hkind, Source.unitsOf]
    exact adds_ask fun answer h => exists_eq_ok h
  | source =>
    intro draft made t h _
    cases hstyle : shop.registry.get? entry.language with
    | none =>
      rw [content_eq_placeholder hkind hstyle] at h
      cases (Work.leads_done_iff.1 h).2
      exact ⟨⟨_, rfl⟩, by simp [Source.unitsOf, hkind, hstyle]⟩
    | some style =>
      rw [content_eq_fileText hkind hstyle] at h
      cases (Work.leads_done_iff.1 h).2
      refine ⟨⟨_, rfl⟩, ?_⟩
      simp only [Source.count_drawnFaults_one hq, Source.unitsOf, hkind, hstyle,
        Option.isSome_some, if_true]

theorem adds_writeAll (hq : q.Denotes 1) (manifest : List ManifestEntry) :
    Adds (Source.units shop.registry manifest)
      (writeAll (shop.withFaults q) context path manifest) := by
  induction manifest with
  | nil => exact adds_pure ()
  | cons entry rest ih =>
    have hcontent : Adds (Source.unitsOf shop.registry entry)
        (content (shop.withFaults q) context entry) := adds_content hq
    have hrest := hcontent.bind fun text => (adds_writeFile path entry.path text).bind fun _ => ih
    rwa [Nat.zero_add] at hrest

theorem counts_filling (hq : q.Denotes 1) (structured : Structure) :
    Counts (Source.units shop.registry structured.manifest)
      (filling (shop.withFaults q) spec path structured) :=
  (adds_writeAll hq structured.manifest).counts.bind fun _ => counts_draw _ _

end Making

namespace Repository

variable {shop : Workshop} {spec : Spec} {path : String} {p q : Number} {x y : Rat} {g : Gen}
  {draft draft' : Draft} {t : List Exchange} {r : Repository}

/-- Two outcomes that are told apart by the number of faults alone. -/
def IsBelow (r r' : Repository) : Prop :=
  r' = { r with faultsInjected := r'.faultsInjected } ∧ r.faultsInjected ≤ r'.faultsInjected

/-- The outcomes of what is left of two makings when the structure was planned or not. -/
theorem couples_laidOut (hp : p.Denotes x) (hq : q.Denotes y) (hle : x ≤ y)
    (laid : Except Mishap Structure) (hdraft : draft.IsBelow p draft') :
    Work.Couples
      (Exchange.Couples shop.registry (((laid.toOption).map Structure.manifest).getD []) path)
      (fun made made' => made.1.manifest = ((laid.toOption).map Structure.manifest).getD [] ∧
        made.1.IsBelow made'.1 ∧ made.1.faultsInjected = made.2.faults ∧ made.2.IsBelow p made'.2)
      (laidOut (shop.withFaults p) spec path (laid, draft))
      (laidOut (shop.withFaults q) spec path (laid, draft')) := by
  cases laid with
  | error mishap => exact .done ⟨rfl, ⟨rfl, hdraft.faults⟩, rfl, hdraft⟩
  | ok structured =>
    refine (Making.couples_filling hp hq hle structured hdraft).bind fun made made' hends => ?_
    cases hends with
    | error hdraft => exact .done ⟨rfl, ⟨rfl, hdraft.faults⟩, rfl, hdraft⟩
    | @ok commits _ draft₁ draft₁' hcommits hdraft =>
      subst hcommits
      have hreplaying : Work.Couples (Exchange.Couples shop.registry structured.manifest path) Eq
          (replaying path commits) (replaying path commits) :=
        Work.couples_self ((asks_replaying path commits).mono fun request hcall answer => by
          obtain ⟨c, rfl⟩ := hcall
          exact .same rfl)
      refine hreplaying.bind ?_
      rintro replay _ rfl
      -- a replay that fails itself does not change the number of faults
      cases replay <;> exact .done ⟨rfl, ⟨rfl, hdraft.faults⟩, rfl, hdraft⟩

/-- With the probability one, every unit of the files is faulty when nothing but a call is
    refused. -/
theorem faultsInjected_of_denotes_one (hq : q.Denotes 1)
    (h : (work (shop.withFaults q) spec path { gen := g }).Leads t (.done (r, draft)))
    (haccepted : ∀ exchange ∈ t, exchange.call? = none → exchange.isRefused = false) :
    r.faultsInjected = Source.units shop.registry r.manifest := by
  rw [work_eq] at h
  obtain ⟨t₁, t₂, ⟨laid, draft₁⟩, rfl, hlaid, h⟩ := Work.leads_bind_done h
  obtain ⟨haccepted₁, haccepted₂⟩ := List.forall_mem_append.1 haccepted
  have hquiet := @Making.isQuiet_laying shop.shelf _ _ _ _ _ _ hlaid
  have hzero : draft₁.faults = 0 := Making.counts_laying _ _ _ hlaid fun exchange hmem =>
    haccepted₁ exchange hmem (Exchange.call?_eq_none_of_isMaking (hquiet exchange hmem))
  cases laid with
  | error mishap =>
    cases (Work.leads_done_iff.1 h).2
    exact hzero
  | ok structured =>
    obtain ⟨t₂, t₃, ⟨filled, draft₂⟩, rfl, hfilled, h⟩ := Work.leads_bind_done h
    have hunits := Making.counts_filling hq structured hfilled fun exchange hmem =>
      haccepted₂ exchange (List.mem_append_left _ hmem)
        (Exchange.call?_eq_none_of_isMaking (Making.isQuiet_filling _ _ _ _ _ hfilled _ hmem))
    rw [hzero, Nat.zero_add] at hunits
    cases filled with
    | error mishap =>
      cases (Work.leads_done_iff.1 h).2
      exact hunits
    | ok commits =>
      obtain ⟨ended, rfl, -⟩ := leads_finishing_done h
      rw [concluded_faultsInjected, concluded_manifest]
      exact hunits

/-- A greater probability of faults changes nothing but the faults. Whatever is asked of a making is
    asked of the other one too, but for the texts of source files, in which what is faulty stays so;
    with the same answers, the outcomes are the same but for the number of faults. It is zero with
    the probability zero, and the number of all units with the probability one when nothing but a
    call is refused. -/
theorem faults_only_grow (hp : p.Denotes x) (hq : q.Denotes y) (hle : x ≤ y)
    (h : (work (shop.withFaults p) spec path { gen := g }).Leads t (.done (r, draft))) :
    ∃ t' r' draft',
      (work (shop.withFaults q) spec path { gen := g }).Leads t' (.done (r', draft')) ∧
      List.Forall₂ (Exchange.Couples shop.registry r.manifest path) t t' ∧
      r.IsBelow r' ∧ draft'.gen = draft.gen ∧
      (x = 0 → r.faultsInjected = 0) ∧
      (y = 1 → (∀ exchange ∈ t', exchange.call? = none → exchange.isRefused = false) →
        r'.faultsInjected = Source.units shop.registry r'.manifest) := by
  rw [work_eq] at h
  obtain ⟨t₁, t₂, ⟨laid, draft₁⟩, rfl, hlaid, h⟩ := Work.leads_bind_done h
  have hlaying : Making.Couples p (Exchange.Couples shop.registry [] path) Eq
      (Making.laying shop.languages spec path) (Making.laying shop.languages spec path) :=
    Making.couples_laying shop.languages spec path
  obtain ⟨t₁', ⟨laid', draft₁'⟩, hlaid', hexchanges₁, hends⟩ :=
    (hlaying (Draft.isBelow_self rfl)).exists_leads hlaid
  obtain ⟨hlaid₁, hdraft⟩ := hends.eq
  dsimp only at hlaid₁ hdraft
  subst hlaid₁
  obtain ⟨t₂', ⟨r', draft'⟩, h', hexchanges₂, hmanifest, hbelow, hfaults, hdraft⟩ :=
    (couples_laidOut hp hq hle laid' hdraft).exists_leads h
  have hwork : (work (shop.withFaults q) spec path { gen := g }).Leads (t₁' ++ t₂')
      (.done (r', draft')) := by
    rw [work_eq]
    exact hlaid'.bind h'
  rw [← hmanifest] at hexchanges₂
  refine ⟨t₁' ++ t₂', r', draft', hwork,
    List.rel_append (hexchanges₁.imp fun _ _ h => h.mono (List.nil_subset _)) hexchanges₂, hbelow,
    hdraft.gen, ?_, ?_⟩
  · rintro rfl
    exact hfaults.trans (hdraft.none hp)
  · rintro rfl haccepted
    exact faultsInjected_of_denotes_one hq hwork haccepted

/-- A web application without faults, on a host that accepts everything, and one with a fault in
    every unit. -/
theorem faults_only_grow_webApp :
    let shop : Workshop :=
      { languages := Corpus.bundledLanguages, timeline := {}, faultInjection := {}
        now := some 0, shelf := .bundled }
    let spec : Spec :=
      { id := .real 5001, name := "repo-05001-react-clone", category := "open_source_clones"
        template := some "react-clone", language := "javascript", targetLines := .real 2000
        targetCommits := .real 20, contributors := Corpus.bundledContributors }
    let path := "/corpus/repo-05001-react-clone"
    ∃ t r draft t' r' draft',
      (work (shop.withFaults (.real 0)) spec path { gen := .ofText "seed" }).Leads t
        (.done (r, draft)) ∧
      (work (shop.withFaults (.real 1)) spec path { gen := .ofText "seed" }).Leads t'
        (.done (r', draft')) ∧
      List.Forall₂ (Exchange.Couples shop.registry r.manifest path) t t' ∧
      r.IsBelow r' ∧ draft'.gen = draft.gen ∧ r.faultsInjected = 0 := by
  intro shop spec path
  obtain ⟨t, draft, h⟩ := exists_leads_make (.accepting fun _ => true)
    (shop.withFaults (.real 0)) spec path ⟨.ofText "seed", [], 0, ()⟩
  obtain ⟨t', r', draft', h', hexchanges, hbelow, hgen, hzero, -⟩ :=
    faults_only_grow (p := .real 0) (q := .real 1) ⟨rfl, rfl⟩ ⟨rfl, rfl⟩ zero_le_one h
  exact ⟨t, _, draft, t', r', draft', h, h', hexchanges, hbelow, hgen, hzero rfl⟩

end Repository

end CorpusForge
