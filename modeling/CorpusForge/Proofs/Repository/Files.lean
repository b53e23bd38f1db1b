import CorpusForge.Proofs.Disk
import CorpusForge.Proofs.Repository.Agreement
import CorpusForge.Proofs.Repository.Isolation
import CorpusForge.Proofs.Structure.Files

/-!
# The files of a repository

On a host whose files are on a disk, the directory of a repository holds what was written for it.
All files of the manifest are written before the history is replayed, so a repository that did not
fail has as many files as its manifest says, as long as its directory was new.

* `Host.IsOnDisk`: a host whose files are on a disk;
* `Disk.Holds`: what a directory holds, by the exchanges;
* `Repository.isStored_of_leads`: what is written for a repository that did not fail;
* `Repository.countFiles_make`: how many files are counted.
-/

namespace CorpusForge

variable {σ : Type}

/-! ### Hosts with a disk -/

/-- What may be changed at a place: the file that is written, and what is in the history of the
    repository that is called for. Making directories changes nothing that is there. -/
def Request.Touches : Request → List String → Prop
  | .writeFile path _, place => place = Path.segments path
  | .call path _, place => ∃ below ≠ [], place = Path.segments path ++ ".git" :: below
  | .makeDirs _, _ | .render _ _ _ _, _ => False

/-- A host whose files are on a disk. What was made is a directory where no file is, and what was
    written is a file; whether it was refused or not, a request leaves alone what it does not
    touch. -/
structure Host.IsOnDisk (host : Host σ) (disk : σ → Disk) : Prop where
  made : ∀ path s, (disk s).isFile (Path.segments path) = false →
    (host.makeDirs path s).1 = .ok () →
    (disk (host.makeDirs path s).2).isDirectory (Path.segments path) = true
  written : ∀ path text s, Path.segments path ≠ [] → (host.writeFile path text s).1 = .ok () →
    (disk (host.writeFile path text s).2).isFile (Path.segments path) = true
  spares : ∀ (request : Request) (s : Shared σ),
    (disk s.host).Spares request.Touches (disk (host.answer request s).2.host)

/-- What is touched in a directory is not in the directory of another one. -/
theorem Request.IsInside.prefix_of_touches {request : Request} {path : String}
    {place : List String} (h : request.IsInside path) (htouches : request.Touches place) :
    Path.segments path <+: place ∧ place ≠ Path.segments path := by
  cases request with
  | makeDirs | render => exact htouches.elim
  | writeFile target text =>
    obtain ⟨below, hsome, hbelow⟩ := h
    obtain rfl : place = Path.segments target := htouches
    rw [hbelow]
    exact ⟨List.prefix_append _ _, by simpa using hsome⟩
  | call target c =>
    obtain rfl : target = path := h
    obtain ⟨below, -, rfl⟩ := htouches
    exact ⟨List.prefix_append _ _, by simp⟩

/-! ### What a directory holds -/

/-- A file was written at a place. -/
def WasWritten (t : List Exchange) (place : List String) : Prop :=
  ∃ path text, ⟨.writeFile path text, .ok ()⟩ ∈ t ∧ Path.segments path = place

theorem wasWritten_append {t t' : List Exchange} {place : List String} :
    WasWritten (t ++ t') place ↔ WasWritten t place ∨ WasWritten t' place := by
  simp only [WasWritten, List.mem_append, or_and_right, exists_or]

/-- Nothing was refused but calls of the backend. -/
def IsGranted (t : List Exchange) : Prop :=
  ∀ exchange ∈ t, exchange.call? = none → exchange.isRefused = false

theorem IsGranted.of_append {t t' : List Exchange} (h : IsGranted (t ++ t')) :
    IsGranted t ∧ IsGranted t' := List.forall_mem_append.1 h

/-- In a directory there is what the exchanges say: the directory when it was made, and when nothing
    was refused, those files that were written. A history may have others. -/
structure Disk.Holds (disk : Disk) (dir : List String) (t : List Exchange) : Prop where
  free : disk.isFile dir = false
  made : ∀ path, ⟨.makeDirs path, .ok ()⟩ ∈ t → Path.segments path = dir →
    disk.isDirectory dir = true
  files : IsGranted t → ∀ way, ".git" ∉ way.dropLast →
    (disk.isFile (dir ++ way) = true ↔ WasWritten t (dir ++ way))

namespace Disk

variable {disk disk' : Disk} {dir : List String} {t : List Exchange}

/-- Nothing was asked for what does not exist. -/
theorem IsTree.holds_nil (h : disk.IsTree) (hnone : disk.exists? dir = false) :
    disk.Holds dir [] where
  free := isFile_eq_false hnone
  made _ hmem _ := absurd hmem List.not_mem_nil
  files _ way _ := by
    rw [isFile_eq_false (h.exists?_append hnone way)]
    refine iff_of_false Bool.false_ne_true ?_
    rintro ⟨_, _, hmem, -⟩
    exact List.not_mem_nil hmem

/-- What happens elsewhere changes nothing. -/
theorem Holds.spared (h : disk.Holds dir t) {touched : List String → Prop}
    (hspares : disk.Spares touched disk')
    (helsewhere : ∀ way, ".git" ∉ way.dropLast → ¬touched (dir ++ way)) : disk'.Holds dir t := by
  have hdir := helsewhere [] List.not_mem_nil
  rw [List.append_nil] at hdir
  refine ⟨?_, fun path hmem hpath => ?_, fun hgranted way hgit => ?_⟩
  · rw [hspares.files dir hdir, h.free]
  · exact hspares.directories dir hdir (h.made path hmem hpath)
  · rw [hspares.files _ (helsewhere way hgit)]
    exact h.files hgranted way hgit

end Disk

section

variable {host : Host σ} {disk : σ → Disk} {path : String} {t : List Exchange}

/-- The files that are there after an answer. -/
theorem Host.IsOnDisk.isFile_answer (hhost : host.IsOnDisk disk) {s : Shared σ}
    {request : Request} {place : List String}
    (hgranted : IsGranted [⟨request, (host.answer request s).1⟩])
    (hsome : request.Touches place → place ≠ [])
    (hcall : ∀ other c, request = .call other c → ¬request.Touches place) :
    (disk (host.answer request s).2.host).isFile place = true ↔
      (disk s.host).isFile place = true ∨
        WasWritten [⟨request, (host.answer request s).1⟩] place := by
  by_cases htouches : request.Touches place
  · -- the place is that of a file, and what was granted was written
    cases request with
    | makeDirs | render => exact htouches.elim
    | call other c => exact absurd htouches (hcall other c rfl)
    | writeFile other text =>
      obtain rfl : place = Path.segments other := htouches
      have hok : (host.answer (.writeFile other text) s).1 = .ok () := by
        have haccepted := hgranted _ List.mem_cons_self rfl
        generalize (host.answer (.writeFile other text) s).1 = answer at haccepted
        cases answer with
        | ok => rfl
        | error foreign => exact nomatch haccepted
      have hwritten := hhost.written other text s.host (hsome rfl) hok
      refine iff_of_true hwritten (.inr ⟨other, text, ?_, rfl⟩)
      rw [hok]
      exact List.mem_cons_self
  · rw [(hhost.spares request s).files place htouches, or_iff_left]
    rintro ⟨other, text, hmem, rfl⟩
    obtain ⟨rfl, -⟩ := Sigma.mk.inj (List.mem_singleton.1 hmem)
    exact htouches rfl

/-- What is asked for in a directory is held there. -/
theorem Host.IsOnDisk.holds_answer (hhost : host.IsOnDisk disk) {s : Shared σ}
    (h : (disk s.host).Holds (Path.segments path) t) {request : Request}
    (hinside : request.IsInside path) :
    (disk (host.answer request s).2.host).Holds (Path.segments path)
      (t ++ [⟨request, (host.answer request s).1⟩]) := by
  have hspares := hhost.spares request s
  have hdir : ¬request.Touches (Path.segments path) := fun htouches =>
    (hinside.prefix_of_touches htouches).2 rfl
  refine ⟨?_, fun other hmem hother => ?_, fun hgranted way hgit => ?_⟩
  · rw [hspares.files _ hdir, h.free]
  · rcases List.mem_append.1 hmem with hold | hnew
    · exact hspares.directories _ hdir (h.made other hold hother)
    · -- the directory was made just now
      obtain ⟨rfl, hok⟩ := Sigma.mk.inj (List.mem_singleton.1 hnew)
      have hfree := h.free
      rw [← hother] at hfree ⊢
      exact hhost.made other s.host hfree (eq_of_heq hok).symm
  · obtain ⟨hold, hnew⟩ := hgranted.of_append
    rw [wasWritten_append, ← h.files hold way hgit]
    refine hhost.isFile_answer hnew (fun htouches hnil => ?_) fun other c hcall htouches => ?_
    · obtain ⟨hdown, hne⟩ := hinside.prefix_of_touches htouches
      rw [hnil] at hdown hne
      exact hne (List.prefix_nil.1 hdown).symm
    · -- a call only touches what is in the history
      subst hcall
      obtain rfl : other = path := hinside
      obtain ⟨below, hsome, hway⟩ := htouches
      obtain rfl := List.append_cancel_left hway
      rw [List.dropLast_cons_of_ne_nil hsome] at hgit
      exact hgit List.mem_cons_self

end

/-! ### What is written -/

/-- Only files of the manifest are written. -/
def Request.IsFor (path : String) (manifest : List ManifestEntry) : Request → Prop
  | .writeFile target _ => ∃ entry ∈ manifest, target = Path.join [path, entry.path]
  | .makeDirs _ | .render _ _ _ _ | .call _ _ => True

namespace Making

variable {shop : Workshop} {spec : Spec} {path : String}

theorem only_laying_isFor {languages : List Language} (manifest : List ManifestEntry) :
    Only (Request.IsFor path manifest) (laying languages spec path) :=
  (only_draw _ _).bind fun _ =>
    (only_makeAll fun _ _ => trivial).bind fun _ => only_pure _

theorem only_filling_isFor (structured : Structure) :
    Only (Request.IsFor path structured.manifest) (filling shop spec path structured) :=
  (only_writeAll (fun _ _ => trivial) (fun _ _ => trivial)
    fun entry hentry _ => ⟨entry, hentry, rfl⟩).bind fun _ => only_draw _ _

end Making

namespace Repository

variable {host : Host σ} {disk : σ → Disk} {shop : Workshop} {spec : Spec} {path : String}
  {draft draft' : Draft} {t : List Exchange} {repository : Repository}

/-- What is written for a repository that did not fail: in its directory, which was made, the files
    of its manifest and no others, and nothing was refused. -/
structure IsStored (repository : Repository) (path : String) (t : List Exchange) : Prop where
  place : repository.path = path
  granted : IsGranted t
  made : ∃ target, ⟨.makeDirs target, .ok ()⟩ ∈ t ∧ Path.segments target = Path.segments path
  written : ∀ way, WasWritten t (Path.segments path ++ way) ↔
    way ∈ repository.manifest.map fun entry => Path.segments entry.path
  nodup : (repository.manifest.map fun entry => Path.segments entry.path).Nodup
  outside : ∀ entry ∈ repository.manifest, ".git" ∉ (Path.segments entry.path).dropLast

theorem isStored_of_leads
    (hextension : '/' ∉ (Structure.extensionFor spec.language shop.languages).toList)
    (h : (work shop spec path draft).Leads t (.done (repository, draft')))
    (hstatus : repository.status ≠ .failed) : repository.IsStored path t := by
  rcases leads_work h with ⟨-, hfailed⟩ |
    ⟨t₁, t₂, t₃, structured, draft₁, commits, draft₂, rfl, hlaid, hfilled, hreplay⟩
  · obtain ⟨structured, faults, mishap, rfl⟩ := hfailed _ _ rfl
    exact absurd rfl hstatus
  have hfill := isFilled_of_leads hlaid hfilled
  obtain ⟨ended, rfl, -⟩ := leads_finishing_done hreplay
  obtain ⟨replay, houtcome⟩ := exists_outcome_of_status hstatus
  rw [houtcome] at hstatus ⊢
  obtain ⟨hnodup, houtside⟩ := hfill.planned.segments_files hextension
  have hplain := hfill.planned.isPlain_files hextension
  have hcalls := asks_finishing spec path structured commits draft₂ hreplay
  have hwrites : ∀ exchange ∈ t₁ ++ t₂ ++ t₃, exchange.1.IsFor path structured.manifest := by
    refine List.forall_mem_append.2 ⟨List.forall_mem_append.2
      ⟨Making.only_laying_isFor _ _ hlaid, Making.only_filling_isFor _ _ hfilled⟩, ?_⟩
    intro exchange hmem
    obtain ⟨c, hc⟩ := hcalls exchange hmem
    rw [hc]
    exact trivial
  have hplace : ∀ entry ∈ structured.manifest, Path.segments (Path.join [path, entry.path]) =
      Path.segments path ++ Path.segments entry.path := fun entry hentry => by
    obtain ⟨hplain, -⟩ := hplain entry hentry
    rw [Path.segments_join path (Path.isWay_of_isPlain hplain) (Text.splitAt_ne_nil _ _),
      Path.segments_of_isPlain hplain]
  refine ⟨rfl, List.forall_mem_append.2 ⟨fun exchange hmem _ => hfill.accepted exchange hmem,
    fun exchange hmem hquiet => ?_⟩, ⟨_, List.mem_append_left _ (List.mem_append_left _
      (Making.made_of_leads_laying hlaid)), Path.segments_join_empty path⟩, fun way => ?_, hnodup,
    houtside⟩
  · obtain ⟨c, hc⟩ := hcalls exchange hmem
    obtain ⟨request, answer⟩ := exchange
    obtain rfl : request = .call path c := hc
    exact nomatch hquiet
  · rw [List.mem_map]
    constructor
    · rintro ⟨target, text, hmem, hplaced⟩
      obtain ⟨entry, hentry, rfl⟩ := hwrites _ hmem
      rw [hplace entry hentry] at hplaced
      exact ⟨entry, hentry, List.append_cancel_left hplaced⟩
    · rintro ⟨entry, hentry, rfl⟩
      obtain ⟨text, hmem⟩ := hfill.written entry hentry
      exact ⟨_, text, List.mem_append_left _ hmem, hplace entry hentry⟩

/-- The directory of a repository that did not fail has as many files as the manifest says. -/
theorem IsStored.countFiles (h : repository.IsStored path t) {disk : Disk}
    (hholds : disk.Holds (Path.segments path) t) (shown : String) :
    disk.countFiles (Path.segments path) shown = .ok repository.manifest.length := by
  obtain ⟨target, hmade, htarget⟩ := h.made
  have hcount := Disk.countFiles_eq (hholds.made target hmade htarget) h.nodup
    (List.forall_mem_map.2 h.outside)
    (fun way hgit => (hholds.files h.granted way hgit).trans (h.written way)) shown
  rwa [List.length_map] at hcount

end Repository

/-! ### At once -/

/-- What a work has asked for in a directory, when it is performed, is held there. -/
theorem Host.IsOnDisk.exists_holds_perform {α : Type} {host : Host σ} {disk : σ → Disk}
    {path : String} (hhost : host.IsOnDisk disk) {x : Work α}
    (hx : x.Asks (Request.IsInside path)) {s : Shared σ} {t : List Exchange}
    (h : (disk s.host).Holds (Path.segments path) t) :
    ∃ t', x.Leads t' (.done (x.perform host s).1) ∧
      (disk (x.perform host s).2.host).Holds (Path.segments path) (t ++ t') := by
  induction x generalizing s t with
  | done result => exact ⟨[], .refl _, by rwa [List.append_nil]⟩
  | ask request next ih =>
    have hanswer := hhost.holds_answer h (hx.request (host.answer request s).1)
    obtain ⟨t', hleads, hholds⟩ := ih (host.answer request s).1 (hx.next _) hanswer
    refine ⟨_ :: t', .head hleads, ?_⟩
    rwa [List.append_assoc] at hholds

/-- The directory of a repository that was made where nothing was, and did not fail, has as many
    files as the manifest says. -/
theorem Repository.countFiles_make {host : Host σ} {disk : σ → Disk} {shop : Workshop}
    {spec : Spec} {path : String} {bench : Bench σ} (hhost : host.IsOnDisk disk)
    (hextension : '/' ∉ (Structure.extensionFor spec.language shop.languages).toList)
    (htree : (disk bench.host).IsTree)
    (hnew : (disk bench.host).exists? (Path.segments path) = false)
    (hstatus : (make host shop spec path bench).1.status ≠ .failed) :
    (disk (make host shop spec path bench).2.host).countFiles (Path.segments path) path =
      .ok (make host shop spec path bench).1.manifest.length := by
  obtain ⟨t, hleads, hholds⟩ := hhost.exists_holds_perform
    (asks_isInside shop spec path ⟨bench.gen, bench.faults⟩) (s := ⟨bench.kept, bench.host⟩)
    (htree.holds_nil hnew)
  exact (isStored_of_leads hextension hleads hstatus).countFiles hholds path

end CorpusForge
