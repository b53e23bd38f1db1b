import CorpusForge.Proofs.Repository.Outcome
import CorpusForge.Proofs.Structure.Descent

/-!
# Repositories keep to their directories

All that the making of a repository asks for is at or below the directory of the repository: the
directories it makes, the files it writes, and the calls of the backend.

* `Request.IsInside`: what is asked for in a directory;
* `Repository.asks_isInside`: so the making asks.
-/

namespace CorpusForge

/-- What is made is at or below a directory, what is written is below it, and calls are for the
    directory. -/
def Request.IsInside (dir : String) : Request → Prop
  | .makeDirs path => Path.segments dir <+: Path.segments path
  | .writeFile path _ => ∃ below ≠ [], Path.segments path = Path.segments dir ++ below
  | .render _ _ _ _ => True
  | .call path _ => path = dir

variable {shop : Workshop} {spec : Spec} {path : String}

namespace Making

/-- The structure that was planned leads down from the directory. -/
theorem only_laying (languages : List Language) :
    Only (Request.IsInside path) (laying languages spec path) := by
  refine (only_draw _ _).bind_of_leads fun draft t structured draft' hleads => ?_
  have hplanned : Structure.IsPlanned spec languages draft.gen structured :=
    ⟨_, run_eq_of_leads_draw hleads⟩
  refine (only_makeAll (List.forall_mem_cons.2 ⟨?_, fun dir hdir => ?_⟩)).bind
    (fun _ => only_pure _) draft'
  · rw [Request.IsInside, Path.segments_join_empty]
  · rw [Request.IsInside, Path.segments_join _ (Path.isWay_of_isPlain (hplanned.leadsDown.1 dir hdir))
      (Text.splitAt_ne_nil _ _)]
    exact List.prefix_append _ _

theorem only_filling {structured : Structure}
    (hmanifest : ∀ entry ∈ structured.manifest, Path.LeadsDown entry.path) :
    Only (Request.IsInside path) (filling shop spec path structured) := by
  refine (only_writeAll (fun _ _ => trivial) (fun entry hentry => ?_)
    fun entry hentry text => ?_).bind fun _ => only_draw _ _
  all_goals obtain ⟨names, hsome, hway⟩ := hmanifest entry hentry
  · rw [Request.IsInside, Path.segments_dirname_join _ hway hsome]
    exact List.prefix_append _ _
  · exact ⟨names.map String.ofList, by simpa using hsome, Path.segments_join _ hway hsome⟩

end Making

namespace Repository

/-- The making of a repository keeps to its directory. -/
theorem asks_isInside (shop : Workshop) (spec : Spec) (path : String) (draft : Draft) :
    (work shop spec path draft).Asks (Request.IsInside path) := by
  have hcalls : ∀ request : Request, (∃ c, request = .call path c) → request.IsInside path := by
    rintro _ ⟨c, rfl⟩
    rfl
  rw [work_eq]
  refine (Making.only_laying _ draft).bind_of_leads fun t made hleads => ?_
  obtain ⟨laid, draft₁⟩ := made
  cases laid with
  | error mishap => exact Work.asks_done _
  | ok structured =>
    have hplanned := Making.isPlanned_of_leads_laying hleads
    refine (Making.only_filling hplanned.leadsDown.2 draft₁).bind fun filled => ?_
    obtain ⟨filled, draft₂⟩ := filled
    cases filled with
    | error mishap => exact Work.asks_done _
    | ok commits => exact (asks_finishing spec path structured commits draft₂).mono hcalls

end Repository

end CorpusForge
