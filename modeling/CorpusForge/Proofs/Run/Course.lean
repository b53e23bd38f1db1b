import CorpusForge.Proofs.Config.Accepted
import CorpusForge.Run.Basic

/-!
# The course of an accepted configuration

Every accepted configuration has a course: someone can commit, and there is a place for a job.
-/

namespace CorpusForge

variable {config : Config} {seed cwd : String} {now : Timestamp} {shelf : Shelf} {course : Course}

theorem Config.IsAccepted.place (h : config.IsAccepted) : config.concurrency.lt 1 = false := by
  obtain ⟨n, hpos, hn⟩ := h.concurrency
  have hone : (1 : Number) = .real 1 := rfl
  rw [hn, hone, Bool.eq_false_iff, ne_eq, Number.lt_real_iff, not_lt]
  exact_mod_cast hpos

namespace Course

/-- A run with an accepted configuration begins. -/
theorem exists_of_isAccepted (h : config.IsAccepted) (seed cwd : String) (now : Timestamp)
    (shelf : Shelf) : ∃ course, Course.of config seed cwd now shelf = .ok course := by
  simp only [Course.of, Selector.ofConfig, Pool.ofList, dif_neg h.contributors, h.place]
  exact ⟨_, rfl⟩

/-- What a course takes from its configuration. -/
theorem exists_eq_of (h : Course.of config seed cwd now shelf = .ok course) :
    ∃ selector, Selector.ofConfig config = .ok selector ∧ course =
      { config, seed, selector
        outputDir := Path.resolve cwd config.outputDir
        workshop :=
          { languages := config.languages, timeline := config.timeline
            faultInjection := config.faultInjection, now, shelf } } := by
  rw [Course.of] at h
  cases hselector : Selector.ofConfig config with
  | error refusal => simp [hselector, bind, Except.bind] at h
  | ok selector =>
    simp only [hselector, bind, Except.bind] at h
    split at h
    · exact nomatch h
    · exact ⟨selector, rfl, (Except.ok.inj h).symm⟩

theorem config_of (h : Course.of config seed cwd now shelf = .ok course) :
    course.config = config := by
  obtain ⟨selector, -, rfl⟩ := exists_eq_of h
  rfl

theorem outputDir_of (h : Course.of config seed cwd now shelf = .ok course) :
    course.outputDir = Path.resolve cwd config.outputDir := by
  obtain ⟨selector, -, rfl⟩ := exists_eq_of h
  rfl

theorem languages_of (h : Course.of config seed cwd now shelf = .ok course) :
    course.workshop.languages = config.languages := by
  obtain ⟨selector, -, rfl⟩ := exists_eq_of h
  rfl

end Course

end CorpusForge
