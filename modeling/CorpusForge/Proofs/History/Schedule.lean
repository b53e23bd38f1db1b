import CorpusForge.History.Schedule
import CorpusForge.Proofs.Random.Drawing

/-!
# The schedule covers the files

The files of the planned commits, one commit after the other, are the bootstrap files and then the
others in their order, and no commit after the first is empty (`Schedule.covers_of_run_plan`). With
someone to commit and a timeline of whole hours a history is always planned
(`Schedule.Input.IsPlannable.isTotal_plan`).
-/

namespace CorpusForge

namespace Number

/-- A number above one takes at least one thing, when there is one. -/
theorem one_le_upTo_of_one_lt {number : Number} {count : Nat} (hcount : 0 < count)
    (h : (1 : Number).lt number = true) : 1 ≤ number.upTo count := by
  refine lt_upTo hcount (lt_of_real_lt ?_ h)
  norm_num

theorem one_upTo {count : Nat} (hcount : 0 < count) : (1 : Number).upTo count = 1 := by
  have hmost : (1 : Number).atMost count = true := atMost_natCast_iff.2 hcount
  rw [upTo, if_pos hmost]
  rfl

/-- A number that is one or above takes at least one thing, when there is one. -/
theorem one_le_upTo_maximum {count : Nat} (hcount : 0 < count) (number : Number) :
    1 ≤ ((1 : Number).maximum number).upTo count := by
  rw [maximum]
  split
  next => exact hcount
  next hnan =>
    split
    next hlt => exact one_le_upTo_of_one_lt hcount hlt
    next hle =>
      split
      next => exact (one_upTo hcount).ge
      next =>
        split
        next hzero => exact nomatch hzero
        next => exact (one_upTo hcount).ge

end Number

namespace Schedule

/-! ### Batches -/

/-- The batches are the files, in their order. -/
theorem flatten_batches (size budget : Nat) (files : List String) :
    (batches size budget files).flatten = files := by
  fun_induction batches size budget files with
  | case1 => rfl
  | case2 files _ => exact List.append_nil files
  | case3 budget files _ ih => rw [List.flatten_cons, ih, List.take_append_drop]

/-- With batches of some size, none of them is empty. -/
theorem ne_nil_of_mem_batches {size : Nat} (hsize : 0 < size) (budget : Nat)
    (files : List String) : ∀ batch ∈ batches size budget files, batch ≠ [] := by
  fun_induction batches size budget files with
  | case1 => exact fun _ hmem => absurd hmem List.not_mem_nil
  | case2 files hfiles => exact List.forall_mem_singleton.2 hfiles
  | case3 budget files hfiles ih =>
    refine List.forall_mem_cons.2 ⟨fun hnil => ?_, ih⟩
    rw [List.take_eq_nil_iff] at hnil
    exact hnil.elim hsize.ne' hfiles

theorem one_le_batchSize {count : Nat} (hcount : 0 < count) (targetCommits : Number) :
    1 ≤ (batchSize (.ofNat count) targetCommits).upTo count := by
  rw [batchSize]
  split
  · exact (Number.one_upTo hcount).ge
  · exact Number.one_le_upTo_maximum hcount _

/-! ### Commits -/

/-- There is one commit to each batch. -/
theorem yields_commitsFrom (input : Input) (index : Nat) (ms : Number)
    (batches : List (List String)) :
    (commitsFrom input index ms batches).Yields fun commits =>
      commits.map Commit.files = batches := by
  induction batches generalizing index ms with
  | nil => exact Drawing.yields_pure rfl
  | cons files rest ih =>
    refine Drawing.yields_bind_of_forall fun _ => Drawing.yields_bind_of_forall fun _ =>
      Drawing.yields_bind_of_forall fun _ => (ih _ _).bind fun commits hcommits => ?_
    exact Drawing.yields_pure (congrArg (files :: ·) hcommits)

theorem isTotal_commitsFrom {input : Input} (hcontributors : input.contributors ≠ [])
    (hgap : (Drawing.int input.timeline.minGapHours input.timeline.maxGapHours).IsTotal)
    (index : Nat) (ms : Number) (batches : List (List String)) :
    (commitsFrom input index ms batches).IsTotal := by
  induction batches generalizing index ms with
  | nil => exact Drawing.isTotal_pure _
  | cons files rest ih =>
    exact (Drawing.isTotal_pick (List.cons_ne_nil _ _)).bind fun _ =>
      (Drawing.isTotal_pick hcontributors).bind fun _ => hgap.bind fun _ =>
        (ih _ _).bind fun _ => Drawing.isTotal_pure _

/-! ### Histories -/

/-- What is known of a planned history: its files are all files in their order, and no commit but
    the first is empty. -/
structure Covers (input : Input) (commits : List Commit) : Prop where
  files : commits.flatMap Commit.files = input.bootstrapFiles ++ remaining input
  nonempty : ∀ commit ∈ commits.tail, commit.files ≠ []

theorem covers_of_run_plan {input : Input} {g g' : Gen} {commits : List Commit}
    (h : (plan input).run g = (.ok commits, g')) : Covers input commits := by
  suffices hplan : (plan input).Yields (Covers input) from hplan h
  rw [plan]
  split
  next => exact Drawing.yields_refuse _
  next founder others _ =>
    split
    next =>
      exact Drawing.yields_pure ⟨List.append_nil _, fun _ hmem => absurd hmem List.not_mem_nil⟩
    next =>
      refine (yields_commitsFrom _ _ _ _).bind fun commits hcommits => Drawing.yields_pure ⟨?_, ?_⟩
      · rw [List.flatMap_cons, List.flatMap_def, hcommits, flatten_batches]
      · intro commit hmem
        have hbatch := List.mem_map_of_mem (f := Commit.files) hmem
        rw [List.tail_cons, hcommits] at hbatch
        -- there is a batch, so there are files, and a batch has one at least
        refine ne_nil_of_mem_batches (one_le_batchSize ?_ _) _ _ _ hbatch
        refine List.length_pos_of_ne_nil fun hnil => ?_
        simp [hnil, batches] at hbatch

/-- A history can be planned: there is someone to commit, and a whole number of hours to draw. -/
structure Input.IsPlannable (input : Input) : Prop where
  contributors : input.contributors ≠ []
  targetCommits : input.targetCommits.isInteger = true
  minGapHours : input.timeline.minGapHours.isInteger = true
  maxGapHours : input.timeline.maxGapHours.isInteger = true
  ordered : input.timeline.minGapHours.le input.timeline.maxGapHours = true

/-- A history can be planned when there is someone to commit, and a gap to draw. -/
theorem isTotal_plan {input : Input} (hcontributors : input.contributors ≠ [])
    (hgap : (Drawing.int input.timeline.minGapHours input.timeline.maxGapHours).IsTotal) :
    (plan input).IsTotal := by
  rw [plan]
  split
  next hnone => exact absurd hnone hcontributors
  next =>
    split
    next => exact Drawing.isTotal_pure _
    next =>
      exact (isTotal_commitsFrom hcontributors hgap _ _ _).bind fun _ => Drawing.isTotal_pure _

theorem Input.IsPlannable.isTotal_plan {input : Input} (h : input.IsPlannable) :
    (plan input).IsTotal :=
  Schedule.isTotal_plan h.contributors
    (Drawing.isTotal_int_of_le h.minGapHours h.maxGapHours h.ordered)

/-- An item of a list without repetitions is in exactly one part of it. -/
theorem countP_contains_eq_one {parts : List (List String)} {file : String}
    (hnodup : parts.flatten.Nodup) (hfile : file ∈ parts.flatten) :
    parts.countP (fun part => part.contains file) = 1 := by
  induction parts with
  | nil => exact absurd hfile List.not_mem_nil
  | cons part rest ih =>
    rw [List.flatten_cons] at hnodup hfile
    obtain ⟨-, hrest, hdisjoint⟩ := List.nodup_append.1 hnodup
    rw [List.countP_cons]
    by_cases hpart : file ∈ part
    · -- a second part with the file would repeat it
      have hnone : rest.countP (fun part => part.contains file) = 0 := by
        rw [List.countP_eq_zero]
        intro other hother hcontains
        have hmem : file ∈ rest.flatten :=
          List.mem_flatten.2 ⟨other, hother, List.contains_iff_mem.1 hcontains⟩
        exact hdisjoint file hpart file hmem rfl
      rw [hnone, if_pos (List.contains_iff_mem.2 hpart)]
    · rw [ih hrest ((List.mem_append.1 hfile).resolve_left hpart),
        if_neg fun hcontains => hpart (List.contains_iff_mem.1 hcontains)]

/-- The files that follow the bootstrap ones are the others. -/
theorem nodup_append_remaining {input : Input} (hfiles : input.files.Nodup)
    (hbootstrap : input.bootstrapFiles.Nodup) :
    (input.bootstrapFiles ++ remaining input).Nodup := by
  refine List.nodup_append.2 ⟨hbootstrap, hfiles.filter _, fun file hfile other hother heq => ?_⟩
  obtain ⟨-, hnot⟩ := List.mem_filter.1 hother
  rw [heq] at hfile
  simp [hfile] at hnot

theorem mem_append_remaining {input : Input} {file : String} (hfile : file ∈ input.files) :
    file ∈ input.bootstrapFiles ++ remaining input := by
  by_cases hbootstrap : file ∈ input.bootstrapFiles
  · exact List.mem_append_left _ hbootstrap
  · exact List.mem_append_right _ (List.mem_filter.2 ⟨hfile, by simpa using hbootstrap⟩)

/-- A history is planned, and covers the files: the files of its commits, one commit after the
    other, are the bootstrap files and then the other files in their order, and no commit after the
    first is empty. So when no file is given twice, and no bootstrap file, every file is in exactly
    one commit. -/
theorem exists_commits_covering {input : Input} (h : input.IsPlannable) (g : Gen) :
    ∃ commits g', (plan input).run g = (.ok commits, g') ∧
      commits.flatMap Commit.files =
        input.bootstrapFiles ++
          input.files.filter (fun file => !input.bootstrapFiles.contains file) ∧
      (∀ commit ∈ commits.tail, commit.files ≠ []) ∧
      (input.files.Nodup → input.bootstrapFiles.Nodup →
        ∀ file ∈ input.files,
          commits.countP (fun commit => commit.files.contains file) = 1) := by
  obtain ⟨commits, g', hrun⟩ := h.isTotal_plan g
  obtain ⟨hcover, hnonempty⟩ := covers_of_run_plan hrun
  refine ⟨commits, g', hrun, hcover, hnonempty, fun hfiles hbootstrap file hfile => ?_⟩
  have hone := @countP_contains_eq_one (commits.map Commit.files) file
  rw [← List.flatMap_def, hcover, List.countP_map] at hone
  exact hone (nodup_append_remaining hfiles hbootstrap) (mem_append_remaining hfile)

/-- Five files in a budget of three commits. -/
theorem exists_commits_covering_five :
    let input : Input :=
      { files := ["a", "README.md", "b", "c", "d"], bootstrapFiles := ["README.md"]
        targetCommits := .real 3, contributors := [⟨"founder", "founder@example.com"⟩]
        now := some 0
        timeline := ⟨.real 365, .real 1, .real 48⟩ }
    input.IsPlannable ∧
      ∃ commits g', (plan input).run (.ofText "seed") = (.ok commits, g') ∧
        commits.flatMap Commit.files = ["README.md", "a", "b", "c", "d"] ∧
        commits.countP (fun commit => commit.files.contains "d") = 1 := by
  intro input
  have hinput : input.IsPlannable :=
    ⟨List.cons_ne_nil _ _, by decide, by decide, by decide, by decide⟩
  obtain ⟨commits, g', hrun, hfiles, -, honce⟩ := exists_commits_covering hinput (.ofText "seed")
  exact ⟨hinput, commits, g', hrun, hfiles,
    honce (by decide) (List.nodup_singleton _) "d" (by decide)⟩

end Schedule

end CorpusForge
