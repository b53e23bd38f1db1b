import CorpusForge.Proofs.Run.Conservation
import CorpusForge.Proofs.Run.Diary

/-!
# The order of the events

Jobs tell what becomes of them whenever they do, and the walk over the slots tells what it skips in
between. Still the events of a run keep to a protocol, whatever is found, refused, and answered in
which order: the run begins and ends once, every slot that is taken has one story and no other slot
has any, and slots are skipped and started in their order.

* `Interleaving.Step.exists_adds`: what a step tells, and what it counts meanwhile;
* `Interleaving.IsOver.followsProtocol`: the events of a run that is over;
* `Interleaving.FollowsProtocol.isToldByIndex`: they are told by index as far as numbers are exact;
* `Interleaving.ends_in_order`: every run ends with such events.
-/

namespace CorpusForge

/-! ### What is told is what is counted -/

/-- A job that counts towards the target was made, at least in part. -/
theorem Tally.generated_add_partly_countOutcome (t : Tally) (job : Job)
    (outcome : Except Failure Repository) :
    (t.countOutcome job outcome).generated + (t.countOutcome job outcome).partly =
      t.generated + t.partly + if (Fate.made outcome).counts then 1 else 0 := by
  have hproduced := produced_settle t job (.made outcome)
  have hskipped := t.skipped_countOutcome job outcome
  simp only [settle, produced] at hproduced
  omega

/-! ### What is told by index -/

/-- When indexes are exact, the events with the index of a slot are those of the slot. -/
theorem Diary.filter_eq_of {diary : Diary} {course : Course} {start n k : Nat}
    (hstart : course.config.startIndex.IsCount start) (hn : start + n ≤ 2 ^ 53)
    (hdiary : ∀ entry ∈ diary, entry.1 < n ∧ entry.2.index? = some (course.indexAt entry.1))
    (hk : k < n) :
    (diary.map Prod.snd).filter (fun event => event.index? == some (course.indexAt k)) =
      diary.of k := by
  rw [List.filter_map, Diary.of]
  refine congrArg (List.map Prod.snd) (List.filter_congr fun entry hentry => ?_)
  obtain ⟨hlt, hindex⟩ := hdiary entry hentry
  rw [Function.comp_apply, hindex, Bool.eq_iff_iff, beq_iff_eq, beq_iff_eq, Option.some_inj]
  exact ⟨Course.eq_of_indexAt_eq hstart (by omega) (by omega), congrArg course.indexAt⟩

namespace Interleaving

variable {σ : Type} {host : Host σ} {found : String → σ → Bool} {course : Course} {state : σ}
  {i j : Interleaving σ}

/-! ### From the first moment to the last -/

/-- What is told between two moments is no boundary of the run, and as much of each kind as was
    counted. -/
structure Adds (i j : Interleaving σ) (added : List Event) : Prop where
  told : j.run.told = i.run.told ++ added
  inner : ∀ event ∈ added, event.isBoundary = false
  skipped : j.run.tally.skipped = i.run.tally.skipped + added.countP Event.isSkipped
  completed : j.run.tally.generated + j.run.tally.partly =
    i.run.tally.generated + i.run.tally.partly + added.countP Event.isCompleted
  failed : j.run.tally.failed = i.run.tally.failed + added.countP Event.isFailed

theorem Step.exists_adds (hstep : Step host found course i j) : ∃ added, Adds i j added := by
  cases hstep with
  | work hcons => exact ⟨[], (List.append_nil _).symm, List.forall_mem_nil _, rfl, rfl, rfl⟩
  | look => exact ⟨[], (List.append_nil _).symm, List.forall_mem_nil _, rfl, rfl, rfl⟩
  | @count run next phase older younger job outcome hcons =>
    have hskipped := run.tally.skipped_countOutcome job outcome
    have hmade := run.tally.generated_add_partly_countOutcome job outcome
    have hfailed := run.tally.failed_settle job (.made outcome)
    rcases job.ending_cases outcome with ⟨hcounts, repository, hending⟩ |
      ⟨hcounts, name, failure, hending⟩
    all_goals
      rw [hcounts] at hmade hfailed
      refine ⟨[job.ending outcome], Run.told_record _ _ _, ?_, ?_, ?_, ?_⟩ <;> rw [hending]
    · exact List.forall_mem_singleton.2 rfl
    · exact hskipped
    · exact hmade
    · exact hfailed
    · exact List.forall_mem_singleton.2 rfl
    · exact hskipped
    · exact hmade
    · exact hfailed
  | @take run next slot hslot hopen =>
    refine ⟨Run.announcement course slot, Run.told_announce _ _ _, ?_, ?_, ?_, ?_⟩ <;>
      rw [Run.announcement] <;> split <;> simp [Event.isBoundary, Event.isSkipped,
        Event.isCompleted, Event.isFailed]
  | @skip run next job =>
    exact ⟨_, Run.told_skip _ _ _, List.forall_mem_singleton.2 rfl, rfl, rfl, rfl⟩
  | @start run next job hplace =>
    refine ⟨course.opening job, Run.told_launch _ _ _, ?_, ?_, ?_, ?_⟩ <;>
      rw [Course.opening] <;> split <;> simp [Event.isBoundary, Event.isSkipped,
        Event.isCompleted, Event.isFailed]

/-- What a run has told since it began. -/
theorem Reachable.exists_adds (hi : Reachable host found course state i) :
    ∃ added, Adds (Interleaving.begin course state) i added := by
  induction hi with
  | begin => exact ⟨[], (List.append_nil _).symm, List.forall_mem_nil _, rfl, rfl, rfl⟩
  | step hi hstep ih =>
    obtain ⟨added, hadds⟩ := ih
    obtain ⟨more, hmore⟩ := hstep.exists_adds
    refine ⟨added ++ more, ?_, List.forall_mem_append.2 ⟨hadds.inner, hmore.inner⟩, ?_, ?_, ?_⟩
    · rw [hmore.told, hadds.told, List.append_assoc]
    · rw [hmore.skipped, hadds.skipped, List.countP_append, Nat.add_assoc]
    · rw [hmore.completed, hadds.completed, List.countP_append, Nat.add_assoc]
    · rw [hmore.failed, hadds.failed, List.countP_append, Nat.add_assoc]

/-! ### The protocol -/

/-- The events of a run that took `n` slots keep to the protocol. -/
structure FollowsProtocol (course : Course) (n : Nat) (run : Run σ) : Prop where
  /-- The run begins and ends once, and everything else is told in between. -/
  boundaries : ∃ inner, run.told =
      .runStarted course.seed course.config.targetCount course.outputDir ::
        (inner ++ [.runCompleted (run.summary course)]) ∧
    ∀ event ∈ inner, event.isBoundary = false
  /-- Every slot that was taken has one story, no other slot has any, and the slots are skipped and
      started in order. -/
  slots : ∃ diary : Diary, run.toldOfSlots = diary.map Prod.snd ∧
    (∀ entry ∈ diary, entry.1 < n ∧ entry.2.index? = some (course.indexAt entry.1)) ∧
    (∀ k < n, IsStory (diary.of k)) ∧ diary.openings.Pairwise (· < ·)
  nextIndex : run.tally.nextIndex = course.indexAt n
  skipped : run.told.countP Event.isSkipped = run.tally.skipped
  completed : run.told.countP Event.isCompleted = run.tally.generated + run.tally.partly
  failed : run.told.countP Event.isFailed = run.tally.failed

/-- The indexes of a run that took `n` slots are whole numbers that follow on each other, and the
    events of a slot are those with its index. -/
structure IsToldByIndex (course : Course) (start n : Nat) (run : Run σ) : Prop where
  index : ∀ k ≤ n, (course.indexAt k).IsCount (start + k)
  story : ∀ k < n, IsStory (run.told.filter fun event => event.index? == some (course.indexAt k))
  range : ∀ event ∈ run.told, ∀ index, event.index? = some index →
    ∃ k < n, index = course.indexAt k
  ordered : (run.told.filterMap Event.opened?).Pairwise fun index later => index.lt later = true

/-- A run that is over follows the protocol when it has told its end. -/
theorem IsOver.followsProtocol (hi : Reachable host found course state i)
    (hover : i.IsOver course) :
    FollowsProtocol course i.next (i.run.emit (.runCompleted (i.run.summary course))) := by
  obtain ⟨added, hadds⟩ := hi.exists_adds
  obtain ⟨opened, places, diary, hdiary⟩ := hi.exists_isDiary
  have htold : i.run.told =
      .runStarted course.seed course.config.targetCount course.outputDir :: added := hadds.told
  -- with nothing in the making, every slot that was taken was opened, and its story is told
  have hopened : i.next = opened := by
    have hnext := hdiary.next
    rwa [hover.1] at hnext
  have hplaces : places = [] := by
    have hrunning := hdiary.running
    rw [hover.2.1] at hrunning
    exact List.map_eq_nil_iff.1 hrunning.symm
  subst hopened hplaces
  refine
    { boundaries := ⟨added, ?_, hadds.inner⟩
      slots := ⟨diary, ?_, fun entry hentry => ⟨hdiary.lt entry hentry, hdiary.index entry hentry⟩,
        fun k hk => hdiary.story k hk List.not_mem_nil, hdiary.ordered⟩
      nextIndex := hi.nextIndex_eq
      skipped := ?_, completed := ?_, failed := ?_ }
  · rw [Run.told_emit, htold]
    rfl
  · rw [Run.toldOfSlots, Run.told_emit, List.filter_append, ← Run.toldOfSlots, hdiary.told]
    exact List.append_nil _
  -- the two boundaries are none of the events that are counted
  all_goals rw [Run.told_emit, htold, List.countP_append, List.countP_cons, Run.emit_tally]
  · simp [hadds.skipped, Interleaving.begin, Run.begin, Event.isSkipped]
  · simp [hadds.completed, Interleaving.begin, Run.begin, Event.isCompleted]
  · simp [hadds.failed, Interleaving.begin, Run.begin, Event.isFailed]

/-- The events of a run are told by index when the indexes are exact. -/
theorem FollowsProtocol.isToldByIndex {run : Run σ} {start n : Nat}
    (h : FollowsProtocol course n run) (hstart : course.config.startIndex.IsCount start)
    (hn : start + n ≤ 2 ^ 53) : IsToldByIndex course start n run := by
  obtain ⟨diary, htold, hdiary, hstory, hordered⟩ := h.slots
  have hcount : ∀ k ≤ n, (course.indexAt k).IsCount (start + k) := fun k hk =>
    Course.isCount_indexAt hstart (by omega)
  refine ⟨hcount, fun k hk => ?_, fun event hevent index hindex => ?_, ?_⟩
  · have hof := Diary.filter_eq_of hstart hn hdiary hk
    rw [← htold, Run.toldOfSlots, List.filter_filter] at hof
    have hsame : ∀ event ∈ run.told,
        (event.index? == some (course.indexAt k) && event.index?.isSome) =
          (event.index? == some (course.indexAt k)) := fun event _ => by
      cases hindex : event.index? <;> simp
    rw [List.filter_congr hsame] at hof
    rw [hof]
    exact hstory k hk
  · have hmem : event ∈ run.toldOfSlots := List.mem_filter.2 ⟨hevent, by rw [hindex]; rfl⟩
    rw [htold] at hmem
    obtain ⟨entry, hentry, rfl⟩ := List.mem_map.1 hmem
    obtain ⟨hlt, hentryIndex⟩ := hdiary entry hentry
    exact ⟨entry.1, hlt, Option.some.inj (hindex.symm.trans hentryIndex)⟩
  · rw [← Event.filterMap_opened?_filter]
    have hopened := Diary.filterMap_opened? fun entry hentry => (hdiary entry hentry).2
    rw [← htold, Run.toldOfSlots] at hopened
    rw [hopened, List.pairwise_map]
    refine hordered.imp_of_mem fun {k m} hk hm hlt => ?_
    have hkn := Diary.lt_of_mem_openings (fun entry hentry => (hdiary entry hentry).1) hk
    have hmn := Diary.lt_of_mem_openings (fun entry hentry => (hdiary entry hentry).1) hm
    exact (hcount k hkn.le).lt_of_lt (hcount m hmn.le) (by omega)

/-! ### Every run -/

/-- The order of the events. With an accepted configuration, whatever is found and refused and in
    whatever order, every run ends with events that follow the protocol, told by index as far as
    numbers are exact. -/
theorem ends_in_order {config : Config} (hconfig : config.IsAccepted) (seed cwd : String)
    (now : Timestamp) (shelf : Shelf) :
    ∃ course, Course.of config seed cwd now shelf = .ok course ∧
      ∃ start, config.startIndex.IsCount start ∧
        ∀ {σ : Type} (host : Host σ) (found : String → σ → Bool) (state : σ),
          Ends host found course
            (fun i => FollowsProtocol course i.next
                (i.run.emit (.runCompleted (i.run.summary course))) ∧
              (start + i.next ≤ 2 ^ 53 → IsToldByIndex course start i.next
                (i.run.emit (.runCompleted (i.run.summary course)))))
            (begin course state) ∧
          ∃ n, FollowsProtocol course n (.generate host found course state) ∧
            (start + n ≤ 2 ^ 53 →
              IsToldByIndex course start n (.generate host found course state)) := by
  obtain ⟨course, hcourse⟩ := Course.exists_of_isAccepted hconfig seed cwd now shelf
  obtain ⟨start, -, hstart⟩ := hconfig.startIndex
  obtain rfl := Course.config_of hcourse
  refine ⟨course, hcourse, start, hstart, fun host found state => ⟨?_, ?_⟩⟩
  · refine ends_of_reachable hconfig.place (fun i hi hover => ?_) .begin
    have hprotocol := hover.followsProtocol hi
    exact ⟨hprotocol, hprotocol.isToldByIndex hstart⟩
  · obtain ⟨i, hi, hover, hrun⟩ := @isRun_generate _ host found course state hconfig.place
    have hprotocol := hover.followsProtocol hi
    rw [hrun]
    exact ⟨i.next, hprotocol, hprotocol.isToldByIndex hstart⟩

/-- Four at a time, with the default settings otherwise, on a host where some histories fail and
    some directories exist. -/
theorem ends_in_order_four :
    let host := Host.accepting fun path => path.length % 3 != 0
    let found := fun path (_ : Unit) => path.length % 5 == 0
    ∃ config course, ∃ n : Nat,
      Config.load [] (.object [("concurrency", .number 4)]) = .ok config ∧
      Course.of config "seed" "/" (some 0) .bundled = .ok course ∧
      FollowsProtocol course n (.generate host found course ()) := by
  intro host found
  obtain ⟨config, hload⟩ : ∃ config,
      Config.load [] (.object [("concurrency", .number 4)]) = .ok config := ⟨_, rfl⟩
  obtain ⟨course, hcourse, start, -, hends⟩ :=
    ends_in_order ⟨_, _, hload⟩ "seed" "/" (some 0) .bundled
  obtain ⟨-, n, hprotocol, -⟩ := hends host found ()
  exact ⟨config, course, n, hload, hcourse, hprotocol⟩

end Interleaving

end CorpusForge
