import CorpusForge.Proofs.Run.Telling

/-!
# The diary of a run

Of every slot a run tells a short story: that it is skipped, that it starts and is then completed
or fails, or that it fails without having started. The stories of several slots are told in turns,
and an event names the index of its slot only, which is a rounded number. A *diary* of a run
therefore notes every event about a repository together with the number of its slot.

* `IsStory`: what may be told of one slot, from first to last;
* `Diary.of`: what a diary tells of a slot;
* `Interleaving.IsDiary`: the diary of a run, with the slots whose jobs are in the making;
* `Interleaving.Reachable.exists_isDiary`: wherever a run gets, it has a diary.
-/

namespace CorpusForge

/-! ### Stories -/

namespace Event

/-- The index of a slot that is skipped or starts. -/
def opened? : Event → Option Number
  | repositoryStarted index _ | repositorySkipped index _ _ => some index
  | _ => none

/-- The event is the first one of a slot that is skipped or starts. -/
def isOpening (event : Event) : Bool := event.opened?.isSome

/-- A slot is skipped. -/
def isSkipped : Event → Bool
  | repositorySkipped _ _ _ => true
  | _ => false

/-- A repository is made, at least in part. -/
def isCompleted : Event → Bool
  | repositoryCompleted _ _ => true
  | _ => false

/-- A repository is not made. -/
def isFailed : Event → Bool
  | repositoryFailed _ _ _ => true
  | _ => false

/-- The event begins or ends a whole run. -/
def isBoundary : Event → Bool
  | runStarted _ _ _ | runCompleted _ => true
  | _ => false

end Event

namespace Event

theorem opened?_eq (event : Event) :
    event.opened? = if event.isOpening then event.index? else none := by
  cases event <;> rfl

/-- Only events about repositories open a slot. -/
theorem filterMap_opened?_filter (events : List Event) :
    (events.filter fun event => event.index?.isSome).filterMap opened? =
      events.filterMap opened? := by
  rw [List.filterMap_filter]
  refine List.filterMap_congr fun event _ => ?_
  cases event <;> rfl

end Event

/-- What may be told of one slot, from first to last. -/
inductive IsStory : List Event → Prop where
  | skipped {index : Number} {name path : String} : IsStory [.repositorySkipped index name path]
  | completed {index : Number} {spec : Spec} {repository : Repository} :
    IsStory [.repositoryStarted index spec, .repositoryCompleted index repository]
  | failed {index : Number} {spec : Spec} {name : String} {error : Failure} :
    IsStory [.repositoryStarted index spec, .repositoryFailed index name error]
  | refused {index : Number} {name : String} {error : Failure} :
    IsStory [.repositoryFailed index name error]

/-- A job that counts towards the target is told to be completed, and any other to have failed. -/
theorem Job.ending_cases (job : Job) (outcome : Except Failure Repository) :
    ((Fate.made outcome).counts = true ∧ ∃ repository,
        job.ending outcome = .repositoryCompleted job.index repository) ∨
      ((Fate.made outcome).counts = false ∧ ∃ name failure,
        job.ending outcome = .repositoryFailed job.index name failure) := by
  cases outcome with
  | error failure => exact .inr ⟨rfl, _, _, rfl⟩
  | ok repository =>
    simp only [ending, Fate.counts]
    split
    next hfailed => exact .inr ⟨by rw [hfailed]; rfl, _, _, rfl⟩
    next hmade => exact .inl ⟨by simpa using hmade, _, rfl⟩

theorem Job.isOpening_ending (job : Job) (outcome : Except Failure Repository) :
    (job.ending outcome).isOpening = false := by
  rcases job.ending_cases outcome with ⟨-, _, hending⟩ | ⟨-, _, _, hending⟩ <;> rw [hending] <;> rfl

namespace Course

variable {course : Course} {job : Job}

/-- What is told when a job starts: nothing, when its specification could not be drawn. -/
def opening (course : Course) (job : Job) : List Event :=
  match course.drawSpec job with
  | (.ok spec, _) => [.repositoryStarted job.index spec]
  | (.error _, _) => []

theorem index?_of_mem_opening {event : Event} (h : event ∈ course.opening job) :
    event.index? = some job.index := by
  rw [opening] at h
  split at h
  next =>
    rw [List.mem_singleton.1 h]
    rfl
  next => exact absurd h List.not_mem_nil

theorem length_opening_le (course : Course) (job : Job) : (course.opening job).length ≤ 1 := by
  rw [opening]
  split
  · exact Nat.le.refl
  · exact Nat.zero_le 1

/-- A job that has started and ends has its whole story. -/
theorem isStory_opening_append_ending {t : List Exchange} {outcome : Except Failure Repository}
    (h : (course.work job).Leads t (.done outcome)) :
    IsStory (course.opening job ++ [job.ending outcome]) := by
  rcases leads_work_done h with ⟨refusal, gen, hdraw, -, rfl⟩ |
    ⟨spec, gen, repository, draft, hdraw, rfl, -⟩
  · rw [opening, hdraw]
    exact .refused
  · rw [opening, hdraw]
    simp only [Job.ending]
    split
    · exact .failed
    · exact .completed

end Course

/-! ### Diaries -/

/-- Events with the numbers of the slots that they are about. -/
abbrev Diary := List (Nat × Event)

namespace Diary

variable {diary : Diary} {k m : Nat} {events : List Event}

/-- What a diary tells of a slot. -/
def of (diary : Diary) (k : Nat) : List Event :=
  (diary.filter fun entry => entry.1 == k).map Prod.snd

/-- The slots that were skipped or have started, in the order in which that was told. -/
def openings (diary : Diary) : List Nat :=
  (diary.filter fun entry => entry.2.isOpening).map Prod.fst

/-- A diary with more events about a slot. -/
def write (diary : Diary) (k : Nat) (events : List Event) : Diary := diary ++ events.map (Prod.mk k)

theorem map_snd_write : (diary.write k events).map Prod.snd = diary.map Prod.snd ++ events := by
  simp [write, Function.comp_def]

theorem of_write_self : (diary.write k events).of k = diary.of k ++ events := by
  simp [of, write, List.filter_map, Function.comp_def]

theorem of_write_of_ne (h : m ≠ k) : (diary.write k events).of m = diary.of m := by
  simp [of, write, List.filter_map, Function.comp_def, h.symm]

theorem openings_write :
    (diary.write k events).openings =
      diary.openings ++ (events.filter Event.isOpening).map fun _ => k := by
  simp [openings, write, List.filter_map, Function.comp_def]

/-- Nothing is told of a slot that is beyond all entries. -/
theorem of_eq_nil (h : ∀ entry ∈ diary, entry.1 < k) : diary.of k = [] := by
  rw [of, List.map_eq_nil_iff, List.filter_eq_nil_iff]
  intro entry hentry
  simpa using (h entry hentry).ne

/-- The indexes that are opened are those of the slots. -/
theorem filterMap_opened? {f : Nat → Number}
    (h : ∀ entry ∈ diary, entry.2.index? = some (f entry.1)) :
    (diary.map Prod.snd).filterMap Event.opened? = diary.openings.map f := by
  induction diary with
  | nil => rfl
  | cons entry diary ih =>
    obtain ⟨hentry, hrest⟩ := List.forall_mem_cons.1 h
    rw [List.map_cons, List.filterMap_cons, Event.opened?_eq, ih hrest]
    cases hopening : entry.2.isOpening <;> simp [openings, hopening, hentry]

theorem lt_of_mem_openings {n : Nat} (h : ∀ entry ∈ diary, entry.1 < n) (hk : k ∈ diary.openings) :
    k < n := by
  obtain ⟨entry, hentry, rfl⟩ := List.mem_map.1 hk
  exact h entry (List.mem_filter.1 hentry).1

theorem forall_mem_write {p : Nat × Event → Prop} (h : ∀ entry ∈ diary, p entry)
    (hevents : ∀ event ∈ events, p (k, event)) : ∀ entry ∈ diary.write k events, p entry :=
  List.forall_mem_append.2 ⟨h, List.forall_mem_map.2 hevents⟩

/-- The slots are opened in order when the next one is opened at most once. -/
theorem pairwise_openings_write (h : diary.openings.Pairwise (· < ·))
    (hlt : ∀ entry ∈ diary, entry.1 < k) (honce : events.length ≤ 1) :
    (diary.write k events).openings.Pairwise (· < ·) := by
  rw [openings_write, List.pairwise_append]
  refine ⟨h, ?_, fun m hm n hn => ?_⟩
  · refine List.Pairwise.map _ (fun _ _ => id) (List.Pairwise.filter _ ?_)
    rcases events with _ | ⟨first, _ | ⟨second, rest⟩⟩
    · exact .nil
    · exact List.pairwise_singleton _ _
    · simp at honce
  · obtain ⟨-, -, rfl⟩ := List.mem_map.1 hn
    exact lt_of_mem_openings hlt hm

end Diary

/-! ### What a run has told -/

namespace Run

variable {σ : Type} {course : Course} {run : Run σ}

/-- The events of a run so far, the first one first. -/
def told (run : Run σ) : List Event := run.events.reverse

/-- What a run has told about repositories. -/
def toldOfSlots (run : Run σ) : List Event := run.told.filter fun event => event.index?.isSome

/-- What is told when a slot is taken. -/
def announcement (course : Course) (slot : Slot) : List Event :=
  if slot.ordinal = 0 then
    [.categoryStarted slot (Quota.announced course.config.categories slot.category)]
  else []

@[simp] theorem told_emit (run : Run σ) (event : Event) :
    (run.emit event).told = run.told ++ [event] := List.reverse_cons

theorem told_announce (course : Course) (slot : Slot) (run : Run σ) :
    (run.announce course slot).told = run.told ++ announcement course slot := by
  rw [announce, announcement]
  split
  · exact told_emit _ _
  · exact (List.append_nil _).symm

theorem filter_announcement (course : Course) (slot : Slot) :
    (announcement course slot).filter (fun event => event.index?.isSome) = [] := by
  rw [announcement]
  split <;> rfl

theorem told_skip (course : Course) (job : Job) (run : Run σ) :
    (run.skip course job).told =
      run.told ++ [.repositorySkipped job.index job.name (course.path job)] := told_emit _ _

theorem told_launch (course : Course) (job : Job) (run : Run σ) :
    (run.launch course job).told = run.told ++ course.opening job := by
  have hjoin : (run.launch course job).told = (run.tellStart course job).told := rfl
  rw [hjoin, tellStart, Course.opening]
  rcases course.drawSpec job with ⟨_ | spec, gen⟩
  · exact (List.append_nil _).symm
  · exact told_emit _ _

theorem told_record (job : Job) (outcome : Except Failure Repository) (run : Run σ) :
    (run.record job outcome).told = run.told ++ [job.ending outcome] := told_emit _ _

end Run

namespace Interleaving

variable {σ : Type} {host : Host σ} {found : String → σ → Bool} {course : Course} {state : σ}
  {i j : Interleaving σ} {opened : Nat} {places : List (Nat × Job)} {diary : Diary}

/-- The diary of a run in which the first `opened` slots were skipped or have started. The places
    are the jobs in the making, with the numbers of their slots. -/
structure IsDiary (course : Course) (i : Interleaving σ) (opened : Nat)
    (places : List (Nat × Job)) (diary : Diary) : Prop where
  /-- All that was told about repositories is in the diary. -/
  told : i.run.toldOfSlots = diary.map Prod.snd
  index : ∀ entry ∈ diary, entry.2.index? = some (course.indexAt entry.1)
  /-- At most one slot was taken and is not opened yet. -/
  next : i.next = opened + i.phase.job?.toList.length
  phase : ∀ job, i.phase.job? = some job → job.index = course.indexAt opened
  running : i.run.running.map Running.job = places.map Prod.snd
  nodup : (places.map Prod.fst).Nodup
  place : ∀ place ∈ places, place.1 < opened ∧ place.2.index = course.indexAt place.1 ∧
    diary.of place.1 = course.opening place.2
  /-- Of the other slots that were opened, the whole story is told. -/
  story : ∀ k < opened, k ∉ places.map Prod.fst → IsStory (diary.of k)
  /-- Nothing is told of a slot that was not opened. -/
  lt : ∀ entry ∈ diary, entry.1 < opened
  ordered : diary.openings.Pairwise (· < ·)

theorem isDiary_begin : (begin course state).IsDiary course 0 [] [] where
  told := rfl
  index := List.forall_mem_nil _
  next := rfl
  phase := nofun
  running := rfl
  nodup := .nil
  place := List.forall_mem_nil _
  story _ hk := absurd hk (Nat.not_lt_zero _)
  lt := List.forall_mem_nil _
  ordered := .nil

/-- The index that is given next is the one of the next slot. -/
theorem Reachable.nextIndex_eq (hi : Reachable host found course state i) :
    i.run.tally.nextIndex = course.indexAt i.next := by
  obtain ⟨entries, haccount⟩ := exists_isAccount hi
  rw [haccount.tally]

/-- More is told of a slot. -/
theorem IsDiary.told_write (h : i.IsDiary course opened places diary) {run : Run σ} {k : Nat}
    {events : List Event} (htold : run.told = i.run.told ++ events)
    (hevents : ∀ event ∈ events, event.index? = some (course.indexAt k)) :
    run.toldOfSlots = (diary.write k events).map Prod.snd ∧
      ∀ entry ∈ diary.write k events, entry.2.index? = some (course.indexAt entry.1) := by
  have hall : events.filter (fun event => event.index?.isSome) = events :=
    List.filter_eq_self.2 fun event hevent => by rw [hevents event hevent]; rfl
  refine ⟨?_, Diary.forall_mem_write h.index hevents⟩
  rw [Run.toldOfSlots, htold, List.filter_append, hall, Diary.map_snd_write, ← h.told,
    Run.toldOfSlots]

/-- The next slot is opened: its whole story is told at once, or its job starts. -/
theorem IsDiary.open_next (h : i.IsDiary course opened places diary) {job : Job}
    (hjob : i.phase.job? = some job) {run : Run σ} {events : List Event}
    (htold : run.told = i.run.told ++ events)
    (hevents : ∀ event ∈ events, event.index? = some job.index)
    (honce : events.length ≤ 1) {places' : List (Nat × Job)}
    (hrunning : run.running.map Running.job = places'.map Prod.snd)
    (hplaces : places' = places ∧ IsStory events ∨
      places' = places ++ [(opened, job)] ∧ events = course.opening job) :
    IsDiary course ⟨run, i.next, .free⟩ (opened + 1) places' (diary.write opened events) := by
  have hindex := h.phase job hjob
  obtain ⟨htold, hindexes⟩ := h.told_write htold (hindex ▸ hevents)
  have hself : (diary.write opened events).of opened = events := by
    rw [Diary.of_write_self, Diary.of_eq_nil h.lt, List.nil_append]
  have hother : ∀ k < opened, (diary.write opened events).of k = diary.of k :=
    fun k hk => Diary.of_write_of_ne hk.ne
  have hold : ∀ place ∈ places, place.1 < opened + 1 ∧ place.2.index = course.indexAt place.1 ∧
      (diary.write opened events).of place.1 = course.opening place.2 := fun place hplace => by
    obtain ⟨hlt, hplaced, hof⟩ := h.place place hplace
    exact ⟨Nat.lt_succ_of_lt hlt, hplaced, (hother _ hlt).trans hof⟩
  have hstory : ∀ k < opened, k ∉ places.map Prod.fst →
      IsStory ((diary.write opened events).of k) := fun k hk hnot => by
    rw [hother k hk]
    exact h.story k hk hnot
  refine
    { told := htold, index := hindexes, running := hrunning, phase := nofun
      next := by rw [h.next, hjob]; rfl
      lt := Diary.forall_mem_write (fun entry hentry => Nat.lt_succ_of_lt (h.lt entry hentry))
        fun _ _ => Nat.lt_succ_self opened
      ordered := Diary.pairwise_openings_write h.ordered h.lt honce
      nodup := ?_, place := ?_, story := ?_ }
  all_goals rcases hplaces with ⟨rfl, hevents⟩ | ⟨rfl, rfl⟩
  · exact h.nodup
  · rw [List.map_append, List.nodup_append]
    refine ⟨h.nodup, List.nodup_singleton _, fun k hk m hm => ?_⟩
    obtain ⟨place, hplace, rfl⟩ := List.mem_map.1 hk
    obtain rfl : m = opened := by simpa using hm
    exact (h.place place hplace).1.ne
  · exact hold
  · exact List.forall_mem_append.2 ⟨hold, List.forall_mem_singleton.2
      ⟨Nat.lt_succ_self opened, hindex, hself⟩⟩
  · intro k hk hnot
    rcases Nat.lt_succ_iff_lt_or_eq.1 hk with hlt | rfl
    · exact hstory k hlt hnot
    · rw [hself]
      exact hevents
  · intro k hk hnot
    rw [List.map_append, List.mem_append, not_or] at hnot
    rcases Nat.lt_succ_iff_lt_or_eq.1 hk with hlt | rfl
    · exact hstory k hlt hnot.1
    · exact absurd List.mem_cons_self hnot.2

/-- The story of a job in the making is told to its end. -/
theorem IsDiary.close {before after : List (Nat × Job)} {k : Nat} {job : Job}
    (h : i.IsDiary course opened (before ++ (k, job) :: after) diary) {run : Run σ}
    {event : Event} (htold : run.told = i.run.told ++ [event])
    (hevent : event.index? = some job.index) (hclosing : event.isOpening = false)
    (hstory : IsStory (course.opening job ++ [event]))
    (hrunning : run.running.map Running.job = (before ++ after).map Prod.snd) :
    IsDiary course ⟨run, i.next, i.phase⟩ opened (before ++ after) (diary.write k [event]) := by
  obtain ⟨hlt, hindex, hof⟩ := h.place (k, job) (by simp)
  obtain ⟨htold, hindexes⟩ := h.told_write (k := k) htold
    (List.forall_mem_singleton.2 (hevent.trans (congrArg some hindex)))
  have hnodup := h.nodup
  rw [List.map_append, List.map_cons, List.nodup_middle, ← List.map_append, List.nodup_cons]
    at hnodup
  refine
    { h with
      told := htold, index := hindexes, running := hrunning, nodup := hnodup.2
      lt := Diary.forall_mem_write h.lt fun _ _ => hlt
      place := fun place hplace => ?_, story := fun m hm hnot => ?_, ordered := ?_ }
  · obtain ⟨hplaced, hindexed, hopening⟩ := h.place place (by
      simp only [List.mem_append, List.mem_cons] at hplace ⊢
      tauto)
    have hne : place.1 ≠ k := fun heq =>
      hnodup.1 (List.mem_map.2 ⟨place, hplace, heq⟩)
    exact ⟨hplaced, hindexed, (Diary.of_write_of_ne hne).trans hopening⟩
  · by_cases hmk : m = k
    · subst hmk
      rw [Diary.of_write_self, hof]
      exact hstory
    · rw [Diary.of_write_of_ne hmk]
      refine h.story m hm fun hmem => hnot ?_
      simp only [List.map_append, List.map_cons, List.mem_append, List.mem_cons] at hmem ⊢
      tauto
  · rw [Diary.openings_write]
    simpa [hclosing] using h.ordered

/-- A step goes on with the diary. -/
theorem IsDiary.step (h : i.IsDiary course opened places diary)
    (hi : Reachable host found course state i) (hstep : Step host found course i j) :
    ∃ opened' places' diary', j.IsDiary course opened' places' diary' := by
  have hanswered := hi.answered.2
  have hnextIndex := hi.nextIndex_eq
  cases hstep with
  | @work run next phase older younger job request rest hcons =>
    refine ⟨opened, places, diary, { h with running := ?_ }⟩
    rw [← h.running]
    simp [hcons]
  | @count run next phase older younger job outcome hcons =>
    have hrunning := h.running
    simp only [hcons, List.map_append, List.map_cons] at hrunning
    obtain ⟨before, tail, rfl, hbefore, htail⟩ := List.map_eq_append_iff.1 hrunning.symm
    obtain ⟨⟨k, placed⟩, after, rfl, hjob, hafter⟩ := List.map_eq_cons_iff.1 htail
    obtain rfl : placed = job := hjob
    obtain ⟨t, hwork, -⟩ := hanswered ⟨placed, .done outcome⟩ (by simp [hcons])
    refine ⟨opened, before ++ after, _, h.close (Run.told_record placed outcome _)
      (placed.index?_ending outcome) (placed.isOpening_ending outcome)
      (Course.isStory_opening_append_ending hwork) ?_⟩
    simp [hbefore, hafter]
  | @take run next slot hslot hopen =>
    have hopened : next = opened := h.next
    subst hopened
    refine ⟨next, places, diary, { h with told := ?_, running := ?_, next := rfl, phase := ?_ }⟩
    · -- what is announced is no event about a repository
      rw [← h.told, Run.toldOfSlots, Run.told_announce, List.filter_append,
        Run.filter_announcement, List.append_nil]
      rfl
    · rintro _ ⟨⟩
      exact hnextIndex
    · rw [Run.announce_running]
      exact h.running
  | @look run next job =>
    refine ⟨opened, places, diary, { h with next := ?_, phase := ?_ }⟩
    · rw [Phase.job?_looked]
      exact h.next
    · rw [Phase.job?_looked]
      exact h.phase
  | @skip run next job =>
    exact ⟨opened + 1, places, _, h.open_next rfl (Run.told_skip course job run)
      (List.forall_mem_singleton.2 rfl) Nat.le.refl h.running (.inl ⟨rfl, .skipped⟩)⟩
  | @start run next job hplace =>
    refine ⟨opened + 1, places ++ [(opened, job)], _, h.open_next rfl
      (Run.told_launch course job run) (fun _ => Course.index?_of_mem_opening)
      (course.length_opening_le job) ?_ (.inr ⟨rfl, rfl⟩)⟩
    rw [Run.launch_running, List.map_append, List.map_append, ← h.running]
    rfl

theorem Reachable.exists_isDiary (hi : Reachable host found course state i) :
    ∃ opened places diary, i.IsDiary course opened places diary := by
  induction hi with
  | begin => exact ⟨0, [], [], isDiary_begin⟩
  | step hi hstep ih =>
    obtain ⟨opened, places, diary, hdiary⟩ := ih
    exact hdiary.step hi hstep

end Interleaving

end CorpusForge
