import CorpusForge.Proofs.Repository.Outcome
import CorpusForge.Proofs.Run.Account
import CorpusForge.Proofs.Run.Step

/-!
# Jobs with a fate of their own

In some runs what becomes of a job does not depend on when it is looked up and worked on
(`Interleaving.IsFated`). So it is on a *steady* host, whose answers depend on the request alone,
whatever was asked before: the templates that are kept change no text, and each repository draws
from its own generator.

* `Interleaving.isFated_of_isSteady`: on a steady host every job has its fate.
-/

namespace CorpusForge

variable {σ : Type} {host : Host σ} {found : String → σ → Bool} {course : Course} {state : σ}

/-- What is answered and found does not depend on the state. -/
structure Host.IsSteady (host : Host σ) (found : String → σ → Bool) : Prop where
  makeDirs : ∀ path s s', (host.makeDirs path s).1 = (host.makeDirs path s').1
  writeFile : ∀ path text s s', (host.writeFile path text s).1 = (host.writeFile path text s').1
  call : ∀ path c s s', (host.call path c s).1 = (host.call path c s').1
  found : ∀ path s s', found path s = found path s'

/-- A host with one state is steady. -/
theorem Host.isSteady_of_subsingleton [Subsingleton σ] (host : Host σ)
    (found : String → σ → Bool) : host.IsSteady found where
  makeDirs _ _ _ := congrArg _ (congrArg _ (Subsingleton.elim _ _))
  writeFile _ _ _ _ := congrArg _ (congrArg _ (Subsingleton.elim _ _))
  call _ _ _ _ := congrArg _ (congrArg _ (Subsingleton.elim _ _))
  found _ _ _ := congrArg _ (Subsingleton.elim _ _)

/-- The answer of a host before anything was asked. -/
def Host.reply (host : Host σ) (state : σ) (request : Request) : request.Answer :=
  (host.answer request { host := state }).1

/-- With the templates of one shelf, a steady host has one answer to each request. -/
theorem Host.IsSteady.answer_eq_reply (h : host.IsSteady found) {shelf : Shelf} {s : Shared σ}
    (hkept : shelf.Holds s.kept) {request : Request} (hrequest : request.IsOn shelf) :
    (host.answer request s).1 = host.reply state request := by
  cases request with
  | makeDirs path => exact h.makeDirs path _ _
  | writeFile path text => exact h.writeFile path text _ _
  | call path c => exact h.call path c _ _
  | render shelf' path role context =>
    obtain rfl : shelf' = shelf := hrequest
    exact Artifact.render_fst_of_holds hkept path role context

/-- The work of a job uses the templates of its workshop. -/
theorem Course.asks_work (course : Course) (job : Job) :
    (course.work job).Asks (Request.IsOn course.workshop.shelf) := by
  rw [work]
  split
  next => exact Work.asks_done _
  next spec gen _ => exact (Repository.asks_work _ _ _ _).bind fun _ => Work.asks_done _

/-- The fate of a job on a steady host. -/
def Course.fateOn (course : Course) (host : Host σ) (found : String → σ → Bool) (state : σ)
    (job : Job) : Fate :=
  if course.config.skipExisting && found (course.path job) state then .kept
  else .made ((course.work job).answeredBy (host.reply state))

namespace Interleaving

variable {i : Interleaving σ} {fate : Job → Fate}

/-- Every job has its fate, whenever its directory is looked up and its work is done: it is found
    and kept, or it is made with this outcome. -/
structure IsFated (host : Host σ) (found : String → σ → Bool) (course : Course) (state : σ)
    (fate : Job → Fate) : Prop where
  kept : ∀ {run next job}, Reachable host found course state ⟨run, next, .looking job⟩ →
    (run.isKept found course job = true ↔ fate job = .kept)
  made : ∀ {i job outcome}, Reachable host found course state i →
    ⟨job, .done outcome⟩ ∈ i.run.running → fate job = .made outcome

/-- A job whose directory is kept has that fate. -/
theorem IsFated.eq_kept (hfate : IsFated host found course state fate)
    (hi : Reachable host found course state i) {job : Job} (hphase : i.phase = .keeping job) :
    fate job = .kept := by
  induction hi with
  | begin => exact nomatch hphase
  | @step i j hi hstep ih =>
    rcases hstep.of_keeping hphase with hkeeping | ⟨hlooking, hkept⟩
    · exact ih hkeeping
    · obtain ⟨run, next, phase⟩ := i
      obtain rfl : phase = .looking job := hlooking
      exact (hfate.kept hi).1 hkept

/-- What is counted is the fate of the job. -/
theorem IsFated.eq_of_counts (hfate : IsFated host found course state fate)
    (hi : Reachable host found course state i) {job : Job} {f : Fate} (h : i.Counts job f) :
    f = fate job := by
  rcases h with ⟨hphase, rfl⟩ | ⟨outcome, hrunning, rfl⟩
  · exact (hfate.eq_kept hi hphase).symm
  · exact (hfate.made hi hrunning).symm

/-- The account of a run with fates is that of its jobs. -/
theorem IsFated.exists_account (hfate : IsFated host found course state fate)
    (hi : Reachable host found course state i) :
    ∃ jobs : List Job, i.IsAccount course (jobs.map fun job => (job, fate job)) := by
  obtain ⟨entries, haccount, hentries⟩ := Interleaving.exists_account
    (fun i job f hi hcounts => hfate.eq_of_counts hi hcounts) hi
  refine ⟨entries.map Prod.fst, ?_⟩
  convert haccount
  rw [List.map_map]
  refine (List.map_congr_left fun entry hentry => ?_).trans (List.map_id entries)
  exact Prod.ext rfl (hentries entry hentry).symm

/-! ### Steady hosts -/

/-- What every run on a steady host keeps: its templates are those of the workshop, the jobs that
    start are those that were not found, and their works have had the steady answers. -/
structure IsSteady (host : Host σ) (found : String → σ → Bool) (course : Course) (state : σ)
    (i : Interleaving σ) : Prop where
  holds : course.workshop.shelf.Holds i.run.kept
  waiting : ∀ job, i.phase = .waiting job → course.fateOn host found state job ≠ .kept
  running : ∀ r ∈ i.run.running, course.fateOn host found state r.job ≠ .kept ∧
    ∃ t, (course.work r.job).Leads t r.work ∧
      ∀ exchange ∈ t, exchange.2 = host.reply state exchange.1

theorem fateOn_eq_kept_iff (h : host.IsSteady found) {run : Run σ} {job : Job} :
    run.isKept found course job = true ↔ course.fateOn host found state job = .kept := by
  rw [Run.isKept, h.found _ _ state, Course.fateOn]
  split
  next hkept => exact iff_of_true hkept rfl
  next hkept => exact iff_of_false hkept (by simp)

theorem Reachable.isSteady (h : host.IsSteady found) (hi : Reachable host found course state i) :
    i.IsSteady host found course state := by
  induction hi with
  | begin =>
    exact ⟨Artifact.holds_nil _, nofun,
      fun r hr => absurd hr List.not_mem_nil⟩
  | @step i j hi hstep ih =>
    obtain ⟨hholds, hwaiting, hrunning⟩ := ih
    refine ⟨hstep.holds hholds fun job request rest hmem => ?_, fun job hphase => ?_,
      hstep.forall_running hrunning (fun _ hjob => hjob) ?_
        fun job hphase => ⟨hwaiting job hphase, [], .refl _, List.forall_mem_nil _⟩⟩
    · obtain ⟨-, t, hleads, -⟩ := hrunning _ hmem
      exact (course.asks_work job).of_leads hleads (host.reply state request)
    · rcases hstep.of_waiting hphase with hsame | ⟨-, hnot⟩
      · exact hwaiting job hsame
      · exact fun hfate => Bool.eq_false_iff.1 hnot ((fateOn_eq_kept_iff h).2 hfate)
    · -- the request is on the shelf of the workshop, so its answer is the steady one
      rintro job request rest ⟨hfate, t, hleads, hreply⟩ -
      refine ⟨hfate, _, hleads.answered _, List.forall_mem_append.2 ⟨hreply, ?_⟩⟩
      exact List.forall_mem_singleton.2 (h.answer_eq_reply hholds
        ((course.asks_work job).of_leads hleads (host.reply state request)))

/-- On a steady host every job has its fate. -/
theorem isFated_of_isSteady (h : host.IsSteady found) :
    IsFated host found course state (course.fateOn host found state) where
  kept _ := fateOn_eq_kept_iff h
  made {i job outcome} hi hmem := by
    obtain ⟨hfate, t, hleads, hreply⟩ := (hi.isSteady h).running _ hmem
    rw [hleads.eq_answeredBy hreply]
    unfold Course.fateOn at hfate ⊢
    split at hfate
    next => exact absurd rfl hfate
    next hkept => rw [if_neg hkept]

end Interleaving

end CorpusForge
