import Mathlib.Data.List.Basic
import CorpusForge.Proofs.Work
import CorpusForge.Repository

/-!
# A replay stops at the first refusal

A replay makes the calls of a history one after the other, and whatever the backend answers to them,
it makes none after the first one that is refused. What it reports is what the backend accepted: the
commits that were applied, and what was thrown. It reports nothing when that has no text.

* `Call.exists_eq_of_prefix`: a beginning of a history is some of its commits and a part of one;
* `Replay.run_noting`: how the calls of a replay are answered;
* `Replay.reports`: what a replay reports;
* `Replay.ne_ok_of_noText`: a commit is made, and nothing is reported;
* `Repository.perform_replaying`: a repository's history is replayed against its host.
-/

namespace CorpusForge

/-! ### Histories -/

namespace Call

/-- The calls of a commit before it is made. -/
def preparing (c : Commit) : List Call := setIdentity c.author :: c.files.map stage

theorem ofCommit_eq (c : Commit) : ofCommit c = preparing c ++ [commit c.message c.timestamp] := rfl

theorem countP_isCommit_preparing (c : Commit) : (preparing c).countP isCommit = 0 := by
  rw [preparing, List.countP_cons_of_neg Bool.false_ne_true, List.countP_map]
  exact List.countP_eq_zero.2 fun _ _ => Bool.false_ne_true

theorem countP_isCommit_ofCommit (c : Commit) : (ofCommit c).countP isCommit = 1 := by
  rw [ofCommit_eq, List.countP_append, countP_isCommit_preparing]
  rfl

theorem countP_isCommit_history (commits : List Commit) :
    (history commits).countP isCommit = commits.length := by
  rw [history, List.countP_cons_of_neg Bool.false_ne_true, List.countP_flatMap]
  simp [Function.comp_def, countP_isCommit_ofCommit]

/-- A beginning of the calls of some commits has all calls of the first commits, as many as it
    makes, and goes on without making another one. -/
theorem exists_eq_flatMap_of_prefix {commits : List Commit} {made : List Call}
    (h : made <+: commits.flatMap ofCommit) :
    ∃ part, made = (commits.take (made.countP isCommit)).flatMap ofCommit ++ part ∧
      part.countP isCommit = 0 := by
  induction commits generalizing made with
  | nil =>
    obtain rfl : made = [] := List.prefix_nil.1 h
    exact ⟨[], rfl, rfl⟩
  | cons c rest ih =>
    rw [List.flatMap_cons] at h
    by_cases hwhole : ofCommit c <+: made
    · -- the first commit is made, and what follows is a beginning of the others
      obtain ⟨more, rfl⟩ := hwhole
      obtain ⟨part, hmore, hpart⟩ := ih ((List.prefix_append_right_inj _).1 h)
      refine ⟨part, ?_, hpart⟩
      rw [List.countP_append, countP_isCommit_ofCommit, Nat.add_comm, List.take_succ_cons,
        List.flatMap_cons, List.append_assoc, ← hmore]
    · -- not even the first commit is made
      have hfirst : made <+: preparing c := by
        rcases List.prefix_or_prefix_of_prefix h (List.prefix_append _ _) with hmade | hmade
        · rw [ofCommit_eq] at hmade
          refine (List.prefix_concat_iff.1 hmade).resolve_left fun heq => hwhole ?_
          simp only [heq, ofCommit_eq, List.prefix_rfl]
        · exact absurd hmade hwhole
      have hnone : made.countP isCommit = 0 := by
        have hle : made.countP isCommit ≤ (preparing c).countP isCommit :=
          hfirst.sublist.countP_le
        rwa [countP_isCommit_preparing, Nat.le_zero] at hle
      exact ⟨made, by rw [hnone]; rfl, hnone⟩

/-- A beginning of a history is empty, or it has all calls of the first commits, as many as it
    makes, and goes on without making another one. -/
theorem exists_eq_of_prefix {commits : List Commit} {made : List Call}
    (h : made <+: history commits) : made = [] ∨
      ∃ part, made = history (commits.take (made.countP isCommit)) ++ part ∧
        part.countP isCommit = 0 := by
  cases made with
  | nil => exact .inl rfl
  | cons c made =>
    obtain ⟨rfl, hmade⟩ := List.cons_prefix_cons.1 h
    obtain ⟨part, heq, hpart⟩ := exists_eq_flatMap_of_prefix hmade
    refine .inr ⟨part, ?_, hpart⟩
    rw [List.countP_cons_of_neg Bool.false_ne_true, history, List.cons_append, ← heq]

end Call

/-! ### Transcripts -/

/-- A thrown record whose `toString` cannot be called. -/
def Thrown.untold : Thrown := .foreign (.value (.object [("toString", .number 1)]))

/-- Calls that were made, each with its answer. -/
abbrev Transcript := List (Call × Except Thrown Unit)

namespace Transcript

/-- The calls that were made. -/
def calls (t : Transcript) : List Call := t.map Prod.fst

/-- The calls that the backend accepted. -/
def accepted (t : Transcript) : List Call := (t.filter fun entry => entry.2.isOk).map Prod.fst

/-- What was thrown first. -/
def thrown? (t : Transcript) : Option Thrown :=
  t.findSome? fun entry =>
    match entry.2 with
    | .ok _ => none
    | .error thrown => some thrown

/-- Calls that were all accepted. -/
def granted (calls : List Call) : Transcript := calls.map fun c => (c, .ok ())

/-- How calls may be answered in their order: all are accepted, or the first ones are and the next
    one throws. -/
inductive Answers (calls : List Call) : Transcript → Prop
  | whole : Answers calls (granted calls)
  | cut {made rest : List Call} {c : Call} {thrown : Thrown} (hcalls : calls = made ++ c :: rest) :
    Answers calls (granted made ++ [(c, .error thrown)])

variable {made : List Call} {c : Call} {thrown : Thrown}

@[simp] theorem calls_append (t t' : Transcript) : calls (t ++ t') = calls t ++ calls t' :=
  List.map_append

@[simp] theorem calls_granted (made : List Call) : (granted made).calls = made := by
  simp [calls, granted, Function.comp_def]

@[simp] theorem accepted_append (t t' : Transcript) :
    accepted (t ++ t') = accepted t ++ accepted t' := by
  simp [accepted]

@[simp] theorem accepted_granted (made : List Call) : (granted made).accepted = made := by
  simp [accepted, granted, List.filter_map, Function.comp_def, Except.isOk, Except.toBool]

@[simp] theorem accepted_error (c : Call) (thrown : Thrown) :
    accepted [(c, .error thrown)] = [] := rfl

@[simp] theorem thrown?_error (c : Call) (thrown : Thrown) :
    thrown? [(c, .error thrown)] = some thrown := rfl

@[simp] theorem thrown?_granted (made : List Call) : (granted made).thrown? = none := by
  simp [thrown?, granted]

@[simp] theorem thrown?_granted_append (made : List Call) (t : Transcript) :
    thrown? (granted made ++ t) = t.thrown? := by
  rw [thrown?, List.findSome?_append, ← thrown?, thrown?_granted]
  rfl

/-- Nothing is asked after the first call that throws. -/
theorem Answers.eq_nil {calls : List Call} {t before after : Transcript} (h : Answers calls t)
    (ht : t = before ++ (c, .error thrown) :: after) : after = [] := by
  have hgranted : ∀ made : List Call, (c, .error thrown) ∉ granted made := fun made hmem => by
    obtain ⟨_, -, heq⟩ := List.mem_map.1 hmem
    exact nomatch congrArg Prod.snd heq
  cases h with
  | whole => exact absurd (ht ▸ by simp) (hgranted calls)
  | @cut made rest last thrown' hcalls =>
    rcases List.eq_nil_or_concat after with rfl | ⟨after, entry, rfl⟩
    · rfl
    · -- otherwise the call would be one of those that were accepted
      rw [List.concat_eq_append, ← List.cons_append, ← List.append_assoc] at ht
      refine absurd ?_ (hgranted made)
      rw [List.append_inj_left' ht rfl]
      simp

end Transcript

namespace Replay

variable {σ : Type}

/-- A backend that notes the calls that are made, with its answers. -/
def noting (call : Call → σ → Except Thrown Unit × σ) (c : Call) (s : σ × Transcript) :
    Except Thrown Unit × (σ × Transcript) :=
  ((call c s.1).1, ((call c s.1).2, s.2 ++ [(c, (call c s.1).1)]))

theorem run_cons (call : Call → σ → Except Thrown Unit × σ) (applied : Nat) (c : Call)
    (rest : List Call) (s : σ) :
    run (m := StateM σ) call applied (c :: rest) s =
      match call c s with
      | (.ok _, state) => run (m := StateM σ) call (if c.isCommit then applied + 1 else applied)
          rest state
      | (.error thrown, state) => ((some thrown, applied), state) := by
  rcases hcall : call c s with ⟨answer, state⟩
  cases answer with
  | ok _ => simp only [run, bind, StateT.bind, hcall]
  | error thrown =>
    simp only [run, bind, StateT.bind, hcall]
    rfl

/-- The calls of a replay are answered in their order. What is noted tells what was thrown, and how
    many commits were made, and the noting changes nothing else. -/
theorem run_noting (call : Call → σ → Except Thrown Unit × σ) (applied : Nat) (calls : List Call)
    (s : σ) (noted : Transcript) :
    ∃ t : Transcript, t.Answers calls ∧
      (run (m := StateM σ) call applied calls s).1 =
        (t.thrown?, applied + t.accepted.countP Call.isCommit) ∧
      run (m := StateM (σ × Transcript)) (noting call) applied calls (s, noted) =
        ((run (m := StateM σ) call applied calls s).1,
          ((run (m := StateM σ) call applied calls s).2, noted ++ t)) := by
  induction calls generalizing applied s noted with
  | nil => exact ⟨[], .whole, rfl, by rw [List.append_nil]; rfl⟩
  | cons c rest ih =>
    rw [run_cons, run_cons, noting]
    rcases hcall : call c s with ⟨answer, state⟩
    cases answer with
    | error thrown =>
      exact ⟨[(c, .error thrown)], @Transcript.Answers.cut _ [] rest c thrown rfl, rfl, rfl⟩
    | ok =>
      obtain ⟨t, hanswers, hrun, hnoting⟩ :=
        ih (if c.isCommit then applied + 1 else applied) state (noted ++ [(c, .ok ())])
      rw [List.append_assoc] at hnoting
      refine ⟨(c, .ok ()) :: t, ?_, ?_, hnoting⟩
      · cases hanswers with
        | whole => exact .whole
        | @cut made rest' c' thrown hcalls =>
          exact @Transcript.Answers.cut _ (c :: made) rest' c' thrown (congrArg (c :: ·) hcalls)
      · refine hrun.trans (congrArg (Prod.mk t.thrown?) ?_)
        have haccepted : Transcript.accepted ((c, .ok ()) :: t) = c :: t.accepted := rfl
        rw [haccepted, List.countP_cons]
        split <;> omega

/-- Calls of the history of some commits, as they were made and answered. -/
structure Makes (commits : List Commit) (t : Transcript) : Prop where
  /-- The calls are made in their order. -/
  calls : t.calls <+: Call.history commits
  accepted : t.accepted <+: Call.history commits
  /-- No call is made after one that throws. -/
  stops : ∀ before c thrown after, t = before ++ (c, .error thrown) :: after → after = []

/-- What a replay reports of the calls that were made for some commits. -/
structure Reports (commits : List Commit) (t : Transcript) (replay : Replay) : Prop where
  commitsApplied : replay.commitsApplied = t.accepted.countP Call.isCommit
  /-- The commits that were applied are the first ones, and no other was made in between. -/
  applied : t.accepted = [] ∨
    ∃ part, t.accepted = Call.history (commits.take replay.commitsApplied) ++ part ∧
      part.countP Call.isCommit = 0
  success : replay.status = .success ↔ t.thrown? = none
  complete : replay.status = .success →
    replay.error = none ∧ t.accepted = Call.history commits
  partly : replay.status = .partly ↔ t.thrown?.isSome ∧ 1 ≤ replay.commitsApplied
  incomplete : replay.status = .partly → replay.commitsApplied < commits.length
  failed : replay.status = .failed ↔ t.thrown?.isSome ∧ replay.commitsApplied = 0
  error : ∀ thrown, t.thrown? = some thrown →
    ∃ failure, thrown.normalize = .ok failure ∧ replay.error = some failure
  /-- A failure of the library is reported as it was thrown. -/
  failure : ∀ failure, t.thrown? = some (.failure failure) → replay.error = some failure

/-- The calls of a history are made in their order, however they are answered. -/
theorem makes_of_answers {commits : List Commit} {t : Transcript}
    (h : t.Answers (Call.history commits)) : Makes commits t := by
  refine ⟨?_, ?_, fun _ _ _ _ ht => h.eq_nil ht⟩
  all_goals cases h with
  | whole => simp
  | @cut made rest c thrown hcalls =>
    have hlast : Transcript.calls [(c, .error thrown)] = [c] := rfl
    simp [hcalls, hlast]

/-- What a replay reports when all calls were accepted. -/
theorem reports_granted (commits : List Commit) :
    Reports commits (.granted (Call.history commits)) ⟨.success, commits.length, none⟩ where
  commitsApplied := by rw [Transcript.accepted_granted, Call.countP_isCommit_history]
  applied := .inr ⟨[], by simp, rfl⟩
  success := by simp
  complete _ := ⟨rfl, Transcript.accepted_granted _⟩
  partly := by simp
  incomplete := nofun
  failed := by simp
  error := by simp
  failure := by simp

/-- A beginning of a history that is not the whole of it has not all its commits. -/
theorem countP_isCommit_lt {commits : List Commit} {made rest : List Call} {c : Call}
    (hcalls : Call.history commits = made ++ c :: rest) (hpos : 1 ≤ made.countP Call.isCommit) :
    made.countP Call.isCommit < commits.length := by
  have hle : made.countP Call.isCommit ≤ commits.length := by
    rw [← Call.countP_isCommit_history, hcalls, List.countP_append]
    exact Nat.le_add_right _ _
  refine Nat.lt_of_le_of_ne hle fun hall => ?_
  rcases Call.exists_eq_of_prefix ⟨c :: rest, hcalls.symm⟩ with rfl | ⟨part, hmade, -⟩
  · exact absurd hpos (by simp)
  · -- with all commits it would be longer than the history
    rw [hall, List.take_length] at hmade
    have hlength := congrArg List.length hmade
    rw [hcalls] at hlength
    simp at hlength

/-- What a replay reports when a call throws what amounts to a failure. -/
theorem reports_cut {commits : List Commit} {made rest : List Call} {c : Call} {thrown : Thrown}
    {told : Failure} (hcalls : Call.history commits = made ++ c :: rest)
    (htold : thrown.normalize = .ok told) :
    Reports commits (Transcript.granted made ++ [(c, .error thrown)])
      (stopped (made.countP Call.isCommit) told) := by
  have hmade : made <+: Call.history commits := ⟨c :: rest, hcalls.symm⟩
  have haccepted :
      Transcript.accepted (Transcript.granted made ++ [(c, .error thrown)]) = made := by simp
  have hthrown : Transcript.thrown? (Transcript.granted made ++ [(c, .error thrown)]) =
      some thrown := by simp
  constructor
  all_goals simp only [haccepted, hthrown, stopped]
  case applied => exact Call.exists_eq_of_prefix hmade
  case success | complete => split <;> simp
  case partly =>
    split
    next hpos => simpa using hpos
    next hzero => simpa using hzero
  case incomplete =>
    split
    next hpos => exact fun _ => countP_isCommit_lt hcalls hpos
    next hzero => exact nofun
  case failed =>
    split
    next hpos => simpa using Nat.pos_iff_ne_zero.1 hpos
    next hzero => simpa using hzero
  case error =>
    rintro _ ⟨⟩
    exact ⟨told, htold, rfl⟩
  case failure =>
    rintro failure ⟨⟩
    exact congrArg some (Except.ok.inj htold).symm

theorem replay_eq (call : Call → σ → Except Thrown Unit × σ) (commits : List Commit) (s : σ) :
    replay call commits s =
      (outcome (run (m := StateM σ) call 0 (Call.history commits) s).1,
        (run (m := StateM σ) call 0 (Call.history commits) s).2) := rfl

/-- What becomes of a replay whose calls were answered in a certain way. -/
theorem outcome_of_answers {commits : List Commit} {t : Transcript}
    (h : t.Answers (Call.history commits)) :
    (∀ report, outcome (t.thrown?, t.accepted.countP Call.isCommit) = .ok report →
      Reports commits t report) ∧
    ∀ misuse, outcome (t.thrown?, t.accepted.countP Call.isCommit) = .error misuse ↔
      misuse = .noText ∧ ∃ thrown, t.thrown? = some thrown ∧ thrown.text? = none := by
  cases h with
  | whole =>
    rw [Transcript.thrown?_granted, Transcript.accepted_granted, Call.countP_isCommit_history]
    simp only [outcome, Except.ok.injEq, forall_eq', reduceCtorEq, false_and, exists_false,
      and_false, implies_true, and_true]
    exact reports_granted commits
  | @cut made rest c thrown hcalls =>
    rw [Transcript.thrown?_granted_append, Transcript.accepted_append,
      Transcript.accepted_granted, Transcript.accepted_error, List.append_nil,
      Transcript.thrown?_error, outcome]
    rcases thrown.normalize_cases with ⟨told, htold, htext⟩ | ⟨hnone, htext⟩
    · simp only [htold, Except.map, Except.ok.injEq, forall_eq', Option.some.injEq, reduceCtorEq,
        exists_eq_left', htext, and_false, implies_true, and_true]
      exact reports_cut hcalls htold
    · simp only [hnone, Except.map, reduceCtorEq, false_implies, implies_true, Except.error.injEq,
        Option.some.injEq, exists_eq_left', htext, and_true, true_and]
      exact fun misuse => eq_comm

/-- What a replay reports. Whatever the backend answers, and whatever it throws at which call, the
    calls are made in their order up to the first one that throws, and the outcome is as the calls
    that were made and their answers say. There is an outcome unless what was thrown has no text:
    then the replay fails itself, and with it goes the number of the commits that it made. -/
theorem reports (call : Call → σ → Except Thrown Unit × σ) (commits : List Commit) (s : σ) :
    ∃ t : Transcript,
      replay (noting call) commits (s, []) =
        ((replay call commits s).1, ((replay call commits s).2, t)) ∧
      Makes commits t ∧
      (∀ report, (replay call commits s).1 = .ok report → Reports commits t report) ∧
      ∀ misuse, (replay call commits s).1 = .error misuse ↔
        misuse = .noText ∧ ∃ thrown, t.thrown? = some thrown ∧ thrown.text? = none := by
  obtain ⟨t, hanswers, hrun, hnoting⟩ := run_noting call 0 (Call.history commits) s []
  rw [Nat.zero_add] at hrun
  rw [List.nil_append] at hnoting
  refine ⟨t, ?_, makes_of_answers hanswers, ?_⟩
  · rw [replay_eq, hnoting]
    rfl
  · rw [replay_eq, hrun]
    exact outcome_of_answers hanswers

/-- The second commit of two throws a record that has no text. The first one was accepted, but no
    replay reports it. -/
theorem ne_ok_of_noText :
    let commit : Commit := ⟨0, none, ⟨"Ada", "ada@example.com"⟩, "Initial commit", []⟩
    let call (c : Call) (made : Nat) : Except Thrown Unit × Nat :=
      if c.isCommit then (if made = 0 then .ok () else .error .untold, made + 1) else (.ok (), made)
    let author : Call := .setIdentity commit.author
    let last : Call := .commit commit.message commit.timestamp
    let t : Transcript := Transcript.granted [.init, author, last, author] ++ [(last, .error .untold)]
    replay (noting call) [commit, commit] (0, []) = (.error .noText, 2, t) ∧
      t.accepted.countP Call.isCommit = 1 ∧ t.thrown? = some .untold ∧
      ∀ report, (replay call [commit, commit] 0).1 ≠ .ok report := by
  intro commit call author last t
  have hreplay : (replay call [commit, commit] 0).1 = .error .noText := rfl
  refine ⟨rfl, rfl, rfl, fun report => ?_⟩
  rw [hreplay]
  exact nofun

end Replay

/-! ### The history of a repository -/

namespace Repository

variable {σ : Type}

theorem perform_replayRun (host : Host σ) (path : String) (applied : Nat) (calls : List Call)
    (s : Shared σ) :
    (Replay.run (fun c => .ask (.call path c) .done) applied calls : Work _).perform host s =
      ((Replay.run (m := StateM σ) (host.call path) applied calls s.host).1,
        ⟨s.kept, (Replay.run (m := StateM σ) (host.call path) applied calls s.host).2⟩) := by
  induction calls generalizing applied s with
  | nil => rfl
  | cons c rest ih =>
    rw [Replay.run_cons]
    rcases hcall : host.call path c s.host with ⟨answer, state⟩
    have hanswer : host.answer (.call path c) s = (answer, ⟨s.kept, state⟩) := by
      simp [Host.answer, hcall]
    simp only [Replay.run, bind, Work.bind, Work.perform, hanswer]
    cases answer with
    | ok => exact ih (if c.isCommit then applied + 1 else applied) ⟨s.kept, state⟩
    | error thrown => rfl

/-- The history of a repository is replayed against the backend of its host. -/
theorem perform_replaying (host : Host σ) (path : String) (commits : List Commit) (s : Shared σ) :
    (replaying path commits).perform host s =
      ((Replay.replay (host.call path) commits s.host).1,
        ⟨s.kept, (Replay.replay (host.call path) commits s.host).2⟩) := by
  rw [Replay.replay_eq]
  refine (Work.perform_bind host _ _ s).trans ?_
  rw [perform_replayRun]
  rfl

end Repository

end CorpusForge
