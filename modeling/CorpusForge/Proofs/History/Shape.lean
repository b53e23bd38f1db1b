import Mathlib.Algebra.Order.Floor.Div
import CorpusForge.Proofs.History.Schedule
import CorpusForge.Proofs.Random.Choices

/-!
# The shape of a schedule

How many commits a history has and how many files are in each of them is fixed before anything is
drawn: the files after the first commit fill batches of one size, whose number is bounded by the
budget of commits, and the last batch takes what is left.

* `Schedule.batchFor`, `Schedule.followers`: the size of the batches, and their number;
* `Schedule.map_length_batches`: the sizes of all batches, with the last one;
* `Schedule.upTo_batchSize`, `Schedule.batchCount_reserve`: the budget is counted in binary64, and
  nothing of it is lost in rounding;
* `Schedule.yields_plan`, `Schedule.takes_plan`: one commit for each part of the files, and three
  words for each but the first;
* `Schedule.exists_commits_shaped`: all of it.
-/

namespace CorpusForge

namespace Number

/-! ### Budgets -/

variable {number : Number} {t : Int}

/-- What is left of a whole number, however it is rounded. -/
theorem Denotes.exists_sub_eq (hnumber : number.Denotes t) (hgrid : number.IsBinary64) (low : Int)
    (hlow : 0 ≤ low) (hexact : low ≤ 2 ^ 53) {k : Nat} (hpos : 0 < k) (h : low + k ≤ t) :
    ∃ r : Rat, (low : Rat) ≤ r ∧ number - real k = real r := by
  have hpositive : (0 : Rat) < t := by
    have : 0 < t := by omega
    exact_mod_cast this
  obtain rfl := hnumber.eq_real hpositive.ne'
  obtain ⟨hround, hsmall⟩ := hgrid
  rw [abs_eq, abs_of_pos hpositive] at hsmall
  have hnonneg : (0 : Rat) ≤ low := by exact_mod_cast hlow
  have hleast : (low : Rat) ≤ t - k := by
    have : (low : Rat) + k ≤ t := by exact_mod_cast h
    linarith
  have hmost : (t - k : Rat) ≤ t := sub_le_self _ (Nat.cast_nonneg k)
  obtain ⟨r, hr, -, heq⟩ :=
    exists_ofRat_eq (round53_intCast (by omega)) hnonneg hround hsmall hleast hmost
  exact ⟨r, hr, by rw [real_sub_real _ (by exact_mod_cast hpos.ne'), heq]⟩

/-- An exact whole number less a lesser one. -/
theorem Denotes.sub_natCast (hnumber : number.Denotes t) (ht : t ≤ 2 ^ 53) {k : Nat} (hpos : 0 < k)
    (hk : k ≤ t) : number - real k = real ((t - k).toNat : Nat) := by
  have hzero : (t : Rat) ≠ 0 := by
    have : t ≠ 0 := by omega
    exact_mod_cast this
  obtain rfl := hnumber.eq_real hzero
  obtain ⟨n, rfl⟩ := Int.eq_ofNat_of_zero_le ((Int.natCast_nonneg k).trans hk)
  have hsub : ((n : Int) - k).toNat = n - k := by omega
  rw [hsub]
  exact Number.sub_natCast (by omega) (by omega)

/-- The whole part of what is below two is one at most. -/
theorem maximum_one_floor_ofRat {q : Rat} (hnonneg : 0 ≤ q) (hq : q ≤ 3 / 2) :
    maximum 1 (ofRat q).floor = 1 := by
  have hhalf : round53 (3 / 2) = 3 / 2 := by
    have hround := round53_mul_pow2 (n := 3) (e := -1) (by norm_num) (by norm_num)
    rwa [pow2, zpow_neg_one, ← div_eq_mul_inv] at hround
  obtain ⟨r, hr, hr', heq⟩ :=
    exists_ofRat_eq (if_pos rfl) le_rfl hhalf (lt_overflow (by norm_num)) hnonneg hq
  have hlow : 0 ≤ r.floor := Rat.le_floor_iff.2 (by exact_mod_cast hr)
  have hhigh : r.floor < 2 := Rat.floor_lt_iff.2 (by norm_num; linarith)
  obtain ⟨n, hn⟩ := Int.eq_ofNat_of_zero_le hlow
  rw [heq, floor, hn, Int.cast_natCast, maximum_one_natCast_max, Nat.max_eq_left (by omega)]
  rfl

/-- A count is less than two times a number that is nearly as large as counts are. -/
theorem maximum_one_floor_div {n : Nat} (hn : 0 < n) (hn' : n < 2 ^ 53) {r : Rat}
    (hr : 2 ^ 53 - 9 ≤ r) : maximum 1 (real n / real r).floor = 1 := by
  have hpos : (0 : Rat) < r := lt_of_lt_of_le (by norm_num) hr
  have hdiv : real n / real r = ofRat (n / r) := div_real (by exact_mod_cast hn.ne') hpos.ne'
  have hmost : (n : Rat) ≤ 2 ^ 53 := by exact_mod_cast hn'.le
  rw [hdiv]
  refine maximum_one_floor_ofRat (by positivity) ?_
  rw [div_le_iff₀ hpos]
  linarith

/-- What is at most a number is at most the steps to it. -/
theorem le_steps {r : Rat} {k : Nat} (h : (k : Rat) ≤ r) : k ≤ (real r).steps := by
  have hceil : (k : Int) ≤ r.ceil := by
    have hle := h.trans Rat.le_ceil
    exact_mod_cast hle
  have hnonneg : (0 : Rat) ≤ k := Nat.cast_nonneg k
  rw [steps_real (hnonneg.trans h)]
  omega

end Number

namespace Schedule

/-! ### Batches -/

/-- How many batches of a size there are, when so many may be followed by another one. -/
def batchCount (size budget count : Nat) : Nat := min (budget + 1) (count ⌈/⌉ size)

theorem ceilDiv_pos {size count : Nat} (hsize : 0 < size) (hcount : 0 < count) :
    0 < count ⌈/⌉ size := by
  rw [Nat.ceilDiv_eq_add_pred_div]
  exact Nat.div_pos (by omega) hsize

/-- The batches before the last one leave a file. -/
theorem pred_mul_lt {size count m : Nat} (hsize : 0 < size) (hm : 0 < m)
    (h : m ≤ count ⌈/⌉ size) : (m - 1) * size < count := by
  by_contra hle
  have hceil : count ⌈/⌉ size ≤ m - 1 :=
    (ceilDiv_le_iff_le_mul hsize).2 (by rw [Nat.mul_comm]; exact not_lt.1 hle)
  omega

theorem ceilDiv_eq_succ {size count : Nat} (hsize : 0 < size) (h : size ≤ count) :
    count ⌈/⌉ size = (count - size) ⌈/⌉ size + 1 := by
  rw [Nat.ceilDiv_eq_add_pred_div, Nat.ceilDiv_eq_add_pred_div, ← Nat.add_div_right _ hsize]
  congr 1
  omega

theorem batchCount_succ {size budget count : Nat} (hsize : 0 < size) (h : size ≤ count) :
    batchCount size (budget + 1) count = batchCount size budget (count - size) + 1 := by
  rw [batchCount, batchCount, ceilDiv_eq_succ hsize h]
  omega

/-- Every batch but the last one has the given size, and the last one has what is left. -/
theorem map_length_batches {size : Nat} (hsize : 0 < size) (budget : Nat) {files : List String}
    (hfiles : files ≠ []) :
    (batches size budget files).map List.length =
      List.replicate (batchCount size budget files.length - 1) size ++
        [files.length - (batchCount size budget files.length - 1) * size] := by
  fun_induction batches size budget files with
  | case1 => exact absurd rfl hfiles
  | case2 files _ =>
    have hpos := ceilDiv_pos hsize (List.length_pos_of_ne_nil hfiles)
    have hcount : batchCount size 0 files.length = 1 := by
      rw [batchCount]
      omega
    simp [hcount]
  | case3 budget files _ ih =>
    rw [List.map_cons, List.length_take]
    by_cases hrest : files.drop size = []
    · -- the files fit into one batch
      have hle : files.length ≤ size := List.drop_eq_nil_iff.1 hrest
      have hpos := ceilDiv_pos hsize (List.length_pos_of_ne_nil hfiles)
      have hone : files.length ⌈/⌉ size ≤ 1 := (ceilDiv_le_iff_le_mul hsize).2 (by omega)
      have hcount : batchCount size (budget + 1) files.length = 1 := by
        rw [batchCount]
        omega
      simp [hrest, batches, hcount, hle]
    · have hlt : size < files.length := not_le.1 fun h => hrest (List.drop_eq_nil_iff.2 h)
      have hpos : 0 < batchCount size budget (files.length - size) := by
        have hceil := ceilDiv_pos hsize (Nat.sub_pos_of_lt hlt)
        rw [batchCount]
        omega
      rw [ih hrest, List.length_drop, batchCount_succ hsize hlt.le, Nat.min_eq_left hlt.le]
      obtain ⟨m, hm⟩ := Nat.exists_eq_add_of_lt hpos
      rw [hm]
      simp only [Nat.zero_add, Nat.add_sub_cancel, List.replicate_succ, List.cons_append,
        Nat.succ_mul, Nat.add_comm (m * size), Nat.sub_sub]

/-- There are as many batches as are needed, or as the budget allows. -/
theorem length_batches {size : Nat} (hsize : 0 < size) (budget : Nat) (files : List String) :
    (batches size budget files).length = batchCount size budget files.length := by
  by_cases hfiles : files = []
  · simp [hfiles, batches, batchCount]
  · have hlength := congrArg List.length (map_length_batches hsize budget hfiles)
    have hpos : 0 < batchCount size budget files.length := by
      have hceil := ceilDiv_pos hsize (List.length_pos_of_ne_nil hfiles)
      rw [batchCount]
      omega
    rw [List.length_map, List.length_append, List.length_replicate, List.length_singleton]
      at hlength
    omega

/-! ### Sizes -/

/-- The number of files in a batch, by the number of commits that are asked for. -/
def batchFor (target : Int) (count : Nat) : Nat :=
  if target ≤ 10 then 1 else max 1 (count / (target - 10).toNat)

/-- The number of commits after the first, by the number of commits that are asked for. -/
def followers (target : Int) (count : Nat) : Nat :=
  min (target - 1).toNat (count ⌈/⌉ batchFor target count)

variable {targetCommits : Number} {target : Int} {count : Nat}

theorem batchFor_pos (target : Int) (count : Nat) : 0 < batchFor target count := by
  rw [batchFor]
  split <;> omega

/-- The size of the batches is a whole quotient. -/
theorem upTo_batchSize (htarget : targetCommits.Denotes target)
    (hgrid : targetCommits.IsBinary64) (hpos : 0 < count) (hcount : count < 2 ^ 53) :
    (batchSize (.ofNat count) targetCommits).upTo count = batchFor target count := by
  have hheadroom : headroom.Denotes ((10 : Int) : Rat) := ⟨rfl, rfl⟩
  have hle := htarget.le_iff hheadroom
  rw [Int.cast_le] at hle
  rw [batchSize, batchFor]
  by_cases hten : target ≤ 10
  · rw [if_pos (hle.2 hten), if_pos hten, Number.one_upTo hpos]
  rw [if_neg (mt hle.1 hten), if_neg hten, Number.ofNat_eq hcount.le]
  by_cases hexact : target ≤ 2 ^ 53
  · -- the divisor is exact, and so is the whole part of the quotient
    obtain ⟨d, hd⟩ : ∃ d, d = (target - 10).toNat := ⟨_, rfl⟩
    have hsub : targetCommits - headroom = .real d := by
      rw [hd]
      exact htarget.sub_natCast hexact (k := 10) (by norm_num) (by omega)
    rw [hsub, ← hd, Number.floor_div_natCast hpos hcount (by omega) (by omega),
      Number.maximum_one_natCast_max, Number.upTo_natCast, Nat.min_eq_left]
    exact max_le hpos (Nat.div_le_self count d)
  · -- the divisor is rounded, but so large that the quotient is below two
    obtain ⟨r, hr, hsub⟩ := htarget.exists_sub_eq hgrid (2 ^ 53 - 9)
      (by norm_num) (by norm_num) (k := 10) (by norm_num) (by omega)
    have hsub : targetCommits - headroom = .real r := hsub
    have hone : count / (target - 10).toNat ≤ 1 := by
      rw [← Nat.lt_succ_iff, Nat.div_lt_iff_lt_mul (by omega)]
      omega
    rw [hsub, Number.maximum_one_floor_div hpos hcount (by exact_mod_cast hr),
      Number.one_upTo hpos, Nat.max_eq_left hone]

/-- The batches that may be followed by another one are all but the last of the budget. -/
theorem batchCount_reserve (htarget : targetCommits.Denotes target)
    (hgrid : targetCommits.IsBinary64) (htwo : 2 ≤ target) (hcount : count < 2 ^ 53) {size : Nat}
    (hsize : 0 < size) :
    batchCount size (reserve targetCommits count) count =
      min (target - 1).toNat (count ⌈/⌉ size) := by
  have hinteger : targetCommits.isInteger = true := Number.isInteger_iff.2 ⟨target, htarget⟩
  rw [batchCount, reserve, if_pos hinteger]
  by_cases hexact : target ≤ 2 ^ 53
  · have hsub : targetCommits - 2 = .real (target - 2).toNat :=
      htarget.sub_natCast hexact (k := 2) (by norm_num) htwo
    rw [hsub, Number.steps_natCast]
    omega
  · -- the budget is rounded, but there are not so many files
    obtain ⟨r, hr, hsub⟩ := htarget.exists_sub_eq hgrid (2 ^ 53 - 1)
      (by norm_num) (by norm_num) (k := 2) (by norm_num) (by omega)
    have hsub : targetCommits - 2 = .real r := hsub
    have hsteps : count ≤ (Number.real r).steps := by
      refine Number.le_steps (le_trans ?_ hr)
      have : (count : Int) ≤ 2 ^ 53 - 1 := by omega
      exact_mod_cast this
    have hceil : count ⌈/⌉ size ≤ count :=
      (ceilDiv_le_iff_le_mul hsize).2 (Nat.le_mul_of_pos_left count hsize)
    rw [hsub]
    omega

/-! ### Commits -/

/-- The files of the commits, commit by commit. -/
def parts (input : Input) : List (List String) :=
  if input.targetCommits.le 1 then [input.bootstrapFiles ++ remaining input]
  else
    input.bootstrapFiles ::
      batches ((batchSize (.ofNat (remaining input).length) input.targetCommits).upTo
          (remaining input).length)
        (reserve input.targetCommits (remaining input).length) (remaining input)

theorem length_parts (input : Input) :
    (parts input).length = 1 + (parts input).tail.length := by
  rw [parts]
  split <;> exact Nat.add_comm _ _

/-- Commits that are counted on from an index, by the contributors. -/
structure Continues (input : Input) (index : Nat) (commits : List Commit) : Prop where
  indices : commits.map Commit.index = List.range' index commits.length
  authors : ∀ commit ∈ commits, commit.author ∈ input.contributors

theorem Continues.cons {input : Input} {index : Nat} {commit : Commit} {commits : List Commit}
    (h : Continues input (index + 1) commits) (hindex : commit.index = index)
    (hauthor : commit.author ∈ input.contributors) : Continues input index (commit :: commits) where
  indices := by rw [List.map_cons, h.indices, hindex]; rfl
  authors := List.forall_mem_cons.2 ⟨hauthor, h.authors⟩

theorem yields_commitsFrom_continues (input : Input) (index : Nat) (ms : Number)
    (batches : List (List String)) :
    (commitsFrom input index ms batches).Yields (Continues input index) := by
  induction batches generalizing index ms with
  | nil => exact Drawing.yields_pure ⟨rfl, fun _ hmem => absurd hmem List.not_mem_nil⟩
  | cons files rest ih =>
    refine Drawing.yields_bind_of_forall fun _ => Drawing.yields_pick.bind fun author hauthor =>
      Drawing.yields_bind_of_forall fun _ => (ih _ _).bind fun commits hcommits => ?_
    exact Drawing.yields_pure (hcommits.cons rfl hauthor)

/-- The type, the author and the gap of each commit are drawn. -/
theorem takes_commitsFrom {input : Input} (h : input.IsPlannable) (index : Nat) (ms : Number)
    (batches : List (List String)) :
    (commitsFrom input index ms batches).Takes (3 * batches.length) := by
  have hgap := Drawing.takes_int_of_le h.minGapHours h.maxGapHours h.ordered
  induction batches generalizing index ms with
  | nil => exact Drawing.takes_pure _
  | cons files rest ih =>
    have hwords : 3 * (files :: rest).length = 1 + (1 + (1 + (3 * rest.length + 0))) := by
      rw [List.length_cons]
      omega
    rw [hwords]
    exact (Drawing.takes_pick (List.cons_ne_nil _ _)).bind fun _ =>
      (Drawing.takes_pick h.contributors).bind fun _ => hgap.bind fun _ =>
        (ih _ _).bind fun _ => Drawing.takes_pure _

/-- A plan has one commit for each part, and its commits are by the contributors, the first one by
    the first of them. -/
theorem yields_plan (input : Input) :
    (plan input).Yields fun commits =>
      commits.map Commit.files = parts input ∧ Continues input 0 commits ∧
        commits.head?.map Commit.author = input.contributors.head? := by
  rw [plan]
  split
  next => exact Drawing.yields_refuse _
  next founder others hcontributors =>
    have hfounder : founder ∈ input.contributors := by
      rw [hcontributors]
      exact List.mem_cons_self
    have hhead : input.contributors.head? = some founder := by rw [hcontributors]; rfl
    have hnone : Continues input 1 [] := ⟨rfl, fun _ hmem => absurd hmem List.not_mem_nil⟩
    rw [hhead, parts]
    by_cases hone : input.targetCommits.le 1 = true
    · rw [if_pos hone, if_pos hone]
      exact Drawing.yields_pure ⟨rfl, hnone.cons rfl hfounder, rfl⟩
    · rw [if_neg hone, if_neg hone]
      intro g commits g' hrun
      obtain ⟨more, g₁, hmore, hrun⟩ := Drawing.exists_run_of_run_bind hrun
      cases hrun
      refine ⟨?_, (yields_commitsFrom_continues _ _ _ _ hmore).cons rfl hfounder, rfl⟩
      rw [List.map_cons, yields_commitsFrom _ _ _ _ hmore]

theorem takes_plan {input : Input} (h : input.IsPlannable) :
    (plan input).Takes (3 * (parts input).tail.length) := by
  rw [plan]
  split
  next hnone => exact absurd hnone h.contributors
  next =>
    rw [parts]
    by_cases hone : input.targetCommits.le 1 = true
    · rw [if_pos hone, if_pos hone]
      exact Drawing.takes_pure _
    · rw [if_neg hone, if_neg hone]
      exact (takes_commitsFrom h _ _ _).bind fun _ => Drawing.takes_pure _

/-! ### Counts -/

variable {input : Input}

theorem le_one_iff (htarget : targetCommits.Denotes target) :
    targetCommits.le 1 = true ↔ target ≤ 1 := by
  have hone : (1 : Number).Denotes ((1 : Int) : Rat) := ⟨rfl, rfl⟩
  rw [htarget.le_iff hone, Int.cast_le]

/-- In a budget of one commit that one takes everything. -/
theorem parts_of_le_one (htarget : input.targetCommits.Denotes target) (hone : target ≤ 1) :
    parts input = [input.bootstrapFiles ++ remaining input] := by
  rw [parts, if_pos ((le_one_iff htarget).2 hone)]

theorem tail_parts (htarget : input.targetCommits.Denotes target)
    (hgrid : input.targetCommits.IsBinary64) (hcount : (remaining input).length < 2 ^ 53)
    (htwo : 2 ≤ target) (hfiles : remaining input ≠ []) :
    (parts input).tail = batches (batchFor target (remaining input).length)
      (reserve input.targetCommits (remaining input).length) (remaining input) := by
  rw [parts, if_neg (mt (le_one_iff htarget).1 (by omega)), List.tail_cons,
    upTo_batchSize htarget hgrid (List.length_pos_of_ne_nil hfiles) hcount]

theorem followers_pos_iff :
    0 < followers target count ↔ 2 ≤ target ∧ 0 < count := by
  have hsize := batchFor_pos target count
  rw [followers]
  constructor
  · intro hpos
    refine ⟨by omega, Nat.pos_of_ne_zero ?_⟩
    rintro rfl
    rw [zero_ceilDiv] at hpos
    omega
  · rintro ⟨htwo, hcount⟩
    have hceil := ceilDiv_pos hsize hcount
    omega

theorem length_tail_parts (htarget : input.targetCommits.Denotes target)
    (hgrid : input.targetCommits.IsBinary64) (hcount : (remaining input).length < 2 ^ 53) :
    (parts input).tail.length = followers target (remaining input).length := by
  rcases le_or_gt target 1 with hone | htwo
  · have hnone : ¬0 < followers target (remaining input).length :=
      mt followers_pos_iff.1 (by omega)
    rw [parts_of_le_one htarget hone, List.tail_cons, List.length_nil]
    omega
  by_cases hfiles : remaining input = []
  · have hnone : ¬0 < followers target 0 := mt followers_pos_iff.1 (by omega)
    rw [parts, if_neg (mt (le_one_iff htarget).1 (by omega)), List.tail_cons, hfiles, batches,
      List.length_nil, List.length_nil]
    omega
  · have hsize := batchFor_pos target (remaining input).length
    rw [tail_parts htarget hgrid hcount htwo hfiles, length_batches hsize,
      batchCount_reserve htarget hgrid htwo hcount hsize, followers]

theorem map_length_tail_parts (htarget : input.targetCommits.Denotes target)
    (hgrid : input.targetCommits.IsBinary64) (hcount : (remaining input).length < 2 ^ 53)
    (hpos : 0 < followers target (remaining input).length) :
    (parts input).tail.map List.length =
      List.replicate (followers target (remaining input).length - 1)
          (batchFor target (remaining input).length) ++
        [(remaining input).length - (followers target (remaining input).length - 1) *
          batchFor target (remaining input).length] := by
  obtain ⟨htwo, hfiles⟩ := followers_pos_iff.1 hpos
  have hfiles := List.ne_nil_of_length_pos hfiles
  have hsize := batchFor_pos target (remaining input).length
  rw [tail_parts htarget hgrid hcount htwo hfiles, map_length_batches hsize _ hfiles,
    batchCount_reserve htarget hgrid htwo hcount hsize, followers]

/-- What a history looks like. In a budget of one commit that one takes all files. In a greater
    one there are `followers` commits after the first: as many as batches of `batchFor` files need,
    or as the budget allows, and then the last one takes what is left, one file at least. The
    commits are numbered from zero, are by the contributors, the first one by the first of them,
    and three words are drawn for each after the first. The number of files is one that binary64
    counts exactly: no list of files is nearly as long as `2 ^ 53`. -/
theorem exists_commits_shaped (h : input.IsPlannable)
    (htarget : input.targetCommits.Denotes target) (hgrid : input.targetCommits.IsBinary64)
    (hcount : (remaining input).length < 2 ^ 53) (g : Gen) :
    let count := (remaining input).length
    let size := batchFor target count
    let more := followers target count
    ∃ commits, (plan input).run g = (.ok commits, g.after (3 * more)) ∧
      commits.length = 1 + more ∧ 1 ≤ commits.length ∧ (commits.length : Int) ≤ max 1 target ∧
      (target ≤ 1 → commits.map Commit.files = [input.bootstrapFiles ++ remaining input]) ∧
      (0 < more →
        1 ≤ count - (more - 1) * size ∧
          commits.tail.map (fun commit => commit.files.length) =
            List.replicate (more - 1) size ++ [count - (more - 1) * size]) ∧
      commits.map Commit.index = List.range (1 + more) ∧
      (∀ commit ∈ commits, commit.author ∈ input.contributors) ∧
      commits.head?.map Commit.author = input.contributors.head? := by
  intro count size more
  obtain ⟨commits, hrun⟩ := takes_plan h g
  obtain ⟨hfiles, ⟨hindices, hauthors⟩, hfounder⟩ := yields_plan input hrun
  have hmore : (parts input).tail.length = more := length_tail_parts htarget hgrid hcount
  have hlength : commits.length = 1 + more := by
    rw [← hmore, ← length_parts, ← hfiles, List.length_map]
  have hmost : more ≤ (target - 1).toNat := min_le_left _ _
  rw [hmore] at hrun
  refine ⟨commits, hrun, hlength, by omega, by omega, fun hone => ?_, fun hpos => ⟨?_, ?_⟩, ?_,
    hauthors, hfounder⟩
  · rw [hfiles, parts_of_le_one htarget hone]
  · exact Nat.sub_pos_of_lt (pred_mul_lt (batchFor_pos target count) hpos (min_le_right _ _))
  · have hsizes := map_length_tail_parts htarget hgrid hcount hpos
    rw [← hfiles, ← List.map_tail, List.map_map] at hsizes
    exact hsizes
  · rw [hindices, hlength, List.range_eq_range']

/-- Seven files in a budget of twelve commits: three batches are enough. -/
theorem exists_commits_shaped_seven :
    let input : Input :=
      { files := ["README.md", "a", "b", "c", "d", "e", "f", "g"], bootstrapFiles := ["README.md"]
        targetCommits := .real 12, contributors := [⟨"founder", "founder@example.com"⟩]
        now := some 0
        timeline := ⟨.real 365, .real 1, .real 48⟩ }
    input.IsPlannable ∧ input.targetCommits.Denotes (12 : Int) ∧
      input.targetCommits.IsBinary64 ∧ (remaining input).length < 2 ^ 53 ∧
      ∃ commits, (plan input).run (.ofText "seed") = (.ok commits, (Gen.ofText "seed").after 9) ∧
        commits.length = 4 ∧
        commits.tail.map (fun commit => commit.files.length) = [3, 3, 1] ∧
        commits.map Commit.index = [0, 1, 2, 3] := by
  intro input
  have hinput : input.IsPlannable :=
    ⟨List.cons_ne_nil _ _, by decide, by decide, by decide, by decide⟩
  have htarget : input.targetCommits.Denotes (12 : Int) := ⟨rfl, rfl⟩
  have hgrid : input.targetCommits.IsBinary64 :=
    ⟨Number.round53_ofNat 12 (by norm_num), by
      rw [Number.abs_eq]
      exact Number.lt_overflow (by norm_num)⟩
  have hseven : (remaining input).length = 7 := by simp [remaining, input]
  have hcount : (remaining input).length < 2 ^ 53 := by
    rw [hseven]
    norm_num
  obtain ⟨commits, hrun, hlength, -, -, -, hsizes, hindices, -⟩ :=
    exists_commits_shaped hinput htarget hgrid hcount (.ofText "seed")
  have hsize : batchFor 12 7 = 3 := by decide
  have hmore : followers 12 7 = 3 := by decide
  rw [hseven, hmore] at hrun hlength hsizes hindices
  rw [hsize] at hsizes
  exact ⟨hinput, htarget, hgrid, hcount, commits, hrun, hlength, (hsizes (by decide)).2, hindices⟩

end Schedule

end CorpusForge
