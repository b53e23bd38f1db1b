import Mathlib.Tactic
import CorpusForge.Path
import CorpusForge.Proofs.Text

/-!
# Normal paths

A path is *plain* when none of its segments is empty or made of dots that lead elsewhere. Joining a
plain directory and a plain name only puts a slash between them, and can be undone. What joining
gives below the root stays as it is when it is joined again.

* `Path.join_pair`: a name in a directory;
* `Path.eq_of_join_pair_eq`: the directory and the name are told by the path;
* `Path.join_join`: joining again changes nothing.
-/

namespace CorpusForge

namespace Path

/-! ### Slashes -/

theorem withSlashes_eq_intercalate (segments : List (List Char)) :
    withSlashes segments = ['/'].intercalate segments := by
  induction segments with
  | nil => rfl
  | cons segment rest ih =>
    cases rest with
    | nil => simp [withSlashes, List.intercalate]
    | cons next more =>
      rw [withSlashes, ih]
      · simp [List.intercalate]
      · exact List.cons_ne_nil _ _

theorem withSlashes_splitAt (cs : List Char) : withSlashes (Text.splitAt '/' cs) = cs := by
  rw [withSlashes_eq_intercalate, Text.splitAt_eq_splitOn]
  exact List.intercalate_splitOn '/'

theorem splitAt_withSlashes {segments : List (List Char)} (hsome : segments ≠ [])
    (h : ∀ segment ∈ segments, '/' ∉ segment) :
    Text.splitAt '/' (withSlashes segments) = segments := by
  rw [withSlashes_eq_intercalate, Text.splitAt_eq_splitOn]
  exact List.splitOn_intercalate '/' h hsome

/-! ### Plain segments -/

/-- A segment that is a name: it is not empty, and not one or two dots. -/
def IsName (segment : List Char) : Prop :=
  segment ≠ [] ∧ segment ≠ ['.'] ∧ segment ≠ ['.', '.']

instance : DecidablePred IsName := fun segment =>
  inferInstanceAs (Decidable (segment ≠ [] ∧ segment ≠ ['.'] ∧ segment ≠ ['.', '.']))

/-- What is put behind a name makes another name. -/
theorem IsName.append {segment : List Char} (h : IsName segment) (more : List Char) :
    IsName (segment ++ more) := by
  obtain ⟨hne, hdot, hdots⟩ := h
  refine ⟨fun hnil => hne (List.append_eq_nil_iff.1 hnil).1, fun heq => ?_, fun heq => ?_⟩
  · rcases List.append_eq_cons_iff.1 heq with ⟨hnil, -⟩ | ⟨rest, rfl, hrest⟩
    · exact hne hnil
    · exact hdot (by rw [(List.append_eq_nil_iff.1 hrest.symm).1])
  · rcases List.append_eq_cons_iff.1 heq with ⟨hnil, -⟩ | ⟨rest, rfl, hrest⟩
    · exact hne hnil
    · rcases List.append_eq_cons_iff.1 hrest.symm with ⟨rfl, -⟩ | ⟨last, rfl, hlast⟩
      · exact hdot rfl
      · exact hdots (by rw [(List.append_eq_nil_iff.1 hlast.symm).1])

/-- A path all of whose segments are names. -/
def IsPlain (path : String) : Prop := ∀ segment ∈ Text.splitAt '/' path.toList, IsName segment

instance : DecidablePred IsPlain := fun path =>
  inferInstanceAs (Decidable (∀ segment ∈ Text.splitAt '/' path.toList, IsName segment))

theorem isPlain_of_isName {path : String} (h : IsName path.toList) (hslash : '/' ∉ path.toList) :
    IsPlain path := by
  rw [IsPlain, Text.splitAt_of_notMem hslash]
  exact List.forall_mem_singleton.2 h

/-- Names are settled as they are. -/
theorem settle_append {rooted : Bool} (settled : List (List Char))
    {segments : List (List Char)} (h : ∀ segment ∈ segments, IsName segment)
    (rest : List (List Char)) :
    settle rooted settled (segments ++ rest) =
      settle rooted (segments.reverse ++ settled) rest := by
  induction segments generalizing settled with
  | nil => rfl
  | cons segment more ih =>
    obtain ⟨⟨hne, hdot, hdots⟩, hmore⟩ := List.forall_mem_cons.1 h
    rw [List.cons_append]
    conv_lhs => unfold settle
    rw [if_neg (not_or.2 ⟨hne, hdot⟩), if_neg hdots, ih _ hmore, List.reverse_cons,
      List.append_assoc]
    rfl

/-- An empty segment is nothing. -/
theorem settle_cons_nil {rooted : Bool} (settled rest : List (List Char)) :
    settle rooted settled ([] :: rest) = settle rooted settled rest := by
  conv_lhs => unfold settle
  rw [if_pos (.inl rfl)]

theorem settle_of_isName {rooted : Bool} {segments : List (List Char)}
    (h : ∀ segment ∈ segments, IsName segment) :
    settle rooted [] segments = segments.reverse := by
  have happend := @settle_append rooted [] segments h []
  rwa [List.append_nil, List.append_nil] at happend

/-- Below the root, what is settled are names, cut out of what was to be settled. -/
theorem isName_of_mem_settle {settled segments : List (List Char)}
    (hsettled : ∀ segment ∈ settled, IsName segment ∧ '/' ∉ segment)
    (hsegments : ∀ segment ∈ segments, '/' ∉ segment) :
    ∀ segment ∈ settle true settled segments, IsName segment ∧ '/' ∉ segment := by
  induction segments generalizing settled with
  | nil => exact hsettled
  | cons segment rest ih =>
    obtain ⟨hslash, hrest⟩ := List.forall_mem_cons.1 hsegments
    unfold settle
    split
    next => exact ih hsettled hrest
    next hplain =>
      obtain ⟨hne, hdot⟩ := not_or.1 hplain
      split
      next hdots =>
        -- two dots take a name away, or nothing at the root
        cases settled with
        | nil => exact ih (fun _ hmem => absurd hmem List.not_mem_nil) hrest
        | cons last before =>
          obtain ⟨hlast, hbefore⟩ := List.forall_mem_cons.1 hsettled
          simp only
          rw [if_neg hlast.1.2.2]
          exact ih hbefore hrest
      next hdots =>
        exact ih (List.forall_mem_cons.2 ⟨⟨⟨hne, hdot, hdots⟩, hslash⟩, hsettled⟩) hrest

/-- A slash ends a text exactly when its last piece is empty. -/
theorem getLast?_ne_slash_of_isPlain {path : String} (h : IsPlain path) :
    path.toList.getLast? ≠ some '/' := by
  intro hlast
  obtain ⟨before, hbefore⟩ := List.getLast?_eq_some_iff.1 hlast
  rw [IsPlain, hbefore, Text.splitAt_append_cons] at h
  exact (h [] (List.mem_append_right _ (List.mem_singleton.2 rfl))).1 rfl

theorem head?_ne_slash_of_isPlain {path : String} (h : IsPlain path) :
    path.toList.head? ≠ some '/' := by
  intro hhead
  obtain ⟨rest, hrest⟩ := List.head?_eq_some_iff.1 hhead
  rw [IsPlain, hrest] at h
  exact (h [] List.mem_cons_self).1 rfl

/-- A plain path is normal. -/
theorem normalize_of_isPlain {path : String} (h : IsPlain path) : normalize path = path := by
  have hrooted : (path.toList.head? == some '/') = false := by
    simpa using head?_ne_slash_of_isPlain h
  have hsome : path.toList ≠ [] := by
    intro hnil
    rw [IsPlain, hnil] at h
    exact (h [] (List.mem_singleton.2 rfl)).1 rfl
  have hbody : ¬(path.toList = [] ∧ (!false) = true) := fun hnil => hsome hnil.1
  have hlast : ¬(path.toList ≠ [] ∧ (path.toList.getLast? == some '/') = true) := fun hlast =>
    getLast?_ne_slash_of_isPlain h (by simpa using hlast.2)
  simp only [normalize, hrooted, settle_of_isName h, List.reverse_reverse,
    withSlashes_splitAt]
  rw [if_neg hbody, if_neg hlast]
  exact String.ofList_toList

/-! ### Names in directories -/

variable {dir dir' name name' : String}

theorem isPlain_append (hdir : IsPlain dir) (hname : IsPlain name) :
    IsPlain (dir ++ "/" ++ name) := by
  have hcs : (dir ++ "/" ++ name).toList = dir.toList ++ '/' :: name.toList := by simp
  rw [IsPlain, hcs, Text.splitAt_append_cons]
  exact List.forall_mem_append.2 ⟨hdir, hname⟩

theorem IsPlain.ne_empty (h : IsPlain name) : name ≠ "" := by
  rintro rfl
  exact (h [] (List.mem_singleton.2 rfl)).1 rfl

/-- A name in a directory. -/
theorem join_pair (hdir : IsPlain dir) (hname : IsPlain name) :
    join [dir, name] = dir ++ "/" ++ name := by
  have hparts : [dir, name].filter (· ≠ "") = [dir, name] := by
    simp [hdir.ne_empty, hname.ne_empty]
  rw [join, hparts]
  exact normalize_of_isPlain (isPlain_append hdir hname)

/-- A path tells the segments of its directory and its name. -/
theorem splitAt_join_pair (hdir : IsPlain dir) (hname : IsPlain name)
    (hslash : '/' ∉ name.toList) :
    Text.splitAt '/' (join [dir, name]).toList =
      Text.splitAt '/' dir.toList ++ [name.toList] := by
  have hcs : (dir ++ "/" ++ name).toList = dir.toList ++ '/' :: name.toList := by simp
  rw [join_pair hdir hname, hcs, Text.splitAt_append_cons, Text.splitAt_of_notMem hslash]

/-- The segments of the directory that holds a file. -/
def holder (path : String) : List (List Char) := (Text.splitAt '/' path.toList).dropLast

theorem holder_join_pair (hdir : IsPlain dir) (hname : IsPlain name)
    (hslash : '/' ∉ name.toList) :
    holder (join [dir, name]) = Text.splitAt '/' dir.toList := by
  rw [holder, splitAt_join_pair hdir hname hslash, List.dropLast_concat]

/-- A path tells its directory and its name. -/
theorem eq_of_join_pair_eq (hdir : IsPlain dir) (hname : IsPlain name)
    (hslash : '/' ∉ name.toList) (hdir' : IsPlain dir') (hname' : IsPlain name')
    (hslash' : '/' ∉ name'.toList) (h : join [dir, name] = join [dir', name']) :
    dir = dir' ∧ name = name' := by
  have hsplit := congrArg (fun path => Text.splitAt '/' (String.toList path)) h
  simp only [splitAt_join_pair hdir hname hslash, splitAt_join_pair hdir' hname' hslash'] at hsplit
  obtain ⟨hdirs, hnames⟩ := List.append_inj' hsplit rfl
  exact ⟨String.toList_injective (Text.splitAt_injective '/' hdirs),
    String.toList_injective (List.cons.inj hnames).1⟩

/-! ### Joining again -/

/-- The path begins at the root. -/
def IsRooted (path : String) : Prop := path.toList.head? = some '/'

theorem isRooted_resolve (cwd path : String) : IsRooted (resolve cwd path) := by
  rw [IsRooted, resolve, String.toList_ofList, List.head?_cons]

theorem normalize_of_isRooted {path : String} (h : IsRooted path) {body : List Char}
    (hbody : withSlashes (settle true [] (Text.splitAt '/' path.toList)).reverse = body) :
    normalize path = String.ofList ('/' ::
      if body ≠ [] ∧ path.toList.getLast? = some '/' then body ++ ['/'] else body) := by
  have hrooted : (path.toList.head? == some '/') = true := by rw [h]; rfl
  simp only [normalize, hrooted, hbody, Bool.not_true, Bool.false_eq_true, and_false, if_false,
    if_true, beq_iff_eq]

/-- The normal form of a path at the root: a slash, names with slashes between them, and perhaps a
    slash at the end. -/
theorem exists_normalize_eq {path : String} (h : IsRooted path) :
    ∃ segments : List (List Char), (∀ segment ∈ segments, IsName segment ∧ '/' ∉ segment) ∧
      ((normalize path).toList = '/' :: withSlashes segments ∨
        (segments ≠ [] ∧ (normalize path).toList = '/' :: (withSlashes segments ++ ['/']))) := by
  refine ⟨(settle true [] (Text.splitAt '/' path.toList)).reverse, fun segment hmem => ?_, ?_⟩
  · exact isName_of_mem_settle (fun _ hnil => absurd hnil List.not_mem_nil)
      (Text.notMem_of_mem_splitAt _) segment (List.mem_reverse.1 hmem)
  · rw [normalize_of_isRooted h rfl, String.toList_ofList]
    split
    next hlast =>
      refine .inr ⟨fun hnil => hlast.1 ?_, rfl⟩
      rw [hnil]
      rfl
    next => exact .inl rfl

/-- Names with slashes between them do not end with a slash. -/
theorem getLast?_withSlashes {segments : List (List Char)} (hsome : segments ≠ [])
    (h : ∀ segment ∈ segments, IsName segment ∧ '/' ∉ segment) :
    withSlashes segments ≠ [] ∧ (withSlashes segments).getLast? ≠ some '/' := by
  have hsplit := splitAt_withSlashes hsome fun segment hmem => (h segment hmem).2
  have hplain : IsPlain (String.ofList (withSlashes segments)) := by
    rw [IsPlain, String.toList_ofList, hsplit]
    exact fun segment hmem => (h segment hmem).1
  have hlast := getLast?_ne_slash_of_isPlain hplain
  rw [String.toList_ofList] at hlast
  refine ⟨fun hnil => hplain.ne_empty ?_, hlast⟩
  rw [hnil]

/-- What is normal at the root stays as it is. -/
theorem normalize_normalize {path : String} (h : IsRooted path) :
    normalize (normalize path) = normalize path := by
  obtain ⟨segments, hnames, hform⟩ := exists_normalize_eq h
  generalize normalize path = normal at hform ⊢
  by_cases hnil : segments = []
  · rcases hform with hform | ⟨hsome, -⟩
    · obtain rfl : normal = "/" := String.toList_injective (by rw [hform, hnil]; rfl)
      rfl
    · exact absurd hnil hsome
  have hname : ∀ segment ∈ segments, IsName segment := fun segment hmem => (hnames segment hmem).1
  have hsplit := splitAt_withSlashes hnil fun segment hmem => (hnames segment hmem).2
  obtain ⟨hbody, hlast⟩ := getLast?_withSlashes hnil hnames
  -- in both forms the segments are the same, and the slash at the end is kept or there is none
  rcases hform with hform | ⟨-, hform⟩
  · have hcut : Text.splitAt '/' normal.toList = [] :: segments := by
      rw [hform, Text.splitAt, if_pos rfl, hsplit]
    have hend : normal.toList.getLast? ≠ some '/' := by
      rw [hform, List.getLast?_cons_of_ne_nil hbody]
      exact hlast
    have hrooted : IsRooted normal := by rw [IsRooted, hform, List.head?_cons]
    have hagain : withSlashes (settle true [] (Text.splitAt '/' normal.toList)).reverse =
        withSlashes segments := by
      rw [hcut, settle_cons_nil, settle_of_isName hname, List.reverse_reverse]
    rw [normalize_of_isRooted hrooted hagain, if_neg fun h => hend h.2, ← hform,
      String.ofList_toList]
  · have hcut : Text.splitAt '/' normal.toList = [] :: (segments ++ [[]]) := by
      rw [hform, Text.splitAt, if_pos rfl, Text.splitAt_append_cons, hsplit]
      rfl
    have hend : normal.toList.getLast? = some '/' := by
      rw [hform, ← List.cons_append, List.getLast?_append]
      rfl
    have hrooted : IsRooted normal := by rw [IsRooted, hform, List.head?_cons]
    have hagain : withSlashes (settle true [] (Text.splitAt '/' normal.toList)).reverse =
        withSlashes segments := by
      rw [hcut, settle_cons_nil, settle_append [] hname, List.append_nil, settle_cons_nil, settle,
        List.reverse_reverse]
    rw [normalize_of_isRooted hrooted hagain, if_pos ⟨hbody, hend⟩, ← hform,
      String.ofList_toList]

/-- Joining what was joined below the root changes nothing. -/
theorem join_join {dir name : String} (h : IsRooted dir) :
    join [join [dir, name], ""] = join [dir, name] := by
  have hone : ∀ path, path ≠ "" → join [path, ""] = normalize path := fun path hpath => by
    simp [join, hpath, Text.join]
  have hdir : dir ≠ "" := by
    rintro rfl
    exact absurd h (by simp [IsRooted])
  obtain ⟨full, hfull, hjoin⟩ : ∃ full, IsRooted full ∧ join [dir, name] = normalize full := by
    by_cases hname : name = ""
    · exact ⟨dir, h, by rw [hname, hone dir hdir]⟩
    · refine ⟨dir ++ "/" ++ name, ?_, by simp [join, hdir, hname, Text.join]⟩
      rw [IsRooted, String.toList_append, String.toList_append, List.append_assoc,
        List.head?_append, h]
      rfl
  rw [hjoin, hone, normalize_normalize hfull]
  obtain ⟨segments, -, hform⟩ := exists_normalize_eq hfull
  rintro hempty
  rw [hempty] at hform
  rcases hform with hform | ⟨-, hform⟩ <;> exact absurd hform (by simp)

end Path

end CorpusForge
