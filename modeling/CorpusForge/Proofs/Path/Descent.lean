import CorpusForge.Proofs.Path

/-!
# Ways down

A *way* is a path that leads down by names only, with a slash between each two and perhaps one at
its end (`Path.IsWay`). Normal paths are ways, below the root or from where one is. Joining a way to
a directory, whether that is given from the root or not, leads to where its names lead from there,
and what a way leads to is held by where it leads without its last name.

A path that is put behind a name may lead up again. Either it stays below the name, or it leaves the
name, and then it leads to the same place behind every name (`Path.settle_cases`).

* `Path.segments_normalize`: a path and its normal form lead to the same place;
* `Path.segments_join`: where a way leads from a directory;
* `Path.segments_dirname_join`, `Path.isPlain_dirname`: what holds it;
* `Path.settle_cases`: paths that stay below and paths that do not;
* `Path.leadsDown_join`, `Path.join_eq_join_of_climbs`: so it is with what is put behind the names
  of a directory.
-/

namespace CorpusForge

namespace Path

variable {names settled : List (List Char)} {cs last : List Char} {rooted : Bool}
  {dir path : String}

/-- Settling goes on where it stopped. -/
theorem settle_settle (settled segments rest : List (List Char)) :
    settle rooted settled (segments ++ rest) =
      settle rooted (settle rooted settled segments) rest := by
  fun_induction settle rooted settled segments with
  | case1 => rfl
  | case2 | case3 | case4 | case5 | case6 =>
    rw [List.cons_append]
    conv_lhs => unfold settle
    simp_all

/-- What is settled from where one is leads to the same place from everywhere. -/
theorem settle_reverse_settle (root : List (List Char)) {settled segments : List (List Char)}
    (hsettled : ∀ segment ∈ settled, ¬(segment = [] ∨ segment = ['.'])) :
    settle true root (settle false settled segments).reverse =
      settle true (settle true root settled.reverse) segments := by
  have hone : ∀ (settled : List (List Char)) segment rest, settle true settled (segment :: rest) =
      settle true (settle true settled [segment]) rest := fun settled segment rest =>
    settle_settle settled [segment] rest
  have hpush : ∀ (settled : List (List Char)) segment,
      settle true root (segment :: settled).reverse =
        settle true (settle true root settled.reverse) [segment] := fun settled segment => by
    rw [List.reverse_cons, settle_settle]
  fun_induction settle false settled segments with
  | case1 => rfl
  | case2 settled segment rest hskip ih =>
    rw [ih hsettled, hone]
    simp [settle, hskip]
  | case3 rest hskip ih =>
    rw [if_neg Bool.false_ne_true] at ih ⊢
    rw [ih (List.forall_mem_singleton.2 hskip), hone _ _ rest, hpush]
  | case4 rest before hskip ih =>
    rw [ih (List.forall_mem_cons.2 ⟨hskip, hsettled⟩), hone _ _ rest, hpush]
  | case5 rest last before hlast hskip ih =>
    obtain ⟨hname, hbefore⟩ := List.forall_mem_cons.1 hsettled
    rw [ih hbefore, hone _ _ rest, hpush]
    -- the name is put there, and then it is taken away
    simp [settle, hname, hlast]
  | case6 settled segment rest hskip hdots ih =>
    rw [ih (List.forall_mem_cons.2 ⟨hskip, hsettled⟩), hone _ _ rest, hpush]

/-- What is settled was settled before, or was to be settled. -/
theorem mem_settle {segments : List (List Char)} :
    ∀ segment ∈ settle rooted settled segments, segment ∈ settled ∨
      (segment ∈ segments ∧ ¬(segment = [] ∨ segment = ['.'])) := by
  fun_induction settle rooted settled segments with
  | case1 => exact fun _ => .inl
  | case2 | case3 | case4 | case5 | case6 => grind

/-! ### Ways -/

/-- Names with slashes between them, and perhaps a slash at the end. -/
structure IsWay (names : List (List Char)) (cs : List Char) : Prop where
  isName : ∀ name ∈ names, IsName name ∧ '/' ∉ name
  text : cs = withSlashes names ∨ names ≠ [] ∧ cs = withSlashes names ++ ['/']

theorem IsWay.forall_isName (h : IsWay names cs) : ∀ name ∈ names, IsName name :=
  fun name hmem => (h.isName name hmem).1

/-- A way leads where its names lead. -/
theorem IsWay.settle_splitAt (h : IsWay names cs) (settled : List (List Char)) :
    settle rooted settled (Text.splitAt '/' cs) = names.reverse ++ settled := by
  by_cases hnil : names = []
  · subst hnil
    obtain rfl : cs = [] := by simpa [withSlashes] using h.text
    exact settle_cons_nil settled []
  have hsplit := splitAt_withSlashes hnil fun name hmem => (h.isName name hmem).2
  have hnames := @settle_append rooted settled _ h.forall_isName
  rcases h.text with rfl | ⟨-, rfl⟩
  · have happend := hnames []
    rw [List.append_nil] at happend
    rw [hsplit, happend, settle]
  · -- the slash at the end has an empty segment behind it
    have hempty : Text.splitAt '/' ([] : List Char) = [[]] := rfl
    rw [Text.splitAt_append_cons, hsplit, hempty, hnames [[]], settle_cons_nil, settle]

theorem IsWay.segments_root (h : IsWay names cs) (hpath : path.toList = '/' :: cs) :
    segments path = names.map String.ofList := by
  rw [Path.segments, hpath, Text.splitAt, if_pos rfl, settle_cons_nil, h.settle_splitAt,
    List.append_nil, List.reverse_reverse]

theorem isWay_of_isPlain (h : IsPlain path) : IsWay (Text.splitAt '/' path.toList) path.toList where
  isName name hmem := ⟨h name hmem, Text.notMem_of_mem_splitAt _ name hmem⟩
  text := .inl (withSlashes_splitAt _).symm

/-! ### Normal paths -/

/-- The normal form of a path at the root is a way from there. -/
theorem exists_isWay_normalize (h : IsRooted path) :
    ∃ cs, (normalize path).toList = '/' :: cs ∧
      IsWay (settle true [] (Text.splitAt '/' path.toList)).reverse cs := by
  have hnames : ∀ name ∈ (settle true [] (Text.splitAt '/' path.toList)).reverse,
      IsName name ∧ '/' ∉ name := fun name hmem =>
    isName_of_mem_settle (fun _ hnil => absurd hnil List.not_mem_nil)
      (Text.notMem_of_mem_splitAt _) name (List.mem_reverse.1 hmem)
  rw [normalize_of_isRooted h rfl, String.toList_ofList]
  split
  next hlast => exact ⟨_, rfl, hnames, .inr ⟨fun hnil => hlast.1 (by rw [hnil]; rfl), rfl⟩⟩
  next => exact ⟨_, rfl, hnames, .inl rfl⟩

/-- The normal form of a path from where one is: the segments that are settled there with slashes
    between them, and perhaps a slash at the end. -/
theorem toList_normalize (hroot : ¬IsRooted path) (hsome : names ≠ [])
    (h : settle false [] (Text.splitAt '/' path.toList) = names.reverse) :
    (∀ name ∈ names, name ≠ [] ∧ '/' ∉ name) ∧
      ((normalize path).toList = withSlashes names ∨
        (normalize path).toList = withSlashes names ++ ['/']) := by
  have hrooted : (path.toList.head? == some '/') = false := by simpa [IsRooted] using hroot
  have hnames : ∀ name ∈ names, name ≠ [] ∧ '/' ∉ name := fun name hmem => by
    rw [← List.mem_reverse, ← h] at hmem
    obtain ⟨hname, hskip⟩ := (mem_settle name hmem).resolve_left List.not_mem_nil
    exact ⟨(not_or.1 hskip).1, Text.notMem_of_mem_splitAt _ name hname⟩
  have hbody : withSlashes names ≠ [] := fun hempty => by
    have hsplit := splitAt_withSlashes hsome fun name hmem => (hnames name hmem).2
    rw [hempty] at hsplit
    exact (hnames [] (hsplit ▸ List.mem_cons_self)).1 rfl
  refine ⟨hnames, ?_⟩
  simp only [normalize, hrooted, h, List.reverse_reverse, hbody, false_and, if_false, ne_eq,
    not_false_eq_true, true_and, Bool.false_eq_true, String.toList_ofList]
  split
  next => exact .inr rfl
  next => exact .inl rfl

/-- The normal form of a path that leads down by names is a way. -/
theorem isWay_normalize (hroot : ¬IsRooted path) (hsome : names ≠ [])
    (hnames : ∀ name ∈ names, IsName name ∧ '/' ∉ name)
    (h : settle false [] (Text.splitAt '/' path.toList) = names.reverse) :
    IsWay names (normalize path).toList :=
  ⟨hnames, (toList_normalize hroot hsome h).2.imp id fun htext => ⟨hsome, htext⟩⟩

/-- The normal form of a path from where one is has the segments that are settled there. -/
theorem settle_splitAt_normalize (hroot : ¬IsRooted path) (settled : List (List Char)) :
    settle true settled (Text.splitAt '/' (normalize path).toList) =
      settle true settled (settle false [] (Text.splitAt '/' path.toList)).reverse := by
  generalize hnames : (settle false [] (Text.splitAt '/' path.toList)).reverse = names
  by_cases hnil : names = []
  · -- what leads nowhere is a dot, with a slash behind it or without
    subst hnil
    have hrooted : (path.toList.head? == some '/') = false := by simpa [IsRooted] using hroot
    simp only [normalize, hrooted, hnames, withSlashes, Bool.not_false, and_self, if_true, ne_eq,
      List.cons_ne_nil, not_false_eq_true, true_and, Bool.false_eq_true, if_false,
      String.toList_ofList]
    split <;> rfl
  · obtain ⟨hname, htext⟩ := toList_normalize hroot hnil (List.reverse_eq_iff.1 hnames)
    have hsplit := splitAt_withSlashes hnil fun name hmem => (hname name hmem).2
    rcases htext with htext | htext
    · rw [htext, hsplit]
    · have hempty : Text.splitAt '/' ([] : List Char) = [[]] := rfl
      rw [htext, Text.splitAt_append_cons, hsplit, hempty, settle_settle, settle_cons_nil, settle]

/-- A path and its normal form lead to the same place. -/
theorem segments_normalize (path : String) : segments (normalize path) = segments path := by
  by_cases hroot : IsRooted path
  · obtain ⟨cs, hcs, hway⟩ := exists_isWay_normalize hroot
    exact hway.segments_root hcs
  · have hagain := @settle_reverse_settle [] [] (Text.splitAt '/' path.toList)
      (List.forall_mem_nil _)
    rw [segments, segments, settle_splitAt_normalize hroot, hagain]
    rfl

/-! ### Directories -/

theorem join_eq_normalize (h : IsRooted dir) {name : String} (hname : name ≠ "") :
    join [dir, name] = normalize (dir ++ "/" ++ name) ∧ IsRooted (dir ++ "/" ++ name) := by
  have hdir : dir ≠ "" := by
    rintro rfl
    exact nomatch h
  refine ⟨by simp [join, hdir, hname, Text.join], ?_⟩
  rw [IsRooted, String.toList_append, String.toList_append, List.append_assoc, List.head?_append, h]
  rfl

theorem IsWay.ne_empty {name : String} (hway : IsWay names name.toList) (hsome : names ≠ []) :
    name ≠ "" := by
  rintro rfl
  have hbody := (getLast?_withSlashes hsome hway.isName).1
  rcases hway.text with htext | ⟨-, htext⟩
  · exact hbody htext.symm
  · exact absurd htext.symm (List.append_ne_nil_of_right_ne_nil _ (List.cons_ne_nil _ _))

theorem IsWay.not_isRooted (hway : IsWay names path.toList) (hsome : names ≠ []) :
    ¬IsRooted path := by
  intro hroot
  obtain ⟨rest, hrest⟩ := List.head?_eq_some_iff.1 hroot
  have hsplit := splitAt_withSlashes hsome fun name hmem => (hway.isName name hmem).2
  -- nothing stands before the first slash, but a name would
  have hfirst : (Text.splitAt '/' path.toList).head? = some [] := by
    rw [hrest, Text.splitAt, if_pos rfl, List.head?_cons]
  have hname : names.head? = some [] := by
    rcases hway.text with htext | ⟨-, htext⟩
    · rwa [htext, hsplit] at hfirst
    · rwa [htext, Text.splitAt_append_cons, hsplit, List.head?_append_of_ne_nil _ hsome] at hfirst
  exact (hway.forall_isName [] (List.mem_of_head? hname)).1 rfl

/-- A way from a directory is one from the root. -/
theorem exists_isWay_join (h : IsRooted dir) {name : String} (hway : IsWay names name.toList)
    (hsome : names ≠ []) :
    ∃ cs, (join [dir, name]).toList = '/' :: cs ∧
      IsWay ((settle true [] (Text.splitAt '/' dir.toList)).reverse ++ names) cs := by
  obtain ⟨hjoin, hrooted⟩ := join_eq_normalize h (hway.ne_empty hsome)
  have hcs : (dir ++ "/" ++ name).toList = dir.toList ++ '/' :: name.toList := by simp
  have hjoined := exists_isWay_normalize hrooted
  rwa [← hjoin, hcs, Text.splitAt_append_cons, settle_settle, hway.settle_splitAt,
    List.reverse_append, List.reverse_reverse] at hjoined

/-- A way leads down from a directory. -/
theorem segments_join (dir : String) {name : String} (hway : IsWay names name.toList)
    (hsome : names ≠ []) :
    segments (join [dir, name]) = segments dir ++ names.map String.ofList := by
  have hname := hway.ne_empty hsome
  by_cases hdir : dir = ""
  · subst hdir
    have hjoin : join ["", name] = normalize name := by simp [join, hname, Text.join]
    have hnothing : segments "" = [] := rfl
    rw [hjoin, segments_normalize, segments, hway.settle_splitAt, List.append_nil,
      List.reverse_reverse, hnothing, List.nil_append]
  · have hjoin : join [dir, name] = normalize (dir ++ "/" ++ name) := by
      simp [join, hdir, hname, Text.join]
    have hcs : (dir ++ "/" ++ name).toList = dir.toList ++ '/' :: name.toList := by simp
    rw [hjoin, segments_normalize, segments, hcs, Text.splitAt_append_cons, settle_settle,
      hway.settle_splitAt, List.reverse_append, List.reverse_reverse, List.map_append, segments]

theorem segments_join_empty (dir : String) : segments (join [dir, ""]) = segments dir := by
  by_cases hdir : dir = ""
  · subst hdir
    rfl
  · have hone : join [dir, ""] = normalize dir := by simp [join, hdir, Text.join]
    rw [hone, segments_normalize]

theorem cutLast_append {behind before : List Char} (h : '/' ∉ last) :
    cutLast behind (last.reverse ++ '/' :: before) = some (last ++ behind, before) := by
  induction last using List.reverseRecOn generalizing behind with
  | nil => rfl
  | append_singleton more c ih =>
    obtain ⟨hmore, hc⟩ : '/' ∉ more ∧ '/' ≠ c := by simpa using h
    rw [List.reverse_append, List.reverse_singleton, List.singleton_append, List.cons_append,
      cutLast, if_neg (Ne.symm hc), ih hmore, List.append_assoc, List.singleton_append]

theorem withSlashes_cons {segment : List Char} (hsome : names ≠ []) :
    withSlashes (segment :: names) = segment ++ '/' :: withSlashes names := by
  rw [withSlashes]
  exact hsome

theorem withSlashes_append_singleton (hsome : names ≠ []) :
    withSlashes (names ++ [last]) = withSlashes names ++ '/' :: last := by
  induction names with
  | nil => exact absurd rfl hsome
  | cons name rest ih =>
    cases rest with
    | nil => rfl
    | cons next more =>
      have hnext : next :: more ≠ [] := List.cons_ne_nil _ _
      rw [List.cons_append, withSlashes_cons (List.append_ne_nil_of_left_ne_nil hnext _), ih hnext,
        withSlashes_cons hnext, List.append_assoc, List.cons_append]

/-- Without the slashes at its end, a text ends with its last name. -/
theorem dropWhile_reverse {before : List Char} (hlast : IsName last ∧ '/' ∉ last)
    (h : cs = before ++ last ∨ cs = before ++ last ++ ['/']) :
    cs.reverse.dropWhile (· = '/') = last.reverse ++ before.reverse := by
  obtain ⟨⟨hsome, -, -⟩, hslash⟩ := hlast
  obtain ⟨first, rest, hreverse⟩ := List.exists_cons_of_ne_nil (List.reverse_ne_nil_iff.2 hsome)
  have hfirst : first ≠ '/' := by
    rintro rfl
    exact hslash (List.mem_reverse.1 (hreverse ▸ List.mem_cons_self))
  rcases h with rfl | rfl <;> simp [hreverse, hfirst]

theorem cutLast_eq_none {behind : List Char} (h : '/' ∉ cs) : cutLast behind cs = none := by
  induction cs generalizing behind with
  | nil => rfl
  | cons c rest ih =>
    obtain ⟨hc, hrest⟩ := List.ne_and_not_mem_of_not_mem_cons h
    rw [cutLast, if_neg (Ne.symm hc), ih hrest]

/-- A path is held by what stands before the slash in front of its last name. -/
theorem dirname_eq {before : List Char} (hsome : before ≠ []) (hroot : before ≠ ['/'])
    (hlast : IsName last ∧ '/' ∉ last)
    (h : path.toList = before ++ '/' :: last ∨ path.toList = before ++ '/' :: last ++ ['/']) :
    dirname path = String.ofList before := by
  have htrim : path.toList.reverse.dropWhile (· = '/') = last.reverse ++ '/' :: before.reverse := by
    rw [@dropWhile_reverse _ _ (before ++ ['/']) hlast (by simpa using h), List.reverse_append]
    rfl
  simp only [dirname, htrim, cutLast_append hlast.2]
  split
  next hnone => exact nomatch hnone
  next heq =>
    simp only [Option.some.injEq, Prod.mk.injEq, List.reverse_eq_nil_iff] at heq
    exact absurd heq.2 hsome
  next heq =>
    simp only [Option.some.injEq, Prod.mk.injEq, List.reverse_eq_iff] at heq
    exact absurd heq.2 hroot
  next heq =>
    simp only [Option.some.injEq, Prod.mk.injEq] at heq
    rw [← heq.2, List.reverse_reverse]

/-- A way at the root is held by where it leads without its last name. -/
theorem segments_dirname (hway : IsWay (names ++ [last]) cs) (hpath : path.toList = '/' :: cs) :
    segments (dirname path) = names.map String.ofList := by
  have hlast := hway.isName last (by simp)
  have hnames : ∀ name ∈ names, IsName name ∧ '/' ∉ name := fun name hmem =>
    hway.isName name (List.mem_append_left _ hmem)
  by_cases hnil : names = []
  · -- a single name is held by the root
    subst hnil
    have htrim : path.toList.reverse.dropWhile (· = '/') = last.reverse ++ ['/'] := by
      refine @dropWhile_reverse _ _ ['/'] hlast ?_
      rw [hpath]
      exact hway.text.imp (congrArg _) fun h => congrArg _ h.2
    have hroot : dirname path = "/" := by
      simp only [dirname, htrim, cutLast_append hlast.2, List.append_nil]
      simp [hpath]
    rw [hroot]
    rfl
  · have hdir : dirname path = String.ofList ('/' :: withSlashes names) := by
      have hbelow := (getLast?_withSlashes hnil hnames).1
      refine dirname_eq (List.cons_ne_nil _ _) (fun hroot => hbelow (List.cons.inj hroot).2) hlast ?_
      rw [hpath, List.cons_append, ← withSlashes_append_singleton hnil]
      exact hway.text.imp (congrArg _) fun h => congrArg _ h.2
    have hholder : IsWay names (withSlashes names) := ⟨hnames, .inl rfl⟩
    rw [hdir]
    exact hholder.segments_root (String.toList_ofList)

/-- A single name is held by where one is. -/
theorem dirname_eq_dot (hlast : IsName last ∧ '/' ∉ last)
    (h : path.toList = last ∨ path.toList = last ++ ['/']) : dirname path = "." := by
  have htrim : path.toList.reverse.dropWhile (· = '/') = last.reverse := by
    rw [@dropWhile_reverse _ _ [] hlast h]
    exact List.append_nil _
  have hhead : path.toList.head? ≠ some '/' := fun hhead => hlast.2 <| by
    obtain ⟨first, rest, hfirst⟩ := List.exists_cons_of_ne_nil hlast.1.1
    rcases h with h | h <;> simp_all
  have hcut : cutLast [] last.reverse = none := cutLast_eq_none (by simpa using hlast.2)
  simp [dirname, htrim, hcut, hhead]

/-- The normal form of a path from where one is, is held by where it leads without its last name. -/
theorem segments_dirname_normalize {before : List (List Char)} (hroot : ¬IsRooted path)
    (hlast : IsName last ∧ '/' ∉ last)
    (h : settle false [] (Text.splitAt '/' path.toList) = (before ++ [last]).reverse) :
    segments (dirname (normalize path)) = (settle true [] before).reverse.map String.ofList := by
  obtain ⟨hnames, htext⟩ := toList_normalize hroot (List.concat_ne_nil _ _) h
  by_cases hnil : before = []
  · subst hnil
    rw [dirname_eq_dot hlast htext]
    rfl
  · have hbefore : ∀ name ∈ before, name ≠ [] ∧ '/' ∉ name := fun name hmem =>
      hnames name (List.mem_append_left _ hmem)
    have hsplit := splitAt_withSlashes hnil fun name hmem => (hbefore name hmem).2
    -- otherwise the first of the names would be empty
    have hbody : withSlashes before ≠ [] ∧ withSlashes before ≠ ['/'] := by
      constructor <;>
      · intro hempty
        rw [hempty] at hsplit
        exact (hbefore [] (hsplit ▸ List.mem_cons_self)).1 rfl
    rw [withSlashes_append_singleton hnil] at htext
    rw [dirname_eq hbody.1 hbody.2 hlast htext, segments, String.toList_ofList, hsplit]

/-- A way is held by a plain path, or by where it starts. -/
theorem isPlain_dirname (hway : IsWay names path.toList) (hdot : dirname path ≠ ".") :
    IsPlain (dirname path) := by
  rcases List.eq_nil_or_concat names with rfl | ⟨names, last, rfl⟩
  · obtain rfl : path = "" := String.toList_injective (by simpa [withSlashes] using hway.text)
    exact absurd rfl hdot
  rw [List.concat_eq_append] at hway
  have hlast := hway.isName last (by simp)
  by_cases hnil : names = []
  · -- a single name is where one is
    subst hnil
    exact absurd (dirname_eq_dot hlast (hway.text.imp id And.right)) hdot
  · have hnames : ∀ name ∈ names, IsName name ∧ '/' ∉ name := fun name hmem =>
      hway.isName name (List.mem_append_left _ hmem)
    have hdir : dirname path = String.ofList (withSlashes names) := by
      obtain ⟨hbody, hend⟩ := getLast?_withSlashes hnil hnames
      refine dirname_eq hbody (fun hroot => hend (hroot ▸ rfl)) hlast ?_
      rw [← withSlashes_append_singleton hnil]
      exact hway.text.imp id And.right
    rw [hdir, IsPlain, String.toList_ofList, splitAt_withSlashes hnil fun name hmem =>
      (hnames name hmem).2]
    exact fun name hmem => (hnames name hmem).1

/-- What is below a directory is held by something at or below it. -/
theorem segments_dirname_join (dir : String) {name : String} (hway : IsWay names name.toList)
    (hsome : names ≠ []) :
    segments (dirname (join [dir, name])) = segments dir ++ names.dropLast.map String.ofList := by
  obtain ⟨before, last, rfl⟩ : ∃ before last, names = before ++ [last] :=
    ⟨_, _, (List.dropLast_concat_getLast hsome).symm⟩
  rw [List.dropLast_concat]
  by_cases hroot : IsRooted dir
  · obtain ⟨cs, hcs, hjoined⟩ := exists_isWay_join hroot hway hsome
    rw [← List.append_assoc] at hjoined
    rw [segments_dirname hjoined hcs, List.map_append, segments]
  -- from where one is, the way is put behind the directory, if one is given
  obtain ⟨full, hjoin, hfull, hsettle⟩ : ∃ full, join [dir, name] = normalize full ∧
      ¬IsRooted full ∧ settle false [] (Text.splitAt '/' full.toList) =
        (before ++ [last]).reverse ++ settle false [] (Text.splitAt '/' dir.toList) := by
    have hname := hway.ne_empty hsome
    by_cases hdir : dir = ""
    · subst hdir
      exact ⟨name, by simp [join, hname, Text.join], hway.not_isRooted hsome,
        hway.settle_splitAt []⟩
    · have hcs : (dir ++ "/" ++ name).toList = dir.toList ++ '/' :: name.toList := by simp
      have hdirs : dir.toList ≠ [] := fun hnil => hdir (String.toList_injective hnil)
      refine ⟨dir ++ "/" ++ name, by simp [join, hdir, hname, Text.join], fun hfull => hroot ?_, ?_⟩
      · rwa [IsRooted, hcs, List.head?_append_of_ne_nil _ hdirs] at hfull
      · rw [hcs, Text.splitAt_append_cons, settle_settle, hway.settle_splitAt]
  have hbefore : ∀ name ∈ before, IsName name := fun name hmem =>
    hway.forall_isName name (List.mem_append_left _ hmem)
  have hagain := @settle_reverse_settle [] [] (Text.splitAt '/' dir.toList)
    (List.forall_mem_nil _)
  have hdown := @settle_append true (settle true [] (Text.splitAt '/' dir.toList)) _ hbefore []
  rw [List.append_nil, settle] at hdown
  rw [hjoin, @segments_dirname_normalize _ _
    ((settle false [] (Text.splitAt '/' dir.toList)).reverse ++ before) hfull
    (hway.isName last (by simp)) (by simpa using hsettle), settle_settle, hagain]
  simp only [List.reverse_nil, settle, hdown, List.reverse_append, List.reverse_reverse,
    List.map_append, segments]

/-! ### Paths behind a name -/

/-- Segments either lead on from below the names that are settled already, or leave them, and then
    the names do not matter. -/
theorem settle_cases (segments : List (List Char)) (hsegments : ∀ segment ∈ segments, '/' ∉ segment)
    (hnames : ∀ name ∈ names, IsName name ∧ '/' ∉ name) :
    (∃ below : List (List Char), (∀ name ∈ below, IsName name ∧ '/' ∉ name) ∧
      ∀ rooted settled, settle rooted (names ++ settled) segments = below ++ settled) ∨
    ∃ rest, ∀ rooted settled, settle rooted (names ++ settled) segments =
      settle rooted settled (['.', '.'] :: rest) := by
  induction segments generalizing names with
  | nil => exact .inl ⟨names, hnames, fun _ _ => rfl⟩
  | cons segment rest ih =>
    obtain ⟨hslash, hrest⟩ := List.forall_mem_cons.1 hsegments
    by_cases hskip : segment = [] ∨ segment = ['.']
    · have hsame : ∀ rooted settled, settle rooted settled (segment :: rest) =
          settle rooted settled rest := fun rooted settled => by
        conv_lhs => unfold settle
        rw [if_pos hskip]
      simpa only [hsame] using ih hrest hnames
    by_cases hdots : segment = ['.', '.']
    · subst hdots
      cases names with
      | nil => exact .inr ⟨rest, fun _ _ => rfl⟩
      | cons name more =>
        obtain ⟨⟨⟨-, -, hname⟩, -⟩, hmore⟩ := List.forall_mem_cons.1 hnames
        have hpop : ∀ rooted settled, settle rooted (name :: more ++ settled)
            (['.', '.'] :: rest) = settle rooted (more ++ settled) rest := fun rooted settled => by
          conv_lhs => unfold settle
          simp [hname]
        simpa only [hpop] using ih hrest hmore
    · have hpush : ∀ rooted settled, settle rooted (names ++ settled) (segment :: rest) =
          settle rooted (segment :: names ++ settled) rest := fun rooted settled => by
        conv_lhs => unfold settle
        rw [if_neg hskip, if_neg hdots, List.cons_append]
      obtain ⟨hne, hdot⟩ := not_or.1 hskip
      simpa only [hpush] using
        ih hrest (List.forall_mem_cons.2 ⟨⟨⟨hne, hdot, hdots⟩, hslash⟩, hnames⟩)

/-! ### Names with something behind them -/

/-- The path is a way to somewhere else. -/
def LeadsDown (path : String) : Prop := ∃ names ≠ [], IsWay names path.toList

theorem leadsDown_of_isPlain (h : IsPlain path) : LeadsDown path :=
  ⟨_, Text.splitAt_ne_nil _ _, isWay_of_isPlain h⟩

/-- What stands behind a name takes the name away again. -/
def Climbs (ext : String) : Prop :=
  ∃ rest, ∀ rooted settled, settle rooted settled (Text.splitAt '/' ext.toList).tail =
    settle rooted settled (['.', '.'] :: rest)

variable {stem stem' ext : String}

/-- What does not take a name away stays below it. -/
theorem exists_below_of_not_climbs (h : ¬Climbs ext) :
    ∃ below : List (List Char), (∀ name ∈ below, IsName name ∧ '/' ∉ name) ∧
      ∀ rooted settled, settle rooted settled (Text.splitAt '/' ext.toList).tail =
        below ++ settled := by
  have hslash : ∀ segment ∈ (Text.splitAt '/' ext.toList).tail, '/' ∉ segment := fun _ hmem =>
    Text.notMem_of_mem_splitAt _ _ (List.mem_of_mem_tail hmem)
  exact (settle_cases _ hslash (List.forall_mem_nil _)).resolve_right h

theorem not_climbs_of_notMem (h : '/' ∉ ext.toList) : ¬Climbs ext := by
  rintro ⟨rest, hrest⟩
  have hnothing : ∀ settled, settled = settle true settled (['.', '.'] :: rest) := fun settled => by
    rw [← hrest, Text.splitAt_of_notMem h]
    rfl
  -- at the root, the same would be left of a name as of nothing
  have hname : settle true [['a']] (['.', '.'] :: rest) = settle true [] (['.', '.'] :: rest) := by
    conv_lhs => unfold settle
    conv_rhs => unfold settle
    simp
  rw [← hnothing, ← hnothing] at hname
  cases hname

theorem normalize_congr {path path' : String} (hhead : path.toList.head? = path'.toList.head?)
    (hlast : path.toList.getLast? = path'.toList.getLast?)
    (hsettle : ∀ rooted, settle rooted [] (Text.splitAt '/' path.toList) =
      settle rooted [] (Text.splitAt '/' path'.toList)) : normalize path = normalize path' := by
  simp only [normalize, hhead, hlast, hsettle]

/-- Where a name with something behind it leads from a plain directory. -/
theorem exists_settle_join (ext : String) (hdir : IsPlain dir) (hstem : IsName stem.toList)
    (hslash : '/' ∉ stem.toList) :
    join [dir, stem ++ ext] = normalize (dir ++ "/" ++ (stem ++ ext)) ∧
    ∃ last, (IsName last ∧ '/' ∉ last) ∧ ∀ rooted,
      settle rooted [] (Text.splitAt '/' (dir ++ "/" ++ (stem ++ ext)).toList) =
        settle rooted (last :: (Text.splitAt '/' dir.toList).reverse)
          (Text.splitAt '/' ext.toList).tail := by
  have hname : stem ++ ext ≠ "" := fun h => hstem.1 <| by
    have hcs := congrArg String.toList h
    rw [String.toList_append] at hcs
    exact (List.append_eq_nil_iff.1 hcs).1
  refine ⟨by simp [join, hdir.ne_empty, hname, Text.join], ?_⟩
  obtain ⟨piece, more, hext⟩ := List.exists_cons_of_ne_nil (Text.splitAt_ne_nil '/' ext.toList)
  have hcs : (dir ++ "/" ++ (stem ++ ext)).toList =
      dir.toList ++ '/' :: (stem.toList ++ ext.toList) := by simp
  have hpiece := Text.notMem_of_mem_splitAt ext.toList piece
    (by rw [hext]; exact List.mem_cons_self)
  refine ⟨stem.toList ++ piece, ⟨hstem.append _, by simp [hslash, hpiece]⟩, fun rooted => ?_⟩
  have hsettle := @settle_append rooted [] _
    (List.forall_mem_append.2 ⟨hdir, List.forall_mem_singleton.2 (hstem.append piece)⟩) more
  rw [hcs, Text.splitAt_append_cons, Text.splitAt_append_of_notMem hslash hext, hext]
  simpa using hsettle

/-- A name leads down from a plain directory unless what stands behind it takes it away. -/
theorem leadsDown_join (hdir : IsPlain dir) (hstem : IsName stem.toList)
    (hslash : '/' ∉ stem.toList) (hext : ¬Climbs ext) : LeadsDown (join [dir, stem ++ ext]) := by
  obtain ⟨hjoin, last, hlast, hsettle⟩ := exists_settle_join ext hdir hstem hslash
  obtain ⟨below, hbelow, hstays⟩ := exists_below_of_not_climbs hext
  have hdirs : ∀ name ∈ Text.splitAt '/' dir.toList, IsName name ∧ '/' ∉ name := fun name hmem =>
    ⟨hdir name hmem, Text.notMem_of_mem_splitAt _ name hmem⟩
  refine ⟨(below ++ last :: (Text.splitAt '/' dir.toList).reverse).reverse, by simp, ?_⟩
  rw [hjoin]
  refine isWay_normalize ?_ (by simp) ?_ ?_
  · obtain ⟨first, rest, hfirst⟩ := List.exists_cons_of_ne_nil
      fun hnil => hdir.ne_empty (String.toList_injective hnil)
    have hhead := head?_ne_slash_of_isPlain hdir
    rw [hfirst] at hhead
    simpa [IsRooted, hfirst] using hhead
  · simp only [List.mem_reverse, List.forall_mem_append, List.forall_mem_cons]
    exact ⟨hbelow, hlast, hdirs⟩
  · rw [hsettle, hstays, List.reverse_reverse]

/-- Names that are taken away again lead to one place. -/
theorem join_eq_join_of_climbs (hdir : IsPlain dir) (hstem : IsName stem.toList)
    (hslash : '/' ∉ stem.toList) (hstem' : IsName stem'.toList) (hslash' : '/' ∉ stem'.toList)
    (hext : Climbs ext) : join [dir, stem ++ ext] = join [dir, stem' ++ ext] := by
  have hsome : ext.toList ≠ [] := fun hnil =>
    not_climbs_of_notMem (by rw [hnil]; exact List.not_mem_nil) hext
  obtain ⟨hjoin, last, hlast, hsettle⟩ := exists_settle_join ext hdir hstem hslash
  obtain ⟨hjoin', last', hlast', hsettle'⟩ := exists_settle_join ext hdir hstem' hslash'
  obtain ⟨rest, hclimbs⟩ := hext
  have hpop : ∀ {last : List Char} rooted settled, IsName last ∧ '/' ∉ last →
      settle rooted (last :: settled) (['.', '.'] :: rest) = settle rooted settled rest :=
    fun rooted settled hlast => by
      conv_lhs => unfold settle
      simp [hlast.1.2.2]
  -- both begin with the directory and end with the same text
  have hhead : ∀ {stem : String}, (dir ++ "/" ++ (stem ++ ext)).toList.head? =
      (dir ++ "/").toList.head? := fun {stem} => by
    have hdirSlash : (dir ++ "/").toList ≠ [] := by simp
    rw [String.toList_append, List.head?_append_of_ne_nil _ hdirSlash]
  have hend : ∀ {stem : String}, (dir ++ "/" ++ (stem ++ ext)).toList.getLast? =
      ext.toList.getLast? := fun {stem} => by
    rw [← String.append_assoc, String.toList_append, List.getLast?_append_of_ne_nil _ hsome]
  rw [hjoin, hjoin']
  refine normalize_congr (hhead.trans hhead.symm) (hend.trans hend.symm) fun rooted => ?_
  rw [hsettle, hsettle', hclimbs, hclimbs, hpop _ _ hlast, hpop _ _ hlast']

end Path

end CorpusForge
