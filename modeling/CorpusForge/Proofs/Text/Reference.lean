import CorpusForge.Proofs.Text

/-!
# Texts split at references

A text is split from left to right: a reference is taken whole where one is written, and every other
character stands for itself (`ReferenceStyle.Splits`). Where names end before the closing mark, each
text has one such split, which is the one that the scanner finds. It says what becomes of marks that
overlap and of references that are not well formed.

* `ReferenceStyle.splits_iff`: the split of a text;
* `ReferenceStyle.expand_eq_match`: the references replaced, or the first one that has no value.
-/

namespace CorpusForge

namespace ReferenceStyle

variable {style : ReferenceStyle} {pieces : List Piece} {cs rest name : List Char} {c : Char}

/-- A character that may begin a name, and characters that may follow. -/
def IsName (style : ReferenceStyle) : List Char → Prop
  | [] => False
  | c :: rest => style.leads c = true ∧ ∀ d ∈ rest, style.follows d = true

/-- A reference as it is written. -/
def written (style : ReferenceStyle) (name : List Char) : List Char :=
  style.opening ++ (name ++ style.closing)

/-- The split of a text from left to right: a reference where one is written, and else a character
    that stands for itself. -/
inductive Splits (style : ReferenceStyle) : List Char → List Piece → Prop
  | nil : Splits style [] []
  | literal {c : Char} {rest : List Char} {pieces : List Piece}
    (hnone : ∀ name, style.IsName name → ¬style.written name <+: c :: rest)
    (hrest : Splits style rest pieces) : Splits style (c :: rest) (.literal c :: pieces)
  | reference {name rest : List Char} {pieces : List Piece} (hname : style.IsName name)
    (hrest : Splits style rest pieces) :
    Splits style (style.written name ++ rest) (.reference name :: pieces)

/-- The closing mark ends a name. -/
def EndsNames (style : ReferenceStyle) : Prop :=
  ∃ mark rest, style.closing = mark :: rest ∧ style.follows mark = false

/-! ### Scanning -/

/-- The name at the head of a text that begins with a name and the closing mark. -/
theorem nameAt?_append (hends : style.EndsNames) (hname : style.IsName name) (rest : List Char) :
    style.nameAt? (name ++ (style.closing ++ rest)) = some name := by
  obtain ⟨mark, more, hclosing, hmark⟩ := hends
  cases name with
  | nil => exact hname.elim
  | cons c tail =>
    obtain ⟨hlead, hfollow⟩ := hname
    rw [List.cons_append, nameAt?, if_pos hlead, hclosing, List.cons_append,
      List.takeWhile_append_of_pos hfollow, List.takeWhile_cons_of_neg (by simp [hmark]),
      List.append_nil]

theorem isName_of_nameAt? (h : style.nameAt? cs = some name) : style.IsName name ∧ name <+: cs := by
  cases cs with
  | nil => exact nomatch h
  | cons c rest =>
    rw [nameAt?, Option.ite_none_right_eq_some] at h
    obtain ⟨hlead, hname⟩ := h
    obtain rfl := Option.some.inj hname
    refine ⟨⟨hlead, fun d hd => ?_⟩, ?_⟩
    · exact (List.all_eq_true.1 (List.all_takeWhile (l := rest))) d hd
    · exact List.cons_prefix_cons.2 ⟨rfl, List.takeWhile_prefix _⟩

/-- The reference that a text begins with. -/
theorem at?_eq_some_iff (hends : style.EndsNames) :
    style.at? cs = some name ↔ style.IsName name ∧ style.written name <+: cs := by
  simp only [at?, Option.bind_eq_bind, Option.bind_eq_some_iff, Text.dropWord_eq_some_iff,
    Option.ite_none_right_eq_some, Text.startsWith_iff]
  constructor
  · rintro ⟨body, rfl, found, hfound, hclosing, hname⟩
    obtain rfl := Option.some.inj hname
    obtain ⟨hname, after, rfl⟩ := isName_of_nameAt? hfound
    rw [List.drop_left] at hclosing
    refine ⟨hname, (List.prefix_append_right_inj _).2 ((List.prefix_append_right_inj _).2 hclosing)⟩
  · rintro ⟨hname, rest, rfl⟩
    have hbody : style.written name ++ rest =
        style.opening ++ (name ++ (style.closing ++ rest)) := by
      simp only [written, List.append_assoc]
    refine ⟨_, hbody, name, nameAt?_append hends hname rest, ?_, rfl⟩
    rw [List.drop_left]
    exact List.prefix_append _ _

theorem at?_eq_none_iff (hends : style.EndsNames) :
    style.at? cs = none ↔ ∀ name, style.IsName name → ¬style.written name <+: cs := by
  rw [Option.eq_none_iff_forall_ne_some]
  exact forall_congr' fun name => by rw [ne_eq, at?_eq_some_iff hends, not_and]

theorem scanFrom_eq (skip : Nat) (cs : List Char) :
    style.scanFrom skip cs = style.scan (cs.drop skip) := by
  induction cs generalizing skip with
  | nil => rw [List.drop_nil, scan, scanFrom, scanFrom]
  | cons c rest ih =>
    cases skip with
    | zero => rfl
    | succ skip => rw [scanFrom, ih, List.drop_succ_cons]

theorem scan_cons (h : style.at? (c :: rest) = none) :
    style.scan (c :: rest) = .literal c :: style.scan rest := by
  rw [scan, scanFrom, h]
  rfl

theorem scan_written (hends : style.EndsNames) (hname : style.IsName name) (rest : List Char) :
    style.scan (style.written name ++ rest) = .reference name :: style.scan rest := by
  have hat : style.at? (style.written name ++ rest) = some name :=
    (at?_eq_some_iff hends).2 ⟨hname, List.prefix_append _ _⟩
  have hwidth : (style.written name).length = style.width name := by
    simp only [written, width, List.length_append, Nat.add_assoc]
  cases hcs : style.written name with
  | nil =>
    -- something is written, the closing mark at least
    obtain ⟨mark, more, hclosing, -⟩ := hends
    simp [written, hclosing] at hcs
  | cons c tail =>
    rw [hcs, List.length_cons] at hwidth
    rw [hcs, List.cons_append] at hat
    rw [List.cons_append, scan, scanFrom, hat]
    simp only [scanFrom_eq, ← hwidth, Nat.add_sub_cancel, List.drop_left]

/-! ### The split -/

theorem Splits.scan_eq (hends : style.EndsNames) (h : style.Splits cs pieces) :
    style.scan cs = pieces := by
  induction h with
  | nil => rfl
  | literal hnone _ ih => rw [scan_cons ((at?_eq_none_iff hends).2 hnone), ih]
  | reference hname _ ih => rw [scan_written hends hname, ih]

theorem exists_splits (hends : style.EndsNames) (cs : List Char) :
    ∃ pieces, style.Splits cs pieces := by
  -- what is left behind a reference is shorter, but it is not the tail
  induction hlength : cs.length using Nat.strongRecOn generalizing cs with
  | ind n ih =>
    cases cs with
    | nil => exact ⟨[], .nil⟩
    | cons c rest =>
      by_cases hwritten : ∃ name, style.IsName name ∧ style.written name <+: c :: rest
      · obtain ⟨name, hname, after, hafter⟩ := hwritten
        obtain ⟨mark, more, hclosing, -⟩ := id hends
        have hshorter : after.length < n := by
          have htotal := congrArg List.length hafter
          simp only [written, hclosing, List.length_append, List.length_cons] at htotal hlength
          omega
        obtain ⟨pieces, hpieces⟩ := ih after.length hshorter after rfl
        rw [← hafter]
        exact ⟨_, .reference hname hpieces⟩
      · obtain ⟨pieces, hpieces⟩ := ih rest.length (by simp [← hlength]) rest rfl
        exact ⟨_, .literal (fun name hname hprefix => hwritten ⟨name, hname, hprefix⟩) hpieces⟩

/-- The scanner finds the split of a text, and there is no other. -/
theorem splits_iff (hends : style.EndsNames) : style.Splits cs pieces ↔ style.scan cs = pieces := by
  refine ⟨fun h => h.scan_eq hends, ?_⟩
  rintro rfl
  obtain ⟨pieces, hpieces⟩ := exists_splits hends cs
  rwa [hpieces.scan_eq hends]

/-! ### Filling -/

/-- The names that the pieces refer to, in order. -/
def names (pieces : List Piece) : List String :=
  pieces.filterMap fun piece =>
    match piece with
    | .literal _ => none
    | .reference name => some (String.ofList name)

/-- The pieces are filled in when every name has a value, and else the first one without is told. -/
theorem fill_eq_match (values : String → Option String) (pieces : List Piece) :
    fill values pieces =
      match (names pieces).find? fun name => (values name).isNone with
      | none => .ok (pieces.flatMap (Piece.filled values))
      | some missing => .error missing := by
  induction pieces with
  | nil => rfl
  | cons piece rest ih =>
    cases piece with
    | literal c =>
      have hnames : names (.literal c :: rest) = names rest := rfl
      rw [fill, ih, hnames]
      cases (names rest).find? fun name => (values name).isNone <;> rfl
    | reference name =>
      have hnames : names (.reference name :: rest) = String.ofList name :: names rest := rfl
      rw [fill, hnames, List.find?_cons, List.flatMap_cons, Piece.filled]
      cases values (String.ofList name) with
      | none => rfl
      | some value =>
        simp only [ih, Option.isNone_some, Option.getD_some]
        cases (names rest).find? fun name => (values name).isNone <;> rfl

/-- A text with its references replaced by their values, or the first name without one. -/
theorem expand_eq_match (style : ReferenceStyle) (values : String → Option String)
    (text : String) :
    style.expand values text =
      match (names (style.scan text.toList)).find? fun name => (values name).isNone with
      | none => .ok (String.ofList ((style.scan text.toList).flatMap (Piece.filled values)))
      | some missing => .error missing := by
  rw [expand, fill_eq_match]
  cases (names (style.scan text.toList)).find? fun name => (values name).isNone <;> rfl

end ReferenceStyle

end CorpusForge
