import CorpusForge.Text.Reference
import Mathlib.Order.Basic

/-!
# Texts cut, searched and filled

Cutting a text at a separator is what lists of any kind are cut by, so it can be undone; a word is
found where it stands; and references that all have a value can be filled in.
-/

namespace CorpusForge

namespace Text

/-! ### Cutting -/

theorem splitAt_eq_splitOn (sep : Char) (cs : List Char) : splitAt sep cs = cs.splitOn sep := by
  induction cs with
  | nil => rfl
  | cons c rest ih =>
    rw [List.splitOn_eq_splitOnP, List.splitOnP_cons_eq_if_modifyHead, splitAt, ih,
      ← List.splitOn_eq_splitOnP]
    by_cases hc : c = sep
    · simp [hc]
    · cases hrest : rest.splitOn sep with
      | nil => exact absurd hrest (List.splitOn_ne_nil _ _)
      | cons piece more => simp [hc]

theorem splitAt_ne_nil (sep : Char) (cs : List Char) : splitAt sep cs ≠ [] := by
  rw [splitAt_eq_splitOn]
  exact List.splitOn_ne_nil _ _

theorem splitAt_of_notMem {sep : Char} {cs : List Char} (h : sep ∉ cs) :
    splitAt sep cs = [cs] := by
  rw [splitAt_eq_splitOn, List.splitOn_eq_singleton h]

/-- The pieces of two texts with a separator between them. -/
theorem splitAt_append_cons (sep : Char) (before after : List Char) :
    splitAt sep (before ++ sep :: after) = splitAt sep before ++ splitAt sep after := by
  simp only [splitAt_eq_splitOn, List.splitOn_append_cons_self]

/-- What is put in front of a text without a separator goes to its first piece. -/
theorem splitAt_append_of_notMem {sep : Char} {before : List Char} (h : sep ∉ before)
    {after piece : List Char} {more : List (List Char)} (hafter : splitAt sep after = piece :: more) :
    splitAt sep (before ++ after) = (before ++ piece) :: more := by
  induction before with
  | nil => exact hafter
  | cons c rest ih =>
    obtain ⟨hc, hrest⟩ := List.ne_and_not_mem_of_not_mem_cons h
    rw [List.cons_append, splitAt, if_neg (Ne.symm hc), ih hrest]
    rfl

/-- No piece holds the separator. -/
theorem notMem_of_mem_splitAt {sep : Char} (cs : List Char) :
    ∀ piece ∈ splitAt sep cs, sep ∉ piece := by
  induction cs with
  | nil => simp [splitAt]
  | cons c rest ih =>
    rw [splitAt]
    split
    next => exact List.forall_mem_cons.2 ⟨List.not_mem_nil, ih⟩
    next hc =>
      split
      next piece more hrest =>
        rw [hrest, List.forall_mem_cons] at ih
        refine List.forall_mem_cons.2 ⟨fun hmem => ?_, ih.2⟩
        rcases List.mem_cons.1 hmem with heq | hmem
        · exact hc heq.symm
        · exact ih.1 hmem
      next =>
        refine List.forall_mem_singleton.2 fun hmem => hc ?_
        exact (List.mem_singleton.1 hmem).symm

/-- The characters of a piece are those of the whole. -/
theorem mem_of_mem_splitAt {sep c : Char} (cs : List Char) :
    ∀ piece ∈ splitAt sep cs, c ∈ piece → c ∈ cs := by
  induction cs with
  | nil => simp [splitAt]
  | cons d rest ih =>
    have hlater : ∀ pieces : List (List Char), (∀ piece ∈ pieces, c ∈ piece → c ∈ rest) →
        ∀ piece ∈ pieces, c ∈ piece → c ∈ d :: rest := fun _ hpieces piece hmem hc =>
      List.mem_cons_of_mem d (hpieces piece hmem hc)
    rw [splitAt]
    split
    next => exact List.forall_mem_cons.2 ⟨fun hc => absurd hc List.not_mem_nil, hlater _ ih⟩
    next =>
      split
      next piece more hrest =>
        rw [hrest, List.forall_mem_cons] at ih
        refine List.forall_mem_cons.2 ⟨fun hc => ?_, hlater _ ih.2⟩
        rcases List.mem_cons.1 hc with rfl | hc
        · exact List.mem_cons_self
        · exact List.mem_cons_of_mem d (ih.1 hc)
      next =>
        refine List.forall_mem_singleton.2 fun hc => ?_
        exact List.mem_cons.2 (.inl (List.mem_singleton.1 hc))

theorem splitAt_injective (sep : Char) : Function.Injective (splitAt sep) := fun cs cs' h => by
  rw [splitAt_eq_splitOn, splitAt_eq_splitOn] at h
  calc
    cs = [sep].intercalate (cs.splitOn sep) := (List.intercalate_splitOn sep).symm
    _ = [sep].intercalate (cs'.splitOn sep) := by rw [h]
    _ = cs' := List.intercalate_splitOn sep

/-- A text is cut in two when the separator stands in it once. -/
theorem splitAt_eq_pair_iff {sep : Char} {cs before after : List Char} :
    splitAt sep cs = [before, after] ↔
      cs = before ++ sep :: after ∧ sep ∉ before ∧ sep ∉ after := by
  constructor
  · intro h
    have hnot : ∀ piece ∈ splitAt sep cs, sep ∉ piece := notMem_of_mem_splitAt cs
    rw [h] at hnot
    refine ⟨?_, hnot before (by simp), hnot after (by simp)⟩
    calc
      cs = [sep].intercalate (cs.splitOn sep) := (List.intercalate_splitOn sep).symm
      _ = [sep].intercalate [before, after] := by rw [← splitAt_eq_splitOn, h]
      _ = before ++ sep :: after := by simp [List.intercalate]
  · rintro ⟨rfl, hbefore, hafter⟩
    rw [splitAt_append_cons, splitAt_of_notMem hbefore, splitAt_of_notMem hafter]
    rfl

/-- Pieces with a separator behind each but the last. -/
theorem splitAt_flatMap_append {sep : Char} {pieces : List (List Char)} {last : List Char}
    (hpieces : ∀ piece ∈ pieces, sep ∉ piece) (hlast : sep ∉ last) :
    splitAt sep (pieces.flatMap (· ++ [sep]) ++ last) = pieces ++ [last] := by
  induction pieces with
  | nil => exact splitAt_of_notMem hlast
  | cons piece pieces ih =>
    obtain ⟨hpiece, hrest⟩ := List.forall_mem_cons.1 hpieces
    rw [List.flatMap_cons, List.append_assoc, List.append_assoc, List.singleton_append,
      splitAt_append_cons, splitAt_of_notMem hpiece, ih hrest]
    rfl

/-! ### Lines -/

theorem toList_foldl_unlines (lines : List String) (before : String) :
    (lines.foldl (fun acc line => acc ++ line ++ "\n") before).toList =
      before.toList ++ lines.flatMap fun line => line.toList ++ ['\n'] := by
  induction lines generalizing before with
  | nil => simp
  | cons line rest ih =>
    rw [List.foldl_cons, ih]
    simp

theorem toList_unlines (lines : List String) :
    (unlines lines).toList = lines.flatMap fun line => line.toList ++ ['\n'] :=
  toList_foldl_unlines lines ""

/-- Joined lines with a line end behind them. -/
theorem join_append {lines : List String} (h : lines ≠ []) :
    join "\n" lines ++ "\n" = unlines lines := by
  cases lines with
  | nil => exact absurd rfl h
  | cons first rest =>
    rw [join, unlines, List.foldl_cons, String.empty_append]
    clear h
    induction rest generalizing first with
    | nil => rfl
    | cons line rest ih =>
      rw [List.foldl_cons, List.foldl_cons, ← ih]

/-- Joined lines are cut into the lines again, with nothing behind the last line end. -/
theorem splitAt_join {lines : List String} (h : lines ≠ [])
    (hlines : ∀ line ∈ lines.map String.toList, '\n' ∉ line) :
    splitAt '\n' (join "\n" lines ++ "\n").toList = lines.map String.toList ++ [[]] := by
  have hflat : (lines.flatMap fun line => line.toList ++ ['\n']) =
      (lines.map String.toList).flatMap (· ++ ['\n']) ++ [] := by
    rw [List.flatMap_map, List.append_nil]
  rw [join_append h, toList_unlines, hflat, splitAt_flatMap_append hlines List.not_mem_nil]

/-! ### Searching -/

theorem dropWord_eq_some_iff {word text rest : List Char} :
    dropWord word text = some rest ↔ text = word ++ rest := by
  induction word generalizing text with
  | nil => simp [dropWord]
  | cons w word ih =>
    cases text with
    | nil => simp [dropWord]
    | cons c text =>
      by_cases hwc : w = c
      · simp [dropWord, hwc, ih]
      · simp [dropWord, hwc, Ne.symm hwc]

theorem startsWith_iff {text word : List Char} : startsWith text word = true ↔ word <+: text := by
  rw [startsWith, Option.isSome_iff_exists]
  exact exists_congr fun rest => dropWord_eq_some_iff.trans eq_comm

theorem includes_iff {text word : List Char} : includes text word = true ↔ word <:+: text := by
  induction text with
  | nil => simp [includes]
  | cons c text ih => rw [includes, Bool.or_eq_true, startsWith_iff, ih, List.infix_cons_iff]

/-- A text is cut at a word where the word's first character stands for the first time. -/
theorem cutAt_append {w : Char} {word before : List Char} (hbefore : w ∉ before)
    (after : List Char) :
    cutAt (w :: word) (before ++ (w :: word ++ after)) = some (before, after) := by
  induction before with
  | nil =>
    have hdrop : dropWord (w :: word) (w :: (word ++ after)) = some after :=
      dropWord_eq_some_iff.2 rfl
    rw [List.nil_append, List.cons_append, cutAt, hdrop]
  | cons c before ih =>
    obtain ⟨hc, hrest⟩ := List.ne_and_not_mem_of_not_mem_cons hbefore
    have hdrop : dropWord (w :: word) (c :: (before ++ (w :: word ++ after))) = none := by
      rw [dropWord, if_neg hc]
    rw [List.cons_append, cutAt, hdrop, ih hrest]
    rfl

end Text

/-! ### References -/

/-- The text that a piece stands for. A reference without a value stands for nothing. -/
def Piece.filled (values : String → Option String) : Piece → List Char
  | .literal c => [c]
  | .reference name => ((values (String.ofList name)).getD "").toList

/-- When all references have a value, the pieces are filled in one by one. -/
theorem ReferenceStyle.fill_eq {values : String → Option String} {pieces : List Piece}
    (h : ∀ name, .reference name ∈ pieces → ∃ value, values (String.ofList name) = some value) :
    fill values pieces = .ok (pieces.flatMap (Piece.filled values)) := by
  induction pieces with
  | nil => rfl
  | cons piece rest ih =>
    have hrest := ih fun name hmem => h name (List.mem_cons_of_mem _ hmem)
    cases piece with
    | literal c =>
      rw [fill, hrest]
      rfl
    | reference name =>
      obtain ⟨value, hvalue⟩ := h name List.mem_cons_self
      rw [fill, hvalue, hrest, List.flatMap_cons, Piece.filled, hvalue]
      rfl

/-- When the pieces are filled in, all references have a value. -/
theorem ReferenceStyle.exists_value_of_fill {values : String → Option String} {pieces : List Piece}
    {text : List Char} (h : fill values pieces = .ok text) :
    ∀ name, .reference name ∈ pieces → ∃ value, values (String.ofList name) = some value := by
  induction pieces generalizing text with
  | nil => exact fun _ hmem => nomatch hmem
  | cons piece rest ih =>
    intro name hmem
    cases piece with
    | literal c =>
      cases hrest : fill values rest with
      | error missing => simp [fill, hrest, bind, Except.bind] at h
      | ok filled => exact ih hrest name (by simpa using hmem)
    | reference other =>
      rw [fill] at h
      split at h
      next value hvalue =>
        rcases List.mem_cons.1 hmem with heq | hmem
        · cases heq
          exact ⟨value, hvalue⟩
        · cases hrest : fill values rest with
          | error missing => simp [hrest, bind, Except.bind] at h
          | ok filled => exact ih hrest name hmem
      next => exact nomatch h

/-- A text without references stands for itself. -/
theorem ReferenceStyle.scan_eq_map_literal {style : ReferenceStyle} {cs : List Char}
    (h : ∀ name, .reference name ∉ style.scan cs) : style.scan cs = cs.map .literal := by
  induction cs with
  | nil => rfl
  | cons c rest ih =>
    rw [scan, scanFrom] at h ⊢
    split
    next name hname => exact absurd (by simp [hname]) (h name)
    next hnone =>
      rw [hnone] at h
      have hrest := ih fun name hmem => h name (.tail _ hmem)
      rw [scan] at hrest
      rw [hrest, List.map_cons]

end CorpusForge
