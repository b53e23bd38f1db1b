import CorpusForge.Proofs.Text
import CorpusForge.Source.Style
import Mathlib.Data.List.Forall2
import Mathlib.Data.List.Infix

/-!
# What the lines of a source say

A line of a source file is marked, or it declares a unit or a function outside units: it starts like
the declarations of its language, and a name follows. Most lines of a style are fixed, and the
others have a blank for a name, so they fit a form (`Fits`). What a line says does not depend on the
name in its blank (`isMarked_fill`, `declared_fill`), and is read off the form (`HasForms.reads`).
-/

namespace CorpusForge.Source

/-! ### Marks and declarations -/

/-- The line holds the marker of a fault. -/
def isMarked (line : List Char) : Bool := Text.includes line faultMarker.toList

/-- A character of a name. -/
def isNameChar (c : Char) : Bool := Text.isLetter c || Text.isDigit c

/-- The name at the head of a text. -/
def nameAt (text : List Char) : Option (List Char) :=
  if text.takeWhile isNameChar = [] then none else some (text.takeWhile isNameChar)

/-- The name that a line declares: it comes behind the first of the openings that the line starts
    with. -/
def declared : (openings : List String) → (line : List Char) → Option (List Char)
  | [], _ => none
  | opening :: more, line =>
    match Text.dropWord opening.toList line with
    | some rest => nameAt rest
    | none => declared more line

/-- How the declarations of units start in a language. -/
def unitOpenings (language : String) : List String :=
  if language = "typescript" then ["export class "]
  else if language = "java" then ["public class ", "class "]
  else if language = "go" then ["type "]
  else if language = "rust" then ["pub struct "]
  else if language = "csharp" then ["public class "]
  else if language = "swift" then ["final class "]
  else ["class "]

/-- How the declarations of functions outside units start in a language, up to the number of the
    function. In Go the constructor and the methods of a unit stand outside its structure, and yet
    belong to the unit. -/
def functionOpenings (language : String) : List String :=
  if language = "python" then ["def function_"]
  else if language = "javascript" then ["function function"]
  else if language = "typescript" then ["export function function"]
  else if language = "go" then ["func Function"]
  else if language = "rust" then ["pub fn function_"]
  else if language = "kotlin" then ["fun function"]
  else if language = "swift" then ["func function"]
  else []

/-- What lines say in a language: how many of them are marked, and which units and functions outside
    units they declare, in this order. -/
structure Reads (language : String) (lines : List String) (marks : Nat)
    (units functions : List (List Char)) : Prop where
  whole : ∀ line ∈ lines.map String.toList, '\n' ∉ line
  marks : (lines.map String.toList).countP isMarked = marks
  units : (lines.map String.toList).filterMap (declared (unitOpenings language)) = units
  functions : (lines.map String.toList).filterMap (declared (functionOpenings language)) = functions

namespace Reads

variable {language : String} {lines lines' : List String} {marks marks' : Nat}
  {units units' functions functions' : List (List Char)}

theorem nil : Reads language [] 0 [] [] := ⟨List.forall_mem_nil _, rfl, rfl, rfl⟩

theorem append (h : Reads language lines marks units functions)
    (h' : Reads language lines' marks' units' functions') :
    Reads language (lines ++ lines') (marks + marks') (units ++ units')
      (functions ++ functions') where
  whole line hmem := by
    rw [List.map_append, List.mem_append] at hmem
    exact hmem.elim (h.whole line) (h'.whole line)
  marks := by rw [List.map_append, List.countP_append, h.marks, h'.marks]
  units := by rw [List.map_append, List.filterMap_append, h.units, h'.units]
  functions := by rw [List.map_append, List.filterMap_append, h.functions, h'.functions]

end Reads

/-! ### Forms -/

/-- A line with blanks. -/
abbrev Form := List (Option Char)

/-- The line with a name in its blanks. -/
def Form.fill (name : List Char) : Form → List Char
  | [] => []
  | none :: form => name ++ Form.fill name form
  | some c :: form => c :: Form.fill name form

/-- A line that is fixed but for a name, and its form. -/
inductive Fits (name : String) : String → Form → Prop where
  | name : Fits name name [none]
  | fixed (cs : List Char) : Fits name (String.ofList cs) (cs.map some)
  | append {line line' : String} {form form' : Form} (h : Fits name line form)
      (h' : Fits name line' form') : Fits name (line ++ line') (form ++ form')

/-- The form starts with the opening, whatever is in its blanks, and a blank for a name follows. -/
def Form.opens : (opening : List Char) → Form → Bool
  | [], none :: some c :: _ => !isNameChar c
  | [], [none] => true
  | w :: opening, some c :: form => w == c && Form.opens opening form
  | _, _ => false

/-- The form does not start with the opening, whatever is in its blanks. -/
def Form.misses : (opening : List Char) → Form → Bool
  | _ :: _, [] => true
  | w :: opening, some c :: form => w != c || Form.misses opening form
  | _, _ => false

/-- Whether the form declares the name in its blank, if that does not depend on the name. -/
def Form.declares : (openings : List (List Char)) → Form → Option Bool
  | [], _ => some false
  | opening :: more, form =>
    if form.opens opening then some true
    else if form.misses opening then Form.declares more form
    else none

/-- The form is marked with a digit for its name. -/
def Form.isMarked (form : Form) : Bool := Text.includes (form.fill ['0']) ['B', 'U', 'G', ':']

variable {name : String} {x y : List Char} {form form' : Form}

theorem Form.fill_append : (form ++ form').fill x = form.fill x ++ form'.fill x := by
  induction form with
  | nil => rfl
  | cons part form ih => cases part <;> simp [Form.fill, ih]

theorem Form.fill_map_some (cs : List Char) : Form.fill x (cs.map some) = cs := by
  induction cs with
  | nil => rfl
  | cons c cs ih => rw [List.map_cons, Form.fill, ih]

theorem Form.mem_fill {c : Char} (hc : c ∉ x) : c ∈ form.fill x ↔ some c ∈ form := by
  induction form with
  | nil => simp [Form.fill]
  | cons part form ih => cases part <;> simp [Form.fill, ih, hc]

/-- Without a blank there is one line only. -/
theorem Form.fill_congr (h : none ∉ form) : form.fill x = form.fill y := by
  induction form with
  | nil => rfl
  | cons part form ih =>
    obtain ⟨hpart, hform⟩ := List.ne_and_not_mem_of_not_mem_cons h
    cases part with
    | none => exact absurd rfl hpart
    | some c => rw [Form.fill, Form.fill, ih hform]

theorem Fits.toList_eq {line : String} (h : Fits name line form) :
    line.toList = form.fill name.toList := by
  induction h with
  | name => simp [Form.fill]
  | fixed cs => rw [String.toList_ofList, Form.fill_map_some]
  | append _ _ ih ih' => rw [String.toList_append, ih, ih', Form.fill_append]

/-! ### Names with a number -/

/-- A name of letters and digits, with a digit at its end. -/
structure IsNumbered (name : List Char) : Prop where
  chars : ∀ c ∈ name, isNameChar c = true
  last : ∃ front digit, name = front ++ [digit] ∧ Text.isDigit digit = true

theorem isNumbered_zero : IsNumbered ['0'] :=
  ⟨List.forall_mem_singleton.2 (by decide), [], '0', rfl, rfl⟩

theorem IsNumbered.ne_nil (hx : IsNumbered x) : x ≠ [] := by
  obtain ⟨front, digit, rfl, -⟩ := hx.last
  exact List.append_ne_nil_of_right_ne_nil _ (List.cons_ne_nil _ _)

theorem IsNumbered.notMem (hx : IsNumbered x) {c : Char} (hc : isNameChar c = false) : c ∉ x :=
  fun hmem => absurd (hx.chars c hmem) (by simp [hc])

theorem toList_faultMarker : faultMarker.toList = ['B', 'U', 'G', ':'] := by
  simp [faultMarker]

theorem isMarked_eq_false {line : List Char} (h : ':' ∉ line) : isMarked line = false := by
  rw [Bool.eq_false_iff, isMarked, ne_eq, Text.includes_iff, toList_faultMarker]
  exact fun hword => h (hword.subset (by decide))

/-- What the marker ends with holds a colon and no digit. -/
theorem of_suffix_faultMarker {word : List Char} (h : word <:+ faultMarker.toList)
    (hword : word ≠ []) : ':' ∈ word ∧ word.any Text.isDigit = false := by
  have hall : ∀ word ∈ ['B', 'U', 'G', ':'].tails,
      word ≠ [] → ':' ∈ word ∧ word.any Text.isDigit = false := by decide
  rw [toList_faultMarker, ← List.mem_tails] at h
  exact hall word h hword

/-- No part of the marker reaches into a name from its end. -/
theorem IsNumbered.not_prefix (hx : IsNumbered x) {word : List Char}
    (h : word <:+ faultMarker.toList) (hword : word ≠ []) (after : List Char) :
    ¬word <+: x ++ after := by
  obtain ⟨hcolon, hdigits⟩ := of_suffix_faultMarker h hword
  intro hprefix
  rcases List.prefix_or_prefix_of_prefix hprefix (List.prefix_append x after) with hle | hle
  · exact hx.notMem (by decide) (hle.subset hcolon)
  · obtain ⟨front, digit, rfl, hdigit⟩ := hx.last
    exact absurd hdigit (List.any_eq_false.1 hdigits digit (hle.subset (by simp)))

/-- A name holds no marker, nor does one start in it. -/
theorem IsNumbered.isMarked_append (hx : IsNumbered x) (after : List Char) :
    isMarked (x ++ after) = isMarked after := by
  obtain ⟨front, digit, rfl, hdigit⟩ := hx.last
  have hchars := hx.chars
  clear hx
  induction front with
  | nil =>
    have hone : IsNumbered [digit] := ⟨hchars, [], digit, rfl, hdigit⟩
    have hstart := hone.not_prefix List.suffix_rfl (by simp [toList_faultMarker]) after
    rw [← Text.startsWith_iff, Bool.not_eq_true] at hstart
    rw [List.nil_append, List.singleton_append, isMarked, Text.includes]
    rw [List.singleton_append] at hstart
    rw [hstart, Bool.false_or, isMarked]
  | cons c front ih =>
    have hall : IsNumbered (c :: front ++ [digit]) := ⟨hchars, c :: front, digit, rfl, hdigit⟩
    have hstart := hall.not_prefix List.suffix_rfl (by simp [toList_faultMarker]) after
    rw [← Text.startsWith_iff, Bool.not_eq_true] at hstart
    rw [← ih fun d hmem => hchars d (List.mem_cons_of_mem c hmem), isMarked, isMarked,
      List.cons_append, List.cons_append, Text.includes]
    rw [List.cons_append, List.cons_append] at hstart
    rw [hstart, Bool.false_or]

theorem prefix_fill_iff (hx : IsNumbered x) (hy : IsNumbered y) {word : List Char}
    (h : word <:+ faultMarker.toList) : word <+: form.fill x ↔ word <+: form.fill y := by
  induction form generalizing word with
  | nil => rfl
  | cons part form ih =>
    cases word with
    | nil => simp
    | cons w word =>
      cases part with
      | none =>
        have hword : w :: word ≠ [] := List.cons_ne_nil w word
        exact iff_of_false (hx.not_prefix h hword _) (hy.not_prefix h hword _)
      | some c =>
        rw [Form.fill, Form.fill, List.cons_prefix_cons, List.cons_prefix_cons,
          ih ((List.suffix_cons w word).trans h)]

/-- Whether a line is marked does not depend on the name in it. -/
theorem isMarked_fill (hx : IsNumbered x) (hy : IsNumbered y) (form : Form) :
    isMarked (form.fill x) = isMarked (form.fill y) := by
  induction form with
  | nil => rfl
  | cons part form ih =>
    cases part with
    | none => rw [Form.fill, Form.fill, hx.isMarked_append, hy.isMarked_append, ih]
    | some c =>
      have hstart : Text.startsWith (Form.fill x (some c :: form)) faultMarker.toList =
          Text.startsWith (Form.fill y (some c :: form)) faultMarker.toList := by
        rw [Bool.eq_iff_iff, Text.startsWith_iff, Text.startsWith_iff]
        exact prefix_fill_iff hx hy List.suffix_rfl
      rw [isMarked, isMarked] at ih ⊢
      rw [Form.fill, Form.fill] at hstart ⊢
      rw [Text.includes, Text.includes, hstart, ih]

theorem Form.isMarked_eq (hx : IsNumbered x) (form : Form) :
    Source.isMarked (form.fill x) = form.isMarked := by
  rw [isMarked_fill hx isNumbered_zero, Source.isMarked, toList_faultMarker, Form.isMarked]

theorem nameAt_append (hx : IsNumbered x) {after : List Char}
    (hafter : ∀ c ∈ after.head?, isNameChar c = false) : nameAt (x ++ after) = some x := by
  have htake : (x ++ after).takeWhile isNameChar = x := by
    rw [List.takeWhile_append_of_pos hx.chars]
    cases after with
    | nil => simp
    | cons c after => simp [hafter c rfl]
  rw [nameAt, htake, if_neg hx.ne_nil]

/-! ### Lines and their forms -/

theorem exists_dropWord_of_opens (hx : IsNumbered x) {opening : List Char}
    (h : form.opens opening = true) :
    ∃ rest, Text.dropWord opening (form.fill x) = some rest ∧ nameAt rest = some x := by
  fun_induction Form.opens opening form with
  | case1 c form =>
    refine ⟨_, rfl, nameAt_append hx fun d hd => ?_⟩
    obtain rfl : c = d := by simpa [Form.fill] using hd
    simpa using h
  | case2 => exact ⟨_, rfl, nameAt_append hx fun c hc => absurd hc (Option.not_mem_none c)⟩
  | case3 w opening c form ih =>
    obtain ⟨hw, hform⟩ := Bool.and_eq_true_iff.1 h
    rw [Form.fill, Text.dropWord, if_pos (eq_of_beq hw)]
    exact ih hform
  | case4 => exact absurd h Bool.false_ne_true

theorem dropWord_of_misses {opening : List Char} (h : form.misses opening = true) :
    Text.dropWord opening (form.fill x) = none := by
  fun_induction Form.misses opening form with
  | case1 => rfl
  | case2 w opening c form ih =>
    rw [Form.fill, Text.dropWord]
    split
    next heq => exact ih (by simpa [heq] using h)
    next => rfl
  | case3 => exact absurd h Bool.false_ne_true

/-- What a line declares does not depend on the name in it. -/
theorem declared_fill {openings : List String} {spelled : List (List Char)}
    (hspelled : List.Forall₂ (fun opening cs => opening = String.ofList cs) openings spelled)
    {declares : Bool} (h : form.declares spelled = some declares)
    (hx : declares = true → IsNumbered x) :
    declared openings (form.fill x) = if declares then some x else none := by
  induction hspelled with
  | nil =>
    cases h
    rfl
  | @cons opening cs openings spelled heq _ ih =>
    rw [declared, heq, String.toList_ofList]
    rw [Form.declares] at h
    split at h
    next hopens =>
      cases h
      obtain ⟨rest, hrest, hname⟩ := exists_dropWord_of_opens (hx rfl) hopens
      rw [hrest]
      exact hname
    next =>
      split at h
      next hmisses =>
        rw [dropWord_of_misses hmisses]
        exact ih h
      next => cases h

/-- The forms of lines that are fixed but for a name, with the openings of their language. -/
structure HasForms (language name : String) (lines : List String) (forms : List Form)
    (unit function : List (List Char)) : Prop where
  lines : List.Forall₂ (Fits name) lines forms
  unit : List.Forall₂ (fun opening cs => opening = String.ofList cs) (unitOpenings language) unit
  function : List.Forall₂ (fun opening cs => opening = String.ofList cs)
    (functionOpenings language) function

variable {language : String} {lines : List String} {forms : List Form}
  {unit function : List (List Char)}

theorem HasForms.map_toList (h : HasForms language name lines forms unit function) :
    lines.map String.toList = forms.map (Form.fill name.toList) := by
  obtain ⟨hlines, -, -⟩ := h
  induction hlines with
  | nil => rfl
  | cons hline _ ih => rw [List.map_cons, List.map_cons, hline.toList_eq, ih]

theorem filterMap_eq_replicate {α β : Type} {f : α → Option β} {p : α → Bool} {b : β}
    {items : List α} (h : ∀ item ∈ items, f item = if p item then some b else none) :
    items.filterMap f = List.replicate (items.countP p) b := by
  induction items with
  | nil => rfl
  | cons item rest ih =>
    obtain ⟨hitem, hrest⟩ := List.forall_mem_cons.1 h
    rw [List.filterMap_cons, hitem, ih hrest]
    cases hp : p item <;> simp [hp, List.replicate_succ]

/-- What forms say with a numbered name in their blanks, whatever it is: how many of them are
    marked, and how many declare it as that of a unit, or of a function. -/
def Says (unit function : List (List Char)) (forms : List Form) (marks units functions : Nat) :
    Prop :=
  (∀ form ∈ forms, some '\n' ∉ form ∧ (form.declares unit).isSome = true ∧
    (form.declares function).isSome = true) ∧
  forms.countP Form.isMarked = marks ∧
  forms.countP (fun form => form.declares unit == some true) = units ∧
  forms.countP (fun form => form.declares function == some true) = functions

instance (unit function : List (List Char)) (forms : List Form) (marks units functions : Nat) :
    Decidable (Says unit function forms marks units functions) :=
  inferInstanceAs (Decidable (_ ∧ _))

/-- Whatever is in its blanks, the form says nothing. -/
def Form.IsSilent (unit function : List (List Char)) (form : Form) : Prop :=
  some '\n' ∉ form ∧ form.declares unit = some false ∧ form.declares function = some false ∧
  (some ':' ∉ form ∨ none ∉ form ∧ form.isMarked = false)

instance (unit function : List (List Char)) (form : Form) :
    Decidable (form.IsSilent unit function) :=
  inferInstanceAs (Decidable (_ ∧ _))

namespace HasForms

variable {marks units functions : Nat}

/-- What lines with a numbered name say is read off their forms. -/
theorem reads (hname : IsNumbered name.toList)
    (h : HasForms language name lines forms unit function)
    (hread : Says unit function forms marks units functions) :
    Reads language lines marks (List.replicate units name.toList)
      (List.replicate functions name.toList) := by
  obtain ⟨hforms, hmarks, hunits, hfunctions⟩ := hread
  have hdeclared : ∀ {openings : List String} {spelled : List (List Char)},
      List.Forall₂ (fun opening cs => opening = String.ofList cs) openings spelled →
      ∀ form : Form, (form.declares spelled).isSome = true →
        declared openings (form.fill name.toList) =
          if form.declares spelled == some true then some name.toList else none := by
    intro openings spelled hspelled form hsome
    obtain ⟨declares, hdeclares⟩ := Option.isSome_iff_exists.1 hsome
    rw [declared_fill hspelled hdeclares fun _ => hname, hdeclares]
    cases declares <;> rfl
  refine ⟨?_, ?_, ?_, ?_⟩ <;> rw [h.map_toList]
  · refine List.forall_mem_map.2 fun form hmem => ?_
    rw [Form.mem_fill (hname.notMem (by decide))]
    exact (hforms form hmem).1
  · rw [List.countP_map, ← hmarks]
    refine List.countP_congr fun form _ => ?_
    rw [Function.comp_apply, Form.isMarked_eq hname]
  · rw [List.filterMap_map, ← hunits]
    exact filterMap_eq_replicate fun form hmem => hdeclared h.unit form (hforms form hmem).2.1
  · rw [List.filterMap_map, ← hfunctions]
    exact filterMap_eq_replicate fun form hmem => hdeclared h.function form (hforms form hmem).2.2

/-- Lines that declare a unit. -/
theorem reads_unit (hname : IsNumbered name.toList)
    (h : HasForms language name lines forms unit function)
    (hread : Says unit function forms marks 1 0) :
    Reads language lines marks [name.toList] [] := reads hname h hread

/-- Lines that declare a function. -/
theorem reads_function (hname : IsNumbered name.toList)
    (h : HasForms language name lines forms unit function)
    (hread : Says unit function forms 0 0 1) :
    Reads language lines 0 [] [name.toList] := reads hname h hread

/-- Lines that say nothing, whatever is in their blanks. -/
theorem reads_nothing (hbreak : '\n' ∉ name.toList) (hcolon : ':' ∉ name.toList)
    (h : HasForms language name lines forms unit function)
    (hsilent : ∀ form ∈ forms, form.IsSilent unit function) : Reads language lines 0 [] [] := by
  refine ⟨?_, ?_, ?_, ?_⟩ <;> rw [h.map_toList]
  · refine List.forall_mem_map.2 fun form hmem => ?_
    rw [Form.mem_fill hbreak]
    exact (hsilent form hmem).1
  · refine List.countP_eq_zero.2 (List.forall_mem_map.2 fun form hmem => ?_)
    obtain ⟨-, -, -, hmark | ⟨hblank, hmark⟩⟩ := hsilent form hmem
    · rw [isMarked_eq_false (mt (Form.mem_fill hcolon).1 hmark)]
      exact Bool.false_ne_true
    · rw [Form.fill_congr hblank, Form.isMarked_eq isNumbered_zero, hmark]
      exact Bool.false_ne_true
  · refine List.filterMap_eq_nil_iff.2 (List.forall_mem_map.2 fun form hmem => ?_)
    exact declared_fill h.unit (hsilent form hmem).2.1 fun h => absurd h Bool.false_ne_true
  · refine List.filterMap_eq_nil_iff.2 (List.forall_mem_map.2 fun form hmem => ?_)
    exact declared_fill h.function (hsilent form hmem).2.2.1 fun h => absurd h Bool.false_ne_true

end HasForms

end CorpusForge.Source
