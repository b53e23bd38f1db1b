import CorpusForge.History.Message
import CorpusForge.Proofs.Text
import Mathlib.Data.List.Count

/-!
# What a commit message says

A message names the component that the commit touches. The component is put into the template as it
stands, unless it holds one of the signs that stand for something else there. A sign costs the
message a dollar sign, which nothing makes up for, so a component with a sign is never shown as it
stands.

* `CommitType.expand_eq_or_count_lt`: a component without signs, and one with a sign;
* `componentOf_eq`: the component of a path;
* `CommitType.carries_verbatim_iff`: which components a message carries as they stand.
-/

namespace CorpusForge

namespace CommitType

/-- The signs that stand for something else in a component. -/
def signs : List (List Char) := [['$', '$'], ['$', '&'], ['$', '\x60'], ['$', '\x27']]

/-- A text in which nothing stands for something else. -/
def IsPlain (cs : List Char) : Prop := ∀ sign ∈ signs, ¬sign <:+: cs

instance : DecidablePred IsPlain := fun cs =>
  inferInstanceAs (Decidable (∀ sign ∈ signs, ¬sign <:+: cs))

variable {before after cs : List Char}

/-! ### Signs -/

/-- A text with no sign at its head is plain if its tail is. -/
theorem IsPlain.cons {c : Char} (h : IsPlain cs) (hhead : ∀ sign ∈ signs, ¬sign <+: c :: cs) :
    IsPlain (c :: cs) := fun sign hsign hinfix =>
  (List.infix_cons_iff.1 hinfix).elim (hhead sign hsign) (h sign hsign)

theorem IsPlain.tail {c : Char} (h : IsPlain (c :: cs)) : IsPlain cs :=
  fun sign hsign hinfix => h sign hsign (List.infix_cons hinfix)

/-- A text with a sign at its head, when what stands for the sign has fewer dollar signs. -/
theorem count_lt_of_sign (sign : List Char) (hsign : sign ∈ signs) {out out' rest : List Char}
    (hout : out.count '$' < sign.count '$') (hrest : out'.count '$' ≤ rest.count '$') :
    ¬IsPlain (sign ++ rest) ∧ (out ++ out').count '$' < (sign ++ rest).count '$' := by
  refine ⟨fun h => h sign hsign (List.prefix_append sign rest).isInfix, ?_⟩
  rw [List.count_append, List.count_append]
  exact Nat.add_lt_add_of_lt_of_le hout hrest

/-- A plain component stands for itself. Any other one stands for a text with fewer dollar signs:
    the one that begins a sign is lost, and neither the mark nor the rest of the template has any. -/
theorem expand_eq_or_count_lt (hbefore : '$' ∉ before) (hafter : '$' ∉ after) (cs : List Char) :
    IsPlain cs ∧ expand before after cs = cs ∨
      ¬IsPlain cs ∧ (expand before after cs).count '$' < cs.count '$' := by
  have hle : ∀ {rest : List Char}, (IsPlain rest ∧ expand before after rest = rest ∨
      ¬IsPlain rest ∧ (expand before after rest).count '$' < rest.count '$') →
      (expand before after rest).count '$' ≤ rest.count '$' := fun h =>
    h.elim (fun h => h.2.symm ▸ Nat.le_refl _) fun h => Nat.le_of_lt h.2
  have hnone : ∀ {out : List Char}, '$' ∉ out → out.count '$' < 1 := fun h =>
    Nat.lt_one_iff.2 (List.count_eq_zero_of_not_mem h)
  fun_induction expand before after cs with
  | case1 rest ih =>
    have hout : ['$'].count '$' < ['$', '$'].count '$' := by decide
    exact .inr (count_lt_of_sign ['$', '$'] (by decide) hout (hle ih))
  | case2 rest ih =>
    exact .inr (count_lt_of_sign ['$', '&'] (by decide) (hnone (by decide)) (hle ih))
  | case3 rest ih =>
    exact .inr (count_lt_of_sign ['$', '\x60'] (by decide) (hnone hbefore) (hle ih))
  | case4 rest ih =>
    exact .inr (count_lt_of_sign ['$', '\x27'] (by decide) (hnone hafter) (hle ih))
  | case5 c rest hdouble hmark hbefore' hafter' ih =>
    rcases ih with ⟨hplain, hself⟩ | ⟨hsign, hlt⟩
    · refine .inl ⟨hplain.cons fun sign hsign ⟨more, hmore⟩ => ?_, by rw [hself]⟩
      simp only [signs, List.mem_cons, List.not_mem_nil, or_false] at hsign
      rcases hsign with rfl | rfl | rfl | rfl <;> obtain ⟨hc, hrest⟩ := List.cons.inj hmore
      · exact hdouble more hc.symm hrest.symm
      · exact hmark more hc.symm hrest.symm
      · exact hbefore' more hc.symm hrest.symm
      · exact hafter' more hc.symm hrest.symm
    · refine .inr ⟨fun h => hsign h.tail, ?_⟩
      simp only [List.count_cons]
      omega
  | case6 => exact .inl ⟨fun sign hsign hinfix => by
      rw [List.infix_nil.1 hinfix] at hsign
      exact absurd hsign (by decide), rfl⟩

theorem expand_eq_self_iff (hbefore : '$' ∉ before) (hafter : '$' ∉ after) :
    expand before after cs = cs ↔ IsPlain cs := by
  rcases expand_eq_or_count_lt hbefore hafter cs with ⟨hplain, hself⟩ | ⟨hsign, hlt⟩
  · exact iff_of_true hself hplain
  · exact iff_of_false (fun h => Nat.ne_of_lt hlt (by rw [h])) hsign

/-! ### Templates -/

/-- No template has a dollar sign, or a second mark. -/
theorem count_template {t : CommitType} (ht : t ∈ all) :
    t.template.toList.count '$' = 0 ∧ t.template.toList.count '\x7b' ≤ 1 := by
  revert t
  decide +kernel

/-- A template around its mark. -/
theorem notMem_of_template {t : CommitType} (ht : t ∈ all)
    (htemplate : t.template.toList = before ++ (mark ++ after)) :
    '$' ∉ before ∧ '$' ∉ after ∧ '\x7b' ∉ before := by
  obtain ⟨hdollar, hbrace⟩ := count_template ht
  have hmark : mark.count '$' = 0 ∧ mark.count '\x7b' = 1 := by decide
  rw [htemplate, List.count_append, List.count_append] at hdollar hbrace
  simp only [← List.count_eq_zero]
  omega

end CommitType

/-- The component of a path is what stands before its first slash, if anything does. -/
theorem componentOf_eq (path : String) :
    componentOf path =
      if '/' ∈ path.toList ∧ path.toList.takeWhile (· ≠ '/') ≠ [] then
        String.ofList (path.toList.takeWhile (· ≠ '/'))
      else "core" := by
  rw [componentOf, Path.head?]
  by_cases hslash : '/' ∈ path.toList
  · obtain ⟨before, after, hpath, hbefore⟩ := List.eq_append_cons_of_mem hslash
    have hhead : path.toList.takeWhile (· ≠ '/') = before := by
      rw [hpath, List.takeWhile_append_of_pos, List.takeWhile_cons_of_neg (by simp),
        List.append_nil]
      intro c hc
      exact decide_eq_true fun heq => hbefore (heq ▸ hc)
    obtain ⟨piece, more, hafter⟩ := List.exists_cons_of_ne_nil (Text.splitAt_ne_nil '/' after)
    rw [hhead, hpath, Text.splitAt_append_cons, Text.splitAt_of_notMem hbefore, hafter]
    by_cases hempty : before = []
    · simp [hempty]
    · simp [hempty]
  · rw [Text.splitAt_of_notMem hslash, if_neg fun h => hslash h.1]
    rfl

namespace CommitType

/-- What a commit that touches a path says of it. The message is the type, and the template with the
    component in place of its mark, the component's own signs resolved. So it carries the component
    as it stands if the component has no sign, and in no other case. The component is what stands
    before the first slash of the path, or the core where nothing does. -/
theorem carries_verbatim_iff {t : CommitType} (ht : t ∈ all) {before after : String}
    (htemplate : t.template = before ++ "\x7b\x7d" ++ after) :
    (∀ component, message t component = t.type ++ ": " ++ (before ++
      String.ofList (expand before.toList after.toList component.toList) ++ after)) ∧
    (∀ component, message t component = t.type ++ ": " ++ (before ++ component ++ after) ↔
      IsPlain component.toList) ∧
    ∀ path, componentOf path =
      if '/' ∈ path.toList ∧ path.toList.takeWhile (· ≠ '/') ≠ [] then
        String.ofList (path.toList.takeWhile (· ≠ '/'))
      else "core" := by
  have hmark : ("\x7b\x7d" : String).toList = mark := rfl
  have hsplit : t.template.toList = before.toList ++ (mark ++ after.toList) := by
    rw [htemplate, String.toList_append, String.toList_append, hmark, List.append_assoc]
  obtain ⟨hbefore, hafter, hfirst⟩ := notMem_of_template ht hsplit
  have hmessage : ∀ component, message t component = t.type ++ ": " ++ (before ++
      String.ofList (expand before.toList after.toList component.toList) ++ after) := by
    intro component
    rw [message, fill, hsplit, mark, Text.cutAt_append hfirst]
    simp only [String.ofList_append, String.ofList_toList]
  refine ⟨hmessage, fun component => ?_, componentOf_eq⟩
  rw [hmessage, ← expand_eq_self_iff hbefore hafter]
  simp only [← String.toList_inj, String.toList_append, String.toList_ofList,
    List.append_cancel_left_eq, List.append_cancel_right_eq]

theorem carries_verbatim_iff_feat :
    (⟨"feat", "Add \x7b\x7d"⟩ : CommitType) ∈ all ∧
    "Add \x7b\x7d" = "Add " ++ "\x7b\x7d" ++ "" ∧
    message ⟨"feat", "Add \x7b\x7d"⟩ "$lib" = "feat: Add $lib" := by
  have ht : (⟨"feat", "Add \x7b\x7d"⟩ : CommitType) ∈ all := by simp [all]
  have hplain : IsPlain "$lib".toList := by decide +kernel
  exact ⟨ht, rfl, ((@carries_verbatim_iff _ ht "Add " "" rfl).2.1 "$lib").2 hplain⟩

/-- A directory named with two dollar signs loses one of them. -/
theorem message_ne_verbatim_dollars :
    (⟨"feat", "Add \x7b\x7d"⟩ : CommitType) ∈ all ∧
    componentOf "$$/main.py" = "$$" ∧
    message ⟨"feat", "Add \x7b\x7d"⟩ (componentOf "$$/main.py") = "feat: Add $" ∧
    "feat: Add $" ≠ "feat: " ++ ("Add " ++ "$$" ++ "") := by
  refine ⟨by simp [all], ?_, ?_, ?_⟩ <;> decide +kernel

end CommitType

end CorpusForge
