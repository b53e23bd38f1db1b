import CorpusForge.Proofs.Number.Digits
import CorpusForge.Proofs.Path
import CorpusForge.Proofs.Text.Order
import CorpusForge.Spec

/-!
# The names of repositories

The name of a repository tells its number, and it is the name of a directory as long as its template
has no slash in it. As a text it is in the order of the padded digits of its number, since the dash
behind them goes before every digit.

* `eq_of_repositoryName_eq`: the number of a name;
* `isPlain_repositoryName`: names of directories;
* `precedes_repositoryName_iff`: the order of names.
-/

namespace CorpusForge

section

variable {id id' : Number} {n n' : Nat} {template template' : Option String}

theorem toList_repositoryName (hid : id.IsCount n) (hn : n ≤ 2 ^ 53) :
    (repositoryName id template).toList = "repo-".toList ++
      (Decimal.padded n ++ '-' :: (template.getD "undefined").toList) := by
  have hdash : "-".toList = ['-'] := rfl
  simp only [repositoryName, Decimal.padded, hid.text hn, String.toList_append,
    String.toList_ofList, hdash, List.append_assoc, List.singleton_append]

/-- The name of a repository tells its index. -/
theorem eq_of_repositoryName_eq (hid : id.IsCount n) (hid' : id'.IsCount n') (hn : n ≤ 2 ^ 53)
    (hn' : n' ≤ 2 ^ 53) (h : repositoryName id template = repositoryName id' template') :
    n = n' := by
  -- the digits end at the dash behind them
  have hdigits : ∀ (n : Nat) (after : List Char),
      (Decimal.padded n ++ '-' :: after).takeWhile Char.isDigit = Decimal.padded n :=
    fun n after => by
      rw [List.takeWhile_append_of_pos fun c hc => Decimal.isDigit_of_mem_padded hc,
        List.takeWhile_cons_of_neg (by decide), List.append_nil]
  have hcs := congrArg String.toList h
  rw [toList_repositoryName hid hn, toList_repositoryName hid' hn'] at hcs
  have hsame := congrArg (List.takeWhile Char.isDigit) (List.append_cancel_left hcs)
  rw [hdigits, hdigits] at hsame
  exact Decimal.padded_injective hsame

/-- With a template without a slash, the name of a repository is that of a directory. -/
theorem isPlain_repositoryName (hid : id.IsCount n) (hn : n ≤ 2 ^ 53)
    (htemplate : '/' ∉ (template.getD "undefined").toList) :
    '/' ∉ (repositoryName id template).toList ∧ Path.IsPlain (repositoryName id template) := by
  have hcs := @toList_repositoryName id n template hid hn
  have hdigits : '/' ∉ Decimal.padded n := fun hmem =>
    absurd (Decimal.isDigit_of_mem_padded hmem) (by decide)
  have hslash : '/' ∉ (repositoryName id template).toList := by
    have hlabel : '/' ∉ "repo-".toList := by decide
    have hdash : '/' ≠ '-' := by decide
    simp only [hcs, List.mem_append, List.mem_cons, not_or]
    exact ⟨hlabel, hdigits, hdash, htemplate⟩
  have hlabel : Path.IsName "repo-".toList := by decide
  refine ⟨hslash, Path.isPlain_of_isName ?_ hslash⟩
  rw [hcs]
  exact hlabel.append _

/-! ### Order -/

/-- The units of digits are in the order of the digits, also when a dash ends them. -/
theorem units_dash_lt_iff {cs ds : List Char} (hcs : ∀ c ∈ cs, c.isDigit = true)
    (hds : ∀ d ∈ ds, d.isDigit = true) (hne : cs ≠ ds) (us vs : List Nat) :
    (cs ++ ['-']).flatMap Text.charUnits ++ us < (ds ++ ['-']).flatMap Text.charUnits ++ vs ↔
      cs < ds := by
  -- a digit and a dash are units by themselves, and the dash is the least of them
  have hdash : Text.charUnits '-' = [45] := by decide
  have hunit : ∀ {c : Char}, c.isDigit = true → Text.charUnits c = [c.toNat] ∧ 45 < c.toNat :=
    fun {c} hc => by
      have hbounds := Decimal.toNat_of_isDigit hc
      have hzero : '0'.toNat = 48 := rfl
      have hsmall : c.toNat < 0x10000 := by omega
      exact ⟨by rw [Text.charUnits, if_pos hsmall], by omega⟩
  induction cs generalizing ds with
  | nil =>
    cases ds with
    | nil => exact absurd rfl hne
    | cons d ds =>
      obtain ⟨hd, hlt⟩ := hunit (hds d List.mem_cons_self)
      simp [hd, hdash, List.cons_lt_cons_iff, hlt]
  | cons c cs ih =>
    obtain ⟨hc, hlt⟩ := hunit (hcs c List.mem_cons_self)
    cases ds with
    | nil =>
      refine iff_of_false (fun hless => ?_) (List.not_lt_nil _)
      simp only [List.cons_append, List.flatMap_cons, hc, List.nil_append, List.flatMap_nil, hdash,
        List.cons_lt_cons_iff] at hless
      omega
    | cons d ds =>
      obtain ⟨hd, -⟩ := hunit (hds d List.mem_cons_self)
      have hlead : c < d ↔ c.toNat < d.toNat := Iff.rfl
      simp only [List.cons_append, List.flatMap_cons, hc, hd, List.nil_append,
        List.cons_lt_cons_iff, hlead, Char.toNat_inj]
      refine or_congr_right (and_congr_right fun heq => ?_)
      subst heq
      exact ih (fun c hmem => hcs c (List.mem_cons_of_mem _ hmem))
        (fun d hmem => hds d (List.mem_cons_of_mem _ hmem)) fun h => hne (by rw [h])

/-- Names of repositories with different numbers are in the order of the padded digits. -/
theorem precedes_repositoryName_iff (hid : id.IsCount n) (hid' : id'.IsCount n') (hn : n ≤ 2 ^ 53)
    (hn' : n' ≤ 2 ^ 53) (hne : n ≠ n') :
    Text.precedes (repositoryName id template) (repositoryName id' template') = true ↔
      Decimal.padded n < Decimal.padded n' := by
  have hunits : ∀ {id : Number} {n : Nat} {template : Option String}, id.IsCount n → n ≤ 2 ^ 53 →
      Text.units (repositoryName id template) = "repo-".toList.flatMap Text.charUnits ++
        ((Decimal.padded n ++ ['-']).flatMap Text.charUnits ++
          (template.getD "undefined").toList.flatMap Text.charUnits) :=
    fun {id n template} hid hn => by
      rw [Text.units, toList_repositoryName hid hn]
      simp only [List.flatMap_append, List.flatMap_cons, List.flatMap_nil, List.append_nil,
        List.append_assoc]
  have hlabel : "repo-".toList.flatMap Text.charUnits = [114, 101, 112, 111, 45] := by decide
  rw [Text.precedes_iff, hunits hid hn, hunits hid' hn', hlabel]
  simp only [List.cons_append, List.nil_append, List.cons_lt_cons_iff, lt_irrefl, true_and,
    false_or]
  exact units_dash_lt_iff (fun c hc => Decimal.isDigit_of_mem_padded hc)
    (fun d hd => Decimal.isDigit_of_mem_padded hd) (Decimal.padded_injective.ne hne) _ _

end

end CorpusForge
