import CorpusForge.Config.Rules
import CorpusForge.Proofs.Text
import Mathlib.Tactic

/-!
# E-mail addresses

The check of an e-mail address cuts it at its signs and dots. What passes are the addresses of a
small grammar: a local part, an at sign, labels with a dot behind each, and the letters of a top
domain, with no two dots in a row (`Email.IsAddress`).
-/

namespace CorpusForge

namespace Email

/-! ### The grammar -/

/-- A letter or a digit. -/
def IsAlphanumeric (c : Char) : Prop := Text.isLetter c = true ∨ Text.isDigit c = true

instance : DecidablePred IsAlphanumeric := fun c =>
  inferInstanceAs (Decidable (Text.isLetter c = true ∨ Text.isDigit c = true))

/-- The part before the sign: words, dots and apostrophes, with a word at the end and no dot at the
    beginning. -/
structure IsLocalPart (name : List Char) : Prop where
  chars : ∀ c ∈ name, isWord c = true ∨ c = '.' ∨ c = '\x27'
  first : name.head? ≠ some '.'
  last : ∃ c, name.getLast? = some c ∧ isWord c = true

/-- Letters, digits and minus signs, not beginning with a minus. -/
def IsDomainLabel (label : List Char) : Prop :=
  ∃ c rest, label = c :: rest ∧ IsAlphanumeric c ∧ ∀ d ∈ rest, IsAlphanumeric d ∨ d = '-'

/-- Labels with a dot behind each, one at least, and two letters or more. -/
def IsDomainPart (domain : List Char) : Prop :=
  ∃ labels top, domain = labels.flatMap (· ++ ['.']) ++ top ∧ labels ≠ [] ∧
    (∀ label ∈ labels, IsDomainLabel label) ∧ (∀ c ∈ top, Text.isLetter c = true) ∧ 2 ≤ top.length

/-- An e-mail address. -/
structure IsAddress (address : String) : Prop where
  parts : ∃ name domain, address.toList = name ++ '@' :: domain ∧ IsLocalPart name ∧
    IsDomainPart domain
  /-- No two dots stand in a row. -/
  dots : ¬['.', '.'] <:+: address.toList

/-! ### The check -/

theorem isLocal_iff {name : List Char} : isLocal name = true ↔ IsLocalPart name := by
  constructor
  · intro h
    simp only [isLocal, Bool.and_eq_true, List.all_eq_true, bne_iff_ne] at h
    obtain ⟨⟨hchars, hfirst⟩, hlast⟩ := h
    refine ⟨fun c hc => by simpa [or_assoc] using hchars c hc, hfirst, ?_⟩
    cases hname : name.getLast? with
    | none => simp [hname] at hlast
    | some c => exact ⟨c, rfl, by simpa [hname] using hlast⟩
  · rintro ⟨hchars, hfirst, c, hname, hlast⟩
    simp only [isLocal, hname, Bool.and_eq_true, List.all_eq_true, bne_iff_ne]
    exact ⟨⟨fun c hc => by simpa [or_assoc] using hchars c hc, hfirst⟩, hlast⟩

theorem isLabel_iff {label : List Char} : isLabel label = true ↔ IsDomainLabel label := by
  cases label with
  | nil => simp [isLabel, IsDomainLabel]
  | cons c rest => simp [isLabel, IsDomainLabel, IsAlphanumeric, or_assoc]

/-- A label holds no character of another kind. -/
theorem IsDomainLabel.notMem {label : List Char} (h : IsDomainLabel label) {other : Char}
    (hother : ¬IsAlphanumeric other) (hminus : other ≠ '-') : other ∉ label := by
  obtain ⟨c, rest, rfl, hc, hrest⟩ := h
  intro hmem
  rcases List.mem_cons.1 hmem with rfl | hmem
  · exact hother hc
  · exact (hrest _ hmem).elim hother hminus

theorem isDomain_iff {domain : List Char} : isDomain domain = true ↔ IsDomainPart domain := by
  constructor
  · intro h
    rw [isDomain] at h
    split at h
    next top label labels hpieces =>
      have hsplit : Text.splitAt '.' domain = (label :: labels).reverse ++ [top] := by
        rw [← List.reverse_reverse (Text.splitAt '.' domain), hpieces]
        simp
      have hnot : ∀ piece ∈ Text.splitAt '.' domain, '.' ∉ piece :=
        Text.notMem_of_mem_splitAt domain
      rw [hsplit, List.forall_mem_append, List.forall_mem_singleton] at hnot
      simp only [Bool.and_eq_true, List.all_eq_true, decide_eq_true_eq] at h
      obtain ⟨⟨hletters, htwo⟩, hlabels⟩ := h
      refine ⟨(label :: labels).reverse, top, ?_, by simp, fun l hl => ?_, hletters, htwo⟩
      · -- both are cut into the same pieces
        refine Text.splitAt_injective '.' ?_
        rw [hsplit, Text.splitAt_flatMap_append hnot.1 hnot.2]
      · exact isLabel_iff.1 (hlabels l (List.mem_reverse.1 hl))
    next => exact absurd h Bool.false_ne_true
  · rintro ⟨labels, top, rfl, hsome, hlabels, hletters, htwo⟩
    have htop : '.' ∉ top := fun hmem => absurd (hletters _ hmem) (by decide)
    have hdot : ∀ label ∈ labels, '.' ∉ label := fun label hl =>
      (hlabels label hl).notMem (by decide) (by decide)
    obtain ⟨label, rest, hreverse⟩ :=
      List.exists_cons_of_ne_nil (mt List.reverse_eq_nil_iff.1 hsome)
    rw [isDomain, Text.splitAt_flatMap_append hdot htop, List.reverse_append,
      List.reverse_singleton, List.singleton_append, hreverse]
    simp only [Bool.and_eq_true, List.all_eq_true, decide_eq_true_eq]
    refine ⟨⟨hletters, htwo⟩, fun l hl => isLabel_iff.2 (hlabels l ?_)⟩
    rw [← List.mem_reverse, hreverse]
    exact hl

theorem IsLocalPart.notMem_at {name : List Char} (h : IsLocalPart name) : '@' ∉ name := by
  intro hmem
  have hchar := h.chars _ hmem
  revert hchar
  decide

theorem IsDomainPart.notMem_at {domain : List Char} (h : IsDomainPart domain) : '@' ∉ domain := by
  obtain ⟨labels, top, rfl, -, hlabels, hletters, -⟩ := h
  rw [List.mem_append, List.mem_flatMap]
  rintro (⟨label, hl, hmem⟩ | hmem)
  · rcases List.mem_append.1 hmem with hmem | hmem
    · exact (hlabels label hl).notMem (by decide) (by decide) hmem
    · exact absurd (List.mem_singleton.1 hmem) (by decide)
  · exact absurd (hletters _ hmem) (by decide)

/-- What passes as an e-mail address is one. -/
theorem isValid_iff {address : String} : isValid address = true ↔ IsAddress address := by
  constructor
  · intro h
    rw [isValid] at h
    split at h
    next name domain hpieces =>
      obtain ⟨hparts, -, -⟩ := Text.splitAt_eq_pair_iff.1 hpieces
      simp only [Bool.and_eq_true, Bool.not_eq_true', Bool.eq_false_iff, ne_eq, Text.includes_iff]
        at h
      obtain ⟨⟨hname, hdomain⟩, hdots⟩ := h
      exact ⟨⟨name, domain, hparts, isLocal_iff.1 hname, isDomain_iff.1 hdomain⟩, hdots⟩
    next => exact absurd h Bool.false_ne_true
  · rintro ⟨⟨name, domain, hparts, hname, hdomain⟩, hdots⟩
    have hpieces : Text.splitAt '@' address.toList = [name, domain] :=
      Text.splitAt_eq_pair_iff.2 ⟨hparts, hname.notMem_at, hdomain.notMem_at⟩
    simp only [isValid, hpieces, Bool.and_eq_true, Bool.not_eq_true', Bool.eq_false_iff, ne_eq,
      Text.includes_iff]
    exact ⟨⟨isLocal_iff.2 hname, isDomain_iff.2 hdomain⟩, hdots⟩

end Email

end CorpusForge
