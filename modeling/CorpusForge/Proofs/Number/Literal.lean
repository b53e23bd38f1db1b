import CorpusForge.Proofs.Number.Decimal
import CorpusForge.Proofs.Number.Digits
import CorpusForge.Text.Blank

/-!
# Number literals

How whole numbers and decimals are written, and which numbers they denote. A text that begins with a
literal begins with a longest one. A text that is a literal, apart from white space around it,
begins with just that literal, since no literal has white space in it.

* `WholeLiteral`, `DecimalLiteral`: how numbers are written;
* `IsLongest`: the longest literal at the head of a text;
* `Begins`, `Fills`, `fills_iff`: a text that begins with a literal, and one that is nothing else.
-/

namespace CorpusForge

/-! ### Literals -/

/-- The sign of a literal. -/
inductive Sign where
  | none
  | plus
  | minus
  deriving DecidableEq

namespace Sign

def written : Sign → List Char
  | none => []
  | plus => ['+']
  | minus => ['-']

/-- The number with the sign before it. -/
def apply (sign : Sign) (n : Number) : Number := if sign = minus then n.neg else n

end Sign

/-- Digits, and one at least. -/
def IsNumeral (cs : List Char) : Prop := cs ≠ [] ∧ ∀ c ∈ cs, c.isDigit = true

instance : DecidablePred IsNumeral := fun cs =>
  decidable_of_iff (cs ≠ [] ∧ cs.all Char.isDigit = true) (and_congr_right' List.all_eq_true)

/-- A whole number as it is written. -/
structure WholeLiteral where
  sign : Sign
  digits : List Char
  isNumeral : IsNumeral digits

namespace WholeLiteral

def written (l : WholeLiteral) : List Char := l.sign.written ++ l.digits

/-- The number without its sign. -/
def size (l : WholeLiteral) : Nat := Nat.ofDigitChars 10 l.digits 0

/-- The integer that is written. -/
def value (l : WholeLiteral) : Int := if l.sign = .minus then -l.size else l.size

/-- The number nearest to the integer; a zero keeps its sign. -/
def number (l : WholeLiteral) : Number := l.sign.apply (.ofRat l.size)

end WholeLiteral

/-- The power of ten behind a decimal. -/
structure ExponentLiteral where
  mark : Char
  power : WholeLiteral
  isMark : mark = 'e' ∨ mark = 'E'

def ExponentLiteral.written (e : ExponentLiteral) : List Char := e.mark :: e.power.written

/-- A decimal as it is written: digits, a point with digits behind it, an exponent. There is a digit
    on one side of the point. -/
structure DecimalLiteral where
  sign : Sign
  whole : List Char
  /-- The digits behind the point, if there is a point. -/
  places : Option (List Char)
  exponent : Option ExponentLiteral
  isNumeral : IsNumeral (whole ++ places.getD [])

namespace DecimalLiteral

/-- What is written behind the whole digits. -/
def pointed (places : Option (List Char)) : List Char := places.elim [] ('.' :: ·)

/-- What is written behind the digits. -/
def scaled (exponent : Option ExponentLiteral) : List Char :=
  exponent.elim [] ExponentLiteral.written

def written (l : DecimalLiteral) : List Char :=
  l.sign.written ++ (l.whole ++ (pointed l.places ++ scaled l.exponent))

/-- The power of ten that is written. -/
def power (l : DecimalLiteral) : Int := l.exponent.elim 0 fun e => e.power.value

/-- The number without its sign. -/
def size (l : DecimalLiteral) : Rat :=
  Nat.ofDigitChars 10 (l.whole ++ l.places.getD []) 0 *
    (10 : Rat) ^ (l.power - (l.places.getD []).length)

/-- The number nearest to the decimal; a zero keeps its sign. -/
def number (l : DecimalLiteral) : Number := l.sign.apply (.ofRat l.size)

end DecimalLiteral

/-! ### The longest literal -/

section Longest

variable {α : Type} {written : α → List Char} {text : String} {cs rest : List Char} {l : α}

/-- The longest of the literals that a text begins with, and what follows it. -/
structure IsLongest (written : α → List Char) (cs : List Char) (l : α) (rest : List Char) :
    Prop where
  split : cs = written l ++ rest
  longest : ∀ l', written l' <+: cs → (written l').length ≤ (written l).length

theorem exists_isLongest (h : written l <+: cs) : ∃ l rest, IsLongest written cs l rest := by
  -- there are no literals longer than the text
  induction hroom : cs.length - (written l).length using Nat.strongRecOn generalizing l with
  | ind room ih =>
    by_cases hlongest : ∀ l', written l' <+: cs → (written l').length ≤ (written l).length
    · obtain ⟨rest, hrest⟩ := h
      exact ⟨l, rest, hrest.symm, hlongest⟩
    · push Not at hlongest
      obtain ⟨l', hprefix, hlonger⟩ := hlongest
      have hfit := hprefix.length_le
      exact ih (cs.length - (written l').length) (by omega) hprefix rfl

theorem IsLongest.unique {l' : α} {rest' : List Char} (h : IsLongest written cs l rest)
    (h' : IsLongest written cs l' rest') : written l = written l' ∧ rest = rest' :=
  have hlength := Nat.le_antisymm (h'.longest l ⟨rest, h.split.symm⟩)
    (h.longest l' ⟨rest', h'.split.symm⟩)
  List.append_inj (h.split.symm.trans h'.split) hlength

/-- Nothing follows the longest literal that would make it longer. -/
theorem IsLongest.eq_nil (h : IsLongest written cs l rest) (l' : α) {more : List Char}
    (hl' : written l' = written l ++ more) (hmore : more <+: rest) : more = [] := by
  have hlength := h.longest l' (by
    rw [hl', h.split]
    exact (List.prefix_append_right_inj _).2 hmore)
  rw [hl', List.length_append] at hlength
  exact List.length_eq_zero_iff.1 (by omega)

/-- A text begins, behind white space, with a literal. It is taken as far as it goes. -/
def Begins (written : α → List Char) (text : String) (l : α) (rest : List Char) : Prop :=
  IsLongest written (text.toList.dropWhile Text.isBlank) l rest

/-- A text is a literal, apart from white space around it. -/
def Fills (written : α → List Char) (text : String) (l : α) : Prop :=
  ∃ before after, (∀ c ∈ before, Text.isBlank c = true) ∧ (∀ c ∈ after, Text.isBlank c = true) ∧
    text.toList = before ++ (written l ++ after)

/-- Literals are written without white space. -/
def IsSolid (written : α → List Char) : Prop :=
  ∀ l, written l ≠ [] ∧ ∀ c ∈ written l, Text.isBlank c = false

/-- A text that is a literal begins with it, and what follows is white space. -/
theorem fills_iff (hsolid : IsSolid written) :
    Fills written text l ↔
      ∃ rest, Begins written text l rest ∧ ∀ c ∈ rest, Text.isBlank c = true := by
  constructor
  · rintro ⟨before, after, hbefore, hafter, htext⟩
    obtain ⟨hsome, hword⟩ := hsolid l
    have hbody : text.toList.dropWhile Text.isBlank = written l ++ after := by
      obtain ⟨c, more, hhead⟩ := List.exists_cons_of_ne_nil hsome
      have hc : ¬Text.isBlank c = true := by
        rw [hword c (hhead ▸ List.mem_cons_self)]
        exact Bool.false_ne_true
      rw [htext, List.dropWhile_append_of_pos hbefore, hhead, List.cons_append,
        List.dropWhile_cons_of_neg hc]
    refine ⟨after, ⟨hbody, fun l' hprefix => ?_⟩, hafter⟩
    rw [hbody] at hprefix
    by_contra hlonger
    -- a longer literal would reach into the white space
    obtain ⟨more, hmore⟩ := List.prefix_of_prefix_length_le (List.prefix_append _ _) hprefix
      (Nat.le_of_not_le hlonger)
    rw [← hmore, List.prefix_append_right_inj] at hprefix
    cases more with
    | nil => exact hlonger (by rw [← hmore, List.append_nil])
    | cons c more =>
      have hmem : c ∈ after := hprefix.subset List.mem_cons_self
      have hblank := hafter c hmem
      have hsolid' := (hsolid l').2 c (by simp [← hmore])
      exact Bool.false_ne_true (hsolid'.symm.trans hblank)
  · rintro ⟨rest, hbegins, hrest⟩
    refine ⟨text.toList.takeWhile Text.isBlank, rest, fun c hc => ?_, hrest, ?_⟩
    · exact List.all_eq_true.1 List.all_takeWhile c hc
    · rw [← hbegins.split, List.takeWhile_append_dropWhile]

end Longest

/-! ### Digits -/

section Digits

variable {cs tail : List Char}

theorem takeWhile_isDigit_append (hcs : ∀ c ∈ cs, c.isDigit = true)
    (htail : tail.takeWhile Text.isDigit = []) : (cs ++ tail).takeWhile Text.isDigit = cs := by
  rw [List.takeWhile_append_of_pos (p := Text.isDigit) hcs, htail, List.append_nil]

theorem dropWhile_isDigit_append (hcs : ∀ c ∈ cs, c.isDigit = true)
    (htail : tail.takeWhile Text.isDigit = []) : (cs ++ tail).dropWhile Text.isDigit = tail := by
  have hdrop := List.takeWhile_append_dropWhile (p := Text.isDigit) (l := tail)
  rw [htail, List.nil_append] at hdrop
  rw [List.dropWhile_append_of_pos (p := Text.isDigit) hcs, hdrop]

theorem isDigit_of_mem_takeWhile {c : Char} (hc : c ∈ cs.takeWhile Text.isDigit) :
    c.isDigit = true := List.all_eq_true.1 List.all_takeWhile c hc

theorem isBlank_of_mem_sign {c : Char} {sign : Sign} (h : c ∈ sign.written) :
    Text.isBlank c = false := by
  cases sign with
  | none => exact absurd h List.not_mem_nil
  | plus => exact List.mem_singleton.1 h ▸ rfl
  | minus => exact List.mem_singleton.1 h ▸ rfl

theorem isBlank_of_isDigit {c : Char} (h : c.isDigit = true) : Text.isBlank c = false := by
  have hrange : 48 ≤ c.toNat ∧ c.toNat ≤ 57 := Decimal.toNat_of_isDigit h
  simp only [Text.isBlank, Bool.or_eq_false_iff, Bool.and_eq_false_iff, decide_eq_false_iff_not,
    beq_eq_false_iff_ne]
  omega

theorem isNumeral_append_takeWhile (h : IsNumeral cs) (tail : List Char) :
    IsNumeral (cs ++ tail.takeWhile Text.isDigit) :=
  ⟨List.append_ne_nil_of_left_ne_nil h.1 _, fun c hc =>
    (List.mem_append.1 hc).elim (h.2 c) isDigit_of_mem_takeWhile⟩

end Digits

/-! ### White space -/

namespace WholeLiteral

theorem isSolid : IsSolid written := by
  intro l
  refine ⟨List.append_ne_nil_of_right_ne_nil _ l.isNumeral.1, fun c hc => ?_⟩
  rcases List.mem_append.1 hc with hsign | hdigit
  · exact isBlank_of_mem_sign hsign
  · exact isBlank_of_isDigit (l.isNumeral.2 c hdigit)

end WholeLiteral

namespace DecimalLiteral

theorem isSolid : IsSolid written := by
  intro l
  have hdigit : ∀ c ∈ l.whole ++ l.places.getD [], Text.isBlank c = false := fun c hc =>
    isBlank_of_isDigit (l.isNumeral.2 c hc)
  refine ⟨fun hnil => l.isNumeral.1 ?_, fun c hc => ?_⟩
  · obtain ⟨-, hrest⟩ := List.append_eq_nil_iff.1 hnil
    obtain ⟨hwhole, hpoint⟩ := List.append_eq_nil_iff.1 hrest
    cases hplaces : l.places with
    | some p => simp [pointed, hplaces] at hpoint
    | none => simp [hwhole]
  · rcases List.mem_append.1 hc with hsign | hc
    · exact isBlank_of_mem_sign hsign
    rcases List.mem_append.1 hc with hwhole | hc
    · exact hdigit c (List.mem_append_left _ hwhole)
    rcases List.mem_append.1 hc with hpoint | hpower
    · cases hplaces : l.places with
      | none => simp [pointed, hplaces] at hpoint
      | some p =>
        rw [pointed, hplaces] at hpoint
        rcases List.mem_cons.1 hpoint with rfl | hplace
        · rfl
        · exact hdigit c (List.mem_append_right _ (by rwa [hplaces]))
    · cases hexponent : l.exponent with
      | none => simp [scaled, hexponent] at hpower
      | some e =>
        rw [scaled, hexponent] at hpower
        rcases List.mem_cons.1 hpower with rfl | hpower
        · rcases e.isMark with hmark | hmark <;> rw [hmark] <;> rfl
        · exact (WholeLiteral.isSolid e.power).2 c hpower

end DecimalLiteral

end CorpusForge
