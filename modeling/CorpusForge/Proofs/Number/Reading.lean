import CorpusForge.Number.Literal
import CorpusForge.Proofs.Number.Literal

/-!
# Numbers at the head of a text

A number is read from the longest literal that a text begins with, behind white space. What follows
the literal is not looked at. So a text is read as a whole only if nothing but white space follows
the literal, and every other text that begins with an acceptable number is taken for that number.

* `Number.leadingInteger_eq_some_iff`, `Number.leadingDecimal_eq_some_iff`: what is read;
* `ReadsHead`: a reader that takes the head of a text for the whole;
* `Number.reads_longest_literal`: which texts are accepted on the command line, and as what.
-/

namespace CorpusForge

/-! ### Signs -/

section Signs

variable {cs tail : List Char}

/-- A sign is taken where one is written. -/
theorem splitSign_written (sign : Sign) (h : tail.head? ≠ some '-' ∧ tail.head? ≠ some '+') :
    Number.splitSign (sign.written ++ tail) = (decide (sign = .minus), tail) := by
  cases sign with
  | plus => rfl
  | minus => rfl
  | none =>
    obtain ⟨hminus, hplus⟩ := h
    rw [Sign.written, List.nil_append]
    fun_cases Number.splitSign tail with
    | case1 rest => exact absurd rfl hminus
    | case2 rest => exact absurd rfl hplus
    | case3 => rfl

theorem exists_sign (cs : List Char) : ∃ sign : Sign,
    cs = sign.written ++ (Number.splitSign cs).2 := by
  fun_cases Number.splitSign cs with
  | case1 rest => exact ⟨.minus, rfl⟩
  | case2 rest => exact ⟨.plus, rfl⟩
  | case3 => exact ⟨.none, rfl⟩

/-- A numeral does not begin with a sign. -/
theorem head?_of_isNumeral (h : IsNumeral cs) (tail : List Char) :
    (cs ++ tail).head? ≠ some '-' ∧ (cs ++ tail).head? ≠ some '+' := by
  obtain ⟨hsome, hdigits⟩ := h
  obtain ⟨c, more, rfl⟩ := List.exists_cons_of_ne_nil hsome
  have hc := hdigits c List.mem_cons_self
  constructor <;>
  · rintro heq
    obtain rfl := Option.some.inj heq
    exact absurd hc (by decide)

end Signs

/-! ### Whole numbers -/

namespace WholeLiteral

variable {l : WholeLiteral} {cs rest : List Char}

/-- The digits are read to the last. -/
theorem takeWhile_of_isLongest (h : IsLongest written cs l rest) :
    rest.takeWhile Text.isDigit = [] :=
  h.eq_nil ⟨l.sign, _, isNumeral_append_takeWhile l.isNumeral rest⟩
    (List.append_assoc _ _ _).symm (List.takeWhile_prefix _)

/-- A literal is at the head of a text where a digit is. -/
theorem exists_prefix (sign : Sign) {tail : List Char} (h : tail.takeWhile Text.isDigit ≠ []) :
    ∃ l, written l <+: sign.written ++ tail :=
  ⟨⟨sign, _, h, fun _ => isDigit_of_mem_takeWhile⟩,
    (List.prefix_append_right_inj _).2 (List.takeWhile_prefix _)⟩

theorem number_eq (l : WholeLiteral) :
    Decimal.toNumber (decide (l.sign = .minus)) ⟨Text.digitsValue l.digits, 0⟩ = l.number := by
  have hrat : Decimal.toRat ⟨Text.digitsValue l.digits, 0⟩ = (l.size : Rat) := by
    rw [Decimal.toRat, Decimal.pow10, zpow_zero, mul_one]
    rfl
  rw [Decimal.toNumber_eq, hrat, number, Sign.apply]
  simp only [decide_eq_true_eq]

/-- Up to `2 ^ 53` the number is the integer that is written. -/
theorem denotes {l : WholeLiteral} (h : l.value.natAbs ≤ 2 ^ 53) : l.number.Denotes l.value := by
  have hsize : l.size ≤ 2 ^ 53 := by
    rw [value] at h
    split at h <;> omega
  have hreal : (Number.ofRat l.size).Denotes l.size := by
    have hexact := Number.ofRat_intCast (n := l.size) (by omega)
    rw [Int.cast_natCast] at hexact
    rw [hexact]
    exact ⟨rfl, rfl⟩
  rw [number, value, Sign.apply]
  split
  · rw [Int.cast_neg, Int.cast_natCast]
    exact hreal.neg
  · rw [Int.cast_natCast]
    exact hreal

end WholeLiteral

namespace Number

variable {text : List Char} {n : Number}

theorem leadingInteger_of_isLongest {l : WholeLiteral} {rest : List Char}
    (h : IsLongest WholeLiteral.written (text.dropWhile Text.isBlank) l rest) :
    leadingInteger text = some l.number := by
  have hend := WholeLiteral.takeWhile_of_isLongest h
  have hsign := splitSign_written l.sign (head?_of_isNumeral l.isNumeral rest)
  rw [leadingInteger, h.split, WholeLiteral.written, List.append_assoc, hsign]
  dsimp only
  rw [takeWhile_isDigit_append l.isNumeral.2 hend, if_neg l.isNumeral.1, WholeLiteral.number_eq]

/-- A whole number is what the longest literal at the head of a text denotes. -/
theorem leadingInteger_eq_some_iff :
    leadingInteger text = some n ↔ ∃ l rest,
      IsLongest WholeLiteral.written (text.dropWhile Text.isBlank) l rest ∧ l.number = n := by
  constructor
  · intro h
    obtain ⟨sign, hcs⟩ := exists_sign (text.dropWhile Text.isBlank)
    have hsome : (splitSign (text.dropWhile Text.isBlank)).2.takeWhile Text.isDigit ≠ [] :=
      fun hnone => Option.some_ne_none n (h.symm.trans (if_pos hnone))
    obtain ⟨l, hprefix⟩ := WholeLiteral.exists_prefix sign hsome
    rw [← hcs] at hprefix
    obtain ⟨l, rest, hl⟩ := exists_isLongest hprefix
    exact ⟨l, rest, hl, Option.some.inj ((leadingInteger_of_isLongest hl).symm.trans h)⟩
  · rintro ⟨l, rest, hl, rfl⟩
    exact leadingInteger_of_isLongest hl

/-- A numeral is read to its end. -/
theorem leadingInteger_of_isNumeral {cs : List Char} (h : IsNumeral cs) :
    leadingInteger cs = some (ofRat (Nat.ofDigitChars 10 cs 0)) := by
  obtain ⟨hsome, hdigits⟩ := id h
  obtain ⟨c, more, hcs⟩ := List.exists_cons_of_ne_nil hsome
  have hblank : ¬Text.isBlank c = true := by
    rw [isBlank_of_isDigit (hdigits c (hcs ▸ List.mem_cons_self))]
    exact Bool.false_ne_true
  have hbody : cs.dropWhile Text.isBlank = cs := by rw [hcs, List.dropWhile_cons_of_neg hblank]
  exact leadingInteger_of_isLongest (l := ⟨.none, cs, h⟩)
    ⟨hbody.trans (List.append_nil cs).symm, fun l' hprefix => (hbody ▸ hprefix).length_le⟩

end Number

/-! ### Decimals -/

namespace ExponentLiteral

variable {cs : List Char}

theorem head_not_digit (e : ExponentLiteral) (tail : List Char) :
    (e.written ++ tail).takeWhile Text.isDigit = [] := by
  rw [written, List.cons_append]
  rcases e.isMark with hmark | hmark <;> rw [hmark] <;> rfl

/-- An exponent that is not zero is one that is written. -/
theorem exists_of_leadingExponent_ne_zero (h : Number.leadingExponent cs ≠ 0) :
    ∃ e : ExponentLiteral, e.written <+: cs := by
  cases cs with
  | nil => exact absurd rfl h
  | cons mark rest =>
    rw [Number.leadingExponent] at h
    by_cases hmark : mark = 'e' ∨ mark = 'E'
    · obtain ⟨sign, hrest⟩ := exists_sign rest
      have hsome : (Number.splitSign rest).2.takeWhile Text.isDigit ≠ [] := by
        intro hnone
        simp [hmark, hnone, Text.digitsValue] at h
      obtain ⟨power, hprefix⟩ := WholeLiteral.exists_prefix sign hsome
      rw [← hrest] at hprefix
      exact ⟨⟨mark, power, hmark⟩, List.cons_prefix_cons.2 ⟨rfl, hprefix⟩⟩
    · exact absurd (if_neg hmark) h

theorem leadingExponent_written (e : ExponentLiteral) {rest : List Char}
    (hrest : rest.takeWhile Text.isDigit = []) :
    Number.leadingExponent (e.written ++ rest) = e.power.value := by
  have hsign := splitSign_written e.power.sign (head?_of_isNumeral e.power.isNumeral rest)
  rw [written, List.cons_append, Number.leadingExponent, if_pos e.isMark, WholeLiteral.written,
    List.append_assoc, hsign]
  dsimp only
  rw [takeWhile_isDigit_append e.power.isNumeral.2 hrest, WholeLiteral.value]
  simp only [decide_eq_true_eq]
  rfl

end ExponentLiteral

namespace DecimalLiteral

variable {l : DecimalLiteral} {cs rest : List Char}

/-- Nothing that follows could be read as a part of the literal. -/
structure IsEnd (l : DecimalLiteral) (rest : List Char) : Prop where
  digits : rest.takeWhile Text.isDigit = []
  exponent : l.exponent = none → Number.leadingExponent rest = 0
  point : l.exponent = none → l.places = none → rest.head? ≠ some '.'

theorem isEnd_of_isLongest (h : IsLongest written cs l rest) : IsEnd l rest := by
  obtain ⟨sign, whole, places, exponent, hnumeral⟩ := l
  -- a longer literal is found for each thing that might follow
  refine ⟨?_, ?_, ?_⟩
  · have hmore := List.takeWhile_prefix (l := rest) Text.isDigit
    cases exponent with
    | some e =>
      exact h.eq_nil ⟨sign, whole, places, some ⟨e.mark, ⟨e.power.sign, _,
        isNumeral_append_takeWhile e.power.isNumeral rest⟩, e.isMark⟩, hnumeral⟩
        (by simp [written, scaled, ExponentLiteral.written, WholeLiteral.written]) hmore
    | none =>
      have hlonger := isNumeral_append_takeWhile hnumeral rest
      cases places with
      | some p =>
        exact h.eq_nil ⟨sign, whole, some (p ++ rest.takeWhile Text.isDigit), none,
          by rwa [List.append_assoc] at hlonger⟩ (by simp [written, pointed, scaled]) hmore
      | none =>
        exact h.eq_nil ⟨sign, whole ++ rest.takeWhile Text.isDigit, none, none,
          by simpa using hlonger⟩ (by simp [written, pointed, scaled]) hmore
  · rintro rfl
    by_contra hpower
    obtain ⟨e, he⟩ := ExponentLiteral.exists_of_leadingExponent_ne_zero hpower
    have hnil := h.eq_nil ⟨sign, whole, places, some e, hnumeral⟩ (by simp [written, scaled]) he
    exact List.cons_ne_nil _ _ hnil
  · rintro rfl rfl hpoint
    obtain ⟨more, rfl⟩ : ∃ more, rest = '.' :: more := List.head?_eq_some_iff.1 hpoint
    have hnil := h.eq_nil ⟨sign, whole, some [], none, hnumeral⟩
      (by simp [written, pointed, scaled]) (List.prefix_append ['.'] more)
    exact List.cons_ne_nil _ _ hnil

theorem splitPlaces_pointed {places : Option (List Char)} {tail : List Char}
    (hplaces : ∀ c ∈ places.getD [], c.isDigit = true) (htail : tail.takeWhile Text.isDigit = [])
    (hpoint : places = none → tail.head? ≠ some '.') :
    Number.splitPlaces (pointed places ++ tail) = (places.getD [], tail) := by
  cases places with
  | none =>
    change Number.splitPlaces tail = ([], tail)
    fun_cases Number.splitPlaces tail with
    | case1 rest => exact absurd rfl (hpoint rfl)
    | case2 => rfl
  | some p =>
    have htake := takeWhile_isDigit_append hplaces htail
    have hdrop := dropWhile_isDigit_append hplaces htail
    exact Prod.ext htake hdrop

/-- The digits behind a point are written behind a point. -/
theorem exists_places (cs : List Char) : ∃ places : Option (List Char),
    pointed places <+: cs ∧ (Number.splitPlaces cs).1 = places.getD [] ∧
      ∀ c ∈ places.getD [], c.isDigit = true := by
  fun_cases Number.splitPlaces cs with
  | case1 rest =>
    exact ⟨some (rest.takeWhile Text.isDigit),
      List.cons_prefix_cons.2 ⟨rfl, List.takeWhile_prefix _⟩, rfl,
      fun _ => isDigit_of_mem_takeWhile⟩
  | case2 => exact ⟨none, List.nil_prefix, rfl, fun _ hc => absurd hc List.not_mem_nil⟩

/-- A literal is at the head of a text where a digit is, before a point or behind it. -/
theorem exists_prefix (sign : Sign) {tail : List Char}
    (h : ¬(tail.takeWhile Text.isDigit = [] ∧
      (Number.splitPlaces (tail.dropWhile Text.isDigit)).1 = [])) :
    ∃ l, written l <+: sign.written ++ tail := by
  obtain ⟨places, hprefix, hplaces, hdigits⟩ := exists_places (tail.dropWhile Text.isDigit)
  have hnumeral : IsNumeral (tail.takeWhile Text.isDigit ++ places.getD []) := by
    rw [hplaces, ← List.append_eq_nil_iff] at h
    exact ⟨h, fun c hc => (List.mem_append.1 hc).elim isDigit_of_mem_takeWhile (hdigits c)⟩
  refine ⟨⟨sign, _, places, none, hnumeral⟩, (List.prefix_append_right_inj _).2 ?_⟩
  conv_rhs => rw [← List.takeWhile_append_dropWhile (p := Text.isDigit) (l := tail)]
  rwa [List.prefix_append_right_inj, scaled, Option.elim_none, List.append_nil]

/-- The digits behind a sign are no sign. -/
theorem head?_ne_sign (l : DecimalLiteral) (tail : List Char) :
    (l.whole ++ (pointed l.places ++ tail)).head? ≠ some '-' ∧
      (l.whole ++ (pointed l.places ++ tail)).head? ≠ some '+' := by
  cases hwhole : l.whole with
  | cons c whole =>
    exact head?_of_isNumeral ⟨List.cons_ne_nil c whole, fun d hd =>
      l.isNumeral.2 d (List.mem_append_left _ (hwhole ▸ hd))⟩ _
  | nil =>
    cases hplaces : l.places with
    | some p => exact ⟨by simp [pointed], by simp [pointed]⟩
    | none => exact absurd (by simp [hwhole, hplaces]) l.isNumeral.1

theorem number_eq (l : DecimalLiteral) :
    Decimal.toNumber (decide (l.sign = .minus)) ⟨Text.digitsValue (l.whole ++ l.places.getD []),
      l.power - (l.places.getD []).length⟩ = l.number := by
  rw [Decimal.toNumber_eq, number, Sign.apply]
  simp only [decide_eq_true_eq]
  rfl

end DecimalLiteral

namespace Number

variable {text : List Char} {n : Number}

theorem leadingDecimal_of_isLongest {l : DecimalLiteral} {rest : List Char}
    (h : IsLongest DecimalLiteral.written (text.dropWhile Text.isBlank) l rest) :
    leadingDecimal text = some l.number := by
  obtain ⟨hdigits, hexponent, hpoint⟩ := DecimalLiteral.isEnd_of_isLongest h
  have hwhole : ∀ c ∈ l.whole, c.isDigit = true := fun c hc =>
    l.isNumeral.2 c (List.mem_append_left _ hc)
  have hplaces : ∀ c ∈ l.places.getD [], c.isDigit = true := fun c hc =>
    l.isNumeral.2 c (List.mem_append_right _ hc)
  -- what stands behind the digits, and behind the point
  have hscaled : (DecimalLiteral.scaled l.exponent ++ rest).takeWhile Text.isDigit = [] := by
    cases l.exponent with
    | some e => exact e.head_not_digit rest
    | none => exact hdigits
  have hpointed : (DecimalLiteral.pointed l.places ++
      (DecimalLiteral.scaled l.exponent ++ rest)).takeWhile Text.isDigit = [] := by
    cases l.places with
    | some p => rfl
    | none => exact hscaled
  have hsplit := DecimalLiteral.splitPlaces_pointed hplaces hscaled (fun hnone => by
    cases hexp : l.exponent with
    | some e => rcases e.isMark with hmark | hmark <;>
        simp [DecimalLiteral.scaled, ExponentLiteral.written, hmark]
    | none => exact hpoint hexp hnone)
  have hpower : leadingExponent (DecimalLiteral.scaled l.exponent ++ rest) = l.power := by
    rw [DecimalLiteral.power]
    cases hexp : l.exponent with
    | some e => exact e.leadingExponent_written hdigits
    | none => exact hexponent hexp
  have hsign := splitSign_written l.sign
    (l.head?_ne_sign (DecimalLiteral.scaled l.exponent ++ rest))
  rw [leadingDecimal, h.split, DecimalLiteral.written, List.append_assoc, List.append_assoc,
    List.append_assoc, hsign]
  dsimp only
  rw [takeWhile_isDigit_append hwhole hpointed, dropWhile_isDigit_append hwhole hpointed, hsplit]
  dsimp only
  rw [if_neg fun hnone => l.isNumeral.1 (by rw [hnone.1, hnone.2, List.append_nil]), hpower,
    DecimalLiteral.number_eq]

/-- A decimal is what the longest literal at the head of a text denotes. -/
theorem leadingDecimal_eq_some_iff :
    leadingDecimal text = some n ↔ ∃ l rest,
      IsLongest DecimalLiteral.written (text.dropWhile Text.isBlank) l rest ∧ l.number = n := by
  constructor
  · intro h
    obtain ⟨sign, hcs⟩ := exists_sign (text.dropWhile Text.isBlank)
    rw [leadingDecimal] at h
    dsimp only at h
    have hsome := fun hnone => Option.some_ne_none n (h.symm.trans (if_pos hnone))
    obtain ⟨l, hprefix⟩ := DecimalLiteral.exists_prefix sign hsome
    rw [← hcs] at hprefix
    obtain ⟨l, rest, hl⟩ := exists_isLongest hprefix
    exact ⟨l, rest, hl, Option.some.inj ((leadingDecimal_of_isLongest hl).symm.trans h)⟩
  · rintro ⟨l, rest, hl, rfl⟩
    exact leadingDecimal_of_isLongest hl

end Number

/-! ### Values on the command line -/

section Reading

variable {α : Type} {written : α → List Char} {number : α → Number} {IsAccepted : Number → Prop}
  {text : String} {defect : NumberDefect} {read : Except NumberDefect Number}

/-- What is read from a text, when that is the number at its head. -/
structure ReadsHead (written : α → List Char) (number : α → Number) (IsAccepted : Number → Prop)
    (text : String) (defect : NumberDefect) (read : Except NumberDefect Number) : Prop where
  /-- The longest literal at the head gives the number, whatever follows. -/
  accepts : ∀ n, read = .ok n ↔
    ∃ l rest, Begins written text l rest ∧ IsAccepted (number l) ∧ number l = n
  /-- All other texts have the one defect. -/
  refuses : read = .error defect ↔ ¬∃ l rest, Begins written text l rest ∧ IsAccepted (number l)
  /-- So the text is read as a whole if only white space follows the number, or there is none. -/
  whole : (∀ n, read = .ok n ↔ ∃ l, Fills written text l ∧ IsAccepted (number l) ∧ number l = n) ↔
    ¬∃ l rest, Begins written text l rest ∧ IsAccepted (number l) ∧
      ∃ c ∈ rest, Text.isBlank c = false

theorem whole_iff (hsolid : IsSolid written) (haccepts : ∀ n, read = .ok n ↔
      ∃ l rest, Begins written text l rest ∧ IsAccepted (number l) ∧ number l = n) :
    (∀ n, read = .ok n ↔ ∃ l, Fills written text l ∧ IsAccepted (number l) ∧ number l = n) ↔
      ¬∃ l rest, Begins written text l rest ∧ IsAccepted (number l) ∧
        ∃ c ∈ rest, Text.isBlank c = false := by
  constructor
  · rintro h ⟨l, rest, hl, hnumber, c, hc, hblank⟩
    obtain ⟨l', hfills, -, -⟩ := (h (number l)).1 ((haccepts _).2 ⟨l, rest, hl, hnumber, rfl⟩)
    obtain ⟨rest', hl', hrest'⟩ := (fills_iff hsolid).1 hfills
    obtain ⟨-, rfl⟩ := hl.unique hl'
    exact Bool.false_ne_true (hblank.symm.trans (hrest' c hc))
  · intro h n
    rw [haccepts]
    constructor
    · rintro ⟨l, rest, hl, hnumber, rfl⟩
      refine ⟨l, (fills_iff hsolid).2 ⟨rest, hl, fun c hc => ?_⟩, hnumber, rfl⟩
      by_contra hblank
      exact h ⟨l, rest, hl, hnumber, c, hc, Bool.eq_false_of_not_eq_true hblank⟩
    · rintro ⟨l, hfills, hnumber, rfl⟩
      obtain ⟨rest, hl, -⟩ := (fills_iff hsolid).1 hfills
      exact ⟨l, rest, hl, hnumber, rfl⟩

/-- A reader that looks for a number at the head, and accepts some numbers. -/
theorem readsHead {lead : Option Number} {accept : Number → Bool}
    (hread : read = match lead with
      | some n => if accept n then .ok n else .error defect
      | none => .error defect)
    (hsolid : IsSolid written)
    (hlead : ∀ n, lead = some n ↔ ∃ l rest, Begins written text l rest ∧ number l = n)
    (haccept : ∀ n, accept n = true ↔ IsAccepted n) :
    ReadsHead written number IsAccepted text defect read := by
  have haccepts : ∀ n, read = .ok n ↔
      ∃ l rest, Begins written text l rest ∧ IsAccepted (number l) ∧ number l = n := by
    intro n
    have hok : read = .ok n ↔ lead = some n ∧ accept n = true := by
      rw [hread]
      cases lead with
      | none => simp
      | some m =>
        by_cases hm : accept m = true
        · simp only [if_pos hm, Except.ok.injEq, Option.some.injEq]
          exact ⟨fun h => ⟨h, h ▸ hm⟩, And.left⟩
        · simp only [if_neg hm, reduceCtorEq, Option.some.injEq, false_iff, not_and]
          exact fun h => h ▸ hm
    rw [hok, hlead, haccept]
    constructor
    · rintro ⟨⟨l, rest, hl, rfl⟩, hn⟩
      exact ⟨l, rest, hl, hn, rfl⟩
    · rintro ⟨l, rest, hl, hn, rfl⟩
      exact ⟨⟨l, rest, hl, rfl⟩, hn⟩
  have hrefuses : read = .error defect ↔ ∀ n, read ≠ .ok n := by
    rw [hread]
    cases lead with
    | none => simp
    | some m => by_cases hm : accept m = true <;> simp [hm]
  refine ⟨haccepts, ?_, whole_iff hsolid haccepts⟩
  rw [hrefuses]
  constructor
  · rintro h ⟨l, rest, hl, hnumber⟩
    exact h _ ((haccepts _).2 ⟨l, rest, hl, hnumber, rfl⟩)
  · rintro h n hok
    obtain ⟨l, rest, hl, hnumber, -⟩ := (haccepts n).1 hok
    exact h ⟨l, rest, hl, hnumber⟩

end Reading

namespace Number

theorem isProbability_iff_not_lt (n : Number) :
    (n.isFinite && !n.lt (ofInt 0) && !(ofInt 1).lt n) = true ↔ n.IsProbability := by
  simp only [Bool.and_eq_true, Bool.not_eq_true']
  constructor
  · rintro ⟨⟨hfinite, hlow⟩, hhigh⟩
    rw [lt_eq_of_isFinite hfinite rfl, decide_eq_false_iff_not, not_lt] at hlow
    rw [lt_eq_of_isFinite rfl hfinite, decide_eq_false_iff_not, not_lt] at hhigh
    exact ⟨n.toRat, ⟨hfinite, rfl⟩, hlow, hhigh⟩
  · rintro ⟨q, ⟨hfinite, rfl⟩, hlow, hhigh⟩
    refine ⟨⟨hfinite, ?_⟩, ?_⟩
    · rw [lt_eq_of_isFinite hfinite rfl, decide_eq_false_iff_not, not_lt]
      exact hlow
    · rw [lt_eq_of_isFinite rfl hfinite, decide_eq_false_iff_not, not_lt]
      exact hhigh

/-- In a text that is a whole number there are white space, a sign and digits. -/
theorem mem_of_fills {text : String} {l : WholeLiteral} (h : Fills WholeLiteral.written text l)
    {c : Char} (hc : c ∈ text.toList) :
    Text.isBlank c = true ∨ c ∈ l.sign.written ∨ c.isDigit = true := by
  obtain ⟨before, after, hbefore, hafter, htext⟩ := h
  rw [htext] at hc
  rcases List.mem_append.1 hc with hc | hc
  · exact .inl (hbefore c hc)
  rcases List.mem_append.1 hc with hc | hc
  · exact .inr ((List.mem_append.1 hc).imp_right (l.isNumeral.2 c))
  · exact .inl (hafter c hc)

/-- What is read from a value on the command line. It is the number that is written at the head of
    the text, taken as far as it goes, and what follows is not looked at: a whole number if it is
    finite, and exact up to `2 ^ 53`; a decimal if it is from zero to one. Every other text is
    refused, with a message that quotes it. So a text is read as a whole if only white space follows
    the number, and otherwise a part of it is taken for the whole. -/
theorem reads_longest_literal (text : String) :
    ReadsHead WholeLiteral.written WholeLiteral.number (fun n => n.isFinite = true) text
      (.notAnInteger text) (readInteger text) ∧
    ReadsHead DecimalLiteral.written DecimalLiteral.number IsProbability text
      (.notAProbability text) (readProbability text) ∧
    (∀ l : WholeLiteral, l.value.natAbs ≤ 2 ^ 53 → l.number.Denotes l.value) ∧
    (NumberDefect.notAnInteger text).message =
      "Expected an integer but received \"" ++ text ++ "\"." ∧
    (NumberDefect.notAProbability text).message =
      "Expected a probability between 0 and 1 but received \"" ++ text ++ "\"." := by
  refine ⟨?_, ?_, fun l => WholeLiteral.denotes, rfl, rfl⟩
  · exact readsHead rfl WholeLiteral.isSolid (fun n => leadingInteger_eq_some_iff) fun n => Iff.rfl
  · exact readsHead rfl DecimalLiteral.isSolid (fun n => leadingDecimal_eq_some_iff)
      isProbability_iff_not_lt

/-- A number with a unit behind it is taken for the number. -/
theorem readInteger_unit :
    readInteger "10k" = .ok 10 ∧ ¬∃ l, Fills WholeLiteral.written "10k" l := by
  constructor
  · have hlead : leadingInteger "10k".toList = some (Decimal.toNumber false ⟨10, 0⟩) := rfl
    have hten : Decimal.toNumber false ⟨10, 0⟩ = 10 := Decimal.toNumber_natCast (by norm_num)
    rw [readInteger, hlead, hten]
    rfl
  · rintro ⟨l, h⟩
    rcases mem_of_fills (c := 'k') h (by simp) with hblank | hsign | hdigit
    · exact absurd hblank (by decide)
    · cases hl : l.sign <;> simp [hl, Sign.written] at hsign
    · exact absurd hdigit (by decide)

end Number

end CorpusForge
