import CorpusForge.Proofs.Number.Reading
import CorpusForge.Proofs.Text
import CorpusForge.Version
import Mathlib.Data.List.DropRight

/-!
# The order of versions

A version is a row of numbers. Versions are ordered like rows that have been made equally long with
zeros, from the left on: a linear order, in which two versions are the same when they differ in
zeros at the head of a number and in zeros at the end of the row only.

* `Version.covers_iff`: the comparison of rows of numbers;
* `Version.bare`: what counts of a version;
* `Version.orders_numerically`: the order of versions, and the versions that are found in a text.
-/

namespace CorpusForge.Version

open Number

variable {m n : Nat} {as bs : List Nat} {u v w : String}

/-! ### Rows of numbers -/

/-- A row as it is compared. -/
def values (row : List Nat) : List Number := row.map fun n : Nat => real n

/-- A difference of exact numbers is exact enough to tell which one is greater. -/
theorem decideBy_natCast (hm : m < 2 ^ 53) (hn : n < 2 ^ 53) (equal : Bool) :
    decideBy (real m) (real n) equal = true ↔ n < m ∨ n = m ∧ equal = true := by
  have hzero : (ofInt 0).Denotes (0 : Int) := denotes_ofInt (by norm_num)
  have hm' : (real m).Denotes (m : Int) := ⟨rfl, by simp [toRat]⟩
  have hn' : (real n).neg.Denotes ((-n : Int) : Rat) := by
    rw [Int.cast_neg]
    exact Denotes.neg ⟨rfl, by simp [toRat]⟩
  have hdistance : (real m - real n).Denotes ((m + -n : Int) : Rat) := hm'.add hn' (by omega)
  rw [decideBy]
  split
  next heq =>
    rw [hdistance.eq_iff hzero, Int.cast_inj] at heq
    have hequal : n = m := by omega
    simp [hequal]
  next hne =>
    rw [hdistance.eq_iff hzero, Int.cast_inj] at hne
    rw [hzero.lt_iff hdistance, Int.cast_lt]
    omega

/-- A row as long as it is needed begins with its first number, or with a zero. -/
theorem rightpad_succ (n : Nat) (as : List Nat) :
    as.rightpad (n + 1) 0 = as.headD 0 :: as.tail.rightpad n 0 := by
  cases as with
  | nil => simp [List.rightpad, List.replicate_succ]
  | cons a as => simp [List.rightpad]

theorem covers_values (as bs : List Nat) :
    covers (values as) (values bs) =
      decideBy (real (as.headD 0 : Nat)) (real (bs.headD 0 : Nat))
        (covers (values as.tail) (values bs.tail)) := by
  have hzero : ofInt 0 = real (0 : Nat) := rfl
  rcases as with _ | ⟨a, as⟩ <;> rcases bs with _ | ⟨b, bs⟩ <;>
    simp only [values, List.map_nil, List.map_cons, covers, List.headD_nil, List.headD_cons,
      List.tail_nil, List.tail_cons, hzero]
  rfl

theorem headD_lt (has : ∀ a ∈ as, a < 2 ^ 53) : as.headD 0 < 2 ^ 53 := by
  cases as with
  | nil => norm_num
  | cons a as => exact has a List.mem_cons_self

/-- Rows are compared like rows made equally long. -/
theorem covers_iff (has : ∀ a ∈ as, a < 2 ^ 53) (hbs : ∀ b ∈ bs, b < 2 ^ 53)
    (hlength : as.length ≤ n) (hlength' : bs.length ≤ n) :
    covers (values as) (values bs) = true ↔
      bs.rightpad n 0 ≤ as.rightpad n 0 := by
  induction n generalizing as bs with
  | zero =>
    obtain rfl := List.length_eq_zero_iff.1 (Nat.le_zero.1 hlength)
    obtain rfl := List.length_eq_zero_iff.1 (Nat.le_zero.1 hlength')
    simp [values, covers]
  | succ n ih =>
    have hlength : as.tail.length ≤ n := by rw [List.length_tail]; omega
    have hlength' : bs.tail.length ≤ n := by rw [List.length_tail]; omega
    have htail : covers (values as.tail) (values bs.tail) = true ↔
        bs.tail.rightpad n 0 ≤ as.tail.rightpad n 0 :=
      ih (fun a ha => has a (List.mem_of_mem_tail ha))
        (fun b hb => hbs b (List.mem_of_mem_tail hb)) hlength hlength'
    rw [covers_values, decideBy_natCast (headD_lt has) (headD_lt hbs), htail, rightpad_succ,
      rightpad_succ, ← not_lt, ← not_lt, List.cons_lt_cons_iff]
    rcases Nat.lt_trichotomy (as.headD 0) (bs.headD 0) with hless | hequal | hmore
    · refine iff_of_false (fun h => h.elim hless.not_gt fun h => hless.ne' h.1) fun h => ?_
      exact h (.inl hless)
    · simp only [hequal, lt_irrefl, false_or, true_and]
    · refine iff_of_true (.inl hmore) fun h => h.elim hmore.not_gt fun h => hmore.ne' h.1

/-! ### What counts of a row -/

/-- Zeros at the end of a row do not count when rows are made equally long. -/
theorem rightpad_rdropWhile (hlength : as.length ≤ n) :
    (as.rdropWhile (· == 0)).rightpad n 0 = as.rightpad n 0 := by
  induction as using List.reverseRecOn with
  | nil => rfl
  | append_singleton as a ih =>
    rw [List.rdropWhile_concat]
    split
    next hzero =>
      obtain rfl : a = 0 := beq_iff_eq.1 hzero
      rw [List.length_append, List.length_singleton] at hlength
      rw [ih (by omega), List.rightpad, List.rightpad, List.append_assoc, List.length_append,
        List.length_singleton, List.singleton_append, ← List.replicate_succ]
      congr 2
      omega
    next => rfl

theorem rdropWhile_rightpad (n : Nat) (as : List Nat) :
    (as.rightpad n 0).rdropWhile (· == 0) = as.rdropWhile (· == 0) := by
  rw [List.rightpad]
  induction n - as.length with
  | zero => rw [List.replicate_zero, List.append_nil]
  | succ k ih =>
    rw [List.replicate_succ', ← List.append_assoc, List.rdropWhile_concat_pos _ _ _ (by simp), ih]

/-- Rows are made equal by zeros at their ends when they differ in such zeros only. -/
theorem rightpad_eq_iff (hlength : as.length ≤ n) (hlength' : bs.length ≤ n) :
    as.rightpad n 0 = bs.rightpad n 0 ↔ as.rdropWhile (· == 0) = bs.rdropWhile (· == 0) := by
  constructor <;> intro h
  · rw [← rdropWhile_rightpad n as, h, rdropWhile_rightpad]
  · rw [← rightpad_rdropWhile hlength, h, rightpad_rdropWhile hlength']

/-! ### What counts of a version -/

/-- A version: numerals with dots between them, each below `2 ^ 53`. -/
def IsRelease (version : String) : Prop :=
  ∀ part ∈ Text.splitAt '.' version.toList,
    IsNumeral part ∧ Nat.ofDigitChars 10 part 0 < 2 ^ 53

instance (version : String) : Decidable (IsRelease version) :=
  inferInstanceAs (Decidable (∀ part ∈ Text.splitAt '.' version.toList,
    IsNumeral part ∧ Nat.ofDigitChars 10 part 0 < 2 ^ 53))

/-- The numbers of a version. -/
def numbers (version : String) : List Nat :=
  (Text.splitAt '.' version.toList).map fun part => Nat.ofDigitChars 10 part 0

/-- What counts of a version: its numerals without the zeros at their heads, and without the empty
    ones that are left at the end. -/
def bare (version : String) : List (List Char) :=
  ((Text.splitAt '.' version.toList).map (List.dropWhile (· == '0'))).rdropWhile (· == [])

/-- The digits of a number. Of zero there are none. -/
def significant (n : Nat) : List Char := if n = 0 then [] else Decimal.digitsOf n

theorem significant_injective : Function.Injective significant := by
  intro m n h
  have hdigits : ∀ k, Decimal.digitsOf k ≠ [] := fun k => Nat.toDigits_ne_nil
  rw [significant, significant] at h
  split at h <;> split at h
  next hm hn => rw [hm, hn]
  next => exact absurd h.symm (hdigits n)
  next => exact absurd h (hdigits m)
  next => exact Decimal.digitsOf_injective h

/-- Digits without the zeros at their head are those of the number. -/
theorem dropWhile_zero {cs : List Char} (h : ∀ c ∈ cs, c.isDigit = true) :
    cs.dropWhile (· == '0') = significant (Nat.ofDigitChars 10 cs 0) := by
  induction cs with
  | nil => rfl
  | cons c cs ih =>
    obtain ⟨hc, hcs⟩ := List.forall_mem_cons.1 h
    by_cases hzero : c = '0'
    · subst hzero
      rw [List.dropWhile_cons_of_pos (by simp), ih hcs]
      rfl
    -- the first digit that is not zero fixes how many there are
    have hvalue : Nat.ofDigitChars 10 (c :: cs) 0 =
        10 ^ cs.length * (c.toNat - '0'.toNat) + Nat.ofDigitChars 10 cs 0 := by
      rw [Nat.ofDigitChars_cons, Nat.ofDigitChars_eq_ofDigitChars_zero, Nat.mul_zero, Nat.zero_add]
    have hfirst : 1 ≤ c.toNat - '0'.toNat := by
      have hrange := Decimal.toNat_of_isDigit hc
      have hne : c.toNat ≠ '0'.toNat := fun heq => hzero (Char.toNat_inj.1 heq)
      omega
    have hlow : 10 ^ cs.length ≤ Nat.ofDigitChars 10 (c :: cs) 0 := by
      rw [hvalue]
      exact Nat.le_add_right_of_le (Nat.le_mul_of_pos_right _ hfirst)
    have hhigh := Decimal.ofDigitChars_lt h
    generalize hn : Nat.ofDigitChars 10 (c :: cs) 0 = n at hlow hhigh
    have hpos : 0 < n := (Nat.pow_pos (by norm_num)).trans_le hlow
    have hlength : (c :: cs).length = (Decimal.digitsOf n).length := by
      have hmost := (Nat.length_toDigits_le_iff (n := n) (by norm_num : 1 < 10)
        (Nat.succ_pos cs.length)).2 hhigh
      have hleast := Decimal.lt_pow_length_digitsOf n
      have hmore : cs.length < (Decimal.digitsOf n).length :=
        (Nat.pow_lt_pow_iff_right (by norm_num)).1 (hlow.trans_lt hleast)
      exact Nat.le_antisymm hmore hmost
    rw [List.dropWhile_cons_of_neg (by simp [hzero]), significant, if_neg hpos.ne']
    refine (Decimal.eq_iff_ofDigitChars_eq h ?_ hlength).2 ?_
    · exact fun d hd => Nat.isDigit_of_mem_toDigits (by norm_num) (by norm_num) hd
    · rw [Decimal.ofDigitChars_digitsOf, hn]

theorem rdropWhile_map_significant (row : List Nat) :
    (row.map significant).rdropWhile (· == []) = (row.rdropWhile (· == 0)).map significant := by
  induction row using List.reverseRecOn with
  | nil => rfl
  | append_singleton row k ih =>
    have hempty : significant k = [] ↔ k = 0 := significant_injective.eq_iff (b := 0)
    rw [List.map_append, List.map_singleton, List.rdropWhile_concat, List.rdropWhile_concat, ih]
    by_cases hzero : k = 0
    · rw [if_pos (beq_iff_eq.2 (hempty.2 hzero)), if_pos (beq_iff_eq.2 hzero)]
    · rw [if_neg (mt beq_iff_eq.1 (mt hempty.1 hzero)), if_neg (mt beq_iff_eq.1 hzero),
        List.map_append, List.map_singleton]

theorem bare_eq (hv : IsRelease v) :
    bare v = ((numbers v).rdropWhile (· == 0)).map significant := by
  rw [← rdropWhile_map_significant, bare, numbers, List.map_map]
  congr 1
  exact List.map_congr_left fun part hpart => dropWhile_zero (hv part hpart).1.2

/-! ### Versions -/

theorem parts_eq (hv : IsRelease v) : parts v = values (numbers v) := by
  rw [parts, numbers, values, List.map_map]
  refine List.map_congr_left fun part hpart => ?_
  obtain ⟨hnumeral, hsmall⟩ := hv part hpart
  have hexact := ofRat_intCast (n := Nat.ofDigitChars 10 part 0) (by omega)
  rw [leadingInteger_of_isNumeral hnumeral, Option.getD_some]
  exact hexact

theorem lt_of_mem_numbers (hv : IsRelease v) : ∀ n ∈ numbers v, n < 2 ^ 53 := by
  intro n hn
  obtain ⟨part, hpart, rfl⟩ := List.mem_map.1 hn
  exact (hv part hpart).2

/-- Versions are compared like their rows, made as long as one likes. -/
theorem isAtLeast_iff (hu : IsRelease u) (hv : IsRelease v) (hlength : (numbers u).length ≤ n)
    (hlength' : (numbers v).length ≤ n) :
    isAtLeast u v = true ↔ (numbers v).rightpad n 0 ≤ (numbers u).rightpad n 0 := by
  rw [isAtLeast, parts_eq hu, parts_eq hv]
  exact covers_iff (lt_of_mem_numbers hu) (lt_of_mem_numbers hv) hlength hlength'

/-! ### Versions in a text -/

/-- Three numerals with dots between them. -/
def IsRow (row : List Char) : Prop :=
  ∃ major minor patch, IsNumeral major ∧ IsNumeral minor ∧ IsNumeral patch ∧
    row = major ++ '.' :: minor ++ '.' :: patch

variable {cs digits rest row : List Char}

theorem splitDigits_eq_some (h : splitDigits cs = some (digits, rest)) :
    IsNumeral digits ∧ cs = digits ++ rest := by
  rw [splitDigits, Option.ite_none_left_eq_some] at h
  obtain ⟨hsome, h⟩ := h
  obtain ⟨rfl, rfl⟩ := Prod.mk.inj (Option.some.inj h)
  exact ⟨⟨hsome, fun _ => isDigit_of_mem_takeWhile⟩, List.takeWhile_append_dropWhile.symm⟩

theorem splitDigits_append (hdigits : IsNumeral digits)
    (hrest : rest.takeWhile Text.isDigit = []) :
    splitDigits (digits ++ rest) = some (digits, rest) := by
  rw [splitDigits, takeWhile_isDigit_append hdigits.2 hrest,
    dropWhile_isDigit_append hdigits.2 hrest]
  exact if_neg hdigits.1

theorem exists_splitDigits (hdigits : IsNumeral digits) (rest : List Char) :
    ∃ pair, splitDigits (digits ++ rest) = some pair := by
  have htake : (digits ++ rest).takeWhile Text.isDigit = digits ++ rest.takeWhile Text.isDigit :=
    List.takeWhile_append_of_pos hdigits.2
  have hsome := (isNumeral_append_takeWhile hdigits rest).1
  rw [← htake] at hsome
  exact ⟨_, if_neg hsome⟩

theorem splitDotted_eq_some (h : splitDotted cs = some (digits, rest)) :
    IsNumeral digits ∧ cs = '.' :: (digits ++ rest) := by
  cases cs with
  | nil => exact absurd h (by simp [splitDotted])
  | cons c cs =>
    by_cases hc : c = '.'
    · subst hc
      obtain ⟨hdigits, rfl⟩ := splitDigits_eq_some h
      exact ⟨hdigits, rfl⟩
    · simp [splitDotted, hc] at h

/-- What is found at the head of a text is a row, and stands there. -/
theorem isRow_of_at? (h : at? cs = some row) : IsRow row ∧ row <+: cs := by
  simp only [at?, Option.bind_eq_bind, Option.bind_eq_some_iff, Prod.exists, Option.pure_def,
    Option.some.injEq] at h
  obtain ⟨major, rest, hmajor, minor, rest', hminor, patch, rest'', hpatch, rfl⟩ := h
  obtain ⟨hmajor', rfl⟩ := splitDigits_eq_some hmajor
  obtain ⟨hminor', rfl⟩ := splitDotted_eq_some hminor
  obtain ⟨hpatch', rfl⟩ := splitDotted_eq_some hpatch
  exact ⟨⟨major, minor, patch, hmajor', hminor', hpatch', rfl⟩, rest'', by simp⟩

/-- Where a row stands one is found. Its last numeral may go on. -/
theorem isSome_at? (hrow : IsRow row) (h : row <+: cs) : (at? cs).isSome = true := by
  obtain ⟨major, minor, patch, hmajor, hminor, hpatch, rfl⟩ := hrow
  obtain ⟨more, rfl⟩ := h
  obtain ⟨pair, hpair⟩ := exists_splitDigits hpatch more
  have hfirst : splitDigits (major ++ '.' :: (minor ++ '.' :: (patch ++ more))) =
      some (major, '.' :: (minor ++ '.' :: (patch ++ more))) := splitDigits_append hmajor rfl
  have hsecond : splitDotted ('.' :: (minor ++ '.' :: (patch ++ more))) =
      some (minor, '.' :: (patch ++ more)) := splitDigits_append hminor rfl
  have hthird : splitDotted ('.' :: (patch ++ more)) = some pair := hpair
  have hsplit : major ++ '.' :: minor ++ '.' :: patch ++ more =
      major ++ '.' :: (minor ++ '.' :: (patch ++ more)) := by simp
  rw [hsplit, at?]
  simp [hfirst, hsecond, hthird]

theorem search_cases (cs : List Char) :
    (∃ row, search cs = some row ∧ IsRow row ∧ row <:+: cs) ∨
      search cs = none ∧ ∀ row, IsRow row → ¬row <:+: cs := by
  induction cs with
  | nil =>
    refine .inr ⟨rfl, fun row hrow hinfix => ?_⟩
    obtain ⟨major, minor, patch, -, -, -, rfl⟩ := hrow
    simp at hinfix
  | cons c cs ih =>
    rw [search]
    cases hat : at? (c :: cs) with
    | some row =>
      obtain ⟨hrow, hprefix⟩ := isRow_of_at? hat
      exact .inl ⟨row, rfl, hrow, hprefix.isInfix⟩
    | none =>
      refine ih.imp (fun ⟨row, hfound, hrow, hinfix⟩ => ⟨row, hfound, hrow, List.infix_cons hinfix⟩)
        fun ⟨hnone, hall⟩ => ⟨hnone, fun row hrow hinfix => ?_⟩
      rcases List.infix_cons_iff.1 hinfix with hprefix | hinfix
      · have hsome := isSome_at? hrow hprefix
        rw [hat] at hsome
        exact Bool.false_ne_true hsome
      · exact hall row hrow hinfix

/-- The order of versions. One is at least another if its row of numbers is, in the lexicographic
    order, when zeros are put behind the shorter one. The order is linear, and two versions are each
    at least the other if they are the same but for zeros at the head of a numeral and numerals of
    zeros at the end. What is found in a text is, behind its letter, three numerals with dots
    between them that stand there, and something is found where such numerals stand. -/
theorem orders_numerically (hu : IsRelease u) (hv : IsRelease v) (hw : IsRelease w) :
    (isAtLeast u v = true ↔
      (numbers v).rightpad (max (numbers u).length (numbers v).length) 0 ≤
        (numbers u).rightpad (max (numbers u).length (numbers v).length) 0) ∧
    isAtLeast u u = true ∧
    (isAtLeast u v = true → isAtLeast v w = true → isAtLeast u w = true) ∧
    (isAtLeast u v = true ∨ isAtLeast v u = true) ∧
    (isAtLeast u v = true ∧ isAtLeast v u = true ↔ bare u = bare v) ∧
    (∀ text found, find? text = some found →
      ∃ row, IsRow row ∧ row <:+: text.toList ∧ found = String.ofList ('v' :: row)) ∧
    ∀ text, find? text = none ↔ ∀ row, IsRow row → ¬row <:+: text.toList := by
  -- one length for the three rows
  obtain ⟨n, hn, hn', hn''⟩ : ∃ n, (numbers u).length ≤ n ∧ (numbers v).length ≤ n ∧
      (numbers w).length ≤ n :=
    ⟨(numbers u).length + (numbers v).length + (numbers w).length, by omega, by omega, by omega⟩
  refine ⟨isAtLeast_iff hu hv (le_max_left _ _) (le_max_right _ _), ?_, ?_, ?_, ?_,
    fun text found hfound => ?_, fun text => ?_⟩
  · exact (isAtLeast_iff hu hu hn hn).2 le_rfl
  · rw [isAtLeast_iff hu hv hn hn', isAtLeast_iff hv hw hn' hn'', isAtLeast_iff hu hw hn hn'']
    exact fun h h' => h'.trans h
  · rw [isAtLeast_iff hu hv hn hn', isAtLeast_iff hv hu hn' hn]
    exact le_total _ _
  · rw [isAtLeast_iff hu hv hn hn', isAtLeast_iff hv hu hn' hn, bare_eq hu, bare_eq hv,
      (List.map_injective_iff.2 significant_injective).eq_iff, ← rightpad_eq_iff hn hn']
    exact ⟨fun h => le_antisymm h.2 h.1, fun h => ⟨h.ge, h.le⟩⟩
  · obtain ⟨row, hrow, rfl⟩ := Option.map_eq_some_iff.1 hfound
    rcases search_cases text.toList with ⟨row', hrow', hstands⟩ | ⟨hnone, -⟩
    · rw [hrow, Option.some.injEq] at hrow'
      subst hrow'
      exact ⟨row, hstands.1, hstands.2, rfl⟩
    · rw [hrow] at hnone
      exact absurd hnone (Option.some_ne_none row)
  · rw [find?, Option.map_eq_none_iff]
    rcases search_cases text.toList with ⟨row, hrow, hstands, hinfix⟩ | ⟨hnone, hall⟩
    · rw [hrow]
      exact iff_of_false (Option.some_ne_none row) fun h => h row hstands hinfix
    · exact iff_of_true hnone hall

theorem orders_numerically_three :
    (IsRelease "2.100.0" ∧ IsRelease "2.28" ∧ IsRelease "2.028.0") ∧
      isAtLeast "2.100.0" "2.028.0" = true ∧
      isAtLeast "2.28" "2.028.0" = true ∧ isAtLeast "2.028.0" "2.28" = true := by
  have hthree : IsRelease "2.100.0" ∧ IsRelease "2.28" ∧ IsRelease "2.028.0" := by decide
  obtain ⟨hu, hv, hw⟩ := hthree
  have hequal : isAtLeast "2.28" "2.028.0" = true ∧ isAtLeast "2.028.0" "2.28" = true :=
    (orders_numerically hv hw hu).2.2.2.2.1.2 (by decide)
  have hmore : isAtLeast "2.100.0" "2.28" = true := (orders_numerically hu hv hw).1.2 (by decide)
  exact ⟨⟨hu, hv, hw⟩, (orders_numerically hu hv hw).2.2.1 hmore hequal.1, hequal⟩

end CorpusForge.Version
