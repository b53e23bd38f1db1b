import CorpusForge.Proofs.Number.Digits
import CorpusForge.Proofs.Text.Order
import CorpusForge.Spec

/-!
# Seeds that differ in one place

A step of the hash can be undone: what was multiplied by an odd number is divided by it, and what
was mixed in is mixed in once more. So two rows of code units that differ in one unit have different
hashes, whatever stands before and behind it. Numbers are written in characters of one unit each,
so two repositories whose numbers differ in one digit have different generators.

* `hashStep_left_inj`, `hashStep_right_inj`: a step is undone;
* `foldl_hashStep_inj`: so are several;
* `Number.toNat_lt_of_mem_text`: the characters of numbers;
* `Gen.tells_single_changes`: seeds and repositories.
-/

namespace CorpusForge

/-! ### Steps -/

section

variable {hash hash' : UInt32} {a b : Nat}

theorem mul_prime_inj : hash * 16777619 = hash' * 16777619 ↔ hash = hash' := by
  refine ⟨fun h => ?_, fun h => by rw [h]⟩
  have hinverse : (16777619 * 899433627 : UInt32) = 1 := by decide
  calc
    hash = hash * 16777619 * 899433627 := by rw [UInt32.mul_assoc, hinverse, UInt32.mul_one]
    _ = hash' * 16777619 * 899433627 := by rw [h]
    _ = hash' := by rw [UInt32.mul_assoc, hinverse, UInt32.mul_one]

theorem hashStep_left_inj (unit : Nat) :
    hashStep hash unit = hashStep hash' unit ↔ hash = hash' := by
  rw [hashStep, hashStep, mul_prime_inj, UInt32.xor_left_inj]

theorem hashStep_right_inj (ha : a < 2 ^ 32) (hb : b < 2 ^ 32) :
    hashStep hash a = hashStep hash b ↔ a = b := by
  rw [hashStep, hashStep, mul_prime_inj, UInt32.xor_right_inj, ← UInt32.toNat_inj,
    UInt32.toNat_ofNat_of_lt' ha, UInt32.toNat_ofNat_of_lt' hb]

/-- What comes behind does not make different hashes equal. -/
theorem foldl_hashStep_inj (units : List Nat) :
    units.foldl hashStep hash = units.foldl hashStep hash' ↔ hash = hash' := by
  induction units generalizing hash hash' with
  | nil => rfl
  | cons unit rest ih => rw [List.foldl_cons, List.foldl_cons, ih, hashStep_left_inj]

end

/-! ### Rows of units -/

/-- The hash of a row of code units. -/
def unitsHash (units : List Nat) : UInt32 := units.foldl hashStep 2166136261

theorem seedHash_eq_unitsHash (text : String) : seedHash text = unitsHash (Text.units text) :=
  Text.foldUnits_eq _ _ _

theorem unitsHash_inj {a b : Nat} (ha : a < 2 ^ 32) (hb : b < 2 ^ 32) (front rest : List Nat) :
    unitsHash (front ++ a :: rest) = unitsHash (front ++ b :: rest) ↔ a = b := by
  rw [unitsHash, unitsHash, List.foldl_append, List.foldl_append, List.foldl_cons, List.foldl_cons,
    foldl_hashStep_inj, hashStep_right_inj ha hb]

/-! ### Written numbers -/

namespace Decimal

/-- A character that finite numbers are written with. -/
def IsMark (c : Char) : Prop := c.isDigit = true ∨ c ∈ ['.', 'e', '+', '-']

theorem isMark_of_mem_digitsOf {n : Nat} {c : Char} (h : c ∈ digitsOf n) : IsMark c :=
  .inl (Nat.isDigit_of_mem_toDigits (by norm_num) (by norm_num) h)

theorem isMark_of_mem_layout {digits : List Char} (h : ∀ c ∈ digits, IsMark c) (point : Int) :
    ∀ c ∈ layout digits point, IsMark c := by
  have hzero : IsMark '0' := .inl rfl
  have hdot : IsMark '.' := .inr (by decide)
  have hzeros : ∀ n, ∀ c ∈ List.replicate n '0', IsMark c := fun n c hc => by
    rwa [List.eq_of_mem_replicate hc]
  simp only [layout]
  split
  · exact List.forall_mem_append.2 ⟨h, hzeros _⟩
  split
  · refine List.forall_mem_append.2 ⟨fun c hc => h c (List.mem_of_mem_take hc), ?_⟩
    exact List.forall_mem_cons.2 ⟨hdot, fun c hc => h c (List.mem_of_mem_drop hc)⟩
  split
  · refine List.forall_mem_cons.2 ⟨hzero, List.forall_mem_cons.2 ⟨hdot, ?_⟩⟩
    exact List.forall_mem_append.2 ⟨hzeros _, h⟩
  · have htail : ∀ c ∈ 'e' :: (if point - 1 < 0 then '-' else '+') ::
        digitsOf (point - 1).natAbs, IsMark c := by
      refine List.forall_mem_cons.2 ⟨.inr (by decide), List.forall_mem_cons.2 ⟨?_, ?_⟩⟩
      · split <;> exact .inr (by decide)
      · exact fun c => isMark_of_mem_digitsOf
    match digits with
    | [] => exact List.forall_mem_nil _
    | [d] => exact List.forall_mem_cons.2 ⟨h d List.mem_cons_self, htail⟩
    | d :: e :: rest =>
      obtain ⟨hd, hrest⟩ := List.forall_mem_cons.1 h
      refine List.forall_mem_cons.2 ⟨hd, List.forall_mem_cons.2 ⟨hdot, ?_⟩⟩
      exact List.forall_mem_append.2 ⟨hrest, htail⟩

/-- What is looked up character by character. -/
theorem toNat_lt_of_all {cs : List Char} (h : (cs.all fun c => c.toNat < 128) = true) :
    ∀ c ∈ cs, c.toNat < 128 :=
  fun c hc => of_decide_eq_true (List.all_eq_true.1 h c hc)

theorem IsMark.toNat_lt {c : Char} (h : IsMark c) : c.toNat < 128 := by
  rcases h with hdigit | hmark
  · have hbound := (toNat_of_isDigit hdigit).2
    have hzero : '0'.toNat = 48 := rfl
    omega
  · exact toNat_lt_of_all (by decide) c hmark

end Decimal

namespace Number

theorem isMark_of_mem_positiveText (q : Rat) : ∀ c ∈ positiveText q, Decimal.IsMark c := by
  rw [positiveText]
  split
  · exact fun c => Decimal.isMark_of_mem_digitsOf
  · exact Decimal.isMark_of_mem_layout (fun c => Decimal.isMark_of_mem_digitsOf) _

/-- The text of a number is ASCII. -/
theorem toNat_lt_of_mem_text (n : Number) : ∀ c ∈ n.text.toList, c.toNat < 128 := by
  have hpositive : ∀ q, ∀ c ∈ positiveText q, c.toNat < 128 := fun q c hc =>
    (isMark_of_mem_positiveText q c hc).toNat_lt
  cases n with
  | nan => exact Decimal.toNat_lt_of_all (by decide)
  | infinite negative => cases negative <;> exact Decimal.toNat_lt_of_all (by decide)
  | negZero => exact Decimal.toNat_lt_of_all (by decide)
  | real q =>
    rw [text]
    split
    · exact Decimal.toNat_lt_of_all (by decide)
    split
    · rw [String.toList_ofList]
      exact List.forall_mem_cons.2 ⟨by decide, hpositive _⟩
    · rw [String.toList_ofList]
      exact hpositive q

end Number

/-! ### One change -/

/-- Two rows of one length that differ in exactly one place. -/
def DifferOnce {α : Type} (xs ys : List α) : Prop :=
  xs.length = ys.length ∧ ∃! k : Nat, xs[k]? ≠ ys[k]?

/-- Items that are exchanged for others make rows that differ once. -/
theorem differOnce_append {α : Type} {x y : α} (hne : x ≠ y) (front rest : List α) :
    DifferOnce (front ++ x :: rest) (front ++ y :: rest) := by
  refine ⟨by simp only [List.length_append, List.length_cons], front.length, ?_, fun k hk => ?_⟩
  · simp only [List.getElem?_append_right le_rfl, Nat.sub_self, List.getElem?_cons_zero]
    exact fun h => hne (Option.some_inj.1 h)
  · by_contra hother
    refine hk ?_
    rw [List.getElem?_append, List.getElem?_append]
    split
    next => rfl
    next hbehind =>
      obtain ⟨i, hi⟩ : ∃ i, k - front.length = i + 1 := ⟨k - front.length - 1, by omega⟩
      rw [hi, List.getElem?_cons_succ, List.getElem?_cons_succ]

theorem DifferOnce.exists_split {α : Type} {xs ys : List α} (h : DifferOnce xs ys) :
    ∃ front x y rest, x ≠ y ∧ xs = front ++ x :: rest ∧ ys = front ++ y :: rest := by
  obtain ⟨hlength, k, hk, honly⟩ := h
  have helse : ∀ i, i ≠ k → xs[i]? = ys[i]? := fun i hi => by
    by_contra hne
    exact hi (honly i hne)
  have hx : k < xs.length := by
    by_contra hbeyond
    refine hk ?_
    rw [List.getElem?_eq_none (not_lt.1 hbeyond),
      List.getElem?_eq_none (hlength ▸ not_lt.1 hbeyond)]
  have hy : k < ys.length := hlength ▸ hx
  have hfront : xs.take k = ys.take k := List.ext_getElem? fun i => by
    rw [List.getElem?_take, List.getElem?_take]
    split
    next hi => exact helse i hi.ne
    next => rfl
  have hrest : xs.drop (k + 1) = ys.drop (k + 1) := List.ext_getElem? fun i => by
    rw [List.getElem?_drop, List.getElem?_drop]
    exact helse _ (by omega)
  refine ⟨xs.take k, xs[k], ys[k], xs.drop (k + 1), fun heq => hk ?_, ?_, ?_⟩
  · rw [List.getElem?_eq_getElem hx, List.getElem?_eq_getElem hy, heq]
  · rw [← List.drop_eq_getElem_cons, List.take_append_drop]
  · rw [hfront, hrest, ← List.drop_eq_getElem_cons, List.take_append_drop]

/-- Two texts that differ in one unit have different hashes. -/
theorem seedHash_ne_of_differOnce {s t : String}
    (h : DifferOnce (Text.units s) (Text.units t)) : seedHash s ≠ seedHash t := by
  obtain ⟨front, a, b, rest, hne, hs, ht⟩ := h.exists_split
  have ha := Text.lt_of_mem_units (hs ▸ List.mem_append_right _ List.mem_cons_self : a ∈ _)
  have hb := Text.lt_of_mem_units (ht ▸ List.mem_append_right _ List.mem_cons_self : b ∈ _)
  rw [seedHash_eq_unitsHash, seedHash_eq_unitsHash, hs, ht, ne_eq,
    unitsHash_inj (by omega) (by omega)]
  exact hne

/-- Two texts that differ in one ASCII character have different hashes. -/
theorem seedHash_ne {s t : String} {front rest : List Char} {c d : Char} (hne : c ≠ d)
    (hc : c.toNat < 128) (hd : d.toNat < 128) (hs : s.toList = front ++ c :: rest)
    (ht : t.toList = front ++ d :: rest) : seedHash s ≠ seedHash t := by
  have hunits : ∀ {c : Char}, c.toNat < 128 → Text.charUnits c = [c.toNat] := fun {c} hc => by
    rw [Text.charUnits, if_pos (by omega)]
  rw [seedHash_eq_unitsHash, seedHash_eq_unitsHash, Text.units, Text.units, hs, ht]
  simp only [List.flatMap_append, List.flatMap_cons, hunits hc, hunits hd, List.singleton_append]
  rw [ne_eq, unitsHash_inj (by omega) (by omega), Char.toNat_inj]
  exact hne

namespace Gen

/-- A single change of a seed is told. The hash of a text is that of its UTF-16 units. Two rows of
    units that differ in one unit have different hashes, whatever stands before and behind it, and
    so have two texts. So, under one seed of a run, two repositories whose numbers are written
    equally long and differ in one digit have generators that start at different places. -/
theorem tells_single_changes :
    (∀ text, seedHash text = unitsHash (Text.units text)) ∧
      (∀ (front rest : List Nat) (a b : Nat), a < 2 ^ 16 → b < 2 ^ 16 → a ≠ b →
        unitsHash (front ++ a :: rest) ≠ unitsHash (front ++ b :: rest)) ∧
      (∀ s t : String, DifferOnce (Text.units s) (Text.units t) → seedHash s ≠ seedHash t) ∧
      ∀ (seed : String) (i j : Number), DifferOnce i.text.toList j.text.toList →
        (ofRepository seed i).counter ≠ (ofRepository seed j).counter := by
  refine ⟨seedHash_eq_unitsHash, fun front rest a b ha hb hne => ?_,
    fun _ _ => seedHash_ne_of_differOnce, fun seed i j hdiffer => ?_⟩
  · rw [ne_eq, unitsHash_inj (by omega) (by omega)]
    exact hne
  · obtain ⟨front, c, d, rest, hne, hi, hj⟩ := hdiffer.exists_split
    have hc := i.toNat_lt_of_mem_text c (hi ▸ List.mem_append_right _ List.mem_cons_self)
    have hd := j.toNat_lt_of_mem_text d (hj ▸ List.mem_append_right _ List.mem_cons_self)
    have hseeds : ∀ {id : Number} {tail : List Char}, id.text.toList = front ++ tail →
        (seed ++ ":" ++ id.text).toList = (seed.toList ++ ":".toList ++ front) ++ tail :=
      fun {id tail} hid => by
        rw [String.toList_append, String.toList_append, hid, List.append_assoc, List.append_assoc,
          List.append_assoc]
    have hhash := seedHash_ne hne hc hd (hseeds hi) (hseeds hj)
    intro hcounter
    exact hhash (UInt32.toNat_inj.1 hcounter)

/-- Two repositories in a row, and a half of a surrogate pair that is exchanged for another. -/
theorem tells_single_changes_neighbours :
    unitsHash ([0x61] ++ 0xD83D :: [0x62]) ≠ unitsHash ([0x61] ++ 0xDE00 :: [0x62]) ∧
      seedHash "a😀b" ≠ seedHash "a😁b" ∧
      DifferOnce (5001 : Number).text.toList (5002 : Number).text.toList ∧
      (ofRepository "test-seed" 5001).counter ≠ (ofRepository "test-seed" 5002).counter := by
  have hfirst : (5001 : Number).text.toList = ['5', '0', '0', '1'] := by decide +kernel
  have hsecond : (5002 : Number).text.toList = ['5', '0', '0', '2'] := by decide +kernel
  have hdiffer : DifferOnce (5001 : Number).text.toList (5002 : Number).text.toList := by
    rw [hfirst, hsecond]
    exact differOnce_append (by decide : '1' ≠ '2') ['5', '0', '0'] []
  have hsmile : Text.units "a😀b" = [0x61, 0xD83D, 0xDE00, 0x62] := by decide +kernel
  have hgrin : Text.units "a😁b" = [0x61, 0xD83D, 0xDE01, 0x62] := by decide +kernel
  have hhalves : DifferOnce (Text.units "a😀b") (Text.units "a😁b") := by
    rw [hsmile, hgrin]
    exact differOnce_append (by decide : 0xDE00 ≠ 0xDE01) [0x61, 0xD83D] [0x62]
  obtain ⟨-, hunits, htexts, hrepositories⟩ := tells_single_changes
  exact ⟨hunits _ _ _ _ (by decide) (by decide) (by decide), htexts _ _ hhalves, hdiffer,
    hrepositories _ _ _ hdiffer⟩

end Gen

end CorpusForge
