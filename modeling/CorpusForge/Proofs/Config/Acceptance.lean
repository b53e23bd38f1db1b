import CorpusForge.Config.Rules
import CorpusForge.Proofs.Config.Reading
import CorpusForge.Proofs.Number.Whole

/-!
# What readers accept

A reader *accepts* plain values of one form: it gives something for them, and for nothing else
(`Spot.Accepts`). The forms are said of the plain values alone, so that nothing is left of how and
in which order they are read.

* `Value.IsName`, `Value.IsInteger`, `Value.IsNumber`, `Value.IsFlag`, `Value.IsTable`,
  `Value.IsRange`, `Value.IsRecord`, `Value.Has`: the forms;
* `Spot.accepts_name`, `Spot.accepts_whole`, `Spot.accepts_limited`, `Spot.accepts_flag`,
  `Spot.accepts_list`, `Range.accepts_read`, `Spot.accepts_record`: what the readers accept.
-/

namespace CorpusForge

/-! ### Numbers -/

namespace Number

variable {a b : Number} {p q : Rat}

theorem Denotes.defectsBelow_iff (ha : a.Denotes p) {least : ℤ} (hleast : least.natAbs ≤ 2 ^ 53) :
    defectsBelow least a = [] ↔ (least : Rat) ≤ p := by
  rw [← not_lt, ← ha.lt_iff (denotes_ofInt hleast), defectsBelow]
  split <;> simp_all

theorem Denotes.defectsAbove_iff (ha : a.Denotes p) {greatest : ℤ}
    (hgreatest : greatest.natAbs ≤ 2 ^ 53) : defectsAbove greatest a = [] ↔ p ≤ greatest := by
  rw [← not_lt, ← (denotes_ofInt hgreatest).lt_iff ha, defectsAbove]
  split <;> simp_all

theorem Denotes.defectsPositive_iff (ha : a.Denotes p) : defectsPositive a = [] ↔ 0 < p := by
  have hzero : (real 0).Denotes 0 := ⟨rfl, rfl⟩
  rw [← not_le, ← ha.le_iff hzero, defectsPositive]
  split <;> simp_all

/-- A finite number within limits. -/
theorem limited_iff (hfinite : a.isFinite = true) {limits : List Defect} {r : Rat → Prop}
    (h : ∀ q, a.Denotes q → (limits = [] ↔ r q)) :
    a ≠ .nan ∧ limits = [] ↔ ∃ q, a.Denotes q ∧ r q := by
  have hdenotes : a.Denotes a.toRat := ⟨hfinite, rfl⟩
  rw [h _ hdenotes]
  constructor
  · rintro ⟨-, hr⟩
    exact ⟨_, hdenotes, hr⟩
  · rintro ⟨q, ⟨-, rfl⟩, hr⟩
    refine ⟨?_, hr⟩
    rintro rfl
    exact nomatch hfinite

end Number

/-! ### Forms -/

namespace Value

/-- A text of a kind. -/
def IsText (p : String → Prop) (v : Value) : Prop := ∃ s, v = .string s ∧ p s

/-- A text that is not empty. -/
def IsName : Value → Prop := IsText (· ≠ "")

/-- A number of a kind. -/
def IsNumber (p : Number → Prop) (v : Value) : Prop := ∃ number, v = .number number ∧ p number

/-- An integer of a kind. -/
def IsInteger (p : ℤ → Prop) : Value → Prop :=
  IsNumber fun number => ∃ k : ℤ, number.Denotes k ∧ p k

/-- A truth value. -/
def IsFlag (v : Value) : Prop := ∃ b, v = .bool b

/-- A list of items of one form, and of one item at least. -/
def IsTable (p : Value → Prop) (v : Value) : Prop :=
  ∃ items, v = .array items ∧ items ≠ [] ∧ ∀ item ∈ items, p item

/-- Two integers from `least` on, in order. -/
def IsRange (least : ℤ) (v : Value) : Prop :=
  ∃ low high, v = .array [.number low, .number high] ∧
    ∃ m n : ℤ, low.Denotes m ∧ high.Denotes n ∧ least ≤ m ∧ m ≤ n

/-- A record whose keys are all known. -/
def IsRecord (known : List String) (v : Value) : Prop :=
  ∃ fields, v = .object fields ∧ ∀ field ∈ fields, field.1 ∈ known

/-- A record with a field of a form. -/
def Has (key : String) (p : Value → Prop) (v : Value) : Prop :=
  ∃ value, v.get? key = some value ∧ p value

end Value

/-! ### Readers -/

namespace Reading

variable {α β : Type}

/-- The reading gives something. -/
def Succeeds (r : Reading α) : Prop := ∃ a, r.Gives a

instance (r : Reading α) : Decidable r.Succeeds :=
  decidable_of_iff (r.value.isSome = true ∧ r.issues.isEmpty = true) (by
    simp [Succeeds, Gives, Option.isSome_iff_exists])

theorem succeeds_map_iff {f : α → β} {r : Reading α} : (f <$> r).Succeeds ↔ r.Succeeds := by
  simp [Succeeds, gives_map_iff]

theorem succeeds_seq_iff {f : Reading (α → β)} {r : Reading α} :
    (f <*> r).Succeeds ↔ f.Succeeds ∧ r.Succeeds := by
  simp only [Succeeds, gives_seq_iff]
  constructor
  · rintro ⟨-, g, a, hg, ha, -⟩
    exact ⟨⟨g, hg⟩, a, ha⟩
  · rintro ⟨⟨g, hg⟩, a, ha⟩
    exact ⟨g a, g, a, hg, ha, rfl⟩

end Reading

namespace Spot

open Reading

variable {α : Type} {spot : Spot} {read : Spot → Reading α} {p : Value → Prop}

/-- A reader accepts the values of a form. -/
def Accepts (read : Spot → Reading α) (p : Value → Prop) : Prop :=
  ∀ spot, (read spot).Succeeds ↔ ∃ value, spot.value = some value ∧ p value

theorem accepts_text {q : String → Prop} {defect : Defect} {demanded : String → Bool}
    (h : ∀ s, demanded s = true ↔ q s) :
    Accepts (fun spot => spot.text.check fun s => spot.demand (demanded s) defect)
      (Value.IsText q) := by
  intro spot
  simp only [Succeeds, gives_check_iff, gives_text_iff, demand_eq_nil_iff, h, Value.IsText]
  constructor
  · rintro ⟨s, hvalue, hq⟩
    exact ⟨_, hvalue, s, rfl, hq⟩
  · rintro ⟨_, hvalue, s, rfl, hq⟩
    exact ⟨s, hvalue, hq⟩

theorem accepts_name : Accepts name Value.IsName := accepts_text fun _ => decide_eq_true_iff

theorem accepts_flag : Accepts flag Value.IsFlag := by
  intro spot
  simp only [Succeeds, gives_flag_iff, Value.IsFlag]
  constructor
  · rintro ⟨b, hvalue⟩
    exact ⟨_, hvalue, b, rfl⟩
  · rintro ⟨_, hvalue, b, rfl⟩
    exact ⟨b, hvalue⟩

/-- A number within limits. -/
theorem accepts_limited {limits : Number → List Defect} {q : Number → Prop}
    (h : ∀ number, number ≠ .nan ∧ limits number = [] ↔ q number) :
    Accepts (fun spot => spot.number.check fun n => (limits n).map spot.issue)
      (Value.IsNumber q) := by
  intro spot
  simp only [Succeeds, gives_check_iff, gives_number_iff, List.map_eq_nil_iff, and_assoc, h,
    Value.IsNumber]
  constructor
  · rintro ⟨n, hvalue, hq⟩
    exact ⟨_, hvalue, n, rfl, hq⟩
  · rintro ⟨_, hvalue, n, rfl, hq⟩
    exact ⟨n, hvalue, hq⟩

theorem gives_whole_iff_denotes {limits : Number → List Defect} {q : ℤ → Prop}
    (h : ∀ number (k : ℤ), number.Denotes k → (limits number = [] ↔ q k)) {n : Number} :
    (spot.whole limits).Gives n ↔
      spot.value = some (.number n) ∧ ∃ k : ℤ, n.Denotes k ∧ q k := by
  rw [gives_whole_iff, gives_number_iff, Number.isInteger_iff]
  constructor
  · rintro ⟨⟨hvalue, -⟩, ⟨k, hk⟩, hlimits⟩
    exact ⟨hvalue, k, hk, (h n k hk).1 hlimits⟩
  · rintro ⟨hvalue, k, hk, hq⟩
    refine ⟨⟨hvalue, ?_⟩, ⟨k, hk⟩, (h n k hk).2 hq⟩
    rintro rfl
    exact nomatch hk.1

/-- An integer within limits. -/
theorem accepts_whole {limits : Number → List Defect} {q : ℤ → Prop}
    (h : ∀ number (k : ℤ), number.Denotes k → (limits number = [] ↔ q k)) :
    Accepts (fun spot => spot.whole limits) (Value.IsInteger q) := by
  intro spot
  simp only [Succeeds, gives_whole_iff_denotes h, Value.IsInteger, Value.IsNumber]
  constructor
  · rintro ⟨n, hvalue, hq⟩
    exact ⟨_, hvalue, n, rfl, hq⟩
  · rintro ⟨_, hvalue, n, rfl, hq⟩
    exact ⟨n, hvalue, hq⟩

theorem defectsPositive_iff {number : Number} {k : ℤ} (hk : number.Denotes k) :
    number.defectsPositive = [] ↔ 1 ≤ k := by
  rw [hk.defectsPositive_iff, Int.cast_pos]
  exact Iff.rfl

theorem accepts_positive : Accepts positive (Value.IsInteger (1 ≤ ·)) :=
  accepts_whole fun _ _ => defectsPositive_iff

/-! ### Lists and pairs -/

theorem succeeds_itemsFrom_iff (h : Accepts read p) {path : List String} (index : Nat)
    {items : List Value} :
    (itemsFrom read path index items).Succeeds ↔ ∀ item ∈ items, p item := by
  induction items generalizing index with
  | nil => exact ⟨fun _ => List.forall_mem_nil _, fun _ => ⟨[], gives_ok_iff.2 rfl⟩⟩
  | cons item rest ih =>
    rw [List.forall_mem_cons, ← ih (index + 1)]
    refine succeeds_seq_iff.trans (and_congr_left' (succeeds_map_iff.trans ((h _).trans ?_)))
    simp

theorem accepts_list (h : Accepts read p) :
    Accepts (fun spot => spot.list 1 read) (Value.IsTable p) := by
  intro spot
  simp only [Succeeds, gives_list_iff, Value.IsTable]
  constructor
  · rintro ⟨as, items, hvalue, hsome, hitems⟩
    exact ⟨_, hvalue, items, rfl, List.length_pos_iff.1 hsome,
      (succeeds_itemsFrom_iff h 0).1 ⟨as, hitems⟩⟩
  · rintro ⟨_, hvalue, items, rfl, hsome, hall⟩
    obtain ⟨as, hitems⟩ := (succeeds_itemsFrom_iff h 0).2 hall
    exact ⟨as, items, hvalue, List.length_pos_iff.2 hsome, hitems⟩

/-! ### Records -/

/-- The keys of a record that are not known, of which there are none. -/
theorem filter_unknown_eq_nil_iff {known : List String} {fields : Fields} :
    (fields.map Prod.fst).filter (fun key => !known.contains key) = [] ↔
      ∀ field ∈ fields, field.1 ∈ known := by
  simp [List.filter_eq_nil_iff]

theorem succeeds_record_iff {known : List String} {readFields : (String → Spot) → Reading α} :
    (spot.record known readFields).Succeeds ↔ ∃ fields, spot.value = some (.object fields) ∧
      (∀ field ∈ fields, field.1 ∈ known) ∧
      (readFields fun key => ⟨Fields.get? key fields, spot.path ++ [key]⟩).Succeeds := by
  simp only [Succeeds, gives_record_iff, filter_unknown_eq_nil_iff]
  constructor
  · rintro ⟨a, fields, hvalue, hread, hkeys⟩
    exact ⟨fields, hvalue, hkeys, a, hread⟩
  · rintro ⟨fields, hvalue, hkeys, a, hread⟩
    exact ⟨a, fields, hvalue, hread, hkeys⟩

/-- A record with known keys only. -/
theorem accepts_record {known : List String} {readFields : (String → Spot) → Reading α}
    (h : ∀ fields path,
      (readFields fun key => ⟨Fields.get? key fields, path ++ [key]⟩).Succeeds ↔
        p (.object fields)) :
    Accepts (fun spot => spot.record known readFields) fun v => v.IsRecord known ∧ p v := by
  intro spot
  simp only [succeeds_record_iff, h, Value.IsRecord]
  constructor
  · rintro ⟨fields, hvalue, hkeys, hp⟩
    exact ⟨_, hvalue, ⟨fields, rfl, hkeys⟩, hp⟩
  · rintro ⟨_, hvalue, ⟨fields, rfl, hkeys⟩, hp⟩
    exact ⟨fields, hvalue, hkeys, hp⟩

/-- A reader accepts the values of a form, and that there is none. -/
def AcceptsOptional (read : Spot → Reading α) (p : Value → Prop) : Prop :=
  ∀ spot, (read spot).Succeeds ↔ ∀ value, spot.value = some value → p value

theorem Accepts.withDefault (h : Accepts read p) (default : α) :
    AcceptsOptional (fun spot => spot.withDefault default read) p := by
  intro spot
  beta_reduce
  rw [Spot.withDefault]
  split
  next hnone =>
    simp only [hnone]
    exact ⟨fun _ value hvalue => absurd hvalue (Option.some_ne_none value).symm,
      fun _ => ⟨default, gives_ok_iff.2 rfl⟩⟩
  next value hvalue => simp [h spot, hvalue]

end Spot

open Reading Spot in
/-- Two integers in order. -/
theorem Range.accepts_read {least : ℤ} (hleast : least.natAbs ≤ 2 ^ 53) :
    Spot.Accepts (read least) (Value.IsRange least) := by
  have hlimits : ∀ (number : Number) (k : ℤ), number.Denotes k →
      (Number.defectsBelow least number = [] ↔ least ≤ k) := fun number k hk => by
    rw [hk.defectsBelow_iff hleast, Int.cast_le]
  intro spot
  constructor
  · rintro ⟨range, hgives⟩
    obtain ⟨hmap, horder⟩ := gives_check_iff.1 hgives
    obtain ⟨⟨low, high⟩, hpair, rfl⟩ := gives_map_iff.1 hmap
    obtain ⟨first, second, hvalue, hlow, hhigh⟩ := gives_pair_iff.1 hpair
    obtain ⟨⟨⟩, m, hm, hleastm⟩ := (gives_whole_iff_denotes hlimits).1 hlow
    obtain ⟨⟨⟩, n, hn, -⟩ := (gives_whole_iff_denotes hlimits).1 hhigh
    have hle := (hm.le_iff hn).1 (demand_eq_nil_iff.1 horder)
    exact ⟨_, hvalue, low, high, rfl, m, n, hm, hn, hleastm, Int.cast_le.1 hle⟩
  · rintro ⟨_, hvalue, low, high, rfl, m, n, hm, hn, hleastm, hle⟩
    have hpair : (spot.pair fun item => item.whole (Number.defectsBelow least)).Gives (low, high) :=
      gives_pair_iff.2 ⟨_, _, hvalue, (gives_whole_iff_denotes hlimits).2 ⟨rfl, m, hm, hleastm⟩,
        (gives_whole_iff_denotes hlimits).2 ⟨rfl, n, hn, hleastm.trans hle⟩⟩
    exact ⟨⟨low, high⟩, gives_check_iff.2 ⟨gives_map_iff.2 ⟨(low, high), hpair, rfl⟩,
      demand_eq_nil_iff.2 ((hm.le_iff hn).2 (Int.cast_le.2 hle))⟩⟩

end CorpusForge
