import CorpusForge.Config.Load

/-!
# What a reading gives

A reading *gives* a value when every type was right and no defect was found (`Reading.Gives`). Each
reader gives a value exactly when its parts do, and its own rules hold.
-/

namespace CorpusForge

namespace Reading

variable {α β : Type}

/-- The reading has a value and no defect. -/
def Gives (r : Reading α) (a : α) : Prop := r.value = some a ∧ r.issues = []

theorem result_eq_ok_iff {r : Reading α} {a : α} : r.result = .ok a ↔ r.Gives a := by
  obtain ⟨value, issues⟩ := r
  cases value <;> cases issues <;> simp [result, Gives]

theorem gives_ok_iff {a b : α} : (ok a).Gives b ↔ a = b := by simp [Gives, ok]

theorem not_gives_fail {issue : Issue} {a : α} : ¬(fail issue).Gives a := by simp [Gives, fail]

theorem gives_map_iff {f : α → β} {r : Reading α} {b : β} :
    (f <$> r).Gives b ↔ ∃ a, r.Gives a ∧ f a = b := by
  constructor
  · rintro ⟨hvalue, hissues⟩
    obtain ⟨a, ha, hb⟩ := Option.map_eq_some_iff.1 hvalue
    exact ⟨a, ⟨ha, hissues⟩, hb⟩
  · rintro ⟨a, ⟨hvalue, hissues⟩, rfl⟩
    exact ⟨Option.map_eq_some_iff.2 ⟨a, hvalue, rfl⟩, hissues⟩

theorem gives_seq_iff {f : Reading (α → β)} {r : Reading α} {b : β} :
    (f <*> r).Gives b ↔ ∃ g a, f.Gives g ∧ r.Gives a ∧ g a = b := by
  obtain ⟨fvalue, fissues⟩ := f
  obtain ⟨value, issues⟩ := r
  constructor
  · rintro ⟨hvalue, hissues⟩
    -- the issues of both are put together, so neither has any
    obtain ⟨hf, hr⟩ := List.append_eq_nil_iff.1 hissues
    cases fvalue with
    | none => simp [Seq.seq, Reading.seq] at hvalue
    | some g =>
      cases value with
      | none => simp [Seq.seq, Reading.seq] at hvalue
      | some a => exact ⟨g, a, ⟨rfl, hf⟩, ⟨rfl, hr⟩, Option.some.inj hvalue⟩
  · rintro ⟨g, a, ⟨hg, hf⟩, ⟨ha, hr⟩, rfl⟩
    simp only at hg hf ha hr
    simp [Gives, Seq.seq, Reading.seq, hg, hf, ha, hr]

theorem gives_check_iff {r : Reading α} {rule : α → List Issue} {a : α} :
    (r.check rule).Gives a ↔ r.Gives a ∧ rule a = [] := by
  obtain ⟨value, issues⟩ := r
  cases value with
  | none => simp [Gives, check]
  | some b =>
    simp only [Gives, check, Option.some.injEq, List.append_eq_nil_iff, and_assoc]
    refine and_congr_right fun h => ?_
    rw [h]

theorem gives_report_iff {r : Reading α} {issues : List Issue} {a : α} :
    (r.report issues).Gives a ↔ r.Gives a ∧ issues = [] := by
  simp [Gives, report, and_assoc]

end Reading

namespace Spot

open Reading

variable {α : Type} {spot : Spot}

theorem demand_eq_nil_iff {condition : Bool} {defect : Defect} :
    spot.demand condition defect = [] ↔ condition = true := by
  simp [demand]

theorem gives_text_iff {s : String} : spot.text.Gives s ↔ spot.value = some (.string s) := by
  rw [text]
  split
  next s' h => simp [h, gives_ok_iff]
  next h => exact ⟨fun hfail => absurd hfail not_gives_fail, fun hvalue => absurd hvalue (h s)⟩

theorem gives_number_iff {n : Number} :
    spot.number.Gives n ↔ spot.value = some (.number n) ∧ n ≠ .nan := by
  rw [number]
  split
  next h =>
    rw [h]
    refine ⟨fun hfail => absurd hfail not_gives_fail, ?_⟩
    rintro ⟨⟨⟩, hnan⟩
    exact absurd rfl hnan
  next n' hnan h =>
    rw [h, gives_ok_iff]
    constructor
    · rintro rfl
      exact ⟨rfl, hnan⟩
    · rintro ⟨⟨⟩, -⟩
      rfl
  next h =>
    exact ⟨fun hfail => absurd hfail not_gives_fail, fun ⟨hvalue, _⟩ => absurd hvalue (h n)⟩

theorem gives_flag_iff {b : Bool} : spot.flag.Gives b ↔ spot.value = some (.bool b) := by
  rw [flag]
  split
  next b' h => simp [h, gives_ok_iff]
  next h => exact ⟨fun hfail => absurd hfail not_gives_fail, fun hvalue => absurd hvalue (h b)⟩

theorem gives_whole_iff {limits : Number → List Defect} {n : Number} :
    (spot.whole limits).Gives n ↔ spot.number.Gives n ∧ n.isInteger = true ∧ limits n = [] := by
  simp [whole, gives_check_iff, demand_eq_nil_iff]

theorem gives_withDefault_iff {default a : α} {read : Spot → Reading α} :
    (spot.withDefault default read).Gives a ↔
      (spot.value = none ∧ default = a) ∨ (spot.value ≠ none ∧ (read spot).Gives a) := by
  rw [withDefault]
  split <;> simp_all [gives_ok_iff]

/-- What holds of the default and of what the reader gives holds of what is given. -/
theorem of_gives_withDefault {P : α → Prop} {default a : α} {read : Spot → Reading α}
    (h : (spot.withDefault default read).Gives a) (hdefault : P default)
    (hread : (read spot).Gives a → P a) : P a := by
  rcases gives_withDefault_iff.1 h with ⟨-, rfl⟩ | ⟨-, hgiven⟩
  · exact hdefault
  · exact hread hgiven

theorem gives_record_iff {known : List String} {read : (String → Spot) → Reading α} {a : α} :
    (spot.record known read).Gives a ↔ ∃ fields, spot.value = some (.object fields) ∧
      (read fun key => ⟨Fields.get? key fields, spot.path ++ [key]⟩).Gives a ∧
      (fields.map Prod.fst).filter (fun key => !known.contains key) = [] := by
  rw [record]
  split
  · rename_i fields h
    simp [h, gives_report_iff, demand_eq_nil_iff, List.isEmpty_iff]
  · rename_i h
    simp only [wrongKind, not_gives_fail, false_iff, not_exists, not_and]
    exact fun fields h' => absurd h' (h fields)

theorem length_itemsFrom {read : Spot → Reading α} {path : List String} {index : Nat}
    {items : List Value} {as : List α} (h : (itemsFrom read path index items).Gives as) :
    as.length = items.length := by
  induction items generalizing index as with
  | nil => rw [← gives_ok_iff.1 h]; rfl
  | cons item rest ih =>
    obtain ⟨g, tail, hg, htail, rfl⟩ := gives_seq_iff.1 h
    obtain ⟨a, -, rfl⟩ := gives_map_iff.1 hg
    simp [ih htail]

theorem gives_list_iff {least : Nat} {read : Spot → Reading α} {as : List α} :
    (spot.list least read).Gives as ↔ ∃ items, spot.value = some (.array items) ∧
      least ≤ items.length ∧ (itemsFrom read spot.path 0 items).Gives as := by
  rw [list]
  split
  next items hvalue =>
    constructor
    · rintro ⟨has, hissues⟩
      obtain ⟨hleast, hnone⟩ := List.append_eq_nil_iff.1 hissues
      exact ⟨items, hvalue, of_decide_eq_true (demand_eq_nil_iff.1 hleast), has, hnone⟩
    · rintro ⟨_, heq, hleast, has, hnone⟩
      obtain ⟨⟨⟩⟩ := hvalue.symm.trans heq
      exact ⟨has, List.append_eq_nil_iff.2
        ⟨demand_eq_nil_iff.2 (decide_eq_true hleast), hnone⟩⟩
  next hvalue =>
    exact ⟨fun hfail => absurd hfail not_gives_fail, fun ⟨items, h, _⟩ => absurd h (hvalue items)⟩

/-- A list has as many items as were asked for at least. -/
theorem least_le_of_gives_list {least : Nat} {read : Spot → Reading α} {as : List α}
    (h : (spot.list least read).Gives as) : least ≤ as.length := by
  obtain ⟨items, -, hleast, hitems⟩ := gives_list_iff.1 h
  rw [length_itemsFrom hitems]
  exact hleast

theorem exists_gives_of_mem_itemsFrom {read : Spot → Reading α} {path : List String} {index : Nat}
    {items : List Value} {as : List α} (h : (itemsFrom read path index items).Gives as) :
    ∀ a ∈ as, ∃ item, (read item).Gives a := by
  induction items generalizing index as with
  | nil =>
    rw [← gives_ok_iff.1 h]
    exact fun _ hmem => absurd hmem List.not_mem_nil
  | cons item rest ih =>
    obtain ⟨g, tail, hg, htail, rfl⟩ := gives_seq_iff.1 h
    obtain ⟨a, ha, rfl⟩ := gives_map_iff.1 hg
    exact List.forall_mem_cons.2 ⟨⟨_, ha⟩, ih htail⟩

/-- Each item of a list is what its reader gives for some spot. -/
theorem exists_gives_of_gives_list {least : Nat} {read : Spot → Reading α} {as : List α}
    (h : (spot.list least read).Gives as) : ∀ a ∈ as, ∃ item, (read item).Gives a := by
  obtain ⟨items, -, -, hitems⟩ := gives_list_iff.1 h
  exact exists_gives_of_mem_itemsFrom hitems

theorem gives_pair_iff {read : Spot → Reading α} {a b : α} :
    (spot.pair read).Gives (a, b) ↔ ∃ first second, spot.value = some (.array [first, second]) ∧
      (read ⟨some first, spot.path ++ ["0"]⟩).Gives a ∧
      (read ⟨some second, spot.path ++ ["1"]⟩).Gives b := by
  have hboth : ∀ x y : Reading α, (Reading.seq (x.map Prod.mk) fun _ => y).Gives (a, b) ↔
      x.Gives a ∧ y.Gives b := fun x y => by
    refine gives_seq_iff.trans ⟨?_, fun ⟨ha, hb⟩ => ⟨_, b, gives_map_iff.2 ⟨a, ha, rfl⟩, hb, rfl⟩⟩
    rintro ⟨g, b', hg, hb, heq⟩
    obtain ⟨a', ha, rfl⟩ := gives_map_iff.1 hg
    cases heq
    exact ⟨ha, hb⟩
  rw [pair]
  split
  next first second more hvalue =>
    constructor
    · rintro ⟨hpair, hissues⟩
      obtain ⟨hmore, hnone⟩ := List.append_eq_nil_iff.1 hissues
      rw [demand_eq_nil_iff, List.isEmpty_iff] at hmore
      subst hmore
      exact ⟨first, second, hvalue, (hboth _ _).1 ⟨hpair, hnone⟩⟩
    · rintro ⟨first', second', heq, ha, hb⟩
      obtain ⟨⟨⟩⟩ := hvalue.symm.trans heq
      obtain ⟨hpair, hnone⟩ := (hboth _ _).2 ⟨ha, hb⟩
      exact ⟨hpair, List.append_eq_nil_iff.2 ⟨demand_eq_nil_iff.2 rfl, hnone⟩⟩
  next items hshort hvalue =>
    refine ⟨fun hfail => absurd hfail not_gives_fail, fun ⟨first, second, heq, _⟩ => ?_⟩
    obtain ⟨⟨⟩⟩ := hvalue.symm.trans heq
    exact absurd rfl (hshort first second [])
  next hother =>
    exact ⟨fun hfail => absurd hfail not_gives_fail,
      fun ⟨first, second, heq, _⟩ => absurd heq (hother _)⟩

end Spot

theorem Config.load_eq_ok_iff {env : Environment} {source : Value} {config : Config} :
    load env source = .ok config ↔
      ∃ value, source.interpolate env [] = .ok value ∧ (read ⟨some value, []⟩).Gives config := by
  rw [load]
  cases h : source.interpolate env [] with
  | error failure => simp [bind, Except.bind]
  | ok value =>
    simp only [bind, Except.bind, Except.ok.injEq, exists_eq_left', ← Reading.result_eq_ok_iff]
    split <;> simp_all

end CorpusForge
