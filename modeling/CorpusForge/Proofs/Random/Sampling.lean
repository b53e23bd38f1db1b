import CorpusForge.Proofs.Random.Uniformity

/-!
# Samples

A sample is drawn by exchanging items: the first position that is not settled with one that is drawn
from it on, then the next one. So a sample is told by the indexes that are drawn
(`Drawing.run_shuffle`), and what it does to the items it does to their positions
(`Drawing.map_arrange`). The indexes and the positions that are chosen tell each other
(`Drawing.bijOn_selection`): every choice of positions in an order comes of exactly one list of
indexes (`Drawing.sample_selects`). The items that are sampled from stay as they are: a list is a
value, and the exchanges give another one.
-/

namespace CorpusForge

namespace Drawing

variable {ε α β : Type}

/-! ### Exchanges -/

theorem exchange_eq {items : List α} {i j : Nat} (hi : i < items.length) (hj : j < items.length) :
    exchange items i j = (items.set i items[j]).set j items[i] := by
  rw [exchange, List.getElem?_eq_getElem hi, List.getElem?_eq_getElem hj]

theorem perm_exchange (items : List α) (i j : Nat) : (exchange items i j).Perm items := by
  rw [exchange]
  split
  next a b ha hb =>
    obtain ⟨hi, rfl⟩ := List.getElem?_eq_some_iff.1 ha
    obtain ⟨hj, rfl⟩ := List.getElem?_eq_some_iff.1 hb
    exact List.set_set_perm hi hj
  next => exact List.Perm.refl _

theorem getElem?_exchange_first {items : List α} {i j : Nat} (hi : i < items.length)
    (hj : j < items.length) : (exchange items i j)[i]? = items[j]? := by
  rw [exchange_eq hi hj]
  by_cases h : i = j
  · simp [h, hj]
  · simp [hi, Ne.symm h]

theorem getElem?_exchange_second {items : List α} {i j : Nat} (hi : i < items.length)
    (hj : j < items.length) : (exchange items i j)[j]? = items[i]? := by
  rw [exchange_eq hi hj]
  simp [hi, hj]

theorem getElem?_exchange_of_ne {items : List α} {i j p : Nat} (hpi : p ≠ i) (hpj : p ≠ j) :
    (exchange items i j)[p]? = items[p]? := by
  rw [exchange]
  split
  next => rw [List.getElem?_set_ne hpj.symm, List.getElem?_set_ne hpi.symm]
  next => rfl

theorem map_exchange (f : α → β) (items : List α) (i j : Nat) :
    (exchange items i j).map f = exchange (items.map f) i j := by
  rw [exchange, exchange, List.getElem?_map, List.getElem?_map]
  cases items[i]? <;> cases items[j]? <;> simp

/-! ### Exchanges in a row -/

/-- Exchanges the positions from `settled` on with the indexes, in turn. -/
def arrange : (settled : Nat) → List α → (indexes : List Nat) → List α
  | _, items, [] => items
  | settled, items, j :: rest => arrange (settled + 1) (exchange items settled j) rest

theorem perm_arrange (settled : Nat) (items : List α) (indexes : List Nat) :
    (arrange settled items indexes).Perm items := by
  induction indexes generalizing settled items with
  | nil => exact List.Perm.refl _
  | cons j rest ih => exact (ih _ _).trans (perm_exchange _ _ _)

/-- The items do not matter to where they are put. -/
theorem map_arrange (f : α → β) (settled : Nat) (items : List α) (indexes : List Nat) :
    (arrange settled items indexes).map f = arrange settled (items.map f) indexes := by
  induction indexes generalizing settled items with
  | nil => rfl
  | cons j rest ih => rw [arrange, ih, map_exchange, ← arrange]

/-- Each index is one of the positions that are not settled when its turn comes. -/
def IsDrawn (count settled : Nat) (indexes : List Nat) : Prop :=
  ∀ i j, indexes[i]? = some j → settled + i ≤ j ∧ j < count

variable {count settled j : Nat} {rest indexes indexes' : List Nat} {items : List α}

theorem isDrawn_nil : IsDrawn count settled [] := fun _ _ h => nomatch h

theorem isDrawn_cons_iff :
    IsDrawn count settled (j :: rest) ↔
      (settled ≤ j ∧ j < count) ∧ IsDrawn count (settled + 1) rest := by
  constructor
  · refine fun h => ⟨h 0 j rfl, fun i k hk => ?_⟩
    obtain ⟨hleast, hmost⟩ := h (i + 1) k hk
    exact ⟨by omega, hmost⟩
  · rintro ⟨hhead, htail⟩ i k hk
    cases i with
    | zero =>
      obtain rfl : j = k := Option.some.inj hk
      exact hhead
    | succ i =>
      obtain ⟨hleast, hmost⟩ := htail i k hk
      exact ⟨by omega, hmost⟩

/-- What is settled stays where it is. -/
theorem getElem?_arrange_of_lt (h : IsDrawn count settled indexes) {p : Nat} (hp : p < settled) :
    (arrange settled items indexes)[p]? = items[p]? := by
  induction indexes generalizing settled items with
  | nil => rfl
  | cons j rest ih =>
    obtain ⟨⟨hleast, -⟩, hrest⟩ := isDrawn_cons_iff.1 h
    rw [arrange, ih hrest (by omega), getElem?_exchange_of_ne (by omega) (by omega)]

/-- The next position is settled with the item at the index that is drawn for it. -/
theorem getElem?_arrange_settled (h : IsDrawn items.length settled (j :: rest)) :
    (arrange settled items (j :: rest))[settled]? = items[j]? := by
  obtain ⟨⟨hleast, hmost⟩, hrest⟩ := isDrawn_cons_iff.1 h
  rw [arrange, getElem?_arrange_of_lt hrest (Nat.lt_succ_self _),
    getElem?_exchange_first (by omega) hmost]

/-- Of items none of which is there twice, what they settle on tells the indexes. -/
theorem eq_of_arrange_eq (hitems : items.Nodup) (h : IsDrawn items.length settled indexes)
    (h' : IsDrawn items.length settled indexes') (hlength : indexes.length = indexes'.length)
    (heq : ∀ p < settled + indexes.length,
      (arrange settled items indexes)[p]? = (arrange settled items indexes')[p]?) :
    indexes = indexes' := by
  induction indexes generalizing settled items indexes' with
  | nil => exact (List.length_eq_zero_iff.1 hlength.symm).symm
  | cons j rest ih =>
    cases indexes' with
    | nil => exact nomatch hlength
    | cons j' rest' =>
      rw [List.length_cons] at heq
      have hfirst := heq settled (by omega)
      rw [getElem?_arrange_settled h, getElem?_arrange_settled h'] at hfirst
      obtain ⟨⟨-, hmost⟩, hrest⟩ := isDrawn_cons_iff.1 h
      obtain ⟨-, hrest'⟩ := isDrawn_cons_iff.1 h'
      obtain rfl : j = j' := (List.getElem?_inj hmost hitems).1 hfirst
      have hperm := perm_exchange items settled j
      rw [← hperm.length_eq] at hrest hrest'
      rw [ih (hperm.nodup_iff.2 hitems) hrest hrest' (Nat.succ.inj hlength) fun p hp =>
        heq p (by omega)]

/-- Any items that are not settled can be settled on, in any order. -/
theorem exists_arrange_eq {chosen : List α} (hchosen : chosen.Nodup)
    (hmem : ∀ a ∈ chosen, ∃ j, settled ≤ j ∧ items[j]? = some a) :
    ∃ indexes, indexes.length = chosen.length ∧ IsDrawn items.length settled indexes ∧
      ∀ i < chosen.length, (arrange settled items indexes)[settled + i]? = chosen[i]? := by
  induction chosen generalizing settled items with
  | nil => exact ⟨[], rfl, isDrawn_nil, fun i hi => nomatch hi⟩
  | cons a rest ih =>
    obtain ⟨hnew, hrest⟩ := List.nodup_cons.1 hchosen
    obtain ⟨j, hleast, hj⟩ := hmem a List.mem_cons_self
    have hmost : j < items.length := (List.getElem?_eq_some_iff.1 hj).1
    have hperm := perm_exchange items settled j
    obtain ⟨indexes, hlength, hdrawn, hsettled⟩ :=
      @ih (settled + 1) (exchange items settled j) hrest fun b hb => by
        obtain ⟨m, hm, hb'⟩ := hmem b (List.mem_cons_of_mem _ hb)
        have hne : m ≠ j := by
          rintro rfl
          exact hnew (Option.some.inj (hj.symm.trans hb') ▸ hb)
        -- an item is found where it was, or where the one that is settled on was
        rcases hm.eq_or_lt with rfl | hlt
        · exact ⟨j, by omega, by rw [getElem?_exchange_second (by omega) hmost, hb']⟩
        · exact ⟨m, hlt, by rw [getElem?_exchange_of_ne (by omega) hne, hb']⟩
    rw [hperm.length_eq] at hdrawn
    have hall : IsDrawn items.length settled (j :: indexes) :=
      isDrawn_cons_iff.2 ⟨⟨hleast, hmost⟩, hdrawn⟩
    refine ⟨j :: indexes, congrArg (· + 1) hlength, hall, fun i hi => ?_⟩
    cases i with
    | zero => rw [Nat.add_zero, getElem?_arrange_settled hall, hj, List.getElem?_cons_zero]
    | succ i =>
      rw [List.getElem?_cons_succ, ← hsettled i (Nat.lt_of_succ_lt_succ hi), arrange,
        Nat.add_right_comm, Nat.add_assoc]

/-! ### Positions -/

/-- The positions that are settled on, out of `count`, when these indexes are drawn. -/
def selection (count : Nat) (indexes : List Nat) : List Nat :=
  (arrange 0 (List.range count) indexes).take indexes.length

theorem length_le_of_isDrawn (h : IsDrawn count 0 indexes) : indexes.length ≤ count := by
  by_contra hlt
  obtain ⟨j, hj⟩ : ∃ j, indexes[count]? = some j := ⟨_, List.getElem?_eq_getElem (not_le.1 hlt)⟩
  have hcount := h count j hj
  omega

theorem length_selection (h : IsDrawn count 0 indexes) :
    (selection count indexes).length = indexes.length := by
  rw [selection, List.length_take, (perm_arrange _ _ _).length_eq, List.length_range,
    min_eq_left (length_le_of_isDrawn h)]

/-- The lists of indexes that may be drawn for a sample of `asked` items out of `count`. -/
def drawable (count asked : Nat) : Set (List Nat) :=
  {indexes | indexes.length = asked ∧ IsDrawn count 0 indexes}

/-- The choices of `asked` positions out of `count` in an order, none of them twice. -/
def choices (count asked : Nat) : Set (List Nat) :=
  {chosen | chosen.length = asked ∧ chosen.Nodup ∧ ∀ p ∈ chosen, p < count}

/-- The indexes that may be drawn and the choices of positions tell each other. -/
theorem bijOn_selection (count asked : Nat) :
    Set.BijOn (selection count) (drawable count asked) (choices count asked) := by
  have hlength : (List.range count).length = count := List.length_range
  refine ⟨?mapsTo, ?injOn, ?surjOn⟩
  case mapsTo =>
    rintro indexes ⟨hasked, hdrawn⟩
    have hperm := perm_arrange 0 (List.range count) indexes
    refine ⟨(length_selection hdrawn).trans hasked, ?_, fun p hp => ?_⟩
    · exact (hperm.nodup_iff.2 List.nodup_range).sublist (List.take_sublist _ _)
    · exact List.mem_range.1 (hperm.mem_iff.1 (List.mem_of_mem_take hp))
  case injOn =>
    rintro indexes ⟨hasked, hdrawn⟩ indexes' ⟨hasked', hdrawn'⟩ heq
    have hsame : indexes.length = indexes'.length := hasked.trans hasked'.symm
    rw [← hlength] at hdrawn hdrawn'
    refine eq_of_arrange_eq List.nodup_range hdrawn hdrawn' hsame fun p hp => ?_
    have hat := congrArg (·[p]?) heq
    simp only [selection, ← hsame] at hat
    rwa [List.getElem?_take_of_lt (by omega), List.getElem?_take_of_lt (by omega)] at hat
  case surjOn =>
    rintro chosen ⟨hasked, hnodup, hbelow⟩
    obtain ⟨indexes, hindexes, hdrawn, hsettled⟩ :=
      @exists_arrange_eq _ 0 (List.range count) chosen hnodup fun p hp =>
        ⟨p, Nat.zero_le _, List.getElem?_range (hbelow p hp)⟩
    rw [hlength] at hdrawn
    refine ⟨indexes, ⟨hindexes.trans hasked, hdrawn⟩, List.ext_getElem? fun i => ?_⟩
    by_cases hi : i < chosen.length
    · rw [selection, List.getElem?_take_of_lt (by omega), ← hsettled i hi, Nat.zero_add]
    · rw [List.getElem?_eq_none (by rw [length_selection hdrawn]; omega),
        List.getElem?_eq_none (by omega)]

/-! ### Draws -/

/-- The indexes that the next words stand for. -/
def indexesFrom (count : Nat) : (rounds settled : Nat) → Gen → List Nat
  | 0, _, _ => []
  | rounds + 1, settled, g =>
    (settled + indexOf g.word (count - settled)) :: indexesFrom count rounds (settled + 1) g.advance

theorem length_indexesFrom (count rounds settled : Nat) (g : Gen) :
    (indexesFrom count rounds settled g).length = rounds := by
  induction rounds generalizing settled g with
  | zero => rfl
  | succ rounds ih => rw [indexesFrom, List.length_cons, ih]

theorem isDrawn_indexesFrom {rounds : Nat} (h : settled + rounds ≤ count) (g : Gen) :
    IsDrawn count settled (indexesFrom count rounds settled g) := by
  induction rounds generalizing settled g with
  | zero => exact isDrawn_nil
  | succ rounds ih =>
    have hpos : 0 < count - settled := by omega
    have hindex := indexOf_lt g.word hpos
    exact isDrawn_cons_iff.2 ⟨⟨by omega, by omega⟩, ih (by omega) g.advance⟩

/-- A shuffle takes one word for each position that it settles. -/
theorem run_shuffle (rounds settled : Nat) (items : List α) (g : Gen) :
    (shuffle rounds settled items : Drawing ε (List α)).run g =
      (.ok (arrange settled items (indexesFrom items.length rounds settled g)),
        g.after rounds) := by
  induction rounds generalizing settled items g with
  | zero => rfl
  | succ rounds ih =>
    rw [shuffle, run_bind, run_word]
    dsimp only
    rw [ih, length_exchange, indexesFrom, arrange, Gen.after_succ]

/-- What becomes of the items becomes of their positions. -/
theorem map_some_take_arrange (items : List α) (indexes : List Nat) :
    ((arrange 0 items indexes).take indexes.length).map some =
      (selection items.length indexes).map fun p => items[p]? := by
  have hitems : items.map some = (List.range items.length).map fun p => items[p]? := by
    refine List.ext_getElem (by simp) fun i hi hi' => ?_
    rw [List.length_map] at hi
    simp [hi]
  rw [List.map_take, map_arrange, hitems, ← map_arrange, ← List.map_take, selection]

variable {number : Number} {asked : Nat}

theorem lt_asked_eq (hnumber : number.IsCount asked) (count : Nat) :
    (Number.real count).lt number = decide (count < asked) := by
  rw [Number.lt_eq_of_isFinite rfl hnumber.1, hnumber.2, Number.toRat]
  exact decide_eq_decide.2 Nat.cast_lt

/-- A sample takes one word for each item. -/
theorem run_sample (hnumber : number.IsCount asked) (hasked : asked ≤ items.length) (g : Gen) :
    (sample items number).run g =
      (.ok ((arrange 0 items (indexesFrom items.length asked 0 g)).take asked),
        g.after asked) := by
  rw [sample, lt_asked_eq hnumber, decide_eq_false (not_lt.2 hasked), if_neg Bool.false_ne_true,
    run_bind, run_shuffle, hnumber.steps]
  dsimp only
  rw [cut_eq_take hnumber]
  rfl

/-- A sample of more items than there are is refused. -/
theorem refuses_sample (hnumber : number.IsCount asked) (hasked : items.length < asked) :
    (sample items number).Refuses (.sampleTooLarge number items.length) := fun g => by
  rw [sample, lt_asked_eq hnumber, decide_eq_true hasked, if_pos rfl]
  rfl

/-- Of up to `2 ^ 21` items, a sample of at most all of them takes one word for each item that is
    asked for, and gives the items at the positions that are selected by the indexes drawn; each
    index may be any that is not settled. The lists of indexes and the ordered choices of distinct
    positions tell each other. A sample of more items than there are is refused, and takes no
    word. -/
theorem sample_selects (hnumber : number.IsCount asked)
    (items : List α) (hitems : items.length ≤ 2 ^ 21) (g : Gen) :
    (asked ≤ items.length →
      (∃ chosen,
        (sample items number).run g = (.ok chosen, g.after asked) ∧
        chosen.map some =
          (selection items.length (indexesFrom items.length asked 0 g)).map fun p => items[p]?) ∧
      indexesFrom items.length asked 0 g ∈ drawable items.length asked ∧
      (∀ i j, i ≤ j → j < items.length → ∃ u, i + indexOf u (items.length - i) = j) ∧
      Set.BijOn (selection items.length) (drawable items.length asked)
        (choices items.length asked)) ∧
    (items.length < asked →
      (sample items number).run g = (.error (.sampleTooLarge number items.length), g)) := by
  have hlength := length_indexesFrom items.length asked 0 g
  refine ⟨fun hasked => ⟨⟨_, run_sample hnumber hasked g, ?_⟩, ?_, fun i j hij hj => ?_,
    bijOn_selection _ _⟩, fun hasked => refuses_sample hnumber hasked g⟩
  · have hselected := map_some_take_arrange items (indexesFrom items.length asked 0 g)
    rwa [hlength] at hselected
  · exact ⟨hlength, isDrawn_indexesFrom (by omega) g⟩
  · have hbelow : j - i < items.length - i := by omega
    obtain ⟨u, hu⟩ := exists_indexOf_eq hbelow (by omega)
    exact ⟨u, by omega⟩

/-- Three of five: one index is drawn three times, and any other choice comes of other indexes. -/
theorem sample_selects_five :
    let items := ["a", "b", "c", "d", "e"]
    (Number.real 3).IsCount 3 ∧ items.length ≤ 2 ^ 21 ∧
      (sample items (.real 3)).run (.ofText "again") =
        (.ok ["d", "a", "b"], (Gen.ofText "again").after 3) ∧
      ∃ indexes ∈ drawable 5 3, selection 5 indexes = [4, 2, 0] := by
  intro items
  have hcount : (Number.real 3).IsCount 3 := Number.isCount_real 3
  obtain ⟨⟨chosen, hrun, hchosen⟩, -, -, hbij⟩ :=
    (sample_selects hcount items (by decide) (.ofText "again")).1 (by decide)
  have hpositions : selection 5 (indexesFrom 5 3 0 (.ofText "again")) = [3, 0, 1] := by
    decide +kernel
  have hitems : chosen.map some = ["d", "a", "b"].map some := by
    rw [hchosen]
    exact congrArg (List.map fun p => items[p]?) hpositions
  rw [List.map_injective_iff.2 (Option.some_injective _) hitems] at hrun
  have hother : [4, 2, 0] ∈ choices 5 3 := ⟨rfl, by decide, by decide⟩
  obtain ⟨indexes, hdrawable, hselection⟩ := hbij.surjOn hother
  exact ⟨hcount, by decide, hrun, indexes, hdrawable, hselection⟩

end Drawing

end CorpusForge
