import CorpusForge.Proofs.Selection

/-!
# What a plan foretells

A plan draws the specification of each slot from the slot, its index and the seed, and from nothing
else. So an entry does not depend on how many entries were asked for (`Plan.Foretells`).

* `Plan.exists_repositories`: the entries of a plan, and how many there are;
* `Plan.exists_foretells`: every slot has one entry, in all plans that get that far.
-/

namespace CorpusForge

/-! ### Slots -/

theorem filterMap_getElem?_range {α : Type} (l : List α) (n : Nat) :
    (List.range n).filterMap (fun k => l[k]?) = l.take n := by
  induction n with
  | zero => rfl
  | succ n ih =>
    rw [List.range_succ, List.filterMap_append, ih, List.take_add_one]
    cases h : l[n]? <;> simp [h]

namespace Quota

theorem first_eq (categories : List Category) (limit : Nat) :
    first categories limit = (slots categories).take (min limit (size categories)) := by
  rw [first, ← filterMap_getElem?_range]
  exact congrArg (List.filterMap · _) (funext fun k => slot?_eq categories k)

end Quota

/-! ### Entries -/

namespace Selector

variable {selector : Selector} {seed : String} {slot : Slot} {index : Number}
  {planned planned' : Planned}

/-- The entry is planned for a slot with an index. -/
def Plans (selector : Selector) (seed : String) (slot : Slot) (index : Number)
    (planned : Planned) : Prop :=
  ∃ spec, ((selector.select slot index).run (.ofRepository seed index)).1 = .ok spec ∧
    planned = .ofSpec spec

theorem Plans.unique (h : selector.Plans seed slot index planned)
    (h' : selector.Plans seed slot index planned') : planned = planned' := by
  obtain ⟨spec, hspec, rfl⟩ := h
  obtain ⟨spec', hspec', rfl⟩ := h'
  rw [Except.ok.inj (hspec.symm.trans hspec')]

end Selector

namespace Plan

variable {config : Config} {selector : Selector} {seed : String}

/-- Slots whose specifications can all be drawn have an entry each, for the index that they get when
    counting from the first one on. -/
theorem exists_ofSlots (hselect : ∀ slot id, (selector.select slot id).IsTotal) (index : Number)
    (slots : List Slot) :
    ∃ plan, ofSlots selector seed index slots = .ok plan ∧ plan.length = slots.length ∧
      ∀ k slot, slots[k]? = some slot →
        ∃ planned, plan[k]? = some planned ∧
          selector.Plans seed slot (Number.next^[k] index) planned := by
  induction slots generalizing index with
  | nil => exact ⟨[], rfl, rfl, fun k slot hslot => nomatch hslot⟩
  | cons first rest ih =>
    obtain ⟨spec, g, hspec⟩ := hselect first index (.ofRepository seed index)
    obtain ⟨plan, hplan, hlength, hentries⟩ := ih index.next
    refine ⟨.ofSpec spec :: plan, ?_, congrArg (· + 1) hlength, fun k slot hslot => ?_⟩
    · rw [ofSlots, hspec, hplan]
      rfl
    · cases k with
      | zero =>
        obtain rfl : first = slot := Option.some.inj hslot
        exact ⟨.ofSpec spec, rfl, spec, congrArg Prod.fst hspec, rfl⟩
      | succ k => exact hentries k slot hslot

/-- A plan has as many entries as were asked for, or as there are slots; each is planned for its
    slot and index. -/
theorem exists_repositories (hselector : Selector.ofConfig config = .ok selector)
    (hselect : ∀ slot id, (selector.select slot id).IsTotal) (seed : String) (count : Number) :
    ∃ plan, repositories config seed count = .ok plan ∧
      plan.length =
        min (count.upTo (Quota.size config.categories)) (Quota.size config.categories) ∧
      ∀ k slot, k < plan.length → Quota.slot? config.categories k = some slot →
        ∃ planned, plan[k]? = some planned ∧
          selector.Plans seed slot (Number.next^[k] config.startIndex) planned := by
  obtain ⟨plan, hplan, hlength, hentries⟩ := @exists_ofSlots selector seed hselect
    config.startIndex (Quota.first config.categories (count.upTo (Quota.size config.categories)))
  have hslots : plan.length =
      min (count.upTo (Quota.size config.categories)) (Quota.size config.categories) := by
    rw [hlength, Quota.first_eq, List.length_take, Quota.length_slots, min_assoc, min_self]
  refine ⟨plan, ?_, hslots, fun k slot hk hslot => hentries k slot ?_⟩
  · simp only [repositories, hselector, bind, Except.bind]
    exact hplan
  · rw [Quota.first_eq, List.getElem?_take_of_lt (hslots ▸ hk), ← Quota.slot?_eq, hslot]

/-- The plans of a configuration say what slot `k` is to be, however many entries they have beyond
    it. -/
def Foretells (config : Config) (seed : String) (k : Nat) (planned : Planned) : Prop :=
  ∀ count : Number, (Number.real k).lt count = true →
    ∃ plan, repositories config seed count = .ok plan ∧ plan[k]? = some planned

/-- Every slot has one entry, in all plans that get that far. -/
theorem exists_foretells (hselector : Selector.ofConfig config = .ok selector)
    (hselect : ∀ slot id, (selector.select slot id).IsTotal) {k : Nat} {slot : Slot}
    (hslot : Quota.slot? config.categories k = some slot) :
    ∃ planned, Foretells config seed k planned ∧
      selector.Plans seed slot (Number.next^[k] config.startIndex) planned := by
  have hk : k < Quota.size config.categories := by
    rw [Quota.slot?_eq, List.getElem?_eq_some_iff] at hslot
    rw [← Quota.length_slots]
    exact hslot.1
  have hentry : ∀ count : Number, (Number.real k).lt count = true →
      ∃ plan planned, repositories config seed count = .ok plan ∧ plan[k]? = some planned ∧
        selector.Plans seed slot (Number.next^[k] config.startIndex) planned := by
    intro count hcount
    obtain ⟨plan, hplan, hlength, hentries⟩ := exists_repositories hselector hselect seed count
    have hlt : k < plan.length := by
      rw [hlength]
      exact lt_min (Number.lt_upTo hk hcount) hk
    obtain ⟨planned, hplanned, hplans⟩ := hentries k slot hlt hslot
    exact ⟨plan, planned, hplan, hplanned, hplans⟩
  -- some plan gets that far, and what it says of the slot every other one says too
  obtain ⟨-, planned, -, -, hplans⟩ := hentry (.infinite false) rfl
  refine ⟨planned, fun count hcount => ?_, hplans⟩
  obtain ⟨plan, planned', hplan, hplanned, hplans'⟩ := hentry count hcount
  rw [hplans.unique hplans']
  exact ⟨plan, hplan, hplanned⟩

end Plan

end CorpusForge
