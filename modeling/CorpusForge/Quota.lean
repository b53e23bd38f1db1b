import CorpusForge.Config.Basic

/-!
# The quota of a corpus

The category table is walked in its order, one slot per repository; the templates of a category
take turns.

* `Quota.walk?`: the walk, number by number;
* `Quota.slots`: all slots of a table, in order;
* `Quota.slot?`: a slot by its number, without the list;
* `Quota.total`: the number of repositories that the table asks for.

The walk counts with numbers, which are exact up to `2 ^ 53`, while the list is counted with natural
numbers. The two agree on tables whose counts are not above that, and on any table for the first
`2 ^ 53` slots.
-/

namespace CorpusForge

/-- The place of one repository: the `ordinal`-th one of a category. -/
structure Slot where
  category : String
  /-- A category without templates gives none. -/
  template : Option String
  ordinal : Nat
  deriving DecidableEq, Repr

namespace Category

/-- The slot with the given ordinal. -/
def slot (c : Category) (ordinal : Nat) : Slot :=
  ⟨c.name, c.templates[ordinal % c.templates.length]?, ordinal⟩

/-- The number of slots. -/
def size (c : Category) : Nat := c.count.steps

/-- The slots of a category. -/
def slots (c : Category) : List Slot := (List.range c.size).map c.slot

end Category

namespace Quota

/-- The slots of a table, in order. -/
def slots (categories : List Category) : List Slot := categories.flatMap Category.slots

/-- The number of slots. -/
def size : List Category → Nat
  | [] => 0
  | c :: rest => c.size + size rest

/-- The slot with the given number, counted from zero over the whole table. -/
def slot? : List Category → Nat → Option Slot
  | [], _ => none
  | c :: rest, k => if k < c.size then some (c.slot k) else slot? rest (k - c.size)

/-- The first slots, `limit` of them or as many as there are. -/
def first (categories : List Category) (limit : Nat) : List Slot :=
  (List.range (min limit (size categories))).filterMap (slot? categories)

/-- The number of repositories that a table asks for. -/
def total (categories : List Category) : Number :=
  categories.foldl (fun sum c => sum + c.count) 0

/-- The count announced for a category; of two categories with one name, that of the later. -/
def announced (categories : List Category) (name : String) : Number :=
  ((categories.reverse.find? fun c => c.name == name).map Category.count).getD 0

theorem slot?_eq (categories : List Category) (k : Nat) :
    slot? categories k = (slots categories)[k]? := by
  induction categories generalizing k with
  | nil => rfl
  | cons c rest ih =>
    have hlen : c.slots.length = c.size := by simp [Category.slots]
    by_cases hk : k < c.size
    · simp [slot?, slots, hk, List.getElem?_append_left, Category.slots]
    · have hle : c.slots.length ≤ k := by omega
      simp only [slot?, hk, if_false, slots, List.flatMap_cons,
        List.getElem?_append_right hle, hlen]
      exact ih _

theorem length_slots (categories : List Category) : (slots categories).length = size categories := by
  induction categories with
  | nil => rfl
  | cons c rest ih =>
    have hrest : (rest.flatMap Category.slots).length = size rest := ih
    simp [slots, size, Category.slots, hrest]

end Quota

end CorpusForge
